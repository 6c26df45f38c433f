import ManagedSwitch.Proofs.Config.Grammar

/-!
# Well-formed configurations

Every configuration that is read from a document is well-formed.  The parts behind the reader rely
on this without checking it.
-/

namespace ManagedSwitch
namespace Config

section Definition

/-- What every configuration from a document keeps to. -/
structure WellFormed (config : Config) : Prop where
  positive : ∀ id ∈ config.vlans.keys, 0 < id
  marked :
    ∀ t ∈ config.templates.entries, ∀ m ∈ t.2.entries, 0 < m.1 ∧ (m.2 = "pvid" ∨ m.2 = "tagged")
  keyed : ∀ s ∈ config.switches.entries, s.2.key = s.1
  supported : ∀ s ∈ config.switches.entries, ∀ auth ∈ s.2.auth, auth.type = supportedAuth

end Definition

section Keys

variable {config : Config}

/-- The keys of the switches themselves are those of their table. -/
theorem WellFormed.map_key
    (h : config.WellFormed) :
    config.switches.values.map Switch.key = config.switches.keys := by
  rw [Table.values, Table.keys, List.map_map]
  exact List.map_congr_left fun e he => h.keyed e he

theorem WellFormed.nodup_map_key
    (h : config.WellFormed) :
    (config.switches.values.map Switch.key).Nodup := by
  rw [h.map_key]
  exact config.switches.distinct

theorem WellFormed.get?_key
    (h : config.WellFormed)
    {s : Switch}
    (hs : s ∈ config.switches.values) :
    config.switches.get? s.key = some s := by
  obtain ⟨e, he, rfl⟩ := List.mem_map.mp hs
  refine Table.get?_eq_some_of_mem ?_
  rw [h.keyed e he]
  exact he

end Keys

section Reading

/-- A value that is read comes from somewhere. -/
theorem exists_of_mem_right
    {α β : Type}
    {R : α → β → Prop}
    {as : List α}
    {bs : List β}
    (h : List.Forall₂ R as bs)
    {b : β}
    (hb : b ∈ bs) :
    ∃ a ∈ as, R a b := by
  induction h with
  | nil =>
      exact absurd hb List.not_mem_nil
  | cons hab _ ih =>
      rcases List.mem_cons.mp hb with rfl | hb
      · exact ⟨_, List.mem_cons_self, hab⟩
      · obtain ⟨a, ha, hR⟩ := ih hb
        exact ⟨a, List.mem_cons_of_mem _ ha, hR⟩

theorem Describes.wellFormed
    {d : Document}
    {config : Config}
    (h : Describes d config) :
    config.WellFormed := by
  obtain ⟨root, vlans, templates, switches, -, ⟨-, hvs⟩, ⟨-, ts, hts, htemplates⟩, -, ss, hss,
    hswitches⟩ := h
  have hswitch : ∀ s ∈ config.switches.entries, ∃ e, IsKeyedSwitch e s := by
    intro s hs
    rw [hswitches] at hs
    obtain ⟨e, -, he⟩ := exists_of_mem_right hss (Table.mem_entries_ofList hs)
    exact ⟨e, he⟩
  constructor
  case positive =>
    intro id hid
    obtain ⟨v, hv, rfl⟩ := List.mem_map.mp hid
    obtain ⟨e, -, ⟨-, -, hpos⟩, -⟩ := exists_of_mem_right hvs hv
    exact hpos
  case marked =>
    intro t ht m hm
    rw [htemplates] at ht
    obtain ⟨e, -, -, es, ms, -, hms, hentries⟩ :=
      exists_of_mem_right hts (Table.mem_entries_ofList ht)
    rw [hentries] at hm
    obtain ⟨f, -, ⟨-, -, hpos⟩, -, hword⟩ := exists_of_mem_right hms (Table.mem_entries_ofList hm)
    exact ⟨hpos, hword⟩
  case keyed =>
    intro s hs
    obtain ⟨e, -, hkey, -⟩ := hswitch s hs
    exact hkey
  case supported =>
    intro s hs auth hauth
    obtain ⟨e, -, -, es, items, -, -, -, -, -, hmay⟩ := hswitch s hs
    rcases hmay with ⟨-, hnone⟩ | ⟨d, a, -, hsome, es', -, -, htype, -⟩
    · rw [hnone] at hauth
      exact nomatch hauth
    · rw [hsome] at hauth
      cases hauth
      exact htype

/-- Every configuration that is read is well-formed. -/
theorem wellFormed_of_read
    {d : Document}
    {config : Config}
    (hread : read d = .ok config) :
    config.WellFormed :=
  (read_eq_ok_iff.mp hread).wellFormed

end Reading

end Config
end ManagedSwitch
