import Mathlib.Data.List.Nodup
import ManagedSwitch.Proofs.Config.Selection
import ManagedSwitch.Proofs.Table

/-!
# Laws of narrowing

What narrowing leaves of a configuration is said without the functions that do it: `Restricts` asks
for the entries that meet a condition, as they are and in their order.  There is only one such part
of a configuration (`Restricts.unique`), and a part of a part is the part for both conditions
(`Restricts.trans`).  So narrowings can be repeated and exchanged, and only the set of the selectors
counts.  `select?_narrowings` has these laws together.

Without selectors nothing is left out.  This is why only lists that are not empty keep together what
each of them keeps.
-/

namespace ManagedSwitch

section Parts

variable {α : Type}

/-- Sublists of a list with distinct elements are equal if they have the same elements. -/
theorem eq_of_sublist_of_mem_iff
    {whole xs ys : List α}
    (hnodup : whole.Nodup)
    (hxs : xs.Sublist whole)
    (hys : ys.Sublist whole)
    (hmem : ∀ x, x ∈ xs ↔ x ∈ ys) :
    xs = ys := by
  induction hxs generalizing ys with
  | slnil =>
      exact (List.sublist_nil.mp hys).symm
  | cons a hxs ih =>
      obtain ⟨hnew, hnodup⟩ := List.nodup_cons.mp hnodup
      cases hys with
      | cons _ hys =>
          exact ih hnodup hys hmem
      | cons_cons _ _ =>
          exact absurd (hxs.mem ((hmem a).mpr List.mem_cons_self)) hnew
  | cons_cons a hxs ih =>
      obtain ⟨hnew, hnodup⟩ := List.nodup_cons.mp hnodup
      cases hys with
      | cons _ hys =>
          exact absurd (hys.mem ((hmem a).mp List.mem_cons_self)) hnew
      | cons_cons _ hys =>
          refine congrArg (List.cons a) (ih hnodup hys fun x => ?_)
          by_cases hx : x = a
          · subst hx
            exact iff_of_false (fun h => hnew (hxs.mem h)) (fun h => hnew (hys.mem h))
          · simpa [hx] using hmem x

namespace Table

variable {κ : Type}

/-- A table has the entries of another one that meet a condition, in their order. -/
structure Restricts
    (whole : Table κ α)
    (keep : κ × α → Prop)
    (part : Table κ α) :
    Prop where
  sublist : part.entries.Sublist whole.entries
  mem_iff : ∀ e, e ∈ part.entries ↔ e ∈ whole.entries ∧ keep e

variable {whole part : Table κ α} {keep : κ × α → Prop}

/-- Of a table there is one part for each condition. -/
theorem Restricts.unique
    {keep' : κ × α → Prop}
    {part' : Table κ α}
    (h : whole.Restricts keep part)
    (h' : whole.Restricts keep' part')
    (hkeep : ∀ e, keep e ↔ keep' e) :
    part = part' := by
  have hnodup : whole.entries.Nodup := List.Nodup.of_map Prod.fst whole.distinct
  refine entries_inj.mp (eq_of_sublist_of_mem_iff hnodup h.sublist h'.sublist fun e => ?_)
  rw [h.mem_iff, h'.mem_iff, hkeep]

/-- A part of a part meets both conditions. -/
theorem Restricts.trans
    {keep' : κ × α → Prop}
    {part' : Table κ α}
    (h : whole.Restricts keep part)
    (h' : part.Restricts keep' part') :
    whole.Restricts (fun e => keep e ∧ keep' e) part' where
  sublist := h'.sublist.trans h.sublist
  mem_iff e := by
    rw [h'.mem_iff, h.mem_iff, and_assoc]

theorem restricts_filter
    {p : κ → α → Bool}
    (hkeep : ∀ e, p e.1 e.2 = true ↔ keep e) :
    whole.Restricts keep (whole.filter p) where
  sublist := List.filter_sublist
  mem_iff e := by
    rw [filter, List.mem_filter, hkeep]

/-- A table is the part of itself for a condition that always holds. -/
theorem restricts_self
    (hkeep : ∀ e, keep e) :
    whole.Restricts keep whole where
  sublist := List.Sublist.refl _
  mem_iff e := (and_iff_left (hkeep e)).symm

end Table

end Parts

namespace Config

section Definitions

/-- A VLAN is meant by one of the selectors, or there are none. -/
def Meant
    (selectors : List String)
    (v : Int × String) :
    Prop :=
  selectors = [] ∨ ∃ s ∈ selectors, names? v.1 v.2 s = some true

/-- The key of a switch is one of those listed, or there are none. -/
def Listed
    (keys : List String)
    (e : String × Switch) :
    Prop :=
  keys = [] ∨ e.1 ∈ keys

/-- What is left of a configuration: the switches and the VLANs that meet conditions, as they are
and in their order, and all templates. -/
structure Restricts
    (config : Config)
    (keepSwitch : String × Switch → Prop)
    (keepVlan : Int × String → Prop)
    (kept : Config) :
    Prop where
  switches : config.switches.Restricts keepSwitch kept.switches
  vlans : config.vlans.Restricts keepVlan kept.vlans
  templates : kept.templates = config.templates

/-- What holds of a configuration narrowed by some selectors and narrowed by others. -/
structure Narrowings
    (config : Config)
    (switches₁ vlans₁ : List String)
    (kept₁ : Config)
    (switches₂ vlans₂ : List String)
    (kept₂ : Config) :
    Prop where
  restricts : config.Restricts (Listed switches₁) (Meant vlans₁) kept₁
  /-- The order of the selectors and their repetition make no difference. -/
  same_selectors :
    ∀ switches vlans, (∀ s, s ∈ switches ↔ s ∈ switches₁) → (∀ s, s ∈ vlans ↔ s ∈ vlans₁) →
      config.select? switches vlans = some kept₁
  /-- Narrowing by the same selectors again changes nothing. -/
  again : kept₁.select? switches₁ vlans₁ = some kept₁
  /-- The order of two narrowings makes no difference. -/
  exchange :
    ∃ both, kept₁.select? switches₂ vlans₂ = some both ∧ kept₂.select? switches₁ vlans₁ = some both
  /-- Selectors keep together what they keep separately. -/
  together :
    vlans₁ ≠ [] → vlans₂ ≠ [] → ∀ switches, ∃ joined,
      config.select? switches (vlans₁ ++ vlans₂) = some joined ∧
        ∀ v, v ∈ joined.vlans.entries ↔ v ∈ kept₁.vlans.entries ∨ v ∈ kept₂.vlans.entries

end Definitions

section Selectors

/-- Selectors that are the same mean the same VLANs. -/
theorem meant_congr
    {selectors selectors' : List String}
    (h : ∀ s, s ∈ selectors ↔ s ∈ selectors')
    (v : Int × String) :
    Meant selectors v ↔ Meant selectors' v := by
  simp only [Meant, List.eq_nil_iff_forall_not_mem, h]

theorem listed_congr
    {keys keys' : List String}
    (h : ∀ s, s ∈ keys ↔ s ∈ keys')
    (e : String × Switch) :
    Listed keys e ↔ Listed keys' e := by
  simp only [Listed, List.eq_nil_iff_forall_not_mem, h]

/-- Selectors of two lists, neither of them empty, mean what those of either list mean. -/
theorem meant_append
    {selectors selectors' : List String}
    (hne : selectors ≠ [])
    (hne' : selectors' ≠ [])
    (v : Int × String) :
    Meant (selectors ++ selectors') v ↔ Meant selectors v ∨ Meant selectors' v := by
  simp only [Meant, List.append_eq_nil_iff, hne, hne', false_and, false_or, List.mem_append,
    or_and_right, exists_or]

theorem selects_iff_meant
    {selectors : List String}
    (hshort : ∀ s ∈ selectors, ShortSelector s)
    (v : Int × String) :
    selects selectors v = true ↔ Meant selectors v := by
  rw [selects, Meant, Bool.or_eq_true, List.isEmpty_iff, List.any_eq_true]
  refine or_congr_right (exists_congr fun s => and_congr_right fun hs => ?_)
  rw [names?_eq (hshort s hs), Option.some.injEq]

end Selectors

section Restriction

variable {config kept : Config}
variable {keepSwitch keepSwitch' : String × Switch → Prop}
variable {keepVlan keepVlan' : Int × String → Prop}

/-- What is left is determined by the conditions. -/
theorem Restricts.unique
    {kept' : Config}
    (h : config.Restricts keepSwitch keepVlan kept)
    (h' : config.Restricts keepSwitch' keepVlan' kept')
    (hswitch : ∀ e, keepSwitch e ↔ keepSwitch' e)
    (hvlan : ∀ v, keepVlan v ↔ keepVlan' v) :
    kept = kept' := by
  have hvlans := h.vlans.unique h'.vlans hvlan
  have htemplates := h.templates.trans h'.templates.symm
  have hswitches := h.switches.unique h'.switches hswitch
  cases kept
  cases kept'
  simp only at hvlans htemplates hswitches
  rw [hvlans, htemplates, hswitches]

/-- What is left of what was left meets both conditions. -/
theorem Restricts.trans
    {kept' : Config}
    (h : config.Restricts keepSwitch keepVlan kept)
    (h' : kept.Restricts keepSwitch' keepVlan' kept') :
    config.Restricts (fun e => keepSwitch e ∧ keepSwitch' e) (fun v => keepVlan v ∧ keepVlan' v)
      kept' where
  switches := h.switches.trans h'.switches
  vlans := h.vlans.trans h'.vlans
  templates := h'.templates.trans h.templates

end Restriction

section Narrowing

variable {vlans : List String}

/-- Selectors, none of which is too long, leave what they select. -/
theorem exists_restricts
    (config : Config)
    (switches : List String)
    (hshort : ∀ s ∈ vlans, ShortSelector s) :
    ∃ kept, config.select? switches vlans = some kept ∧
      config.Restricts (Listed switches) (Meant vlans) kept := by
  refine ⟨_, config.select?_eq switches hshort, ?_, ?_, rfl⟩
  · simp only [narrowed, selectSwitches]
    split
    · next hempty =>
        exact Table.restricts_self fun _ => Or.inl (List.isEmpty_iff.mp hempty)
    · next hempty =>
        rw [List.isEmpty_iff] at hempty
        refine Table.restricts_filter fun e => ?_
        rw [List.contains_iff_mem, Listed, or_iff_right hempty]
  · exact Table.restricts_filter (p := fun id name => selects vlans (id, name))
      fun v => selects_iff_meant hshort v

/-- Narrowing twice comes to the same in both orders, and a second narrowing by the same selectors
changes nothing; the VLANs that two lists of selectors keep together are those that one of them
keeps. -/
theorem select?_narrowings
    (config : Config)
    (switches₁ switches₂ : List String)
    {vlans₁ vlans₂ : List String}
    (hshort₁ : ∀ s ∈ vlans₁, ShortSelector s)
    (hshort₂ : ∀ s ∈ vlans₂, ShortSelector s) :
    ∃ kept₁ kept₂,
      config.select? switches₁ vlans₁ = some kept₁ ∧
      config.select? switches₂ vlans₂ = some kept₂ ∧
      config.Narrowings switches₁ vlans₁ kept₁ switches₂ vlans₂ kept₂ := by
  obtain ⟨kept₁, hkept₁, hrestricts₁⟩ := config.exists_restricts switches₁ hshort₁
  obtain ⟨kept₂, hkept₂, hrestricts₂⟩ := config.exists_restricts switches₂ hshort₂
  refine ⟨kept₁, kept₂, hkept₁, hkept₂, ?_⟩
  constructor
  case restricts =>
    exact hrestricts₁
  case same_selectors =>
    intro switches vlans hswitches hvlans
    have hshort : ∀ s ∈ vlans, ShortSelector s :=
      fun s hs => hshort₁ s ((hvlans s).mp hs)
    obtain ⟨kept, hkept, hrestricts⟩ := config.exists_restricts switches hshort
    rw [hkept, hrestricts.unique hrestricts₁ (listed_congr hswitches) (meant_congr hvlans)]
  case again =>
    obtain ⟨kept, hkept, hrestricts⟩ := kept₁.exists_restricts switches₁ hshort₁
    rw [hkept, (hrestricts₁.trans hrestricts).unique hrestricts₁ (fun _ => and_self_iff)
      fun _ => and_self_iff]
  case exchange =>
    obtain ⟨both, hboth, hrestricts⟩ := kept₁.exists_restricts switches₂ hshort₂
    obtain ⟨both', hboth', hrestricts'⟩ := kept₂.exists_restricts switches₁ hshort₁
    have hsame : both = both' :=
      (hrestricts₁.trans hrestricts).unique (hrestricts₂.trans hrestricts') (fun _ => and_comm)
        fun _ => and_comm
    exact ⟨both, hboth, hsame ▸ hboth'⟩
  case together =>
    intro hne₁ hne₂ switches
    have hshort : ∀ s ∈ vlans₁ ++ vlans₂, ShortSelector s :=
      List.forall_mem_append.mpr ⟨hshort₁, hshort₂⟩
    obtain ⟨joined, hjoined, hrestricts⟩ := config.exists_restricts switches hshort
    refine ⟨joined, hjoined, fun v => ?_⟩
    rw [hrestricts.vlans.mem_iff, hrestricts₁.vlans.mem_iff, hrestricts₂.vlans.mem_iff,
      meant_append hne₁ hne₂, and_or_left]

/-- A configuration in which the name of one VLAN is the number of another. -/
def crossedConfig : Config where
  vlans := ⟨[(30, "Voice"), (10, "30"), (20, "data")], by simp⟩
  templates := ⟨[("access", ⟨[(10, "pvid")], by simp⟩)], by simp⟩
  switches :=
    ⟨[("b", ⟨"b", "B", "10.0.0.2", none, [⟨"1", "access"⟩]⟩),
      ("a", ⟨"a", "A", "10.0.0.1", none, []⟩)], by simp⟩

theorem select?_narrowings_crossedConfig :
    (∀ s ∈ [" 30 ", "VOICE"], ShortSelector s) ∧ (∀ s ∈ ["voice"], ShortSelector s) ∧
      ∃ kept₁ kept₂,
        crossedConfig.select? ["a", "c"] [" 30 ", "VOICE"] = some kept₁ ∧
        crossedConfig.select? [] ["voice"] = some kept₂ ∧
        crossedConfig.Narrowings ["a", "c"] [" 30 ", "VOICE"] kept₁ [] ["voice"] kept₂ := by
  have hshort₁ : ∀ s ∈ [" 30 ", "VOICE"], ShortSelector s := by
    rw [List.forall_mem_cons, List.forall_mem_singleton]
    exact ⟨fun _ => by decide +kernel, fun _ => by decide +kernel⟩
  have hshort₂ : ∀ s ∈ ["voice"], ShortSelector s := by
    rw [List.forall_mem_singleton]
    exact fun _ => by decide +kernel
  exact ⟨hshort₁, hshort₂, crossedConfig.select?_narrowings ["a", "c"] [] hshort₁ hshort₂⟩

end Narrowing

end Config
end ManagedSwitch
