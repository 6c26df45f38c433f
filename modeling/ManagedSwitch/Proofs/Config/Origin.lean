import ManagedSwitch.Proofs.Config.Retention
import ManagedSwitch.Proofs.Config.Selection

/-!
# Where the parts of a configuration come from

Every switch of a configuration comes from one entry of the document, the last one with its key.
Together with the order of the VLANs and the distinct keys this is what a configuration keeps to
beside being well-formed (`Admitted`), and narrowing it changes nothing in that.
-/

namespace ManagedSwitch
namespace Config

section Definitions

/-- The switch is what the entry gives, and no later entry of the document has its key. -/
structure Origin
    (d : Document)
    (s : Switch)
    (e : Document × Document) :
    Prop where
  last :
    ∃ before after, d.part "switches" = before ++ e :: after ∧ ∀ e' ∈ after, ¬Names e'.1 s.key
  named : Names e.1 s.key
  given : IsSwitch e.2 s

/-- What a configuration from a document keeps to: it is well-formed, its VLANs have distinct
numbers and the order of the document, and its switches have distinct keys and come from the
document. -/
structure Admitted
    (d : Document)
    (config : Config) :
    Prop extends WellFormed config where
  numbered : config.vlans.keys.Nodup
  ordered : ∃ es, es.Sublist (d.part "vlans") ∧ List.Forall₂ IsVlan es config.vlans.entries
  named : (config.switches.values.map Switch.key).Nodup
  originating : ∀ s ∈ config.switches.values, ∃ e, Origin d s e

end Definitions

section Origins

variable {d : Document}
variable {s : Switch}
variable {e : Document × Document}

/-- The ports of a switch are those of its entry in order. -/
theorem Origin.ports
    (h : Origin d s e) :
    ∃ items, Document.field? e.2.entries "ports" = some (.list items) ∧
      List.Forall₂ IsPort items s.ports := by
  obtain ⟨es, items, hes, hitems, hports, -⟩ := h.given
  rw [hes]
  exact ⟨items, hitems, hports⟩

/-- A switch has authentication exactly if its entry has. -/
theorem Origin.auth_eq_none_iff
    (h : Origin d s e) :
    s.auth = none ↔ Document.field? e.2.entries "auth" = none := by
  obtain ⟨es, items, hes, -, -, -, -, hmay⟩ := h.given
  rw [hes, Document.entries]
  rcases hmay with ⟨hfield, hauth⟩ | ⟨value, auth, hfield, hauth, -⟩
  · exact iff_of_true hauth hfield
  · rw [hfield, hauth]
    exact iff_of_false (Option.some_ne_none auth) (Option.some_ne_none value)

/-- A key gives one name only. -/
theorem Names.unique
    {key : Document}
    {name name' : String}
    (h : Names key name)
    (h' : Names key name') :
    name = name' :=
  Option.some.inj (h.2.symm.trans h'.2)

/-- What gives a list gives its parts. -/
theorem exists_of_forall₂_append
    {α β : Type}
    {R : α → β → Prop}
    {as : List α}
    {bs bs' : List β}
    {b : β}
    (h : List.Forall₂ R as (bs ++ b :: bs')) :
    ∃ before a after, as = before ++ a :: after ∧ R a b ∧ List.Forall₂ R after bs' := by
  induction bs generalizing as with
  | nil =>
      obtain ⟨a, as, hab, has, rfl⟩ := List.forall₂_cons_right_iff.mp h
      exact ⟨[], a, as, rfl, hab, has⟩
  | cons _ bs ih =>
      obtain ⟨a, as, -, has, rfl⟩ := List.forall₂_cons_right_iff.mp h
      obtain ⟨before, a', after, rfl, hab, hafter⟩ := ih has
      exact ⟨a :: before, a', after, rfl, hab, hafter⟩

/-- What gives a value that is the last with its key is the last to give this key. -/
theorem exists_of_isLast
    {es : Entries}
    {ss : List (String × Switch)}
    (h : List.Forall₂ IsKeyedSwitch es ss)
    {p : String × Switch}
    (hlast : Table.IsLast ss p) :
    ∃ before e after, es = before ++ e :: after ∧ IsKeyedSwitch e p ∧
      ∀ e' ∈ after, ¬Names e'.1 p.1 := by
  obtain ⟨ps, qs, rfl, hkey⟩ := hlast
  obtain ⟨before, e, after, rfl, hep, hafter⟩ := exists_of_forall₂_append h
  refine ⟨before, e, after, rfl, hep, fun e' he' hname => hkey ?_⟩
  obtain ⟨q, hq, hgiven⟩ := exists_of_mem_right hafter.flip he'
  rw [hname.unique hgiven.1]
  exact List.mem_map_of_mem hq

/-- A switch that is described comes from the document. -/
theorem Describes.exists_origin
    {config : Config}
    (h : Describes d config)
    (hs : s ∈ config.switches.values) :
    ∃ e, Origin d s e := by
  obtain ⟨p, hp, rfl⟩ := List.mem_map.mp hs
  obtain ⟨ss, hss, -, hlast⟩ := h.gathers.switches
  obtain ⟨before, e, after, hes, ⟨hname, hkey, hgiven⟩, hafter⟩ := exists_of_isLast hss (hlast p hp)
  rw [← hkey] at hname hafter
  exact ⟨e, ⟨before, after, hes, hafter⟩, hname, hgiven⟩

end Origins

section Narrowing

variable {d : Document}
variable {config : Config}

/-- What gives a part of a list in order is a part of what gives the list. -/
theorem exists_sublist_of_forall₂
    {α β : Type}
    {R : α → β → Prop}
    {as : List α}
    {bs bs' : List β}
    (h : List.Forall₂ R as bs)
    (hsub : bs'.Sublist bs) :
    ∃ as', as'.Sublist as ∧ List.Forall₂ R as' bs' := by
  induction hsub generalizing as with
  | slnil =>
      exact ⟨[], List.nil_sublist as, .nil⟩
  | cons b _ ih =>
      obtain ⟨a, as, hab, has, rfl⟩ := List.forall₂_cons_right_iff.mp h
      obtain ⟨as', hsub, has'⟩ := ih has
      exact ⟨as', hsub.cons a, has'⟩
  | cons_cons b _ ih =>
      obtain ⟨a, as, hab, has, rfl⟩ := List.forall₂_cons_right_iff.mp h
      obtain ⟨as', hsub, has'⟩ := ih has
      exact ⟨a :: as', hsub.cons_cons a, .cons hab has'⟩

/-- What is described is admitted. -/
theorem Describes.admitted
    (h : Describes d config) :
    Admitted d config := by
  refine ⟨h.wellFormed, config.vlans.distinct, ⟨_, List.Sublist.refl _, h.gathers.vlans⟩, ?_,
    fun s hs => h.exists_origin hs⟩
  rw [h.wellFormed.map_key]
  exact config.switches.distinct

/-- Narrowing keeps what is admitted. -/
theorem Admitted.select
    {kept : Config}
    {switches vlans : List String}
    (h : Admitted d config)
    (hselect : config.select? switches vlans = some kept) :
    Admitted d kept := by
  obtain ⟨hvlans, -, hswitches⟩ := sublist_select? hselect
  have hvalues : kept.switches.values.Sublist config.switches.values := hswitches.map Prod.snd
  obtain ⟨es, hsub, hes⟩ := h.ordered
  obtain ⟨es', hsub', hes'⟩ := exists_sublist_of_forall₂ hes hvlans
  refine ⟨h.toWellFormed.select hselect, kept.vlans.distinct, ⟨es', hsub'.trans hsub, hes'⟩, ?_, ?_⟩
  · exact h.named.sublist (hvalues.map Switch.key)
  · exact fun s hs => h.originating s (hvalues.mem hs)

end Narrowing

end Config
end ManagedSwitch
