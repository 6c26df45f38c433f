import Mathlib.Data.Fintype.EquivFin
import ManagedSwitch.Proofs.Vlan.Saying

/-!
# Ports without a template

A port whose template does not exist is compiled and viewed as if its template were there and marked
no VLAN.  `supplied` makes such a configuration: it has a further template, which is empty, and the
ports without a template follow it.  `compile_supplied` compares the two.  Their batches and views
are the same, and the difference is in what is reported: every port without a template once, in the
order of the switches and of their ports, and after supplying the template nothing.
-/

namespace ManagedSwitch
namespace Config

section Definitions

/-- The port as it is if its template exists, and otherwise following the given template. -/
def suppliedPort
    (config : Config)
    (fresh : String)
    (port : Port) :
    Port :=
  if config.templates.contains port.template then port else { port with template := fresh }

def suppliedSwitch
    (config : Config)
    (fresh : String)
    (switch : Switch) :
    Switch :=
  { switch with ports := switch.ports.map (config.suppliedPort fresh) }

/-- The configuration with a further template, which marks no VLAN; the ports without a template
follow it. -/
def supplied
    (config : Config)
    (fresh : String) :
    Config where
  vlans := config.vlans
  templates := config.templates.put fresh Table.empty
  switches := config.switches.mapValues (config.suppliedSwitch fresh)

/-- All ports with their switches, in the order of the switches and of the ports of each. -/
def placedPorts (config : Config) : List (Switch × Port) :=
  config.switches.values.flatMap fun s => s.ports.map fun p => (s, p)

/-- What is reported about a port without a template. -/
def reportOf (p : Switch × Port) : Unresolved :=
  ⟨p.1.key, p.2.name, p.2.template⟩

/-- A missing template has the effect of an empty one, and is reported. -/
structure Supplies
    (config : Config)
    (fresh : String)
    (credentials : Credentials) :
    Prop where
  batches :
    ((config.supplied fresh).compile credentials).batches = (config.compile credentials).batches
  view : (config.supplied fresh).view = config.view
  /-- After supplying the template there is nothing to report. -/
  silent : ((config.supplied fresh).compile credentials).unresolved = []
  /-- Before, every port without a template is reported once and in its place. -/
  reported :
    (config.compile credentials).unresolved =
      (config.placedPorts.filter fun p => p.2.template ∉ config.templates.keys).map reportOf
  /-- A port with a template is not reported, whatever the template marks. -/
  unreported :
    ∀ p ∈ config.placedPorts, p.2.template ∈ config.templates.keys →
      reportOf p ∉ (config.compile credentials).unresolved

end Definitions

section Ports

variable (config : Config) {fresh : String}

/-- A template exists exactly if its name is a key. -/
theorem isNone_get?_iff
    (name : String) :
    (config.templates.get? name).isNone ↔ name ∉ config.templates.keys := by
  rw [← Table.contains_iff, Table.contains_eq_isSome_get?, Bool.not_eq_true,
    Option.isSome_eq_false_iff]

/-- The words for a port stay the same: a template that marks nothing has no more words than one
that does not exist. -/
theorem word?_suppliedPort
    (hfresh : fresh ∉ config.templates.keys)
    (port : Port) :
    (config.supplied fresh).word? (config.suppliedPort fresh port) = config.word? port := by
  funext id
  simp only [word?, supplied, suppliedPort, Table.get?_put]
  split
  · next hknown =>
      have hne : port.template ≠ fresh := by
        rintro rfl
        exact hfresh (Table.contains_iff.mp hknown)
      rw [if_neg hne]
  · next hunknown =>
      rw [if_pos rfl, Option.bind_some]
      rw [Table.contains_eq_isSome_get?, Option.not_isSome_iff_eq_none] at hunknown
      rw [hunknown]
      rfl

/-- Every port has a template after supplying it. -/
theorem isSome_get?_suppliedPort
    (port : Port) :
    ((config.supplied fresh).templates.get? (config.suppliedPort fresh port).template).isSome := by
  simp only [supplied, suppliedPort, Table.get?_put]
  split
  · next hknown =>
      rw [Table.contains_eq_isSome_get?] at hknown
      split
      · rfl
      · exact hknown
  · rw [if_pos rfl]
    rfl

end Ports

section Switches

variable (config : Config) {fresh : String}

/-- The same is said about the ports of each switch. -/
theorem alike_supplied
    (hfresh : fresh ∉ config.templates.keys)
    (s : Switch) :
    Alike config (config.supplied fresh) s (config.suppliedSwitch fresh s) where
  key := rfl
  name := rfl
  address := rfl
  auth := rfl
  saying := by
    rw [saying, saying, suppliedSwitch, List.map_map]
    refine List.map_congr_left fun port _ => ?_
    rw [Function.comp_apply, config.word?_suppliedPort hfresh, suppliedPort]
    split <;> rfl

theorem forall₂_alike_supplied
    (hfresh : fresh ∉ config.templates.keys) :
    List.Forall₂ (Alike config (config.supplied fresh)) config.switches.values
      (config.supplied fresh).switches.values := by
  rw [supplied, Table.values_mapValues, List.forall₂_map_right_iff, List.forall₂_same]
  exact fun s _ => config.alike_supplied hfresh s

/-- No port of a switch is reported after supplying the template. -/
theorem unresolved_suppliedSwitch
    (s : Switch) :
    (config.supplied fresh).unresolved (config.suppliedSwitch fresh s) = [] := by
  rw [unresolved, List.map_eq_nil_iff, List.filter_eq_nil_iff]
  intro p hp
  obtain ⟨port, -, rfl⟩ := List.mem_map.mp hp
  rw [Option.isNone_iff_eq_none, ← Option.not_isSome_iff_eq_none, not_not]
  exact config.isSome_get?_suppliedPort port

/-- What is reported about a switch, port by port. -/
theorem unresolved_eq
    (s : Switch) :
    config.unresolved s =
      ((s.ports.map fun p => (s, p)).filter fun p =>
        p.2.template ∉ config.templates.keys).map reportOf := by
  rw [unresolved, List.filter_map, List.map_map]
  refine congrArg (List.map _) (List.filter_congr fun p _ => ?_)
  rw [Bool.eq_iff_iff, config.isNone_get?_iff, Function.comp_apply, decide_eq_true_eq]

end Switches

section Configurations

variable (config : Config)

/-- There is always a name that no template has. -/
theorem exists_fresh :
    ∃ name, name ∉ config.templates.keys := by
  have : Infinite String := Infinite.of_injective Number.natText Number.natText_injective
  obtain ⟨name, hname⟩ := Infinite.exists_notMem_finset config.templates.keys.toFinset
  exact ⟨name, fun hmem => hname (List.mem_toFinset.mpr hmem)⟩

theorem compile_unresolved
    (credentials : Credentials) :
    (config.compile credentials).unresolved =
      (config.placedPorts.filter fun p => p.2.template ∉ config.templates.keys).map reportOf := by
  rw [compile, placedPorts, List.filter_flatMap, List.map_flatMap]
  exact congrArg (List.flatMap · _) (funext config.unresolved_eq)

/-- A configuration has the same batches and the same view if its ports without a template follow a
further template that marks no VLAN.  Then nothing is reported, whereas the configuration itself
reports exactly these ports, each of them once and in their order. -/
theorem compile_supplied
    (config : Config) :
    (∃ fresh, fresh ∉ config.templates.keys) ∧
      ∀ fresh, fresh ∉ config.templates.keys →
        ∀ credentials, config.Supplies fresh credentials := by
  refine ⟨config.exists_fresh, fun fresh hfresh credentials => ?_⟩
  have hvlans : (config.supplied fresh).vlans = config.vlans := rfl
  have halike := config.forall₂_alike_supplied hfresh
  constructor
  case batches =>
    exact batches_eq_of_alike hvlans halike credentials
  case view =>
    exact view_eq_of_alike hvlans halike
  case silent =>
    rw [compile, List.flatMap_eq_nil_iff]
    intro t ht
    rw [supplied, Table.values_mapValues] at ht
    obtain ⟨s, -, rfl⟩ := List.mem_map.mp ht
    exact config.unresolved_suppliedSwitch s
  case reported =>
    exact config.compile_unresolved credentials
  case unreported =>
    intro p _ hknown hmem
    rw [compile_unresolved] at hmem
    obtain ⟨q, hq, hsame⟩ := List.mem_map.mp hmem
    have htemplate : q.2.template = p.2.template := congrArg Unresolved.template hsame
    refine of_decide_eq_true (List.mem_filter.mp hq).2 ?_
    rw [htemplate]
    exact hknown

/-- A configuration with a template that marks nothing and with two ports without a template. -/
def partlyTemplated : Config where
  vlans := ⟨[(10, "data"), (20, "voice")], by simp⟩
  templates :=
    ⟨[("desk", ⟨[(20, "tagged"), (10, "pvid")], by simp⟩), ("off", Table.empty)], by simp⟩
  switches :=
    ⟨[("b", ⟨"b", "B", "10.0.0.2", none, [⟨"1", "dest"⟩, ⟨"2", "desk"⟩, ⟨"3", "off"⟩]⟩),
      ("a", ⟨"a", "A", "10.0.0.1", none, [⟨"1", "dest"⟩]⟩)], by simp⟩

theorem compile_supplied_partlyTemplated :
    "spare" ∉ partlyTemplated.templates.keys ∧
      partlyTemplated.Supplies "spare" (Table.ofList [("a", "admin=0")]) := by
  have hfresh : "spare" ∉ partlyTemplated.templates.keys := by
    decide
  exact ⟨hfresh, (compile_supplied partlyTemplated).2 "spare" hfresh _⟩

/-- The two ports are reported in the order of their switches. -/
example :
    (partlyTemplated.compile Table.empty).unresolved =
      [⟨"b", "1", "dest"⟩, ⟨"a", "1", "dest"⟩] := by
  decide

end Configurations

end Config
end ManagedSwitch
