import ManagedSwitch.Config.Selection
import ManagedSwitch.Proofs.Config.WellFormed
import ManagedSwitch.Proofs.Number.Scripts

/-!
# Narrowing a configuration

A selection always gives an answer unless a selector is a number with too many digits.  What is left
are entries of the configuration as they were, so that a well-formed configuration stays so.
-/

namespace ManagedSwitch
namespace Config

section Answers

/-- If the selector is a number, it has not too many digits. -/
def ShortSelector (selector : String) : Prop :=
  Text.isDecimal (Text.strip selector) → (Text.strip selector).length ≤ Number.digitLimit

/-- Whether a selector means a VLAN: its digits are the number of the VLAN, or the selector is the
name in letters of either case. -/
def means
    (selector : String)
    (v : Int × String) :
    Bool :=
  let word := Text.strip selector
  (Text.isDecimal word && Number.read? word == some v.1) || Text.lower v.2 == Text.lower word

/-- Whether selectors mean a VLAN; if there are none, every VLAN is meant. -/
def selects
    (selectors : List String)
    (v : Int × String) :
    Bool :=
  selectors.isEmpty || selectors.any fun s => means s v

theorem names?_eq
    {selector : String}
    (hshort : ShortSelector selector)
    (id : Int)
    (name : String) :
    names? id name selector = some (means selector (id, name)) := by
  simp only [names?, means]
  by_cases hdecimal : Text.isDecimal (Text.strip selector)
  · obtain ⟨n, hn⟩ := Option.isSome_iff_exists.mp (Number.read?_isSome hdecimal (hshort hdecimal))
    simp [hdecimal, hn]
  · simp [hdecimal]

theorem anyNames?_eq
    {selectors : List String}
    (hshort : ∀ s ∈ selectors, ShortSelector s)
    (id : Int)
    (name : String) :
    anyNames? id name selectors = some (selectors.any fun s => means s (id, name)) := by
  induction selectors with
  | nil =>
      rfl
  | cons selector selectors ih =>
      rw [List.forall_mem_cons] at hshort
      rw [anyNames?, names?_eq hshort.1, List.any_cons]
      cases means selector (id, name) with
      | true =>
          rfl
      | false =>
          exact ih hshort.2

/-- The VLANs that selectors mean, in their order. -/
theorem selectVlans?_eq
    {selectors : List String}
    (hshort : ∀ s ∈ selectors, ShortSelector s)
    (vlans : Table Int String) :
    selectVlans? selectors vlans =
      some (vlans.filter fun id name => selects selectors (id, name)) := by
  simp only [selectVlans?, anyNames?_eq hshort, selects]
  cases selectors with
  | nil =>
      simp [Table.filter]
  | cons selector selectors =>
      simp

/-- The configuration with the switches and the VLANs that are selected. -/
def narrowed
    (config : Config)
    (switches vlans : List String) :
    Config :=
  ⟨config.vlans.filter fun id name => selects vlans (id, name), config.templates,
    selectSwitches switches config.switches⟩

theorem select?_eq
    (config : Config)
    (switches : List String)
    {vlans : List String}
    (hshort : ∀ s ∈ vlans, ShortSelector s) :
    config.select? switches vlans = some (config.narrowed switches vlans) := by
  rw [select?, selectVlans?_eq hshort]
  rfl

/-- Without a number that is too long there is always a selection. -/
theorem exists_select?
    (config : Config)
    (switches : List String)
    {vlans : List String}
    (hshort : ∀ s ∈ vlans, ShortSelector s) :
    ∃ kept, config.select? switches vlans = some kept :=
  ⟨_, config.select?_eq switches hshort⟩

end Answers

section Narrowing

/-- Narrowing keeps some of the entries as they are, in their order. -/
theorem sublist_select?
    {config kept : Config}
    {switches vlans : List String}
    (hselect : config.select? switches vlans = some kept) :
    kept.vlans.entries.Sublist config.vlans.entries ∧
      kept.templates = config.templates ∧
        kept.switches.entries.Sublist config.switches.entries := by
  obtain ⟨table, htable, rfl⟩ := Option.map_eq_some_iff.mp hselect
  refine ⟨?_, rfl, ?_⟩
  · rw [selectVlans?] at htable
    split at htable
    · cases htable
      exact List.Sublist.refl _
    · split at htable
      · cases htable
        exact List.filter_sublist
      · exact nomatch htable
  · simp only [selectSwitches]
    split
    · exact List.Sublist.refl _
    · exact List.filter_sublist

theorem WellFormed.select
    {config kept : Config}
    {switches vlans : List String}
    (h : config.WellFormed)
    (hselect : config.select? switches vlans = some kept) :
    kept.WellFormed := by
  obtain ⟨hvlans, htemplates, hswitches⟩ := sublist_select? hselect
  constructor
  case positive =>
    intro id hid
    obtain ⟨v, hv, rfl⟩ := List.mem_map.mp hid
    exact h.positive v.1 (List.mem_map_of_mem (hvlans.mem hv))
  case marked =>
    intro t ht
    exact h.marked t (htemplates ▸ ht)
  case keyed =>
    exact fun s hs => h.keyed s (hswitches.mem hs)
  case supported =>
    exact fun s hs => h.supported s (hswitches.mem hs)

end Narrowing

end Config
end ManagedSwitch
