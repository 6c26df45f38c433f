import ManagedSwitch.Config.Basic
import ManagedSwitch.Journal
import ManagedSwitch.Number.Integer
import ManagedSwitch.Text.Case

/-!
# Narrowing a configuration

A configuration is narrowed to some VLANs and some switches.  A VLAN is selected by its number or
by its name, whatever the case of the letters; a switch is selected by its key.  Without selectors
of a kind, nothing of that kind is left out.  Templates and the order of the entries stay as they
are.
-/

namespace ManagedSwitch
namespace Config

section Selectors

/-- Whether a selector means a VLAN.  There is no answer to a selector that is a number with too
many digits. -/
def names?
    (id : Int)
    (name selector : String) :
    Option Bool :=
  let word := Text.strip selector
  let sameName := Text.lower name == Text.lower word
  if Text.isDecimal word then
    (Number.read? word).map fun n => n == id || sameName
  else
    some sameName

/-- Whether one of several selectors means a VLAN; the first one that does decides. -/
def anyNames?
    (id : Int)
    (name : String) :
    List String → Option Bool
  | [] => some false
  | selector :: rest =>
    match names? id name selector with
    | none => none
    | some true => some true
    | some false => anyNames? id name rest

end Selectors

section Selection

/-- The VLANs that selectors mean. -/
def selectVlans?
    (selectors : List String)
    (vlans : Table Int String) :
    Option (Table Int String) :=
  if selectors.isEmpty then
    some vlans
  else if vlans.entries.all fun e => (anyNames? e.1 e.2 selectors).isSome then
    some (vlans.filter fun id name => anyNames? id name selectors == some true)
  else
    none

def selectSwitches
    (keys : List String)
    (switches : Table String Switch) :
    Table String Switch :=
  if keys.isEmpty then switches else switches.filter fun key _ => keys.contains key

/-- The configuration narrowed to the selected switches and VLANs; there is none if a selector is a
number with too many digits. -/
def select?
    (config : Config)
    (switches vlans : List String) :
    Option Config :=
  (selectVlans? vlans config.vlans).map fun kept =>
    ⟨kept, config.templates, selectSwitches switches config.switches⟩

end Selection

section Records

/-- The warning about selectors that mean nothing. -/
def nothingFound
    (kind : String)
    (selectors : List String) :
    Record :=
  ⟨.warning, .filter, "No " ++ kind ++ " found matching any of: " ++ ", ".intercalate selectors⟩

/-- The warnings about selectors after which a configuration has nothing of a kind. -/
def selectionRecords
    (switches vlans : List String)
    (narrowed : Config) :
    List Record :=
  (if !vlans.isEmpty && narrowed.vlans.entries.isEmpty then [nothingFound "VLAN" vlans] else []) ++
    (if !switches.isEmpty && narrowed.switches.entries.isEmpty then
      [nothingFound "switch" switches]
    else
      [])

end Records

end Config
end ManagedSwitch
