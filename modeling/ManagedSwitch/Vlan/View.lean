import ManagedSwitch.JsonValue
import ManagedSwitch.Vlan.Membership
import ManagedSwitch.Vlan.Unresolved

/-!
# The membership view

The view shows for every switch and every VLAN the status of the ports, by the names of the ports.
Ports of one name share an entry, which shows the last of them.
-/

namespace ManagedSwitch

section Types

/-- The ports of a switch in one VLAN, with a word for each status. -/
structure VlanView where
  id : Int
  name : String
  ports : Table String String

/-- A switch with its VLANs. -/
structure SwitchView where
  key : String
  name : String
  address : String
  vlans : List VlanView

end Types

section Building

namespace Config

/-- The status of each port of a switch in a VLAN, by the name of the port. -/
def portStatuses
    (config : Config)
    (switch : Switch)
    (id : Int) :
    List (String × String) :=
  switch.ports.map fun p =>
    (p.name, (Template.status (config.templates.get? p.template) id).text)

def viewSwitch
    (config : Config)
    (switch : Switch) :
    SwitchView :=
  ⟨switch.key, switch.name, switch.address,
    config.vlans.entries.map fun e =>
      ⟨e.1, e.2, Table.ofList (portStatuses config switch e.1)⟩⟩

def view (config : Config) : List SwitchView :=
  config.switches.values.map (viewSwitch config)

def viewRecords (config : Config) : List Record :=
  config.switches.values.flatMap fun s => (unresolved config s).map Unresolved.record

end Config

end Building

section Json

def VlanView.value (v : VlanView) : JsonValue :=
  .object [
    ("vlanId", .int v.id),
    ("vlanName", .text v.name),
    ("ports", .object (v.ports.entries.map fun e => (e.1, .text e.2)))]

def SwitchView.value (v : SwitchView) : JsonValue :=
  .object [
    ("switch", .text v.key),
    ("name", .text v.name),
    ("address", .text v.address),
    ("vlans", .array (v.vlans.map VlanView.value))]

def viewValue (view : List SwitchView) : JsonValue :=
  .array (view.map SwitchView.value)

def viewText (view : List SwitchView) : String :=
  (viewValue view).render

end Json

end ManagedSwitch
