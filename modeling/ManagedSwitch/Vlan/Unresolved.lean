import ManagedSwitch.Config.Basic
import ManagedSwitch.Journal
import ManagedSwitch.Text.Quoted

/-!
# Ports without a template

A port may name a template that does not exist.  Such a port is a member of no VLAN, and it is
reported with the switch it belongs to.
-/

namespace ManagedSwitch

section Reports

/-- A port of a switch whose template does not exist. -/
structure Unresolved where
  switchKey : String
  portName : String
  template : String
deriving DecidableEq

namespace Unresolved

def kind : String := "ConfigResolutionError"

def message (u : Unresolved) : String :=
  "Template " ++ Text.quote u.template ++ " not found for " ++ u.switchKey ++ ":" ++ u.portName

def record (u : Unresolved) : Record :=
  ⟨.warning, .compile, u.message⟩

end Unresolved

/-- The ports of a switch whose template does not exist, in order. -/
def Config.unresolved
    (config : Config)
    (switch : Switch) :
    List Unresolved :=
  (switch.ports.filter fun p => (config.templates.get? p.template).isNone).map fun p =>
    ⟨switch.key, p.name, p.template⟩

end Reports

end ManagedSwitch
