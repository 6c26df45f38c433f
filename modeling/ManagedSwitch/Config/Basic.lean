import ManagedSwitch.Table

/-!
# Configurations

A configuration names VLANs, gives templates that mark VLANs for a port, and lists switches whose
ports follow templates.  Ports are known to the firmware by their position alone.
-/

namespace ManagedSwitch

section Model

/-- The words by which VLANs are marked: `pvid` for the VLAN of untagged frames, `tagged` for a VLAN
whose frames carry their tag.  A VLAN without one of these words is not carried. -/
abbrev Template := Table Int String

/-- What is needed to be let in by a switch. -/
structure Auth where
  type : String
  user : String
  password : String
  response : String
deriving DecidableEq

/-- A port and the template that it follows. -/
structure Port where
  name : String
  template : String
deriving DecidableEq

/-- A managed switch. -/
structure Switch where
  key : String
  name : String
  address : String
  auth : Option Auth
  ports : List Port
deriving DecidableEq

/-- VLANs, templates and switches. -/
structure Config where
  vlans : Table Int String
  templates : Table String Template
  switches : Table String Switch

/-- The one kind of authentication that is supported. -/
def supportedAuth : String := "xike"

end Model

end ManagedSwitch
