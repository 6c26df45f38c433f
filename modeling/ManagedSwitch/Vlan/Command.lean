import ManagedSwitch.Http.Form

/-!
# Commands

A command is one request to one switch, with the kind of change that it makes and a short label for
reports.  A batch holds the commands for a switch in the order in which they are sent.
-/

namespace ManagedSwitch

section Types

/-- What a command changes. -/
inductive CommandKind
  | membership
  | untagged
  | save
deriving DecidableEq

def CommandKind.text : CommandKind → String
  | .membership => "vlan_membership"
  | .untagged => "pvid"
  | .save => "save"

/-- Where commands go: a switch, its address and the cookie that lets them in. -/
structure Target where
  switchKey : String
  address : String
  cookie : String
deriving DecidableEq

/-- A request to a switch. -/
structure Command where
  switchKey : String
  address : String
  request : Request
  kind : CommandKind
  label : String
deriving DecidableEq

/-- The commands for a switch in order. -/
structure Batch where
  switchKey : String
  address : String
  commands : List Command
deriving DecidableEq

end Types

section Commands

namespace Target

/-- The command that posts a form to a target. -/
def post
    (t : Target)
    (path body : String)
    (kind : CommandKind)
    (label : String) :
    Command :=
  ⟨t.switchKey, t.address, Form.post path t.address t.cookie body, kind, label⟩

/-- Sets the name of a VLAN and the codes of all ports. -/
def membership
    (t : Target)
    (id : Int)
    (name : String)
    (codes : List String) :
    Command :=
  t.post "/vlan.cgi?page=static" (Form.membership id name codes) .membership
    ("VLAN " ++ Number.text id ++ " (" ++ name ++ ")")

/-- Sets the VLAN of untagged frames of a port. -/
def untagged
    (t : Target)
    (port id : Int) :
    Command :=
  t.post "/vlan.cgi?page=port_based" (Form.untagged port id) .untagged
    ("Port " ++ Number.text port ++ " PVID " ++ Number.text id)

/-- Makes the running configuration permanent. -/
def save (t : Target) : Command :=
  t.post "/save.cgi" "" .save "save configuration"

end Target

end Commands

end ManagedSwitch
