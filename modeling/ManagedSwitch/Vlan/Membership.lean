import ManagedSwitch.Config.Basic

/-!
# Membership in VLANs

A template gives every VLAN a status: it is the VLAN of untagged frames, it is carried tagged, or it
is not carried.  The firmware has a code for each status.
-/

namespace ManagedSwitch

section Status

/-- How a port takes part in a VLAN. -/
inductive Status
  | untagged
  | tagged
  | notMember
deriving DecidableEq

namespace Status

def text : Status → String
  | .untagged => "pvid"
  | .tagged => "tagged"
  | .notMember => "not-member"

/-- The code of a status in the forms of the firmware. -/
def code : Status → String
  | .untagged => "0"
  | .tagged => "1"
  | .notMember => "2"

/-- The status that a template's word means. -/
def ofWord : Option String → Status
  | some word =>
    if word = "pvid" then .untagged else if word = "tagged" then .tagged else .notMember
  | none => .notMember

end Status

/-- The status that a template, if there is one, gives a VLAN. -/
def Template.status
    (template : Option Template)
    (id : Int) :
    Status :=
  match template with
  | none => .notMember
  | some t => Status.ofWord (t.get? id)

/-- The first of some VLANs that a template marks as the VLAN of untagged frames. -/
def Template.untagged?
    (template : Template)
    (ids : List Int) :
    Option Int :=
  ids.find? fun id => template.get? id = some "pvid"

end Status

section Resolution

namespace Config

/-- The template of each port of a switch, in order. -/
def portTemplates
    (config : Config)
    (switch : Switch) :
    List (Option Template) :=
  switch.ports.map fun p => config.templates.get? p.template

end Config

end Resolution

end ManagedSwitch
