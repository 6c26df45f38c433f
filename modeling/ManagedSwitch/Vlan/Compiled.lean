import ManagedSwitch.Credential
import ManagedSwitch.Vlan.Command
import ManagedSwitch.Vlan.Membership
import ManagedSwitch.Vlan.Unresolved

/-!
# Compiled configurations

Compiling gives every switch a batch: first a command for each VLAN, in the order of the VLANs, then
a command for each port that has a VLAN of untagged frames, in the order of the ports.  A port can
only get such a VLAN once it is a member of it, so the order matters.
-/

namespace ManagedSwitch

section Batches

namespace Config

/-- The codes of the ports of a switch in a VLAN. -/
def codes
    (config : Config)
    (switch : Switch)
    (id : Int) :
    List String :=
  (config.portTemplates switch).map fun t => (Template.status t id).code

/-- The commands that set the membership of the ports. -/
def membershipCommands
    (config : Config)
    (switch : Switch)
    (target : Target) :
    List Command :=
  config.vlans.entries.map fun e => target.membership e.1 e.2 (config.codes switch e.1)

/-- The command that sets the VLAN of untagged frames of a port, if it has one. -/
def untaggedCommand?
    (config : Config)
    (target : Target)
    (port : Option Template × Nat) :
    Option Command :=
  port.1.bind fun t =>
    (t.untagged? config.vlans.keys).map fun id => target.untagged port.2 id

/-- The commands that set the VLANs of untagged frames. -/
def untaggedCommands
    (config : Config)
    (switch : Switch)
    (target : Target) :
    List Command :=
  (config.portTemplates switch).zipIdx.filterMap (config.untaggedCommand? target)

/-- The batch of a switch with a given cookie. -/
def batch
    (config : Config)
    (switch : Switch)
    (cookie : String) :
    Batch :=
  let target : Target := ⟨switch.key, switch.address, cookie⟩
  ⟨switch.key, switch.address,
    config.membershipCommands switch target ++ config.untaggedCommands switch target⟩

end Config

end Batches

section Compilation

/-- What compiling gives: a batch for each switch, and the ports without a template. -/
structure Compiled where
  batches : List Batch
  unresolved : List Unresolved

namespace Config

/-- The cookie for the commands of a switch: a given one, or its own, or none. -/
def cookieFor
    (credentials : Credentials)
    (switch : Switch) :
    String :=
  match credentials.get? switch.key with
  | some cookie => cookie
  | none => switch.cookie.toOption.getD ""

def compile
    (config : Config)
    (credentials : Credentials) :
    Compiled :=
  ⟨config.switches.values.map fun s => config.batch s (cookieFor credentials s),
    config.switches.values.flatMap config.unresolved⟩

def switchRecords
    (config : Config)
    (switch : Switch) :
    List Record :=
  (config.unresolved switch).map Unresolved.record ++
    [⟨.debug, .compile, "Compiled " ++
      Number.natText (config.batch switch "").commands.length ++ " command(s) for " ++
      switch.key ++ " (" ++ Number.natText config.vlans.size ++ " VLANs, " ++
      Number.natText switch.ports.length ++ " ports)"⟩]

def compileRecords (config : Config) : List Record :=
  config.switches.values.flatMap config.switchRecords

end Config

end Compilation

end ManagedSwitch
