import ManagedSwitch.Net.Client
import ManagedSwitch.Vlan.Command

/-!
# Reports of execution

An outcome tells how one command ended: with a response of the switch or with a failure.  A switch
is well if all its commands were answered with success, and an execution if all its switches are.
-/

namespace ManagedSwitch

section Types

/-- The kinds of failure. -/
inductive FailureKind
  | authentication
  | timeout
  | connection
  | protocol
  | status
deriving DecidableEq

def FailureKind.text : FailureKind → String
  | .authentication => "AuthError"
  | .timeout => "TimeoutError"
  | .connection => "ConnectionError"
  | .protocol => "ProtocolError"
  | .status => "HTTPStatusError"

/-- The kind of failure that an error of the client is. -/
def Client.Error.kind {τ : Type} : Client.Error τ → FailureKind
  | .timedOut .. => .timeout
  | .failed .. => .connection
  | .malformed _ => .protocol

/-- How a command ended. -/
inductive Ending
  | answered (response : Response)
  | failed (kind : FailureKind) (message : String)

/-- How a command at a position of its batch ended; the position 0 stands for no command. -/
structure Outcome where
  switchKey : String
  index : Nat
  label : String
  ending : Ending

/-- The outcomes of a switch in order. -/
structure SwitchReport where
  switchKey : String
  address : String
  outcomes : List Outcome

/-- The reports of several switches. -/
structure Report where
  switches : List SwitchReport

end Types

section Questions

namespace Outcome

/-- Whether the switch answered with success. -/
def success (o : Outcome) : Bool :=
  match o.ending with
  | .answered r => r.ok
  | .failed .. => false

def status? (o : Outcome) : Option Nat :=
  match o.ending with
  | .answered r => some r.status
  | .failed .. => none

/-- The text of the status that was received. -/
def statusText? (o : Outcome) : Option String :=
  match o.ending with
  | .answered r => some r.statusText
  | .failed .. => none

def responseBody (o : Outcome) : String :=
  match o.ending with
  | .answered r => r.body
  | .failed .. => ""

/-- The kind of failure, if the command failed. -/
def errorKind? (o : Outcome) : Option FailureKind :=
  match o.ending with
  | .answered r => if r.ok then none else some .status
  | .failed kind _ => some kind

def answerText (r : Response) : String :=
  Number.natText r.status ++ " " ++ r.statusText

/-- The message of the failure, if the command failed. -/
def error? (o : Outcome) : Option String :=
  match o.ending with
  | .answered r => if r.ok then none else some (answerText r)
  | .failed _ message => some message

end Outcome

namespace SwitchReport

/-- Whether all commands succeeded. -/
def ok (s : SwitchReport) : Bool :=
  s.outcomes.all Outcome.success

/-- The outcomes of the commands that failed. -/
def failures (s : SwitchReport) : List Outcome :=
  s.outcomes.filter fun o => !o.success

/-- The report on a switch that nothing can be sent to. -/
def unauthenticated (switchKey address : String) : SwitchReport :=
  ⟨switchKey, address,
    [⟨switchKey, 0, "authenticate",
      .failed .authentication ("No credential for " ++ switchKey)⟩]⟩

end SwitchReport

namespace Report

/-- Whether all switches are well. -/
def ok (r : Report) : Bool :=
  r.switches.all SwitchReport.ok

/-- The keys of the switches that are not. -/
def failedSwitches (r : Report) : List String :=
  (r.switches.filter fun s => !s.ok).map SwitchReport.switchKey

end Report

end Questions

end ManagedSwitch
