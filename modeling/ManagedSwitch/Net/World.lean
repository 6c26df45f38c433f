import ManagedSwitch.Http.Request
import ManagedSwitch.Journal
import ManagedSwitch.Net.Network

/-!
# The world of a run

A run sees a clock and a network, and leaves a journal of events: lines that it prints or complains
with, records that it makes, requests that it asks the client for, and the steps that the client
takes.  Everything that can be observed of a run is a selection from its journal.
-/

namespace ManagedSwitch

section Types

/-- A request that the client is asked for. -/
structure Call (τ : Type) where
  host : String
  port : Int
  request : Request
  timeout : τ

/-- Host, port and target of a call. -/
def Call.place
    {τ : Type}
    (call : Call τ) :
    String :=
  call.host ++ ":" ++ Number.text call.port ++ call.request.path

/-- Something that can be observed of a run. -/
inductive Event (τ : Type)
  | printed (line : String)
  | complained (line : String)
  | logged (record : Record)
  | called (call : Call τ)
  | resolving (host : String) (port : Int)
  | opened (index : Nat)
  | connecting (index : Nat) (armed : τ)
  | receiving (armed : τ)
  | sent (bytes : Bytes)
  | closed

/-- Clock, network and journal; the journal has the first event in front. -/
structure World (τ : Type) where
  clock : τ
  network : Network τ
  journal : List (Event τ)

/-- A computation in the world. -/
abbrev Run (τ : Type) := StateM (World τ)

end Types

section Actions

variable {τ : Type}

def note (e : Event τ) : Run τ Unit :=
  modify fun w => { w with journal := w.journal ++ [e] }

def say (line : String) : Run τ Unit :=
  note (.printed line)

def complain (line : String) : Run τ Unit :=
  note (.complained line)

def remark (r : Record) : Run τ Unit :=
  note (.logged r)

def remarkAll (rs : List Record) : Run τ Unit :=
  modify fun w => { w with journal := w.journal ++ rs.map .logged }

def time : Run τ τ := do
  return (← get).clock

def pass
    [Seconds τ]
    (span : τ) :
    Run τ Unit :=
  modify fun w => { w with clock := w.clock + span }

def takeExchange (host : String) : Run τ (Option (Exchange τ)) :=
  modifyGet fun w =>
    match w.network.take host with
    | none => (none, w)
    | some (e, network) => (some e, { w with network := network })

end Actions

section Observations

variable {τ : Type}

def printedLines (journal : List (Event τ)) : List String :=
  journal.filterMap fun
    | .printed line => some line
    | _ => none

/-- The lines for the operator: complaints, and the records that are shown as lines. -/
def operatorLines
    (shown : Record → Option String)
    (journal : List (Event τ)) :
    List String :=
  journal.filterMap fun
    | .complained line => some line
    | .logged r => shown r
    | _ => none

def loggedRecords (journal : List (Event τ)) : List Record :=
  journal.filterMap fun
    | .logged r => some r
    | _ => none

def sentBytes (journal : List (Event τ)) : List Bytes :=
  journal.filterMap fun
    | .sent bytes => some bytes
    | _ => none

/-- The requests that the client was asked for. -/
def calls (journal : List (Event τ)) : List (Call τ) :=
  journal.filterMap fun
    | .called call => some call
    | _ => none

end Observations

end ManagedSwitch
