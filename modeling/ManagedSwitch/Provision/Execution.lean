import ManagedSwitch.Credential
import ManagedSwitch.Provision.Report

/-!
# Execution

The commands of a batch are sent in order, and a failure stops none of those behind it.  Batches for
switches without a cookie are skipped and reported.  The report follows the order of the batches; of
several batches for one switch the last one counts.
-/

namespace ManagedSwitch

section Commands

variable {τ : Type} [Seconds τ]

def Command.call
    (c : Command)
    (timeout : τ) :
    Call τ :=
  ⟨c.address, 80, c.request, timeout⟩

/-- What is shown of a body: its beginning, with dots where something is left out. -/
def preview (body : String) : String :=
  let cs := body.toList
  if 200 < cs.length then String.ofList (cs.take 200) ++ "..." else body

def showRequest (c : Command) : Run τ Unit := do
  say ("  URL: http://" ++ c.address ++ c.request.path)
  say ("  Body: " ++ c.request.body)

def showResponse (r : Response) : Run τ Unit := do
  say ("  Response Status: " ++ Outcome.answerText r)
  say ("  Response Body: " ++ preview r.body)

def sendCommand
    (timeout : τ)
    (verbose : Bool)
    (c : Command)
    (index : Nat) :
    Run τ Outcome := do
  if verbose then
    showRequest c
  match ← Client.call (c.call timeout) with
  | .error e =>
    remark ⟨.error, .executor, c.switchKey ++ ": " ++ c.label ++ " failed: " ++ e.message⟩
    return ⟨c.switchKey, index, c.label, .failed e.kind e.message⟩
  | .ok r =>
    if verbose then
      showResponse r
    if !r.ok then
      remark ⟨.error, .executor, c.switchKey ++ ": " ++ c.label ++ " rejected: " ++
        Outcome.answerText r⟩
    return ⟨c.switchKey, index, c.label, .answered r⟩

end Commands

section Batches

variable {τ : Type} [Seconds τ]

def Outcome.line (o : Outcome) : String :=
  match o.ending with
  | .answered r =>
    if r.ok then
      "  ✓ Success: " ++ Outcome.answerText r
    else
      "  ✗ Failed [" ++ FailureKind.status.text ++ "]: " ++ Outcome.answerText r
  | .failed kind message => "  ✗ Failed [" ++ kind.text ++ "]: " ++ message

/-- Sends commands, of which the first one has the given position. -/
def sendCommands
    (timeout : τ)
    (verbose : Bool)
    (switchKey : String)
    (index : Nat) :
    List Command → Run τ (List Outcome)
  | [] => return []
  | c :: rest => do
    say ("Configuring " ++ c.label ++ " on " ++ switchKey ++ "...")
    let outcome ← sendCommand timeout verbose c index
    say outcome.line
    let outcomes ← sendCommands timeout verbose switchKey (index + 1) rest
    return outcome :: outcomes

def runBatch
    (timeout : τ)
    (verbose : Bool)
    (b : Batch) :
    Run τ SwitchReport := do
  let outcomes ← sendCommands timeout verbose b.switchKey 1 b.commands
  let report : SwitchReport := ⟨b.switchKey, b.address, outcomes⟩
  remark ⟨.info, .executor, "Completed " ++ b.switchKey ++ ": " ++
    Number.natText (outcomes.length - report.failures.length) ++ "/" ++
    Number.natText outcomes.length ++ " command(s) succeeded"⟩
  return report

/-- Sends the commands of several batches, one batch after the other. -/
def runBatches
    (timeout : τ)
    (verbose : Bool) :
    List Batch → Run τ (List SwitchReport)
  | [] => return []
  | b :: rest => do
    let report ← runBatch timeout verbose b
    let reports ← runBatches timeout verbose rest
    return report :: reports

end Batches

section Execution

variable {τ : Type} [Seconds τ]

/-- Why nothing is executed. -/
inductive ExecutionError
  /-- Fewer than no workers are allowed. -/
  | noWorkers
deriving DecidableEq

/-- The keys in the order of their last occurrences. -/
def lastOccurrences : List String → List String
  | [] => []
  | k :: rest => if rest.contains k then lastOccurrences rest else k :: lastOccurrences rest

/-- Reports in the order of the batches that they belong to. -/
def arrange
    (keys : List String)
    (reports : List SwitchReport) :
    List SwitchReport :=
  (lastOccurrences keys).flatMap fun k => reports.filter fun r => r.switchKey == k

/-- The record about a batch that is skipped. -/
def skipRecord (b : Batch) : Record :=
  ⟨.error, .executor, "Skipping " ++ b.switchKey ++ ": not authenticated"⟩

/-- Sends all batches for which there are cookies.  The number of workers only has to be possible:
batches do not depend on each other. -/
def execute
    (timeout : τ)
    (verbose : Bool)
    (workers : Option Int)
    (credentials : Credentials)
    (batches : List Batch) :
    Run τ (Except ExecutionError Report) := do
  let skipped := batches.filter fun b => !credentials.contains b.switchKey
  let runnable := batches.filter fun b => credentials.contains b.switchKey
  remarkAll (skipped.map skipRecord)
  let possible := runnable.isEmpty || workers.all (0 ≤ ·)
  if !possible then
    return .error .noWorkers
  else
    let done ← runBatches timeout verbose runnable
    let counted := (Table.ofList (done.map fun r => (r.switchKey, r))).values
    let failed := skipped.map fun b => SwitchReport.unauthenticated b.switchKey b.address
    return .ok ⟨arrange (batches.map Batch.switchKey) (failed ++ counted)⟩

end Execution

section Saving

variable {τ : Type} [Seconds τ]

def Outcome.savedLine (o : Outcome) : String :=
  match o.ending with
  | .answered r =>
    if r.ok then
      "  ✓ Configuration saved: " ++ Outcome.answerText r
    else
      "  ✗ Save failed: " ++ Outcome.answerText r
  | .failed _ message => "  ✗ Save failed: " ++ message

/-- Makes the configuration of a switch permanent. -/
def saveSwitch
    (timeout : τ)
    (verbose : Bool)
    (credentials : Credentials)
    (switch : Switch) :
    Run τ SwitchReport := do
  match credentials.get? switch.key with
  | none => return .unauthenticated switch.key switch.address
  | some cookie =>
    say ("Saving configuration for " ++ switch.key ++ " (" ++ switch.address ++ ")...")
    let target : Target := ⟨switch.key, switch.address, cookie⟩
    let outcome ← sendCommand timeout verbose target.save 1
    say outcome.savedLine
    return ⟨switch.key, switch.address, [outcome]⟩

/-- Makes the configurations of switches permanent, one after the other. -/
def saveSwitches
    (timeout : τ)
    (verbose : Bool)
    (credentials : Credentials) :
    List Switch → Run τ (List SwitchReport)
  | [] => return []
  | s :: rest => do
    let report ← saveSwitch timeout verbose credentials s
    let reports ← saveSwitches timeout verbose credentials rest
    return report :: reports

/-- Makes the configurations of switches permanent. -/
def save
    (timeout : τ)
    (verbose : Bool)
    (credentials : Credentials)
    (switches : List Switch) :
    Run τ Report := do
  return ⟨← saveSwitches timeout verbose credentials switches⟩

end Saving

end ManagedSwitch
