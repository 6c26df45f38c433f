import ManagedSwitch.Tool.Environment

/-!
# Rollout

The rollout is a program that takes everything from the environment.  It first lists the requests by
their labels; it sends them only where this is asked for, and then tells how every switch fared.
-/

namespace ManagedSwitch
namespace Tool
namespace Rollout

section Lines

def planLines (b : Batch) : List String :=
  ("  " ++ b.switchKey ++ " (" ++ b.address ++ "): " ++ Number.natText b.commands.length ++
      " request(s)") ::
    b.commands.map fun c => "    - " ++ c.label

def failureLine (o : Outcome) : String :=
  "    [" ++ (o.errorKind?.map FailureKind.text).getD "" ++ "] " ++ o.label ++ ": " ++
    o.error?.getD ""

def reportLines (r : SwitchReport) : List String :=
  let status :=
    if r.ok then "ok" else Number.natText r.failures.length ++ " failure(s)"
  ("  " ++ r.switchKey ++ ": " ++ status) :: r.failures.map failureLine

end Lines

section Running

def timeout (environment : Table String String) : Program Float :=
  match Number.Binary64.read? (variableOr environment "XIKE_TIMEOUT" "10") with
  | some timeout => return timeout
  | none => throw .badTimeout

def plan (config : Config) : Program Unit := do
  say "=== DRY RUN ==="
  let compiled ← compile config
  for b in compiled.batches do
    for line in planLines b do
      say line
  say ""

def execute
    (config : Config)
    (options : ApplyOptions Float) :
    Program Bool := do
  let application ← apply config options
  say ""
  for r in application.execution.switches do
    for line in reportLines r do
      say line
  return application.ok

def run
    (environment : Table String String)
    (files : Files) :
    Program Bool := do
  let timeout ← timeout environment
  match ← load files (configPath environment) with
  | .error message => abandon message
  | .ok config =>
    let config ← narrow config [] (selector environment "XIKE_VLAN")
    plan config
    if isSet environment "APPLY" then
      execute config ⟨timeout, none, isSet environment "SAVE", false⟩
    else
      say "Dry-run only -- set APPLY=1 to apply changes."
      return true

end Running

end Rollout
end Tool
end ManagedSwitch
