import ManagedSwitch.Provision.Authentication
import ManagedSwitch.Provision.Execution
import ManagedSwitch.Vlan.Compiled

/-!
# Applying a configuration

A configuration is applied in steps: the switches are authenticated, the compiled commands are
executed, and, where this is asked for, the result is made permanent, whether or not all commands
succeeded.
-/

namespace ManagedSwitch

section Flags

/-- Why a combination of modes makes no sense. -/
inductive UsageError
  | saveWithoutExecute
  | executeWithoutHttp
deriving DecidableEq

def UsageError.message : UsageError → String
  | .saveWithoutExecute => "--save requires --execute flag"
  | .executeWithoutHttp => "--execute requires --http flag"

/-- Checks a combination of modes: saving needs executing, and executing needs requests. -/
def checkModes (http execute save : Bool) : Except UsageError Unit :=
  if save && !execute then .error .saveWithoutExecute
  else if execute && !http then .error .executeWithoutHttp
  else .ok ()

end Flags

section Types

/-- What is asked for when a configuration is applied. -/
structure ApplyOptions (τ : Type) where
  timeout : τ
  workers : Option Int
  save : Bool
  verbose : Bool

/-- Everything that applying a configuration did. -/
structure Application where
  authentication : Authentication
  execution : Report
  save : Option Report

namespace Application

/-- Whether every switch was configured, and saved where this was asked for. -/
def ok (a : Application) : Bool :=
  a.execution.ok && a.save.all Report.ok

/-- The keys of the switches that were not, in order of the alphabet. -/
def failedSwitches (a : Application) : List String :=
  let keys := a.execution.failedSwitches ++ (a.save.map Report.failedSwitches).getD []
  keys.eraseDups.mergeSort fun a b => !(b < a)

end Application

end Types

section Applying

variable {τ : Type} [Seconds τ]

/-- Saves if this is asked for. -/
def saveIf
    (options : ApplyOptions τ)
    (credentials : Credentials)
    (switches : List Switch) :
    Run τ (Option Report) := do
  if options.save then
    say "\n# Saving configuration...\n"
    return some (← save options.timeout options.verbose credentials switches)
  else
    return none

/-- Applies a configuration. -/
def Config.apply
    (config : Config)
    (options : ApplyOptions τ) :
    Run τ (Except ExecutionError Application) := do
  let switches := config.switches.values
  say "\n# Authenticating to switches...\n"
  let auth ← authenticate switches options.verbose
  say "\n# Configuring VLANs...\n"
  remarkAll config.compileRecords
  let batches := (config.compile auth.credentials).batches
  match ← execute options.timeout options.verbose options.workers auth.credentials batches with
  | .error e => return .error e
  | .ok execution =>
    let saved ← saveIf options auth.credentials switches
    let result : Application := ⟨auth, execution, saved⟩
    if !result.ok then
      remark ⟨.error, .provisioner, "Provisioning incomplete for: " ++
        ", ".intercalate result.failedSwitches⟩
    return .ok result

end Applying

end ManagedSwitch
