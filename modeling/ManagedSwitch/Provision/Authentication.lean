import ManagedSwitch.Credential
import ManagedSwitch.Net.World

/-!
# Authentication

Every switch gets its cookie or a failure of its own; a failure of one switch does not concern the
others.
-/

namespace ManagedSwitch

section Results

/-- Cookies and failures by the keys of switches. -/
structure Authentication where
  credentials : Credentials
  failures : Table String AuthFailure

namespace Authentication

/-- Whether no switch failed. -/
def ok (a : Authentication) : Bool :=
  a.failures.entries.isEmpty

def empty : Authentication :=
  ⟨Table.empty, Table.empty⟩

def add
    (a : Authentication)
    (switch : Switch) :
    Authentication :=
  match switch.cookie with
  | .ok cookie => { a with credentials := a.credentials.put switch.key cookie }
  | .error failure => { a with failures := a.failures.put switch.key failure }

end Authentication

def authentication (switches : List Switch) : Authentication :=
  switches.foldl Authentication.add .empty

end Results

section Narration

variable {τ : Type}

def narrateAuthentication
    (verbose : Bool)
    (switch : Switch) :
    Run τ Unit := do
  say ("Logging in to " ++ switch.key ++ " (" ++ switch.address ++ ")...")
  match switch.cookie with
  | .ok cookie =>
    say "  ✓ Login successful"
    if verbose then
      say ("  Cookie: " ++ cookie)
  | .error failure =>
    remark ⟨.error, .session, "Login to " ++ switch.key ++ " failed: " ++ failure.message⟩
    say ("  ✗ Login failed: " ++ failure.message)

/-- Authenticates switches one after the other. -/
def authenticate
    (switches : List Switch)
    (verbose : Bool) :
    Run τ Authentication := do
  switches.forM (narrateAuthentication verbose)
  return authentication switches

end Narration

end ManagedSwitch
