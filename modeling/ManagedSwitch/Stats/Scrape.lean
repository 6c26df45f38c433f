import ManagedSwitch.Credential
import ManagedSwitch.Net.Client
import ManagedSwitch.Stats.MetricLine

/-!
# Scraping switches

Every switch is asked once for its statistics page and contributes a metric line for each port, or
one line that says what went wrong.  Ports beyond those of the configuration are named by their
position.
-/

namespace ManagedSwitch
namespace Scrape

section Errors

/-- Why a switch has no metric lines. -/
inductive Failure (τ : Type)
  | authentication (failure : AuthFailure)
  | client (error : Client.Error τ)
  /-- The switch answered with its login page. -/
  | rejected
  | counter (bad : PortStats.BadCounter)
  | noRows

def label (switch : Switch) : String :=
  switch.key ++ " (" ++ switch.address ++ ")"

def Failure.reason
    {τ : Type}
    [Seconds τ] :
    Failure τ → String
  | .authentication f => f.message
  | .client e => e.message
  | .rejected => "auth rejected"
  | .counter b => b.message
  | .noRows => "no port rows in response"

def Failure.remark
    {τ : Type}
    [Seconds τ] :
    Failure τ → String
  | .authentication f => "fetch failed: " ++ f.message
  | .client e => "fetch failed: " ++ e.message
  | .rejected => "auth rejected, got login redirect"
  | .counter b => b.message
  | .noRows => "no port rows found in HTML"

def errorLine
    {τ : Type}
    [Seconds τ]
    (switch : Switch)
    (failure : Failure τ) :
    String :=
  "# ERROR " ++ label switch ++ ": " ++ failure.reason

end Errors

section Lines

def portName
    (switch : Switch)
    (index : Nat) :
    String :=
  match switch.ports[index]? with
  | some port => port.name
  | none => "port" ++ Number.natText (index + 1)

/-- The metric lines for the rows of a switch. -/
def metricLines
    (switch : Switch)
    (rows : List PortStats) :
    List String :=
  rows.zipIdx.map fun r => MetricLine.text switch (portName switch r.2) r.1

/-- The page on which a switch asks for a login. -/
def loginPage : String := "login.cgi"

def responseRows
    {τ : Type}
    (response : Response) :
    Except (Failure τ) (List PortStats) :=
  if Text.occursIn loginPage.toList response.body.toList then
    .error .rejected
  else
    match PortStats.ofPage response.body with
    | .error bad => .error (.counter bad)
    | .ok [] => .error .noRows
    | .ok rows => .ok rows

end Lines

section Scraping

variable {τ : Type} [Seconds τ]

def pageCall
    (timeout : τ)
    (switch : Switch)
    (cookie : String) :
    Call τ :=
  ⟨switch.address, 80,
    ⟨"GET", "/port.cgi?page=stats",
      [("Host", switch.address), ("Cookie", cookie), ("Connection", "close")], ""⟩,
    timeout⟩

def fetch
    (timeout : τ)
    (switch : Switch) :
    Run τ (Except (Failure τ) (List PortStats)) := do
  match switch.cookie with
  | .error failure => return .error (.authentication failure)
  | .ok cookie =>
    match ← Client.call (pageCall timeout switch cookie) with
    | .error e => return .error (.client e)
    | .ok response => return responseRows response

def switchLines
    (timeout : τ)
    (switch : Switch) :
    Run τ (List String) := do
  match ← fetch timeout switch with
  | .ok rows => return metricLines switch rows
  | .error failure =>
    remark ⟨.error, .stats, label switch ++ ": " ++ failure.remark⟩
    return [errorLine switch failure]

/-- The lines of switches, one switch after the other. -/
def allLines
    (timeout : τ) :
    List Switch → Run τ (List String)
  | [] => return []
  | s :: rest => do
    let lines ← switchLines timeout s
    let others ← allLines timeout rest
    return lines ++ others

def collect
    (timeout : τ)
    (switches : List Switch) :
    Run τ String := do
  return "\n".intercalate (← allLines timeout switches) ++ "\n"

end Scraping

end Scrape
end ManagedSwitch
