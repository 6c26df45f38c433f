import ManagedSwitch.Http.Response
import ManagedSwitch.Net.HostName
import ManagedSwitch.Net.World

/-!
# The client

The client opens a connection for each request, sends it and reads until the end of the stream.  The
whole call has one deadline: what is left of it is the limit of every connection attempt and of
every reading step, and neither is started once it has passed.  Sending runs under the limit of the
connection attempt before it.
-/

namespace ManagedSwitch
namespace Client

section Errors

/-- Why a call has no response. -/
inductive Error (τ : Type)
  | timedOut (host : String) (port : Int) (timeout : τ)
  | failed (host : String) (port : Int) (reason : String)
  | malformed (fault : Response.Fault)

def Error.message
    {τ : Type}
    [Seconds τ] :
    Error τ → String
  | .timedOut host port timeout =>
    "Request to " ++ host ++ ":" ++ Number.text port ++ " timed out after " ++
      Seconds.brief timeout ++ "s"
  | .failed host port reason =>
    "Connection to " ++ host ++ ":" ++ Number.text port ++ " failed: " ++ reason
  | .malformed fault => fault.message

def Error.ofTrouble
    {τ : Type}
    (call : Call τ) :
    Trouble → Error τ
  | .timeout => .timedOut call.host call.port call.timeout
  | .failure reason => .failed call.host call.port reason

end Errors

section Steps

variable {τ : Type} [Seconds τ]

/-- What is left until a deadline, unless it has passed. -/
def remaining? (deadline : τ) : Run τ (Option τ) := do
  let left := deadline - (← time)
  return if left ≤ 0 then none else some left

/-- Goes through a step under a limit. -/
def perform
    (limit : τ)
    (step : Step τ) :
    Run τ (Except Trouble Unit) := do
  if limit < step.took then
    pass limit
    return .error .timeout
  else
    pass step.took
    return match step.trouble with
    | none => .ok ()
    | some trouble => .error trouble

/-- Tries addresses in order, the first one having the given index, each with a socket of its own;
gives the limit of the attempt that succeeded, whose socket stays open.  `reason` is why the address
before failed. -/
def connect
    (host : String)
    (deadline : τ)
    (index : Nat)
    (reason : Option String) :
    List (Step τ) → Run τ (Except Trouble τ)
  | [] => return .error (.failure (reason.getD ("No address found for " ++ host)))
  | address :: rest => do
    note (.opened index)
    match ← remaining? deadline with
    | none =>
      note .closed
      return .error .timeout
    | some limit =>
      note (.connecting index limit)
      match ← perform limit address with
      | .ok () => return .ok limit
      | .error .timeout =>
        note .closed
        return .error .timeout
      | .error (.failure reason) =>
        note .closed
        connect host deadline (index + 1) (some reason) rest

/-- The limit of a reading step that has begun, or of one that begins now. -/
def readLimit?
    (deadline : τ) :
    Option τ → Run τ (Option τ)
  | some limit => return some limit
  | none => do
    match ← remaining? deadline with
    | none => return none
    | some limit =>
      note (.receiving limit)
      return some limit

/-- Reads until the end of the stream; `limit` is that of the reading step that has begun, if one
has. -/
def receive
    (deadline : τ)
    (limit : Option τ)
    (got : Bytes) :
    List (Arrival τ) → Run τ (Except Trouble Bytes)
  | [] => do
    match ← readLimit? deadline limit with
    | none => return .error .timeout
    | some _ => return .ok got
  | .bytes chunk :: rest => do
    match ← readLimit? deadline limit with
    | none => return .error .timeout
    | some _ =>
      if chunk.isEmpty then return .ok got else receive deadline none (got ++ chunk) rest
  | .wait step :: rest => do
    match ← readLimit? deadline limit with
    | none => return .error .timeout
    | some limit =>
      match ← perform limit step with
      | .ok () => receive deadline (some limit) got rest
      | .error trouble => return .error trouble

/-- Sends a request over a connection and reads the answer. -/
def converse
    (deadline limit : τ)
    (request : Request)
    (exchange : Exchange τ) :
    Run τ (Except Trouble Bytes) := do
  note (.sent request.bytes)
  match ← perform limit exchange.sending with
  | .error trouble => return .error trouble
  | .ok () => receive deadline none [] (exchange.arrivals.flatMap Arrival.split)

/-- Connects to a host, sends a request, reads the answer and closes the connection. -/
def transfer
    (call : Call τ)
    (deadline : τ) :
    Run τ (Except Trouble Bytes) := do
  note (.resolving call.host call.port)
  match HostName.fault? call.host with
  | some fault => return .error (.failure fault.message)
  | none =>
    match ← takeExchange call.host with
    | none => return .error (.failure "[Errno -2] Name or service not known")
    | some exchange =>
      match exchange.resolving with
      | some trouble => return .error trouble
      | none =>
        match ← connect call.host deadline 0 none exchange.addresses with
        | .error trouble => return .error trouble
        | .ok limit =>
          let result ← converse deadline limit call.request exchange
          note .closed
          return result

end Steps

section Calls

variable {τ : Type} [Seconds τ]

def call (call : Call τ) : Run τ (Except (Error τ) Response) := do
  note (.called call)
  let deadline := (← time) + call.timeout
  remark ⟨.debug, .client, call.request.method ++ " " ++ call.place ++ " (" ++
    Number.natText call.request.bytes.length ++ " bytes)"⟩
  match ← transfer call deadline with
  | .error trouble => return .error (.ofTrouble call trouble)
  | .ok bytes =>
    match Response.read bytes with
    | .error fault => return .error (.malformed fault)
    | .ok response =>
      remark ⟨.debug, .client, call.place ++ " -> " ++ Number.natText response.status ++ " " ++
        response.statusText⟩
      return .ok response

end Calls

end Client
end ManagedSwitch
