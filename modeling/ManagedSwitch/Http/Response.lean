import ManagedSwitch.Number.Integer
import ManagedSwitch.Table
import ManagedSwitch.Text.Case
import ManagedSwitch.Text.Quoted

/-!
# Responses

A response is a head and a body with an empty line between them.  The first line of the head has the
status; the other ones are headers, of which the last of a name counts.  The head is read byte by
byte, the body as UTF-8 in which faulty bytes are replaced.
-/

namespace ManagedSwitch

/-- A response. -/
structure Response where
  status : Nat
  statusText : String
  headers : Table String String
  body : String

namespace Response

/-- Whether a status says that all went well. -/
def isSuccess (status : Int) : Bool :=
  200 ≤ status && status < 300

/-- Whether the status says that all went well. -/
def ok (r : Response) : Bool :=
  isSuccess r.status

section Faults

/-- Why bytes are no response. -/
inductive Fault
  /-- There is no empty line. -/
  | noEmptyLine (size : Nat) (start : Bytes)
  /-- The first line has no status. -/
  | noStatus (line : String)
deriving DecidableEq

def Fault.message : Fault → String
  | .noEmptyLine size start =>
    "No header terminator in " ++ Number.natText size ++ "-byte response: " ++
      Text.quoteBytes start
  | .noStatus line => "Invalid HTTP status line: " ++ Text.quote line

end Faults

section Lines

/-- Carriage return, line feed, carriage return, line feed. -/
def emptyLine : Bytes := [13, 10, 13, 10]

/-- A text without one line feed at its end. -/
def withoutFinalBreak (cs : List Char) : List Char :=
  match cs.getLast? with
  | some '\n' => cs.dropLast
  | _ => cs

/-- The three digits of a status with a space behind them, and what follows. -/
def statusDigits? : List Char → Option (Nat × List Char)
  | a :: b :: c :: ' ' :: rest =>
    if a.isDigit && b.isDigit && c.isDigit then
      some ((a.toNat - 48) * 100 + (b.toNat - 48) * 10 + (c.toNat - 48), rest)
    else
      none
  | _ => none

def statusLine? (line : List Char) : Option (Nat × List Char) :=
  match Text.after? "HTTP/1.".toList line with
  | some (minor :: ' ' :: rest) =>
    if minor.isDigit then
      (statusDigits? rest).bind fun found =>
        let reason := withoutFinalBreak found.2
        if reason.contains '\n' then none else some (found.1, reason)
    else
      none
  | _ => none

/-- The name and the value of a header line; other lines count for nothing. -/
def headerLine? (line : List Char) : Option (String × String) :=
  match Text.cutAt ':' line with
  | some (name, value) =>
    if name.isEmpty then
      none
    else
      some (Text.lower (String.ofList (Text.trimBy Text.isBlank name)),
        String.ofList (Text.trimBy Text.isBlank value))
  | none => none

end Lines

section Reading

def read (bytes : Bytes) : Except Fault Response :=
  match Text.cutAtText emptyLine bytes with
  | none => .error (.noEmptyLine bytes.length (bytes.take 200))
  | some (head, body) =>
    let chars := head.map fun b => Char.ofNat b.toNat
    match Text.splitOnPair '\r' '\n' chars with
    | [] => .error (.noStatus "")
    | first :: lines =>
      match statusLine? first with
      | none => .error (.noStatus (String.ofList first))
      | some (status, reason) =>
        .ok ⟨status, String.ofList reason, Table.ofList (lines.filterMap headerLine?),
          Text.Utf8.decode body⟩

end Reading

end Response
end ManagedSwitch
