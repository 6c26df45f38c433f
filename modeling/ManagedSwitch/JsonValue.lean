import ManagedSwitch.Number.Integer
import ManagedSwitch.Text.Quoted

/-!
# Values as indented text

Values of the JSON data format, with integers as the only numbers and with members in order.  They
are written over several lines with two spaces for every level; empty collections stay on one line.
Inside texts, quotation marks, backslashes and control characters are escaped and everything else
stands for itself.
-/

namespace ManagedSwitch

/-- A value. -/
inductive JsonValue
  | int (value : Int)
  | text (value : String)
  | array (items : List JsonValue)
  | object (members : List (String × JsonValue))

namespace JsonValue

section Texts

def escape (c : Char) : List Char :=
  if c = '"' then ['\\', '"']
  else if c = '\\' then ['\\', '\\']
  else if c = '\n' then ['\\', 'n']
  else if c = '\r' then ['\\', 'r']
  else if c = '\t' then ['\\', 't']
  else if c = '\x0c' then ['\\', 'f']
  else if c = '\x08' then ['\\', 'b']
  else if c.toNat < 32 then '\\' :: 'u' :: Text.hex 4 c.toNat
  else [c]

def literal (s : String) : List Char :=
  '"' :: s.toList.flatMap escape ++ ['"']

def newLine (level : Nat) : List Char :=
  '\n' :: List.replicate (2 * level) ' '

end Texts

section Writing

mutual

/-- The characters of a value whose own line is on a level. -/
def write (level : Nat) : JsonValue → List Char
  | .int i => Number.chars i
  | .text s => literal s
  | .array [] => ['[', ']']
  | .array (item :: rest) =>
    '[' :: newLine (level + 1) ++ write (level + 1) item ++ writeItems (level + 1) rest ++
      newLine level ++ [']']
  | .object [] => ['\x7b', '\x7d']
  | .object ((name, value) :: rest) =>
    '\x7b' :: newLine (level + 1) ++ literal name ++ ':' :: ' ' :: write (level + 1) value ++
      writeMembers (level + 1) rest ++ newLine level ++ ['\x7d']

def writeItems (level : Nat) : List JsonValue → List Char
  | [] => []
  | item :: rest => ',' :: newLine level ++ write level item ++ writeItems level rest

def writeMembers (level : Nat) : List (String × JsonValue) → List Char
  | [] => []
  | (name, value) :: rest =>
    ',' :: newLine level ++ literal name ++ ':' :: ' ' :: write level value ++
      writeMembers level rest

end

def render (v : JsonValue) : String :=
  String.ofList (write 0 v)

end Writing

end JsonValue
end ManagedSwitch
