import ManagedSwitch.Document.Basic
import ManagedSwitch.Yaml.Cursor

/-!
# Kinds of nodes

Every node has a kind, which its tag names.  A plain scalar without a tag gets its kind from its
text: truth values, numbers in several bases, times, the empty value and the two marks of
mappings, each with a fixed spelling.  `scalar?` makes the value of a scalar of a kind.
-/

namespace ManagedSwitch
namespace Yaml

/-- What a node is. -/
inductive Kind
  | null
  | bool
  | int
  | float
  | binary
  | timestamp
  | text
  | sequence
  | mapping
  | set
  | orderedMap
  | pairs
  | merge
  | default
  | unknown
deriving DecidableEq

/-- Whether nodes of a kind have contents of their own. -/
def Kind.isCollection : Kind → Bool
  | .sequence | .mapping | .set | .orderedMap | .pairs => true
  | _ => false

section Tags

/-- The beginning of the tags of the known kinds. -/
def coreTag : String := "tag:yaml.org,2002:"

def Kind.ofTag (tag : String) : Kind :=
  if tag == coreTag ++ "null" then .null
  else if tag == coreTag ++ "bool" then .bool
  else if tag == coreTag ++ "int" then .int
  else if tag == coreTag ++ "float" then .float
  else if tag == coreTag ++ "binary" then .binary
  else if tag == coreTag ++ "timestamp" then .timestamp
  else if tag == coreTag ++ "str" then .text
  else if tag == coreTag ++ "seq" then .sequence
  else if tag == coreTag ++ "map" then .mapping
  else if tag == coreTag ++ "set" then .set
  else if tag == coreTag ++ "omap" then .orderedMap
  else if tag == coreTag ++ "pairs" then .pairs
  else if tag == coreTag ++ "merge" then .merge
  else if tag == coreTag ++ "value" then .default
  else .unknown

end Tags

section Numbers

/-- A decimal digit or an underscore. -/
def isGrouped (c : Char) : Bool :=
  c.isDigit || c == '_'

/-- A decimal digit followed by digits and underscores. -/
def isGroup : List Char → Bool
  | [] => false
  | c :: rest => c.isDigit && rest.all isGrouped

/-- A part after the first of a number in base sixty. -/
def isSixtieth : List Char → Bool
  | [a] => a.isDigit
  | [a, b] => '0' ≤ a && a ≤ '5' && b.isDigit
  | _ => false

/-- A number in base sixty: at least two parts with colons between them. -/
def isSexagesimal (cs : List Char) : Bool :=
  match Text.splitOn ':' cs with
  | first :: second :: rest => isGroup first && (second :: rest).all isSixtieth
  | _ => false

/-- The spelling of an integer behind its sign. -/
def isInteger (cs : List Char) : Bool :=
  match cs with
  | ['0'] => true
  | '0' :: 'b' :: c :: rest => (c :: rest).all fun d => d == '0' || d == '1' || d == '_'
  | '0' :: 'x' :: c :: rest => (c :: rest).all fun d => Text.isHexDigit d || d == '_'
  | '0' :: c :: rest => (c :: rest).all fun d => ('0' ≤ d && d ≤ '7') || d == '_'
  | _ => cs.head? != some '0' && (isGroup cs || isSexagesimal cs)

/-- An exponent with its sign, or nothing. -/
def isExponent : List Char → Bool
  | [] => true
  | e :: sign :: d :: rest =>
    (e == 'e' || e == 'E') && (sign == '-' || sign == '+') && (d :: rest).all Char.isDigit
  | _ => false

/-- Digits and underscores, then an exponent or nothing. -/
def isFraction (cs : List Char) : Bool :=
  isExponent (cs.dropWhile isGrouped)

/-- The spelling of a double behind its sign. -/
def isSignedFloat (cs : List Char) : Bool :=
  match Text.cutAt '.' cs with
  | some (left, right) =>
    (isGroup left && isFraction right) || (isSexagesimal left && right.all isGrouped) ||
      (left.isEmpty && ["inf", "Inf", "INF"].contains (String.ofList right))
  | none => false

/-- The spelling of a double that has no sign. -/
def isUnsignedFloat : List Char → Bool
  | '.' :: c :: rest =>
    (c.isDigit && isFraction (c :: rest)) ||
      ["nan", "NaN", "NAN"].contains (String.ofList (c :: rest))
  | _ => false

def isFloat (cs : List Char) : Bool :=
  isSignedFloat (Number.takeSign cs).2 || isUnsignedFloat cs

end Numbers

section Times

/-- The parts of a written time. -/
structure TimeText where
  year : Nat
  month : Nat
  day : Nat
  time : Option (Nat × Nat × Nat)
  micro : Nat
  offset : Option Int

/-- One or two digits in front, as a number. -/
def shortNumber? : List Char → Option (Nat × List Char)
  | a :: b :: rest =>
    if a.isDigit then
      if b.isDigit then
        some ((a.toNat - 48) * 10 + (b.toNat - 48), rest)
      else
        some (a.toNat - 48, b :: rest)
    else
      none
  | [a] => if a.isDigit then some (a.toNat - 48, []) else none
  | [] => none

def twoDigits? : List Char → Option (Nat × List Char)
  | a :: b :: rest =>
    if a.isDigit && b.isDigit then
      some ((a.toNat - 48) * 10 + (b.toNat - 48), rest)
    else
      none
  | _ => none

def expect?
    (c : Char) :
    List Char → Option (List Char)
  | [] => none
  | d :: rest => if d = c then some rest else none

def isTimeSpace (c : Char) : Bool :=
  c == ' ' || c == '\t'

/-- What stands between a day and a time. -/
def timeGap? : List Char → Option (List Char)
  | [] => none
  | c :: rest =>
    if c == 'T' || c == 't' then some rest
    else if isTimeSpace c then some (rest.dropWhile isTimeSpace)
    else none

/-- The offset at the end of a time, in minutes; none is written where nothing is left. -/
def timeOffset? (cs : List Char) : Option (Option Int) :=
  match cs.dropWhile isTimeSpace with
  | [] => if cs.isEmpty then some none else none
  | ['Z'] => some (some 0)
  | sign :: rest =>
    if sign == '-' || sign == '+' then do
      let (hours, rest) ← shortNumber? rest
      let minutes ←
        if rest.isEmpty then
          pure 0
        else do
          let (minutes, rest) ← (expect? ':' rest).bind twoDigits?
          if rest.isEmpty then pure minutes else none
      return some (Number.signed (sign == '-') (hours * 60 + minutes))
    else
      none

/-- A fraction of a second, cut to microseconds. -/
def microseconds (ds : List Char) : Nat :=
  let kept := ds.take 6
  (Number.ofDigits? 10 0 (kept ++ List.replicate (6 - kept.length) '0')).getD 0

def timeText? (cs : List Char) : Option TimeText := do
  let (y₁, rest) ← twoDigits? cs
  let (y₂, rest) ← twoDigits? rest
  let (month, rest) ← (expect? '-' rest).bind shortNumber?
  let (day, rest) ← (expect? '-' rest).bind shortNumber?
  let year := y₁ * 100 + y₂
  if rest.isEmpty then
    return ⟨year, month, day, none, 0, none⟩
  else
    let (hour, rest) ← (timeGap? rest).bind shortNumber?
    let (minute, rest) ← (expect? ':' rest).bind twoDigits?
    let (second, rest) ← (expect? ':' rest).bind twoDigits?
    let (fraction, rest) :=
      match rest with
      | '.' :: tail => (tail.takeWhile Char.isDigit, tail.dropWhile Char.isDigit)
      | _ => ([], rest)
    let offset ← timeOffset? rest
    return ⟨year, month, day, some (hour, minute, second), microseconds fraction, offset⟩

/-- The spelling of a time that needs no tag: a day alone has two digits for month and day. -/
def isTime (cs : List Char) : Bool :=
  match timeText? cs with
  | some t => t.time.isSome || cs.length == 10
  | none => false

end Times

section Implicit

def truthWords : List String := [
  "yes", "Yes", "YES", "no", "No", "NO", "true", "True", "TRUE", "false", "False", "FALSE",
  "on", "On", "ON", "off", "Off", "OFF"]

def nullWords : List String := ["", "~", "null", "Null", "NULL"]

/-- A text without one line feed at its end. -/
def dropFinalBreak (cs : List Char) : List Char :=
  match cs.getLast? with
  | some '\n' => cs.dropLast
  | _ => cs

/-- The kind that a plain text has by its spelling. -/
def Kind.ofText (s : String) : Kind :=
  let cs := dropFinalBreak s.toList
  let word := String.ofList cs
  if s == "\n" then .text
  else if truthWords.contains word then .bool
  else if isFloat cs then .float
  else if isInteger (Number.takeSign cs).2 then .int
  else if isTime cs then .timestamp
  else if nullWords.contains word then .null
  else if word == "<<" then .merge
  else if word == "=" then .default
  else if ["!", "&", "*"].contains word then .unknown
  else .text

end Implicit

section Values

/-- The integer that a text spells; octal numbers start with a zero. -/
def integerValue (s : String) : Except Fault Int :=
  let cs := s.toList.filter (· != '_')
  let orBad (i? : Option Int) : Except Fault Int :=
    match i? with
    | some i => .ok i
    | none => .error .badNumber
  let (negative, body) := Number.takeSign cs
  let negate (i : Int) : Int := if negative then -i else i
  match body with
  | [] => .error .emptyNumber
  | ['0'] => .ok 0
  | '0' :: 'b' :: ds => (orBad (Number.readIn? 2 (String.ofList ds))).map negate
  | '0' :: 'x' :: ds => (orBad (Number.readIn? 16 (String.ofList ds))).map negate
  | '0' :: _ => (orBad (Number.readIn? 8 (String.ofList body))).map negate
  | _ =>
    if body.contains ':' then do
      let parts ← (Text.splitOn ':' body).mapM fun p => orBad (Number.read? (String.ofList p))
      return negate (parts.foldl (fun n p => n * 60 + p) 0)
    else
      (orBad (Number.read? (String.ofList body))).map negate

/-- The double that parts in base sixty give, the last part first. -/
def sexagesimalValue
    (base acc : Float) :
    List Float → Float
  | [] => acc
  | p :: rest => sexagesimalValue (base * 60) (acc + p * base) rest

def floatValue (s : String) : Except Fault Float :=
  let cs := (Text.lower (String.ofList (s.toList.filter (· != '_')))).toList
  let orBad (x? : Option Float) : Except Fault Float :=
    match x? with
    | some x => .ok x
    | none => .error .badNumber
  let (negative, body) := Number.takeSign cs
  let negate (x : Float) : Float := if negative then -x else x
  if cs.isEmpty then
    .error .emptyNumber
  else if body == ".inf".toList then
    .ok (negate (1.0 / 0.0))
  else if body == ".nan".toList then
    .ok (0.0 / 0.0)
  else if body.contains ':' then do
    let parts ←
      (Text.splitOn ':' body).mapM fun p => orBad (Number.Binary64.read? (String.ofList p))
    return negate (sexagesimalValue 1 0 parts.reverse)
  else
    (orBad (Number.Binary64.read? (String.ofList body))).map negate

def truthValue (s : String) : Except Fault Bool :=
  let word := Text.lower s
  if ["yes", "true", "on"].contains word then .ok true
  else if ["no", "false", "off"].contains word then .ok false
  else .error .unknownTruth

/-- The value of a character of the sixty-four. -/
def sextet? (c : Char) : Option Nat :=
  if 'A' ≤ c && c ≤ 'Z' then some (c.toNat - 65)
  else if 'a' ≤ c && c ≤ 'z' then some (c.toNat - 71)
  else if c.isDigit then some (c.toNat + 4)
  else if c == '+' then some 62
  else if c == '/' then some 63
  else none

/-- Decodes groups of four sextets: `held` sextets with the bits `acc` are waiting for the rest of
their group, after which `pads` padding signs have come.  Other characters are passed over, and a
complete padding ends the reading. -/
def base64Bytes
    (held acc pads : Nat) :
    List Char → Except Fault Bytes
  | [] => if held = 0 then .ok [] else .error .malformed
  | c :: rest =>
    if c == '=' then
      if 2 ≤ held && 4 ≤ held + pads + 1 then
        .ok []
      else
        base64Bytes held acc (if 2 ≤ held then pads + 1 else pads) rest
    else
      match sextet? c with
      | none => base64Bytes held acc pads rest
      | some v =>
        let bits := acc * 64 + v
        if held = 0 then
          base64Bytes 1 v 0 rest
        else if held = 1 then
          (base64Bytes 2 (bits % 16) 0 rest).map (UInt8.ofNat (bits / 16) :: ·)
        else if held = 2 then
          (base64Bytes 3 (bits % 4) 0 rest).map (UInt8.ofNat (bits / 4) :: ·)
        else
          (base64Bytes 0 0 0 rest).map (UInt8.ofNat bits :: ·)

def binaryValue (s : String) : Except Fault Bytes :=
  if s.toList.all (·.toNat < 128) then base64Bytes 0 0 0 s.toList else .error .malformed

def timeValue (s : String) : Except Fault Document :=
  match timeText? (dropFinalBreak s.toList) with
  | none => .error .notTime
  | some t =>
    match Document.Day.of? t.year t.month t.day with
    | none => .error .badNumber
    | some day =>
      match t.time with
      | none => .ok (.date day)
      | some (hour, minute, second) =>
        match Document.Moment.of? day hour minute second t.micro t.offset with
        | some moment => .ok (.moment moment)
        | none => .error .badNumber

def scalarValue
    (kind : Kind)
    (s : String) :
    Except Fault Document :=
  match kind with
  | .null => .ok .null
  | .bool => (truthValue s).map .bool
  | .int => (integerValue s).map .int
  | .float => (floatValue s).map .float
  | .binary => (binaryValue s).map .bytes
  | .timestamp => timeValue s
  | .text => .ok (.text s)
  | _ => .error .malformed

end Values

end Yaml
end ManagedSwitch
