/-!
# Positions in a stream

A cursor is the rest of a stream with the number of characters read, the line and the column, and
with the size of the whole stream, which tells how many characters are left.  The mark of byte order
has no width.  Line breaks are the line feed, the next-line character and the
two Unicode separators; carriage returns have become line feeds before.
-/

namespace ManagedSwitch
namespace Yaml

/-- Why a stream has no document. -/
inductive Fault
  /-- The stream breaks the rules of the format. -/
  | malformed
  /-- A number, a date or a code point that is written but does not exist. -/
  | badNumber
  /-- A truth value that is not one of the known words. -/
  | unknownTruth
  /-- A number without characters. -/
  | emptyNumber
  /-- A time that is not written as one. -/
  | notTime
  /-- A mapping where the text of a time is needed. -/
  | timeFromMapping
  /-- A code point beyond the numbers that escapes can hold. -/
  | hugeCode
deriving DecidableEq

section Classes

def isBreak (c : Char) : Bool :=
  c == '\n' || c == '\x85' || c == '\u2028' || c == '\u2029'

def breakOrEnd : Option Char → Bool
  | none => true
  | some c => isBreak c

/-- A space, a line break or the end. -/
def spaceOrEnd : Option Char → Bool
  | none => true
  | some c => c == ' ' || isBreak c

/-- A space, a tab, a line break or the end. -/
def blankOrEnd : Option Char → Bool
  | none => true
  | some c => c == ' ' || c == '\t' || isBreak c

/-- A character of the names of anchors and directives. -/
def isWord (c : Char) : Bool :=
  c.isAlphanum || c == '-' || c == '_'

end Classes

/-- The rest of a stream and where it starts. -/
structure Cursor where
  rest : List Char
  size : Nat
  index : Nat
  line : Nat
  column : Nat

namespace Cursor

section Moves

def start (cs : List Char) : Cursor :=
  ⟨cs, cs.length, 0, 0, 0⟩

/-- How many characters are left; as many turns and one more end every loop that passes a character
in each turn. -/
def left (c : Cursor) : Nat :=
  c.size - c.index

/-- The character ahead by `k`. -/
def peek
    (c : Cursor)
    (k : Nat) :
    Option Char :=
  c.rest[k]?

def head? (c : Cursor) : Option Char :=
  c.rest.head?

def next (c : Cursor) : Cursor :=
  match c.rest with
  | [] => c
  | ch :: rest =>
    if isBreak ch then
      { c with rest := rest, index := c.index + 1, line := c.line + 1, column := 0 }
    else if ch == '\uFEFF' then
      { c with rest := rest, index := c.index + 1 }
    else
      { c with rest := rest, index := c.index + 1, column := c.column + 1 }

def skip
    (c : Cursor) :
    Nat → Cursor
  | 0 => c
  | n + 1 => skip c.next n

/-- The longest run of characters of a class, and the cursor after it. -/
def span
    (c : Cursor)
    (p : Char → Bool) :
    List Char × Cursor :=
  let run := c.rest.takeWhile p
  (run, c.skip run.length)

def skipWhile
    (c : Cursor)
    (p : Char → Bool) :
    Cursor :=
  (c.span p).2

def skipSpaces (c : Cursor) : Cursor :=
  c.skipWhile (· == ' ')

def skipComment (c : Cursor) : Cursor :=
  if c.head? == some '#' then c.skipWhile (!isBreak ·) else c

/-- Passes a line break: the two separators keep their own character, the others become a line
feed. -/
def lineBreak? (c : Cursor) : Option (Char × Cursor) :=
  match c.head? with
  | none => none
  | some ch =>
    if ch == '\u2028' || ch == '\u2029' then some (ch, c.next)
    else if isBreak ch then some ('\n', c.next)
    else none

/-- Whether the line here starts with a mark between documents. -/
def atSeparator (c : Cursor) : Bool :=
  match c.rest with
  | a :: b :: d :: rest =>
    a == b && b == d && (a == '-' || a == '.') && blankOrEnd rest.head?
  | _ => false

/-- Passes the rest of a line that holds spaces and a comment at most. -/
def finishLine (c : Cursor) : Except Fault Cursor :=
  let c := c.skipSpaces.skipComment
  if breakOrEnd c.head? then
    .ok (match c.lineBreak? with
      | some (_, after) => after
      | none => c)
  else
    .error .malformed

end Moves

end Cursor
end Yaml
end ManagedSwitch
