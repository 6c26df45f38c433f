import ManagedSwitch.Text.Hex
import ManagedSwitch.Yaml.Cursor

/-!
# The text of scalars

Four ways to write a text: plain, between single or double quotation marks, and in a block.  In
the first three, a line break inside the text becomes a space, and of several line breaks the
first is dropped; a block keeps its line breaks, or folds them in the same way.

Each reader takes the cursor behind its opening mark and gives the text with the cursor behind it.
Every turn of a loop passes a character, so the length of the rest bounds the number of turns.
-/

namespace ManagedSwitch
namespace Yaml

section Quoted

/-- The characters that short escapes stand for. -/
def escapes : List (Char × Char) := [
  ('0', '\x00'), ('a', '\x07'), ('b', '\x08'), ('t', '\t'), ('\t', '\t'), ('n', '\n'),
  ('v', '\x0b'), ('f', '\x0c'), ('r', '\r'), ('e', '\x1b'), (' ', ' '), ('"', '"'),
  ('\\', '\\'), ('/', '/'), ('N', '\x85'), ('_', '\xa0'), ('L', '\u2028'), ('P', '\u2029')]

/-- How many hexadecimal digits follow the letter of a long escape. -/
def escapeWidth? : Char → Option Nat
  | 'x' => some 2
  | 'u' => some 4
  | 'U' => some 8
  | _ => none

/-- The number that hexadecimal digits write. -/
def hexNumber (ds : List Char) : Nat :=
  ds.foldl (fun n d => n * 16 + (Text.hexValue? d).getD 0) 0

def charOfCode (n : Nat) : Except Fault Char :=
  if n < 0x110000 then .ok (Char.ofNat n)
  else if n < 0x80000000 then .error .badNumber
  else .error .hugeCode

/-- Line breaks and the white space around them, after the first line break of a quoted text; a
mark between documents may not stand there. -/
def quotedBreaks
    (fuel : Nat)
    (c : Cursor)
    (acc : List Char) :
    Except Fault (List Char × Cursor) :=
  match fuel with
  | 0 => .error .malformed
  | fuel + 1 =>
    if c.atSeparator then
      .error .malformed
    else
      let c := c.skipWhile fun ch => ch == ' ' || ch == '\t'
      match c.lineBreak? with
      | some (ch, after) => quotedBreaks fuel after (ch :: acc)
      | none => .ok (acc.reverse, c)

/-- White space inside a quoted text: kept within a line, folded where it holds a line break. -/
def quotedSpace (c : Cursor) : Except Fault (List Char × Cursor) :=
  let (run, c) := c.span fun ch => ch == ' ' || ch == '\t'
  if c.rest.isEmpty then
    .error .malformed
  else
    match c.lineBreak? with
    | none => .ok (run, c)
    | some (ch, after) => do
      let (breaks, c) ← quotedBreaks (after.left + 1) after []
      let first := if ch != '\n' then [ch] else if breaks.isEmpty then [' '] else []
      return (first ++ breaks, c)

/-- An escape, with the cursor behind the backslash: what it stands for. -/
def quotedEscape (c : Cursor) : Except Fault (List Char × Cursor) :=
  match c.head? with
  | none => .error .malformed
  | some ch =>
    match escapes.lookup ch with
    | some value => .ok ([value], c.next)
    | none =>
      match escapeWidth? ch with
      | some width =>
        let digits := c.next.rest.take width
        if digits.length = width && digits.all Text.isHexDigit then do
          let value ← charOfCode (hexNumber digits)
          return ([value], c.next.skip width)
        else
          .error .malformed
      | none =>
        match c.lineBreak? with
        | some (_, after) => quotedBreaks (after.left + 1) after []
        | none => .error .malformed

/-- A character that ends a run of ordinary characters in a quoted text. -/
def stopsQuotedRun (c : Char) : Bool :=
  c == '\'' || c == '"' || c == '\\' || c == ' ' || c == '\t' || isBreak c

/-- The text up to the closing mark; `acc` holds what has been read, reversed. -/
def quotedText
    (double : Bool)
    (fuel : Nat)
    (c : Cursor)
    (acc : List Char) :
    Except Fault (String × Cursor) :=
  match fuel with
  | 0 => .error .malformed
  | fuel + 1 =>
    let (run, c) := c.span fun ch => !stopsQuotedRun ch
    let acc := run.reverseAux acc
    match c.head? with
    | none => .error .malformed
    | some ch =>
      if ch == '\'' && !double then
        if c.peek 1 == some '\'' then
          quotedText double fuel (c.skip 2) ('\'' :: acc)
        else
          .ok (String.ofList acc.reverse, c.next)
      else if ch == '"' && double then
        .ok (String.ofList acc.reverse, c.next)
      else if ch == '\'' || ch == '"' || (ch == '\\' && !double) then
        quotedText double fuel c.next (ch :: acc)
      else if ch == '\\' then do
        let (value, c) ← quotedEscape c.next
        quotedText double fuel c (value.reverseAux acc)
      else do
        let (value, c) ← quotedSpace c
        quotedText double fuel c (value.reverseAux acc)

end Quoted

section Plain

/-- A character that only separates in flow collections. -/
def isFlowMark (c : Char) : Bool :=
  c == ',' || c == '[' || c == ']' || c == '{' || c == '}'

/-- The run of characters without white space that a plain text continues with. -/
def plainRun (flow : Bool) : List Char → List Char
  | [] => []
  | c :: rest =>
    if blankOrEnd (some c) then
      []
    else if c == ':' && (blankOrEnd rest.head? || (flow && rest.head?.any isFlowMark)) then
      []
    else if flow && (isFlowMark c || c == '?') then
      []
    else
      c :: plainRun flow rest

/-- Line breaks and spaces after the first line break of a plain text; none where a mark between
documents follows. -/
def plainBreaks
    (fuel : Nat)
    (c : Cursor)
    (acc : List Char) :
    Option (List Char) × Cursor :=
  match fuel with
  | 0 => (none, c)
  | fuel + 1 =>
    if c.head? == some ' ' then
      plainBreaks fuel c.next acc
    else
      match c.lineBreak? with
      | some (ch, after) =>
        if after.atSeparator then (none, after) else plainBreaks fuel after (ch :: acc)
      | none => (some acc.reverse, c)

/-- White space inside a plain text: what it stands for, the cursor behind it, and whether a line
break was passed. -/
def plainSpace (c : Cursor) : List Char × Cursor × Bool :=
  let (run, c) := c.span (· == ' ')
  match c.lineBreak? with
  | none => (run, c, false)
  | some (ch, after) =>
    if after.atSeparator then
      ([], after, true)
    else
      match plainBreaks (after.left + 1) after [] with
      | (none, c) => ([], c, true)
      | (some breaks, c) =>
        let first := if ch != '\n' then [ch] else if breaks.isEmpty then [' '] else []
        (first ++ breaks, c, true)

/-- A plain text with its cursor, and whether it ends after a line break. -/
structure PlainText where
  text : String
  after : Cursor
  newLine : Bool

/-- The plain text that has been read, reversed. -/
def PlainText.ofReversed
    (acc : List Char)
    (after : Cursor)
    (newLine : Bool) :
    PlainText :=
  ⟨String.ofList acc.reverse, after, newLine⟩

/-- Continues a plain text: `acc` holds what has been read, reversed, `space` the white space
before the cursor, and `newLine` tells whether that holds a line break. -/
def plainText
    (flow : Bool)
    (indent : Int)
    (fuel : Nat)
    (c : Cursor)
    (acc space : List Char)
    (newLine : Bool) :
    PlainText :=
  match fuel with
  | 0 => .ofReversed acc c newLine
  | fuel + 1 =>
    if c.head? == some '#' then
      .ofReversed acc c newLine
    else
      let run := plainRun flow c.rest
      if run.isEmpty then
        .ofReversed acc c newLine
      else
        let acc := run.reverseAux (space.reverseAux acc)
        let (space, c, newLine) := plainSpace (c.skip run.length)
        if space.isEmpty || c.head? == some '#' || (!flow && (c.column : Int) < indent) then
          .ofReversed acc c newLine
        else
          plainText flow indent fuel c acc space newLine

end Plain

section Block

/-- What becomes of the line breaks at the end of a block. -/
inductive Chomping
  | strip
  | clip
  | keep
deriving DecidableEq

/-- The marks of a block: chomping and, where given, the indentation relative to the parent. -/
structure BlockHeader where
  chomping : Chomping
  increment : Option Nat

def chomping? : Option Char → Option Chomping
  | some '+' => some .keep
  | some '-' => some .strip
  | _ => none

/-- The indentation that a digit asks for; zero is a fault. -/
def increment? (c : Option Char) : Except Fault (Option Nat) :=
  match c with
  | some d =>
    if d.isDigit then
      if d == '0' then .error .malformed else .ok (some (d.toNat - 48))
    else
      .ok none
  | none => .ok none

/-- The header of a block, up to the start of the next line. -/
def blockHeader (c : Cursor) : Except Fault (BlockHeader × Cursor) := do
  let finish (header : BlockHeader) (c : Cursor) : Except Fault (BlockHeader × Cursor) :=
    if spaceOrEnd c.head? then do
      let after ← c.finishLine
      return (header, after)
    else
      .error .malformed
  match chomping? c.head? with
  | some chomping =>
    match ← increment? c.next.head? with
    | some n => finish ⟨chomping, some n⟩ (c.skip 2)
    | none => finish ⟨chomping, none⟩ c.next
  | none =>
    match ← increment? c.head? with
    | some n =>
      match chomping? c.next.head? with
      | some chomping => finish ⟨chomping, some n⟩ (c.skip 2)
      | none => finish ⟨.clip, some n⟩ c.next
    | none => finish ⟨.clip, none⟩ c

/-- The empty lines before the first line of a block, and the deepest column reached. -/
def leadingBreaks
    (fuel : Nat)
    (c : Cursor)
    (acc : List Char)
    (deepest : Nat) :
    List Char × Nat × Cursor :=
  match fuel with
  | 0 => (acc.reverse, deepest, c)
  | fuel + 1 =>
    if c.head? == some ' ' then
      leadingBreaks fuel c.next acc (max deepest c.next.column)
    else
      match c.lineBreak? with
      | some (ch, after) => leadingBreaks fuel after (ch :: acc) deepest
      | none => (acc.reverse, deepest, c)

def skipIndent
    (indent : Int)
    (fuel : Nat)
    (c : Cursor) :
    Cursor :=
  match fuel with
  | 0 => c
  | fuel + 1 =>
    if (c.column : Int) < indent && c.head? == some ' ' then
      skipIndent indent fuel c.next
    else
      c

/-- The empty lines between two lines of a block. -/
def blockBreaks
    (indent : Int)
    (fuel : Nat)
    (c : Cursor)
    (acc : List Char) :
    List Char × Cursor :=
  match fuel with
  | 0 => (acc.reverse, c)
  | fuel + 1 =>
    let c := skipIndent indent (c.left + 1) c
    match c.lineBreak? with
    | some (ch, after) => blockBreaks indent fuel after (ch :: acc)
    | none => (acc.reverse, c)

/-- The lines of a block from the cursor on: `acc` holds what has been read, reversed, `last` the
line break before the cursor and `breaks` the empty lines after it. -/
def blockLines
    (folded : Bool)
    (header : BlockHeader)
    (indent : Int)
    (fuel : Nat)
    (c : Cursor)
    (acc last breaks : List Char) :
    String × Cursor :=
  let finish (acc last breaks : List Char) (c : Cursor) : String × Cursor :=
    let acc := if header.chomping = .strip then acc else last.reverseAux acc
    let acc := if header.chomping = .keep then breaks.reverseAux acc else acc
    (String.ofList acc.reverse, c)
  match fuel with
  | 0 => finish acc last breaks c
  | fuel + 1 =>
    if (c.column : Int) == indent && !c.rest.isEmpty then
      let acc := breaks.reverseAux acc
      let indented := c.head? == some ' ' || c.head? == some '\t'
      let (run, c) := c.span (!isBreak ·)
      let acc := run.reverseAux acc
      let (last, c) :=
        match c.lineBreak? with
        | some (ch, after) => ([ch], after)
        | none => ([], c)
      let (breaks, c) := blockBreaks indent (c.left + 1) c []
      if (c.column : Int) == indent && !c.rest.isEmpty then
        let nextIndented := c.head? == some ' ' || c.head? == some '\t'
        let joined :=
          if folded && last == ['\n'] && !indented && !nextIndented then
            if breaks.isEmpty then [' '] else []
          else
            last
        blockLines folded header indent fuel c (joined.reverseAux acc) [] breaks
      else
        finish acc last breaks c
    else
      finish acc last breaks c

/-- The text of a block inside a parent indented by `parent`. -/
def blockText
    (folded : Bool)
    (parent : Int)
    (c : Cursor) :
    Except Fault (String × Cursor) := do
  let (header, c) ← blockHeader c
  let least := max (parent + 1) 1
  match header.increment with
  | none =>
    let (breaks, deepest, c) := leadingBreaks (c.left + 1) c [] 0
    let indent := max least deepest
    return blockLines folded header indent (c.left + 1) c [] [] breaks
  | some n =>
    let indent := least + n - 1
    let (breaks, c) := blockBreaks indent (c.left + 1) c []
    return blockLines folded header indent (c.left + 1) c [] [] breaks

end Block

end Yaml
end ManagedSwitch
