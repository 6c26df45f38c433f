import ManagedSwitch.Number.Integer
import ManagedSwitch.Text.Utf8
import ManagedSwitch.Yaml.Scalar

/-!
# Anchors, tags and directives

The marks in front of a node and in front of a document.  A tag is a handle, which a directive may
define, with a suffix; the suffix is read with its percent-encoded characters decoded.
-/

namespace ManagedSwitch
namespace Yaml

/-- A tag as written: without a handle the suffix is the whole tag. -/
structure Tag where
  handle : Option String
  suffix : String

/-- A directive in front of a document. -/
inductive Directive
  | version (major : Nat)
  | handle (name expansion : String)
  | unknown

section Names

/-- A non-empty run of word characters. -/
def wordName (c : Cursor) : Except Fault (String × Cursor) :=
  let (run, after) := c.span isWord
  if run.isEmpty then .error .malformed else .ok (String.ofList run, after)

/-- What may follow the name of an anchor or an alias. -/
def endsAnchor (c : Option Char) : Bool :=
  blankOrEnd c || c.any fun ch =>
    ch == '?' || ch == ':' || ch == ',' || ch == ']' || ch == '}' || ch == '%' || ch == '@' ||
      ch == '\x60'

/-- The name of an anchor or an alias, with the cursor behind its mark. -/
def anchorName (c : Cursor) : Except Fault (String × Cursor) := do
  let (name, after) ← wordName c
  if endsAnchor after.head? then return (name, after) else .error .malformed

end Names

section Tags

/-- A character that may stand in the suffix of a tag. -/
def isUriChar (c : Char) : Bool :=
  c.isAlphanum || "-;/?:@&=+$,_.!~*'()[]%".toList.contains c

/-- The bytes of a run of percent-encoded bytes. -/
def uriBytes
    (fuel : Nat)
    (c : Cursor)
    (acc : Bytes) :
    Except Fault (Bytes × Cursor) :=
  match fuel with
  | 0 => .error .malformed
  | fuel + 1 =>
    if c.head? == some '%' then
      let ds := (c.rest.drop 1).take 2
      if ds.length = 2 && ds.all Text.isHexDigit then
        uriBytes fuel (c.skip 3) (UInt8.ofNat (hexNumber ds) :: acc)
      else
        .error .malformed
    else
      .ok (acc.reverse, c)

/-- The characters of a suffix; `acc` holds what has been read, reversed. -/
def uriChars
    (fuel : Nat)
    (c : Cursor)
    (acc : List Char) :
    Except Fault (List Char × Cursor) :=
  match fuel with
  | 0 => .error .malformed
  | fuel + 1 =>
    match c.head? with
    | some '%' => do
      let (bytes, after) ← uriBytes (c.left + 1) c []
      match Text.Utf8.decodeChars? bytes with
      | some cs => uriChars fuel after (cs.reverseAux acc)
      | none => .error .malformed
    | some ch => if isUriChar ch then uriChars fuel c.next (ch :: acc) else .ok (acc.reverse, c)
    | none => .ok (acc.reverse, c)

/-- A suffix with at least one character. -/
def tagUri (c : Cursor) : Except Fault (String × Cursor) := do
  let (cs, after) ← uriChars (c.left + 1) c []
  if after.index = c.index then .error .malformed else return (String.ofList cs, after)

/-- A handle: one mark, or a word between two marks. -/
def tagHandle (c : Cursor) : Except Fault (String × Cursor) :=
  if c.head? != some '!' then
    .error .malformed
  else if c.peek 1 == some ' ' then
    .ok ("!", c.next)
  else
    let (name, after) := c.next.span isWord
    if after.head? == some '!' then
      .ok (String.ofList ('!' :: name ++ ['!']), after.next)
    else
      .error .malformed

/-- Whether a second mark stands before the next space. -/
def hasSecondMark : List Char → Bool
  | [] => false
  | c :: rest => c == '!' || (!spaceOrEnd (some c) && hasSecondMark rest)

def nodeTag (c : Cursor) : Except Fault (Tag × Cursor) := do
  let (tag, after) ←
    if c.peek 1 == some '<' then do
      let (suffix, after) ← tagUri (c.skip 2)
      if after.head? == some '>' then pure ((⟨none, suffix⟩ : Tag), after.next)
      else .error .malformed
    else if blankOrEnd (c.peek 1) then
      pure ((⟨none, "!"⟩ : Tag), c.next)
    else if hasSecondMark (c.rest.drop 1) then do
      let (handle, after) ← tagHandle c
      let (suffix, after) ← tagUri after
      pure ((⟨some handle, suffix⟩ : Tag), after)
    else do
      let (suffix, after) ← tagUri c.next
      pure ((⟨some "!", suffix⟩ : Tag), after)
  if spaceOrEnd after.head? then return (tag, after) else .error .malformed

end Tags

section Directives

/-- A number of a version; too many digits are a fault of their own. -/
def versionNumber (c : Cursor) : Except Fault (Nat × Cursor) :=
  let (ds, after) := c.span Char.isDigit
  if ds.isEmpty then
    .error .malformed
  else if Number.digitLimit < ds.length then
    .error .badNumber
  else
    .ok ((Number.ofDigits? 10 0 ds).getD 0, after)

def versionDirective (c : Cursor) : Except Fault (Directive × Cursor) := do
  let (major, c) ← versionNumber c.skipSpaces
  if c.head? != some '.' then
    .error .malformed
  else
    let (_, c) ← versionNumber c.next
    if spaceOrEnd c.head? then return (.version major, c) else .error .malformed

/-- The value of a directive that defines a handle. -/
def handleDirective (c : Cursor) : Except Fault (Directive × Cursor) := do
  let (name, c) ← tagHandle c.skipSpaces
  if c.head? != some ' ' then
    .error .malformed
  else
    let (expansion, c) ← tagUri c.skipSpaces
    if spaceOrEnd c.head? then return (.handle name expansion, c) else .error .malformed

/-- A directive, with the cursor at its mark. -/
def directive (c : Cursor) : Except Fault (Directive × Cursor) := do
  let (name, c) ← wordName c.next
  if !spaceOrEnd c.head? then
    .error .malformed
  else
    let (value, c) ←
      if name == "YAML" then versionDirective c
      else if name == "TAG" then handleDirective c
      else pure (.unknown, c.skipWhile (!isBreak ·))
    let after ← c.finishLine
    return (value, after)

end Directives

end Yaml
end ManagedSwitch
