import ManagedSwitch.Yaml.Property

/-!
# Tokens of a stream

A stream is read into tokens from left to right.  In block context, indentation opens and closes
collections, so tokens without characters of their own mark where they start and end.  A node may
turn out to be a key only when the colon after it is reached; until then it is pending, and the
key token is put in front of it afterwards.  A pending key dies at the end of its line or after
1024 characters, which is a fault where the indentation demands a key.

The reading never looks back over a token it has made, so a fault ends the list of tokens with the
token `broken`.
-/

namespace ManagedSwitch
namespace Yaml

/-- A token of a stream. -/
inductive Token
  | directive (value : Directive)
  | documentStart
  | documentEnd
  | blockSequence
  | blockMapping
  | blockEnd
  | flowSequence
  | flowSequenceEnd
  | flowMapping
  | flowMappingEnd
  | flowEntry
  | blockEntry
  | key
  | value
  | alias (name : String)
  | anchor (name : String)
  | tag (value : Tag)
  | scalar (text : String) (plain : Bool)
  | broken (fault : Fault)

/-- A node that a later colon may make a key. -/
structure PendingKey where
  position : Nat
  required : Bool
  index : Nat
  line : Nat
  column : Nat

/-- A reader of tokens between two tokens. -/
structure Scanner where
  here : Cursor
  indent : Int
  outer : List Int
  flow : Nat
  keyAllowed : Bool
  pending : List (Nat × PendingKey)
  tokens : Array Token

namespace Scanner

section Keys

def emit
    (s : Scanner)
    (t : Token) :
    Scanner :=
  { s with tokens := s.tokens.push t }

/-- Whether a pending key can no longer get its colon. -/
def isStale
    (s : Scanner)
    (k : PendingKey) :
    Bool :=
  k.line != s.here.line || 1024 < s.here.index - k.index

/-- Drops the pending keys that can no longer get their colon. -/
def dropStale (s : Scanner) : Except Fault Scanner :=
  if s.pending.any fun e => s.isStale e.2 && e.2.required then
    .error .malformed
  else
    .ok { s with pending := s.pending.filter fun e => !s.isStale e.2 }

/-- Drops the pending key of the current collection. -/
def dropKey (s : Scanner) : Except Fault Scanner :=
  match s.pending.lookup s.flow with
  | some k =>
    if k.required then
      .error .malformed
    else
      .ok { s with pending := s.pending.filter fun e => e.1 != s.flow }
  | none => .ok s

/-- Notes that the next token may become a key. -/
def saveKey (s : Scanner) : Except Fault Scanner :=
  if s.keyAllowed then do
    let required := s.flow == 0 && s.indent == (s.here.column : Int)
    let k : PendingKey :=
      ⟨s.tokens.size, required, s.here.index, s.here.line, s.here.column⟩
    let s ← s.dropKey
    return { s with pending := (s.flow, k) :: s.pending }
  else
    .ok s

end Keys

section Indentation

/-- Closes the block collections indented deeper than a column. -/
def unwindTo
    (column : Int)
    (outer : List Int)
    (s : Scanner) :
    Scanner :=
  if column < s.indent then
    match outer with
    | [] => { s with indent := -1, outer := [] }
    | indent :: outer =>
      unwindTo column outer ({ s with indent := indent, outer := outer }.emit .blockEnd)
  else
    s

/-- Closes the block collections indented deeper than a column; flow collections ignore
indentation. -/
def unwind
    (s : Scanner)
    (column : Int) :
    Scanner :=
  if s.flow == 0 then unwindTo column s.outer s else s

/-- Opens a deeper indentation, if the column is one. -/
def deepen
    (s : Scanner)
    (column : Nat) :
    Option Scanner :=
  if s.indent < (column : Int) then
    some { s with indent := column, outer := s.indent :: s.outer }
  else
    none

end Indentation

section Fetching

/-- Passes spaces, comments and line breaks; a line break in block context allows a key. -/
def skipToToken
    (fuel : Nat)
    (s : Scanner) :
    Scanner :=
  match fuel with
  | 0 => s
  | fuel + 1 =>
    let c := s.here.skipSpaces.skipComment
    match c.lineBreak? with
    | some (_, after) =>
      skipToToken fuel { s with here := after, keyAllowed := s.keyAllowed || s.flow == 0 }
    | none => { s with here := c }

def mark
    (s : Scanner)
    (t : Token) :
    Scanner :=
  { s with here := s.here.next }.emit t

/-- Ends all block collections in front of a document mark or a directive. -/
def leaveDocument (s : Scanner) : Except Fault Scanner := do
  let s ← (s.unwind (-1)).dropKey
  return { s with keyAllowed := false }

/-- A mark of three characters between documents. -/
def fetchSeparator
    (s : Scanner)
    (t : Token) :
    Except Fault Scanner := do
  let s ← s.leaveDocument
  return { s with here := s.here.skip 3 }.emit t

def fetchDirective (s : Scanner) : Except Fault Scanner := do
  let s ← s.leaveDocument
  let (value, after) ← directive s.here
  return { s with here := after }.emit (.directive value)

def fetchFlowStart
    (s : Scanner)
    (t : Token) :
    Except Fault Scanner := do
  let s ← s.saveKey
  return { s with flow := s.flow + 1, keyAllowed := true }.mark t

/-- The end of a flow collection; one too many is a fault. -/
def fetchFlowEnd
    (s : Scanner)
    (t : Token) :
    Except Fault Scanner := do
  let s ← s.dropKey
  if s.flow == 0 then
    .error .malformed
  else
    return { s with flow := s.flow - 1, keyAllowed := false }.mark t

/-- The comma of a flow collection. -/
def fetchFlowEntry (s : Scanner) : Except Fault Scanner := do
  let s ← { s with keyAllowed := true }.dropKey
  return s.mark .flowEntry

/-- Opens a block collection at the cursor, where the column asks for one. -/
def openBlock
    (s : Scanner)
    (t : Token) :
    Except Fault Scanner :=
  if s.flow == 0 then
    if s.keyAllowed then
      match s.deepen s.here.column with
      | some deeper => .ok (deeper.emit t)
      | none => .ok s
    else
      .error .malformed
  else
    .ok s

/-- The dash of a block sequence. -/
def fetchBlockEntry (s : Scanner) : Except Fault Scanner := do
  let s ← s.openBlock .blockSequence
  let s ← { s with keyAllowed := true }.dropKey
  return s.mark .blockEntry

/-- The question mark of a key. -/
def fetchKey (s : Scanner) : Except Fault Scanner := do
  let s ← s.openBlock .blockMapping
  let s ← { s with keyAllowed := s.flow == 0 }.dropKey
  return s.mark .key

/-- Puts the tokens of a key in front of a pending node. -/
def confirmKey
    (s : Scanner)
    (k : PendingKey) :
    Scanner :=
  let s :=
    { s with
      pending := s.pending.filter fun e => e.1 != s.flow
      tokens := s.tokens.insertIdxIfInBounds k.position .key
      keyAllowed := false }
  match if s.flow == 0 then s.deepen k.column else none with
  | some deeper =>
    { deeper with tokens := deeper.tokens.insertIdxIfInBounds k.position .blockMapping }
  | none => s

/-- The colon of a value. -/
def fetchValue (s : Scanner) : Except Fault Scanner :=
  match s.pending.lookup s.flow with
  | some k => .ok ((s.confirmKey k).mark .value)
  | none => do
    let s ← s.openBlock .blockMapping
    let s ← { s with keyAllowed := s.flow == 0 }.dropKey
    return s.mark .value

/-- A token that may be a key: what `read` gives for the cursor behind the next character. -/
def fetchNode
    (s : Scanner)
    (read : Cursor → Except Fault (Token × Cursor)) :
    Except Fault Scanner := do
  let s ← s.saveKey
  let (t, after) ← read s.here
  return { s with here := after, keyAllowed := false }.emit t

def fetchBlock
    (s : Scanner)
    (folded : Bool) :
    Except Fault Scanner := do
  let s ← { s with keyAllowed := true }.dropKey
  let (text, after) ← blockText folded s.indent s.here.next
  return { s with here := after }.emit (.scalar text false)

/-- A plain scalar; a key may follow when it ends after a line break. -/
def fetchPlain (s : Scanner) : Except Fault Scanner := do
  let s ← s.saveKey
  let plain :=
    plainText (s.flow != 0) (s.indent + 1) (s.here.left + 1) s.here [] [] false
  return { s with here := plain.after, keyAllowed := plain.newLine }.emit (.scalar plain.text true)

/-- Whether a plain scalar may start at the cursor. -/
def startsPlain (s : Scanner) : Bool :=
  match s.here.rest with
  | [] => false
  | c :: rest =>
    (!blankOrEnd (some c) && !"-?:,[]\x7b\x7d#&*!|>'\"%@\x60".toList.contains c) ||
      (!blankOrEnd rest.head? && (c == '-' || (s.flow == 0 && (c == '?' || c == ':'))))

/-- Reads the next token at the character `c`. -/
def fetch
    (s : Scanner)
    (c : Char) :
    Except Fault Scanner :=
  let lineStart := s.here.column == 0
  let spaced := blankOrEnd (s.here.peek 1)
  let flow := s.flow != 0
  if c == '%' && lineStart then s.fetchDirective
  else if c == '-' && lineStart && s.here.atSeparator then s.fetchSeparator .documentStart
  else if c == '.' && lineStart && s.here.atSeparator then s.fetchSeparator .documentEnd
  else if c == '[' then s.fetchFlowStart .flowSequence
  else if c == '{' then s.fetchFlowStart .flowMapping
  else if c == ']' then s.fetchFlowEnd .flowSequenceEnd
  else if c == '}' then s.fetchFlowEnd .flowMappingEnd
  else if c == ',' then s.fetchFlowEntry
  else if c == '-' && spaced then s.fetchBlockEntry
  else if c == '?' && (flow || spaced) then s.fetchKey
  else if c == ':' && (flow || spaced) then s.fetchValue
  else if c == '*' then
    s.fetchNode fun here => (anchorName here.next).map fun r => (.alias r.1, r.2)
  else if c == '&' then
    s.fetchNode fun here => (anchorName here.next).map fun r => (.anchor r.1, r.2)
  else if c == '!' then
    s.fetchNode fun here => (nodeTag here).map fun r => (.tag r.1, r.2)
  else if c == '|' && !flow then s.fetchBlock false
  else if c == '>' && !flow then s.fetchBlock true
  else if c == '\'' || c == '"' then
    s.fetchNode fun here =>
      (quotedText (c == '"') (here.left + 1) here.next []).map fun r =>
        (.scalar r.1 false, r.2)
  else if s.startsPlain then s.fetchPlain
  else .error .malformed

def finish (s : Scanner) : Except Fault Scanner :=
  (s.unwind (-1)).dropKey

/-- Reads tokens to the end of the stream or to a fault. -/
def run
    (fuel : Nat)
    (s : Scanner) :
    Array Token :=
  match fuel with
  | 0 => s.tokens.push (.broken .malformed)
  | fuel + 1 =>
    let s := skipToToken (s.here.left + 1) s
    let next : Except Fault (Scanner × Bool) := do
      let s ← s.dropStale
      let s := s.unwind s.here.column
      match s.here.head? with
      | none => return (← s.finish, true)
      | some c => return (← s.fetch c, false)
    match next with
    | .error fault => s.tokens.push (.broken fault)
    | .ok (s, true) => s.tokens
    | .ok (s, false) => run fuel s

end Fetching

end Scanner

/-- The tokens of a stream; a mark of byte order in front of it is passed. -/
def tokens (cs : List Char) : List Token :=
  let start := Cursor.start cs
  let start := if start.head? == some '\uFEFF' then start.next else start
  (Scanner.run (cs.length + 1) ⟨start, -1, [], 0, true, [], #[]⟩).toList

end Yaml
end ManagedSwitch
