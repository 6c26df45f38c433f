import ManagedSwitch.Yaml.Tree

/-!
# Streams

A stream is a file in UTF-8 with any of the usual line ends.  `Yaml.document` reads the one document
that it holds; a stream without a document holds the empty value.
-/

namespace ManagedSwitch
namespace Yaml

section Characters

/-- Turns the two line ends with a carriage return into line feeds. -/
def unifyLineEnds : List Char → List Char
  | [] => []
  | '\r' :: '\n' :: rest => '\n' :: unifyLineEnds rest
  | '\r' :: rest => '\n' :: unifyLineEnds rest
  | c :: rest => c :: unifyLineEnds rest

def isAllowed (c : Char) : Bool :=
  let n := c.toNat
  n == 9 || n == 10 || n == 13 || (0x20 ≤ n && n ≤ 0x7E) || n == 0x85 ||
    (0xA0 ≤ n && n ≤ 0xD7FF) || (0xE000 ≤ n && n ≤ 0xFFFD) || 0x10000 ≤ n

end Characters

section Documents

/-- Why a file holds no document. -/
inductive Unreadable
  /-- The bytes are not UTF-8. -/
  | notText
  /-- The text is not a stream with one document. -/
  | faulty (fault : Fault)
deriving DecidableEq

/-- The document of a sequence of characters. -/
def ofChars (cs : List Char) : Except Fault Document := do
  if !cs.all isAllowed then
    .error .malformed
  match ← Node.ofTokens (tokens cs) with
  | none => return .null
  | some node =>
    let tree ← Tree.ofDocumentNode node
    let reading := tree.read
    match reading.fault with
    | some (_, fault) => .error fault
    | none => return reading.document

def document (bytes : Bytes) : Except Unreadable Document :=
  match Text.Utf8.decodeChars? bytes with
  | none => .error .notText
  | some cs => (ofChars (unifyLineEnds cs)).mapError .faulty

end Documents

end Yaml
end ManagedSwitch
