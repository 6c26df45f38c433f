import ManagedSwitch.Yaml.Node

/-!
# Trees without aliases

A tree is a node whose aliases have been replaced by what they stand for and whose mappings know
their merged entries.  An anchor may be named once, and only after it has been opened; inside its
own node it stands for the node itself, which is unfolded a fixed number of times: a reader that
looks less deep cannot tell the difference.

`Tree.read` makes the document of a tree.  Collections are filled level by level, so of several
faults the one on the highest level counts, and on one level the first.
-/

namespace ManagedSwitch
namespace Yaml

/-- A node without aliases.  A mapping holds its entries as written, and its entries with the merged
ones in front; there are none of the latter where a merge is impossible. -/
inductive Tree
  | scalar (kind : Kind) (text : String)
  | sequence (kind : Kind) (items : List Tree)
  | mapping
      (kind : Kind)
      (entries : List (Tree × Tree))
      (merged : Option (List (Tree × Tree)))

namespace Tree

section Merging

def kind : Tree → Kind
  | .scalar k _ => k
  | .sequence k _ => k
  | .mapping k _ _ => k

/-- A key; the mark of a default value is an ordinary text there. -/
def asKey : Tree → Tree
  | .scalar .default s => .scalar .text s
  | t => t

def merged? : Tree → Option (List (Tree × Tree))
  | .mapping _ _ merged => merged
  | _ => none

/-- The entries that a value brings into the mapping that merges it: those of a mapping, or those of
a sequence of mappings, the last mapping first. -/
def broughtBy : Tree → Option (List (Tree × Tree))
  | .sequence _ items => (items.mapM merged?).map fun parts => parts.reverse.flatten
  | t => t.merged?

def mergeEntries (entries : List (Tree × Tree)) : Option (List (Tree × Tree)) :=
  let own := entries.filter fun e => e.1.kind != .merge
  let sources := entries.filter fun e => e.1.kind == .merge
  (sources.mapM fun (e : Tree × Tree) => e.2.broughtBy).map fun parts =>
    parts.flatten ++ own.map fun e => (e.1.asKey, e.2)

end Merging

section Aliases

/-- The trees that anchors stand for. -/
abbrev Anchors := List (String × Tree)

/-- What an anchor stands for while its own node is being read. -/
def standIn
    (past : Anchors)
    (name : String)
    (empty : Tree) :
    Tree :=
  (past.lookup name).getD empty

/-- Opens the anchor of a node, if it has one. -/
def openAnchor
    (past known : Anchors)
    (anchor : Option String)
    (empty : Tree) :
    Except Fault Anchors :=
  match anchor with
  | none => .ok known
  | some name =>
    if (known.lookup name).isSome then
      .error .malformed
    else
      .ok ((name, standIn past name empty) :: known)

/-- Settles the anchor of a node that has been read. -/
def closeAnchor
    (known : Anchors)
    (anchor : Option String)
    (tree : Tree) :
    Anchors :=
  match anchor with
  | none => known
  | some name => (name, tree) :: known

mutual

/-- The tree of a node, and the anchors known behind it.  `past` has the trees that an earlier
reading found. -/
def ofNode
    (past known : Anchors) :
    Node → Except Fault (Tree × Anchors)
  | .alias name =>
    match known.lookup name with
    | some tree => .ok (tree, known)
    | none => .error .malformed
  | .scalar anchor kind text => do
    let tree := Tree.scalar kind text
    let known ← openAnchor past known anchor tree
    return (tree, closeAnchor known anchor tree)
  | .sequence anchor kind items => do
    let known ← openAnchor past known anchor (.sequence kind [])
    let (items, known) ← ofNodes past known items
    let tree := Tree.sequence kind items
    return (tree, closeAnchor known anchor tree)
  | .mapping anchor kind entries => do
    let known ← openAnchor past known anchor (.mapping kind [] (some []))
    let (entries, known) ← ofEntries past known entries
    let tree := Tree.mapping kind entries (mergeEntries entries)
    return (tree, closeAnchor known anchor tree)

def ofNodes
    (past known : Anchors) :
    List Node → Except Fault (List Tree × Anchors)
  | [] => .ok ([], known)
  | n :: rest => do
    let (tree, known) ← ofNode past known n
    let (trees, known) ← ofNodes past known rest
    return (tree :: trees, known)

def ofEntries
    (past known : Anchors) :
    List (Node × Node) → Except Fault (List (Tree × Tree) × Anchors)
  | [] => .ok ([], known)
  | (k, v) :: rest => do
    let (key, known) ← ofNode past known k
    let (value, known) ← ofNode past known v
    let (entries, known) ← ofEntries past known rest
    return ((key, value) :: entries, known)

end

mutual

/-- Whether a node refers to a node that encloses it. -/
def isRecursive (enclosing : List String) : Node → Bool
  | .alias name => enclosing.contains name
  | .scalar .. => false
  | .sequence anchor _ items => anyRecursive (anchor.toList ++ enclosing) items
  | .mapping anchor _ entries => anyEntryRecursive (anchor.toList ++ enclosing) entries

/-- Whether one of several nodes refers to a node that encloses it. -/
def anyRecursive (enclosing : List String) : List Node → Bool
  | [] => false
  | n :: rest => isRecursive enclosing n || anyRecursive enclosing rest

/-- Whether a key or value refers to a node that encloses it. -/
def anyEntryRecursive (enclosing : List String) : List (Node × Node) → Bool
  | [] => false
  | (k, v) :: rest =>
    isRecursive enclosing k || isRecursive enclosing v || anyEntryRecursive enclosing rest

end

/-- How often a node that contains itself is unfolded. -/
def unfoldings : Nat := 8

/-- Reads a node again, so that its inner occurrences are those of the reading before. -/
def unfold
    (node : Node) :
    Nat → Tree × Anchors → Except Fault (Tree × Anchors)
  | 0, found => .ok found
  | n + 1, found => do
    let again ← ofNode found.2 [] node
    unfold node n again

/-- The tree of the node of a whole document. -/
def ofDocumentNode (node : Node) : Except Fault Tree := do
  let found ← ofNode [] [] node
  let found ← if isRecursive [] node then unfold node unfoldings found else pure found
  return found.1

end Aliases

section Values

/-- A document with the first fault on its highest faulty level.  A fault on level zero prevents the
document itself, one on a lower level a part of it. -/
structure Reading where
  document : Document
  fault : Option (Nat × Fault)

/-- The fault that counts: the one on the higher level, and the first of two on one level. -/
def firstFault (a b : Option (Nat × Fault)) : Option (Nat × Fault) :=
  match a, b with
  | none, b => b
  | a, none => a
  | some x, some y => if y.1 < x.1 then b else a

/-- A fault one level deeper. -/
def deeper (a : Option (Nat × Fault)) : Option (Nat × Fault) :=
  a.map fun x => (x.1 + 1, x.2)

def Reading.failed
    (level : Nat)
    (fault : Fault) :
    Reading :=
  ⟨.null, some (level, fault)⟩

/-- Reads a value of a kind, which fails at once. -/
def Reading.ofExcept : Except Fault Document → Reading
  | .ok d => ⟨d, none⟩
  | .error fault => .failed 0 fault

/-- A node of a wrong shape for its kind.  A collection exists before it is filled, so that its
shape shows one level deeper; even then it is no key. -/
def Reading.misshapen (kind : Kind) : Reading :=
  if kind.isCollection then ⟨.list [], some (1, .malformed)⟩ else .failed 0 .malformed

mutual

/-- The text of a scalar, or of the default value of a mapping. -/
def scalarText? : Tree → Option String
  | .scalar _ s => some s
  | .sequence .. => none
  | .mapping _ entries _ => defaultText? entries

/-- The text of the first default value among entries. -/
def defaultText? : List (Tree × Tree) → Option String
  | [] => none
  | (k, v) :: rest => if k.kind = .default then scalarText? v else defaultText? rest

end

/-- The value of a mapping of a scalar kind: that of its default value. -/
def readDefault
    (kind : Kind)
    (entries : List (Tree × Tree)) :
    Reading :=
  match defaultText? entries with
  | none => .failed 0 .malformed
  | some s =>
    if kind = .timestamp then .failed 0 .timeFromMapping else .ofExcept (scalarValue kind s)

/-- Puts a key with its value in front of entries. -/
def consEntry
    (key value : Reading)
    (entries : List (Document × Document) × Option (Nat × Fault)) :
    List (Document × Document) × Option (Nat × Fault) :=
  let refused := if key.document.isKey then none else some (0, Fault.malformed)
  ((key.document, value.document) :: entries.1,
    firstFault (firstFault (firstFault key.fault refused) value.fault) entries.2)

mutual

def read : Tree → Reading
  | .scalar kind s =>
    if kind.isCollection then .misshapen kind else .ofExcept (scalarValue kind s)
  | .sequence kind items =>
    match kind with
    | .sequence =>
      let (docs, fault) := readItems items
      ⟨.list docs, deeper fault⟩
    | .orderedMap | .pairs =>
      let (docs, fault) := readPairs items
      ⟨.list docs, deeper fault⟩
    | _ => .misshapen kind
  | .mapping kind entries merged =>
    match kind with
    | .mapping =>
      let (pairs, fault) := readMerged merged
      ⟨.map (Document.collect pairs), deeper fault⟩
    | .set =>
      let (pairs, fault) := readMerged merged
      ⟨.set (pairs.foldl (fun items p => Document.insertItem p.1 items) []), deeper fault⟩
    | .null | .bool | .int | .float | .binary | .timestamp | .text => readDefault kind entries
    | _ => .misshapen kind

/-- The documents of the items of a sequence. -/
def readItems : List Tree → List Document × Option (Nat × Fault)
  | [] => ([], none)
  | t :: rest =>
    let item := read t
    let (docs, fault) := readItems rest
    (item.document :: docs, firstFault item.fault fault)

/-- The pairs of a sequence of mappings with one entry each. -/
def readPairs : List Tree → List Document × Option (Nat × Fault)
  | [] => ([], none)
  | .mapping _ [(k, v)] _ :: rest =>
    let key := read k
    let value := read v
    let (docs, fault) := readPairs rest
    (.pair key.document value.document :: docs,
      firstFault (firstFault key.fault value.fault) fault)
  | _ :: _ => ([], some (0, .malformed))

def readMerged :
    Option (List (Tree × Tree)) → List (Document × Document) × Option (Nat × Fault)
  | none => ([], some (0, .malformed))
  | some entries => readEntries entries

def readEntries : List (Tree × Tree) → List (Document × Document) × Option (Nat × Fault)
  | [] => ([], none)
  | (k, v) :: rest => consEntry (read k) (read v) (readEntries rest)

end

end Values

end Tree
end Yaml
end ManagedSwitch
