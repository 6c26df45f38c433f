import ManagedSwitch.Yaml.Kind
import ManagedSwitch.Yaml.Token

/-!
# Nodes of a stream

The tokens of a stream make a tree of scalars, sequences and mappings; an alias stands for the
node with an anchor of its name.  A stream holds one document or none.  The readers take a token
list and give a node with the tokens behind it; where a token does not fit, the fault of the token
reader wins over the fault of the tree.

Every reader passes a token before it calls itself twice, so four times the number of tokens
bounds the depth of the calls.
-/

namespace ManagedSwitch
namespace Yaml

/-- A tree as written: kinds are settled, aliases are not. -/
inductive Node
  | alias (name : String)
  | scalar (anchor : Option String) (kind : Kind) (text : String)
  | sequence (anchor : Option String) (kind : Kind) (items : List Node)
  | mapping (anchor : Option String) (kind : Kind) (entries : List (Node × Node))

namespace Node

/-- The meanings of tag handles. -/
abbrev Handles := List (String × String)

section Parts

/-- The fault of a token list that does not go on as it must. -/
def unexpected : List Token → Fault
  | .broken fault :: _ => fault
  | _ => .malformed

def empty : Node :=
  .scalar none .null ""

def fullTag
    (handles : Handles)
    (tag : Tag) :
    Except Fault String :=
  match tag.handle with
  | none => .ok tag.suffix
  | some handle =>
    match handles.lookup handle with
    | some expansion => .ok (expansion ++ tag.suffix)
    | none => .error .malformed

/-- An anchor and a tag, in either order and each at most once. -/
def properties
    (handles : Handles) :
    List Token → Except Fault (Option String × Option String × List Token)
  | .anchor name :: .tag tag :: rest => do
    let tag ← fullTag handles tag
    return (some name, some tag, rest)
  | .anchor name :: rest => .ok (some name, none, rest)
  | .tag tag :: .anchor name :: rest => do
    let tag ← fullTag handles tag
    return (some name, some tag, rest)
  | .tag tag :: rest => do
    let tag ← fullTag handles tag
    return (none, some tag, rest)
  | ts => .ok (none, none, ts)

/-- The kind of a collection with an optional tag. -/
def collectionKind
    (standard : Kind)
    (tag : Option String) :
    Kind :=
  match tag with
  | none => standard
  | some tag => if tag == "!" then standard else Kind.ofTag tag

/-- The kind of a scalar with an optional tag. -/
def scalarKind
    (tag : Option String)
    (text : String)
    (plain : Bool) :
    Kind :=
  match tag with
  | none => if plain then Kind.ofText text else .text
  | some tag => if tag == "!" then Kind.ofText text else Kind.ofTag tag

/-- A token before which a value in a block collection is empty. -/
def endsBlockItem : List Token → Bool
  | .key :: _ | .value :: _ | .blockEnd :: _ => true
  | _ => false

/-- A token before which an item of a block sequence is empty. -/
def endsSequenceItem : List Token → Bool
  | .blockEntry :: _ | .blockEnd :: _ => true
  | _ => false

/-- A token before which a value in a flow collection is empty. -/
def endsFlowValue : List Token → Bool
  | .flowEntry :: _ | .flowSequenceEnd :: _ | .flowMappingEnd :: _ => true
  | _ => false

/-- A token before which a key in a flow collection is empty. -/
def endsFlowKey : List Token → Bool
  | .value :: _ => true
  | ts => endsFlowValue ts

end Parts

section Reading

mutual

/-- A node: `block` allows block collections, `indentless` a sequence at the indentation of its
parent. -/
def read
    (fuel : Nat)
    (handles : Handles)
    (block indentless : Bool)
    (ts : List Token) :
    Except Fault (Node × List Token) :=
  match fuel with
  | 0 => .error .malformed
  | fuel + 1 =>
    match ts with
    | .alias name :: rest => .ok (.alias name, rest)
    | _ => do
      let (anchor, tag, ts) ← properties handles ts
      match ts with
      | .scalar text plain :: rest => return (.scalar anchor (scalarKind tag text plain) text, rest)
      | .flowSequence :: rest => do
        let (items, rest) ← readFlowItems fuel handles true rest
        return (.sequence anchor (collectionKind .sequence tag) items, rest)
      | .flowMapping :: rest => do
        let (entries, rest) ← readFlowEntries fuel handles true rest
        return (.mapping anchor (collectionKind .mapping tag) entries, rest)
      | .blockEntry :: _ =>
        if indentless then do
          let (items, rest) ← readIndentless fuel handles ts
          return (.sequence anchor (collectionKind .sequence tag) items, rest)
        else
          emptyNode anchor tag ts
      | .blockSequence :: rest =>
        if block then do
          let (items, rest) ← readItems fuel handles rest
          return (.sequence anchor (collectionKind .sequence tag) items, rest)
        else
          emptyNode anchor tag ts
      | .blockMapping :: rest =>
        if block then do
          let (entries, rest) ← readEntries fuel handles rest
          return (.mapping anchor (collectionKind .mapping tag) entries, rest)
        else
          emptyNode anchor tag ts
      | _ => emptyNode anchor tag ts

/-- A node that has an anchor or a tag and nothing else. -/
def emptyNode
    (anchor tag : Option String)
    (ts : List Token) :
    Except Fault (Node × List Token) :=
  match ts with
  | .broken fault :: _ => .error fault
  | _ =>
    if anchor.isSome || tag.isSome then
      .ok (.scalar anchor (scalarKind tag "" true) "", ts)
    else
      .error .malformed

/-- The items of a block sequence and its end. -/
def readItems
    (fuel : Nat)
    (handles : Handles)
    (ts : List Token) :
    Except Fault (List Node × List Token) :=
  match fuel with
  | 0 => .error .malformed
  | fuel + 1 =>
    match ts with
    | .blockEntry :: rest => do
      let (item, rest) ←
        if endsSequenceItem rest then pure (empty, rest) else read fuel handles true false rest
      let (items, rest) ← readItems fuel handles rest
      return (item :: items, rest)
    | .blockEnd :: rest => .ok ([], rest)
    | _ => .error (unexpected ts)

/-- The items of a block sequence at the indentation of its parent. -/
def readIndentless
    (fuel : Nat)
    (handles : Handles)
    (ts : List Token) :
    Except Fault (List Node × List Token) :=
  match fuel with
  | 0 => .error .malformed
  | fuel + 1 =>
    match ts with
    | .blockEntry :: rest => do
      let (item, rest) ←
        if endsSequenceItem rest || endsBlockItem rest then pure (empty, rest)
        else read fuel handles true false rest
      let (items, rest) ← readIndentless fuel handles rest
      return (item :: items, rest)
    | _ => .ok ([], ts)

/-- The entries of a block mapping and its end. -/
def readEntries
    (fuel : Nat)
    (handles : Handles)
    (ts : List Token) :
    Except Fault (List (Node × Node) × List Token) :=
  match fuel with
  | 0 => .error .malformed
  | fuel + 1 =>
    match ts with
    | .key :: rest => do
      let (key, rest) ←
        if endsBlockItem rest then pure (empty, rest) else read fuel handles true true rest
      let (value, rest) ←
        match rest with
        | .value :: tail =>
          if endsBlockItem tail then pure (empty, tail) else read fuel handles true true tail
        | _ => pure (empty, rest)
      let (entries, rest) ← readEntries fuel handles rest
      return ((key, value) :: entries, rest)
    | .blockEnd :: rest => .ok ([], rest)
    | _ => .error (unexpected ts)

/-- The items of a flow sequence and its end; `first` holds in front of the first item. -/
def readFlowItems
    (fuel : Nat)
    (handles : Handles)
    (first : Bool)
    (ts : List Token) :
    Except Fault (List Node × List Token) :=
  match fuel with
  | 0 => .error .malformed
  | fuel + 1 => do
    let ts ←
      match ts with
      | .flowSequenceEnd :: _ => pure ts
      | .flowEntry :: rest => if first then pure ts else pure rest
      | _ => if first then pure ts else .error (unexpected ts)
    match ts with
    | .flowSequenceEnd :: rest => return ([], rest)
    | .key :: rest => do
      let (key, rest) ←
        if endsFlowKey rest then pure (empty, rest) else read fuel handles false false rest
      let (value, rest) ← readFlowValue fuel handles rest
      let (items, rest) ← readFlowItems fuel handles false rest
      return (.mapping none .mapping [(key, value)] :: items, rest)
    | _ => do
      let (item, rest) ← read fuel handles false false ts
      let (items, rest) ← readFlowItems fuel handles false rest
      return (item :: items, rest)

/-- The entries of a flow mapping and its end; `first` holds in front of the first entry. -/
def readFlowEntries
    (fuel : Nat)
    (handles : Handles)
    (first : Bool)
    (ts : List Token) :
    Except Fault (List (Node × Node) × List Token) :=
  match fuel with
  | 0 => .error .malformed
  | fuel + 1 => do
    let ts ←
      match ts with
      | .flowMappingEnd :: _ => pure ts
      | .flowEntry :: rest => if first then pure ts else pure rest
      | _ => if first then pure ts else .error (unexpected ts)
    match ts with
    | .flowMappingEnd :: rest => return ([], rest)
    | .key :: rest => do
      let (key, rest) ←
        if endsFlowKey rest then pure (empty, rest) else read fuel handles false false rest
      let (value, rest) ← readFlowValue fuel handles rest
      let (entries, rest) ← readFlowEntries fuel handles false rest
      return ((key, value) :: entries, rest)
    | _ => do
      let (key, rest) ← read fuel handles false false ts
      let (entries, rest) ← readFlowEntries fuel handles false rest
      return ((key, empty) :: entries, rest)

/-- The value after a key in a flow collection; it may be missing. -/
def readFlowValue
    (fuel : Nat)
    (handles : Handles)
    (ts : List Token) :
    Except Fault (Node × List Token) :=
  match fuel with
  | 0 => .error .malformed
  | fuel + 1 =>
    match ts with
    | .value :: rest =>
      if endsFlowValue rest then pure (empty, rest) else read fuel handles false false rest
    | _ => .ok (empty, ts)

end

end Reading

section Documents

/-- The handles that need no directive. -/
def standardHandles : Handles := [("!", "!"), ("!!", coreTag)]

/-- The directives in front of a document: the handles that they define, and the tokens behind
them.  `versioned` tells whether a version has been given. -/
def readDirectives
    (versioned : Bool)
    (handles : Handles) :
    List Token → Except Fault (Handles × List Token)
  | .directive (.version major) :: rest =>
    if versioned || major != 1 then .error .malformed else readDirectives true handles rest
  | .directive (.handle name expansion) :: rest =>
    if (handles.lookup name).isSome then
      .error .malformed
    else
      readDirectives versioned ((name, expansion) :: handles) rest
  | .directive .unknown :: rest => readDirectives versioned handles rest
  | ts => .ok (handles ++ standardHandles, ts)

/-- Passes the marks at the end of documents. -/
def skipEnds : List Token → List Token
  | .documentEnd :: rest => skipEnds rest
  | ts => ts

def checkLast (ts : List Token) : Except Fault Unit :=
  match skipEnds ts with
  | [] => .ok ()
  | ts => do
    let (_, rest) ← readDirectives false [] ts
    .error (unexpected rest)

def readContent
    (fuel : Nat)
    (handles : Handles) :
    List Token → Except Fault (Node × List Token)
  | .documentStart :: rest =>
    match rest with
    | [] | .directive _ :: _ | .documentStart :: _ | .documentEnd :: _ => .ok (empty, rest)
    | _ => read fuel handles true false rest
  | ts => .error (unexpected ts)

/-- The one document of a stream, if there is one. -/
def ofTokens (ts : List Token) : Except Fault (Option Node) :=
  let fuel := 4 * ts.length + 4
  match ts with
  | [] => .ok none
  | .directive _ :: _ | .documentStart :: _ => do
    let (handles, rest) ← readDirectives false [] ts
    let (node, rest) ← readContent fuel handles rest
    checkLast rest
    return some node
  | _ => do
    let (node, rest) ← read fuel standardHandles true false ts
    checkLast rest
    return some node

end Documents

end Node
end Yaml
end ManagedSwitch
