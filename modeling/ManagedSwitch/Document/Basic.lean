import ManagedSwitch.Document.Moment
import ManagedSwitch.Number.Binary64
import ManagedSwitch.Text.Quoted

/-!
# Documents

A document is what a configuration file says once its syntax has been read: scalars of several
kinds, sequences, sets and mappings.  Keys are equal when they denote the same value, whatever
their kind: a truth value is the number one or zero, and a double equals an integer when it has no
fraction.  A mapping keeps its keys in order of arrival; a later entry with an equal key replaces
the value and nothing else.

A document has a plain text and a quoted text.  They differ for texts, dates and moments only, and
there is none where an integer with too many digits would have to be written.
-/

namespace ManagedSwitch

/-- A decoded value. -/
inductive Document
  | null
  | bool (value : Bool)
  | int (value : Int)
  | float (value : Float)
  | text (value : String)
  | bytes (value : Bytes)
  | date (value : Document.Day)
  | moment (value : Document.Moment)
  | list (items : List Document)
  | pair (first second : Document)
  | set (items : List Document)
  | map (entries : List (Document × Document))

namespace Document

section Equality

/-- The integer that a scalar denotes, if any. -/
def integer? : Document → Option Int
  | .bool b => some (if b then 1 else 0)
  | .int i => some i
  | .float x => (Number.Binary64.ofFloat x).toInt?
  | _ => none

/-- Whether two keys denote the same value; containers are never keys. -/
def sameKey (a b : Document) : Bool :=
  match a.integer?, b.integer? with
  | some i, some j => i == j
  | some _, none => false
  | none, some _ => false
  | none, none =>
    match a, b with
    | .null, .null => true
    | .float x, .float y => x == y
    | .text s, .text t => s == t
    | .bytes s, .bytes t => s == t
    | .date d, .date e => d == e
    | .moment s, .moment t => s.same t
    | _, _ => false

def isKey : Document → Bool
  | .list _ | .set _ | .map _ => false
  | .pair a b => a.isKey && b.isKey
  | _ => true

end Equality

section Mappings

/-- Adds an entry: an equal key keeps its place and takes the new value. -/
def insert
    (key value : Document) :
    List (Document × Document) → List (Document × Document)
  | [] => [(key, value)]
  | e :: rest =>
    if sameKey e.1 key then (e.1, value) :: rest else e :: insert key value rest

/-- The entries of a mapping, from pairs in order of arrival. -/
def collect (pairs : List (Document × Document)) : List (Document × Document) :=
  pairs.foldl (fun es p => insert p.1 p.2 es) []

def insertItem
    (item : Document)
    (items : List Document) :
    List Document :=
  if items.any (sameKey · item) then items else items ++ [item]

/-- The value under a text key. -/
def field?
    (entries : List (Document × Document))
    (name : String) :
    Option Document :=
  (entries.find? fun e =>
    match e.1 with
    | .text s => s == name
    | _ => false).map Prod.snd

end Mappings

section Texts

mutual

def quoted? : Document → Option String
  | .null => some "None"
  | .bool b => some (if b then "True" else "False")
  | .int i => Number.text? i
  | .float x => some (Number.Binary64.fullText x)
  | .text s => some (Text.quote s)
  | .bytes bs => some (Text.quoteBytes bs)
  | .date d => some d.quoted
  | .moment t => some t.quoted
  | .list items => (quotedItems? items).map fun ts => "[" ++ ", ".intercalate ts ++ "]"
  | .pair a b =>
    match quoted? a, quoted? b with
    | some s, some t => some ("(" ++ s ++ ", " ++ t ++ ")")
    | _, _ => none
  | .set items =>
    if items.isEmpty then
      some "set()"
    else
      (quotedItems? items).map fun ts => "\x7b" ++ ", ".intercalate ts ++ "\x7d"
  | .map entries =>
    (quotedEntries? entries).map fun ts => "\x7b" ++ ", ".intercalate ts ++ "\x7d"

def quotedItems? : List Document → Option (List String)
  | [] => some []
  | d :: rest =>
    match quoted? d, quotedItems? rest with
    | some t, some ts => some (t :: ts)
    | _, _ => none

/-- The quoted texts of the entries of a mapping. -/
def quotedEntries? : List (Document × Document) → Option (List String)
  | [] => some []
  | (k, v) :: rest =>
    match quoted? k, quoted? v, quotedEntries? rest with
    | some s, some t, some ts => some ((s ++ ": " ++ t) :: ts)
    | _, _, _ => none

end

def text? : Document → Option String
  | .text s => some s
  | .date d => some d.text
  | .moment t => some t.text
  | d => d.quoted?

end Texts

end Document
end ManagedSwitch
