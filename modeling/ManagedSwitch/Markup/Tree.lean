import ManagedSwitch.Markup.Token

/-!
# The tree of a page

The tokens of a page make a tree, however careless the page is.  A start tag closes the elements
that cannot hold it and opens the outer elements that are missing; an end tag closes the innermost
element of its name with everything inside it, unless an element of higher rank stands between.
Behind the end of the page nothing counts.

Texts of scripts, style sheets and other parts that are not shown are left out of the tree.
-/

namespace ManagedSwitch
namespace Markup

/-- A part of a page. -/
inductive Node
  | element (name : String) (children : List Node)
  | text (chars : List Char)

section Rules

/-- Elements without contents. -/
def voidNames : List String := [
  "area", "base", "basefont", "br", "col", "frame", "hr", "img", "input", "isindex", "link",
  "meta", "param"]

/-- Elements whose texts are not shown. -/
def hiddenNames : List String :=
  ["script", "style", "template", "rt", "rp"]

def headings : List String :=
  ["h1", "h2", "h3", "h4", "h5", "h6"]

def endHead : List String := headings ++ [
  "a", "abbr", "acronym", "address", "b", "bdo", "big", "blockquote", "body", "br", "center",
  "cite", "code", "dd", "dfn", "dir", "div", "dl", "dt", "em", "fieldset", "font", "form",
  "frameset", "hr", "i", "iframe", "img", "kbd", "li", "listing", "map", "menu", "ol", "p",
  "pre", "q", "s", "samp", "small", "span", "strike", "strong", "sub", "sup", "table", "tt",
  "u", "ul", "var", "xmp"]

def endParagraph : List String := headings ++ [
  "address", "blockquote", "body", "caption", "center", "col", "colgroup", "dd", "dir", "div",
  "dl", "dt", "frameset", "head", "hr", "li", "listing", "menu", "multicol", "ol", "p", "pre",
  "table", "tbody", "td", "tfoot", "th", "title", "tr", "ul", "xmp"]

/-- The start tags before which an element ends. -/
def endsBefore (name : String) : List String :=
  if headings.contains name then ["fieldset", "form", "li", "p", "table"]
  else match name with
  | "a" => ["a", "fieldset", "table", "td", "th"]
  | "address" => ["dd", "dl", "dt", "form", "li", "ul"]
  | "b" => ["center", "p", "td", "th"]
  | "big" | "s" | "small" | "strike" | "tt" => ["p"]
  | "caption" => ["col", "colgroup", "tbody", "tfoot", "thead", "tr"]
  | "col" => ["col", "colgroup", "tbody", "tfoot", "thead", "tr"]
  | "colgroup" => ["colgroup", "tbody", "tfoot", "thead", "tr"]
  | "dd" => ["dt"]
  | "dir" => ["dd", "dl", "dt", "form", "ul"]
  | "dl" => ["form", "li"]
  | "dt" => ["dd", "dl"]
  | "font" => ["center", "td", "th"]
  | "form" => ["form"]
  | "head" => endHead
  | "hr" => ["form"]
  | "i" => ["center"]
  | "legend" => ["fieldset"]
  | "li" => ["li"]
  | "link" | "style" | "title" => ["body", "frameset"]
  | "listing" | "pre" | "xmp" => ["dd", "dl", "dt", "fieldset", "form", "li", "table", "ul"]
  | "menu" => ["dd", "dl", "dt", "form", "ul"]
  | "ol" => ["form"]
  | "option" => ["optgroup", "option"]
  | "p" => endParagraph
  | "script" => ["noscript"]
  | "span" => ["td", "th"]
  | "tbody" => ["tbody", "tfoot"]
  | "td" | "th" => ["tbody", "td", "tfoot", "th", "tr"]
  | "tfoot" => ["tbody"]
  | "thead" => ["tbody", "tfoot"]
  | "tr" => ["tbody", "tfoot", "tr"]
  | "u" => ["p", "td", "th"]
  | "ul" => ["address", "form", "menu", "ol", "pre"]
  | _ => []

/-- The rank of an element: an end tag does not reach beyond elements of higher rank. -/
def rank : String → Nat
  | "div" => 150
  | "td" | "th" => 160
  | "tr" => 170
  | "thead" | "tbody" | "tfoot" => 180
  | "table" => 190
  | "head" | "body" => 200
  | "html" => 220
  | _ => 100

end Rules

section Builders

/-- An element that is open, with the children that it has so far, the newest first. -/
structure Frame where
  name : String
  children : List Node

/-- A tree under construction: the open elements, the innermost first, and the finished ones, the
newest first.  `misplaced` counts the start tags that were passed over and whose end tags are to be
passed over as well. -/
structure Builder where
  stack : List Frame
  finished : List Node
  hadHead : Bool
  hadBody : Bool
  misplaced : Nat
  ended : Bool

namespace Builder

def empty : Builder :=
  ⟨[], [], false, false, 0, false⟩

def isOpen (b : Builder) (name : String) : Bool :=
  b.stack.any fun f => f.name == name

def push (b : Builder) (name : String) : Builder :=
  { b with
    stack := ⟨name, []⟩ :: b.stack
    hadHead := b.hadHead || name == "head" || name == "body"
    hadBody := b.hadBody || name == "body" }

/-- Adds a finished part to the innermost open element. -/
def add (b : Builder) (node : Node) : Builder :=
  match b.stack with
  | [] => { b with finished := node :: b.finished }
  | f :: rest => { b with stack := { f with children := node :: f.children } :: rest }

def pop (b : Builder) : Builder :=
  match b.stack with
  | [] => b
  | f :: rest => { b with stack := rest }.add (.element f.name f.children.reverse)

/-- Closes some of the innermost open elements. -/
def popMany (b : Builder) : Nat → Builder
  | 0 => b
  | n + 1 => popMany b.pop n

/-- Closes the elements that end before a start tag. -/
def closeBefore (b : Builder) (name : String) : Builder :=
  b.popMany (b.stack.takeWhile fun f => (endsBefore f.name).contains name).length

/-- Elements that belong to the head of a page. -/
def headParts : List String :=
  ["script", "style", "meta", "link", "title", "base"]

/-- Opens the outer elements that are missing around an element. -/
def openAround (b : Builder) (name : String) : Builder :=
  if name == "html" then
    b
  else
    let b := if b.stack.isEmpty then b.push "html" else b
    if name == "body" || name == "head" then
      b
    else if b.stack.length ≤ 1 && headParts.contains name then
      if b.hadHead then b else b.push "head"
    else if ["noframes", "frame", "frameset"].contains name then
      b
    else if b.hadBody || b.isOpen "body" || b.isOpen "head" then
      b
    else
      b.push "body"

/-- Whether a start tag is in a place where it does not count. -/
def isMisplaced (b : Builder) (name : String) : Bool :=
  (name == "html" && !b.stack.isEmpty) || (name == "head" && b.stack.length != 1) ||
    (name == "body" && b.isOpen "body")

def openTag (b : Builder) (name : String) (selfClosing : Bool) : Builder :=
  let b := (b.closeBefore name).openAround name
  if b.isMisplaced name then
    { b with misplaced := b.misplaced + 1 }
  else
    let b := b.push name
    if selfClosing || voidNames.contains name then b.pop else b

/-- How many open elements an end tag closes: all up to the innermost of its name, or none. -/
def closing (name : String) : List Frame → Nat
  | [] => 0
  | f :: rest =>
    if f.name == name then 1
    else if rank name < rank f.name then 0
    else
      match closing name rest with
      | 0 => 0
      | n => n + 1

def closeTag (b : Builder) (name : String) : Builder :=
  if 0 < b.misplaced && ["html", "body", "head"].contains name then
    { b with misplaced := b.misplaced - 1 }
  else
    let n := closing name b.stack
    let b := b.popMany n
    if 0 < n && b.stack.isEmpty then { b with ended := true } else b

/-- Opens a paragraph where a text cannot stand by itself. -/
def openParagraph (b : Builder) : Builder :=
  match b.stack.head?.map Frame.name with
  | none | some "html" | some "head" => ((b.closeBefore "p").openAround "p").push "p"
  | some _ => b

def text (b : Builder) (cs : List Char) : Builder :=
  if cs.all isSpace then
    if b.stack.isEmpty then b else b.add (.text cs)
  else
    let b := b.openParagraph
    if b.stack.any fun f => hiddenNames.contains f.name then b else b.add (.text cs)

def take (b : Builder) (t : Token) : Builder :=
  if b.ended then
    b
  else
    match t with
    | .start name selfClosing => b.openTag name selfClosing
    | .close name => b.closeTag name
    | .text cs => b.text cs

/-- Closes everything and gives the parts of the page. -/
def finish (b : Builder) : List Node :=
  (b.popMany b.stack.length).finished.reverse

end Builder

def page (s : String) : List Node :=
  ((tokens s.toList).foldl Builder.take .empty).finish

end Builders

end Markup
end ManagedSwitch
