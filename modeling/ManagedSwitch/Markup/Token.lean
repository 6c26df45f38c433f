import ManagedSwitch.Markup.Reference

/-!
# Tokens of a page

A page is a sequence of start tags, end tags and texts.  Names of tags are in lower case and
attributes are passed over, as are comments, declarations and processing instructions.  The contents
of some elements are not markup: up to their end tag, everything is text.
-/

namespace ManagedSwitch
namespace Markup

section Types

/-- A part of a page. -/
inductive Token
  | start (name : String) (selfClosing : Bool)
  | close (name : String)
  | text (chars : List Char)
deriving DecidableEq

end Types

section Characters

/-- White space between the parts of a tag. -/
def isSpace (c : Char) : Bool :=
  c == ' ' || c == '\t' || c == '\n' || c == '\r' || c == '\x0c'

/-- Whether a character ends the name of a tag. -/
def endsName (c : Char) : Bool :=
  isSpace c || c == '/' || c == '>'

/-- The name at the front, in lower case, and what follows. -/
def takeName (cs : List Char) : String × List Char :=
  let run := cs.takeWhile (!endsName ·)
  (String.ofList (run.map Char.toLower), cs.drop run.length)

/-- What follows the next occurrence of a character; nothing if there is none. -/
def behind (c : Char) (cs : List Char) : List Char :=
  (cs.dropWhile (· != c)).drop 1

end Characters

section Tags

/-- Where one is inside a tag: between attributes, in the name of one, behind an equals sign, or in
a value that ends at a quotation mark or at white space. -/
inductive TagPart
  | between
  | name
  | equals
  | quoted (mark : Char)
  | bare
deriving DecidableEq

/-- Passes the attributes of a tag.  Gives whether the tag closes itself, and what follows it; there
is nothing if the tag does not end. -/
def skipAttributes (part : TagPart) : List Char → Option (Bool × List Char)
  | [] => none
  | c :: rest =>
    match part with
    | .between | .name =>
      if c = '>' then some (false, rest)
      else if c = '/' then
        match rest with
        | '>' :: tail => some (true, tail)
        | _ => skipAttributes .between rest
      else if c = '=' && part = .name then skipAttributes .equals rest
      else if isSpace c then
        skipAttributes (if part = .name && startsValue rest then .name else .between) rest
      else skipAttributes .name rest
    | .equals =>
      if isSpace c then skipAttributes .equals rest
      else if c = '"' || c = '\'' then skipAttributes (.quoted c) rest
      else if c = '>' then some (false, rest)
      else skipAttributes .bare rest
    | .quoted mark => skipAttributes (if c = mark then .between else part) rest
    | .bare =>
      if c = '>' then some (false, rest)
      else skipAttributes (if isSpace c then .between else .bare) rest
where
  /-- Whether an equals sign follows, perhaps behind white space. -/
  startsValue (cs : List Char) : Bool :=
    (cs.dropWhile isSpace).head? = some '='

end Tags

section Comments

/-- What follows the end of a comment. -/
def behindComment : List Char → List Char
  | [] => []
  | '-' :: '-' :: '>' :: rest => rest
  | '-' :: '-' :: '!' :: '>' :: rest => rest
  | _ :: rest => behindComment rest

/-- What follows a comment whose opening mark has been passed. -/
def skipComment : List Char → List Char
  | '>' :: rest => rest
  | '-' :: '>' :: rest => rest
  | cs => behindComment cs

end Comments

section RawTexts

/-- Elements whose contents are text without references. -/
def rawNames : List String :=
  ["script", "style", "xmp", "iframe", "noembed", "noframes"]

/-- Elements whose contents are text with references. -/
def plainNames : List String :=
  ["title", "textarea"]

/-- Whether an end tag with a name starts here. -/
def endsRaw (name : List Char) : List Char → Bool
  | '<' :: '/' :: rest =>
    (rest.take name.length).map Char.toLower == name &&
      (rest.drop name.length).head?.all endsName
  | _ => false

/-- The text up to the end tag with a name, and what follows the text. -/
def takeRaw (name : List Char) : List Char → List Char × List Char
  | [] => ([], [])
  | c :: rest =>
    if endsRaw name (c :: rest) then
      ([], c :: rest)
    else
      let (text, tail) := takeRaw name rest
      (c :: text, tail)

end RawTexts

section Tokens

/-- A text, unless there is nothing in it. -/
def textToken (cs : List Char) : List Token :=
  if cs.isEmpty then [] else [.text cs]

/-- The contents of an element that are not markup, and what follows them. -/
def contents (name : String) (cs : List Char) : List Token × List Char :=
  if rawNames.contains name then
    let (text, rest) := takeRaw name.toList cs
    (textToken text, rest)
  else if plainNames.contains name then
    let (text, rest) := takeRaw name.toList cs
    (textToken (plainText text), rest)
  else
    ([], cs)

/-- The tokens of a page; `fuel` bounds their number. -/
def tokensOf (fuel : Nat) (cs : List Char) : List Token :=
  match fuel with
  | 0 => []
  | fuel + 1 =>
    match cs with
    | [] => []
    | '<' :: '!' :: '-' :: '-' :: rest => tokensOf fuel (skipComment rest)
    | '<' :: '!' :: rest => tokensOf fuel (behind '>' rest)
    | '<' :: '?' :: rest => tokensOf fuel (behind '>' rest)
    | '<' :: '/' :: c :: rest =>
      if c.isAlpha then
        let (name, rest) := takeName (c :: rest)
        match skipAttributes .between rest with
        | none => []
        | some (_, rest) => .close name :: tokensOf fuel rest
      else
        tokensOf fuel (behind '>' (c :: rest))
    | '<' :: c :: rest =>
      if c.isAlpha then
        let (name, rest) := takeName (c :: rest)
        match skipAttributes .between rest with
        | none => []
        | some (selfClosing, rest) =>
          let (inside, rest) := if selfClosing then ([], rest) else contents name rest
          .start name selfClosing :: (inside ++ tokensOf fuel rest)
      else
        .text ['<'] :: tokensOf fuel (c :: rest)
    | ['<'] => [.text ['<']]
    | c :: rest =>
      let run := c :: rest.takeWhile (· != '<')
      .text (plainText run) :: tokensOf fuel (rest.dropWhile (· != '<'))

def tokens (cs : List Char) : List Token :=
  tokensOf (cs.length + 1) cs

end Tokens

end Markup
end ManagedSwitch
