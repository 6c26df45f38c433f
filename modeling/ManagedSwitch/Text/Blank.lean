/-!
# White space

The white space of Unicode together with the four information separators U+001C to U+001F.  A
text is stripped by removing white space at both ends, and normalized by also replacing every run
of white space inside it by one space.  `words` cuts a text at its runs of white space and
`joinWords` puts one space between words; normalizing is cutting and joining.
-/

namespace ManagedSwitch
namespace Text

section Blank

def isBlank (c : Char) : Bool :=
  let n := c.toNat
  (9 ≤ n && n ≤ 13) || (28 ≤ n && n ≤ 32) || n == 0x85 || n == 0xA0 || n == 0x1680 ||
    (0x2000 ≤ n && n ≤ 0x200A) || n == 0x2028 || n == 0x2029 || n == 0x202F || n == 0x205F ||
    n == 0x3000

/-- White space that may stand around a number: the information separators do not count. -/
def isNumberBlank (c : Char) : Bool :=
  isBlank c && !(28 ≤ c.toNat && c.toNat ≤ 31)

/-- Removes the characters of a class at both ends. -/
def trimBy
    (p : Char → Bool)
    (cs : List Char) :
    List Char :=
  ((cs.dropWhile p).reverse.dropWhile p).reverse

/-- Removes white space at both ends. -/
def strip (s : String) : String :=
  String.ofList (trimBy isBlank s.toList)

/-- Replaces every run of white space by one space. -/
def collapse : List Char → List Char
  | [] => []
  | c :: rest =>
    if isBlank c then
      match rest with
      | [] => [' ']
      | d :: _ => if isBlank d then collapse rest else ' ' :: collapse rest
    else
      c :: collapse rest

/-- Single spaces between words, none at the ends. -/
def normalize (s : String) : String :=
  String.ofList (trimBy isBlank (collapse s.toList))

end Blank

section Words

/-- Adds a character in front of the first word. -/
def consWord
    (c : Char) :
    List (List Char) → List (List Char)
  | [] => [[c]]
  | w :: ws => (c :: w) :: ws

/-- The maximal runs of characters that are not white space, in order. -/
def words : List Char → List (List Char)
  | [] => []
  | c :: rest =>
    if isBlank c then
      words rest
    else
      match rest with
      | [] => [[c]]
      | d :: _ => if isBlank d then [c] :: words rest else consWord c (words rest)

/-- The words with one space between neighbours. -/
def joinWords : List (List Char) → List Char
  | [] => []
  | [w] => w
  | w :: ws => w ++ ' ' :: joinWords ws

end Words

end Text
end ManagedSwitch
