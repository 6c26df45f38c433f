import ManagedSwitch.Text.Digit
import ManagedSwitch.Text.Split

/-!
# Integers as text

Integers are written in decimal without leading zeros.  A decimal number is read with white space
around it, one sign, digits of any script and single underscores between digits.  Numbers are only
read and written up to a fixed number of digits; the limit does not concern the bases that are
powers of two.
-/

namespace ManagedSwitch
namespace Number

section Writing

def digitChar (d : Nat) : Char :=
  Char.ofNat (48 + d)

/-- The decimal digits of a number in front of `tail`. -/
def digitsOnto
    (n : Nat)
    (tail : List Char) :
    List Char :=
  if n < 10 then digitChar n :: tail else digitsOnto (n / 10) (digitChar (n % 10) :: tail)

def digits (n : Nat) : List Char :=
  digitsOnto n []

def chars : Int → List Char
  | .ofNat n => digits n
  | .negSucc n => '-' :: digits (n + 1)

def natText (n : Nat) : String :=
  String.ofList (digits n)

def text (i : Int) : String :=
  String.ofList (chars i)

end Writing

section Limit

/-- The number of decimal digits up to which numbers are read and written. -/
def digitLimit : Nat := 4300

/-- The first natural number with too many digits. -/
def tooLong : Nat := Nat.pow 10 digitLimit

/-- The decimal text of an integer that has not too many digits. -/
def text? (i : Int) : Option String :=
  if i.natAbs < tooLong then some (text i) else none

end Limit

section Reading

/-- A sign in front, and whether it is a minus. -/
def takeSign : List Char → Bool × List Char
  | '-' :: rest => (true, rest)
  | '+' :: rest => (false, rest)
  | cs => (false, cs)

/-- The digits of a number without the single underscores between them. -/
def ungroup (cs : List Char) : Option (List Char) :=
  let groups := Text.splitOn '_' cs
  if groups.any List.isEmpty then none else some groups.flatten

/-- The value of a digit in a base up to sixteen. -/
def digitIn?
    (base : Nat)
    (c : Char) :
    Option Nat :=
  let value? :=
    if 'a' ≤ c && c ≤ 'f' then some (c.toNat - 87)
    else if 'A' ≤ c && c ≤ 'F' then some (c.toNat - 55)
    else Text.digitValue c
  value?.bind fun v => if v < base then some v else none

/-- The number that digits write after the value `acc`. -/
def ofDigits?
    (base acc : Nat) :
    List Char → Option Nat
  | [] => some acc
  | c :: rest => (digitIn? base c).bind fun d => ofDigits? base (acc * base + d) rest

def signed
    (negative : Bool)
    (n : Nat) :
    Int :=
  if negative then -(n : Int) else n

def read? (s : String) : Option Int :=
  let (negative, body) := takeSign (Text.trimBy Text.isNumberBlank s.toList)
  (ungroup body).bind fun ds =>
    if ds.length ≤ digitLimit then (ofDigits? 10 0 ds).map (signed negative) else none

/-- The digits after the mark of a base, where one is written. -/
def dropBaseMark
    (base : Nat) :
    List Char → List Char
  | '0' :: c :: rest =>
    let marks :=
      if base = 2 then ['b', 'B'] else if base = 8 then ['o', 'O'] else ['x', 'X']
    if marks.contains c then
      match rest with
      | '_' :: tail => tail
      | tail => tail
    else
      '0' :: c :: rest
  | cs => cs

/-- Reads an integer in base two, eight or sixteen; the mark of the base may stand in front. -/
def readIn?
    (base : Nat)
    (s : String) :
    Option Int :=
  let (negative, body) := takeSign (Text.trimBy Text.isNumberBlank s.toList)
  (ungroup (dropBaseMark base body)).bind fun ds =>
    (ofDigits? base 0 ds).map (signed negative)

end Reading

end Number
end ManagedSwitch
