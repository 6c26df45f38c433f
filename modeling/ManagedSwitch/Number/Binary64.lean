import ManagedSwitch.Number.Integer
import ManagedSwitch.Text.Case

/-!
# Double-precision numbers as text

A finite double is `m · 2^e`.  Its shortest text has the fewest decimal digits that read back as
the same double and, among those, the nearest; the reals that read back as `m · 2^e` form an
interval whose ends belong to it exactly when `m` is even.  Its brief text has at most six
significant digits, an exact half going to the even neighbour.  A layout says where each text
changes from positional notation to an exponent.
-/

namespace ManagedSwitch
namespace Number

/-- The value of a double. -/
inductive Binary64
  | nan
  | infinite (negative : Bool)
  | finite (negative : Bool) (mantissa : Nat) (exponent : Int)

namespace Binary64

section Value

/-- The value with the given pattern of 64 bits. -/
def ofBits (bits : Nat) : Binary64 :=
  let negative := bits / Nat.pow 2 63 % 2 == 1
  let e : Nat := bits / Nat.pow 2 52 % Nat.pow 2 11
  let m : Nat := bits % Nat.pow 2 52
  if e = 2047 then
    if m = 0 then .infinite negative else .nan
  else if e = 0 then
    .finite negative m (-1074)
  else
    .finite negative (m + Nat.pow 2 52) ((e : Int) - 1075)

def ofFloat (x : Float) : Binary64 :=
  ofBits x.toBits.toNat

/-- The integer that a double equals, if any. -/
def toInt? : Binary64 → Option Int
  | .finite negative m e =>
    if 0 ≤ e then
      some (signed negative (m * Nat.pow 2 e.toNat))
    else
      let d := Nat.pow 2 (-e).toNat
      if m % d = 0 then some (signed negative (m / d)) else none
  | _ => none

end Value

section Digits

/-- Decimal digits `d₀d₁d₂…` with the exponent of ten of the first one. -/
structure Decimal where
  digits : List Char
  exponent : Int

/-- The exponent of ten of the first digit of `num / den`, a positive quotient. -/
def leadExponent
    (num den : Nat) :
    Int :=
  if den ≤ num then
    ((Number.digits (num / den)).length : Int) - 1
  else
    let t := (Number.digits (den / num)).length
    if den ≤ num * Nat.pow 10 (t - 1) then -((t : Int) - 1) else -(t : Int)

/-- `num / den` in units of ten to the power `unit`, as a quotient. -/
def inUnits
    (num den : Nat)
    (unit : Int) :
    Nat × Nat :=
  if 0 ≤ unit then (num, den * Nat.pow 10 unit.toNat) else (num * Nat.pow 10 (-unit).toNat, den)

/-- The digits of a positive number without the zeros at the end. -/
def trimZeros (cs : List Char) : List Char :=
  (cs.reverse.dropWhile (· == '0')).reverse

/-- The decimal `n · 10^unit` with its digits as written. -/
def decimalOf
    (n : Nat)
    (unit : Int) :
    Decimal :=
  let ds := Number.digits n
  ⟨trimZeros ds, unit + (ds.length : Int) - 1⟩

/-- `num / den` rounded to `count` significant digits, an exact half to the even neighbour. -/
def roundTo
    (count : Nat)
    (num den : Nat) :
    Decimal :=
  let unit := leadExponent num den - (count : Int) + 1
  let (a, b) := inUnits num den unit
  let q := a / b
  let r := a % b
  let n := if 2 * r < b then q else if b < 2 * r then q + 1 else q + q % 2
  decimalOf n unit

/-- The grid with `count` digits: the point nearest to `mid / den` among those between `low / den`
and `high / den`, the ends belonging to the interval when `closed` holds. -/
def pointWithin?
    (closed : Bool)
    (low mid high den : Nat)
    (count : Nat) :
    Option Decimal :=
  let unit := leadExponent mid den - (count : Int) + 1
  let (a, b) := inUnits mid den unit
  let (l, _) := inUnits low den unit
  let (h, _) := inUnits high den unit
  let inside (n : Nat) : Bool :=
    if closed then l ≤ n * b && n * b ≤ h else l < n * b && n * b < h
  let q := a / b
  let r := a % b
  if inside q && (!inside (q + 1) || 2 * r < b || (2 * r == b && q % 2 == 0)) then
    some (decimalOf q unit)
  else if inside (q + 1) then
    some (decimalOf (q + 1) unit)
  else
    none

/-- The shortest decimal that reads back as `m · 2^e`, for a positive mantissa. -/
def shortest
    (m : Nat)
    (e : Int) :
    Decimal :=
  let (mul, den) : Nat × Nat :=
    if 2 ≤ e then (Nat.pow 2 (e - 2).toNat, 1) else (1, Nat.pow 2 (2 - e).toNat)
  let below := if m = Nat.pow 2 52 && -1074 < e then 1 else 2
  let low := (4 * m - below) * mul
  let mid := 4 * m * mul
  let high := (4 * m + 2) * mul
  let closed := m % 2 == 0
  ((List.range 17).findSome? fun k => pointWithin? closed low mid high den (k + 1)).getD
    (roundTo 17 mid den)

end Digits

section Layout

/-- When a decimal is written with an exponent, and whether a whole number keeps its point. -/
structure Layout where
  least : Int
  beyond : Int
  keepsPoint : Bool

/-- Full precision: exponents of ten from -4 to 15 are written out. -/
def fullLayout : Layout := ⟨-4, 16, true⟩

/-- Six digits: exponents of ten from -4 to 5 are written out. -/
def briefLayout : Layout := ⟨-4, 6, false⟩

/-- An exponent with its sign and at least two digits. -/
def exponentText (p : Int) : List Char :=
  let ds := Number.digits p.natAbs
  (if p < 0 then '-' else '+') :: (if ds.length < 2 then '0' :: ds else ds)

def Layout.write
    (layout : Layout)
    (d : Decimal) :
    List Char :=
  if d.exponent < layout.least || layout.beyond ≤ d.exponent then
    let tail :=
      match d.digits with
      | [] => []
      | [c] => [c]
      | c :: rest => c :: '.' :: rest
    tail ++ 'e' :: exponentText d.exponent
  else if d.exponent < 0 then
    '0' :: '.' :: List.replicate ((-d.exponent).toNat - 1) '0' ++ d.digits
  else
    let whole := d.exponent.toNat + 1
    let left := d.digits.take whole ++ List.replicate (whole - d.digits.length) '0'
    let right := d.digits.drop whole
    if right.isEmpty then
      left ++ (if layout.keepsPoint then ['.', '0'] else [])
    else
      left ++ '.' :: right

/-- A value in a layout, with the digits that `choose` gives for a positive mantissa. -/
def write
    (layout : Layout)
    (choose : Nat → Int → Decimal) :
    Binary64 → List Char
  | .nan => ['n', 'a', 'n']
  | .infinite negative => (if negative then ['-'] else []) ++ ['i', 'n', 'f']
  | .finite negative m e =>
    let d := if m = 0 then ⟨['0'], 0⟩ else choose m e
    (if negative then ['-'] else []) ++ layout.write d

/-- The shortest text that reads back as the same double. -/
def fullText (x : Float) : String :=
  String.ofList (write fullLayout shortest (ofFloat x))

/-- The text with at most six significant digits. -/
def briefText (x : Float) : String :=
  let choose (m : Nat) (e : Int) : Decimal :=
    if 0 ≤ e then roundTo 6 (m * Nat.pow 2 e.toNat) 1 else roundTo 6 m (Nat.pow 2 (-e).toNat)
  String.ofList (write briefLayout choose (ofFloat x))

end Layout

section Reading

/-- The double nearest to `n · 10^e`. -/
def ofDecimal
    (n : Nat)
    (e : Int) :
    Float :=
  let size := ((Number.digits n).length : Int) + e
  if n = 0 || size < -400 then
    0
  else if 400 < size then
    1.0 / 0.0
  else
    Float.ofScientific n (e < 0) e.natAbs

/-- Removes the underscores that stand between two digits; any other one is a fault. -/
def ungroupFrom
    (previous : Char) :
    List Char → Option (List Char)
  | [] => some []
  | '_' :: c :: rest =>
    if Text.isDecimalDigit previous && Text.isDecimalDigit c then
      (ungroupFrom c rest).map (c :: ·)
    else
      none
  | ['_'] => none
  | c :: rest => (ungroupFrom c rest).map (c :: ·)

/-- The exponent written after a mantissa; none means zero. -/
def readExponent? : List Char → Option Int
  | [] => some 0
  | c :: rest =>
    if c = 'e' || c = 'E' then
      let (negative, ds) := takeSign rest
      if ds.isEmpty then none else (ofDigits? 10 0 ds).map (signed negative)
    else
      none

/-- Reads an unsigned decimal with an optional fraction and an optional exponent. -/
def readMagnitude? (cs : List Char) : Option Float :=
  let whole := cs.takeWhile Text.isDecimalDigit
  let rest := cs.drop whole.length
  let (fraction, rest) :=
    match rest with
    | '.' :: tail => (tail.takeWhile Text.isDecimalDigit, tail.dropWhile Text.isDecimalDigit)
    | _ => ([], rest)
  if whole.isEmpty && fraction.isEmpty then
    none
  else
    (ofDigits? 10 0 (whole ++ fraction)).bind fun n =>
      (readExponent? rest).map fun e => ofDecimal n (e - fraction.length)

/-- Reads a double: a decimal with white space around it and a sign, an infinity or not a
number. -/
def read? (s : String) : Option Float :=
  let (negative, body) := takeSign (Text.trimBy Text.isNumberBlank s.toList)
  let word := String.ofList (body.map Char.toLower)
  let magnitude? :=
    if word == "inf" || word == "infinity" then some (1.0 / 0.0)
    else if word == "nan" then some (0.0 / 0.0)
    else (ungroupFrom ' ' body).bind readMagnitude?
  magnitude?.map fun x => if negative then -x else x

end Reading

end Binary64
end Number
end ManagedSwitch
