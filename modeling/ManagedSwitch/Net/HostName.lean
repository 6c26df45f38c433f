import ManagedSwitch.Text.Split

/-!
# Host names

A host name is looked up in its encoded form: labels of at most sixty-three characters with dots
between them.  A label that has characters outside ASCII is encoded with a mark in front, as basic
characters followed by the differences of the other ones.
-/

namespace ManagedSwitch
namespace HostName

section Deltas

/-- The number of digits that encode a difference: `k` goes up by one digit base at a time and
`bias` says how large the digits are on each place. -/
def deltaDigits (fuel : Nat) (bias k q : Nat) : Nat :=
  match fuel with
  | 0 => 1
  | fuel + 1 =>
    let t := if k ≤ bias then 1 else if bias + 26 ≤ k then 26 else k - bias
    if q < t then 1 else 1 + deltaDigits fuel bias (k + 36) ((q - t) / (36 - t))

/-- Divides a difference down to the range of one digit. -/
def damp (fuel : Nat) (k delta : Nat) : Nat × Nat :=
  match fuel with
  | 0 => (k, delta)
  | fuel + 1 => if 455 < delta then damp fuel (k + 36) (delta / 35) else (k, delta)

/-- The size of digits after a difference has been encoded. -/
def nextBias (delta points : Nat) (first : Bool) : Nat :=
  let delta := if first then delta / 700 else delta / 2
  let delta := delta + delta / points
  let (k, delta) := damp 64 0 delta
  k + 36 * delta / (delta + 38)

/-- What encoding has come to: the number of characters written, those of them that are handled, the
running difference and the size of digits. -/
structure Progress where
  written : Nat
  handled : Nat
  delta : Nat
  bias : Nat

/-- Handles one character of a label while the code point `n` is being placed. -/
def placeChar
    (basic n : Nat)
    (p : Progress)
    (c : Nat) :
    Progress :=
  if c < n then
    { p with delta := p.delta + 1 }
  else if c = n then
    { written := p.written + deltaDigits 64 p.bias 36 p.delta
      handled := p.handled + 1
      delta := 0
      bias := nextBias p.delta (p.handled + 1) (p.handled == basic) }
  else
    p

/-- Places the code points of a label in increasing order. -/
def placeAll
    (label : List Nat)
    (basic last : Nat)
    (p : Progress) :
    List Nat → Progress
  | [] => p
  | n :: rest =>
    let p := { p with delta := p.delta + (n - last) * (p.handled + 1) }
    let p := label.foldl (placeChar basic n) p
    placeAll label basic (n + 1) { p with delta := p.delta + 1 } rest

def encodedLength (label : List Char) : Nat :=
  let codes := label.map Char.toNat
  let basic := (codes.filter (· < 128)).length
  let others := ((codes.filter (128 ≤ ·)).mergeSort (· ≤ ·)).eraseDups
  if others.isEmpty then
    basic
  else
    let start := if basic = 0 then 0 else basic + 1
    4 + (placeAll codes basic 128 ⟨start, basic, 0, 72⟩ others).written

end Deltas

section Encoding

/-- What makes a host name impossible to look up. -/
inductive Fault
  | emptyOrTooLong
  | tooLong
deriving DecidableEq

def Fault.message : Fault → String
  | .emptyOrTooLong => "encoding with 'idna' codec failed (UnicodeError: label empty or too long)"
  | .tooLong => "encoding with 'idna' codec failed (UnicodeError: label too long)"

def badLabel (label : List Char) : Bool :=
  label.isEmpty || 63 < encodedLength label

/-- A dot in one of its spellings, as the dot of ASCII. -/
def plainDot (c : Char) : Char :=
  if c = '\u3002' || c = '\uFF0E' || c = '\uFF61' then '.' else c

/-- The fault of a host name, if it has one.  The last label of a name in ASCII may be empty, and so
may the last one of other names. -/
def fault? (host : String) : Option Fault :=
  let cs := host.toList
  if cs.all (·.toNat < 128) then
    let labels := Text.splitOn '.' cs
    if labels.dropLast.any badLabel then some .emptyOrTooLong
    else if labels.getLast?.any (63 < ·.length) then some .tooLong
    else none
  else
    let labels := Text.splitOn '.' (cs.map plainDot)
    let labels := if labels.getLast? = some [] then labels.dropLast else labels
    if labels.any badLabel then some .emptyOrTooLong else none

end Encoding

end HostName
end ManagedSwitch
