/-!
# Bytes and UTF-8

Texts are sent as UTF-8.  `encode` writes a text; `decode` reads any byte string, putting the
replacement character for every maximal part that begins no character; `decode?` reads only
well-formed bytes.  Both readers rest on `step`, which takes one character or one faulty part off
the front of a non-empty byte string.
-/

namespace ManagedSwitch

/-- A byte string. -/
abbrev Bytes := List UInt8

namespace Text
namespace Utf8

section Encode

def encodeCode (n : Nat) : List Nat :=
  if n < 0x80 then
    [n]
  else if n < 0x800 then
    [0xC0 + n / 64, 0x80 + n % 64]
  else if n < 0x10000 then
    [0xE0 + n / 4096, 0x80 + n / 64 % 64, 0x80 + n % 64]
  else
    [0xF0 + n / 262144, 0x80 + n / 4096 % 64, 0x80 + n / 64 % 64, 0x80 + n % 64]

def encodeChars (cs : List Char) : Bytes :=
  cs.flatMap fun c => (encodeCode c.toNat).map UInt8.ofNat

def encode (s : String) : Bytes :=
  encodeChars s.toList

def size (s : String) : Nat :=
  (encode s).length

end Encode

section Decode

/-- What stands at the front of a byte string: a character or a part that begins none, with the
number of bytes it takes. -/
structure Front where
  char? : Option Char
  width : Nat

/-- For a first byte: the number of bytes that follow, the bits it contributes, and the range of
the byte after it. -/
def lead? (b : Nat) : Option (Nat × Nat × Nat × Nat) :=
  if 0xC2 ≤ b && b ≤ 0xDF then some (1, b - 0xC0, 0x80, 0xBF)
  else if b == 0xE0 then some (2, 0, 0xA0, 0xBF)
  else if b == 0xED then some (2, 13, 0x80, 0x9F)
  else if 0xE1 ≤ b && b ≤ 0xEF then some (2, b - 0xE0, 0x80, 0xBF)
  else if b == 0xF0 then some (3, 0, 0x90, 0xBF)
  else if b == 0xF4 then some (3, 4, 0x80, 0x8F)
  else if 0xF1 ≤ b && b ≤ 0xF3 then some (3, b - 0xF0, 0x80, 0xBF)
  else none

/-- Reads `need` continuation bytes, the next one between `lo` and `hi`; `taken` bytes have been
read and carry the bits `acc`. -/
def continueFront
    (need taken acc lo hi : Nat)
    (bs : Bytes) :
    Front :=
  match need, bs with
  | 0, _ => ⟨some (Char.ofNat acc), taken⟩
  | _ + 1, [] => ⟨none, taken⟩
  | need + 1, b :: rest =>
    if lo ≤ b.toNat && b.toNat ≤ hi then
      continueFront need (taken + 1) (acc * 64 + (b.toNat - 0x80)) 0x80 0xBF rest
    else
      ⟨none, taken⟩

/-- The front of a byte string that begins with `b`. -/
def step
    (b : UInt8)
    (rest : Bytes) :
    Front :=
  if b.toNat < 0x80 then
    ⟨some (Char.ofNat b.toNat), 1⟩
  else
    match lead? b.toNat with
    | none => ⟨none, 1⟩
    | some (need, bits, lo, hi) => continueFront need 1 bits lo hi rest

/-- The characters of a byte string, with U+FFFD for every part that begins no character. -/
def decodeChars : Bytes → List Char
  | [] => []
  | b :: rest =>
    let front := step b rest
    front.char?.getD '\uFFFD' :: decodeChars (rest.drop (front.width - 1))
termination_by bs => bs.length
decreasing_by simp only [List.length_cons, List.length_drop]; omega

/-- The text of a byte string, with U+FFFD for every part that begins no character. -/
def decode (bs : Bytes) : String :=
  String.ofList (decodeChars bs)

/-- The characters of a well-formed byte string. -/
def decodeChars? : Bytes → Option (List Char)
  | [] => some []
  | b :: rest =>
    let front := step b rest
    match front.char? with
    | none => none
    | some c => (decodeChars? (rest.drop (front.width - 1))).map (c :: ·)
termination_by bs => bs.length
decreasing_by simp only [List.length_cons, List.length_drop]; omega

/-- The text of a well-formed byte string. -/
def decode? (bs : Bytes) : Option String :=
  (decodeChars? bs).map String.ofList

end Decode

end Utf8

/-- The text whose characters have the values of the bytes. -/
def ofLatin1 (bs : Bytes) : String :=
  String.ofList (bs.map fun b => Char.ofNat b.toNat)

end Text
end ManagedSwitch
