import Mathlib.Logic.Function.Basic
import ManagedSwitch.Proofs.Text.StrictUtf8
import ManagedSwitch.Proofs.Text.Trim
import ManagedSwitch.Text.Case

/-!
# Texts in Latin-1

`ofLatin1` gives every byte the character of its number, so that what is done to such a text can be
said of its bytes: which bytes are white space and what stands for them in lower case.  `toLatin1`
writes the texts whose characters have numbers of bytes.
-/

namespace ManagedSwitch
namespace Text

section Characters

/-- The character that has the number of a byte. -/
def byteChar (b : UInt8) : Char :=
  Char.ofNat b.toNat

theorem toNat_byteChar
    (b : UInt8) :
    (byteChar b).toNat = b.toNat := by
  have hb : b.toNat < 256 := b.toNat_lt
  exact Utf8.toNat_ofNat (by omega)

theorem byteChar_injective :
    Function.Injective byteChar := by
  intro b c heq
  have hnat : b.toNat = c.toNat := by
    rw [← toNat_byteChar b, ← toNat_byteChar c, heq]
  exact UInt8.toNat_inj.mp hnat

@[simp] theorem toList_ofLatin1
    (bs : Bytes) :
    (ofLatin1 bs).toList = bs.map byteChar := by
  rw [ofLatin1, String.toList_ofList]
  rfl

/-- What holds of the numbers below 256 holds of the numbers of all bytes. -/
theorem forall_byte
    {p : UInt8 → Prop}
    (h : ∀ n, n < 256 → p (UInt8.ofNat n))
    (b : UInt8) :
    p b := by
  have hb := h b.toNat b.toNat_lt
  rwa [UInt8.ofNat_toNat] at hb

end Characters

section Bytes

/-- Whether a byte is white space: tab to carriage return, the information separators, space, next
line and the space that breaks no line. -/
def isBlankByte (b : UInt8) : Bool :=
  (9 ≤ b && b ≤ 13) || (28 ≤ b && b ≤ 32) || b == 0x85 || b == 0xA0

/-- The byte of a letter in lower case: letters of ASCII and accented ones, among which stands the
sign for multiplication. -/
def lowerByte (b : UInt8) : UInt8 :=
  if (65 ≤ b && b ≤ 90) || (0xC0 ≤ b && b ≤ 0xDE && b != 0xD7) then b + 32 else b

theorem isBlank_byteChar
    (b : UInt8) :
    isBlank (byteChar b) = isBlankByte b :=
  forall_byte (p := fun b => isBlank (byteChar b) = isBlankByte b) (by decide +kernel) b

theorem lowerChar_byteChar
    (b : UInt8) :
    lowerChar (byteChar b) = byteChar (lowerByte b) :=
  forall_byte (p := fun b => lowerChar (byteChar b) = byteChar (lowerByte b)) (by decide +kernel) b

/-- Trimming takes white space off the ends of the bytes. -/
theorem strip_ofLatin1
    {bs inner : Bytes}
    (h : Trimmed isBlankByte bs inner) :
    strip (ofLatin1 bs) = ofLatin1 inner := by
  have hblank : isBlankByte = fun b => isBlank (byteChar b) :=
    funext fun b => (isBlank_byteChar b).symm
  rw [hblank] at h
  rw [strip, toList_ofLatin1, trimBy_eq_iff.mpr h.map]
  rfl

/-- Lower case is taken byte by byte. -/
theorem lower_ofLatin1
    (bs : Bytes) :
    lower (ofLatin1 bs) = ofLatin1 (bs.map lowerByte) := by
  have hbytes :
      ∀ before : List Char, lowerAfter before (bs.map byteChar) =
        (bs.map lowerByte).map byteChar := by
    induction bs with
    | nil =>
        exact fun _ => rfl
    | cons b bs ih =>
        intro before
        have hb : b.toNat < 256 := b.toNat_lt
        -- The two letters with rules of their own have larger numbers.
        have hsigma : byteChar b ≠ 'Σ' := by
          intro h
          have := toNat_byteChar b
          rw [h, show 'Σ'.toNat = 931 from rfl] at this
          omega
        have hdotted : byteChar b ≠ 'İ' := by
          intro h
          have := toNat_byteChar b
          rw [h, show 'İ'.toNat = 304 from rfl] at this
          omega
        rw [List.map_cons, lowerAfter, if_neg hsigma, if_neg hdotted, ih, lowerChar_byteChar]
        rfl
  rw [lower, toList_ofLatin1, hbytes]
  rfl

end Bytes

section Writing

/-- The bytes with the numbers of the characters. -/
def toLatin1 (s : String) : Bytes :=
  s.toList.map fun c => UInt8.ofNat c.toNat

/-- All characters have numbers of bytes. -/
def IsLatin1 (s : String) : Prop :=
  ∀ c ∈ s.toList, c.toNat < 256

instance IsLatin1.instDecidable (s : String) : Decidable (IsLatin1 s) :=
  List.decidableBAll (fun c : Char => c.toNat < 256) s.toList

/-- Reading undoes writing. -/
theorem ofLatin1_toLatin1
    {s : String}
    (h : IsLatin1 s) :
    ofLatin1 (toLatin1 s) = s := by
  have hchars : (toLatin1 s).map byteChar = s.toList := by
    rw [toLatin1, List.map_map]
    refine (List.map_congr_left fun c hc => ?_).trans (List.map_id s.toList)
    rw [Function.comp_apply, byteChar, Utf8.toNat_byte (h c hc), Char.ofNat_toNat, id]
  rw [ofLatin1, show (fun b : UInt8 => Char.ofNat b.toNat) = byteChar from rfl, hchars,
    String.ofList_toList]

/-- A byte stands among the bytes of a text only if its character stands in the text. -/
theorem mem_toLatin1
    {s : String}
    (h : IsLatin1 s)
    {b : UInt8}
    (hb : b ∈ toLatin1 s) :
    byteChar b ∈ s.toList := by
  obtain ⟨c, hc, rfl⟩ := List.mem_map.mp hb
  rwa [byteChar, Utf8.toNat_byte (h c hc), Char.ofNat_toNat]

end Writing

end Text
end ManagedSwitch
