import ManagedSwitch.Proofs.Text.Utf8
import ManagedSwitch.Text.Percent

/-!
# Reading back percent-encoded texts

An encoded text is made of unreserved characters and of groups of a percent sign and two digits
(`escaped_percentEncode`), so that it contains none of the XX-/

namespace ManagedSwitch
namespace Text

section Digits

/-- A digit in upper case is read as the number it was written for. -/
theorem hexValue?_upperHexDigit :
    ∀ n, n < 16 → hexValue? (upperHexDigit n) = some n := by
  decide

/-- A digit in upper case needs no encoding. -/
theorem isUnreserved_upperHexDigit :
    ∀ n, n < 16 → isUnreserved (upperHexDigit n) = true := by
  decide

end Digits

section Alphabet

/-- A byte is written with a percent sign and unreserved characters. -/
theorem mem_percentByte
    {b : UInt8}
    {x : Char}
    (hx : x ∈ percentByte b) :
    x = '%' ∨ isUnreserved x = true := by
  have hb : b.toNat < 256 := UInt8.toNat_lt b
  simp only [percentByte, List.mem_cons, List.not_mem_nil, or_false] at hx
  rcases hx with rfl | rfl | rfl
  · exact Or.inl rfl
  · exact Or.inr (isUnreserved_upperHexDigit _ (by omega))
  · exact Or.inr (isUnreserved_upperHexDigit _ (by omega))

/-- An encoded text is made of percent signs and unreserved characters. -/
theorem mem_percentEncode
    {s : String}
    {x : Char}
    (hx : x ∈ (percentEncode s).toList) :
    x = '%' ∨ isUnreserved x = true := by
  rw [percentEncode, String.toList_ofList, List.mem_flatMap] at hx
  obtain ⟨c, _, hx⟩ := hx
  rw [percentChar] at hx
  split at hx
  · next hc =>
      rw [List.mem_singleton] at hx
      exact Or.inr (hx ▸ hc)
  · obtain ⟨b, _, hb⟩ := List.mem_flatMap.mp hx
    exact mem_percentByte hb

/-- A character that may stand for itself: a letter or a digit of ASCII or one of nine marks. -/
def Unreserved (c : Char) : Prop :=
  c.isAlphanum = true ∨ c ∈ ['-', '_', '.', '!', '~', '*', '\'', '(', ')']

theorem isUnreserved_iff
    {c : Char} :
    isUnreserved c = true ↔ Unreserved c := by
  rw [isUnreserved, Bool.or_eq_true, List.contains_iff_mem]
  rfl

/-- Characters that may stand for themselves, and groups of a percent sign and two digits in upper
case. -/
inductive Escaped : List Char → Prop
  | nil : Escaped []
  | plain
      {c : Char}
      {rest : List Char}
      (hc : Unreserved c)
      (h : Escaped rest) :
      Escaped (c :: rest)
  | group
      {a b : Char}
      {rest : List Char}
      (ha : a ∈ "0123456789ABCDEF".toList)
      (hb : b ∈ "0123456789ABCDEF".toList)
      (h : Escaped rest) :
      Escaped ('%' :: a :: b :: rest)

theorem upperHexDigit_mem :
    ∀ n, n < 16 → upperHexDigit n ∈ "0123456789ABCDEF".toList := by
  decide

/-- The groups for bytes stand in front of an escaped text. -/
theorem Escaped.flatMap_percentByte_append
    {rest : List Char}
    (h : Escaped rest)
    (bs : Bytes) :
    Escaped (bs.flatMap percentByte ++ rest) := by
  induction bs with
  | nil =>
      exact h
  | cons b bs ih =>
      have hb : b.toNat < 256 := b.toNat_lt
      rw [List.flatMap_cons, List.append_assoc]
      exact .group (upperHexDigit_mem _ (by omega)) (upperHexDigit_mem _ (by omega)) ih

/-- What is encoded is escaped. -/
theorem escaped_percentEncode
    (s : String) :
    Escaped (percentEncode s).toList := by
  rw [percentEncode, String.toList_ofList]
  induction s.toList with
  | nil =>
      exact .nil
  | cons c cs ih =>
      rw [List.flatMap_cons, percentChar]
      split
      · next hc =>
          exact .plain (isUnreserved_iff.mp hc) ih
      · exact ih.flatMap_percentByte_append _

end Alphabet

section Parts

/-- Texts that are put together are encoded part by part. -/
theorem percentEncode_append
    (s t : String) :
    percentEncode (s ++ t) = percentEncode s ++ percentEncode t := by
  rw [percentEncode, String.toList_append, List.flatMap_append, String.ofList_append]
  rfl

/-- Characters that may stand for themselves do. -/
theorem percentEncode_eq_self
    {s : String}
    (h : ∀ c ∈ s.toList, Unreserved c) :
    percentEncode s = s := by
  have hchar : ∀ c ∈ s.toList, percentChar c = [c] :=
    fun c hc => if_pos (isUnreserved_iff.mpr (h c hc))
  rw [percentEncode, List.flatMap_def, List.map_congr_left hchar, ← List.flatMap_def,
    List.flatMap_singleton', String.ofList_toList]

end Parts

section RoundTrip

/-- A character other than the percent sign stands for its own bytes. -/
theorem percentBytes_cons_of_ne
    {c : Char}
    (h : c ≠ '%')
    (rest : List Char) :
    percentBytes (c :: rest) = Utf8.charBytes c ++ percentBytes rest := by
  have hchar : Utf8.encodeChars [c] = Utf8.charBytes c := List.append_nil _
  rw [percentBytes.eq_def, ← hchar]
  split
  · next heq =>
      exact absurd heq (List.cons_ne_nil c rest)
  · next heq =>
      exact absurd (List.cons.inj heq).1 h
  · next heq =>
      obtain ⟨rfl, rfl⟩ := List.cons.inj heq
      rfl

/-- The group for a byte is read as that byte. -/
theorem percentBytes_percentByte
    (b : UInt8)
    (rest : List Char) :
    percentBytes (percentByte b ++ rest) = b :: percentBytes rest := by
  have hb : b.toNat < 256 := UInt8.toNat_lt b
  have hsum : b.toNat / 16 * 16 + b.toNat % 16 = b.toNat := by omega
  simp only [percentByte, List.cons_append, List.nil_append, percentBytes,
    hexValue?_upperHexDigit _ (show b.toNat / 16 < 16 by omega),
    hexValue?_upperHexDigit _ (show b.toNat % 16 < 16 by omega), hsum, UInt8.ofNat_toNat]

/-- The groups for several bytes are read as those bytes. -/
theorem percentBytes_flatMap_percentByte
    (bs : Bytes)
    (rest : List Char) :
    percentBytes (bs.flatMap percentByte ++ rest) = bs ++ percentBytes rest := by
  induction bs with
  | nil =>
      rfl
  | cons b bs ih =>
      rw [List.flatMap_cons, List.append_assoc, percentBytes_percentByte, ih, List.cons_append]

/-- The encoded form of a character is read as the bytes of that character. -/
theorem percentBytes_percentChar
    (c : Char)
    (rest : List Char) :
    percentBytes (percentChar c ++ rest) = Utf8.charBytes c ++ percentBytes rest := by
  rw [percentChar]
  split
  · next hc =>
      have hne : c ≠ '%' := by
        rintro rfl
        exact absurd hc (by decide)
      exact percentBytes_cons_of_ne hne rest
  · rw [Utf8.encodeChars_cons, Utf8.encodeChars_nil, List.append_nil]
    exact percentBytes_flatMap_percentByte (Utf8.charBytes c) rest

/-- The bytes of an encoded text are those of the text. -/
theorem percentBytes_flatMap_percentChar
    (cs : List Char) :
    percentBytes (cs.flatMap percentChar) = Utf8.encodeChars cs := by
  induction cs with
  | nil =>
      rfl
  | cons c cs ih =>
      rw [List.flatMap_cons, percentBytes_percentChar, ih, Utf8.encodeChars_cons]

theorem percentBytes_percentEncode
    (s : String) :
    percentBytes (percentEncode s).toList = Utf8.encode s := by
  rw [percentEncode, String.toList_ofList, percentBytes_flatMap_percentChar]
  rfl

/-- Decoding undoes encoding. -/
theorem percentDecode_percentEncode
    (s : String) :
    percentDecode (percentEncode s) = s := by
  rw [percentDecode, percentBytes_percentEncode]
  exact Utf8.decode_encode s

end RoundTrip

end Text
end ManagedSwitch
