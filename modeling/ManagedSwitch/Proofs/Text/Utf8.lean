import ManagedSwitch.Text.Utf8

/-!
# Reading back UTF-8

What `encode` writes, `decode` reads back without loss.  The bytes of a character fall into four
shapes by their number; in every shape the first byte announces how many bytes follow and narrows
the range of the second one so far that no character has two spellings.
-/

namespace ManagedSwitch
namespace Text
namespace Utf8

section Characters

/-- Code points of characters leave out the surrogates. -/
theorem toNat_range
    (c : Char) :
    c.toNat < 0xD800 ∨ (0xDFFF < c.toNat ∧ c.toNat < 0x110000) := by
  have h := c.valid
  simp only [UInt32.isValidChar, Nat.isValidChar] at h
  exact h

/-- The value of a byte given by a small number. -/
theorem toNat_byte
    {n : Nat}
    (h : n < 256) :
    (UInt8.ofNat n).toNat = n :=
  UInt8.toNat_ofNat_of_lt' h

/-- One continuation byte adds its six bits. -/
theorem continueFront_cons
    {need taken acc lo hi n : Nat}
    {rest : Bytes}
    (hlo : lo ≤ n)
    (hhi : n ≤ hi)
    (hn : n < 256) :
    continueFront (need + 1) taken acc lo hi (UInt8.ofNat n :: rest) =
      continueFront need (taken + 1) (acc * 64 + (n - 0x80)) 0x80 0xBF rest := by
  rw [continueFront, toNat_byte hn]
  simp [hlo, hhi]

/-- A first byte with continuation bytes behind it. -/
theorem step_lead
    {n need bits lo hi : Nat}
    {rest : Bytes}
    (hn : n < 256)
    (hmulti : 0x80 ≤ n)
    (hlead : lead? n = some (need, bits, lo, hi)) :
    step (UInt8.ofNat n) rest = continueFront need 1 bits lo hi rest := by
  rw [step, toNat_byte hn]
  simp [Nat.not_lt.mpr hmulti, hlead]

end Characters

section Leads

/-- The first byte of a character of two bytes. -/
theorem lead?_two
    {n : Nat}
    (hlow : 0x80 ≤ n)
    (hhigh : n < 0x800) :
    lead? (0xC0 + n / 64) = some (1, n / 64, 0x80, 0xBF) := by
  have h₁ : 0xC2 ≤ 0xC0 + n / 64 := by omega
  have h₂ : 0xC0 + n / 64 ≤ 0xDF := by omega
  simp [lead?, h₁, h₂]

/-- The first byte of a character of three bytes, and the range that its second byte is in. -/
theorem lead?_three
    {n : Nat}
    (hlow : 0x800 ≤ n)
    (hhigh : n < 0x10000)
    (hchar : n < 0xD800 ∨ 0xDFFF < n) :
    ∃ lo hi, lead? (0xE0 + n / 4096) = some (2, n / 4096, lo, hi) ∧
      lo ≤ 0x80 + n / 64 % 64 ∧ 0x80 + n / 64 % 64 ≤ hi := by
  rcases Nat.lt_or_ge n 0x1000 with h | h
  · have hq : n / 4096 = 0 := by omega
    refine ⟨0xA0, 0xBF, by simp [lead?, hq], ?_, ?_⟩ <;> omega
  · rcases Nat.decEq (n / 4096) 13 with hne | heq
    · refine ⟨0x80, 0xBF, ?_, by omega, by omega⟩
      have h₁ : ¬ 0xE0 + n / 4096 ≤ 0xDF := by omega
      have h₂ : 0xE0 + n / 4096 ≠ 0xED := by omega
      have h₃ : 0xE1 ≤ 0xE0 + n / 4096 := by omega
      have h₄ : 0xE0 + n / 4096 ≤ 0xEF := by omega
      simp [lead?, Nat.not_lt.mpr h, h₁, h₂, h₃, h₄]
    · refine ⟨0x80, 0x9F, by simp [lead?, heq], ?_, ?_⟩ <;> omega

/-- The first byte of a character of four bytes, and the range that its second byte is in. -/
theorem lead?_four
    {n : Nat}
    (hlow : 0x10000 ≤ n)
    (hhigh : n < 0x110000) :
    ∃ lo hi, lead? (0xF0 + n / 262144) = some (3, n / 262144, lo, hi) ∧
      lo ≤ 0x80 + n / 4096 % 64 ∧ 0x80 + n / 4096 % 64 ≤ hi := by
  rcases Nat.lt_or_ge n 0x40000 with h | h
  · have hq : n / 262144 = 0 := by omega
    refine ⟨0x90, 0xBF, by simp [lead?, hq], ?_, ?_⟩ <;> omega
  · rcases Nat.lt_or_ge n 0x100000 with h' | h'
    · refine ⟨0x80, 0xBF, ?_, by omega, by omega⟩
      have h₁ : ¬ 0xF0 + n / 262144 ≤ 0xDF := by omega
      have h₂ : 0xF0 + n / 262144 ≠ 0xE0 := by omega
      have h₃ : 0xF0 + n / 262144 ≠ 0xED := by omega
      have h₄ : ¬ 0xF0 + n / 262144 ≤ 0xEF := by omega
      have h₅ : 0xF0 + n / 262144 ≠ 0xF4 := by omega
      have h₆ : 0xF1 ≤ 0xF0 + n / 262144 := by omega
      have h₇ : 0xF0 + n / 262144 ≤ 0xF3 := by omega
      simp [lead?, Nat.not_lt.mpr h, h₁, h₂, h₃, h₄, h₅, h₆, h₇]
    · have hq : n / 262144 = 4 := by omega
      refine ⟨0x80, 0x8F, by simp [lead?, hq], ?_, ?_⟩ <;> omega

end Leads

section RoundTrip

/-- The bytes of one character. -/
def charBytes (c : Char) : Bytes :=
  (encodeCode c.toNat).map UInt8.ofNat

@[simp] theorem encodeChars_nil :
    encodeChars [] = [] := by
  rfl

@[simp] theorem encodeChars_cons
    (c : Char)
    (cs : List Char) :
    encodeChars (c :: cs) = charBytes c ++ encodeChars cs := by
  rfl

/-- The front of the bytes of a character, whatever follows, is that character. -/
theorem step_charBytes
    (c : Char)
    (tail : Bytes) :
    ∃ b bs, charBytes c = b :: bs ∧ step b (bs ++ tail) = ⟨some c, bs.length + 1⟩ := by
  have hchar := toNat_range c
  have hof : Char.ofNat c.toNat = c := Char.ofNat_toNat c
  generalize hn : c.toNat = n at hchar hof
  simp only [charBytes, hn]
  rcases Nat.lt_or_ge n 0x80 with h₁ | h₁
  · refine ⟨UInt8.ofNat n, [], by simp [encodeCode, h₁], ?_⟩
    simp [step, toNat_byte (show n < 256 by omega), h₁, hof]
  rcases Nat.lt_or_ge n 0x800 with h₂ | h₂
  · rw [encodeCode, if_neg (Nat.not_lt.mpr h₁), if_pos h₂]
    refine ⟨_, _, rfl, ?_⟩
    rw [List.map_cons, List.map_nil, step_lead (by omega) (by omega) (lead?_two h₁ h₂),
      List.cons_append, continueFront_cons (by omega) (by omega) (by omega)]
    have hval : n / 64 * 64 + (0x80 + n % 64 - 0x80) = n := by omega
    rw [continueFront, hval, hof]
    rfl
  rcases Nat.lt_or_ge n 0x10000 with h₃ | h₃
  · obtain ⟨lo, hi, hlead, hlo, hhi⟩ := lead?_three h₂ h₃ (by omega)
    rw [encodeCode, if_neg (Nat.not_lt.mpr h₁), if_neg (Nat.not_lt.mpr h₂), if_pos h₃]
    refine ⟨_, _, rfl, ?_⟩
    rw [List.map_cons, List.map_cons, List.map_nil, step_lead (by omega) (by omega) hlead,
      List.cons_append, continueFront_cons hlo hhi (by omega),
      List.cons_append, continueFront_cons (by omega) (by omega) (by omega)]
    have hval :
        (n / 4096 * 64 + (0x80 + n / 64 % 64 - 0x80)) * 64 + (0x80 + n % 64 - 0x80) = n := by
      omega
    rw [continueFront, hval, hof]
    rfl
  · obtain ⟨lo, hi, hlead, hlo, hhi⟩ := lead?_four h₃ (by omega)
    rw [encodeCode, if_neg (Nat.not_lt.mpr h₁), if_neg (Nat.not_lt.mpr h₂),
      if_neg (Nat.not_lt.mpr h₃)]
    refine ⟨_, _, rfl, ?_⟩
    rw [List.map_cons, List.map_cons, List.map_cons, List.map_nil,
      step_lead (by omega) (by omega) hlead,
      List.cons_append, continueFront_cons hlo hhi (by omega),
      List.cons_append, continueFront_cons (by omega) (by omega) (by omega),
      List.cons_append, continueFront_cons (by omega) (by omega) (by omega)]
    have hval :
        ((n / 262144 * 64 + (0x80 + n / 4096 % 64 - 0x80)) * 64 +
          (0x80 + n / 64 % 64 - 0x80)) * 64 + (0x80 + n % 64 - 0x80) = n := by
      omega
    rw [continueFront, hval, hof]
    rfl

/-- Decoding takes the characters off the front one by one. -/
theorem decodeChars_encodeChars_append
    (cs : List Char)
    (tail : Bytes) :
    decodeChars (encodeChars cs ++ tail) = cs ++ decodeChars tail := by
  induction cs with
  | nil =>
      rfl
  | cons c cs ih =>
      obtain ⟨b, bs, hbytes, hstep⟩ := step_charBytes c (encodeChars cs ++ tail)
      rw [encodeChars_cons, List.append_assoc, hbytes, List.cons_append, decodeChars, hstep]
      simp [ih]

/-- Decoding undoes encoding. -/
theorem decode_encode
    (s : String) :
    decode (encode s) = s := by
  have h := decodeChars_encodeChars_append s.toList []
  have hnil : decodeChars [] = [] := by simp [decodeChars]
  rw [List.append_nil, hnil, List.append_nil] at h
  rw [decode, encode, h, String.ofList_toList]

end RoundTrip

section Joining

theorem encodeChars_append
    (cs ds : List Char) :
    encodeChars (cs ++ ds) = encodeChars cs ++ encodeChars ds :=
  List.flatMap_append

theorem encode_append
    (s t : String) :
    encode (s ++ t) = encode s ++ encode t := by
  rw [encode, String.toList_append, encodeChars_append]
  rfl

/-- The bytes of joined texts are the joined bytes of the texts. -/
theorem encode_intercalate
    (sep : String)
    (pieces : List String) :
    encode (sep.intercalate pieces) = (encode sep).intercalate (pieces.map encode) := by
  rw [encode, String.toList_intercalate]
  induction pieces with
  | nil =>
      rfl
  | cons s pieces ih =>
      cases pieces with
      | nil =>
          simp [encode]
      | cons t pieces =>
          rw [List.map_cons, List.map_cons, List.intercalate_cons_cons, encodeChars_append,
            encodeChars_append, ← List.map_cons, ih, List.map_cons, List.map_cons, List.map_cons,
            List.intercalate_cons_cons]
          rfl

end Joining

end Utf8
end Text
end ManagedSwitch
