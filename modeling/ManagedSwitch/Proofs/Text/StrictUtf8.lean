import ManagedSwitch.Proofs.Text.Utf8

/-!
# Well-formed UTF-8

`decode?` reads exactly the byte strings that `encode` writes.  One half is the round trip; for the
other, the ranges that a first byte allows for the byte behind it leave out everything that is not
the shortest spelling of a character.
-/

namespace ManagedSwitch
namespace Text
namespace Utf8

section Fronts

/-- What a first byte of several announces. -/
theorem lead?_eq_some
    {b need bits lo hi : Nat}
    (hlead : lead? b = some (need, bits, lo, hi)) :
    0x80 ≤ lo ∧ hi ≤ 0xBF ∧
      ((need = 1 ∧ b = 0xC0 + bits ∧ 2 ≤ bits ∧ bits < 0x20) ∨
        (need = 2 ∧ b = 0xE0 + bits ∧ bits < 0x10 ∧ (bits = 0 → 0xA0 ≤ lo) ∧
          (bits = 13 → hi ≤ 0x9F)) ∨
        (need = 3 ∧ b = 0xF0 + bits ∧ bits < 5 ∧ (bits = 0 → 0x90 ≤ lo) ∧
          (bits = 4 → hi ≤ 0x8F))) := by
  simp only [lead?, Bool.and_eq_true, decide_eq_true_eq, beq_iff_eq] at hlead
  repeat' split at hlead
  all_goals simp only [Option.some.injEq, Prod.mk.injEq, reduceCtorEq] at hlead
  all_goals omega

/-- A character that needs another byte has it, in the allowed range. -/
theorem continueFront_succ
    {need taken acc lo hi w : Nat}
    {bs : Bytes}
    {c : Char}
    (hfront : continueFront (need + 1) taken acc lo hi bs = ⟨some c, w⟩) :
    ∃ b rest, bs = b :: rest ∧ lo ≤ b.toNat ∧ b.toNat ≤ hi ∧
      continueFront need (taken + 1) (acc * 64 + (b.toNat - 0x80)) 0x80 0xBF rest =
        ⟨some c, w⟩ := by
  cases bs with
  | nil =>
      cases hfront
  | cons b rest =>
      rw [continueFront] at hfront
      split at hfront
      · next hrange =>
          simp only [Bool.and_eq_true, decide_eq_true_eq] at hrange
          exact ⟨b, rest, rfl, hrange.1, hrange.2, hfront⟩
      · cases hfront

/-- A character that needs no further byte is finished. -/
theorem front_eq
    {taken acc lo hi w : Nat}
    {bs : Bytes}
    {c : Char}
    (hfront : continueFront 0 taken acc lo hi bs = ⟨some c, w⟩) :
    Char.ofNat acc = c ∧ taken = w := by
  rw [continueFront] at hfront
  simpa only [Front.mk.injEq, Option.some.injEq] using hfront

/-- A number outside the surrogates is that of its character. -/
theorem toNat_ofNat
    {n : Nat}
    (h : n < 0xD800 ∨ (0xDFFF < n ∧ n < 0x110000)) :
    (Char.ofNat n).toNat = n := by
  have hvalid : n.isValidChar := h
  rw [Char.ofNat, dif_pos hvalid]
  rfl

/-- The bytes of a character that is given by its number. -/
theorem charBytes_ofNat
    {n : Nat}
    (h : n < 0xD800 ∨ (0xDFFF < n ∧ n < 0x110000)) :
    charBytes (Char.ofNat n) = (encodeCode n).map UInt8.ofNat := by
  rw [charBytes, toNat_ofNat h]

theorem ofNat_eq
    {n : Nat}
    {b : UInt8}
    (h : n = b.toNat) :
    UInt8.ofNat n = b := by
  rw [h, UInt8.ofNat_toNat]

/-- A character at the front of a byte string stands there with its own bytes. -/
theorem charBytes_of_step
    {b : UInt8}
    {rest : Bytes}
    {c : Char}
    {w : Nat}
    (hstep : step b rest = ⟨some c, w⟩) :
    b :: rest = charBytes c ++ rest.drop (w - 1) := by
  rw [step] at hstep
  split at hstep
  · next hascii =>
      cases hstep
      rw [charBytes_ofNat (by omega), encodeCode, if_pos hascii, List.map_cons, List.map_nil,
        UInt8.ofNat_toNat]
      rfl
  · split at hstep
    · cases hstep
    · next need bits lo hi hlead =>
        have hb := b.toNat_lt
        -- The three lengths of a character, each with what its first byte says about the second.
        obtain ⟨hlo, hhi, ⟨rfl, hbits⟩ | ⟨rfl, hbits⟩ | ⟨rfl, hbits⟩⟩ := lead?_eq_some hlead
        · obtain ⟨b₁, rest, rfl, h₁, h₁', hfront⟩ := continueFront_succ hstep
          obtain ⟨rfl, rfl⟩ := front_eq hfront
          rw [charBytes_ofNat (by omega), encodeCode, if_neg (by omega), if_pos (by omega),
            List.map_cons, List.map_cons, List.map_nil,
            ofNat_eq (b := b) (by omega), ofNat_eq (b := b₁) (by omega)]
          rfl
        · obtain ⟨b₁, rest, rfl, h₁, h₁', hfront⟩ := continueFront_succ hstep
          obtain ⟨b₂, rest, rfl, h₂, h₂', hfront⟩ := continueFront_succ hfront
          obtain ⟨rfl, rfl⟩ := front_eq hfront
          rw [charBytes_ofNat (by omega), encodeCode, if_neg (by omega), if_neg (by omega),
            if_pos (by omega), List.map_cons, List.map_cons, List.map_cons, List.map_nil,
            ofNat_eq (b := b) (by omega), ofNat_eq (b := b₁) (by omega),
            ofNat_eq (b := b₂) (by omega)]
          rfl
        · obtain ⟨b₁, rest, rfl, h₁, h₁', hfront⟩ := continueFront_succ hstep
          obtain ⟨b₂, rest, rfl, h₂, h₂', hfront⟩ := continueFront_succ hfront
          obtain ⟨b₃, rest, rfl, h₃, h₃', hfront⟩ := continueFront_succ hfront
          obtain ⟨rfl, rfl⟩ := front_eq hfront
          rw [charBytes_ofNat (by omega), encodeCode, if_neg (by omega), if_neg (by omega),
            if_neg (by omega), List.map_cons, List.map_cons, List.map_cons, List.map_cons,
            List.map_nil, ofNat_eq (b := b) (by omega), ofNat_eq (b := b₁) (by omega),
            ofNat_eq (b := b₂) (by omega), ofNat_eq (b := b₃) (by omega)]
          rfl

end Fronts

section RoundTrip

/-- What is decoded strictly is what was encoded. -/
theorem decodeChars?_eq_some_iff
    {bs : Bytes}
    {cs : List Char} :
    decodeChars? bs = some cs ↔ encodeChars cs = bs := by
  constructor
  · intro hdecode
    fun_induction decodeChars? bs generalizing cs with
    | case1 =>
        cases hdecode
        rfl
    | case2 b rest front =>
        exact nomatch hdecode
    | case3 b rest front c hsome =>
        rename_i ih
        obtain ⟨cs, hcs, rfl⟩ := Option.map_eq_some_iff.mp hdecode
        have hstep : step b rest = ⟨some c, front.width⟩ := by
          rw [← hsome]
        rw [encodeChars_cons, ih hcs, ← charBytes_of_step hstep]
  · rintro rfl
    induction cs with
    | nil =>
        rw [encodeChars_nil, decodeChars?]
    | cons c cs ih =>
        obtain ⟨b, bs, hbytes, hstep⟩ := step_charBytes c (encodeChars cs)
        rw [encodeChars_cons, hbytes, List.cons_append, decodeChars?, hstep]
        simp [ih]

/-- A byte string is decoded strictly exactly if it is the encoding of a text. -/
theorem decode?_eq_some_iff
    {bs : Bytes}
    {s : String} :
    decode? bs = some s ↔ encode s = bs := by
  rw [decode?, encode, Option.map_eq_some_iff, ← decodeChars?_eq_some_iff]
  constructor
  · rintro ⟨cs, hcs, rfl⟩
    rwa [String.toList_ofList]
  · intro hs
    exact ⟨s.toList, hs, String.ofList_toList⟩

/-- Decoding strictly undoes encoding. -/
theorem decode?_encode
    (s : String) :
    decode? (encode s) = some s :=
  decode?_eq_some_iff.mpr rfl

end RoundTrip

end Utf8
end Text
end ManagedSwitch
