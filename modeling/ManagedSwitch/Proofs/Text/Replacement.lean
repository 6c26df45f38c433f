import ManagedSwitch.Proofs.Text.StrictUtf8

/-!
# Replacing what is no UTF-8

`decode` reads any byte string.  Where the bytes of a character stand, it reads the character; where
none stand, it puts the replacement character for the longest part with which a character could have
begun, or for one byte if no character begins with it.  `Replaces` says this without a reader, in
terms of the bytes of characters only, and `replaces_iff` says that the reader gives just that text.
-/

namespace ManagedSwitch
namespace Text
namespace Utf8

section Definitions

/-- At the front of `part ++ rest` stands no character; `part` is the longest part there with which
a character begins, or one byte. -/
structure Faulty (part rest : Bytes) : Prop where
  ne_nil : part ≠ []
  no_char : ∀ c, ¬ charBytes c <+: part ++ rest
  begins : part.length = 1 ∨ ∃ c, part <+: charBytes c
  longest : ∀ more c, more <+: part ++ rest → more <+: charBytes c → more.length ≤ part.length

/-- The characters of a byte string in which faulty parts are replaced. -/
inductive Replaces : Bytes → List Char → Prop
  | nil : Replaces [] []
  | char
      {bs : Bytes}
      {cs : List Char}
      (c : Char)
      (h : Replaces bs cs) :
      Replaces (charBytes c ++ bs) (c :: cs)
  | fault
      {part bs : Bytes}
      {cs : List Char}
      (hpart : Faulty part bs)
      (h : Replaces bs cs) :
      Replaces (part ++ bs) ('\uFFFD' :: cs)

end Definitions

section Fronts

/-- A first byte of several allows some byte behind it. -/
theorem lead?_range
    {b need bits lo hi : Nat}
    (hlead : lead? b = some (need, bits, lo, hi)) :
    lo ≤ hi ∧ hi < 256 := by
  simp only [lead?, Bool.and_eq_true, decide_eq_true_eq, beq_iff_eq] at hlead
  repeat' split at hlead
  all_goals simp only [Option.some.injEq, Prod.mk.injEq, reduceCtorEq] at hlead
  all_goals omega

/-- As many continuation bytes as are needed finish a character. -/
theorem exists_continueFront_replicate
    (need taken acc : Nat) :
    ∃ c, continueFront need taken acc 0x80 0xBF (List.replicate need 0x80) =
      ⟨some c, taken + need⟩ := by
  induction need generalizing taken acc with
  | zero =>
      exact ⟨Char.ofNat acc, rfl⟩
  | succ need ih =>
      obtain ⟨c, hc⟩ := ih (taken + 1) (acc * 64 + ((0x80 : UInt8).toNat - 0x80))
      refine ⟨c, ?_⟩
      rw [List.replicate_succ, continueFront, if_pos (by decide), hc, Nat.add_right_comm]
      rfl

/-- Where a character is broken off, the bytes that were read could have gone on to one, and no
character goes on with the byte behind them. -/
theorem continueFront_eq_none
    {need taken acc lo hi w : Nat}
    {bs : Bytes}
    (hrange : lo ≤ hi ∧ hi < 256)
    (hfront : continueFront need taken acc lo hi bs = ⟨none, w⟩) :
    ∃ read rest, bs = read ++ rest ∧ w = taken + read.length ∧
      (∃ more c, continueFront need taken acc lo hi (read ++ more) =
        ⟨some c, taken + (read ++ more).length⟩) ∧
      ∀ b ∈ rest.head?, ∀ tail,
        continueFront need taken acc lo hi (read ++ b :: tail) = ⟨none, w⟩ := by
  induction need generalizing taken acc lo hi bs with
  | zero =>
      exact nomatch hfront
  | succ need ih =>
      -- The least byte that is allowed next, and further ones, finish a character.
      have hmore :
          ∃ more c, continueFront (need + 1) taken acc lo hi ([] ++ more) =
            ⟨some c, taken + ([] ++ more).length⟩ := by
        obtain ⟨c, hc⟩ := exists_continueFront_replicate need (taken + 1) (acc * 64 + (lo - 0x80))
        refine ⟨UInt8.ofNat lo :: List.replicate need 0x80, c, ?_⟩
        rw [List.nil_append, continueFront_cons (Nat.le_refl lo) hrange.1 (by omega), hc,
          List.length_cons, List.length_replicate, Nat.add_assoc, Nat.add_comm 1]
      cases bs with
      | nil =>
          cases hfront
          exact ⟨[], [], rfl, rfl, hmore, nofun⟩
      | cons b bs =>
          rw [continueFront] at hfront
          split at hfront
          · next hb =>
              obtain ⟨read, rest, rfl, hw, ⟨more, c, hc⟩, hstop⟩ := ih (by decide) hfront
              refine ⟨b :: read, rest, rfl, ?_, ⟨more, c, ?_⟩, fun d hd tail => ?_⟩
              · rw [hw, List.length_cons, Nat.add_assoc, Nat.add_comm 1]
              · rw [List.cons_append, continueFront, if_pos hb, hc, List.length_cons,
                  Nat.add_assoc, Nat.add_comm 1]
              · rw [List.cons_append, continueFront, if_pos hb, hstop d hd tail]
          · next hb =>
              cases hfront
              refine ⟨[], b :: bs, rfl, rfl, hmore, fun d hd tail => ?_⟩
              cases hd
              rw [List.nil_append, continueFront, if_neg hb]

/-- Where no character stands, the part that is left out could have gone on to one unless it is one
byte, and no character goes on with the byte behind it. -/
theorem step_eq_none
    {b : UInt8}
    {bs : Bytes}
    {w : Nat}
    (hstep : step b bs = ⟨none, w⟩) :
    ∃ read rest, bs = read ++ rest ∧ w = read.length + 1 ∧
      (read = [] ∨ ∃ more c, step b (read ++ more) = ⟨some c, (read ++ more).length + 1⟩) ∧
      ∀ d ∈ rest.head?, ∀ tail, step b (read ++ d :: tail) = ⟨none, w⟩ := by
  rw [step] at hstep
  split at hstep
  · cases hstep
  · next hmulti =>
      split at hstep
      · next hlead =>
          cases hstep
          refine ⟨[], bs, rfl, rfl, Or.inl rfl, fun d _ tail => ?_⟩
          rw [step, if_neg hmulti, hlead]
      · next need bits lo hi hlead =>
          obtain ⟨read, rest, rfl, hw, ⟨more, c, hc⟩, hstop⟩ :=
            continueFront_eq_none (lead?_range hlead) hstep
          refine ⟨read, rest, rfl, by rw [hw, Nat.add_comm], Or.inr ⟨more, c, ?_⟩,
            fun d hd tail => ?_⟩
          · rw [step, if_neg hmulti, hlead, Nat.add_comm]
            exact hc
          · rw [step, if_neg hmulti, hlead]
            exact hstop d hd tail

end Fronts

section Parts

/-- Where the bytes of a character stand, the character is read. -/
theorem step_of_prefix
    {c : Char}
    {b : UInt8}
    {bs : Bytes}
    (h : charBytes c <+: b :: bs) :
    ∃ w, step b bs = ⟨some c, w⟩ := by
  obtain ⟨tail, htail⟩ := h
  obtain ⟨d, ds, hbytes, hstep⟩ := step_charBytes c tail
  rw [hbytes, List.cons_append, List.cons.injEq] at htail
  obtain ⟨rfl, rfl⟩ := htail
  exact ⟨_, hstep⟩

/-- The part that is left out where no character stands is the faulty one. -/
theorem faulty_of_step
    {b : UInt8}
    {bs : Bytes}
    {w : Nat}
    (hstep : step b bs = ⟨none, w⟩) :
    ∃ read rest, bs = read ++ rest ∧ w = read.length + 1 ∧ Faulty (b :: read) rest := by
  obtain ⟨read, rest, rfl, hw, hbegins, hstop⟩ := step_eq_none hstep
  refine ⟨read, rest, rfl, hw, List.cons_ne_nil b read, fun c hc => ?_, ?_, ?_⟩
  · rw [List.cons_append] at hc
    obtain ⟨v, hv⟩ := step_of_prefix hc
    rw [hstep] at hv
    exact nomatch hv
  · rcases hbegins with rfl | ⟨more, c, hc⟩
    · exact Or.inl rfl
    · have hbytes := charBytes_of_step hc
      rw [Nat.add_sub_cancel, List.drop_length, List.append_nil] at hbytes
      exact Or.inr ⟨c, more, hbytes⟩
  · intro more c hfront hchar
    refine Nat.le_of_not_lt fun hlong => ?_
    cases rest with
    | nil =>
        rw [List.append_nil] at hfront
        exact Nat.not_le.mpr hlong hfront.length_le
    | cons d rest =>
        -- A longer beginning of a character has the byte behind the part, which rules it out.
        have hshort : b :: read ++ [d] <+: b :: read ++ d :: rest := ⟨rest, by simp⟩
        have hmore : b :: read ++ [d] <+: more :=
          List.prefix_of_prefix_length_le hshort hfront (by rwa [List.length_append])
        obtain ⟨tail, htail⟩ := hmore.trans hchar
        have hbytes : charBytes c <+: b :: (read ++ d :: tail) := by
          rw [← htail]
          simp
        obtain ⟨v, hv⟩ := step_of_prefix hbytes
        rw [hstop d rfl tail] at hv
        exact nomatch hv

/-- No faulty part is longer than another one at the same place. -/
theorem Faulty.length_le
    {part rest part' rest' : Bytes}
    (h : Faulty part rest)
    (h' : Faulty part' rest')
    (heq : part ++ rest = part' ++ rest') :
    part'.length ≤ part.length := by
  rcases h'.begins with hone | ⟨c, hc⟩
  · rw [hone]
    exact List.length_pos_iff.mpr h.ne_nil
  · exact h.longest part' c ⟨rest', heq.symm⟩ hc

theorem Faulty.unique
    {part rest part' rest' : Bytes}
    (h : Faulty part rest)
    (h' : Faulty part' rest')
    (heq : part ++ rest = part' ++ rest') :
    part = part' ∧ rest = rest' :=
  List.append_inj heq (Nat.le_antisymm (h'.length_le h heq.symm) (h.length_le h' heq))

end Parts

section Reading

/-- Decoding replaces the faulty parts. -/
theorem replaces_decodeChars
    (bs : Bytes) :
    Replaces bs (decodeChars bs) := by
  fun_induction decodeChars bs with
  | case1 =>
      exact .nil
  | case2 b rest front ih =>
      cases hchar : front.char? with
      | some c =>
          have hstep : step b rest = ⟨some c, front.width⟩ := by
            rw [← hchar]
          rw [charBytes_of_step hstep]
          exact .char c ih
      | none =>
          have hstep : step b rest = ⟨none, front.width⟩ := by
            rw [← hchar]
          obtain ⟨read, more, rfl, hw, hfaulty⟩ := faulty_of_step hstep
          rw [hw, Nat.add_sub_cancel, List.drop_left] at ih ⊢
          exact .fault hfaulty ih

/-- The text in which the faulty parts of a byte string are replaced is what is decoded. -/
theorem replaces_iff
    {bs : Bytes}
    {cs : List Char} :
    Replaces bs cs ↔ decodeChars bs = cs := by
  refine ⟨fun h => ?_, fun h => h ▸ replaces_decodeChars bs⟩
  induction h with
  | nil =>
      rw [decodeChars]
  | @char bs cs c _ ih =>
      have hread := decodeChars_encodeChars_append [c] bs
      rw [encodeChars_cons, encodeChars_nil, List.append_nil, ih] at hread
      exact hread
  | @fault part bs cs hpart _ ih =>
      obtain ⟨b, more, rfl⟩ := List.exists_cons_of_ne_nil hpart.ne_nil
      rw [List.cons_append, decodeChars]
      cases hstep : step b (more ++ bs) with
      | mk char? w =>
          cases char? with
          | some c =>
              refine absurd ?_ (hpart.no_char c)
              exact ⟨_, (charBytes_of_step hstep).symm⟩
          | none =>
              obtain ⟨read, rest, heq, hw, hfaulty⟩ := faulty_of_step hstep
              obtain ⟨hread, rfl⟩ := hpart.unique hfaulty (congrArg (b :: ·) heq)
              obtain ⟨-, rfl⟩ := List.cons.inj hread
              rw [hw, Nat.add_sub_cancel, List.drop_left, ih]
              rfl

end Reading

end Utf8
end Text
end ManagedSwitch
