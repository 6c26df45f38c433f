import ManagedSwitch.Proofs.Number.Scripts

/-!
# Numbers within the limit of digits

The numbers that are read are those that can be written: a number that was read keeps to the limit
(`natAbs_lt_of_read?`), and a number that keeps to it is read again from its text, which is decimal
if the number is not negative (`read?_natText`).
-/

namespace ManagedSwitch
namespace Number

section Bounds

/-- What has no more digits than the limit keeps to it. -/
theorem pow_le_tooLong
    {k : Nat}
    (hk : k ≤ digitLimit) :
    Nat.pow 10 k ≤ tooLong := by
  unfold tooLong
  generalize digitLimit = limit at hk
  exact Nat.pow_le_pow_right (by decide) hk

/-- Digits are below their base. -/
theorem lt_of_digitIn?
    {base d : Nat}
    {c : Char}
    (hd : digitIn? base c = some d) :
    d < base := by
  obtain ⟨v, -, hv⟩ := Option.bind_eq_some_iff.mp hd
  split at hv
  · next hlt =>
      cases hv
      exact hlt
  · exact nomatch hv

/-- The number that some digits write has no more digits than these. -/
theorem lt_of_ofDigits?
    {acc n : Nat}
    {cs : List Char}
    (hn : ofDigits? 10 acc cs = some n) :
    n < (acc + 1) * Nat.pow 10 cs.length := by
  induction cs generalizing acc with
  | nil =>
      cases hn
      rw [List.length_nil, show Nat.pow 10 0 = 1 from rfl]
      omega
  | cons c cs ih =>
      obtain ⟨d, hd, hrest⟩ := Option.bind_eq_some_iff.mp hn
      have hdigit : acc * 10 + d + 1 ≤ (acc + 1) * 10 := by
        have := lt_of_digitIn? hd
        omega
      calc n < (acc * 10 + d + 1) * Nat.pow 10 cs.length := ih hrest
        _ ≤ (acc + 1) * 10 * Nat.pow 10 cs.length := Nat.mul_le_mul_right _ hdigit
        _ = (acc + 1) * Nat.pow 10 (c :: cs).length := by
            rw [List.length_cons, Nat.mul_assoc, show Nat.pow 10 (cs.length + 1) =
              Nat.pow 10 cs.length * 10 from rfl, Nat.mul_comm 10]

theorem natAbs_signed
    (negative : Bool)
    (n : Nat) :
    (signed negative n).natAbs = n := by
  cases negative with
  | true =>
      exact (Int.natAbs_neg n).trans (Int.natAbs_natCast n)
  | false =>
      exact Int.natAbs_natCast n

/-- A number that is read can be written. -/
theorem natAbs_lt_of_read?
    {s : String}
    {i : Int}
    (hi : read? s = some i) :
    i.natAbs < tooLong := by
  obtain ⟨ds, -, hds⟩ := Option.bind_eq_some_iff.mp hi
  split at hds
  · next hlength =>
      obtain ⟨n, hn, rfl⟩ := Option.map_eq_some_iff.mp hds
      have hlt := lt_of_ofDigits? hn
      rw [Nat.zero_add, Nat.one_mul] at hlt
      rw [natAbs_signed]
      exact Nat.lt_of_lt_of_le hlt (pow_le_tooLong hlength)
  · exact nomatch hds

end Bounds

section Texts

/-- The text of a natural number has as many characters as the number has digits. -/
theorem length_natText_le_iff
    {n k : Nat}
    (hk : 0 < k) :
    (natText n).length ≤ k ↔ n < Nat.pow 10 k := by
  have hdigits : digits n = Nat.toDigits 10 n := by
    rw [digits, digitsOnto_eq, List.append_nil]
  rw [natText, String.length_ofList, hdigits]
  exact Nat.length_toDigits_le_iff (by decide) hk

/-- The text of a natural number is decimal. -/
theorem isDecimal_natText
    (n : Nat) :
    Text.isDecimal (natText n) := by
  have hne : digits n ≠ [] := digitsOnto_ne_nil n []
  have hdigits : ∀ c ∈ digits n, Text.isDecimalDigit c := by
    intro c hc
    rw [Text.isDecimalDigit, Text.digitValue, if_pos (isDigit_of_mem_digits hc)]
    rfl
  rw [Text.isDecimal, natText, String.toList_ofList, Bool.and_eq_true, List.all_eq_true]
  exact ⟨by simpa using hne, hdigits⟩

/-- A number within the limit has a text within the limit. -/
theorem length_natText_le
    {n : Nat}
    (hn : n < tooLong) :
    (natText n).length ≤ digitLimit := by
  unfold tooLong at hn
  exact (length_natText_le_iff (by decide)).mpr hn

/-- A number within the limit is read from its text. -/
theorem read?_natText
    {n : Nat}
    (hn : n < tooLong) :
    read? (natText n) = some (n : Int) := by
  rw [read?_of_isDecimal (isDecimal_natText n), if_pos (length_natText_le hn), natText,
    String.toList_ofList, digits, ofDigits?_digitsOnto]
  rfl

end Texts

end Number
end ManagedSwitch
