import ManagedSwitch.Proofs.Number.Decimal
import ManagedSwitch.Proofs.Text.Split

/-!
# Decimal texts of any script

A text of decimal digits, in whatever scripts they are, is read as a number if it keeps to the limit
of digits: nothing in it is taken for white space around the number, for a sign or for an
underscore.
-/

namespace ManagedSwitch

namespace Text

section Digits

/-- A digit is one of ASCII or stands at most nine places behind a zero of its script. -/
theorem digitValue_eq_some
    {c : Char}
    {v : Nat}
    (hv : digitValue c = some v) :
    (c.isDigit ∧ v = c.toNat - 48) ∨
      ∃ z ∈ zeros.toList, 128 ≤ c.toNat ∧ c.toNat = z + v ∧ v < 10 := by
  rw [digitValue] at hv
  split at hv
  · next hdigit =>
      cases hv
      exact Or.inl ⟨hdigit, rfl⟩
  · split at hv
    · exact nomatch hv
    · next hascii =>
        obtain ⟨z, hz, rfl⟩ := Option.map_eq_some_iff.mp hv
        have hmem := Array.mem_of_find?_eq_some hz
        have hrange := Array.find?_some hz
        simp only [Bool.and_eq_true, decide_eq_true_eq] at hrange
        exact Or.inr ⟨z, Array.mem_toList_iff.mpr hmem, by omega, by omega, by omega⟩

theorem toNat_of_isDigit
    {c : Char}
    (hc : c.isDigit) :
    48 ≤ c.toNat ∧ c.toNat ≤ 57 := by
  simp only [Char.isDigit, Bool.and_eq_true, decide_eq_true_eq] at hc
  exact ⟨hc.1, hc.2⟩

/-- The value of a digit is below ten. -/
theorem digitValue_lt
    {c : Char}
    {v : Nat}
    (hv : digitValue c = some v) :
    v < 10 := by
  rcases digitValue_eq_some hv with ⟨hdigit, rfl⟩ | ⟨z, -, -, -, hlt⟩
  · have := toNat_of_isDigit hdigit
    omega
  · exact hlt

/-- A digit has its place among the digits of ASCII or behind ASCII. -/
theorem toNat_of_isDecimalDigit
    {c : Char}
    (hc : isDecimalDigit c) :
    (48 ≤ c.toNat ∧ c.toNat ≤ 57) ∨ 128 ≤ c.toNat := by
  obtain ⟨v, hv⟩ := Option.isSome_iff_exists.mp hc
  rcases digitValue_eq_some hv with ⟨hdigit, -⟩ | ⟨z, -, hlow, -⟩
  · exact Or.inl (toNat_of_isDigit hdigit)
  · exact Or.inr hlow

/-- No script has its digits among white space. -/
theorem not_isBlank_of_isDecimalDigit
    {c : Char}
    (hc : isDecimalDigit c) :
    isBlank c = false := by
  have hscripts :
      ∀ z ∈ zeros.toList,
        z = 48 ∨ (0xA0 < z ∧ z + 10 ≤ 0x1680) ∨ (0x1680 < z ∧ z + 10 ≤ 0x2000) ∨ 0x3000 < z := by
    decide
  obtain ⟨v, hv⟩ := Option.isSome_iff_exists.mp hc
  simp only [isBlank, Bool.or_eq_false_iff, Bool.and_eq_false_iff, decide_eq_false_iff_not,
    beq_eq_false_iff_ne]
  rcases digitValue_eq_some hv with ⟨hdigit, -⟩ | ⟨z, hz, hlow, heq, hlt⟩
  · have := toNat_of_isDigit hdigit
    omega
  · have := hscripts z hz
    omega

end Digits

section Trimming

/-- Nothing is trimmed off a text without characters of the class. -/
theorem trimBy_eq_self
    {p : Char → Bool}
    {cs : List Char}
    (h : ∀ c ∈ cs, p c = false) :
    trimBy p cs = cs := by
  have hdrop :
      ∀ ds : List Char, (∀ d ∈ ds, p d = false) → ds.dropWhile p = ds := by
    intro ds hds
    cases ds with
    | nil =>
        rfl
    | cons d ds =>
        rw [List.dropWhile_cons_of_neg]
        simp [hds d List.mem_cons_self]
  rw [trimBy, hdrop cs h, hdrop, List.reverse_reverse]
  intro d hd
  exact h d (List.mem_reverse.mp hd)

end Trimming

end Text

namespace Number

section Reading

variable {cs : List Char}

/-- A text of digits has no groups. -/
theorem ungroup_of_isDecimalDigit
    (hne : cs ≠ [])
    (hcs : ∀ c ∈ cs, Text.isDecimalDigit c) :
    ungroup cs = some cs := by
  have hmem : '_' ∉ cs := by
    intro hmem
    exact absurd (hcs _ hmem) (by decide)
  have hpieces : ∀ p ∈ [cs], '_' ∉ p := by
    simpa using hmem
  have hsplit : Text.splitOn '_' cs = [cs] := by
    have h := Text.splitOn_intercalate hpieces (by simp)
    rwa [List.intercalate_singleton] at h
  rw [ungroup, hsplit]
  simp [hne]

/-- Digits of any script are read in base ten. -/
theorem ofDigits?_isSome
    (hcs : ∀ c ∈ cs, Text.isDecimalDigit c)
    (acc : Nat) :
    (ofDigits? 10 acc cs).isSome := by
  induction cs generalizing acc with
  | nil =>
      rfl
  | cons c cs ih =>
      rw [List.forall_mem_cons] at hcs
      obtain ⟨v, hv⟩ := Option.isSome_iff_exists.mp hcs.1
      have hdigit : digitIn? 10 c = some v := by
        have hplace := Text.toNat_of_isDecimalDigit hcs.1
        have hlower : ¬ ('a' ≤ c ∧ c ≤ 'f') := by
          rintro ⟨hge, hle⟩
          have hge : 97 ≤ c.toNat := hge
          have hle : c.toNat ≤ 102 := hle
          omega
        have hupper : ¬ ('A' ≤ c ∧ c ≤ 'F') := by
          rintro ⟨hge, hle⟩
          have hge : 65 ≤ c.toNat := hge
          have hle : c.toNat ≤ 70 := hle
          omega
        simp [digitIn?, hlower, hupper, hv, Text.digitValue_lt hv]
      rw [ofDigits?, hdigit]
      exact ih hcs.2 _

/-- A decimal text is read digit by digit, if it keeps to the limit of digits. -/
theorem read?_of_isDecimal
    {s : String}
    (hdecimal : Text.isDecimal s) :
    read? s =
      if s.length ≤ digitLimit then (ofDigits? 10 0 s.toList).map (signed false) else none := by
  simp only [Text.isDecimal, Bool.and_eq_true, List.all_eq_true] at hdecimal
  obtain ⟨hne, hdigits⟩ := hdecimal
  have htrim : Text.trimBy Text.isNumberBlank s.toList = s.toList := by
    refine Text.trimBy_eq_self fun c hc => ?_
    rw [Text.isNumberBlank, Text.not_isBlank_of_isDecimalDigit (hdigits c hc), Bool.false_and]
  have hsign : takeSign s.toList = (false, s.toList) := by
    refine takeSign_eq_self ?_ ?_
    · exact fun hmem => absurd (hdigits _ hmem) (by decide)
    · exact fun hmem => absurd (hdigits _ hmem) (by decide)
  have hgroups : ungroup s.toList = some s.toList := by
    refine ungroup_of_isDecimalDigit ?_ hdigits
    simpa using hne
  rw [read?, htrim, hsign]
  simp only [hgroups, Option.bind_some]
  rfl

/-- A decimal text that keeps to the limit of digits is a number. -/
theorem read?_isSome
    {s : String}
    (hdecimal : Text.isDecimal s)
    (hlength : s.length ≤ digitLimit) :
    (read? s).isSome := by
  rw [read?_of_isDecimal hdecimal, if_pos hlength, Option.isSome_map]
  simp only [Text.isDecimal, Bool.and_eq_true, List.all_eq_true] at hdecimal
  exact ofDigits?_isSome hdecimal.2 0

/-- A decimal text with more digits is no number. -/
theorem read?_eq_none
    {s : String}
    (hdecimal : Text.isDecimal s)
    (hlength : digitLimit < s.length) :
    read? s = none := by
  rw [read?_of_isDecimal hdecimal, if_neg (Nat.not_le_of_gt hlength)]

end Reading

end Number
end ManagedSwitch
