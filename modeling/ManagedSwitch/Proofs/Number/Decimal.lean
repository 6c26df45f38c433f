import ManagedSwitch.Number.Integer

/-!
# Reading back decimal numbers

`natural?` and `integer?` read plain decimal numbers of any length.  They read every number from
the characters that are written for it, and these characters are digits with at most one sign in
front.  They are the characters that the library writes (`natText_eq_repr`, `text_eq_repr`).
-/

namespace ManagedSwitch
namespace Number

section Readers

/-- The natural number that decimal digits write. -/
def natural? (cs : List Char) : Option Nat :=
  if cs.isEmpty then none else ofDigits? 10 0 cs

/-- The integer that decimal digits with an optional sign write. -/
def integer? (cs : List Char) : Option Int :=
  (natural? (takeSign cs).2).map (signed (takeSign cs).1)

end Readers

section Digits

/-- A digit is read as the number it was written for. -/
theorem digitIn?_digitChar :
    ∀ d, d < 10 → digitIn? 10 (digitChar d) = some d := by
  decide

/-- A number below ten is one digit. -/
theorem natText_of_lt
    {n : Nat}
    (h : n < 10) :
    natText n = String.ofList [digitChar n] := by
  rw [natText, digits, digitsOnto, if_pos h]

/-- The digits in front of a text are read first. -/
theorem ofDigits?_digitsOnto
    (n : Nat)
    (tail : List Char) :
    ofDigits? 10 0 (digitsOnto n tail) = ofDigits? 10 n tail := by
  induction n, tail using digitsOnto.induct with
  | case1 n tail hn =>
      rw [digitsOnto, if_pos hn, ofDigits?, digitIn?_digitChar n hn]
      simp
  | case2 n tail hn ih =>
      have hsum : n / 10 * 10 + n % 10 = n := by omega
      rw [digitsOnto, if_neg hn, ih, ofDigits?, digitIn?_digitChar _ (by omega)]
      simp [hsum]

/-- The characters of a number are digits. -/
theorem mem_digitsOnto
    {n : Nat}
    {tail : List Char}
    {c : Char}
    (hc : c ∈ digitsOnto n tail) :
    c ∈ tail ∨ ∃ d, d < 10 ∧ c = digitChar d := by
  induction n, tail using digitsOnto.induct with
  | case1 n tail hn =>
      rw [digitsOnto, if_pos hn] at hc
      rcases List.mem_cons.mp hc with rfl | hc
      · exact Or.inr ⟨n, hn, rfl⟩
      · exact Or.inl hc
  | case2 n tail hn ih =>
      rw [digitsOnto, if_neg hn] at hc
      rcases ih hc with hc | hc
      · rcases List.mem_cons.mp hc with rfl | hc
        · exact Or.inr ⟨n % 10, by omega, rfl⟩
        · exact Or.inl hc
      · exact Or.inr hc

/-- A number has at least one digit. -/
theorem digitsOnto_ne_nil
    (n : Nat)
    (tail : List Char) :
    digitsOnto n tail ≠ [] := by
  induction n, tail using digitsOnto.induct with
  | case1 n tail hn =>
      rw [digitsOnto, if_pos hn]
      exact List.cons_ne_nil _ _
  | case2 n tail hn ih =>
      rw [digitsOnto, if_neg hn]
      exact ih

/-- A number has no zero in front of other digits. -/
theorem head?_digitsOnto
    {n : Nat}
    (hn : 0 < n)
    (tail : List Char) :
    (digitsOnto n tail).head? ≠ some '0' := by
  have hdigit : ∀ d, d < 10 → 0 < d → digitChar d ≠ '0' := by decide
  induction n, tail using digitsOnto.induct with
  | case1 n tail hlt =>
      rw [digitsOnto, if_pos hlt, List.head?_cons]
      exact fun heq => hdigit n hlt hn (Option.some.inj heq)
  | case2 n tail hlt ih =>
      rw [digitsOnto, if_neg hlt]
      exact ih (by omega)

/-- The characters of a number are digits of ASCII. -/
theorem isDigit_of_mem_digits
    {n : Nat}
    {c : Char}
    (hc : c ∈ digits n) :
    c.isDigit = true := by
  have hdigit : ∀ d, d < 10 → (digitChar d).isDigit = true := by decide
  rcases mem_digitsOnto hc with hc | ⟨d, hd, rfl⟩
  · exact absurd hc List.not_mem_nil
  · exact hdigit d hd

end Digits

section RoundTrip

/-- A natural number is read from its digits. -/
@[simp] theorem natural?_digits
    (n : Nat) :
    natural? (digits n) = some n := by
  have hne : (digits n).isEmpty = false := by
    rw [digits, List.isEmpty_eq_false_iff]
    exact digitsOnto_ne_nil n []
  rw [natural?, hne, if_neg Bool.false_ne_true, digits, ofDigits?_digitsOnto]
  rfl

/-- Different numbers have different texts. -/
theorem natText_injective :
    Function.Injective natText := by
  intro m n heq
  have hdigits : digits m = digits n := String.ofList_injective heq
  have hread := natural?_digits m
  rw [hdigits, natural?_digits n] at hread
  exact (Option.some.inj hread).symm

/-- A text without a sign is taken as it is. -/
theorem takeSign_eq_self
    {cs : List Char}
    (hminus : '-' ∉ cs)
    (hplus : '+' ∉ cs) :
    takeSign cs = (false, cs) := by
  rw [takeSign.eq_def]
  split
  · exact absurd List.mem_cons_self hminus
  · exact absurd List.mem_cons_self hplus
  · rfl

/-- Digits have no sign in front. -/
theorem takeSign_digits
    (n : Nat) :
    takeSign (digits n) = (false, digits n) := by
  refine takeSign_eq_self ?_ ?_
  · exact fun hmem => absurd (isDigit_of_mem_digits hmem) (by decide)
  · exact fun hmem => absurd (isDigit_of_mem_digits hmem) (by decide)

/-- An integer is read from its characters. -/
@[simp] theorem integer?_chars
    (i : Int) :
    integer? (chars i) = some i := by
  cases i with
  | ofNat n =>
      simp [integer?, chars, takeSign_digits, signed]
  | negSucc n =>
      simp [integer?, chars, takeSign, signed, Int.negSucc_eq]

/-- The characters of an integer are digits and a sign. -/
theorem mem_chars
    {i : Int}
    {c : Char}
    (hc : c ∈ chars i) :
    c = '-' ∨ c.isDigit = true := by
  cases i with
  | ofNat n =>
      exact Or.inr (isDigit_of_mem_digits hc)
  | negSucc n =>
      rcases List.mem_cons.mp hc with rfl | hc
      · exact Or.inl rfl
      · exact Or.inr (isDigit_of_mem_digits hc)

end RoundTrip

section Library

theorem digitChar_eq :
    ∀ d, d < 10 → digitChar d = d.digitChar := by
  decide

/-- The digits of a number are those of the library. -/
theorem digitsOnto_eq
    (n : Nat)
    (tail : List Char) :
    digitsOnto n tail = Nat.toDigits 10 n ++ tail := by
  induction n, tail using digitsOnto.induct with
  | case1 n tail hn =>
      rw [digitsOnto, if_pos hn, Nat.toDigits_of_lt_base hn, digitChar_eq n hn]
      rfl
  | case2 n tail hn ih =>
      have hdigits : Nat.toDigits 10 n = Nat.toDigits 10 (n / 10) ++ [(n % 10).digitChar] :=
        Nat.toDigits_of_base_le (by decide) (Nat.not_lt.mp hn)
      rw [digitsOnto, if_neg hn, ih, hdigits, digitChar_eq _ (Nat.mod_lt n (by decide)),
        List.append_assoc]
      rfl

theorem natText_eq_repr
    (n : Nat) :
    natText n = n.repr := by
  rw [natText, digits, digitsOnto_eq, List.append_nil]
  rfl

theorem text_eq_repr
    (i : Int) :
    text i = i.repr := by
  cases i with
  | ofNat n =>
      exact natText_eq_repr n
  | negSucc n =>
      rw [Int.repr, ← natText_eq_repr]
      rw [text, chars, natText, ← String.toList_inj]
      simp

end Library

end Number
end ManagedSwitch
