import Mathlib
import ManagedSwitch.Proofs.Number.Scripts
import ManagedSwitch.Proofs.Text.Trim
import ManagedSwitch.Text.Case

/-!
# The case of the letters of ASCII

Two texts that differ in the case of letters of ASCII at most are `SameLetters`.  They have the same
lower case, also where the form of a sigma depends on the letters around it, and they stay alike
when they are trimmed.  No digit has a case, so that such texts are equal if one of them is decimal.

Lower case adds characters and takes none away (`length_lowerAfter`).  So trimming changes the lower
case of every text that it changes (`lower_eq_lower_strip_iff`).
-/

namespace ManagedSwitch
namespace Text

section Definition

/-- Two texts are the same but for the case of letters of ASCII. -/
def SameLetters (s t : String) : Prop :=
  s.toList.map Char.toLower = t.toList.map Char.toLower

instance SameLetters.instDecidable
    (s t : String) :
    Decidable (SameLetters s t) :=
  inferInstanceAs (Decidable (s.toList.map Char.toLower = t.toList.map Char.toLower))

end Definition

section Characters

theorem toNat_of_isUpper
    {c : Char}
    (hc : c.isUpper) :
    65 ≤ c.toNat ∧ c.toNat ≤ 90 := by
  simp only [Char.isUpper, decide_eq_true_eq] at hc
  exact ⟨hc.1, hc.2⟩

/-- What does not tell the case of the characters of ASCII apart tells it of no character. -/
theorem apply_toLower
    {β : Type}
    {f : Char → β}
    (h : ∀ n, n < 128 → f (Char.ofNat n).toLower = f (Char.ofNat n))
    (c : Char) :
    f c.toLower = f c := by
  by_cases hc : c.toNat < 128
  · have hn := h c.toNat hc
    rwa [Char.ofNat_toNat] at hn
  · rw [Char.toLower_eq_of_not_isUpper]
    intro hupper
    have := toNat_of_isUpper hupper
    omega

theorem isBlank_toLower (c : Char) :
    isBlank c.toLower = isBlank c :=
  apply_toLower (by decide +kernel) c

theorem isDecimalDigit_toLower (c : Char) :
    isDecimalDigit c.toLower = isDecimalDigit c :=
  apply_toLower (by decide +kernel) c

theorem lowerChar_toLower (c : Char) :
    lowerChar c.toLower = lowerChar c :=
  apply_toLower (by decide +kernel) c

theorem contains_caseIgnorable_toLower (c : Char) :
    caseIgnorable.contains c.toLower = caseIgnorable.contains c :=
  apply_toLower (by decide +kernel) c

theorem contains_cased_toLower (c : Char) :
    cased.contains c.toLower = cased.contains c :=
  apply_toLower (by decide +kernel) c

theorem toLower_eq_sigma_iff (c : Char) :
    c.toLower = 'Σ' ↔ c = 'Σ' :=
  iff_of_eq (apply_toLower (f := fun c => c = 'Σ') (by decide +kernel) c)

theorem toLower_eq_dotted_iff (c : Char) :
    c.toLower = 'İ' ↔ c = 'İ' :=
  iff_of_eq (apply_toLower (f := fun c => c = 'İ') (by decide +kernel) c)

/-- A decimal digit has no case. -/
theorem toLower_of_isDecimalDigit
    {c : Char}
    (hc : isDecimalDigit c) :
    c.toLower = c := by
  refine Char.toLower_eq_of_not_isUpper fun hupper => ?_
  have hletter := toNat_of_isUpper hupper
  have hdigit := toNat_of_isDecimalDigit hc
  omega

theorem map_toLower_of_isDecimalDigit
    {cs : List Char}
    (hcs : ∀ c ∈ cs, isDecimalDigit c) :
    cs.map Char.toLower = cs :=
  (List.map_congr_left fun c hc => toLower_of_isDecimalDigit (hcs c hc)).trans (List.map_id cs)

end Characters

section LowerCase

/-- The letters around a sigma may have either case. -/
theorem startsCased_map_toLower
    (cs : List Char) :
    startsCased (cs.map Char.toLower) = startsCased cs := by
  have hignored : caseIgnorable.contains ∘ Char.toLower = caseIgnorable.contains :=
    funext contains_caseIgnorable_toLower
  rw [startsCased, startsCased, List.dropWhile_map, hignored]
  cases cs.dropWhile caseIgnorable.contains with
  | nil =>
      rfl
  | cons c _ =>
      exact contains_cased_toLower c

theorem lowerAfter_map_toLower
    (before cs : List Char) :
    lowerAfter (before.map Char.toLower) (cs.map Char.toLower) = lowerAfter before cs := by
  induction cs generalizing before with
  | nil =>
      rfl
  | cons c cs ih =>
      rw [List.map_cons, lowerAfter, lowerAfter, ← List.map_cons, ih]
      simp only [startsCased_map_toLower, toLower_eq_sigma_iff, toLower_eq_dotted_iff,
        lowerChar_toLower]

/-- Lower case has one character for each, and two for the capital I with a dot. -/
theorem length_lowerAfter
    (before cs : List Char) :
    (lowerAfter before cs).length = cs.length + cs.count 'İ' := by
  induction cs generalizing before with
  | nil =>
      rfl
  | cons c cs ih =>
      rw [lowerAfter, List.length_append, ih, List.length_cons, List.count_cons]
      by_cases hsigma : c = 'Σ'
      · subst hsigma
        rw [if_pos rfl, apply_ite List.length]
        simp
        omega
      · rw [if_neg hsigma]
        by_cases hdotted : c = 'İ'
        · simp [hdotted]
          omega
        · simp [hdotted]
          omega

end LowerCase

section Trimming

/-- Trimming goes by what does not change with the case. -/
theorem trimBy_map_toLower
    (cs : List Char) :
    trimBy isBlank (cs.map Char.toLower) = (trimBy isBlank cs).map Char.toLower := by
  have htrimmed : Trimmed (fun c => isBlank c.toLower) cs (trimBy isBlank cs) := by
    simp only [isBlank_toLower]
    exact trimBy_eq_iff.mp rfl
  exact trimBy_eq_iff.mpr htrimmed.map

/-- Trimming changes the lower case of a text unless it leaves the text as it is. -/
theorem lower_eq_lower_strip_iff
    (s : String) :
    lower s = lower (strip s) ↔ strip s = s := by
  refine ⟨fun hlower => ?_, fun hstrip => by rw [hstrip]⟩
  have hinner : trimBy isBlank s.toList = (strip s).toList := by
    rw [strip, String.toList_ofList]
  obtain ⟨front, back, hs, -, -⟩ := (trimBy_eq_iff.mp hinner).ends
  -- What is trimmed off is missing in the lower case as well.
  have hlength := congrArg String.length hlower
  rw [lower, lower, String.length_ofList, String.length_ofList, length_lowerAfter,
    length_lowerAfter, hs] at hlength
  simp only [List.length_append, List.count_append] at hlength
  have hfront : front = [] := List.eq_nil_of_length_eq_zero (by omega)
  have hback : back = [] := List.eq_nil_of_length_eq_zero (by omega)
  rw [hfront, hback, List.nil_append, List.append_nil] at hs
  exact String.toList_inj.mp hs.symm

/-- Nothing is trimmed off a decimal text. -/
theorem strip_of_isDecimal
    {s : String}
    (hs : isDecimal s) :
    strip s = s := by
  rw [isDecimal, Bool.and_eq_true, List.all_eq_true] at hs
  rw [strip, trimBy_eq_self fun c hc => not_isBlank_of_isDecimalDigit (hs.2 c hc),
    String.ofList_toList]

end Trimming

namespace SameLetters

variable {s t : String}

theorem symm
    (h : SameLetters s t) :
    SameLetters t s :=
  Eq.symm h

theorem lower_eq
    (h : SameLetters s t) :
    lower s = lower t := by
  rw [lower, lower, ← lowerAfter_map_toLower [] s.toList, h, lowerAfter_map_toLower [] t.toList]

theorem strip
    (h : SameLetters s t) :
    SameLetters (strip s) (strip t) := by
  rw [SameLetters, Text.strip, Text.strip, String.toList_ofList, String.toList_ofList,
    ← trimBy_map_toLower, ← trimBy_map_toLower, h]

/-- A text with the letters of a decimal text is this text. -/
theorem eq_of_isDecimal
    (h : SameLetters s t)
    (ht : isDecimal t) :
    s = t := by
  rw [isDecimal, Bool.and_eq_true, List.all_eq_true] at ht
  have hlower : s.toList.map Char.toLower = t.toList := by
    rw [h, map_toLower_of_isDecimalDigit ht.2]
  have hs : ∀ c ∈ s.toList, isDecimalDigit c := by
    intro c hc
    rw [← isDecimalDigit_toLower]
    exact ht.2 _ (hlower ▸ List.mem_map_of_mem hc)
  rw [map_toLower_of_isDecimalDigit hs] at hlower
  exact String.toList_inj.mp hlower

/-- Texts that are the same but for the case of letters are equal, or neither is decimal. -/
theorem eq_or_not_isDecimal
    (h : SameLetters s t) :
    s = t ∨ ¬isDecimal s ∧ ¬isDecimal t := by
  refine Classical.or_iff_not_imp_left.mpr fun hne => ⟨fun hs => ?_, fun ht => ?_⟩
  · exact hne (h.symm.eq_of_isDecimal hs).symm
  · exact hne (h.eq_of_isDecimal ht)

end SameLetters

end Text
end ManagedSwitch
