import ManagedSwitch.Proofs.Number.Scripts
import ManagedSwitch.Proofs.Text.Trim

/-!
# Which texts are numbers

A number is written with a sign or without one, in groups of digits between single underscores, and
with white space around it; the digits may be those of any script, and there is a limit to how many
there are.  `Spelled` names these parts of a text, and a text is read as a number exactly if it has
them (`isSome_read?_iff`).
-/

namespace ManagedSwitch
namespace Number

section Parts

/-- The parts of a text that writes a number. -/
structure Spelled
    (cs front sign : List Char)
    (groups : List (List Char))
    (back : List Char) :
    Prop where
  eq_append : cs = front ++ ((sign ++ ['_'].intercalate groups) ++ back)
  front : ∀ c ∈ front, Text.isNumberBlank c
  back : ∀ c ∈ back, Text.isNumberBlank c
  sign : sign = [] ∨ sign = ['+'] ∨ sign = ['-']
  groups_ne_nil : groups ≠ []
  digits : ∀ g ∈ groups, g ≠ [] ∧ ∀ c ∈ g, Text.isDecimalDigit c
  length_le : groups.flatten.length ≤ digitLimit

/-- A text that writes a number. -/
def IsNumeral (s : String) : Prop :=
  ∃ front sign groups back, Spelled s.toList front sign groups back

end Parts

section Reading

/-- What is read as a digit is one. -/
theorem isDecimalDigit_of_digitIn?
    {c : Char}
    {d : Nat}
    (hd : digitIn? 10 c = some d) :
    Text.isDecimalDigit c := by
  obtain ⟨v, hv, hlt⟩ := Option.bind_eq_some_iff.mp hd
  have hsmall : v < 10 := by
    by_contra hge
    rw [if_neg hge] at hlt
    cases hlt
  split at hv
  · next hlower =>
      have hplace : 97 ≤ c.toNat := by
        simp only [Bool.and_eq_true, decide_eq_true_eq] at hlower
        exact hlower.1
      cases hv
      omega
  · split at hv
    · next hupper =>
        have hplace : 65 ≤ c.toNat := by
          simp only [Bool.and_eq_true, decide_eq_true_eq] at hupper
          exact hupper.1
        cases hv
        omega
    · rw [Text.isDecimalDigit, hv]
      rfl

/-- What is read digit by digit consists of digits. -/
theorem isDecimalDigit_of_ofDigits?
    {acc n : Nat}
    {cs : List Char}
    (hn : ofDigits? 10 acc cs = some n) :
    ∀ c ∈ cs, Text.isDecimalDigit c := by
  induction cs generalizing acc with
  | nil =>
      exact fun c hc => nomatch hc
  | cons c cs ih =>
      obtain ⟨d, hd, hrest⟩ := Option.bind_eq_some_iff.mp hn
      exact List.forall_mem_cons.mpr ⟨isDecimalDigit_of_digitIn? hd, ih hrest⟩

/-- A sign is taken off the front, or there is none. -/
theorem exists_sign
    (cs : List Char) :
    ∃ sign, (sign = [] ∨ sign = ['+'] ∨ sign = ['-']) ∧ cs = sign ++ (takeSign cs).2 := by
  rw [takeSign.eq_def]
  split
  · exact ⟨['-'], by simp, rfl⟩
  · exact ⟨['+'], by simp, rfl⟩
  · exact ⟨[], by simp, rfl⟩

/-- What is read without underscores is made of the groups between them. -/
theorem ungroup_eq_some_iff
    {cs ds : List Char} :
    ungroup cs = some ds ↔
      (∀ g ∈ Text.splitOn '_' cs, g ≠ []) ∧ (Text.splitOn '_' cs).flatten = ds := by
  rw [ungroup]
  split
  · next hempty =>
      refine iff_of_false (by simp) fun h => ?_
      obtain ⟨g, hg, hnil⟩ := List.any_eq_true.mp hempty
      exact h.1 g hg (List.isEmpty_iff.mp hnil)
  · next hempty =>
      rw [Option.some.injEq]
      refine ⟨fun heq => ⟨fun g hg hnil => hempty ?_, heq⟩, And.right⟩
      exact List.any_eq_true.mpr ⟨g, hg, List.isEmpty_iff.mpr hnil⟩

/-- A number that is read has the parts of a number. -/
theorem isNumeral_of_read?
    {s : String}
    {i : Int}
    (hi : read? s = some i) :
    IsNumeral s := by
  obtain ⟨ds, hds, hvalue⟩ := Option.bind_eq_some_iff.mp hi
  split at hvalue
  · next hlength =>
      obtain ⟨n, hn, -⟩ := Option.map_eq_some_iff.mp hvalue
      obtain ⟨hgroups, rfl⟩ := ungroup_eq_some_iff.mp hds
      have htrimmed := Text.trimBy_eq_iff.mp (rfl : Text.trimBy Text.isNumberBlank s.toList = _)
      obtain ⟨front, back, hchars, hfront, hback⟩ := htrimmed.ends
      obtain ⟨sign, hsign, hbody⟩ := exists_sign (Text.trimBy Text.isNumberBlank s.toList)
      refine ⟨front, sign, Text.splitOn '_' (takeSign _).2, back, ?_, hfront, hback, hsign, ?_, ?_,
        hlength⟩
      · rw [Text.splitOn_eq, List.intercalate_splitOn, ← hbody]
        exact hchars
      · rw [Text.splitOn_eq]
        exact List.splitOn_ne_nil _ _
      · intro g hg
        exact ⟨hgroups g hg, fun c hc =>
          isDecimalDigit_of_ofDigits? hn c (List.mem_flatten.mpr ⟨g, hg, hc⟩)⟩
  · cases hvalue

variable {cs front sign back : List Char} {groups : List (List Char)}

/-- The groups are digits and underscores. -/
theorem Spelled.mem_intercalate
    (h : Spelled cs front sign groups back)
    {c : Char}
    (hc : c ∈ ['_'].intercalate groups) :
    c = '_' ∨ Text.isDecimalDigit c := by
  have hdigits := h.digits
  clear h
  induction groups with
  | nil =>
      cases hc
  | cons g groups ih =>
      rw [List.forall_mem_cons] at hdigits
      cases groups with
      | nil =>
          rw [List.intercalate_singleton] at hc
          exact Or.inr (hdigits.1.2 c hc)
      | cons g' groups =>
          rw [List.intercalate_cons_cons, List.mem_append, List.mem_append,
            List.mem_singleton] at hc
          rcases hc with (hc | hc) | hc
          · exact Or.inr (hdigits.1.2 c hc)
          · exact Or.inl hc
          · exact ih hc hdigits.2

/-- No part of the number itself is white space. -/
theorem Spelled.trimmed
    (h : Spelled cs front sign groups back) :
    Text.trimBy Text.isNumberBlank cs = sign ++ ['_'].intercalate groups := by
  have hinner : ∀ c ∈ sign ++ ['_'].intercalate groups, Text.isNumberBlank c = false := by
    intro c hc
    rcases List.mem_append.mp hc with hc | hc
    · rcases h.sign with rfl | rfl | rfl
      · cases hc
      · rw [List.mem_singleton.mp hc]
        rfl
      · rw [List.mem_singleton.mp hc]
        rfl
    · rcases h.mem_intercalate hc with rfl | hdigit
      · rfl
      · rw [Text.isNumberBlank, Text.not_isBlank_of_isDecimalDigit hdigit, Bool.false_and]
  rw [Text.trimBy_eq_iff]
  exact ⟨⟨front, back, h.eq_append, h.front, h.back⟩,
    fun c hc => hinner c (List.mem_of_mem_head? hc),
    fun c hc => hinner c (List.mem_of_mem_getLast? hc)⟩

/-- The sign is taken off, and nothing else. -/
theorem Spelled.takeSign_snd
    (h : Spelled cs front sign groups back) :
    (takeSign (sign ++ ['_'].intercalate groups)).2 = ['_'].intercalate groups := by
  have hplain : ∀ c, (c = '-' ∨ c = '+') → c ∉ ['_'].intercalate groups := by
    rintro c hc hmem
    rcases h.mem_intercalate hmem with heq | hdigit
    · rcases hc with rfl | rfl <;> cases heq
    · rcases hc with rfl | rfl <;> exact absurd hdigit (by decide)
  rcases h.sign with rfl | rfl | rfl
  · rw [List.nil_append, takeSign_eq_self (hplain _ (Or.inl rfl)) (hplain _ (Or.inr rfl))]
  · rfl
  · rfl

/-- A text with the parts of a number is read. -/
theorem Spelled.isSome_read?
    {s : String}
    (h : Spelled s.toList front sign groups back) :
    (read? s).isSome := by
  have hsep : ∀ g ∈ groups, '_' ∉ g :=
    fun g hg hmem => absurd ((h.digits g hg).2 _ hmem) (by decide)
  have hsplit : Text.splitOn '_' (['_'].intercalate groups) = groups :=
    Text.splitOn_intercalate hsep h.groups_ne_nil
  have hungroup : ungroup (['_'].intercalate groups) = some groups.flatten :=
    ungroup_eq_some_iff.mpr ⟨fun g hg => (h.digits g (hsplit ▸ hg)).1, by rw [hsplit]⟩
  have hdigits : ∀ c ∈ groups.flatten, Text.isDecimalDigit c := by
    intro c hc
    obtain ⟨g, hg, hmem⟩ := List.mem_flatten.mp hc
    exact (h.digits g hg).2 c hmem
  simp only [read?, h.trimmed, h.takeSign_snd, hungroup, Option.bind_some, h.length_le, if_true,
    Option.isSome_map]
  exact ofDigits?_isSome hdigits 0

/-- A text is read as a number exactly if it has the parts of one. -/
theorem isSome_read?_iff
    {s : String} :
    (read? s).isSome ↔ IsNumeral s := by
  constructor
  · intro hsome
    obtain ⟨i, hi⟩ := Option.isSome_iff_exists.mp hsome
    exact isNumeral_of_read? hi
  · rintro ⟨front, sign, groups, back, h⟩
    exact h.isSome_read?

end Reading

end Number
end ManagedSwitch
