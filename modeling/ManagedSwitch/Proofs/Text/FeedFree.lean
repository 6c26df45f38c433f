import ManagedSwitch.Number.Binary64
import ManagedSwitch.Proofs.Number.Decimal
import ManagedSwitch.Proofs.Text.Split
import ManagedSwitch.Text.Quoted

/-!
# Texts without line feeds

Numbers, quoted texts and normalized texts have no line feeds, and texts that are put together have
none if their parts have none.  Lines with a line feed behind each of them are found again by
cutting exactly if they have no line feeds themselves (`splitOn_lines_iff`).
-/

namespace ManagedSwitch

section Texts

namespace Text

/-- The text has no line feed. -/
def FeedFree (s : String) : Prop :=
  '\n' ∉ s.toList

instance FeedFree.instDecidable (s : String) : Decidable (FeedFree s) :=
  inferInstanceAs (Decidable ('\n' ∉ s.toList))

@[simp] theorem feedFree_append
    {s t : String} :
    FeedFree (s ++ t) ↔ FeedFree s ∧ FeedFree t := by
  rw [FeedFree, String.toList_append, List.mem_append, not_or]
  rfl

@[simp] theorem feedFree_ofList
    {cs : List Char} :
    FeedFree (String.ofList cs) ↔ '\n' ∉ cs := by
  rw [FeedFree, String.toList_ofList]

theorem FeedFree.append
    {s t : String}
    (hs : FeedFree s)
    (ht : FeedFree t) :
    FeedFree (s ++ t) :=
  feedFree_append.mpr ⟨hs, ht⟩

/-- For literals, whose characters are plain to see. -/
theorem FeedFree.ofChars
    {cs : List Char}
    (hcs : '\n' ∉ cs) :
    FeedFree (String.ofList cs) :=
  feedFree_ofList.mpr hcs

/-- Texts that are joined by a text without line feeds. -/
theorem FeedFree.intercalate
    {sep : String}
    (hsep : FeedFree sep)
    {texts : List String}
    (htexts : ∀ t ∈ texts, FeedFree t) :
    FeedFree (sep.intercalate texts) := by
  induction texts with
  | nil =>
      exact List.not_mem_nil
  | cons t texts ih =>
      rw [List.forall_mem_cons] at htexts
      cases texts with
      | nil =>
          simpa using htexts.1
      | cons u texts =>
          rw [String.intercalate_cons_cons]
          exact .append (.append htexts.1 hsep) (ih htexts.2)

/-- The last piece has a separator in front of it. -/
theorem intercalate_concat
    {α : Type}
    (sep : List α)
    {pieces : List (List α)}
    (hne : pieces ≠ [])
    (last : List α) :
    sep.intercalate (pieces ++ [last]) = sep.intercalate pieces ++ sep ++ last := by
  induction pieces with
  | nil =>
      exact absurd rfl hne
  | cons p pieces ih =>
      cases pieces with
      | nil =>
          simp
      | cons q pieces =>
          have hrest := ih (List.cons_ne_nil q pieces)
          rw [List.cons_append] at hrest
          rw [List.cons_append, List.cons_append, List.intercalate_cons_cons, hrest,
            List.intercalate_cons_cons]
          simp only [List.append_assoc]

/-- Lines with a line feed behind each of them are found by cutting exactly if they have no line
feeds themselves. -/
theorem splitOn_lines_iff
    {lines : List String}
    (hne : lines ≠ []) :
    ("\n".intercalate lines ++ "\n").toList.splitOn '\n' = lines.map String.toList ++ [[]] ↔
      ∀ line ∈ lines, FeedFree line := by
  have hbreak : "\n".toList = ['\n'] := rfl
  have htext :
      ("\n".intercalate lines ++ "\n").toList =
        ['\n'].intercalate (lines.map String.toList ++ [[]]) := by
    rw [String.toList_append, String.toList_intercalate, hbreak, intercalate_concat,
      List.append_nil]
    simpa using hne
  rw [← splitOn_eq, htext]
  constructor
  · intro hsplit line hline
    have hpieces :
        ∀ p ∈ splitOn '\n' (['\n'].intercalate (lines.map String.toList ++ [[]])), '\n' ∉ p :=
      fun p hp => not_mem_of_mem_splitOn hp
    rw [hsplit] at hpieces
    exact hpieces _ (List.mem_append_left _ (List.mem_map_of_mem hline))
  · intro hlines
    refine splitOn_intercalate ?_ (List.append_ne_nil_of_right_ne_nil _ (List.cons_ne_nil [] []))
    intro p hp
    rcases List.mem_append.mp hp with hp | hp
    · obtain ⟨line, hline, rfl⟩ := List.mem_map.mp hp
      exact hlines line hline
    · cases List.mem_singleton.mp hp
      exact List.not_mem_nil

end Text

end Texts

section Numbers

namespace Number

theorem newline_not_mem_digits
    (n : Nat) :
    '\n' ∉ digits n :=
  fun hmem => absurd (isDigit_of_mem_digits hmem) (by decide)

theorem feedFree_natText
    (n : Nat) :
    Text.FeedFree (natText n) :=
  Text.feedFree_ofList.mpr (newline_not_mem_digits n)

theorem newline_not_mem_chars
    (i : Int) :
    '\n' ∉ chars i :=
  fun hmem => (mem_chars hmem).elim (by decide) (by decide)

theorem feedFree_text
    (i : Int) :
    Text.FeedFree (text i) :=
  Text.feedFree_ofList.mpr (newline_not_mem_chars i)

namespace Binary64

theorem newline_not_mem_decimalOf
    (n : Nat)
    (unit : Int) :
    '\n' ∉ (decimalOf n unit).digits := by
  intro hmem
  refine newline_not_mem_digits n ?_
  rw [decimalOf, trimZeros, List.mem_reverse] at hmem
  exact List.mem_reverse.mp ((List.dropWhile_sublist _).mem hmem)

theorem newline_not_mem_exponentText
    (p : Int) :
    '\n' ∉ exponentText p := by
  have hdigits := newline_not_mem_digits p.natAbs
  rw [exponentText]
  split <;> split <;> simp [hdigits]

/-- A layout adds a point, zeros and an exponent to digits. -/
theorem newline_not_mem_layout
    (layout : Layout)
    {d : Decimal}
    (hdigits : '\n' ∉ d.digits) :
    '\n' ∉ layout.write d := by
  have hexponent := newline_not_mem_exponentText d.exponent
  have hleft : ∀ n, '\n' ∉ d.digits.take n :=
    fun n hmem => hdigits (List.mem_of_mem_take hmem)
  have hright : ∀ n, '\n' ∉ d.digits.drop n :=
    fun n hmem => hdigits (List.mem_of_mem_drop hmem)
  fun_cases Layout.write layout d with
  | case1 hlong tail =>
      have htail : '\n' ∉ tail := by
        cases hcs : d.digits with
        | nil =>
            simp [tail, hcs]
        | cons c rest =>
            rw [hcs] at hdigits
            cases rest <;> simp_all [tail]
      simp [htail, hexponent]
  | case2 hlong hsmall =>
      simp [hdigits]
  | case3 hlong hsmall whole left right hempty =>
      split <;> simp [left, hleft]
  | case4 hlong hsmall whole left right hempty =>
      simp [left, right, hleft, hright]

theorem feedFree_briefText
    (x : Float) :
    Text.FeedFree (briefText x) := by
  have hchosen : ∀ m e, '\n' ∉
      (if 0 ≤ e then roundTo 6 (m * Nat.pow 2 e.toNat) 1
        else roundTo 6 m (Nat.pow 2 (-e).toNat)).digits := by
    intro m e
    split <;> exact newline_not_mem_decimalOf _ _
  rw [briefText, Text.feedFree_ofList]
  cases ofFloat x with
  | nan =>
      exact (by decide : '\n' ∉ ['n', 'a', 'n'])
  | infinite negative =>
      cases negative <;> decide
  | finite negative m e =>
      have hlayout : ∀ d : Decimal, '\n' ∉ d.digits → '\n' ∉ briefLayout.write d :=
        fun d hd => newline_not_mem_layout briefLayout hd
      rw [write, List.mem_append, not_or]
      constructor
      · cases negative <;> decide
      · refine hlayout _ ?_
        split
        · decide
        · exact hchosen m e

end Binary64

end Number

end Numbers

section Quoting

namespace Text

theorem newline_not_mem_hex
    (width n : Nat) :
    '\n' ∉ hex width n := by
  have hdigit : ∀ d, d < 16 → '\n' ≠ hexDigit d := by decide
  induction width generalizing n with
  | zero =>
      exact List.not_mem_nil
  | succ width ih =>
      rw [hex, List.mem_append, List.mem_singleton, not_or]
      exact ⟨ih (n / 16), hdigit (n % 16) (Nat.mod_lt n (by decide))⟩

theorem newline_not_mem_escapeCode
    (c : Char) :
    '\n' ∉ escapeCode c := by
  fun_cases escapeCode c <;> simp [newline_not_mem_hex]

/-- Line feeds are escaped. -/
theorem newline_not_mem_quoteChar
    {mark : Char}
    (hmark : mark ≠ '\n')
    (shown : Char → Bool)
    (c : Char) :
    '\n' ∉ quoteChar mark shown c := by
  fun_cases quoteChar mark shown c with
  | case1 hescaped =>
      have hne : '\n' ≠ c := by
        rw [Bool.or_eq_true, decide_eq_true_eq, decide_eq_true_eq] at hescaped
        rcases hescaped with rfl | rfl
        · exact hmark.symm
        · decide
      simp [hne]
  | case2 => decide
  | case3 => decide
  | case4 => decide
  | case5 hescaped htab hbreak =>
      simp [Ne.symm hbreak]
  | case6 =>
      exact newline_not_mem_escapeCode c

theorem newline_not_mem_quoteChars
    (shown : Char → Bool)
    (cs : List Char) :
    '\n' ∉ quoteChars shown cs := by
  have hmark : quoteMark cs ≠ '\n' := by
    rw [quoteMark]
    split <;> decide
  have hchars : '\n' ∉ cs.flatMap (quoteChar (quoteMark cs) shown) := by
    intro hmem
    obtain ⟨c, -, hc⟩ := List.mem_flatMap.mp hmem
    exact newline_not_mem_quoteChar hmark shown c hc
  simp [quoteChars, hchars, hmark.symm]

theorem feedFree_quote
    (s : String) :
    FeedFree (quote s) :=
  feedFree_ofList.mpr (newline_not_mem_quoteChars _ _)

theorem feedFree_quoteBytes
    (bs : Bytes) :
    FeedFree (quoteBytes bs) := by
  rw [quoteBytes, feedFree_ofList, List.mem_cons, not_or]
  exact ⟨by decide, newline_not_mem_quoteChars _ _⟩

end Text

end Quoting

section Blanks

namespace Text

theorem newline_not_mem_collapse
    (cs : List Char) :
    '\n' ∉ collapse cs := by
  induction cs using collapse.induct with
  | case1 =>
      exact List.not_mem_nil
  | case2 c hblank =>
      rw [collapse, if_pos hblank]
      decide
  | case3 c hblank d rest hnext ih =>
      rw [collapse, if_pos hblank]
      exact (if_pos hnext).symm ▸ ih
  | case4 c hblank d rest hnext ih =>
      rw [collapse, if_pos hblank]
      have hspace : '\n' ∉ ' ' :: collapse (d :: rest) := by
        rw [List.mem_cons, not_or]
        exact ⟨by decide, ih⟩
      exact (if_neg hnext).symm ▸ hspace
  | case5 c rest hblank ih =>
      have hne : '\n' ≠ c := by
        rintro rfl
        exact hblank rfl
      rw [collapse.eq_def]
      simp [hblank, hne, ih]

/-- A line feed is white space. -/
theorem feedFree_normalize
    (s : String) :
    FeedFree (normalize s) := by
  rw [normalize, feedFree_ofList, trimBy, List.mem_reverse]
  intro hmem
  refine newline_not_mem_collapse s.toList ?_
  exact (List.dropWhile_sublist _).mem (List.mem_reverse.mp ((List.dropWhile_sublist _).mem hmem))

end Text

end Blanks

end ManagedSwitch
