import Mathlib.Data.List.Chain
import ManagedSwitch.Proofs.Text.Split
import ManagedSwitch.Proofs.Text.Utf8

/-!
# Lines

A pair of different elements ends lines.  A sequence in which the pair does not stand is `Unbroken`;
sequences of this kind, joined by the pair, are found again by cutting at the pair, and cutting
never gives others (`splitOnPair_eq_iff`).  If none of them is empty, the pair stands twice in a row for the first time
where it has been put behind them.

The pair of carriage return and line feed stands in the UTF-8 of a text exactly if it stands in the
text.
-/

namespace ManagedSwitch
namespace Text

section Unbroken

variable {α : Type}

/-- The pair `a`, `b` stands nowhere in the sequence. -/
def Unbroken
    (a b : α)
    (xs : List α) :
    Prop :=
  ¬ [a, b] <:+: xs

variable {a b : α}

/-- In an unbroken sequence no two neighbours are the pair. -/
theorem unbroken_iff_isChain
    {xs : List α} :
    Unbroken a b xs ↔ List.IsChain (fun x y => ¬(x = a ∧ y = b)) xs := by
  constructor
  · intro h
    refine (List.isChain_isInfix xs).imp ?_
    rintro x y hpair ⟨rfl, rfl⟩
    exact h hpair
  · intro h hpair
    have hchain := h.infix hpair
    rw [List.isChain_cons_cons] at hchain
    exact hchain.1 ⟨rfl, rfl⟩

theorem unbroken_nil :
    Unbroken a b [] := by
  rw [unbroken_iff_isChain]
  exact .nil

theorem unbroken_singleton
    (x : α) :
    Unbroken a b [x] := by
  rw [unbroken_iff_isChain]
  exact .singleton x

theorem unbroken_cons_cons
    {x y : α}
    {xs : List α} :
    Unbroken a b (x :: y :: xs) ↔ ¬(x = a ∧ y = b) ∧ Unbroken a b (y :: xs) := by
  rw [unbroken_iff_isChain, List.isChain_cons_cons, unbroken_iff_isChain]

theorem Unbroken.tail
    {x : α}
    {xs : List α}
    (h : Unbroken a b (x :: xs)) :
    Unbroken a b xs :=
  fun hpair => h (List.infix_cons hpair)

/-- Behind the first of the pair, an unbroken sequence does not begin with the second. -/
theorem unbroken_cons_self
    {xs : List α} :
    Unbroken a b (a :: xs) ↔ b ∉ xs.head? ∧ Unbroken a b xs := by
  rw [unbroken_iff_isChain, List.isChain_cons, unbroken_iff_isChain]
  refine and_congr_left fun _ => ?_
  constructor
  · exact fun h hb => h b hb ⟨rfl, rfl⟩
  · rintro h y hy ⟨-, rfl⟩
    exact h hy

/-- A sequence without the first of the pair is unbroken. -/
theorem unbroken_of_not_mem
    {xs : List α}
    (h : a ∉ xs) :
    Unbroken a b xs :=
  fun hpair => h (hpair.subset List.mem_cons_self)

/-- Sequences that do not meet in the pair can be put behind each other. -/
theorem unbroken_append_iff
    {xs ys : List α}
    (hseam : a ∈ xs.getLast? → b ∉ ys.head?) :
    Unbroken a b (xs ++ ys) ↔ Unbroken a b xs ∧ Unbroken a b ys := by
  simp only [unbroken_iff_isChain, List.isChain_append]
  refine and_congr_right fun _ => and_iff_left ?_
  rintro x hx y hy ⟨rfl, rfl⟩
  exact hseam hx hy

/-- A line in front of an empty line or of other lines has the pair behind it. -/
theorem exists_intercalate_append
    (l : List α)
    (lines : List (List α))
    (ys : List α) :
    ∃ zs, [a, b].intercalate (l :: lines) ++ a :: b :: ys = l ++ a :: b :: zs := by
  cases lines with
  | nil =>
      exact ⟨ys, by rw [List.intercalate_singleton]⟩
  | cons l' lines =>
      exact ⟨[a, b].intercalate (l' :: lines) ++ a :: b :: ys, by simp⟩

/-- An element in front of the first piece stands in front of the joined pieces. -/
theorem intercalate_consPiece
    (sep : List α)
    (x : α)
    {pieces : List (List α)}
    (hne : pieces ≠ []) :
    sep.intercalate (consPiece x pieces) = x :: sep.intercalate pieces := by
  obtain ⟨p, ps, rfl⟩ := List.exists_cons_of_ne_nil hne
  cases ps with
  | nil =>
      simp [consPiece]
  | cons q ps =>
      simp [consPiece]

end Unbroken

section Pieces

variable {α : Type} [BEq α] [LawfulBEq α]
variable {a b : α}

theorem splitOnPair_cons_cons
    {x y : α}
    (h : ¬(x = a ∧ y = b))
    (xs : List α) :
    splitOnPair a b (x :: y :: xs) = consPiece x (splitOnPair a b (y :: xs)) := by
  rw [splitOnPair, if_neg]
  simpa using h

/-- An unbroken sequence is one piece. -/
theorem splitOnPair_unbroken
    {xs : List α}
    (h : Unbroken a b xs) :
    splitOnPair a b xs = [xs] := by
  induction xs with
  | nil =>
      rfl
  | cons x xs ih =>
      cases xs with
      | nil =>
          rfl
      | cons y xs =>
          rw [unbroken_cons_cons] at h
          rw [splitOnPair_cons_cons h.1, ih h.2]
          rfl

/-- What is unbroken in front of the pair is the first piece. -/
theorem splitOnPair_append
    (hne : a ≠ b)
    {xs : List α}
    (h : Unbroken a b xs)
    (ys : List α) :
    splitOnPair a b (xs ++ a :: b :: ys) = xs :: splitOnPair a b ys := by
  induction xs with
  | nil =>
      simp [splitOnPair]
  | cons x xs ih =>
      have hfirst : ∀ y zs, xs ++ a :: b :: ys = y :: zs → ¬(x = a ∧ y = b) := by
        rintro y zs heq ⟨rfl, rfl⟩
        cases xs with
        | nil =>
            exact hne (List.cons.inj heq).1
        | cons z xs =>
            exact (unbroken_cons_cons.mp h).1 ⟨rfl, (List.cons.inj heq).1⟩
      obtain ⟨y, zs, heq⟩ := List.exists_cons_of_ne_nil (show xs ++ a :: b :: ys ≠ [] by simp)
      rw [List.cons_append, heq, splitOnPair_cons_cons (hfirst y zs heq), ← heq, ih h.tail]
      rfl

/-- Unbroken sequences that are joined by the pair are found again. -/
theorem splitOnPair_intercalate
    (hne : a ≠ b)
    {lines : List (List α)}
    (hnil : lines ≠ [])
    (h : ∀ l ∈ lines, Unbroken a b l) :
    splitOnPair a b ([a, b].intercalate lines) = lines := by
  induction lines with
  | nil =>
      exact absurd rfl hnil
  | cons l lines ih =>
      rw [List.forall_mem_cons] at h
      cases lines with
      | nil =>
          rw [List.intercalate_singleton, splitOnPair_unbroken h.1]
      | cons l' lines =>
          have hrest := ih (List.cons_ne_nil l' lines) h.2
          rw [List.intercalate_cons_cons, List.append_assoc, List.cons_append, List.cons_append,
            List.nil_append, splitOnPair_append hne h.1, hrest]

/-- The first piece is empty or begins where the sequence begins. -/
theorem exists_splitOnPair_cons
    (x : α)
    (xs : List α) :
    ∃ p ps, splitOnPair a b (x :: xs) = p :: ps ∧ ∀ y ∈ p.head?, y = x := by
  cases xs with
  | nil =>
      exact ⟨[x], [], rfl, by simp⟩
  | cons y xs =>
      by_cases h : x = a ∧ y = b
      · obtain ⟨rfl, rfl⟩ := h
        exact ⟨[], splitOnPair x y xs, by simp [splitOnPair], by simp⟩
      · rw [splitOnPair_cons_cons h]
        cases splitOnPair a b (y :: xs) with
        | nil =>
            exact ⟨[x], [], rfl, by simp⟩
        | cons p ps =>
            exact ⟨x :: p, ps, rfl, by simp⟩

/-- All pieces are unbroken. -/
theorem unbroken_of_mem_splitOnPair
    {xs p : List α}
    (hp : p ∈ splitOnPair a b xs) :
    Unbroken a b p := by
  fun_induction splitOnPair a b xs generalizing p with
  | case1 =>
      cases List.mem_singleton.mp hp
      exact unbroken_nil
  | case2 x =>
      cases List.mem_singleton.mp hp
      exact unbroken_singleton x
  | case3 x y xs hpair ih =>
      rcases List.mem_cons.mp hp with rfl | hp
      · exact unbroken_nil
      · exact ih hp
  | case4 x y xs hpair ih =>
      obtain ⟨q, qs, hpieces, hhead⟩ := exists_splitOnPair_cons (a := a) (b := b) y xs
      rw [hpieces] at hp ih
      rcases List.mem_cons.mp hp with rfl | hp
      · cases q with
        | nil =>
            exact unbroken_singleton x
        | cons z q =>
            cases hhead z rfl
            exact unbroken_cons_cons.mpr ⟨by simpa using hpair, ih List.mem_cons_self⟩
      · exact ih (List.mem_cons_of_mem q hp)

/-- There is always a piece. -/
theorem splitOnPair_ne_nil
    (xs : List α) :
    splitOnPair a b xs ≠ [] := by
  cases xs with
  | nil =>
      exact List.cons_ne_nil _ _
  | cons x xs =>
      obtain ⟨p, ps, hpieces, -⟩ := exists_splitOnPair_cons (a := a) (b := b) x xs
      rw [hpieces]
      exact List.cons_ne_nil p ps

/-- The pieces, joined by the pair, are the sequence. -/
theorem intercalate_splitOnPair
    (xs : List α) :
    [a, b].intercalate (splitOnPair a b xs) = xs := by
  fun_induction splitOnPair a b xs with
  | case1 =>
      rfl
  | case2 x =>
      rfl
  | case3 x y xs hpair ih =>
      obtain ⟨p, ps, hpieces⟩ := List.exists_cons_of_ne_nil (splitOnPair_ne_nil (a := a) (b := b) xs)
      rw [hpieces] at ih ⊢
      simp only [Bool.and_eq_true, beq_iff_eq] at hpair
      rw [List.intercalate_cons_cons, ih, hpair.1, hpair.2]
      rfl
  | case4 x y xs hpair ih =>
      rw [intercalate_consPiece _ _ (splitOnPair_ne_nil _), ih]

/-- The pieces are the unbroken sequences that give the whole when the pair joins them. -/
theorem splitOnPair_eq_iff
    (hne : a ≠ b)
    {xs : List α}
    {lines : List (List α)} :
    splitOnPair a b xs = lines ↔
      lines ≠ [] ∧ [a, b].intercalate lines = xs ∧ ∀ l ∈ lines, Unbroken a b l := by
  constructor
  · rintro rfl
    exact ⟨splitOnPair_ne_nil xs, intercalate_splitOnPair xs,
      fun _ hl => unbroken_of_mem_splitOnPair hl⟩
  · rintro ⟨hnil, rfl, hlines⟩
    exact splitOnPair_intercalate hne hnil hlines

/-- Pieces of a sequence whose elements have been renamed one by one. -/
theorem splitOnPair_map
    {β : Type}
    [BEq β]
    [LawfulBEq β]
    {f : α → β}
    (hf : Function.Injective f)
    (xs : List α) :
    splitOnPair (f a) (f b) (xs.map f) = (splitOnPair a b xs).map (List.map f) := by
  fun_induction splitOnPair a b xs with
  | case1 =>
      rfl
  | case2 x =>
      rfl
  | case3 x y xs hpair ih =>
      simp only [Bool.and_eq_true, beq_iff_eq] at hpair
      obtain ⟨rfl, rfl⟩ := hpair
      simp [splitOnPair, ih]
  | case4 x y xs hpair ih =>
      have hpair' : ¬(f x = f a ∧ f y = f b) := by
        simpa [hf.eq_iff] using hpair
      rw [List.map_cons, List.map_cons, splitOnPair_cons_cons hpair', ← List.map_cons, ih]
      obtain ⟨p, ps, hpieces⟩ :=
        List.exists_cons_of_ne_nil (splitOnPair_ne_nil (a := a) (b := b) (y :: xs))
      rw [hpieces]
      rfl

end Pieces

section EmptyLine

variable {α : Type} [BEq α] [LawfulBEq α]
variable {a b : α}

/-- In front of the pair, nothing in an unbroken sequence begins with the pair. -/
theorem after?_pair
    (hne : a ≠ b)
    {x : α}
    {xs : List α}
    (h : Unbroken a b (x :: xs))
    (more ys : List α) :
    after? (a :: b :: more) (x :: (xs ++ a :: b :: ys)) = none := by
  by_cases hx : x = a
  · subst hx
    cases xs with
    | nil =>
        simp [after?, hne.symm]
    | cons y xs =>
        have hy : b ≠ y := fun hy => (unbroken_cons_cons.mp h).1 ⟨rfl, hy.symm⟩
        simp [after?, hy]
  · have hx' : (a == x) = false := beq_false_of_ne (Ne.symm hx)
    simp [after?, hx']

/-- Behind an unbroken sequence, the pair put twice is found where it first stands. -/
theorem cutAtText_twice
    (hne : a ≠ b)
    {xs : List α}
    (h : Unbroken a b xs)
    (ys : List α) :
    cutAtText [a, b, a, b] (xs ++ a :: b :: a :: b :: ys) = some (xs, ys) := by
  induction xs with
  | nil =>
      simp [cutAtText, after?]
  | cons x xs ih =>
      rw [List.cons_append, cutAtText, after?_pair hne h, ih h.tail]
      rfl

/-- Behind an unbroken sequence and one pair, cutting goes on if no pair follows. -/
theorem cutAtText_once
    (hne : a ≠ b)
    {xs : List α}
    (h : Unbroken a b xs)
    {ys : List α}
    (hys : after? [a, b] ys = none) :
    cutAtText [a, b, a, b] (xs ++ a :: b :: ys) =
      (cutAtText [a, b, a, b] ys).map fun parts => (xs ++ a :: b :: parts.1, parts.2) := by
  induction xs with
  | nil =>
      have hpair : after? [a, b, a, b] (a :: b :: ys) = none := by
        simpa [after?] using hys
      have hlast : after? [a, b, a, b] (b :: ys) = none := by
        simp [after?, hne]
      rw [List.nil_append, cutAtText, hpair, cutAtText, hlast]
      simp [Function.comp_def]
  | cons x xs ih =>
      rw [List.cons_append, cutAtText, after?_pair hne h, ih h.tail]
      simp [Function.comp_def]

/-- Lines that are unbroken and not empty are cut off at the empty line behind them. -/
theorem cutAtText_intercalate
    (hne : a ≠ b)
    {lines : List (List α)}
    (hnil : lines ≠ [])
    (h : ∀ l ∈ lines, l ≠ [] ∧ Unbroken a b l)
    (ys : List α) :
    cutAtText [a, b, a, b] ([a, b].intercalate lines ++ a :: b :: a :: b :: ys) =
      some ([a, b].intercalate lines, ys) := by
  induction lines with
  | nil =>
      exact absurd rfl hnil
  | cons l lines ih =>
      rw [List.forall_mem_cons] at h
      cases lines with
      | nil =>
          rw [List.intercalate_singleton, cutAtText_twice hne h.1.2]
      | cons l' lines =>
          have hrest := ih (List.cons_ne_nil l' lines) h.2
          obtain ⟨hnil', hunbroken⟩ := h.2 l' List.mem_cons_self
          obtain ⟨x, xs, rfl⟩ := List.exists_cons_of_ne_nil hnil'
          obtain ⟨zs, hzs⟩ :=
            exists_intercalate_append (a := a) (b := b) (x :: xs) lines (a :: b :: ys)
          have hpair :
              after? [a, b] ([a, b].intercalate ((x :: xs) :: lines) ++ a :: b :: a :: b :: ys) =
                none := by
            rw [hzs]
            exact after?_pair hne hunbroken [] zs
          rw [List.intercalate_cons_cons, List.append_assoc, List.append_assoc, List.cons_append,
            List.cons_append, List.nil_append, cutAtText_once hne h.1.2 hpair, hrest,
            Option.map_some, List.append_assoc]
          rfl

end EmptyLine

section LineBreaks

namespace Utf8

/-- A byte below 128 stands in the bytes of one character only, the one with its number. -/
theorem toNat_of_mem_charBytes
    {c : Char}
    {byte : UInt8}
    (hmem : byte ∈ charBytes c)
    (hlow : byte.toNat < 128) :
    c.toNat = byte.toNat := by
  obtain ⟨n, hn, rfl⟩ := List.mem_map.mp hmem
  have hchar := toNat_range c
  have hbyte : n < 256 ∧ (n < 128 → c.toNat = n) := by
    simp only [encodeCode] at hn
    split at hn
    · simp only [List.mem_singleton] at hn
      omega
    split at hn
    · simp only [List.mem_cons, List.not_mem_nil, or_false] at hn
      omega
    split at hn
    · simp only [List.mem_cons, List.not_mem_nil, or_false] at hn
      omega
    · simp only [List.mem_cons, List.not_mem_nil, or_false] at hn
      omega
  rw [toNat_byte hbyte.1] at hlow ⊢
  exact hbyte.2 hlow

/-- The byte of a character of ASCII stands in the bytes of those texts only that have the
character. -/
theorem not_mem_encode
    {c : Char}
    {s : String}
    (hlow : c.toNat < 128)
    (h : c ∉ s.toList) :
    UInt8.ofNat c.toNat ∉ encode s := by
  intro hmem
  obtain ⟨d, hd, hbyte⟩ := List.mem_flatMap.mp hmem
  have hnat : (UInt8.ofNat c.toNat).toNat = c.toNat := toNat_byte (by omega)
  have hchar : d.toNat = c.toNat := by
    rw [← hnat]
    exact toNat_of_mem_charBytes hbyte (by omega)
  exact h (Char.toNat_inj.mp hchar ▸ hd)

/-- The first byte is a line feed exactly if the first character is. -/
theorem head?_encodeChars_iff
    {cs : List Char} :
    10 ∈ (encodeChars cs).head? ↔ '\n' ∈ cs.head? := by
  cases cs with
  | nil =>
      simp
  | cons c cs =>
      obtain ⟨byte, bytes, hbytes, -⟩ := step_charBytes c []
      rw [encodeChars_cons, hbytes, List.cons_append, List.head?_cons, List.head?_cons,
        Option.mem_some_iff, Option.mem_some_iff]
      constructor
      · rintro rfl
        have hmem : (10 : UInt8) ∈ charBytes c := hbytes ▸ List.mem_cons_self
        exact Char.toNat_inj.mp (toNat_of_mem_charBytes hmem (by decide))
      · rintro rfl
        exact (List.cons.inj hbytes).1.symm

/-- Line ends stand in the bytes of a text as they stand in the text. -/
theorem unbroken_encodeChars_iff
    {cs : List Char} :
    Unbroken 13 10 (encodeChars cs) ↔ Unbroken '\r' '\n' cs := by
  induction cs with
  | nil =>
      exact iff_of_true unbroken_nil unbroken_nil
  | cons c cs ih =>
      by_cases hc : c = '\r'
      · subst hc
        have hbytes : charBytes '\r' = [13] := rfl
        rw [encodeChars_cons, hbytes, List.singleton_append, unbroken_cons_self,
          unbroken_cons_self, head?_encodeChars_iff, ih]
      · have hmem : 13 ∉ charBytes c := fun hmem =>
          hc (Char.toNat_inj.mp (toNat_of_mem_charBytes hmem (by decide)))
        have hlast : 13 ∉ (charBytes c).getLast? := fun h => hmem (List.mem_of_getLast? h)
        have hlast' : '\r' ∉ [c].getLast? := by
          simpa using hc
        rw [encodeChars_cons, unbroken_append_iff fun h => absurd h hlast, ih,
          ← List.singleton_append, unbroken_append_iff fun h => absurd h hlast',
          and_iff_right (unbroken_of_not_mem hmem), and_iff_right (unbroken_singleton c)]

end Utf8

/-- No line ends within the text. -/
def OneLine (s : String) : Prop :=
  Unbroken '\r' '\n' s.toList

theorem unbroken_encode_iff
    {s : String} :
    Unbroken 13 10 (Utf8.encode s) ↔ OneLine s :=
  Utf8.unbroken_encodeChars_iff

theorem oneLine_of_not_mem
    {s : String}
    (h : '\r' ∉ s.toList) :
    OneLine s :=
  unbroken_of_not_mem h

/-- Texts that do not meet in a line end. -/
theorem oneLine_append_iff
    {s t : String}
    (hseam : '\r' ∈ s.toList.getLast? → '\n' ∉ t.toList.head?) :
    OneLine (s ++ t) ↔ OneLine s ∧ OneLine t := by
  rw [OneLine, String.toList_append, unbroken_append_iff hseam]
  rfl

/-- A text behind a beginning that has no carriage return. -/
theorem oneLine_append_iff_right
    {s t : String}
    (h : '\r' ∉ s.toList) :
    OneLine (s ++ t) ↔ OneLine t := by
  rw [oneLine_append_iff fun hlast => absurd (List.mem_of_getLast? hlast) h,
    and_iff_right (oneLine_of_not_mem h)]

end LineBreaks

end Text
end ManagedSwitch
