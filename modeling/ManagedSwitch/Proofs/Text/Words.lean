import Mathlib.Data.List.Chain
import ManagedSwitch.Proofs.Text.FeedFree
import ManagedSwitch.Proofs.Text.Trim

/-!
# Words of texts

The words of a text are what stands between its white space, without the empty pieces (`words_eq`);
so white space cuts a text into the words in front of it and the words behind it
(`words_append_cons`), and words that have been joined are found again (`words_joinWords`).

When every run of white space is replaced by one space, the words are left with one space between
neighbours, and perhaps one at each end (`exists_collapse_eq`).  The ends are trimmed off.  So a
normalized text is its words joined by single spaces, and what else is to be said of it is said of
joined words (`normalize_joins_words`).
-/

namespace ManagedSwitch
namespace Text

section Cutting

/-- A word has characters, and none of them is white space. -/
structure IsWord (w : List Char) : Prop where
  ne_nil : w ≠ []
  isBlank : ∀ c ∈ w, isBlank c = false

variable {c d : Char} {cs w : List Char}

theorem words_cons_of_blank
    (hc : isBlank c) :
    words (c :: cs) = words cs := by
  rw [words.eq_def]
  exact if_pos hc

theorem words_cons_cons
    (hc : isBlank c = false)
    (hd : isBlank d = false) :
    words (c :: d :: cs) = consWord c (words (d :: cs)) := by
  rw [words.eq_def]
  simp [hc, hd]

theorem words_cons_cons_of_blank
    (hc : isBlank c = false)
    (hd : isBlank d) :
    words (c :: d :: cs) = [c] :: words (d :: cs) := by
  rw [words.eq_def]
  simp [hc, hd]

/-- The words are the pieces between white space that are not empty. -/
theorem words_eq
    (cs : List Char) :
    words cs = (cs.splitOnP isBlank).filter fun piece => !piece.isEmpty := by
  induction cs with
  | nil =>
      rfl
  | cons c cs ih =>
      rw [List.splitOnP_cons_eq_if_modifyHead]
      cases hc : isBlank c with
      | true =>
          rw [words_cons_of_blank hc, ih]
          rfl
      | false =>
          cases cs with
          | nil =>
              simp [words, hc]
          | cons d cs =>
              rw [List.splitOnP_cons_eq_if_modifyHead] at ih ⊢
              cases hd : isBlank d with
              | true =>
                  rw [words_cons_cons_of_blank hc hd, ih, hd]
                  rfl
              | false =>
                  obtain ⟨p, ps, hps⟩ :=
                    List.exists_cons_of_ne_nil (List.splitOnP_ne_nil isBlank cs)
                  rw [words_cons_cons hc hd, ih, hd, hps]
                  rfl

/-- White space cuts a text into the words in front of it and the words behind it. -/
theorem words_append_cons
    (hc : isBlank c)
    (front back : List Char) :
    words (front ++ c :: back) = words front ++ words back := by
  rw [words_eq, words_eq, words_eq, List.splitOnP_append_cons front back hc, List.filter_append]

/-- White space alone has no words. -/
theorem words_eq_nil
    (hcs : ∀ c ∈ cs, isBlank c) :
    words cs = [] := by
  induction cs with
  | nil =>
      rfl
  | cons c cs ih =>
      rw [List.forall_mem_cons] at hcs
      rw [words_cons_of_blank hcs.1]
      exact ih hcs.2

/-- White space in front has no words. -/
theorem words_append_of_blank
    {front : List Char}
    (hfront : ∀ c ∈ front, isBlank c)
    (cs : List Char) :
    words (front ++ cs) = words cs := by
  induction front with
  | nil =>
      rfl
  | cons c front ih =>
      rw [List.forall_mem_cons] at hfront
      rw [List.cons_append, words_cons_of_blank hfront.1]
      exact ih hfront.2

/-- A word is the only one in itself. -/
theorem IsWord.words_eq
    (hw : IsWord w) :
    words w = [w] := by
  rw [Text.words_eq, List.splitOnP_eq_singleton hw.isBlank]
  simp [hw.ne_nil]

/-- The characters of the words are those that are not white space, in order. -/
theorem flatten_words
    (cs : List Char) :
    (words cs).flatten = cs.filter fun c => !isBlank c := by
  have hcons : ∀ (c : Char) (ws : List (List Char)), (consWord c ws).flatten = c :: ws.flatten := by
    intro c ws
    cases ws <;> rfl
  induction cs with
  | nil =>
      rfl
  | cons c cs ih =>
      cases hc : isBlank c with
      | true =>
          rw [words_cons_of_blank hc, ih]
          simp [hc]
      | false =>
          rw [List.filter_cons_of_pos (by simp [hc]), ← ih]
          cases cs with
          | nil =>
              simp [words, hc]
          | cons d cs =>
              cases hd : isBlank d with
              | true =>
                  rw [words_cons_cons_of_blank hc hd]
                  rfl
              | false =>
                  rw [words_cons_cons hc hd, hcons]

theorem isWord_of_mem_words
    (hw : w ∈ words cs) :
    IsWord w where
  ne_nil := by
    rw [words_eq] at hw
    simpa using (List.mem_filter.mp hw).2
  isBlank := by
    intro c hc
    have hmem : c ∈ (words cs).flatten := List.mem_flatten.mpr ⟨w, hw, hc⟩
    rw [flatten_words] at hmem
    simpa using (List.mem_filter.mp hmem).2

end Cutting

section Joining

variable {ws : List (List Char)}

/-- Words are joined by single spaces. -/
theorem joinWords_eq
    (ws : List (List Char)) :
    joinWords ws = [' '].intercalate ws := by
  induction ws using joinWords.induct with
  | case1 =>
      rfl
  | case2 w =>
      exact List.intercalate_singleton.symm
  | case3 w ws hne ih =>
      obtain ⟨v, ws, rfl⟩ := List.exists_cons_of_ne_nil hne
      rw [joinWords, ih, List.intercalate_cons_cons, List.append_assoc]
      · rfl
      · exact hne

theorem joinWords_cons
    (w : List Char)
    (hne : ws ≠ []) :
    joinWords (w :: ws) = w ++ ' ' :: joinWords ws :=
  joinWords.eq_3 w ws hne

/-- Joined words are found again. -/
theorem words_joinWords
    (hws : ∀ w ∈ ws, IsWord w) :
    words (joinWords ws) = ws := by
  induction ws using joinWords.induct with
  | case1 =>
      rfl
  | case2 w =>
      exact (hws w List.mem_cons_self).words_eq
  | case3 w ws hne ih =>
      rw [List.forall_mem_cons] at hws
      rw [joinWords_cons w hne, words_append_cons rfl, hws.1.words_eq, ih hws.2]
      rfl

/-- Joined words begin with a word. -/
theorem isBlank_head_joinWords
    (hws : ∀ w ∈ ws, IsWord w) :
    ∀ c ∈ (joinWords ws).head?, isBlank c = false := by
  cases ws with
  | nil =>
      exact fun c hc => nomatch hc
  | cons w ws =>
      have hw := hws w List.mem_cons_self
      have hhead : (joinWords (w :: ws)).head? = w.head? := by
        cases ws with
        | nil =>
            rfl
        | cons v ws =>
            rw [joinWords_cons w (List.cons_ne_nil v ws), List.head?_append_of_ne_nil _ hw.ne_nil]
      intro c hc
      rw [hhead] at hc
      exact hw.isBlank c (List.mem_of_mem_head? hc)

/-- Joined words end with a word. -/
theorem isBlank_last_joinWords
    (hws : ∀ w ∈ ws, IsWord w) :
    ∀ c ∈ (joinWords ws).getLast?, isBlank c = false := by
  induction ws using joinWords.induct with
  | case1 =>
      exact fun c hc => nomatch hc
  | case2 w =>
      exact fun c hc => (hws w List.mem_cons_self).isBlank c (List.mem_of_mem_getLast? hc)
  | case3 w ws hne ih =>
      rw [List.forall_mem_cons] at hws
      intro c hc
      have hrest : joinWords ws ≠ [] := by
        intro hnil
        exact hne (by rw [← words_joinWords hws.2, hnil]; rfl)
      rw [joinWords_cons w hne, List.getLast?_append_cons, List.getLast?_cons_of_ne_nil hrest] at hc
      exact ih hws.2 c hc

/-- In joined words, no white space follows white space. -/
theorem isChain_joinWords
    (hws : ∀ w ∈ ws, IsWord w) :
    (joinWords ws).IsChain fun c d => isBlank c → isBlank d = false := by
  have hword : ∀ {w}, IsWord w → w.IsChain fun c d => isBlank c → isBlank d = false := by
    intro w hw
    refine (List.pairwise_of_forall_mem_list fun c _ d hd _ => ?_).isChain
    exact hw.isBlank d hd
  induction ws using joinWords.induct with
  | case1 =>
      exact List.isChain_nil
  | case2 w =>
      exact hword (hws w List.mem_cons_self)
  | case3 w ws hne ih =>
      rw [List.forall_mem_cons] at hws
      rw [joinWords_cons w hne, List.isChain_append, List.isChain_cons]
      refine ⟨hword hws.1, ⟨fun d hd _ => isBlank_head_joinWords hws.2 d hd, ih hws.2⟩, ?_⟩
      intro c hc d _ hblank
      rw [hws.1.isBlank c (List.mem_of_mem_getLast? hc)] at hblank
      cases hblank

/-- The white space between joined words is spaces. -/
theorem eq_space_of_mem_joinWords
    {c : Char}
    (hws : ∀ w ∈ ws, IsWord w)
    (hc : c ∈ joinWords ws)
    (hblank : isBlank c) :
    c = ' ' := by
  induction ws using joinWords.induct with
  | case1 =>
      cases hc
  | case2 w =>
      rw [(hws w List.mem_cons_self).isBlank c hc] at hblank
      cases hblank
  | case3 w ws hne ih =>
      rw [List.forall_mem_cons] at hws
      rw [joinWords_cons w hne, List.mem_append, List.mem_cons] at hc
      rcases hc with hc | rfl | hc
      · rw [hws.1.isBlank c hc] at hblank
        cases hblank
      · rfl
      · exact ih hws.2 hc

end Joining

section Normalizing

/-- What collapsing leaves in front of the first word: a space where white space was. -/
def leadingSpace (cs : List Char) : List Char :=
  if (cs.head?.any isBlank) && !(words cs).isEmpty then [' '] else []

theorem joinWords_consWord
    (c : Char)
    (ws : List (List Char)) :
    joinWords (consWord c ws) = c :: joinWords ws := by
  match ws with
  | [] => rfl
  | [w] => rfl
  | w :: v :: ws => rfl

/-- A character that is not white space begins the first word. -/
theorem joinWords_words_cons
    {c : Char}
    (hc : isBlank c = false)
    (cs : List Char) :
    joinWords (words (c :: cs)) = c :: (leadingSpace cs ++ joinWords (words cs)) := by
  cases cs with
  | nil =>
      simp [words, hc, leadingSpace, joinWords]
  | cons d cs =>
      cases hd : isBlank d with
      | true =>
          rw [words_cons_cons_of_blank hc hd]
          cases hws : words (d :: cs) with
          | nil =>
              simp [leadingSpace, hws, joinWords]
          | cons w ws =>
              rw [joinWords_cons [c] (List.cons_ne_nil w ws)]
              simp [leadingSpace, hd, hws]
      | false =>
          rw [words_cons_cons hc hd, joinWords_consWord]
          simp [leadingSpace, hd]

theorem words_cons_ne_nil
    {c : Char}
    (hc : isBlank c = false)
    (cs : List Char) :
    words (c :: cs) ≠ [] := by
  intro hnil
  have hjoined := joinWords_words_cons hc cs
  rw [hnil] at hjoined
  cases hjoined

/-- Collapsing leaves the words with single spaces between them, and perhaps one at each end. -/
theorem exists_collapse_eq
    (cs : List Char) :
    ∃ back, (∀ c ∈ back, isBlank c) ∧
      collapse cs = leadingSpace cs ++ (joinWords (words cs) ++ back) := by
  induction cs using collapse.induct with
  | case1 =>
      exact ⟨[], by simp, rfl⟩
  | case2 c hc =>
      refine ⟨[' '], by simp; rfl, ?_⟩
      simp [collapse, leadingSpace, words, hc, joinWords]
  | case3 c hc d rest hd ih =>
      obtain ⟨back, hback, heq⟩ := ih
      refine ⟨back, hback, ?_⟩
      have hlead : leadingSpace (c :: d :: rest) = leadingSpace (d :: rest) := by
        simp [leadingSpace, words_cons_of_blank hc, hc, hd]
      rw [collapse, if_pos hc, hlead, words_cons_of_blank hc, ← heq]
      exact if_pos hd
  | case4 c hc d rest hd ih =>
      obtain ⟨back, hback, heq⟩ := ih
      refine ⟨back, hback, ?_⟩
      have hd : isBlank d = false := Bool.eq_false_iff.mpr hd
      have hlead : leadingSpace (d :: rest) = [] := by
        simp [leadingSpace, hd]
      have hlead' : leadingSpace (c :: d :: rest) = [' '] := by
        simp [leadingSpace, words_cons_of_blank hc, hc, words_cons_ne_nil hd]
      rw [hlead] at heq
      rw [hlead', words_cons_of_blank hc, ← List.nil_append (joinWords _ ++ back), ← heq, collapse,
        if_pos hc]
      simp [hd]
  | case5 c rest hc ih =>
      obtain ⟨back, hback, heq⟩ := ih
      have hc : isBlank c = false := Bool.eq_false_iff.mpr hc
      have hlead : leadingSpace (c :: rest) = [] := by
        simp [leadingSpace, hc]
      have hcollapse : collapse (c :: rest) = c :: collapse rest := by
        rw [collapse.eq_def]
        simp [hc]
      refine ⟨back, hback, ?_⟩
      rw [hcollapse, heq, hlead, List.nil_append, joinWords_words_cons hc, List.cons_append,
        List.append_assoc]

/-- A normalized text is its words joined by single spaces. -/
theorem toList_normalize
    (s : String) :
    (normalize s).toList = joinWords (words s.toList) := by
  have hws : ∀ w ∈ words s.toList, IsWord w := fun w hw => isWord_of_mem_words hw
  obtain ⟨back, hback, heq⟩ := exists_collapse_eq s.toList
  rw [normalize, String.toList_ofList, trimBy_eq_iff]
  refine ⟨⟨leadingSpace s.toList, back, heq, ?_, hback⟩,
    isBlank_head_joinWords hws, isBlank_last_joinWords hws⟩
  intro c hc
  rw [leadingSpace] at hc
  split at hc
  · rw [List.mem_singleton.mp hc]
    rfl
  · cases hc

theorem words_normalize
    (s : String) :
    words (normalize s).toList = words s.toList := by
  rw [toList_normalize, words_joinWords fun w hw => isWord_of_mem_words hw]

/-- Texts are normalized to the same text exactly if they have the same words. -/
theorem normalize_eq_normalize_iff
    {s t : String} :
    normalize s = normalize t ↔ words s.toList = words t.toList := by
  constructor
  · intro heq
    rw [← words_normalize s, heq, words_normalize]
  · intro heq
    rw [← String.toList_inj, toList_normalize, toList_normalize, heq]

/-- A text without white space is normalized as it is. -/
theorem normalize_eq_self
    {s : String}
    (hs : ∀ c ∈ s.toList, isBlank c = false) :
    normalize s = s := by
  rw [← String.toList_inj, toList_normalize]
  rcases List.eq_nil_or_concat s.toList with hnil | ⟨front, c, hconcat⟩
  · rw [hnil]
    rfl
  · have hword : IsWord s.toList := ⟨by simp [hconcat], hs⟩
    rw [hword.words_eq]
    rfl

/-- How a text is normalized. -/
structure Normalization (s : String) : Prop where
  /-- The words are the pieces between white space that are not empty. -/
  words_eq : words s.toList = (s.toList.splitOnP isBlank).filter fun piece => !piece.isEmpty
  /-- They are joined by single spaces. -/
  joined : (normalize s).toList = [' '].intercalate (words s.toList)
  /-- There is no white space at the ends. -/
  head : ∀ c ∈ (normalize s).toList.head?, isBlank c = false
  last : ∀ c ∈ (normalize s).toList.getLast?, isBlank c = false
  /-- There is no white space but single spaces, and so no line feed. -/
  spaces : ∀ c ∈ (normalize s).toList, isBlank c → c = ' '
  single : (normalize s).toList.IsChain fun c d => isBlank c → isBlank d = false
  feedFree : FeedFree (normalize s)
  /-- All other characters are kept in order. -/
  kept : ((normalize s).toList.filter fun c => !isBlank c) = s.toList.filter fun c => !isBlank c
  /-- What is normalized stays as it is. -/
  again : normalize (normalize s) = normalize s

/-- Normalizing joins the words of a text by single spaces, and texts are normalized to the same
text exactly if they have the same words. -/
theorem normalize_joins_words :
    (∀ s, Normalization s) ∧
      ∀ s t, normalize s = normalize t ↔ words s.toList = words t.toList := by
  refine ⟨fun s => ?_, fun s t => normalize_eq_normalize_iff⟩
  have hws : ∀ w ∈ words s.toList, IsWord w := fun w hw => isWord_of_mem_words hw
  have heq := toList_normalize s
  constructor
  · exact words_eq s.toList
  · rw [heq, joinWords_eq]
  · rw [heq]
    exact isBlank_head_joinWords hws
  · rw [heq]
    exact isBlank_last_joinWords hws
  · rw [heq]
    exact fun c hc => eq_space_of_mem_joinWords hws hc
  · rw [heq]
    exact isChain_joinWords hws
  · exact feedFree_normalize s
  · rw [← flatten_words, words_normalize, flatten_words]
  · exact normalize_eq_normalize_iff.mpr (words_normalize s)

end Normalizing

section Widening

/-- A text in which spaces have been replaced by runs of white space. -/
inductive Widened : List Char → List Char → Prop
  | nil : Widened [] []
  | char {cs ds : List Char} (c : Char) :
    Widened cs ds → Widened (c :: cs) (c :: ds)
  | space {cs ds : List Char} {b : Char} {run : List Char} :
    isBlank b → (∀ c ∈ run, isBlank c) → Widened cs ds → Widened (' ' :: cs) (b :: run ++ ds)

/-- A text with white space around it, and with wider white space for the spaces in it. -/
def Spaced (s t : String) : Prop :=
  ∃ front body back, t.toList = front ++ (body ++ back) ∧
    (∀ c ∈ front, isBlank c) ∧ (∀ c ∈ back, isBlank c) ∧ Widened s.toList body

theorem Widened.refl :
    ∀ cs : List Char, Widened cs cs
  | [] => .nil
  | c :: cs => .char c (refl cs)

/-- Wider white space leaves the words as they are. -/
theorem Widened.words_eq
    {cs ds : List Char}
    (h : Widened cs ds) :
    words ds = words cs := by
  -- A word may have begun in front of the part that is looked at.
  have hbehind : ∀ front, words (front ++ ds) = words (front ++ cs) := by
    induction h with
    | nil =>
        exact fun _ => rfl
    | char c _ ih =>
        intro front
        have hrest := ih (front ++ [c])
        rwa [List.append_assoc, List.append_assoc] at hrest
    | space hb hrun _ ih =>
        intro front
        have hrest := ih []
        rw [List.nil_append, List.nil_append] at hrest
        rw [List.cons_append, words_append_cons hb, words_append_of_blank hrun,
          words_append_cons rfl, hrest]
  exact hbehind []

/-- White space behind a text has no words. -/
theorem words_append_blank
    {back : List Char}
    (hback : ∀ c ∈ back, isBlank c)
    (cs : List Char) :
    words (cs ++ back) = words cs := by
  cases back with
  | nil =>
      rw [List.append_nil]
  | cons c back =>
      rw [List.forall_mem_cons] at hback
      rw [words_append_cons hback.1, words_eq_nil hback.2, List.append_nil]

/-- White space around a text and wider white space in it make no difference to what it is
normalized to. -/
theorem Spaced.normalize_eq
    {s t : String}
    (h : Spaced s t) :
    normalize t = normalize s := by
  obtain ⟨front, body, back, heq, hfront, hback, hbody⟩ := h
  rw [normalize_eq_normalize_iff, heq, words_append_of_blank hfront, words_append_blank hback,
    hbody.words_eq]

end Widening

end Text
end ManagedSwitch
