import ManagedSwitch.Text.Split

/-!
# Cutting and joining

Cutting at a character is the library's cutting of lists, so that pieces without the character are
found again after they have been joined with it.  A beginning that has been put in front of a text
is taken off by `after?`.

Cutting once is cutting at the first place: `cutAt_eq_some_iff` says it of one character,
`cutAtText_eq_some_iff` of a separator of several.
-/

namespace ManagedSwitch
namespace Text

section Pieces

/-- Cutting at a character is the library's cutting of lists. -/
theorem splitOn_eq
    (sep : Char)
    (cs : List Char) :
    splitOn sep cs = cs.splitOn sep := by
  induction cs with
  | nil =>
      rfl
  | cons c cs ih =>
      rw [splitOn, List.splitOn_cons_eq_if_modifyHead, ih]
      by_cases h : c = sep
      · simp [h]
      · obtain ⟨p, ps, hps⟩ := List.exists_cons_of_ne_nil (List.splitOn_ne_nil sep cs)
        simp [h, hps, consWord]

/-- Joined pieces that do not contain the separator are found again. -/
theorem splitOn_intercalate
    {sep : Char}
    {pieces : List (List Char)}
    (hsep : ∀ p ∈ pieces, sep ∉ p)
    (hne : pieces ≠ []) :
    splitOn sep ([sep].intercalate pieces) = pieces := by
  rw [splitOn_eq]
  exact List.splitOn_intercalate sep hsep hne

/-- A separator ends a piece, whatever stands in front of it. -/
theorem splitOn_append_cons
    (sep : Char)
    (cs ds : List Char) :
    splitOn sep (cs ++ sep :: ds) = splitOn sep cs ++ splitOn sep ds := by
  induction cs with
  | nil =>
      simp [splitOn]
  | cons c cs ih =>
      have hne : splitOn sep cs ≠ [] := by
        rw [splitOn_eq]
        exact List.splitOn_ne_nil sep cs
      obtain ⟨p, ps, hps⟩ := List.exists_cons_of_ne_nil hne
      rw [List.cons_append, splitOn, splitOn, ih, hps]
      split
      · rfl
      · rfl

/-- What is joined is cut like its parts. -/
theorem splitOn_intercalate_eq_flatMap
    (sep : Char)
    {parts : List (List Char)}
    (hne : parts ≠ []) :
    splitOn sep ([sep].intercalate parts) = parts.flatMap (splitOn sep) := by
  induction parts with
  | nil =>
      exact absurd rfl hne
  | cons p parts ih =>
      cases parts with
      | nil =>
          simp
      | cons q parts =>
          have hrest := ih (List.cons_ne_nil q parts)
          rw [List.intercalate_cons_cons, List.append_assoc, List.cons_append, List.nil_append,
            splitOn_append_cons, hrest]
          rfl

/-- No piece contains the separator. -/
theorem not_mem_of_mem_splitOn
    {sep : Char}
    {cs p : List Char}
    (hp : p ∈ splitOn sep cs) :
    sep ∉ p := by
  induction cs generalizing p with
  | nil =>
      cases List.mem_singleton.mp hp
      exact List.not_mem_nil
  | cons c cs ih =>
      rw [splitOn] at hp
      split at hp
      · rcases List.mem_cons.mp hp with rfl | hp
        · exact List.not_mem_nil
        · exact ih hp
      · next hne =>
          have hcons : ∀ q, sep ∉ q → sep ∉ c :: q :=
            fun q hq hmem => (List.mem_cons.mp hmem).elim (fun heq => hne heq.symm) hq
          cases hpieces : splitOn sep cs with
          | nil =>
              rw [hpieces] at hp
              cases List.mem_singleton.mp hp
              exact hcons [] List.not_mem_nil
          | cons q qs =>
              rw [hpieces] at hp ih
              rcases List.mem_cons.mp hp with rfl | hp
              · exact hcons q (ih List.mem_cons_self)
              · exact ih (List.mem_cons_of_mem q hp)

/-- A sequence is cut at a character where the character stands for the first time. -/
theorem cutAt_eq_some_iff
    {sep : Char}
    {cs before after : List Char} :
    cutAt sep cs = some (before, after) ↔ cs = before ++ sep :: after ∧ sep ∉ before := by
  induction cs generalizing before with
  | nil =>
      simp [cutAt]
  | cons c cs ih =>
      rw [cutAt]
      split
      · next heq =>
          subst heq
          cases before with
          | nil =>
              simp
          | cons b before =>
              refine iff_of_false (by simp) ?_
              rintro ⟨hcs, hsep⟩
              exact hsep (List.mem_cons.mpr (Or.inl (List.cons.inj hcs).1))
      · next hne =>
          rw [Option.map_eq_some_iff]
          constructor
          · rintro ⟨⟨front, rest⟩, hcut, hparts⟩
            cases hparts
            obtain ⟨rfl, hsep⟩ := ih.mp hcut
            exact ⟨rfl, by simpa using ⟨Ne.symm hne, hsep⟩⟩
          · rintro ⟨hcs, hsep⟩
            cases before with
            | nil =>
                exact absurd (List.cons.inj hcs).1 hne
            | cons b before =>
                obtain ⟨rfl, hrest⟩ := List.cons.inj hcs
                rw [List.mem_cons, not_or] at hsep
                exact ⟨(before, after), ih.mpr ⟨hrest, hsep.2⟩, rfl⟩

end Pieces

section Beginnings

variable {α : Type} [BEq α] [LawfulBEq α]

/-- A beginning in front of a text is taken off. -/
@[simp] theorem after?_append
    (xs ys : List α) :
    after? xs (xs ++ ys) = some ys := by
  induction xs with
  | nil =>
      rfl
  | cons x xs ih =>
      simp [after?, ih]

/-- What follows a beginning, where the sequence has it. -/
theorem after?_eq_some_iff
    {xs ys rest : List α} :
    after? xs ys = some rest ↔ ys = xs ++ rest := by
  induction xs generalizing ys with
  | nil =>
      simp [after?]
  | cons x xs ih =>
      cases ys with
      | nil =>
          simp [after?]
      | cons y ys =>
          rw [after?, List.cons_append, List.cons_eq_cons]
          by_cases h : x = y
          · simp [h, ih]
          · simp [h, Ne.symm h]

/-- Nothing follows a beginning that the sequence does not have. -/
theorem after?_eq_none_iff
    {xs ys : List α} :
    after? xs ys = none ↔ ¬ xs <+: ys := by
  rw [Option.eq_none_iff_forall_ne_some, List.IsPrefix, not_exists]
  exact forall_congr' fun rest => not_congr (after?_eq_some_iff.trans eq_comm)

end Beginnings

section Lists

variable {α β γ : Type}

/-- What is written one by one is read one by one. -/
theorem mapM_map_eq_some
    {write : α → β}
    {read? : β → Option γ}
    {f : α → γ}
    {xs : List α}
    (h : ∀ x ∈ xs, read? (write x) = some (f x)) :
    (xs.map write).mapM read? = some (xs.map f) := by
  induction xs with
  | nil =>
      rfl
  | cons x xs ih =>
      rw [List.forall_mem_cons] at h
      rw [List.map_cons, List.mapM_cons, h.1, ih h.2]
      rfl

end Lists

section FirstPlaces

variable {α : Type}

/-- `before` and `after` stand on the two sides of the first place where a separator stands. -/
structure CutsFirst (sep xs before after : List α) : Prop where
  eq_append : xs = before ++ (sep ++ after)
  length_le : ∀ before' after', xs = before' ++ (sep ++ after') → before.length ≤ before'.length

/-- There is one first place. -/
theorem CutsFirst.unique
    {sep xs before after before' after' : List α}
    (h : CutsFirst sep xs before after)
    (h' : CutsFirst sep xs before' after') :
    before = before' ∧ after = after' := by
  have hlength : before.length = before'.length :=
    Nat.le_antisymm (h.length_le _ _ h'.eq_append) (h'.length_le _ _ h.eq_append)
  obtain ⟨hbefore, hafter⟩ := List.append_inj (h.eq_append.symm.trans h'.eq_append) hlength
  exact ⟨hbefore, List.append_cancel_left hafter⟩

variable [BEq α] [LawfulBEq α]

/-- A sequence that is not cut does not have the separator. -/
theorem cutAtText_eq_none_iff
    {sep xs : List α} :
    cutAtText sep xs = none ↔ ¬ sep <:+: xs := by
  induction xs with
  | nil =>
      simp [cutAtText]
  | cons x xs ih =>
      rw [cutAtText, List.infix_cons_iff, not_or, ← ih, ← after?_eq_none_iff]
      cases after? sep (x :: xs) <;> simp

/-- A sequence is cut at the first place where the separator stands. -/
theorem cutsFirst_of_cutAtText
    {sep xs before after : List α}
    (hcut : cutAtText sep xs = some (before, after)) :
    CutsFirst sep xs before after := by
  induction xs generalizing before with
  | nil =>
      rw [cutAtText] at hcut
      split at hcut
      · next hsep =>
          cases hcut
          exact ⟨by rw [List.isEmpty_iff.mp hsep]; rfl, fun _ _ _ => Nat.zero_le _⟩
      · cases hcut
  | cons x xs ih =>
      rw [cutAtText] at hcut
      cases hafter : after? sep (x :: xs) with
      | some rest =>
          have hxs : x :: xs = sep ++ rest := after?_eq_some_iff.mp hafter
          rw [hafter] at hcut
          cases hcut
          exact ⟨hxs, fun _ _ _ => Nat.zero_le _⟩
      | none =>
          rw [hafter, Option.map_eq_some_iff] at hcut
          obtain ⟨⟨front, rest⟩, hcut, hparts⟩ := hcut
          cases hparts
          obtain ⟨heq, hfirst⟩ := ih hcut
          refine ⟨by rw [heq]; rfl, fun before' after' heq' => ?_⟩
          cases before' with
          | nil =>
              exact absurd ⟨after', heq'.symm⟩ (after?_eq_none_iff.mp hafter)
          | cons y before' =>
              exact Nat.succ_le_succ (hfirst before' after' (List.cons.inj heq').2)

theorem cutAtText_eq_some_iff
    {sep xs before after : List α} :
    cutAtText sep xs = some (before, after) ↔ CutsFirst sep xs before after := by
  refine ⟨cutsFirst_of_cutAtText, fun h => ?_⟩
  cases hcut : cutAtText sep xs with
  | none =>
      refine absurd ⟨before, after, ?_⟩ (cutAtText_eq_none_iff.mp hcut)
      rw [h.eq_append, List.append_assoc]
  | some parts =>
      obtain ⟨rfl, rfl⟩ := h.unique (cutsFirst_of_cutAtText hcut)
      rfl

/-- A separator is found where its first element stands for the first time. -/
theorem cutAtText_of_not_mem
    {x : α}
    {sep before : List α}
    (hmem : x ∉ before)
    (after : List α) :
    cutAtText (x :: sep) (before ++ (x :: sep ++ after)) = some (before, after) := by
  refine cutAtText_eq_some_iff.mpr ⟨rfl, fun before' after' heq => ?_⟩
  rcases List.append_eq_append_iff.mp heq with ⟨more, rfl, -⟩ | ⟨more, hbefore, hrest⟩
  · simp
  · cases more with
    | nil =>
        simp [hbefore]
    | cons y more =>
        have hy : x = y := (List.cons.inj hrest).1
        exact absurd (by simp [hbefore, hy]) hmem
end FirstPlaces

end Text
end ManagedSwitch
