import Mathlib.Data.List.Basic
import Mathlib.Logic.Function.Basic
import ManagedSwitch.Proofs.Table

/-!
# Writing to functions

Values are written to a function at one place after the other.  As long as no place is written
twice, the result has every written value at its place and is unchanged elsewhere, and writing the
same values again makes no difference.

The places may be the positions of a list of which some elements have a value; then what is written
at a position is the value of the element that stands there.
-/

namespace ManagedSwitch

section Overwriting

variable {κ α : Type} [DecidableEq κ]

/-- A function with the values of a list in place of its own. -/
def overwrite
    (f : κ → α)
    (writes : List (κ × α)) :
    κ → α :=
  fun k => (writes.lookup k).getD (f k)

/-- The first of several writes to distinct places may be done first. -/
theorem overwrite_cons
    (f : κ → α)
    {w : κ × α}
    {writes : List (κ × α)}
    (hnew : w.1 ∉ writes.map Prod.fst) :
    overwrite f (w :: writes) = overwrite (Function.update f w.1 w.2) writes := by
  funext k
  simp only [overwrite]
  by_cases hk : k = w.1
  · subst hk
    rw [List.lookup_cons_self, lookup_eq_none_of_not_mem hnew]
    simp
  · rw [List.lookup_cons, beq_false_of_ne hk, Function.update_of_ne hk]

/-- Writing the same values again makes no difference. -/
theorem overwrite_overwrite
    (f : κ → α)
    (writes : List (κ × α)) :
    overwrite (overwrite f writes) writes = overwrite f writes := by
  funext k
  simp only [overwrite]
  cases writes.lookup k <;> rfl

theorem overwrite_of_mem
    (f : κ → α)
    {writes : List (κ × α)}
    (hnodup : (writes.map Prod.fst).Nodup)
    {k : κ}
    {v : α}
    (hmem : (k, v) ∈ writes) :
    overwrite f writes k = v := by
  rw [overwrite, lookup_eq_some_of_mem hnodup hmem, Option.getD_some]

theorem overwrite_of_not_mem
    (f : κ → α)
    {writes : List (κ × α)}
    {k : κ}
    (hmem : k ∉ writes.map Prod.fst) :
    overwrite f writes k = f k := by
  rw [overwrite, lookup_eq_none_of_not_mem hmem, Option.getD_none]

end Overwriting

section Positions

variable {α β : Type}

/-- The values that some elements of a list have, with the positions of these elements. -/
def positioned
    (f : α → Option β)
    (start : Nat)
    (xs : List α) :
    List (Nat × β) :=
  (xs.zipIdx start).filterMap fun x => (f x.1).map fun v => (x.2, v)

theorem positioned_cons
    (f : α → Option β)
    (start : Nat)
    (x : α)
    (xs : List α) :
    positioned f start (x :: xs) =
      ((f x).map fun v => (start, v)).toList ++ positioned f (start + 1) xs := by
  rw [positioned, List.zipIdx_cons, List.filterMap_cons]
  cases f x <;> rfl

theorem le_of_mem_positioned
    {f : α → Option β}
    {start : Nat}
    {xs : List α}
    {w : Nat × β}
    (hw : w ∈ positioned f start xs) :
    start ≤ w.1 := by
  obtain ⟨x, hx, hfx⟩ := List.mem_filterMap.mp hw
  obtain ⟨v, _, rfl⟩ := Option.map_eq_some_iff.mp hfx
  exact List.le_snd_of_mem_zipIdx hx

/-- The values stand at the positions of their elements. -/
theorem mem_positioned_iff
    {f : α → Option β}
    {xs : List α}
    {w : Nat × β} :
    w ∈ positioned f 0 xs ↔ xs[w.1]?.bind f = some w.2 := by
  simp only [positioned, List.mem_filterMap, List.mem_zipIdx_iff_getElem?,
    Option.bind_eq_some_iff, Option.map_eq_some_iff]
  constructor
  · rintro ⟨x, hx, v, hv, rfl⟩
    exact ⟨x.1, hx, hv⟩
  · rintro ⟨x, hx, hv⟩
    exact ⟨(x, w.1), hx, w.2, hv, rfl⟩

theorem positioned_congr
    {f g : α → Option β}
    {xs : List α}
    (h : ∀ x ∈ xs, f x = g x)
    (start : Nat) :
    positioned f start xs = positioned g start xs := by
  refine List.filterMap_congr fun x hx => ?_
  rw [h x.1 (List.fst_mem_of_mem_zipIdx hx)]

/-- The values of elements that were made one by one from those of another list. -/
theorem positioned_map
    {γ : Type}
    (f : β → Option γ)
    (g : α → β)
    (start : Nat)
    (xs : List α) :
    positioned f start (xs.map g) = positioned (fun x => f (g x)) start xs := by
  rw [positioned, List.zipIdx_map, List.filterMap_map]
  rfl

/-- Leaving out values leaves the positions of the others as they are. -/
theorem positioned_filter
    (f : α → Option β)
    (p : β → Bool)
    (start : Nat)
    (xs : List α) :
    positioned (fun x => (f x).filter p) start xs =
      (positioned f start xs).filter fun w => p w.2 := by
  induction xs generalizing start with
  | nil =>
      rfl
  | cons x xs ih =>
      rw [positioned_cons, positioned_cons, ih, List.filter_append]
      cases f x with
      | none =>
          rfl
      | some v =>
          cases hv : p v <;> simp [Option.filter, hv]

/-- The positions increase. -/
theorem positioned_pairwise_lt
    (f : α → Option β)
    (start : Nat)
    (xs : List α) :
    ((positioned f start xs).map Prod.fst).Pairwise (· < ·) := by
  induction xs generalizing start with
  | nil =>
      exact List.Pairwise.nil
  | cons x xs ih =>
      rw [positioned_cons]
      cases f x with
      | none =>
          exact ih (start + 1)
      | some v =>
          refine List.Pairwise.cons ?_ (ih (start + 1))
          intro i hi
          obtain ⟨w, hw, rfl⟩ := List.mem_map.mp hi
          exact le_of_mem_positioned hw

theorem positioned_nodup
    (f : α → Option β)
    (start : Nat)
    (xs : List α) :
    ((positioned f start xs).map Prod.fst).Nodup :=
  (positioned_pairwise_lt f start xs).imp fun h => Nat.ne_of_lt h

/-- What stands at a position is the value of the element there. -/
theorem lookup_positioned
    (f : α → Option β)
    (start : Nat)
    (xs : List α)
    (i : Nat) :
    (positioned f start xs).lookup (start + i) = xs[i]?.bind f := by
  induction xs generalizing start i with
  | nil =>
      rfl
  | cons x xs ih =>
      rw [positioned_cons]
      cases i with
      | zero =>
          have hlater : (positioned f (start + 1) xs).lookup start = none := by
            refine lookup_eq_none_of_not_mem ?_
            intro hmem
            obtain ⟨w, hw, heq⟩ := List.mem_map.mp hmem
            have hle := le_of_mem_positioned hw
            omega
          cases hx : f x <;> simp [hx, hlater]
      | succ i =>
          have hskip : start + (i + 1) = start + 1 + i := by omega
          have hne : (start + 1 + i == start) = false := beq_false_of_ne (by omega)
          rw [hskip, List.getElem?_cons_succ, ← ih (start + 1) i]
          cases f x <;> simp [List.lookup_cons, hne]

/-- Positions with all elements of a list. -/
theorem lookup_zipIdx_swap
    (xs : List α)
    (i : Nat) :
    (xs.zipIdx.map Prod.swap).lookup i = xs[i]? := by
  have h := lookup_positioned some 0 xs i
  rw [Nat.zero_add, Option.bind_fun_some] at h
  rw [← h, positioned, ← List.filterMap_eq_map]
  rfl

end Positions

end ManagedSwitch
