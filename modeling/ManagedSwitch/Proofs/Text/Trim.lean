import Mathlib.Data.List.DropRight
import ManagedSwitch.Text.Blank

/-!
# Trimmed texts

What is left of a sequence without the elements of a class at its two ends is `Trimmed`.  Every
sequence has one such part (`Trimmed.unique`), it is what `trimBy` gives (`trimBy_eq_iff`), and it
goes along when the elements are renamed one by one.
-/

namespace ManagedSwitch
namespace Text

section Trimmed

variable {α β : Type}

/-- `inner` is the part of a sequence between the elements of a class at its two ends. -/
structure Trimmed (p : α → Bool) (xs inner : List α) : Prop where
  ends : ∃ front back, xs = front ++ (inner ++ back) ∧
    (∀ x ∈ front, p x = true) ∧ ∀ x ∈ back, p x = true
  head : ∀ x ∈ inner.head?, p x = false
  last : ∀ x ∈ inner.getLast?, p x = false

variable {p : α → Bool}

/-- Nothing is dropped in front of an element outside the class. -/
theorem dropWhile_eq_self
    {xs : List α}
    (h : ∀ x ∈ xs.head?, p x = false) :
    xs.dropWhile p = xs := by
  cases xs with
  | nil =>
      rfl
  | cons x xs =>
      rw [List.dropWhile_cons_of_neg]
      simp [h x rfl]

/-- Dropping at both ends gives the trimmed part. -/
theorem Trimmed.rdropWhile_dropWhile
    {xs inner : List α}
    (h : Trimmed p xs inner) :
    (xs.dropWhile p).rdropWhile p = inner := by
  obtain ⟨front, back, rfl, hfront, hback⟩ := h.ends
  rw [List.dropWhile_append_of_pos hfront]
  cases inner with
  | nil =>
      rw [List.nil_append, List.dropWhile_eq_nil_iff.mpr hback]
      rfl
  | cons x inner =>
      have hhead : (x :: inner ++ back).dropWhile p = x :: inner ++ back :=
        dropWhile_eq_self h.head
      have hlast : ∀ y ∈ (x :: inner).reverse.head?, p y = false := by
        rw [List.head?_reverse]
        exact h.last
      have hback' : ∀ y ∈ back.reverse, p y = true :=
        fun y hy => hback y (List.mem_reverse.mp hy)
      rw [hhead, List.rdropWhile, List.reverse_append, List.dropWhile_append_of_pos hback',
        dropWhile_eq_self hlast, List.reverse_reverse]

/-- A sequence has one trimmed part. -/
theorem Trimmed.unique
    {xs inner inner' : List α}
    (h : Trimmed p xs inner)
    (h' : Trimmed p xs inner') :
    inner = inner' :=
  h.rdropWhile_dropWhile.symm.trans h'.rdropWhile_dropWhile

/-- Dropping at both ends trims. -/
theorem trimmed_rdropWhile_dropWhile
    (p : α → Bool)
    (xs : List α) :
    Trimmed p xs ((xs.dropWhile p).rdropWhile p) := by
  have hback : (xs.dropWhile p).rdropWhile p ++ (xs.dropWhile p).rtakeWhile p = xs.dropWhile p :=
    List.rdropWhile_append_rtakeWhile
  have hfront : xs.takeWhile p ++ xs.dropWhile p = xs :=
    List.takeWhile_append_dropWhile
  refine ⟨⟨xs.takeWhile p, (xs.dropWhile p).rtakeWhile p, ?_, ?_, ?_⟩, ?_, ?_⟩
  · rw [hback, hfront]
  · exact fun x hx => List.mem_takeWhile_imp hx
  · exact fun x hx => List.mem_rtakeWhile_imp hx
  · intro x hx
    obtain ⟨back, hinner⟩ := List.rdropWhile_prefix p (xs.dropWhile p)
    have hhead : x ∈ (xs.dropWhile p).head? := by
      rw [← hinner, List.head?_append, hx]
      rfl
    have := List.head?_dropWhile_not p xs
    rw [hhead] at this
    exact this
  · intro x hx
    rw [List.rdropWhile, List.getLast?_reverse] at hx
    have := List.head?_dropWhile_not p (xs.dropWhile p).reverse
    rw [hx] at this
    exact this

/-- Further elements of the class at the front are trimmed off, too. -/
theorem Trimmed.append_left
    {more xs inner : List α}
    (hmore : ∀ x ∈ more, p x = true)
    (h : Trimmed p xs inner) :
    Trimmed p (more ++ xs) inner := by
  obtain ⟨front, back, rfl, hfront, hback⟩ := h.ends
  refine ⟨⟨more ++ front, back, by rw [List.append_assoc], ?_, hback⟩, h.head, h.last⟩
  exact List.forall_mem_append.mpr ⟨hmore, hfront⟩

theorem trimBy_eq_iff
    {p : Char → Bool}
    {cs inner : List Char} :
    trimBy p cs = inner ↔ Trimmed p cs inner := by
  constructor
  · rintro rfl
    exact trimmed_rdropWhile_dropWhile p cs
  · intro h
    exact h.rdropWhile_dropWhile

/-- The trimmed part of a sequence whose elements have been renamed one by one. -/
theorem Trimmed.map
    {f : α → β}
    {q : β → Bool}
    {xs inner : List α}
    (h : Trimmed (fun x => q (f x)) xs inner) :
    Trimmed q (xs.map f) (inner.map f) := by
  obtain ⟨front, back, rfl, hfront, hback⟩ := h.ends
  refine ⟨⟨front.map f, back.map f, by simp, ?_, ?_⟩, ?_, ?_⟩
  · simpa using hfront
  · simpa using hback
  · simpa using h.head
  · simpa using h.last

end Trimmed

end Text
end ManagedSwitch
