import ManagedSwitch.Document.Basic

/-!
# Documents without a text

A document has no quoted text exactly if an integer with too many digits stands somewhere in it, as
an item, as a key or as a value at any depth.  Its plain text is missing under the same condition.
-/

namespace ManagedSwitch
namespace Document

section Definition

/-- An integer with too many digits stands somewhere in the document. -/
inductive Long : Document → Prop
  | int {i : Int} : Number.tooLong ≤ i.natAbs → Long (.int i)
  | item {d : Document} {items : List Document} : d ∈ items → Long d → Long (.list items)
  | first {a b : Document} : Long a → Long (.pair a b)
  | second {a b : Document} : Long b → Long (.pair a b)
  | element {d : Document} {items : List Document} : d ∈ items → Long d → Long (.set items)
  | key {e : Document × Document} {entries : List (Document × Document)} :
      e ∈ entries → Long e.1 → Long (.map entries)
  | value {e : Document × Document} {entries : List (Document × Document)} :
      e ∈ entries → Long e.2 → Long (.map entries)

end Definition

section Parts

theorem long_int_iff
    {i : Int} :
    Long (.int i) ↔ Number.text? i = none := by
  have htext : Number.text? i = none ↔ Number.tooLong ≤ i.natAbs := by
    rw [Number.text?, ite_eq_right_iff]
    constructor
    · intro h
      exact Nat.le_of_not_lt fun hlt => nomatch h hlt
    · intro hle hlt
      exact absurd hlt (Nat.not_lt_of_le hle)
  rw [htext]
  constructor
  · rintro ⟨h⟩
    exact h
  · exact Long.int

theorem long_list_iff
    {items : List Document} :
    Long (.list items) ↔ ∃ d ∈ items, Long d := by
  constructor
  · rintro ⟨⟩
    exact ⟨_, ‹_›, ‹_›⟩
  · rintro ⟨d, hd, hlong⟩
    exact Long.item hd hlong

theorem long_pair_iff
    {a b : Document} :
    Long (.pair a b) ↔ Long a ∨ Long b := by
  constructor
  · rintro ⟨⟩
    · exact Or.inl ‹_›
    · exact Or.inr ‹_›
  · rintro (h | h)
    · exact Long.first h
    · exact Long.second h

theorem long_set_iff
    {items : List Document} :
    Long (.set items) ↔ ∃ d ∈ items, Long d := by
  constructor
  · rintro ⟨⟩
    exact ⟨_, ‹_›, ‹_›⟩
  · rintro ⟨d, hd, hlong⟩
    exact Long.element hd hlong

theorem long_map_iff
    {entries : List (Document × Document)} :
    Long (.map entries) ↔ ∃ e ∈ entries, Long e.1 ∨ Long e.2 := by
  constructor
  · rintro ⟨⟩
    · exact ⟨_, ‹_›, Or.inl ‹_›⟩
    · exact ⟨_, ‹_›, Or.inr ‹_›⟩
  · rintro ⟨e, he, h | h⟩
    · exact Long.key he h
    · exact Long.value he h

/-- A mapping with a field that is too long is too long itself. -/
theorem Long.field
    {entries : List (Document × Document)}
    {name : String}
    {d : Document}
    (hfield : field? entries name = some d)
    (hlong : d.Long) :
    Long (.map entries) := by
  obtain ⟨e, he, rfl⟩ := Option.map_eq_some_iff.mp hfield
  exact Long.value (List.mem_of_find?_eq_some he) hlong

end Parts

section Texts

mutual

/-- There is no quoted text exactly for documents with an integer that is too long. -/
theorem quoted?_eq_none_iff :
    ∀ d : Document, d.quoted? = none ↔ d.Long
  | .null | .bool _ | .float _ | .text _ | .bytes _ | .date _ | .moment _ => by
      constructor
      · intro h
        rw [quoted?] at h
        exact nomatch h
      · intro h
        exact nomatch h
  | .int i => by
      rw [quoted?, long_int_iff]
  | .list items => by
      rw [quoted?, long_list_iff, Option.map_eq_none_iff]
      exact quotedItems?_eq_none_iff items
  | .pair a b => by
      have ha := quoted?_eq_none_iff a
      have hb := quoted?_eq_none_iff b
      rw [quoted?, long_pair_iff, ← ha, ← hb]
      cases quoted? a <;> cases quoted? b <;> simp
  | .set items => by
      rw [quoted?, long_set_iff, ← quotedItems?_eq_none_iff items]
      split
      · next hempty =>
          rw [List.isEmpty_iff] at hempty
          subst hempty
          simp [quotedItems?]
      · exact Option.map_eq_none_iff
  | .map entries => by
      rw [quoted?, long_map_iff, Option.map_eq_none_iff]
      exact quotedEntries?_eq_none_iff entries

theorem quotedItems?_eq_none_iff :
    ∀ items : List Document, quotedItems? items = none ↔ ∃ d ∈ items, Long d
  | [] => by
      simp [quotedItems?]
  | d :: rest => by
      have hd := quoted?_eq_none_iff d
      have hrest := quotedItems?_eq_none_iff rest
      simp only [List.mem_cons, exists_eq_or_imp]
      rw [← hd, ← hrest, quotedItems?]
      cases quoted? d <;> cases quotedItems? rest <;> simp

theorem quotedEntries?_eq_none_iff :
    ∀ entries : List (Document × Document),
      quotedEntries? entries = none ↔ ∃ e ∈ entries, Long e.1 ∨ Long e.2
  | [] => by
      simp [quotedEntries?]
  | (k, v) :: rest => by
      have hk := quoted?_eq_none_iff k
      have hv := quoted?_eq_none_iff v
      have hrest := quotedEntries?_eq_none_iff rest
      simp only [List.mem_cons, exists_eq_or_imp]
      rw [← hk, ← hv, ← hrest, quotedEntries?]
      cases quoted? k <;> cases quoted? v <;> cases quotedEntries? rest <;> simp

end

/-- The plain text is missing under the same condition as the quoted one. -/
theorem text?_eq_none_iff
    (d : Document) :
    d.text? = none ↔ d.Long := by
  rw [text?.eq_def]
  split
  · exact ⟨fun h => (nomatch h), fun h => (nomatch h)⟩
  · exact ⟨fun h => (nomatch h), fun h => (nomatch h)⟩
  · exact ⟨fun h => (nomatch h), fun h => (nomatch h)⟩
  · exact quoted?_eq_none_iff d

end Texts

end Document
end ManagedSwitch
