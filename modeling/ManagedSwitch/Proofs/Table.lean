import Mathlib.Data.List.Induction
import Mathlib.Data.List.Perm.Subperm
import ManagedSwitch.Table

/-!
# Looking up in tables

The keys of a table are distinct, so that its entries and its look-ups say the same.  A table made
from a list has every key where it first arrived, with the value that arrived last (`keys_ofList`,
`mem_entries_ofList_iff`); so it has all entries of the list exactly if their keys are distinct.
-/

namespace ManagedSwitch

section Lookup

variable {κ α : Type} [DecidableEq κ]

/-- In a list with distinct keys, an entry is found under its key. -/
theorem lookup_eq_some_of_mem
    {es : List (κ × α)}
    (hnodup : (es.map Prod.fst).Nodup)
    {k : κ}
    {v : α}
    (hmem : (k, v) ∈ es) :
    es.lookup k = some v := by
  induction es with
  | nil =>
      exact absurd hmem List.not_mem_nil
  | cons e es ih =>
      rw [List.map_cons, List.nodup_cons] at hnodup
      rcases List.mem_cons.mp hmem with rfl | hmem
      · exact List.lookup_cons_self
      · have hne : k ≠ e.1 := by
          rintro rfl
          exact hnodup.1 (List.mem_map.mpr ⟨(e.1, v), hmem, rfl⟩)
        rw [List.lookup_cons, beq_false_of_ne hne]
        exact ih hnodup.2 hmem

/-- Nothing is found under a key that no entry has. -/
theorem lookup_eq_none_of_not_mem
    {es : List (κ × α)}
    {k : κ}
    (hmem : k ∉ es.map Prod.fst) :
    es.lookup k = none := by
  rw [List.lookup_eq_none_iff]
  intro e he
  have hne : k ≠ e.1 := by
    rintro rfl
    exact hmem (List.mem_map_of_mem he)
  simpa using hne

/-- In a list with distinct keys, at most one entry has a key, namely the one that is found. -/
theorem filter_fst_eq
    {es : List (κ × α)}
    (hnodup : (es.map Prod.fst).Nodup)
    (k : κ) :
    (es.filter fun e => e.1 = k) = (es.lookup k).toList.map fun v => (k, v) := by
  induction es with
  | nil =>
      rfl
  | cons e es ih =>
      rw [List.map_cons, List.nodup_cons] at hnodup
      rw [List.lookup_cons, List.filter_cons, ih hnodup.2]
      by_cases hk : e.1 = k
      · subst hk
        simp [lookup_eq_none_of_not_mem hnodup.1]
      · simp [hk, beq_false_of_ne (Ne.symm hk)]

namespace Table

theorem get?_eq_some_of_mem
    {t : Table κ α}
    {k : κ}
    {v : α}
    (hmem : (k, v) ∈ t.entries) :
    t.get? k = some v :=
  lookup_eq_some_of_mem t.distinct hmem

theorem get?_eq_none_of_not_mem
    {t : Table κ α}
    {k : κ}
    (hmem : k ∉ t.keys) :
    t.get? k = none :=
  lookup_eq_none_of_not_mem hmem

end Table

end Lookup

namespace Table

section Put

variable {κ α : Type}

/-- Tables with the same entries are equal. -/
theorem entries_inj
    {t u : Table κ α} :
    t.entries = u.entries ↔ t = u := by
  cases t
  cases u
  simp

variable [DecidableEq κ]

theorem contains_iff
    {t : Table κ α}
    {k : κ} :
    t.contains k ↔ k ∈ t.keys :=
  List.contains_iff_mem

/-- A key is present exactly if something is found under it. -/
theorem contains_eq_isSome_get?
    (t : Table κ α)
    (k : κ) :
    t.contains k = (t.get? k).isSome := by
  by_cases hmem : k ∈ t.keys
  · obtain ⟨e, he, rfl⟩ := List.mem_map.mp hmem
    rw [contains_iff.mpr hmem, get?_eq_some_of_mem he]
    rfl
  · rw [get?_eq_none_of_not_mem hmem, Option.isSome_none, ← Bool.not_eq_true, contains_iff]
    exact hmem

/-- A new key is written behind the others. -/
theorem entries_put_of_not_mem
    {t : Table κ α}
    {k : κ}
    {v : α}
    (hmem : k ∉ t.keys) :
    (t.put k v).entries = t.entries ++ [(k, v)] := by
  rw [keys] at hmem
  rw [put, dif_neg hmem]

theorem mem_replaceAt
    {k : κ}
    {v : α}
    {es : List (κ × α)}
    {e : κ × α}
    (he : e ∈ replaceAt k v es) :
    e ∈ es ∨ e = (k, v) := by
  induction es with
  | nil =>
      exact Or.inl he
  | cons f es ih =>
      rw [replaceAt] at he
      split at he
      · next hkey =>
          rcases List.mem_cons.mp he with rfl | he
          · exact Or.inr (by rw [hkey])
          · exact Or.inl (List.mem_cons_of_mem f he)
      · rcases List.mem_cons.mp he with rfl | he
        · exact Or.inl List.mem_cons_self
        · exact (ih he).imp (List.mem_cons_of_mem f) id

/-- After writing, there are old entries and the one that was written. -/
theorem mem_entries_put
    {t : Table κ α}
    {k : κ}
    {v : α}
    {e : κ × α}
    (he : e ∈ (t.put k v).entries) :
    e ∈ t.entries ∨ e = (k, v) := by
  rw [put] at he
  split at he
  · exact mem_replaceAt he
  · exact (List.mem_append.mp he).imp id List.mem_singleton.mp

/-- The entries of a table made from a list are entries of the list. -/
theorem mem_entries_ofList
    {es : List (κ × α)}
    {e : κ × α}
    (he : e ∈ (ofList es).entries) :
    e ∈ es := by
  have hfold :
      ∀ (fs : List (κ × α)) (t : Table κ α),
        e ∈ (fs.foldl (fun t e => t.put e.1 e.2) t).entries → e ∈ t.entries ∨ e ∈ fs := by
    intro fs
    induction fs with
    | nil =>
        exact fun t ht => Or.inl ht
    | cons f fs ih =>
        intro t ht
        rcases ih (t.put f.1 f.2) ht with hput | hrest
        · rcases mem_entries_put hput with hold | rfl
          · exact Or.inl hold
          · exact Or.inr List.mem_cons_self
        · exact Or.inr (List.mem_cons_of_mem f hrest)
  exact (hfold es empty he).resolve_left List.not_mem_nil

/-- A list with distinct keys is the list of entries of its table. -/
theorem entries_ofList
    {es : List (κ × α)}
    (hnodup : (es.map Prod.fst).Nodup) :
    (ofList es).entries = es := by
  have hfold :
      ∀ (fs : List (κ × α)) (t : Table κ α), ((t.entries ++ fs).map Prod.fst).Nodup →
        (fs.foldl (fun t e => t.put e.1 e.2) t).entries = t.entries ++ fs := by
    intro fs
    induction fs with
    | nil =>
        exact fun t _ => (List.append_nil t.entries).symm
    | cons f fs ih =>
        intro t ht
        rw [List.append_cons] at ht
        have hnew : f.1 ∉ t.keys := by
          rw [List.map_append, List.map_append] at ht
          have hfront := ht.sublist (List.sublist_append_left _ _)
          exact fun hold => (List.nodup_append.mp hfront).2.2 _ hold _ List.mem_cons_self rfl
        rw [← entries_put_of_not_mem hnew] at ht
        rw [List.foldl_cons, ih _ ht, entries_put_of_not_mem hnew, ← List.append_cons]
  exact hfold es empty hnodup

end Put

section LastValues

variable {κ α : Type}

/-- The last of the entries with its key. -/
def IsLast
    (es : List (κ × α))
    (e : κ × α) :
    Prop :=
  ∃ before after, es = before ++ e :: after ∧ e.1 ∉ after.map Prod.fst

theorem not_isLast_nil
    {e : κ × α} :
    ¬ IsLast [] e := by
  rintro ⟨before, after, heq, -⟩
  exact absurd heq (by simp)

/-- Behind a further entry, this entry is the last with its key, and the others stay. -/
theorem isLast_concat_iff
    {es : List (κ × α)}
    {f e : κ × α} :
    IsLast (es ++ [f]) e ↔ e = f ∨ e.1 ≠ f.1 ∧ IsLast es e := by
  constructor
  · rintro ⟨before, after, heq, hafter⟩
    rcases List.eq_nil_or_concat' after with rfl | ⟨after, g, rfl⟩
    · exact Or.inl (List.singleton_inj.mp (List.append_inj_right' heq rfl)).symm
    · rw [← List.cons_append, ← List.append_assoc] at heq
      obtain ⟨rfl, hlast⟩ := List.append_inj' heq rfl
      cases hlast
      rw [List.map_append, List.mem_append, not_or] at hafter
      refine Or.inr ⟨fun hkey => hafter.2 ?_, before, after, rfl, hafter.1⟩
      exact hkey ▸ List.mem_singleton_self e.1
  · rintro (rfl | ⟨hkey, before, after, rfl, hafter⟩)
    · exact ⟨es, [], rfl, List.not_mem_nil⟩
    · refine ⟨before, after ++ [f], by simp, ?_⟩
      simpa using ⟨by simpa using hafter, hkey⟩

/-- The last entry with a key stands at the last position with this key. -/
theorem exists_getElem?_of_isLast
    {es : List (κ × α)}
    {e : κ × α}
    (h : IsLast es e) :
    ∃ j : Nat, es[j]? = some e ∧ ∀ k, j < k → (es.map Prod.fst)[k]? ≠ some e.1 := by
  obtain ⟨before, after, rfl, hafter⟩ := h
  refine ⟨before.length, by simp, fun k hk hkey => hafter ?_⟩
  obtain ⟨d, rfl⟩ := Nat.exists_eq_add_of_lt hk
  have hbehind : (after.map Prod.fst)[d]? = some e.1 := by
    simpa [List.getElem?_append_right, Nat.add_assoc] using hkey
  exact List.mem_of_getElem? hbehind

/-- The last entry with a key, told by what the entries were made from. -/
theorem isLast_filterMap_iff
    {ι : Type}
    {f : ι → Option (κ × α)}
    {xs : List ι}
    {e : κ × α} :
    IsLast (xs.filterMap f) e ↔
      ∃ before x after, xs = before ++ x :: after ∧ f x = some e ∧
        ∀ y ∈ after, ∀ v, f y ≠ some (e.1, v) := by
  constructor
  · rintro ⟨front, back, heq, hback⟩
    obtain ⟨before, rest, rfl, -, hrest⟩ := List.filterMap_eq_append_iff.mp heq
    obtain ⟨skipped, x, after, rfl, -, hx, rfl⟩ := List.filterMap_eq_cons_iff.mp hrest
    refine ⟨before ++ skipped, x, after, by simp, hx, fun y hy v hv => hback ?_⟩
    exact List.mem_map.mpr ⟨(e.1, v), List.mem_filterMap.mpr ⟨y, hy, hv⟩, rfl⟩
  · rintro ⟨before, x, after, rfl, hx, hafter⟩
    refine ⟨before.filterMap f, after.filterMap f, by simp [hx], fun hmem => ?_⟩
    obtain ⟨⟨k, v⟩, hv, rfl⟩ := List.mem_map.mp hmem
    obtain ⟨y, hy, hfy⟩ := List.mem_filterMap.mp hv
    exact hafter y hy v hfy
variable [DecidableEq κ]

theorem get?_eq_some_iff
    {t : Table κ α}
    {k : κ}
    {v : α} :
    t.get? k = some v ↔ (k, v) ∈ t.entries := by
  refine ⟨fun hget => ?_, get?_eq_some_of_mem⟩
  obtain ⟨before, after, hentries, -⟩ := List.lookup_eq_some_iff.mp hget
  rw [hentries]
  exact List.mem_append_right _ List.mem_cons_self

/-- The order of the entries makes no difference to what is found. -/
theorem get?_eq_of_perm
    {t u : Table κ α}
    (h : t.entries.Perm u.entries)
    (k : κ) :
    t.get? k = u.get? k := by
  refine Option.ext fun v => ?_
  rw [get?_eq_some_iff, get?_eq_some_iff, h.mem_iff]

theorem lookup_replaceAt
    {k : κ}
    (v : α)
    {es : List (κ × α)}
    (hmem : k ∈ es.map Prod.fst)
    (j : κ) :
    (replaceAt k v es).lookup j = if j = k then some v else es.lookup j := by
  induction es with
  | nil =>
      exact absurd hmem List.not_mem_nil
  | cons e es ih =>
      obtain ⟨i, a⟩ := e
      rw [replaceAt, List.lookup_cons]
      by_cases hik : i = k
      · subst hik
        rw [if_pos rfl, List.lookup_cons]
        by_cases hj : j = i
        · simp [hj]
        · rw [beq_false_of_ne hj, if_neg hj]
      · have hrest : k ∈ es.map Prod.fst := (List.mem_cons.mp hmem).resolve_left (Ne.symm hik)
        rw [if_neg hik, List.lookup_cons, ih hrest]
        by_cases hj : j = i
        · subst hj
          simp [hik]
        · rw [beq_false_of_ne hj]

/-- Under the key that is written stands the new value, under the others what stood there. -/
theorem get?_put
    (t : Table κ α)
    (k : κ)
    (v : α)
    (j : κ) :
    (t.put k v).get? j = if j = k then some v else t.get? j := by
  rw [put, get?, get?]
  split
  · next hmem =>
      exact lookup_replaceAt v hmem j
  · next hmem =>
      rw [List.lookup_append, List.lookup_cons]
      by_cases hj : j = k
      · subst hj
        simp [lookup_eq_none_of_not_mem hmem]
      · rw [beq_false_of_ne hj, if_neg hj, List.lookup_nil, Option.or_none]

theorem ofList_concat
    (es : List (κ × α))
    (e : κ × α) :
    ofList (es ++ [e]) = (ofList es).put e.1 e.2 := by
  rw [ofList, List.foldl_append]
  rfl

/-- A table made from a list has the last value for every key. -/
theorem mem_entries_ofList_iff
    {es : List (κ × α)}
    {e : κ × α} :
    e ∈ (ofList es).entries ↔ IsLast es e := by
  induction es using List.reverseRecOn with
  | nil =>
      exact iff_of_false List.not_mem_nil not_isLast_nil
  | append_singleton es f ih =>
      rw [isLast_concat_iff, ← ih, ofList_concat, ← get?_eq_some_iff, ← get?_eq_some_iff, get?_put]
      by_cases hkey : e.1 = f.1
      · rw [if_pos hkey, Option.some.injEq, Prod.ext_iff, and_iff_right hkey]
        simp [hkey, eq_comm]
      · rw [if_neg hkey, iff_comm]
        simp [hkey, Prod.ext_iff]

/-- The keys of a table made from a list stand where they first arrived. -/
theorem keys_ofList
    (es : List (κ × α)) :
    (ofList es).keys = (es.map Prod.fst).eraseDups := by
  induction es using List.reverseRecOn with
  | nil =>
      rfl
  | append_singleton es e ih =>
      rw [ofList_concat, List.map_append, List.eraseDups_append, ← ih]
      by_cases hmem : e.1 ∈ es.map Prod.fst
      · rw [keys_put_of_mem _ _ (by rwa [ih, List.mem_eraseDups])]
        simp [List.removeAll, hmem]
      · rw [keys_put_of_not_mem _ _ (by rwa [ih, List.mem_eraseDups])]
        simp [List.removeAll, hmem, List.eraseDups_cons]

/-- Of a list, all entries are in its table exactly if their keys are distinct. -/
theorem length_entries_ofList_iff
    {es : List (κ × α)} :
    (ofList es).entries.length = es.length ↔ (es.map Prod.fst).Nodup := by
  refine ⟨fun hlength => ?_, fun hnodup => by rw [entries_ofList hnodup]⟩
  have hsubset : (ofList es).keys ⊆ es.map Prod.fst := by
    intro k hk
    rwa [keys_ofList, List.mem_eraseDups] at hk
  have hperm : (ofList es).keys.Perm (es.map Prod.fst) := by
    refine (List.Nodup.subperm (ofList es).distinct hsubset).perm_of_length_le ?_
    simp only [List.length_map, hlength, Nat.le_refl]
  exact hperm.nodup (ofList es).distinct

end LastValues

section MappedValues

variable {κ α β : Type}

/-- The table with other values under the keys. -/
def mapValues
    (f : α → β)
    (t : Table κ α) :
    Table κ β :=
  ⟨t.entries.map fun e => (e.1, f e.2), by rw [List.map_map]; exact t.distinct⟩

@[simp] theorem values_mapValues
    (f : α → β)
    (t : Table κ α) :
    (t.mapValues f).values = t.values.map f := by
  simp only [values, mapValues, List.map_map, Function.comp_def]

@[simp] theorem size_mapValues
    (f : α → β)
    (t : Table κ α) :
    (t.mapValues f).size = t.size :=
  List.length_map _

/-- Entries are left out by their keys before or after the values are changed. -/
theorem filter_mapValues
    (f : α → β)
    (t : Table κ α)
    (p : κ → Bool) :
    ((t.mapValues f).filter fun k _ => p k) = (t.filter fun k _ => p k).mapValues f := by
  rw [filter, mapValues, mapValues, filter, Table.mk.injEq, List.filter_map]
  rfl

end MappedValues

end Table

end ManagedSwitch
