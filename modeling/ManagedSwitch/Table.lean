/-!
# Tables in order of insertion

A table gives values to distinct keys and remembers the order in which the keys first arrived.
Writing to a key that is present keeps its place and replaces its value.  The keys are distinct in
every table; that is part of the type.
-/

namespace ManagedSwitch

/-- Values for distinct keys, in the order of the keys' arrival. -/
structure Table (κ : Type) (α : Type) where
  entries : List (κ × α)
  distinct : (entries.map Prod.fst).Nodup

namespace Table

section Definitions

variable {κ α : Type} [DecidableEq κ]

def keys (t : Table κ α) : List κ :=
  t.entries.map Prod.fst

def values (t : Table κ α) : List α :=
  t.entries.map Prod.snd

def size (t : Table κ α) : Nat :=
  t.entries.length

def get?
    (t : Table κ α)
    (k : κ) :
    Option α :=
  t.entries.lookup k

def contains
    (t : Table κ α)
    (k : κ) :
    Bool :=
  t.keys.contains k

def empty : Table κ α :=
  ⟨[], List.nodup_nil⟩

/-- Gives the value `v` to the entry with key `k`. -/
def replaceAt
    (k : κ)
    (v : α) :
    List (κ × α) → List (κ × α)
  | [] => []
  | e :: rest => if e.1 = k then (e.1, v) :: rest else e :: replaceAt k v rest

@[simp] theorem map_fst_replaceAt
    (k : κ)
    (v : α)
    (es : List (κ × α)) :
    (replaceAt k v es).map Prod.fst = es.map Prod.fst := by
  induction es with
  | nil => rfl
  | cons e rest ih =>
    by_cases h : e.1 = k
    · simp [replaceAt, h]
    · simp [replaceAt, h, ih]

/-- Writes a value: a known key keeps its place, a new one comes last. -/
def put
    (t : Table κ α)
    (k : κ)
    (v : α) :
    Table κ α :=
  if h : k ∈ t.entries.map Prod.fst then
    ⟨replaceAt k v t.entries, by rw [map_fst_replaceAt]; exact t.distinct⟩
  else
    ⟨t.entries ++ [(k, v)], by
      rw [List.map_append, List.nodup_append]
      refine ⟨t.distinct, by simp, ?_⟩
      intro a ha b hb hab
      rw [List.map_cons, List.map_nil, List.mem_singleton] at hb
      have hk : a = k := hab.trans hb
      exact h (hk ▸ ha)⟩

/-- Writes every pair in order. -/
def ofList (es : List (κ × α)) : Table κ α :=
  es.foldl (fun t e => t.put e.1 e.2) empty

def filter
    (t : Table κ α)
    (p : κ → α → Bool) :
    Table κ α :=
  ⟨t.entries.filter fun e => p e.1 e.2,
    t.distinct.sublist ((List.filter_sublist).map Prod.fst)⟩

end Definitions

section Lemmas

variable {κ α : Type} [DecidableEq κ]

/-- Writing a new key adds it at the end. -/
theorem keys_put_of_not_mem
    (t : Table κ α)
    {k : κ}
    (v : α)
    (h : k ∉ t.keys) :
    (t.put k v).keys = t.keys ++ [k] := by
  simp only [keys] at h
  simp [put, keys, h]

/-- Writing a known key keeps the keys. -/
theorem keys_put_of_mem
    (t : Table κ α)
    {k : κ}
    (v : α)
    (h : k ∈ t.keys) :
    (t.put k v).keys = t.keys := by
  simp only [keys] at h
  simp only [put, keys, h, dite_true]
  exact map_fst_replaceAt k v t.entries

end Lemmas

end Table
end ManagedSwitch
