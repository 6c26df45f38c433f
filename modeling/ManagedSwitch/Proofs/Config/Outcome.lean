import Mathlib.Data.List.Forall2
import ManagedSwitch.Config.Reading

/-!
# How readings end

A reading gives a value, is refused for a problem of the configuration, or *escapes*: what stops it
is no problem of the configuration.  The lemmas follow the steps that readings are made of.  A step
behind another one is reached with the value of that one, so that an escape has a place: `FirstAt`
is a list with an entry that is at fault while every entry in front of it is in order.
-/

namespace ManagedSwitch
namespace Config

section Steps

variable {α β : Type}

/-- The reading stops for a reason that is no problem of the configuration. -/
def Escapes (r : Except Refusal α) : Prop :=
  ∃ e, r = .error e ∧ ∀ p, e ≠ .problem p

/-- A reading that does not escape gives a value or a problem. -/
theorem ok_or_problem_iff
    {r : Except Refusal α} :
    ((∃ a, r = .ok a) ∨ ∃ p, r = .error (.problem p)) ↔ ¬ Escapes r := by
  cases r with
  | ok a =>
      refine ⟨?_, fun _ => Or.inl ⟨a, rfl⟩⟩
      rintro - ⟨e, he, -⟩
      exact nomatch he
  | error e =>
      constructor
      · rintro (⟨a, ha⟩ | ⟨p, hp⟩) ⟨e', he', hescape⟩
        · exact nomatch ha
        · exact hescape p (by rw [← Except.error.inj he', Except.error.inj hp])
      · intro h
        by_contra hnone
        exact h ⟨e, rfl, fun p hp => hnone (Or.inr ⟨p, by rw [hp]⟩)⟩

@[simp] theorem escapes_error
    {e : Refusal} :
    Escapes (.error e : Except Refusal α) ↔ ∀ p, e ≠ .problem p := by
  simp [Escapes]

@[simp] theorem not_escapes_ok
    {a : α} :
    ¬ Escapes (.ok a) := by
  rintro ⟨e, he, -⟩
  exact nomatch he

@[simp] theorem not_escapes_pure
    {a : α} :
    ¬ Escapes (pure a) :=
  not_escapes_ok

@[simp] theorem not_escapes_refuse
    {p : Problem} :
    ¬ Escapes (refuse p : Except Refusal α) := by
  simp [refuse]

@[simp] theorem refuse_ne_ok
    {p : Problem}
    {a : α} :
    refuse p ≠ .ok a := by
  intro h
  exact nomatch h

@[simp] theorem written_eq_ok_iff
    {text : Option String}
    {s : String} :
    written text = .ok s ↔ text = some s := by
  cases text <;> simp [written]

@[simp] theorem escapes_written
    {text : Option String} :
    Escapes (written text) ↔ text = none := by
  cases text with
  | none =>
      simp [written]
  | some s =>
      simp [written]

@[simp] theorem bind_eq_ok_iff
    {ε : Type}
    {r : Except ε α}
    {f : α → Except ε β}
    {b : β} :
    r >>= f = .ok b ↔ ∃ a, r = .ok a ∧ f a = .ok b := by
  cases r with
  | ok a =>
      simp [bind, Except.bind]
  | error e =>
      simp [bind, Except.bind]

/-- A sequence escapes in its first part, or behind it with the value of the first part. -/
@[simp] theorem escapes_bind
    {r : Except Refusal α}
    {f : α → Except Refusal β} :
    Escapes (r >>= f) ↔ Escapes r ∨ ∃ a, r = .ok a ∧ Escapes (f a) := by
  cases r with
  | ok a =>
      have hbind : (Except.ok a : Except Refusal α) >>= f = f a := rfl
      simp [hbind]
  | error e =>
      have hbind : (Except.error e : Except Refusal α) >>= f = .error e := rfl
      simp [hbind]

/-- A sequence whose second part escapes whatever the first part gives. -/
theorem escapes_bind_iff
    {r : Except Refusal α}
    {f : α → Except Refusal β}
    {stuck : Prop}
    (hf : ∀ a, Escapes (f a) ↔ stuck) :
    Escapes (r >>= f) ↔ Escapes r ∨ (∃ a, r = .ok a) ∧ stuck := by
  simp only [escapes_bind, hf, exists_and_right]

/-- What is made of a value does not escape. -/
theorem escapes_bind_pure_iff
    {r : Except Refusal α}
    {f : α → β} :
    Escapes (r >>= fun a => pure (f a)) ↔ Escapes r := by
  simp only [escapes_bind, not_escapes_pure, and_false, exists_false, or_false]

@[simp] theorem map_eq_ok_iff
    {r : Except Refusal α}
    {f : α → β}
    {b : β} :
    r.map f = .ok b ↔ ∃ a, r = .ok a ∧ f a = b := by
  cases r <;> simp [Except.map]

@[simp] theorem escapes_map
    {r : Except Refusal α}
    {f : α → β} :
    Escapes (r.map f) ↔ Escapes r := by
  cases r <;> simp [Except.map]

end Steps

section Lists

variable {α : Type}

/-- An entry is bad while all entries in front of it are good. -/
def FirstAt
    (good bad : α → Prop)
    (es : List α) :
    Prop :=
  ∃ before e after, es = before ++ e :: after ∧ (∀ g ∈ before, good g) ∧ bad e

@[simp] theorem not_firstAt_nil
    {good bad : α → Prop} :
    ¬ FirstAt good bad [] := by
  rintro ⟨before, e, after, heq, -⟩
  exact absurd heq (by simp)

@[simp] theorem firstAt_cons
    {good bad : α → Prop}
    {e : α}
    {es : List α} :
    FirstAt good bad (e :: es) ↔ bad e ∨ good e ∧ FirstAt good bad es := by
  constructor
  · rintro ⟨before, b, after, heq, hgood, hbad⟩
    cases before with
    | nil =>
        obtain ⟨rfl, rfl⟩ := List.cons.inj heq
        exact Or.inl hbad
    | cons g before =>
        obtain ⟨rfl, rfl⟩ := List.cons.inj heq
        rw [List.forall_mem_cons] at hgood
        exact Or.inr ⟨hgood.1, before, b, after, rfl, hgood.2, hbad⟩
  · rintro (hbad | ⟨hgood, before, b, after, rfl, hbefore, hbad⟩)
    · exact ⟨[], e, es, rfl, List.forall_mem_nil _, hbad⟩
    · exact ⟨e :: before, b, after, rfl, List.forall_mem_cons.mpr ⟨hgood, hbefore⟩, hbad⟩

/-- If every entry is good or bad, there is a first bad one among entries that are not all good. -/
theorem exists_firstAt
    {good bad : α → Prop}
    (heach : ∀ e, good e ∨ bad e)
    {es : List α}
    (hbad : ∃ e ∈ es, bad e) :
    FirstAt good bad es := by
  induction es with
  | nil =>
      simp at hbad
  | cons e es ih =>
      rw [firstAt_cons]
      rcases heach e with hgood | hfirst
      · obtain ⟨b, hmem, hb⟩ := hbad
        rcases List.mem_cons.mp hmem with rfl | hmem
        · exact Or.inl hb
        · exact Or.inr ⟨hgood, ih ⟨b, hmem, hb⟩⟩
      · exact Or.inl hfirst

end Lists

section Tables

variable {κ α : Type} [DecidableEq κ]
variable {reader : Document × Document → Except Refusal (κ × α)}
variable {readAll : Table κ α → Entries → Except Refusal (Table κ α)}

/-- A table that is read entry by entry has the values of the entries, put in order. -/
theorem readAll_eq_ok_iff
    (hnil : ∀ t, readAll t [] = .ok t)
    (hcons : ∀ t e es, readAll t (e :: es) = reader e >>= fun p => readAll (t.put p.1 p.2) es)
    {known t : Table κ α}
    {es : Entries} :
    readAll known es = .ok t ↔
      ∃ ps, List.Forall₂ (fun e p => reader e = .ok p) es ps ∧
        t = ps.foldl (fun t p => t.put p.1 p.2) known := by
  induction es generalizing known with
  | nil =>
      rw [hnil, Except.ok.injEq]
      constructor
      · rintro rfl
        exact ⟨[], .nil, rfl⟩
      · rintro ⟨ps, ⟨⟩, rfl⟩
        rfl
  | cons e es ih =>
      rw [hcons, bind_eq_ok_iff]
      constructor
      · rintro ⟨p, hp, hrest⟩
        obtain ⟨ps, hps, rfl⟩ := ih.mp hrest
        exact ⟨p :: ps, .cons hp hps, rfl⟩
      · rintro ⟨ps, hps, rfl⟩
        cases hps with
        | cons hp hps =>
            exact ⟨_, hp, ih.mpr ⟨_, hps, rfl⟩⟩

/-- Reading a table entry by entry escapes at the first entry that cannot be read. -/
theorem escapes_readAll_iff
    (hnil : ∀ t, readAll t [] = .ok t)
    (hcons : ∀ t e es, readAll t (e :: es) = reader e >>= fun p => readAll (t.put p.1 p.2) es)
    {known : Table κ α}
    {es : Entries} :
    Escapes (readAll known es) ↔
      FirstAt (fun e => ∃ p, reader e = .ok p) (fun e => Escapes (reader e)) es := by
  induction es generalizing known with
  | nil =>
      simp [hnil]
  | cons e es ih =>
      simp [hcons, ih]

end Tables

end Config
end ManagedSwitch
