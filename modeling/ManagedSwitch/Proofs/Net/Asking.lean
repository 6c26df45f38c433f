import ManagedSwitch.Proofs.Net.Conversation

/-!
# What a run asks the client for

`Asks m cs Q` says that in every world, whatever its clock and its network, the run `m` adds exactly
the calls `cs` to those of the journal and ends with a result that satisfies `Q`.  Runs that ask for
nothing are `Quiet`.  Both go through sequences step by step (`Asks.bind`, `Quiet.bind`), and the
result of a step is known to the steps behind it by its `Q` alone.

The client itself is quiet below `Client.call`: nothing that happens on the network, and no failure,
makes it ask again.
-/

namespace ManagedSwitch

section Rules

variable {τ α β : Type}

/-- A run that adds the given calls, in any world, and whose result has a property. -/
def Asks
    (m : Run τ α)
    (cs : List (Call τ))
    (Q : α → Prop) :
    Prop :=
  ∀ w : World τ, calls (m.run w).2.journal = calls w.journal ++ cs ∧ Q (m.run w).1

/-- A run that adds no calls. -/
def Quiet (m : Run τ α) : Prop :=
  Asks m [] fun _ => True

@[simp] theorem calls_append
    (es fs : List (Event τ)) :
    calls (es ++ fs) = calls es ++ calls fs := by
  exact List.filterMap_append

theorem Asks.pure
    {Q : α → Prop}
    {a : α}
    (ha : Q a) :
    Asks (Pure.pure a : Run τ α) [] Q := by
  intro w
  exact ⟨(List.append_nil _).symm, ha⟩

/-- The calls of two runs one after the other. -/
theorem Asks.bind
    {m : Run τ α}
    {f : α → Run τ β}
    {cs ds : List (Call τ)}
    {Q : α → Prop}
    {R : β → Prop}
    (hm : Asks m cs Q)
    (hf : ∀ a, Q a → Asks (f a) ds R) :
    Asks (m >>= f) (cs ++ ds) R := by
  intro w
  obtain ⟨hcalls, hQ⟩ := hm w
  obtain ⟨hcalls', hR⟩ := hf (m.run w).1 hQ (m.run w).2
  refine ⟨?_, hR⟩
  rw [← List.append_assoc, ← hcalls]
  exact hcalls'

theorem Quiet.pure
    (a : α) :
    Quiet (Pure.pure a : Run τ α) :=
  Asks.pure trivial

theorem Quiet.bind
    {m : Run τ α}
    {f : α → Run τ β}
    (hm : Quiet m)
    (hf : ∀ a, Quiet (f a)) :
    Quiet (m >>= f) :=
  Asks.bind hm fun a _ => hf a

/-- A quiet run behind another one. -/
theorem Asks.thenQuiet
    {m : Run τ α}
    {f : α → Run τ β}
    {cs : List (Call τ)}
    {Q : α → Prop}
    (hm : Asks m cs Q)
    (hf : ∀ a, Quiet (f a)) :
    Asks (m >>= f) cs fun _ => True := by
  have h := Asks.bind hm fun a _ => hf a
  rwa [List.append_nil] at h

end Rules

section Actions

variable {τ : Type}

/-- An event adds the calls that it is. -/
theorem asks_note
    (e : Event τ) :
    Asks (note e) (calls [e]) fun _ => True := by
  intro w
  exact ⟨calls_append w.journal [e], trivial⟩

/-- An event that is no call adds none. -/
theorem quiet_note
    {e : Event τ}
    (he : e.isCall = false) :
    Quiet (note e) := by
  have hnone : calls [e] = [] := by
    cases e with
    | called c =>
        exact nomatch he
    | _ =>
        rfl
  have h := asks_note e
  rwa [hnone] at h

theorem quiet_say
    (line : String) :
    Quiet (say line : Run τ Unit) :=
  asks_note (.printed line)

theorem quiet_remark
    (r : Record) :
    Quiet (remark r : Run τ Unit) :=
  asks_note (.logged r)

theorem quiet_remarkAll
    (rs : List Record) :
    Quiet (remarkAll rs : Run τ Unit) := by
  intro w
  have hnone : calls (rs.map (Event.logged (τ := τ))) = [] := by
    simp [calls]
  refine ⟨?_, trivial⟩
  rw [← hnone]
  exact calls_append w.journal (rs.map .logged)

theorem quiet_time :
    Quiet (time : Run τ τ) := by
  intro w
  exact ⟨(List.append_nil _).symm, trivial⟩

theorem quiet_pass
    [Seconds τ]
    (span : τ) :
    Quiet (pass span : Run τ Unit) := by
  intro w
  exact ⟨(List.append_nil _).symm, trivial⟩

theorem quiet_takeExchange
    (host : String) :
    Quiet (takeExchange host : Run τ (Option (Exchange τ))) := by
  intro w
  refine ⟨?_, trivial⟩
  rw [List.append_nil]
  simp only [takeExchange, StateT.run, modifyGet, MonadStateOf.modifyGet, StateT.modifyGet]
  cases w.network.take host <;> rfl

end Actions

section Client

variable {τ : Type} [Seconds τ]

/-- The actions of the client ask for nothing. -/
theorem pervades_quiet :
    Pervades fun α (m : Run τ α) => Quiet m where
  pure := Quiet.pure
  bind := Quiet.bind
  note := fun _ => quiet_note
  time := quiet_time
  pass := quiet_pass
  takeExchange := quiet_takeExchange

/-- A call is asked for once, whatever comes of it. -/
theorem Client.asks_call
    (c : Call τ) :
    Asks (call c) [c] fun _ => True := by
  obtain ⟨answer, heq, hquiet⟩ := pervades_quiet.exists_call_eq c
  rw [heq]
  exact Asks.thenQuiet (asks_note (.called c)) fun _ => hquiet

end Client

end ManagedSwitch
