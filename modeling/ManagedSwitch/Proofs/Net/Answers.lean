import ManagedSwitch.Proofs.Net.Asking

/-!
# What the client answers

Runs add to the journal and do not look at it (`Appending`), so that what is printed and recorded
between calls makes no difference to the calls.  Therefore the answers that a program gets are those
of the bare calls, made one after the other: `Hears m cs R` says that the run `m` asks for the calls
`cs` and nothing else, in every world, and that its result is in the relation `R` to the answers.
It goes through sequences (`Hears.bind`), where the answers to all calls are those to the calls of
the parts; runs that ask for nothing are `Mute`.
-/

namespace ManagedSwitch

section Appending

variable {τ α β : Type}

/-- The world with events in front of its journal. -/
def World.behind
    (w : World τ)
    (es : List (Event τ)) :
    World τ :=
  { w with journal := es ++ w.journal }

/-- A run that adds to the journal without looking at it. -/
def Appending (m : Run τ α) : Prop :=
  ∀ es w, m.run (w.behind es) = ((m.run w).1, (m.run w).2.behind es)

theorem Appending.pure
    (a : α) :
    Appending (Pure.pure a : Run τ α) :=
  fun _ _ => rfl

theorem Appending.bind
    {m : Run τ α}
    {f : α → Run τ β}
    (hm : Appending m)
    (hf : ∀ a, Appending (f a)) :
    Appending (m >>= f) := by
  intro es w
  have hrest := hf (m.run w).1 es (m.run w).2
  show (f (m.run (w.behind es)).1).run (m.run (w.behind es)).2 = _
  rw [hm es w]
  exact hrest

theorem appending_note
    (e : Event τ) :
    Appending (note e) := by
  intro es w
  show ((), { w.behind es with journal := es ++ w.journal ++ [e] }) = _
  rw [List.append_assoc]
  rfl

theorem appending_takeExchange
    (host : String) :
    Appending (takeExchange host : Run τ (Option (Exchange τ))) := by
  intro es w
  simp only [takeExchange, StateT.run, modifyGet, MonadStateOf.modifyGet, StateT.modifyGet]
  have hnetwork : (w.behind es).network = w.network := rfl
  rw [hnetwork]
  cases w.network.take host <;> rfl

/-- The event is a step that the client takes towards a host. -/
def Event.isWire : Event τ → Bool
  | .resolving .. | .opened _ | .connecting .. | .receiving _ | .sent _ | .closed => true
  | _ => false

/-- The steps of the client. -/
def wire (journal : List (Event τ)) : List (Event τ) :=
  journal.filter Event.isWire

@[simp] theorem wire_append
    (es fs : List (Event τ)) :
    wire (es ++ fs) = wire es ++ wire fs :=
  List.filter_append es fs

/-- What the client has to do with in a world: the clock, the network and its own steps. -/
def World.course (w : World τ) : τ × Network τ × List (Event τ) :=
  (w.clock, w.network, wire w.journal)

/-- An event that is no step of the client changes nothing for it. -/
theorem course_noted
    (w : World τ)
    {e : Event τ}
    (he : e.isWire = false) :
    World.course { w with journal := w.journal ++ [e] } = w.course := by
  simp [World.course, wire, he]

/-- A run goes the same way in worlds that differ in what is printed and recorded only. -/
theorem Appending.congr
    {m : Run τ α}
    (hm : Appending m)
    {v w : World τ}
    (hcourse : v.course = w.course) :
    (m.run v).1 = (m.run w).1 ∧ (m.run v).2.course = (m.run w).2.course := by
  obtain ⟨clock, network, before⟩ := v
  obtain ⟨clock', network', before'⟩ := w
  simp only [World.course, Prod.mk.injEq] at hcourse
  obtain ⟨rfl, rfl, hwire⟩ := hcourse
  have hbehind :
      ∀ es : List (Event τ), World.mk clock network es = (World.mk clock network []).behind es := by
    intro es
    rw [World.behind, List.append_nil]
  rw [hbehind before, hbehind before', hm, hm]
  refine ⟨rfl, ?_⟩
  simp only [World.course, World.behind, wire_append, hwire]

variable [Seconds τ]

/-- The actions of the client only add to the journal. -/
theorem pervades_appending :
    Pervades fun α (m : Run τ α) => Appending m where
  pure := Appending.pure
  bind := Appending.bind
  note := fun e _ => appending_note e
  time := fun _ _ => rfl
  pass := fun _ _ _ => rfl
  takeExchange := appending_takeExchange

theorem Client.appending_call
    (c : Call τ) :
    Appending (call c) := by
  obtain ⟨answer, heq, hanswer⟩ := pervades_appending.exists_call_eq c
  rw [heq]
  exact (appending_note (.called c)).bind fun _ => hanswer

end Appending

section Answers

variable {τ α β : Type} [Seconds τ]

/-- What comes of a call. -/
abbrev Answer (τ : Type) := Except (Client.Error τ) Response

/-- The status that was received, if there is a response. -/
def Answer.status? : Answer τ → Option Nat
  | .ok r => some r.status
  | .error _ => none

/-- Makes calls one after the other and nothing else, and gives what comes of each. -/
def Client.answers : List (Call τ) → Run τ (List (Answer τ))
  | [] => return []
  | c :: rest => do
    let answer ← call c
    let later ← answers rest
    return answer :: later

theorem Client.appending_answers
    (cs : List (Call τ)) :
    Appending (answers cs) := by
  induction cs with
  | nil =>
      exact Appending.pure []
  | cons c rest ih =>
      exact (appending_call c).bind fun _ => ih.bind fun _ => Appending.pure _

theorem Client.answers_cons
    (c : Call τ)
    (cs : List (Call τ))
    (w : World τ) :
    (answers (c :: cs)).run w =
      (((call c).run w).1 :: ((answers cs).run ((call c).run w).2).1,
        ((answers cs).run ((call c).run w).2).2) :=
  rfl

/-- Every call is answered. -/
theorem Client.length_answers
    (cs : List (Call τ))
    (w : World τ) :
    ((answers cs).run w).1.length = cs.length := by
  induction cs generalizing w with
  | nil =>
      rfl
  | cons c cs ih =>
      rw [answers_cons]
      exact congrArg Nat.succ (ih ((call c).run w).2)

/-- Later calls are answered in the world that earlier ones leave behind. -/
theorem Client.answers_append
    (cs ds : List (Call τ))
    (w : World τ) :
    (answers (cs ++ ds)).run w =
      (((answers cs).run w).1 ++ ((answers ds).run ((answers cs).run w).2).1,
        ((answers ds).run ((answers cs).run w).2).2) := by
  induction cs generalizing w with
  | nil =>
      rfl
  | cons c cs ih =>
      rw [List.cons_append, answers_cons, ih, answers_cons]
      rfl

end Answers

section Hearing

variable {τ α β : Type} [Seconds τ]

/-- A run asks for calls, its result is related to the answers, and it leaves the world as these
calls do, what is printed and recorded apart. -/
def Hears
    (m : Run τ α)
    (cs : List (Call τ))
    (R : List (Answer τ) → α → Prop) :
    Prop :=
  ∀ w : World τ, calls (m.run w).2.journal = calls w.journal ++ cs ∧
    R ((Client.answers cs).run w).1 (m.run w).1 ∧
      (m.run w).2.course = ((Client.answers cs).run w).2.course

/-- A run that asks for nothing, leaves the world as it is, what is printed and recorded apart, and
whose result has a property. -/
def Mute
    (m : Run τ α)
    (Q : α → Prop) :
    Prop :=
  Hears m [] fun _ a => Q a

theorem Hears.asks
    {m : Run τ α}
    {cs : List (Call τ)}
    {R : List (Answer τ) → α → Prop}
    (hm : Hears m cs R) :
    Asks m cs fun a => ∃ answers, R answers a :=
  fun w => ⟨(hm w).1, _, (hm w).2.1⟩

theorem hears_call
    (c : Call τ) :
    Hears (Client.call c) [c] fun answers a => answers = [a] :=
  fun w => ⟨(Client.asks_call c w).1, rfl, rfl⟩

theorem Hears.pure
    {R : List (Answer τ) → α → Prop}
    {a : α}
    (ha : R [] a) :
    Hears (Pure.pure a) [] R :=
  fun _ => ⟨(List.append_nil _).symm, ha, rfl⟩

theorem Hears.mono
    {m : Run τ α}
    {cs : List (Call τ)}
    {Q R : List (Answer τ) → α → Prop}
    (hm : Hears m cs Q)
    (hQR : ∀ answers a, Q answers a → R answers a) :
    Hears m cs R :=
  fun w => (hm w).imp id fun h => h.imp (hQR _ _) id

/-- The calls of two runs and the answers to them, one after the other. -/
theorem Hears.bind
    {m : Run τ α}
    {f : α → Run τ β}
    {cs ds : List (Call τ)}
    {Q : List (Answer τ) → α → Prop}
    {R : List (Answer τ) → β → Prop}
    (hm : Hears m cs Q)
    (hf : ∀ heard a, Q heard a → Hears (f a) ds fun later b => R (heard ++ later) b) :
    Hears (m >>= f) (cs ++ ds) R := by
  intro w
  obtain ⟨hcalls, hQ, hcourse⟩ := hm w
  obtain ⟨hcalls', hR, hcourse'⟩ := hf _ (m.run w).1 hQ (m.run w).2
  -- The calls of the second run are answered as they are behind the bare calls of the first one.
  obtain ⟨hanswers, hafter⟩ := (Client.appending_answers ds).congr hcourse
  rw [hanswers] at hR
  rw [Client.answers_append, ← List.append_assoc, ← hcalls]
  exact ⟨hcalls', hR, hcourse'.trans hafter⟩

/-- Without calls there are no answers. -/
theorem Mute.hears
    {m : Run τ α}
    {Q : α → Prop}
    (hm : Mute m Q) :
    Hears m [] fun answers a => answers = [] ∧ Q a :=
  fun w => ⟨(hm w).1, ⟨rfl, (hm w).2.1⟩, (hm w).2.2⟩

/-- A mute run in front of another one that depends on its result. -/
theorem Mute.bind
    {m : Run τ α}
    {f : α → Run τ β}
    {cs : List (Call τ)}
    {Q : α → Prop}
    {R : List (Answer τ) → β → Prop}
    (hm : Mute m Q)
    (hf : ∀ a, Q a → Hears (f a) cs R) :
    Hears (m >>= f) cs R := by
  refine Hears.bind hm.hears ?_
  rintro _ a ⟨rfl, hQ⟩
  exact hf a hQ

/-- A mute run in front of another one. -/
theorem Mute.then
    {m : Run τ α}
    {f : α → Run τ β}
    {cs : List (Call τ)}
    {Q : α → Prop}
    {R : List (Answer τ) → β → Prop}
    (hm : Mute m Q)
    (hf : ∀ a, Hears (f a) cs R) :
    Hears (m >>= f) cs R :=
  hm.bind fun a _ => hf a

/-- A mute run that is only made under a condition. -/
theorem Mute.thenIf
    {p : Prop}
    [Decidable p]
    {m : Run τ Unit}
    {f : Unit → Run τ β}
    {cs : List (Call τ)}
    {Q : Unit → Prop}
    {R : List (Answer τ) → β → Prop}
    (hm : Mute m Q)
    (hf : Hears (f ()) cs R) :
    Hears (if p then m >>= f else f ()) cs R := by
  split
  · exact hm.then fun _ => hf
  · exact hf

/-- A mute run behind another one. -/
theorem Hears.thenMute
    {m : Run τ α}
    {f : α → Run τ β}
    {cs : List (Call τ)}
    {Q : List (Answer τ) → α → Prop}
    {R : List (Answer τ) → β → Prop}
    (hm : Hears m cs Q)
    (hf : ∀ a, Mute (f a) fun b => ∀ heard, Q heard a → R heard b) :
    Hears (m >>= f) cs R := by
  rw [← List.append_nil cs]
  refine hm.bind fun heard a hQ => (hf a).hears.mono ?_
  rintro later b ⟨rfl, hb⟩
  rw [List.append_nil]
  exact hb heard hQ

/-- A result computed from that of a run. -/
theorem Hears.thenPure
    {m : Run τ α}
    {f : α → β}
    {cs : List (Call τ)}
    {Q : List (Answer τ) → α → Prop}
    {R : List (Answer τ) → β → Prop}
    (hm : Hears m cs Q)
    (hf : ∀ heard a, Q heard a → R heard (f a)) :
    Hears (m >>= fun a => Pure.pure (f a)) cs R :=
  hm.thenMute fun a => Hears.pure fun heard => hf heard a

theorem mute_say
    (line : String) :
    Mute (say line : Run τ Unit) fun _ => True :=
  fun w => ⟨(quiet_say line w).1, trivial, course_noted w rfl⟩

theorem mute_remark
    (r : Record) :
    Mute (remark r : Run τ Unit) fun _ => True :=
  fun w => ⟨(quiet_remark r w).1, trivial, course_noted w rfl⟩

theorem mute_remarkAll
    (rs : List Record) :
    Mute (remarkAll rs : Run τ Unit) fun _ => True := by
  intro w
  have hnone : wire (rs.map (Event.logged (τ := τ))) = [] := by
    simp [wire, Event.isWire]
  refine ⟨(quiet_remarkAll rs w).1, trivial, ?_⟩
  show (w.clock, w.network, wire (w.journal ++ rs.map .logged)) = w.course
  rw [wire_append, hnone, List.append_nil]
  rfl

end Hearing

end ManagedSwitch
