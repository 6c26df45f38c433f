import ManagedSwitch.Proofs.Net.Stillness

/-!
# The course of a call

A call goes through stages: it resolves its host, tries addresses until one of them takes the
connection, sends its request, reads what arrives, and closes the connection.  A `Move` is what the
client does at a stage and the stage that it comes to; a `Course` is made of such moves one behind
the other, each with the time at which it begins and the time at which it ends.

Every call follows a course to its end (`exists_follows`), and the course tells all of it: the
client's steps in the journal, the time that goes by, and the answer.  So what calls do is proved
move by move.
-/

namespace ManagedSwitch
namespace Client

section Outcomes

variable {τ : Type} [Seconds τ]

/-- How a step ends under a limit. -/
def outcome
    (limit : τ)
    (step : Step τ) :
    Except Trouble Unit :=
  if limit < step.took then
    .error .timeout
  else
    match step.trouble with
    | none => .ok ()
    | some trouble => .error trouble

/-- How long a step takes under a limit. -/
def duration
    (limit : τ)
    (step : Step τ) :
    τ :=
  if limit < step.took then limit else step.took

/-- The time after waits that began at a time, each under the same limit. -/
def timeAfter
    (now limit : τ)
    (waits : List (Step τ)) :
    τ :=
  waits.foldl (fun t s => t + duration limit s) now

/-- One reading step under a limit: the waits that it goes through, what it ends with (no bytes at
the end of the stream), and what is left to arrive. -/
def readStep
    (limit : τ) :
    List (Arrival τ) → List (Step τ) × Except Trouble Bytes × List (Arrival τ)
  | [] => ([], .ok [], [])
  | .bytes chunk :: rest => ([], .ok chunk, rest)
  | .wait s :: rest =>
    match outcome limit s with
    | .error trouble => ([s], .error trouble, rest)
    | .ok () => (s :: (readStep limit rest).1, (readStep limit rest).2)

/-- The exchange that a call to a host gets, or why there is none. -/
def resolved
    (network : Network τ)
    (host : String) :
    Except Trouble (Exchange τ) :=
  match HostName.fault? host with
  | some fault => .error (.failure fault.message)
  | none =>
    match network.take host with
    | none => .error (.failure "[Errno -2] Name or service not known")
    | some (e, _) =>
      match e.resolving with
      | some trouble => .error trouble
      | none => .ok e

end Outcomes

section Moves

/-- How far a call has come. -/
inductive Stage (τ : Type)
  /-- The host has to be resolved. -/
  | resolving
  /-- Addresses are left to be tried, the first one having the given index; `reason` is why the
  address before failed. -/
  | connecting (index : Nat) (reason : Option String) (addresses : List (Step τ))
  /-- A connection stands, and sending has the limit of the attempt that made it. -/
  | sending (limit : τ)
  /-- Some bytes have been read. -/
  | reading (got : Bytes) (arrivals : List (Arrival τ))
  /-- The connection has to be closed. -/
  | closing (result : Except Trouble Bytes)
  | over (result : Except Trouble Bytes)

/-- What the client does at a stage.  An attempt or a reading step without a limit is one that is
not made, since the deadline has passed. -/
inductive Act (τ : Type)
  | resolve (result : Except Trouble Unit)
  | attempt (index : Nat) (limit : Option τ) (result : Except Trouble Unit)
  | exhausted (reason : String)
  | send (limit : τ) (result : Except Trouble Unit)
  | read (limit : Option τ) (waits : List (Step τ)) (result : Except Trouble Bytes)
  | close

/-- What the client does, with the times at which it begins and ends. -/
structure Leg (τ : Type) where
  start : τ
  act : Act τ
  finish : τ

/-- What the journal has of an act. -/
def Act.events
    {τ : Type}
    (c : Call τ) :
    Act τ → List (Event τ)
  | .resolve _ => [.resolving c.host c.port]
  | .attempt index none _ => [.opened index, .closed]
  | .attempt index (some limit) (.ok ()) => [.opened index, .connecting index limit]
  | .attempt index (some limit) (.error _) =>
    [.opened index, .connecting index limit, .closed]
  | .exhausted _ => []
  | .send _ _ => [.sent c.request.bytes]
  | .read none _ _ => []
  | .read (some limit) _ _ => [.receiving limit]
  | .close => [.closed]

/-- The limit of an attempt or of a reading step, if it is made. -/
def Act.limit?
    {τ : Type} :
    Act τ → Option (Option τ)
  | .attempt _ limit _ => some limit
  | .read limit _ _ => some limit
  | _ => none

variable {τ : Type} [Seconds τ]

/-- What the client does at a stage of a call, where resolving finds the given exchange, and the
stage that it comes to. -/
inductive Move
    (c : Call τ)
    (found : Except Trouble (Exchange τ))
    (deadline : τ) :
    Stage τ → Leg τ → Stage τ → Prop
  | lost {now : τ} {trouble : Trouble} :
      found = .error trouble →
      Move c found deadline .resolving ⟨now, .resolve (.error trouble), now⟩
        (.over (.error trouble))
  | found {now : τ} {e : Exchange τ} :
      found = .ok e →
      Move c found deadline .resolving ⟨now, .resolve (.ok ()), now⟩
        (.connecting 0 none e.addresses)
  /-- The deadline has passed when an address is to be tried. -/
  | late {now : τ} {index : Nat} {reason : Option String} {s : Step τ} {rest : List (Step τ)} :
      deadline - now ≤ 0 →
      Move c found deadline (.connecting index reason (s :: rest))
        ⟨now, .attempt index none (.error .timeout), now⟩ (.over (.error .timeout))
  /-- Any other attempt has what is left as its limit. -/
  | connected {now : τ} {index : Nat} {reason : Option String} {s : Step τ}
      {rest : List (Step τ)} :
      ¬deadline - now ≤ 0 →
      outcome (deadline - now) s = .ok () →
      Move c found deadline (.connecting index reason (s :: rest))
        ⟨now, .attempt index (some (deadline - now)) (.ok ()), now + duration (deadline - now) s⟩
        (.sending (deadline - now))
  | timedOut {now : τ} {index : Nat} {reason : Option String} {s : Step τ}
      {rest : List (Step τ)} :
      ¬deadline - now ≤ 0 →
      outcome (deadline - now) s = .error .timeout →
      Move c found deadline (.connecting index reason (s :: rest))
        ⟨now, .attempt index (some (deadline - now)) (.error .timeout),
          now + duration (deadline - now) s⟩
        (.over (.error .timeout))
  | skipped {now : τ} {index : Nat} {reason : Option String} {s : Step τ}
      {rest : List (Step τ)} {why : String} :
      ¬deadline - now ≤ 0 →
      outcome (deadline - now) s = .error (.failure why) →
      Move c found deadline (.connecting index reason (s :: rest))
        ⟨now, .attempt index (some (deadline - now)) (.error (.failure why)),
          now + duration (deadline - now) s⟩
        (.connecting (index + 1) (some why) rest)
  /-- No address is left. -/
  | exhausted {now : τ} {index : Nat} {reason : Option String} :
      Move c found deadline (.connecting index reason [])
        ⟨now, .exhausted (reason.getD ("No address found for " ++ c.host)), now⟩
        (.over (.error (.failure (reason.getD ("No address found for " ++ c.host)))))
  | sent {now limit : τ} {e : Exchange τ} :
      found = .ok e →
      outcome limit e.sending = .ok () →
      Move c found deadline (.sending limit)
        ⟨now, .send limit (.ok ()), now + duration limit e.sending⟩
        (.reading [] (e.arrivals.flatMap Arrival.split))
  | unsent {now limit : τ} {e : Exchange τ} {trouble : Trouble} :
      found = .ok e →
      outcome limit e.sending = .error trouble →
      Move c found deadline (.sending limit)
        ⟨now, .send limit (.error trouble), now + duration limit e.sending⟩
        (.closing (.error trouble))
  /-- The deadline has passed when a reading step is due. -/
  | expired {now : τ} {got : Bytes} {arrivals : List (Arrival τ)} :
      deadline - now ≤ 0 →
      Move c found deadline (.reading got arrivals) ⟨now, .read none [] (.error .timeout), now⟩
        (.closing (.error .timeout))
  /-- Any other reading step has what is left as its limit. -/
  | arrived {now : τ} {got chunk : Bytes} {arrivals rest : List (Arrival τ)}
      {waits : List (Step τ)} :
      ¬deadline - now ≤ 0 →
      readStep (deadline - now) arrivals = (waits, .ok chunk, rest) →
      chunk ≠ [] →
      Move c found deadline (.reading got arrivals)
        ⟨now, .read (some (deadline - now)) waits (.ok chunk),
          timeAfter now (deadline - now) waits⟩
        (.reading (got ++ chunk) rest)
  | ended {now : τ} {got : Bytes} {arrivals rest : List (Arrival τ)} {waits : List (Step τ)} :
      ¬deadline - now ≤ 0 →
      readStep (deadline - now) arrivals = (waits, .ok [], rest) →
      Move c found deadline (.reading got arrivals)
        ⟨now, .read (some (deadline - now)) waits (.ok []), timeAfter now (deadline - now) waits⟩
        (.closing (.ok got))
  | broken {now : τ} {got : Bytes} {arrivals rest : List (Arrival τ)} {waits : List (Step τ)}
      {trouble : Trouble} :
      ¬deadline - now ≤ 0 →
      readStep (deadline - now) arrivals = (waits, .error trouble, rest) →
      Move c found deadline (.reading got arrivals)
        ⟨now, .read (some (deadline - now)) waits (.error trouble),
          timeAfter now (deadline - now) waits⟩
        (.closing (.error trouble))
  | closed {now : τ} {result : Except Trouble Bytes} :
      Move c found deadline (.closing result) ⟨now, .close, now⟩ (.over result)

/-- From a stage at a time to a stage at a later time, by moves that begin when the one before
ends. -/
inductive Course
    (c : Call τ)
    (found : Except Trouble (Exchange τ))
    (deadline : τ) :
    τ → Stage τ → List (Leg τ) → τ → Stage τ → Prop
  | refl (now : τ) (stage : Stage τ) :
      Course c found deadline now stage [] now stage
  | move {stage next last : Stage τ} {leg : Leg τ} {legs : List (Leg τ)} {finish : τ} :
      Move c found deadline stage leg next →
      Course c found deadline leg.finish next legs finish last →
      Course c found deadline leg.start stage (leg :: legs) finish last

/-- The events of acts one after the other. -/
def legEvents
    (c : Call τ)
    (legs : List (Leg τ)) :
    List (Event τ) :=
  legs.flatMap fun leg => leg.act.events c

/-- A call, made in a world, goes through legs from the clock of the world to that of the world
after it; they are all that its journal has of the client's steps, and their end is answered. -/
structure Follows
    (w : World τ)
    (c : Call τ)
    (legs : List (Leg τ))
    (result : Except Trouble Bytes) :
    Prop where
  course :
    Course c (resolved w.network c.host) (w.clock + c.timeout) w.clock .resolving legs
      ((call c).run w).2.clock (.over result)
  wire_eq : wire ((call c).run w).2.journal = wire w.journal ++ legEvents c legs
  answer_eq : ((call c).run w).1 = answerTo c result

end Moves

section Rules

variable {τ : Type} [Seconds τ] {c : Call τ} {found : Except Trouble (Exchange τ)} {deadline : τ}

theorem Course.trans
    {now middle finish : τ}
    {stage next last : Stage τ}
    {legs legs' : List (Leg τ)}
    (h : Course c found deadline now stage legs middle next)
    (h' : Course c found deadline middle next legs' finish last) :
    Course c found deadline now stage (legs ++ legs') finish last := by
  induction h with
  | refl =>
      exact h'
  | move hmove _ ih =>
      exact .move hmove (ih h')

/-- What all moves have holds of all legs. -/
theorem Course.forall_of_move
    {P : Leg τ → Prop}
    (hP : ∀ {stage leg next}, Move c found deadline stage leg next → P leg)
    {now finish : τ}
    {stage last : Stage τ}
    {legs : List (Leg τ)}
    (h : Course c found deadline now stage legs finish last) :
    ∀ leg ∈ legs, P leg := by
  induction h with
  | refl =>
      exact List.forall_mem_nil _
  | move hmove _ ih =>
      exact List.forall_mem_cons.mpr ⟨hP hmove, ih⟩

/-- Attempts and reading steps have what is left as their limit, and are not made once the deadline
has passed. -/
theorem Move.limit_eq
    {stage next : Stage τ}
    {leg : Leg τ}
    (hmove : Move c found deadline stage leg next)
    {limit : Option τ}
    (hlimit : leg.act.limit? = some limit) :
    limit = if deadline - leg.start ≤ 0 then none else some (deadline - leg.start) := by
  cases hmove <;> simp_all [Act.limit?]

/-- In one world the client is at one stage, in the other one at another, and the journal has what
it did between them. -/
def Reaches
    (c : Call τ)
    (found : Except Trouble (Exchange τ))
    (deadline : τ)
    (w : World τ)
    (stage : Stage τ)
    (v : World τ)
    (next : Stage τ) :
    Prop :=
  ∃ legs, Course c found deadline w.clock stage legs v.clock next ∧
    v.journal = w.journal ++ legEvents c legs

theorem Reaches.trans
    {u v w : World τ}
    {stage next last : Stage τ}
    (h : Reaches c found deadline u stage v next)
    (h' : Reaches c found deadline v next w last) :
    Reaches c found deadline u stage w last := by
  obtain ⟨legs, hcourse, hjournal⟩ := h
  obtain ⟨legs', hcourse', hjournal'⟩ := h'
  refine ⟨legs ++ legs', hcourse.trans hcourse', ?_⟩
  rw [hjournal', hjournal, legEvents, legEvents, legEvents, List.flatMap_append, List.append_assoc]

/-- One move. -/
theorem Reaches.of_move
    {v w : World τ}
    {stage next : Stage τ}
    {act : Act τ}
    (hmove : Move c found deadline stage ⟨w.clock, act, v.clock⟩ next)
    (hjournal : v.journal = w.journal ++ act.events c) :
    Reaches c found deadline w stage v next := by
  refine ⟨[⟨w.clock, act, v.clock⟩], .move hmove (.refl _ _), ?_⟩
  rw [hjournal, legEvents, List.flatMap_cons, List.flatMap_nil, List.append_nil]

end Rules

section Exchanges

variable {τ : Type} [Seconds τ]

/-- What is ahead at a stage is a part of the exchange that was found. -/
def Stage.IsOf
    (e : Exchange τ) :
    Stage τ → Prop
  | .connecting index _ addresses => addresses = e.addresses.drop index
  | .reading _ arrivals => arrivals <:+ e.arrivals.flatMap Arrival.split
  | _ => True

/-- What comes of a leg, and how long it takes, is as an exchange has it. -/
def Leg.IsOf
    (e : Exchange τ)
    (leg : Leg τ) :
    Prop :=
  match leg.act with
  | .attempt index (some limit) result =>
    ∃ s, e.addresses[index]? = some s ∧ result = outcome limit s ∧
      leg.finish = leg.start + duration limit s
  | .send limit result =>
    result = outcome limit e.sending ∧ leg.finish = leg.start + duration limit e.sending
  | .read (some limit) waits result =>
    ∃ arrivals rest, arrivals <:+ e.arrivals.flatMap Arrival.split ∧
      readStep limit arrivals = (waits, result, rest) ∧
        leg.finish = timeAfter leg.start limit waits
  | _ => leg.finish = leg.start

/-- What a reading step leaves is a part of what was to arrive. -/
theorem suffix_of_readStep
    {limit : τ}
    {arrivals rest : List (Arrival τ)}
    {waits : List (Step τ)}
    {result : Except Trouble Bytes}
    (hstep : readStep limit arrivals = (waits, result, rest)) :
    rest <:+ arrivals := by
  fun_induction readStep limit arrivals generalizing waits with
  | case1 =>
      cases hstep
      exact List.suffix_rfl
  | case2 | case3 =>
      cases hstep
      exact List.suffix_cons _ _
  | case4 s later houtcome ih =>
      obtain ⟨-, hrest⟩ := Prod.mk.inj hstep
      exact (ih (Prod.ext rfl hrest)).trans (List.suffix_cons _ _)

variable {c : Call τ} {deadline : τ} {e : Exchange τ}

/-- Addresses are taken from the front. -/
theorem getElem?_of_cons_eq_drop
    {α : Type}
    {x : α}
    {rest xs : List α}
    {index : Nat}
    (h : x :: rest = xs.drop index) :
    xs[index]? = some x ∧ rest = xs.drop (index + 1) := by
  constructor
  · rw [← List.head?_drop, ← h, List.head?_cons]
  · rw [← List.tail_drop, ← h, List.tail_cons]

theorem Move.isOf
    {stage next : Stage τ}
    {leg : Leg τ}
    (hmove : Move c (.ok e) deadline stage leg next)
    (hstage : stage.IsOf e) :
    leg.IsOf e ∧ next.IsOf e := by
  cases hmove with
  | found hfound =>
      cases hfound
      exact ⟨rfl, List.drop_zero.symm⟩
  | connected _ houtcome | timedOut _ houtcome =>
      exact ⟨⟨_, (getElem?_of_cons_eq_drop hstage).1, houtcome.symm, rfl⟩, trivial⟩
  | skipped _ houtcome =>
      obtain ⟨haddress, hrest⟩ := getElem?_of_cons_eq_drop hstage
      exact ⟨⟨_, haddress, houtcome.symm, rfl⟩, hrest⟩
  | sent hfound houtcome =>
      cases hfound
      exact ⟨⟨houtcome.symm, rfl⟩, List.suffix_rfl⟩
  | unsent hfound houtcome =>
      cases hfound
      exact ⟨⟨houtcome.symm, rfl⟩, trivial⟩
  | arrived _ hstep _ =>
      exact ⟨⟨_, _, hstage, hstep, rfl⟩, (suffix_of_readStep hstep).trans hstage⟩
  | ended _ hstep | broken _ hstep =>
      exact ⟨⟨_, _, hstage, hstep, rfl⟩, trivial⟩
  | _ =>
      exact ⟨rfl, trivial⟩

/-- All legs are of the exchange that was found. -/
theorem Course.isOf
    {now finish : τ}
    {stage last : Stage τ}
    {legs : List (Leg τ)}
    (h : Course c (.ok e) deadline now stage legs finish last)
    (hstage : stage.IsOf e) :
    ∀ leg ∈ legs, leg.IsOf e := by
  induction h with
  | refl =>
      exact List.forall_mem_nil _
  | move hmove _ ih =>
      obtain ⟨hleg, hnext⟩ := hmove.isOf hstage
      exact List.forall_mem_cons.mpr ⟨hleg, ih hnext⟩

end Exchanges

section Steps

variable {τ : Type} [Seconds τ] {w : World τ}

theorem after_perform_iff
    {limit : τ}
    {step : Step τ}
    {Q : Except Trouble Unit → World τ → Prop} :
    After (perform limit step) w Q ↔ Q (outcome limit step) (w.later (duration limit step)) := by
  rw [outcome, duration]
  split
  next hlt => exact after_perform_of_lt hlt
  next hle => exact after_perform_of_le hle

/-- Reading goes on with a reading step that has begun, and then with the next one. -/
theorem after_receive_iff
    {deadline limit : τ}
    {got : Bytes}
    {arrivals rest : List (Arrival τ)}
    {waits : List (Step τ)}
    {result : Except Trouble Bytes}
    (hstep : readStep limit arrivals = (waits, result, rest))
    {R : Except Trouble Bytes → World τ → Prop} :
    After (receive deadline (some limit) got arrivals) w R ↔
      ending (fun trouble => R (.error trouble))
        (fun chunk v =>
          if chunk = [] then R (.ok got) v
          else After (receive deadline none (got ++ chunk) rest) v R)
        result { w with clock := timeAfter w.clock limit waits } := by
  induction arrivals generalizing w waits result rest with
  | nil =>
      cases hstep
      rfl
  | cons arrival arrivals ih =>
      cases arrival with
      | bytes chunk =>
          cases hstep
          exact after_receive_bytes
      | wait s =>
          rw [after_receive_wait, after_perform_iff]
          rw [readStep] at hstep
          cases houtcome : outcome limit s with
          | error trouble =>
              rw [houtcome] at hstep
              cases hstep
              rfl
          | ok =>
              rw [houtcome] at hstep
              obtain ⟨rfl, hrest⟩ := Prod.mk.inj hstep
              have hrest' :
                  readStep limit arrivals = ((readStep limit arrivals).1, result, rest) :=
                Prod.ext rfl hrest
              exact ih hrest'

/-- Fewer things are left to arrive once a chunk has. -/
theorem length_lt_of_readStep
    {limit : τ}
    {arrivals rest : List (Arrival τ)}
    {waits : List (Step τ)}
    {chunk : Bytes}
    (hstep : readStep limit arrivals = (waits, .ok chunk, rest))
    (hchunk : chunk ≠ []) :
    rest.length < arrivals.length := by
  fun_induction readStep limit arrivals generalizing waits with
  | case1 =>
      cases hstep
      exact absurd rfl hchunk
  | case2 =>
      cases hstep
      exact Nat.lt_succ_self _
  | case3 =>
      cases hstep
  | case4 s later houtcome ih =>
      obtain ⟨-, hrest⟩ := Prod.mk.inj hstep
      exact (ih (Prod.ext rfl hrest)).trans (Nat.lt_succ_self _)

end Steps

section Events

variable {τ : Type}

theorem Act.all_isWire_events
    (c : Call τ)
    (act : Act τ) :
    (act.events c).all Event.isWire = true := by
  rcases act with _ | ⟨_, _ | _, _ | _⟩ | _ | _ | ⟨_ | _, _, _⟩ | _ <;> rfl

/-- The events of acts are steps of the client. -/
theorem wire_legEvents
    (c : Call τ)
    (legs : List (Leg τ)) :
    wire (legEvents c legs) = legEvents c legs := by
  refine List.filter_eq_self.mpr fun event hevent => ?_
  obtain ⟨leg, -, hevent⟩ := List.mem_flatMap.mp hevent
  exact List.all_eq_true.mp (leg.act.all_isWire_events c) event hevent

/-- An event that is no step of the client is not among its steps. -/
theorem wire_noted
    (w : World τ)
    {e : Event τ}
    (he : e.isWire = false) :
    wire (w.noted e).journal = wire w.journal := by
  simp [World.noted, wire, he]

end Events

section Runs

variable {τ : Type} [Seconds τ] {c : Call τ} {found : Except Trouble (Exchange τ)} {deadline : τ}
variable {w : World τ}

/-- The stage behind the attempts. -/
def Stage.afterAttempts : Except Trouble τ → Stage τ
  | .ok limit => .sending limit
  | .error trouble => .over (.error trouble)

theorem after_connect_reaches
    (found : Except Trouble (Exchange τ))
    (index : Nat)
    (reason : Option String)
    (addresses : List (Step τ)) :
    After (connect c.host deadline index reason addresses) w fun result v =>
      Reaches c found deadline w (.connecting index reason addresses) v
        (.afterAttempts result) := by
  induction addresses generalizing w index reason with
  | nil =>
      exact .of_move .exhausted (List.append_nil _).symm
  | cons s rest ih =>
      by_cases hleft : deadline - w.clock ≤ 0
      · rw [after_connect_of_passed hleft]
        refine .of_move (.late hleft) ?_
        exact List.append_assoc w.journal [.opened index] [.closed]
      rw [after_connect_of_left hleft, after_perform_iff]
      have htwice :
          w.journal ++ [.opened index] ++ [.connecting index (deadline - w.clock)] =
            w.journal ++ [.opened index, .connecting index (deadline - w.clock)] :=
        List.append_assoc w.journal [.opened index] [.connecting index (deadline - w.clock)]
      have hthrice :
          w.journal ++ [.opened index] ++ [.connecting index (deadline - w.clock)] ++ [.closed] =
            w.journal ++ [.opened index, .connecting index (deadline - w.clock), .closed] := by
        rw [htwice, List.append_assoc]
        rfl
      cases houtcome : outcome (deadline - w.clock) s with
      | ok =>
          exact .of_move (.connected hleft houtcome) htwice
      | error trouble =>
          cases trouble with
          | timeout =>
              exact .of_move (.timedOut hleft houtcome) hthrice
          | failure why =>
              refine After.mono (ih (index + 1) (some why)) fun result v h => ?_
              exact .trans (.of_move (.skipped hleft houtcome) hthrice) h

/-- Reading goes step by step, each with what is left when it begins. -/
theorem after_receive_reaches
    (found : Except Trouble (Exchange τ))
    (got : Bytes)
    (arrivals : List (Arrival τ)) :
    After (receive deadline none got arrivals) w fun result v =>
      Reaches c found deadline w (.reading got arrivals) v (.closing result) := by
  -- One reading step may use up several arrivals, so the induction is on how many are left.
  induction hlength : arrivals.length using Nat.strong_induction_on generalizing w got arrivals with
  | _ length ih =>
      by_cases hleft : deadline - w.clock ≤ 0
      · rw [after_receive_of_passed hleft]
        exact .of_move (.expired hleft) (List.append_nil _).symm
      obtain ⟨waits, result, rest, hstep⟩ :
          ∃ waits result rest, readStep (deadline - w.clock) arrivals = (waits, result, rest) :=
        ⟨_, _, _, rfl⟩
      rw [after_receive_of_left hleft, after_receive_iff hstep]
      cases result with
      | error trouble =>
          exact .of_move (.broken hleft hstep) rfl
      | ok chunk =>
          by_cases hchunk : chunk = []
          · subst hchunk
            exact .of_move (.ended hleft hstep) rfl
          · dsimp only [ending]
            rw [if_neg hchunk]
            have hshorter : rest.length < length := by
              rw [← hlength]
              exact length_lt_of_readStep hstep hchunk
            refine After.mono (ih rest.length hshorter (got ++ chunk) rest rfl) fun answer v h => ?_
            exact .trans (.of_move (.arrived hleft hstep hchunk) rfl) h

theorem after_converse_reaches
    {e : Exchange τ}
    (hfound : found = .ok e)
    (limit : τ) :
    After (converse deadline limit c.request e) w fun result v =>
      Reaches c found deadline w (.sending limit) v (.closing result) := by
  rw [after_converse_iff, after_perform_iff]
  cases houtcome : outcome limit e.sending with
  | error trouble =>
      exact .of_move (.unsent hfound houtcome) rfl
  | ok =>
      dsimp only [ending]
      refine After.mono (after_receive_reaches (c := c) found [] _) fun result v h => ?_
      exact .trans (.of_move (.sent hfound houtcome) rfl) h

theorem after_transfer_reaches :
    After (transfer c deadline) w fun result v =>
      Reaches c (resolved w.network c.host) deadline w .resolving v (.over result) := by
  have hresolving : ∀ trouble, resolved w.network c.host = .error trouble →
      Reaches c (resolved w.network c.host) deadline w .resolving
        (w.noted (.resolving c.host c.port)) (.over (.error trouble)) :=
    fun trouble htrouble => .of_move (.lost htrouble) rfl
  cases hfault : HostName.fault? c.host with
  | some fault =>
      rw [after_transfer_of_fault hfault]
      refine hresolving _ ?_
      simp only [resolved, hfault]
  | none =>
  cases htake : w.network.take c.host with
  | none =>
      rw [after_transfer_of_unknown hfault htake]
      refine hresolving _ ?_
      simp only [resolved, hfault, htake]
  | some taken =>
  obtain ⟨e, network⟩ := taken
  rw [after_transfer_of_exchange hfault htake]
  cases htrouble : e.resolving with
  | some trouble =>
      refine hresolving _ ?_
      simp only [resolved, hfault, htake, htrouble]
  | none =>
  have hfound : resolved w.network c.host = .ok e := by
    simp only [resolved, hfault, htake, htrouble]
  have hbegun : Reaches c (resolved w.network c.host) deadline w .resolving
      ((w.noted (.resolving c.host c.port)).facing network) (.connecting 0 none e.addresses) :=
    .of_move (.found hfound) rfl
  refine After.mono (after_connect_reaches (resolved w.network c.host) 0 none e.addresses) ?_
  intro answer u hconnected
  cases answer with
  | error trouble =>
      exact hbegun.trans hconnected
  | ok limit =>
      dsimp only [ending]
      refine After.mono (after_converse_reaches hfound limit) fun result v htalked => ?_
      exact ((hbegun.trans hconnected).trans htalked).trans (.of_move .closed rfl)

/-- Every call follows a course to its end. -/
theorem exists_follows
    (c : Call τ)
    (w : World τ) :
    ∃ legs result, Follows w c legs result := by
  have hcall : After (call c) w fun answer v => ∃ legs result,
      Course c (resolved w.network c.host) (w.clock + c.timeout) w.clock .resolving legs v.clock
        (.over result) ∧
      wire v.journal = wire w.journal ++ legEvents c legs ∧ answer = answerTo c result := by
    rw [call]
    simp only [after_bind_iff, after_note_iff, after_time_iff, after_remark_iff]
    refine After.mono (after_transfer_reaches (w := (w.noted _).noted _)) fun result v h => ?_
    obtain ⟨legs, hcourse, hjournal⟩ := h
    -- The records in front of the transfer and behind it are no steps of the client.
    have hwire : wire v.journal = wire w.journal ++ legEvents c legs := by
      rw [hjournal, wire_append, wire_legEvents, wire_noted _ rfl, wire_noted _ rfl]
    cases result with
    | error trouble =>
        exact ⟨legs, _, hcourse, hwire, rfl⟩
    | ok bytes =>
        dsimp only
        cases hread : Response.read bytes with
        | error fault =>
            refine ⟨legs, _, hcourse, hwire, ?_⟩
            simp only [answerTo, hread]
            rfl
        | ok response =>
            refine ⟨legs, _, hcourse, ?_, ?_⟩
            · exact (wire_noted v rfl).trans hwire
            · simp only [answerTo, hread]
              rfl
  obtain ⟨legs, result, hcourse, hwire, hanswer⟩ := hcall
  exact ⟨legs, result, hcourse, hwire, hanswer⟩

end Runs

end Client

end ManagedSwitch
