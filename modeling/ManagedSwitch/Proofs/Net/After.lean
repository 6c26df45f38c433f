import ManagedSwitch.Net.Client

/-!
# What holds after a run

`After m w Q` says that the run `m`, made in the world `w`, ends with a result and in a world that
satisfy `Q`.  Sequences are taken apart from the front; each action has a lemma that says what it
does to the world.
-/

namespace ManagedSwitch

section Rules

variable {τ α β : Type}

/-- The result of a run and the world after it. -/
def After
    (m : Run τ α)
    (w : World τ)
    (Q : α → World τ → Prop) :
    Prop :=
  Q (m.run w).1 (m.run w).2

variable {w : World τ} {Q : α → World τ → Prop}

@[simp] theorem after_pure_iff
    {a : α} :
    After (pure a) w Q ↔ Q a w :=
  Iff.rfl

@[simp] theorem after_bind_iff
    {m : Run τ β}
    {f : β → Run τ α} :
    After (m >>= f) w Q ↔ After m w fun b v => After (f b) v Q :=
  Iff.rfl

theorem After.mono
    {m : Run τ α}
    {R : α → World τ → Prop}
    (h : After m w Q)
    (hQR : ∀ a v, Q a v → R a v) :
    After m w R :=
  hQR _ _ h

/-- What has to hold when a step fails and when it is done. -/
def ending
    (failed : Trouble → World τ → Prop)
    (done : α → World τ → Prop) :
    Except Trouble α → World τ → Prop
  | .error trouble => failed trouble
  | .ok a => done a

end Rules

section Actions

variable {τ : Type} {w : World τ}

/-- The world with an event more. -/
def World.noted
    (w : World τ)
    (e : Event τ) :
    World τ :=
  { w with journal := w.journal ++ [e] }

@[simp] theorem World.noted_clock
    (e : Event τ) :
    (w.noted e).clock = w.clock :=
  rfl

@[simp] theorem after_note_iff
    {e : Event τ}
    {Q : Unit → World τ → Prop} :
    After (note e) w Q ↔ Q () (w.noted e) :=
  Iff.rfl

@[simp] theorem after_remark_iff
    {r : Record}
    {Q : Unit → World τ → Prop} :
    After (remark r) w Q ↔ Q () (w.noted (.logged r)) :=
  Iff.rfl

@[simp] theorem after_time_iff
    {Q : τ → World τ → Prop} :
    After time w Q ↔ Q w.clock w :=
  Iff.rfl

/-- The world with another network. -/
def World.facing
    (w : World τ)
    (network : Network τ) :
    World τ :=
  { w with network := network }

/-- An exchange of the host is taken where there is one. -/
theorem after_takeExchange_iff
    {host : String}
    {Q : Option (Exchange τ) → World τ → Prop} :
    After (takeExchange host) w Q ↔
      match w.network.take host with
      | none => Q none w
      | some (e, network) => Q (some e) (w.facing network) := by
  simp only [After, takeExchange, StateT.run, modifyGet, MonadStateOf.modifyGet, StateT.modifyGet]
  cases w.network.take host <;> rfl

variable [Seconds τ]

/-- The world some time later. -/
def World.later
    (w : World τ)
    (span : τ) :
    World τ :=
  { w with clock := w.clock + span }

end Actions

section Steps

namespace Client

variable {τ : Type} [Seconds τ] {w : World τ}

/-- A step under a limit that it keeps to. -/
theorem after_perform_of_le
    {limit : τ}
    {step : Step τ}
    (hle : ¬ limit < step.took)
    {Q : Except Trouble Unit → World τ → Prop} :
    After (perform limit step) w Q ↔
      Q (match step.trouble with | none => .ok () | some trouble => .error trouble)
        (w.later step.took) := by
  rw [perform, if_neg hle]
  rfl

/-- A step that takes longer than its limit. -/
theorem after_perform_of_lt
    {limit : τ}
    {step : Step τ}
    (hlt : limit < step.took)
    {Q : Except Trouble Unit → World τ → Prop} :
    After (perform limit step) w Q ↔ Q (.error .timeout) (w.later limit) := by
  rw [perform, if_pos hlt]
  rfl

theorem after_remaining?_of_passed
    {deadline : τ}
    (hpassed : deadline - w.clock ≤ 0)
    {Q : Option τ → World τ → Prop} :
    After (remaining? deadline) w Q ↔ Q none w := by
  show Q (if deadline - w.clock ≤ 0 then none else some (deadline - w.clock)) w ↔ Q none w
  rw [if_pos hpassed]

theorem after_remaining?_of_left
    {deadline : τ}
    (hleft : ¬ deadline - w.clock ≤ 0)
    {Q : Option τ → World τ → Prop} :
    After (remaining? deadline) w Q ↔ Q (some (deadline - w.clock)) w := by
  show Q (if deadline - w.clock ≤ 0 then none else some (deadline - w.clock)) w ↔ _
  rw [if_neg hleft]

variable {host : String} {deadline : τ} {index : Nat} {reason : Option String}
variable {address : Step τ} {rest : List (Step τ)} {Q : Except Trouble τ → World τ → Prop}

/-- No connection is attempted once the deadline has passed. -/
theorem after_connect_of_passed
    (hpassed : deadline - w.clock ≤ 0) :
    After (connect host deadline index reason (address :: rest)) w Q ↔
      Q (.error .timeout) ((w.noted (.opened index)).noted .closed) := by
  have hpassed' : deadline - (w.noted (.opened index)).clock ≤ 0 := hpassed
  rw [connect, after_bind_iff, after_note_iff, after_bind_iff, after_remaining?_of_passed hpassed']
  rfl

/-- An attempt to connect runs under what is left. -/
theorem after_connect_of_left
    (hleft : ¬ deadline - w.clock ≤ 0) :
    After (connect host deadline index reason (address :: rest)) w Q ↔
      After (perform (deadline - w.clock) address)
        ((w.noted (.opened index)).noted (.connecting index (deadline - w.clock)))
        fun result v =>
          match result with
          | .ok () => Q (.ok (deadline - w.clock)) v
          | .error .timeout => Q (.error .timeout) (v.noted .closed)
          | .error (.failure reason) =>
            After (connect host deadline (index + 1) (some reason) rest) (v.noted .closed) Q := by
  have hleft' : ¬ deadline - (w.noted (.opened index)).clock ≤ 0 := hleft
  rw [connect, after_bind_iff, after_note_iff, after_bind_iff, after_remaining?_of_left hleft']
  simp only [after_bind_iff, after_note_iff, World.noted_clock]
  refine iff_of_eq (congrArg _ (funext fun result => funext fun v => ?_))
  rcases result with (_ | reason) | ⟨⟨⟩⟩ <;> rfl

variable {limit : τ} {got : Bytes} {arrivals : List (Arrival τ)}
variable {R : Except Trouble Bytes → World τ → Prop}

/-- No reading step begins once the deadline has passed. -/
theorem after_receive_of_passed
    (hpassed : deadline - w.clock ≤ 0) :
    After (receive deadline none got arrivals) w R ↔ R (.error .timeout) w := by
  rcases arrivals with _ | ⟨_ | _, arrivals⟩ <;>
    rw [receive, readLimit?, after_bind_iff, after_bind_iff,
      after_remaining?_of_passed hpassed] <;>
    rfl

/-- A reading step begins with what is left. -/
theorem after_receive_of_left
    (hleft : ¬ deadline - w.clock ≤ 0) :
    After (receive deadline none got arrivals) w R ↔
      After (receive deadline (some (deadline - w.clock)) got arrivals)
        (w.noted (.receiving (deadline - w.clock))) R := by
  rcases arrivals with _ | ⟨_ | _, arrivals⟩ <;>
    rw [receive, readLimit?, after_bind_iff, after_bind_iff,
      after_remaining?_of_left hleft] <;>
    rfl

/-- A chunk that is not empty ends a reading step. -/
theorem after_receive_bytes
    {chunk : Bytes} :
    After (receive deadline (some limit) got (.bytes chunk :: arrivals)) w R ↔
      if chunk = [] then
        R (.ok got) w
      else
        After (receive deadline none (got ++ chunk) arrivals) w R := by
  cases chunk <;> rfl

/-- A wait belongs to the reading step that has begun. -/
theorem after_receive_wait
    {step : Step τ} :
    After (receive deadline (some limit) got (.wait step :: arrivals)) w R ↔
      After (perform limit step) w
        (ending (fun trouble => R (.error trouble)) fun _ v =>
          After (receive deadline (some limit) got arrivals) v R) := by
  rw [receive, readLimit?, after_bind_iff, after_pure_iff]
  simp only [after_bind_iff]
  refine iff_of_eq (congrArg _ (funext fun result => funext fun v => ?_))
  rcases result with trouble | ⟨⟨⟩⟩ <;> rfl

/-- Sending runs under the limit of connecting. -/
theorem after_converse_iff
    {request : Request}
    {e : Exchange τ} :
    After (converse deadline limit request e) w R ↔
      After (perform limit e.sending) (w.noted (.sent request.bytes))
        (ending (fun trouble => R (.error trouble)) fun _ v =>
          After (receive deadline none [] (e.arrivals.flatMap Arrival.split)) v R) := by
  rw [converse]
  simp only [after_bind_iff, after_note_iff]
  refine iff_of_eq (congrArg _ (funext fun result => funext fun v => ?_))
  rcases result with trouble | ⟨⟨⟩⟩ <;> rfl

variable {c : Call τ}

/-- A host name that cannot be encoded is not looked up. -/
theorem after_transfer_of_fault
    {fault : HostName.Fault}
    (hfault : HostName.fault? c.host = some fault) :
    After (transfer c deadline) w R ↔
      R (.error (.failure fault.message)) (w.noted (.resolving c.host c.port)) := by
  rw [transfer]
  simp only [after_bind_iff, after_note_iff, hfault, after_pure_iff]

/-- Without an exchange the host is not known. -/
theorem after_transfer_of_unknown
    (hfault : HostName.fault? c.host = none)
    (htake : w.network.take c.host = none) :
    After (transfer c deadline) w R ↔
      R (.error (.failure "[Errno -2] Name or service not known"))
        (w.noted (.resolving c.host c.port)) := by
  have htake' : (w.noted (.resolving c.host c.port)).network.take c.host = none := htake
  rw [transfer]
  simp only [after_bind_iff, after_note_iff, hfault, after_takeExchange_iff, htake',
    after_pure_iff]

/-- With an exchange the host is resolved, connected to and talked to, and then the connection is
closed. -/
theorem after_transfer_of_exchange
    {e : Exchange τ}
    {network : Network τ}
    (hfault : HostName.fault? c.host = none)
    (htake : w.network.take c.host = some (e, network)) :
    After (transfer c deadline) w R ↔
      match e.resolving with
      | some trouble => R (.error trouble) ((w.noted (.resolving c.host c.port)).facing network)
      | none =>
        After (connect c.host deadline 0 none e.addresses)
          ((w.noted (.resolving c.host c.port)).facing network)
          (ending (fun trouble => R (.error trouble)) fun limit v =>
            After (converse deadline limit c.request e) v fun answer v =>
              R answer (v.noted .closed)) := by
  have htake' : (w.noted (.resolving c.host c.port)).network.take c.host = some (e, network) :=
    htake
  rw [transfer]
  simp only [after_bind_iff, after_note_iff, hfault, after_takeExchange_iff, htake']
  cases e.resolving with
  | some trouble =>
      exact Iff.rfl
  | none =>
      dsimp only
      rw [after_bind_iff]
      refine iff_of_eq (congrArg _ (funext fun result => funext fun v => ?_))
      cases result <;> rfl

/-- A call takes the time of its transfer. -/
theorem after_call_clock_iff
    (P : τ → Prop) :
    ∃ v : World τ, v.clock = w.clock ∧ v.network = w.network ∧
      (After (call c) w (fun _ u => P u.clock) ↔
        After (transfer c (w.clock + c.timeout)) v fun _ u => P u.clock) := by
  rw [call]
  simp only [after_bind_iff, after_note_iff, after_time_iff, after_remark_iff]
  refine ⟨_, ?_, ?_, iff_of_eq (congrArg (After (transfer c _) _)
    (funext fun result => funext fun u => ?_))⟩
  · rfl
  · rfl
  cases result with
  | error trouble =>
      rfl
  | ok bytes =>
      dsimp only
      cases Response.read bytes <;> rfl

end Client

end Steps

end ManagedSwitch
