import ManagedSwitch.Proofs.Net.Ending

/-!
# The sockets of a call

Each address that is tried gets a socket of its own.  What the journal has of a socket is its
`Life`, which ends with its being closed: it is not used, or not connected, or it takes the request
and is read from.  The steps of a call are the lives of its sockets one after the other, so that
each one is closed before the next one is created and none is left open when the call is over
(`call_sockets_closed`); only the last one can be connected, since all in front of it were refused.
-/

namespace ManagedSwitch
namespace Client

section Lives

variable {τ : Type}

/-- What becomes of a socket. -/
inductive Life (τ : Type)
  /-- The deadline has passed before it is used. -/
  | idle
  | refused (limit : τ) (trouble : Trouble)
  /-- It is connected, sent bytes and read from, each time with a limit. -/
  | used (limit : τ) (bytes : Bytes) (limits : List τ)

/-- What the journal has of the socket for the address with an index. -/
def Life.events
    (index : Nat) :
    Life τ → List (Event τ)
  | .idle => [.opened index, .closed]
  | .refused limit _ => [.opened index, .connecting index limit, .closed]
  | .used limit bytes limits =>
    [.opened index, .connecting index limit, .sent bytes] ++ limits.map .receiving ++ [.closed]

/-- What comes of the attempt to connect a socket. -/
def Life.result : Life τ → Except Trouble Unit
  | .idle => .error .timeout
  | .refused _ trouble => .error trouble
  | .used .. => .ok ()

def isOpened : Event τ → Bool
  | .opened _ => true
  | _ => false

def isClosed : Event τ → Bool
  | .closed => true
  | _ => false

/-- Sockets live one after the other, the first one having the given index: events are those of
their lives, and attempts have the results of their lives. -/
structure Lived
    (c : Call τ)
    (index : Nat)
    (lives : List (Life τ))
    (events : List (Event τ))
    (tried : List (Nat × Except Trouble Unit)) :
    Prop where
  events_eq : events = (lives.mapIdx fun i life => life.events (index + i)).flatten
  tried_eq : tried = lives.mapIdx fun i life => (index + i, life.result)
  /-- All sockets in front of the last one were refused. -/
  refused : ∀ life ∈ lives.dropLast, ∃ limit why, life = .refused limit (.failure why)
  sent : ∀ limit bytes limits, .used limit bytes limits ∈ lives → bytes = c.request.bytes

variable {c : Call τ} {index : Nat} {events : List (Event τ)}
variable {tried : List (Nat × Except Trouble Unit)} {lives : List (Life τ)}

theorem Lived.nil
    (hevents : events = [])
    (htried : tried = []) :
    Lived c index [] events tried where
  events_eq := hevents
  tried_eq := htried
  refused := List.forall_mem_nil _
  sent := nofun

theorem Lived.single
    {life : Life τ}
    (hevents : events = life.events index)
    (htried : tried = [(index, life.result)])
    (hsent : ∀ limit bytes limits, life = .used limit bytes limits → bytes = c.request.bytes) :
    Lived c index [life] events tried where
  events_eq := hevents.trans (List.append_nil _).symm
  tried_eq := htried
  refused := List.forall_mem_nil _
  sent limit bytes limits hlife := hsent limit bytes limits (List.mem_singleton.mp hlife).symm

/-- Behind the first life, indices go on from the next one. -/
theorem mapIdx_cons_from
    {α : Type}
    (f : Nat → Life τ → α)
    (index : Nat)
    (life : Life τ)
    (lives : List (Life τ)) :
    ((life :: lives).mapIdx fun i => f (index + i)) =
      f index life :: lives.mapIdx fun i => f (index + 1 + i) := by
  have hindex : ∀ i, index + 1 + i = index + (i + 1) := by omega
  rw [List.mapIdx_cons]
  simp only [hindex]
  rfl

/-- Behind a socket that was refused comes the next one. -/
theorem Lived.cons
    (h : Lived c (index + 1) lives events tried)
    (limit : τ)
    (why : String) :
    Lived c index (.refused limit (.failure why) :: lives)
      ([.opened index, .connecting index limit, .closed] ++ events)
      ((index, .error (.failure why)) :: tried) where
  events_eq := by
    rw [h.events_eq, mapIdx_cons_from (fun i life => life.events i)]
    rfl
  tried_eq := by
    rw [h.tried_eq, mapIdx_cons_from (fun i life => (i, life.result))]
    rfl
  refused := by
    cases lives with
    | nil =>
        exact List.forall_mem_nil _
    | cons life lives =>
        rw [List.dropLast_cons_cons]
        exact List.forall_mem_cons.mpr ⟨⟨limit, why, rfl⟩, h.refused⟩
  sent limit bytes limits hlife := by
    obtain hfirst | hrest := List.mem_cons.mp hlife
    · exact nomatch hfirst
    · exact h.sent limit bytes limits hrest

/-- What each life has once, all of them have as often as there are attempts. -/
theorem Lived.countP_eq
    {p : Event τ → Bool}
    (h : Lived c index lives events tried)
    (hp : ∀ i (life : Life τ), (life.events i).countP p = 1) :
    events.countP p = tried.length := by
  rw [h.events_eq, h.tried_eq, List.length_mapIdx, List.countP_flatten]
  have hone : ∀ n ∈ (lives.mapIdx fun i life => life.events (index + i)).map (List.countP p),
      n = 1 := by
    intro n hn
    obtain ⟨es, hes, rfl⟩ := List.mem_map.mp hn
    obtain ⟨i, hi, rfl⟩ := List.mem_mapIdx.mp hes
    exact hp _ _
  rw [List.eq_replicate_of_mem hone, List.sum_replicate_nat, List.length_map, List.length_mapIdx,
    Nat.mul_one]

theorem Life.countP_isOpened
    (index : Nat)
    (life : Life τ) :
    (life.events index).countP isOpened = 1 := by
  cases life with
  | idle | refused =>
      rfl
  | used limit bytes limits =>
      simp [events, isOpened, List.countP_cons, List.countP_append]

theorem Life.countP_isClosed
    (index : Nat)
    (life : Life τ) :
    (life.events index).countP isClosed = 1 := by
  cases life with
  | idle | refused =>
      rfl
  | used limit bytes limits =>
      simp [events, isClosed, List.countP_cons, List.countP_append]

end Lives

section Courses

variable {τ : Type} [Seconds τ]

/-- The legs from a stage to the end of a call leave no socket open. -/
def Stage.Leaves
    (c : Call τ)
    (legs : List (Leg τ)) :
    Stage τ → Prop
  | .resolving => ∃ lives events,
    legEvents c legs = .resolving c.host c.port :: events ∧
      Lived c 0 lives events (attempts legs)
  | .connecting index _ _ => ∃ lives, Lived c index lives (legEvents c legs) (attempts legs)
  | .sending _ => ∃ limits : List τ,
    legEvents c legs = .sent c.request.bytes :: limits.map .receiving ++ [.closed] ∧
      attempts legs = []
  | .reading .. => ∃ limits : List τ,
    legEvents c legs = limits.map .receiving ++ [.closed] ∧ attempts legs = []
  | .closing _ => legEvents c legs = [.closed] ∧ attempts legs = []
  | .over _ => legEvents c legs = [] ∧ attempts legs = []

variable {c : Call τ} {found : Except Trouble (Exchange τ)} {deadline : τ}
variable {stage next : Stage τ} {leg : Leg τ} {legs : List (Leg τ)}

theorem Move.leaves
    (hmove : Move c found deadline stage leg next)
    (h : next.Leaves c legs) :
    stage.Leaves c (leg :: legs) := by
  cases hmove with
  | lost =>
      exact ⟨[], [], congrArg (List.cons _) h.1, .nil rfl h.2⟩
  | found =>
      obtain ⟨lives, hlives⟩ := h
      exact ⟨lives, legEvents c legs, rfl, hlives⟩
  | late =>
      refine ⟨[.idle], .single ?_ ?_ nofun⟩
      · exact congrArg ([_, _] ++ ·) h.1
      · exact congrArg (List.cons _) h.2
  | @connected now index =>
      obtain ⟨limits, hevents, hattempts⟩ := h
      refine ⟨[.used (deadline - now) c.request.bytes limits], .single ?_ ?_ ?_⟩
      · exact congrArg ([.opened index, .connecting index (deadline - now)] ++ ·) hevents
      · exact congrArg (List.cons _) hattempts
      · rintro _ _ _ ⟨⟩
        rfl
  | @timedOut now index =>
      refine ⟨[.refused (deadline - now) .timeout], .single ?_ ?_ nofun⟩
      · exact congrArg ([.opened index, .connecting index (deadline - now), .closed] ++ ·) h.1
      · exact congrArg (List.cons _) h.2
  | skipped =>
      obtain ⟨lives, hlives⟩ := h
      exact ⟨_, hlives.cons _ _⟩
  | exhausted =>
      exact ⟨[], .nil h.1 h.2⟩
  | sent =>
      obtain ⟨limits, hevents, hattempts⟩ := h
      exact ⟨limits, congrArg (List.cons _) hevents, hattempts⟩
  | unsent =>
      exact ⟨[], congrArg (List.cons _) h.1, h.2⟩
  | expired =>
      exact ⟨[], h⟩
  | @arrived now =>
      obtain ⟨limits, hevents, hattempts⟩ := h
      exact ⟨(deadline - now) :: limits, congrArg (List.cons _) hevents, hattempts⟩
  | @ended now =>
      exact ⟨[deadline - now], congrArg (List.cons _) h.1, h.2⟩
  | @broken now =>
      exact ⟨[deadline - now], congrArg (List.cons _) h.1, h.2⟩
  | closed =>
      exact ⟨congrArg (List.cons _) h.1, h.2⟩

theorem Course.leaves
    {now finish : τ}
    {last : Stage τ}
    (h : Course c found deadline now stage legs finish last)
    (hlast : last.Leaves c []) :
    stage.Leaves c legs := by
  induction h with
  | refl =>
      exact hlast
  | move hmove _ ih =>
      exact hmove.leaves (ih hlast)

end Courses

end Client

end ManagedSwitch
