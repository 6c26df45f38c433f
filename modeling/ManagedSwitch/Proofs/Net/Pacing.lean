import Mathlib
import ManagedSwitch.Proofs.Net.Ending
import ManagedSwitch.Proofs.Net.Lateness

/-!
# The limits of a call

Every attempt and every reading step of a call has as its limit what is left until the deadline when
it begins, and none begins once nothing is left.  With an exact clock that never goes back, these
limits fall in the course of a call (`call_paced`), and an attempt is over by the deadline, and so
is a reading step that waits no longer than its limit in all.  A limit holds for each wait of a
reading step though, and not for all of them together, so that a reading step with several waits may
pass the deadline.
-/

namespace ManagedSwitch
namespace Client

section Waits

variable {limit : ℚ}

theorem duration_le
    (limit : ℚ)
    (s : Step ℚ) :
    duration limit s ≤ limit := by
  rw [duration]
  split
  next => exact le_refl limit
  next hle => exact not_lt.mp hle

theorem duration_nonneg
    {s : Step ℚ}
    (hlimit : 0 ≤ limit)
    (htook : 0 ≤ s.took) :
    0 ≤ duration limit s := by
  rw [duration]
  split
  next => exact hlimit
  next => exact htook

theorem le_add_duration
    {s : Step ℚ}
    (hlimit : 0 < limit)
    (htook : 0 ≤ s.took)
    (now : ℚ) :
    now ≤ now + duration limit s :=
  le_add_of_nonneg_right (duration_nonneg hlimit.le htook)

theorem timeAfter_eq
    (now limit : ℚ)
    (waits : List (Step ℚ)) :
    timeAfter now limit waits = now + (waits.map (duration limit)).sum := by
  induction waits generalizing now with
  | nil =>
      exact (add_zero now).symm
  | cons s waits ih =>
      rw [List.map_cons, List.sum_cons, ← add_assoc]
      exact ih (now + duration limit s)

/-- A step that goes well takes its own time. -/
theorem took_le_of_outcome_eq_ok
    {s : Step ℚ}
    (houtcome : outcome limit s = .ok ()) :
    s.took ≤ limit := by
  refine not_lt.mp fun hlt => ?_
  rw [outcome, if_pos hlt] at houtcome
  cases houtcome

variable {arrivals rest : List (Arrival ℚ)} {waits : List (Step ℚ)} {result : Except Trouble Bytes}

theorem wait_mem_of_readStep
    (hstep : readStep limit arrivals = (waits, result, rest)) :
    ∀ s ∈ waits, .wait s ∈ arrivals := by
  fun_induction readStep limit arrivals generalizing waits with
  | case1 | case2 =>
      cases hstep
      exact List.forall_mem_nil _
  | case3 =>
      cases hstep
      exact List.forall_mem_singleton.mpr List.mem_cons_self
  | case4 s later houtcome ih =>
      obtain ⟨rfl, hrest⟩ := Prod.mk.inj hstep
      refine List.forall_mem_cons.mpr ⟨List.mem_cons_self, fun t ht => ?_⟩
      exact List.mem_cons_of_mem _ (ih (Prod.ext rfl hrest) t ht)

/-- Where something is read, no wait was longer than the limit. -/
theorem took_le_of_readStep
    {chunk : Bytes}
    (hstep : readStep limit arrivals = (waits, .ok chunk, rest)) :
    ∀ s ∈ waits, s.took ≤ limit := by
  fun_induction readStep limit arrivals generalizing waits with
  | case1 | case2 =>
      cases hstep
      exact List.forall_mem_nil _
  | case3 =>
      cases hstep
  | case4 s later houtcome ih =>
      obtain ⟨rfl, hrest⟩ := Prod.mk.inj hstep
      exact List.forall_mem_cons.mpr
        ⟨took_le_of_outcome_eq_ok houtcome, ih (Prod.ext rfl hrest)⟩

/-- Waits that are not longer than the limit take their own time. -/
theorem map_duration_of_took_le
    (hwaits : ∀ s ∈ waits, s.took ≤ limit) :
    waits.map (duration limit) = waits.map Step.took :=
  List.map_congr_left fun s hs => if_neg (not_lt.mpr (hwaits s hs))

end Waits

section Moves

variable {c : Call ℚ} {found : Except Trouble (Exchange ℚ)} {deadline : ℚ}
variable {stage next : Stage ℚ} {leg : Leg ℚ}

/-- Nothing that is ahead at a stage takes less than no time. -/
def Stage.Steady : Stage ℚ → Prop
  | .connecting _ _ addresses => ∀ s ∈ addresses, 0 ≤ s.took
  | .sending limit => 0 < limit
  | .reading _ arrivals => ∀ s, .wait s ∈ arrivals → 0 ≤ s.took
  | _ => True

theorem le_timeAfter
    {now limit : ℚ}
    {arrivals rest : List (Arrival ℚ)}
    {waits : List (Step ℚ)}
    {result : Except Trouble Bytes}
    (hlimit : 0 < limit)
    (harrivals : ∀ s, .wait s ∈ arrivals → 0 ≤ s.took)
    (hstep : readStep limit arrivals = (waits, result, rest)) :
    now ≤ timeAfter now limit waits := by
  rw [timeAfter_eq]
  refine le_add_of_nonneg_right (List.sum_nonneg ?_)
  refine List.forall_mem_map.mpr fun s hs => ?_
  exact duration_nonneg hlimit.le (harrivals s (wait_mem_of_readStep hstep s hs))

/-- The clock never goes back. -/
theorem Move.start_le_finish
    (hsteady : ∀ e, found = .ok e → Client.Steady e)
    (hmove : Move c found deadline stage leg next)
    (hstage : stage.Steady) :
    leg.start ≤ leg.finish ∧ next.Steady := by
  -- Sending runs under the limit of the attempt in front of it, so its stage keeps that it is
  -- positive; nothing is said of what is left by then.
  cases hmove with
  | found hfound =>
      exact ⟨le_rfl, (hsteady _ hfound).connecting⟩
  | connected hleft =>
      have hlimit := not_le.mp hleft
      exact ⟨le_add_duration hlimit (List.forall_mem_cons.mp hstage).1 _, hlimit⟩
  | timedOut hleft =>
      exact ⟨le_add_duration (not_le.mp hleft) (List.forall_mem_cons.mp hstage).1 _, trivial⟩
  | skipped hleft =>
      obtain ⟨htook, hrest⟩ := List.forall_mem_cons.mp hstage
      exact ⟨le_add_duration (not_le.mp hleft) htook _, hrest⟩
  | sent hfound =>
      have hexchange := hsteady _ hfound
      exact ⟨le_add_duration hstage hexchange.sending _, hexchange.waiting_split⟩
  | unsent hfound =>
      exact ⟨le_add_duration hstage (hsteady _ hfound).sending _, trivial⟩
  | arrived hleft hstep =>
      refine ⟨le_timeAfter (not_le.mp hleft) hstage hstep, fun s hs => ?_⟩
      exact hstage s ((suffix_of_readStep hstep).subset hs)
  | ended hleft hstep | broken hleft hstep =>
      exact ⟨le_timeAfter (not_le.mp hleft) hstage hstep, trivial⟩
  | _ =>
      exact ⟨le_rfl, trivial⟩

/-- An attempt is over when the deadline comes. -/
theorem Move.attempt_le
    (hmove : Move c found deadline stage leg next)
    {index : Nat}
    {limit : ℚ}
    {result : Except Trouble Unit}
    (hact : leg.act = .attempt index (some limit) result) :
    leg.finish ≤ deadline := by
  have hle : ∀ now s, now + duration (deadline - now) s ≤ deadline := by
    intro now s
    calc
      now + duration (deadline - now) s ≤ now + (deadline - now) :=
        add_le_add_right (duration_le _ s) now
      _ = deadline := add_sub_cancel now deadline
  cases hmove with
  | connected | timedOut | skipped =>
      exact hle _ _
  | _ =>
      exact nomatch hact

/-- A reading step ends when its waits are over, and what it reads it has waited for within its
limit. -/
theorem Move.read_eq
    (hmove : Move c found deadline stage leg next)
    {limit : ℚ}
    {waits : List (Step ℚ)}
    {result : Except Trouble Bytes}
    (hact : leg.act = .read (some limit) waits result) :
    leg.finish = leg.start + (waits.map (duration limit)).sum ∧
      ∀ chunk, result = .ok chunk → ∀ s ∈ waits, s.took ≤ limit := by
  cases hmove with
  | arrived _ hstep | ended _ hstep =>
      cases hact
      exact ⟨timeAfter_eq _ _ _, fun _ _ => took_le_of_readStep hstep⟩
  | broken =>
      cases hact
      exact ⟨timeAfter_eq _ _ _, nofun⟩
  | _ =>
      exact nomatch hact

/-- The end of the stream is only read in a reading step that is made. -/
theorem Move.exists_of_isEnd
    (hmove : Move c found deadline stage leg next)
    (hend : leg.act.isEnd) :
    ∃ limit waits, leg.act = .read (some limit) waits (.ok []) := by
  cases hmove with
  | ended =>
      exact ⟨_, _, rfl⟩
  | @arrived _ _ chunk _ _ _ _ _ hchunk =>
      cases chunk with
      | nil =>
          exact absurd rfl hchunk
      | cons =>
          exact nomatch hend
  | _ =>
      exact nomatch hend

end Moves

section Courses

variable {c : Call ℚ} {found : Except Trouble (Exchange ℚ)} {deadline now finish : ℚ}
variable {stage last : Stage ℚ} {legs : List (Leg ℚ)}

/-- Legs begin one behind the other. -/
theorem Course.starts
    (hsteady : ∀ e, found = .ok e → Steady e)
    (h : Course c found deadline now stage legs finish last)
    (hstage : stage.Steady) :
    (∀ leg ∈ legs, now ≤ leg.start) ∧ legs.Pairwise fun l l' => l.start ≤ l'.start := by
  induction h with
  | refl =>
      exact ⟨List.forall_mem_nil _, .nil⟩
  | move hmove _ ih =>
      obtain ⟨hle, hnext⟩ := hmove.start_le_finish hsteady hstage
      obtain ⟨hlater, hpairwise⟩ := ih hnext
      have hbehind : ∀ l ∈ _, _ ≤ Leg.start l := fun l hl => hle.trans (hlater l hl)
      exact ⟨List.forall_mem_cons.mpr ⟨le_rfl, hbehind⟩, .cons hbehind hpairwise⟩

/-- The limits of the attempts and reading steps that are made on legs. -/
def limits (legs : List (Leg ℚ)) : List ℚ :=
  legs.filterMap fun leg => leg.act.limit?.join

/-- Attempts and reading steps keep to a deadline, which is the timeout after the call began. -/
structure Paced
    (timeout deadline : ℚ)
    (legs : List (Leg ℚ))
    (answer : Except (Error ℚ) Response) :
    Prop where
  /-- Each of them begins with what is left, which is something and no more than the timeout. -/
  limited :
    ∀ leg ∈ legs, ∀ limit, leg.act.limit? = some (some limit) →
      limit = deadline - leg.start ∧ 0 < limit ∧ limit ≤ timeout
  falling : (limits legs).Pairwise (· ≥ ·)
  /-- None begins once the deadline has come, and only then they are left out. -/
  stopped :
    ∀ leg ∈ legs, ∀ limit, leg.act.limit? = some limit → (limit = none ↔ deadline ≤ leg.start)
  attempts_end :
    ∀ leg ∈ legs, ∀ index limit result, leg.act = .attempt index (some limit) result →
      leg.finish ≤ deadline
  /-- A reading step ends in time exactly if its waits do not add up to more than its limit. -/
  reading_ends_iff :
    ∀ leg ∈ legs, ∀ limit waits result, leg.act = .read (some limit) waits result →
      (leg.finish ≤ deadline ↔ (waits.map (duration limit)).sum ≤ limit)
  single_waits_end :
    ∀ leg ∈ legs, ∀ limit waits result, leg.act = .read (some limit) waits result →
      waits.length ≤ 1 → leg.finish ≤ deadline
  /-- The end of the stream was read in time, or behind several waits, each of them within the
  limit and all of them beyond it. -/
  answered :
    ∀ response, answer = .ok response →
      ∃ leg ∈ legs, ∃ limit waits, leg.act = .read (some limit) waits (.ok []) ∧
        (leg.finish ≤ deadline ∨
          2 ≤ waits.length ∧ (∀ s ∈ waits, s.took ≤ limit) ∧
            limit < (waits.map Step.took).sum)

theorem Course.limited
    (hsteady : ∀ e, found = .ok e → Steady e)
    (h : Course c found deadline now stage legs finish last)
    (hstage : stage.Steady) :
    ∀ leg ∈ legs, ∀ limit, leg.act.limit? = some (some limit) →
      limit = deadline - leg.start ∧ 0 < limit ∧ limit ≤ deadline - now := by
  intro leg hleg limit hlimit
  have hlimits := h.forall_of_move (fun hmove => hmove.limit_eq) leg hleg hlimit
  split at hlimits
  next => exact nomatch hlimits
  next hleft =>
      cases hlimits
      have hstart := (h.starts hsteady hstage).1 leg hleg
      exact ⟨rfl, not_le.mp hleft, sub_le_sub_left hstart deadline⟩

theorem Course.falling
    (hsteady : ∀ e, found = .ok e → Steady e)
    (h : Course c found deadline now stage legs finish last)
    (hstage : stage.Steady) :
    (limits legs).Pairwise (· ≥ ·) := by
  rw [limits, List.pairwise_filterMap]
  refine (h.starts hsteady hstage).2.imp_of_mem fun {leg leg'} hleg hleg' hstart => ?_
  intro limit hlimit limit' hlimit'
  rw [Option.join_eq_some_iff] at hlimit hlimit'
  rw [(h.limited hsteady hstage leg hleg limit hlimit).1,
    (h.limited hsteady hstage leg' hleg' limit' hlimit').1]
  exact sub_le_sub_left hstart deadline

theorem Course.stopped
    (h : Course c found deadline now stage legs finish last) :
    ∀ leg ∈ legs, ∀ limit, leg.act.limit? = some limit →
      (limit = none ↔ deadline ≤ leg.start) := by
  intro leg hleg limit hlimit
  rw [h.forall_of_move (fun hmove => hmove.limit_eq) leg hleg hlimit]
  split
  next hpassed =>
      exact iff_of_true rfl (sub_nonpos.mp hpassed)
  next hleft =>
      exact iff_of_false nofun (hleft ∘ sub_nonpos.mpr)

theorem Course.reading_ends_iff
    (h : Course c found deadline now stage legs finish last) :
    ∀ leg ∈ legs, ∀ limit waits result, leg.act = .read (some limit) waits result →
      (leg.finish ≤ deadline ↔ (waits.map (duration limit)).sum ≤ limit) := by
  intro leg hleg limit waits result hact
  have hlimit :
      some limit = if deadline - leg.start ≤ 0 then none else some (deadline - leg.start) :=
    h.forall_of_move (fun hmove => hmove.limit_eq) leg hleg (by rw [hact]; rfl)
  have hfinish := (h.forall_of_move (fun hmove => hmove.read_eq) leg hleg hact).1
  split at hlimit
  next => exact nomatch hlimit
  next =>
      rw [hfinish]
      cases hlimit
      exact le_sub_iff_add_le'.symm

/-- The sum of the times of at most one wait is no more than their limit. -/
theorem sum_duration_le
    {limit : ℚ}
    {waits : List (Step ℚ)}
    (hlimit : 0 < limit)
    (hwaits : waits.length ≤ 1) :
    (waits.map (duration limit)).sum ≤ limit := by
  match waits with
  | [] =>
      exact hlimit.le
  | [s] =>
      rw [List.map_singleton, List.sum_singleton]
      exact duration_le limit s

theorem Course.paced
    {result : Except Trouble Bytes}
    (hsteady : ∀ e, found = .ok e → Steady e)
    (h : Course c found deadline now .resolving legs finish (.over result)) :
    Paced (deadline - now) deadline legs (answerTo c result) where
  limited := h.limited hsteady trivial
  falling := h.falling hsteady trivial
  stopped := h.stopped
  attempts_end leg hleg _ _ _ hact :=
    h.forall_of_move (fun hmove => hmove.attempt_le) leg hleg hact
  reading_ends_iff := h.reading_ends_iff
  single_waits_end leg hleg limit waits result hact hwaits := by
    have hlimit := h.limited hsteady trivial leg hleg limit (by rw [hact]; rfl)
    exact (h.reading_ends_iff leg hleg limit waits result hact).mpr
      (sum_duration_le hlimit.2.1 hwaits)
  answered response hresponse := by
    obtain ⟨bytes, hresult, -⟩ := (answerTo_eq_ok_iff response).mp hresponse
    obtain ⟨leg, hleg, hend⟩ := ((h.ok_iff_bytesRead bytes).mp hresult).1
    obtain ⟨limit, waits, hact⟩ :=
      h.forall_of_move (fun hmove => hmove.exists_of_isEnd) leg hleg hend
    have hlimit := h.limited hsteady trivial leg hleg limit (by rw [hact]; rfl)
    have hends := h.reading_ends_iff leg hleg limit waits _ hact
    refine ⟨leg, hleg, limit, waits, hact, ?_⟩
    by_cases hfinish : leg.finish ≤ deadline
    · exact .inl hfinish
    have hsum : limit < (waits.map (duration limit)).sum := not_le.mp (hfinish ∘ hends.mpr)
    have htook := (h.forall_of_move (fun hmove => hmove.read_eq) leg hleg hact).2 [] rfl
    refine .inr ⟨?_, htook, map_duration_of_took_le htook ▸ hsum⟩
    exact not_lt.mp fun hfew =>
      not_le.mpr hsum (sum_duration_le hlimit.2.1 (Nat.le_of_lt_succ hfew))

end Courses

section Calls

/-- The exchange that is found is the next one of the host. -/
theorem take_of_resolved
    {τ : Type}
    {network : Network τ}
    {host : String}
    {e : Exchange τ}
    (hfound : resolved network host = .ok e) :
    ∃ rest, network.take host = some (e, rest) := by
  rw [resolved] at hfound
  cases hfault : HostName.fault? host with
  | some fault =>
      rw [hfault] at hfound
      cases hfound
  | none =>
  cases htake : network.take host with
  | none =>
      rw [hfault, htake] at hfound
      cases hfound
  | some taken =>
  obtain ⟨e', rest⟩ := taken
  cases htrouble : e'.resolving with
  | some trouble =>
      simp only [hfault, htake, htrouble] at hfound
      cases hfound
  | none =>
      simp only [hfault, htake, htrouble] at hfound
      cases hfound
      exact ⟨rest, rfl⟩

end Calls

section Samples

/-- An exchange in which the end of the stream comes behind two waits of six seconds. -/
def pausingExchange : Exchange ℚ :=
  ⟨none, [⟨0, none⟩], ⟨0, none⟩,
    [.bytes (Text.Utf8.encode "HTTP/1.1 200 OK\r\n\r\n"), .wait ⟨6, none⟩, .wait ⟨6, none⟩]⟩

/-- A world with one switch, which pauses. -/
def pausingWorld : World ℚ :=
  ⟨0, ⟨[("switch", [pausingExchange])], by simp⟩, []⟩

/-- A call to the pausing switch that may take ten seconds. -/
def pausingCall : Call ℚ :=
  ⟨"switch", 80, ⟨"GET", "/", [], ""⟩, 10⟩

theorem steady_pausingExchange :
    ∀ e network, pausingWorld.network.take pausingCall.host = some (e, network) → Steady e := by
  have htake :
      pausingWorld.network.take pausingCall.host =
        some (pausingExchange, pausingWorld.network) := by
    rfl
  intro e network he
  rw [htake] at he
  cases he
  constructor
  · simp [pausingExchange]
  · simp [pausingExchange]
  · simp [pausingExchange]

end Samples

end Client

end ManagedSwitch
