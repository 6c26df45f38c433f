import Mathlib.Tactic.Ring
import ManagedSwitch.Proofs.Net.After
import ManagedSwitch.Proofs.Net.Lateness

/-!
# The deadline of a call

A call is meant to be over when its deadline has passed.  With an exact clock, `call_on_time_iff`
tells when it is.  Each part of a call has a lemma for its own share: connecting never takes longer,
reading only if its waits add up, and sending as far as the limit of connecting lets it.
-/

namespace ManagedSwitch

namespace Client

section Connecting

variable (host : String) {deadline : ℚ}

/-- Where an address takes the connection in time, it stands with the limit of its attempt. -/
theorem after_connect_of_connects
    {addresses : List (Step ℚ)}
    (hsteady : ∀ s ∈ addresses, 0 ≤ s.took)
    {w : World ℚ}
    {now failing connecting : ℚ}
    (hnow : w.clock = now)
    (hconnects : Connects (deadline - now) addresses failing connecting)
    (index : Nat)
    (reason : Option String) :
    After (connect host deadline index reason addresses) w fun result v =>
      result = .ok (deadline - now - failing) ∧ v.clock = now + failing + connecting := by
  induction addresses generalizing w now failing index reason with
  | nil =>
      exact absurd hconnects connects_nil
  | cons s rest ih =>
      rw [List.forall_mem_cons] at hsteady
      subst hnow
      rcases connects_cons_iff.mp hconnects with
        ⟨htrouble, rfl, rfl, hpos, hle⟩ | ⟨reason', htrouble, hrest⟩
      · rw [after_connect_of_left (not_le.mpr hpos), after_perform_of_le (not_lt.mpr hle), htrouble]
        refine ⟨?_, ?_⟩
        · rw [sub_zero]
        · rw [add_zero]
          rfl
      · have hfailing : 0 ≤ failing - s.took := Connects.failing_nonneg hrest hsteady.2
        have hlimit : failing - s.took < deadline - w.clock - s.took := Connects.failing_lt hrest
        have hpos : 0 < deadline - w.clock := by linarith
        have hle : s.took ≤ deadline - w.clock := by linarith
        rw [after_connect_of_left (not_le.mpr hpos), after_perform_of_le (not_lt.mpr hle), htrouble]
        have hrest' :
            Connects (deadline - (w.clock + s.took)) rest (failing - s.took) connecting := by
          rwa [← sub_sub]
        refine After.mono (ih hsteady.2 (show _ = w.clock + s.took from rfl) hrest' _ _) ?_
        intro result v h
        have hlimit' :
            deadline - (w.clock + s.took) - (failing - s.took) = deadline - w.clock - failing := by
          ring
        have hclock :
            w.clock + s.took + (failing - s.took) + connecting =
              w.clock + failing + connecting := by
          ring
        rwa [hlimit', hclock] at h

/-- Without an address that takes the connection in time, connecting fails within the deadline. -/
theorem after_connect_of_not_connects
    {addresses : List (Step ℚ)}
    {w : World ℚ}
    {now : ℚ}
    (hnow : w.clock = now)
    (htime : now ≤ deadline)
    (hnone : ∀ failing connecting, ¬ Connects (deadline - now) addresses failing connecting)
    (index : Nat)
    (reason : Option String) :
    After (connect host deadline index reason addresses) w fun result v =>
      (∃ trouble, result = .error trouble) ∧ v.clock ≤ deadline := by
  induction addresses generalizing w now index reason with
  | nil =>
      subst hnow
      exact ⟨⟨_, rfl⟩, htime⟩
  | cons s rest ih =>
      subst hnow
      rcases le_or_gt (deadline - w.clock) 0 with hpassed | hpos
      · rw [after_connect_of_passed hpassed]
        exact ⟨⟨_, rfl⟩, htime⟩
      rw [after_connect_of_left (not_le.mpr hpos)]
      rcases lt_or_ge (deadline - w.clock) s.took with hlt | hle
      · rw [after_perform_of_lt hlt]
        refine ⟨⟨_, rfl⟩, ?_⟩
        show w.clock + (deadline - w.clock) ≤ deadline
        linarith
      · rw [after_perform_of_le (not_lt.mpr hle)]
        have hclock : w.clock + s.took ≤ deadline := by linarith
        match htrouble : s.trouble with
        | none =>
            refine absurd ?_ (hnone 0 s.took)
            exact connects_cons_iff.mpr (Or.inl ⟨htrouble, rfl, rfl, hpos, hle⟩)
        | some .timeout =>
            exact ⟨⟨_, rfl⟩, hclock⟩
        | some (.failure reason') =>
            refine ih (show _ = w.clock + s.took from rfl) hclock ?_ _ _
            intro failing connecting hrest
            refine hnone (failing + s.took) connecting (connects_cons_iff.mpr (Or.inr ?_))
            refine ⟨reason', htrouble, ?_⟩
            rwa [sub_sub, add_sub_cancel_right]

end Connecting

section Reading

variable {deadline : ℚ} {arrivals : List (Arrival ℚ)}

/-- Reading does not turn the clock back. -/
theorem after_receive_ge
    (hsteady : ∀ s, .wait s ∈ arrivals → 0 ≤ s.took)
    {w : World ℚ}
    {now limit : ℚ}
    (hnow : w.clock = now)
    (hlimit : 0 ≤ limit)
    (got : Bytes) :
    After (receive deadline (some limit) got arrivals) w fun _ v => now ≤ v.clock := by
  induction arrivals generalizing w now limit got with
  | nil =>
      exact ge_of_eq hnow
  | cons arrival rest ih =>
      have hrest : ∀ s, .wait s ∈ rest → 0 ≤ s.took :=
        fun s hs => hsteady s (List.mem_cons_of_mem _ hs)
      subst hnow
      cases arrival with
      | bytes chunk =>
          rw [after_receive_bytes]
          split
          · exact le_refl w.clock
          rcases le_or_gt (deadline - w.clock) 0 with hpassed | hpos
          · rw [after_receive_of_passed hpassed]
          · rw [after_receive_of_left (not_le.mpr hpos)]
            exact ih hrest rfl hpos.le _
      | wait s =>
          have hs : 0 ≤ s.took := hsteady s List.mem_cons_self
          rw [after_receive_wait]
          rcases lt_or_ge limit s.took with hlt | hle
          · rw [after_perform_of_lt hlt]
            show w.clock ≤ w.clock + limit
            linarith
          · rw [after_perform_of_le (not_lt.mpr hle)]
            have hlater : w.clock ≤ w.clock + s.took := by linarith
            cases s.trouble with
            | some trouble =>
                exact hlater
            | none =>
                dsimp only [ending]
                refine After.mono (ih hrest (show _ = w.clock + s.took from rfl) hlimit got) ?_
                exact fun _ v hv => hlater.trans hv

/-- Waits that add up past the deadline take reading past it. -/
theorem after_receive_of_overruns
    (hsteady : ∀ s, .wait s ∈ arrivals → 0 ≤ s.took)
    {w : World ℚ}
    {left limit : ℚ}
    (hleft : deadline - w.clock = left)
    (hlimit : 0 ≤ limit)
    (hoverruns : Overruns left limit arrivals)
    (got : Bytes) :
    After (receive deadline (some limit) got arrivals) w fun _ v => deadline < v.clock := by
  induction hoverruns generalizing w got with
  | @here left limit s rest hlt =>
      rw [after_receive_wait]
      have htook : left < s.took := hlt.trans_le (min_le_left _ _)
      have hlimit' : left < limit := hlt.trans_le (min_le_right _ _)
      rcases lt_or_ge limit s.took with hover | hkept
      · rw [after_perform_of_lt hover]
        show deadline < w.clock + limit
        linarith
      · rw [after_perform_of_le (not_lt.mpr hkept)]
        have hpast : deadline < w.clock + s.took := by linarith
        cases s.trouble with
        | some trouble =>
            exact hpast
        | none =>
            have hrest : ∀ t, .wait t ∈ rest → 0 ≤ t.took :=
              fun t ht => hsteady t (List.mem_cons_of_mem _ ht)
            dsimp only [ending]
            refine After.mono (after_receive_ge hrest rfl hlimit got) ?_
            exact fun _ v hv => hpast.trans_le hv
  | @wait left limit s rest htrouble hle hrest ih =>
      rw [after_receive_wait, after_perform_of_le (not_lt.mpr hle), htrouble]
      refine ih (fun t ht => hsteady t (List.mem_cons_of_mem _ ht)) ?_ hlimit got
      show deadline - (w.clock + s.took) = left - s.took
      linarith
  | @read left limit chunk rest hchunk hpos hrest ih =>
      subst hleft
      rw [after_receive_bytes, if_neg hchunk, after_receive_of_left (not_le.mpr hpos)]
      exact ih (w := w.noted _) (fun t ht => hsteady t (List.mem_cons_of_mem _ ht)) rfl hpos.le _

/-- Otherwise reading ends within the deadline. -/
theorem after_receive_of_not_overruns
    {w : World ℚ}
    {left limit : ℚ}
    (hleft : deadline - w.clock = left)
    (htime : 0 ≤ left)
    (hnot : ¬ Overruns left limit arrivals)
    (got : Bytes) :
    After (receive deadline (some limit) got arrivals) w fun _ v => v.clock ≤ deadline := by
  induction arrivals generalizing w left limit got with
  | nil =>
      show w.clock ≤ deadline
      linarith
  | cons arrival rest ih =>
      cases arrival with
      | bytes chunk =>
          rw [after_receive_bytes]
          split
          · show w.clock ≤ deadline
            linarith
          next hchunk =>
          subst hleft
          rcases le_or_gt (deadline - w.clock) 0 with hpassed | hpos
          · rw [after_receive_of_passed hpassed]
            linarith
          · rw [after_receive_of_left (not_le.mpr hpos)]
            exact ih (w := w.noted _) rfl hpos.le (fun h => hnot (.read hchunk hpos h)) _
      | wait s =>
          have hkept : min s.took limit ≤ left := not_lt.mp fun hlt => hnot (.here hlt)
          rw [after_receive_wait]
          rcases lt_or_ge limit s.took with hlt | hle
          · rw [min_eq_right hlt.le] at hkept
            rw [after_perform_of_lt hlt]
            show w.clock + limit ≤ deadline
            linarith
          · rw [min_eq_left hle] at hkept
            rw [after_perform_of_le (not_lt.mpr hle)]
            match htrouble : s.trouble with
            | some trouble =>
                show w.clock + s.took ≤ deadline
                linarith
            | none =>
                refine ih ?_ (sub_nonneg.mpr hkept) (fun h => hnot (.wait htrouble hle h)) got
                show deadline - (w.clock + s.took) = left - s.took
                linarith

end Reading

section Calls

variable {c : Call ℚ}

/-- Reading ends within the deadline unless it begins in time and its waits add up past it. -/
theorem after_receive_le_iff
    {deadline left : ℚ}
    {arrivals : List (Arrival ℚ)}
    (hsteady : ∀ s, .wait s ∈ arrivals → 0 ≤ s.took)
    {w : World ℚ}
    (hleft : deadline - w.clock = left)
    (htime : 0 ≤ left) :
    (After (receive deadline none [] arrivals) w fun _ v => v.clock ≤ deadline) ↔
      ¬ (0 < left ∧ Overruns left left arrivals) := by
  subst hleft
  rcases le_or_gt (deadline - w.clock) 0 with hpassed | hpos
  · rw [after_receive_of_passed hpassed]
    refine iff_of_true (sub_nonneg.mp htime) ?_
    exact fun h => absurd h.1 (not_lt.mpr hpassed)
  · rw [after_receive_of_left (not_le.mpr hpos)]
    by_cases hoverruns : Overruns (deadline - w.clock) (deadline - w.clock) arrivals
    · have hlate := after_receive_of_overruns (w := w.noted (.receiving (deadline - w.clock)))
        hsteady rfl hpos.le hoverruns []
      exact iff_of_false (not_le.mpr hlate) (not_not.mpr ⟨hpos, hoverruns⟩)
    · refine iff_of_true ?_ (fun h => hoverruns h.2)
      exact after_receive_of_not_overruns (w := w.noted _) rfl hpos.le hoverruns []

/-- Sending and reading end within the deadline unless one of them passes it. -/
theorem after_converse_le_iff
    {deadline limit left : ℚ}
    {request : Request}
    {e : Exchange ℚ}
    (hsteady : Steady e)
    {w : World ℚ}
    (hleft : deadline - w.clock = left) :
    (After (converse deadline limit request e) w fun _ v => v.clock ≤ deadline) ↔
      ¬ TalksLate left limit e := by
  rw [after_converse_iff, TalksLate]
  rcases lt_or_ge limit e.sending.took with hlt | hle
  · rw [after_perform_of_lt hlt, min_eq_right hlt.le]
    have hclock : w.clock + limit ≤ deadline ↔ ¬ left < limit := by
      rw [← hleft, not_lt]
      exact ⟨fun h => by linarith, fun h => by linarith⟩
    refine hclock.trans (not_congr ?_)
    refine (or_iff_left ?_).symm
    exact fun h => absurd h.2.1 (not_le.mpr hlt)
  · rw [after_perform_of_le (not_lt.mpr hle), min_eq_left hle]
    have hsent : deadline - (w.clock + e.sending.took) = left - e.sending.took := by
      linarith
    have hclock : w.clock + e.sending.took ≤ deadline ↔ ¬ left < e.sending.took := by
      rw [← hleft, not_lt]
      exact ⟨fun h => by linarith, fun h => by linarith⟩
    match htrouble : e.sending.trouble with
    | some trouble =>
        refine hclock.trans (not_congr ?_)
        exact (or_iff_left fun h => (nomatch h.1)).symm
    | none =>
        rcases lt_or_ge left e.sending.took with hpast | hkept
        · have hpassed : deadline - (w.clock + e.sending.took) ≤ 0 := by linarith
          dsimp only [ending]
          rw [after_receive_of_passed hpassed]
          have hlate : deadline < w.clock + e.sending.took := by linarith
          exact iff_of_false (not_le.mpr hlate) fun h => h (Or.inl hpast)
        · refine (after_receive_le_iff (w := (w.noted _).later e.sending.took) hsteady.waiting_split
            hsent (sub_nonneg.mpr hkept)).trans (not_congr ?_)
          simp [not_lt.mpr hkept, hle]

/-- With a connection, the rest of a conversation ends within the deadline unless sending or reading
passes it. -/
theorem after_connect_le_iff
    {deadline timeout failing connecting : ℚ}
    {e : Exchange ℚ}
    (hsteady : Steady e)
    {w : World ℚ}
    (htimeout : deadline - w.clock = timeout)
    (hconnects : Connects timeout e.addresses failing connecting)
    (host : String)
    (request : Request) :
    After (connect host deadline 0 none e.addresses) w
        (ending (fun _ v => v.clock ≤ deadline) fun limit v =>
          After (converse deadline limit request e) v fun _ v => v.clock ≤ deadline) ↔
      ¬ TalksLate (timeout - failing - connecting) (timeout - failing) e := by
  subst htimeout
  have hconnected := after_connect_of_connects host hsteady.connecting rfl hconnects 0 none
  rw [After] at hconnected ⊢
  obtain ⟨hresult, hclock⟩ := hconnected
  rw [hresult]
  refine after_converse_le_iff hsteady ?_
  rw [hclock]
  ring

/-- A conversation with a host ends within its deadline unless the exchange is late. -/
theorem after_exchange_le_iff
    {deadline timeout : ℚ}
    {e : Exchange ℚ}
    (hsteady : Steady e)
    {w : World ℚ}
    (htimeout : deadline - w.clock = timeout)
    (htime : 0 ≤ timeout)
    (host : String)
    (request : Request) :
    After (connect host deadline 0 none e.addresses) w
        (ending (fun _ v => v.clock ≤ deadline) fun limit v =>
          After (converse deadline limit request e) v fun _ v => v.clock ≤ deadline) ↔
      ¬ Late timeout e := by
  by_cases hconnects : ∃ failing connecting, Connects timeout e.addresses failing connecting
  · obtain ⟨failing, connecting, hconnects⟩ := hconnects
    constructor
    · rintro hontime ⟨failing', connecting', hconnects', hlate⟩
      exact (after_connect_le_iff hsteady htimeout hconnects' host request).mp hontime hlate
    · intro hnot
      refine (after_connect_le_iff hsteady htimeout hconnects host request).mpr fun hlate => ?_
      exact hnot ⟨failing, connecting, hconnects, hlate⟩
  · have hnone :
        ∀ failing connecting,
          ¬ Connects (deadline - w.clock) e.addresses failing connecting := by
      intro failing connecting h
      rw [htimeout] at h
      exact hconnects ⟨failing, connecting, h⟩
    have hstart : w.clock ≤ deadline := by linarith
    refine iff_of_true ?_ ?_
    · refine After.mono (after_connect_of_not_connects host rfl hstart hnone 0 none) ?_
      rintro _ v ⟨⟨trouble, rfl⟩, hclock⟩
      exact hclock
    · rintro ⟨failing, connecting, h, -⟩
      exact hconnects ⟨failing, connecting, h⟩

/-- A transfer ends within its deadline unless it meets an exchange with which it passes it. -/
theorem after_transfer_le_iff
    {w : World ℚ}
    {c : Call ℚ}
    (htimeout : 0 ≤ c.timeout)
    (hsteady : ∀ e network, w.network.take c.host = some (e, network) → Steady e) :
    (After (transfer c (w.clock + c.timeout)) w fun _ v => v.clock ≤ w.clock + c.timeout) ↔
      ¬ CallsLate w c := by
  have hstart : w.clock ≤ w.clock + c.timeout := by linarith
  match hfault : HostName.fault? c.host with
  | some fault =>
      rw [after_transfer_of_fault hfault]
      refine iff_of_true hstart fun hlate => ?_
      exact Option.some_ne_none fault (hfault.symm.trans hlate.1)
  | none =>
  match htake : w.network.take c.host with
  | none =>
      rw [after_transfer_of_unknown hfault htake]
      refine iff_of_true hstart ?_
      rintro ⟨-, e, network, he, -⟩
      rw [htake] at he
      exact nomatch he
  | some (e, network) =>
      rw [after_transfer_of_exchange hfault htake]
      have hcalls : CallsLate w c ↔ e.resolving = none ∧ Late c.timeout e := by
        rw [CallsLate, htake]
        constructor
        · rintro ⟨-, _, _, ⟨⟩, hlate⟩
          exact hlate
        · exact fun hlate => ⟨hfault, e, network, rfl, hlate⟩
      rw [hcalls]
      match hresolving : e.resolving with
      | some trouble =>
          exact iff_of_true hstart fun h => (nomatch h.1)
      | none =>
          have hleft : w.clock + c.timeout - w.clock = c.timeout := by ring
          have hexchange := after_exchange_le_iff
            (w := (w.noted (.resolving c.host c.port)).facing network)
            (hsteady e network htake) hleft htimeout c.host c.request
          rw [eq_self, true_and]
          exact hexchange

/-- A call ends within its deadline unless it meets an exchange with which it passes it: one where
the connection stands in time, and sending runs on under the limit of connecting or the waits of one
reading step add up past the deadline. -/
theorem call_on_time_iff
    {w : World ℚ}
    {c : Call ℚ}
    (htimeout : 0 ≤ c.timeout)
    (hsteady : ∀ e network, w.network.take c.host = some (e, network) → Steady e) :
    ((call c).run w).2.clock ≤ w.clock + c.timeout ↔ ¬ CallsLate w c := by
  obtain ⟨v, hclock, hnetwork, hcall⟩ :=
    after_call_clock_iff (w := w) (c := c) fun t => t ≤ w.clock + c.timeout
  have hlate : CallsLate v c ↔ CallsLate w c := by
    rw [CallsLate, CallsLate, hnetwork]
  rw [← hlate]
  refine hcall.trans ?_
  rw [← hclock]
  refine after_transfer_le_iff htimeout ?_
  rwa [hnetwork]

end Calls

section Samples

/-- An exchange in which connecting takes six seconds and sending another six. -/
def slowExchange : Exchange ℚ :=
  ⟨none, [⟨6, none⟩], ⟨6, none⟩, []⟩

/-- A world with one switch, which is slow. -/
def slowWorld : World ℚ :=
  ⟨0, ⟨[("switch", [slowExchange])], by simp⟩, []⟩

/-- A call to the slow switch that may take ten seconds. -/
def slowCall : Call ℚ :=
  ⟨"switch", 80, ⟨"GET", "/", [], ""⟩, 10⟩

theorem steady_slowExchange :
    ∀ e network, slowWorld.network.take slowCall.host = some (e, network) → Steady e := by
  have htake :
      slowWorld.network.take slowCall.host = some (slowExchange, slowWorld.network) := by
    rfl
  intro e network he
  rw [htake] at he
  cases he
  constructor
  · simp [slowExchange]
  · simp [slowExchange]
  · simp [slowExchange]

/-- The time of the slow call is judged by its exchange. -/
theorem slow_call_on_time_iff :
    0 ≤ slowCall.timeout ∧
      (((call slowCall).run slowWorld).2.clock ≤ slowWorld.clock + slowCall.timeout ↔
        ¬ CallsLate slowWorld slowCall) :=
  ⟨by decide +kernel, call_on_time_iff (by decide +kernel) steady_slowExchange⟩

/-- A switch that takes the connection late and the request slowly keeps a call beyond its
deadline. -/
theorem slow_call_passes_deadline :
    0 ≤ slowCall.timeout ∧
      (∀ e network, slowWorld.network.take slowCall.host = some (e, network) → Steady e) ∧
        ¬ ((call slowCall).run slowWorld).2.clock ≤ slowWorld.clock + slowCall.timeout :=
  ⟨by decide +kernel, steady_slowExchange, by decide +kernel⟩

end Samples

end Client

end ManagedSwitch
