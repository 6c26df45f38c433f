import Mathlib.Algebra.Order.BigOperators.Group.List
import Mathlib.Algebra.Order.Ring.Rat
import Mathlib.Data.List.Chain
import Mathlib.Tactic.Linarith
import ManagedSwitch.Net.Client

/-!
# Exchanges that make a call late

With an exact clock, what an exchange does to the deadline of a call can be told from its steps
alone.  A connection that stands in time (`Connects`) may have taken some of the limit that sending
still runs under, and the waits of one reading step may add up past the deadline (`Overruns`); an
exchange is `Late` if one of the two happens.  It is not if the connection takes no time and no
reading step waits twice.
-/

namespace ManagedSwitch

section Clock

/-- Exact seconds. -/
instance Seconds.instRat : Seconds ℚ where
  decidableLT := fun _ _ => inferInstance
  decidableLE := fun _ _ => inferInstance
  brief := fun x =>
    if x.den = 1 then Number.text x.num else Number.text x.num ++ "/" ++ Number.natText x.den

end Clock

namespace Client

section Scripts

/-- No step of an exchange takes less than no time. -/
structure Steady (e : Exchange ℚ) : Prop where
  connecting : ∀ s ∈ e.addresses, 0 ≤ s.took
  sending : 0 ≤ e.sending.took
  waiting : ∀ s, Arrival.wait s ∈ e.arrivals → 0 ≤ s.took

/-- Within `limit`, one of the addresses takes the connection: those in front of it fail, which
takes `failing` in all, and it takes `connecting` itself. -/
def Connects
    (limit : ℚ)
    (addresses : List (Step ℚ))
    (failing connecting : ℚ) :
    Prop :=
  ∃ failed s rest, addresses = failed ++ s :: rest ∧
    (∀ f ∈ failed, ∃ reason, f.trouble = some (.failure reason)) ∧ s.trouble = none ∧
      failing = (failed.map Step.took).sum ∧ connecting = s.took ∧
        failing < limit ∧ failing + connecting ≤ limit

/-- The waits of one reading step add up past the deadline, for which `left` was left before; the
step began when `limit` was left. -/
inductive Overruns : ℚ → ℚ → List (Arrival ℚ) → Prop
  | here {left limit : ℚ} {s : Step ℚ} {rest : List (Arrival ℚ)} :
      left < min s.took limit → Overruns left limit (.wait s :: rest)
  | wait {left limit : ℚ} {s : Step ℚ} {rest : List (Arrival ℚ)} :
      s.trouble = none → s.took ≤ limit → Overruns (left - s.took) limit rest →
        Overruns left limit (.wait s :: rest)
  | read {left limit : ℚ} {chunk : Bytes} {rest : List (Arrival ℚ)} :
      chunk ≠ [] → 0 < left → Overruns left left rest → Overruns left limit (.bytes chunk :: rest)

/-- A conversation passes its deadline in sending or in reading.  `left` is what is left when the
connection stands, and sending runs under `limit`. -/
def TalksLate
    (left limit : ℚ)
    (e : Exchange ℚ) :
    Prop :=
  left < min e.sending.took limit ∨
    e.sending.trouble = none ∧ e.sending.took ≤ limit ∧ 0 < left - e.sending.took ∧
      Overruns (left - e.sending.took) (left - e.sending.took) (e.arrivals.flatMap Arrival.split)

/-- The call with the exchange gets a connection and passes its deadline on it. -/
def Late
    (timeout : ℚ)
    (e : Exchange ℚ) :
    Prop :=
  ∃ failing connecting, Connects timeout e.addresses failing connecting ∧
    TalksLate (timeout - failing - connecting) (timeout - failing) e

/-- The call meets an exchange with which it passes its deadline. -/
def CallsLate
    (w : World ℚ)
    (c : Call ℚ) :
    Prop :=
  HostName.fault? c.host = none ∧
    ∃ e network, w.network.take c.host = some (e, network) ∧ e.resolving = none ∧ Late c.timeout e

end Scripts

section Connecting

theorem connects_nil
    {limit failing connecting : ℚ} :
    ¬ Connects limit [] failing connecting := by
  rintro ⟨failed, s, rest, heq, -⟩
  exact absurd heq (by simp)

theorem Connects.failing_lt
    {limit failing connecting : ℚ}
    {addresses : List (Step ℚ)}
    (h : Connects limit addresses failing connecting) :
    failing < limit := by
  obtain ⟨failed, s, rest, -, -, -, -, -, hlt, -⟩ := h
  exact hlt

theorem Connects.failing_nonneg
    {limit failing connecting : ℚ}
    {addresses : List (Step ℚ)}
    (h : Connects limit addresses failing connecting)
    (hsteady : ∀ s ∈ addresses, 0 ≤ s.took) :
    0 ≤ failing := by
  obtain ⟨failed, s, rest, rfl, -, -, rfl, -⟩ := h
  refine List.sum_nonneg fun x hx => ?_
  obtain ⟨f, hf, rfl⟩ := List.mem_map.mp hx
  exact hsteady f (List.mem_append_left _ hf)

/-- The first address takes the connection, or it fails and a later one takes it in what is left. -/
theorem connects_cons_iff
    {limit failing connecting : ℚ}
    {s : Step ℚ}
    {rest : List (Step ℚ)} :
    Connects limit (s :: rest) failing connecting ↔
      (s.trouble = none ∧ failing = 0 ∧ connecting = s.took ∧ 0 < limit ∧ s.took ≤ limit) ∨
        ∃ reason, s.trouble = some (.failure reason) ∧
          Connects (limit - s.took) rest (failing - s.took) connecting := by
  constructor
  · rintro ⟨failed, t, after, heq, hfailed, ht, hfailing, hconnecting, hlt, hle⟩
    cases failed with
    | nil =>
        obtain ⟨rfl, rfl⟩ := List.cons.inj heq
        rw [List.map_nil, List.sum_nil] at hfailing
        refine Or.inl ⟨ht, hfailing, hconnecting, by linarith, by linarith⟩
    | cons f failed =>
        obtain ⟨rfl, rfl⟩ := List.cons.inj heq
        rw [List.forall_mem_cons] at hfailed
        rw [List.map_cons, List.sum_cons] at hfailing
        obtain ⟨reason, hreason⟩ := hfailed.1
        refine Or.inr ⟨reason, hreason, failed, t, after, rfl, hfailed.2, ht, ?_, hconnecting,
          ?_, ?_⟩
        · linarith
        · linarith
        · linarith
  · rintro (⟨ht, hfailing, hconnecting, hpos, hle⟩ | ⟨reason, hreason, failed, t, after, rfl,
      hfailed, ht, hfailing, hconnecting, hlt, hle⟩)
    · refine ⟨[], s, rest, rfl, List.forall_mem_nil _, ht, ?_, hconnecting, ?_, ?_⟩
      · simpa using hfailing
      · linarith
      · linarith
    · refine ⟨s :: failed, t, after, rfl, ?_, ht, ?_, hconnecting, ?_, ?_⟩
      · exact List.forall_mem_cons.mpr ⟨⟨reason, hreason⟩, hfailed⟩
      · rw [List.map_cons, List.sum_cons]
        linarith
      · linarith
      · linarith

end Connecting

section Reading

/-- The waits between the pieces that are read are those between the chunks. -/
theorem wait_mem_of_split
    {τ : Type}
    {arrivals : List (Arrival τ)}
    {s : Step τ}
    (hs : .wait s ∈ arrivals.flatMap Arrival.split) :
    .wait s ∈ arrivals := by
  obtain ⟨arrival, harrival, hs⟩ := List.mem_flatMap.mp hs
  cases arrival with
  | bytes chunk =>
      obtain ⟨piece, -, hpiece⟩ := List.mem_map.mp hs
      exact nomatch hpiece
  | wait t =>
      cases List.mem_singleton.mp hs
      exact harrival

/-- The steps of the pieces that are read are those of the exchange. -/
theorem Steady.waiting_split
    {e : Exchange ℚ}
    (hsteady : Steady e) :
    ∀ s, .wait s ∈ e.arrivals.flatMap Arrival.split → 0 ≤ s.took :=
  fun s hs => hsteady.waiting s (wait_mem_of_split hs)

variable {arrivals : List (Arrival ℚ)}

/-- Two waits never follow each other. -/
def SingleWaits (arrivals : List (Arrival ℚ)) : Prop :=
  arrivals.IsChain fun a b => ∀ s t, ¬ (a = .wait s ∧ b = .wait t)

/-- If every reading step waits once at most, none of them takes reading past the deadline. -/
theorem not_overruns_of_singleWaits
    {left : ℚ}
    (hsingle : SingleWaits arrivals) :
    ¬ Overruns left left arrivals := by
  -- Behind a wait, less is left than the limit of the step; but then no other wait comes next.
  have hgeneral :
      ∀ left limit arrivals, Overruns left limit arrivals → SingleWaits arrivals →
        ¬ (limit ≤ left ∨ ∀ s rest, arrivals ≠ .wait s :: rest) := by
    intro left limit arrivals h
    induction h with
    | @here left limit s rest hlt =>
        rintro - (hle | hhead)
        · exact absurd (hlt.trans_le ((min_le_right _ _).trans hle)) (lt_irrefl _)
        · exact hhead s rest rfl
    | @wait left limit s rest htrouble hle hrest ih =>
        rintro hsingle (- | hhead)
        · refine ih hsingle.tail (Or.inr ?_)
          rintro t after rfl
          exact (List.isChain_cons_cons.mp hsingle).1 s t ⟨rfl, rfl⟩
        · exact hhead s rest rfl
    | @read left limit chunk rest hchunk hpos hrest ih =>
        rintro hsingle -
        exact ih hsingle.tail (Or.inl le_rfl)
  exact fun h => hgeneral left left arrivals h hsingle (Or.inl le_rfl)

/-- No call is late with an exchange that connects in no time and waits once at most for every
reading step: sending has no more than what is left then. -/
theorem not_late_of_swift
    {timeout : ℚ}
    {e : Exchange ℚ}
    (hswift : ∀ s ∈ e.addresses, s.trouble = none → s.took = 0)
    (hsingle : SingleWaits (e.arrivals.flatMap Arrival.split)) :
    ¬ Late timeout e := by
  rintro ⟨failing, connecting, ⟨failed, s, rest, haddresses, -, htrouble, -, rfl, -⟩, hlate⟩
  have hs : s ∈ e.addresses := by
    rw [haddresses]
    exact List.mem_append_right _ List.mem_cons_self
  rw [hswift s hs htrouble, sub_zero] at hlate
  rcases hlate with hsending | ⟨-, -, -, hreading⟩
  · exact absurd (hsending.trans_le (min_le_right _ _)) (lt_irrefl _)
  · exact not_overruns_of_singleWaits hsingle hreading

end Reading

end Client

end ManagedSwitch
