import ManagedSwitch.Net.Client

/-!
# Properties of everything the client does

The client reads the clock, lets time pass, takes an exchange from the network and notes what it
does; everything else is made of these actions by sequences and case distinctions.  A property of
runs that the actions have and that goes through sequences is a property of a whole call
(`Pervades.exists_call_eq`): the inductions over addresses and over what arrives are made here, once
for all such properties.
-/

namespace ManagedSwitch

section Properties

variable {τ : Type} [Seconds τ]

/-- The event asks the client for something. -/
def Event.isCall : Event τ → Bool
  | .called _ => true
  | _ => false

/-- A property of runs that the actions of the client have and that goes through sequences. -/
structure Pervades (P : (α : Type) → Run τ α → Prop) : Prop where
  pure : ∀ {α : Type} (a : α), P α (Pure.pure a)
  bind :
    ∀ {α β : Type} {m : Run τ α} {f : α → Run τ β}, P α m → (∀ a, P β (f a)) → P β (m >>= f)
  note : ∀ e : Event τ, e.isCall = false → P Unit (note e)
  time : P τ time
  pass : ∀ span : τ, P Unit (pass span)
  takeExchange : ∀ host : String, P (Option (Exchange τ)) (takeExchange host)

end Properties

section Steps

open Client

variable {τ : Type} [Seconds τ] {P : (α : Type) → Run τ α → Prop}

namespace Pervades

theorem remaining?
    (h : Pervades P)
    (deadline : τ) :
    P _ (remaining? deadline) :=
  h.bind h.time fun _ => h.pure _

theorem perform
    (h : Pervades P)
    (limit : τ)
    (step : Step τ) :
    P _ (perform limit step) := by
  rw [Client.perform]
  split
  · exact h.bind (h.pass limit) fun _ => h.pure _
  · refine h.bind (h.pass step.took) fun _ => ?_
    cases step.trouble <;> exact h.pure _

theorem connect
    (h : Pervades P)
    (host : String)
    (deadline : τ)
    (index : Nat)
    (reason : Option String)
    (addresses : List (Step τ)) :
    P _ (connect host deadline index reason addresses) := by
  induction addresses generalizing index reason with
  | nil =>
      exact h.pure _
  | cons address rest ih =>
      refine h.bind (h.note (.opened index) rfl) fun _ => ?_
      refine h.bind (h.remaining? deadline) fun limit => ?_
      cases limit with
      | none =>
          exact h.bind (h.note .closed rfl) fun _ => h.pure _
      | some limit =>
          refine h.bind (h.note (.connecting index limit) rfl) fun _ => ?_
          refine h.bind (h.perform limit address) fun result => ?_
          match result with
          | .ok () => exact h.pure _
          | .error .timeout => exact h.bind (h.note .closed rfl) fun _ => h.pure _
          | .error (.failure reason) =>
              exact h.bind (h.note .closed rfl) fun _ => ih (index + 1) (some reason)

theorem readLimit?
    (h : Pervades P)
    (deadline : τ)
    (limit : Option τ) :
    P _ (readLimit? deadline limit) := by
  cases limit with
  | some limit =>
      exact h.pure _
  | none =>
      refine h.bind (h.remaining? deadline) fun limit => ?_
      cases limit with
      | none =>
          exact h.pure _
      | some limit =>
          exact h.bind (h.note (.receiving limit) rfl) fun _ => h.pure _

theorem receive
    (h : Pervades P)
    (deadline : τ)
    (limit : Option τ)
    (got : Bytes)
    (arrivals : List (Arrival τ)) :
    P _ (receive deadline limit got arrivals) := by
  induction arrivals generalizing limit got with
  | nil =>
      refine h.bind (h.readLimit? deadline limit) fun armed => ?_
      cases armed <;> exact h.pure _
  | cons arrival rest ih =>
      cases arrival with
      | bytes chunk =>
          refine h.bind (h.readLimit? deadline limit) fun armed => ?_
          cases armed with
          | none =>
              exact h.pure _
          | some armed =>
              dsimp only
              split
              · exact h.pure _
              · exact ih none (got ++ chunk)
      | wait step =>
          refine h.bind (h.readLimit? deadline limit) fun armed => ?_
          cases armed with
          | none =>
              exact h.pure _
          | some armed =>
              refine h.bind (h.perform armed step) fun result => ?_
              match result with
              | .ok () => exact ih (some armed) got
              | .error trouble => exact h.pure _

theorem converse
    (h : Pervades P)
    (deadline limit : τ)
    (request : Request)
    (exchange : Exchange τ) :
    P _ (converse deadline limit request exchange) := by
  refine h.bind (h.note (.sent request.bytes) rfl) fun _ => ?_
  refine h.bind (h.perform limit exchange.sending) fun result => ?_
  match result with
  | .ok () => exact h.receive deadline none [] _
  | .error trouble => exact h.pure _

theorem transfer
    (h : Pervades P)
    (call : Call τ)
    (deadline : τ) :
    P _ (transfer call deadline) := by
  refine h.bind (h.note (.resolving call.host call.port) rfl) fun _ => ?_
  cases HostName.fault? call.host with
  | some fault =>
      exact h.pure _
  | none =>
      refine h.bind (h.takeExchange call.host) fun exchange => ?_
      cases exchange with
      | none =>
          exact h.pure _
      | some exchange =>
          dsimp only
          cases exchange.resolving with
          | some trouble =>
              exact h.pure _
          | none =>
              refine h.bind (h.connect _ _ _ _ _) fun result => ?_
              match result with
              | .error trouble => exact h.pure _
              | .ok limit =>
                  refine h.bind (h.converse deadline limit call.request exchange) fun _ => ?_
                  exact h.bind (h.note .closed rfl) fun _ => h.pure _

end Pervades

end Steps

section Calls

variable {τ : Type} [Seconds τ] {P : (α : Type) → Run τ α → Prop}

/-- A call is asked for first; what the client does then has every property of its actions. -/
theorem Pervades.exists_call_eq
    (h : Pervades P)
    (c : Call τ) :
    ∃ answer, Client.call c = (ManagedSwitch.note (.called c) >>= fun _ => answer) ∧
      P _ answer := by
  refine ⟨_, rfl, ?_⟩
  refine h.bind h.time fun now => ?_
  refine h.bind (h.note (.logged _) rfl) fun _ => ?_
  refine h.bind (h.transfer c (now + c.timeout)) fun result => ?_
  cases result with
  | error trouble =>
      exact h.pure _
  | ok bytes =>
      dsimp only
      cases Response.read bytes with
      | error fault =>
          exact h.pure _
      | ok response =>
          exact h.bind (h.note (.logged _) rfl) fun _ => h.pure _

end Calls

end ManagedSwitch
