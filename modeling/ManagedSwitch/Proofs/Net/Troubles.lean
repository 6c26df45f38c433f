import ManagedSwitch.Proofs.Net.Stillness

/-!
# Where trouble comes from

What stops a call is trouble that the network has in store for one of its steps, or trouble that the
client finds by itself: a limit that has passed, or a host without a name or an address
(`OwnTrouble`).  So if all trouble in store is of one kind, the errors that are answered come from
trouble of this kind or of the client's own, or they are about what was received (`meets_answers`).
`Meets P m Q` says that the run `m` leaves nothing but trouble of the kind `P` in store where there
was nothing else, and that its result has the property `Q` then.
-/

namespace ManagedSwitch

section Sources

variable {τ : Type}

/-- The trouble that the steps of an exchange run into. -/
inductive Exchange.Stores (e : Exchange τ) : Trouble → Prop
  | resolving {t : Trouble} : e.resolving = some t → Stores e t
  | connecting {s : Step τ} {t : Trouble} : s ∈ e.addresses → s.trouble = some t → Stores e t
  | sending {t : Trouble} : e.sending.trouble = some t → Stores e t
  | waiting {s : Step τ} {t : Trouble} : .wait s ∈ e.arrivals → s.trouble = some t → Stores e t

/-- All trouble that the network has in store is of a kind. -/
def World.Only
    (P : Trouble → Prop)
    (w : World τ) :
    Prop :=
  ∀ host, ∀ e ∈ w.network.ahead host, ∀ t, e.Stores t → P t

theorem World.only_of_forall
    {P : Trouble → Prop}
    {w : World τ}
    (hstores : ∀ entry ∈ w.network.entries, ∀ e ∈ entry.2, ∀ t, e.Stores t → P t) :
    w.Only P := by
  intro host e he
  obtain ⟨entry, hentry, hmem⟩ := Network.exists_entry_of_mem_ahead he
  exact hstores entry hentry e hmem

/-- The trouble that the client finds by itself when it calls a host. -/
inductive Client.OwnTrouble (host : String) : Trouble → Prop
  | timeout : OwnTrouble host .timeout
  | fault (fault : HostName.Fault) : OwnTrouble host (.failure fault.message)
  | unknown : OwnTrouble host (.failure "[Errno -2] Name or service not known")
  | noAddress : OwnTrouble host (.failure ("No address found for " ++ host))

end Sources

section Rules

variable {τ α β : Type} {P Q : Trouble → Prop}

/-- The run leaves only trouble of a kind in store where there was no other, and its result has a
property then. -/
def Meets
    (P : Trouble → Prop)
    (m : Run τ α)
    (Q : α → Prop) :
    Prop :=
  ∀ w : World τ, w.Only P → (m.run w).2.Only P ∧ Q (m.run w).1

/-- If the result is trouble, it is of a kind. -/
def StoppedBy
    (Q : Trouble → Prop)
    (result : Except Trouble α) :
    Prop :=
  ∀ t, result = .error t → Q t

theorem stoppedBy_ok
    (a : α) :
    StoppedBy Q (.ok a) :=
  fun _ h => nomatch h

theorem stoppedBy_error
    {t : Trouble}
    (ht : Q t) :
    StoppedBy Q (.error t : Except Trouble α) := by
  rintro _ ⟨⟩
  exact ht

theorem Meets.pure
    {Q : α → Prop}
    {a : α}
    (ha : Q a) :
    Meets P (Pure.pure a : Run τ α) Q :=
  fun _ hw => ⟨hw, ha⟩

theorem Meets.bind
    {m : Run τ α}
    {f : α → Run τ β}
    {Q : α → Prop}
    {R : β → Prop}
    (hm : Meets P m Q)
    (hf : ∀ a, Q a → Meets P (f a) R) :
    Meets P (m >>= f) R := by
  intro w hw
  obtain ⟨hkept, hQ⟩ := hm w hw
  exact hf (m.run w).1 hQ (m.run w).2 hkept

/-- A run whose result does not matter, in front of another one. -/
theorem Meets.then
    {m : Run τ α}
    {f : α → Run τ β}
    {Q : α → Prop}
    {R : β → Prop}
    (hm : Meets P m Q)
    (hf : ∀ a, Meets P (f a) R) :
    Meets P (m >>= f) R :=
  hm.bind fun a _ => hf a

theorem meets_note
    (e : Event τ) :
    Meets P (note e) fun _ => True :=
  fun _ hw => ⟨hw, trivial⟩

theorem meets_time :
    Meets P (time : Run τ τ) fun _ => True :=
  fun _ hw => ⟨hw, trivial⟩

theorem meets_pass
    [Seconds τ]
    (span : τ) :
    Meets P (pass span : Run τ Unit) fun _ => True :=
  fun _ hw => ⟨hw, trivial⟩

/-- An exchange that is taken was in store. -/
theorem meets_takeExchange
    (host : String) :
    Meets P (takeExchange host : Run τ (Option (Exchange τ)))
      fun exchange? => ∀ e ∈ exchange?, ∀ t, e.Stores t → P t := by
  intro w hw
  show After (takeExchange host) w fun exchange? v =>
    v.Only P ∧ ∀ e ∈ exchange?, ∀ t, e.Stores t → P t
  rw [after_takeExchange_iff]
  cases hahead : w.network.ahead host with
  | nil =>
      rw [Network.take_of_ahead_eq_nil hahead]
      exact ⟨hw, fun _ he => nomatch he⟩
  | cons e rest =>
      obtain ⟨network, htake, hothers⟩ := Network.take_of_ahead_eq_cons hahead
      rw [htake]
      refine ⟨fun h e' he' => ?_, ?_⟩
      · rw [World.facing, hothers] at he'
        split at he'
        · exact hw host e' (hahead ▸ Client.used_subset _ he')
        · exact hw h e' he'
      · rintro _ ⟨⟩
        exact hw host e (hahead ▸ List.mem_cons_self)

end Rules

section Steps

namespace Client

variable {τ : Type} [Seconds τ] {P Q : Trouble → Prop}

theorem meets_remaining?
    (deadline : τ) :
    Meets P (remaining? deadline) fun _ => True :=
  meets_time.then fun _ => .pure trivial

/-- A step is stopped by its own trouble or by its limit. -/
theorem meets_perform
    (htimeout : Q .timeout)
    (limit : τ)
    {step : Step τ}
    (hstep : ∀ t, step.trouble = some t → Q t) :
    Meets P (perform limit step) (StoppedBy Q) := by
  rw [perform]
  split
  · exact (meets_pass limit).then fun _ => .pure (stoppedBy_error htimeout)
  · refine (meets_pass step.took).then fun _ => .pure ?_
    cases htrouble : step.trouble with
    | none =>
        exact stoppedBy_ok ()
    | some t =>
        exact stoppedBy_error (hstep t htrouble)

/-- Connecting is stopped by a limit, by the trouble of the last address, or because there is no
address. -/
theorem meets_connect
    {host : String}
    (hown : ∀ t, OwnTrouble host t → Q t)
    (deadline : τ)
    (index : Nat)
    {reason : Option String}
    (hreason : ∀ r, reason = some r → Q (.failure r))
    {addresses : List (Step τ)}
    (haddresses : ∀ s ∈ addresses, ∀ t, s.trouble = some t → Q t) :
    Meets P (connect host deadline index reason addresses) (StoppedBy Q) := by
  induction addresses generalizing index reason with
  | nil =>
      refine .pure (stoppedBy_error ?_)
      cases reason with
      | none =>
          exact hown _ .noAddress
      | some r =>
          exact hreason r rfl
  | cons address rest ih =>
      rw [List.forall_mem_cons] at haddresses
      refine (meets_note (.opened index)).then fun _ => ?_
      refine (meets_remaining? deadline).then fun left => ?_
      cases left with
      | none =>
          refine (meets_note .closed).then fun _ => ?_
          exact .pure (stoppedBy_error (hown _ .timeout))
      | some limit =>
          refine (meets_note (.connecting index limit)).then fun _ => ?_
          refine (meets_perform (hown _ .timeout) limit haddresses.1).bind fun result hresult => ?_
          match result, hresult with
          | .ok (), _ => exact .pure (stoppedBy_ok limit)
          | .error .timeout, hresult =>
              refine (meets_note .closed).then fun _ => ?_
              exact .pure (stoppedBy_error (hresult _ rfl))
          | .error (.failure r), hresult =>
              refine (meets_note .closed).then fun _ => ?_
              refine ih (index + 1) ?_ haddresses.2
              rintro _ ⟨⟩
              exact hresult _ rfl

theorem meets_readLimit?
    (deadline : τ)
    (limit : Option τ) :
    Meets P (readLimit? deadline limit) fun _ => True := by
  cases limit with
  | some limit =>
      exact .pure trivial
  | none =>
      refine (meets_remaining? deadline).then fun left => ?_
      cases left with
      | none =>
          exact .pure trivial
      | some limit =>
          exact (meets_note (.receiving limit)).then fun _ => .pure trivial

/-- Reading is stopped by a limit or by the trouble of a wait. -/
theorem meets_receive
    (htimeout : Q .timeout)
    (deadline : τ)
    (limit : Option τ)
    (got : Bytes)
    {arrivals : List (Arrival τ)}
    (hwaits : ∀ s, .wait s ∈ arrivals → ∀ t, s.trouble = some t → Q t) :
    Meets P (receive deadline limit got arrivals) (StoppedBy Q) := by
  induction arrivals generalizing limit got with
  | nil =>
      refine (meets_readLimit? deadline limit).then fun armed => ?_
      cases armed with
      | none =>
          exact .pure (stoppedBy_error htimeout)
      | some armed =>
          exact .pure (stoppedBy_ok got)
  | cons arrival rest ih =>
      have hrest := fun s hs => hwaits s (List.mem_cons_of_mem arrival hs)
      cases arrival with
      | bytes chunk =>
          refine (meets_readLimit? deadline limit).then fun armed => ?_
          cases armed with
          | none =>
              exact .pure (stoppedBy_error htimeout)
          | some armed =>
              dsimp only
              split
              · exact .pure (stoppedBy_ok got)
              · exact ih none (got ++ chunk) hrest
      | wait step =>
          refine (meets_readLimit? deadline limit).then fun armed => ?_
          cases armed with
          | none =>
              exact .pure (stoppedBy_error htimeout)
          | some armed =>
              have hstep := hwaits step List.mem_cons_self
              refine (meets_perform htimeout armed hstep).bind fun result hresult => ?_
              match result, hresult with
              | .ok (), _ => exact ih (some armed) got hrest
              | .error t, hresult => exact .pure (stoppedBy_error (hresult t rfl))

theorem meets_converse
    (htimeout : Q .timeout)
    (deadline limit : τ)
    (request : Request)
    {exchange : Exchange τ}
    (hexchange : ∀ t, exchange.Stores t → Q t) :
    Meets P (converse deadline limit request exchange) (StoppedBy Q) := by
  have hsending : ∀ t, exchange.sending.trouble = some t → Q t :=
    fun t ht => hexchange t (.sending ht)
  refine (meets_note (.sent request.bytes)).then fun _ => ?_
  refine (meets_perform htimeout limit hsending).bind fun result hresult => ?_
  match result, hresult with
  | .error t, hresult => exact .pure (stoppedBy_error (hresult t rfl))
  | .ok (), _ =>
      refine meets_receive htimeout deadline none [] fun s hs t ht => ?_
      exact hexchange t (.waiting (wait_mem_of_split hs) ht)

/-- A transfer is stopped by trouble of the network or of the client. -/
theorem meets_transfer
    (hkind : ∀ t, P t → Q t)
    {c : Call τ}
    (hown : ∀ t, OwnTrouble c.host t → Q t)
    (deadline : τ) :
    Meets P (transfer c deadline) (StoppedBy Q) := by
  refine (meets_note (.resolving c.host c.port)).then fun _ => ?_
  cases HostName.fault? c.host with
  | some fault =>
      exact .pure (stoppedBy_error (hown _ (.fault fault)))
  | none =>
      refine (meets_takeExchange c.host).bind fun exchange? hexchange? => ?_
      cases exchange? with
      | none =>
          exact .pure (stoppedBy_error (hown _ .unknown))
      | some exchange =>
          have hexchange : ∀ t, exchange.Stores t → Q t :=
            fun t ht => hkind t (hexchange? exchange rfl t ht)
          have haddresses :
              ∀ s ∈ exchange.addresses, ∀ t, s.trouble = some t → Q t :=
            fun s hs t ht => hexchange t (.connecting hs ht)
          dsimp only
          cases hresolving : exchange.resolving with
          | some t =>
              exact .pure (stoppedBy_error (hexchange t (.resolving hresolving)))
          | none =>
              have hconnect :
                  Meets P (connect c.host deadline 0 none exchange.addresses) (StoppedBy Q) := by
                refine meets_connect hown deadline 0 ?_ haddresses
                exact fun _ h => nomatch h
              refine hconnect.bind fun result hresult => ?_
              match result, hresult with
              | .error t, hresult => exact .pure (stoppedBy_error (hresult t rfl))
              | .ok limit, _ =>
                  refine (meets_converse (hown _ .timeout) deadline limit c.request
                    hexchange).bind fun answer hanswer => ?_
                  exact (meets_note .closed).then fun _ => .pure hanswer

end Client

end Steps

section Calls

namespace Client

variable {τ : Type} [Seconds τ] {P : Trouble → Prop}

/-- The error comes from trouble of a kind or of the client's own, or it is about what was
received. -/
def Error.StemsFrom
    (P : Trouble → Prop)
    (c : Call τ)
    (e : Error τ) :
    Prop :=
  (∃ t, (P t ∨ OwnTrouble c.host t) ∧ e = .ofTrouble c t) ∨ ∃ fault, e = .malformed fault

theorem meets_call
    (c : Call τ) :
    Meets P (call c) fun answer => ∀ e, answer = .error e → e.StemsFrom P c := by
  refine (meets_note (.called c)).then fun _ => ?_
  refine meets_time.then fun now => ?_
  refine (meets_note (.logged _)).then fun _ => ?_
  have htransfer :
      Meets P (transfer c (now + c.timeout))
        (StoppedBy fun t => P t ∨ OwnTrouble c.host t) :=
    meets_transfer (fun _ ht => Or.inl ht) (fun _ ht => Or.inr ht) _
  refine htransfer.bind fun result hresult => ?_
  match result, hresult with
  | .error t, hresult =>
      refine .pure ?_
      rintro _ ⟨⟩
      exact Or.inl ⟨t, hresult t rfl, rfl⟩
  | .ok bytes, _ =>
      dsimp only
      cases Response.read bytes with
      | error fault =>
          refine .pure ?_
          rintro _ ⟨⟩
          exact Or.inr ⟨fault, rfl⟩
      | ok response =>
          exact (meets_note (.logged _)).then fun _ => .pure fun _ h => nomatch h

/-- Where all trouble is of a kind, the errors that are answered come from no trouble but this and
the client's own. -/
theorem meets_answers
    (cs : List (Call τ)) :
    Meets P (answers cs)
      (List.Forall₂ (fun c answer => ∀ e, answer = .error e → e.StemsFrom P c) cs) := by
  induction cs with
  | nil =>
      exact .pure .nil
  | cons c cs ih =>
      refine (meets_call c).bind fun answer hanswer => ?_
      refine ih.bind fun later hlater => ?_
      exact .pure (.cons hanswer hlater)

end Client

end Calls

end ManagedSwitch
