import ManagedSwitch.Proofs.Net.After
import ManagedSwitch.Proofs.Net.Answers
import ManagedSwitch.Proofs.Net.Lateness
import ManagedSwitch.Proofs.Table

/-!
# Calls that take no time

A world is still if no step of any exchange consumes time.  In a still world the clock stands, and
what comes of a call is a matter of the exchanges that its host has ahead: `Client.reply` gives the
answer, what is sent, and the exchanges that are left.  The hosts have nothing to do with each
other, so that calls to several of them are answered as the calls to each are alone
(`Client.answers_of_still`), and calls are answered the same in worlds in which their hosts have the
same ahead (`Client.answers_congr`).
-/

namespace ManagedSwitch

section Entries

variable {τ : Type}

/-- The exchanges that a host has ahead. -/
def Network.ahead
    (network : Network τ)
    (host : String) :
    List (Exchange τ) :=
  (network.get? host).getD []

/-- What a host has ahead stands in an entry of the network. -/
theorem Network.exists_entry_of_mem_ahead
    {network : Network τ}
    {host : String}
    {e : Exchange τ}
    (he : e ∈ network.ahead host) :
    ∃ entry ∈ network.entries, e ∈ entry.2 := by
  rw [Network.ahead] at he
  cases hget : network.get? host with
  | none =>
      rw [hget] at he
      exact nomatch he
  | some es =>
      rw [hget] at he
      exact ⟨(host, es), Table.get?_eq_some_iff.mp hget, he⟩

end Entries

section Instants

variable {τ : Type} [Seconds τ]

/-- The step leaves the clock where it is and is within every limit that is left. -/
structure Step.Instant
    (now : τ)
    (s : Step τ) :
    Prop where
  stays : now + s.took = now
  within : ∀ limit : τ, ¬limit ≤ 0 → ¬limit < s.took

/-- A double below another one is at most that one. -/
theorem le_of_lt_float
    {x y : Float}
    (hlt : x < y) :
    x ≤ y := by
  change decide (x.toModel.unpack.lt y.toModel.unpack) = true at hlt
  change decide (x.toModel.unpack.le y.toModel.unpack) = true
  rw [decide_eq_true_iff, Float.Model.UnpackedFloat.lt, beq_iff_eq] at hlt
  rw [decide_eq_true_iff, Float.Model.UnpackedFloat.le, hlt]
  rfl

/-- On doubles, a step that takes zero seconds consumes no time. -/
theorem Step.instant_of_took_eq_zero
    {now : Float}
    (hnow : now + 0 = now)
    {s : Step Float}
    (htook : s.took = 0) :
    s.Instant now where
  stays := by
    rw [htook]
    exact hnow
  within := by
    rw [htook]
    exact fun limit hlimit hlt => hlimit (le_of_lt_float hlt)

/-- No step of the exchange consumes time. -/
structure Exchange.Instant
    (now : τ)
    (e : Exchange τ) :
    Prop where
  connecting : ∀ s ∈ e.addresses, s.Instant now
  sending : e.sending.Instant now
  waiting : ∀ s, .wait s ∈ e.arrivals → s.Instant now

/-- No step of any exchange consumes time. -/
def World.Still (w : World τ) : Prop :=
  ∀ host, ∀ e ∈ w.network.ahead host, e.Instant w.clock

/-- It is enough to look at the exchanges of the network one by one. -/
theorem World.still_of_forall
    {w : World τ}
    (hinstant : ∀ entry ∈ w.network.entries, ∀ e ∈ entry.2, e.Instant w.clock) :
    w.Still := by
  intro host e he
  obtain ⟨entry, hentry, hmem⟩ := Network.exists_entry_of_mem_ahead he
  exact hinstant entry hentry e hmem

end Instants

section Replies

namespace Client

variable {τ : Type}

/-- What comes of connecting to addresses when no time passes. -/
def connected
    (host : String)
    (late : Bool)
    (reason : Option String) :
    List (Step τ) → Except Trouble Unit
  | [] => .error (.failure (reason.getD ("No address found for " ++ host)))
  | s :: rest =>
    if late then
      .error .timeout
    else
      match s.trouble with
      | none => .ok ()
      | some .timeout => .error .timeout
      | some (.failure reason) => connected host late (some reason) rest

/-- What comes of reading when no time passes. -/
def received (got : Bytes) : List (Arrival τ) → Except Trouble Bytes
  | [] => .ok got
  | .bytes chunk :: rest => if chunk = [] then .ok got else received (got ++ chunk) rest
  | .wait s :: rest =>
    match s.trouble with
    | none => received got rest
    | some trouble => .error trouble

/-- What comes of sending and reading when no time passes. -/
def conversed (e : Exchange τ) : Except Trouble Bytes :=
  match e.sending.trouble with
  | none => received [] (e.arrivals.flatMap Arrival.split)
  | some trouble => .error trouble

/-- What comes of an exchange when no time passes, and what is sent. -/
def transferred
    (late : Bool)
    (c : Call τ)
    (e : Exchange τ) :
    Except Trouble Bytes × List Bytes :=
  match e.resolving with
  | some trouble => (.error trouble, [])
  | none =>
    match connected c.host late none e.addresses with
    | .error trouble => (.error trouble, [])
    | .ok () => (conversed e, [c.request.bytes])

/-- The exchanges after one has been used up; the last one stays. -/
def used : List (Exchange τ) → List (Exchange τ)
  | _ :: e :: rest => e :: rest
  | es => es

/-- The answer to a call, what is sent for it, and the exchanges that the host has ahead then. -/
structure Reply (τ : Type) where
  answer : Answer τ
  sent : List Bytes
  ahead : List (Exchange τ)

/-- The answer to a call that gets bytes, or has trouble. -/
def answerTo
    (c : Call τ) :
    Except Trouble Bytes → Answer τ
  | .error trouble => .error (.ofTrouble c trouble)
  | .ok bytes => (Response.read bytes).mapError .malformed

/-- What comes of a call when no time passes; `late` says that its deadline passes at once. -/
def reply
    (late : Bool)
    (c : Call τ)
    (ahead : List (Exchange τ)) :
    Reply τ :=
  match HostName.fault? c.host, ahead with
  | some fault, _ => ⟨answerTo c (.error (.failure fault.message)), [], ahead⟩
  | none, [] => ⟨answerTo c (.error (.failure "[Errno -2] Name or service not known")), [], ahead⟩
  | none, e :: _ =>
    ⟨answerTo c (transferred late c e).1, (transferred late c e).2, used ahead⟩

theorem reply_of_fault
    (late : Bool)
    {c : Call τ}
    {fault : HostName.Fault}
    (hfault : HostName.fault? c.host = some fault)
    (es : List (Exchange τ)) :
    reply late c es = ⟨answerTo c (.error (.failure fault.message)), [], es⟩ := by
  simp only [reply, hfault]

theorem reply_nil
    (late : Bool)
    {c : Call τ}
    (hfault : HostName.fault? c.host = none) :
    reply late c [] =
      ⟨answerTo c (.error (.failure "[Errno -2] Name or service not known")), [], []⟩ := by
  simp only [reply, hfault]

theorem reply_cons
    (late : Bool)
    {c : Call τ}
    (hfault : HostName.fault? c.host = none)
    (e : Exchange τ)
    (rest : List (Exchange τ)) :
    reply late c (e :: rest) =
      ⟨answerTo c (transferred late c e).1, (transferred late c e).2, used (e :: rest)⟩ := by
  simp only [reply, hfault]

theorem used_subset
    (es : List (Exchange τ)) :
    used es ⊆ es := by
  match es with
  | [] => exact List.Subset.refl _
  | [e] => exact List.Subset.refl _
  | e :: e' :: rest => exact List.subset_cons_self e (e' :: rest)

/-- No exchange comes up that was not ahead. -/
theorem reply_ahead_subset
    (late : Bool)
    (c : Call τ)
    (es : List (Exchange τ)) :
    (reply late c es).ahead ⊆ es := by
  cases hfault : HostName.fault? c.host with
  | some fault =>
      rw [reply_of_fault late hfault]
      exact List.Subset.refl es
  | none =>
      cases es with
      | nil =>
          rw [reply_nil late hfault]
          exact List.Subset.refl []
      | cons e rest =>
          rw [reply_cons late hfault]
          exact used_subset (e :: rest)

/-- The answers to calls to one host, what is sent to it, and the exchanges that it has ahead
then. -/
structure Replies (τ : Type) where
  answers : List (Answer τ)
  sent : List Bytes
  ahead : List (Exchange τ)

/-- What comes of calls to one host when no time passes. -/
def replies
    (late : Bool) :
    List (Call τ) → List (Exchange τ) → Replies τ
  | [], ahead => ⟨[], [], ahead⟩
  | c :: cs, ahead =>
    let first := reply late c ahead
    let others := replies late cs first.ahead
    ⟨first.answer :: others.answers, first.sent ++ others.sent, others.ahead⟩

theorem length_answers_replies
    (late : Bool)
    (cs : List (Call τ))
    (ahead : List (Exchange τ)) :
    (replies late cs ahead).answers.length = cs.length := by
  induction cs generalizing ahead with
  | nil =>
      rfl
  | cons c cs ih =>
      rw [replies, List.length_cons, List.length_cons, ih]

/-- Later calls find the exchanges that earlier ones leave ahead. -/
theorem replies_append
    (late : Bool)
    (cs ds : List (Call τ))
    (ahead : List (Exchange τ)) :
    replies late (cs ++ ds) ahead =
      let first := replies late cs ahead
      let others := replies late ds first.ahead
      ⟨first.answers ++ others.answers, first.sent ++ others.sent, others.ahead⟩ := by
  induction cs generalizing ahead with
  | nil =>
      rfl
  | cons c cs ih =>
      rw [List.cons_append, replies, ih, replies]
      simp only [List.cons_append, List.append_assoc]

/-- The answers to the calls to a host, given the answers to all calls. -/
def heardFrom
    (host : String)
    (cs : List (Call τ))
    (answers : List (Answer τ)) :
    List (Answer τ) :=
  ((cs.zip answers).filter fun p => p.1.host == host).map Prod.snd

theorem heardFrom_append
    (host : String)
    {cs : List (Call τ)}
    {heard : List (Answer τ)}
    (hlength : heard.length = cs.length)
    (ds : List (Call τ))
    (later : List (Answer τ)) :
    heardFrom host (cs ++ ds) (heard ++ later) =
      heardFrom host cs heard ++ heardFrom host ds later := by
  rw [heardFrom, List.zip_append hlength.symm, List.filter_append, List.map_append]
  rfl

theorem length_heardFrom
    (host : String)
    {cs : List (Call τ)}
    {heard : List (Answer τ)}
    (hlength : heard.length = cs.length) :
    (heardFrom host cs heard).length = (cs.filter fun c => c.host == host).length := by
  have hcalls : ((cs.zip heard).map Prod.fst).filter (fun c => c.host == host) =
      ((cs.zip heard).filter fun p => p.1.host == host).map Prod.fst :=
    List.filter_map
  rw [List.map_fst_zip hlength.ge] at hcalls
  rw [heardFrom, hcalls, List.length_map, List.length_map]

/-- Replies to all calls of a host are those to the first ones and, behind them, those to the
others. -/
theorem heardFrom_eq_of_append
    {host : String}
    {late : Bool}
    {cs ds : List (Call τ)}
    {heard later : List (Answer τ)}
    {ahead : List (Exchange τ)}
    (hlength : heard.length = cs.length)
    (hreplies : heardFrom host (cs ++ ds) (heard ++ later) =
      (replies late ((cs ++ ds).filter fun c => c.host == host) ahead).answers) :
    let first := replies late (cs.filter fun c => c.host == host) ahead
    heardFrom host cs heard = first.answers ∧
      heardFrom host ds later =
        (replies late (ds.filter fun c => c.host == host) first.ahead).answers := by
  rw [heardFrom_append host hlength, List.filter_append, replies_append] at hreplies
  refine List.append_inj hreplies ?_
  rw [length_heardFrom host hlength, length_answers_replies]

theorem heardFrom_of_forall_eq
    {host : String}
    {cs : List (Call τ)}
    {heard : List (Answer τ)}
    (hlength : heard.length = cs.length)
    (hcs : ∀ c ∈ cs, c.host = host) :
    heardFrom host cs heard = heard := by
  have hall : ((cs.zip heard).filter fun p => p.1.host == host) = cs.zip heard := by
    refine List.filter_eq_self.mpr fun p hp => ?_
    rw [beq_iff_eq]
    exact hcs p.1 (List.of_mem_zip hp).1
  rw [heardFrom, hall, List.map_snd_zip hlength.le]

theorem heardFrom_of_forall_ne
    {host : String}
    {cs : List (Call τ)}
    (hcs : ∀ c ∈ cs, c.host ≠ host)
    (heard : List (Answer τ)) :
    heardFrom host cs heard = [] := by
  have hnone : ((cs.zip heard).filter fun p => p.1.host == host) = [] := by
    refine List.filter_eq_nil_iff.mpr fun p hp => ?_
    rw [beq_iff_eq]
    exact hcs p.1 (List.of_mem_zip hp).1
  rw [heardFrom, hnone, List.map_nil]

end Client

end Replies

section Requests

variable {τ : Type}

/-- The requests that are sent to a host; `talking` says whether the last host that was resolved is
this one. -/
def sentTo
    (host : String)
    (talking : Bool) :
    List (Event τ) → List Bytes
  | [] => []
  | .resolving h _ :: es => sentTo host (h == host) es
  | .sent bytes :: es =>
    if talking then bytes :: sentTo host talking es else sentTo host talking es
  | _ :: es => sentTo host talking es

/-- The event is the resolution of a host. -/
def Event.isResolving : Event τ → Bool
  | .resolving .. => true
  | _ => false

/-- Events are looked at one after the other. -/
theorem exists_sentTo_append
    (host : String)
    (talking : Bool)
    (es : List (Event τ)) :
    ∃ later, ∀ fs,
      sentTo host talking (es ++ fs) = sentTo host talking es ++ sentTo host later fs := by
  induction es generalizing talking with
  | nil =>
      exact ⟨talking, fun _ => rfl⟩
  | cons e es ih =>
      cases e with
      | resolving h port =>
          obtain ⟨later, hlater⟩ := ih (h == host)
          exact ⟨later, fun fs => hlater fs⟩
      | sent bytes =>
          obtain ⟨later, hlater⟩ := ih talking
          refine ⟨later, fun fs => ?_⟩
          cases talking <;> simp [sentTo, hlater]
      | _ =>
          obtain ⟨later, hlater⟩ := ih talking
          exact ⟨later, fun fs => hlater fs⟩

/-- While no host is resolved, all requests go to one host. -/
theorem sentTo_append_of_not_resolving
    (host : String)
    (talking : Bool)
    {es : List (Event τ)}
    (hes : ∀ e ∈ es, e.isResolving = false)
    (fs : List (Event τ)) :
    sentTo host talking (es ++ fs) =
      (if talking then sentBytes es else []) ++ sentTo host talking fs := by
  induction es with
  | nil =>
      cases talking <;> rfl
  | cons e es ih =>
      rw [List.forall_mem_cons] at hes
      have hrest := ih hes.2
      cases e with
      | resolving h port =>
          exact nomatch hes.1
      | sent bytes =>
          cases talking <;> simpa [sentTo, sentBytes] using hrest
      | _ =>
          exact hrest

/-- Only the steps of the client count. -/
theorem sentTo_wire
    (host : String)
    (talking : Bool)
    (es : List (Event τ)) :
    sentTo host talking (wire es) = sentTo host talking es := by
  induction es generalizing talking with
  | nil =>
      rfl
  | cons e es ih =>
      cases e with
      | resolving h port =>
          exact ih (h == host)
      | sent bytes =>
          cases talking
          · exact ih false
          · exact congrArg (bytes :: ·) (ih true)
      | _ =>
          exact ih talking

end Requests

section Taking

variable {τ : Type}

/-- A host that has nothing ahead is not known. -/
theorem Network.take_of_ahead_eq_nil
    {network : Network τ}
    {host : String}
    (hahead : network.ahead host = []) :
    network.take host = none := by
  rw [ahead] at hahead
  rw [take]
  cases hget : network.get? host with
  | none =>
      rfl
  | some es =>
      rw [hget, Option.getD_some] at hahead
      rw [hahead]

/-- A conversation gets the first exchange that the host has ahead, and uses it up; the other hosts
have the same exchanges ahead as before. -/
theorem Network.take_of_ahead_eq_cons
    {network : Network τ}
    {host : String}
    {e : Exchange τ}
    {rest : List (Exchange τ)}
    (hahead : network.ahead host = e :: rest) :
    ∃ network', network.take host = some (e, network') ∧
      ∀ h, network'.ahead h = if h = host then Client.used (e :: rest) else network.ahead h := by
  have hget : network.get? host = some (e :: rest) := by
    rw [ahead] at hahead
    cases hget : network.get? host with
    | none =>
        rw [hget] at hahead
        exact nomatch hahead
    | some es =>
        rw [hget] at hahead
        exact congrArg some hahead
  rw [take, hget]
  cases rest with
  | nil =>
      refine ⟨network, rfl, fun h => ?_⟩
      split
      · next heq => exact heq ▸ hahead
      · rfl
  | cons e' rest =>
      refine ⟨network.put host (e' :: rest), rfl, fun h => ?_⟩
      rw [ahead, Table.get?_put]
      split <;> rfl

end Taking

section Leading

variable {τ : Type}

/-- What a run that takes no time and talks to no other host does to the world: it adds events, and
with them it sends the given requests. -/
structure World.Leads
    (w : World τ)
    (sent : List Bytes)
    (v : World τ) :
    Prop where
  clock_eq : v.clock = w.clock
  network_eq : v.network = w.network
  journal_eq :
    ∃ es, v.journal = w.journal ++ es ∧ sentBytes es = sent ∧ ∀ e ∈ es, e.isResolving = false

theorem World.Leads.refl
    (w : World τ) :
    w.Leads [] w where
  clock_eq := rfl
  network_eq := rfl
  journal_eq := ⟨[], (List.append_nil _).symm, rfl, nofun⟩

theorem World.Leads.trans
    {u v w : World τ}
    {sent sent' : List Bytes}
    (h : u.Leads sent v)
    (h' : v.Leads sent' w) :
    u.Leads (sent ++ sent') w := by
  obtain ⟨hclock, hnetwork, es, hes, rfl, hquiet⟩ := h
  obtain ⟨hclock', hnetwork', es', hes', rfl, hquiet'⟩ := h'
  refine ⟨hclock'.trans hclock, hnetwork'.trans hnetwork, es ++ es', ?_, ?_, ?_⟩
  · rw [hes', hes, List.append_assoc]
  · exact List.filterMap_append
  · exact List.forall_mem_append.mpr ⟨hquiet, hquiet'⟩

theorem World.leads_noted
    (w : World τ)
    {e : Event τ}
    (he : e.isResolving = false) :
    w.Leads (sentBytes [e]) (w.noted e) where
  clock_eq := rfl
  network_eq := rfl
  journal_eq := ⟨[e], rfl, rfl, List.forall_mem_singleton.mpr he⟩

end Leading

section Steps

namespace Client

variable {τ : Type} [Seconds τ]

/-- Whether no time is left as soon as a call begins. -/
def isLate (now timeout : τ) : Bool :=
  decide (now + timeout - now ≤ 0)

variable {w : World τ}

/-- An instant step leaves the world as it is. -/
theorem after_perform_of_instant
    {limit : τ}
    {step : Step τ}
    (hinstant : step.Instant w.clock)
    (hlimit : ¬limit ≤ 0)
    {Q : Except Trouble Unit → World τ → Prop} :
    After (perform limit step) w Q ↔
      Q (match step.trouble with | none => .ok () | some trouble => .error trouble) w := by
  have hlater : w.later step.took = w := by
    rw [World.later, hinstant.stays]
  refine (after_perform_of_le (hinstant.within limit hlimit)).trans ?_
  exact iff_of_eq (congrArg (Q _) hlater)

/-- Connecting at instant addresses. -/
theorem connect_of_instant
    (host : String)
    {deadline : τ}
    {late : Bool}
    (hlate : late = decide (deadline - w.clock ≤ 0))
    {addresses : List (Step τ)}
    (hinstant : ∀ s ∈ addresses, s.Instant w.clock)
    (index : Nat)
    (reason : Option String) :
    After (connect host deadline index reason addresses) w fun result v =>
      result.map (fun _ => ()) = connected host late reason addresses ∧
        (∀ limit, result = .ok limit → late = false ∧ ¬limit ≤ 0) ∧ w.Leads [] v := by
  induction addresses generalizing w index reason with
  | nil =>
      exact ⟨rfl, nofun, .refl w⟩
  | cons s rest ih =>
      rw [List.forall_mem_cons] at hinstant
      have hopened := w.leads_noted (e := .opened index) rfl
      cases late with
      | true =>
          rw [after_connect_of_passed (of_decide_eq_true hlate.symm)]
          exact ⟨rfl, nofun, hopened.trans (World.leads_noted _ (e := .closed) rfl)⟩
      | false =>
          have hleft : ¬deadline - w.clock ≤ 0 := of_decide_eq_false hlate.symm
          have hconnecting :=
            hopened.trans (World.leads_noted _ (e := .connecting index (deadline - w.clock)) rfl)
          rw [after_connect_of_left hleft,
            after_perform_of_instant (w := (w.noted _).noted _) hinstant.1 hleft, connected]
          cases s.trouble with
          | none =>
              refine ⟨rfl, ?_, hconnecting⟩
              rintro _ ⟨⟩
              exact ⟨rfl, hleft⟩
          | some trouble =>
              have hclosed := hconnecting.trans (World.leads_noted _ (e := .closed) rfl)
              cases trouble with
              | timeout =>
                  exact ⟨rfl, nofun, hclosed⟩
              | failure reason =>
                  refine After.mono (ih (w := ((w.noted _).noted _).noted _) hlate hinstant.2
                    (index + 1) (some reason)) ?_
                  rintro result v ⟨hresult, hlimit, hleads⟩
                  exact ⟨hresult, hlimit, hclosed.trans hleads⟩

/-- Reading what arrives without delay. -/
theorem receive_of_instant
    {deadline : τ}
    (hleft : ¬deadline - w.clock ≤ 0)
    {arrivals : List (Arrival τ)}
    (hinstant : ∀ s, .wait s ∈ arrivals → s.Instant w.clock)
    {limit : τ}
    (hlimit : ¬limit ≤ 0)
    (got : Bytes) :
    After (receive deadline (some limit) got arrivals) w fun result v =>
      result = received got arrivals ∧ w.Leads [] v := by
  induction arrivals generalizing w limit got with
  | nil =>
      exact ⟨rfl, .refl w⟩
  | cons arrival rest ih =>
      have hrest : ∀ s, .wait s ∈ rest → s.Instant w.clock :=
        fun s hs => hinstant s (List.mem_cons_of_mem arrival hs)
      cases arrival with
      | bytes chunk =>
          rw [after_receive_bytes, received]
          split
          · exact ⟨rfl, .refl w⟩
          · rw [after_receive_of_left hleft]
            have hnoted := w.leads_noted (e := .receiving (deadline - w.clock)) rfl
            refine After.mono (ih (w := w.noted _) hleft hrest hleft (got ++ chunk)) ?_
            exact fun result v h => ⟨h.1, hnoted.trans h.2⟩
      | wait s =>
          rw [after_receive_wait,
            after_perform_of_instant (hinstant s List.mem_cons_self) hlimit, received]
          cases s.trouble with
          | none =>
              exact ih hleft hrest hlimit got
          | some trouble =>
              exact ⟨rfl, .refl w⟩

/-- Sending a request and reading the answer in an exchange that takes no time. -/
theorem converse_of_instant
    {deadline : τ}
    (hleft : ¬deadline - w.clock ≤ 0)
    {limit : τ}
    (hlimit : ¬limit ≤ 0)
    (request : Request)
    {e : Exchange τ}
    (hinstant : e.Instant w.clock) :
    After (converse deadline limit request e) w fun result v =>
      result = conversed e ∧ w.Leads [request.bytes] v := by
  have hsent := w.leads_noted (e := .sent request.bytes) rfl
  rw [after_converse_iff, after_perform_of_instant (w := w.noted _) hinstant.sending hlimit,
    conversed]
  cases e.sending.trouble with
  | some trouble =>
      exact ⟨rfl, hsent⟩
  | none =>
      have hreceiving :=
        hsent.trans (World.leads_noted _ (e := .receiving (deadline - w.clock)) rfl)
      dsimp only [ending]
      rw [after_receive_of_left (w := w.noted _) hleft]
      refine After.mono
        (receive_of_instant (w := (w.noted _).noted _) hleft
          (fun s hs => hinstant.waiting s (wait_mem_of_split hs)) hleft []) ?_
      exact fun result v h => ⟨h.1, hreceiving.trans h.2⟩

end Client

end Steps

section Calls

variable {τ : Type}

/-- While no host is resolved, what is sent goes to the host that is being talked to. -/
theorem sentTo_eq_of_not_resolving
    (host : String)
    (talking : Bool)
    {es : List (Event τ)}
    (hes : ∀ e ∈ es, e.isResolving = false) :
    sentTo host talking es = if talking then sentBytes es else [] := by
  have h := sentTo_append_of_not_resolving host talking hes []
  rwa [List.append_nil, sentTo, List.append_nil] at h

/-- What talking to one host without delay does to the world: the given requests are sent to this
host and nothing to the others, and the host has the given exchanges ahead then. -/
structure World.Handles
    (w : World τ)
    (host : String)
    (sent : List Bytes)
    (ahead : List (Exchange τ))
    (v : World τ) :
    Prop where
  clock_eq : v.clock = w.clock
  ahead_eq : ∀ h, v.network.ahead h = if h = host then ahead else w.network.ahead h
  journal_eq :
    ∃ es, v.journal = w.journal ++ es ∧
      ∀ h talking, sentTo h talking es = if h = host then sent else []

variable {u v w : World τ} {host : String} {sent : List Bytes} {ahead : List (Exchange τ)}

/-- Talking to a host begins with resolving it. -/
theorem World.Leads.handles
    {port : Int}
    {network : Network τ}
    (hahead : ∀ h, network.ahead h = if h = host then ahead else w.network.ahead h)
    (hleads : ((w.noted (.resolving host port)).facing network).Leads sent v) :
    w.Handles host sent ahead v := by
  obtain ⟨hclock, hnetwork, es, hes, rfl, hquiet⟩ := hleads
  refine ⟨hclock, fun h => ?_, .resolving host port :: es, ?_, fun h talking => ?_⟩
  · rw [hnetwork]
    exact hahead h
  · rw [hes]
    exact List.append_assoc w.journal [.resolving host port] es
  · rw [sentTo, sentTo_eq_of_not_resolving h _ hquiet]
    by_cases heq : h = host
    · simp [heq]
    · simp [heq, Ne.symm heq]

theorem World.Leads.trans_handles
    (hleads : u.Leads [] w)
    (hhandles : w.Handles host sent ahead v) :
    u.Handles host sent ahead v := by
  obtain ⟨hclock, hnetwork, es, hes, hnone, hquiet⟩ := hleads
  obtain ⟨hclock', hahead, es', hes', hsent⟩ := hhandles
  refine ⟨hclock'.trans hclock, fun h => ?_, es ++ es', ?_, fun h talking => ?_⟩
  · rw [hahead, hnetwork]
  · rw [hes', hes, List.append_assoc]
  · rw [sentTo_append_of_not_resolving h talking hquiet, hnone, ite_self, List.nil_append, hsent]

theorem World.Handles.trans_leads
    (hhandles : w.Handles host sent ahead u)
    (hleads : u.Leads [] v) :
    w.Handles host sent ahead v := by
  obtain ⟨hclock, hahead, es, hes, hsent⟩ := hhandles
  obtain ⟨hclock', hnetwork, es', hes', hnone, hquiet⟩ := hleads
  refine ⟨hclock'.trans hclock, fun h => ?_, es ++ es', ?_, fun h talking => ?_⟩
  · rw [hnetwork, hahead]
  · rw [hes', hes, List.append_assoc]
  · obtain ⟨later, hlater⟩ := exists_sentTo_append h talking es
    rw [hlater, sentTo_eq_of_not_resolving h later hquiet, hnone, ite_self, List.append_nil, hsent]

variable [Seconds τ]

/-- A world stays still if the exchanges that are ahead only get fewer. -/
theorem World.Still.of_handles
    (hstill : w.Still)
    (hhandles : w.Handles host sent ahead v)
    (hsubset : ahead ⊆ w.network.ahead host) :
    v.Still := by
  intro h e he
  rw [hhandles.ahead_eq] at he
  rw [hhandles.clock_eq]
  split at he
  · exact hstill host e (hsubset he)
  · exact hstill h e he

namespace Client

/-- A transfer with an exchange that takes no time goes as the exchange says. -/
theorem transfer_of_instant
    {c : Call τ}
    (hinstant : ∀ e ∈ (w.network.ahead c.host).head?, e.Instant w.clock)
    {deadline : τ}
    {late : Bool}
    (hlate : late = decide (deadline - w.clock ≤ 0)) :
    After (transfer c deadline) w fun result v =>
      answerTo c result = (reply late c (w.network.ahead c.host)).answer ∧
        w.Handles c.host (reply late c (w.network.ahead c.host)).sent
          (reply late c (w.network.ahead c.host)).ahead v := by
  have hkept :
      ∀ h, w.network.ahead h =
        if h = c.host then w.network.ahead c.host else w.network.ahead h := by
    intro h
    split
    · next heq => rw [heq]
    · rfl
  cases hfault : HostName.fault? c.host with
  | some fault =>
      rw [after_transfer_of_fault hfault, reply_of_fault late hfault]
      exact ⟨rfl, World.Leads.handles hkept (.refl _)⟩
  | none =>
  cases hahead : w.network.ahead c.host with
  | nil =>
      rw [after_transfer_of_unknown hfault (Network.take_of_ahead_eq_nil hahead),
        reply_nil late hfault]
      rw [hahead] at hkept
      exact ⟨rfl, World.Leads.handles hkept (.refl _)⟩
  | cons e rest =>
  obtain ⟨network, htake, hothers⟩ := Network.take_of_ahead_eq_cons hahead
  replace hinstant : e.Instant w.clock := hinstant e (hahead ▸ rfl)
  rw [after_transfer_of_exchange hfault htake, reply_cons late hfault, transferred]
  cases e.resolving with
  | some trouble =>
      exact ⟨rfl, World.Leads.handles hothers (.refl _)⟩
  | none =>
  refine After.mono (connect_of_instant (w := (w.noted _).facing network) c.host hlate
    hinstant.connecting 0 none) ?_
  rintro result v ⟨hresult, hlimit, hleads⟩
  rw [← hresult]
  cases result with
  | error trouble =>
      exact ⟨rfl, World.Leads.handles hothers hleads⟩
  | ok limit =>
      obtain ⟨rfl, hpos⟩ := hlimit limit rfl
      have hclock : v.clock = w.clock := hleads.clock_eq
      rw [← hclock] at hlate hinstant
      dsimp only [ending]
      refine After.mono
        (converse_of_instant (of_decide_eq_false hlate.symm) hpos c.request hinstant) ?_
      rintro answer v' ⟨rfl, hleads'⟩
      have hclosed := World.leads_noted v' (e := .closed) rfl
      exact ⟨rfl, World.Leads.handles hothers ((hleads.trans hleads').trans hclosed)⟩

/-- A call with an exchange that takes no time is answered as the exchange says. -/
theorem call_of_instant
    {c : Call τ}
    (hinstant : ∀ e ∈ (w.network.ahead c.host).head?, e.Instant w.clock)
    {late : Bool}
    (hlate : late = isLate w.clock c.timeout) :
    After (call c) w fun answer v =>
      answer = (reply late c (w.network.ahead c.host)).answer ∧
        w.Handles c.host (reply late c (w.network.ahead c.host)).sent
          (reply late c (w.network.ahead c.host)).ahead v := by
  rw [call]
  simp only [after_bind_iff, after_note_iff, after_time_iff, after_remark_iff]
  have hbegun :
      ∀ r : Record, w.Leads [] ((w.noted (.called c)).noted (.logged r)) := fun r =>
    (w.leads_noted (e := .called c) rfl).trans (World.leads_noted _ (e := .logged r) rfl)
  refine After.mono (transfer_of_instant (w := (w.noted _).noted _) hinstant hlate) ?_
  rintro result v ⟨hanswer, hhandles⟩
  change answerTo c result = (reply late c (w.network.ahead c.host)).answer at hanswer
  have hhandled := (hbegun _).trans_handles hhandles
  rw [← hanswer]
  cases result with
  | error trouble =>
      exact ⟨rfl, hhandled⟩
  | ok bytes =>
      simp only [answerTo]
      cases Response.read bytes with
      | error fault =>
          exact ⟨rfl, hhandled⟩
      | ok response =>
          exact ⟨rfl, hhandled.trans_leads (World.leads_noted v (e := .logged _) rfl)⟩

/-- A call in a still world is answered as the exchange says that its host has ahead. -/
theorem call_of_still
    (hstill : w.Still)
    {c : Call τ}
    {late : Bool}
    (hlate : late = isLate w.clock c.timeout) :
    After (call c) w fun answer v =>
      answer = (reply late c (w.network.ahead c.host)).answer ∧
        w.Handles c.host (reply late c (w.network.ahead c.host)).sent
          (reply late c (w.network.ahead c.host)).ahead v :=
  call_of_instant (fun e he => hstill c.host e (List.mem_of_mem_head? he)) hlate

/-- In a still world, calls to a host are answered and sent as if there were no other ones. -/
theorem answers_of_still
    (hstill : w.Still)
    {late : Bool}
    {cs : List (Call τ)}
    (hlate : ∀ c ∈ cs, late = isLate w.clock c.timeout)
    (host : String) :
    After (answers cs) w fun heard v =>
      heardFrom host cs heard =
          (replies late (cs.filter fun c => c.host == host) (w.network.ahead host)).answers ∧
        ∃ es, v.journal = w.journal ++ es ∧
          ∀ talking, sentTo host talking es =
            (replies late (cs.filter fun c => c.host == host) (w.network.ahead host)).sent := by
  induction cs generalizing w with
  | nil =>
      exact ⟨rfl, [], (List.append_nil _).symm, fun _ => rfl⟩
  | cons c cs ih =>
      rw [List.forall_mem_cons] at hlate
      rw [answers]
      simp only [after_bind_iff, after_pure_iff]
      refine After.mono (call_of_still hstill hlate.1) ?_
      rintro answer u ⟨rfl, hhandles⟩
      have hrest : ∀ c ∈ cs, late = isLate u.clock c.timeout := by
        rw [hhandles.clock_eq]
        exact hlate.2
      refine After.mono
        (ih (hstill.of_handles hhandles (reply_ahead_subset late c _)) hrest) ?_
      rintro heard v ⟨hheard, es', hes', hsent'⟩
      obtain ⟨es, hes, hsent⟩ := hhandles.journal_eq
      have hjournal : v.journal = w.journal ++ (es ++ es') := by
        rw [hes', hes, List.append_assoc]
      have htold :
          ∀ talking, ∃ later,
            sentTo host talking (es ++ es') = sentTo host talking es ++ sentTo host later es' := by
        intro talking
        obtain ⟨later, hlater⟩ := exists_sentTo_append host talking es
        exact ⟨later, hlater es'⟩
      rw [hhandles.ahead_eq] at hheard hsent'
      -- A call to another host leaves what is ahead of this one, and sends nothing to it.
      by_cases hhost : c.host = host
      · subst hhost
        rw [if_pos rfl] at hheard hsent'
        rw [List.filter_cons, if_pos (beq_self_eq_true _), replies]
        refine ⟨?_, es ++ es', hjournal, fun talking => ?_⟩
        · rw [← hheard, heardFrom, List.zip_cons_cons, List.filter_cons,
            if_pos (beq_self_eq_true _)]
          rfl
        · obtain ⟨later, hlater⟩ := htold talking
          rw [hlater, hsent, if_pos rfl, hsent']
      · rw [if_neg (Ne.symm hhost)] at hheard hsent'
        have hother : ¬(c.host == host) = true := by
          rwa [beq_iff_eq]
        rw [List.filter_cons, if_neg hother]
        refine ⟨?_, es ++ es', hjournal, fun talking => ?_⟩
        · rw [← hheard, heardFrom, List.zip_cons_cons, List.filter_cons, if_neg hother]
          rfl
        · obtain ⟨later, hlater⟩ := htold talking
          rw [hlater, hsent, if_neg (Ne.symm hhost), hsent', List.nil_append]

end Client

end Calls

section Comparing

namespace Client

variable {τ : Type} [Seconds τ] {v w : World τ}

/-- Calls in a still world leave it still, and they leave what is ahead of the other hosts. -/
theorem answers_keeps_others
    (hstill : w.Still)
    (cs : List (Call τ)) :
    After (answers cs) w fun _ u =>
      u.Still ∧ u.clock = w.clock ∧
        ∀ h, (∀ c ∈ cs, c.host ≠ h) → u.network.ahead h = w.network.ahead h := by
  induction cs generalizing w with
  | nil =>
      exact ⟨hstill, rfl, fun _ _ => rfl⟩
  | cons c cs ih =>
      rw [answers]
      simp only [after_bind_iff, after_pure_iff]
      refine After.mono (call_of_still hstill rfl) ?_
      rintro _ u ⟨-, hhandles⟩
      have hkept : u.Still := hstill.of_handles hhandles (reply_ahead_subset _ c _)
      refine After.mono (ih hkept) ?_
      rintro _ u' ⟨hstill', hclock, hahead⟩
      refine ⟨hstill', hclock.trans hhandles.clock_eq, fun h hothers => ?_⟩
      rw [List.forall_mem_cons] at hothers
      rw [hahead h hothers.2, hhandles.ahead_eq, if_neg hothers.1.symm]

/-- Calls are answered the same in two still worlds in which their hosts have the same exchanges
ahead; the clocks have to agree on whether a deadline passes at once. -/
theorem answers_congr
    (hv : v.Still)
    (hw : w.Still)
    {cs : List (Call τ)}
    (hlate : ∀ c ∈ cs, isLate v.clock c.timeout = isLate w.clock c.timeout)
    (hahead : ∀ c ∈ cs, v.network.ahead c.host = w.network.ahead c.host) :
    ((answers cs).run v).1 = ((answers cs).run w).1 := by
  induction cs generalizing v w with
  | nil =>
      rfl
  | cons c cs ih =>
      rw [List.forall_mem_cons] at hlate hahead
      obtain ⟨hanswer, hhandles⟩ := call_of_still hv hlate.1.symm
      obtain ⟨hanswer', hhandles'⟩ := call_of_still hw (c := c) rfl
      rw [hahead.1] at hanswer hhandles
      rw [answers_cons, answers_cons, hanswer, hanswer']
      refine congrArg (List.cons _) (ih (v := ((call c).run v).2) (w := ((call c).run w).2)
        ?_ ?_ ?_ ?_)
      · exact hv.of_handles hhandles (hahead.1 ▸ reply_ahead_subset _ c _)
      · exact hw.of_handles hhandles' (reply_ahead_subset _ c _)
      · rw [hhandles.clock_eq, hhandles'.clock_eq]
        exact hlate.2
      · intro d hd
        rw [hhandles.ahead_eq, hhandles'.ahead_eq, hahead.2 d hd]

end Client

end Comparing

end ManagedSwitch
