import ManagedSwitch.Proofs.Net.Course

/-!
# How calls end

A call is answered by what it went through.  It times out exactly if one of its acts ends in a
timeout or is not made since the deadline has passed; it fails exactly if resolving, sending or
reading does, or every address; and in all other cases the answer is what the bytes that were read
say (`call_classified`).  On the way addresses that fail are skipped, and the request goes to the
first one that takes the connection.
-/

namespace ManagedSwitch
namespace Client

section Results

variable {τ : Type}

/-- The trouble that a result is. -/
def troubleOf {α : Type} : Except Trouble α → Option Trouble
  | .ok _ => none
  | .error trouble => some trouble

/-- The trouble in which an act ends. -/
def Act.trouble? : Act τ → Option Trouble
  | .resolve result => troubleOf result
  | .attempt _ _ result => troubleOf result
  | .exhausted _ => none
  | .send _ result => troubleOf result
  | .read _ _ result => troubleOf result
  | .close => none

/-- The trouble with which an act ends the call; an address that fails is skipped. -/
def Act.ending? : Act τ → Option Trouble
  | .attempt _ _ (.error (.failure _)) => none
  | .exhausted reason => some (.failure reason)
  | act => act.trouble?

/-- The index of an address that is tried, and what comes of it. -/
def Act.attempt? : Act τ → Option (Nat × Except Trouble Unit)
  | .attempt index _ result => some (index, result)
  | _ => none

/-- Why the client gives up without an address left. -/
def Act.exhausted? : Act τ → Option String
  | .exhausted reason => some reason
  | _ => none

/-- The bytes that an act gets. -/
def Act.bytes : Act τ → Bytes
  | .read _ _ (.ok chunk) => chunk
  | _ => []

/-- The act reads the end of the stream. -/
def Act.isEnd : Act τ → Bool
  | .read _ _ (.ok []) => true
  | _ => false

/-- The addresses that are tried on legs, in order. -/
def attempts (legs : List (Leg τ)) : List (Nat × Except Trouble Unit) :=
  legs.filterMap fun leg => leg.act.attempt?

/-- Why the client gives up on legs. -/
def givenUp (legs : List (Leg τ)) : List String :=
  legs.filterMap fun leg => leg.act.exhausted?

/-- The bytes that are read on legs. -/
def bytesRead (legs : List (Leg τ)) : Bytes :=
  legs.flatMap fun leg => leg.act.bytes

/-- The result that a call has at a stage. -/
def Stage.result? : Stage τ → Option (Except Trouble Bytes)
  | .closing result | .over result => some result
  | _ => none

/-- The bytes that have been read at a stage. -/
def Stage.got : Stage τ → Bytes
  | .reading got _ => got
  | .closing result | .over result => result.toOption.getD []
  | _ => []

theorem mem_givenUp_iff
    {legs : List (Leg τ)}
    {reason : String} :
    reason ∈ givenUp legs ↔ ∃ leg ∈ legs, leg.act = .exhausted reason := by
  rw [givenUp, List.mem_filterMap]
  refine exists_congr fun leg => and_congr_right fun _ => ?_
  cases leg.act <;> simp [Act.exhausted?]

theorem Act.ending?_eq_timeout_iff
    (act : Act τ) :
    act.ending? = some .timeout ↔ act.trouble? = some .timeout := by
  rcases act with _ | ⟨_, _, (_ | _) | _⟩ | _ | _ | _ | _ <;> simp [ending?, trouble?, troubleOf]

theorem Act.ending?_eq_failure_iff
    (act : Act τ)
    (reason : String) :
    act.ending? = some (.failure reason) ↔
      (act.attempt? = none ∧ act.trouble? = some (.failure reason)) ∨
        act = .exhausted reason := by
  rcases act with _ | ⟨_, _, (_ | _) | _⟩ | _ | _ | _ | _ <;>
    simp [ending?, trouble?, troubleOf, attempt?]

end Results

section Moves

variable {τ : Type} [Seconds τ] {c : Call τ} {found : Except Trouble (Exchange τ)} {deadline : τ}
variable {stage next : Stage τ} {leg : Leg τ}

/-- A call has trouble as its result exactly if an act ends it with this trouble. -/
theorem Move.error_iff
    (hmove : Move c found deadline stage leg next)
    (trouble : Trouble) :
    next.result? = some (.error trouble) ↔
      stage.result? = some (.error trouble) ∨ leg.act.ending? = some trouble := by
  cases hmove <;> simp [Stage.result?, Act.ending?, Act.trouble?, troubleOf]

/-- A call has bytes as its result exactly if it reads the end of the stream. -/
theorem Move.ok_iff
    (hmove : Move c found deadline stage leg next) :
    (∃ bytes, next.result? = some (.ok bytes)) ↔
      (∃ bytes, stage.result? = some (.ok bytes)) ∨ leg.act.isEnd = true := by
  cases hmove <;> simp_all [Stage.result?, Act.isEnd]

/-- Unless it ends a call with trouble, an act adds what it reads to the bytes that have been
read. -/
theorem Move.got_eq
    (hmove : Move c found deadline stage leg next)
    (hending : leg.act.ending? = none) :
    next.got = stage.got ++ leg.act.bytes := by
  cases hmove <;>
    simp_all [Stage.got, Act.ending?, Act.trouble?, troubleOf, Act.bytes, Except.toOption]

/-- Where a call has its result, the connection is closed, which takes no time, and nothing else is
done. -/
theorem Move.closes
    (hmove : Move c found deadline stage leg next)
    (hresult : stage.result?.isSome) :
    leg.act = .close ∧ leg.finish = leg.start ∧ next.result? = stage.result? := by
  cases hmove <;> simp_all [Stage.result?]

end Moves

section Courses

variable {τ : Type} [Seconds τ] {c : Call τ} {found : Except Trouble (Exchange τ)} {deadline : τ}
variable {now finish : τ} {stage last : Stage τ} {legs : List (Leg τ)}

theorem Course.error_iff
    (h : Course c found deadline now stage legs finish last)
    (trouble : Trouble) :
    last.result? = some (.error trouble) ↔
      stage.result? = some (.error trouble) ∨
        ∃ leg ∈ legs, leg.act.ending? = some trouble := by
  induction h with
  | refl =>
      simp
  | move hmove _ ih =>
      rw [ih, hmove.error_iff, List.exists_mem_cons_iff, or_assoc]

theorem Course.ok_iff
    (h : Course c found deadline now stage legs finish last) :
    (∃ bytes, last.result? = some (.ok bytes)) ↔
      (∃ bytes, stage.result? = some (.ok bytes)) ∨ ∃ leg ∈ legs, leg.act.isEnd = true := by
  induction h with
  | refl =>
      simp
  | move hmove _ ih =>
      rw [ih, hmove.ok_iff, List.exists_mem_cons_iff, or_assoc]

/-- What is read on the way is what has been read in the end. -/
theorem Course.got_eq
    (h : Course c found deadline now stage legs finish last)
    (hending : ∀ leg ∈ legs, leg.act.ending? = none) :
    last.got = stage.got ++ bytesRead legs := by
  induction h with
  | refl =>
      exact (List.append_nil _).symm
  | move hmove _ ih =>
      rw [List.forall_mem_cons] at hending
      rw [ih hending.2, hmove.got_eq hending.1, List.append_assoc]
      rfl

theorem Course.closes
    (h : Course c found deadline now stage legs finish last)
    (hresult : stage.result?.isSome) :
    (∀ leg ∈ legs, leg.act = .close) ∧ finish = now := by
  induction h with
  | refl =>
      exact ⟨List.forall_mem_nil _, rfl⟩
  | move hmove _ ih =>
      obtain ⟨hclose, htime, hkept⟩ := hmove.closes hresult
      obtain ⟨hrest, hfinish⟩ := ih (hkept ▸ hresult)
      exact ⟨List.forall_mem_cons.mpr ⟨hclose, hrest⟩, hfinish.trans htime⟩

/-- A course goes on behind each of its legs. -/
theorem Course.split
    {before after : List (Leg τ)}
    {leg : Leg τ}
    (h : Course c found deadline now stage (before ++ leg :: after) finish last) :
    ∃ middle next, Move c found deadline middle leg next ∧
      Course c found deadline leg.finish next after finish last := by
  induction before generalizing now stage with
  | nil =>
      obtain - | ⟨hmove, hrest⟩ := h
      exact ⟨_, _, hmove, hrest⟩
  | cons _ before ih =>
      obtain - | ⟨-, hrest⟩ := h
      exact ih hrest

/-- Once an act has ended a call with trouble, only closing is left. -/
theorem Course.close_of_ending
    {before after : List (Leg τ)}
    {leg : Leg τ}
    (h : Course c found deadline now stage (before ++ leg :: after) finish last)
    {trouble : Trouble}
    (htrouble : leg.act.ending? = some trouble) :
    ∀ l ∈ after, l.act = .close := by
  obtain ⟨middle, next, hmove, hrest⟩ := h.split
  refine (hrest.closes ?_).1
  rw [(hmove.error_iff trouble).mpr (.inr htrouble)]
  rfl

/-- Once the end of the stream has been read, a call is over. -/
theorem Course.finish_of_isEnd
    {leg : Leg τ}
    (h : Course c found deadline now stage legs finish last)
    (hleg : leg ∈ legs)
    (hend : leg.act.isEnd) :
    leg.finish = finish := by
  obtain ⟨before, after, rfl⟩ := List.append_of_mem hleg
  obtain ⟨middle, next, hmove, hrest⟩ := h.split
  refine (hrest.closes ?_).2.symm
  obtain ⟨bytes, hresult⟩ := hmove.ok_iff.mpr (.inr hend)
  rw [hresult]
  rfl

end Courses

section Addresses

variable {τ : Type}

/-- Addresses that fail one behind the other, the first one having the given index. -/
def failuresFrom
    (index : Nat) :
    List String → List (Nat × Except Trouble Unit)
  | [] => []
  | why :: whys => (index, .error (.failure why)) :: failuresFrom (index + 1) whys

theorem failure_of_mem_failuresFrom
    {index : Nat}
    {whys : List String}
    {attempt : Nat × Except Trouble Unit}
    (hattempt : attempt ∈ failuresFrom index whys) :
    ∃ why, attempt.2 = .error (.failure why) := by
  induction whys generalizing index with
  | nil =>
      exact nomatch hattempt
  | cons why whys ih =>
      obtain rfl | hattempt := List.mem_cons.mp hattempt
      · exact ⟨why, rfl⟩
      · exact ih hattempt

theorem failuresFrom_injective
    {index : Nat}
    {whys whys' : List String}
    (h : failuresFrom index whys = failuresFrom index whys') :
    whys = whys' := by
  induction whys generalizing index whys' with
  | nil =>
      cases whys' with
      | nil =>
          rfl
      | cons _ _ =>
          exact nomatch h
  | cons why whys ih =>
      cases whys' with
      | nil =>
          exact nomatch h
      | cons why' whys' =>
          obtain ⟨hfirst, hrest⟩ := List.cons.inj h
          injection (Prod.mk.inj hfirst).2 with hwhy
          injection hwhy with hwhy
          rw [hwhy, ih hrest]

/-- How addresses are tried, the first one having the given index; `reason` is why an address in
front of it failed. -/
inductive Tries
    (c : Call τ)
    (index : Nat)
    (reason : Option String)
    (count : Nat)
    (tried : List (Nat × Except Trouble Unit))
    (given : List String)
    (sent : List Bytes) :
    Prop
  /-- All of them fail, and the client gives up with the last reason. -/
  | failed (whys : List String) :
      whys.length = count →
      tried = failuresFrom index whys →
      given = [(whys.getLast?.or reason).getD ("No address found for " ++ c.host)] →
      sent = [] →
      Tries c index reason count tried given sent
  /-- Some fail, and the next one ends in a timeout or is not tried since the deadline has
  passed. -/
  | timedOut (whys : List String) :
      whys.length < count →
      tried = failuresFrom index whys ++ [(index + whys.length, .error .timeout)] →
      given = [] →
      sent = [] →
      Tries c index reason count tried given sent
  /-- Some fail, the next one takes the connection, and the request is sent to it. -/
  | connected (whys : List String) :
      whys.length < count →
      tried = failuresFrom index whys ++ [(index + whys.length, .ok ())] →
      given = [] →
      sent = [c.request.bytes] →
      Tries c index reason count tried given sent

/-- The client gives up exactly if all addresses have failed, with the last reason. -/
theorem Tries.given_iff
    {c : Call τ}
    {count : Nat}
    {tried : List (Nat × Except Trouble Unit)}
    {given : List String}
    {sent : List Bytes}
    (h : Tries c 0 none count tried given sent)
    (reason : String) :
    reason ∈ given ↔
      ∃ whys : List String, whys.length = count ∧ tried = failuresFrom 0 whys ∧
        reason = whys.getLast?.getD ("No address found for " ++ c.host) := by
  have hno :
      ∀ {result} {whys whys' : List String},
        failuresFrom 0 whys ++ [(0 + whys.length, result)] = failuresFrom 0 whys' →
          ∃ why, result = .error (.failure why) := by
    intro result whys whys' heq
    exact failure_of_mem_failuresFrom (heq ▸ List.mem_append_cons_self)
  cases h with
  | failed whys hlength htried hgiven hsent =>
      rw [hgiven, Option.or_none, List.mem_singleton]
      constructor
      · rintro rfl
        exact ⟨whys, hlength, htried, rfl⟩
      · rintro ⟨whys', -, htried', hreason⟩
        rw [failuresFrom_injective (htried.symm.trans htried'), hreason]
  | timedOut whys hlength htried hgiven hsent | connected whys hlength htried hgiven hsent =>
      rw [hgiven, htried]
      refine iff_of_false List.not_mem_nil ?_
      rintro ⟨whys', -, htried', -⟩
      obtain ⟨why, hwhy⟩ := hno htried'
      cases hwhy

/-- An address that fails is skipped. -/
theorem Tries.skip
    {c : Call τ}
    {index : Nat}
    {why : String}
    {count : Nat}
    {tried : List (Nat × Except Trouble Unit)}
    {given : List String}
    {sent : List Bytes}
    (h : Tries c (index + 1) (some why) count tried given sent)
    (reason : Option String) :
    Tries c index reason (count + 1) ((index, .error (.failure why)) :: tried) given sent := by
  have hindex : ∀ n, index + 1 + n = index + (n + 1) := by omega
  cases h with
  | failed whys hlength htried hgiven hsent =>
      refine .failed (why :: whys) (congrArg Nat.succ hlength) (congrArg (List.cons _) htried) ?_
        hsent
      rw [hgiven, List.getLast?_cons]
      cases whys.getLast? <;> rfl
  | timedOut whys hlength htried hgiven hsent =>
      rw [hindex] at htried
      exact .timedOut (why :: whys) (Nat.succ_lt_succ hlength) (congrArg (List.cons _) htried)
        hgiven hsent
  | connected whys hlength htried hgiven hsent =>
      rw [hindex] at htried
      exact .connected (why :: whys) (Nat.succ_lt_succ hlength) (congrArg (List.cons _) htried)
        hgiven hsent

variable [Seconds τ] {c : Call τ} {found : Except Trouble (Exchange τ)} {deadline : τ}
variable {now finish : τ} {stage last : Stage τ} {legs : List (Leg τ)}

/-- The stages behind sending. -/
def Stage.isBehindSending : Stage τ → Bool
  | .reading .. | .closing _ | .over _ => true
  | _ => false

/-- Behind sending, no address is tried and nothing is sent. -/
theorem Course.behindSending
    (h : Course c found deadline now stage legs finish last)
    (hstage : stage.isBehindSending) :
    attempts legs = [] ∧ givenUp legs = [] ∧
      sentBytes (legEvents c legs) = [] := by
  induction h with
  | refl =>
      exact ⟨rfl, rfl, rfl⟩
  | move hmove _ ih =>
      cases hmove with
      | expired | arrived | ended | broken | closed =>
          exact ih rfl
      | _ =>
          exact nomatch hstage

/-- A connection that stands is sent the request. -/
theorem Course.sending
    {limit : τ}
    {result : Except Trouble Bytes}
    (h : Course c found deadline now (.sending limit) legs finish (.over result)) :
    attempts legs = [] ∧ givenUp legs = [] ∧
      sentBytes (legEvents c legs) = [c.request.bytes] := by
  obtain - | ⟨hmove, hrest⟩ := h
  cases hmove with
  | sent | unsent =>
      obtain ⟨hattempts, hgiven, hsent⟩ := hrest.behindSending rfl
      exact ⟨hattempts, hgiven, congrArg (List.cons _) hsent⟩

/-- Addresses that fail are skipped, the request goes to the first one that takes the connection,
and a timeout ends the attempts. -/
theorem Course.tries
    {index : Nat}
    {reason : Option String}
    {addresses : List (Step τ)}
    {result : Except Trouble Bytes}
    (h : Course c found deadline now (.connecting index reason addresses) legs finish
      (.over result)) :
    Tries c index reason addresses.length (attempts legs) (givenUp legs)
      (sentBytes (legEvents c legs)) := by
  induction addresses generalizing now index reason legs with
  | nil =>
      obtain - | ⟨hmove, hrest⟩ := h
      cases hmove with
      | exhausted =>
          obtain ⟨hattempts, hgiven, hsent⟩ := hrest.behindSending rfl
          exact .failed [] rfl hattempts (congrArg (List.cons _) hgiven) hsent
  | cons s rest ih =>
      obtain - | ⟨hmove, hrest⟩ := h
      cases hmove with
      | late | timedOut =>
          obtain ⟨hattempts, hgiven, hsent⟩ := hrest.behindSending rfl
          exact .timedOut [] (Nat.zero_lt_succ _) (congrArg (List.cons _) hattempts) hgiven
            hsent
      | connected =>
          obtain ⟨hattempts, hgiven, hsent⟩ := hrest.sending
          exact .connected [] (Nat.zero_lt_succ _) (congrArg (List.cons _) hattempts) hgiven
            hsent
      | skipped =>
          exact (ih hrest).skip _

end Addresses

section Answers

variable {τ : Type} {c : Call τ} {result : Except Trouble Bytes}

theorem answerTo_eq_ofTrouble_iff
    (trouble : Trouble) :
    answerTo c result = .error (.ofTrouble c trouble) ↔ result = .error trouble := by
  rcases result with (_ | _) | bytes
  · cases trouble <;> simp [answerTo, Error.ofTrouble]
  · cases trouble <;> simp [answerTo, Error.ofTrouble]
  · cases trouble <;> cases hread : Response.read bytes <;>
      simp [answerTo, hread, Except.mapError, Error.ofTrouble]

theorem answerTo_eq_ok_iff
    (response : Response) :
    answerTo c result = .ok response ↔
      ∃ bytes, result = .ok bytes ∧ Response.read bytes = .ok response := by
  rcases result with _ | bytes
  · simp [answerTo]
  · cases hread : Response.read bytes <;> simp [answerTo, hread, Except.mapError]

theorem answerTo_eq_malformed_iff
    (fault : Response.Fault) :
    answerTo c result = .error (.malformed fault) ↔
      ∃ bytes, result = .ok bytes ∧ Response.read bytes = .error fault := by
  rcases result with (_ | _) | bytes
  · simp [answerTo, Error.ofTrouble]
  · simp [answerTo, Error.ofTrouble]
  · cases hread : Response.read bytes <;> simp [answerTo, hread, Except.mapError]

/-- A call has a response, or it timed out, or it failed, or what it got is no response. -/
theorem answerTo_cases
    (c : Call τ)
    (result : Except Trouble Bytes) :
    (∃ response, answerTo c result = .ok response) ∨
      answerTo c result = .error (.timedOut c.host c.port c.timeout) ∨
      (∃ reason, answerTo c result = .error (.failed c.host c.port reason)) ∨
      ∃ fault, answerTo c result = .error (.malformed fault) := by
  rcases result with (_ | reason) | bytes
  · exact .inr (.inl rfl)
  · exact .inr (.inr (.inl ⟨reason, rfl⟩))
  · cases hread : Response.read bytes with
    | error fault =>
        exact .inr (.inr (.inr ⟨fault, (answerTo_eq_malformed_iff fault).mpr ⟨bytes, rfl, hread⟩⟩))
    | ok response =>
        exact .inl ⟨response, (answerTo_eq_ok_iff response).mpr ⟨bytes, rfl, hread⟩⟩

end Answers

section Classes

variable {τ : Type} [Seconds τ]

/-- The answer to a call is the one that its legs call for, where resolving finds the given
exchange. -/
structure Classified
    (c : Call τ)
    (found : Except Trouble (Exchange τ))
    (deadline : τ)
    (legs : List (Leg τ))
    (answer : Except (Error τ) Response) :
    Prop where
  answered :
    (∃ response, answer = .ok response) ∨
      answer = .error (.timedOut c.host c.port c.timeout) ∨
      (∃ reason, answer = .error (.failed c.host c.port reason)) ∨
      ∃ fault, answer = .error (.malformed fault)
  /-- Something ended in a timeout, or was due when the deadline had passed. -/
  timedOut_iff :
    answer = .error (.timedOut c.host c.port c.timeout) ↔
      ∃ leg ∈ legs, leg.act.trouble? = some .timeout
  /-- Attempts and reading steps are not made once the deadline has passed, and only then. -/
  due :
    ∀ leg ∈ legs, ∀ limit, leg.act.limit? = some limit →
      limit = if deadline - leg.start ≤ 0 then none else some (deadline - leg.start)
  /-- Resolving, sending or reading failed, or all addresses did. -/
  failed_iff :
    ∀ reason, answer = .error (.failed c.host c.port reason) ↔
      (∃ leg ∈ legs, leg.act.attempt? = none ∧ leg.act.trouble? = some (.failure reason)) ∨
        ∃ e whys, found = .ok e ∧ whys.length = e.addresses.length ∧
          attempts legs = failuresFrom 0 whys ∧
          reason = whys.getLast?.getD ("No address found for " ++ c.host)
  /-- The end of the stream was read, and what had been read is a response. -/
  response_iff :
    ∀ response, answer = .ok response ↔
      (∃ leg ∈ legs, leg.act.isEnd) ∧ Response.read (bytesRead legs) = .ok response
  malformed_iff :
    ∀ fault, answer = .error (.malformed fault) ↔
      (∃ leg ∈ legs, leg.act.isEnd) ∧ Response.read (bytesRead legs) = .error fault
  /-- A timeout ends the call: a connection that stands is closed, and that is all. -/
  stops :
    ∀ before leg after, legs = before ++ leg :: after → leg.act.trouble? = some .timeout →
      ∀ l ∈ after, l.act = .close
  /-- What comes of each leg is as the exchange has it. -/
  scripted :
    ∀ e, found = .ok e → ∀ leg ∈ legs, leg.IsOf e
  /-- Without an exchange resolving is all that is done. -/
  unresolved :
    ∀ trouble, found = .error trouble → legs.map Leg.act = [.resolve (.error trouble)]
  tries :
    ∀ e, found = .ok e →
      Tries c 0 none e.addresses.length (attempts legs) (givenUp legs)
        (sentBytes (legEvents c legs))

variable {c : Call τ} {found : Except Trouble (Exchange τ)} {deadline now finish : τ}
variable {legs : List (Leg τ)} {result : Except Trouble Bytes}

theorem Course.resolving_of_error
    {trouble : Trouble}
    (htrouble : found = .error trouble)
    (h : Course c found deadline now .resolving legs finish (.over result)) :
    legs.map Leg.act = [.resolve (.error trouble)] := by
  obtain - | ⟨hmove, hrest⟩ := h
  cases hmove with
  | lost hlost =>
      cases hlost.symm.trans htrouble
      obtain - | ⟨hmove, -⟩ := hrest
      · rfl
      · exact nomatch hmove
  | found hfound =>
      exact nomatch hfound.symm.trans htrouble

theorem Course.tries_of_ok
    {e : Exchange τ}
    (hfound : found = .ok e)
    (h : Course c found deadline now .resolving legs finish (.over result)) :
    Tries c 0 none e.addresses.length (attempts legs) (givenUp legs)
      (sentBytes (legEvents c legs)) := by
  obtain - | ⟨hmove, hrest⟩ := h
  cases hmove with
  | lost hlost =>
      exact nomatch hlost.symm.trans hfound
  | found hfound' =>
      cases hfound'.symm.trans hfound
      exact hrest.tries

theorem Course.timedOut_iff
    (h : Course c found deadline now .resolving legs finish (.over result)) :
    result = .error .timeout ↔ ∃ leg ∈ legs, leg.act.trouble? = some .timeout := by
  have hiff := h.error_iff .timeout
  simp only [Act.ending?_eq_timeout_iff] at hiff
  simpa [Stage.result?] using hiff

/-- The client gives up exactly if there is an exchange and all of its addresses fail. -/
theorem Course.exhausted_iff
    (h : Course c found deadline now .resolving legs finish (.over result))
    (reason : String) :
    (∃ leg ∈ legs, leg.act = .exhausted reason) ↔
      ∃ e whys, found = .ok e ∧ whys.length = e.addresses.length ∧
        attempts legs = failuresFrom 0 whys ∧
        reason = whys.getLast?.getD ("No address found for " ++ c.host) := by
  cases hfound : found with
  | error trouble =>
      refine iff_of_false ?_ (by simp)
      rintro ⟨leg, hleg, hact⟩
      have hmem : Act.exhausted reason ∈ legs.map Leg.act := hact ▸ List.mem_map_of_mem hleg
      rw [h.resolving_of_error hfound] at hmem
      exact nomatch List.mem_singleton.mp hmem
  | ok e =>
      rw [← mem_givenUp_iff, (h.tries_of_ok hfound).given_iff reason]
      simp

theorem Course.failed_iff
    (h : Course c found deadline now .resolving legs finish (.over result))
    (reason : String) :
    result = .error (.failure reason) ↔
      (∃ leg ∈ legs, leg.act.attempt? = none ∧ leg.act.trouble? = some (.failure reason)) ∨
        ∃ e whys, found = .ok e ∧ whys.length = e.addresses.length ∧
          attempts legs = failuresFrom 0 whys ∧
          reason = whys.getLast?.getD ("No address found for " ++ c.host) := by
  have hiff := h.error_iff (.failure reason)
  simp only [Act.ending?_eq_failure_iff, and_or_left, exists_or, h.exhausted_iff] at hiff
  simpa [Stage.result?] using hiff

/-- The result is bytes exactly if the end of the stream is read, and then they are those that were
read. -/
theorem Course.ok_iff_bytesRead
    (h : Course c found deadline now .resolving legs finish (.over result))
    (bytes : Bytes) :
    result = .ok bytes ↔ (∃ leg ∈ legs, leg.act.isEnd) ∧ bytes = bytesRead legs := by
  have hend : (∃ bytes, result = .ok bytes) ↔ ∃ leg ∈ legs, leg.act.isEnd := by
    simpa [Stage.result?] using h.ok_iff
  have hread : ∀ bytes, result = .ok bytes → bytes = bytesRead legs := by
    rintro bytes rfl
    refine h.got_eq fun leg hleg => ?_
    refine Option.eq_none_iff_forall_not_mem.mpr fun trouble htrouble => ?_
    exact nomatch (h.error_iff trouble).mpr (.inr ⟨leg, hleg, htrouble⟩)
  constructor
  · intro hresult
    exact ⟨hend.mp ⟨bytes, hresult⟩, hread bytes hresult⟩
  · rintro ⟨hleg, rfl⟩
    obtain ⟨bytes, hresult⟩ := hend.mpr hleg
    rw [hresult, hread bytes hresult]

theorem Course.classified
    (h : Course c found deadline now .resolving legs finish (.over result)) :
    Classified c found deadline legs (answerTo c result) where
  answered := answerTo_cases c result
  timedOut_iff := (answerTo_eq_ofTrouble_iff .timeout).trans h.timedOut_iff
  due := h.forall_of_move fun hmove _ => hmove.limit_eq
  failed_iff reason := (answerTo_eq_ofTrouble_iff (.failure reason)).trans (h.failed_iff reason)
  response_iff response := by
    rw [answerTo_eq_ok_iff]
    simp only [h.ok_iff_bytesRead, and_assoc, exists_and_left, exists_eq_left]
  malformed_iff fault := by
    rw [answerTo_eq_malformed_iff]
    simp only [h.ok_iff_bytesRead, and_assoc, exists_and_left, exists_eq_left]
  stops := by
    rintro before leg after rfl htrouble
    exact h.close_of_ending ((Act.ending?_eq_timeout_iff _).mpr htrouble)
  scripted := by
    rintro e rfl
    exact h.isOf trivial
  unresolved _ htrouble := h.resolving_of_error htrouble
  tries _ hfound := h.tries_of_ok hfound

/-- A host name that cannot be encoded is not resolved. -/
theorem call_of_fault
    {fault : HostName.Fault}
    (hfault : HostName.fault? c.host = some fault)
    (w : World τ) :
    ((call c).run w).1 = .error (.failed c.host c.port fault.message) := by
  obtain ⟨legs, result, h⟩ := exists_follows c w
  have hfound : resolved w.network c.host = .error (.failure fault.message) := by
    simp only [resolved, hfault]
  have hacts := h.course.resolving_of_error hfound
  obtain ⟨leg, hleg, hact⟩ :
      ∃ leg ∈ legs, leg.act = .resolve (.error (.failure fault.message)) := by
    rw [← List.mem_map, hacts]
    exact List.mem_singleton_self _
  refine h.answer_eq.trans ((answerTo_eq_ofTrouble_iff (.failure fault.message)).mpr ?_)
  rw [h.course.failed_iff]
  refine .inl ⟨leg, hleg, ?_⟩
  rw [hact]
  exact ⟨rfl, rfl⟩

/-- One number of a trouble says that it is a timeout. -/
theorem numbered_eq_timeout_iff
    (code : Int)
    (reason : String) :
    Trouble.numbered code reason = .timeout ↔ code = 110 := by
  rw [Trouble.numbered]
  split <;> simp_all

end Classes

end Client

end ManagedSwitch
