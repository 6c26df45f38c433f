import Mathlib.Data.List.Perm.Basic
import ManagedSwitch.Proofs.Net.Answers
import ManagedSwitch.Proofs.Table
import ManagedSwitch.Provision.Execution

/-!
# Reports made of answers

What an execution reports is a matter of its batches and of the answers of the client alone: `Tells`
goes through the batches, uses up the answers one batch after the other and has the entries that
come of them.  Executing batches for distinct switches gives such entries, and so does saving
switches, where every switch is a batch of one command.

The entries of skipped and of executed batches are gathered apart.  Since the switches are distinct,
putting the entries in order only mixes the two lists again (`Tells.merge`, `arrange_eq`).
-/

namespace ManagedSwitch

section Calls

variable {τ : Type}

/-- The calls for commands, in order. -/
def callsFor
    (timeout : τ)
    (commands : List Command) :
    List (Call τ) :=
  commands.map fun c => c.call timeout

/-- The calls for the batches for which there are cookies. -/
def authenticatedCalls
    (timeout : τ)
    (credentials : Credentials)
    (batches : List Batch) :
    List (Call τ) :=
  callsFor timeout
    ((batches.filter fun b => credentials.contains b.switchKey).flatMap Batch.commands)

theorem authenticatedCalls_append
    (timeout : τ)
    (credentials : Credentials)
    (bs bs' : List Batch) :
    authenticatedCalls timeout credentials (bs ++ bs') =
      authenticatedCalls timeout credentials bs ++ authenticatedCalls timeout credentials bs' := by
  simp only [authenticatedCalls, callsFor, List.filter_append, List.flatMap_append,
    List.map_append]

theorem authenticatedCalls_cons_of_contains
    (timeout : τ)
    {credentials : Credentials}
    {b : Batch}
    (hcookie : credentials.contains b.switchKey)
    (bs : List Batch) :
    authenticatedCalls timeout credentials (b :: bs) =
      callsFor timeout b.commands ++ authenticatedCalls timeout credentials bs := by
  rw [authenticatedCalls, List.filter_cons, if_pos hcookie, List.flatMap_cons, callsFor,
    List.map_append]
  rfl

theorem authenticatedCalls_cons_of_not_contains
    (timeout : τ)
    {credentials : Credentials}
    {b : Batch}
    (hcookie : ¬credentials.contains b.switchKey)
    (bs : List Batch) :
    authenticatedCalls timeout credentials (b :: bs) =
      authenticatedCalls timeout credentials bs := by
  rw [authenticatedCalls, List.filter_cons, if_neg hcookie]
  rfl

end Calls

section Entries

variable {τ : Type} [Seconds τ]

/-- The outcome of a command at a position, given the answer of the client. -/
def Outcome.ofAnswer
    (c : Command × Nat)
    (answer : Answer τ) :
    Outcome :=
  ⟨c.1.switchKey, c.2, c.1.label,
    match answer with
    | .error e => .failed e.kind e.message
    | .ok r => .answered r⟩

/-- The outcomes of commands, the first of which has the given position, made of as many answers. -/
structure Told
    (index : Nat)
    (commands : List Command)
    (heard : List (Answer τ))
    (outcomes : List Outcome) :
    Prop where
  length_eq : heard.length = commands.length
  outcomes_eq : outcomes = List.zipWith Outcome.ofAnswer (commands.zipIdx index) heard

/-- Entries for batches, one each and in order, made of the answers to the batches for which there
are cookies. -/
inductive Tells
    (credentials : Credentials) :
    List Batch → List (Answer τ) → List SwitchReport → Prop
  | nil : Tells credentials [] [] []
  | executed
      {b : Batch}
      {heard : List (Answer τ)}
      {outcomes : List Outcome}
      {bs : List Batch}
      {answers : List (Answer τ)}
      {rs : List SwitchReport}
      (hcookie : credentials.contains b.switchKey)
      (htold : Told 1 b.commands heard outcomes)
      (hrest : Tells credentials bs answers rs) :
      Tells credentials (b :: bs) (heard ++ answers) (⟨b.switchKey, b.address, outcomes⟩ :: rs)
  | skipped
      {b : Batch}
      {bs : List Batch}
      {answers : List (Answer τ)}
      {rs : List SwitchReport}
      (hcookie : ¬credentials.contains b.switchKey)
      (hrest : Tells credentials bs answers rs) :
      Tells credentials (b :: bs) answers (.unauthenticated b.switchKey b.address :: rs)

theorem Told.nil
    (index : Nat) :
    Told index [] ([] : List (Answer τ)) [] where
  length_eq := rfl
  outcomes_eq := rfl

theorem Told.cons
    {index : Nat}
    {commands : List Command}
    {heard : List (Answer τ)}
    {outcomes : List Outcome}
    (c : Command)
    (answer : Answer τ)
    (hrest : Told (index + 1) commands heard outcomes) :
    Told index (c :: commands) (answer :: heard) (.ofAnswer (c, index) answer :: outcomes) where
  length_eq := by
    rw [List.length_cons, List.length_cons, hrest.length_eq]
  outcomes_eq := by
    rw [List.zipIdx_cons, List.zipWith_cons_cons, hrest.outcomes_eq]

/-- The entries have the keys of the batches. -/
theorem Tells.map_switchKey
    {credentials : Credentials}
    {bs : List Batch}
    {answers : List (Answer τ)}
    {rs : List SwitchReport}
    (h : Tells credentials bs answers rs) :
    rs.map SwitchReport.switchKey = bs.map Batch.switchKey := by
  induction h with
  | nil =>
      rfl
  | executed _ _ _ ih =>
      rw [List.map_cons, List.map_cons, ih]
  | skipped _ _ ih =>
      rw [List.map_cons, List.map_cons, ih]
      rfl

/-- There is an answer for every call. -/
theorem Tells.length_eq
    {credentials : Credentials}
    {bs : List Batch}
    {answers : List (Answer τ)}
    {rs : List SwitchReport}
    (h : Tells credentials bs answers rs)
    (timeout : τ) :
    answers.length = (authenticatedCalls timeout credentials bs).length := by
  induction h with
  | nil =>
      rfl
  | executed hcookie htold _ ih =>
      rw [authenticatedCalls_cons_of_contains timeout hcookie, List.length_append,
        List.length_append, callsFor, List.length_map, htold.length_eq, ih]
  | skipped hcookie _ ih =>
      rw [authenticatedCalls_cons_of_not_contains timeout hcookie, ih]

/-- Entries for more batches behind entries for some. -/
theorem Tells.append
    {credentials : Credentials}
    {bs bs' : List Batch}
    {answers answers' : List (Answer τ)}
    {rs rs' : List SwitchReport}
    (h : Tells credentials bs answers rs)
    (h' : Tells credentials bs' answers' rs') :
    Tells credentials (bs ++ bs') (answers ++ answers') (rs ++ rs') := by
  induction h with
  | nil =>
      exact h'
  | executed hcookie htold _ ih =>
      rw [List.append_assoc]
      exact .executed hcookie htold ih
  | skipped hcookie _ ih =>
      exact .skipped hcookie ih

end Entries

section Sending

variable {τ : Type} [Seconds τ]

theorem mute_showRequest
    (c : Command) :
    Mute (showRequest c : Run τ Unit) fun _ => True :=
  (mute_say _).then fun _ => mute_say _

theorem mute_showResponse
    (r : Response) :
    Mute (showResponse r : Run τ Unit) fun _ => True :=
  (mute_say _).then fun _ => mute_say _

/-- A command is attempted once, and its outcome is made of what was answered. -/
theorem hears_sendCommand
    (timeout : τ)
    (verbose : Bool)
    (c : Command)
    (index : Nat) :
    Hears (sendCommand timeout verbose c index) [c.call timeout] fun answers o =>
      ∃ a, answers = [a] ∧ o = .ofAnswer (c, index) a := by
  rw [sendCommand]
  refine Mute.thenIf (mute_showRequest c) ?_
  refine (hears_call (c.call timeout)).thenMute fun result => ?_
  cases result with
  | error e =>
      exact (mute_remark _).then fun _ => Hears.pure fun heard hheard => ⟨_, hheard, rfl⟩
  | ok r =>
      refine Mute.thenIf (mute_showResponse r) ?_
      exact Mute.thenIf (mute_remark _) (Hears.pure fun heard hheard => ⟨_, hheard, rfl⟩)

/-- Every command of a list is attempted once, in order. -/
theorem hears_sendCommands
    (timeout : τ)
    (verbose : Bool)
    (switchKey : String)
    (index : Nat)
    (commands : List Command) :
    Hears (sendCommands timeout verbose switchKey index commands) (callsFor timeout commands)
      (Told index commands) := by
  induction commands generalizing index with
  | nil =>
      exact Hears.pure (Told.nil index)
  | cons c rest ih =>
      refine (mute_say _).then fun _ => ?_
      refine Hears.bind (hears_sendCommand timeout verbose c index) ?_
      rintro _ o ⟨a, rfl, rfl⟩
      refine (mute_say _).then fun _ => (ih (index + 1)).thenPure ?_
      exact fun later outcomes hrest => hrest.cons c a

/-- Every command of a batch is attempted once, in order, and the entry for the batch is made of
what was answered. -/
theorem hears_runBatch
    (timeout : τ)
    (verbose : Bool)
    (b : Batch) :
    Hears (runBatch timeout verbose b) (callsFor timeout b.commands) fun heard r =>
      ∃ outcomes, r = ⟨b.switchKey, b.address, outcomes⟩ ∧ Told 1 b.commands heard outcomes := by
  refine (hears_sendCommands timeout verbose b.switchKey 1 b.commands).thenMute fun outcomes => ?_
  exact (mute_remark _).then fun _ => Hears.pure fun heard htold => ⟨outcomes, rfl, htold⟩

/-- Batches with cookies are attempted and told of one after the other. -/
theorem hears_runBatches
    (timeout : τ)
    (verbose : Bool)
    {credentials : Credentials}
    {batches : List Batch}
    (hcookies : ∀ b ∈ batches, credentials.contains b.switchKey) :
    Hears (runBatches timeout verbose batches) (callsFor timeout (batches.flatMap Batch.commands))
      (Tells credentials batches) := by
  induction batches with
  | nil =>
      exact Hears.pure .nil
  | cons b rest ih =>
      rw [List.forall_mem_cons] at hcookies
      rw [callsFor, List.flatMap_cons, List.map_append]
      refine Hears.bind (hears_runBatch timeout verbose b) ?_
      rintro heard r ⟨outcomes, rfl, htold⟩
      refine (ih hcookies.2).thenPure fun later reports hrest => ?_
      exact .executed hcookies.1 htold hrest

end Sending

section Arranging

theorem lastOccurrences_of_nodup
    {keys : List String}
    (hnodup : keys.Nodup) :
    lastOccurrences keys = keys := by
  induction keys with
  | nil =>
      rfl
  | cons k rest ih =>
      rw [List.nodup_cons] at hnodup
      have hnew : ¬rest.contains k := by
        simpa using hnodup.1
      rw [lastOccurrences, if_neg hnew, ih hnodup.2]

/-- Of things with distinct keys, each is the only one with its key. -/
theorem filter_key_eq
    {α : Type}
    {key : α → String}
    {xs : List α}
    (hnodup : (xs.map key).Nodup)
    {x : α}
    (hx : x ∈ xs) :
    (xs.filter fun y => key y == key x) = [x] := by
  induction xs with
  | nil =>
      exact absurd hx List.not_mem_nil
  | cons y rest ih =>
      rw [List.map_cons, List.nodup_cons] at hnodup
      rcases List.mem_cons.mp hx with rfl | hx
      · have hothers : (rest.filter fun y => key y == key x) = [] := by
          rw [List.filter_eq_nil_iff]
          intro y hy heq
          exact hnodup.1 (List.mem_map.mpr ⟨y, hy, beq_iff_eq.mp heq⟩)
        rw [List.filter_cons, if_pos (beq_self_eq_true _), hothers]
      · have hne : ¬(key y == key x) := by
          rw [beq_iff_eq]
          intro heq
          exact hnodup.1 (heq ▸ List.mem_map_of_mem hx)
        rw [List.filter_cons, if_neg hne, ih hnodup.2 hx]

/-- Entries with distinct keys can be put in order from any mixture. -/
theorem arrange_eq
    {reports mixture : List SwitchReport}
    (hnodup : (reports.map SwitchReport.switchKey).Nodup)
    (hperm : mixture.Perm reports) :
    arrange (reports.map SwitchReport.switchKey) mixture = reports := by
  have hfound :
      ∀ r ∈ reports, (mixture.filter fun s => s.switchKey == r.switchKey) = [r] := by
    intro r hr
    rw [← List.perm_singleton, ← filter_key_eq hnodup hr]
    exact hperm.filter _
  rw [arrange, lastOccurrences_of_nodup hnodup, List.flatMap_map, List.flatMap_congr hfound]
  exact List.flatMap_singleton' reports

variable {τ : Type} [Seconds τ]

/-- Entries for the batches with cookies and those for skipped batches make up the entries for all
batches. -/
theorem Tells.merge
    {credentials : Credentials}
    {batches : List Batch}
    {answers : List (Answer τ)}
    {done : List SwitchReport}
    (h : Tells credentials (batches.filter fun b => credentials.contains b.switchKey)
      answers done) :
    ∃ reports, Tells credentials batches answers reports ∧
      ((batches.filter fun b => !credentials.contains b.switchKey).map
          (fun b => SwitchReport.unauthenticated b.switchKey b.address) ++ done).Perm reports := by
  induction batches generalizing answers done with
  | nil =>
      cases h with
      | nil =>
          exact ⟨[], .nil, .nil⟩
  | cons b rest ih =>
      by_cases hcookie : credentials.contains b.switchKey
      · rw [List.filter_cons, if_pos hcookie] at h
        rw [List.filter_cons, if_neg (by simpa using hcookie)]
        cases h with
        | executed _ htold hrest =>
            obtain ⟨reports, hreports, hperm⟩ := ih hrest
            exact ⟨_, .executed hcookie htold hreports, List.perm_middle.trans (hperm.cons _)⟩
        | skipped hnone _ =>
            exact absurd hcookie hnone
      · rw [List.filter_cons, if_neg hcookie] at h
        rw [List.filter_cons, if_pos (by simpa using hcookie)]
        obtain ⟨reports, hreports, hperm⟩ := ih h
        exact ⟨_, .skipped hcookie hreports, hperm.cons _⟩

/-- The entries that an execution gathers and puts in order tell of all batches. -/
theorem Tells.arranged
    {credentials : Credentials}
    {batches : List Batch}
    (hdistinct : (batches.map Batch.switchKey).Nodup)
    {answers : List (Answer τ)}
    {done : List SwitchReport}
    (h : Tells credentials (batches.filter fun b => credentials.contains b.switchKey)
      answers done) :
    Tells credentials batches answers
      (arrange (batches.map Batch.switchKey)
        ((batches.filter fun b => !credentials.contains b.switchKey).map
            (fun b => SwitchReport.unauthenticated b.switchKey b.address) ++
          (Table.ofList (done.map fun r => (r.switchKey, r))).values)) := by
  have hkeys : ((done.map fun r => (r.switchKey, r)).map Prod.fst).Nodup := by
    have hdone : (done.map SwitchReport.switchKey).Nodup := by
      rw [h.map_switchKey]
      exact hdistinct.sublist (List.filter_sublist.map _)
    rwa [List.map_map]
  have hvalues : (Table.ofList (done.map fun r => (r.switchKey, r))).values = done := by
    rw [Table.values, Table.entries_ofList hkeys, List.map_map]
    exact List.map_id done
  obtain ⟨reports, hreports, hperm⟩ := h.merge
  rw [← hreports.map_switchKey] at hdistinct ⊢
  rwa [hvalues, arrange_eq hdistinct hperm]

end Arranging

section Execution

variable {τ : Type} [Seconds τ]

theorem all_workers
    {workers : Option Int}
    (hworkers : ∀ n ∈ workers, 0 ≤ n) :
    workers.all (0 ≤ ·) = true := by
  cases workers with
  | none =>
      rfl
  | some n =>
      simpa using hworkers n rfl

/-- Executing attempts the batches for which there are cookies, and always gives a report if the
number of workers is possible; batches for distinct switches are all told of. -/
theorem hears_execute
    (timeout : τ)
    (verbose : Bool)
    {workers : Option Int}
    (hworkers : ∀ n ∈ workers, 0 ≤ n)
    (credentials : Credentials)
    (batches : List Batch) :
    Hears (execute timeout verbose workers credentials batches)
      (authenticatedCalls timeout credentials batches)
      fun answers result =>
        ∃ report, result = .ok report ∧
          ((batches.map Batch.switchKey).Nodup →
            Tells credentials batches answers report.switches) := by
  have hcookies :
      ∀ b ∈ batches.filter fun b => credentials.contains b.switchKey,
        credentials.contains b.switchKey :=
    fun _ hb => (List.mem_filter.mp hb).2
  rw [execute]
  refine (mute_remarkAll _).then fun _ => ?_
  simp only [all_workers hworkers, Bool.or_true, Bool.not_true, Bool.false_eq_true, if_false]
  refine (hears_runBatches timeout verbose hcookies).thenPure fun answers done hdone => ?_
  exact ⟨_, rfl, fun hdistinct => hdone.arranged hdistinct⟩

end Execution

section Saving

variable {τ : Type} [Seconds τ]

/-- Saving a switch is a batch of one command, with the cookie of the switch if there is one. -/
def saveBatch
    (credentials : Credentials)
    (s : Switch) :
    Batch :=
  ⟨s.key, s.address,
    [(Target.mk s.key s.address ((credentials.get? s.key).getD "")).save]⟩

theorem contains_saveBatch_iff
    {credentials : Credentials}
    {s : Switch} :
    credentials.contains (saveBatch credentials s).switchKey ↔ (credentials.get? s.key).isSome := by
  rw [saveBatch, Table.contains_eq_isSome_get?]

/-- A switch with a cookie is saved by one command, and a switch without one is passed over. -/
theorem hears_saveSwitch
    (timeout : τ)
    (verbose : Bool)
    (credentials : Credentials)
    (s : Switch) :
    Hears (saveSwitch timeout verbose credentials s)
      (authenticatedCalls timeout credentials [saveBatch credentials s]) fun answers r =>
        Tells credentials [saveBatch credentials s] answers [r] := by
  rw [saveSwitch]
  cases hget : credentials.get? s.key with
  | none =>
      have hcookie : ¬credentials.contains (saveBatch credentials s).switchKey := by
        rw [contains_saveBatch_iff, hget]
        exact Bool.false_ne_true
      rw [authenticatedCalls_cons_of_not_contains timeout hcookie]
      exact Hears.pure (.skipped hcookie .nil)
  | some cookie =>
      have hcookie : credentials.contains (saveBatch credentials s).switchKey := by
        rw [contains_saveBatch_iff, hget]
        rfl
      have hbatch :
          saveBatch credentials s =
            ⟨s.key, s.address, [(Target.mk s.key s.address cookie).save]⟩ := by
        rw [saveBatch, hget, Option.getD_some]
      rw [authenticatedCalls_cons_of_contains timeout hcookie]
      rw [hbatch] at hcookie ⊢
      refine (mute_say _).then fun _ => ?_
      refine (hears_sendCommand timeout verbose _ 1).thenMute fun o => ?_
      refine (mute_say _).then fun _ => Hears.pure ?_
      rintro _ ⟨a, rfl, rfl⟩
      exact .executed hcookie ((Told.nil 2).cons _ a) .nil

/-- Switches are saved one after the other. -/
theorem hears_saveSwitches
    (timeout : τ)
    (verbose : Bool)
    (credentials : Credentials)
    (switches : List Switch) :
    Hears (saveSwitches timeout verbose credentials switches)
      (authenticatedCalls timeout credentials (switches.map (saveBatch credentials)))
      (Tells credentials (switches.map (saveBatch credentials))) := by
  induction switches with
  | nil =>
      exact Hears.pure .nil
  | cons s rest ih =>
      have hcalls :=
        authenticatedCalls_append timeout credentials [saveBatch credentials s]
          (rest.map (saveBatch credentials))
      rw [List.singleton_append] at hcalls
      rw [List.map_cons, hcalls]
      refine Hears.bind (hears_saveSwitch timeout verbose credentials s) fun heard r hr => ?_
      exact ih.thenPure fun later rs hrest => hr.append hrest

end Saving

end ManagedSwitch
