import ManagedSwitch.Proofs.Provision.Application

/-!
# When applying succeeds

Applying a well-formed configuration sends the commands that compiling shows, and the saving ones if
this is asked for.  It is a success exactly if every switch has authentication and every command is
answered with a status of success (`WellFormed.hears_apply`).
-/

namespace ManagedSwitch
namespace Config

section Commands

variable {config : Config}

/-- The calls that applying a well-formed configuration makes are those that compiling shows. -/
theorem WellFormed.dryCalls_eq
    {τ : Type}
    (h : config.WellFormed)
    (options : ApplyOptions τ)
    {credentials : Credentials}
    (hcredentials : credentials = (authentication config.switches.values).credentials) :
    authenticatedCalls options.timeout credentials (config.compile credentials).batches ++
        authenticatedCalls options.timeout credentials
          (savedBatches options credentials config.switches.values) =
      config.dryCalls options := by
  subst hcredentials
  rw [dryCalls, callsFor, List.map_append, authenticatedCalls, h.batches_eq, h.filter_eq,
    savedBatches]
  split
  · rw [authenticatedCalls_map_saveBatch, h.saves_eq]
    rfl
  · rfl

/-- There are cookies for the batches of all switches exactly if all switches have
authentication. -/
theorem WellFormed.forall_contains_iff
    (h : config.WellFormed)
    {batchFor : Switch → Batch}
    (hkey : ∀ s, (batchFor s).switchKey = s.key) :
    (∀ b ∈ config.switches.values.map batchFor,
        (authentication config.switches.values).credentials.contains b.switchKey) ↔
      ∀ s ∈ config.switches.values, s.auth.isSome := by
  rw [List.forall_mem_map]
  refine forall₂_congr fun s hs => ?_
  rw [hkey, Table.contains_eq_isSome_get?, h.get?_credentials hs, Option.isSome_map]

end Commands

section Applying

variable {τ : Type} [Seconds τ]
variable {config : Config}

/-- Applying a well-formed configuration is a success exactly if all switches have authentication
and all commands are answered with a status of success. -/
theorem WellFormed.hears_apply
    (h : config.WellFormed)
    {options : ApplyOptions τ}
    (hworkers : ∀ n ∈ options.workers, 0 ≤ n) :
    Hears (config.apply options) (config.dryCalls options) fun answers result =>
      ∃ application, result = .ok application ∧
        (application.ok ↔ (∀ s ∈ config.switches.values, s.auth.isSome) ∧
          ∀ a ∈ answers, ∃ n ∈ Answer.status? a, 200 ≤ n ∧ n < 300) := by
  rw [← h.dryCalls_eq options rfl]
  refine (ManagedSwitch.hears_apply config options hworkers rfl).mono ?_
  rintro _ _ ⟨application, heard, later, reports, rfl, rfl, htells, hsaved, htold⟩
  refine ⟨application, rfl, ?_⟩
  have hnodup : ((config.compile (authentication config.switches.values).credentials).batches.map
      Batch.switchKey).Nodup := by
    rw [compile, List.map_map]
    exact h.nodup_map_key
  have hexecuted : application.execution.ok ↔
      (∀ s ∈ config.switches.values, s.auth.isSome) ∧
        ∀ a ∈ heard, ∃ n ∈ Answer.status? a, 200 ≤ n ∧ n < 300 :=
    (htells hnodup).accounts.all_ok_iff.trans (and_congr_left' (h.forall_contains_iff fun _ => rfl))
  have hkept := htold.accounts.all_ok_iff
  rw [Application.ok, Bool.and_eq_true, hexecuted, List.forall_mem_append, hsaved]
  rw [savedBatches] at hkept htold
  cases hsave : options.save with
  | false =>
      rw [hsave] at htold
      cases htold with
      | nil =>
          simp
  | true =>
      rw [hsave, if_pos rfl, h.forall_contains_iff fun _ => rfl] at hkept
      rw [if_pos rfl, Option.all_some, Report.ok, hkept]
      constructor
      · rintro ⟨⟨hauth, hheard⟩, -, hlater⟩
        exact ⟨hauth, hheard, hlater⟩
      · rintro ⟨hauth, hheard, hlater⟩
        exact ⟨⟨hauth, hheard⟩, hauth, hlater⟩

end Applying

end Config
end ManagedSwitch
