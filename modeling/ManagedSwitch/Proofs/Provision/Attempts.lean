import ManagedSwitch.Proofs.Provision.Account
import ManagedSwitch.Provision.Application

/-!
# What applying a configuration attempts

Executing and saving ask the client once for every command, one batch after the other, whatever
becomes of each command; authenticating asks for nothing.  `hears_apply` puts the parts together:
the calls are those for the compiled batches of the switches that have a cookie, and behind them one
for each of these switches if the result is to be saved; and both reports tell of their batches.
-/

namespace ManagedSwitch

section Saving

variable {τ : Type}

/-- The commands that save the configurations of the switches that have a cookie. -/
def saveCommands
    (credentials : Credentials)
    (switches : List Switch) :
    List Command :=
  switches.filterMap fun s =>
    (credentials.get? s.key).map fun cookie => (Target.mk s.key s.address cookie).save

/-- The batches that are saved: those of all switches, if this is asked for. -/
def savedBatches
    (options : ApplyOptions τ)
    (credentials : Credentials)
    (switches : List Switch) :
    List Batch :=
  if options.save then switches.map (saveBatch credentials) else []

/-- Saving attempts one command for each switch that has a cookie. -/
theorem authenticatedCalls_map_saveBatch
    (timeout : τ)
    (credentials : Credentials)
    (switches : List Switch) :
    authenticatedCalls timeout credentials (switches.map (saveBatch credentials)) =
      callsFor timeout (saveCommands credentials switches) := by
  induction switches with
  | nil =>
      rfl
  | cons s rest ih =>
      rw [List.map_cons, saveCommands, List.filterMap_cons]
      cases hget : credentials.get? s.key with
      | none =>
          have hcookie : ¬credentials.contains (saveBatch credentials s).switchKey := by
            rw [contains_saveBatch_iff, hget]
            exact Bool.false_ne_true
          rw [authenticatedCalls_cons_of_not_contains timeout hcookie]
          exact ih
      | some cookie =>
          have hcookie : credentials.contains (saveBatch credentials s).switchKey := by
            rw [contains_saveBatch_iff, hget]
            rfl
          rw [authenticatedCalls_cons_of_contains timeout hcookie, ih, saveBatch, hget]
          rfl

variable [Seconds τ]

/-- Saving tells of the batches that are saved. -/
theorem hears_saveIf
    (options : ApplyOptions τ)
    (credentials : Credentials)
    (switches : List Switch) :
    Hears (saveIf options credentials switches)
      (authenticatedCalls options.timeout credentials (savedBatches options credentials switches))
      fun answers saved => ∃ reports, saved = (if options.save then some ⟨reports⟩ else none) ∧
        Tells credentials (savedBatches options credentials switches) answers reports := by
  rw [saveIf, savedBatches]
  split
  · refine (mute_say _).then fun _ => Hears.thenPure (Q := fun answers saved =>
      Tells credentials (switches.map (saveBatch credentials)) answers saved.switches) ?_ ?_
    · exact (hears_saveSwitches options.timeout options.verbose credentials switches).thenPure
        fun _ _ htells => htells
    · exact fun answers saved htells => ⟨saved.switches, rfl, htells⟩
  · exact Hears.pure ⟨[], rfl, .nil⟩

end Saving

section Authentication

variable {τ : Type} [Seconds τ]

theorem mute_narrateAuthentication
    (verbose : Bool)
    (s : Switch) :
    Mute (narrateAuthentication verbose s : Run τ Unit) fun _ => True := by
  refine (mute_say _).then fun _ => ?_
  cases s.cookie with
  | ok cookie =>
      refine (mute_say _).then fun _ => ?_
      split
      · exact mute_say _
      · exact Hears.pure trivial
  | error failure =>
      exact (mute_remark _).then fun _ => mute_say _

/-- Authenticating asks for nothing and gives the cookies and failures of the switches. -/
theorem mute_authenticate
    (switches : List Switch)
    (verbose : Bool) :
    Mute (authenticate switches verbose : Run τ Authentication)
      fun a => a = authentication switches := by
  have hmute : Mute (switches.forM (narrateAuthentication verbose) : Run τ Unit) fun _ => True := by
    induction switches with
    | nil =>
        exact Hears.pure trivial
    | cons s rest ih =>
        exact (mute_narrateAuthentication verbose s).then fun _ => ih
  exact hmute.then fun _ => Hears.pure rfl

end Authentication

section Applying

variable {τ : Type} [Seconds τ]

/-- Applying a configuration attempts the compiled batches of the switches that have a cookie, then
saves these switches where this is asked for, and always comes to an end.  The reports tell of the
compiled batches and of the saved ones. -/
theorem hears_apply
    (config : Config)
    (options : ApplyOptions τ)
    (hworkers : ∀ n ∈ options.workers, 0 ≤ n)
    {credentials : Credentials}
    (hcredentials : credentials = (authentication config.switches.values).credentials) :
    Hears (config.apply options)
      (authenticatedCalls options.timeout credentials (config.compile credentials).batches ++
        authenticatedCalls options.timeout credentials
          (savedBatches options credentials config.switches.values))
      fun answers result =>
        ∃ application heard later reports, result = .ok application ∧ answers = heard ++ later ∧
          (((config.compile credentials).batches.map Batch.switchKey).Nodup →
            Tells credentials (config.compile credentials).batches heard
              application.execution.switches) ∧
          application.save = (if options.save then some ⟨reports⟩ else none) ∧
          Tells credentials (savedBatches options credentials config.switches.values) later
            reports := by
  rw [Config.apply]
  refine (mute_say _).then fun _ => ?_
  refine (mute_authenticate config.switches.values options.verbose).bind ?_
  rintro auth rfl
  rw [← hcredentials]
  refine (mute_say _).then fun _ => (mute_remarkAll _).then fun _ => ?_
  refine Hears.bind (hears_execute options.timeout options.verbose hworkers credentials _) ?_
  rintro heard result ⟨execution, rfl, htells⟩
  refine (hears_saveIf options credentials config.switches.values).thenMute fun saved => ?_
  refine Mute.thenIf (mute_remark _) (Hears.pure ?_)
  rintro later ⟨reports, hsaved, htold⟩
  exact ⟨_, heard, later, reports, rfl, rfl, htells, hsaved, htold⟩

/-- What applying a configuration attempts, command by command. -/
theorem asks_apply
    (config : Config)
    (options : ApplyOptions τ)
    (hworkers : ∀ n ∈ options.workers, 0 ≤ n)
    {credentials : Credentials}
    (hcredentials : credentials = (authentication config.switches.values).credentials) :
    Asks (config.apply options)
      (callsFor options.timeout
          (((config.compile credentials).batches.filter fun b =>
            credentials.contains b.switchKey).flatMap Batch.commands) ++
        if options.save then
          callsFor options.timeout (saveCommands credentials config.switches.values)
        else
          [])
      fun result => ∃ application, result = .ok application := by
  intro w
  obtain ⟨hcalls, -, application, -, -, -, hresult, -⟩ :=
    (hears_apply config options hworkers hcredentials).asks w
  refine ⟨?_, application, hresult⟩
  rw [hcalls, savedBatches]
  split
  · rw [authenticatedCalls_map_saveBatch]
    rfl
  · rfl

end Applying

end ManagedSwitch
