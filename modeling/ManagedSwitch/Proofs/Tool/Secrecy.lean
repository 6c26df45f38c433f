import ManagedSwitch.Proofs.Table
import ManagedSwitch.Tool.Exporting
import ManagedSwitch.Tool.Preview
import ManagedSwitch.Tool.Provisioning
import ManagedSwitch.Tool.Rollout

/-!
# Passwords stay in the configuration

A configuration has passwords, but the cookie of a switch is made without them.  `hidden` takes the
passwords out of a configuration, so that configurations with equal `hidden` are the same but for
their passwords.  `Outputs` has everything that comes out of a configuration, and of two such
configurations, narrowed in the same way, all outputs are the same
(`Config.narrowedOutputs?_eq_of_hidden_eq`).

A run is a function of the world, with its network and its journal.  Where two runs are equal, the
same lines are printed and the same records made, and the same requests are sent, whatever the
network answers.  Each function is shown not to depend on passwords by the functions that it calls;
in the end this holds of the programs, for files that are alike.
-/

namespace ManagedSwitch

section Hiding

/-- What is needed to be let in, without the password. -/
def Auth.hidden (a : Auth) : Auth :=
  { a with password := "" }

def Switch.hidden (s : Switch) : Switch :=
  { s with auth := s.auth.map Auth.hidden }

/-- The configuration without the passwords of its switches. -/
def Config.hidden (config : Config) : Config :=
  { config with switches := config.switches.mapValues Switch.hidden }

end Hiding

section Outputs

/-- Everything that comes out of a configuration: what is made of it, and the runs for it with what
they give, by the options with which they are started. -/
structure Outputs (τ : Type) where
  compiled : Credentials → Compiled
  compileRecords : List Record
  listing : Credentials → String
  view : List SwitchView
  viewText : String
  viewRecords : List Record
  authentication : Bool → Run τ Authentication
  application : ApplyOptions τ → Run τ (Except ExecutionError Application)
  saving : τ → Bool → Credentials → Run τ Report
  metrics : τ → Run τ String
  exported : τ → Source τ Empty (Run τ)
  provisioning : Tool.Provisioning → Tool.Program Bool
  plan : Tool.Program Unit
  rollout : ApplyOptions Float → Tool.Program Bool
  serving : Tool.Exporting → Record

/-- The outputs of a configuration. -/
def Config.outputs
    (τ : Type)
    [Seconds τ]
    (config : Config) :
    Outputs τ where
  compiled := config.compile
  compileRecords := config.compileRecords
  listing := fun credentials => ManagedSwitch.listing (config.compile credentials).batches
  view := config.view
  viewText := ManagedSwitch.viewText config.view
  viewRecords := config.viewRecords
  authentication := authenticate config.switches.values
  application := config.apply
  saving := fun timeout verbose credentials =>
    save timeout verbose credentials config.switches.values
  metrics := fun timeout => Scrape.collect timeout config.switches.values
  exported := fun timeout => Source.ofSwitches timeout config.switches.values
  provisioning := fun options => options.process config
  plan := Tool.Rollout.plan config
  rollout := Tool.Rollout.execute config
  serving := fun options => options.servingRecord config

/-- The records and the outputs of a configuration that is narrowed by selectors, if there is
one. -/
def Config.narrowedOutputs?
    (τ : Type)
    [Seconds τ]
    (config : Config)
    (switches vlans : List String) :
    Option (List Record × Outputs τ) :=
  (config.select? switches vlans).map fun kept =>
    (Config.selectionRecords switches vlans kept, kept.outputs τ)

end Outputs

section Switches

variable (s : Switch)

/-- The password is no part of the cookie. -/
theorem cookie_hidden :
    s.hidden.cookie = s.cookie := by
  rw [Switch.cookie, Switch.cookie, Switch.hidden]
  cases s.auth <;> rfl

theorem cookieFor_hidden
    (credentials : Credentials) :
    Config.cookieFor credentials s.hidden = Config.cookieFor credentials s := by
  rw [Config.cookieFor, Config.cookieFor, cookie_hidden]
  rfl

theorem add_hidden
    (a : Authentication) :
    a.add s.hidden = a.add s := by
  rw [Authentication.add, Authentication.add, cookie_hidden]
  rfl

theorem authentication_hidden
    (switches : List Switch) :
    authentication (switches.map Switch.hidden) = authentication switches := by
  simp only [authentication, List.foldl_map, add_hidden]

variable {τ : Type}

theorem narrateAuthentication_hidden
    (verbose : Bool) :
    (narrateAuthentication verbose s.hidden : Run τ Unit) = narrateAuthentication verbose s := by
  rw [narrateAuthentication, narrateAuthentication, cookie_hidden]
  rfl

theorem authenticate_hidden
    (switches : List Switch)
    (verbose : Bool) :
    (authenticate (switches.map Switch.hidden) verbose : Run τ Authentication) =
      authenticate switches verbose := by
  simp only [authenticate, authentication_hidden, List.forM_eq_forM, List.forM_map,
    narrateAuthentication_hidden]

variable [Seconds τ]

theorem saveSwitches_hidden
    (timeout : τ)
    (verbose : Bool)
    (credentials : Credentials)
    (switches : List Switch) :
    saveSwitches timeout verbose credentials (switches.map Switch.hidden) =
      saveSwitches timeout verbose credentials switches := by
  induction switches with
  | nil =>
      rfl
  | cons s switches ih =>
      rw [List.map_cons, saveSwitches, saveSwitches, ih]
      rfl

theorem save_hidden
    (timeout : τ)
    (verbose : Bool)
    (credentials : Credentials)
    (switches : List Switch) :
    save timeout verbose credentials (switches.map Switch.hidden) =
      save timeout verbose credentials switches := by
  rw [save, save, saveSwitches_hidden]

theorem fetch_hidden
    (timeout : τ) :
    Scrape.fetch timeout s.hidden = Scrape.fetch timeout s := by
  rw [Scrape.fetch, Scrape.fetch, cookie_hidden]
  rfl

theorem switchLines_hidden
    (timeout : τ) :
    Scrape.switchLines timeout s.hidden = Scrape.switchLines timeout s := by
  rw [Scrape.switchLines, Scrape.switchLines, fetch_hidden]
  rfl

theorem allLines_hidden
    (timeout : τ)
    (switches : List Switch) :
    Scrape.allLines timeout (switches.map Switch.hidden) = Scrape.allLines timeout switches := by
  induction switches with
  | nil =>
      rfl
  | cons s switches ih =>
      rw [List.map_cons, Scrape.allLines, Scrape.allLines, switchLines_hidden, ih]

end Switches

section Configurations

namespace Config

variable (config : Config)

theorem values_hidden :
    config.hidden.switches.values = config.switches.values.map Switch.hidden :=
  Table.values_mapValues _ _

theorem compile_hidden
    (credentials : Credentials) :
    config.hidden.compile credentials = config.compile credentials := by
  simp only [compile, values_hidden, List.map_map, List.flatMap_map, Function.comp_def,
    cookieFor_hidden]
  rfl

theorem compileRecords_hidden :
    config.hidden.compileRecords = config.compileRecords := by
  rw [compileRecords, values_hidden, List.flatMap_map]
  rfl

theorem view_hidden :
    config.hidden.view = config.view := by
  rw [view, values_hidden, List.map_map]
  rfl

theorem viewRecords_hidden :
    config.hidden.viewRecords = config.viewRecords := by
  rw [viewRecords, values_hidden, List.flatMap_map]
  rfl

theorem apply_hidden
    {τ : Type}
    [Seconds τ]
    (options : ApplyOptions τ) :
    config.hidden.apply options = config.apply options := by
  simp only [apply, values_hidden, authenticate_hidden, compileRecords_hidden, compile_hidden,
    saveIf, save_hidden]

theorem collect_hidden
    {τ : Type}
    [Seconds τ]
    (timeout : τ) :
    Scrape.collect timeout config.hidden.switches.values =
      Scrape.collect timeout config.switches.values := by
  rw [Scrape.collect, Scrape.collect, values_hidden, allLines_hidden]

/-- Narrowing goes by keys, names and numbers. -/
theorem select?_hidden
    (switches vlans : List String) :
    config.hidden.select? switches vlans = (config.select? switches vlans).map hidden := by
  have hswitches :
      selectSwitches switches (config.switches.mapValues Switch.hidden) =
        (selectSwitches switches config.switches).mapValues Switch.hidden := by
    rw [selectSwitches, selectSwitches]
    split
    · rfl
    · exact Table.filter_mapValues _ _ _
  rw [select?, select?, Option.map_map]
  exact congrArg (fun s => Option.map (fun kept => Config.mk kept config.templates s) _) hswitches

theorem selectionRecords_hidden
    (switches vlans : List String) :
    selectionRecords switches vlans config.hidden = selectionRecords switches vlans config := by
  have hempty :
      config.hidden.switches.entries.isEmpty = config.switches.entries.isEmpty :=
    List.isEmpty_map
  rw [selectionRecords, hempty]
  rfl

end Config

end Configurations

section Programs

namespace Tool

variable (config : Config)

theorem compile_hidden :
    compile config.hidden = compile config := by
  rw [compile, Config.compileRecords_hidden, Config.compile_hidden]
  rfl

theorem apply_hidden
    (options : ApplyOptions Float) :
    apply config.hidden options = apply config options := by
  rw [apply, Config.apply_hidden]
  rfl

theorem process_hidden
    (options : Provisioning) :
    options.process config.hidden = options.process config := by
  simp only [Provisioning.process, Config.viewRecords_hidden, Config.view_hidden, compile_hidden,
    apply_hidden]

theorem plan_hidden :
    Rollout.plan config.hidden = Rollout.plan config := by
  simp only [Rollout.plan, compile_hidden]

theorem execute_hidden
    (options : ApplyOptions Float) :
    Rollout.execute config.hidden options = Rollout.execute config options := by
  simp only [Rollout.execute, apply_hidden]

theorem servingRecord_hidden
    (options : Exporting) :
    options.servingRecord config.hidden = options.servingRecord config := by
  rw [Exporting.servingRecord, Config.hidden, Table.size_mapValues]
  rfl

end Tool

end Programs

section Secrecy

namespace Config

variable (config : Config) (τ : Type) [Seconds τ]

/-- The passwords make no difference to the outputs. -/
theorem outputs_hidden :
    config.hidden.outputs τ = config.outputs τ := by
  have hcompile : config.hidden.compile = config.compile :=
    funext config.compile_hidden
  have happly : config.hidden.apply = (config.apply : ApplyOptions τ → _) :=
    funext config.apply_hidden
  have hexport :
      (fun timeout : τ => Source.ofSwitches timeout config.hidden.switches.values) =
        fun timeout => Source.ofSwitches timeout config.switches.values := by
    funext timeout
    rw [Source.ofSwitches, collect_hidden]
    rfl
  have hexecute : Tool.Rollout.execute config.hidden = Tool.Rollout.execute config :=
    funext (Tool.execute_hidden config)
  have hauthenticate :
      authenticate config.hidden.switches.values =
        (authenticate config.switches.values : Bool → Run τ Authentication) := by
    funext verbose
    rw [values_hidden, authenticate_hidden]
  have hsave :
      ∀ (timeout : τ) verbose credentials,
        save timeout verbose credentials config.hidden.switches.values =
          save timeout verbose credentials config.switches.values := by
    intro timeout verbose credentials
    rw [values_hidden, save_hidden]
  simp only [outputs, hcompile, compileRecords_hidden, view_hidden, viewRecords_hidden,
    hauthenticate, hsave, happly, collect_hidden, hexport, Tool.process_hidden, Tool.plan_hidden,
    hexecute, Tool.servingRecord_hidden]

theorem narrowedOutputs?_hidden
    (switches vlans : List String) :
    config.hidden.narrowedOutputs? τ switches vlans =
      config.narrowedOutputs? τ switches vlans := by
  simp only [narrowedOutputs?, select?_hidden, Option.map_map, Function.comp_def,
    selectionRecords_hidden, outputs_hidden]

/-- Configurations that are the same but for their passwords, narrowed in the same way, have the
same outputs. -/
theorem narrowedOutputs?_eq_of_hidden_eq
    {config₁ config₂ : Config}
    (h : config₁.hidden = config₂.hidden)
    (τ : Type)
    [Seconds τ]
    (switches vlans : List String) :
    config₁.narrowedOutputs? τ switches vlans = config₂.narrowedOutputs? τ switches vlans := by
  rw [← narrowedOutputs?_hidden config₁, h, narrowedOutputs?_hidden]

/-- A configuration whose switch has a given password. -/
def guardedBy (password : String) : Config where
  vlans := ⟨[(10, "data")], List.pairwise_singleton _ _⟩
  templates :=
    ⟨[("access", ⟨[(10, "pvid")], List.pairwise_singleton _ _⟩)], List.pairwise_singleton _ _⟩
  switches :=
    ⟨[("a", ⟨"a", "A", "10.0.0.1", some ⟨"xike", "admin", password, "0123"⟩,
      [⟨"1", "access"⟩]⟩)], List.pairwise_singleton _ _⟩

theorem narrowedOutputs?_guardedBy :
    (guardedBy "secret").hidden = (guardedBy "other").hidden ∧
      (guardedBy "secret").narrowedOutputs? Float ["a"] ["data"] =
        (guardedBy "other").narrowedOutputs? Float ["a"] ["data"] := by
  have h : (guardedBy "secret").hidden = (guardedBy "other").hidden := rfl
  exact ⟨h, narrowedOutputs?_eq_of_hidden_eq h Float ["a"] ["data"]⟩

end Config

end Secrecy

section Files

/-- Two files give configurations that are the same but for their passwords, or they give none for
the same reason. -/
structure Config.LoadedAlike
    (path : String)
    (found₁ found₂ : File.Found) :
    Prop where
  result :
    (Config.load path found₁).result.map Config.hidden =
      (Config.load path found₂).result.map Config.hidden
  records : (Config.load path found₁).records = (Config.load path found₂).records

namespace Tool

variable {files₁ files₂ : Files}

/-- What does not depend on passwords goes on in the same way from files that are alike. -/
theorem load_bind_eq
    {β : Type}
    (h : ∀ path, Config.LoadedAlike path (files₁ path) (files₂ path))
    (path : String)
    {next : Except String Config → Program β}
    (hnext : ∀ config : Config, next (.ok config.hidden) = next (.ok config)) :
    load files₁ path >>= next = load files₂ path >>= next := by
  obtain ⟨hresult, hrecords⟩ := h (File.normalPath path)
  rw [load, load, hrecords]
  simp only [bind_assoc]
  refine bind_congr fun _ => ?_
  -- What follows is a case analysis on the two results, which fail for the same reason if one does.
  generalize (Config.load (File.normalPath path) (files₁ (File.normalPath path))).result = loaded₁
    at hresult ⊢
  generalize (Config.load (File.normalPath path) (files₂ (File.normalPath path))).result = loaded₂
    at hresult ⊢
  cases loaded₁ with
  | error e₁ =>
      cases loaded₂ with
      | error e₂ =>
          cases hresult
          rfl
      | ok config₂ =>
          exact nomatch hresult
  | ok config₁ =>
      cases loaded₂ with
      | error e₂ =>
          exact nomatch hresult
      | ok config₂ =>
          have hsame : config₁.hidden = config₂.hidden := Except.ok.inj hresult
          simp only [pure_bind]
          rw [← hnext config₁, hsame, hnext]

theorem narrow_bind_hidden
    {β : Type}
    (config : Config)
    (switches vlans : List String)
    {next : Config → Program β}
    (hnext : ∀ kept : Config, next kept.hidden = next kept) :
    narrow config.hidden switches vlans >>= next = narrow config switches vlans >>= next := by
  rw [narrow, narrow, Config.select?_hidden]
  cases config.select? switches vlans with
  | none =>
      rfl
  | some kept =>
      simp only [Option.map_some, Config.selectionRecords_hidden, bind_assoc, pure_bind, hnext]

/-- The provisioning tool does the same with files that are alike. -/
theorem run_provisioning_eq
    (h : ∀ path, Config.LoadedAlike path (files₁ path) (files₂ path))
    (o : Provisioning) :
    o.run files₁ = o.run files₂ := by
  rw [Provisioning.run, Provisioning.run]
  cases checkModes o.http o.execute o.save with
  | error e =>
      rfl
  | ok =>
      refine load_bind_eq h o.file fun config => ?_
      exact narrow_bind_hidden config o.switches o.vlans fun kept => process_hidden kept o

/-- The preview lists the same for files that are alike. -/
theorem preview_eq
    (h : ∀ path, Config.LoadedAlike path (files₁ path) (files₂ path))
    (environment : Table String String) :
    preview environment files₁ = preview environment files₂ := by
  refine load_bind_eq h _ fun config => narrow_bind_hidden config _ _ fun kept => ?_
  rw [compile_hidden]

/-- The rollout does the same with files that are alike. -/
theorem run_rollout_eq
    (h : ∀ path, Config.LoadedAlike path (files₁ path) (files₂ path))
    (environment : Table String String) :
    Rollout.run environment files₁ = Rollout.run environment files₂ := by
  refine bind_congr fun timeout => load_bind_eq h _ fun config => ?_
  refine narrow_bind_hidden config _ _ fun kept => ?_
  rw [plan_hidden, execute_hidden]

/-- The exporting tool serves the same metrics for files that are alike. -/
theorem start_exporting_eq
    (h : ∀ path, Config.LoadedAlike path (files₁ path) (files₂ path))
    (o : Exporting) :
    o.start files₁ = o.start files₂ := by
  refine load_bind_eq h _ fun config => ?_
  simp only [servingRecord_hidden, Source.ofSwitches, Config.collect_hidden]

end Tool

end Files

end ManagedSwitch
