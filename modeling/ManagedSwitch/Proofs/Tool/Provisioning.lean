import ManagedSwitch.Proofs.Provision.Success
import ManagedSwitch.Proofs.Tool.Program
import ManagedSwitch.Tool.Provisioning

/-!
# What the provisioning tool does

The provisioning tool uses the network only where it is told to send requests and a configuration
has been loaded; everything else that it does is the same in every world.  It ends with success
exactly if its options make sense, the configuration was loaded and, where requests are sent, every
selected switch has authentication and every request is answered with a status of success.
-/

namespace ManagedSwitch
namespace Tool
namespace Provisioning

section Definitions

/-- Saving is asked for only together with sending, and sending only together with requests. -/
def Consistent (o : Provisioning) : Prop :=
  (o.save → o.execute) ∧ (o.execute → o.http)

/-- The options under which a configuration is applied. -/
def applyOptions (o : Provisioning) : ApplyOptions Float :=
  ⟨o.timeout, none, o.save, o.verbose⟩

/-- The selected part of a configuration. -/
def selection
    (o : Provisioning)
    (config : Config) :
    Config :=
  config.narrowed o.switches o.vlans

/-- Requests are to be sent, and there is a configuration. -/
def Sends
    (o : Provisioning)
    (files : Files) :
    Prop :=
  o.http ∧ o.execute ∧ ∃ config, loaded files o.file = .ok config

/-- The requests that are sent. -/
def requests
    (o : Provisioning)
    (files : Files) :
    List (Call Float) :=
  match loaded files o.file with
  | .error _ => []
  | .ok config => if o.http && o.execute then (o.selection config).dryCalls o.applyOptions else []

/-- What the success of the tool depends on. -/
def Succeeds
    (o : Provisioning)
    (files : Files)
    (answers : List (Answer Float)) :
    Prop :=
  o.Consistent ∧ ∃ config, loaded files o.file = .ok config ∧
    (o.execute → (∀ s ∈ (o.selection config).switches.values, s.auth.isSome) ∧
      ∀ a ∈ answers, ∃ n ∈ Answer.status? a, 200 ≤ n ∧ n < 300)

end Definitions

section Loading

variable {o : Provisioning} {files : Files}

/-- Without requests to be sent there are none. -/
theorem requests_eq_nil_of_not_sends
    (h : ¬o.Sends files) :
    o.requests files = [] := by
  rw [requests]
  cases hloaded : loaded files o.file with
  | error e =>
      rfl
  | ok config =>
      refine if_neg fun hmodes => h ?_
      obtain ⟨hhttp, hexecute⟩ := Bool.and_eq_true_iff.mp hmodes
      exact ⟨hhttp, hexecute, config, hloaded⟩

/-- A configuration that is loaded has been read. -/
theorem wellFormed_of_loaded
    {path : String}
    {config : Config}
    (hloaded : loaded files path = .ok config) :
    config.WellFormed := by
  rw [loaded, Config.load] at hloaded
  split at hloaded
  · cases hloaded
  · split at hloaded
    · cases hloaded
    · next hread =>
        cases hloaded
        exact Config.wellFormed_of_read hread

end Loading

section Modes

variable {o : Provisioning}

theorem checkModes_of_consistent
    (h : o.Consistent) :
    checkModes o.http o.execute o.save = .ok () := by
  obtain ⟨hsave, hexecute⟩ := h
  rw [checkModes, if_neg, if_neg]
  · simpa using hexecute
  · simpa using hsave

theorem exists_checkModes_of_not_consistent
    (h : ¬o.Consistent) :
    ∃ e, checkModes o.http o.execute o.save = .error e := by
  rw [checkModes]
  by_cases hsave : o.save → o.execute
  · have hexecute : ¬(o.execute → o.http) := fun hexecute => h ⟨hsave, hexecute⟩
    rw [if_neg (by simpa using hsave), if_pos (by simpa using hexecute)]
    exact ⟨_, rfl⟩
  · rw [if_pos (by simpa using hsave)]
    exact ⟨_, rfl⟩

end Modes

section Running

variable {o : Provisioning} {files : Files}

theorem recites_giveUp
    (message : String) :
    Recites (giveUp message) false :=
  (recites_complain _).bind (.pure _)

/-- Options that make no sense end the tool at once. -/
theorem recites_run_of_not_consistent
    (h : ¬o.Consistent) :
    Recites (o.run files) false := by
  obtain ⟨e, he⟩ := exists_checkModes_of_not_consistent h
  rw [run, he]
  exact recites_giveUp _

/-- An error of the configuration ends the tool as well. -/
theorem recites_run_of_error
    (h : o.Consistent)
    {e : Config.LoadError}
    {message : String}
    (hloaded : loaded files o.file = .error e)
    (hmessage : e.message? = some message) :
    Recites (o.run files) false := by
  rw [run, checkModes_of_consistent h]
  exact (recites_load_of_error hloaded hmessage).bind (recites_giveUp message)

/-- A selection is shown or listed without the network. -/
theorem recites_process
    (h : ¬(o.http ∧ o.execute))
    (config : Config) :
    Recites (o.process config) true := by
  rw [process]
  cases hhttp : o.http with
  | false =>
      exact (recites_remarkAll _).bind ((recites_say _).bind (.pure _))
  | true =>
      have hexecute : o.execute = false := by
        simpa [hhttp] using h
      rw [hexecute]
      exact (recites_compile config).bind ((recites_say _).bind (.pure _))

/-- Where no requests are sent, the tool does the same in every world. -/
theorem recites_run_of_not_sends
    (hshort : ∀ s ∈ o.vlans, Config.ShortSelector s)
    (hanswered : Config.Answered (loaded files o.file))
    (h : ¬o.Sends files) :
    ∃ success, Recites (o.run files) success ∧
      (success ↔ o.Consistent ∧ ∃ config, loaded files o.file = .ok config) := by
  by_cases hconsistent : o.Consistent
  · rcases hanswered with ⟨config, hloaded⟩ | ⟨e, message, hloaded, hmessage⟩
    · refine ⟨true, ?_, by simp [hconsistent, hloaded]⟩
      have hmodes : ¬(o.http ∧ o.execute) := fun hmodes => h ⟨hmodes.1, hmodes.2, config, hloaded⟩
      rw [run, checkModes_of_consistent hconsistent]
      refine (recites_load_of_ok hloaded).bind ?_
      exact (recites_narrow config o.switches hshort).bind (recites_process hmodes _)
    · exact ⟨false, recites_run_of_error hconsistent hloaded hmessage, by simp [hloaded]⟩
  · exact ⟨false, recites_run_of_not_consistent hconsistent, by simp [hconsistent]⟩

/-- A selection is applied with the network. -/
theorem hears_process
    (hhttp : o.http)
    (hexecute : o.execute)
    {config : Config}
    (hconfig : config.WellFormed) :
    Hears (o.process config).run (config.dryCalls o.applyOptions) fun answers result =>
      ∃ success, result = .ok success ∧
        (success ↔ (∀ s ∈ config.switches.values, s.auth.isSome) ∧
          ∀ a ∈ answers, ∃ n ∈ Answer.status? a, 200 ≤ n ∧ n < 300) := by
  have happly : Hears (config.apply o.applyOptions) (config.dryCalls o.applyOptions) _ :=
    hconfig.hears_apply nofun
  have hprocess : o.process config = do return (← Tool.apply config o.applyOptions).ok := by
    rw [process, hhttp, hexecute]
    rfl
  rw [hprocess, run_apply_bind]
  refine happly.thenPure ?_
  rintro _ _ ⟨application, rfl, hok⟩
  exact ⟨_, rfl, hok⟩

/-- The tool asks for its requests and nothing else. -/
theorem hears_run
    (hshort : ∀ s ∈ o.vlans, Config.ShortSelector s)
    (hanswered : Config.Answered (loaded files o.file)) :
    Hears (o.run files).run (o.requests files) fun answers result =>
      ∃ success, result = .ok success ∧ (success ↔ o.Succeeds files answers) := by
  by_cases hsends : o.Sends files
  · obtain ⟨hhttp, hexecute, config, hloaded⟩ := hsends
    have hconsistent : o.Consistent := ⟨fun _ => hexecute, fun _ => hhttp⟩
    have hkept : (o.selection config).WellFormed :=
      (wellFormed_of_loaded hloaded).select (config.select?_eq o.switches hshort)
    have hrequests : o.requests files = (o.selection config).dryCalls o.applyOptions := by
      rw [requests, hloaded, hhttp, hexecute]
      rfl
    rw [hrequests, run, checkModes_of_consistent hconsistent]
    refine (recites_load_of_ok hloaded).thenHears ?_
    refine (recites_narrow config o.switches hshort).thenHears ?_
    refine (hears_process hhttp hexecute hkept).mono ?_
    rintro answers _ ⟨success, rfl, hsuccess⟩
    refine ⟨success, rfl, hsuccess.trans ?_⟩
    rw [Succeeds, hloaded]
    simp [hconsistent, hexecute]
  · obtain ⟨success, hrecites, hsuccess⟩ := recites_run_of_not_sends hshort hanswered hsends
    rw [requests_eq_nil_of_not_sends hsends]
    refine hrecites.mute.mono ?_
    rintro answers _ rfl
    refine ⟨success, rfl, hsuccess.trans ?_⟩
    refine and_congr_right fun hconsistent => exists_congr fun config => ?_
    refine (and_iff_left_of_imp fun hloaded hexecute => ?_).symm
    exact absurd ⟨hconsistent.2 hexecute, hexecute, config, hloaded⟩ hsends

/-- A file with the given lines, under every path. -/
def fileOfLines (lines : List String) : Files := fun _ =>
  .content (lines.flatMap fun line => Text.Utf8.encode line ++ [10])

/-- A file with a switch that has authentication. -/
def switchFile : Files :=
  fileOfLines ["vlans:", "  10: data", "templates:", "  access:", "    10: pvid", "switches:",
    "  a:", "    name: A", "    address: 10.0.0.1", "    ports:", "    - name: 1",
    "      template: access", "    auth:", "      type: xike", "      user: admin",
    "      pass: secret", "      resp: abc"]

/-- The options under which its requests are sent. -/
def sendingOptions : Provisioning :=
  ⟨"vlans.yaml", true, [], ["10"], true, false, true, 10, .warning⟩

end Running

end Provisioning
end Tool
end ManagedSwitch
