import ManagedSwitch.Proofs.Config.Loading
import ManagedSwitch.Proofs.Config.Selection
import ManagedSwitch.Proofs.Net.Answers
import ManagedSwitch.Tool.Program

/-!
# Programs that only write

`Recites p a` says that the program `p` ends with the value `a` after writing some lines and
records, the same ones in every world.  Such a program has nothing to do with the clock and the
network.  Loading a configuration, narrowing it and compiling it are of this kind.
-/

namespace ManagedSwitch

section Words

variable {τ : Type}

/-- The event is something that is written: a line or a record. -/
def Event.isWord : Event τ → Bool
  | .printed _ | .complained _ | .logged _ => true
  | _ => false

/-- The world with more events in its journal. -/
def World.telling
    (w : World τ)
    (es : List (Event τ)) :
    World τ :=
  { w with journal := w.journal ++ es }

theorem World.telling_telling
    (w : World τ)
    (es fs : List (Event τ)) :
    (w.telling es).telling fs = w.telling (es ++ fs) := by
  rw [telling, telling, telling, List.append_assoc]

/-- What is written is no call and no step of the client. -/
theorem calls_eq_nil_of_isWord
    {es : List (Event τ)}
    (hes : ∀ e ∈ es, e.isWord) :
    calls es = [] ∧ wire es = [] := by
  constructor
  · refine List.filterMap_eq_nil_iff.mpr fun e he => ?_
    have hword := hes e he
    cases e with
    | printed line => rfl
    | complained line => rfl
    | logged r => rfl
    | _ => exact nomatch hword
  · refine List.filter_eq_nil_iff.mpr fun e he => ?_
    have hword := hes e he
    cases e with
    | printed line => exact Bool.false_ne_true
    | complained line => exact Bool.false_ne_true
    | logged r => exact Bool.false_ne_true
    | _ => exact nomatch hword

end Words

namespace Tool

section Rules

variable {α β : Type}

/-- The program ends with a value and writes the same words in every world; it does nothing
else. -/
def Recites
    (p : Program α)
    (a : α) :
    Prop :=
  ∃ es, (∀ e ∈ es, e.isWord) ∧ ∀ w, p.run.run w = (.ok a, w.telling es)

theorem Recites.pure
    (a : α) :
    Recites (Pure.pure a) a := by
  refine ⟨[], nofun, fun w => ?_⟩
  rw [World.telling, List.append_nil]
  rfl

/-- Words after words. -/
theorem Recites.bind
    {p : Program α}
    {f : α → Program β}
    {a : α}
    {b : β}
    (hp : Recites p a)
    (hf : Recites (f a) b) :
    Recites (p >>= f) b := by
  obtain ⟨es, hes, hp⟩ := hp
  obtain ⟨fs, hfs, hf⟩ := hf
  refine ⟨es ++ fs, List.forall_mem_append.mpr ⟨hes, hfs⟩, fun w => ?_⟩
  show (ExceptT.bindCont f (p.run.run w).1).run (p.run.run w).2 = _
  rw [hp w, ← World.telling_telling]
  exact hf (w.telling es)

/-- Words ask for nothing. -/
theorem Recites.mute
    {p : Program α}
    {a : α}
    (hp : Recites p a) :
    Mute p.run fun result => result = .ok a := by
  obtain ⟨es, hes, hp⟩ := hp
  obtain ⟨hcalls, hwire⟩ := calls_eq_nil_of_isWord hes
  intro w
  rw [hp w]
  refine ⟨?_, rfl, ?_⟩
  · rw [World.telling, calls_append, hcalls]
  · show (w.clock, w.network, wire (w.journal ++ es)) = w.course
    rw [wire_append, hwire, List.append_nil]
    rfl

/-- What follows words hears what it would hear without them. -/
theorem Recites.thenHears
    {p : Program α}
    {f : α → Program β}
    {a : α}
    {cs : List (Call Float)}
    {R : List (Answer Float) → Except Crash β → Prop}
    (hp : Recites p a)
    (hf : Hears (f a).run cs R) :
    Hears (p >>= f).run cs R := by
  rw [ExceptT.run_bind]
  refine hp.mute.bind ?_
  rintro _ rfl
  exact hf

theorem recites_say
    (line : String) :
    Recites (say line) () :=
  ⟨[.printed line], List.forall_mem_singleton.mpr rfl, fun _ => rfl⟩

theorem recites_complain
    (line : String) :
    Recites (complain line) () :=
  ⟨[.complained line], List.forall_mem_singleton.mpr rfl, fun _ => rfl⟩

theorem recites_remarkAll
    (rs : List Record) :
    Recites (remarkAll rs) () :=
  ⟨rs.map .logged, List.forall_mem_map.mpr fun _ _ => rfl, fun _ => rfl⟩

end Rules

section Configurations

/-- What a program finds when it loads the file with a path. -/
def loaded
    (files : Files)
    (path : String) :
    Except Config.LoadError Config :=
  (Config.load (File.normalPath path) (files (File.normalPath path))).result

variable {files : Files} {path : String}

/-- A configuration that is found is loaded. -/
theorem recites_load_of_ok
    {config : Config}
    (hloaded : loaded files path = .ok config) :
    Recites (load files path) (.ok config) := by
  rw [loaded] at hloaded
  refine Recites.bind (recites_remarkAll _) ?_
  rw [hloaded]
  exact Recites.pure _

/-- An error of the configuration is given as its message. -/
theorem recites_load_of_error
    {e : Config.LoadError}
    {message : String}
    (hloaded : loaded files path = .error e)
    (hmessage : e.message? = some message) :
    Recites (load files path) (.error message) := by
  rw [loaded] at hloaded
  refine Recites.bind (recites_remarkAll _) ?_
  rw [hloaded]
  dsimp only
  rw [hmessage]
  exact Recites.pure _

/-- Narrowing gives the selection. -/
theorem recites_narrow
    (config : Config)
    (switches : List String)
    {vlans : List String}
    (hshort : ∀ s ∈ vlans, Config.ShortSelector s) :
    Recites (narrow config switches vlans) (config.narrowed switches vlans) := by
  rw [narrow, config.select?_eq switches hshort]
  exact Recites.bind (recites_remarkAll _) (Recites.pure _)

theorem recites_compile
    (config : Config) :
    Recites (compile config) (config.compile Table.empty) :=
  Recites.bind (recites_remarkAll _) (Recites.pure _)

/-- What a program does with an application, it does with what comes of applying. -/
theorem run_apply_bind
    {β : Type}
    (config : Config)
    (options : ApplyOptions Float)
    (f : Application → β) :
    (do return f (← apply config options) : Program β).run =
      config.apply options >>= fun result =>
        Pure.pure ((result.mapError Crash.execution).map f) := by
  rw [apply]
  simp only [ExceptT.run_bind, ExceptT.run_liftM, bind_map_left, bind_assoc]
  refine bind_congr fun result => ?_
  cases result <;> rfl

end Configurations

end Tool
end ManagedSwitch
