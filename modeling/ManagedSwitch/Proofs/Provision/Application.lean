import ManagedSwitch.Proofs.Config.Selection
import ManagedSwitch.Proofs.Provision.Attempts
import ManagedSwitch.Proofs.Provision.Authentication

/-!
# Applying what was compiled

Compiling a configuration shows beforehand what applying it attempts.  `dryCommands` has the
compiled commands of the switches with authentication and `dryCalls` adds the commands that save;
`apply_calls` says that the client is asked for exactly these, whatever the network answers.
-/

namespace ManagedSwitch
namespace Config

section Previews

/-- Whether the switch of a batch has authentication. -/
def hasAuth
    (config : Config)
    (b : Batch) :
    Bool :=
  ((config.switches.get? b.switchKey).bind Switch.auth).isSome

/-- The compiled commands of the switches with authentication. -/
def dryCommands (config : Config) : List Command :=
  ((config.compile Table.empty).batches.filter config.hasAuth).flatMap Batch.commands

/-- The command that saves the configuration of a switch, with the cookie of the switch. -/
def drySave? (s : Switch) : Option Command :=
  s.auth.map fun auth => (Target.mk s.key s.address (auth.user ++ "=" ++ auth.response)).save

/-- The commands that save the configurations of the switches with authentication. -/
def drySaves (config : Config) : List Command :=
  config.switches.values.filterMap drySave?

/-- The calls for a configuration. -/
def dryCalls
    {τ : Type}
    (config : Config)
    (options : ApplyOptions τ) :
    List (Call τ) :=
  callsFor options.timeout (config.dryCommands ++ if options.save then config.drySaves else [])

end Previews

section Agreement

variable {config : Config}

/-- In a well-formed configuration, a switch has a cookie exactly if it has authentication. -/
theorem WellFormed.cookie
    (h : config.WellFormed)
    {s : Switch}
    (hs : s ∈ config.switches.values) :
    s.cookie.toOption = s.auth.map fun auth => auth.user ++ "=" ++ auth.response := by
  obtain ⟨e, he, rfl⟩ := List.mem_map.mp hs
  rw [Switch.cookie]
  cases hauth : e.2.auth with
  | none =>
      rfl
  | some auth =>
      have htype : auth.type = supportedAuth := h.supported e he auth hauth
      simp [htype, Except.toOption]

/-- The credentials that authenticating gives. -/
theorem WellFormed.get?_credentials
    (h : config.WellFormed)
    {s : Switch}
    (hs : s ∈ config.switches.values) :
    (authentication config.switches.values).credentials.get? s.key =
      s.auth.map fun auth => auth.user ++ "=" ++ auth.response := by
  rw [ManagedSwitch.get?_credentials h.nodup_map_key hs, h.cookie hs]

/-- Compiling with the credentials gives the batches that compiling without them gives. -/
theorem WellFormed.batches_eq
    (h : config.WellFormed) :
    (config.compile (authentication config.switches.values).credentials).batches =
      (config.compile Table.empty).batches := by
  refine List.map_congr_left fun s hs => congrArg (config.batch s) ?_
  rw [cookieFor, cookieFor, h.get?_credentials hs, ← h.cookie hs]
  cases s.cookie <;> rfl

/-- The batches that are not skipped are those of the switches with authentication. -/
theorem WellFormed.filter_eq
    (h : config.WellFormed) :
    ((config.compile Table.empty).batches.filter fun b =>
        (authentication config.switches.values).credentials.contains b.switchKey) =
      (config.compile Table.empty).batches.filter config.hasAuth := by
  refine List.filter_congr fun b hb => ?_
  obtain ⟨s, hs, rfl⟩ := List.mem_map.mp hb
  rw [Table.contains_eq_isSome_get?, hasAuth, batch, h.get?_credentials hs, h.get?_key hs,
    Option.isSome_map, Option.bind_some]

/-- The commands of a batch set memberships or VLANs of untagged frames. -/
theorem command_of_mem_batch
    {s : Switch}
    {cookie : String}
    {c : Command}
    (hc : c ∈ (config.batch s cookie).commands) :
    (∃ id name codes, c = (Target.mk s.key s.address cookie).membership id name codes) ∨
      ∃ port id, c = (Target.mk s.key s.address cookie).untagged port id := by
  rcases List.mem_append.mp hc with hc | hc
  · obtain ⟨e, -, rfl⟩ := List.mem_map.mp hc
    exact Or.inl ⟨_, _, _, rfl⟩
  · obtain ⟨port, -, hport⟩ := List.mem_filterMap.mp hc
    obtain ⟨t, -, hid⟩ := Option.bind_eq_some_iff.mp hport
    obtain ⟨id, -, rfl⟩ := Option.map_eq_some_iff.mp hid
    exact Or.inr ⟨_, _, rfl⟩

/-- The commands of a batch are for its switch. -/
theorem switchKey_of_mem_batch
    {s : Switch}
    {cookie : String}
    {c : Command}
    (hc : c ∈ (config.batch s cookie).commands) :
    c.switchKey = s.key := by
  obtain ⟨id, name, codes, rfl⟩ | ⟨port, id, rfl⟩ := command_of_mem_batch hc <;> rfl

/-- The commands of a batch go to the address of its switch. -/
theorem address_of_mem_batch
    {s : Switch}
    {cookie : String}
    {c : Command}
    (hc : c ∈ (config.batch s cookie).commands) :
    c.address = s.address := by
  obtain ⟨id, name, codes, rfl⟩ | ⟨port, id, rfl⟩ := command_of_mem_batch hc <;> rfl

/-- Every command that is shown is for a switch with authentication. -/
theorem WellFormed.exists_auth
    (h : config.WellFormed)
    {c : Command}
    (hc : c ∈ config.dryCommands ++ config.drySaves) :
    ∃ s ∈ config.switches.values, s.key = c.switchKey ∧ s.auth.isSome := by
  rcases List.mem_append.mp hc with hc | hc
  · obtain ⟨b, hb, hc⟩ := List.mem_flatMap.mp hc
    obtain ⟨hb, hauth⟩ := List.mem_filter.mp hb
    obtain ⟨s, hs, rfl⟩ := List.mem_map.mp hb
    rw [hasAuth, batch, h.get?_key hs] at hauth
    exact ⟨s, hs, (switchKey_of_mem_batch hc).symm, hauth⟩
  · obtain ⟨s, hs, hsave⟩ := List.mem_filterMap.mp hc
    obtain ⟨auth, hauth, rfl⟩ := Option.map_eq_some_iff.mp hsave
    exact ⟨s, hs, rfl, by rw [hauth]; rfl⟩

theorem WellFormed.saves_eq
    (h : config.WellFormed) :
    saveCommands (authentication config.switches.values).credentials config.switches.values =
      config.drySaves := by
  refine List.filterMap_congr fun s hs => ?_
  rw [h.get?_credentials hs, Option.map_map]
  rfl

/-- Applying a well-formed configuration attempts what compiling it shows. -/
theorem WellFormed.asks_apply
    {τ : Type}
    [Seconds τ]
    (h : config.WellFormed)
    {options : ApplyOptions τ}
    (hworkers : ∀ n ∈ options.workers, 0 ≤ n) :
    Asks (config.apply options) (config.dryCalls options)
      fun result => ∃ application, result = .ok application := by
  have hasks := ManagedSwitch.asks_apply config options hworkers rfl
  rw [h.batches_eq, h.filter_eq, h.saves_eq] at hasks
  have hcalls :
      config.dryCalls options =
        callsFor options.timeout config.dryCommands ++
          if options.save then callsFor options.timeout config.drySaves else [] := by
    rw [dryCalls, callsFor, List.map_append]
    cases options.save <;> rfl
  rw [hcalls]
  exact hasks

end Agreement

section Applying

/-- A document with a switch that has authentication and one that has none. -/
def twoSwitches : Document :=
  .map [
    (.text "vlans", .map [(.int 10, .text "data")]),
    (.text "templates", .map [(.text "access", .map [(.int 10, .text "pvid")])]),
    (.text "switches", .map [
      (.text "a", .map [
        (.text "name", .text "A"), (.text "address", .text "10.0.0.1"),
        (.text "ports", .list [.map [(.text "name", .int 1), (.text "template", .text "access")]]),
        (.text "auth", .map [
          (.text "type", .text "xike"), (.text "user", .text "admin"),
          (.text "pass", .text "secret"), (.text "resp", .text "0123")])]),
      (.text "b", .map [
        (.text "name", .text "B"), (.text "address", .text "10.0.0.2"),
        (.text "ports", .list [])])])]

/-- The configuration of `twoSwitches`. -/
def twoSwitchesConfig : Config where
  vlans := ⟨[(10, "data")], by simp⟩
  templates := Table.ofList [("access", Table.ofList [(10, "pvid")])]
  switches := Table.ofList [
    ("a", ⟨"a", "A", "10.0.0.1", some ⟨"xike", "admin", "secret", "0123"⟩, [⟨"1", "access"⟩]⟩),
    ("b", ⟨"b", "B", "10.0.0.2", none, []⟩)]

/-- Documents with the VLANs and the templates of `twoSwitches`. -/
theorem read_of_switches
    {switches : Entries}
    {ss : List (String × Switch)}
    (hswitches : List.Forall₂ IsKeyedSwitch switches ss) :
    read (.map [
        (.text "vlans", .map [(.int 10, .text "data")]),
        (.text "templates", .map [(.text "access", .map [(.int 10, .text "pvid")])]),
        (.text "switches", .map switches)]) =
      .ok { twoSwitchesConfig with switches := Table.ofList ss } := by
  have hten : Identifies (.int 10) 10 :=
    ⟨rfl, ⟨"10", by decide +kernel, by decide +kernel⟩, by decide⟩
  have hvlans : List.Forall₂ IsVlan [(.int 10, .text "data")] [(10, "data")] :=
    .cons ⟨hten, rfl, rfl⟩ .nil
  have htemplate :
      IsNamedTemplate (.text "access", .map [(.int 10, .text "pvid")])
        ("access", Table.ofList [(10, "pvid")]) :=
    ⟨⟨rfl, rfl⟩, _, _, rfl, .cons ⟨hten, rfl, Or.inl rfl⟩ .nil, rfl⟩
  rw [read_eq_ok_iff]
  exact ⟨_, _, _, _, rfl, ⟨rfl, hvlans⟩, ⟨rfl, _, .cons htemplate .nil, rfl⟩, rfl, _, hswitches,
    rfl⟩

/-- The first switch of `twoSwitches`. -/
def firstSwitch : Switch :=
  ⟨"a", "A", "10.0.0.1", some ⟨"xike", "admin", "secret", "0123"⟩, [⟨"1", "access"⟩]⟩

theorem isKeyedSwitch_firstSwitch :
    IsKeyedSwitch
      (.text "a", .map [
        (.text "name", .text "A"), (.text "address", .text "10.0.0.1"),
        (.text "ports", .list [.map [(.text "name", .int 1), (.text "template", .text "access")]]),
        (.text "auth", .map [
          (.text "type", .text "xike"), (.text "user", .text "admin"),
          (.text "pass", .text "secret"), (.text "resp", .text "0123")])])
      ("a", firstSwitch) := by
  have hone : (Document.int 1).text? = some "1" := by
    decide +kernel
  have hport : IsPort (.map [(.text "name", .int 1), (.text "template", .text "access")])
      ⟨"1", "access"⟩ :=
    ⟨_, rfl, ⟨_, rfl, rfl, hone⟩, ⟨_, rfl, rfl, rfl⟩⟩
  refine ⟨⟨rfl, rfl⟩, rfl, ?_⟩
  refine ⟨_, _, rfl, rfl, .cons hport .nil, ⟨_, rfl, rfl, rfl⟩, ⟨_, rfl, rfl, rfl⟩, Or.inr ?_⟩
  exact ⟨_, _, rfl, rfl, _, rfl, ⟨_, rfl, rfl, rfl⟩, rfl, ⟨_, rfl, rfl, rfl⟩, ⟨_, rfl, rfl, rfl⟩,
    ⟨_, rfl, rfl, rfl⟩⟩

theorem read_twoSwitches :
    read twoSwitches = .ok twoSwitchesConfig := by
  refine read_of_switches (.cons isKeyedSwitch_firstSwitch (.cons ⟨⟨rfl, rfl⟩, rfl, ?_⟩ .nil))
  exact ⟨_, _, rfl, rfl, .nil, ⟨_, rfl, rfl, rfl⟩, ⟨_, rfl, rfl, rfl⟩, Or.inl ⟨rfl, rfl⟩⟩

/-- The options of a run that saves. -/
def savingOptions : ApplyOptions Float :=
  ⟨10, none, true, false⟩

/-- A world in which no host is known. -/
def deadWorld : World Float :=
  ⟨0, Table.empty, []⟩

end Applying

end Config
end ManagedSwitch
