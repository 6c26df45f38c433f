import ManagedSwitch.Proofs.Http.FormReading
import ManagedSwitch.Proofs.Writes
import ManagedSwitch.Vlan.Compiled

/-!
# What the firmware makes of a batch

The firmware knows, for every VLAN, its name and the code of every port, and for every port the VLAN
of its untagged frames.  It learns both from the bodies of commands, which it decodes: the form for
a VLAN replaces all that is known about the VLAN, the form for a port replaces the port's VLAN.

`exists_realizes_of_compiled` says what the compiled batch of a switch does to any firmware, in
terms of the configuration alone.  The batch is two runs of writes to distinct places
(`run_membershipCommands`, `run_untaggedCommands`), so that its effect is the one of `overwrite`.
-/

namespace ManagedSwitch

section State

/-- What the firmware knows about a VLAN: its name, and the codes of ports by their positions. -/
structure VlanEntry where
  name : String
  codes : Nat → Option Nat

/-- What the firmware knows: the VLANs, and the VLAN of untagged frames of every port. -/
structure Firmware where
  vlans : Int → Option VlanEntry
  untagged : Nat → Int

namespace Firmware

/-- The firmware after a command; there is none if the body of the command cannot be decoded. -/
def step
    (s : Firmware)
    (c : Command) :
    Option Firmware :=
  match c.kind with
  | .membership =>
    (Form.membershipForm? c.request.body).map fun f =>
      { s with vlans := Function.update s.vlans f.id (some ⟨f.name, fun i => f.codes.lookup i⟩) }
  | .untagged =>
    (Form.untaggedForm? c.request.body).map fun f =>
      { s with untagged := Function.update s.untagged f.port f.id }
  | .save => some s

/-- The firmware after several commands. -/
def run (s : Firmware) : List Command → Option Firmware
  | [] => some s
  | c :: rest => (s.step c).bind fun s => s.run rest

@[simp] theorem run_cons
    (s : Firmware)
    (c : Command)
    (rest : List Command) :
    s.run (c :: rest) = (s.step c).bind fun s => s.run rest := by
  rfl

@[simp] theorem run_append
    (s : Firmware)
    (cs ds : List Command) :
    s.run (cs ++ ds) = (s.run cs).bind fun s => s.run ds := by
  induction cs generalizing s with
  | nil =>
      rfl
  | cons c cs ih =>
      rw [List.cons_append, run_cons, run_cons, Option.bind_assoc]
      simp only [ih]

end Firmware

end State

section Wanted

namespace Config

/-- The code that a configuration wants for a port in a VLAN. -/
def portCode
    (config : Config)
    (id : Int)
    (port : Port) :
    Nat :=
  let word := (config.templates.get? port.template).bind fun t => t.get? id
  if word = some "pvid" then 0 else if word = some "tagged" then 1 else 2

/-- The entry that a configuration wants for a VLAN on a switch. -/
def vlanEntry
    (config : Config)
    (switch : Switch)
    (id : Int)
    (name : String) :
    VlanEntry :=
  ⟨name, fun i => switch.ports[i]?.map (config.portCode id)⟩

/-- What a firmware has to be after the batch of a switch, by the firmware before it. -/
structure Realizes
    (config : Config)
    (switch : Switch)
    (start final : Firmware) :
    Prop where
  /-- A VLAN that is configured has its name, and for every port the code of its status. -/
  configured :
    ∀ id name, (id, name) ∈ config.vlans.entries →
      final.vlans id = some (config.vlanEntry switch id name)
  /-- What is known about other VLANs stays. -/
  otherVlans :
    ∀ id, id ∉ config.vlans.keys → final.vlans id = start.vlans id
  /-- A port gets the first configured VLAN that its template marks. -/
  firstMarked :
    ∀ (i : Nat) port template before id after,
      switch.ports[i]? = some port →
      config.templates.get? port.template = some template →
      config.vlans.keys = before ++ id :: after →
      template.get? id = some "pvid" →
      (∀ j ∈ before, template.get? j ≠ some "pvid") →
      final.untagged i = id
  /-- A port without a template that marks a configured VLAN keeps its VLAN. -/
  otherPorts :
    ∀ i : Nat,
      (∀ port template, switch.ports[i]? = some port →
        config.templates.get? port.template = some template →
        ∀ id ∈ config.vlans.keys, template.get? id ≠ some "pvid") →
      final.untagged i = start.untagged i

end Config

end Wanted

section Memberships

namespace Config

variable (config : Config) (switch : Switch) (target : Target)

/-- The texts of codes are those of small numbers. -/
theorem code_ofWord
    (word : Option String) :
    (Status.ofWord word).code =
      Number.natText (if word = some "pvid" then 0 else if word = some "tagged" then 1 else 2) := by
  have h₀ : Number.natText 0 = "0" := Number.natText_of_lt (by decide)
  have h₁ : Number.natText 1 = "1" := Number.natText_of_lt (by decide)
  have h₂ : Number.natText 2 = "2" := Number.natText_of_lt (by decide)
  cases word with
  | none =>
      simp [Status.ofWord, Status.code, h₂]
  | some w =>
      simp only [Status.ofWord, Option.some.injEq]
      split
      · exact h₀.symm
      · split
        · exact h₁.symm
        · exact h₂.symm

/-- The codes in the form for a VLAN are those that the configuration wants. -/
theorem codes_eq_map_portCode
    (id : Int) :
    config.codes switch id = (switch.ports.map (config.portCode id)).map Number.natText := by
  rw [codes, portTemplates, List.map_map, List.map_map]
  refine List.map_congr_left ?_
  intro port _
  have hstatus :
      ∀ t : Option Template, Template.status t id = Status.ofWord (t.bind fun t => t.get? id) := by
    intro t
    cases t <;> rfl
  simp only [Function.comp_apply, hstatus, code_ofWord, portCode]

/-- The form for a VLAN is read as what the configuration wants. -/
theorem membershipForm?_codes
    (id : Int)
    (name : String) :
    Form.membershipForm? (Form.membership id name (config.codes switch id)) =
      some ⟨id, name, (switch.ports.map (config.portCode id)).zipIdx.map Prod.swap⟩ := by
  rw [codes_eq_map_portCode]
  exact Form.membershipForm?_membership id name _

/-- The command for a VLAN writes the entry that the configuration wants. -/
theorem step_membership
    (s : Firmware)
    (id : Int)
    (name : String) :
    s.step (target.membership id name (config.codes switch id)) =
      some { s with
        vlans := Function.update s.vlans id (some (config.vlanEntry switch id name)) } := by
  simp only [Firmware.step, Target.membership, Target.post, Form.post, membershipForm?_codes,
    Option.map_some, lookup_zipIdx_swap, List.getElem?_map]
  rfl

/-- The entries that a configuration wants, by the numbers of their VLANs. -/
def vlanWrites : List (Int × Option VlanEntry) :=
  config.vlans.entries.map fun e => (e.1, some (config.vlanEntry switch e.1 e.2))

theorem vlanWrites_keys :
    (config.vlanWrites switch).map Prod.fst = config.vlans.keys := by
  simp [vlanWrites, Table.keys]

/-- The commands for the VLANs write the entries that the configuration wants. -/
theorem run_membershipCommands
    (s : Firmware) :
    s.run (config.membershipCommands switch target) =
      some { s with vlans := overwrite s.vlans (config.vlanWrites switch) } := by
  have hdistinct := config.vlans.distinct
  rw [membershipCommands, vlanWrites]
  generalize config.vlans.entries = es at hdistinct
  induction es generalizing s with
  | nil =>
      rfl
  | cons e es ih =>
      rw [List.map_cons, List.nodup_cons] at hdistinct
      have hnew :
          e.1 ∉ (es.map fun e => (e.1, some (config.vlanEntry switch e.1 e.2))).map Prod.fst := by
        simpa using hdistinct.1
      rw [List.map_cons, Firmware.run_cons, step_membership, Option.bind_some, ih _ hdistinct.2,
        List.map_cons, overwrite_cons s.vlans hnew]

end Config

end Memberships

section Untagged

namespace Config

variable (config : Config) (switch : Switch) (target : Target)

/-- The first configured VLAN that the template of a port marks. -/
def firstMarked? (port : Port) : Option Int :=
  (config.templates.get? port.template).bind fun t => t.untagged? config.vlans.keys

/-- The VLANs of untagged frames that a configuration wants, by the positions of their ports. -/
def untaggedWrites : List (Nat × Int) :=
  positioned config.firstMarked? 0 switch.ports

/-- The commands for the ports are those for the VLANs that the configuration wants. -/
theorem untaggedCommands_eq :
    config.untaggedCommands switch target =
      (config.untaggedWrites switch).map fun w => target.untagged w.1 w.2 := by
  rw [untaggedCommands, portTemplates, List.zipIdx_map, List.filterMap_map, untaggedWrites,
    positioned, List.map_filterMap]
  refine congrArg (fun f => List.filterMap f _) (funext fun x => ?_)
  simp only [Function.comp_apply, untaggedCommand?, firstMarked?, Prod.map_fst, Prod.map_snd,
    id_eq, Option.map_map]
  cases config.templates.get? x.1.template <;> rfl

/-- The command for a port writes its VLAN. -/
theorem step_untagged
    (s : Firmware)
    (port : Nat)
    (id : Int) :
    s.step (target.untagged port id) =
      some { s with untagged := Function.update s.untagged port id } := by
  simp [Firmware.step, Target.untagged, Target.post, Form.post, Form.untaggedForm?_untagged]

/-- The commands for the ports write the VLANs that the configuration wants. -/
theorem run_untaggedCommands
    (s : Firmware) :
    s.run (config.untaggedCommands switch target) =
      some { s with untagged := overwrite s.untagged (config.untaggedWrites switch) } := by
  have hnodup := positioned_nodup config.firstMarked? 0 switch.ports
  rw [untaggedCommands_eq, untaggedWrites]
  generalize positioned config.firstMarked? 0 switch.ports = writes at hnodup
  induction writes generalizing s with
  | nil =>
      rfl
  | cons w writes ih =>
      rw [List.map_cons, List.nodup_cons] at hnodup
      rw [List.map_cons, Firmware.run_cons, step_untagged, Option.bind_some, ih _ hnodup.2,
        overwrite_cons s.untagged hnodup.1]

end Config

end Untagged

section Batches

namespace Config

variable (config : Config) (switch : Switch)

/-- The firmware after the batch of a switch. -/
def overwritten (s : Firmware) : Firmware :=
  ⟨overwrite s.vlans (config.vlanWrites switch),
    overwrite s.untagged (config.untaggedWrites switch)⟩

/-- A batch writes the entries of its VLANs and the VLANs of its ports. -/
theorem run_batch
    (cookie : String)
    (s : Firmware) :
    s.run (config.batch switch cookie).commands = some (config.overwritten switch s) := by
  simp only [batch, Firmware.run_append, run_membershipCommands, Option.bind_some,
    run_untaggedCommands]
  rfl

theorem overwritten_overwritten
    (s : Firmware) :
    config.overwritten switch (config.overwritten switch s) = config.overwritten switch s := by
  simp only [overwritten, overwrite_overwrite]

/-- The template of a port marks no configured VLAN if there is no first one. -/
theorem firstMarked?_eq_none_iff
    (port : Port) :
    config.firstMarked? port = none ↔
      ∀ template, config.templates.get? port.template = some template →
        ∀ id ∈ config.vlans.keys, template.get? id ≠ some "pvid" := by
  rw [firstMarked?]
  cases config.templates.get? port.template with
  | none =>
      simp
  | some t =>
      simp [Template.untagged?]

/-- The first configured VLAN that a template marks comes after VLANs that it does not mark. -/
theorem firstMarked?_eq_some
    {port : Port}
    {template : Template}
    {before after : List Int}
    {id : Int}
    (htemplate : config.templates.get? port.template = some template)
    (hkeys : config.vlans.keys = before ++ id :: after)
    (hid : template.get? id = some "pvid")
    (hbefore : ∀ j ∈ before, template.get? j ≠ some "pvid") :
    config.firstMarked? port = some id := by
  rw [firstMarked?, htemplate, Option.bind_some, Template.untagged?, List.find?_eq_some_iff_append]
  refine ⟨by simpa using hid, before, after, hkeys, ?_⟩
  intro j hj
  simpa using hbefore j hj

/-- The effect of a batch is what the configuration asks for. -/
theorem realizes_overwritten
    (start : Firmware) :
    config.Realizes switch start (config.overwritten switch start) where
  configured := by
    intro id name hmem
    refine overwrite_of_mem start.vlans ?_ ?_
    · rw [vlanWrites_keys]
      exact config.vlans.distinct
    · exact List.mem_map.mpr ⟨(id, name), hmem, rfl⟩
  otherVlans := by
    intro id hid
    refine overwrite_of_not_mem start.vlans ?_
    rw [vlanWrites_keys]
    exact hid
  firstMarked := by
    intro i port template before id after hport htemplate hkeys hid hbefore
    have hfirst := config.firstMarked?_eq_some htemplate hkeys hid hbefore
    have hlookup := lookup_positioned config.firstMarked? 0 switch.ports i
    rw [Nat.zero_add, hport, Option.bind_some, hfirst] at hlookup
    simp only [overwritten, overwrite, untaggedWrites, hlookup, Option.getD_some]
  otherPorts := by
    intro i hnone
    have hlookup := lookup_positioned config.firstMarked? 0 switch.ports i
    have hbind : switch.ports[i]?.bind config.firstMarked? = none := by
      cases hport : switch.ports[i]? with
      | none =>
          rfl
      | some port =>
          exact (config.firstMarked?_eq_none_iff port).mpr fun t ht => hnone port t hport ht
    rw [Nat.zero_add, hbind] at hlookup
    simp only [overwritten, overwrite, untaggedWrites, hlookup, Option.getD_none]

/-- Every switch has a compiled batch, which brings every firmware to what the configuration asks
for; a second run of the batch changes nothing. -/
theorem exists_realizes_of_compiled
    {config : Config}
    {i : Nat}
    {switch : Switch}
    (hswitch : config.switches.values[i]? = some switch)
    (credentials : Credentials)
    (start : Firmware) :
    ∃ batch final,
      (config.compile credentials).batches[i]? = some batch ∧
      start.run batch.commands = some final ∧
      config.Realizes switch start final ∧
      final.run batch.commands = some final := by
  refine ⟨config.batch switch (cookieFor credentials switch), config.overwritten switch start, ?_,
    config.run_batch switch _ start, config.realizes_overwritten switch start, ?_⟩
  · rw [compile, List.getElem?_map, hswitch]
    rfl
  · rw [run_batch, overwritten_overwritten]

/-- A configuration with a name that is full of separators and a template that marks two VLANs. -/
def separatorsConfig : Config where
  vlans := ⟨[(10, "a&b=ü%"), (20, "")], by simp⟩
  templates := ⟨[("both", ⟨[(20, "pvid"), (10, "pvid")], by simp⟩)], by simp⟩
  switches :=
    ⟨[("s", ⟨"s", "Switch", "10.0.0.1", none, [⟨"1", "both"⟩, ⟨"2", "unknown"⟩]⟩)], by simp⟩

theorem exists_realizes_separatorsConfig :
    ∃ switch batch final,
      separatorsConfig.switches.values[0]? = some switch ∧
      (separatorsConfig.compile Table.empty).batches[0]? = some batch ∧
      Firmware.run ⟨fun _ => none, fun _ => 1⟩ batch.commands = some final ∧
      separatorsConfig.Realizes switch ⟨fun _ => none, fun _ => 1⟩ final ∧
      final.run batch.commands = some final :=
  ⟨_, (exists_realizes_of_compiled rfl _ _).imp fun _ h => h.imp fun _ h => ⟨rfl, h⟩⟩

end Config

end Batches

end ManagedSwitch
