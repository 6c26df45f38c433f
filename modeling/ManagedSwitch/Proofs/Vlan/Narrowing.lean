import Mathlib.Data.List.Nodup
import ManagedSwitch.Proofs.Config.Selection
import ManagedSwitch.Proofs.Vlan.Settings

/-!
# Compiling a narrowed configuration

A configuration can be narrowed first and compiled then, or compiled as a whole and cut down to the
commands about the VLANs that are kept.  The commands for VLANs are the same in both ways.  A
command for a port whose VLAN is kept stays; but where a template marks several VLANs and the first
of them is not kept, narrowing moves the port to a later one.  `Narrows` is the exact relation of
the two batches of a switch, and `compile_select` says that every kept switch has it.

The one place where the two ways differ is the search for the first marked VLAN of a port, which
runs through fewer VLANs (`firstMarked?_narrowed`).
-/

namespace ManagedSwitch

section Relation

/-- The VLAN that a setting is about. -/
def VlanSetting.vlan : VlanSetting → Int
  | .membership form => form.id
  | .untagged form => form.id

/-- The VLAN that a command is about. -/
def Command.vlan? (c : Command) : Option Int :=
  c.setting?.map VlanSetting.vlan

namespace Config

/-- Whether selectors keep a VLAN of a configuration. -/
def keepsVlan
    (config : Config)
    (vlans : List String)
    (id : Int) :
    Bool :=
  config.vlans.entries.any fun v => v.1 == id && selects vlans v

/-- Whether a command is about a VLAN that selectors keep. -/
def keepsCommand
    (config : Config)
    (vlans : List String)
    (c : Command) :
    Bool :=
  c.vlan?.any (config.keepsVlan vlans)

/-- The template of a port, if there is one, marks at most one of the VLANs. -/
def MarksOne
    (config : Config)
    (port : Port) :
    Prop :=
  ∀ template, config.templates.get? port.template = some template →
    ∀ id ∈ config.vlans.keys, ∀ other ∈ config.vlans.keys,
      template.get? id = some "pvid" → template.get? other = some "pvid" → id = other

/-- What becomes of the batch of a switch when only the selected VLANs are kept. -/
structure Narrows
    (config : Config)
    (vlans : List String)
    (switch : Switch)
    (whole part : Batch) :
    Prop where
  /-- Both batches are for the switch. -/
  sameSwitch :
    whole.switchKey = switch.key ∧ part.switchKey = switch.key ∧ part.address = whole.address
  /-- The commands for the kept VLANs are the same, in the same order. -/
  memberships :
    (part.commands.filter fun c => c.kind = .membership) =
      (whole.commands.filter fun c => c.kind = .membership).filter (config.keepsCommand vlans)
  /-- A command for a port stays if its VLAN is kept. -/
  kept :
    ∀ c ∈ whole.commands, c.kind = .untagged → config.keepsCommand vlans c → c ∈ part.commands
  /-- A port of which at most one VLAN is marked has a command only if it had it before. -/
  added :
    ∀ c ∈ part.commands, ∀ form port, c.setting? = some (.untagged form) →
      switch.ports[form.port]? = some port → config.MarksOne port →
        c ∈ whole.commands ∧ config.keepsCommand vlans c
  /-- If no port has several marked VLANs, nothing else changes. -/
  restricted :
    (∀ port ∈ switch.ports, config.MarksOne port) →
      part.commands = whole.commands.filter (config.keepsCommand vlans)

end Config

end Relation

section Kept

namespace Config

variable {config : Config} {switches vlans : List String}

/-- A VLAN is kept if its entry is selected. -/
theorem keepsVlan_of_mem
    {v : Int × String}
    (hv : v ∈ config.vlans.entries) :
    config.keepsVlan vlans v.1 = selects vlans v := by
  rw [Bool.eq_iff_iff, keepsVlan, List.any_eq_true]
  constructor
  · rintro ⟨u, hu, hsel⟩
    rw [Bool.and_eq_true, beq_iff_eq] at hsel
    have hsame : u = v := List.inj_on_of_nodup_map config.vlans.distinct hu hv hsel.1
    exact hsame ▸ hsel.2
  · intro hsel
    exact ⟨v, hv, by simpa using hsel⟩

theorem keys_narrowed :
    (config.narrowed switches vlans).vlans.keys =
      config.vlans.keys.filter (config.keepsVlan vlans) := by
  rw [Table.keys, Table.keys, List.filter_map]
  refine congrArg _ (List.filter_congr fun v hv => ?_)
  exact (keepsVlan_of_mem hv).symm

end Config

end Kept

section Ports

namespace Config

variable {config : Config} {switches vlans : List String} {port : Port}

/-- The first marked VLAN of a port after narrowing is the first one that is marked and kept. -/
theorem firstMarked?_narrowed_eq_find? :
    (config.narrowed switches vlans).firstMarked? port =
      config.vlans.keys.find? fun id =>
        config.keepsVlan vlans id ∧ config.portCode id port = 0 := by
  rw [firstMarked?_eq_find?, keys_narrowed, List.find?_filter]
  simp only [decide_eq_true_eq]
  rfl

/-- The first marked VLAN of a port stays the first one if it is kept. -/
theorem firstMarked?_narrowed_of_keepsVlan
    {id : Int}
    (hfirst : config.firstMarked? port = some id)
    (hkept : config.keepsVlan vlans id) :
    (config.narrowed switches vlans).firstMarked? port = some id := by
  rw [firstMarked?_eq_find?, List.find?_eq_some_iff_append] at hfirst
  obtain ⟨hcode, before, after, hkeys, hbefore⟩ := hfirst
  rw [firstMarked?_narrowed_eq_find?, List.find?_eq_some_iff_append]
  refine ⟨by simpa using ⟨hkept, of_decide_eq_true hcode⟩, before, after, hkeys, ?_⟩
  intro j hj
  have hnot : config.portCode j port ≠ 0 := by
    simpa using hbefore j hj
  simp [hnot]

theorem MarksOne.eq_of_portCode
    (hone : config.MarksOne port)
    {id other : Int}
    (hid : id ∈ config.vlans.keys)
    (hother : other ∈ config.vlans.keys)
    (hcode : config.portCode id port = 0)
    (hcode' : config.portCode other port = 0) :
    id = other := by
  rw [portCode_eq_zero_iff, Option.bind_eq_some_iff] at hcode hcode'
  obtain ⟨template, htemplate, hword⟩ := hcode
  obtain ⟨template', htemplate', hword'⟩ := hcode'
  obtain rfl : template = template' := Option.some.inj (htemplate.symm.trans htemplate')
  exact hone template htemplate id hid other hother hword hword'

/-- A port with at most one marked VLAN has this one, or none if it is not kept. -/
theorem firstMarked?_narrowed
    (hone : config.MarksOne port) :
    (config.narrowed switches vlans).firstMarked? port =
      (config.firstMarked? port).filter (config.keepsVlan vlans) := by
  cases hfirst : config.firstMarked? port with
  | none =>
      rw [firstMarked?_eq_find?, List.find?_eq_none] at hfirst
      rw [firstMarked?_narrowed_eq_find?, Option.filter_none, List.find?_eq_none]
      intro id hid hmarked
      exact hfirst id hid (decide_eq_true (of_decide_eq_true hmarked).2)
  | some id =>
      cases hkept : config.keepsVlan vlans id with
      | true =>
          rw [firstMarked?_narrowed_of_keepsVlan hfirst hkept, Option.filter_some, if_pos hkept]
      | false =>
          rw [firstMarked?_eq_find?] at hfirst
          rw [firstMarked?_narrowed_eq_find?, Option.filter_some, hkept, if_neg Bool.false_ne_true,
            List.find?_eq_none]
          -- Only the first marked VLAN is marked, and this one is not kept.
          intro other hother hmarked
          obtain ⟨hkept', hcode'⟩ := of_decide_eq_true hmarked
          have hcode : config.portCode id port = 0 := by
            simpa using List.find?_some hfirst
          have hsame : id = other :=
            hone.eq_of_portCode (List.mem_of_find?_eq_some hfirst) hother hcode hcode'
          rw [hsame, hkept'] at hkept
          exact nomatch hkept

end Config

end Ports

section Commands

namespace Config

variable (config : Config) (switch : Switch) (target : Target)
variable {switches vlans : List String}

theorem keepsCommand_membership
    (v : Int × String) :
    config.keepsCommand vlans (target.membership v.1 v.2 (config.codes switch v.1)) =
      config.keepsVlan vlans v.1 := by
  rw [keepsCommand, Command.vlan?, setting?_membership]
  rfl

theorem keepsCommand_untagged
    (w : Nat × Int) :
    config.keepsCommand vlans (target.untagged w.1 w.2) = config.keepsVlan vlans w.2 := by
  rw [keepsCommand, Command.vlan?, setting?_untagged]
  rfl

/-- The commands for the kept VLANs are those that they had before. -/
theorem membershipCommands_narrowed :
    (config.narrowed switches vlans).membershipCommands switch target =
      (config.membershipCommands switch target).filter (config.keepsCommand vlans) := by
  rw [membershipCommands, membershipCommands, List.filter_map]
  refine congrArg (List.map _) (List.filter_congr fun v hv => ?_)
  rw [Function.comp_apply, keepsCommand_membership, keepsVlan_of_mem hv]

/-- The commands for ports with at most one marked VLAN each are those for the kept VLANs. -/
theorem untaggedCommands_narrowed
    (hone : ∀ port ∈ switch.ports, config.MarksOne port) :
    (config.narrowed switches vlans).untaggedCommands switch target =
      (config.untaggedCommands switch target).filter (config.keepsCommand vlans) := by
  have hwrites :
      (config.narrowed switches vlans).untaggedWrites switch =
        (config.untaggedWrites switch).filter fun w => config.keepsVlan vlans w.2 := by
    rw [untaggedWrites, untaggedWrites, ← positioned_filter]
    exact positioned_congr (fun port hport => firstMarked?_narrowed (hone port hport)) 0
  rw [untaggedCommands_eq, untaggedCommands_eq, hwrites, List.filter_map]
  refine congrArg (List.map _) (List.filter_congr fun w _ => ?_)
  rw [Function.comp_apply, keepsCommand_untagged]

/-- A port has a command if there is a first marked VLAN for it. -/
theorem mem_untaggedCommands_iff
    {c : Command} :
    c ∈ config.untaggedCommands switch target ↔
      ∃ w : Nat × Int, switch.ports[w.1]?.bind config.firstMarked? = some w.2 ∧
        target.untagged w.1 w.2 = c := by
  rw [untaggedCommands_eq, List.mem_map]
  simp only [untaggedWrites, mem_positioned_iff]

/-- The batch of a switch after narrowing. -/
theorem narrows_batch
    (cookie : String) :
    config.Narrows vlans switch (config.batch switch cookie)
      ((config.narrowed switches vlans).batch switch cookie) := by
  constructor
  case sameSwitch =>
    exact ⟨rfl, rfl, rfl⟩
  case memberships =>
    rw [filter_membership_batch, filter_membership_batch, membershipCommands_narrowed]
  case kept =>
    intro c hc hkind hkept
    rcases List.mem_append.mp hc with hc | hc
    · obtain ⟨v, -, rfl⟩ := List.mem_map.mp hc
      exact nomatch hkind
    · obtain ⟨w, hw, rfl⟩ := (config.mem_untaggedCommands_iff switch _).mp hc
      rw [keepsCommand_untagged] at hkept
      obtain ⟨port, hport, hfirst⟩ := Option.bind_eq_some_iff.mp hw
      refine List.mem_append_right _ ((mem_untaggedCommands_iff _ switch _).mpr ⟨w, ?_, rfl⟩)
      rw [hport]
      exact firstMarked?_narrowed_of_keepsVlan hfirst hkept
  case added =>
    intro c hc form port hform hport hone
    rcases List.mem_append.mp hc with hc | hc
    · obtain ⟨v, -, rfl⟩ := List.mem_map.mp hc
      rw [setting?_membership] at hform
      exact nomatch hform
    · obtain ⟨w, hw, rfl⟩ := (mem_untaggedCommands_iff _ switch _).mp hc
      rw [setting?_untagged] at hform
      cases hform
      rw [show switch.ports[w.1]? = some port from hport, Option.bind_some,
        firstMarked?_narrowed hone, Option.filter_eq_some_iff] at hw
      rw [keepsCommand_untagged]
      refine ⟨List.mem_append_right _ ?_, hw.2⟩
      refine (mem_untaggedCommands_iff _ switch _).mpr ⟨w, ?_, rfl⟩
      rw [show switch.ports[w.1]? = some port from hport]
      exact hw.1
  case restricted =>
    intro hone
    rw [batch, batch, List.filter_append, membershipCommands_narrowed,
      config.untaggedCommands_narrowed switch _ hone]

end Config

end Commands

section Compiling

namespace Config

theorem entries_selectSwitches
    (keys : List String)
    (switches : Table String Switch) :
    (selectSwitches keys switches).entries =
      switches.entries.filter fun e => keys.isEmpty || keys.contains e.1 := by
  rw [selectSwitches]
  cases keys.isEmpty with
  | true =>
      simp
  | false =>
      simp [Table.filter]

/-- Narrowing a configuration and compiling it gives one batch for each switch that is selected, in
the order of the switches, and this batch is the one of the whole configuration narrowed to the
selected VLANs. -/
theorem compile_select
    (config : Config)
    (switches : List String)
    {vlans : List String}
    (hshort : ∀ s ∈ vlans, ShortSelector s)
    (credentials : Credentials) :
    ∃ kept, config.select? switches vlans = some kept ∧
      (config.compile credentials).batches.length = config.switches.size ∧
      List.Forall₂ (fun e part => config.Narrows vlans e.1.2 e.2 part)
        ((config.switches.entries.zip (config.compile credentials).batches).filter
          fun e => switches.isEmpty || switches.contains e.1.1)
        (kept.compile credentials).batches := by
  refine ⟨_, config.select?_eq switches hshort, ?_, ?_⟩
  · simp [compile, Table.values, Table.size]
  · have hzip :
        config.switches.entries.zip (config.compile credentials).batches =
          config.switches.entries.map fun e =>
            (e, config.batch e.2 (cookieFor credentials e.2)) := by
      rw [compile, Table.values, List.map_map, List.map_prod_left_eq_zip]
      rfl
    rw [hzip, List.filter_map, compile, Table.values, narrowed, entries_selectSwitches,
      List.map_map, List.forall₂_map_left_iff, List.forall₂_map_right_iff]
    exact List.forall₂_same.mpr fun e _ => config.narrows_batch e.2 _

theorem compile_select_separatorsConfig :
    (∀ s ∈ [" 20 ", "A&B=Ü%"], ShortSelector s) ∧
      ∃ kept, separatorsConfig.select? ["s"] [" 20 ", "A&B=Ü%"] = some kept ∧
        (separatorsConfig.compile Table.empty).batches.length = separatorsConfig.switches.size ∧
        List.Forall₂
          (fun e part => separatorsConfig.Narrows [" 20 ", "A&B=Ü%"] e.1.2 e.2 part)
          ((separatorsConfig.switches.entries.zip
              (separatorsConfig.compile Table.empty).batches).filter
            fun e => ["s"].isEmpty || ["s"].contains e.1.1)
          (kept.compile Table.empty).batches := by
  have hshort : ∀ s ∈ [" 20 ", "A&B=Ü%"], ShortSelector s := by
    rw [List.forall_mem_cons, List.forall_mem_singleton]
    exact ⟨fun _ => by decide +kernel, fun _ => by decide +kernel⟩
  exact ⟨hshort, compile_select separatorsConfig ["s"] hshort Table.empty⟩

end Config

end Compiling

end ManagedSwitch
