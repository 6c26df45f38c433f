import ManagedSwitch.Proofs.Vlan.Settings
import ManagedSwitch.Vlan.View

/-!
# The view and the commands

The view shows the ports of a switch by their names, the commands for its VLANs set them by their
positions.  `Shows` says how the two agree on a VLAN: under every name stands the status whose code
is set for the last port of that name.  `view_agrees` is the result for all switches and all VLANs
of a configuration.

So the view of a VLAN can be made from the names of the ports and the form for the VLAN, and if no
two ports share a name, the form can be made from the view.
-/

namespace ManagedSwitch

section Codes

namespace Status

/-- The number in the code of a status. -/
def number : Status → Nat
  | .untagged => 0
  | .tagged => 1
  | .notMember => 2

/-- The status that a number stands for. -/
def ofNumber : Nat → Status
  | 0 => .untagged
  | 1 => .tagged
  | _ => .notMember

theorem ofNumber_number
    (s : Status) :
    ofNumber s.number = s := by
  cases s <;> rfl

/-- A status is found again from its text. -/
theorem ofWord_text
    (s : Status) :
    ofWord (some s.text) = s := by
  cases s <;> rfl

theorem number_ofWord
    (word : Option String) :
    (ofWord word).number =
      if word = some "pvid" then 0 else if word = some "tagged" then 1 else 2 := by
  cases word with
  | none =>
      rfl
  | some w =>
      simp only [ofWord, Option.some.injEq]
      split
      · rfl
      · split
        · rfl
        · rfl

theorem code_eq_natText_number
    (s : Status) :
    s.code = Number.natText s.number := by
  rw [← ofWord_text s, Config.code_ofWord, number_ofWord]

end Status

end Codes

section Agreement

/-- The view of a VLAN shows what a form sets for ports with some names. -/
structure VlanView.Shows
    (names : List String)
    (f : Form.MembershipForm)
    (v : VlanView) :
    Prop where
  id : v.id = f.id
  name : v.name = f.name
  /-- The names stand where they first occur. -/
  keys : v.ports.keys = names.eraseDups
  /-- Under a name stands the status whose code is set for the last port of that name. -/
  status :
    ∀ name ∈ names, ∃ j status,
      names[j]? = some name ∧ (∀ k, j < k → names[k]? ≠ some name) ∧
        v.ports.get? name = some (Status.text status) ∧
        (f.codes.lookup j).map Number.natText = some status.code

/-- The view of a VLAN that is made from the names of the ports and the form for the VLAN. -/
def Form.MembershipForm.view
    (names : List String)
    (f : Form.MembershipForm) :
    VlanView :=
  ⟨f.id, f.name, Table.ofList (names.zipIdx.filterMap fun n =>
    (f.codes.lookup n.2).map fun code => (n.1, (Status.ofNumber code).text))⟩

/-- The form for a VLAN that is made from its view. -/
def VlanView.form (v : VlanView) : Form.MembershipForm :=
  ⟨v.id, v.name, v.ports.values.zipIdx.map fun text =>
    (text.2, (Status.ofWord (some text.1)).number)⟩

/-- The view of a switch and the batch for it agree; `forms` are what the commands for the VLANs
say. -/
structure Config.Agrees
    (config : Config)
    (switch : Switch)
    (view : SwitchView)
    (batch : Batch)
    (forms : List Form.MembershipForm) :
    Prop where
  key : view.key = switch.key ∧ batch.switchKey = switch.key
  name : view.name = switch.name
  address : view.address = switch.address ∧ batch.address = switch.address
  /-- The forms are read from the bodies of the commands for the VLANs. -/
  read :
    (batch.commands.filter fun c => c.kind = .membership).map
      (fun c => Form.membershipForm? c.request.body) = forms.map some
  /-- The VLANs are shown in the order of the configuration. -/
  vlans : view.vlans.map (fun v => (v.id, v.name)) = config.vlans.entries
  /-- Every VLAN is shown as its form sets it. -/
  shown : List.Forall₂ (VlanView.Shows (switch.ports.map Port.name)) forms view.vlans
  /-- The VLANs can be shown without the configuration. -/
  rebuilt : view.vlans = forms.map (Form.MembershipForm.view (switch.ports.map Port.name))
  /-- Names of ports that are distinct give the forms back. -/
  recovered : (switch.ports.map Port.name).Nodup → forms = view.vlans.map VlanView.form

end Agreement

section Vlans

namespace Config

variable (config : Config) (switch : Switch)

/-- The status of a port in a VLAN. -/
def portStatus
    (id : Int)
    (port : Port) :
    Status :=
  Template.status (config.templates.get? port.template) id

theorem portCode_eq_number
    (id : Int)
    (port : Port) :
    config.portCode id port = (config.portStatus id port).number := by
  have hword :
      config.portStatus id port =
        Status.ofWord ((config.templates.get? port.template).bind fun t => t.get? id) := by
    rw [portStatus]
    cases config.templates.get? port.template <;> rfl
  rw [hword, Status.number_ofWord, portCode]

theorem map_fst_portStatuses
    (id : Int) :
    (config.portStatuses switch id).map Prod.fst = switch.ports.map Port.name := by
  rw [portStatuses, List.map_map]
  rfl

/-- The view of a VLAN shows what its form sets. -/
theorem shows_vlanForm
    (v : Int × String) :
    VlanView.Shows (switch.ports.map Port.name) (config.vlanForm switch v)
      ⟨v.1, v.2, Table.ofList (config.portStatuses switch v.1)⟩ where
  id := rfl
  name := rfl
  keys := by
    rw [Table.keys_ofList, map_fst_portStatuses]
  status := by
    intro name hname
    have hkey : name ∈ (Table.ofList (config.portStatuses switch v.1)).keys := by
      rw [Table.keys_ofList, map_fst_portStatuses, List.mem_eraseDups]
      exact hname
    obtain ⟨e, he, rfl⟩ := List.mem_map.mp hkey
    -- Of the ports that share the name, the table has kept the last one.
    obtain ⟨j, hj, hlast⟩ := Table.exists_getElem?_of_isLast (Table.mem_entries_ofList_iff.mp he)
    rw [portStatuses, List.getElem?_map, Option.map_eq_some_iff] at hj
    obtain ⟨port, hport, rfl⟩ := hj
    rw [map_fst_portStatuses] at hlast
    refine ⟨j, config.portStatus v.1 port, ?_, hlast, Table.get?_eq_some_of_mem he, ?_⟩
    · rw [List.getElem?_map, hport]
      rfl
    · rw [lookup_vlanForm, hport, Option.map_some, Option.map_some, portCode_eq_number,
        Status.code_eq_natText_number]

/-- The view of a VLAN is made from the names of the ports and its form. -/
theorem view_vlanForm
    (v : Int × String) :
    (config.vlanForm switch v).view (switch.ports.map Port.name) =
      ⟨v.1, v.2, Table.ofList (config.portStatuses switch v.1)⟩ := by
  have hstatuses :
      ((switch.ports.map Port.name).zipIdx.filterMap fun n =>
        ((config.vlanForm switch v).codes.lookup n.2).map fun code =>
          (n.1, (Status.ofNumber code).text)) = config.portStatuses switch v.1 := by
    calc _ = switch.ports.zipIdx.filterMap fun p =>
            some (p.1.name, (config.portStatus v.1 p.1).text) := by
          -- No port is left out: the form has a code for every position.
          rw [List.zipIdx_map, List.filterMap_map]
          refine List.filterMap_congr fun p hp => ?_
          have hport : switch.ports[p.2]? = some p.1 := List.mem_zipIdx_iff_getElem?.mp hp
          simp [lookup_vlanForm, hport, portCode_eq_number, Status.ofNumber_number]
      _ = (switch.ports.zipIdx.map Prod.fst).map fun p =>
            (p.name, (config.portStatus v.1 p).text) := by
          rw [List.filterMap_eq_map', List.map_map]
          rfl
      _ = config.portStatuses switch v.1 := by
          rw [List.zipIdx_map_fst]
          rfl
  rw [Form.MembershipForm.view, hstatuses]
  rfl

/-- If the names of the ports are distinct, the form for a VLAN is made from its view. -/
theorem form_view
    (hnodup : (switch.ports.map Port.name).Nodup)
    (v : Int × String) :
    VlanView.form ⟨v.1, v.2, Table.ofList (config.portStatuses switch v.1)⟩ =
      config.vlanForm switch v := by
  have hkeys : ((config.portStatuses switch v.1).map Prod.fst).Nodup := by
    rwa [map_fst_portStatuses]
  have hvalues :
      (Table.ofList (config.portStatuses switch v.1)).values =
        switch.ports.map fun p => (config.portStatus v.1 p).text := by
    rw [Table.values, Table.entries_ofList hkeys, portStatuses, List.map_map]
    rfl
  have hcodes :
      ((switch.ports.map fun p => (config.portStatus v.1 p).text).zipIdx.map fun text =>
        (text.2, (Status.ofWord (some text.1)).number)) =
          (switch.ports.map (config.portCode v.1)).zipIdx.map Prod.swap := by
    rw [List.zipIdx_map, List.zipIdx_map, List.map_map, List.map_map]
    refine List.map_congr_left fun p _ => ?_
    simp only [Function.comp_apply, Prod.map_fst, Prod.map_snd, Status.ofWord_text, id_eq,
      ← portCode_eq_number]
    rfl
  rw [VlanView.form, hvalues, hcodes]
  rfl

end Config

end Vlans

section Batches

namespace Config

variable (config : Config) (switch : Switch)

theorem agrees_batch
    (cookie : String) :
    config.Agrees switch (config.viewSwitch switch) (config.batch switch cookie)
      (config.vlans.entries.map (config.vlanForm switch)) where
  key := ⟨rfl, rfl⟩
  name := rfl
  address := ⟨rfl, rfl⟩
  read := by
    rw [filter_membership_batch, membershipCommands, List.map_map, List.map_map]
    exact List.map_congr_left fun v _ => config.membershipForm?_codes switch v.1 v.2
  vlans := by
    rw [viewSwitch, List.map_map]
    exact List.map_id _
  shown := by
    rw [viewSwitch, List.forall₂_map_left_iff, List.forall₂_map_right_iff, List.forall₂_same]
    exact fun v _ => config.shows_vlanForm switch v
  rebuilt := by
    rw [viewSwitch, List.map_map]
    exact List.map_congr_left fun v _ => (config.view_vlanForm switch v).symm
  recovered := by
    intro hnodup
    rw [viewSwitch, List.map_map]
    exact List.map_congr_left fun v _ => (config.form_view switch hnodup v).symm

/-- The view and the compiled batches show and set the same: there is one of each for every switch,
in order, and they agree. -/
theorem view_agrees
    (config : Config)
    (credentials : Credentials) :
    config.view.length = (config.compile credentials).batches.length ∧
      List.Forall₂ (fun switch pair => ∃ forms, config.Agrees switch pair.1 pair.2 forms)
        config.switches.values (config.view.zip (config.compile credentials).batches) := by
  refine ⟨by simp [view, compile], ?_⟩
  rw [view, compile, List.zip_map', List.forall₂_map_right_iff, List.forall₂_same]
  exact fun switch _ => ⟨_, config.agrees_batch switch _⟩

end Config

end Batches

end ManagedSwitch
