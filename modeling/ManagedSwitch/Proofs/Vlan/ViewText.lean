import ManagedSwitch.Proofs.Json.Written
import ManagedSwitch.Vlan.View

/-!
# The text of the view

The text of a view says what the view says, in the same order: it is read as the value of the view,
and different views have different texts (`viewText_lossless`).  The names of the ports are distinct
in the table of a VLAN, so none of them is lost.
-/

namespace ManagedSwitch

section Values

theorem VlanView.json_value
    (v : VlanView) :
    v.value.json = .object [
      ("vlanId", .int v.id),
      ("vlanName", .text v.name),
      ("ports", .object (v.ports.entries.map fun e => (e.1, .text e.2)))] := by
  simp [VlanView.value, JsonValue.json, JsonValue.jsonMembers_eq, Function.comp_def]

theorem SwitchView.json_value
    (s : SwitchView) :
    s.value.json = .object [
      ("switch", .text s.key),
      ("name", .text s.name),
      ("address", .text s.address),
      ("vlans", .array (s.vlans.map fun v => v.value.json))] := by
  simp [SwitchView.value, JsonValue.json, JsonValue.jsonMembers_eq, JsonValue.jsonItems_eq,
    Function.comp_def]

/-- A VLAN is found again in its value. -/
theorem VlanView.json_value_injective :
    Function.Injective fun v : VlanView => v.value.json := by
  intro v w heq
  obtain ⟨id, name, ports⟩ := v
  obtain ⟨id', name', ports'⟩ := w
  have hentry : Function.Injective fun e : String × String => (e.1, Json.text e.2) := by
    rintro ⟨name, word⟩ ⟨name', word'⟩ heq
    simpa using heq
  simp only [json_value, Json.object.injEq, Json.int.injEq, Json.text.injEq, List.cons.injEq,
    Prod.mk.injEq, true_and, and_true] at heq
  obtain ⟨rfl, rfl, hports⟩ := heq
  rw [Table.entries_inj.mp (hentry.list_map hports)]

/-- A switch is found again in its value. -/
theorem SwitchView.json_value_injective :
    Function.Injective fun s : SwitchView => s.value.json := by
  intro s t heq
  obtain ⟨key, name, address, vlans⟩ := s
  obtain ⟨key', name', address', vlans'⟩ := t
  simp only [json_value, Json.object.injEq, Json.text.injEq, Json.array.injEq, List.cons.injEq,
    Prod.mk.injEq, true_and, and_true] at heq
  obtain ⟨rfl, rfl, rfl, hvlans⟩ := heq
  rw [VlanView.json_value_injective.list_map hvlans]

theorem json_viewValue_injective :
    Function.Injective fun view => (viewValue view).json := by
  intro view view' heq
  simp only [viewValue, JsonValue.json, JsonValue.jsonItems_eq, List.map_map, Json.array.injEq]
    at heq
  exact SwitchView.json_value_injective.list_map heq

end Values

section Texts

theorem VlanView.readable_value
    {v : VlanView}
    (hid : v.id.natAbs < Number.tooLong) :
    v.value.Readable := by
  refine .object _ (show ["vlanId", "vlanName", "ports"].Nodup by decide) ?_
  simp only [List.forall_mem_cons]
  refine ⟨.int _ hid, .text _, .object _ ?_ ?_, List.forall_mem_nil _⟩
  · rw [List.map_map]
    exact v.ports.distinct
  · rw [List.forall_mem_map]
    exact fun e _ => .text e.2

/-- The value of a view can be read if its VLAN numbers keep to the limit of digits. -/
theorem readable_viewValue
    {view : List SwitchView}
    (hids : ∀ s ∈ view, ∀ v ∈ s.vlans, v.id.natAbs < Number.tooLong) :
    (viewValue view).Readable := by
  refine .array _ (List.forall_mem_map.mpr fun s hs => ?_)
  refine .object _ (show ["switch", "name", "address", "vlans"].Nodup by decide) ?_
  simp only [List.forall_mem_cons]
  refine ⟨.text _, .text _, .text _, .array _ ?_, List.forall_mem_nil _⟩
  exact List.forall_mem_map.mpr fun v hv => VlanView.readable_value (hids s hs v hv)

/-- The text of a view is read as the value of the view and has no control characters in literals,
and no other view has the same text. -/
theorem viewText_lossless
    (view : List SwitchView)
    (hids : ∀ s ∈ view, ∀ v ∈ s.vlans, v.id.natAbs < Number.tooLong) :
    Json.read? (viewText view) = some (viewValue view).json ∧
      (∃ tokens, Json.tokens? (viewText view) = some tokens ∧
        ∀ raw, .literal raw ∈ tokens → ∀ c ∈ raw, 32 ≤ c.toNat) ∧
      ∀ other : List SwitchView,
        (∀ s ∈ other, ∀ v ∈ s.vlans, v.id.natAbs < Number.tooLong) →
          viewText other = viewText view → other = view := by
  have hreadable := readable_viewValue hids
  obtain ⟨htokens, hread⟩ := JsonValue.read?_render hreadable
  refine ⟨hread, ⟨_, htokens, fun raw hraw => ?_⟩, fun other hother heq => ?_⟩
  · exact JsonValue.clean_tokens hreadable _ hraw
  · have hreadother := (JsonValue.read?_render (readable_viewValue hother)).2
    rw [show (viewValue other).render = (viewValue view).render from heq, hread] at hreadother
    exact json_viewValue_injective (Option.some.inj hreadother).symm

/-- A view with marks and line breaks in its names, with a VLAN that has no ports and with a switch
that has no VLANs. -/
def markedView : List SwitchView :=
  [⟨"a\"b\\", "line\nbreak\x00", "10.0.0.1",
      [⟨-7, "", Table.ofList [("é", "pvid"), ("1", "tagged")]⟩, ⟨12, "guest", Table.empty⟩]⟩,
    ⟨"", "😀", "\t", []⟩]

theorem read?_viewText_markedView :
    Json.read? (viewText markedView) = some (.array [
      .object [
        ("switch", .text "a\"b\\"),
        ("name", .text "line\nbreak\x00"),
        ("address", .text "10.0.0.1"),
        ("vlans", .array [
          .object [
            ("vlanId", .int (-7)),
            ("vlanName", .text ""),
            ("ports", .object [("é", .text "pvid"), ("1", .text "tagged")])],
          .object [("vlanId", .int 12), ("vlanName", .text "guest"), ("ports", .object [])]])],
      .object [
        ("switch", .text ""),
        ("name", .text "😀"),
        ("address", .text "\t"),
        ("vlans", .array [])]]) := by
  have hsmall : ∀ i : Int, i.natAbs < Nat.pow 10 2 → i.natAbs < Number.tooLong :=
    fun i hi => Nat.lt_of_lt_of_le hi (Number.pow_le_tooLong (by decide))
  have hids : ∀ s ∈ markedView, ∀ v ∈ s.vlans, v.id.natAbs < Number.tooLong := by
    simp only [markedView, List.forall_mem_cons]
    exact ⟨⟨hsmall _ (by decide), hsmall _ (by decide), List.forall_mem_nil _⟩,
      List.forall_mem_nil _, List.forall_mem_nil _⟩
  exact (viewText_lossless markedView hids).1

end Texts

end ManagedSwitch
