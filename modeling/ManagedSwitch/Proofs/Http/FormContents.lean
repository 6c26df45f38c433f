import Mathlib.Data.List.Nodup
import Std.Data.String.ToInt
import ManagedSwitch.Proofs.Http.FormReading
import ManagedSwitch.Proofs.Text.StrictUtf8

/-!
# What forms carry

The fields of the two forms of the firmware, in order, with their names and with what their values
are read as: numbers in decimal, texts percent-encoded.  The names of the fields are distinct for
any number of ports.

Nothing is lost on the way into a form (`forms_lossless`): names of VLANs are encoded part by part
into characters that separate nothing, and every form has exactly the fields of what it was written
for.
-/

namespace ManagedSwitch
namespace Form

section Contents

/-- A way to write texts of which nothing is lost: with escaped characters only, part by part,
leaving alone what needs no escape, and so that decoding gives the text back. -/
structure Lossless (write : String → String) : Prop where
  escaped : ∀ s, Text.Escaped (write s).toList
  eq_self : ∀ s, (∀ c ∈ s.toList, Text.Unreserved c) → write s = s
  append : ∀ s t, write (s ++ t) = write s ++ write t
  decodes : ∀ s, Text.Utf8.decode? (Text.percentBytes (write s).toList) = some s

/-- The name of the field of a port. -/
def portName (n : Nat) : String :=
  "vlanPort_" ++ n.repr

/-- The text of a code. -/
def codeText (c : Fin 3) : String :=
  c.val.repr

/-- The fields of the form for a VLAN: its number, its name, and the codes of the ports. -/
structure CarriesMembership
    (fields : List Field)
    (id : Int)
    (name : String)
    (codes : List (Fin 3)) :
    Prop where
  length_eq : fields.length = 2 + codes.length
  names_eq : fields.map Prod.fst = "vid" :: "name" :: (List.range codes.length).map portName
  nodup : (fields.map Prod.fst).Nodup
  values_eq : ∃ idText nameText codeTexts,
    fields.map Prod.snd = idText :: nameText :: codeTexts ∧
      idText.toInt? = some id ∧
      Text.Utf8.decode? (Text.percentBytes nameText.toList) = some name ∧
      codeTexts.map String.toNat? = codes.map fun c => some c.val

/-- The fields of the form for a port: its number, and the VLAN of its untagged frames. -/
structure CarriesUntagged
    (fields : List Field)
    (port id : Int) :
    Prop where
  names_eq : fields.map Prod.fst = ["ports", "pvid", "vlan_accept_frame_type"]
  values_eq : ∃ portText idText, fields.map Prod.snd = [portText, idText, "0"] ∧
    portText.toInt? = some port ∧ idText.toInt? = some id

end Contents

section Names

theorem portName_injective :
    Function.Injective portName := by
  intro m n heq
  have hchars := congrArg String.toList heq
  rw [portName, portName, String.toList_append, String.toList_append] at hchars
  have hrepr := String.toList_inj.mp (List.append_cancel_left hchars)
  rw [← Number.natText_eq_repr, ← Number.natText_eq_repr] at hrepr
  exact Number.natText_injective hrepr

/-- A name that does not begin like the names of ports is none of them. -/
theorem ne_portName
    {name : String}
    (h : Text.after? "vlanPort_".toList name.toList = none)
    (n : Nat) :
    name ≠ portName n := by
  rintro rfl
  rw [portName, String.toList_append, Text.after?_append] at h
  cases h

/-- The fields of the form for a VLAN have distinct names. -/
theorem nodup_names
    (n : Nat) :
    ("vid" :: "name" :: (List.range n).map portName).Nodup := by
  have hports : ∀ {name}, Text.after? "vlanPort_".toList name.toList = none →
      name ∉ (List.range n).map portName := by
    intro name h hmem
    obtain ⟨k, -, heq⟩ := List.mem_map.mp hmem
    exact ne_portName h k heq.symm
  have hvid : "vid" ∉ "name" :: (List.range n).map portName := by
    rw [List.mem_cons, not_or]
    exact ⟨by decide, hports (by decide)⟩
  have hname : "name" ∉ (List.range n).map portName :=
    hports (by decide)
  have hrange : ((List.range n).map portName).Nodup :=
    (List.nodup_map_iff portName_injective).mpr List.nodup_range
  exact List.nodup_cons.mpr ⟨hvid, List.nodup_cons.mpr ⟨hname, hrange⟩⟩

end Names

section Losslessness

theorem lossless_percentEncode :
    Lossless Text.percentEncode where
  escaped := Text.escaped_percentEncode
  eq_self _ := Text.percentEncode_eq_self
  append := Text.percentEncode_append
  decodes s := by
    rw [Text.percentBytes_percentEncode, Text.Utf8.decode?_encode]

/-- The text of a number is read as the number. -/
theorem toInt?_text
    (i : Int) :
    (Number.text i).toInt? = some i := by
  rw [Number.text_eq_repr, Int.toInt?_repr]

/-- The form for a VLAN has the fields for its number, its name and the codes. -/
theorem exists_carriesMembership
    (id : Int)
    (name : String)
    (codes : List (Fin 3)) :
    ∃ fields, fields? (membership id name (codes.map codeText)) = some fields ∧
      CarriesMembership fields id name codes := by
  have hplain : ∀ c ∈ codes.map codeText, Plain c := by
    intro c hc
    obtain ⟨d, -, rfl⟩ := List.mem_map.mp hc
    rw [codeText, ← Number.natText_eq_repr]
    exact plain_natText d
  refine ⟨_, fields?_membership id name hplain, ?_⟩
  have hnames :
      (("vid", Number.text id) :: ("name", Text.percentEncode name) ::
        (codes.map codeText).zipIdx.map
          fun c => ("vlanPort_" ++ Number.natText c.2, c.1)).map Prod.fst =
        "vid" :: "name" :: (List.range codes.length).map portName := by
    have hports :
        ((codes.map codeText).zipIdx.map Prod.snd).map portName =
          (List.range codes.length).map portName := by
      rw [List.zipIdx_map_snd, List.length_map, List.range_eq_range']
    rw [List.map_cons, List.map_cons, List.map_map, ← hports, List.map_map]
    simp only [Function.comp_def, portName, Number.natText_eq_repr]
  constructor
  · simp only [List.length_cons, List.length_map, List.length_zipIdx]
    omega
  · exact hnames
  · rw [hnames]
    exact nodup_names codes.length
  · refine ⟨Number.text id, Text.percentEncode name, codes.map codeText, ?_,
      toInt?_text id, lossless_percentEncode.decodes name, ?_⟩
    · rw [List.map_cons, List.map_cons, List.map_map]
      exact congrArg _ (congrArg _ (List.zipIdx_map_fst 0 _))
    · rw [List.map_map]
      exact List.map_congr_left fun c _ => Nat.toNat?_repr c.val

/-- The form for a port has the fields for its number and its VLAN. -/
theorem exists_carriesUntagged
    (port id : Int) :
    ∃ fields, fields? (untagged port id) = some fields ∧ CarriesUntagged fields port id :=
  ⟨_, fields?_untagged port id, rfl, _, _, rfl, toInt?_text port, toInt?_text id⟩

end Losslessness

end Form
end ManagedSwitch
