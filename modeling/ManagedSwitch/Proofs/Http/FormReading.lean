import ManagedSwitch.Http.Form
import ManagedSwitch.Proofs.Number.Decimal
import ManagedSwitch.Proofs.Text.Percent
import ManagedSwitch.Proofs.Text.Split

/-!
# Reading forms

`fields?` takes a form apart at ampersands and equality signs, and `membershipForm?` and
`untaggedForm?` read the two forms of the firmware.  The number of a port comes from the name of its
field, not from the place of the field in the form.

Every form that is written is read back: `fields?_membership` and `fields?_untagged` give the
fields, `membershipForm?_membership` and `untaggedForm?_untagged` what they say.
-/

namespace ManagedSwitch
namespace Form

section Readers

/-- Name and value. -/
abbrev Field := String × String

/-- The name and the value in a piece with one equality sign. -/
def fieldOf? (piece : List Char) : Option Field :=
  match Text.splitOn '=' piece with
  | [name, value] => some (String.ofList name, String.ofList value)
  | _ => none

/-- The fields between ampersands. -/
def fields? (body : String) : Option (List Field) :=
  (Text.splitOn '&' body.toList).mapM fieldOf?

/-- What the form for a VLAN says: its number, its name, and codes for numbers of ports. -/
structure MembershipForm where
  id : Int
  name : String
  codes : List (Nat × Nat)

/-- The number of a port and its code. -/
def portCode? (field : Field) : Option (Nat × Nat) := do
  let digits ← Text.after? "vlanPort_".toList field.1.toList
  let port ← Number.natural? digits
  let code ← Number.natural? field.2.toList
  return (port, code)

/-- Reads the form for a VLAN. -/
def membershipForm? (body : String) : Option MembershipForm := do
  match ← fields? body with
  | ("vid", id) :: ("name", name) :: ports =>
    let id ← Number.integer? id.toList
    let codes ← ports.mapM portCode?
    return ⟨id, Text.percentDecode name, codes⟩
  | _ => none

/-- What the form for a port says: its number and the VLAN of its untagged frames. -/
structure UntaggedForm where
  port : Nat
  id : Int

/-- Reads the form for a port. -/
def untaggedForm? (body : String) : Option UntaggedForm := do
  match ← fields? body with
  | [("ports", port), ("pvid", id), ("vlan_accept_frame_type", _)] =>
    let port ← Number.natural? port.toList
    let id ← Number.integer? id.toList
    return ⟨port, id⟩
  | _ => none

end Readers

section Fields

/-- A text that no mark of a form occurs in. -/
def Plain (s : String) : Prop :=
  '&' ∉ s.toList ∧ '=' ∉ s.toList

instance Plain.instDecidable (s : String) : Decidable (Plain s) :=
  inferInstanceAs (Decidable (_ ∧ _))

/-- A field as it is written. -/
def written (f : Field) : String :=
  f.1 ++ "=" ++ f.2

theorem plain_of_isUnreserved
    {s : String}
    (h : ∀ c ∈ s.toList, c = '%' ∨ Text.isUnreserved c = true) :
    Plain s := by
  constructor
  · intro hmem
    exact absurd (h _ hmem) (by decide)
  · intro hmem
    exact absurd (h _ hmem) (by decide)

theorem plain_percentEncode
    (s : String) :
    Plain (Text.percentEncode s) :=
  plain_of_isUnreserved fun _ hc => Text.mem_percentEncode hc

theorem plain_text
    (i : Int) :
    Plain (Number.text i) := by
  constructor <;>
  · intro hmem
    rw [Number.text, String.toList_ofList] at hmem
    rcases Number.mem_chars hmem with h | h
    · exact absurd h (by decide)
    · exact absurd h (by decide)

theorem plain_natText
    (n : Nat) :
    Plain (Number.natText n) :=
  plain_text (Int.ofNat n)

theorem Plain.append
    {s t : String}
    (hs : Plain s)
    (ht : Plain t) :
    Plain (s ++ t) := by
  simp only [Plain, String.toList_append, List.mem_append, not_or]
  exact ⟨⟨hs.1, ht.1⟩, hs.2, ht.2⟩

/-- A written field is read back. -/
theorem fieldOf?_written
    {f : Field}
    (hname : Plain f.1)
    (hvalue : Plain f.2) :
    fieldOf? (written f).toList = some f := by
  have hjoin : (written f).toList = ['='].intercalate [f.1.toList, f.2.toList] := by
    simp [written, List.intercalate]
  have hsplit : Text.splitOn '=' (written f).toList = [f.1.toList, f.2.toList] := by
    rw [hjoin]
    refine Text.splitOn_intercalate ?_ (List.cons_ne_nil _ _)
    simpa using ⟨hname.2, hvalue.2⟩
  simp [fieldOf?, hsplit]

/-- Fields that are written one after the other are read back. -/
theorem fields?_join
    {fs : List Field}
    (hplain : ∀ f ∈ fs, Plain f.1 ∧ Plain f.2)
    (hne : fs ≠ []) :
    fields? (join (fs.map written)) = some fs := by
  have hjoin :
      (join (fs.map written)).toList = ['&'].intercalate (fs.map fun f => (written f).toList) := by
    simp [join, Function.comp_def]
  have hsplit :
      Text.splitOn '&' (join (fs.map written)).toList = fs.map fun f => (written f).toList := by
    rw [hjoin]
    refine Text.splitOn_intercalate ?_ (by simpa using hne)
    intro p hp
    obtain ⟨f, hf, rfl⟩ := List.mem_map.mp hp
    obtain ⟨hname, hvalue⟩ := hplain f hf
    simp only [written, String.toList_append, List.mem_append, not_or]
    exact ⟨⟨hname.1, by decide⟩, hvalue.1⟩
  have hread : (fs.map fun f => (written f).toList).mapM fieldOf? = some (fs.map id) :=
    Text.mapM_map_eq_some fun f hf => fieldOf?_written (hplain f hf).1 (hplain f hf).2
  rw [fields?, hsplit, hread, List.map_id]

end Fields

section Forms

/-- The fields of the form for a VLAN. -/
theorem fields?_membership
    (id : Int)
    (name : String)
    {codes : List String}
    (hcodes : ∀ c ∈ codes, Plain c) :
    fields? (membership id name codes) =
      some (("vid", Number.text id) :: ("name", Text.percentEncode name) ::
        codes.zipIdx.map fun c => ("vlanPort_" ++ Number.natText c.2, c.1)) := by
  have hbody :
      membership id name codes =
        join ((("vid", Number.text id) :: ("name", Text.percentEncode name) ::
          codes.zipIdx.map fun c => ("vlanPort_" ++ Number.natText c.2, c.1)).map written) := by
    have hvid : "vid=" = "vid" ++ "=" := by decide
    have hname : "name=" = "name" ++ "=" := by decide
    rw [membership, hvid, hname, List.map_cons, List.map_cons, List.map_map]
    rfl
  rw [hbody]
  refine fields?_join ?_ (List.cons_ne_nil _ _)
  intro f hf
  have hvid : Plain "vid" := by decide
  have hname : Plain "name" := by decide
  have hport : Plain "vlanPort_" := by decide
  rcases List.mem_cons.mp hf with rfl | hf
  · exact ⟨hvid, plain_text id⟩
  rcases List.mem_cons.mp hf with rfl | hf
  · exact ⟨hname, plain_percentEncode name⟩
  obtain ⟨c, hc, rfl⟩ := List.mem_map.mp hf
  exact ⟨hport.append (plain_natText c.2), hcodes c.1 (List.fst_mem_of_mem_zipIdx hc)⟩

/-- The fields of the form for a port. -/
theorem fields?_untagged
    (port id : Int) :
    fields? (untagged port id) =
      some [("ports", Number.text port), ("pvid", Number.text id),
        ("vlan_accept_frame_type", "0")] := by
  have hbody :
      untagged port id =
        join ([("ports", Number.text port), ("pvid", Number.text id),
          ("vlan_accept_frame_type", "0")].map written) := by
    have hports : "ports=" = "ports" ++ "=" := by decide
    have hpvid : "pvid=" = "pvid" ++ "=" := by decide
    have htype : "vlan_accept_frame_type=0" = "vlan_accept_frame_type" ++ "=" ++ "0" := by decide
    rw [untagged, hports, hpvid, htype]
    rfl
  rw [hbody]
  refine fields?_join ?_ (List.cons_ne_nil _ _)
  intro f hf
  have hports : Plain "ports" := by decide
  have hpvid : Plain "pvid" := by decide
  have htype : Plain "vlan_accept_frame_type" ∧ Plain "0" := by decide
  simp only [List.mem_cons, List.not_mem_nil, or_false] at hf
  rcases hf with rfl | rfl | rfl
  · exact ⟨hports, plain_text port⟩
  · exact ⟨hpvid, plain_text id⟩
  · exact htype

/-- The field of a port is read as its number and its code. -/
theorem portCode?_written
    (port code : Nat) :
    portCode? ("vlanPort_" ++ Number.natText port, Number.natText code) = some (port, code) := by
  rw [portCode?, String.toList_append, Text.after?_append]
  simp [Number.natText]

/-- The form for a VLAN says what it was written for. -/
theorem membershipForm?_membership
    (id : Int)
    (name : String)
    (codes : List Nat) :
    membershipForm? (membership id name (codes.map Number.natText)) =
      some ⟨id, name, codes.zipIdx.map Prod.swap⟩ := by
  have hplain : ∀ c ∈ codes.map Number.natText, Plain c := by
    intro c hc
    obtain ⟨n, _, rfl⟩ := List.mem_map.mp hc
    exact plain_natText n
  have hports :
      (((codes.map Number.natText).zipIdx.map
        fun c => ("vlanPort_" ++ Number.natText c.2, c.1)).mapM portCode?) =
          some (codes.zipIdx.map Prod.swap) := by
    rw [List.zipIdx_map, List.map_map]
    exact Text.mapM_map_eq_some fun c _ => portCode?_written c.2 c.1
  simp [membershipForm?, fields?_membership id name hplain, hports, Number.text,
    Text.percentDecode_percentEncode]

/-- The form for a port says what it was written for. -/
theorem untaggedForm?_untagged
    (port : Nat)
    (id : Int) :
    untaggedForm? (untagged port id) = some ⟨port, id⟩ := by
  have hport : Number.chars (port : Int) = Number.digits port := rfl
  simp [untaggedForm?, fields?_untagged, Number.text, hport]

end Forms

end Form
end ManagedSwitch
