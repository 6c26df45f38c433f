import ManagedSwitch.Http.Form
import ManagedSwitch.Http.Response
import ManagedSwitch.Proofs.Number.Decimal
import ManagedSwitch.Proofs.Text.Lines

/-!
# Reading requests back

A request is framed if its bytes, cut at their first empty line, give its body and, in front of it,
the lines of its head and no others.  That is so exactly if no line of the head has a line end in
it; of a posted form it is the address and the cookie that decide.
-/

namespace ManagedSwitch

namespace Request

section Definition

/-- The bytes in front of the first empty line are the lines of the head, those behind it the
body. -/
def Framed (r : Request) : Prop :=
  ∃ head, Text.cutAtText Response.emptyLine r.bytes = some (head, Text.Utf8.encode r.body) ∧
    Text.splitOnPair 13 10 head = r.headLines.map Text.Utf8.encode

end Definition

section Bytes

/-- The bytes of the head, of an empty line and of the body. -/
theorem bytes_eq
    (r : Request) :
    r.bytes =
      [13, 10].intercalate (r.headLines.map Text.Utf8.encode) ++
        13 :: 10 :: 13 :: 10 :: Text.Utf8.encode r.body := by
  have hbreak : Text.Utf8.encode "\r\n" = [13, 10] := by decide
  have hempty : Text.Utf8.encode "\r\n\r\n" = [13, 10, 13, 10] := by decide
  rw [bytes, wireText, Text.Utf8.encode_append, Text.Utf8.encode_append,
    Text.Utf8.encode_intercalate, hbreak, hempty, List.append_assoc]
  rfl

/-- A text with something in it has bytes. -/
theorem encode_append_ne_nil
    {s t : String}
    {c : Char}
    (hc : c ∈ s.toList) :
    Text.Utf8.encode (s ++ t) ≠ [] := by
  obtain ⟨before, after, hs⟩ := List.append_of_mem hc
  obtain ⟨byte, bytes, hbytes, -⟩ := Text.Utf8.step_charBytes c []
  rw [Text.Utf8.encode_append, Text.Utf8.encode, hs, Text.Utf8.encodeChars_append,
    Text.Utf8.encodeChars_cons, hbytes]
  simp

/-- No line of a head is empty. -/
theorem encode_ne_nil_of_mem_headLines
    {r : Request}
    {line : String}
    (hline : line ∈ r.headLines) :
    Text.Utf8.encode line ≠ [] := by
  rcases List.mem_cons.mp hline with rfl | hline
  · have hspace : ' ' ∈ (r.method ++ " " ++ r.path).toList := by
      simp
    exact encode_append_ne_nil hspace
  · obtain ⟨h, -, rfl⟩ := List.mem_map.mp hline
    have hspace : ' ' ∈ (h.1 ++ ": ").toList := by
      simp
    exact encode_append_ne_nil hspace

/-- A request is framed exactly if no line of its head has a line end in it. -/
theorem framed_iff
    {r : Request} :
    r.Framed ↔ ∀ line ∈ r.headLines, Text.OneLine line := by
  have hne : (13 : UInt8) ≠ 10 := by decide
  have hnil : r.headLines.map Text.Utf8.encode ≠ [] := List.cons_ne_nil _ _
  constructor
  · rintro ⟨head, -, hlines⟩ line hline
    have hpiece : Text.Utf8.encode line ∈ Text.splitOnPair 13 10 head := by
      rw [hlines]
      exact List.mem_map_of_mem hline
    exact Text.unbroken_encode_iff.mp (Text.unbroken_of_mem_splitOnPair hpiece)
  · intro h
    have hlines :
        ∀ l ∈ r.headLines.map Text.Utf8.encode, l ≠ [] ∧ Text.Unbroken 13 10 l := by
      intro l hl
      obtain ⟨line, hline, rfl⟩ := List.mem_map.mp hl
      exact ⟨encode_ne_nil_of_mem_headLines hline, Text.unbroken_encode_iff.mpr (h line hline)⟩
    refine ⟨[13, 10].intercalate (r.headLines.map Text.Utf8.encode), ?_, ?_⟩
    · rw [bytes_eq]
      exact Text.cutAtText_intercalate hne hnil hlines _
    · exact Text.splitOnPair_intercalate hne hnil fun l hl => (hlines l hl).2

end Bytes

end Request

namespace Form

section Posts

theorem oneLine_natText
    (n : Nat) :
    Text.OneLine (Number.natText n) := by
  refine Text.oneLine_of_not_mem fun hmem => ?_
  rw [Number.natText, String.toList_ofList] at hmem
  exact absurd (Number.isDigit_of_mem_digits hmem) (by decide)

/-- A posted form is framed exactly if its address and its cookie have no line end in them. -/
theorem framed_post_iff
    {path address cookie body : String}
    (hpath : '\r' ∉ path.toList) :
    (post path address cookie body).Framed ↔ Text.OneLine address ∧ Text.OneLine cookie := by
  have hfirst : Text.OneLine (post path address cookie body).firstLine := by
    refine Text.oneLine_of_not_mem ?_
    simp [Request.firstLine, post, hpath]
  have hagent : Text.OneLine userAgent :=
    Text.oneLine_of_not_mem (by decide)
  have haccept : Text.OneLine "*/*" :=
    Text.oneLine_of_not_mem (by decide)
  have hlength : Text.OneLine (Number.natText (Text.Utf8.size body)) :=
    oneLine_natText (Text.Utf8.size body)
  have htype : Text.OneLine "application/x-www-form-urlencoded" :=
    Text.oneLine_of_not_mem (by decide)
  have hvalue :
      ∀ {name value : String}, '\r' ∉ (name ++ ": ").toList →
        (Text.OneLine (Request.headerLine (name, value)) ↔ Text.OneLine value) :=
    fun hname => Text.oneLine_append_iff_right hname
  rw [Request.framed_iff, Request.headLines, List.forall_mem_cons, and_iff_right hfirst]
  simp only [post, headers, List.map_cons, List.map_nil, List.forall_mem_cons]
  rw [hvalue (by decide), hvalue (by decide), hvalue (by decide), hvalue (by decide),
    hvalue (by decide), hvalue (by decide)]
  constructor
  · rintro ⟨haddress, -, -, hcookie, -⟩
    exact ⟨haddress, hcookie⟩
  · rintro ⟨haddress, hcookie⟩
    exact ⟨haddress, hagent, haccept, hcookie, hlength, htype, List.forall_mem_nil _⟩

end Posts

end Form
end ManagedSwitch
