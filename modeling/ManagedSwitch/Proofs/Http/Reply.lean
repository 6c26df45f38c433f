import ManagedSwitch.Proofs.Http.ResponseGrammar

/-!
# Replies of servers

A reply is a response as a server writes it: a first line with version, status and reason, a line
for each header, an empty line, and the body in UTF-8.  Its texts have no line ends except in the
body, which may be any text.

Reading undoes writing: what is read from the bytes of a reply are its status, its reason, its body,
and the table of its headers (`read_bytes`).
-/

namespace ManagedSwitch

section Definitions

/-- A text that may stand in a line: it is in Latin-1 and has neither carriage return nor line
feed. -/
structure InLine (s : String) : Prop where
  latin1 : Text.IsLatin1 s
  no_return : '\r' ∉ s.toList
  no_feed : '\n' ∉ s.toList

/-- A response as a server writes it. -/
structure Reply where
  minor : Fin 10
  status : Fin 1000
  reason : String
  headers : List (String × String)
  body : String
  reason_inLine : InLine reason
  headers_inLine : ∀ h ∈ headers, h.1 ≠ "" ∧ ':' ∉ h.1.toList ∧ InLine h.1 ∧ InLine h.2

instance Reply.instInhabited : Inhabited Reply :=
  ⟨1, 200, "OK", [], "", ⟨by decide, by decide, by decide⟩, nofun⟩

end Definitions

namespace Reply

open Response (digitByte)

section Writing

/-- The hundreds, the tens and the ones of a status. -/
def statusDigits (status : Fin 1000) : Fin 10 × Fin 10 × Fin 10 :=
  (⟨status / 100, by omega⟩, ⟨status / 10 % 10, by omega⟩, ⟨status % 10, by omega⟩)

def statusBytes (status : Fin 1000) : Bytes :=
  let (hundreds, tens, ones) := statusDigits status
  [digitByte hundreds, digitByte tens, digitByte ones]

def firstLine (r : Reply) : Bytes :=
  Text.Utf8.encode "HTTP/1." ++ digitByte r.minor :: 32 ::
    (statusBytes r.status ++ 32 :: Text.toLatin1 r.reason)

/-- The line of a header, with any number of spaces behind the colon. -/
def headerLine
    (spaces : Nat)
    (h : String × String) :
    Bytes :=
  Text.toLatin1 h.1 ++ 58 :: (List.replicate spaces 32 ++ Text.toLatin1 h.2)

/-- Every line of the head and an empty line behind them end in carriage return and line feed. -/
def bytes
    (r : Reply)
    (spaces : Nat) :
    Bytes :=
  (r.firstLine :: r.headers.map (headerLine spaces)).flatMap (fun l => l ++ [13, 10]) ++
    13 :: 10 :: Text.Utf8.encode r.body

end Writing

section Lines

/-- Lines that all have an end are lines with ends between them and one more. -/
theorem flatMap_append_pair
    {α : Type}
    (a b : α)
    {lines : List (List α)}
    (hne : lines ≠ []) :
    lines.flatMap (fun l => l ++ [a, b]) = [a, b].intercalate lines ++ [a, b] := by
  induction lines with
  | nil =>
      exact absurd rfl hne
  | cons l lines ih =>
      cases lines with
      | nil =>
          simp
      | cons l' lines =>
          rw [List.flatMap_cons, ih (List.cons_ne_nil l' lines), List.intercalate_cons_cons]
          simp

/-- A text for a line has no carriage return among its bytes. -/
theorem not_mem_toLatin1
    {s : String}
    (h : InLine s) :
    13 ∉ Text.toLatin1 s :=
  fun hmem => h.no_return (Text.mem_toLatin1 h.latin1 hmem)

theorem not_mem_digitByte :
    ∀ d, 13 ≠ digitByte d := by
  decide

theorem not_mem_firstLine
    (r : Reply) :
    13 ∉ r.firstLine := by
  have hversion : 13 ∉ Text.Utf8.encode "HTTP/1." := by decide
  have hspace : (13 : UInt8) ≠ 32 := by decide
  simp [firstLine, statusBytes, hversion, hspace, not_mem_digitByte,
    not_mem_toLatin1 r.reason_inLine]

theorem not_mem_headerLine
    {spaces : Nat}
    {h : String × String}
    (hname : InLine h.1)
    (hvalue : InLine h.2) :
    13 ∉ headerLine spaces h := by
  have hcolon : (13 : UInt8) ≠ 58 := by decide
  have hspace : (13 : UInt8) ≠ 32 := by decide
  simp [headerLine, hcolon, hspace, not_mem_toLatin1 hname, not_mem_toLatin1 hvalue]

/-- The head and the body of a reply are those of its bytes. -/
theorem parts_bytes
    (r : Reply)
    (spaces : Nat) :
    Response.Parts (r.bytes spaces) r.firstLine (r.headers.map (headerLine spaces))
      (Text.Utf8.encode r.body) := by
  have hne : (13 : UInt8) ≠ 10 := by decide
  have hnil : r.firstLine :: r.headers.map (headerLine spaces) ≠ [] := List.cons_ne_nil _ _
  have hreturn :
      ∀ l ∈ r.firstLine :: r.headers.map (headerLine spaces), l ≠ [] ∧ 13 ∉ l := by
    intro l hl
    rcases List.mem_cons.mp hl with rfl | hl
    · exact ⟨by simp [firstLine], r.not_mem_firstLine⟩
    · obtain ⟨h, hh, rfl⟩ := List.mem_map.mp hl
      obtain ⟨-, -, hname, hvalue⟩ := r.headers_inLine h hh
      exact ⟨by simp [headerLine], not_mem_headerLine hname hvalue⟩
  rw [Response.parts_iff]
  refine ⟨[13, 10].intercalate (r.firstLine :: r.headers.map (headerLine spaces)), ?_, ?_⟩
  · rw [bytes, flatMap_append_pair 13 10 hnil, List.append_assoc]
    exact Text.cutAtText_intercalate hne hnil
      (fun l hl => ⟨(hreturn l hl).1, Text.unbroken_of_not_mem (hreturn l hl).2⟩) _
  · exact Text.splitOnPair_intercalate hne hnil
      fun l hl => Text.unbroken_of_not_mem (hreturn l hl).2

end Lines

section Reading

/-- The first line of a reply has its status and its reason. -/
theorem statusLine_firstLine
    (r : Reply) :
    Response.StatusLine r.firstLine r.status (Text.toLatin1 r.reason) := by
  have hstatus :
      (r.status : Nat) =
        100 * (statusDigits r.status).1 + 10 * (statusDigits r.status).2.1 +
          (statusDigits r.status).2.2 := by
    simp only [statusDigits]
    omega
  refine ⟨r.minor, _, _, _, [], ?_, hstatus, ?_, Or.inl rfl⟩
  · rw [firstLine, List.append_nil]
    rfl
  · exact fun hmem => r.reason_inLine.no_feed (Text.mem_toLatin1 r.reason_inLine.latin1 hmem)

/-- The line of a header has its name and its value. -/
theorem fieldLine_headerLine
    {spaces : Nat}
    {h : String × String}
    (hne : h.1 ≠ "")
    (hcolon : ':' ∉ h.1.toList)
    (hname : InLine h.1)
    (hvalue : InLine h.2) :
    Response.FieldLine (headerLine spaces h) (Text.lower (Text.strip h.1)) (Text.strip h.2) := by
  have hblank : ∀ b ∈ List.replicate spaces (32 : UInt8), Text.isBlankByte b = true := by
    intro b hb
    rw [List.eq_of_mem_replicate hb]
    rfl
  have hfront := Text.trimmed_rdropWhile_dropWhile Text.isBlankByte (Text.toLatin1 h.1)
  have hback := Text.trimmed_rdropWhile_dropWhile Text.isBlankByte (Text.toLatin1 h.2)
  refine ⟨_, _, _, _, rfl, ?_, ?_, hfront, hback.append_left hblank, ?_, ?_⟩
  · exact fun hmem => hcolon (Text.mem_toLatin1 hname.latin1 hmem)
  · simpa [Text.toLatin1] using hne
  · rw [← Text.lower_ofLatin1, ← Text.strip_ofLatin1 hfront, Text.ofLatin1_toLatin1 hname.latin1]
  · rw [← Text.strip_ofLatin1 hback, Text.ofLatin1_toLatin1 hvalue.latin1]

/-- From the bytes of a reply are read its status, its reason, its body, and its headers, of which
the last of a name counts. -/
theorem read_bytes
    (r : Reply)
    (spaces : Nat) :
    Response.read (r.bytes spaces) =
      .ok ⟨r.status, r.reason,
        Table.ofList (r.headers.map fun h => (Text.lower (Text.strip h.1), Text.strip h.2)),
        r.body⟩ := by
  have hfirst :
      Response.statusLine? (r.firstLine.map Text.byteChar) =
        some ((r.status : Nat), (Text.toLatin1 r.reason).map Text.byteChar) :=
    Response.statusLine?_map_iff.mpr ⟨_, r.statusLine_firstLine, rfl⟩
  have hreason : String.ofList ((Text.toLatin1 r.reason).map Text.byteChar) = r.reason :=
    Text.ofLatin1_toLatin1 r.reason_inLine.latin1
  have hheaders :
      ((r.headers.map (headerLine spaces)).filterMap
        fun l => Response.headerLine? (l.map Text.byteChar)) =
          r.headers.map fun h => (Text.lower (Text.strip h.1), Text.strip h.2) := by
    have hline :
        ∀ h ∈ r.headers, Response.headerLine? ((headerLine spaces h).map Text.byteChar) =
          some (Text.lower (Text.strip h.1), Text.strip h.2) := by
      intro h hh
      obtain ⟨hne, hcolon, hname, hvalue⟩ := r.headers_inLine h hh
      exact Response.headerLine?_map_iff.mpr (fieldLine_headerLine hne hcolon hname hvalue)
    rw [List.filterMap_map]
    exact (List.filterMap_congr hline).trans (congrFun List.filterMap_eq_map _)
  rw [(r.parts_bytes spaces).read_eq, hfirst]
  simp only [hreason, hheaders, Text.Utf8.decode_encode]

end Reading

end Reply
end ManagedSwitch
