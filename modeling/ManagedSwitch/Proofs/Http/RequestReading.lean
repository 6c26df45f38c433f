import ManagedSwitch.Proofs.Http.Framing
import ManagedSwitch.Proofs.Text.StrictUtf8

/-!
# Reading requests

`ofBytes?` takes the bytes of a request apart: at the first empty line, at the line ends in front of
it, the first line at its first space and at the version at its end, and every further line at its
first colon with a space behind it.

If the method has no space, the names of headers have no colon and no line of the head has a line
end in it, the request is found again; so such requests differ in their bytes
(`ofBytes?_bytes_and_unique`).
-/

namespace ManagedSwitch
namespace Request

section Reader

/-- What stands in front of an ending. -/
def withoutEnding?
    (ending bytes : Bytes) :
    Option Bytes :=
  (Text.after? ending.reverse bytes.reverse).map List.reverse

/-- The method and the path in a first line. -/
def methodAndPath? (line : Bytes) : Option (String × String) := do
  let (method, rest) ← Text.cutAtText [32] line
  let path ← withoutEnding? (Text.Utf8.encode " HTTP/1.1") rest
  return (← Text.Utf8.decode? method, ← Text.Utf8.decode? path)

/-- The name and the value in a further line. -/
def header? (line : Bytes) : Option (String × String) := do
  let (name, value) ← Text.cutAtText [58, 32] line
  return (← Text.Utf8.decode? name, ← Text.Utf8.decode? value)

/-- Reads a request. -/
def ofBytes? (bytes : Bytes) : Option Request := do
  let (head, body) ← Text.cutAtText Response.emptyLine bytes
  match Text.splitOnPair 13 10 head with
  | [] => none
  | first :: lines =>
    let (method, path) ← methodAndPath? first
    return ⟨method, path, ← lines.mapM header?, ← Text.Utf8.decode? body⟩

end Reader

section Parts

/-- The marks between the parts of a head stand in none of the parts that they end. -/
structure Separable (r : Request) : Prop where
  method : ' ' ∉ r.method.toList ∧ '\r' ∉ r.method.toList ∧ '\n' ∉ r.method.toList
  path : '\r' ∉ r.path.toList ∧ '\n' ∉ r.path.toList
  headers : ∀ h ∈ r.headers,
    (':' ∉ h.1.toList ∧ '\r' ∉ h.1.toList ∧ '\n' ∉ h.1.toList) ∧
      '\r' ∉ h.2.toList ∧ '\n' ∉ h.2.toList

/-- An ending is taken off. -/
theorem withoutEnding?_append
    (bytes ending : Bytes) :
    withoutEnding? ending (bytes ++ ending) = some bytes := by
  rw [withoutEnding?, List.reverse_append, Text.after?_append, Option.map_some,
    List.reverse_reverse]

/-- A first line whose method has no space gives its method and its path. -/
theorem methodAndPath?_firstLine
    {r : Request}
    (h : ' ' ∉ r.method.toList) :
    methodAndPath? (Text.Utf8.encode r.firstLine) = some (r.method, r.path) := by
  have hbytes :
      Text.Utf8.encode r.firstLine =
        Text.Utf8.encode r.method ++
          ([32] ++ (Text.Utf8.encode r.path ++ Text.Utf8.encode " HTTP/1.1")) := by
    have hspace : Text.Utf8.encode " " = [32] := by decide
    rw [firstLine, Text.Utf8.encode_append, Text.Utf8.encode_append, Text.Utf8.encode_append,
      hspace]
    simp only [List.append_assoc]
  have hmethod : 32 ∉ Text.Utf8.encode r.method :=
    Text.Utf8.not_mem_encode (c := ' ') (by decide) h
  rw [methodAndPath?, hbytes, Text.cutAtText_of_not_mem hmethod]
  simp [withoutEnding?_append, Text.Utf8.decode?_encode]

/-- A further line whose name has no colon gives its name and its value. -/
theorem header?_headerLine
    {h : String × String}
    (hname : ':' ∉ h.1.toList) :
    header? (Text.Utf8.encode (headerLine h)) = some h := by
  have hbytes :
      Text.Utf8.encode (headerLine h) =
        Text.Utf8.encode h.1 ++ ([58, 32] ++ Text.Utf8.encode h.2) := by
    have hcolon : Text.Utf8.encode ": " = [58, 32] := by decide
    rw [headerLine, Text.Utf8.encode_append, Text.Utf8.encode_append, hcolon, List.append_assoc]
  have hmem : 58 ∉ Text.Utf8.encode h.1 :=
    Text.Utf8.not_mem_encode (c := ':') (by decide) hname
  rw [header?, hbytes, Text.cutAtText_of_not_mem hmem]
  simp [Text.Utf8.decode?_encode]

/-- The lines of a head have no line ends in them. -/
theorem Separable.oneLine
    {r : Request}
    (h : r.Separable) :
    ∀ line ∈ r.headLines, Text.OneLine line := by
  intro line hline
  refine Text.oneLine_of_not_mem ?_
  rcases List.mem_cons.mp hline with rfl | hline
  · simp [firstLine, h.method, h.path]
  · obtain ⟨f, hf, rfl⟩ := List.mem_map.mp hline
    obtain ⟨⟨-, hname, -⟩, hvalue, -⟩ := h.headers f hf
    simp [headerLine, hname, hvalue]

end Parts

section RoundTrip

/-- A request is found again from its bytes. -/
theorem ofBytes?_bytes
    {r : Request}
    (h : r.Separable) :
    ofBytes? r.bytes = some r := by
  obtain ⟨head, hcut, hlines⟩ := framed_iff.mpr h.oneLine
  have hheaders :
      (r.headers.map fun f => Text.Utf8.encode (headerLine f)).mapM header? =
        some (r.headers.map id) :=
    Text.mapM_map_eq_some fun f hf => header?_headerLine (h.headers f hf).1.1
  rw [headLines, List.map_cons, List.map_map] at hlines
  simp only [ofBytes?, hcut, Option.bind_eq_bind, Option.bind_some, hlines, Function.comp_def,
    methodAndPath?_firstLine h.method.1, hheaders, Text.Utf8.decode?_encode, List.map_id]
  rfl

/-- A request is found again from its bytes, and no other one has them. -/
theorem ofBytes?_bytes_and_unique
    {r : Request}
    (h : r.Separable) :
    ofBytes? r.bytes = some r ∧ ∀ s : Request, s.Separable → s.bytes = r.bytes → s = r := by
  refine ⟨ofBytes?_bytes h, fun s hs hbytes => ?_⟩
  have hread := ofBytes?_bytes hs
  rw [hbytes, ofBytes?_bytes h] at hread
  exact (Option.some.inj hread).symm

/-- A request whose texts have marks in places where they separate nothing. -/
def markedRequest : Request :=
  ⟨"PUT", "/a b HTTP/1.1", [("", ""), ("Cookie", ": x"), ("Cookie", "é:\t")], "\r\n\r\nvid=1\r\n"⟩

theorem ofBytes?_markedRequest :
    markedRequest.Separable ∧ ofBytes? markedRequest.bytes = some markedRequest ∧
      ∀ s : Request, s.Separable → s.bytes = markedRequest.bytes → s = markedRequest := by
  have h : markedRequest.Separable := ⟨by decide, by decide, by decide⟩
  exact ⟨h, ofBytes?_bytes_and_unique h⟩

end RoundTrip

end Request
end ManagedSwitch
