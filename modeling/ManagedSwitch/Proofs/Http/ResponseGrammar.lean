import ManagedSwitch.Http.Response
import ManagedSwitch.Proofs.Number.Decimal
import ManagedSwitch.Proofs.Number.Scripts
import ManagedSwitch.Proofs.Table
import ManagedSwitch.Proofs.Text.Latin1
import ManagedSwitch.Proofs.Text.Lines
import ManagedSwitch.Proofs.Text.Replacement

/-!
# The grammar of responses

Which byte strings are responses is said of the bytes: there is an empty line, and the first line in
front of it has a status.  What a response says is said of the bytes as well: the status and the
reason of the first line, for every name the value of the last field with this name, and the body
with its faulty parts replaced.

Bytes say one thing at most (`Describes.unique`).  The reader accepts exactly the responses and gives
what they say; of other byte strings it gives the fault that they have (`read_follows_grammar`).
-/

namespace ManagedSwitch
namespace Response

open Text (byteChar)

section Grammar

/-- The byte of a decimal digit. -/
def digitByte (d : Fin 10) : UInt8 :=
  UInt8.ofNat (48 + d)

/-- A first line with a status: the version with one digit, the three digits of the status, and the
reason, behind which one line feed may stand. -/
def StatusLine
    (line : Bytes)
    (status : Nat)
    (reason : Bytes) :
    Prop :=
  ∃ (minor a b c : Fin 10) (ending : Bytes),
    line = Text.Utf8.encode "HTTP/1." ++ digitByte minor :: 32 ::
      digitByte a :: digitByte b :: digitByte c :: 32 :: (reason ++ ending) ∧
    status = 100 * (a : Nat) + 10 * b + c ∧ 10 ∉ reason ∧ (ending = [] ∨ ending = [10])

/-- A further line with a field: its first colon is not its first byte, in front of it stands the
name, which counts in lower case, behind it the value, and both count without white space at their
ends. -/
def FieldLine
    (line : Bytes)
    (name value : String) :
    Prop :=
  ∃ before after front back,
    line = before ++ 58 :: after ∧ 58 ∉ before ∧ before ≠ [] ∧
      Text.Trimmed Text.isBlankByte before front ∧ Text.Trimmed Text.isBlankByte after back ∧
      name = Text.ofLatin1 (front.map Text.lowerByte) ∧ value = Text.ofLatin1 back

/-- The last of the lines with a field of this name gives this value. -/
def LastField
    (lines : List Bytes)
    (name value : String) :
    Prop :=
  ∃ before line after, lines = before ++ line :: after ∧ FieldLine line name value ∧
    ∀ l ∈ after, ∀ v, ¬ FieldLine l name v

/-- The lines in front of the first empty line, and the body behind it. -/
structure Parts (bytes first : Bytes) (lines : List Bytes) (body : Bytes) : Prop where
  cut : Text.CutsFirst emptyLine bytes ([13, 10].intercalate (first :: lines)) body
  unbroken : ∀ l ∈ first :: lines, Text.Unbroken 13 10 l

/-- There is an empty line, and the first line has a status. -/
def IsResponse (bytes : Bytes) : Prop :=
  ∃ first lines body, Parts bytes first lines body ∧ ∃ status reason, StatusLine first status reason

/-- What bytes say as a response. -/
def Describes
    (bytes : Bytes)
    (r : Response) :
    Prop :=
  ∃ first lines body reason, Parts bytes first lines body ∧
    StatusLine first r.status reason ∧ r.statusText = Text.ofLatin1 reason ∧
    (∀ name value, r.headers.get? name = some value ↔ LastField lines name value) ∧
    Text.Utf8.Replaces body r.body.toList

/-- Why bytes are no response. -/
inductive Explains (bytes : Bytes) : Fault → Prop
  | noEmptyLine
      (h : ¬ emptyLine <:+: bytes) :
      Explains bytes (.noEmptyLine bytes.length (bytes.take 200))
  | noStatus
      {first : Bytes}
      {lines : List Bytes}
      {body : Bytes}
      (hparts : Parts bytes first lines body)
      (h : ∀ status reason, ¬ StatusLine first status reason) :
      Explains bytes (.noStatus (Text.ofLatin1 first))

end Grammar

section FirstLines

theorem byteChar_digitByte :
    ∀ d, byteChar (digitByte d) = Number.digitChar d := by
  decide

/-- The digits of ASCII are the characters that are written for the numbers below ten. -/
theorem isDigit_iff
    {c : Char} :
    c.isDigit = true ↔ ∃ d : Fin 10, c = Number.digitChar d := by
  constructor
  · intro hc
    obtain ⟨hlow, hhigh⟩ := Text.toNat_of_isDigit hc
    refine ⟨⟨c.toNat - 48, by omega⟩, ?_⟩
    rw [Number.digitChar, Nat.add_sub_cancel' hlow, Char.ofNat_toNat]
  · rintro ⟨d, rfl⟩
    revert d
    decide

theorem toNat_digitChar :
    ∀ d : Fin 10, (Number.digitChar d).toNat = 48 + d := by
  decide

/-- Three digits and a space. -/
theorem statusDigits?_eq_some_iff
    {cs rest : List Char}
    {status : Nat} :
    statusDigits? cs = some (status, rest) ↔
      ∃ a b c : Fin 10, cs = Number.digitChar a :: Number.digitChar b :: Number.digitChar c ::
        ' ' :: rest ∧ status = 100 * (a : Nat) + 10 * b + c := by
  constructor
  · intro hdigits
    rw [statusDigits?.eq_def] at hdigits
    split at hdigits
    · split at hdigits
      · next hall =>
          simp only [Bool.and_eq_true, isDigit_iff] at hall
          obtain ⟨⟨⟨a, rfl⟩, b, rfl⟩, c, rfl⟩ := hall
          cases hdigits
          refine ⟨a, b, c, rfl, ?_⟩
          simp only [toNat_digitChar]
          omega
      · cases hdigits
    · cases hdigits
  · rintro ⟨a, b, c, rfl, rfl⟩
    have hall : ∀ d : Fin 10, (Number.digitChar d).isDigit = true := by decide
    rw [statusDigits?, hall, hall, hall, if_pos (by decide)]
    simp only [toNat_digitChar, Option.some.injEq, Prod.mk.injEq, and_true]
    omega

theorem withoutFinalBreak_concat
    (cs : List Char)
    (c : Char) :
    withoutFinalBreak (cs ++ [c]) = if c = '\n' then cs else cs ++ [c] := by
  rw [withoutFinalBreak, List.getLast?_concat]
  split
  · next heq =>
      rw [if_pos (Option.some.inj heq), List.dropLast_concat]
  · next hne =>
      rw [if_neg fun heq => hne (by rw [heq])]

/-- One line feed is taken off the end. -/
theorem withoutFinalBreak_eq_iff
    {cs reason : List Char}
    (hreason : '\n' ∉ reason) :
    withoutFinalBreak cs = reason ↔
      ∃ ending, cs = reason ++ ending ∧ (ending = [] ∨ ending = ['\n']) := by
  constructor
  · rintro rfl
    rcases List.eq_nil_or_concat' cs with rfl | ⟨ds, c, rfl⟩
    · exact ⟨[], rfl, Or.inl rfl⟩
    · rw [withoutFinalBreak_concat]
      split
      · next heq =>
          exact ⟨['\n'], by rw [heq], Or.inr rfl⟩
      · exact ⟨[], (List.append_nil _).symm, Or.inl rfl⟩
  · rintro ⟨ending, rfl, rfl | rfl⟩
    · rw [List.append_nil]
      rcases List.eq_nil_or_concat' reason with rfl | ⟨ds, c, rfl⟩
      · rfl
      · have hc : c ≠ '\n' := by
          rintro rfl
          exact hreason (List.mem_append_right ds (List.mem_singleton_self _))
        rw [withoutFinalBreak_concat, if_neg hc]
    · rw [withoutFinalBreak_concat, if_pos rfl]

/-- The version, the digits of the status and the reason. -/
theorem statusLine?_eq_some_iff
    {line reason : List Char}
    {status : Nat} :
    statusLine? line = some (status, reason) ↔
      ∃ (minor a b c : Fin 10) (ending : List Char),
        line = "HTTP/1.".toList ++ Number.digitChar minor :: ' ' :: Number.digitChar a ::
          Number.digitChar b :: Number.digitChar c :: ' ' :: (reason ++ ending) ∧
        status = 100 * (a : Nat) + 10 * b + c ∧ '\n' ∉ reason ∧ (ending = [] ∨ ending = ['\n']) := by
  constructor
  · intro hline
    rw [statusLine?.eq_def] at hline
    split at hline
    · next minor rest hafter =>
        split at hline
        · next hminor =>
            obtain ⟨⟨number, behind⟩, hdigits, hreason⟩ := Option.bind_eq_some_iff.mp hline
            obtain ⟨m, rfl⟩ := isDigit_iff.mp hminor
            obtain ⟨a, b, c, rfl, rfl⟩ := statusDigits?_eq_some_iff.mp hdigits
            simp only [List.contains_eq_mem, decide_eq_true_eq] at hreason
            split at hreason
            · cases hreason
            · next hfeed =>
                cases hreason
                obtain ⟨ending, hbehind, hending⟩ := (withoutFinalBreak_eq_iff hfeed).mp rfl
                refine ⟨m, a, b, c, ending, ?_, rfl, hfeed, hending⟩
                rw [← hbehind]
                exact Text.after?_eq_some_iff.mp hafter
        · cases hline
    · cases hline
  · rintro ⟨m, a, b, c, ending, rfl, rfl, hfeed, hending⟩
    have hdigits :
        statusDigits? (Number.digitChar a :: Number.digitChar b :: Number.digitChar c :: ' ' ::
          (reason ++ ending)) = some ((100 * a + 10 * b + c : Nat), reason ++ ending) :=
      statusDigits?_eq_some_iff.mpr ⟨a, b, c, rfl, rfl⟩
    have hreason : withoutFinalBreak (reason ++ ending) = reason :=
      (withoutFinalBreak_eq_iff hfeed).mpr ⟨ending, rfl, hending⟩
    rw [statusLine?, Text.after?_append]
    simp [isDigit_iff.mpr ⟨m, rfl⟩, hdigits, hreason, hfeed]

/-- A first line is read as a status and a reason exactly if its bytes say so. -/
theorem statusLine?_map_iff
    {line : Bytes}
    {status : Nat}
    {reason : List Char} :
    statusLine? (line.map byteChar) = some (status, reason) ↔
      ∃ bytes, StatusLine line status bytes ∧ reason = bytes.map byteChar := by
  have hversion : "HTTP/1.".toList = (Text.Utf8.encode "HTTP/1.").map byteChar := by decide
  have hspace : byteChar 32 = ' ' := by decide
  have hfeed : byteChar 10 = '\n' := by decide
  have hinj : Function.Injective (List.map byteChar) :=
    List.map_injective_iff.mpr Text.byteChar_injective
  rw [statusLine?_eq_some_iff]
  constructor
  · rintro ⟨minor, a, b, c, ending, hline, hstatus, hreason, hending⟩
    -- The reason and the ending are the end of a text in Latin-1, and so in Latin-1 themselves.
    have hend : (line.drop 13).map byteChar = reason ++ ending := by
      rw [List.map_drop, hline]
      rfl
    obtain ⟨bytes, ends, -, rfl, rfl⟩ := List.map_eq_append_iff.mp hend
    refine ⟨bytes, ⟨minor, a, b, c, ends, hinj ?_, hstatus, ?_, ?_⟩, rfl⟩
    · simpa [byteChar_digitByte, hspace, ← hversion] using hline
    · rw [← hfeed, List.mem_map_of_injective Text.byteChar_injective] at hreason
      exact hreason
    · refine hending.imp (fun h => hinj h) fun h => hinj ?_
      rw [h, List.map_singleton, hfeed]
  · rintro ⟨bytes, ⟨minor, a, b, c, ends, rfl, hstatus, hreason, hending⟩, rfl⟩
    refine ⟨minor, a, b, c, ends.map byteChar, ?_, hstatus, ?_, ?_⟩
    · simp [byteChar_digitByte, hspace, hversion]
    · rwa [← hfeed, List.mem_map_of_injective Text.byteChar_injective]
    · rcases hending with rfl | rfl
      · exact Or.inl rfl
      · exact Or.inr (by rw [List.map_singleton, hfeed])

end FirstLines

section FurtherLines

/-- A further line is read as a name and a value exactly if its bytes say so. -/
theorem headerLine?_map_iff
    {line : Bytes}
    {name value : String} :
    headerLine? (line.map byteChar) = some (name, value) ↔ FieldLine line name value := by
  have hcolon : byteChar 58 = ':' := by decide
  have htrim :
      ∀ bs, String.ofList (Text.trimBy Text.isBlank (bs.map byteChar)) =
        Text.strip (Text.ofLatin1 bs) := by
    intro bs
    rw [Text.strip, Text.toList_ofLatin1]
  constructor
  · intro hline
    rw [headerLine?] at hline
    split at hline
    · next front back hcut =>
        obtain ⟨hparts, hfront⟩ := Text.cutAt_eq_some_iff.mp hcut
        obtain ⟨before, rest, rfl, rfl, hrest⟩ := List.map_eq_append_iff.mp hparts
        obtain ⟨colon, after, rfl, hbyte, rfl⟩ := List.map_eq_cons_iff.mp hrest
        cases Text.byteChar_injective (hbyte.trans hcolon.symm)
        rw [← hcolon, List.mem_map_of_injective Text.byteChar_injective] at hfront
        split at hline
        · cases hline
        · next hne =>
            rw [htrim, htrim] at hline
            have hname := Text.trimmed_rdropWhile_dropWhile Text.isBlankByte before
            have hvalue := Text.trimmed_rdropWhile_dropWhile Text.isBlankByte after
            rw [Text.strip_ofLatin1 hname, Text.strip_ofLatin1 hvalue, Text.lower_ofLatin1] at hline
            cases hline
            exact ⟨before, after, _, _, rfl, hfront, by simpa using hne, hname, hvalue, rfl, rfl⟩
    · cases hline
  · rintro ⟨before, after, front, back, rfl, hmem, hne, hname, hvalue, rfl, rfl⟩
    have hcut :
        Text.cutAt ':' ((before ++ 58 :: after).map byteChar) =
          some (before.map byteChar, after.map byteChar) := by
      rw [Text.cutAt_eq_some_iff]
      refine ⟨by simp [hcolon], ?_⟩
      rwa [← hcolon, List.mem_map_of_injective Text.byteChar_injective]
    rw [headerLine?, hcut]
    simp only [htrim, Text.strip_ofLatin1 hname, Text.strip_ofLatin1 hvalue, Text.lower_ofLatin1]
    simp [hne]

/-- The table of the fields has for every name the value of the last field with this name. -/
theorem get?_fields_iff
    {lines : List Bytes}
    {name value : String} :
    (Table.ofList (lines.filterMap fun l => headerLine? (l.map byteChar))).get? name =
      some value ↔ LastField lines name value := by
  rw [Table.get?_eq_some_iff, Table.mem_entries_ofList_iff, Table.isLast_filterMap_iff]
  simp only [LastField, ne_eq, headerLine?_map_iff]

end FurtherLines

section Heads

/-- The lines of a head are what it is cut into. -/
theorem parts_iff
    {bytes first body : Bytes}
    {lines : List Bytes} :
    Parts bytes first lines body ↔
      ∃ head, Text.cutAtText emptyLine bytes = some (head, body) ∧
        Text.splitOnPair 13 10 head = first :: lines := by
  have hne : (13 : UInt8) ≠ 10 := by decide
  constructor
  · intro h
    exact ⟨_, Text.cutAtText_eq_some_iff.mpr h.cut,
      Text.splitOnPair_intercalate hne (List.cons_ne_nil first lines) h.unbroken⟩
  · rintro ⟨head, hcut, hlines⟩
    obtain ⟨-, hjoin, hunbroken⟩ := (Text.splitOnPair_eq_iff hne).mp hlines
    refine ⟨?_, hunbroken⟩
    rw [hjoin]
    exact Text.cutsFirst_of_cutAtText hcut

/-- A byte string has one head and one body. -/
theorem Parts.unique
    {bytes first body first' body' : Bytes}
    {lines lines' : List Bytes}
    (h : Parts bytes first lines body)
    (h' : Parts bytes first' lines' body') :
    first = first' ∧ lines = lines' ∧ body = body' := by
  obtain ⟨head, hcut, hlines⟩ := parts_iff.mp h
  obtain ⟨head', hcut', hlines'⟩ := parts_iff.mp h'
  rw [hcut] at hcut'
  cases hcut'
  rw [hlines] at hlines'
  cases hlines'
  exact ⟨rfl, rfl, rfl⟩

/-- With an empty line there are a head and a body. -/
theorem exists_parts
    {bytes : Bytes}
    (h : emptyLine <:+: bytes) :
    ∃ first lines body, Parts bytes first lines body := by
  cases hcut : Text.cutAtText emptyLine bytes with
  | none =>
      exact absurd h (Text.cutAtText_eq_none_iff.mp hcut)
  | some cut =>
      obtain ⟨head, body⟩ := cut
      obtain ⟨first, lines, hlines⟩ :=
        List.exists_cons_of_ne_nil (Text.splitOnPair_ne_nil (a := (13 : UInt8)) (b := 10) head)
      exact ⟨first, lines, body, parts_iff.mpr ⟨head, hcut, hlines⟩⟩

/-- Without an empty line nothing is read. -/
theorem read_of_not_infix
    {bytes : Bytes}
    (h : ¬ emptyLine <:+: bytes) :
    read bytes = .error (.noEmptyLine bytes.length (bytes.take 200)) := by
  rw [read, Text.cutAtText_eq_none_iff.mpr h]

/-- With an empty line, the first line decides. -/
theorem Parts.read_eq
    {bytes first body : Bytes}
    {lines : List Bytes}
    (h : Parts bytes first lines body) :
    read bytes =
      match statusLine? (first.map byteChar) with
      | none => .error (.noStatus (Text.ofLatin1 first))
      | some (status, reason) =>
        .ok ⟨status, String.ofList reason,
          Table.ofList (lines.filterMap fun l => headerLine? (l.map byteChar)),
          Text.Utf8.decode body⟩ := by
  obtain ⟨head, hcut, hlines⟩ := parts_iff.mp h
  have hchars :
      Text.splitOnPair '\r' '\n' (head.map byteChar) =
        first.map byteChar :: lines.map (List.map byteChar) := by
    have hmap := Text.splitOnPair_map (a := (13 : UInt8)) (b := 10) Text.byteChar_injective head
    rw [hlines] at hmap
    exact hmap
  have hread : (head.map fun b => Char.ofNat b.toNat) = head.map byteChar := rfl
  rw [read, hcut]
  simp only [hread, hchars, List.filterMap_map]
  rfl

end Heads

section Reading

/-- Responses are read, and what is read is what they say. -/
theorem Parts.describes
    {bytes first body reason : Bytes}
    {lines : List Bytes}
    {status : Nat}
    (h : Parts bytes first lines body)
    (hstatus : StatusLine first status reason) :
    ∃ r, read bytes = .ok r ∧ Describes bytes r := by
  have hfirst := statusLine?_map_iff.mpr ⟨reason, hstatus, rfl⟩
  refine ⟨_, by rw [h.read_eq, hfirst], first, lines, body, reason, h, hstatus, rfl, ?_, ?_⟩
  · exact fun name value => get?_fields_iff
  · rw [Text.Utf8.replaces_iff, Text.Utf8.decode, String.toList_ofList]

/-- Bytes say one thing: the status, the reason, the value of every header and the body are
determined. -/
theorem Describes.unique
    {bytes : Bytes}
    {r s : Response}
    (hr : Describes bytes r)
    (hs : Describes bytes s) :
    r.status = s.status ∧ r.statusText = s.statusText ∧
      (∀ name, r.headers.get? name = s.headers.get? name) ∧ r.body = s.body := by
  obtain ⟨first, lines, body, reason, hparts, hline, htext, hheaders, hbody⟩ := hr
  obtain ⟨first', lines', body', reason', hparts', hline', htext', hheaders', hbody'⟩ := hs
  obtain ⟨rfl, rfl, rfl⟩ := hparts.unique hparts'
  have hfirst := statusLine?_map_iff.mpr ⟨reason, hline, rfl⟩
  rw [statusLine?_map_iff.mpr ⟨reason', hline', rfl⟩, Option.some.injEq, Prod.mk.injEq] at hfirst
  obtain ⟨hstatus, hreason⟩ := hfirst
  refine ⟨hstatus.symm, ?_, fun name => Option.ext fun value => ?_, ?_⟩
  · rw [htext, htext']
    exact congrArg String.ofList hreason.symm
  · rw [hheaders, hheaders']
  · rw [Text.Utf8.replaces_iff] at hbody hbody'
    exact String.toList_inj.mp (hbody.symm.trans hbody')

/-- What is no response has a fault. -/
theorem explains_of_not_isResponse
    {bytes : Bytes}
    (h : ¬ IsResponse bytes) :
    ∃ fault, read bytes = .error fault ∧ Explains bytes fault := by
  by_cases hempty : emptyLine <:+: bytes
  · obtain ⟨first, lines, body, hparts⟩ := exists_parts hempty
    have hno : ∀ status reason, ¬ StatusLine first status reason :=
      fun status reason hstatus => h ⟨first, lines, body, hparts, status, reason, hstatus⟩
    have hfirst : statusLine? (first.map byteChar) = none := by
      refine Option.eq_none_iff_forall_ne_some.mpr fun found hfound => ?_
      obtain ⟨reason, hstatus, -⟩ := statusLine?_map_iff.mp hfound
      exact hno _ reason hstatus
    exact ⟨_, by rw [hparts.read_eq, hfirst], .noStatus hparts hno⟩
  · exact ⟨_, read_of_not_infix hempty, .noEmptyLine hempty⟩

/-- A response is read from a byte string exactly if its head has a status; what is read is what the
bytes say, and of other bytes it is said why they are no response. -/
theorem read_follows_grammar
    (bytes : Bytes) :
    ((∃ r, read bytes = .ok r) ↔ IsResponse bytes) ∧
      (∀ r, read bytes = .ok r → Describes bytes r) ∧
      ∀ fault, read bytes = .error fault → Explains bytes fault := by
  by_cases h : IsResponse bytes
  · obtain ⟨first, lines, body, hparts, status, reason, hstatus⟩ := h
    obtain ⟨r, hread, hr⟩ := hparts.describes hstatus
    refine ⟨iff_of_true ⟨r, hread⟩ ⟨first, lines, body, hparts, status, reason, hstatus⟩, ?_, ?_⟩
    · intro s hs
      rw [hread] at hs
      cases hs
      exact hr
    · intro fault hfault
      rw [hread] at hfault
      cases hfault
  · obtain ⟨fault, hread, hfault⟩ := explains_of_not_isResponse h
    refine ⟨iff_of_false ?_ h, ?_, ?_⟩
    · rintro ⟨r, hr⟩
      rw [hread] at hr
      cases hr
    · intro r hr
      rw [hread] at hr
      cases hr
    · intro other hother
      rw [hread] at hother
      cases hother
      exact hfault

end Reading

end Response
end ManagedSwitch
