import ManagedSwitch.Proofs.Provision.Application
import ManagedSwitch.Proofs.Text.FeedFree
import ManagedSwitch.Proofs.Text.StrictUtf8
import ManagedSwitch.Proofs.Vlan.Firmware
import ManagedSwitch.Vlan.Listing

/-!
# Reading listings

`read` takes a listing apart line by line: a line with the mark of a switch begins the part of a
batch, a line with the mark of a request opens the request, and three hyphens close it.  Everything
between the marks is the text of the request.

A listing is read as what it was written for (`read_listing`) if no line of a request can be taken
for a mark.  The lines of a head have a blank in them and the body is a form, so this is only a
question of line feeds, and the texts that are read are those on the wire
(`read_listing_compile`).
-/

namespace ManagedSwitch
namespace Listing

section Reader

/-- The lines of a text. -/
def lines (text : String) : List String :=
  (Text.splitOn '\n' text.toList).map String.ofList

/-- A text with carriage return and line feed for each line feed. -/
def withLineEnds (text : String) : String :=
  String.ofList (text.toList.flatMap fun c => if c = '\n' then ['\r', '\n'] else [c])

/-- What a listing shows of a batch: what stands behind the mark of the switch, and the texts of the
requests with their numbers. -/
structure Part where
  title : String
  requests : List (Nat × String)
deriving DecidableEq

/-- A part gives the requests for the commands of a batch, numbered from one: with line ends for its
line feeds, the text of each is the text on the wire. -/
structure Part.Gives
    (p : Part)
    (b : Batch) :
    Prop where
  title : p.title = b.switchKey ++ " (" ++ b.address ++ ")"
  numbers : p.requests.map Prod.fst = List.range' 1 b.commands.length
  texts :
    p.requests.map (fun r => some (withLineEnds r.2)) =
      b.commands.map fun c => Text.Utf8.decode? c.request.bytes

/-- What stands behind the mark of a switch. -/
def title? (line : String) : Option String :=
  (Text.after? "# Switch: ".toList line.toList).map String.ofList

/-- The number that stands behind the mark of a request. -/
def number? (line : String) : Option Nat :=
  (Text.after? "## Request ".toList line.toList).bind Number.natural?

/-- The text of a request from its lines and the empty one that a listing adds. -/
def textOf (taken : List String) : String :=
  "\n".intercalate taken.dropLast

/-- Reads lines, in an open request or between requests: the requests up to the next mark of a
switch, and the parts from there on. -/
def scan : Option (Nat × List String) → List String → List (Nat × String) × List Part
  | _, [] => ([], [])
  | some (number, taken), line :: rest =>
    if line = "---" then
      let found := scan none rest
      ((number, textOf taken) :: found.1, found.2)
    else
      scan (some (number, taken ++ [line])) rest
  | none, line :: rest =>
    match title? line, number? line with
    | some title, _ =>
      let found := scan none rest
      ([], ⟨title, found.1⟩ :: found.2)
    | none, some number => scan (some (number, [])) rest
    | none, none => scan none rest

/-- The parts of a listing. -/
def read (text : String) : List Part :=
  (scan none (lines text)).2

end Reader

section Lines

theorem lines_of_feedFree
    {line : String}
    (hline : Text.FeedFree line) :
    lines line = [line] := by
  have hsplit : Text.splitOn '\n' line.toList = [line.toList] := by
    have hpieces : ∀ p ∈ [line.toList], '\n' ∉ p :=
      List.forall_mem_singleton.mpr hline
    simpa using Text.splitOn_intercalate hpieces (List.cons_ne_nil _ _)
  rw [lines, hsplit, List.map_singleton, String.ofList_toList]

/-- Texts that are joined by line feeds have the lines of the texts. -/
theorem lines_intercalate
    {texts : List String}
    (hne : texts ≠ []) :
    lines ("\n".intercalate texts) = texts.flatMap lines := by
  have hbreak : "\n".toList = ['\n'] := rfl
  have hparts : texts.map String.toList ≠ [] := by
    simpa using hne
  rw [lines, String.toList_intercalate, hbreak, Text.splitOn_intercalate_eq_flatMap '\n' hparts,
    List.flatMap_map, List.map_flatMap]
  rfl

/-- The number of a request stands behind its mark. -/
theorem scan_mark
    (k : Nat)
    (rest : List String) :
    scan none (("## Request " ++ Number.natText k) :: rest) = scan (some (k, [])) rest := by
  have hmark : "## Request ".toList = ['#', '#', ' ', 'R', 'e', 'q', 'u', 'e', 's', 't', ' '] := rfl
  have htitle : title? ("## Request " ++ Number.natText k) = none := by
    rw [title?, String.toList_append, hmark]
    rfl
  have hnumber : number? ("## Request " ++ Number.natText k) = some k := by
    rw [number?, String.toList_append, Text.after?_append, Number.natText, String.toList_ofList]
    exact Number.natural?_digits k
  rw [scan, htitle, hnumber]

/-- A line with neither mark is skipped. -/
theorem scan_skip
    {line : String}
    (htitle : title? line = none)
    (hnumber : number? line = none)
    (rest : List String) :
    scan none (line :: rest) = scan none rest := by
  rw [scan, htitle, hnumber]

theorem scan_empty
    (rest : List String) :
    scan none ("" :: rest) = scan none rest :=
  scan_skip rfl rfl rest

/-- Lines are taken up to the mark that closes a request. -/
theorem scan_open
    (k : Nat)
    {taken ls : List String}
    (hls : "---" ∉ ls)
    (rest : List String) :
    scan (some (k, taken)) (ls ++ "---" :: rest) =
      ((k, textOf (taken ++ ls)) :: (scan none rest).1, (scan none rest).2) := by
  induction ls generalizing taken with
  | nil =>
      rw [List.nil_append, scan, if_pos rfl, List.append_nil]
  | cons line ls ih =>
      rw [List.mem_cons, not_or] at hls
      rw [List.cons_append, scan, if_neg (Ne.symm hls.1), ih hls.2, List.append_assoc]
      rfl

end Lines

end Listing

section Requests

namespace Request

/-- The text of a request for readers, without the line feed at the end. -/
def shownText (r : Request) : String :=
  "\n".intercalate (r.headLines ++ ["", r.body])

/-- No line feed stands in a line of the head or in the body, and the body is no mark. -/
structure Readable (r : Request) : Prop where
  head : ∀ line ∈ r.headLines, Text.FeedFree line
  body : Text.FeedFree r.body
  mark : r.body ≠ "---"

/-- There is a blank in every line of a head. -/
theorem ne_mark_of_mem_headLines
    {r : Request}
    {line : String}
    (hline : line ∈ r.headLines) :
    line ≠ "---" := by
  have hblank : ' ' ∈ line.toList := by
    rcases List.mem_cons.mp hline with rfl | hline
    · simp [firstLine]
    · obtain ⟨h, -, rfl⟩ := List.mem_map.mp hline
      simp [headerLine]
  rintro rfl
  exact absurd hblank (by decide)

namespace Readable

variable {r : Request}

theorem feedFree_of_mem
    (h : r.Readable)
    {line : String}
    (hline : line ∈ r.headLines ++ ["", r.body]) :
    Text.FeedFree line := by
  rcases List.mem_append.mp hline with hline | hline
  · exact h.head line hline
  · rcases List.mem_pair.mp hline with rfl | rfl
    · exact Text.FeedFree.ofChars List.not_mem_nil
    · exact h.body

/-- The lines of a readable request, and an empty one at the end. -/
theorem lines_listingText
    (h : r.Readable) :
    Listing.lines r.listingText = r.headLines ++ ["", r.body] ++ [""] := by
  have hne : r.headLines ++ ["", r.body] ≠ [] := by
    simp
  have hsplit := (Text.splitOn_lines_iff hne).mpr fun line hline => h.feedFree_of_mem hline
  rw [Listing.lines, Text.splitOn_eq, listingText, hsplit, List.map_append, List.map_map]
  simp [Function.comp_def]

theorem mark_not_mem
    (h : r.Readable) :
    "---" ∉ r.headLines ++ ["", r.body] ++ [""] := by
  have hempty : "---" ≠ "" := by
    decide
  have hhead : "---" ∉ r.headLines := fun hmem => ne_mark_of_mem_headLines hmem rfl
  simp [hhead, h.mark.symm, hempty]

/-- A listed request is read with its number. -/
theorem scan_listing
    {c : Command}
    (h : c.request.Readable)
    (k : Nat)
    (rest : List String) :
    Listing.scan none ((Command.listing (c, k)).flatMap Listing.lines ++ rest) =
      ((k, c.request.shownText) :: (Listing.scan none rest).1, (Listing.scan none rest).2) := by
  have hnumber : Text.FeedFree ("## Request " ++ Number.natText k) :=
    .append (.ofChars (by decide)) (Number.feedFree_natText k)
  have hlines :
      (Command.listing (c, k)).flatMap Listing.lines ++ rest =
        ("## Request " ++ Number.natText k) ::
          (c.request.headLines ++ ["", c.request.body] ++ [""] ++ "---" :: "" :: rest) := by
    simp only [Command.listing, List.flatMap_cons, List.flatMap_nil, h.lines_listingText,
      Listing.lines_of_feedFree hnumber, List.append_nil, List.append_assoc]
    rfl
  have htext :
      Listing.textOf ([] ++ (c.request.headLines ++ ["", c.request.body] ++ [""])) =
        c.request.shownText := by
    rw [List.nil_append, Listing.textOf, List.dropLast_concat]
    rfl
  rw [hlines, Listing.scan_mark, Listing.scan_open k h.mark_not_mem, htext, Listing.scan_empty]

end Readable

end Request

end Requests

section Wire

namespace Listing

theorem withLineEnds_append
    (s t : String) :
    withLineEnds (s ++ t) = withLineEnds s ++ withLineEnds t := by
  rw [withLineEnds, String.toList_append, List.flatMap_append, String.ofList_append]
  rfl

theorem withLineEnds_of_feedFree
    {s : String}
    (hs : Text.FeedFree s) :
    withLineEnds s = s := by
  have hchars : ∀ c ∈ s.toList, (if c = '\n' then ['\r', '\n'] else [c]) = [c] := by
    intro c hc
    rw [if_neg]
    rintro rfl
    exact hs hc
  rw [withLineEnds, List.flatMap_congr hchars, List.flatMap_singleton', String.ofList_toList]

/-- Lines that are joined by line feeds become lines that are joined by line ends. -/
theorem withLineEnds_intercalate
    {ls : List String}
    (hls : ∀ line ∈ ls, Text.FeedFree line) :
    withLineEnds ("\n".intercalate ls) = "\r\n".intercalate ls := by
  have hbreak : withLineEnds "\n" = "\r\n" := by decide
  induction ls with
  | nil =>
      rfl
  | cons line ls ih =>
      rw [List.forall_mem_cons] at hls
      cases ls with
      | nil =>
          simpa using withLineEnds_of_feedFree hls.1
      | cons next ls =>
          rw [String.intercalate_cons_cons, withLineEnds_append, withLineEnds_append,
            withLineEnds_of_feedFree hls.1, hbreak, ih hls.2, String.intercalate_cons_cons]

end Listing

namespace Request

/-- An empty line separates the head from the body on the wire. -/
theorem wireText_eq
    (r : Request) :
    r.wireText = "\r\n".intercalate (r.headLines ++ ["", r.body]) := by
  have hends : "\r\n\r\n".toList = "\r\n".toList ++ "\r\n".toList := rfl
  have hhead : r.headLines.map String.toList ≠ [] := List.cons_ne_nil _ _
  have hempty : r.headLines.map String.toList ++ ["".toList] ≠ [] :=
    List.append_ne_nil_of_left_ne_nil hhead _
  have hlines :
      (r.headLines ++ ["", r.body]).map String.toList =
        r.headLines.map String.toList ++ ["".toList] ++ [r.body.toList] := by
    simp
  rw [← String.toList_inj, wireText, String.toList_append, String.toList_append,
    String.toList_intercalate, String.toList_intercalate, hlines,
    Text.intercalate_concat _ hempty, Text.intercalate_concat _ hhead, hends]
  simp

/-- The text of a readable request becomes the text on the wire. -/
theorem Readable.decode?_bytes
    {r : Request}
    (h : r.Readable) :
    Text.Utf8.decode? r.bytes = some (Listing.withLineEnds r.shownText) := by
  have hwire : Listing.withLineEnds r.shownText = r.wireText := by
    rw [shownText, wireText_eq]
    exact Listing.withLineEnds_intercalate fun line hline => h.feedFree_of_mem hline
  rw [hwire, Text.Utf8.decode?_eq_some_iff]
  rfl

end Request

end Wire

section Batches

namespace Batch

/-- What a listing shows of a batch. -/
def part (b : Batch) : Listing.Part :=
  ⟨b.switchKey ++ " (" ++ b.address ++ ")",
    (b.commands.zipIdx 1).map fun c => (c.2, c.1.request.shownText)⟩

/-- No line feed stands in the texts of a batch, and its requests are readable. -/
structure Readable (b : Batch) : Prop where
  switchKey : Text.FeedFree b.switchKey
  address : Text.FeedFree b.address
  commands : ∀ c ∈ b.commands, c.request.Readable

/-- The requests are numbered from one. -/
theorem map_fst_requests_part
    (b : Batch) :
    b.part.requests.map Prod.fst = List.range' 1 b.commands.length := by
  rw [part, List.map_map]
  exact List.zipIdx_map_snd 1 b.commands

/-- There is one text for each command, in order. -/
theorem map_snd_requests_part
    (b : Batch) :
    b.part.requests.map Prod.snd = b.commands.map fun c => c.request.shownText := by
  have hcommands : (b.commands.zipIdx 1).map Prod.fst = b.commands := List.zipIdx_map_fst 1 _
  have htexts := congrArg (List.map fun c : Command => c.request.shownText) hcommands
  rw [List.map_map] at htexts
  rw [part, List.map_map]
  exact htexts

/-- The part of a readable batch gives its requests. -/
theorem Readable.gives_part
    {b : Batch}
    (h : b.Readable) :
    b.part.Gives b where
  title := rfl
  numbers := b.map_fst_requests_part
  texts := by
    have hwire :
        ∀ c ∈ b.commands,
          some (Listing.withLineEnds c.request.shownText) = Text.Utf8.decode? c.request.bytes :=
      fun c hc => (h.commands c hc).decode?_bytes.symm
    calc b.part.requests.map (fun r => some (Listing.withLineEnds r.2))
        = (b.part.requests.map Prod.snd).map fun text => some (Listing.withLineEnds text) := by
          rw [List.map_map]
          rfl
      _ = b.commands.map fun c => some (Listing.withLineEnds c.request.shownText) := by
          rw [b.map_snd_requests_part, List.map_map]
          rfl
      _ = b.commands.map fun c => Text.Utf8.decode? c.request.bytes :=
          List.map_congr_left hwire

end Batch

namespace Listing

/-- The requests of a batch are read with numbers in a row. -/
theorem scan_commands
    {cs : List Command}
    (hcs : ∀ c ∈ cs, c.request.Readable)
    (k : Nat)
    (rest : List String) :
    scan none (((cs.zipIdx k).flatMap Command.listing).flatMap lines ++ rest) =
      ((cs.zipIdx k).map (fun c => (c.2, c.1.request.shownText)) ++ (scan none rest).1,
        (scan none rest).2) := by
  induction cs generalizing k with
  | nil =>
      rfl
  | cons c cs ih =>
      rw [List.forall_mem_cons] at hcs
      rw [List.zipIdx_cons, List.flatMap_cons, List.flatMap_append, List.append_assoc,
        hcs.1.scan_listing, ih hcs.2, List.map_cons, List.cons_append]

/-- The line with the number of requests has neither mark. -/
theorem scan_count
    (n : Nat)
    (note : String)
    (rest : List String) :
    scan none (("# " ++ Number.natText n ++ note) :: rest) = scan none rest := by
  have hswitch : "# Switch: ".toList = ['#', ' ', 'S', 'w', 'i', 't', 'c', 'h', ':', ' '] := rfl
  have hrequest : "## Request ".toList = ['#', '#', ' ', 'R', 'e', 'q', 'u', 'e', 's', 't', ' '] :=
    rfl
  obtain ⟨d, ds, hds⟩ : ∃ d ds, Number.digits n = d :: ds :=
    List.exists_cons_of_ne_nil (Number.digitsOnto_ne_nil n [])
  have hdigit : d.isDigit = true := by
    have hmem : d ∈ Number.digits n := hds ▸ List.mem_cons_self
    exact Number.isDigit_of_mem_digits hmem
  -- Only its third character tells the line from one with the mark of a switch.
  have hne : ('S' == d) = false := by
    rw [beq_eq_false_iff_ne]
    rintro rfl
    exact absurd hdigit (by decide)
  have hline :
      ("# " ++ Number.natText n ++ note).toList = '#' :: ' ' :: d :: (ds ++ note.toList) := by
    have hmark : "# ".toList = ['#', ' '] := rfl
    rw [String.toList_append, String.toList_append, hmark, Number.natText, String.toList_ofList,
      hds]
    rfl
  refine scan_skip ?_ ?_ rest
  · simp [title?, hline, hswitch, Text.after?, hne]
  · simp [number?, hline, hrequest, Text.after?]

/-- A listed batch is read as one part; the requests that follow in front of the next mark would
belong to it. -/
theorem scan_batch
    {b : Batch}
    (h : b.Readable)
    (rest : List String) :
    scan none (b.listing.flatMap lines ++ rest) =
      ([], ⟨b.part.title, b.part.requests ++ (scan none rest).1⟩ :: (scan none rest).2) := by
  have hcount : Text.FeedFree ("# " ++ Number.natText b.commands.length ++
      " configuration requests (VLAN membership + PVID)") :=
    .append (.append (.ofChars (by decide)) (Number.feedFree_natText _)) (.ofChars (by decide))
  have htitle :
      Text.FeedFree ("# Switch: " ++ b.switchKey ++ " (" ++ b.address ++ ")") :=
    .append (.append (.append (.append (.ofChars (by decide)) h.switchKey) (.ofChars (by decide)))
      h.address) (.ofChars (by decide))
  have hmark :
      title? ("# Switch: " ++ b.switchKey ++ " (" ++ b.address ++ ")") = some b.part.title := by
    have hassoc :
        "# Switch: " ++ b.switchKey ++ " (" ++ b.address ++ ")" = "# Switch: " ++ b.part.title := by
      simp only [Batch.part, String.append_assoc]
    rw [hassoc, title?, String.toList_append, Text.after?_append, Option.map_some,
      String.ofList_toList]
  have hlines :
      b.listing.flatMap lines ++ rest =
        ("# Switch: " ++ b.switchKey ++ " (" ++ b.address ++ ")") ::
          ("# " ++ Number.natText b.commands.length ++
            " configuration requests (VLAN membership + PVID)") :: "" ::
          (((b.commands.zipIdx 1).flatMap Command.listing).flatMap lines ++ rest) := by
    rw [Batch.listing, List.flatMap_append, List.flatMap_cons, List.flatMap_cons,
      lines_of_feedFree htitle, lines_of_feedFree hcount, List.append_assoc]
    rfl
  rw [hlines, scan, hmark, scan_count, scan_empty, scan_commands h.commands]
  rfl

/-- Batches are read one after the other. -/
theorem scan_batches
    {batches : List Batch}
    (h : ∀ b ∈ batches, b.Readable) :
    scan none ((batches.flatMap Batch.listing).flatMap lines) = ([], batches.map Batch.part) := by
  induction batches with
  | nil =>
      rfl
  | cons b batches ih =>
      rw [List.forall_mem_cons] at h
      rw [List.flatMap_cons, List.flatMap_append, scan_batch h.1, ih h.2, List.append_nil,
        List.map_cons]

/-- A listing of readable batches is read as what it was written for. -/
theorem read_listing
    {batches : List Batch}
    (h : ∀ b ∈ batches, b.Readable) :
    read (listing batches) = batches.map Batch.part := by
  cases batches with
  | nil =>
      rfl
  | cons b batches =>
      have hne : (b :: batches).flatMap Batch.listing ≠ [] :=
        List.cons_ne_nil _ _
      rw [read, listing, lines_intercalate hne, scan_batches h]

end Listing

end Batches

section Configurations

namespace Form

theorem feedFree_percentEncode
    (s : String) :
    Text.FeedFree (Text.percentEncode s) :=
  fun hmem => absurd (Text.mem_percentEncode hmem) (by decide)

/-- Numbers and encoded names have no line feeds. -/
theorem feedFree_membership
    (id : Int)
    (name : String)
    {codes : List String}
    (hcodes : ∀ c ∈ codes, Text.FeedFree c) :
    Text.FeedFree (membership id name codes) := by
  refine .intercalate (.ofChars (by decide)) ?_
  simp only [List.forall_mem_cons, List.forall_mem_map]
  refine ⟨.append (.ofChars (by decide)) (Number.feedFree_text id),
    .append (.ofChars (by decide)) (feedFree_percentEncode name), fun c hc => ?_⟩
  exact .append (.append (.append (.ofChars (by decide)) (Number.feedFree_natText _))
    (.ofChars (by decide))) (hcodes c.1 (List.fst_mem_of_mem_zipIdx hc))

theorem feedFree_untagged
    (port id : Int) :
    Text.FeedFree (untagged port id) := by
  refine .intercalate (.ofChars (by decide)) ?_
  simp only [List.forall_mem_cons]
  exact ⟨.append (.ofChars (by decide)) (Number.feedFree_text port),
    .append (.ofChars (by decide)) (Number.feedFree_text id), .ofChars (by decide),
    List.forall_mem_nil _⟩

/-- A posted form is readable if its address, its cookie and its body have no line feeds. -/
theorem readable_post
    {path address cookie body : String}
    (hpath : Text.FeedFree path)
    (haddress : Text.FeedFree address)
    (hcookie : Text.FeedFree cookie)
    (hbody : Text.FeedFree body)
    (hmark : body ≠ "---") :
    (post path address cookie body).Readable where
  head := by
    have hfirst : Text.FeedFree ("POST" ++ " " ++ path ++ " HTTP/1.1") :=
      .append (.append (.append (.ofChars (by decide)) (.ofChars (by decide))) hpath)
        (.ofChars (by decide))
    have hheader :
        ∀ {name value : String}, Text.FeedFree name → Text.FeedFree value →
          Text.FeedFree (Request.headerLine (name, value)) :=
      fun hname hvalue => .append (.append hname (.ofChars (by decide))) hvalue
    simp only [Request.headLines, post, headers, List.map_cons, List.map_nil,
      List.forall_mem_cons]
    exact ⟨hfirst, hheader (.ofChars (by decide)) haddress,
      hheader (.ofChars (by decide)) (.ofChars (by decide)),
      hheader (.ofChars (by decide)) (.ofChars (by decide)),
      hheader (.ofChars (by decide)) hcookie,
      hheader (.ofChars (by decide)) (Number.feedFree_natText _),
      hheader (.ofChars (by decide)) (.ofChars (by decide)), List.forall_mem_nil _⟩
  body := hbody
  mark := hmark

end Form

/-- No line feed stands in the texts of a switch that get into requests and listings. -/
structure Switch.FeedFree (s : Switch) : Prop where
  key : Text.FeedFree s.key
  address : Text.FeedFree s.address
  user : ∀ auth, s.auth = some auth → Text.FeedFree auth.user
  response : ∀ auth, s.auth = some auth → Text.FeedFree auth.response

namespace Config

variable (config : Config) {switch : Switch}

/-- The own cookie of a switch, or none. -/
theorem feedFree_cookieFor_empty
    (h : switch.FeedFree) :
    Text.FeedFree (cookieFor Table.empty switch) := by
  have hown : cookieFor Table.empty switch = switch.cookie.toOption.getD "" := rfl
  have hempty : Text.FeedFree "" := by
    decide
  rw [hown, Switch.cookie]
  cases hauth : switch.auth with
  | none =>
      exact hempty
  | some auth =>
      by_cases htype : auth.type = supportedAuth
      · simp only [if_pos htype]
        exact .append (.append (h.user auth hauth) (.ofChars (by decide))) (h.response auth hauth)
      · simp only [if_neg htype]
        exact hempty

/-- The forms of a batch are readable whatever the names of the VLANs are. -/
theorem readable_batch
    (h : switch.FeedFree)
    {cookie : String}
    (hcookie : Text.FeedFree cookie) :
    (config.batch switch cookie).Readable where
  switchKey := h.key
  address := h.address
  commands := by
    intro c hc
    rcases List.mem_append.mp hc with hc | hc
    · obtain ⟨e, -, rfl⟩ := List.mem_map.mp hc
      have hform := config.membershipForm?_codes switch e.1 e.2
      have hcodes : ∀ code ∈ config.codes switch e.1, Text.FeedFree code := by
        rw [codes_eq_map_portCode]
        intro code hcode
        obtain ⟨n, -, rfl⟩ := List.mem_map.mp hcode
        exact Number.feedFree_natText n
      refine Form.readable_post (.ofChars (by decide)) h.address hcookie
        (Form.feedFree_membership e.1 e.2 hcodes) fun hmark => ?_
      rw [hmark] at hform
      exact nomatch hform
    · rw [untaggedCommands_eq] at hc
      obtain ⟨w, -, rfl⟩ := List.mem_map.mp hc
      have hform := Form.untaggedForm?_untagged w.1 w.2
      refine Form.readable_post (.ofChars (by decide)) h.address hcookie
        (Form.feedFree_untagged w.1 w.2) fun hmark => ?_
      rw [hmark] at hform
      exact nomatch hform

/-- The listing of a compiled configuration is read as one part for each batch, in order, that gives
the requests of the batch. -/
theorem read_listing_compile
    {config : Config}
    (h : ∀ s ∈ config.switches.values, s.FeedFree) :
    List.Forall₂ Listing.Part.Gives
      (Listing.read (listing (config.compile Table.empty).batches))
      (config.compile Table.empty).batches := by
  have hreadable : ∀ b ∈ (config.compile Table.empty).batches, b.Readable := by
    intro b hb
    obtain ⟨s, hs, rfl⟩ := List.mem_map.mp hb
    exact config.readable_batch (h s hs) (feedFree_cookieFor_empty (h s hs))
  rw [Listing.read_listing hreadable, List.forall₂_map_left_iff, List.forall₂_same]
  exact fun b hb => (hreadable b hb).gives_part

/-- A configuration whose VLAN has marks of a listing in its name. -/
def markedConfig : Config where
  vlans := ⟨[(10, "data\n---\n\n## Request 2\n")], by simp⟩
  templates := Table.empty
  switches := ⟨[("a", firstSwitch)], by simp⟩

theorem read_listing_markedConfig :
    (∀ s ∈ markedConfig.switches.values, s.FeedFree) ∧
      List.Forall₂ Listing.Part.Gives
        (Listing.read (listing (markedConfig.compile Table.empty).batches))
        (markedConfig.compile Table.empty).batches := by
  have hfree : ∀ s ∈ markedConfig.switches.values, s.FeedFree := by
    refine List.forall_mem_singleton.mpr ⟨by decide, by decide, ?_, ?_⟩
    · rintro auth ⟨⟩
      decide
    · rintro auth ⟨⟩
      decide
  exact ⟨hfree, read_listing_compile hfree⟩

end Config

end Configurations

end ManagedSwitch
