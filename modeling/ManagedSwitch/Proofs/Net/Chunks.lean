import ManagedSwitch.Proofs.Net.Stillness

/-!
# Answers and chunks

The bytes of an answer may arrive in chunks of any sizes, and long chunks are read in pieces.  As
long as no step consumes time, it makes no difference where they are cut (`call_of_delivers`): what
is read is what was delivered in front of the end of the stream (`received_of_delivers`).
-/

namespace ManagedSwitch

section Pieces

theorem flatten_pieces
    (chunk : Bytes) :
    (pieces chunk).flatten = chunk := by
  fun_induction pieces chunk with
  | case1 chunk hshort =>
      exact List.flatten_singleton
  | case2 chunk hlong ih =>
      rw [List.flatten_cons, ih, List.take_append_drop]

/-- A piece without bytes would be taken for the end of the stream. -/
theorem ne_nil_of_mem_pieces
    {chunk piece : Bytes}
    (hchunk : chunk ≠ [])
    (hpiece : piece ∈ pieces chunk) :
    piece ≠ [] := by
  fun_induction pieces chunk with
  | case1 chunk hshort =>
      rwa [List.mem_singleton.mp hpiece]
  | case2 chunk hlong ih =>
      have hdrop : chunk.drop readSize ≠ [] :=
        fun h => hlong (List.drop_eq_nil_iff.mp h)
      obtain rfl | hrest := List.mem_cons.mp hpiece
      · rw [Ne, List.take_eq_nil_iff, not_or]
        exact ⟨nofun, hchunk⟩
      · exact ih hdrop hrest

end Pieces

namespace Client

section Deliveries

variable {τ : Type}

/-- Arrivals deliver bytes in chunks, with waits that go well, up to the end of the stream. -/
inductive Delivers : List (Arrival τ) → Bytes → Prop
  | nil :
      Delivers [] []
  /-- A chunk without bytes is the end of the stream. -/
  | empty (rest : List (Arrival τ)) :
      Delivers (.bytes [] :: rest) []
  | chunk {chunk bytes : Bytes} {rest : List (Arrival τ)} :
      chunk ≠ [] →
      Delivers rest bytes →
      Delivers (.bytes chunk :: rest) (chunk ++ bytes)
  | wait {s : Step τ} {bytes : Bytes} {rest : List (Arrival τ)} :
      s.trouble = none →
      Delivers rest bytes →
      Delivers (.wait s :: rest) bytes

theorem delivers_map_bytes
    {chunks : List Bytes}
    (hchunks : ∀ chunk ∈ chunks, chunk ≠ []) :
    Delivers (chunks.map (.bytes : Bytes → Arrival τ)) chunks.flatten := by
  induction chunks with
  | nil =>
      exact .nil
  | cons chunk chunks ih =>
      rw [List.forall_mem_cons] at hchunks
      exact .chunk hchunks.1 (ih hchunks.2)

theorem received_pieces
    {ps : List Bytes}
    (hps : ∀ p ∈ ps, p ≠ [])
    (got : Bytes)
    (rest : List (Arrival τ)) :
    received got (ps.map .bytes ++ rest) = received (got ++ ps.flatten) rest := by
  induction ps generalizing got with
  | nil =>
      rw [List.flatten_nil, List.append_nil]
      rfl
  | cons p ps ih =>
      rw [List.forall_mem_cons] at hps
      rw [List.map_cons, List.cons_append, received, if_neg hps.1, ih hps.2, List.flatten_cons,
        List.append_assoc]

/-- What is read is what was delivered. -/
theorem received_of_delivers
    {arrivals : List (Arrival τ)}
    {bytes : Bytes}
    (h : Delivers arrivals bytes)
    (got : Bytes) :
    received got (arrivals.flatMap Arrival.split) = .ok (got ++ bytes) := by
  induction h generalizing got with
  | nil =>
      rw [List.append_nil]
      rfl
  | empty rest =>
      have hpieces : pieces [] = [[]] := by
        rw [pieces, if_pos (show ([] : Bytes).length ≤ readSize from Nat.zero_le _)]
      rw [List.flatMap_cons, Arrival.split, hpieces, List.append_nil]
      rfl
  | @chunk chunk bytes rest hchunk hrest ih =>
      rw [List.flatMap_cons, Arrival.split,
        received_pieces (fun p hp => ne_nil_of_mem_pieces hchunk hp), flatten_pieces, ih,
        List.append_assoc]
  | @wait s bytes rest htrouble hrest ih =>
      rw [List.flatMap_cons, Arrival.split, List.singleton_append, received, htrouble]
      exact ih got

/-- With an exchange, the request of a call gets to the host: the host is resolved, one of its
addresses takes the connection, and sending goes well.  `late` says that the deadline passes at
once. -/
structure GetsThrough
    (late : Bool)
    (c : Call τ)
    (e : Exchange τ) :
    Prop where
  encoding : HostName.fault? c.host = none
  resolving : e.resolving = none
  connecting : connected c.host late none e.addresses = .ok ()
  sending : e.sending.trouble = none

variable {v w : World τ} {c : Call τ} {bytes : Bytes}

/-- What comes of an exchange does not depend on how the bytes are cut. -/
theorem transferred_of_delivers
    (late : Bool)
    (c : Call τ)
    (e : Exchange τ)
    {cuts cuts' : List (Arrival τ)}
    (hbytes : Delivers cuts bytes)
    (hbytes' : Delivers cuts' bytes) :
    transferred late c { e with arrivals := cuts } =
      transferred late c { e with arrivals := cuts' } := by
  simp only [transferred, conversed, received_of_delivers hbytes, received_of_delivers hbytes']

/-- A request that gets through is answered by what is delivered. -/
theorem GetsThrough.answer_eq
    {e : Exchange τ}
    {later : List (Exchange τ)}
    {late : Bool}
    (h : GetsThrough late c e)
    (hbytes : Delivers e.arrivals bytes) :
    (reply late c (e :: later)).answer = answerTo c (.ok bytes) := by
  rw [reply_cons late h.encoding]
  simp only [transferred, h.resolving, h.connecting, conversed, h.sending,
    received_of_delivers hbytes, List.nil_append]

variable [Seconds τ]

/-- Without delay, a call is answered by its first exchange. -/
theorem answer_eq_of_instant
    {e : Exchange τ}
    {later : List (Exchange τ)}
    (hahead : w.network.ahead c.host = e :: later)
    (hinstant : e.Instant w.clock) :
    ((call c).run w).1 = (reply (isLate w.clock c.timeout) c (e :: later)).answer := by
  have hfirst : ∀ e ∈ (w.network.ahead c.host).head?, e.Instant w.clock := by
    rw [hahead]
    rintro _ ⟨⟩
    exact hinstant
  have hanswer := (call_of_instant hfirst rfl).1
  rwa [hahead] at hanswer

/-- A call has the same answer in two worlds in which its host delivers the same bytes without
delay, however they are cut; if its request gets through, it is the one that the bytes say. -/
theorem call_of_delivers
    {e : Exchange τ}
    {cuts cuts' : List (Arrival τ)}
    {later later' : List (Exchange τ)}
    (hclock : v.clock = w.clock)
    (hv : v.network.ahead c.host = { e with arrivals := cuts } :: later)
    (hw : w.network.ahead c.host = { e with arrivals := cuts' } :: later')
    (hcuts : Exchange.Instant v.clock { e with arrivals := cuts })
    (hcuts' : Exchange.Instant w.clock { e with arrivals := cuts' })
    (hbytes : Delivers cuts bytes)
    (hbytes' : Delivers cuts' bytes) :
    ((call c).run v).1 = ((call c).run w).1 ∧
      (GetsThrough (isLate w.clock c.timeout) c e →
        ((call c).run w).1 = answerTo c (.ok bytes)) := by
  rw [answer_eq_of_instant hv hcuts, answer_eq_of_instant hw hcuts', hclock]
  refine ⟨?_, fun hthrough => ?_⟩
  · cases hfault : HostName.fault? c.host with
    | some fault =>
        rw [reply_of_fault _ hfault, reply_of_fault _ hfault]
    | none =>
        rw [reply_cons _ hfault, reply_cons _ hfault,
          transferred_of_delivers _ c e hbytes hbytes']
  · have hsame : GetsThrough (isLate w.clock c.timeout) c { e with arrivals := cuts' } :=
      ⟨hthrough.encoding, hthrough.resolving, hthrough.connecting, hthrough.sending⟩
    exact hsame.answer_eq hbytes'

end Deliveries

section Samples

/-- An exchange without delay in which an answer arrives in chunks. -/
def chunkedExchange (chunks : List Bytes) : Exchange Float :=
  ⟨none, [⟨0, none⟩], ⟨0, none⟩, chunks.map .bytes⟩

/-- A world with one switch, which answers in chunks. -/
def chunkedWorld (chunks : List Bytes) : World Float :=
  ⟨0, ⟨[("switch", [chunkedExchange chunks])], by simp⟩, []⟩

theorem instant_chunkedExchange
    (chunks : List Bytes) :
    (chunkedExchange chunks).Instant (chunkedWorld chunks).clock := by
  have hnow : (0 : Float) + 0 = 0 := by decide
  constructor
  · exact List.forall_mem_singleton.mpr (Step.instant_of_took_eq_zero hnow rfl)
  · exact Step.instant_of_took_eq_zero hnow rfl
  · intro s hs
    obtain ⟨chunk, -, hchunk⟩ := List.mem_map.mp hs
    exact nomatch hchunk

/-- A call to the switch that may take ten seconds. -/
def chunkedCall : Call Float :=
  ⟨"switch", 80, ⟨"GET", "/", [], ""⟩, 10⟩

/-- An answer with a body of an umlaut and many letters. -/
def longAnswer : List Bytes :=
  [Text.Utf8.encode "HTTP/1.1 200 OK\r\n\r\nä" ++ List.replicate 5000 97]

/-- The same answer, cut in the empty line behind the head, in the umlaut and at the read size. -/
def cutAnswer : List Bytes :=
  [Text.Utf8.encode "HTTP/1.1 200 OK\r\n", Text.Utf8.encode "\r\n" ++ [0xC3],
    0xA4 :: List.replicate 4095 97, List.replicate 905 97]

theorem flatten_cutAnswer :
    cutAnswer.flatten = longAnswer.flatten := by
  have hhead :
      Text.Utf8.encode "HTTP/1.1 200 OK\r\n\r\nä" =
        Text.Utf8.encode "HTTP/1.1 200 OK\r\n" ++ (Text.Utf8.encode "\r\n" ++ [0xC3]) ++
          [0xA4] := by
    decide
  have hbody : List.replicate 4095 (97 : UInt8) ++ List.replicate 905 97 = List.replicate 5000 97 :=
    List.replicate_append_replicate
  rw [cutAnswer, longAnswer, hhead, ← hbody]
  simp only [List.flatten_cons, List.flatten_nil, List.append_nil, List.append_assoc,
    List.cons_append, List.nil_append]

/-- The call has the same answer, whether it arrives at once or is cut. -/
theorem call_longAnswer_eq :
    (chunkedExchange longAnswer).Instant (chunkedWorld longAnswer).clock ∧
      (chunkedExchange cutAnswer).Instant (chunkedWorld cutAnswer).clock ∧
      Delivers (chunkedExchange longAnswer).arrivals longAnswer.flatten ∧
      Delivers (chunkedExchange cutAnswer).arrivals longAnswer.flatten ∧
      ((call chunkedCall).run (chunkedWorld longAnswer)).1 =
        ((call chunkedCall).run (chunkedWorld cutAnswer)).1 ∧
      ((call chunkedCall).run (chunkedWorld cutAnswer)).1 =
        answerTo chunkedCall (.ok longAnswer.flatten) := by
  have hlong : Delivers (chunkedExchange longAnswer).arrivals longAnswer.flatten := by
    refine delivers_map_bytes fun chunk hchunk => ?_
    rw [List.mem_singleton.mp hchunk]
    exact List.append_ne_nil_of_left_ne_nil (by decide) _
  have hcut : Delivers (chunkedExchange cutAnswer).arrivals longAnswer.flatten := by
    rw [← flatten_cutAnswer]
    refine delivers_map_bytes ?_
    decide
  have hthrough : GetsThrough (isLate (chunkedWorld cutAnswer).clock chunkedCall.timeout)
      chunkedCall (chunkedExchange longAnswer) :=
    ⟨by decide, rfl, by decide, rfl⟩
  obtain ⟨hsame, hanswer⟩ :=
    call_of_delivers (v := chunkedWorld longAnswer) (w := chunkedWorld cutAnswer)
      (c := chunkedCall) (e := chunkedExchange longAnswer) rfl rfl rfl
      (instant_chunkedExchange _) (instant_chunkedExchange _) hlong hcut
  exact ⟨instant_chunkedExchange _, instant_chunkedExchange _, hlong, hcut, hsame,
    hanswer hthrough⟩

end Samples

end Client

end ManagedSwitch
