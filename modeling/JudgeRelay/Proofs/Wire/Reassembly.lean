import JudgeRelay.Proofs.Deflate.Stored
import JudgeRelay.Wire.Reader

/-!
# Frames reassemble over any chunking

A sender writes payloads as frames back to back, and the bytes may arrive cut anywhere. The
main statement, `frames_reassemble`, is that a frame buffer fed the pieces in order and
drained after each gives back exactly the payloads, meets no error and ends empty; and that
a reader over a stream that brings those bytes, in reads of any sizes, gives back the
payloads and then `closed`.

The codec is a parameter (`Deflate.Zlib`), and the statement holds for every codec whose
decoder undoes its compressor. A payload fits a limit (`Frame.Fits`) when its body inflates
back to it, it and its compressed body are within the limit, the body's length fits the
four-byte prefix, and the cap one byte past the limit does not wrap around. The argument follows the bytes still
expected: the buffered bytes followed by those still to come are the frames of the payloads
not yet taken. `split_frames` cuts such bytes into whole frames and a rest shorter than the
next frame; the buffer takes a whole frame at its front (`next_whole`) and waits on a rest
(`next_short_of`).
-/

namespace JudgeRelay

namespace Deflate

/-- An outcome read back from a check that the kernel can evaluate. -/
theorem Outcome.eq_corrupt_of_check {o : Outcome} {q : ByteArray}
    (check : (match o with | .corrupt r => decide (r.data = q.data) | _ => false) = true) :
    o = .corrupt q := by
  cases o with
  | corrupt r =>
    have same : r.data = q.data := by simpa using check
    obtain ⟨r⟩ := r
    cases same
    rfl
  | complete _ => cases check
  | truncated _ => cases check

theorem Outcome.eq_complete_of_check {o : Outcome} {p : ByteArray}
    (check : (match o with | .complete q => decide (q.data = p.data) | _ => false) = true) :
    o = .complete p := by
  cases o with
  | complete q =>
    have same : q.data = p.data := by simpa using check
    obtain ⟨q⟩ := q
    cases same
    rfl
  | corrupt _ => cases check
  | truncated _ => cases check

end Deflate

/-! ## Byte arrays one after another -/

/-- Byte arrays one after another. -/
def joinBytes (l : List ByteArray) : ByteArray := l.foldr (· ++ ·) ByteArray.empty

@[simp] theorem joinBytes_nil : joinBytes [] = ByteArray.empty := rfl

@[simp] theorem joinBytes_cons (a : ByteArray) (l : List ByteArray) :
    joinBytes (a :: l) = a ++ joinBytes l := rfl

namespace Frame

/-- The frame `encode` gives for a payload whose compressed body fits the length prefix. -/
def framed (z : Deflate.Zlib) (p : ByteArray) : ByteArray :=
  Deflate.be32 (z.compress p).size ++ z.compress p

theorem encode_of_le {z : Deflate.Zlib} {p : ByteArray} (small : (z.compress p).size ≤ maxBody) :
    encode z p = .ok (framed z p) := by
  rw [encode, if_neg (Nat.not_lt.2 small)]
  rfl

/-- A payload that a buffer with codec `z` and limit `m` gives back whole: its compressed body
inflates back to it, the cap of the limit does not wrap, the payload and its body are within the
limit, and the body's length fits the four-byte prefix. -/
structure Fits (z : Deflate.Zlib) (m : Nat) (p : ByteArray) : Prop where
  inflates : z.inflate (z.compress p) = .complete p
  capped : readCap m = m + 1
  payload_le : p.size ≤ m
  body_le : (z.compress p).size ≤ m
  body_lt : (z.compress p).size < 2 ^ 32

@[simp] theorem be32_size (n : Nat) : (Deflate.be32 n).size = 4 := rfl

theorem framed_size (z : Deflate.Zlib) (p : ByteArray) : (framed z p).size = 4 + (z.compress p).size := by
  rw [framed, ByteArray.size_append, be32_size]

/-- Bytes that begin as a frame announce its body's length. -/
theorem announced_of_agree {z : Deflate.Zlib} {X p : ByteArray}
    (agree : X.extract 0 4 = (framed z p).extract 0 4) (small : (z.compress p).size < 2 ^ 32) :
    announced X = (z.compress p).size := by
  rw [announced, agree, framed, ByteArray.extract_append_eq_left (be32_size _).symm,
    Deflate.be32_read, Nat.mod_eq_of_lt small]

/-- Below the largest limit, the cap is one byte past the limit. -/
theorem readCap_of_lt {m : Nat} (small : m < 2 ^ 64 - 1) : readCap m = m + 1 := by
  unfold readCap
  exact Nat.mod_eq_of_lt (show m + 1 < 2 ^ 64 by omega)

/-- A body whose stream is whole gives its payload, when the payload fits a limit whose cap does
not wrap. -/
theorem decodeBody_of_complete {z : Deflate.Zlib} {body p : ByteArray} {m : Nat}
    (inflated : z.inflate body = .complete p) (capped : readCap m = m + 1) (fits : p.size ≤ m) :
    decodeBody z body m = .ok p := by
  rw [decodeBody, Deflate.Zlib.read, capped, if_neg (Nat.succ_ne_zero m), inflated]
  simp only [extract_zero_of_le (Nat.le_succ_of_le fits)]
  rw [if_neg (Nat.not_lt.2 fits)]

/-- A frame's body inflates back to its payload. -/
theorem decodeBody_compress {z : Deflate.Zlib} {m : Nat} {p : ByteArray} (fits : Fits z m p) :
    decodeBody z (z.compress p) m = .ok p :=
  decodeBody_of_complete fits.inflates fits.capped fits.payload_le

/-- At the largest limit the cap wraps around to 0: every body decodes to the empty payload,
whatever the codec. -/
theorem decodeBody_largest (z : Deflate.Zlib) (body : ByteArray) :
    decodeBody z body (2 ^ 64 - 1) = .ok ByteArray.empty := by
  have wraps : readCap (2 ^ 64 - 1) = 0 := by decide
  rw [decodeBody, Deflate.Zlib.read, wraps, if_pos rfl]
  rfl

end Frame

namespace FrameBuffer

/-- Fewer bytes than a length prefix: nothing to take yet. -/
theorem next_short {b : FrameBuffer} (short : b.bytes.size < Frame.headerSize) : b.next = (.ok none, b) := by
  rw [next, if_pos short]

/-- A whole frame at the front is taken, and its payload given back. -/
theorem next_whole {b : FrameBuffer} {p rest : ByteArray} (fits : Frame.Fits b.zlib b.maxFrame p)
    (front : b.bytes = Frame.framed b.zlib p ++ rest) : b.next = (.ok (some p), { b with bytes := rest }) := by
  have size : b.bytes.size = 4 + (b.zlib.compress p).size + rest.size := by
    rw [front, ByteArray.size_append, Frame.framed_size]
  have length : Frame.announced b.bytes = (b.zlib.compress p).size := by
    apply Frame.announced_of_agree _ fits.body_lt
    rw [front, extract_append_left (by rw [Frame.framed_size]; omega)]
  have body : b.bytes.extract 4 (4 + (b.zlib.compress p).size) = b.zlib.compress p := by
    rw [front, Frame.framed]
    exact extract_at (Deflate.be32 _) _ rest
  have left : b.bytes.extract (min (4 + (b.zlib.compress p).size) b.bytes.size) b.bytes.size = rest := by
    rw [Nat.min_eq_left (by omega), front, ← Frame.framed_size]
    exact extract_after _ rest
  unfold next
  rw [if_neg (by simp [Frame.headerSize]; omega), length, if_neg (by have := fits.body_le; omega),
    if_neg (by simp [Frame.headerSize]; omega)]
  simp only [Frame.headerSize, body, Frame.decodeBody_compress fits, consume, left]
  rfl

/-- A frame not yet whole waits for the rest of its bytes. -/
theorem next_partial {b : FrameBuffer} {p v : ByteArray} (fits : Frame.Fits b.zlib b.maxFrame p)
    (front : b.bytes ++ v = Frame.framed b.zlib p) (more : 0 < v.size) : b.next = (.ok none, b) := by
  have size : b.bytes.size + v.size = 4 + (b.zlib.compress p).size := by
    rw [← Frame.framed_size, ← front, ByteArray.size_append]
  by_cases short : b.bytes.size < Frame.headerSize
  · exact next_short short
  · have length : Frame.announced b.bytes = (b.zlib.compress p).size := by
      apply Frame.announced_of_agree _ fits.body_lt
      rw [← front, extract_append_left (by simp [Frame.headerSize] at short; omega)]
    unfold next
    rw [if_neg short, length, if_neg (by have := fits.body_le; omega),
      if_pos (by simp [Frame.headerSize]; omega)]

end FrameBuffer

/-! ## The bytes still expected -/

/-- Bytes shorter than the first of some frames, if there is one. -/
def ShortOf (z : Deflate.Zlib) (u : ByteArray) : List ByteArray → Prop
  | [] => True
  | q :: _ => u.size < (Frame.framed z q).size

/-- Frames take at least four bytes each. -/
theorem joinBytes_frames_size (z : Deflate.Zlib) (ps : List ByteArray) :
    4 * ps.length ≤ (joinBytes (ps.map (Frame.framed z))).size := by
  induction ps with
  | nil => simp
  | cons p ps ih =>
    simp only [List.map_cons, joinBytes_cons, ByteArray.size_append, Frame.framed_size,
      List.length_cons]
    omega

/-- Bytes that, followed by more, are the frames of some payloads: the frames of the first
payloads, whole, and a rest shorter than the next frame, which the bytes after complete. -/
theorem split_frames (z : Deflate.Zlib) : ∀ (ps : List ByteArray) (X Y : ByteArray),
    X ++ Y = joinBytes (ps.map (Frame.framed z)) →
    ∃ done rest u, ps = done ++ rest ∧ X = joinBytes (done.map (Frame.framed z)) ++ u ∧
      u ++ Y = joinBytes (rest.map (Frame.framed z)) ∧ ShortOf z u rest
  | [], X, Y, whole => ⟨[], [], X, rfl, by simp [ByteArray.empty_append], by simpa using whole, trivial⟩
  | p :: ps, X, Y, whole => by
    by_cases short : X.size < (Frame.framed z p).size
    · exact ⟨[], p :: ps, X, rfl, by simp [ByteArray.empty_append], by simpa using whole, short⟩
    · -- the first frame lies whole within `X`
      rw [List.map_cons, joinBytes_cons] at whole
      have front := append_front whole (Nat.not_lt.1 short)
      obtain ⟨C, first, after⟩ := front
      obtain ⟨done, rest, u, split, taken, follows, short'⟩ := split_frames z ps C Y after
      refine ⟨p :: done, rest, u, by rw [split, List.cons_append], ?_, follows, short'⟩
      rw [first, taken, List.map_cons, joinBytes_cons, ByteArray.append_assoc]

namespace FrameBuffer

/-- A buffer holding less than the next frame waits. -/
theorem next_short_of {b : FrameBuffer} {rest : List ByteArray} {Y : ByteArray}
    (fits : ∀ q ∈ rest, Frame.Fits b.zlib b.maxFrame q)
    (follows : b.bytes ++ Y = joinBytes (rest.map (Frame.framed b.zlib)))
    (short : ShortOf b.zlib b.bytes rest) : b.next = (.ok none, b) := by
  cases rest with
  | nil =>
    apply next_short
    have := congrArg ByteArray.size follows
    simp only [ByteArray.size_append, List.map_nil, joinBytes_nil, ByteArray.size_empty] at this
    simp [Frame.headerSize]
    omega
  | cons q rest =>
    rw [List.map_cons, joinBytes_cons] at follows
    rcases append_eq_append follows with ⟨C, grown, _⟩ | ⟨C, longer, _⟩
    · apply next_partial (fits q (List.mem_cons_self ..)) grown.symm
      have := congrArg ByteArray.size grown
      simp only [ShortOf] at short
      rw [ByteArray.size_append] at this
      omega
    · have := congrArg ByteArray.size longer
      simp only [ShortOf] at short
      rw [ByteArray.size_append] at this
      omega

theorem drainWith_frames : ∀ (done : List ByteArray) (fuel : Nat) (b : FrameBuffer) (acc : List ByteArray)
    (u : ByteArray), (∀ q ∈ done, Frame.Fits b.zlib b.maxFrame q) →
    b.bytes = joinBytes (done.map (Frame.framed b.zlib)) ++ u →
    ({ b with bytes := u } : FrameBuffer).next = (.ok none, { b with bytes := u }) → done.length < fuel →
    b.drainWith fuel acc = (acc.reverse ++ done, none, { b with bytes := u })
  | [], fuel + 1, ⟨m, z, bytes⟩, acc, u, _, front, waits, _ => by
    simp only [List.map_nil, joinBytes_nil, ByteArray.empty_append] at front
    subst front
    rw [drainWith, waits]
    simp
  | q :: done, fuel + 1, b, acc, u, fits, front, waits, enough => by
    rw [List.map_cons, joinBytes_cons, ByteArray.append_assoc] at front
    rw [drainWith, next_whole (fits q (List.mem_cons_self ..)) front]
    dsimp only
    rw [drainWith_frames done fuel { b with bytes := joinBytes (done.map (Frame.framed b.zlib)) ++ u }
      (q :: acc) u (fun r member => fits r (List.mem_cons_of_mem _ member)) rfl waits
      (by simp at enough; omega)]
    simp

/-- Draining a buffer that holds whole frames and then less than a frame takes the frames'
payloads and keeps the rest. -/
theorem drain_frames {b : FrameBuffer} {done : List ByteArray} {u : ByteArray}
    (fits : ∀ q ∈ done, Frame.Fits b.zlib b.maxFrame q)
    (front : b.bytes = joinBytes (done.map (Frame.framed b.zlib)) ++ u)
    (waits : ({ b with bytes := u } : FrameBuffer).next = (.ok none, { b with bytes := u })) :
    b.drain = (done, none, { b with bytes := u }) := by
  have enough : done.length < b.bytes.size / Frame.headerSize + 1 := by
    have := joinBytes_frames_size b.zlib done
    rw [front, ByteArray.size_append] at *
    simp only [Frame.headerSize]
    omega
  rw [drain, drainWith_frames done _ b [] u fits front waits enough]
  simp

end FrameBuffer

/-! ## Feeding and reading -/

namespace FrameBuffer

/-- Pushes pieces in turn, draining after each: the payloads taken, the errors met, and the
buffer left. -/
def feed (b : FrameBuffer) : List ByteArray → List ByteArray × List WireError × FrameBuffer
  | [] => ([], [], b)
  | c :: cs =>
    let (ps, e, b) := (b.push c).drain
    let (qs, es, b) := b.feed cs
    (ps ++ qs, e.toList ++ es, b)

/-- Asks a reader for packets `n` times. -/
def readPackets : Nat → FrameBuffer → List ByteArray → List (Except WireError ByteArray)
  | 0, _, _ => []
  | n + 1, b, reads => (b.readPacket reads).1 :: readPackets n (b.readPacket reads).2.1 (b.readPacket reads).2.2

/-- Fed the bytes still expected, a buffer gives back the payloads still expected and ends
empty. The induction is on the pieces; after each, the buffer holds less than the next
frame. -/
theorem feed_frames : ∀ (chunks : List ByteArray) (b : FrameBuffer) (ps : List ByteArray),
    (∀ p ∈ ps, Frame.Fits b.zlib b.maxFrame p) →
    b.bytes ++ joinBytes chunks = joinBytes (ps.map (Frame.framed b.zlib)) →
    ShortOf b.zlib b.bytes ps → b.feed chunks = (ps, [], { b with bytes := ByteArray.empty })
  | [], b, ps, _, whole, short => by
    rw [joinBytes_nil, ByteArray.append_empty] at whole
    cases ps with
    | nil =>
      -- nothing is expected, so nothing is held
      have none : b.bytes = ByteArray.empty := by simpa using whole
      cases b
      simp only at none
      rw [none]
      rfl
    | cons p ps =>
      have := congrArg ByteArray.size whole
      simp only [ShortOf] at short
      simp only [List.map_cons, joinBytes_cons, ByteArray.size_append] at this
      omega
  | c :: chunks, b, ps, fits, whole, short => by
    have pushed : (b.push c).bytes ++ joinBytes chunks = joinBytes (ps.map (Frame.framed b.zlib)) := by
      rw [← whole, joinBytes_cons, ← ByteArray.append_assoc]
      rfl
    obtain ⟨done, rest, u, split, taken, follows, short'⟩ := split_frames b.zlib ps _ _ pushed
    have fitsDone : ∀ q ∈ done, Frame.Fits b.zlib b.maxFrame q := fun q member =>
      fits q (by rw [split]; exact List.mem_append_left _ member)
    have fitsRest : ∀ q ∈ rest, Frame.Fits b.zlib b.maxFrame q := fun q member =>
      fits q (by rw [split]; exact List.mem_append_right _ member)
    have waits := next_short_of (b := { b.push c with bytes := u }) fitsRest follows short'
    rw [feed, drain_frames (b := b.push c) fitsDone taken waits]
    dsimp only
    rw [feed_frames chunks { b.push c with bytes := u } rest fitsRest follows short', split]
    rfl

theorem readPacket_whole {b : FrameBuffer} {p rest : ByteArray} (fits : Frame.Fits b.zlib b.maxFrame p)
    (front : b.bytes = Frame.framed b.zlib p ++ rest) (reads : List ByteArray) :
    b.readPacket reads = (.ok p, { b with bytes := rest }, reads) := by
  unfold readPacket
  rw [next_whole fits front]

theorem readPacket_wait {b : FrameBuffer} (waits : b.next = (.ok none, b)) {c : ByteArray} (some : 0 < c.size)
    (reads : List ByteArray) : b.readPacket (c :: reads) = (b.push c).readPacket reads := by
  rw [readPacket.eq_def]
  dsimp only
  rw [waits]
  simp only
  rw [if_neg (by omega)]

theorem readPacket_end {b : FrameBuffer} (waits : b.next = (.ok none, b)) :
    b.readPacket [] = (.error .closed, b, []) := by
  unfold readPacket
  rw [waits]

/-- A reader that, from its buffer and the reads still to come, will see exactly the frames
of `ps`, each read bringing some bytes. -/
structure Expects (b : FrameBuffer) (reads ps : List ByteArray) : Prop where
  fits : ∀ p ∈ ps, Frame.Fits b.zlib b.maxFrame p
  frames : b.bytes ++ joinBytes reads = joinBytes (ps.map (Frame.framed b.zlib))
  nonempty : ∀ c ∈ reads, 0 < c.size

theorem Expects.front {b : FrameBuffer} {reads : List ByteArray} {p : ByteArray}
    {ps : List ByteArray} (expects : Expects b reads (p :: ps))
    (long : (Frame.framed b.zlib p).size ≤ b.bytes.size) :
    ∃ b' reads', b.readPacket reads = (.ok p, b', reads') ∧ Expects b' reads' ps := by
  have whole := expects.frames
  rw [List.map_cons, joinBytes_cons] at whole
  obtain ⟨C, front, after⟩ := append_front whole long
  exact ⟨_, reads, readPacket_whole (expects.fits p (List.mem_cons_self ..)) front reads,
    ⟨fun q member => expects.fits q (List.mem_cons_of_mem _ member), after, expects.nonempty⟩⟩

/-- A reader expecting the frames of some payloads gives back the first of them and then
expects the rest. The induction is on the reads: the reader reads until the first frame is
whole. -/
theorem readPacket_frames {p : ByteArray} {ps : List ByteArray} :
    ∀ (reads : List ByteArray) (b : FrameBuffer), Expects b reads (p :: ps) →
      ∃ b' reads', b.readPacket reads = (.ok p, b', reads') ∧ Expects b' reads' ps := by
  intro reads
  induction reads with
  | nil =>
    intro b expects
    -- nothing more comes, so the first frame is buffered whole
    apply expects.front
    have := congrArg ByteArray.size expects.frames
    simp only [joinBytes_nil, List.map_cons, joinBytes_cons, ByteArray.size_append,
      ByteArray.size_empty] at this
    omega
  | cons c reads ih =>
    intro b expects
    by_cases long : (Frame.framed b.zlib p).size ≤ b.bytes.size
    · exact expects.front long
    · have waits : b.next = (.ok none, b) :=
        next_short_of expects.fits expects.frames (by simp only [ShortOf]; omega)
      rw [readPacket_wait waits (expects.nonempty c (List.mem_cons_self ..))]
      apply ih (b.push c)
      refine ⟨expects.fits, ?_, fun d member => expects.nonempty d (List.mem_cons_of_mem _ member)⟩
      show _ = joinBytes ((p :: ps).map (Frame.framed b.zlib))
      rw [← expects.frames, joinBytes_cons, ← ByteArray.append_assoc]
      rfl

/-- A reader expecting nothing more finds the end of the stream. -/
theorem readPacket_closed {b : FrameBuffer} {reads : List ByteArray} (expects : Expects b reads []) :
    (b.readPacket reads).1 = .error .closed := by
  have none := congrArg ByteArray.size expects.frames
  cases reads with
  | nil =>
    simp only [joinBytes_nil, ByteArray.size_append, ByteArray.size_empty, List.map_nil] at none
    rw [readPacket_end (next_short (by simp [Frame.headerSize]; omega))]
  | cons c reads =>
    have some := expects.nonempty c (List.mem_cons_self ..)
    simp only [joinBytes_cons, ByteArray.size_append, List.map_nil, joinBytes_nil,
      ByteArray.size_empty] at none
    omega

/-- Asked for packets one more time than it expects frames, a reader gives back each payload
and then finds the end of the stream. -/
theorem readPackets_frames :
    ∀ (ps : List ByteArray) (b : FrameBuffer) (reads : List ByteArray), Expects b reads ps →
      readPackets (ps.length + 1) b reads = ps.map .ok ++ [.error .closed]
  | [], b, reads, expects => by
    rw [readPackets, readPacket_closed expects]
    rfl
  | p :: ps, b, reads, expects => by
    obtain ⟨b', reads', read, expects'⟩ := readPacket_frames reads b expects
    rw [List.length_cons, readPackets, read]
    dsimp only
    rw [readPackets_frames ps b' reads' expects']
    rfl

end FrameBuffer

/-- Each payload fitting the limit, encoding gives each payload's frame. -/
theorem Frame.encode_all {z : Deflate.Zlib} {payloads : List ByteArray}
    (small : ∀ p ∈ payloads, (z.compress p).size ≤ Frame.maxBody) :
    payloads.mapM (Frame.encode z) = .ok (payloads.map (Frame.framed z)) := by
  induction payloads with
  | nil => rfl
  | cons p ps ih =>
    rw [List.mapM_cons, Frame.encode_of_le (small p (List.mem_cons_self ..)),
      ih fun q member => small q (List.mem_cons_of_mem _ member)]
    rfl

/-- Frames cut anywhere reassemble, for every codec whose compressor the decoder undoes and every
limit below the largest. Each payload and its compressed body within the limit, and the body's
length within the prefix, encoding the payloads gives frames; a buffer fed those frames' bytes
in pieces and drained after each gives back the payloads, with no error, and ends empty; and a
reader over a stream bringing the pieces gives back the payloads and then `closed`. -/
theorem frames_reassemble (z : Deflate.Zlib) (inverse : z.Inverse) (m : Nat)
    (small : m < 2 ^ 64 - 1) (payloads : List ByteArray)
    (fits : ∀ p ∈ payloads,
      p.size ≤ m ∧ (z.compress p).size ≤ m ∧ (z.compress p).size ≤ Frame.maxBody) :
    ∃ frames, payloads.mapM (Frame.encode z) = .ok frames ∧
      ∀ chunks : List ByteArray, joinBytes chunks = joinBytes frames → (∀ c ∈ chunks, 0 < c.size) →
        ({ maxFrame := m, zlib := z } : FrameBuffer).feed chunks =
            (payloads, [], { maxFrame := m, zlib := z }) ∧
          FrameBuffer.readPackets (payloads.length + 1) { maxFrame := m, zlib := z } chunks =
            payloads.map .ok ++ [.error .closed] := by
  have whole : ∀ p ∈ payloads, Frame.Fits z m p := fun p member =>
    have ⟨payload, body, within⟩ := fits p member
    ⟨inverse p, Frame.readCap_of_lt small, payload, body,
      Nat.lt_of_le_of_lt within (by decide : Frame.maxBody < 2 ^ 32)⟩
  refine ⟨_, Frame.encode_all fun p member => (fits p member).2.2, fun chunks cut nonempty => ?_⟩
  have start : ({ maxFrame := m, zlib := z } : FrameBuffer).bytes ++ joinBytes chunks =
      joinBytes (payloads.map (Frame.framed z)) := by
    rw [← cut]
    exact ByteArray.empty_append
  have short : ShortOf z ByteArray.empty payloads := by
    cases payloads with
    | nil => trivial
    | cons p _ => simp [ShortOf, Frame.framed_size]
  exact ⟨FrameBuffer.feed_frames chunks _ payloads whole start short,
    FrameBuffer.readPackets_frames payloads _ chunks ⟨whole, start, nonempty⟩⟩

/-- Two frames of the relay's codec, of `hi` and of nothing, cut inside the first length prefix,
inside the first body, and across the two frames. -/
theorem frames_reassemble_cut_anywhere :
    Deflate.zlib.Inverse ∧ 16 < 2 ^ 64 - 1 ∧
    (∀ p ∈ [(⟨#[104, 105]⟩ : ByteArray), ⟨#[]⟩],
      p.size ≤ 16 ∧ (Deflate.zlib.compress p).size ≤ 16 ∧
        (Deflate.zlib.compress p).size ≤ Frame.maxBody) ∧
    [(⟨#[104, 105]⟩ : ByteArray), ⟨#[]⟩].mapM (Frame.encode Deflate.zlib) =
      .ok [⟨#[0, 0, 0, 13, 120, 1, 1, 2, 0, 253, 255, 104, 105, 1, 59, 0, 210]⟩,
        ⟨#[0, 0, 0, 11, 120, 1, 1, 0, 0, 255, 255, 0, 0, 0, 1]⟩] ∧
    (({ maxFrame := 16 } : FrameBuffer).feed [⟨#[0, 0]⟩, ⟨#[0, 13, 120, 1, 1, 2, 0, 253, 255, 104]⟩,
        ⟨#[105, 1, 59, 0, 210, 0, 0, 0, 11, 120]⟩, ⟨#[1, 1, 0, 0, 255, 255, 0, 0, 0, 1]⟩] =
        ([⟨#[104, 105]⟩, ⟨#[]⟩], [], { maxFrame := 16 }) ∧
      FrameBuffer.readPackets 3 { maxFrame := 16 } [⟨#[0, 0]⟩, ⟨#[0, 13, 120, 1, 1, 2, 0, 253, 255, 104]⟩,
        ⟨#[105, 1, 59, 0, 210, 0, 0, 0, 11, 120]⟩, ⟨#[1, 1, 0, 0, 255, 255, 0, 0, 0, 1]⟩] =
        [.ok ⟨#[104, 105]⟩, .ok ⟨#[]⟩, .error .closed]) := by
  have fits : ∀ p ∈ [(⟨#[104, 105]⟩ : ByteArray), ⟨#[]⟩],
      p.size ≤ 16 ∧ (Deflate.zlib.compress p).size ≤ 16 ∧
        (Deflate.zlib.compress p).size ≤ Frame.maxBody := by
    intro p member
    simp only [List.mem_cons, List.not_mem_nil, or_false] at member
    rcases member with rfl | rfl <;> exact ⟨by decide, by decide, by decide⟩
  have encoded : [(⟨#[104, 105]⟩ : ByteArray), ⟨#[]⟩].mapM (Frame.encode Deflate.zlib) =
      .ok [⟨#[0, 0, 0, 13, 120, 1, 1, 2, 0, 253, 255, 104, 105, 1, 59, 0, 210]⟩,
        ⟨#[0, 0, 0, 11, 120, 1, 1, 0, 0, 255, 255, 0, 0, 0, 1]⟩] := by rfl
  obtain ⟨frames, encodes, reassemble⟩ :=
    frames_reassemble Deflate.zlib Deflate.zlib_inverse 16 (by decide) _ fits
  rw [encoded] at encodes
  cases encodes
  exact ⟨Deflate.zlib_inverse, by decide, fits, encoded, reassemble _ (by decide) (by decide)⟩

/-- At the largest limit a frame is taken whole and gives the empty payload, since the cap one
byte past the limit wraps around to 0. The body is the zlib stream of `abc` written with a
compressed block, as other encoders write it; read with limit 3 it gives `abc`. -/
theorem frames_empty_at_largest_limit :
    Deflate.inflate ⟨#[0x78, 0x9c, 0x4b, 0x4c, 0x4a, 0x06, 0x00, 0x02, 0x4d, 0x01, 0x27]⟩ =
        .complete "abc".toUTF8 ∧
      Frame.decodeBody Deflate.zlib ⟨#[0x78, 0x9c, 0x4b, 0x4c, 0x4a, 0x06, 0x00, 0x02, 0x4d, 0x01,
        0x27]⟩ 3 = .ok "abc".toUTF8 ∧
      ({ maxFrame := 2 ^ 64 - 1 } : FrameBuffer).feed [⟨#[0, 0, 0, 11, 0x78, 0x9c, 0x4b, 0x4c,
        0x4a, 0x06, 0x00, 0x02, 0x4d, 0x01, 0x27]⟩] =
        ([ByteArray.empty], [], { maxFrame := 2 ^ 64 - 1 }) := by
  have inflated := Deflate.Outcome.eq_complete_of_check (o := Deflate.inflate ⟨#[0x78, 0x9c, 0x4b,
    0x4c, 0x4a, 0x06, 0x00, 0x02, 0x4d, 0x01, 0x27]⟩) (p := "abc".toUTF8) (by decide +kernel)
  refine ⟨inflated, Frame.decodeBody_of_complete inflated (by rfl) (by decide), ?_⟩
  -- the body is taken whole and decodes, whatever it holds, to nothing
  simp only [FrameBuffer.feed, FrameBuffer.drain, FrameBuffer.push]
  rfl

end JudgeRelay
