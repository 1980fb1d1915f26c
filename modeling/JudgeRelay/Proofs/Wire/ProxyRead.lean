import JudgeRelay.Proofs.Wire.Reassembly

/-!
# A PROXY header reads the same however its bytes arrive

A reader decides on the PROXY header from the part of the stream it has buffered: it waits
while the bytes are too few to tell, and otherwise takes the header or fails. The decision,
once made, is the one every longer buffer makes (`ProxyHeader.parse_append`): the prefix test
reads no more than the first six bytes, a line break found stays the first one, and a buffer
of 107 bytes without a line break is too long whatever follows, since a line break that
starts at its last byte ends past the limit. The parser waits only on fewer than 107 bytes,
and a header takes at most 107 (`ProxyHeader.parse_cases`).

So what a reader returns depends on the bytes the stream brings and not on how its reads cut
them (`FrameBuffer.readProxyHeader_result`): it is what the parser makes of all of them, and
`closed` when they end too soon. The reader leaves for the frames exactly the bytes after
the header (`FrameBuffer.readProxyHeader_leaves`), and it reads at most 107 times
(`FrameBuffer.readProxyHeader_reads`).

Main result: `proxy_header_chunking_independent`.
-/

namespace JudgeRelay

namespace ProxyHeader

variable {s t buf : ByteArray} {stop : Nat}

theorem prefixBytes_size : prefixBytes.size = 6 := rfl

/-- The bytes agree with the start of `PROXY `, as far as they go. -/
def Opens (buf : ByteArray) : Prop :=
  buf.extract 0 (min buf.size prefixBytes.size) =
    prefixBytes.extract 0 (min buf.size prefixBytes.size)

/-- Whether a line break (CR LF) starts at position `i`. -/
def breakAt (buf : ByteArray) (i : Nat) : Bool := buf.get! i == 13 && buf.get! (i + 1) == 10

theorem lineEnd?_eq (buf : ByteArray) :
    lineEnd? buf = (List.range (buf.size - 1)).find? (breakAt buf) := rfl

/-- What the parser makes of a header line that ends at `stop`. -/
def lineAt (buf : ByteArray) (stop : Nat) : Except WireError (Option (ProxyHeader × Nat)) :=
  if stop + 2 > maxLength then .error (.proxyHeader "header too long")
  else
    match String.fromUTF8? (buf.extract 0 stop) with
    | none => .error (.proxyHeader "header is not ASCII")
    | some line =>
      match ofLine line with
      | .ok h => .ok (some (h, stop + 2))
      | .error m => .error (.proxyHeader m)

/-- What the parser makes of bytes that agree with the prefix. -/
def afterPrefix (buf : ByteArray) : Except WireError (Option (ProxyHeader × Nat)) :=
  match lineEnd? buf with
  | none => if buf.size ≥ maxLength then .error (.proxyHeader "header too long") else .ok none
  | some stop => lineAt buf stop

theorem parse_of_not_opens (bad : ¬ Opens buf) :
    parse buf = .error (.proxyHeader "missing PROXY prefix") := by
  unfold parse
  dsimp only
  rw [if_pos (bytes_bne_iff.2 bad)]

theorem parse_of_opens (good : Opens buf) : parse buf = afterPrefix buf := by
  unfold parse
  dsimp only
  rw [if_neg fun bad => bytes_bne_iff.1 bad good]
  rfl

theorem afterPrefix_of_none (noBreak : lineEnd? buf = none) :
    afterPrefix buf =
      if buf.size ≥ maxLength then .error (.proxyHeader "header too long") else .ok none := by
  rw [afterPrefix, noBreak]

theorem afterPrefix_of_some (found : lineEnd? buf = some stop) :
    afterPrefix buf = lineAt buf stop := by
  rw [afterPrefix, found]

/-! ## The prefix -/

theorem opens_iff : Opens buf ↔
    buf.data.toList.take (min buf.size 6) = prefixBytes.data.toList.take (min buf.size 6) := by
  rw [Opens, prefixBytes_size, ByteArray.ext_iff, ← Array.toList_inj, ByteArray.data_extract,
    ByteArray.data_extract, Array.toList_extract, Array.toList_extract]
  simp

/-- Bytes that agree with the prefix when more follow already agreed without them. -/
theorem Opens.of_append (good : Opens (s ++ t)) : Opens s := by
  rw [opens_iff] at good ⊢
  have within : min s.size 6 ≤ s.data.toList.length := by simp
  have shorter : min s.size 6 ≤ min (s ++ t).size 6 := by
    rw [ByteArray.size_append]
    omega
  have cut := congrArg (List.take (min s.size 6)) good
  rw [List.take_take, List.take_take, Nat.min_eq_left shorter, ByteArray.data_append,
    Array.toList_append, List.take_append_of_le_length within] at cut
  exact cut

/-- Bytes that hold the whole prefix agree with it whatever follows. -/
theorem Opens.append (good : Opens s) (long : prefixBytes.size ≤ s.size) : Opens (s ++ t) := by
  rw [prefixBytes_size] at long
  rw [opens_iff] at good ⊢
  have whole : min (s ++ t).size 6 = 6 := by
    rw [ByteArray.size_append]
    omega
  rw [whole, ByteArray.data_append, Array.toList_append,
    List.take_append_of_le_length (by simp; omega)]
  rwa [Nat.min_eq_right long] at good

/-- Bytes that agree with the prefix and hold a line break hold the whole prefix, which has
no CR. -/
theorem Opens.long (good : Opens s) (found : lineEnd? s = some stop) : prefixBytes.size ≤ s.size := by
  rw [prefixBytes_size]
  by_contra short
  rw [opens_iff, Nat.min_eq_left (by omega), List.take_of_length_le (by simp)] at good
  rw [lineEnd?_eq, List.find?_range_eq_some] at found
  obtain ⟨brk, within, -⟩ := found
  have inside : stop < s.data.toList.length := by
    have := List.mem_range.1 within
    simp only [Array.length_toList]
    exact Nat.lt_of_lt_of_le this (Nat.sub_le _ _)
  -- the byte at `stop` is a CR, and it is one of the prefix's
  have cr : s.data.toList[stop] = 13 := by
    simp only [breakAt, Bool.and_eq_true, beq_iff_eq] at brk
    rw [← brk.1]
    simp only [ByteArray.get!, Array.getElem_toList]
    exact (getElem!_pos s.data stop (by simpa using inside)).symm
  have member : s.data.toList[stop] ∈ s.data.toList := List.getElem_mem inside
  rw [cr, good] at member
  exact absurd (List.mem_of_mem_take member) (by decide)

/-! ## Line breaks -/

theorem breakAt_append {i : Nat} (within : i + 1 < s.size) : breakAt (s ++ t) i = breakAt s i := by
  simp only [breakAt, get!_append_left (Nat.lt_of_succ_lt within), get!_append_left within]

theorem lineEnd?_lt (found : lineEnd? buf = some stop) : stop + 1 < buf.size := by
  rw [lineEnd?_eq, List.find?_range_eq_some] at found
  have := List.mem_range.1 found.2.1
  omega

/-- A line break found stays the first one when more bytes follow. -/
theorem lineEnd?_append_of_some (found : lineEnd? s = some stop) :
    lineEnd? (s ++ t) = some stop := by
  have within := lineEnd?_lt found
  rw [lineEnd?_eq, List.find?_range_eq_some] at found ⊢
  obtain ⟨brk, -, before⟩ := found
  refine ⟨by rw [breakAt_append within]; exact brk,
    List.mem_range.2 (by rw [ByteArray.size_append]; omega), fun j lt => ?_⟩
  rw [breakAt_append (by omega)]
  exact before j lt

/-- Without a line break in `s`, a line break of `s ++ t` starts at the last byte of `s` or
later. -/
theorem lineEnd?_append_of_none (noBreak : lineEnd? s = none)
    (found : lineEnd? (s ++ t) = some stop) : s.size ≤ stop + 1 := by
  rw [lineEnd?_eq, List.find?_range_eq_none] at noBreak
  rw [lineEnd?_eq, List.find?_range_eq_some] at found
  by_contra early
  have absent := noBreak stop (by omega)
  rw [← breakAt_append (t := t) (by omega), found.1] at absent
  exact absurd absent (by decide)

/-! ## Deciding on a prefix -/

theorem lineAt_append (within : stop < s.size) : lineAt (s ++ t) stop = lineAt s stop := by
  unfold lineAt
  rw [extract_append_left (Nat.le_of_lt within)]

theorem afterPrefix_append (decided : afterPrefix s ≠ .ok none) :
    afterPrefix (s ++ t) = afterPrefix s := by
  rcases found : lineEnd? s with _ | stop
  · -- without a line break, `s` is decided only by being too long, and so is `s ++ t`
    rw [afterPrefix_of_none found] at decided ⊢
    have long : s.size ≥ maxLength := by
      by_contra short
      rw [if_neg short] at decided
      exact decided rfl
    rw [if_pos long]
    rcases found' : lineEnd? (s ++ t) with _ | stop'
    · rw [afterPrefix_of_none found', if_pos (by rw [ByteArray.size_append]; omega)]
    · have late := lineEnd?_append_of_none found found'
      rw [afterPrefix_of_some found', lineAt, if_pos (by simp only [maxLength] at long ⊢; omega)]
  · rw [afterPrefix_of_some found, afterPrefix_of_some (lineEnd?_append_of_some found),
      lineAt_append (by have := lineEnd?_lt found; omega)]

/-- The parser's decision on some bytes stands whatever bytes follow: once it has taken a
header or refused, it takes the same header or refuses for the same reason on any longer
buffer. -/
theorem parse_append (decided : parse s ≠ .ok none) : parse (s ++ t) = parse s := by
  by_cases good : Opens s
  · rw [parse_of_opens good] at decided ⊢
    -- a decision needs a line break, or more bytes than the limit: either way the prefix
    -- is whole
    have long : prefixBytes.size ≤ s.size := by
      rcases found : lineEnd? s with _ | stop
      · rw [afterPrefix_of_none found] at decided
        by_contra short
        rw [if_neg (by rw [prefixBytes_size] at short; simp only [maxLength]; omega)] at decided
        exact decided rfl
      · exact good.long found
    rw [parse_of_opens (good.append long), afterPrefix_append decided]
  · rw [parse_of_not_opens good, parse_of_not_opens fun longer => good longer.of_append]

/-- The parser waits only on fewer bytes than a header may take; a header takes at most that
many bytes, all of them buffered; and every refusal is a PROXY header error. -/
theorem parse_cases (buf : ByteArray) :
    (parse buf = .ok none ∧ buf.size < maxLength) ∨
    (∃ h n, parse buf = .ok (some (h, n)) ∧ n ≤ maxLength ∧ n ≤ buf.size) ∨
    ∃ m, parse buf = .error (.proxyHeader m) := by
  by_cases good : Opens buf
  · rw [parse_of_opens good]
    rcases found : lineEnd? buf with _ | stop
    · rw [afterPrefix_of_none found]
      by_cases long : buf.size ≥ maxLength
      · rw [if_pos long]
        exact .inr (.inr ⟨_, rfl⟩)
      · rw [if_neg long]
        exact .inl ⟨rfl, Nat.lt_of_not_le long⟩
    · -- a line break: the header ends with it, or its line is refused
      have within := lineEnd?_lt found
      rw [afterPrefix_of_some found, lineAt]
      by_cases tooLong : stop + 2 > maxLength
      · rw [if_pos tooLong]
        exact .inr (.inr ⟨_, rfl⟩)
      · rw [if_neg tooLong]
        rcases String.fromUTF8? (buf.extract 0 stop) with _ | line
        · exact .inr (.inr ⟨_, rfl⟩)
        · dsimp only
          rcases ofLine line with m | h
          · exact .inr (.inr ⟨_, rfl⟩)
          · exact .inr (.inl ⟨h, stop + 2, rfl, by omega, by omega⟩)
  · rw [parse_of_not_opens good]
    exact .inr (.inr ⟨_, rfl⟩)

theorem parse_waits (waits : parse buf = .ok none) : buf.size < maxLength := by
  rcases parse_cases buf with ⟨-, short⟩ | ⟨h, n, took, -⟩ | ⟨m, refused⟩
  · exact short
  · rw [waits] at took
    cases took
  · rw [waits] at refused
    cases refused

theorem parse_takes {h : ProxyHeader} {n : Nat} (took : parse buf = .ok (some (h, n))) :
    n ≤ maxLength ∧ n ≤ buf.size := by
  rcases parse_cases buf with ⟨waits, -⟩ | ⟨h', n', took', bounds⟩ | ⟨m, refused⟩
  · rw [waits] at took
    cases took
  · rw [took'] at took
    cases took
    exact bounds
  · rw [refused] at took
    cases took

theorem parse_refuses {e : WireError} (refused : parse buf = .error e) : ∃ m, e = .proxyHeader m := by
  rcases parse_cases buf with ⟨waits, -⟩ | ⟨h, n, took, -⟩ | ⟨m, refused'⟩
  · rw [waits] at refused
    cases refused
  · rw [took] at refused
    cases refused
  · rw [refused'] at refused
    cases refused
    exact ⟨m, rfl⟩

/-- What a reader makes of a stream that brings exactly these bytes and then ends: the header,
the parser's refusal, or `closed` when the bytes end before the parser can tell. -/
def readFrom (bytes : ByteArray) : Except WireError ProxyHeader :=
  match parse bytes with
  | .ok (some (h, _)) => .ok h
  | .ok none => .error .closed
  | .error e => .error e

end ProxyHeader

/-! ## The reader -/

namespace FrameBuffer

variable {b : FrameBuffer}

/-- The reader's step: the parser's decision on the bytes held, and one more read while it
waits. The case lemmas below read their case off it. -/
theorem readProxyHeader_eq (reads : List ByteArray) :
    b.readProxyHeader reads =
      match ProxyHeader.parse b.bytes with
      | .error e => (.error e, b, reads)
      | .ok (some (h, used)) => (.ok h, b.consume used, reads)
      | .ok none =>
        match reads with
        | [] => (.error .closed, b, [])
        | chunk :: rest =>
          if chunk.size = 0 then (.error .closed, b, rest) else (b.push chunk).readProxyHeader rest := by
  rewrite [readProxyHeader.eq_def]
  rfl

theorem readProxyHeader_refused {e : WireError} (refused : ProxyHeader.parse b.bytes = .error e)
    (reads : List ByteArray) : b.readProxyHeader reads = (.error e, b, reads) := by
  rw [readProxyHeader_eq, refused]

theorem readProxyHeader_took {h : ProxyHeader} {n : Nat}
    (took : ProxyHeader.parse b.bytes = .ok (some (h, n))) (reads : List ByteArray) :
    b.readProxyHeader reads = (.ok h, b.consume n, reads) := by
  rw [readProxyHeader_eq, took]

theorem readProxyHeader_ended (waits : ProxyHeader.parse b.bytes = .ok none) :
    b.readProxyHeader [] = (.error .closed, b, []) := by
  rw [readProxyHeader_eq, waits]

theorem readProxyHeader_more (waits : ProxyHeader.parse b.bytes = .ok none) {c : ByteArray}
    (some : 0 < c.size) (reads : List ByteArray) :
    b.readProxyHeader (c :: reads) = (b.push c).readProxyHeader reads := by
  rw [readProxyHeader_eq, waits]
  exact if_neg (by omega)

theorem push_bytes (c : ByteArray) : (b.push c).bytes = b.bytes ++ c := rfl

/-- Reading one more chunk keeps the bytes buffered and still to come. -/
theorem push_joinBytes (c : ByteArray) (reads : List ByteArray) :
    (b.push c).bytes ++ joinBytes reads = b.bytes ++ joinBytes (c :: reads) := by
  rw [push_bytes, joinBytes_cons, ByteArray.append_assoc]

theorem decided_of_refused {e : WireError} (refused : ProxyHeader.parse b.bytes = .error e) :
    ProxyHeader.parse b.bytes ≠ .ok none := by
  rw [refused]
  exact fun same => nomatch same

theorem decided_of_took {h : ProxyHeader} {n : Nat}
    (took : ProxyHeader.parse b.bytes = .ok (some (h, n))) :
    ProxyHeader.parse b.bytes ≠ .ok none := by
  rw [took]
  exact fun same => nomatch same

/-- What a reader returns is what the parser makes of all the bytes the stream brings, however
its reads cut them. The induction is on the reads: the reader reads only while the parser
waits, and the parser's decision on the bytes buffered is its decision on all of them. -/
theorem readProxyHeader_result (reads : List ByteArray) : ∀ b : FrameBuffer,
    (∀ c ∈ reads, 0 < c.size) →
      (b.readProxyHeader reads).1 = ProxyHeader.readFrom (b.bytes ++ joinBytes reads) := by
  induction reads with
  | nil =>
    intro b _
    rw [joinBytes_nil, ByteArray.append_empty]
    rcases parsed : ProxyHeader.parse b.bytes with e | _ | ⟨h, n⟩
    · rw [readProxyHeader_refused parsed, ProxyHeader.readFrom, parsed]
    · rw [readProxyHeader_ended parsed, ProxyHeader.readFrom, parsed]
    · rw [readProxyHeader_took parsed, ProxyHeader.readFrom, parsed]
  | cons c rest ih =>
    intro b nonempty
    rcases parsed : ProxyHeader.parse b.bytes with e | _ | ⟨h, n⟩
    · rw [readProxyHeader_refused parsed, ProxyHeader.readFrom,
        ProxyHeader.parse_append (decided_of_refused parsed), parsed]
    · rw [readProxyHeader_more parsed (nonempty c (List.mem_cons_self ..)),
        ih (b.push c) fun d member => nonempty d (List.mem_cons_of_mem _ member), push_joinBytes]
    · rw [readProxyHeader_took parsed, ProxyHeader.readFrom,
        ProxyHeader.parse_append (decided_of_took parsed), parsed]

/-- Taking a header's bytes off the buffer leaves the bytes after them. -/
theorem consume_front {n : Nat} (within : n ≤ b.bytes.size) :
    b.bytes = b.bytes.extract 0 n ++ (b.consume n).bytes := by
  rw [consume]
  dsimp only
  rw [Nat.min_eq_left within]
  exact extract_split b.bytes within

/-- A reader that holds a whole header takes exactly its bytes off the buffer. -/
theorem readProxyHeader_took_front {h : ProxyHeader} {n : Nat}
    (took : ProxyHeader.parse b.bytes = .ok (some (h, n))) (reads : List ByteArray) :
    ∃ head : ByteArray, head.size = n ∧ b.bytes ++ joinBytes reads =
      head ++ ((b.readProxyHeader reads).2.1.bytes ++ joinBytes (b.readProxyHeader reads).2.2) := by
  have within := (ProxyHeader.parse_takes took).2
  refine ⟨b.bytes.extract 0 n, by simp [ByteArray.size_extract, within], ?_⟩
  rw [readProxyHeader_took took, ← ByteArray.append_assoc, ← consume_front within]

/-- Once the header is read, the bytes the stream brings are the header's `n` bytes followed by
the bytes left buffered and those not yet read: the frames get exactly the bytes after the
header. -/
theorem readProxyHeader_leaves (reads : List ByteArray) : ∀ (b : FrameBuffer) {h : ProxyHeader}
    {n : Nat}, (∀ c ∈ reads, 0 < c.size) →
      ProxyHeader.parse (b.bytes ++ joinBytes reads) = .ok (some (h, n)) →
      ∃ head : ByteArray, head.size = n ∧ b.bytes ++ joinBytes reads =
        head ++ ((b.readProxyHeader reads).2.1.bytes ++ joinBytes (b.readProxyHeader reads).2.2) := by
  induction reads with
  | nil =>
    intro b h n _ took
    rw [joinBytes_nil, ByteArray.append_empty] at took
    exact readProxyHeader_took_front took []
  | cons c rest ih =>
    intro b h n nonempty took
    rcases parsed : ProxyHeader.parse b.bytes with e | _ | ⟨h', n'⟩
    · rw [ProxyHeader.parse_append (decided_of_refused parsed), parsed] at took
      cases took
    · rw [readProxyHeader_more parsed (nonempty c (List.mem_cons_self ..)), ← push_joinBytes]
      rw [← push_joinBytes] at took
      exact ih (b.push c) (fun d member => nonempty d (List.mem_cons_of_mem _ member)) took
    · rw [ProxyHeader.parse_append (decided_of_took parsed), parsed] at took
      cases took
      exact readProxyHeader_took_front parsed _

/-- The reads a reader made, going from `reads` to `rest`: those it took, and one more when it
found the end of the stream. -/
def readsMade (reads rest : List ByteArray) : Except WireError ProxyHeader → Nat
  | .error .closed => reads.length - rest.length + 1
  | _ => reads.length - rest.length

theorem readProxyHeader_rest_length (reads : List ByteArray) : ∀ b : FrameBuffer,
    (b.readProxyHeader reads).2.2.length ≤ reads.length := by
  induction reads with
  | nil =>
    intro b
    rcases parsed : ProxyHeader.parse b.bytes with e | _ | ⟨h, n⟩
    · rw [readProxyHeader_refused parsed]
    · rw [readProxyHeader_ended parsed]
    · rw [readProxyHeader_took parsed]
  | cons c rest ih =>
    intro b
    rcases parsed : ProxyHeader.parse b.bytes with e | _ | ⟨h, n⟩
    · rw [readProxyHeader_refused parsed]
    · by_cases some : 0 < c.size
      · rw [readProxyHeader_more parsed some]
        have := ih (b.push c)
        simp only [List.length_cons]
        omega
      · rw [readProxyHeader_eq, parsed]
        dsimp only
        rw [if_pos (by omega)]
        simp
    · rw [readProxyHeader_took parsed]

/-- A reader reads at most as many times as a header may have bytes, less those already
buffered: each read brings a byte at least, and the parser waits only on fewer bytes than
that. -/
theorem readProxyHeader_reads (reads : List ByteArray) : ∀ b : FrameBuffer,
    (∀ c ∈ reads, 0 < c.size) →
      readsMade reads (b.readProxyHeader reads).2.2 (b.readProxyHeader reads).1 ≤
        ProxyHeader.maxLength - b.bytes.size := by
  induction reads with
  | nil =>
    intro b _
    rcases parsed : ProxyHeader.parse b.bytes with e | _ | ⟨h, n⟩
    · obtain ⟨m, rfl⟩ := ProxyHeader.parse_refuses parsed
      rw [readProxyHeader_refused parsed]
      simp [readsMade]
    · have short := ProxyHeader.parse_waits parsed
      rw [readProxyHeader_ended parsed]
      simp only [readsMade, List.length_nil]
      omega
    · rw [readProxyHeader_took parsed]
      simp [readsMade]
  | cons c rest ih =>
    intro b nonempty
    rcases parsed : ProxyHeader.parse b.bytes with e | _ | ⟨h, n⟩
    · obtain ⟨m, rfl⟩ := ProxyHeader.parse_refuses parsed
      rw [readProxyHeader_refused parsed]
      simp [readsMade]
    · -- one read now, and the rest from a buffer holding at least one byte more
      have short := ProxyHeader.parse_waits parsed
      have some := nonempty c (List.mem_cons_self ..)
      have later := ih (b.push c) fun d member => nonempty d (List.mem_cons_of_mem _ member)
      have fewer := readProxyHeader_rest_length rest (b.push c)
      rw [readProxyHeader_more parsed some]
      rw [push_bytes, ByteArray.size_append] at later
      generalize (b.push c).readProxyHeader rest = outcome at later fewer ⊢
      obtain ⟨r, b', rest'⟩ := outcome
      dsimp only at later fewer ⊢
      cases r with
      | ok => simp only [readsMade, List.length_cons] at later ⊢; omega
      | error e =>
        cases e <;> simp only [readsMade, List.length_cons] at later ⊢ <;> omega
    · rw [readProxyHeader_took parsed]
      simp [readsMade]

end FrameBuffer

/-- Reading a PROXY header does not depend on how the bytes arrive. The parser's decision on a
buffer, taking a header or refusing, stands whatever follows; it waits only on fewer bytes than
the 107 a header may take, and a header takes at most 107. A reader over a stream whose reads
each bring some bytes returns what the parser makes of all of them (so the same for every way
of cutting them into reads), leaves for the frames exactly the bytes after the header, and
reads at most 107 times, less the bytes it held before. -/
theorem proxy_header_chunking_independent :
    (∀ s t : ByteArray, ProxyHeader.parse s ≠ .ok none →
      ProxyHeader.parse (s ++ t) = ProxyHeader.parse s) ∧
    (∀ s : ByteArray, match ProxyHeader.parse s with
      | .ok none => s.size < ProxyHeader.maxLength
      | .ok (some (_, n)) => n ≤ ProxyHeader.maxLength
      | .error _ => True) ∧
    ∀ (b : FrameBuffer) (reads : List ByteArray), (∀ c ∈ reads, 0 < c.size) →
      (b.readProxyHeader reads).1 = ProxyHeader.readFrom (b.bytes ++ joinBytes reads) ∧
      (∀ h n, ProxyHeader.parse (b.bytes ++ joinBytes reads) = .ok (some (h, n)) →
        ∃ head : ByteArray, head.size = n ∧ b.bytes ++ joinBytes reads =
          head ++ ((b.readProxyHeader reads).2.1.bytes ++ joinBytes (b.readProxyHeader reads).2.2)) ∧
      FrameBuffer.readsMade reads (b.readProxyHeader reads).2.2 (b.readProxyHeader reads).1 ≤
        ProxyHeader.maxLength - b.bytes.size := by
  refine ⟨fun s t decided => ProxyHeader.parse_append decided, fun s => ?_,
    fun b reads nonempty => ⟨FrameBuffer.readProxyHeader_result reads b nonempty,
      fun _ _ took => FrameBuffer.readProxyHeader_leaves reads b nonempty took,
      FrameBuffer.readProxyHeader_reads reads b nonempty⟩⟩
  rcases ProxyHeader.parse_cases s with ⟨waits, short⟩ | ⟨h, n, took, bound, -⟩ | ⟨m, refused⟩
  · rw [waits]
    exact short
  · rw [took]
    exact bound
  · rw [refused]
    trivial

/-- Bytes `PRX` cut after `PR`: the parser refuses them for their prefix, whatever follows, and
a reader over the two reads returns that refusal. -/
theorem proxy_header_chunking_independent_on_bad_prefix :
    ProxyHeader.parse ⟨#[80, 82, 88]⟩ ≠ .ok none ∧
    ProxyHeader.parse (⟨#[80, 82, 88]⟩ ++ ⟨#[13, 10]⟩) = ProxyHeader.parse ⟨#[80, 82, 88]⟩ ∧
    (∀ c ∈ [(⟨#[80, 82]⟩ : ByteArray), ⟨#[88]⟩], 0 < c.size) ∧
    (FrameBuffer.readProxyHeader {} [⟨#[80, 82]⟩, ⟨#[88]⟩]).1 =
      ProxyHeader.readFrom (({} : FrameBuffer).bytes ++ joinBytes [⟨#[80, 82]⟩, ⟨#[88]⟩]) := by
  have decided : ProxyHeader.parse ⟨#[80, 82, 88]⟩ ≠ .ok none := by
    rw [show ProxyHeader.parse ⟨#[80, 82, 88]⟩ = .error (.proxyHeader "missing PROXY prefix") from rfl]
    exact fun same => nomatch same
  have nonempty : ∀ c ∈ [(⟨#[80, 82]⟩ : ByteArray), ⟨#[88]⟩], 0 < c.size := by decide
  exact ⟨decided, proxy_header_chunking_independent.1 _ _ decided, nonempty,
    (proxy_header_chunking_independent.2.2 {} _ nonempty).1⟩

end JudgeRelay
