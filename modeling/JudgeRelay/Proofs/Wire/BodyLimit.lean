import JudgeRelay.Proofs.Wire.Reassembly

/-!
# What decoding a frame body gives, for every limit

`Frame.decodeBody z body limit` reads the stream at the front of `body` through codec `z`, with
a cap of one byte past `limit` on what the decoder gives, and refuses more than `limit` bytes
of payload. The cap is computed in 64-bit arithmetic, so at the largest limit it wraps around
to 0 and every body gives the empty payload (`Frame.decodeBody_largest`). Below it, what the
body gives depends only on how the decoder ends (`Deflate.Outcome`):

* a payload, exactly when the stream is whole and its payload has at most `limit` bytes
  (`decodeBody_ok_iff`);
* `FrameTooLarge (limit + 1) limit`, exactly when more than `limit` bytes come out before the
  decoder can tell anything else (`Frame.Overflows`): the whole payload is longer, or the
  input ends after more than `limit` bytes, or the stream goes bad after more than `limit`
  bytes and the decoder does not report it to a reader asking for `limit + 1`
  (`decodeBody_tooLarge_iff`);
* `Decompress` otherwise, and no other error (`decodeBody_error`).

No payload longer than the limit is ever given, at any limit. A codec whose decoder undoes its
compressor gives a payload back when it fits and reports it too large when it does not
(`decodeBody_compress_any`). The relay's decoder works a 32 KiB window at a time and reports a
fault inside the window that holds the byte past the limit; that window ends above the limit
and within 32 KiB of it (`windowEnd_bounds`).

So a stream that goes bad inside that window is corrupt, even when more than `limit` bytes
come out before its fault: `checksum_failure_in_window_is_corrupt` shows a six-byte payload
whose checksum is wrong, decoded with limit 3, reported as `Decompress`, while the same stream
with its checksum right is too large.

Main result: `frame_body_decoding_bounded`.
-/

namespace JudgeRelay

namespace Frame

variable {z : Deflate.Zlib} {body p : ByteArray} {limit : Nat}

/-- More than `limit` bytes come out of the stream before the decoder can tell anything
else: the whole payload is longer than the limit, or the input ends after more than `limit`
bytes, or the stream goes bad after more than `limit` bytes and the decoder does not report it
to a reader asking for `limit + 1`. -/
def Overflows (z : Deflate.Zlib) (body : ByteArray) (limit : Nat) : Prop :=
  (∃ p, z.inflate body = .complete p ∧ limit < p.size) ∨
    (∃ q, z.inflate body = .truncated q ∧ limit < q.size) ∨
    ∃ q, z.inflate body = .corrupt q ∧ limit < q.size ∧ z.surfaces q.size (limit + 1) = false

/-- The window that holds byte `limit + 1` ends above the limit, and within 32 KiB of it. -/
theorem windowEnd_bounds (limit : Nat) :
    limit < Deflate.windowEnd (limit + 1) ∧ Deflate.windowEnd (limit + 1) ≤ limit + 32768 := by
  have below := Nat.lt_div_mul_add (a := limit) (b := 32768) (by decide)
  have above := Nat.div_mul_le_self limit 32768
  rw [Deflate.windowEnd, Nat.add_sub_cancel, Nat.add_mul, Nat.one_mul]
  -- the window starts at the multiple of 32 KiB at or below the limit
  generalize limit / 32768 * 32768 = start at below above ⊢
  omega

/-- The first `limit + 1` bytes of more than `limit`: one byte too many. -/
theorem size_extract_succ {q : ByteArray} (long : limit < q.size) :
    (q.extract 0 (limit + 1)).size = limit + 1 := by
  rw [ByteArray.size_extract]
  omega

section Capped

variable (capped : readCap limit = limit + 1)
include capped

theorem decodeBody_complete (inflated : z.inflate body = .complete p) :
    decodeBody z body limit =
      if p.size > limit then .error (.frameTooLarge (limit + 1) limit) else .ok p := by
  by_cases long : p.size > limit
  · rw [decodeBody, Deflate.Zlib.read, capped, if_neg (Nat.succ_ne_zero limit), inflated]
    simp only [size_extract_succ long, if_pos (Nat.lt_succ_self limit), if_pos long]
  · rw [decodeBody_of_complete inflated capped (Nat.not_lt.1 long), if_neg long]

theorem decodeBody_truncated {q : ByteArray} (inflated : z.inflate body = .truncated q) :
    decodeBody z body limit =
      if q.size > limit then .error (.frameTooLarge (limit + 1) limit) else .error .decompress := by
  rw [decodeBody, Deflate.Zlib.read, capped, if_neg (Nat.succ_ne_zero limit), inflated]
  by_cases long : q.size > limit
  · simp only [if_pos (show limit + 1 ≤ q.size by omega), size_extract_succ long,
      if_pos (Nat.lt_succ_self limit), if_pos long]
  · simp only [if_neg (show ¬limit + 1 ≤ q.size by omega), if_neg long]

theorem decodeBody_corrupt {q : ByteArray} (inflated : z.inflate body = .corrupt q) :
    decodeBody z body limit =
      if q.size > limit ∧ z.surfaces q.size (limit + 1) = false then
        .error (.frameTooLarge (limit + 1) limit)
      else .error .decompress := by
  rw [decodeBody, Deflate.Zlib.read, capped, if_neg (Nat.succ_ne_zero limit), inflated]
  dsimp only
  by_cases long : q.size > limit
  · -- a fault past the limit is kept from the reader only when the decoder does not report it
    cases surfaced : z.surfaces q.size (limit + 1)
    · have kept : (decide (limit + 1 ≤ q.size) && !false) = true := by
        simp only [Bool.not_false, Bool.and_true, decide_eq_true_eq]
        omega
      rw [if_pos kept]
      dsimp only
      rw [size_extract_succ long, if_pos (Nat.lt_succ_self limit), if_pos ⟨long, rfl⟩]
    · simp [surfaced]
  · have short : decide (limit + 1 ≤ q.size) = false := by simp; omega
    simp [short, long]

/-- A payload is given exactly when the stream is whole and the payload fits the limit. -/
theorem decodeBody_ok_iff : decodeBody z body limit = .ok p ↔
    z.inflate body = .complete p ∧ p.size ≤ limit := by
  constructor
  · intro decoded
    rcases inflated : z.inflate body with q | q | q
    · rw [decodeBody_complete capped inflated] at decoded
      split at decoded
      · cases decoded
      · cases decoded
        exact ⟨rfl, by omega⟩
    · rw [decodeBody_corrupt capped inflated] at decoded
      split at decoded <;> cases decoded
    · rw [decodeBody_truncated capped inflated] at decoded
      split at decoded <;> cases decoded
  · rintro ⟨inflated, fits⟩
    rw [decodeBody_complete capped inflated, if_neg (by omega)]

/-- The frame is reported too large exactly when more than `limit` bytes come out before
anything else is known. -/
theorem decodeBody_tooLarge_iff :
    decodeBody z body limit = .error (.frameTooLarge (limit + 1) limit) ↔ Overflows z body limit := by
  unfold Overflows
  rcases inflated : z.inflate body with q | q | q
  · rw [decodeBody_complete capped inflated]
    by_cases long : q.size > limit
    · simp [long]
    · simp [long]
  · rw [decodeBody_corrupt capped inflated]
    by_cases bad : q.size > limit ∧ z.surfaces q.size (limit + 1) = false
    · simp [bad]
    · simp only [if_neg bad]
      simp only [gt_iff_lt] at bad
      simp [bad]
  · rw [decodeBody_truncated capped inflated]
    by_cases long : q.size > limit
    · simp [long]
    · simp [long]

/-- The only errors are `Decompress` and `FrameTooLarge (limit + 1) limit`. -/
theorem decodeBody_error {e : WireError} (failed : decodeBody z body limit = .error e) :
    e = .decompress ∨ e = .frameTooLarge (limit + 1) limit := by
  rcases inflated : z.inflate body with q | q | q
  · rw [decodeBody_complete capped inflated] at failed
    split at failed <;> cases failed
    exact .inr rfl
  · rw [decodeBody_corrupt capped inflated] at failed
    split at failed <;> cases failed
    · exact .inr rfl
    · exact .inl rfl
  · rw [decodeBody_truncated capped inflated] at failed
    split at failed <;> cases failed
    · exact .inr rfl
    · exact .inl rfl

/-- A stream written by a codec's compressor that its decoder undoes gives its payload back
when it fits, and is too large when it does not. -/
theorem decodeBody_compress_any (inverse : z.Inverse) (p : ByteArray) :
    decodeBody z (z.compress p) limit =
      if p.size ≤ limit then .ok p else .error (.frameTooLarge (limit + 1) limit) := by
  rw [decodeBody_complete capped (inverse p)]
  by_cases fits : p.size ≤ limit
  · rw [if_neg (by omega), if_pos fits]
  · rw [if_pos (by omega), if_neg fits]

end Capped

/-- At any limit no payload longer than the limit is given. -/
theorem decodeBody_size_le (decoded : decodeBody z body limit = .ok p) : p.size ≤ limit := by
  unfold decodeBody at decoded
  split at decoded
  · cases decoded
  · split at decoded
    · cases decoded
    · cases decoded
      omega

end Frame

/-- Decoding a frame body is bounded for every codec, body and limit. It never gives a payload
longer than the limit. At the largest limit the cap wraps around and it gives the empty
payload. Below it, it gives the payload exactly when the stream at the front of the body is
whole and its payload fits; it reports `FrameTooLarge (limit + 1) limit` exactly when more than
`limit` bytes come out before the decoder can tell anything else, where a stream that goes bad
counts only when the decoder does not report the fault to a reader asking for `limit + 1`
bytes; it reports `Decompress` otherwise, with no other error; and a stream written by a
compressor that the decoder undoes gives its payload when it fits and is too large when it does
not. The relay's decoder reports a fault inside the 32 KiB window that holds byte `limit + 1`,
which ends above the limit and within 32 KiB of it. -/
theorem frame_body_decoding_bounded (z : Deflate.Zlib) (body : ByteArray) (limit : Nat) :
    (∀ p, Frame.decodeBody z body limit = .ok p → p.size ≤ limit) ∧
    (limit = 2 ^ 64 - 1 → Frame.decodeBody z body limit = .ok ByteArray.empty) ∧
    (limit < 2 ^ 64 - 1 →
      (∀ p, Frame.decodeBody z body limit = .ok p ↔ z.inflate body = .complete p ∧ p.size ≤ limit) ∧
      (Frame.decodeBody z body limit = .error (.frameTooLarge (limit + 1) limit) ↔
        Frame.Overflows z body limit) ∧
      (∀ e, Frame.decodeBody z body limit = .error e →
        e = .decompress ∨ e = .frameTooLarge (limit + 1) limit) ∧
      (z.Inverse → ∀ p, Frame.decodeBody z (z.compress p) limit =
        if p.size ≤ limit then .ok p else .error (.frameTooLarge (limit + 1) limit))) ∧
    (Deflate.zlib.surfaces = fun n cap => decide (n < Deflate.windowEnd cap)) ∧
    limit < Deflate.windowEnd (limit + 1) ∧ Deflate.windowEnd (limit + 1) ≤ limit + 32768 := by
  refine ⟨fun _ => Frame.decodeBody_size_le, fun largest => ?_, fun below => ?_, rfl,
    Frame.windowEnd_bounds limit⟩
  · rw [largest]
    exact Frame.decodeBody_largest z body
  · have capped := Frame.readCap_of_lt below
    exact ⟨fun _ => Frame.decodeBody_ok_iff capped, Frame.decodeBody_tooLarge_iff capped,
      fun _ => Frame.decodeBody_error capped, fun inverse => Frame.decodeBody_compress_any capped inverse⟩

/-- The relay's codec: a stream it writes decodes to its payload at a limit it fits, and so it
is whole; at the largest limit it decodes to nothing. -/
theorem frame_body_decoding_bounded_on_compressed :
    Frame.decodeBody Deflate.zlib (Deflate.zlib.compress "abc".toUTF8) 3 = .ok "abc".toUTF8 ∧
      Deflate.zlib.inflate (Deflate.zlib.compress "abc".toUTF8) = .complete "abc".toUTF8 ∧
      Frame.decodeBody Deflate.zlib (Deflate.zlib.compress "abc".toUTF8) (2 ^ 64 - 1) =
        .ok ByteArray.empty := by
  have below := (frame_body_decoding_bounded Deflate.zlib (Deflate.zlib.compress "abc".toUTF8) 3).2.2.1
    (by decide)
  have fits : "abc".toUTF8.size ≤ 3 := by decide
  have decoded : Frame.decodeBody Deflate.zlib (Deflate.zlib.compress "abc".toUTF8) 3 =
      .ok "abc".toUTF8 := by
    rw [below.2.2.2 Deflate.zlib_inverse, if_pos fits]
  exact ⟨decoded, ((below.1 _).1 decoded).1,
    (frame_body_decoding_bounded Deflate.zlib (Deflate.zlib.compress "abc".toUTF8) (2 ^ 64 - 1)).2.1
      rfl⟩

/-- A stream whose checksum is wrong is corrupt, even when more bytes than the limit come out
before the checksum is read. The stream holds `abcdef`; decoded with limit 3 it is reported as
`Decompress`, since the fault lies in the window that holds byte 4. With its checksum right,
the same stream is too large. -/
theorem checksum_failure_in_window_is_corrupt :
    Deflate.inflate ⟨#[0x78, 0x9c, 0x4b, 0x4c, 0x4a, 0x4e, 0x49, 0x4d, 0x03, 0x00, 0x08, 0x1e,
      0x02, 0x57]⟩ = .corrupt "abcdef".toUTF8 ∧
    Frame.decodeBody Deflate.zlib ⟨#[0x78, 0x9c, 0x4b, 0x4c, 0x4a, 0x4e, 0x49, 0x4d, 0x03, 0x00,
      0x08, 0x1e, 0x02, 0x57]⟩ 3 = .error .decompress ∧
    Deflate.inflate ⟨#[0x78, 0x9c, 0x4b, 0x4c, 0x4a, 0x4e, 0x49, 0x4d, 0x03, 0x00, 0x08, 0x1e,
      0x02, 0x56]⟩ = .complete "abcdef".toUTF8 ∧
    Frame.decodeBody Deflate.zlib ⟨#[0x78, 0x9c, 0x4b, 0x4c, 0x4a, 0x4e, 0x49, 0x4d, 0x03, 0x00,
      0x08, 0x1e, 0x02, 0x56]⟩ 3 = .error (.frameTooLarge 4 3) := by
  have bad := Deflate.Outcome.eq_corrupt_of_check (o := Deflate.inflate ⟨#[0x78, 0x9c, 0x4b, 0x4c,
    0x4a, 0x4e, 0x49, 0x4d, 0x03, 0x00, 0x08, 0x1e, 0x02, 0x57]⟩) (q := "abcdef".toUTF8)
    (by decide +kernel)
  have good := Deflate.Outcome.eq_complete_of_check (o := Deflate.inflate ⟨#[0x78, 0x9c, 0x4b,
    0x4c, 0x4a, 0x4e, 0x49, 0x4d, 0x03, 0x00, 0x08, 0x1e, 0x02, 0x56]⟩) (p := "abcdef".toUTF8)
    (by decide +kernel)
  have capped : Frame.readCap 3 = 3 + 1 := by decide
  refine ⟨bad, ?_, good, ?_⟩
  · rw [Frame.decodeBody_corrupt capped bad]
    exact if_neg (by decide)
  · rw [Frame.decodeBody_complete capped good, if_pos (by decide)]

end JudgeRelay
