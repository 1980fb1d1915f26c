import JudgeRelay.Proofs.Wire.ProxyRead

/-!
# Decoding in pieces, up to the first error

A frame buffer decodes greedily. `next` reads the four-byte length `L` at the front; it
refuses a length above the limit and keeps every byte, so the refusal repeats; it waits with
every byte while the frame is incomplete; and otherwise it takes exactly the `4 + L` bytes of
the frame, whose body gives the payload or the error of `Frame.decodeBody` (`next_cases`).
`drain` calls it until it waits or fails (`drain_of_wait`, `drain_of_error`,
`drain_of_take`).

A reader pushes what each read brings and drains, and stops at its first error, for the
connection ends there (`feedToError`). What it takes does not depend on how the bytes were
cut: it is what one drain of all of them takes, the same payloads and the same first error,
and the bytes it holds followed by those it did not push are what that drain leaves
(`feedToError_eq_drain`). The argument is that bytes pushed behind a decided step change
neither the step nor what it takes (`next_push`), so pushing commutes with draining up to
where the drain stopped (`drain_push`).

A buffer fed on after an error does not have that property. A bad body is taken with its
error, and the next drain takes the frames pushed after it, while one push of all the bytes
stops at the error for good (`chunking_changes_frames_after_bad_body`).

Main result: `frames_decode_alike_until_first_error`.
-/

namespace JudgeRelay

namespace Frame

/-- The length a buffer announces is read from its first four bytes alone. -/
theorem announced_append {a : ByteArray} (c : ByteArray) (long : 4 ≤ a.size) :
    announced (a ++ c) = announced a := by
  rw [announced, announced, extract_append_left long]

end Frame

namespace FrameBuffer

variable {b b' : FrameBuffer} {c : ByteArray}

theorem push_push (b : FrameBuffer) (c d : ByteArray) : (b.push c).push d = b.push (c ++ d) := by
  simp only [push, ByteArray.append_assoc]

theorem push_empty (b : FrameBuffer) : b.push ByteArray.empty = b := by
  simp only [push, ByteArray.append_empty]

/-- `consume n` takes the first `min n size` bytes off the buffer, and nothing else. -/
theorem consume_removes (b : FrameBuffer) (n : Nat) :
    b.bytes = b.bytes.extract 0 (min n b.bytes.size) ++ (b.consume n).bytes ∧
      (b.consume n).maxFrame = b.maxFrame :=
  ⟨extract_split b.bytes (Nat.min_le_right n _), rfl⟩

/-- A frame of `L` body bytes at the front: its header, its body, and what `consume` leaves
after it. -/
theorem frame_front {n : Nat} (whole : 4 + n ≤ b.bytes.size) :
    b.bytes = b.bytes.extract 0 4 ++ b.bytes.extract 4 (4 + n) ++ (b.consume (4 + n)).bytes := by
  have front := (consume_removes b (4 + n)).1
  rw [Nat.min_eq_left whole] at front
  rw [ByteArray.extract_append_extract, Nat.zero_min, Nat.max_eq_right (by omega)]
  exact front

/-- Taking bytes the buffer holds off its front commutes with pushing more behind them. -/
theorem consume_push {n : Nat} (within : n ≤ b.bytes.size) (c : ByteArray) :
    (b.push c).consume n = (b.consume n).push c := by
  have longer : n ≤ (b.bytes ++ c).size := by rw [ByteArray.size_append]; omega
  simp only [consume, push, Nat.min_eq_left within, Nat.min_eq_left longer,
    extract_append_from _ _ within]

/-! ## One step of decoding -/

theorem next_refuses (long : 4 ≤ b.bytes.size) (big : b.maxFrame < Frame.announced b.bytes) :
    b.next = (.error (.frameTooLarge (Frame.announced b.bytes) b.maxFrame), b) := by
  rw [next, if_neg (show ¬b.bytes.size < Frame.headerSize by unfold Frame.headerSize; omega)]
  dsimp only
  rw [if_pos (show Frame.announced b.bytes > b.maxFrame from big)]

theorem next_waits (fits : Frame.announced b.bytes ≤ b.maxFrame)
    (incomplete : b.bytes.size < 4 + Frame.announced b.bytes) : b.next = (.ok none, b) := by
  rw [next]
  split
  · rfl
  · dsimp only
    rw [if_neg (show ¬Frame.announced b.bytes > b.maxFrame by omega),
      if_pos (show b.bytes.size < Frame.headerSize + Frame.announced b.bytes from incomplete)]

theorem next_takes (fits : Frame.announced b.bytes ≤ b.maxFrame)
    (whole : 4 + Frame.announced b.bytes ≤ b.bytes.size) :
    b.next = ((Frame.decodeBody b.zlib (b.bytes.extract 4 (4 + Frame.announced b.bytes)) b.maxFrame).map some,
      b.consume (4 + Frame.announced b.bytes)) := by
  rw [next, if_neg (show ¬b.bytes.size < Frame.headerSize by unfold Frame.headerSize; omega)]
  dsimp only
  rw [if_neg (show ¬Frame.announced b.bytes > b.maxFrame by omega),
    if_neg (show ¬b.bytes.size < Frame.headerSize + Frame.announced b.bytes by
      unfold Frame.headerSize; omega)]
  rfl

/-- What one step does to a buffer with length `L` at its front. With fewer than four bytes,
or fewer than `4 + L` and `L` within the limit, it waits and keeps every byte. With `L` above
the limit it refuses the frame and keeps every byte. Otherwise it takes the `4 + L` bytes of
the frame and gives what its body decodes to, the payload or the error. -/
theorem next_cases (b : FrameBuffer) :
    (b.next = (.ok none, b) ∧ (b.bytes.size < 4 ∨
      Frame.announced b.bytes ≤ b.maxFrame ∧ b.bytes.size < 4 + Frame.announced b.bytes)) ∨
    (4 ≤ b.bytes.size ∧ b.maxFrame < Frame.announced b.bytes ∧
      b.next = (.error (.frameTooLarge (Frame.announced b.bytes) b.maxFrame), b)) ∨
    (Frame.announced b.bytes ≤ b.maxFrame ∧ 4 + Frame.announced b.bytes ≤ b.bytes.size ∧
      b.next = ((Frame.decodeBody b.zlib (b.bytes.extract 4 (4 + Frame.announced b.bytes)) b.maxFrame).map some,
        b.consume (4 + Frame.announced b.bytes))) := by
  by_cases short : b.bytes.size < 4
  · exact .inl ⟨next_short short, .inl short⟩
  by_cases big : b.maxFrame < Frame.announced b.bytes
  · exact .inr (.inl ⟨by omega, big, next_refuses (by omega) big⟩)
  by_cases incomplete : b.bytes.size < 4 + Frame.announced b.bytes
  · exact .inl ⟨next_waits (by omega) incomplete, .inr ⟨by omega, incomplete⟩⟩
  · exact .inr (.inr ⟨by omega, by omega, next_takes (by omega) (by omega)⟩)

/-- A frame taken is its header, then `L` bytes of body, and the buffer keeps what follows. -/
theorem next_takes_front (fits : Frame.announced b.bytes ≤ b.maxFrame)
    (whole : 4 + Frame.announced b.bytes ≤ b.bytes.size) :
    ∃ body, body.size = Frame.announced b.bytes ∧
      b.bytes = b.bytes.extract 0 4 ++ body ++ b.next.2.bytes ∧
      b.next.1 = (Frame.decodeBody b.zlib body b.maxFrame).map some ∧ b.next.2.maxFrame = b.maxFrame := by
  rw [next_takes fits whole]
  dsimp only
  refine ⟨b.bytes.extract 4 (4 + Frame.announced b.bytes), ?_, frame_front whole, rfl,
    (consume_removes b _).2⟩
  rw [ByteArray.size_extract]
  omega

theorem next_wait_self (waits : b.next = (.ok none, b')) : b' = b := by
  rcases next_cases b with ⟨same, -⟩ | ⟨-, -, refused⟩ | ⟨-, -, takes⟩
  · rw [same] at waits
    exact (Prod.mk.inj waits).2.symm
  · rw [refused] at waits
    nomatch waits
  · rw [takes] at waits
    cases decoded : Frame.decodeBody _ _ _ <;> rw [decoded] at waits <;> nomatch waits

/-- A frame taken leaves at least its four header bytes fewer. -/
theorem next_take_size {p : ByteArray} (takes : b.next = (.ok (some p), b')) :
    b'.bytes.size + 4 ≤ b.bytes.size := by
  rcases next_cases b with ⟨waits, -⟩ | ⟨-, -, refused⟩ | ⟨-, whole, took⟩
  · rw [waits] at takes
    nomatch takes
  · rw [refused] at takes
    nomatch takes
  · rw [took] at takes
    rw [← (Prod.mk.inj takes).2, consume, ByteArray.size_extract]
    omega

/-- Once the front of a buffer decides a step, a frame taken or refused, bytes pushed behind
change neither its result nor what it takes. -/
theorem next_push {r : Except WireError (Option ByteArray)} (step : b.next = (r, b'))
    (decided : r ≠ .ok none) (c : ByteArray) : (b.push c).next = (r, b'.push c) := by
  rcases next_cases b with ⟨waits, -⟩ | ⟨long, big, refused⟩ | ⟨fits, whole, takes⟩
  · rw [waits] at step
    exact absurd (Prod.mk.inj step).1.symm decided
  · rw [refused] at step
    obtain ⟨rfl, rfl⟩ := Prod.mk.inj step
    have same : Frame.announced (b.push c).bytes = Frame.announced b.bytes :=
      Frame.announced_append c long
    have longer : 4 ≤ (b.push c).bytes.size := by rw [push_bytes, ByteArray.size_append]; omega
    rw [next_refuses longer (by rw [same]; exact big), same]
    rfl
  · rw [takes] at step
    obtain ⟨rfl, rfl⟩ := Prod.mk.inj step
    have same : Frame.announced (b.push c).bytes = Frame.announced b.bytes :=
      Frame.announced_append c (by omega)
    have longer : 4 + Frame.announced b.bytes ≤ (b.push c).bytes.size := by
      rw [push_bytes, ByteArray.size_append]; omega
    rw [next_takes (by rw [same]; exact fits) (by rw [same]; exact longer), same, push_bytes,
      extract_append_left whole, consume_push whole]
    rfl

/-! ## Draining -/

/-- The taking goes on through the frames, and the fuel only bounds their number. -/
theorem drainWith_acc (f : Nat) : ∀ (b : FrameBuffer) (acc : List ByteArray),
    b.drainWith f acc = (acc.reverse ++ (b.drainWith f []).1, (b.drainWith f []).2) := by
  induction f with
  | zero => intro b acc; simp [drainWith]
  | succ f ih =>
    intro b acc
    simp only [drainWith]
    rcases b.next with ⟨(e | _ | p), b₁⟩
    · simp
    · simp
    · dsimp only
      rw [ih b₁ (p :: acc), ih b₁ [p]]
      simp

/-- Any fuel above a quarter of the bytes held takes every frame. -/
theorem drainWith_fuel (f : Nat) : ∀ (g : Nat) (b : FrameBuffer) (acc : List ByteArray),
    b.bytes.size / Frame.headerSize < f → b.bytes.size / Frame.headerSize < g →
    b.drainWith f acc = b.drainWith g acc := by
  induction f with
  | zero => intro g b acc enough; exact absurd enough (Nat.not_lt_zero _)
  | succ f ih =>
    intro g b acc enough enough'
    cases g with
    | zero => exact absurd enough' (Nat.not_lt_zero _)
    | succ g =>
      simp only [drainWith]
      rcases step : b.next with ⟨(e | _ | p), b₁⟩
      · rfl
      · rfl
      · -- the frame took four bytes, so a quarter of what is left is below both fuels
        have fewer := next_take_size step
        simp only [Frame.headerSize] at enough enough' ih ⊢
        exact ih g b₁ (p :: acc) (by omega) (by omega)

theorem drain_of_wait (waits : b.next = (.ok none, b')) : b.drain = ([], none, b') := by
  rw [drain, drainWith, waits]
  rfl

theorem drain_of_error {e : WireError} (refused : b.next = (.error e, b')) :
    b.drain = ([], some e, b') := by
  rw [drain, drainWith, refused]
  rfl

theorem drain_of_take {p : ByteArray} (takes : b.next = (.ok (some p), b')) :
    b.drain = (p :: b'.drain.1, b'.drain.2) := by
  have fewer := next_take_size takes
  rw [drain, drainWith, takes]
  dsimp only
  rw [drainWith_acc, drainWith_fuel _ (b'.bytes.size / Frame.headerSize + 1) b' []
    (by simp only [Frame.headerSize]; omega) (by omega)]
  rfl

/-- Induction along draining: what holds where a buffer stops, waiting or refusing, and
passes from the buffer a frame leaves to the buffer it was taken from, holds everywhere. -/
theorem drain_induction (motive : FrameBuffer → Prop)
    (stop : ∀ b : FrameBuffer, (∀ p b₁, b.next ≠ (.ok (some p), b₁)) → motive b)
    (take : ∀ (b : FrameBuffer) p b₁, b.next = (.ok (some p), b₁) → motive b₁ → motive b)
    (b : FrameBuffer) : motive b := by
  suffices ∀ n (b : FrameBuffer), b.bytes.size < n → motive b from this _ b (Nat.lt_succ_self _)
  intro n
  induction n with
  | zero => intro b small; omega
  | succ n ih =>
    intro b small
    rcases step : b.next with ⟨(e | _ | p), b₁⟩
    · exact stop b fun p b₁ takes => by rw [step] at takes; nomatch takes
    · exact stop b fun p b₁ takes => by rw [step] at takes; nomatch takes
    · exact take b p b₁ step (ih b₁ (by have := next_take_size step; omega))

/-- A drain that ends without error leaves a buffer that waits. -/
theorem drain_waits : ∀ (b : FrameBuffer) {ps : List ByteArray} {b' : FrameBuffer},
    b.drain = (ps, none, b') → b'.next = (.ok none, b') := by
  refine drain_induction _ (fun b stops ps b' drained => ?_) (fun b p b₁ takes ih ps b' drained => ?_)
  · rcases step : b.next with ⟨(e | _ | p), b₁⟩
    · rw [drain_of_error step] at drained
      nomatch drained
    · rw [drain_of_wait step] at drained
      simp only [Prod.mk.injEq] at drained
      obtain ⟨-, -, rfl⟩ := drained
      have same := next_wait_self step
      subst same
      exact step
    · exact absurd step (stops p b₁)
  · rw [drain_of_take takes] at drained
    exact @ih b₁.drain.1 b' (by rw [← (Prod.mk.inj drained).2])

/-- Pushing bytes before draining changes only what follows the point where the drain
stopped: a drain that stopped waiting goes on through the new bytes, and one that stopped at
an error stops there again, with the new bytes held after what it held. -/
theorem drain_push (c : ByteArray) (b : FrameBuffer) :
    (b.push c).drain = match b.drain with
      | (ps, none, b') => (ps ++ (b'.push c).drain.1, (b'.push c).drain.2)
      | (ps, some e, b') => (ps, some e, b'.push c) := by
  induction b using drain_induction with
  | stop b stops =>
    rcases step : b.next with ⟨(e | _ | p), b₁⟩
    · rw [drain_of_error step, drain_of_error (next_push step (nomatch ·) c)]
    · -- waiting keeps the buffer, and the drain starts again with the new bytes
      rw [drain_of_wait step, next_wait_self step]
      simp
    · exact absurd step (stops p b₁)
  | take b p b₁ takes ih =>
    rw [drain_of_take takes, drain_of_take (next_push takes (nomatch ·) c), ih]
    rcases b₁.drain with ⟨qs, _ | e, b₂⟩ <;> simp

/-! ## Reading up to the first error -/

/-- A reader's decoding: push each piece in turn and drain, and stop at the first error, for
the connection ends there. Gives the payloads taken, the error met, the buffer, and the
pieces not pushed. -/
def feedToError (b : FrameBuffer) :
    List ByteArray → List ByteArray × Option WireError × FrameBuffer × List ByteArray
  | [] => ([], none, b, [])
  | c :: cs =>
    match (b.push c).drain with
    | (ps, some e, b') => (ps, some e, b', cs)
    | (ps, none, b') => (ps ++ (b'.feedToError cs).1, (b'.feedToError cs).2)

/-- From a buffer that waits, reading pieces up to the first error takes what one drain of
all their bytes takes: the same payloads and the same first error, and the bytes held,
followed by the pieces not pushed, are what that drain leaves. The induction is on the
pieces; after a piece drained without error, the buffer waits again. -/
theorem feedToError_eq_drain : ∀ (chunks : List ByteArray) (b : FrameBuffer),
    b.next = (.ok none, b) → ∀ {ps e b' rest}, b.feedToError chunks = (ps, e, b', rest) →
      (b.push (joinBytes chunks)).drain = (ps, e, b'.push (joinBytes rest))
  | [], b, waits, ps, e, b', rest, fed => by
    obtain ⟨rfl, rfl, rfl, rfl⟩ : [] = ps ∧ none = e ∧ b = b' ∧ [] = rest := by
      simpa [feedToError] using fed
    rw [joinBytes_nil, push_empty, drain_of_wait waits]
  | c :: cs, b, _, ps, e, b', rest, fed => by
    rw [joinBytes_cons, ← push_push, drain_push]
    rw [feedToError] at fed
    rcases pushed : (b.push c).drain with ⟨ps₁, _ | e₁, b₁⟩
    · rw [pushed] at fed
      dsimp only at fed ⊢
      rcases later : b₁.feedToError cs with ⟨qs, e₂, b₂, rest₂⟩
      rw [later] at fed
      obtain ⟨rfl, rfl, rfl, rfl⟩ : ps₁ ++ qs = ps ∧ e₂ = e ∧ b₂ = b' ∧ rest₂ = rest := by
        simpa using fed
      rw [feedToError_eq_drain cs b₁ (drain_waits _ pushed) later]
    · rw [pushed] at fed
      obtain ⟨rfl, rfl, rfl, rfl⟩ : ps₁ = ps ∧ some e₁ = e ∧ b₁ = b' ∧ cs = rest := by
        simpa using fed
      rfl

end FrameBuffer

open FrameBuffer in
/-- Decoding does not depend on how the bytes were cut, up to the first error. A step of the
decoder waits and keeps every byte while the frame at the front is incomplete; refuses a
length above the limit and keeps every byte; and otherwise takes exactly the `4 + L` bytes
of the frame, giving what its body decodes to, an error included. `consume n` takes exactly
the first `min n size` bytes. Draining repeats the step until it waits or fails. A fresh
decoder read piece by piece, stopping at the first error, takes what one drain of all the
bytes takes: the same payloads, the same first error, and the same bytes left once the
pieces not pushed are added; so any two cuttings of the same bytes take the same payloads
and meet the same first error. -/
theorem frames_decode_alike_until_first_error :
    (∀ b : FrameBuffer,
      (b.next = (.ok none, b) ∧ (b.bytes.size < 4 ∨
        Frame.announced b.bytes ≤ b.maxFrame ∧ b.bytes.size < 4 + Frame.announced b.bytes)) ∨
      (4 ≤ b.bytes.size ∧ b.maxFrame < Frame.announced b.bytes ∧
        b.next = (.error (.frameTooLarge (Frame.announced b.bytes) b.maxFrame), b)) ∨
      (Frame.announced b.bytes ≤ b.maxFrame ∧ 4 + Frame.announced b.bytes ≤ b.bytes.size ∧
        ∃ body, body.size = Frame.announced b.bytes ∧
          b.bytes = b.bytes.extract 0 4 ++ body ++ b.next.2.bytes ∧
          b.next.1 = (Frame.decodeBody b.zlib body b.maxFrame).map some ∧
          b.next.2.maxFrame = b.maxFrame)) ∧
    (∀ (b : FrameBuffer) n, ∃ head, head.size = min n b.bytes.size ∧
      b.bytes = head ++ (b.consume n).bytes ∧ (b.consume n).maxFrame = b.maxFrame) ∧
    (∀ (b b' : FrameBuffer) r, b.next = (r, b') →
      (r = .ok none → b.drain = ([], none, b')) ∧
      (∀ e, r = .error e → b.drain = ([], some e, b')) ∧
      (∀ p, r = .ok (some p) → b.drain = (p :: b'.drain.1, b'.drain.2))) ∧
    (∀ (m : Nat) chunks ps e b' rest,
      ({ maxFrame := m } : FrameBuffer).feedToError chunks = (ps, e, b', rest) →
      (({ maxFrame := m } : FrameBuffer).push (joinBytes chunks)).drain =
        (ps, e, b'.push (joinBytes rest))) ∧
    ∀ (m : Nat) chunks chunks', joinBytes chunks = joinBytes chunks' →
      (({ maxFrame := m } : FrameBuffer).feedToError chunks).1 =
          (({ maxFrame := m } : FrameBuffer).feedToError chunks').1 ∧
        (({ maxFrame := m } : FrameBuffer).feedToError chunks).2.1 =
          (({ maxFrame := m } : FrameBuffer).feedToError chunks').2.1 := by
  have fresh (m : Nat) : ({ maxFrame := m } : FrameBuffer).next = (.ok none, { maxFrame := m }) :=
    next_short (by simp [Frame.headerSize])
  have oneShot (m : Nat) (chunks : List ByteArray) {ps e b' rest}
      (fed : ({ maxFrame := m } : FrameBuffer).feedToError chunks = (ps, e, b', rest)) :=
    feedToError_eq_drain chunks _ (fresh m) fed
  refine ⟨fun b => ?_, fun b n => ?_, fun b b' r step => ?_, fun m chunks ps e b' rest fed =>
    oneShot m chunks fed, fun m chunks chunks' same => ?_⟩
  · rcases next_cases b with waits | refused | ⟨fits, whole, takes⟩
    · exact .inl waits
    · exact .inr (.inl refused)
    · exact .inr (.inr ⟨fits, whole, next_takes_front fits whole⟩)
  · exact ⟨_, by rw [ByteArray.size_extract]; omega, (consume_removes b n).1, (consume_removes b n).2⟩
  · refine ⟨fun waits => ?_, fun e refused => ?_, fun p takes => ?_⟩
    · exact drain_of_wait (waits ▸ step)
    · exact drain_of_error (refused ▸ step)
    · exact drain_of_take (takes ▸ step)
  · rcases fed : ({ maxFrame := m } : FrameBuffer).feedToError chunks with ⟨ps, e, b', rest⟩
    rcases fed' : ({ maxFrame := m } : FrameBuffer).feedToError chunks' with ⟨qs, e', b'', rest'⟩
    have agree := (oneShot m chunks fed).symm.trans (same ▸ oneShot m chunks' fed')
    exact ⟨(Prod.mk.inj agree).1, (Prod.mk.inj (Prod.mk.inj agree).2).1⟩

open FrameBuffer in
/-- A frame header cut across two pieces and refused once whole: the reader stops there with
every byte held, as one drain of the bytes does. -/
theorem frames_decode_alike_on_refused_header :
    ({ maxFrame := 0 } : FrameBuffer).feedToError [⟨#[0, 0, 0]⟩, ⟨#[1, 7]⟩] =
        ([], some (.frameTooLarge 1 0), { maxFrame := 0, bytes := ⟨#[0, 0, 0, 1, 7]⟩ }, []) ∧
      (({ maxFrame := 0 } : FrameBuffer).push (joinBytes [⟨#[0, 0, 0]⟩, ⟨#[1, 7]⟩])).drain =
        ([], some (.frameTooLarge 1 0),
          ({ maxFrame := 0, bytes := ⟨#[0, 0, 0, 1, 7]⟩ } : FrameBuffer).push (joinBytes [])) :=
  ⟨by rfl, frames_decode_alike_until_first_error.2.2.2.1 0 _ _ _ _ _ (by rfl)⟩

/-- Fed on after an error, a buffer takes a frame that one push of the same bytes never
reaches. A body that does not inflate is taken with its error; the frame after it, coming in
a later piece, is taken by the next drain, while one piece holding both stops at the error.
Both meet the same error. -/
theorem chunking_changes_frames_after_bad_body :
    (({} : FrameBuffer).feed [⟨#[0, 0, 0, 5, 106, 117, 110, 107, 33]⟩,
        ⟨#[0, 0, 0, 13, 120, 156, 75, 76, 43, 73, 45, 2, 0, 6, 26, 2, 19]⟩]).1 = ["after".toUTF8] ∧
    (({} : FrameBuffer).feed [⟨#[0, 0, 0, 5, 106, 117, 110, 107, 33]⟩,
        ⟨#[0, 0, 0, 13, 120, 156, 75, 76, 43, 73, 45, 2, 0, 6, 26, 2, 19]⟩]).2.1.map WireError.kind =
      ["Decompress"] ∧
    (({} : FrameBuffer).feed [⟨#[0, 0, 0, 5, 106, 117, 110, 107, 33, 0, 0, 0, 13, 120, 156, 75, 76,
        43, 73, 45, 2, 0, 6, 26, 2, 19]⟩]).1 = [] ∧
    (({} : FrameBuffer).feed [⟨#[0, 0, 0, 5, 106, 117, 110, 107, 33, 0, 0, 0, 13, 120, 156, 75, 76,
        43, 73, 45, 2, 0, 6, 26, 2, 19]⟩]).2.1.map WireError.kind = ["Decompress"] := by
  decide +kernel

end JudgeRelay
