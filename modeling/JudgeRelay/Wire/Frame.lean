import JudgeRelay.Deflate.Stream
import JudgeRelay.Wire.Error

/-!
# Frames

Every packet travels as its compressed length, four bytes most significant first,
followed by the compressed stream of the payload. A peer may announce at most
`maxFrameSize` bytes, and a body may inflate to at most as many.

A body is read through a cap of one byte more than the limit, so a payload that comes out
longer is refused having read one byte past the limit. The cap is computed in 64-bit
arithmetic (`readCap`): at the largest limit it wraps around to 0, and nothing is read.
-/

namespace JudgeRelay

namespace Frame

/-- The largest frame accepted from a peer, compressed or inflated (64 MiB). -/
def maxFrameSize : Nat := 64 * 1024 * 1024

/-- Size of the length prefix. -/
def headerSize : Nat := 4

/-- The longest body the four-byte prefix can announce. -/
def maxBody : Nat := Nat.pow 2 32 - 1

/-- The frame carrying a payload, its body compressed by `z`; a body too long for the prefix
is refused. -/
def encode (z : Deflate.Zlib) (payload : ByteArray) : Except WireError ByteArray :=
  let body := z.compress payload
  if body.size > maxBody then .error (.frameTooLarge body.size maxBody)
  else .ok (Deflate.be32 body.size ++ body)

/-- `limit as u64 + 1`: one byte past the limit, in 64-bit arithmetic. -/
def readCap (limit : Nat) : Nat := (limit + 1) % Nat.pow 2 64

/-- Inflates one frame body through the cap `readCap limit`, refusing a payload longer than
`limit`. -/
def decodeBody (z : Deflate.Zlib) (body : ByteArray) (limit : Nat) : Except WireError ByteArray :=
  match z.read body (readCap limit) with
  | none => .error .decompress
  | some payload =>
    if payload.size > limit then .error (.frameTooLarge payload.size limit) else .ok payload

/-- The length a buffer announces in its first four bytes. -/
def announced (buf : ByteArray) : Nat :=
  (buf.extract 0 4).foldl (fun acc b => acc * 256 + b.toNat) 0

end Frame

/-- Bytes received on a connection and not yet taken by a complete frame. -/
structure FrameBuffer where
  /-- The largest frame accepted, compressed or inflated. -/
  maxFrame : Nat := Frame.maxFrameSize
  /-- The codec that inflates the bodies. -/
  zlib : Deflate.Zlib := Deflate.zlib
  /-- The bytes held. -/
  bytes : ByteArray := ByteArray.empty

namespace FrameBuffer

/-- Appends received bytes. -/
def push (b : FrameBuffer) (data : ByteArray) : FrameBuffer := { b with bytes := b.bytes ++ data }

/-- Drops the first `n` bytes held, or all of them if fewer. -/
def consume (b : FrameBuffer) (n : Nat) : FrameBuffer :=
  { b with bytes := b.bytes.extract (min n b.bytes.size) b.bytes.size }

/-- Takes the next frame once it is complete. A frame announced larger than the limit
is refused before its body arrives, and nothing is taken, so it is refused again on
the next call; a complete frame is taken even when its body fails to inflate. -/
def next (b : FrameBuffer) : Except WireError (Option ByteArray) × FrameBuffer :=
  if b.bytes.size < Frame.headerSize then (.ok none, b)
  else
    let len := Frame.announced b.bytes
    if len > b.maxFrame then (.error (.frameTooLarge len b.maxFrame), b)
    else if b.bytes.size < Frame.headerSize + len then (.ok none, b)
    else
      let body := b.bytes.extract Frame.headerSize (Frame.headerSize + len)
      (Frame.decodeBody b.zlib body b.maxFrame |>.map some, b.consume (Frame.headerSize + len))

/-- Takes every complete frame, stopping at the first error. The fuel bounds the
number of frames, each of which takes at least the four bytes of its header. -/
def drainWith : Nat → FrameBuffer → List ByteArray → List ByteArray × Option WireError × FrameBuffer
  | 0, b, acc => (acc.reverse, none, b)
  | fuel + 1, b, acc =>
    match b.next with
    | (.ok none, b) => (acc.reverse, none, b)
    | (.ok (some p), b) => drainWith fuel b (p :: acc)
    | (.error e, b) => (acc.reverse, some e, b)

/-- Takes every complete frame: the payloads, the error that stopped the taking if
any, and what remains. -/
def drain (b : FrameBuffer) : List ByteArray × Option WireError × FrameBuffer :=
  drainWith (b.bytes.size / Frame.headerSize + 1) b []

end FrameBuffer

end JudgeRelay
