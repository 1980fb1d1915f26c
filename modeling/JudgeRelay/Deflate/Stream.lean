import JudgeRelay.Deflate.Inflate

/-!
# Compressed streams

A compressed stream is a two-byte header (compression method 8, a window of at most 32 KiB,
no preset dictionary, the pair a multiple of 31), DEFLATE data, and the Adler-32
checksum of the uncompressed bytes, most significant byte first. Bytes after the
checksum are not part of the stream.

A codec (`Zlib`) pairs a compressor with what a decoder finds in a body (`inflate`), and
reads the decoder through a cap on its output, as the relay does. Which codec runs is a
parameter: the relay's own (`zlib`) writes stored blocks, which every reader accepts, and
reads with the full inflater of `Inflate`.
-/

namespace JudgeRelay

namespace Deflate

/-- The Adler-32 checksum. -/
def adler32 (data : ByteArray) : Nat :=
  let (a, b) := data.foldl (fun (a, b) byte =>
    let a := (a + byte.toNat) % 65521
    (a, (b + a) % 65521)) (1, 0)
  b * 65536 + a

/-- How reading a compressed stream ended. -/
inductive Outcome where
  /-- The whole stream, checksum verified: the payload. -/
  | complete (payload : ByteArray)
  /-- The stream is malformed; `produced` had been inflated when this was found. -/
  | corrupt (produced : ByteArray)
  /-- The input ended inside the stream, after these bytes were inflated. -/
  | truncated (produced : ByteArray)

/-- Whether a header is acceptable. -/
def headerOk (cmf flg : UInt8) : Bool :=
  cmf % 16 == 8 && cmf / 16 ≤ 7 && (cmf.toNat * 256 + flg.toNat) % 31 == 0 && flg &&& 32 == 0

/-- Reads a compressed stream. -/
def inflate (src : ByteArray) : Outcome :=
  if src.size < 2 then .truncated ByteArray.empty
  else if !headerOk (src.get! 0) (src.get! 1) then .corrupt ByteArray.empty
  else
    match Inflate.run src 16 with
    | (some .corrupt, s) => .corrupt s.out
    | (some .truncated, s) => .truncated s.out
    | (none, s) =>
      let start := (s.bit + 7) / 8
      if start + 4 > src.size then .truncated s.out
      else
        let stored := (src.extract start (start + 4)).foldl (fun acc b => acc * 256 + b.toNat) 0
        if stored == adler32 s.out then .complete s.out else .corrupt s.out

/-- The bytes of a 16-bit number, least significant first. -/
def le16 (n : Nat) : ByteArray := ⟨#[(n % 256).toUInt8, (n / 256 % 256).toUInt8]⟩

/-- The bytes of a 32-bit number, most significant first. -/
def be32 (n : Nat) : ByteArray :=
  ⟨#[(n / Nat.pow 2 24 % 256).toUInt8, (n / Nat.pow 2 16 % 256).toUInt8, (n / Nat.pow 2 8 % 256).toUInt8,
    (n % 256).toUInt8]⟩

/-- Stored blocks of at most 65535 bytes each, the last one marked final. -/
def storedBlocks (data : ByteArray) (start : Nat) : Nat → ByteArray
  | 0 => ByteArray.empty
  | fuel + 1 =>
    let len := min 65535 (data.size - start)
    let final := start + len ≥ data.size
    let header : ByteArray := ⟨#[if final then 1 else 0]⟩
    let block := header ++ le16 len ++ le16 (65535 - len) ++ data.extract start (start + len)
    if final then block else block ++ storedBlocks data (start + len) fuel

/-- A compressed stream holding `data` in stored blocks. -/
def compress (data : ByteArray) : ByteArray :=
  (⟨#[0x78, 0x01]⟩ : ByteArray) ++ storedBlocks data 0 (data.size / 65535 + 1) ++
    be32 (adler32 data)

/-- A zlib codec. `inflate` says what a decoder finds in a body: the whole payload, or the
bytes that came out before a fault or before the input ended. A decoder inflates ahead of
what is asked of it, so whether a fault lying past a cap on the output is still reported
depends on the decoder; `surfaces` says it. -/
structure Zlib where
  compress : ByteArray → ByteArray
  inflate : ByteArray → Outcome
  /-- Whether a fault found after `produced` bytes is reported to a reader that asks for
  `cap` bytes, at most `produced`. -/
  surfaces : (produced cap : Nat) → Bool

namespace Zlib

/-- Reads a body's inflation through a cap of `cap` bytes: the bytes read, or `none` when the
decoder reports a fault, or the end of its input inside the stream, before `cap` bytes came
out. A cap of 0 asks nothing of the decoder. -/
def read (z : Zlib) (body : ByteArray) (cap : Nat) : Option ByteArray :=
  if cap = 0 then some ByteArray.empty
  else
    match z.inflate body with
    | .complete payload => some (payload.extract 0 cap)
    | .truncated produced => if cap ≤ produced.size then some (produced.extract 0 cap) else none
    | .corrupt produced =>
      if cap ≤ produced.size && !z.surfaces produced.size cap then some (produced.extract 0 cap)
      else none

/-- The compressor and the decoder undo each other: what `compress` writes inflates to the
payload. -/
def Inverse (z : Zlib) : Prop := ∀ payload, z.inflate (z.compress payload) = .complete payload

end Zlib

/-- The end of the 32 KiB window that holds output byte `cap`. -/
def windowEnd (cap : Nat) : Nat := ((cap - 1) / 32768 + 1) * 32768

/-- The relay's codec: stored blocks out, the full inflater in. The inflater works a 32 KiB
window at a time, so a fault inside the window that holds byte `cap` is reported. -/
def zlib : Zlib where
  compress := compress
  inflate := inflate
  surfaces produced cap := decide (produced < windowEnd cap)

end Deflate

end JudgeRelay
