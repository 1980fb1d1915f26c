/-!
# SHA-256

The message digest of FIPS 180-4. The message is padded to whole blocks of 64 bytes:
the byte `0x80`, zero bytes, and the message length in bits as a 64-bit big-endian
number (§5.1.1). Each block, read as sixteen big-endian words and extended to
sixty-four (§6.2.2, step 1), is mixed into a state of eight words by sixty-four rounds
(step 3) and added to it word by word (step 4). The last state, written big-endian, is
the 32-byte digest.
-/

namespace JudgeRelay

namespace Sha256

/-- Eight words: the hash value between blocks, and the working variables `a` to `h`
of the rounds within one. -/
structure State where
  a : UInt32
  b : UInt32
  c : UInt32
  d : UInt32
  e : UInt32
  f : UInt32
  g : UInt32
  h : UInt32

/-- The initial hash value (§5.3.3). -/
def State.initial : State :=
  ⟨0x6a09e667, 0xbb67ae85, 0x3c6ef372, 0xa54ff53a, 0x510e527f, 0x9b05688c, 0x1f83d9ab,
    0x5be0cd19⟩

/-- The sixty-four round constants (§4.2.2). -/
def roundConstants : List UInt32 :=
  [0x428a2f98, 0x71374491, 0xb5c0fbcf, 0xe9b5dba5, 0x3956c25b, 0x59f111f1, 0x923f82a4,
    0xab1c5ed5, 0xd807aa98, 0x12835b01, 0x243185be, 0x550c7dc3, 0x72be5d74, 0x80deb1fe,
    0x9bdc06a7, 0xc19bf174, 0xe49b69c1, 0xefbe4786, 0x0fc19dc6, 0x240ca1cc, 0x2de92c6f,
    0x4a7484aa, 0x5cb0a9dc, 0x76f988da, 0x983e5152, 0xa831c66d, 0xb00327c8, 0xbf597fc7,
    0xc6e00bf3, 0xd5a79147, 0x06ca6351, 0x14292967, 0x27b70a85, 0x2e1b2138, 0x4d2c6dfc,
    0x53380d13, 0x650a7354, 0x766a0abb, 0x81c2c92e, 0x92722c85, 0xa2bfe8a1, 0xa81a664b,
    0xc24b8b70, 0xc76c51a3, 0xd192e819, 0xd6990624, 0xf40e3585, 0x106aa070, 0x19a4c116,
    0x1e376c08, 0x2748774c, 0x34b0bcb5, 0x391c0cb3, 0x4ed8aa4a, 0x5b9cca4f, 0x682e6ff3,
    0x748f82ee, 0x78a5636f, 0x84c87814, 0x8cc70208, 0x90befffa, 0xa4506ceb, 0xbef9a3f7,
    0xc67178f2]

/-- Rotation right by `n` bits, for `0 < n < 32`. -/
def rotr (x n : UInt32) : UInt32 := (x >>> n) ||| (x <<< (32 - n))

/-- `σ₀` of the message schedule (§4.1.2). -/
def smallSigma0 (x : UInt32) : UInt32 := rotr x 7 ^^^ rotr x 18 ^^^ (x >>> 3)

/-- `σ₁` of the message schedule (§4.1.2). -/
def smallSigma1 (x : UInt32) : UInt32 := rotr x 17 ^^^ rotr x 19 ^^^ (x >>> 10)

/-- `Σ₀` of the rounds (§4.1.2). -/
def bigSigma0 (x : UInt32) : UInt32 := rotr x 2 ^^^ rotr x 13 ^^^ rotr x 22

/-- `Σ₁` of the rounds (§4.1.2). -/
def bigSigma1 (x : UInt32) : UInt32 := rotr x 6 ^^^ rotr x 11 ^^^ rotr x 25

/-- The message, the byte `0x80`, the fewest zero bytes that leave eight bytes to the
end of a block, and the length in bits modulo `2 ^ 64`, most significant byte first. -/
def pad (msg : List UInt8) : List UInt8 :=
  let bits := 8 * msg.length
  msg ++ (0x80 :: List.replicate ((119 - msg.length % 64) % 64) (0 : UInt8)) ++
    (List.range 8).reverse.map fun i => Nat.toUInt8 (bits >>> (8 * i))

/-- Big-endian words of four bytes each; a last group of fewer bytes, which a padded
message never has, is dropped. -/
def words : List UInt8 → List UInt32
  | a :: b :: c :: d :: rest =>
    (a.toUInt32 <<< 24 ||| b.toUInt32 <<< 16 ||| c.toUInt32 <<< 8 ||| d.toUInt32) ::
      words rest
  | _ => []

/-- The message schedule from a window of sixteen words `W[t-16] … W[t-1]`: the
window's words followed by `n` more, each `σ₁(W[t-2]) + W[t-7] + σ₀(W[t-15]) + W[t-16]`. -/
def schedule : Nat → List UInt32 → List UInt32
  | 0, window => window
  | n + 1, window =>
    match window with
    | w0 :: w1 :: rest =>
      let next := smallSigma1 (rest.getD 12 0) + rest.getD 7 0 + smallSigma0 w1 + w0
      w0 :: schedule n (w1 :: rest ++ [next])
    | _ => window

/-- One round with constant `K[t]` and schedule word `W[t]`:
`T₁ = h + Σ₁(e) + Ch(e, f, g) + K[t] + W[t]` and `T₂ = Σ₀(a) + Maj(a, b, c)`. -/
def State.round (v : State) (kw : UInt32 × UInt32) : State :=
  let t1 := v.h + bigSigma1 v.e + ((v.e &&& v.f) ^^^ (~~~v.e &&& v.g)) + kw.1 + kw.2
  let t2 := bigSigma0 v.a + ((v.a &&& v.b) ^^^ (v.a &&& v.c) ^^^ (v.b &&& v.c))
  ⟨t1 + t2, v.a, v.b, v.c, v.d + t1, v.e, v.f, v.g⟩

/-- The word-wise sum of two states. -/
def State.add (x y : State) : State :=
  ⟨x.a + y.a, x.b + y.b, x.c + y.c, x.d + y.d, x.e + y.e, x.f + y.f, x.g + y.g, x.h + y.h⟩

/-- Mixes a block of sixteen words into the hash value. -/
def State.compress (hv : State) (block : List UInt32) : State :=
  hv.add ((roundConstants.zip (schedule 48 block)).foldl State.round hv)

/-- The first `n` blocks of sixteen words. -/
def blocks : Nat → List UInt32 → List (List UInt32)
  | 0, _ => []
  | n + 1, ws => ws.take 16 :: blocks n (ws.drop 16)

/-- The four bytes of a word, most significant first. -/
def bigEndian (x : UInt32) : List UInt8 :=
  [(x >>> 24).toUInt8, (x >>> 16).toUInt8, (x >>> 8).toUInt8, x.toUInt8]

/-- The digest of a hash value: its eight words, big-endian. -/
def State.digest (v : State) : Vector UInt8 32 :=
  ⟨([v.a, v.b, v.c, v.d, v.e, v.f, v.g, v.h].flatMap bigEndian).toArray, rfl⟩

/-- The SHA-256 digest of a message. -/
def hash (msg : ByteArray) : Vector UInt8 32 :=
  let ws := words (pad msg.data.toList)
  ((blocks (ws.length / 16) ws).foldl State.compress State.initial).digest

-- The one-block example of FIPS 180-2, Appendix B.1.
example : (hash "abc".toUTF8).toList =
    [0xba, 0x78, 0x16, 0xbf, 0x8f, 0x01, 0xcf, 0xea, 0x41, 0x41, 0x40, 0xde, 0x5d, 0xae,
      0x22, 0x23, 0xb0, 0x03, 0x61, 0xa3, 0x96, 0x17, 0x7a, 0x9c, 0xb4, 0x10, 0xff, 0x61,
      0xf2, 0x00, 0x15, 0xad] := by
  decide +kernel

end Sha256

end JudgeRelay
