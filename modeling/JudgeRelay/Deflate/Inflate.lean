/-!
# Inflating DEFLATE data

A decoder for the DEFLATE format (stored, fixed-code and dynamic-code blocks). Bits
are read least significant first; Huffman codes are canonical and decoded one bit at a
time. A code table is refused when more than one symbol has a code and the codes do
not exactly fill the code space. A back-reference that reaches before the start of
the output reads zero bytes, as from a freshly cleared window.

Decoding stops in one of three ways (`Stop`): the data is corrupt, or the input ends
before the data does. Either way the bytes produced so far are kept, since callers
decide by how far decoding got.
-/

namespace JudgeRelay

namespace Inflate

/-- Why decoding stopped early. -/
inductive Stop where
  /-- The data breaks the format. -/
  | corrupt
  /-- The input ended first. -/
  | truncated
  deriving DecidableEq, Repr

/-- Decoding state: the input, the index of the next bit, and the output so far. -/
structure State where
  src : ByteArray
  bit : Nat
  out : ByteArray

/-- A decoding step; the state survives a stop. -/
abbrev Step := ExceptT Stop (StateM State)

/-- Reads `n` bits, least significant first. -/
def bits (n : Nat) : Step Nat := do
  let s ← get
  if s.bit + n > s.src.size * 8 then throw .truncated
  else
    let v := (List.range n).foldl (fun acc i =>
      let b := s.bit + i
      let byte := (s.src.get! (b / 8)).toNat
      acc + ((byte >>> (b % 8)) % 2) * Nat.pow 2 i) 0
    set { s with bit := s.bit + n }
    pure v

/-- Skips to the next byte boundary. -/
def alignToByte : Step Unit :=
  modify fun s => { s with bit := (s.bit + 7) / 8 * 8 }

/-- Appends one byte to the output. -/
def emit (b : UInt8) : Step Unit := modify fun s => { s with out := s.out.push b }

/-- A canonical Huffman code: how many codes of each length 0–15, and the symbols
sorted by code. -/
structure Code where
  counts : Array Nat
  symbols : Array Nat
  deriving Inhabited

/-- The canonical code of a list of code lengths, symbol `i` having length `i`-th. -/
def Code.build (lengths : List Nat) : Code :=
  let counts := (List.range 16).map fun l => (lengths.filter (· == l)).length
  let symbols := (List.range 16).flatMap fun l =>
    if l = 0 then [] else
      ((List.range lengths.length).filter fun i => lengths.getD i 0 == l)
  ⟨(counts.set 0 0).toArray, symbols.toArray⟩

/-- The code of a list of code lengths sent in a block, or `none` when it must be
refused: more than one symbol has a code and the codes do not exactly fill the code
space. -/
def Code.ofLengths (lengths : List Nat) : Option Code :=
  let used := lengths.filter (· != 0)
  let space := used.foldl (fun acc l => acc + Nat.pow 2 (16 - l)) 0
  if used.length > 1 && space != Nat.pow 2 16 then none else some (Code.build lengths)

/-- Decodes one symbol: reads bits until they form a code of the table. -/
def Code.decode (c : Code) : Step Nat :=
  go 1 0 0 0
where
  /-- `code` holds the bits read, `first` the first code of length `len`, `index` the
  position of its symbols. -/
  go (len code first index : Nat) : Step Nat := do
    if len > 15 then throw .corrupt
    else
      let code := code ||| (← bits 1)
      let count := c.counts.getD len 0
      if code < first + count then
        match c.symbols[index + (code - first)]? with
        | some sym => pure sym
        | none => throw .corrupt
      else go (len + 1) (code <<< 1) ((first + count) <<< 1) (index + count)
  termination_by 16 - len

/-- Base lengths of length symbols 257–285. -/
def lengthBase : List Nat :=
  [3, 4, 5, 6, 7, 8, 9, 10, 11, 13, 15, 17, 19, 23, 27, 31, 35, 43, 51, 59, 67, 83, 99, 115,
   131, 163, 195, 227, 258]

/-- Extra bits of length symbols 257–285. -/
def lengthExtra : List Nat :=
  [0, 0, 0, 0, 0, 0, 0, 0, 1, 1, 1, 1, 2, 2, 2, 2, 3, 3, 3, 3, 4, 4, 4, 4, 5, 5, 5, 5, 0]

/-- Base distances of distance symbols 0–29. -/
def distanceBase : List Nat :=
  [1, 2, 3, 4, 5, 7, 9, 13, 17, 25, 33, 49, 65, 97, 129, 193, 257, 385, 513, 769, 1025, 1537,
   2049, 3073, 4097, 6145, 8193, 12289, 16385, 24577]

/-- Extra bits of distance symbols 0–29. -/
def distanceExtra : List Nat :=
  [0, 0, 0, 0, 1, 1, 2, 2, 3, 3, 4, 4, 5, 5, 6, 6, 7, 7, 8, 8, 9, 9, 10, 10, 11, 11, 12, 12,
   13, 13]

/-- Copies `len` bytes from `dist` bytes back, byte by byte so that the copy may
overlap what it writes. -/
def copyBack (dist len : Nat) : Step Unit := do
  for _ in [0:len] do
    let s ← get
    let n := s.out.size
    let b := if dist ≤ n then s.out.get! (n - dist) else 0
    set { s with out := s.out.push b }

/-- Decodes the symbols of one compressed block up to its end code, at most `fuel`
symbols (each reads at least one bit). -/
def symbols (lit dist : Code) : Nat → Step Unit
  | 0 => throw .truncated
  | fuel + 1 => do
    let sym ← lit.decode
    if sym < 256 then do emit sym.toUInt8; symbols lit dist fuel
    else if sym == 256 then pure ()
    else if sym > 285 then throw .corrupt
    else do
      let i := sym - 257
      let len := lengthBase.getD i 0 + (← bits (lengthExtra.getD i 0))
      let dsym ← dist.decode
      if dsym > 29 then throw .corrupt
      else do
        let d := distanceBase.getD dsym 0 + (← bits (distanceExtra.getD dsym 0))
        copyBack d len
        symbols lit dist fuel

/-- The fixed literal/length and distance codes. -/
def fixedCodes : Code × Code :=
  let litLengths := List.replicate 144 8 ++ List.replicate 112 9 ++ List.replicate 24 7 ++
    List.replicate 8 8
  (Code.build litLengths, Code.build (List.replicate 32 5))

/-- The order in which code-length code lengths are stored. -/
def lengthOrder : List Nat := [16, 17, 18, 0, 8, 7, 9, 6, 10, 5, 11, 4, 12, 3, 13, 2, 14, 1, 15]

/-- Reads `total` code lengths with the code-length code, expanding repeats. -/
def codeLengths (clc : Code) (total : Nat) (acc : Array Nat) : Nat → Step (Array Nat)
  | 0 => throw .corrupt
  | fuel + 1 => do
    if acc.size ≥ total then
      if acc.size > total then throw .corrupt else pure acc
    else
      let sym ← clc.decode
      if sym < 16 then codeLengths clc total (acc.push sym) fuel
      else if sym == 16 then
        match acc.back? with
        | none => throw .corrupt
        | some prev => do
          let n := 3 + (← bits 2)
          codeLengths clc total (acc ++ Array.replicate n prev) fuel
      else if sym == 17 then do
        let n := 3 + (← bits 3)
        codeLengths clc total (acc ++ Array.replicate n 0) fuel
      else do
        let n := 11 + (← bits 7)
        codeLengths clc total (acc ++ Array.replicate n 0) fuel

/-- Reads the code tables of a dynamic block. -/
def dynamicCodes : Step (Code × Code) := do
  let hlit := (← bits 5) + 257
  let hdist := (← bits 5) + 1
  let hclen := (← bits 4) + 4
  if hlit > 286 || hdist > 30 then throw .corrupt
  let mut clens := Array.replicate 19 0
  for i in [0:hclen] do
    let l ← bits 3
    clens := clens.set! (lengthOrder.getD i 0) l
  match Code.ofLengths clens.toList with
  | none => throw .corrupt
  | some clc => do
    let lengths ← codeLengths clc (hlit + hdist) #[] (hlit + hdist + 1)
    let litLengths := lengths.toList.take hlit
    let distLengths := lengths.toList.drop hlit
    match Code.ofLengths litLengths, Code.ofLengths distLengths with
    | some lit, some dist => pure (lit, dist)
    | _, _ => throw .corrupt

/-- Copies a stored block. -/
def storedBlock : Step Unit := do
  alignToByte
  let len := (← bits 16)
  let nlen := (← bits 16)
  if len + nlen != 65535 then throw .corrupt
  let s ← get
  let start := s.bit / 8
  if start + len > s.src.size then
    set { s with out := s.out ++ s.src.extract start s.src.size, bit := s.src.size * 8 }
    throw .truncated
  else
    set { s with out := s.out ++ s.src.extract start (start + len), bit := (start + len) * 8 }

/-- Decodes blocks until the final one, at most `fuel` blocks (each reads at least
three bits). -/
def blocks : Nat → Step Unit
  | 0 => throw .truncated
  | fuel + 1 => do
    let final ← bits 1
    let kind ← bits 2
    let fuelSymbols := (← get).src.size * 8 + 1
    if kind == 0 then storedBlock
    else if kind == 1 then
      let (lit, dist) := fixedCodes
      symbols lit dist fuelSymbols
    else if kind == 2 then do
      let (lit, dist) ← dynamicCodes
      symbols lit dist fuelSymbols
    else throw .corrupt
    if final == 1 then pure () else blocks fuel

/-- Decodes DEFLATE data starting at bit `bit` of `src`; the final state, and the reason
if decoding stopped early. -/
def run (src : ByteArray) (bit : Nat) : Option Stop × State :=
  let (r, s) := (ExceptT.run (blocks (src.size * 8 + 1))).run ⟨src, bit, ByteArray.empty⟩
  match r with
  | .ok () => (none, s)
  | .error e => (some e, s)

end Inflate

end JudgeRelay
