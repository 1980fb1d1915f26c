import Mathlib.Tactic.Ring
import JudgeRelay.Deflate.Stream
import JudgeRelay.Proofs.Bytes

/-!
# Stored blocks read back

`Deflate.compress` writes a payload as a compressed stream of stored blocks. The main
statement, `inflate_compress`, is that `Deflate.inflate` reads every such stream back to its
payload, checksum verified.

The decoder reads bits through `Inflate.bits`; from a byte boundary they spell the bytes of
the input, least significant bit first (`bitsAt_byte`, `bitsAt_le16`). A stored block is a
header byte that says whether it is the last, its length and the length's complement, then
that many payload bytes (`storedBlocks_succ`). `blocks_stored` reads the blocks of a stream
one after another, by induction on them, and the checksum after them reads back as it was
written (`be32_read`).
-/

namespace JudgeRelay

/-! ## Bytes -/

theorem foldlM_loop_id {β : Type} (f : β → UInt8 → β) (a : ByteArray) (stop : Nat) (h : stop ≤ a.size) :
    ∀ i j b, j + i = stop →
      (ByteArray.foldlM.loop (m := Id) (fun b x => pure (f b x)) a stop h i j b).run =
        ((a.data.toList.take stop).drop j).foldl f b := by
  intro i
  induction i with
  | zero =>
    intro j b ends
    rw [ByteArray.foldlM.loop.eq_1, dif_neg (by omega)]
    have done : (a.data.toList.take stop).drop j = [] := by simp; omega
    rw [done]
    rfl
  | succ i ih =>
    intro j b ends
    rw [ByteArray.foldlM.loop.eq_1, dif_pos (by omega)]
    have within : j < (a.data.toList.take stop).length := by simp; omega
    rw [List.drop_eq_getElem_cons within, List.foldl_cons]
    simp only [Id.run_bind]
    rw [ih (j + 1) _ (by omega)]
    simp [ByteArray.getElem_eq_getElem_data]

/-- Folding over a byte array folds over its bytes in order. -/
theorem byteArray_foldl {β : Type} (f : β → UInt8 → β) (init : β) (a : ByteArray) :
    a.foldl f init = a.data.toList.foldl f init := by
  unfold ByteArray.foldl ByteArray.foldlM
  rw [dif_pos (Nat.le_refl _)]
  rw [foldlM_loop_id f a a.size _ _ 0 init (by omega), List.drop_zero,
    List.take_of_length_le (by simp)]

namespace Deflate

/-- Four bytes written by `be32` read back, most significant first. -/
theorem be32_read (n : Nat) : (be32 n).foldl (fun acc b => acc * 256 + b.toNat) 0 = n % 2 ^ 32 := by
  rw [byteArray_foldl]
  simp [be32]
  omega

/-- The checksum is two sums below 65521, so it fits in four bytes. -/
theorem adler32_lt (data : ByteArray) : adler32 data < 2 ^ 32 := by
  unfold adler32
  rw [byteArray_foldl]
  -- both running sums stay below the modulus
  have start : (1 : Nat) < 65521 ∧ (0 : Nat) < 65521 := by omega
  generalize (1 : Nat) = a₀, (0 : Nat) = b₀ at start ⊢
  induction data.data.toList generalizing a₀ b₀ with
  | nil =>
    dsimp only [List.foldl_nil]
    omega
  | cons x l ih => exact ih _ _ ⟨Nat.mod_lt _ (by omega), Nat.mod_lt _ (by omega)⟩

/-- The five bytes before the payload of a stored block: whether it is the last, its length,
and the length's complement, each length least significant byte first. -/
def blockHeader (final : Bool) (len : Nat) : ByteArray :=
  ⟨#[if final then 1 else 0]⟩ ++ le16 len ++ le16 (65535 - len)

theorem blockHeader_eq (final : Bool) (len : Nat) :
    blockHeader final len = ⟨#[if final then 1 else 0, (len % 256).toUInt8, (len / 256 % 256).toUInt8,
      ((65535 - len) % 256).toUInt8, ((65535 - len) / 256 % 256).toUInt8]⟩ := by
  apply ByteArray.ext
  simp [blockHeader, le16]

@[simp] theorem blockHeader_size (final : Bool) (len : Nat) : (blockHeader final len).size = 5 := by
  rw [blockHeader_eq]
  rfl

/-- The first block of a stream of stored blocks, and the blocks after it unless it is the
last. -/
theorem storedBlocks_succ (data : ByteArray) (start fuel : Nat) :
    storedBlocks data start (fuel + 1) =
      blockHeader (start + min 65535 (data.size - start) ≥ data.size) (min 65535 (data.size - start)) ++
        data.extract start (start + min 65535 (data.size - start)) ++
        (if start + min 65535 (data.size - start) ≥ data.size then ByteArray.empty
         else storedBlocks data (start + min 65535 (data.size - start)) fuel) := by
  rw [storedBlocks]
  split
  · next last => simp [last, blockHeader]
  · next more => simp [more, blockHeader]

end Deflate

namespace Inflate

/-! ## The decoding monad -/

/-- Runs a decoding step from a state. -/
def Step.run {α : Type} (x : Step α) (s : State) : Except Stop α × State := (ExceptT.run x).run s

theorem Step.run_bind {α β : Type} (x : Step α) (f : α → Step β) (s : State) :
    (x >>= f).run s = match x.run s with
      | (.ok a, s') => (f a).run s'
      | (.error e, s') => (.error e, s') := by
  simp only [Step.run, ExceptT.run_bind, StateT.run_bind]
  rcases (ExceptT.run x).run s with ⟨_ | a, s'⟩ <;> rfl

@[simp] theorem Step.run_get (s : State) : (get : Step State).run s = (.ok s, s) := rfl
@[simp] theorem Step.run_set (s t : State) : (set t : Step Unit).run s = (.ok (), t) := rfl
@[simp] theorem Step.run_pure {α : Type} (a : α) (s : State) : (pure a : Step α).run s = (.ok a, s) := rfl
@[simp] theorem Step.run_throw {α : Type} (e : Stop) (s : State) :
    (throw e : Step α).run s = (.error e, s) := rfl

theorem alignToByte_run (s : State) :
    alignToByte.run s = (.ok (), { s with bit := (s.bit + 7) / 8 * 8 }) := rfl

/-! ## Bits -/

/-- Bit `b` of the input, bits numbered from the least significant of each byte. -/
def bitAt (src : ByteArray) (b : Nat) : Nat := (src.get! (b / 8)).toNat >>> (b % 8) % 2

/-- The number that `n` bits from bit `b` spell, least significant first. -/
def bitsAt (src : ByteArray) (b n : Nat) : Nat :=
  (List.range n).foldl (fun acc i => acc + bitAt src (b + i) * Nat.pow 2 i) 0

theorem bits_run (n : Nat) (s : State) (within : s.bit + n ≤ s.src.size * 8) :
    (bits n).run s = (.ok (bitsAt s.src s.bit n), { s with bit := s.bit + n }) := by
  have fits : ¬ s.bit + n > s.src.size * 8 := Nat.not_lt.2 within
  unfold bits
  rw [Step.run_bind, Step.run_get]
  dsimp only
  rw [if_neg fits]
  rfl

theorem bitsAt_zero (src : ByteArray) (b : Nat) : bitsAt src b 0 = 0 := rfl

theorem bitsAt_succ (src : ByteArray) (b n : Nat) :
    bitsAt src b (n + 1) = bitsAt src b n + bitAt src (b + n) * 2 ^ n := by
  simp only [bitsAt, List.range_succ, List.foldl_append, List.foldl_cons, List.foldl_nil]
  rfl

/-- Bits read in two runs spell the low part and then the high part of one number. -/
theorem bitsAt_add (src : ByteArray) (b m k : Nat) :
    bitsAt src b (m + k) = bitsAt src b m + 2 ^ m * bitsAt src (b + m) k := by
  induction k with
  | zero => simp [bitsAt_zero]
  | succ k ih =>
    rw [← Nat.add_assoc, bitsAt_succ, ih, bitsAt_succ, Nat.add_assoc b m k, Nat.pow_add]
    ring

/-- Bits within one byte spell a slice of it. -/
theorem bitsAt_byte (src : ByteArray) (p j k : Nat) (within : j + k ≤ 8) :
    bitsAt src (8 * p + j) k = (src.get! p).toNat / 2 ^ j % 2 ^ k := by
  induction k with
  | zero => simp [bitsAt_zero, Nat.mod_one]
  | succ k ih =>
    have bit : bitAt src (8 * p + j + k) = (src.get! p).toNat / 2 ^ (j + k) % 2 := by
      have byte : (8 * p + j + k) / 8 = p := by omega
      have place : (8 * p + j + k) % 8 = j + k := by omega
      simp [bitAt, byte, place, Nat.shiftRight_eq_div_pow]
    rw [bitsAt_succ, ih (by omega), bit, Nat.mod_pow_succ, Nat.div_div_eq_div_mul, ← Nat.pow_add]
    ring

/-- Sixteen bits from a byte boundary spell two bytes, least significant first. -/
theorem bitsAt_le16 (src : ByteArray) (p : Nat) :
    bitsAt src (8 * p) 16 = (src.get! p).toNat + 256 * (src.get! (p + 1)).toNat := by
  have low := bitsAt_byte src p 0 8 (by omega)
  have high := bitsAt_byte src (p + 1) 0 8 (by omega)
  have lowByte := (src.get! p).toNat_lt
  have highByte := (src.get! (p + 1)).toNat_lt
  rw [Nat.add_zero] at low high
  rw [bitsAt_add src (8 * p) 8 8, show 8 * p + 8 = 8 * (p + 1) by ring, low, high]
  simp only [Nat.pow_zero, Nat.div_one]
  omega

/-! ## Stored blocks -/

section Block

open Deflate

variable {s : State} {pre chunk rest : ByteArray} {final : Bool} {len : Nat}

/-- Reading a stored block whose header byte has been read: its length, its complement,
and its payload. -/
theorem storedBlock_run (layout : s.src = pre ++ blockHeader final len ++ chunk ++ rest)
    (sized : chunk.size = len) (short : len ≤ 65535) (start : s.bit = 8 * pre.size + 3) :
    storedBlock.run s = (.ok (), { s with out := s.out ++ chunk, bit := (pre.size + 5 + len) * 8 }) := by
  have size : s.src.size = pre.size + 5 + len + rest.size := by
    rw [layout]
    simp only [ByteArray.size_append, blockHeader_size, sized]
  have header : ∀ i < 5, s.src.get! (pre.size + i) = (blockHeader final len).get! i := by
    intro i within
    rw [layout, ByteArray.append_assoc]
    exact get!_at pre _ _ (by simpa using within)
  have payload : s.src.extract (pre.size + 5) (pre.size + 5 + len) = chunk := by
    have cut := extract_at (pre ++ blockHeader final len) chunk rest
    simpa [← layout, sized] using cut
  have length : bitsAt s.src (8 * (pre.size + 1)) 16 = len := by
    rw [bitsAt_le16, header 1 (by omega), Nat.add_assoc, header 2 (by omega), blockHeader_eq]
    simp [ByteArray.get!]
    omega
  have complement : bitsAt s.src (8 * (pre.size + 3)) 16 = 65535 - len := by
    rw [bitsAt_le16, header 3 (by omega), Nat.add_assoc, header 4 (by omega), blockHeader_eq]
    simp [ByteArray.get!]
    omega
  have aligned : (s.bit + 7) / 8 * 8 = 8 * (pre.size + 1) := by omega
  unfold storedBlock
  rw [Step.run_bind, alignToByte_run]
  dsimp only
  rw [Step.run_bind, bits_run _ _ (by simp only [aligned, size]; omega)]
  dsimp only
  rw [aligned, length, Step.run_bind, bits_run _ _ (by simp only [size]; omega)]
  dsimp only
  rw [show 8 * (pre.size + 1) + 16 = 8 * (pre.size + 3) by omega, complement,
    if_neg (by simp; omega), Step.run_bind, Step.run_get]
  dsimp only
  have starts : (8 * (pre.size + 3) + 16) / 8 = pre.size + 5 := by omega
  rw [starts, if_neg (by omega), Step.run_set, payload]

/-- One round of the block loop over a stored block: its payload is copied, and the loop
stops after it exactly when it is marked last. -/
theorem blocks_block (fuel : Nat) (layout : s.src = pre ++ blockHeader final len ++ chunk ++ rest)
    (sized : chunk.size = len) (short : len ≤ 65535) (start : s.bit = 8 * pre.size) :
    (blocks (fuel + 1)).run s =
      let s' := { s with out := s.out ++ chunk, bit := (pre.size + 5 + len) * 8 }
      if final then (.ok (), s') else (blocks fuel).run s' := by
  have size : s.src.size = pre.size + 5 + len + rest.size := by
    rw [layout]
    simp only [ByteArray.size_append, blockHeader_size, sized]
  have first : s.src.get! pre.size = if final then 1 else 0 := by
    have byte : s.src.get! (pre.size + 0) = (blockHeader final len).get! 0 := by
      rw [layout, ByteArray.append_assoc]
      exact get!_at pre _ _ (by simp)
    rw [Nat.add_zero] at byte
    rw [byte, blockHeader_eq]
    rfl
  -- the header byte is 0 or 1: its low bit says whether the block is the last, and the two
  -- bits above it, the block's kind, are zero
  have lastBit : bitsAt s.src s.bit 1 = if final then 1 else 0 := by
    have slice := bitsAt_byte s.src pre.size 0 1 (by omega)
    rw [Nat.add_zero, ← start] at slice
    rw [slice, first]
    cases final <;> rfl
  have kindBits : bitsAt s.src (s.bit + 1) 2 = 0 := by
    have slice := bitsAt_byte s.src pre.size 1 2 (by omega)
    rw [← start] at slice
    rw [slice, first]
    cases final <;> rfl
  rw [blocks, Step.run_bind, bits_run _ _ (by omega)]
  dsimp only
  rw [lastBit, Step.run_bind, bits_run _ _ (by simp only [size]; omega)]
  dsimp only
  rw [kindBits, Step.run_bind, Step.run_get]
  dsimp only
  simp only [beq_self_eq_true, if_true]
  rw [Step.run_bind,
    storedBlock_run (s := { s with bit := s.bit + 1 + 2 }) layout sized short (by simp only; omega)]
  dsimp only
  cases final <;> rfl

end Block

/-- The bytes of `data` from `start` on, in stored blocks, read one after another: the loop
copies all of them and stops at the end of the last block. The block loop needs a round per
block, and every block takes at least five bytes. -/
theorem blocks_stored (data : ByteArray) :
    ∀ (count start fuel : Nat) (pre post : ByteArray) (s : State), 0 < count →
      data.size ≤ start + 65535 * count → (Deflate.storedBlocks data start count).size ≤ 5 * fuel →
      s.src = pre ++ Deflate.storedBlocks data start count ++ post → s.bit = 8 * pre.size →
      s.out = data.extract 0 start →
      (blocks fuel).run s =
        (.ok (), { s with out := data, bit := 8 * (pre.size + (Deflate.storedBlocks data start count).size) }) := by
  intro count
  induction count with
  | zero => intro _ _ _ _ _ none; omega
  | succ count ih =>
    intro start fuel pre post s _ enough rounds layout position copied
    -- the first block, of `len` bytes, and the blocks after it
    rw [Deflate.storedBlocks_succ] at layout rounds ⊢
    generalize hlen : min 65535 (data.size - start) = len at layout rounds ⊢
    have sized : (data.extract start (start + len)).size = len := by
      rw [ByteArray.size_extract]
      omega
    cases fuel with
    | zero => simp at rounds
    | succ fuel =>
      have joined : s.out ++ data.extract start (start + len) = data.extract 0 (start + len) := by
        rw [copied, ByteArray.extract_append_extract]
        simp
      generalize htail : (if start + len ≥ data.size then ByteArray.empty
        else Deflate.storedBlocks data (start + len) count) = tail at layout rounds ⊢
      have split : s.src = pre ++ Deflate.blockHeader (decide (start + len ≥ data.size)) len ++
          data.extract start (start + len) ++ (tail ++ post) := by
        rw [layout]
        simp only [ByteArray.append_assoc]
      rw [blocks_block fuel split sized (by omega) position, joined]
      dsimp only
      by_cases last : start + len ≥ data.size
      · -- the last block: the payload is complete
        rw [if_pos last] at htail
        have whole : data.extract 0 (start + len) = data := by
          apply ByteArray.ext
          simp [Array.extract_eq_self_iff]
          omega
        have nothing : ByteArray.empty.size = 0 := rfl
        simp only [last, decide_true, if_true, whole, ← htail, ByteArray.size_append,
          Deflate.blockHeader_size, sized, nothing]
        congr 2
        ring
      · -- more blocks follow, from `start + len` on: this block was a full one
        rw [if_neg last] at htail
        have more : 0 < count := by
          rcases Nat.eq_zero_or_pos count with none | more
          · subst none
            omega
          · exact more
        have layout' : s.src = pre ++ Deflate.blockHeader false len ++ data.extract start (start + len) ++
            Deflate.storedBlocks data (start + len) count ++ post := by
          rw [split, ← htail]
          simp only [last, decide_false, ByteArray.append_assoc]
        have rounds' : (Deflate.storedBlocks data (start + len) count).size ≤ 5 * fuel := by
          rw [htail]
          simp only [ByteArray.size_append, Deflate.blockHeader_size, sized] at rounds
          omega
        simp only [last, decide_false, Bool.false_eq_true, if_false]
        have position' : (pre.size + 5 + len) * 8 =
            8 * (pre ++ Deflate.blockHeader false len ++ data.extract start (start + len)).size := by
          simp only [ByteArray.size_append, Deflate.blockHeader_size, sized]
          ring
        rw [ih (start + len) fuel _ post ⟨s.src, (pre.size + 5 + len) * 8, data.extract 0 (start + len)⟩
          more (by omega) rounds' layout' position' rfl, ← htail]
        simp only [ByteArray.size_append, Deflate.blockHeader_size, sized]
        congr 2
        ring

end Inflate

namespace Deflate

open Inflate

/-- A compressed stream of stored blocks inflates back to its payload, checksum verified. -/
theorem inflate_compress (data : ByteArray) : inflate (compress data) = .complete data := by
  generalize hblocks : storedBlocks data 0 (data.size / 65535 + 1) = B
  have layout : compress data = ⟨#[0x78, 0x01]⟩ ++ B ++ be32 (adler32 data) := by
    rw [← hblocks]
    rfl
  have size : (compress data).size = 2 + B.size + 4 := by
    rw [layout]
    simp only [ByteArray.size_append]
    rfl
  have header : ∀ i < 2, (compress data).get! i = (⟨#[0x78, 0x01]⟩ : ByteArray).get! i := by
    intro i within
    have byte := get!_at ByteArray.empty ⟨#[0x78, 0x01]⟩ (B ++ be32 (adler32 data)) (i := i) within
    rw [ByteArray.empty_append, ← ByteArray.append_assoc, ← layout] at byte
    simpa using byte
  -- the blocks after the two header bytes hold the payload
  have ran : StateT.run (ExceptT.run (blocks ((compress data).size * 8 + 1)))
      ⟨compress data, 16, ByteArray.empty⟩ = (.ok (), ⟨compress data, 8 * (2 + B.size), data⟩) := by
    have stored := blocks_stored data (data.size / 65535 + 1) 0 ((compress data).size * 8 + 1)
      ⟨#[0x78, 0x01]⟩ (be32 (adler32 data)) ⟨compress data, 16, ByteArray.empty⟩ (by omega) (by omega)
      (by rw [hblocks]; omega) (by rw [hblocks]; exact layout) rfl
      (by apply ByteArray.ext; simp)
    show Step.run _ _ = _
    rw [stored, hblocks]
    rfl
  -- and the four bytes after them, the checksum
  have trailer : (compress data).extract (2 + B.size) (2 + B.size + 4) = be32 (adler32 data) := by
    have cut := extract_at (⟨#[0x78, 0x01]⟩ ++ B) (be32 (adler32 data)) ByteArray.empty
    rw [ByteArray.append_empty, ← layout] at cut
    have two : (⟨#[0x78, 0x01]⟩ : ByteArray).size = 2 := rfl
    have four : (be32 (adler32 data)).size = 4 := rfl
    simpa [ByteArray.size_append, two, four] using cut
  have start : (8 * (2 + B.size) + 7) / 8 = 2 + B.size := by omega
  unfold inflate Inflate.run
  rw [if_neg (by omega), header 0 (by omega), header 1 (by omega), if_neg (by decide), ran]
  dsimp only
  rw [start, if_neg (by omega), trailer, be32_read, Nat.mod_eq_of_lt (adler32_lt data)]
  simp

/-- The relay's codec is a round trip: what it compresses inflates back. -/
theorem zlib_inverse : zlib.Inverse := inflate_compress

end Deflate

end JudgeRelay
