import Mathlib.Data.List.GetD

/-!
# Byte strings cut and joined

What the readers of compressed streams, frames and PROXY headers rely on about byte strings
written one after another: the byte at a place (`get!_append_left`, `get!_append_right`,
`get!_at`), the bytes between two places (`extract_append_left`, `extract_append_from`,
`extract_after`, `extract_at`, `extract_split`), and the two ways one byte string can be cut
into two parts (`append_eq_append`, `append_front`).
-/

namespace JudgeRelay

/-! ## A byte at a place -/

theorem get!_eq_getD (b : ByteArray) (i : Nat) : b.get! i = b.data.toList.getD i 0 := by
  obtain ⟨⟨l⟩⟩ := b
  simp [ByteArray.get!, List.getD_eq_getElem?_getD]
  rfl

theorem get!_append_left {a b : ByteArray} {i : Nat} (within : i < a.size) :
    (a ++ b).get! i = a.get! i := by
  have inside : i < (a.data ++ b.data).size := by
    have : i < a.data.size := within
    simp only [Array.size_append]
    omega
  simp only [ByteArray.get!, ByteArray.data_append]
  rw [getElem!_pos _ i inside, getElem!_pos a.data i within, Array.getElem_append_left]

theorem get!_append_right (a c : ByteArray) (i : Nat) : (a ++ c).get! (a.size + i) = c.get! i := by
  rw [get!_eq_getD, get!_eq_getD, ByteArray.data_append, Array.toList_append,
    List.getD_eq_getElem?_getD, List.getElem?_append_right (by simp), List.getD_eq_getElem?_getD]
  simp

/-- The byte at a place of the middle part of three. -/
theorem get!_at (pre mid post : ByteArray) {i : Nat} (within : i < mid.size) :
    (pre ++ mid ++ post).get! (pre.size + i) = mid.get! i := by
  have inside : pre.size + i < (pre ++ mid).size := by
    rw [ByteArray.size_append]
    omega
  rw [get!_append_left inside, get!_append_right]

theorem bytes_bne_iff {a b : ByteArray} : (a != b) = true ↔ a ≠ b := by
  have same : (a == b) = (a.data == b.data) := rfl
  rw [bne, same, Bool.not_eq_true', beq_eq_false_iff_ne, ne_eq, ne_eq, ByteArray.ext_iff]

/-! ## The bytes between two places -/

/-- Bytes taken from the first of two parts, when it has them all. -/
theorem extract_append_left {a c : ByteArray} {i j : Nat} (within : j ≤ a.size) :
    (a ++ c).extract i j = a.extract i j := by
  rw [ByteArray.extract_append, Nat.sub_eq_zero_of_le within]
  apply ByteArray.ext
  simp

/-- What follows a point of the first of two parts. -/
theorem extract_append_from (a c : ByteArray) {i : Nat} (within : i ≤ a.size) :
    (a ++ c).extract i (a ++ c).size = a.extract i a.size ++ c := by
  rw [ByteArray.extract_append, Nat.sub_eq_zero_of_le within, ByteArray.size_append,
    Nat.add_sub_cancel_left, ByteArray.extract_zero_size]
  congr 1
  apply ByteArray.ext
  rw [ByteArray.data_extract, ByteArray.data_extract, Array.extract_eq_extract_right,
    ByteArray.size_data]
  omega

/-- What follows a first part. -/
theorem extract_after (a b : ByteArray) : (a ++ b).extract a.size (a ++ b).size = b := by
  apply ByteArray.ext
  simp only [ByteArray.data_extract, ByteArray.data_append, ByteArray.size_append]
  rw [Array.extract_append]
  simp [← ByteArray.size_data]

/-- The middle part of three, cut out. -/
theorem extract_at (pre mid post : ByteArray) :
    (pre ++ mid ++ post).extract pre.size (pre.size + mid.size) = mid := by
  apply ByteArray.ext
  simp only [ByteArray.data_extract, ByteArray.data_append]
  rw [Array.extract_append, Array.extract_append]
  simp [← ByteArray.size_data]

/-- The first `n` bytes of a byte array no longer than `n` are all of it. -/
theorem extract_zero_of_le {a : ByteArray} {n : Nat} (within : a.size ≤ n) : a.extract 0 n = a := by
  rw [← Nat.max_eq_left within, ByteArray.extract_zero_max_size]

/-- A byte array is its first `n` bytes followed by the rest. -/
theorem extract_split (a : ByteArray) {n : Nat} (within : n ≤ a.size) :
    a = a.extract 0 n ++ a.extract n a.size := by
  rw [ByteArray.extract_append_extract, Nat.zero_min, Nat.max_eq_right within,
    ByteArray.extract_zero_size]

/-! ## Cutting in two -/

theorem eq_empty_of_size {a : ByteArray} (none : a.size = 0) : a = ByteArray.empty := by
  rw [ByteArray.ext_iff, ← Array.toList_inj]
  simpa [← ByteArray.size_data] using none

/-- Two ways of cutting one byte string into two parts: one first part is a prefix of the
other. -/
theorem append_eq_append {X Y A B : ByteArray} (same : X ++ Y = A ++ B) :
    (∃ C, A = X ++ C ∧ Y = C ++ B) ∨ (∃ C, X = A ++ C ∧ B = C ++ Y) := by
  have lists : X.data.toList ++ Y.data.toList = A.data.toList ++ B.data.toList := by
    simpa [ByteArray.data_append] using congrArg (·.data.toList) same
  rcases List.append_eq_append_iff.1 lists with ⟨C, first, second⟩ | ⟨C, first, second⟩
  · refine .inl ⟨⟨C.toArray⟩, ?_, ?_⟩ <;>
      rw [ByteArray.ext_iff, ← Array.toList_inj] <;> simp [ByteArray.data_append, first, second]
  · refine .inr ⟨⟨C.toArray⟩, ?_, ?_⟩ <;>
      rw [ByteArray.ext_iff, ← Array.toList_inj] <;> simp [ByteArray.data_append, first, second]

/-- Bytes that begin with `A`, cut after `A`. -/
theorem append_front {X Y A R : ByteArray} (same : X ++ Y = A ++ R) (long : A.size ≤ X.size) :
    ∃ C, X = A ++ C ∧ C ++ Y = R := by
  rcases append_eq_append same with ⟨C, grown, after⟩ | ⟨C, first, after⟩
  · -- `X` is no shorter than `A`, so `C` is empty
    have none : C.size = 0 := by
      have := congrArg ByteArray.size grown
      rw [ByteArray.size_append] at this
      omega
    rw [eq_empty_of_size none, ByteArray.append_empty] at grown
    refine ⟨ByteArray.empty, by rw [grown, ByteArray.append_empty], ?_⟩
    rw [after, eq_empty_of_size none, ByteArray.empty_append, ByteArray.empty_append]
  · exact ⟨C, first, after.symm⟩

end JudgeRelay
