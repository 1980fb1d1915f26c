import Mathlib.Algebra.Order.Field.Power
import Mathlib.Tactic.Linarith
import Mathlib.Tactic.NormNum
import JudgeRelay.Limits
import JudgeRelay.Packet.Judge
import JudgeRelay.Json.Write

/-!
# The time limit of a dispatched submission

The time limit sent to a judge is read from the problem's fields, the language's own field
standing in for the plain one, and kept only if it is above zero; otherwise it is two
seconds. Above zero is IEEE 754's comparison with `0.0`: positive infinity passes, NaN, both
zeros and negative values do not (`Limits.usableTime_iff`).

Results:
1. `dispatched_time_limit`: for every field map and language, the limit is the field's value
   when that is above zero and two seconds otherwise; it is always above zero; it is finite
   except when the field reads as positive infinity (`inf`, `infinity` in any case, or a
   decimal beyond the largest double); and the packet to the judge writes it as a JSON
   number, or as `null` exactly in that case.
2. `infinite_time_limit_dispatched_as_null`: the field `inf` gives an infinite limit, which
   the packet writes as `null`.
-/

namespace JudgeRelay

/-! ## Values above zero -/

namespace Binary64

/-- A value's bits are its sign bit, biased exponent and fraction, in that order. -/
theorem bits_toNat (x : Binary64) :
    x.bits.toNat = (if x.sign then 2 ^ 63 else 0) + x.exponentField * 2 ^ 52 + x.fractionField := by
  have lt := x.bits.toNat_lt
  simp only [sign, exponentField, fractionField, UInt64.toNat_and, beq_iff_eq, ← UInt64.toNat_inj,
    UInt64.toNat_shiftRight]
  rw [show (0x7ff : UInt64).toNat = 2 ^ 11 - 1 from rfl,
    show (0xfffffffffffff : UInt64).toNat = 2 ^ 52 - 1 from rfl,
    Nat.and_two_pow_sub_one_eq_mod, Nat.and_two_pow_sub_one_eq_mod]
  simp only [Nat.shiftRight_eq_div_pow, UInt64.reduceToNat, Nat.reduceMod, Nat.reducePow]
  split <;> omega

theorem eq_of_fields {x y : Binary64} (sign : x.sign = y.sign)
    (exponent : x.exponentField = y.exponentField) (fraction : x.fractionField = y.fractionField) :
    x = y := by
  have same : x.bits.toNat = y.bits.toNat := by
    rw [bits_toNat, bits_toNat, sign, exponent, fraction]
  cases x
  cases y
  simpa [UInt64.toNat_inj] using same

theorem eq_infinity_iff {x : Binary64} :
    x = infinity ↔ x.sign = false ∧ x.exponentField = 2047 ∧ x.fractionField = 0 := by
  constructor
  · rintro rfl
    decide
  · rintro ⟨sign, exponent, fraction⟩
    exact eq_of_fields (by rw [sign]; decide) (by rw [exponent]; decide) (by rw [fraction]; decide)

/-- The rational number a finite value stands for, `±significand · 2 ^ exponent`. -/
def toRat (x : Binary64) : ℚ := (if x.sign then -1 else 1) * x.significand * 2 ^ x.exponent

/-- Above zero as IEEE 754 compares: positive infinity, or a finite value whose number is
positive. NaN, both zeros and every negative value are not. -/
def IsPositive (x : Binary64) : Prop := x = infinity ∨ x.isFinite ∧ 0 < x.toRat

theorem infinity_isPositive : infinity.IsPositive := .inl rfl

theorem significand_pos {x : Binary64} (h : x.isZero = false) : 0 < x.significand := by
  unfold significand
  split
  · rename_i subnormal
    simp only [isZero, subnormal, beq_self_eq_true, Bool.true_and, beq_eq_false_iff_ne] at h
    omega
  · exact Nat.lt_of_lt_of_le (Nat.two_pow_pos 52) (Nat.le_add_left _ _)

/-- A finite value's number is positive exactly when its sign bit is clear and it is not a
zero. -/
theorem toRat_pos_iff {x : Binary64} : 0 < x.toRat ↔ x.sign = false ∧ x.isZero = false := by
  have scale : (0 : ℚ) < 2 ^ x.exponent := zpow_pos two_pos _
  constructor
  · intro pos
    refine ⟨?_, ?_⟩
    · cases signed : x.sign
      · rfl
      · -- a set sign bit negates a nonnegative product
        simp only [toRat, signed, if_true] at pos
        nlinarith [show (0 : ℚ) ≤ x.significand from Nat.cast_nonneg _]
    · cases zero : x.isZero
      · rfl
      · have : x.significand = 0 := by
          simp only [isZero, Bool.and_eq_true, beq_iff_eq] at zero
          simp [significand, zero.1, zero.2]
        simp [toRat, this] at pos
  · rintro ⟨sign, nonzero⟩
    have : (0 : ℚ) < x.significand := by exact_mod_cast significand_pos nonzero
    simp only [toRat, sign, Bool.false_eq_true, if_false, one_mul]
    exact mul_pos this scale

end Binary64

namespace Limits

/-- The filter on time limits is IEEE 754's `> 0.0`. -/
theorem usableTime_iff (x : Binary64) : usableTime x = true ↔ x.IsPositive := by
  simp only [usableTime, Bool.and_eq_true, Bool.not_eq_true', Binary64.IsPositive,
    Binary64.toRat_pos_iff]
  constructor
  · rintro ⟨⟨notNaN, sign⟩, nonzero⟩
    by_cases finite : x.isFinite = true
    · exact .inr ⟨finite, sign, nonzero⟩
    · -- neither finite nor NaN: an infinity, and the positive one by its sign
      simp only [Binary64.isFinite, bne_iff_ne, ne_eq, Decidable.not_not] at finite
      simp only [Binary64.isNaN, finite, beq_self_eq_true, Bool.true_and,
        bne_eq_false_iff_eq] at notNaN
      exact .inl (Binary64.eq_infinity_iff.2 ⟨sign, finite, notNaN⟩)
  · rintro (rfl | ⟨finite, sign, nonzero⟩)
    · decide
    · refine ⟨⟨?_, sign⟩, nonzero⟩
      simp only [Binary64.isFinite, bne_iff_ne, ne_eq] at finite
      simp [Binary64.isNaN, finite]

/-! ## The default -/

theorem default_timeLimit_toRat : default.timeLimit.toRat = 2 := by
  have significand : default.timeLimit.significand = 2 ^ 52 := by decide
  have exponent : default.timeLimit.exponent = -51 := by decide
  have sign : default.timeLimit.sign = false := by decide
  rw [Binary64.toRat, significand, exponent, sign]
  norm_num

theorem default_timeLimit_isPositive : default.timeLimit.IsPositive :=
  .inr ⟨by decide, by rw [default_timeLimit_toRat]; norm_num⟩

/-! ## The limit of a problem -/

/-- The time limit the selected field reads as, when it reads as a float. -/
def timeRead (fields : List (String × String)) (language : String) : Option Binary64 :=
  (pick fields "time_limit" language).bind NumberText.parseFloat

theorem timeLimit_of_positive {fields : List (String × String)} {language : String}
    {x : Binary64} (read : timeRead fields language = some x) (positive : x.IsPositive) :
    (ofFields fields language).timeLimit = x := by
  have usable := (usableTime_iff x).2 positive
  simp only [timeRead] at read
  simp [ofFields, read, usable]

theorem timeLimit_of_not_positive {fields : List (String × String)} {language : String}
    (unusable : ∀ x, timeRead fields language = some x → ¬x.IsPositive) :
    (ofFields fields language).timeLimit = default.timeLimit := by
  simp only [ofFields]
  cases read : timeRead fields language with
  | none =>
    simp only [timeRead] at read
    simp [read]
  | some x =>
    have usable : usableTime x = false := by
      simpa [← usableTime_iff] using unusable x read
    simp only [timeRead] at read
    simp [read, usable]

/-- The time limit is the selected value when that is above zero, and two seconds otherwise. -/
theorem timeLimit_cases (fields : List (String × String)) (language : String) :
    (∃ x, timeRead fields language = some x ∧ x.IsPositive ∧
      (ofFields fields language).timeLimit = x) ∨
    ((∀ x, timeRead fields language = some x → ¬x.IsPositive) ∧
      (ofFields fields language).timeLimit = default.timeLimit) := by
  by_cases usable : ∃ x, timeRead fields language = some x ∧ x.IsPositive
  · obtain ⟨x, read, positive⟩ := usable
    exact .inl ⟨x, read, positive, timeLimit_of_positive read positive⟩
  · have unusable : ∀ x, timeRead fields language = some x → ¬x.IsPositive :=
      fun x read positive => usable ⟨x, read, positive⟩
    exact .inr ⟨unusable, timeLimit_of_not_positive unusable⟩

theorem timeLimit_isPositive (fields : List (String × String)) (language : String) :
    (ofFields fields language).timeLimit.IsPositive := by
  rcases timeLimit_cases fields language with ⟨x, -, positive, chosen⟩ | ⟨-, fallback⟩
  · exact chosen ▸ positive
  · exact fallback ▸ default_timeLimit_isPositive

/-- The time limit is infinite exactly when the selected field reads as positive infinity. -/
theorem timeLimit_isFinite_iff (fields : List (String × String)) (language : String) :
    (ofFields fields language).timeLimit.isFinite = true ↔
      timeRead fields language ≠ some Binary64.infinity := by
  rcases timeLimit_cases fields language with ⟨x, read, positive, chosen⟩ | ⟨unusable, fallback⟩
  · rw [chosen, read, Ne, Option.some.injEq]
    rcases positive with rfl | ⟨finite, -⟩
    · simp only [not_true_eq_false, iff_false]
      decide
    · refine ⟨fun _ infinite => ?_, fun _ => finite⟩
      subst infinite
      exact absurd finite (by decide)
  · rw [fallback]
    exact ⟨fun _ read => unusable _ read Binary64.infinity_isPositive, fun _ => by decide⟩

end Limits

/-! ## The packet -/

theorem RelayPacket.submission_timeLimit (id : SubmissionId) (problem language source : String)
    (limits : Limits) :
    (RelayPacket.submission id problem language source limits).toJson.get? "time-limit" =
      some (.float limits.timeLimit) := by
  simp [RelayPacket.toJson, Json.Value.get?]

theorem Json.Value.render_float (x : Binary64) :
    Json.Value.render (.float x) = if x.isFinite then Layout.json.write x else "null" := by
  simp [Json.Value.render]

/-- The time limit sent with a submission: the field's value when above zero, else two
seconds; always above zero; written as a JSON number, or as `null` exactly when the field reads
as positive infinity. -/
theorem dispatched_time_limit (fields : List (String × String)) (language : String)
    (id : SubmissionId) (problem source : String) :
    let read := Limits.timeRead fields language
    let t := (Limits.ofFields fields language).timeLimit
    (∀ x, read = some x → x.IsPositive → t = x) ∧
    ((∀ x, read = some x → ¬x.IsPositive) → t = Limits.default.timeLimit ∧ t.toRat = 2) ∧
    t.IsPositive ∧
    (t.isFinite = true ↔ read ≠ some Binary64.infinity) ∧
    ((RelayPacket.submission id problem language source (Limits.ofFields fields language)).toJson.get?
        "time-limit").map Json.Value.render =
      some (if read = some Binary64.infinity then "null" else Layout.json.write t) := by
  dsimp only
  refine ⟨fun x read positive => Limits.timeLimit_of_positive read positive, fun unusable => ?_,
    Limits.timeLimit_isPositive fields language, Limits.timeLimit_isFinite_iff fields language, ?_⟩
  · have fallback := Limits.timeLimit_of_not_positive unusable
    exact ⟨fallback, fallback ▸ Limits.default_timeLimit_toRat⟩
  · rw [RelayPacket.submission_timeLimit, Option.map_some, Json.Value.render_float]
    by_cases infinite : Limits.timeRead fields language = some Binary64.infinity
    · have notFinite := mt (Limits.timeLimit_isFinite_iff fields language).1 (not_not.2 infinite)
      simp [infinite, notFinite]
    · have finite := (Limits.timeLimit_isFinite_iff fields language).2 infinite
      simp [infinite, finite]

/-- A language's own field that reads as NaN stands in for a usable plain field, and the limit
falls back to two seconds. -/
theorem dispatched_time_limit_on_unusable_override :
    Limits.timeRead [("time_limit", "1.5"), ("time_limit:PY3", "nan")] "PY3" = some Binary64.nan ∧
    (Limits.ofFields [("time_limit", "1.5"), ("time_limit:PY3", "nan")] "PY3").timeLimit =
      Limits.default.timeLimit := by
  have read : Limits.timeRead [("time_limit", "1.5"), ("time_limit:PY3", "nan")] "PY3" =
      some Binary64.nan := by
    decide +kernel
  refine ⟨read, ((dispatched_time_limit _ _ 1 "aplusb" "").2.1 fun x found => ?_).1⟩
  rw [read, Option.some.injEq] at found
  subst found
  -- NaN is neither infinite nor finite
  rintro (infinite | ⟨finite, -⟩)
  · exact absurd infinite (by decide)
  · exact absurd finite (by decide)

/-- The field `inf` passes the filter, and the judge is sent `null` for the limit. -/
theorem infinite_time_limit_dispatched_as_null :
    Limits.timeRead [("time_limit", "inf")] "PY3" = some Binary64.infinity ∧
    (Limits.ofFields [("time_limit", "inf")] "PY3").timeLimit = Binary64.infinity ∧
    ((RelayPacket.submission 1 "aplusb" "PY3" "" (Limits.ofFields [("time_limit", "inf")] "PY3")).toJson.get?
      "time-limit").map Json.Value.render = some "null" := by
  decide +kernel

end JudgeRelay
