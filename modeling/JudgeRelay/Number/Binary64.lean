/-!
# Binary64 values

A double-precision value is held as its 64 bits, so that equality, the sign of
zero and the sign of a NaN are all visible to the logic. Every arithmetic
operation the relay performs on such values is defined here by exact rational
arithmetic followed by one rounding step (`ofRatio`): the nearest value, a tie
going to the even significand, as IEEE 754 prescribes for round-to-nearest.

Main definitions:
1. `Binary64.ofRatio`: the correctly rounded value of a nonnegative fraction.
2. `Binary64.mul`, `Binary64.div`, `Binary64.sub`: arithmetic with IEEE special cases.
3. `Binary64.totalKey`: the key of the total order (`-NaN < -inf < -0 < 0 < inf < NaN`).
-/

namespace JudgeRelay

/-- An IEEE 754 binary64 value, held as its bit pattern. -/
structure Binary64 where
  /-- Sign bit, 11 exponent bits and 52 fraction bits, most significant first. -/
  bits : UInt64
  deriving DecidableEq, Inhabited, Repr

namespace Binary64

/-- The sign bit: set for negative values, `-0` and negative NaNs. -/
def sign (x : Binary64) : Bool := x.bits >>> 63 == 1

/-- The biased exponent field (0 for zeros and subnormals, 2047 for infinities and NaNs). -/
def exponentField (x : Binary64) : Nat := ((x.bits >>> 52) &&& 0x7ff).toNat

/-- The 52 fraction bits. -/
def fractionField (x : Binary64) : Nat := (x.bits &&& 0xfffffffffffff).toNat

/-- Builds a value from its sign, biased exponent and fraction. -/
def ofFields (neg : Bool) (e f : Nat) : Binary64 :=
  ⟨UInt64.ofNat ((if neg then Nat.pow 2 63 else 0) + (e % 2048) * Nat.pow 2 52 + f % Nat.pow 2 52)⟩

/-- Positive zero. -/
def zero : Binary64 := ofFields false 0 0
/-- Negative zero. -/
def negZero : Binary64 := ofFields true 0 0
/-- Positive infinity. -/
def infinity : Binary64 := ofFields false 2047 0
/-- Negative infinity. -/
def negInfinity : Binary64 := ofFields true 2047 0
/-- The quiet NaN with the sign bit clear. -/
def nan : Binary64 := ofFields false 2047 (Nat.pow 2 51)
/-- The quiet NaN with the sign bit set, which invalid operations produce. -/
def negNan : Binary64 := ofFields true 2047 (Nat.pow 2 51)

/-- Not a number: all exponent bits set and a nonzero fraction. -/
def isNaN (x : Binary64) : Bool := x.exponentField == 2047 && x.fractionField != 0
/-- Positive or negative infinity. -/
def isInfinite (x : Binary64) : Bool := x.exponentField == 2047 && x.fractionField == 0
/-- Neither infinite nor NaN. -/
def isFinite (x : Binary64) : Bool := x.exponentField != 2047
/-- Positive or negative zero. -/
def isZero (x : Binary64) : Bool := x.exponentField == 0 && x.fractionField == 0

/-- The integer significand of a finite value: `|x| = significand · 2 ^ exponent`. -/
def significand (x : Binary64) : Nat :=
  if x.exponentField = 0 then x.fractionField else x.fractionField + Nat.pow 2 52

/-- The binary exponent of a finite value, scaled so the significand is an integer. -/
def exponent (x : Binary64) : Int :=
  if x.exponentField = 0 then -1074 else (x.exponentField : Int) - 1075

/-- The value with the sign bit flipped. -/
def neg (x : Binary64) : Binary64 := ⟨x.bits ^^^ 0x8000000000000000⟩

/-- The value with the sign bit cleared. -/
def abs (x : Binary64) : Binary64 := ⟨x.bits &&& 0x7fffffffffffffff⟩

/-- A NaN with its quiet bit set, keeping sign and payload. -/
def quiet (x : Binary64) : Binary64 := ⟨x.bits ||| 0x0008000000000000⟩

/-! ## Rounding -/

/-- Encodes `t · 2 ^ e`, where `t < 2 ^ 54` is already rounded to the precision its
exponent allows: at least `2 ^ 52` for normal values, or `e = -1074` for subnormals. -/
def encode (neg : Bool) (t : Nat) (e : Int) : Binary64 :=
  let (t, e) := if t ≥ Nat.pow 2 53 then (t / 2, e + 1) else (t, e)
  if t = 0 then ofFields neg 0 0
  else if t ≥ Nat.pow 2 52 then
    let biased := e + 1075
    if biased ≥ 2047 then ofFields neg 2047 0 else ofFields neg biased.toNat (t - Nat.pow 2 52)
  else ofFields neg 0 t

/-- The floor of the base-2 logarithm of `num / den`, for positive `num` and `den`. -/
def log2Ratio (num den : Nat) : Int :=
  let e0 : Int := (Nat.log2 num : Int) - (Nat.log2 den : Int)
  let reaches : Bool :=
    if e0 ≥ 0 then decide (num ≥ den * Nat.pow 2 e0.toNat) else decide (num * Nat.pow 2 (-e0).toNat ≥ den)
  if reaches then e0 else e0 - 1

/-- Rounds `q` to the nearest integer of `num / den` scaled by `2 ^ s`, ties to even. -/
def roundScaled (num den : Nat) (s : Int) : Nat :=
  let (n', d') := if s ≥ 0 then (num * Nat.pow 2 s.toNat, den) else (num, den * Nat.pow 2 (-s).toNat)
  let t := n' / d'
  let r := n' % d'
  if 2 * r > d' ∨ (2 * r = d' ∧ t % 2 = 1) then t + 1 else t

/-- The binary64 value nearest to `num / den` (a tie goes to the even significand), with
the sign `neg`. Values beyond the largest finite one round to infinity, and values below
half the smallest subnormal to zero. -/
def ofRatio (neg : Bool) (num den : Nat) : Binary64 :=
  if num = 0 ∨ den = 0 then ofFields neg 0 0
  else
    let e := log2Ratio num den
    let s : Int := if e < -1022 then 1074 else 52 - e
    encode neg (roundScaled num den s) (-s)

/-- The binary64 value nearest to `m · 2 ^ e`. -/
def ofScaled (neg : Bool) (m : Nat) (e : Int) : Binary64 :=
  if e ≥ 0 then ofRatio neg (m * Nat.pow 2 e.toNat) 1 else ofRatio neg m (Nat.pow 2 (-e).toNat)

/-- The binary64 value nearest to a natural number. -/
def ofNat (n : Nat) : Binary64 := ofRatio false n 1

/-- The binary64 value nearest to an integer. -/
def ofInt (n : Int) : Binary64 := ofRatio (n < 0) n.natAbs 1

/-! ## Arithmetic -/

/-- Product, rounded once. A NaN operand gives that NaN, quieted; zero times infinity
gives the negative quiet NaN. -/
def mul (x y : Binary64) : Binary64 :=
  let s := x.sign != y.sign
  if x.isNaN then x.quiet
  else if y.isNaN then y.quiet
  else if x.isInfinite || y.isInfinite then
    if x.isZero || y.isZero then negNan else ofFields s 2047 0
  else
    ofScaled s (x.significand * y.significand) (x.exponent + y.exponent)

/-- Quotient, rounded once. Zero by zero and infinity by infinity give the negative
quiet NaN; a nonzero value divided by zero is infinite. -/
def div (x y : Binary64) : Binary64 :=
  let s := x.sign != y.sign
  if x.isNaN then x.quiet
  else if y.isNaN then y.quiet
  else if x.isInfinite then
    if y.isInfinite then negNan else ofFields s 2047 0
  else if y.isInfinite then ofFields s 0 0
  else if y.isZero then
    if x.isZero then negNan else ofFields s 2047 0
  else
    let e := x.exponent - y.exponent
    if e ≥ 0 then ofRatio s (x.significand * Nat.pow 2 e.toNat) y.significand
    else ofRatio s x.significand (y.significand * Nat.pow 2 (-e).toNat)

/-- Sum, rounded once. Opposite infinities give the negative quiet NaN; an exact zero
sum is `+0` unless both operands are `-0`. -/
def add (x y : Binary64) : Binary64 :=
  if x.isNaN then x.quiet
  else if y.isNaN then y.quiet
  else if x.isInfinite then
    if y.isInfinite && x.sign != y.sign then negNan else x
  else if y.isInfinite then y
  else
    let e := min x.exponent y.exponent
    let a : Int := (x.significand * Nat.pow 2 (x.exponent - e).toNat : Nat)
    let b : Int := (y.significand * Nat.pow 2 (y.exponent - e).toNat : Nat)
    let total := (if x.sign then -a else a) + (if y.sign then -b else b)
    if total = 0 then
      if x.sign && y.sign then negZero else zero
    else ofScaled (total < 0) total.natAbs e

/-- Difference, rounded once. -/
def sub (x y : Binary64) : Binary64 := add x y.neg

/-- The larger of two values; a NaN operand yields the other one. -/
def max (x y : Binary64) : Binary64 :=
  if x.isNaN then y
  else if y.isNaN then x
  else if x.isZero && y.isZero then (if x.sign then y else x)
  else
    let ax : Int := if x.isInfinite then Int.pow 2 2000 else Int.ofNat (x.significand * Nat.pow 2 (x.exponent + 1074).toNat)
    let ay : Int := if y.isInfinite then Int.pow 2 2000 else Int.ofNat (y.significand * Nat.pow 2 (y.exponent + 1074).toNat)
    let vx := if x.sign then -ax else ax
    let vy := if y.sign then -ay else ay
    if vx ≥ vy then x else y

/-! ## Order -/

/-- The key of the total order on bit patterns: negative values (NaNs included) by
decreasing magnitude, then positive ones by increasing magnitude, so that
`-NaN < -inf < ... < -0 < 0 < ... < inf < NaN`. -/
def totalKey (x : Binary64) : Int :=
  let magnitude : Int := (x.bits &&& 0x7fffffffffffffff).toNat
  if x.sign then -magnitude - 1 else magnitude

/-- Comparison in the total order. -/
def totalCompare (x y : Binary64) : Ordering := compare x.totalKey y.totalKey

/-- The absolute value is at least `2 ^ k · c` for a positive natural `c` and integer `k`;
for NaN this is false, for infinities true. -/
def absAtLeast (x : Binary64) (c : Nat) (k : Int) : Bool :=
  if x.isNaN then false
  else if x.isInfinite then true
  else
    let e := min x.exponent k
    x.significand * Nat.pow 2 (x.exponent - e).toNat ≥ c * Nat.pow 2 (k - e).toNat

end Binary64

end JudgeRelay
