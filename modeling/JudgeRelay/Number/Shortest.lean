import JudgeRelay.Number.Binary64

/-!
# Shortest decimal of a binary64 value

Every finite nonzero binary64 value `x = m · 2 ^ e` is the rounding of a whole interval
of reals: half a unit in the last place on either side, the lower half-gap being
halved at a power of two, and both ends included exactly when `m` is even. The
shortest decimal of `x` is a decimal in that interval with the fewest significant
digits; of two such decimals with the same number of digits, the nearer one to `x`.

`shortest` tries the grids of 1, 2, …, 17 significant digits in turn, and on each grid
only the two grid points that enclose `x`: if any point of a grid lies in the
interval, so does one of those two. All comparisons are exact natural-number
arithmetic.
-/

namespace JudgeRelay

/-- A decimal number `digits · 10 ^ exponent`. -/
structure Decimal where
  /-- The significant digits, as a natural number. -/
  digits : Nat
  /-- The power of ten that scales them. -/
  exponent : Int
  deriving DecidableEq, Repr, Inhabited

namespace Decimal

/-- Numerator and denominator of `a · 10 ^ k · 2 ^ f`. -/
def ratio (a : Nat) (k f : Int) : Nat × Nat :=
  (a * Nat.pow 10 k.toNat * Nat.pow 2 f.toNat, Nat.pow 10 (-k).toNat * Nat.pow 2 (-f).toNat)

/-- Compares `c · 10 ^ k` with `b · 2 ^ f`. -/
def compareWithBinary (c : Nat) (k : Int) (b : Nat) (f : Int) : Ordering :=
  let (n1, d1) := ratio c k 0
  let (n2, d2) := ratio b 0 f
  compare (n1 * d2) (n2 * d1)

/-- The number of decimal digits of a positive natural number. -/
def digitCount (n : Nat) : Nat := (Nat.toDigits 10 n).length

/-- Removes trailing zero digits, raising the exponent to match. -/
def trim (d : Decimal) : Decimal :=
  if d.digits = 0 then d
  else go d.digits d.exponent (digitCount d.digits)
where
  /-- At most `fuel` zeros are removed: a number has fewer trailing zeros than digits. -/
  go (n : Nat) (k : Int) : Nat → Decimal
    | 0 => ⟨n, k⟩
    | fuel + 1 => if n % 10 = 0 ∧ n ≠ 0 then go (n / 10) (k + 1) fuel else ⟨n, k⟩

end Decimal

namespace Binary64

/-- The floor of the base-10 logarithm of `m · 2 ^ e`, for `m > 0`. -/
def log10Floor (m : Nat) (e : Int) : Int :=
  -- 10 ^ k ≤ m · 2 ^ e exactly when `compareWithBinary 1 k m e` is not `gt`.
  let below (k : Int) : Bool := Decimal.compareWithBinary 1 k m e != .gt
  -- log10 2 < 0.30103, so this estimate is off by at most a few units.
  let estimate : Int := (((Nat.log2 m : Int) + e) * 30103) / 100000
  let k0 := estimate - 2
  -- Four candidates above the estimate's lower end cover the error of the estimate.
  let ks : List Int := [k0 + 5, k0 + 4, k0 + 3, k0 + 2, k0 + 1, k0]
  match ks.find? below with
  | some k => k
  | none => k0 - 1

/-- The interval of reals that round to the positive finite value `m · 2 ^ e`, in units of
`2 ^ (e - 2)`: its lower end, its upper end, and whether the ends belong to it. -/
def roundingInterval (x : Binary64) : Nat × Nat × Bool :=
  let m := x.significand
  let lowerGap := if m = Nat.pow 2 52 ∧ x.exponentField > 1 then 1 else 2
  (4 * m - lowerGap, 4 * m + 2, m % 2 = 0)

/-- Whether `c · 10 ^ k` lies in the rounding interval of `x`. -/
def roundsTo (x : Binary64) (c : Nat) (k : Int) : Bool :=
  let (lo, hi, closed) := x.roundingInterval
  let f := x.exponent - 2
  let cl := Decimal.compareWithBinary c k lo f
  let ch := Decimal.compareWithBinary c k hi f
  if closed then cl != .lt && ch != .gt else cl == .gt && ch == .lt

/-- On the grid `10 ^ k`, the grid points `t · 10 ^ k` and `(t + 1) · 10 ^ k` that
enclose `x`, with `t` the floor. -/
def gridFloor (x : Binary64) (k : Int) : Nat :=
  let (n, d) := Decimal.ratio x.significand (-k) x.exponent
  n / d

/-- The grid point to keep when both enclosing points round to `x`: the nearer one,
and of two equally near, the one with an even last digit. -/
def nearerPoint (x : Binary64) (t : Nat) (k : Int) : Nat :=
  -- Compare the distances `x - t·10^k` and `(t+1)·10^k - x`, i.e. `2x` with `(2t+1)·10^k`.
  match Decimal.compareWithBinary (2 * t + 1) k x.significand (x.exponent + 1) with
  | .gt => t
  | .lt => t + 1
  | .eq => if t % 2 = 0 then t else t + 1

/-- The shortest decimal on grids of `n`, `n + 1`, … significant digits, for at most
`fuel` grids, of the positive finite value `x` whose decimal exponent is `top`. -/
def shortestFrom (x : Binary64) (top : Int) : Nat → Nat → Option Decimal
  | _, 0 => none
  | n, fuel + 1 =>
    let k := top - (n : Int) + 1
    let t := x.gridFloor k
    let low := x.roundsTo t k
    let high := x.roundsTo (t + 1) k
    if low && high then some (Decimal.trim ⟨x.nearerPoint t k, k⟩)
    else if low then some (Decimal.trim ⟨t, k⟩)
    else if high then some (Decimal.trim ⟨t + 1, k⟩)
    else shortestFrom x top (n + 1) fuel

/-- The shortest decimal that rounds back to the finite value `|x|`; zero for zeros. -/
def shortest (x : Binary64) : Decimal :=
  if x.isZero || !x.isFinite then ⟨0, 0⟩
  else
    let top := log10Floor x.significand x.exponent
    -- Seventeen significant digits always identify a binary64 value.
    match shortestFrom x top 1 17 with
    | some d => d
    | none => Decimal.trim ⟨x.gridFloor (top - 16), top - 16⟩

end Binary64

end JudgeRelay
