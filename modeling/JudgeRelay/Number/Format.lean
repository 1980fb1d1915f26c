import JudgeRelay.Number.Shortest

/-!
# Writing binary64 values as text

A value is written from its shortest decimal (`Binary64.shortest`); a `Layout` holds a
format's decisions: where positional notation gives way to an exponent, whether a
whole number keeps `.0`, and how the exponent is signed. Two layouts are used:

* `Layout.json`: JSON numbers and the values quoted in decoding errors, `2.0`, `0.001`,
  `1.5e+300`, `1e-7`;
* `Layout.plain`: the plain decimal text stored for limits and pings, never with an
  exponent: `2`, `0.0000001`, and `1e300` as 301 digits.
-/

namespace JudgeRelay

/-- The decisions of one way of writing decimals. -/
structure Layout where
  /-- Positional notation is used when the number of digits before the decimal point,
  `kk` (negative for leading zeros after it), satisfies `lowestPoint < kk ≤ highestPoint`. -/
  lowestPoint : Int
  /-- See `lowestPoint`. -/
  highestPoint : Int
  /-- A whole number keeps a point and a zero: `2.0` rather than `2`. -/
  pointZero : Bool
  /-- A nonnegative exponent is written with a plus sign: `1e+30` rather than `1e30`. -/
  plusExponent : Bool
  deriving Repr

namespace Layout

/-- JSON numbers: positional from `0.0001` up to `10 ^ 16`, a whole number keeps `.0`,
and exponents are signed. -/
def json : Layout := ⟨-5, 16, true, true⟩

/-- Plain decimal text: always positional (the bounds lie beyond every binary64
exponent), and a whole number is written without a point. -/
def plain : Layout := ⟨-400, 400, false, false⟩

/-- `n` copies of the digit zero. -/
def zeros (n : Nat) : String := String.ofList (List.replicate n '0')

/-- Writes the decimal `digits · 10 ^ k` (with `digits > 0`) in this layout. -/
def writeDecimal (l : Layout) (d : Decimal) : String :=
  let ds := String.ofList (Nat.toDigits 10 d.digits)
  let len : Int := ds.length
  let kk := len + d.exponent
  if l.lowestPoint < kk ∧ kk ≤ l.highestPoint then
    if d.exponent ≥ 0 then
      ds ++ zeros d.exponent.toNat ++ (if l.pointZero then ".0" else "")
    else if kk > 0 then
      String.ofList (ds.toList.take kk.toNat) ++ "." ++ String.ofList (ds.toList.drop kk.toNat)
    else
      "0." ++ zeros (-kk).toNat ++ ds
  else
    let mantissa :=
      match ds.toList with
      | [] => "0"
      | [c] => String.singleton c
      | c :: rest => String.singleton c ++ "." ++ String.ofList rest
    let e := kk - 1
    let expText :=
      if e < 0 then "-" ++ toString e.natAbs
      else (if l.plusExponent then "+" else "") ++ toString e.natAbs
    mantissa ++ "e" ++ expText

/-- Writes a binary64 value: a sign for negative values (zero included), the shortest
decimal in this layout, and `NaN`, `inf` or `-inf` for the values that are not finite. -/
def write (l : Layout) (x : Binary64) : String :=
  if x.isNaN then "NaN"
  else
    let signText := if x.sign then "-" else ""
    if x.isInfinite then signText ++ "inf"
    else if x.isZero then signText ++ (if l.pointZero then "0.0" else "0")
    else signText ++ l.writeDecimal x.shortest

end Layout

end JudgeRelay
