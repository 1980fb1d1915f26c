import JudgeRelay.Number.Shortest

/-!
# Reading numbers from text

`parseFloat` reads a decimal number and rounds it correctly to binary64. The text is
an optional sign, then either `inf`, `infinity` or `nan` in any case, or digits with
an optional point (at least one digit on one side of it) and an optional exponent
(`e` or `E`, an optional sign, at least one digit). Nothing else is accepted: no
white space, no digit separators.

`parseU64` reads an optional `+` and one or more digits of a value below `2 ^ 64`, and
`parseI64` an optional sign and one or more digits of a value from `-2 ^ 63` to `2 ^ 63 - 1`.
-/

namespace JudgeRelay

namespace NumberText

/-- Whether a character is an ASCII digit. -/
def isDigit (c : Char) : Bool := '0' ≤ c && c ≤ '9'

/-- The value of a string of digits. -/
def digitsValue (cs : List Char) : Nat :=
  cs.foldl (fun acc c => acc * 10 + (c.toNat - '0'.toNat)) 0

/-- Splits off a leading sign: whether the value is negative, and the rest. -/
def splitSign : List Char → Bool × List Char
  | '+' :: rest => (false, rest)
  | '-' :: rest => (true, rest)
  | cs => (false, cs)

/-- ASCII lowercase. -/
def lower (cs : List Char) : List Char := cs.map Char.toLower

/-- The binary64 value nearest to `m · 10 ^ k`, with a sign. Values whose decimal
magnitude is far outside the binary64 range are decided without exact arithmetic:
above `10 ^ 310` they are infinite, below `10 ^ -330` zero. -/
def scaledDecimal (neg : Bool) (m : Nat) (k : Int) : Binary64 :=
  if m = 0 then (if neg then Binary64.negZero else Binary64.zero)
  else
    let magnitude := (Decimal.digitCount m : Int) + k
    if magnitude > 310 then (if neg then Binary64.negInfinity else Binary64.infinity)
    else if magnitude < -330 then (if neg then Binary64.negZero else Binary64.zero)
    else if k ≥ 0 then Binary64.ofRatio neg (m * Nat.pow 10 k.toNat) 1
    else Binary64.ofRatio neg m (Nat.pow 10 (-k).toNat)

/-- Reads a decimal number (without sign) into significand digits and exponent. -/
def decimalParts (cs : List Char) : Option (Nat × Int) :=
  let intDigits := cs.takeWhile isDigit
  let rest := cs.dropWhile isDigit
  let (fracDigits, rest) :=
    match rest with
    | '.' :: r => (r.takeWhile isDigit, r.dropWhile isDigit)
    | r => ([], r)
  if intDigits.isEmpty && fracDigits.isEmpty then none
  else
    let m := digitsValue (intDigits ++ fracDigits)
    let base : Int := -(fracDigits.length : Int)
    match rest with
    | [] => some (m, base)
    | e :: r =>
      if e == 'e' || e == 'E' then
        let (negExp, ds) := splitSign r
        if ds.isEmpty || !ds.all isDigit then none
        else
          -- Exponents beyond any binary64 range saturate; the value is then decided by
          -- the magnitude test of `scaledDecimal`.
          let ev : Int := min (digitsValue ds) 100000
          some (m, base + (if negExp then -ev else ev))
      else none

/-- Reads a float as described in the module documentation. -/
def parseFloat (s : String) : Option Binary64 :=
  let (neg, cs) := splitSign s.toList
  let word := lower cs
  if word == "inf".toList || word == "infinity".toList then
    some (if neg then Binary64.negInfinity else Binary64.infinity)
  else if word == "nan".toList then
    some (if neg then Binary64.negNan else Binary64.nan)
  else
    (decimalParts cs).map fun (m, k) => scaledDecimal neg m k

/-- Reads an unsigned 64-bit integer as described in the module documentation. -/
def parseU64 (s : String) : Option Nat :=
  let cs := match s.toList with
    | '+' :: rest => rest
    | cs => cs
  if cs.isEmpty || !cs.all isDigit then none
  else
    let v := digitsValue cs
    if v < Nat.pow 2 64 then some v else none

/-- Whether an integer fits a signed 64-bit word. -/
def fitsI64 (v : Int) : Bool := decide (-Int.pow 2 63 ≤ v) && decide (v < Int.pow 2 63)

/-- Reads a signed 64-bit integer as described in the module documentation. -/
def parseI64 (s : String) : Option Int :=
  let (neg, cs) := splitSign s.toList
  if cs.isEmpty || !cs.all isDigit then none
  else
    let v : Int := if neg then -(digitsValue cs : Int) else digitsValue cs
    if fitsI64 v then some v else none

end NumberText

end JudgeRelay
