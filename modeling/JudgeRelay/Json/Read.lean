import JudgeRelay.Json.Value
import JudgeRelay.Number.Format
import JudgeRelay.Text.Escaped

/-!
# Reading JSON text

The reader works on bytes and keeps the index of the next unread byte. Each problem
is reported with the line and column where it was noticed: lines count line feeds,
and the column is the number of bytes read on the current line. A problem noticed
while looking at a byte, without taking it, is placed just after that byte.

Numbers follow one fixed rule. An integer without fraction or exponent stays an
integer while it fits in 64 bits (signed when negative). Any other number is built
from at most nineteen leading digits read as a 64-bit integer `s` and a decimal
exponent `k`: `s` is rounded to binary64 and then multiplied or divided once by the
binary64 nearest to `10 ^ |k|` (in steps of `10 ^ 308` when `|k|` exceeds 308).
A product that overflows is an error rather than infinity.

Nesting deeper than 127 arrays and objects is refused.
-/

namespace JudgeRelay

namespace Json

/-- What went wrong while reading JSON text. -/
inductive Problem where
  | eofWhileParsingList
  | eofWhileParsingObject
  | eofWhileParsingString
  | eofWhileParsingValue
  | expectedColon
  | expectedListCommaOrEnd
  | expectedObjectCommaOrEnd
  | expectedSomeIdent
  | expectedSomeValue
  | invalidEscape
  | invalidNumber
  | numberOutOfRange
  | invalidUnicodeCodePoint
  | controlCharacterInString
  | keyMustBeAString
  | loneLeadingSurrogate
  | trailingComma
  | trailingCharacters
  | unexpectedEndOfHexEscape
  | recursionLimitExceeded
  /-- Well-formed text of the wrong shape for what was being read. -/
  | shape (message : String)
  deriving DecidableEq, Repr, Inhabited

/-- Which class of problem: the text ended early, it is not JSON, or it is JSON of the
wrong shape. -/
inductive ProblemKind where
  | eof
  | malformed
  | data
  deriving DecidableEq, Repr

namespace Problem

/-- The wording of a problem. -/
def text : Problem → String
  | eofWhileParsingList => "EOF while parsing a list"
  | eofWhileParsingObject => "EOF while parsing an object"
  | eofWhileParsingString => "EOF while parsing a string"
  | eofWhileParsingValue => "EOF while parsing a value"
  | expectedColon => "expected `:`"
  | expectedListCommaOrEnd => "expected `,` or `]`"
  | expectedObjectCommaOrEnd => "expected `,` or `\x7d`"
  | expectedSomeIdent => "expected ident"
  | expectedSomeValue => "expected value"
  | invalidEscape => "invalid escape"
  | invalidNumber => "invalid number"
  | numberOutOfRange => "number out of range"
  | invalidUnicodeCodePoint => "invalid unicode code point"
  | controlCharacterInString => "control character (\\u0000-\\u001F) found while parsing a string"
  | keyMustBeAString => "key must be a string"
  | loneLeadingSurrogate => "lone leading surrogate in hex escape"
  | trailingComma => "trailing comma"
  | trailingCharacters => "trailing characters"
  | unexpectedEndOfHexEscape => "unexpected end of hex escape"
  | recursionLimitExceeded => "recursion limit exceeded"
  | shape message => message

/-- The class of a problem. -/
def kind : Problem → ProblemKind
  | eofWhileParsingList | eofWhileParsingObject | eofWhileParsingString
  | eofWhileParsingValue => .eof
  | shape _ => .data
  | _ => .malformed

end Problem

/-- A problem, and the line and column where it was noticed when that is known. -/
structure ReadError where
  problem : Problem
  location : Option (Nat × Nat)
  deriving DecidableEq, Repr, Inhabited

namespace ReadError

/-- A shape problem with no location. -/
def shape (message : String) : ReadError := ⟨.shape message, none⟩

/-- The full message: the problem's wording, then its location if known. -/
def message (e : ReadError) : String :=
  match e.location with
  | some (line, column) => s!"{e.problem.text} at line {line} column {column}"
  | none => e.problem.text

end ReadError

/-! ## Describing values in messages -/

/-- How a value of the wrong shape is named in a message. -/
def describe : Value → String
  | .null => "null"
  | .bool b => s!"boolean `{b}`"
  | .nat n => s!"integer `{n}`"
  | .negInt n => s!"integer `{n}`"
  | .float x => "floating point `" ++ Layout.json.write x ++ "`"
  | .str s => "string " ++ Escaped.quote s
  | .arr _ => "sequence"
  | .obj _ => "map"

/-- "invalid type: X, expected Y". -/
def invalidType (v : Value) (expected : String) : String :=
  "invalid type: " ++ describe v ++ ", expected " ++ expected

/-- "invalid value: X, expected Y". -/
def invalidValue (v : Value) (expected : String) : String :=
  "invalid value: " ++ describe v ++ ", expected " ++ expected

/-! ## The reader -/

/-- A computation over JSON text: the bytes are fixed and the index of the next byte
to read is the state. The index survives a failure, so that a problem raised by a
caller can still be placed where reading stopped. -/
abbrev Reader := ReaderT ByteArray (ExceptT ReadError (StateM Nat))

/-- Line and column just before byte `i`. -/
def locate (src : ByteArray) (i : Nat) : Nat × Nat :=
  let before := (src.extract 0 i).toList
  let lineStart := match before.reverse.findIdx? (· == 10) with
    | some j => before.length - j
    | none => 0
  (1 + (before.take lineStart).count 10, i - lineStart)

namespace Reader

/-- The next byte, if any, without taking it. -/
def peek? : Reader (Option UInt8) := do
  let src ← read
  let pos ← get
  pure src[pos]?

/-- Takes one byte. -/
def bump : Reader Unit := modify (· + 1)

/-- Takes the next byte and returns it, if any. -/
def next? : Reader (Option UInt8) := do
  let b ← peek?
  if b.isSome then bump
  pure b

/-- Fails with a problem located before the next byte. -/
def fail (p : Problem) : Reader α := do
  let src ← read
  let pos ← get
  throw ⟨p, some (locate src pos)⟩

/-- Fails with a problem located after the byte being looked at. -/
def failAhead (p : Problem) : Reader α := do
  let src ← read
  let pos ← get
  throw ⟨p, some (locate src (min src.size (pos + 1)))⟩

/-- Gives a located problem its location: a shape problem noticed without one is placed
before the next byte. -/
def locateHere (e : ReadError) : Reader ReadError := do
  match e.location with
  | some _ => pure e
  | none =>
    let src ← read
    let pos ← get
    pure { e with location := some (locate src pos) }

/-- Runs `r`, placing any unlocated problem it raises before the next byte. -/
def located (r : Reader α) : Reader α :=
  tryCatch r fun e => do throw (← locateHere e)

/-- Whether a byte is JSON white space. -/
def isBlank (b : UInt8) : Bool := b == 32 || b == 10 || b == 9 || b == 13

/-- Index of the first byte at or after `pos` that is not white space. -/
def blankEnd (src : ByteArray) (pos : Nat) : Nat → Nat
  | 0 => pos
  | fuel + 1 =>
    match src[pos]? with
    | some b => if isBlank b then blankEnd src (pos + 1) fuel else pos
    | none => pos

/-- Skips white space and returns the next byte, if any, without taking it. -/
def skipBlank : Reader (Option UInt8) := do
  let src ← read
  modify fun pos => blankEnd src pos src.size
  peek?

/-- Whether a byte is an ASCII digit. -/
def isDigit (b : UInt8) : Bool := 48 ≤ b && b ≤ 57

/-- The value of an ASCII digit. -/
def digitValue (b : UInt8) : Nat := (b - 48).toNat

/-- Reads the rest of a literal word such as `ull` after `n`. -/
def expectWord : List UInt8 → Reader Unit
  | [] => pure ()
  | c :: rest => do
    match ← next? with
    | none => fail .eofWhileParsingValue
    | some b => if b == c then expectWord rest else fail .expectedSomeIdent

/-! ### Numbers -/

/-- The largest 64-bit unsigned integer. -/
def u64Max : Nat := Nat.pow 2 64 - 1

/-- The largest 32-bit signed integer. -/
def i32Max : Int := Int.pow 2 31 - 1

/-- Clamps to the 32-bit signed range. -/
def clampI32 (n : Int) : Int := max (-Int.pow 2 31) (min i32Max n)

/-- The binary64 value nearest to `10 ^ k`. -/
def powerOfTen (k : Nat) : Binary64 := Binary64.ofRatio false (Nat.pow 10 k) 1

/-- `s · 10 ^ k` computed as described in the module documentation; `none` when it
overflows. -/
def scaleByPowerOfTen (s : Nat) (k : Int) : Option Binary64 :=
  go (Binary64.ofNat s) k 4
where
  /-- At most `fuel` further division steps by `10 ^ 308`; the value reaches zero well
  before four of them. -/
  go (f : Binary64) (k : Int) : Nat → Option Binary64
    | 0 => some f
    | fuel + 1 =>
      if k.natAbs ≤ 308 then
        let p := powerOfTen k.natAbs
        if k ≥ 0 then
          let r := f.mul p
          if r.isInfinite then none else some r
        else some (f.div p)
      else if f.isZero then some f
      else if k ≥ 0 then none
      else go (f.div (powerOfTen 308)) (k + 308) fuel

/-- The float `±(s · 10 ^ k)`, or the out-of-range problem. -/
def finishFloat (positive : Bool) (s : Nat) (k : Int) : Reader Value :=
  match scaleByPowerOfTen s k with
  | some f => pure (.float (if positive then f else f.neg))
  | none => fail .numberOutOfRange

/-- Skips digits, at most `fuel` of them. -/
def skipDigits : Nat → Reader Unit
  | 0 => pure ()
  | fuel + 1 => do
    match ← peek? with
    | some b => if isDigit b then do bump; skipDigits fuel else pure ()
    | none => pure ()

/-- Reads the exponent digits after `e` and an optional sign. -/
def exponentDigits (positive : Bool) (s : Nat) (start : Int) (positiveExp : Bool) (e : Nat) :
    Nat → Reader Value
  | 0 => finishFloat positive s (if positiveExp then clampI32 (start + e) else clampI32 (start - e))
  | fuel + 1 => do
    match ← peek? with
    | some b =>
      if isDigit b then do
        bump
        let e' := e * 10 + digitValue b
        if (e' : Int) > i32Max then
          -- The exponent no longer fits: a zero stays zero, a tiny number becomes zero.
          if s ≠ 0 ∧ positiveExp then fail .numberOutOfRange
          else do
            skipDigits (← read).size
            pure (.float (if positive then Binary64.zero else Binary64.negZero))
        else exponentDigits positive s start positiveExp e' fuel
      else finishFloat positive s (if positiveExp then clampI32 (start + e) else clampI32 (start - e))
    | none => finishFloat positive s (if positiveExp then clampI32 (start + e) else clampI32 (start - e))

/-- Reads an exponent part starting at `e` or `E`. -/
def exponentPart (positive : Bool) (s : Nat) (start : Int) : Reader Value := do
  bump
  let positiveExp ← do
    match ← peek? with
    | some 43 => do bump; pure true
    | some 45 => do bump; pure false
    | _ => pure true
  match ← next? with
  | none => fail .eofWhileParsingValue
  | some b =>
    if isDigit b then exponentDigits positive s start positiveExp (digitValue b) (← read).size
    else fail .invalidNumber

/-- After more significant digits than fit in 64 bits: the rest are dropped. -/
def afterDroppedDigits (positive : Bool) (s : Nat) (k : Int) : Reader Value := do
  skipDigits (← read).size
  match ← peek? with
  | some 101 | some 69 => exponentPart positive s k
  | _ => finishFloat positive s k

/-- Reads the digits of a fraction; `k` counts the digits taken after the point. -/
def fractionDigits (positive : Bool) (s : Nat) (before : Int) (k : Int) :
    Nat → Reader Value
  | 0 => finishFloat positive s (before + k)
  | fuel + 1 => do
    match ← peek? with
    | some b =>
      if isDigit b then
        let s' := s * 10 + digitValue b
        if s' > u64Max then afterDroppedDigits positive s (before + k)
        else do bump; fractionDigits positive s' before (k - 1) fuel
      else if k = 0 then failAhead .invalidNumber
      else if b == 101 || b == 69 then exponentPart positive s (before + k)
      else finishFloat positive s (before + k)
    | none =>
      if k = 0 then failAhead .eofWhileParsingValue else finishFloat positive s (before + k)

/-- Reads a fraction starting at the point. -/
def fractionPart (positive : Bool) (s : Nat) (before : Int) : Reader Value := do
  bump
  fractionDigits positive s before 0 (← read).size

/-- Reads what follows the digits of a whole number that fit in 64 bits. -/
def numberTail (positive : Bool) (s : Nat) : Reader Value := do
  match ← peek? with
  | some 46 => fractionPart positive s 0
  | some 101 | some 69 => exponentPart positive s 0
  | _ =>
    if positive then pure (.nat s)
    else if s = 0 then pure (.float Binary64.negZero)
    else if s ≤ Nat.pow 2 63 then pure (.negInt (-(s : Int)))
    else pure (.float (Binary64.ofNat s).neg)

/-- A whole number with more digits than fit in 64 bits: the extra digits only raise
the exponent. -/
def longInteger (positive : Bool) (s : Nat) (k : Int) : Nat → Reader Value
  | 0 => finishFloat positive s k
  | fuel + 1 => do
    match ← peek? with
    | some b =>
      if isDigit b then do bump; longInteger positive s (k + 1) fuel
      else if b == 46 then fractionPart positive s k
      else if b == 101 || b == 69 then exponentPart positive s k
      else finishFloat positive s k
    | none => finishFloat positive s k

/-- Reads further digits of a whole number. -/
def integerDigits (positive : Bool) (s : Nat) : Nat → Reader Value
  | 0 => numberTail positive s
  | fuel + 1 => do
    match ← peek? with
    | some b =>
      if isDigit b then
        let s' := s * 10 + digitValue b
        if s' > u64Max then longInteger positive s 0 (← read).size
        else do bump; integerDigits positive s' fuel
      else numberTail positive s
    | none => numberTail positive s

/-- Reads a number whose sign has been read (`positive` is false after a minus). -/
def number (positive : Bool) : Reader Value := do
  match ← next? with
  | none => fail .eofWhileParsingValue
  | some b =>
    if b == 48 then
      match ← peek? with
      | some c => if isDigit c then failAhead .invalidNumber else numberTail positive 0
      | none => numberTail positive 0
    else if isDigit b then integerDigits positive (digitValue b) (← read).size
    else fail .invalidNumber

/-! ### Strings -/

/-- The value of a hexadecimal digit. -/
def hexValue (b : UInt8) : Option Nat :=
  if 48 ≤ b && b ≤ 57 then some (b - 48).toNat
  else if 97 ≤ b && b ≤ 102 then some ((b - 97).toNat + 10)
  else if 65 ≤ b && b ≤ 70 then some ((b - 65).toNat + 10)
  else none

/-- Reads four hexadecimal digits of a `\u` escape. -/
def hexQuad : Reader Nat := do
  let src ← read
  let pos ← get
  if pos + 4 ≤ src.size then
    set (pos + 4)
    let digits := [src[pos]!, src[pos + 1]!, src[pos + 2]!, src[pos + 3]!].map hexValue
    match digits with
    | [some a, some b, some c, some d] => pure (((a * 16 + b) * 16 + c) * 16 + d)
    | _ => fail .invalidEscape
  else do
    set src.size
    fail .eofWhileParsingString

/-- The UTF-8 bytes of a code point. -/
def utf8Bytes (n : Nat) : ByteArray := (String.singleton (Char.ofNat n)).toUTF8

/-- Reads a `\u` escape after the `u`, pairing surrogates. -/
def unicodeEscape : Reader ByteArray := do
  let n ← hexQuad
  if 0xDC00 ≤ n ∧ n ≤ 0xDFFF then fail .loneLeadingSurrogate
  else if n < 0xD800 ∨ n > 0xDBFF then pure (utf8Bytes n)
  else
    match ← peek? with
    | none => fail .eofWhileParsingString
    | some b =>
      if b != 92 then do bump; fail .unexpectedEndOfHexEscape
      else do
        bump
        match ← peek? with
        | none => fail .eofWhileParsingString
        | some c =>
          if c != 117 then do bump; fail .unexpectedEndOfHexEscape
          else do
            bump
            let n2 ← hexQuad
            if 0xDC00 ≤ n2 ∧ n2 ≤ 0xDFFF then
              pure (utf8Bytes ((((n - 0xD800) <<< 10) ||| (n2 - 0xDC00)) + 0x10000))
            else fail .loneLeadingSurrogate

/-- Reads an escape after the backslash. -/
def escape : Reader ByteArray := do
  match ← next? with
  | none => fail .eofWhileParsingString
  | some 34 => pure ⟨#[34]⟩
  | some 92 => pure ⟨#[92]⟩
  | some 47 => pure ⟨#[47]⟩
  | some 98 => pure ⟨#[8]⟩
  | some 102 => pure ⟨#[12]⟩
  | some 110 => pure ⟨#[10]⟩
  | some 114 => pure ⟨#[13]⟩
  | some 116 => pure ⟨#[9]⟩
  | some 117 => unicodeEscape
  | some _ => fail .invalidEscape

/-- Reads string contents up to and including the closing quote, at most `fuel` bytes
and escapes. -/
def stringBody (acc : ByteArray) : Nat → Reader String
  | 0 => fail .eofWhileParsingString
  | fuel + 1 => do
    match ← next? with
    | none => fail .eofWhileParsingString
    | some 34 =>
      match String.fromUTF8? acc with
      | some s => pure s
      | none => fail .invalidUnicodeCodePoint
    | some 92 => do
      let e ← escape
      stringBody (acc ++ e) fuel
    | some b =>
      if b < 32 then fail .controlCharacterInString
      else stringBody (acc.push b) fuel

/-- Reads a string whose opening quote has been taken. -/
def string : Reader String := do
  stringBody ByteArray.empty ((← read).size + 1)

/-! ### Arrays, objects and values -/

/-- Reads a value at nesting allowance `depth` with at most `fuel` nested steps. -/
def value (depth : Nat) : Nat → Reader Value
  | 0 => fail .eofWhileParsingValue
  | fuel + 1 => do
    match ← skipBlank with
    | none => failAhead .eofWhileParsingValue
    | some b =>
      if b == 110 then do bump; expectWord [117, 108, 108]; pure .null
      else if b == 116 then do bump; expectWord [114, 117, 101]; pure (.bool true)
      else if b == 102 then do bump; expectWord [97, 108, 115, 101]; pure (.bool false)
      else if b == 45 then do bump; number false
      else if isDigit b then number true
      else if b == 34 then do bump; pure (.str (← string))
      else if b == 91 then
        if depth ≤ 1 then failAhead .recursionLimitExceeded
        else do
          bump
          let items ← elements (depth - 1) true [] fuel
          closeList
          pure (.arr items)
      else if b == 123 then
        if depth ≤ 1 then failAhead .recursionLimitExceeded
        else do
          bump
          let fields ← members (depth - 1) true [] fuel
          closeObject
          pure (.obj fields)
      else failAhead .expectedSomeValue
where
  /-- Reads array elements up to the closing bracket, which is left unread. -/
  elements (depth : Nat) (first : Bool) (acc : List Value) : Nat → Reader (List Value)
    | 0 => fail .eofWhileParsingList
    | fuel + 1 => do
      match ← skipBlank with
      | some 93 => pure acc.reverse
      | some 44 =>
        if first then failAhead .expectedSomeValue
        else do
          bump
          match ← skipBlank with
          | some 93 => failAhead .trailingComma
          | some _ => do
            let v ← value depth fuel
            elements depth false (v :: acc) fuel
          | none => failAhead .eofWhileParsingValue
      | some _ =>
        if first then do
          let v ← value depth fuel
          elements depth false (v :: acc) fuel
        else failAhead .expectedListCommaOrEnd
      | none => failAhead .eofWhileParsingList
  /-- Reads object members up to the closing brace, which is left unread. -/
  members (depth : Nat) (first : Bool) (acc : List (String × Value)) :
      Nat → Reader (List (String × Value))
    | 0 => fail .eofWhileParsingObject
    | fuel + 1 => do
      let key? ← do
        match ← skipBlank with
        | some 125 => pure none
        | some 44 =>
          if first then failAhead .keyMustBeAString
          else do
            bump
            match ← skipBlank with
            | some 34 => do bump; pure (some (← string))
            | some 125 => failAhead .trailingComma
            | some _ => failAhead .keyMustBeAString
            | none => failAhead .eofWhileParsingValue
        | some 34 =>
          if first then do bump; pure (some (← string)) else failAhead .expectedObjectCommaOrEnd
        | some _ => if first then failAhead .keyMustBeAString else failAhead .expectedObjectCommaOrEnd
        | none => failAhead .eofWhileParsingObject
      match key? with
      | none => pure acc.reverse
      | some key => do
        colon
        let v ← value depth fuel
        members depth false ((key, v) :: acc) fuel
  /-- Reads the colon between a key and its value. -/
  colon : Reader Unit := do
    match ← skipBlank with
    | some 58 => bump
    | some _ => failAhead .expectedColon
    | none => failAhead .eofWhileParsingObject
  /-- Reads the closing bracket of an array whose elements have all been read. -/
  closeList : Reader Unit := do
    match ← skipBlank with
    | some 93 => bump
    | some 44 => failAhead .trailingComma
    | some _ => failAhead .trailingCharacters
    | none => failAhead .eofWhileParsingList
  /-- Reads the closing brace of an object whose members have all been read. -/
  closeObject : Reader Unit := do
    match ← skipBlank with
    | some 125 => bump
    | some 44 => failAhead .trailingComma
    | some _ => failAhead .trailingCharacters
    | none => failAhead .eofWhileParsingObject

/-- The nesting allowance: 127 levels of arrays and objects. -/
def maxDepth : Nat := 128

/-- Reads one value with the default nesting allowance. -/
def anyValue : Reader Value := do
  value maxDepth (2 * (← read).size + 4)

/-- Checks that only white space follows. -/
def finish : Reader Unit := do
  match ← skipBlank with
  | some _ => failAhead .trailingCharacters
  | none => pure ()

/-- Runs a reader over bytes from the start. -/
def run (r : Reader α) (src : ByteArray) : Except ReadError α :=
  (Id.run (StateT.run (ExceptT.run (ReaderT.run r src)) 0)).1

end Reader

/-- Reads a whole document: one value and nothing after it but white space. -/
def parse (src : ByteArray) : Except ReadError Value :=
  Reader.run (do let v ← Reader.anyValue; Reader.finish; pure v) src

end Json

end JudgeRelay
