import JudgeRelay.Toml.Value

/-!
# Reading TOML

A reader for TOML 1.0 documents. It accepts what the format allows and refuses the
rest: keys bare, quoted or dotted; basic, literal and multi-line strings with their
escapes; decimal, hexadecimal, octal and binary integers within 64 bits, with single
underscores between digits; floats, `inf` and `nan`; booleans; offset and local
date-times, dates and times, with checked fields; arrays over several lines with
comments; inline tables on one line; tables and arrays of tables, under the rules of
`Toml.Value` on what may still be added to a table.

Every loop reads at least one character per round, so the length of the text bounds
them all.
-/

namespace JudgeRelay

namespace Toml

/-- Why a reader stopped: what was wrong, and the text it had not read yet. -/
structure Fault where
  message : String
  rest : List Char

/-- A reader of TOML text; a failure says what was wrong and where. -/
abbrev Read := StateT (List Char) (Except Fault)

namespace Read

/-- Fails here with a message. -/
def fail (message : String) : Read α := do throw ⟨message, ← get⟩

/-- The next character, not consumed. -/
def peek : Read (Option Char) := do pure (← get).head?

/-- Reads one given character. -/
def expect (c : Char) : Read Unit := do
  match ← get with
  | d :: rest => if d == c then set rest else fail ("expected " ++ c.toString)
  | [] => fail ("expected " ++ c.toString)

/-- Space and tab. -/
def isBlank (c : Char) : Bool := c == ' ' || c == '\t'

/-- Skips spaces and tabs. -/
def skipBlank : Read Unit := modify (·.dropWhile isBlank)

/-- Reads a line break (LF or CR LF) if one is next. -/
def lineBreak? : Read Bool := do
  match ← get with
  | '\n' :: rest => set rest; pure true
  | '\r' :: '\n' :: rest => set rest; pure true
  | _ => pure false

/-- Characters allowed in comments and strings besides their delimiters: tab and
everything from space up, DEL excepted. -/
def textChar (c : Char) : Bool := c == '\t' || (c.toNat ≥ 0x20 && c.toNat != 0x7f)

/-- Reads a comment after its `#`, up to the line break. -/
def comment : Read Unit := do
  let cs ← get
  let body := cs.takeWhile fun c => c != '\n' && c != '\r'
  if body.all textChar then set (cs.drop body.length) else fail "invalid character in comment"

/-- Ends a line: blanks, a comment, then a line break or the end of the text. -/
def lineEnd : Read Unit := do
  skipBlank
  if (← peek) == some '#' then do expect '#'; comment
  match ← get with
  | [] => pure ()
  | _ => if ← lineBreak? then pure () else fail "expected a line break"

/-! ## Strings -/

/-- The value of a hexadecimal digit. -/
def hexValue (c : Char) : Option Nat :=
  if '0' ≤ c && c ≤ '9' then some (c.toNat - '0'.toNat)
  else if 'a' ≤ c && c ≤ 'f' then some (c.toNat - 'a'.toNat + 10)
  else if 'A' ≤ c && c ≤ 'F' then some (c.toNat - 'A'.toNat + 10)
  else none

/-- Reads the `n` hexadecimal digits of a `\u` or `\U` escape: a Unicode scalar value. -/
def unicodeEscape (n : Nat) : Read Char := do
  let cs ← get
  let ds := cs.take n
  match ds.mapM hexValue with
  | some vs =>
    let v := vs.foldl (fun acc d => acc * 16 + d) 0
    if ds.length == n && (v < 0xd800 || (0xdfff < v && v ≤ 0x10ffff)) then do
      set (cs.drop n)
      pure (Char.ofNat v)
    else fail "invalid unicode escape"
  | none => fail "invalid unicode escape"

/-- Reads an escape after its backslash. -/
def escape : Read Char := do
  match ← get with
  | c :: rest =>
    match c with
    | 'b' => set rest; pure '\x08'
    | 't' => set rest; pure '\t'
    | 'n' => set rest; pure '\n'
    | 'f' => set rest; pure '\x0c'
    | 'r' => set rest; pure '\r'
    | '"' => set rest; pure '"'
    | '\\' => set rest; pure '\\'
    | 'u' => set rest; unicodeEscape 4
    | 'U' => set rest; unicodeEscape 8
    | _ => fail "invalid escape"
  | [] => fail "invalid escape"

/-- Reads a basic string after its opening quote. -/
def basicBody (acc : List Char) : Nat → Read String
  | 0 => fail "unterminated string"
  | fuel + 1 => do
    match ← get with
    | '"' :: rest => set rest; pure (String.ofList acc.reverse)
    | '\\' :: rest => do
      set rest
      let c ← escape
      basicBody (c :: acc) fuel
    | c :: rest =>
      if textChar c then do set rest; basicBody (c :: acc) fuel
      else fail "invalid character in string"
    | [] => fail "unterminated string"

/-- Reads a literal string after its opening quote. -/
def literalBody : Read String := do
  let cs ← get
  let body := cs.takeWhile fun c => textChar c && c != '\''
  match cs.drop body.length with
  | '\'' :: rest => set rest; pure (String.ofList body)
  | _ => fail "unterminated literal string"

/-- Drops spaces, tabs and line breaks. -/
def dropBlankLines : List Char → List Char
  | ' ' :: rest | '\t' :: rest | '\n' :: rest => dropBlankLines rest
  | '\r' :: '\n' :: rest => dropBlankLines rest
  | cs => cs

/-- Drops one line break. -/
def dropLineBreak : List Char → List Char
  | '\n' :: rest => rest
  | '\r' :: '\n' :: rest => rest
  | cs => cs

/-- Reads the body of a multi-line string after its three opening quotes `q`; line
breaks read as LF. Three quotes end it, and up to two more before them belong to the
string. `escapes` allows escapes and the line-ending backslash, which drops the
blanks and line breaks after it. -/
def multiLineBody (q : Char) (escapes : Bool) (acc : List Char) : Nat → Read String
  | 0 => fail "unterminated string"
  | fuel + 1 => do
    let cs ← get
    match cs with
    | [] => fail "unterminated string"
    | '\n' :: rest => set rest; multiLineBody q escapes ('\n' :: acc) fuel
    | '\r' :: '\n' :: rest => set rest; multiLineBody q escapes ('\n' :: acc) fuel
    | c :: rest =>
      if c == q then
        let n := (cs.takeWhile (· == q)).length
        if n < 3 then do
          set (cs.drop n)
          multiLineBody q escapes (List.replicate n q ++ acc) fuel
        else if n > 5 then fail "too many quotes"
        else do
          set (cs.drop n)
          pure (String.ofList (acc.reverse ++ List.replicate (n - 3) q))
      else if escapes && c == '\\' then
        match rest.dropWhile isBlank with
        | '\n' :: _ | '\r' :: '\n' :: _ => do
          set (dropBlankLines rest)
          multiLineBody q escapes acc fuel
        | _ => do
          set rest
          let e ← escape
          multiLineBody q escapes (e :: acc) fuel
      else if textChar c then do set rest; multiLineBody q escapes (c :: acc) fuel
      else fail "invalid character in string"

/-! ## Keys -/

/-- Characters of bare keys. -/
def bareKeyChar (c : Char) : Bool := c.isAlphanum || c == '-' || c == '_'

/-- Reads one key: bare, or a one-line string. -/
def simpleKey (fuel : Nat) : Read String := do
  match ← get with
  | '"' :: rest => do set rest; basicBody [] fuel
  | '\'' :: rest => do set rest; literalBody
  | cs =>
    let k := cs.takeWhile bareKeyChar
    if k.isEmpty then fail "expected a key"
    else do
      set (cs.drop k.length)
      pure (String.ofList k)

/-- Reads a key, dotted or not, and the blanks after it. -/
def keyPath (acc : List String) : Nat → Read (List String)
  | 0 => fail "key too long"
  | fuel + 1 => do
    let k ← simpleKey fuel
    skipBlank
    if (← peek) == some '.' then do
      expect '.'
      skipBlank
      keyPath (k :: acc) fuel
    else pure (k :: acc).reverse

/-! ## Numbers and dates -/

/-- Splits off digits joined by single underscores, starting with a digit. -/
def digitRun (ok : Char → Bool) (cs : List Char) : Option (List Char × List Char) :=
  match cs with
  | c :: rest => if ok c then some (more [c] rest) else none
  | [] => none
where
  /-- Continues a run of digits. -/
  more (acc : List Char) : List Char → List Char × List Char
    | '_' :: d :: rest => if ok d then more (d :: acc) rest else (acc.reverse, '_' :: d :: rest)
    | d :: rest => if ok d then more (d :: acc) rest else (acc.reverse, d :: rest)
    | [] => (acc.reverse, [])

/-- Splits off the digits of a decimal integer without sign: a lone zero, or digits
not starting with zero. -/
def decimalRun (cs : List Char) : Option (List Char × List Char) :=
  match cs with
  | '0' :: rest => some (['0'], rest)
  | _ => digitRun Char.isDigit cs

/-- The value of digits in a radix. -/
def digitsValue (radix : Nat) (ds : List Char) : Nat :=
  ds.foldl (fun acc c => acc * radix + (hexValue c).getD 0) 0

/-- Reads an integer: decimal with optional sign, or `0x`, `0o`, `0b` without; it
must fit in 64 bits. -/
def integer? (cs : List Char) : Option Int :=
  let radixed (radix : Nat) (rest : List Char) : Option Int :=
    match digitRun (fun c => ((hexValue c).getD 16) < radix) rest with
    | some (ds, []) =>
      let v := digitsValue radix ds
      if v < Nat.pow 2 63 then some v else none
    | _ => none
  match cs with
  | '0' :: 'x' :: rest => radixed 16 rest
  | '0' :: 'o' :: rest => radixed 8 rest
  | '0' :: 'b' :: rest => radixed 2 rest
  | _ =>
    let (neg, body) := match cs with
      | '+' :: r => (false, r)
      | '-' :: r => (true, r)
      | _ => (false, cs)
    match decimalRun body with
    | some (ds, []) =>
      let v : Int := digitsValue 10 ds
      let n := if neg then -v else v
      if -Int.pow 2 63 ≤ n && n < Int.pow 2 63 then some n else none
    | _ => none

/-- Whether the rest of a float is a valid exponent, or nothing when `emptyOk`. -/
def exponentOk (emptyOk : Bool) : List Char → Bool
  | [] => emptyOk
  | e :: r =>
    (e == 'e' || e == 'E') &&
      (let r := match r with
        | '+' :: x | '-' :: x => x
        | _ => r
       match digitRun Char.isDigit r with
       | some (_, []) => true
       | _ => false)

/-- Whether a token is a float: an integer part, then a fraction, an exponent or
both; or `inf` or `nan`, with an optional sign. -/
def isFloat (cs : List Char) : Bool :=
  let body := match cs with
    | '+' :: r | '-' :: r => r
    | _ => cs
  if body == ['i', 'n', 'f'] || body == ['n', 'a', 'n'] then true
  else match decimalRun body with
    | some (_, '.' :: frac) =>
      match digitRun Char.isDigit frac with
      | some (_, r) => exponentOk true r
      | none => false
    | some (_, rest@(_ :: _)) => exponentOk false rest
    | _ => false

/-- Splits off `n` decimal digits and their value. -/
def fixedDigits (n : Nat) (cs : List Char) : Option (Nat × List Char) :=
  let ds := cs.take n
  if ds.length == n && ds.all Char.isDigit then some (digitsValue 10 ds, cs.drop n) else none

/-- Days in a month of a year of the Gregorian calendar. -/
def daysInMonth (year month : Nat) : Nat :=
  if month == 2 then
    if year % 4 == 0 && (year % 100 != 0 || year % 400 == 0) then 29 else 28
  else if month == 4 || month == 6 || month == 9 || month == 11 then 30
  else 31

/-- Reads `YYYY-MM-DD`, giving the rest. -/
def fullDate (cs : List Char) : Option (List Char) := do
  let (y, r) ← fixedDigits 4 cs
  let r ← match r with | '-' :: r => some r | _ => none
  let (m, r) ← fixedDigits 2 r
  let r ← match r with | '-' :: r => some r | _ => none
  let (d, r) ← fixedDigits 2 r
  if 1 ≤ m && m ≤ 12 && 1 ≤ d && d ≤ daysInMonth y m then some r else none

/-- Reads `HH:MM:SS` with an optional fraction, giving the rest. -/
def partialTime (cs : List Char) : Option (List Char) := do
  let (h, r) ← fixedDigits 2 cs
  let r ← match r with | ':' :: r => some r | _ => none
  let (mi, r) ← fixedDigits 2 r
  let r ← match r with | ':' :: r => some r | _ => none
  let (s, r) ← fixedDigits 2 r
  if h ≤ 23 && mi ≤ 59 && s ≤ 60 then
    match r with
    | '.' :: f =>
      let ds := f.takeWhile Char.isDigit
      if ds.isEmpty then none else some (f.drop ds.length)
    | _ => some r
  else none

/-- Reads a time offset: `Z` or `±HH:MM`, giving the rest. -/
def timeOffset (cs : List Char) : Option (List Char) :=
  match cs with
  | 'Z' :: r | 'z' :: r => some r
  | '+' :: r | '-' :: r => do
    let (h, r) ← fixedDigits 2 r
    let r ← match r with | ':' :: r => some r | _ => none
    let (m, r) ← fixedDigits 2 r
    if h ≤ 23 && m ≤ 59 then some r else none
  | _ => none

/-- Whether a token is a date, a time, or a date and time with an optional offset. -/
def isDatetime (cs : List Char) : Bool :=
  match fullDate cs with
  | some [] => true
  | some (d :: r) =>
    (d == 'T' || d == 't' || d == ' ') &&
      (match partialTime r with
       | some [] => true
       | some r' => timeOffset r' == some []
       | none => false)
  | none => partialTime cs == some []

/-- Characters of number, boolean and date tokens. -/
def tokenChar (c : Char) : Bool :=
  c.isAlphanum || c == '_' || c == '+' || c == '-' || c == '.' || c == ':'

/-- Reads a scalar that is not a string: a boolean, date-time, integer or float. A
date followed by a space and a digit continues with a time. -/
def scalar : Read Value := do
  let cs ← get
  let tok := cs.takeWhile tokenChar
  if tok.isEmpty then fail "expected a value"
  let rest := cs.drop tok.length
  let (tok, rest) :=
    match rest with
    | ' ' :: d :: _ =>
      if d.isDigit && fullDate tok == some [] then
        let more := rest.drop 1
        let tok2 := more.takeWhile tokenChar
        (tok ++ ' ' :: tok2, more.drop tok2.length)
      else (tok, rest)
    | _ => (tok, rest)
  set rest
  if tok == ['t', 'r', 'u', 'e'] then pure (.boolean true)
  else if tok == ['f', 'a', 'l', 's', 'e'] then pure (.boolean false)
  else if isDatetime tok then pure (.datetime (String.ofList tok))
  else match integer? tok with
    | some n => pure (.integer n)
    | none => if isFloat tok then pure (.float (String.ofList tok)) else fail "invalid value"

/-! ## Values -/

/-- Skips blanks, comments and line breaks, as between array elements. -/
def skipBetween : Nat → Read Unit
  | 0 => pure ()
  | fuel + 1 => do
    skipBlank
    if (← peek) == some '#' then do
      expect '#'
      comment
      if ← lineBreak? then skipBetween fuel else pure ()
    else if ← lineBreak? then skipBetween fuel
    else pure ()

mutual

/-- Reads a value. -/
def value : Nat → Read Value
  | 0 => fail "value too deep"
  | fuel + 1 => do
    match ← get with
    | '"' :: '"' :: '"' :: rest => do
      set (dropLineBreak rest)
      pure (.string (← multiLineBody '"' true [] fuel))
    | '"' :: rest => do
      set rest
      pure (.string (← basicBody [] fuel))
    | '\'' :: '\'' :: '\'' :: rest => do
      set (dropLineBreak rest)
      pure (.string (← multiLineBody '\'' false [] fuel))
    | '\'' :: rest => do
      set rest
      pure (.string (← literalBody))
    | '[' :: rest => do
      set rest
      arrayItems [] fuel
    | '{' :: rest => do
      set rest
      skipBlank
      if (← peek) == some '}' then do
        expect '}'
        pure (.table [])
      else inlineMembers [] fuel
    | _ => scalar

/-- Reads array elements after the opening bracket; a comma may follow the last. -/
def arrayItems (acc : List Value) : Nat → Read Value
  | 0 => fail "array too long"
  | fuel + 1 => do
    skipBetween fuel
    if (← peek) == some ']' then do
      expect ']'
      pure (.array acc.reverse)
    else do
      let v ← value fuel
      skipBetween fuel
      match ← get with
      | ',' :: rest => do
        set rest
        arrayItems (v :: acc) fuel
      | ']' :: rest => do
        set rest
        pure (.array (v :: acc).reverse)
      | _ => fail "expected , or ]"

/-- Reads the members of an inline table after its opening brace, with no comma
after the last. -/
def inlineMembers (es : Entries) : Nat → Read Value
  | 0 => fail "inline table too long"
  | fuel + 1 => do
    skipBlank
    let path ← keyPath [] fuel
    expect '='
    skipBlank
    let v ← value fuel
    let es ← match setValue .defined es path.dropLast (path.getLastD "") v with
      | .ok es => pure es
      | .error e => fail e
    skipBlank
    match ← get with
    | ',' :: rest => do
      set rest
      inlineMembers es fuel
    | '}' :: rest => do
      set rest
      pure (Node.table .defined es).toValue
    | _ => fail "expected , or \x7d"

end

/-! ## Documents -/

/-- Lifts a failure of a table rule, placed at the start of the line that broke it. -/
def check (r : Except String Entries) (line : List Char) : Read Entries :=
  match r with
  | .ok es => pure es
  | .error e => throw ⟨e, line⟩

/-- Reads the brackets that close a table header. -/
def closeHeader (close : String) : Read Unit := do
  let cs ← get
  if cs.take close.length == close.toList then set (cs.drop close.length)
  else fail ("invalid table header\nexpected `.`, `" ++ close ++ "`")

/-- Reads the lines of a document: headers, key/value pairs, comments and blank
lines. `current` is the path of the table that key/value pairs go to. -/
def lines (root : Entries) (current : List String) : Nat → Read Entries
  | 0 => fail "document too long"
  | fuel + 1 => do
    skipBlank
    let line ← get
    match line with
    | [] => pure root
    | '[' :: '[' :: rest => do
      set rest
      skipBlank
      let path ← keyPath [] fuel
      closeHeader "]]"
      lineEnd
      let root ← check (modifyAt .defined root false
        (fun _ es => appendTable (path.getLastD "") es) path.dropLast) line
      lines root path fuel
    | '[' :: rest => do
      set rest
      skipBlank
      let path ← keyPath [] fuel
      closeHeader "]"
      lineEnd
      let root ← check (modifyAt .defined root false
        (fun _ es => defineTable (path.getLastD "") es) path.dropLast) line
      lines root path fuel
    | '#' :: _ | '\n' :: _ | '\r' :: _ => do
      lineEnd
      lines root current fuel
    | _ => do
      let path ← keyPath [] fuel
      expect '='
      skipBlank
      let v ← value fuel
      lineEnd
      let root ← check (modifyAt .defined root false
        (fun kd es => setValue kd es path.dropLast (path.getLastD "") v) current) line
      lines root current fuel

end Read

/-- Why a document was refused: the message, and the number of characters before the
place where reading stopped. -/
structure ParseError where
  message : String
  offset : Nat
  deriving Repr

namespace ParseError

/-- The line (from 0) and column (in characters, from 0) of a character offset. At the
end of the text the position is counted past the last character, on its line. -/
def position (text : List Char) (offset : Nat) : Nat × Nat :=
  if text.isEmpty then (0, offset)
  else
    let safe := min offset (text.length - 1)
    let before := text.take safe
    let lineStart := match before.reverse.findIdx? (· == '\n') with
      | some j => safe - j
      | none => 0
    ((text.take lineStart).count '\n', safe - lineStart + (offset - safe))

/-- The report of a refused document: where, the line itself with a caret under the
place, and the message. -/
def render (e : ParseError) (text : String) : String :=
  let (line, column) := position text.toList e.offset
  let number := toString (line + 1)
  let pad := String.ofList (List.replicate (number.length + 1) ' ')
  let content := (text.splitOn "\n").getD line ""
  "TOML parse error at line " ++ number ++ ", column " ++ toString (column + 1) ++ "\n" ++
    pad ++ "|\n" ++
    number ++ " | " ++ content ++ "\n" ++
    pad ++ "|" ++ String.ofList (List.replicate (column + 1) ' ') ++ "^\n" ++
    e.message ++ "\n"

end ParseError

/-- Reads a TOML document (a byte order mark first is skipped) into its table. -/
def parse (text : String) : Except ParseError Value :=
  let all := text.toList
  let cs := match all with
    | '\uFEFF' :: rest => rest
    | cs => cs
  match (Read.lines [] [] (2 * cs.length + 4)).run cs with
  | .ok (root, _) => .ok (Node.table .defined root).toValue
  | .error f => .error ⟨f.message, all.length - f.rest.length⟩

end Toml

end JudgeRelay
