import JudgeRelay.Json.Value
import JudgeRelay.Number.Format

/-!
# Writing JSON text

Values are written compactly: no white space, members in the order held, strings
with `"` and `\` escaped, the control characters with a short escape (`\b`, `\f`,
`\n`, `\r`, `\t`) written so and the others as `\u00XX` with lowercase hex digits,
and every other character as itself. Floats are written in `Layout.json`; a value
that is not finite has no JSON form and is written `null`.
-/

namespace JudgeRelay

namespace Json

/-- The escaped form of one character inside a JSON string. -/
def escapeChar (c : Char) : String :=
  match c with
  | '"' => "\\\""
  | '\\' => "\\\\"
  | '\x08' => "\\b"
  | '\x0c' => "\\f"
  | '\n' => "\\n"
  | '\r' => "\\r"
  | '\t' => "\\t"
  | _ =>
    if c.toNat < 0x20 then
      let h := Nat.toDigits 16 c.toNat
      "\\u" ++ String.ofList (List.replicate (4 - h.length) '0' ++ h)
    else String.singleton c

/-- A JSON string literal. -/
def quote (s : String) : String := "\"" ++ String.join (s.toList.map escapeChar) ++ "\""

/-- The text of a number. -/
def numberText : Value → String
  | .nat n => toString n
  | .negInt n => toString n
  | .float x => if x.isFinite then Layout.json.write x else "null"
  | _ => ""

namespace Value

/-- Compact JSON text of a value. -/
def render : Value → String
  | .null => "null"
  | .bool true => "true"
  | .bool false => "false"
  | .nat n => toString n
  | .negInt n => toString n
  | .float x => if x.isFinite then Layout.json.write x else "null"
  | .str s => quote s
  | .arr items => "[" ++ ",".intercalate (renderItems items) ++ "]"
  | .obj fields => "\x7b" ++ ",".intercalate (renderFields fields) ++ "\x7d"
where
  /-- The texts of array elements. -/
  renderItems : List Value → List String
    | [] => []
    | v :: rest => render v :: renderItems rest
  /-- The texts of object members. -/
  renderFields : List (String × Value) → List String
    | [] => []
    | (k, v) :: rest => (quote k ++ ":" ++ render v) :: renderFields rest

/-- The UTF-8 bytes of the compact text. -/
def toBytes (v : Value) : ByteArray := v.render.toUTF8

end Value

end Json

end JudgeRelay
