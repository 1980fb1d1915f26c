import JudgeRelay.Json.Read

/-!
# Tagged records

Packets are JSON records whose member `name` says which kind of packet they are. A
record is read in two stages, and the stages differ in how problems are reported.

1. `Reader.tagged` reads the whole value and finds the tag. Problems found here carry
   a line and column: a missing tag is placed after the record, an unknown tag just
   after the tag's text, a tag that is not a string just after that value. A record
   may also be written as an array whose first element is the tag.
2. `Fields.decode` reads the members of the chosen kind of record from what stage 1
   kept. Problems found here carry no location. Members are read in the order they
   appear: a member given twice, or a member of the wrong type, is reported when it is
   reached; then the first required member that is absent, in declaration order.
   Members the record does not know are ignored. In the array form the elements give
   the members in declaration order.

Only then is the rest of the text checked to be white space.
-/

namespace JudgeRelay

namespace Json

/-- What a tagged record holds besides its tag. -/
inductive Content where
  /-- The members other than the tag, in order. -/
  | members (fields : List (String × Value))
  /-- The elements after the tag, when the record is written as an array. -/
  | elements (items : List Value)
  deriving Repr, Inhabited

namespace Reader

/-- Quotes variant names as in "one of `a`, `b`". -/
def oneOf (names : List String) : String :=
  match names with
  | [n] => "`" ++ n ++ "`"
  | [a, b] => "`" ++ a ++ "` or `" ++ b ++ "`"
  | _ => "one of " ++ ", ".intercalate (names.map fun n => "`" ++ n ++ "`")

/-- Reads a value only to name it in an "invalid type" problem, placed after it. -/
def invalidTypeHere (expected : String) : Reader α := do
  let v : Value ← do
    match ← peek? with
    | some 110 => do bump; expectWord [117, 108, 108]; pure .null
    | some 116 => do bump; expectWord [114, 117, 101]; pure (.bool true)
    | some 102 => do bump; expectWord [97, 108, 115, 101]; pure (.bool false)
    | some 45 => do bump; number false
    | some 34 => do bump; pure (.str (← string))
    | some 91 => pure (.arr [])
    | some 123 => pure (.obj [])
    | some b => if isDigit b then number true else failAhead .expectedSomeValue
    | none => failAhead .expectedSomeValue
  throw (← locateHere (ReadError.shape (invalidType v expected)))

/-- Reads a tag: a string naming one of `variants`. -/
def tagName (variants : List String) : Reader String := do
  match ← skipBlank with
  | none => failAhead .eofWhileParsingValue
  | some 34 => do
    bump
    let s ← string
    if variants.contains s then pure s
    else throw (← locateHere (ReadError.shape
      ("unknown variant `" ++ s ++ "`, expected " ++ oneOf variants)))
  | some _ => invalidTypeHere "variant identifier"

/-- Runs `r` and returns its outcome, keeping how far it read either way. -/
def attempt (r : Reader α) : Reader (Except ReadError α) :=
  tryCatch (Except.ok <$> r) fun e => pure (Except.error e)

/-- The members of a tagged object after its opening brace: the tag, read when its
key is met, and the other members. Stops before the closing brace. -/
def taggedMembers (tagKey : String) (variants : List String) (depth : Nat) (first : Bool)
    (tag : Option String) (acc : List (String × Value)) : Nat → Reader (String × Content)
  | 0 => fail .eofWhileParsingObject
  | fuel + 1 => do
    let key? ← do
      match ← skipBlank with
      | some 125 => pure none
      | some 44 =>
        if first then failAhead .keyMustBeAString
        else do
          bump
          match ← skipBlank with
          | some 34 => do bump; pure (some (← string))
          | some 125 => failAhead .trailingComma
          | some _ => failAhead .keyMustBeAString
          | none => failAhead .eofWhileParsingValue
      | some 34 =>
        if first then do bump; pure (some (← string)) else failAhead .expectedObjectCommaOrEnd
      | some _ => if first then failAhead .keyMustBeAString else failAhead .expectedObjectCommaOrEnd
      | none => failAhead .eofWhileParsingObject
    match key? with
    | none =>
      match tag with
      | some t => pure (t, .members acc.reverse)
      | none => throw (ReadError.shape ("missing field `" ++ tagKey ++ "`"))
    | some key =>
      if key == tagKey then
        if tag.isSome then throw (ReadError.shape ("duplicate field `" ++ tagKey ++ "`"))
        else do
          value.colon
          let t ← tagName variants
          taggedMembers tagKey variants depth false (some t) acc fuel
      else do
        value.colon
        let v ← value depth fuel
        taggedMembers tagKey variants depth false tag ((key, v) :: acc) fuel

/-- The elements of a tagged array after its opening bracket: the tag first. Stops
before the closing bracket. -/
def taggedElements (tagKey : String) (variants : List String) (depth : Nat) (fuel : Nat) :
    Reader (String × Content) := do
  match ← skipBlank with
  | some 93 => throw (ReadError.shape ("missing field `" ++ tagKey ++ "`"))
  | some _ => do
    let t ← tagName variants
    let rest ← value.elements depth false [] fuel
    pure (t, .elements rest)
  | none => failAhead .eofWhileParsingList

/-- Reads a tagged record. `expecting` names the record type in the problem raised when
the text holds a value of another kind. -/
def tagged (tagKey : String) (variants : List String) (expecting : String) :
    Reader (String × Content) := do
  let fuel := 2 * (← read).size + 4
  match ← skipBlank with
  | none => failAhead .eofWhileParsingValue
  | some 123 => do
    bump
    let r ← attempt (taggedMembers tagKey variants (maxDepth - 1) true none [] fuel)
    let closing ← attempt value.closeObject
    match r, closing with
    | .ok t, .ok () => pure t
    | .error e, _ => throw (← locateHere e)
    | .ok _, .error e => throw e
  | some 91 => do
    bump
    let r ← attempt (taggedElements tagKey variants (maxDepth - 1) fuel)
    let closing ← attempt value.closeList
    match r, closing with
    | .ok t, .ok () => pure t
    | .error e, _ => throw (← locateHere e)
    | .ok _, .error e => throw e
  | some _ => do
    let v ← value maxDepth fuel
    throw (← locateHere (ReadError.shape (invalidType v expecting)))

end Reader

/-! ## Reading members -/

/-- How one member of a record is checked: its key, whether it must be present, and
the check of its value (the problem's wording when it fails). -/
structure FieldSpec where
  key : String
  required : Bool
  check : Value → Except String Unit

/-- The members of one kind of record, in declaration order, with the record's name
for problems about the array form. -/
structure Fields where
  record : String
  specs : List FieldSpec

/-- Values of the known members, by key, once checked. -/
abbrev Found := List (String × Value)

namespace Fields

/-- "struct Name with N elements". -/
def expectingElements (f : Fields) : String :=
  let n := f.specs.length
  "struct " ++ f.record ++ " with " ++ toString n ++ (if n = 1 then " element" else " elements")

/-- Checks object members in order of appearance. -/
def checkMembers (f : Fields) : List (String × Value) → Found → Except String Found
  | [], found => .ok found
  | (k, v) :: rest, found =>
    match f.specs.find? (·.key == k) with
    | none => checkMembers f rest found
    | some spec =>
      if found.any (·.1 == k) then .error ("duplicate field `" ++ k ++ "`")
      else do
        spec.check v
        checkMembers f rest (found ++ [(k, v)])

/-- Checks array elements against the members in declaration order; `i` counts the
elements taken. -/
def checkElements (f : Fields) (i : Nat) : List FieldSpec → List Value → Found → Except String Found
  | [], [], found => .ok found
  | [], extra, _ =>
    let taken := i
    .error ("invalid length " ++ toString (taken + extra.length) ++ ", expected " ++
      (if taken = 1 then "1 element in sequence" else toString taken ++ " elements in sequence"))
  | spec :: specs, [], found =>
    if spec.required then .error ("invalid length " ++ toString i ++ ", expected " ++ f.expectingElements)
    else checkElements f i specs [] found
  | spec :: specs, v :: vs, found => do
    spec.check v
    checkElements f (i + 1) specs vs (found ++ [(spec.key, v)])

/-- Checks a record's content and returns the values of the known members present. -/
def decode (f : Fields) : Content → Except String Found
  | .members fields => do
    let found ← f.checkMembers fields []
    match f.specs.find? (fun s => s.required && !found.any (·.1 == s.key)) with
    | some s => .error ("missing field `" ++ s.key ++ "`")
    | none => .ok found
  | .elements items => f.checkElements 0 f.specs items []

end Fields

/-! ## Reading member values -/

namespace Found

/-- The value found for a key, if the member was present. -/
def lookup (found : Found) (key : String) : Option Value :=
  (found.find? (·.1 == key)).map (·.2)

end Found

/-- A string. -/
def asString : Value → Except String String
  | .str s => .ok s
  | v => .error (invalidType v "a string")

/-- A signed 64-bit integer. -/
def asI64 : Value → Except String Int
  | .nat n => if n < Nat.pow 2 63 then .ok n else .error (invalidValue (.nat n) "i64")
  | .negInt n => .ok n
  | v => .error (invalidType v "i64")

/-- An unsigned 32-bit integer. -/
def asU32 : Value → Except String Nat
  | .nat n => if n < Nat.pow 2 32 then .ok n else .error (invalidValue (.nat n) "u32")
  | .negInt n => .error (invalidValue (.negInt n) "u32")
  | v => .error (invalidType v "u32")

/-- A binary64 number; integers are rounded to the nearest one. -/
def asF64 : Value → Except String Binary64
  | .nat n => .ok (Binary64.ofNat n)
  | .negInt n => .ok (Binary64.ofInt n)
  | .float x => .ok x
  | v => .error (invalidType v "f64")

/-- A boolean. -/
def asBool : Value → Except String Bool
  | .bool b => .ok b
  | v => .error (invalidType v "a boolean")

/-- A list of strings. -/
def asStrings : Value → Except String (List String)
  | .arr items => items.mapM asString
  | v => .error (invalidType v "a sequence")

/-- An optional value: `null` is absent. -/
def asOption (d : Value → Except String α) : Value → Except String (Option α)
  | .null => .ok none
  | v => some <$> d v

/-- A check built from a decoder. -/
def checkWith (d : Value → Except String α) (v : Value) : Except String Unit :=
  (d v).map fun _ => ()

/-- A required member decoded by `d`. -/
def required (key : String) (d : Value → Except String α) : FieldSpec :=
  ⟨key, true, checkWith d⟩

/-- A member that may be absent, decoded by `d` when present. -/
def optional (key : String) (d : Value → Except String α) : FieldSpec :=
  ⟨key, false, checkWith d⟩

/-- Reads a required member from checked values. -/
def Found.get (found : Found) (key : String) (d : Value → Except String α) : Except String α :=
  match found.lookup key with
  | some v => d v
  | none => .error ("missing field `" ++ key ++ "`")

/-- Reads a member that may be absent, with a default. -/
def Found.getD (found : Found) (key : String) (d : Value → Except String α) (default : α) :
    Except String α :=
  match found.lookup key with
  | some v => d v
  | none => .ok default

/-- Reads a tagged record from text: the tag and content, then the chosen kind's
members with `decode`, then nothing but white space. -/
def parseTagged (src : ByteArray) (tagKey : String) (variants : List String)
    (expecting : String) (decode : String → Content → Except String α) : Except ReadError α :=
  Reader.run (do
    let (tag, content) ← Reader.tagged tagKey variants expecting
    match decode tag content with
    | .ok a => do Reader.finish; pure a
    | .error msg => throw (ReadError.shape msg)) src

end Json

end JudgeRelay
