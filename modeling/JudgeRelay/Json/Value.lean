import JudgeRelay.Number.Binary64

/-!
# JSON values

A JSON value as the relay reads it. Numbers keep the three forms a reader tells
apart: a nonnegative integer that fits in 64 bits, a negative integer that fits in
a signed 64-bit word, and every other number as a binary64 value. Objects keep
their members in the order they were read, duplicates included, because which of
two equal keys wins is decided by whoever reads the object.
-/

namespace JudgeRelay

namespace Json

/-- A JSON value. -/
inductive Value where
  /-- `null` -/
  | null
  /-- `true` or `false` -/
  | bool (b : Bool)
  /-- A nonnegative integer below `2 ^ 64`. -/
  | nat (n : Nat)
  /-- A negative integer of at least `-2 ^ 63`. -/
  | negInt (n : Int)
  /-- Any other number. -/
  | float (x : Binary64)
  /-- A string. -/
  | str (s : String)
  /-- An array. -/
  | arr (items : List Value)
  /-- An object, members in order of appearance. -/
  | obj (fields : List (String × Value))
  deriving Inhabited, Repr

namespace Value

/-- An integer as a JSON number: nonnegative ones as `nat`, negative ones as `negInt`. -/
def int (n : Int) : Value := if n ≥ 0 then .nat n.toNat else .negInt n

/-- The first member of an object with the given key. -/
def get? (v : Value) (key : String) : Option Value :=
  match v with
  | .obj fields => (fields.find? (·.1 == key)).map (·.2)
  | _ => none

/-- The members of an object with duplicate keys resolved, the last one winning, in
ascending key order. -/
def canonicalFields (fields : List (String × Value)) : List (String × Value) :=
  let last := fields.foldl (fun (acc : List (String × Value)) (kv : String × Value) =>
    (acc.filter (·.1 != kv.1)) ++ [kv]) []
  last.mergeSort (fun a b => decide (a.1 ≤ b.1))

/-- The value with every object's members canonical, as a map keyed by member name
holds them. -/
def canonical : Value → Value
  | .arr items => .arr (canonicalItems items)
  | .obj fields => .obj (canonicalFields (canonicalMembers fields))
  | v => v
where
  /-- Array elements made canonical. -/
  canonicalItems : List Value → List Value
    | [] => []
    | v :: rest => canonical v :: canonicalItems rest
  /-- Member values made canonical. -/
  canonicalMembers : List (String × Value) → List (String × Value)
    | [] => []
    | (k, v) :: rest => (k, canonical v) :: canonicalMembers rest

end Value

end Json

end JudgeRelay

namespace JudgeRelay.Json.Value

/-- A float as a report shows it: finite values as numbers, the others as the strings
`NaN`, `-NaN`, `inf` and `-inf`. -/
def reportFloat (x : Binary64) : Value :=
  if x.isNaN then .str (if x.sign then "-NaN" else "NaN")
  else if x.isInfinite then .str (if x.sign then "-inf" else "inf")
  else .float x

/-- An optional value, `null` when absent. -/
def ofOption (f : α → Value) : Option α → Value
  | some a => f a
  | none => .null

end JudgeRelay.Json.Value
