import JudgeRelay.Number.Parse

/-!
# Problem limits

The limits sent with a dispatched submission, read from a problem's stored fields.
A field `time_limit:<language>` or `memory_limit:<language>`, when present, stands in
for the plain field, even when its value cannot be used. A time limit must read as a
float greater than zero and a memory limit as an unsigned integer; otherwise the
default is used. Short-circuiting is on exactly when the plain field is `1` or `true`.
-/

namespace JudgeRelay

/-- Resource limits of one problem in one language. -/
structure Limits where
  /-- Seconds. -/
  timeLimit : Binary64
  /-- Kilobytes. -/
  memoryLimit : Nat
  /-- Stop at the first failed test. -/
  shortCircuit : Bool
  deriving DecidableEq, Repr

namespace Limits

/-- Two seconds, 256 MiB, no short-circuiting. -/
def default : Limits := ⟨Binary64.ofNat 2, 262144, false⟩

instance : Inhabited Limits := ⟨default⟩

/-- The value of a field; of two fields with one key, the later. -/
def field (fields : List (String × String)) (key : String) : Option String :=
  (fields.reverse.find? (·.1 == key)).map (·.2)

/-- A field, or its language-specific stand-in. -/
def pick (fields : List (String × String)) (name language : String) : Option String :=
  match field fields (name ++ ":" ++ language) with
  | some v => some v
  | none => field fields name

/-- Whether a time limit can be used: greater than zero (so not NaN). -/
def usableTime (t : Binary64) : Bool :=
  !t.isNaN && !t.sign && !t.isZero

/-- The limits of a problem's fields for one language. -/
def ofFields (fields : List (String × String)) (language : String) : Limits :=
  let time := (pick fields "time_limit" language).bind NumberText.parseFloat
  let memory := (pick fields "memory_limit" language).bind NumberText.parseU64
  { timeLimit := match time with
      | some t => if usableTime t then t else default.timeLimit
      | none => default.timeLimit
    memoryLimit := memory.getD default.memoryLimit
    shortCircuit := match field fields "short_circuit" with
      | some v => v == "1" || v == "true"
      | none => false }

end Limits

end JudgeRelay
