import JudgeRelay.Store.Memory

/-!
# Stores

The relay talks to one store. Two kinds are modelled:

* a call log, which keeps every call in order and answers limits from a table of
  problem fields; it can be told to fail chosen problems' limits, or to fail every
  call after logging it;
* the in-memory store of `Store.Memory`.

A failed call is answered with a message; the relay logs it and carries on.
-/

namespace JudgeRelay

/-- A store that logs every call. -/
structure CallLog where
  /-- The calls so far, oldest first. -/
  calls : List StoreCall := []
  /-- The stored fields of each problem. -/
  problems : List (String × List (String × String)) := []
  /-- Problems whose limits cannot be loaded. -/
  failing : List String := []
  /-- Whether every call fails after being logged. -/
  failsAll : Bool := false
  deriving Repr

namespace CallLog

/-- Answers a call. -/
def call (s : CallLog) (c : StoreCall) : Except String StoreReply × CallLog :=
  let s := { s with calls := s.calls ++ [c] }
  if s.failsAll then (.error "store unavailable", s)
  else match c with
    | .sweep => (.ok (.swept 0), s)
    | .problemLimits problem language =>
      if s.failing.contains problem then (.error ("no limits for problem " ++ problem), s)
      else
        let fields := ((s.problems.find? (·.1 == problem)).map (·.2)).getD []
        (.ok (.limits (Limits.ofFields fields language)), s)
    | _ => (.ok .done, s)

end CallLog

/-- The store the relay writes to. -/
inductive Store where
  | log (s : CallLog)
  | memory (s : MemoryStore)
  deriving Repr

namespace Store

/-- Answers a call. -/
def call (s : Store) (c : StoreCall) : Except String StoreReply × Store :=
  match s with
  | .log l => let (r, l) := l.call c; (r, .log l)
  | .memory m => let (r, m) := m.call c; (.ok r, .memory m)

end Store

end JudgeRelay
