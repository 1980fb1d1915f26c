import JudgeRelay.Dispatch.Request

/-!
# The pending queue

Requests wait in priority bands, each first in, first out. Every request holds a
ticket, a number that grows with each insertion, and its band holds a slot with the
ticket and the request's id. Removing a request deletes its entry only; its slot
goes stale and is skipped when the queue is read. A band drops the stale slots at its
front after every removal from it, and drops all its stale slots once it holds more
than `2 · size + 16` slots.

The queue is read through `PendingQueue.toList`: live requests, lowest band first,
in order of insertion within a band.
-/

namespace JudgeRelay

/-- A place in a band: the ticket of the request that took it, and its id. -/
structure Slot where
  ticket : Nat
  id : SubmissionId
  deriving DecidableEq, Repr

/-- A waiting request with its ticket. -/
structure Entry where
  ticket : Nat
  request : Request
  deriving DecidableEq, Repr

/-- Waiting requests in priority bands. -/
structure PendingQueue where
  /-- The bands, lowest first; each holds its slots from front to back. -/
  bands : List (List Slot)
  /-- The live entries, at most one per id. -/
  entries : List Entry
  /-- The ticket of the next insertion. -/
  nextTicket : Nat
  deriving Repr

namespace PendingQueue

/-- An empty queue with `n` bands (one band when `n` is zero). -/
def empty (n : Nat) : PendingQueue := ⟨List.replicate (max n 1) [], [], 0⟩

instance : Inhabited PendingQueue := ⟨empty 1⟩

/-- The band of a request: its priority, capped at the last band. -/
def bandOf (q : PendingQueue) (r : Request) : Nat := min r.priority (q.bands.length - 1)

/-- The entry of an id, if the id is waiting. -/
def entry? (q : PendingQueue) (id : SubmissionId) : Option Entry :=
  q.entries.find? (·.request.id == id)

/-- Whether an id is waiting. -/
def contains (q : PendingQueue) (id : SubmissionId) : Bool := (q.entry? id).isSome

/-- The number of waiting requests. -/
def size (q : PendingQueue) : Nat := q.entries.length

/-- Whether a slot belongs to a waiting request. -/
def isLive (q : PendingQueue) (s : Slot) : Bool :=
  match q.entry? s.id with
  | some e => e.ticket == s.ticket
  | none => false

/-- Applies `f` to band `i`. -/
def modifyBand (q : PendingQueue) (i : Nat) (f : List Slot → List Slot) : PendingQueue :=
  { q with bands := q.bands.modify i f }

/-- Appends a request to the back of its band. Returns false, changing nothing, when
the id is already waiting. -/
def push (q : PendingQueue) (r : Request) : Bool × PendingQueue :=
  if q.contains r.id then (false, q)
  else
    let t := q.nextTicket
    let q := q.modifyBand (q.bandOf r) (· ++ [⟨t, r.id⟩])
    (true, { q with entries := q.entries ++ [⟨t, r⟩], nextTicket := t + 1 })

/-- Drops the stale slots at the front of band `i`, then every stale slot of it if it
has grown past `2 · size + 16` slots. -/
def reclaim (q : PendingQueue) (i : Nat) : PendingQueue :=
  let q := q.modifyBand i (·.dropWhile (fun s => !q.isLive s))
  if (q.bands.getD i []).length > 2 * q.size + 16 then q.modifyBand i (·.filter q.isLive)
  else q

/-- Removes a waiting request and returns it. -/
def remove (q : PendingQueue) (id : SubmissionId) : Option Request × PendingQueue :=
  match q.entry? id with
  | none => (none, q)
  | some e =>
    let q' := { q with entries := q.entries.filter (·.request.id != id) }
    (some e.request, q'.reclaim (q'.bandOf e.request))

/-- The request a live slot stands for. -/
def requestOf (q : PendingQueue) (s : Slot) : Option Request :=
  match q.entry? s.id with
  | some e => if e.ticket == s.ticket then some e.request else none
  | none => none

/-- The waiting requests, lowest band first, first in first out within a band. -/
def toList (q : PendingQueue) : List Request :=
  q.bands.flatten.filterMap q.requestOf

end PendingQueue

end JudgeRelay
