import JudgeRelay.Store.Update

/-!
# A store kept in memory

Judges by name with their last known state; problem limits by problem; for each
submission its updates in order, its status code, and whether it is still in
progress. Every call succeeds.
-/

namespace JudgeRelay

/-- What the store knows about a judge. -/
structure JudgeRecord where
  online : Bool
  tier : Nat
  address : String
  localAddress : Option String
  ping : Option Binary64
  load : Option Binary64
  deriving Repr

/-- The in-memory store. -/
structure MemoryStore where
  judges : List (String × JudgeRecord) := []
  limits : List (String × Limits) := []
  updates : List (SubmissionId × List SubmissionUpdate) := []
  statuses : List (SubmissionId × String) := []
  /-- Submissions in progress, in the order they became so. -/
  active : List SubmissionId := []
  deriving Repr

namespace MemoryStore

/-- Replaces or adds the entry of a key. -/
def setAt {α β} [BEq α] (xs : List (α × β)) (k : α) (v : β) : List (α × β) :=
  if xs.any (·.1 == k) then xs.map fun (k', w) => if k' == k then (k, v) else (k', w)
  else xs ++ [(k, v)]

/-- The entry of a key. -/
def getAt {α β} [BEq α] (xs : List (α × β)) (k : α) : Option β :=
  (xs.find? (·.1 == k)).map (·.2)

theorem getAt_map {α β : Type} [BEq α] (xs : List (α × β)) (f : α × β → β) (k : α) :
    getAt (xs.map fun p => (p.1, f p)) k = (xs.find? (·.1 == k)).map f := by
  unfold getAt
  rw [List.find?_map, Option.map_map]
  rfl

theorem getAt_setAt {α β : Type} [BEq α] [LawfulBEq α] [DecidableEq α] (xs : List (α × β)) (k k' : α) (v : β) :
    getAt (setAt xs k v) k' = if k = k' then some v else getAt xs k' := by
  unfold setAt
  split
  · next present =>
    -- the entry of `k` is replaced in place
    have keep : ∀ p : α × β,
        (if p.1 == k then (k, v) else p) = (p.1, if p.1 == k then v else p.2) := by
      intro p
      split <;> simp_all
    simp only [keep]
    rw [getAt_map]
    unfold getAt
    rcases found : xs.find? (·.1 == k') with _ | ⟨k'', w⟩
    · rw [found]
      split
      · next same =>
        subst same
        obtain ⟨p, member, key⟩ := List.any_eq_true.1 present
        exact absurd key (by simpa using List.find?_eq_none.1 found p member)
      · rfl
    · have key : k'' = k' := by simpa using List.find?_some found
      subst key
      rw [found]
      by_cases same : k = k''
      · subst same
        simp
      · simp [same, Ne.symm same]
  · next absent =>
    -- the entry of `k` is appended, after every other key
    unfold getAt
    rw [List.find?_append]
    have none : xs.find? (·.1 == k) = none := List.find?_eq_none.2 fun p member same =>
      absent (List.any_eq_true.2 ⟨p, member, same⟩)
    split
    · next same =>
      subst same
      rw [none]
      simp
    · next differ =>
      rcases found : xs.find? (·.1 == k') with _ | p
      · rw [found]
        simp [differ]
      · rw [found]
        simp

/-- Sets the limits of a problem. -/
def setLimits (s : MemoryStore) (problem : String) (l : Limits) : MemoryStore :=
  { s with limits := setAt s.limits problem l }

/-- Records a submission left in progress by an earlier run. -/
def setStatus (s : MemoryStore) (id : SubmissionId) (status : String) : MemoryStore :=
  { s with statuses := setAt s.statuses id status,
           active := if s.active.contains id then s.active else s.active ++ [id] }

/-- The record of a judge. -/
def judge? (s : MemoryStore) (name : String) : Option JudgeRecord := getAt s.judges name

/-- The status code of a submission. -/
def status? (s : MemoryStore) (id : SubmissionId) : Option String := getAt s.statuses id

/-- The updates recorded for a submission, in order. -/
def updatesOf (s : MemoryStore) (id : SubmissionId) : List SubmissionUpdate :=
  (getAt s.updates id).getD []

/-- Forgets a judge's presence: offline, no ping, no load. -/
def absent (r : JudgeRecord) : JudgeRecord := { r with online := false, ping := none, load := none }

/-- Answers a call. -/
def call (s : MemoryStore) : StoreCall → StoreReply × MemoryStore
  | .resetJudges => (.done, { s with judges := s.judges.map fun (n, r) => (n, absent r) })
  | .sweep =>
    (.swept s.active.length,
      { s with statuses := s.active.foldl (fun st id => setAt st id "IE") s.statuses, active := [] })
  | .judgeOnline a =>
    let r : JudgeRecord := ⟨true, a.tier, a.address, a.localAddress, none, none⟩
    (.done, { s with judges := setAt s.judges a.name r })
  | .judgeOffline name =>
    (.done, { s with judges := s.judges.map fun (n, r) => (n, if n == name then absent r else r) })
  | .judgePing name ping load =>
    (.done, { s with judges := s.judges.map fun (n, r) =>
      (n, if n == name then { r with ping := some ping, load := if load.isSome then load else r.load }
        else r) })
  | .problemLimits problem _ => (.limits ((getAt s.limits problem).getD Limits.default), s)
  | .submissionUpdate id u =>
    let s := match u.status with
      | some code =>
        { s with statuses := setAt s.statuses id code,
                 active := if u.isFinal then s.active.filter (· != id)
                   else if s.active.contains id then s.active else s.active ++ [id] }
      | none => s
    (.done, { s with updates := setAt s.updates id (s.updatesOf id ++ [u]) })

/-- Answers calls in turn: the replies and the store left. -/
def callAll (s : MemoryStore) : List StoreCall → List StoreReply × MemoryStore
  | [] => ([], s)
  | c :: cs =>
    let step := s.call c
    let rest := callAll step.2 cs
    (step.1 :: rest.1, rest.2)

end MemoryStore

end JudgeRelay
