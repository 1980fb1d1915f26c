import JudgeRelay.Dispatch.Registry

/-!
# Registry operations as steps on the state

A registry operation reads which links are open and changes the registry and the outbox.
This module says, for each operation, what one run of it does, in terms of a few plain
changes of the registry:

* `Registry.drop`: a judge leaves, taking the assignment of what it was grading;
* `Registry.hand`: a waiting request goes to a judge;
* `Registry.give`: a request being dispatched goes to a judge;
* `Registry.enqueue`: a request being dispatched waits;
* `Registry.refresh`: the serving tier is recomputed.

The dispatch cascade (`handleFree`, `remove`, `updateMinTier`) is stated one fuel level at
a time (`handleFree_succ`, `remove_succ`, `updateMinTier_succ`); later modules prove their
invariants by induction on the fuel from these equations and never unfold an operation.

Last, `Registry.Reachable` is the set of registries that some run reaches: from the empty
registry, any sequence of public calls, each under its own set of open links.
-/

namespace JudgeRelay

namespace Registry

/-- The registry without judge `id`, and without the assignment of what it was grading. -/
def drop (r : Registry) (id : JudgeId) : Registry :=
  match r.find? id with
  | none => r
  | some j =>
    let r' := { r with judges := r.judges.filter (·.id != id) }
    match j.working.filter fun s => r.assignedTo s == some id with
    | some s => r'.unassign s
    | none => r'

/-- What judge `id` was grading, if that submission is still assigned to it. -/
def orphanOf (r : Registry) (id : JudgeId) : Option SubmissionId :=
  match r.find? id with
  | none => none
  | some j => j.working.filter fun s => r.assignedTo s == some id

/-- The judge and the waiting request that offering work to judge `id` pairs: the judge is
free, of the serving tier or below, and takes the first waiting request it can grade. -/
def offer (r : Registry) (id : JudgeId) : Option (Judge × Request) :=
  match r.find? id with
  | none => none
  | some j =>
    if !j.isAvailable then none
    else match r.minTier with
      | none => none
      | some t => if j.tier > t then none else (firstFor j r.shouldReserve r.queue.toList).map (j, ·)

/-- Marks judge `id` as grading a submission. -/
def setWorking (r : Registry) (id : JudgeId) (s : SubmissionId) : Registry :=
  r.modifyJudge id fun j => { j with working := some s }

/-- The registry with a submission taken out of the queue. -/
def dequeue (r : Registry) (s : SubmissionId) : Registry := { r with queue := (r.queue.remove s).2 }

/-- The registry once judge `id` takes a waiting request out of the queue. -/
def hand (r : Registry) (id : JudgeId) (req : Request) : Registry :=
  ((r.setWorking id req.id).dequeue req.id).assign req.id id

/-- The registry once judge `id` takes a request that is being dispatched. -/
def give (r : Registry) (id : JudgeId) (req : Request) : Registry :=
  (r.setWorking id req.id).assign req.id id

/-- The registry once a request being dispatched waits in the queue. -/
def enqueue (r : Registry) (req : Request) : Registry :=
  { r with queue := (r.queue.push req).2 }

/-- Whether the registry knows a submission: assigned to a judge, or waiting. -/
def tracks (r : Registry) (s : SubmissionId) : Bool := (r.assignedTo s).isSome || r.isQueued s

/-- The registry with its serving tier recomputed. -/
def refresh (r : Registry) : Registry := { r with minTier := r.lowestTier }

/-- The free judges of the pool, by id. -/
def freeInPool (r : Registry) : List JudgeId := (r.pool.filter (!·.isWorking)).map (·.id)

/-- The registry with a new judge, which takes the next id. -/
def enroll (r : Registry) (j : Judge) : Registry :=
  { r with judges := r.judges ++ [{ j with id := r.nextId }], nextId := r.nextId + 1 }

/-- The registry with every judge of a name enabled or disabled. -/
def markDisabled (r : Registry) (name : String) (disabled : Bool) : Registry :=
  { r with judges := r.judges.map fun j => if j.name == name then { j with disabled := disabled } else j }

/-- The registry once judge `id` stops grading `s`: it is free if `s` was its work, and
`s` is unassigned if it was assigned to it. -/
def release (r : Registry) (id : JudgeId) (s : SubmissionId) (j : Judge) : Registry :=
  let r := if j.working == some s then r.modifyJudge id fun j => { j with working := none } else r
  if r.assignedTo s == some id then r.unassign s else r

/-! ## What the choosing functions choose -/

theorem isAvailable_iff {j : Judge} : j.isAvailable = true ↔ j.disabled = false ∧ j.working = none := by
  simp [Judge.isAvailable, Option.isNone_iff_eq_none]

theorem find?_spec {r : Registry} {id : JudgeId} {j : Judge} (h : r.find? id = some j) :
    j ∈ r.judges ∧ j.id = id :=
  ⟨List.mem_of_find?_eq_some h, by simpa using List.find?_some h⟩

theorem find?_eq_none {r : Registry} {id : JudgeId} : r.find? id = none ↔ ∀ j ∈ r.judges, j.id ≠ id := by
  simp [find?]

theorem assignedTo_isSome {r : Registry} {s : SubmissionId} :
    (r.assignedTo s).isSome ↔ ∃ id, (s, id) ∈ r.assignments := by
  simp [assignedTo]

theorem tracks_iff {r : Registry} {s : SubmissionId} :
    r.tracks s = true ↔ (∃ id, (s, id) ∈ r.assignments) ∨ r.queue.contains s = true := by
  rw [tracks, Bool.or_eq_true, assignedTo_isSome, isQueued]

/-- A request chosen for a judge is one it can grade, from the list offered. -/
theorem firstFor_spec {j : Judge} {reserve : Bool} {qs : List Request} {req : Request}
    (h : firstFor j reserve qs = some req) : req ∈ qs ∧ j.accepts req := by
  induction qs with
  | nil => cases h
  | cons q rest ih =>
    unfold firstFor at h
    split at h
    · cases h
    · split at h
      · cases h
        exact ⟨List.mem_cons_self .., by assumption⟩
      · obtain ⟨hmem, hacc⟩ := ih h
        exact ⟨List.mem_cons_of_mem _ hmem, hacc⟩

/-- A least loaded judge of a list is a judge of it, with the least load. -/
theorem mem_leastLoaded {js : List Judge} {j : Judge} (h : j ∈ leastLoaded js) :
    j ∈ js ∧ ∀ k ∈ js, j.load.totalKey ≤ k.load.totalKey := by
  unfold leastLoaded at h
  split at h
  · next least found =>
    obtain ⟨member, same⟩ := List.mem_filter.1 h
    have lowest := (List.min?_eq_some_iff.1 found).2
    refine ⟨member, fun k other => ?_⟩
    rw [beq_iff_eq.1 same]
    exact lowest _ (List.mem_map_of_mem other)
  · cases h

/-- A list of judges has least loaded judges unless it is empty. -/
theorem leastLoaded_ne_nil {js : List Judge} (h : js ≠ []) : leastLoaded js ≠ [] := by
  unfold leastLoaded
  split
  · next least found =>
    obtain ⟨j, member, rfl⟩ := List.mem_map.1 (List.min?_eq_some_iff.1 found).1
    exact List.ne_nil_of_mem (List.mem_filter.2 ⟨member, beq_self_eq_true _⟩)
  · next none =>
    exact absurd (List.map_eq_nil_iff.1 (List.min?_eq_none_iff.1 none)) h

theorem pickLeast_mem_leastLoaded {coin : Nat} {js : List Judge} {j : Judge}
    (h : pickLeast coin js = some j) : j ∈ leastLoaded js :=
  List.mem_of_getElem? h

/-- The judge a coin picks is one of the list. -/
theorem pickLeast_mem {coin : Nat} {js : List Judge} {j : Judge} (h : pickLeast coin js = some j) :
    j ∈ js :=
  (mem_leastLoaded (pickLeast_mem_leastLoaded h)).1

/-- The judge a coin picks has the least load of the list, in the total order of binary64
values. -/
theorem pickLeast_le {coin : Nat} {js : List Judge} {j : Judge} (h : pickLeast coin js = some j) :
    ∀ k ∈ js, j.load.totalKey ≤ k.load.totalKey :=
  (mem_leastLoaded (pickLeast_mem_leastLoaded h)).2

/-- A coin picks nothing only from no judges. -/
theorem pickLeast_eq_none {coin : Nat} {js : List Judge} (h : pickLeast coin js = none) :
    js = [] := by
  apply Classical.byContradiction
  intro nonempty
  have some_least : 0 < (leastLoaded js).length :=
    List.length_pos_iff.2 (leastLoaded_ne_nil nonempty)
  unfold pickLeast at h
  rw [List.getElem?_eq_none_iff] at h
  exact absurd h (Nat.not_le.2 (Nat.mod_lt _ some_least))

/-- Every least loaded judge is the pick of some coin: the tie-break is free among them. -/
theorem exists_pickLeast {js : List Judge} {j : Judge} (h : j ∈ leastLoaded js) :
    ∃ coin, pickLeast coin js = some j := by
  obtain ⟨i, below, rfl⟩ := List.getElem_of_mem h
  refine ⟨i, ?_⟩
  unfold pickLeast
  rw [Nat.mod_eq_of_lt below]
  exact List.getElem?_eq_getElem below

/-- A judge eligible for a request is live, free, of the serving tier, and can grade it. -/
theorem mem_eligible {r : Registry} {req : Request} {j : Judge} (h : j ∈ r.eligible req) :
    j ∈ r.judges ∧ some j.tier = r.minTier ∧ j.accepts req ∧ j.isAvailable := by
  unfold eligible at h
  dsimp only at h
  split at h
  · cases h
  · simp only [List.mem_filter, Bool.and_eq_true, beq_iff_eq] at h
    exact ⟨h.1.1, h.1.2.1, h.1.2.2, h.2⟩

/-- What offering work to a judge pairs: the live free judge itself, of the serving tier or
below, with the first waiting request it may take. -/
theorem offer_spec {r : Registry} {id : JudgeId} {j : Judge} {req : Request}
    (h : r.offer id = some (j, req)) :
    r.find? id = some j ∧ j.isAvailable = true ∧ (∃ t, r.minTier = some t ∧ j.tier ≤ t) ∧
      firstFor j r.shouldReserve r.queue.toList = some req := by
  unfold offer at h
  rcases hj : r.find? id with _ | k
  · simp [hj] at h
  · simp only [hj] at h
    by_cases ha : k.isAvailable = true
    · simp only [ha, Bool.not_true, Bool.false_eq_true, if_false] at h
      rcases ht : r.minTier with _ | t
      · simp [ht] at h
      · simp only [ht] at h
        by_cases hgt : k.tier > t
        · simp [hgt] at h
        · simp only [hgt, if_false, Option.map_eq_some_iff, Prod.mk.injEq] at h
          obtain ⟨req', hq, rfl, rfl⟩ := h
          exact ⟨rfl, ha, ⟨t, rfl, Nat.le_of_not_gt hgt⟩, hq⟩
    · simp [ha] at h

end Registry

namespace RegistryOp

/-- Runs an operation from a registry and the commands sent so far. -/
def runOn (op : RegistryOp α) (links : Links) (s : Registry × Outbox) : α × Registry × Outbox :=
  (op.run links).run s

variable {α β γ : Type} (links : Links)

-- Stated by a rewrite rather than `rfl`, so that `simp` rewrites with it instead of leaving
-- the kernel to unfold the operations on both sides.
@[simp] theorem runOn_bind (x : RegistryOp α) (f : α → RegistryOp β) (s : Registry × Outbox) :
    (x >>= f).runOn links s = (f (x.runOn links s).1).runOn links (x.runOn links s).2 := by
  simp only [runOn, ReaderT.run_bind, StateT.run_bind]
  rfl

@[simp] theorem runOn_pure (a : α) (s : Registry × Outbox) :
    (pure a : RegistryOp α).runOn links s = (a, s) := rfl

@[simp] theorem runOn_registry (s : Registry × Outbox) :
    registry.runOn links s = (s.1, s) := rfl

@[simp] theorem runOn_update (f : Registry → Registry) (s : Registry × Outbox) :
    (update f).runOn links s = ((), f s.1, s.2) := rfl

theorem exec_eq (op : RegistryOp α) (r : Registry) : exec op links r = op.runOn links (r, []) := rfl

/-- Reading the open links is the reader's own `read`. -/
theorem read_eq : (read : RegistryOp Links) = ReaderT.read := rfl

theorem runOn_send (l : LinkId) (c : Command) (s : Registry × Outbox) :
    (send l c).runOn links s =
      if links l then (true, s.1, s.2 ++ [⟨s.1, l, c⟩]) else (false, s) := by
  cases h : links l <;> simp [runOn, send, h, read_eq] <;> rfl

theorem runOn_submitTo (j : Judge) (req : Request) (s : Registry × Outbox) :
    (submitTo j req).runOn links s =
      if links j.link then
        (true, s.1.setWorking j.id req.id, s.2 ++ [⟨s.1, j.link, .submit req⟩])
      else (false, s) := by
  unfold submitTo
  rw [runOn_bind, runOn_send]
  cases links j.link <;> rfl

theorem runOn_dropJudge (id : JudgeId) (s : Registry × Outbox) :
    (dropJudge id).runOn links s = (s.1.orphanOf id, s.1.drop id, s.2) := by
  simp only [dropJudge, runOn_bind, runOn_registry, Registry.orphanOf, Registry.drop]
  rcases s.1.find? id with _ | j
  · rfl
  · rcases j.working.filter fun s' => s.1.assignedTo s' == some id with _ | w <;> rfl

theorem runOn_forM_cons (g : γ → RegistryOp Unit) (x : γ) (xs : List γ) (s : Registry × Outbox) :
    ((x :: xs).forM g).runOn links s = (xs.forM g).runOn links ((g x).runOn links s).2 := rfl

theorem runOn_foldlM_cons (g : β → γ → RegistryOp β) (b : β) (x : γ) (xs : List γ)
    (s : Registry × Outbox) :
    ((x :: xs).foldlM g b).runOn links s =
      (xs.foldlM g ((g b x).runOn links s).1).runOn links ((g b x).runOn links s).2 := rfl

/-! ## The dispatch cascade, one fuel level at a time -/

theorem handleFree_zero (id : JudgeId) (s : Registry × Outbox) :
    (handleFree id 0).runOn links s = ((), s) := rfl

/-- Offering work to a judge: nothing when `offer` pairs nothing; else the request is sent
and handed over, or, when the judge's link refuses it, the judge is removed. -/
theorem handleFree_succ (id : JudgeId) (f : Nat) (s : Registry × Outbox) :
    (handleFree id (f + 1)).runOn links s =
      match s.1.offer id with
      | none => ((), s)
      | some (j, req) =>
        if links j.link then ((), s.1.hand id req, s.2 ++ [⟨s.1, j.link, .submit req⟩])
        else ((), ((remove id f).runOn links s).2) := by
  simp only [handleFree, Registry.offer, runOn_bind, runOn_registry]
  rcases hj : s.1.find? id with _ | j
  · rfl
  · simp only
    by_cases ha : j.isAvailable
    · simp only [ha, Bool.not_true]
      rcases ht : s.1.minTier with _ | t
      · rfl
      · simp only
        by_cases hgt : j.tier > t
        · simp only [hgt, if_true]
          rfl
        · simp only [hgt, if_false]
          rcases hq : Registry.firstFor j s.1.shouldReserve s.1.queue.toList with _ | req
          · rfl
          · have hid : j.id = id := by simpa using List.find?_some hj
            simp only [Option.map_some, Bool.false_eq_true, if_false, runOn_bind, runOn_submitTo]
            cases links j.link
            · rfl
            · simp [Registry.hand, Registry.dequeue, hid]
    · simp only [ha, Bool.not_false, if_true]
      rfl

theorem remove_zero (id : JudgeId) (s : Registry × Outbox) :
    (remove id 0).runOn links s = (s.1.orphanOf id, s.1.drop id, s.2) :=
  runOn_dropJudge links id s

/-- What removing a judge does once the judge is dropped: recompute the serving tier, and
offer work to a free judge left alone in the pool. -/
def settle (f : Nat) : RegistryOp Unit := do
  updateMinTier f
  match (← registry).pool with
  | [only] => if only.working.isNone then handleFree only.id f else pure ()
  | _ => pure ()

theorem runOn_settle (f : Nat) (s : Registry × Outbox) :
    (settle f).runOn links s =
      let s₁ := ((updateMinTier f).runOn links s).2
      match s₁.1.pool with
      | [only] => if only.working.isNone then (handleFree only.id f).runOn links s₁ else ((), s₁)
      | _ => ((), s₁) := by
  simp only [settle, runOn_bind, runOn_registry]
  generalize ((updateMinTier f).runOn links s).2 = s₁
  rcases s₁.1.pool with _ | ⟨only, _ | ⟨k, rest⟩⟩
  · rfl
  · dsimp only
    cases only.working.isNone <;> rfl
  · rfl

/-- Removing a live judge: it is dropped, then the registry settles. -/
theorem remove_succ (id : JudgeId) (f : Nat) (s : Registry × Outbox) :
    (remove id (f + 1)).runOn links s =
      match s.1.find? id with
      | none => (none, s)
      | some _ => (s.1.orphanOf id, ((settle f).runOn links (s.1.drop id, s.2)).2) := by
  simp only [remove, runOn_bind, runOn_registry]
  rcases s.1.find? id with _ | j
  · rfl
  · simp only [runOn_dropJudge, runOn_bind, runOn_registry, settle]
    generalize ((updateMinTier f).runOn links (s.1.drop id, s.2)).2 = s₁
    rcases s₁.1.pool with _ | ⟨only, _ | ⟨k, rest⟩⟩
    · rfl
    · dsimp only
      cases only.working.isNone
      · rfl
      · simp only [if_true, runOn_bind, runOn_pure]
    · rfl

theorem updateMinTier_zero (s : Registry × Outbox) :
    (updateMinTier 0).runOn links s = ((), s.1.refresh, s.2) := rfl

/-- Recomputing the serving tier: when it changes and widens, every free judge of the new
pool is offered work, in order. -/
theorem updateMinTier_succ (f : Nat) (s : Registry × Outbox) :
    (updateMinTier (f + 1)).runOn links s =
      if s.1.minTier == s.1.lowestTier then ((), s)
      else if Registry.widens s.1.minTier s.1.lowestTier then
        (s.1.refresh.freeInPool.forM fun i => handleFree i f).runOn links (s.1.refresh, s.2)
      else ((), s.1.refresh, s.2) := by
  simp only [updateMinTier, runOn_bind, runOn_registry]
  by_cases same : (s.1.minTier == s.1.lowestTier) = true
  · simp only [same, if_true]
    rfl
  · simp only [same, Bool.false_eq_true, if_false, runOn_bind, runOn_update]
    by_cases w : Registry.widens s.1.minTier s.1.lowestTier = true
    · simp only [w, if_true]
      rfl
    · simp only [w, Bool.false_eq_true, if_false]
      rfl

/-! ## Dispatching a request -/

theorem dispatchLoop_zero (req : Request) (tie : TieBreak) (s : Registry × Outbox) :
    (dispatchLoop req tie 0).runOn links s = (.queued, s.1.enqueue req, s.2) := rfl

/-- One round of dispatch: the least loaded eligible judge the round's coin picks gets the
request, or it waits when none is eligible; a judge whose link refuses is removed and the
round is retried. -/
theorem dispatchLoop_succ (req : Request) (tie : TieBreak) (f : Nat) (s : Registry × Outbox) :
    (dispatchLoop req tie (f + 1)).runOn links s =
      match Registry.pickLeast (tie 0) (s.1.eligible req) with
      | none => (.queued, s.1.enqueue req, s.2)
      | some j =>
        if links j.link then
          (.assigned j.name, s.1.give j.id req, s.2 ++ [⟨s.1, j.link, .submit req⟩])
        else
          (dispatchLoop req (fun n => tie (n + 1)) f).runOn links
            ((remove j.id s.1.fuel).runOn links s).2 := by
  simp only [dispatchLoop, runOn_bind, runOn_registry]
  rcases Registry.pickLeast (tie 0) (s.1.eligible req) with _ | j
  · simp only [runOn_bind, runOn_update, runOn_pure]
    rfl
  · simp only [runOn_bind, runOn_submitTo]
    cases links j.link
    · simp only [Bool.false_eq_true, if_false, runOn_bind]
    · simp only [if_true, runOn_bind, runOn_update, runOn_pure]
      rfl

theorem runOn_dispatch (req : Request) (tie : TieBreak) (s : Registry × Outbox) :
    (dispatch req tie).runOn links s =
      if s.1.tracks req.id then (.duplicate, s)
      else (dispatchLoop req tie (s.1.judges.length + 1)).runOn links s := by
  simp only [dispatch, runOn_bind, runOn_registry, Registry.tracks]
  by_cases h : ((s.1.assignedTo req.id).isSome || s.1.isQueued req.id) = true
  · simp only [h, if_true, runOn_pure]
  · simp only [h, Bool.false_eq_true, if_false]

/-! ## Registering a judge -/

/-- One step of registration's eviction loop: a judge of the same name is told to leave at
once and removed; what it was grading is added to the orphans. -/
def evict (acc : List SubmissionId) (id : JudgeId) : RegistryOp (List SubmissionId) := do
  match (← registry).find? id with
  | some old => let _ ← send old.link (.disconnect true)
  | none => pure ()
  let orphan ← remove id (← registry).fuel
  pure (acc ++ orphan.toList)

theorem runOn_evict (acc : List SubmissionId) (id : JudgeId) (s : Registry × Outbox) :
    (evict acc id).runOn links s =
      let s₁ := match s.1.find? id with
        | some old => ((send old.link (.disconnect true)).runOn links s).2
        | none => s
      let e := (remove id s₁.1.fuel).runOn links s₁
      (acc ++ e.1.toList, e.2) := by
  simp only [evict, runOn_bind, runOn_registry]
  rcases s.1.find? id with _ | old <;> rfl

/-- Registration: evict every judge of the same name, enroll the new one under the next id,
recompute the serving tier, and offer the new judge work. -/
theorem runOn_register (j : Judge) (s : Registry × Outbox) :
    (register j).runOn links s =
      let e := (((s.1.judges.filter (·.name == j.name)).map (·.id)).foldlM evict []).runOn links s
      let r₁ := e.2.1.enroll j
      let s₂ := ((updateMinTier r₁.fuel).runOn links (r₁, e.2.2)).2
      ((e.2.1.nextId, e.1), ((handleFree e.2.1.nextId s₂.1.fuel).runOn links s₂).2) := by
  simp only [register, runOn_bind, runOn_registry, runOn_update, runOn_pure]
  rfl

/-! ## The other public operations -/

/-- Offers work to a judge with fuel counted from the registry as it stands. -/
def offerWork (id : JudgeId) : RegistryOp Unit := do handleFree id (← registry).fuel

theorem runOn_offerWork (id : JudgeId) (s : Registry × Outbox) :
    (offerWork id).runOn links s = (handleFree id s.1.fuel).runOn links s := by
  simp only [offerWork, runOn_bind, runOn_registry]

theorem runOn_abort (x : SubmissionId) (s : Registry × Outbox) :
    (abort x).runOn links s =
      match s.1.assignedTo x with
      | some id =>
        (true, match s.1.find? id with
          | some j => ((send j.link (.abort x)).runOn links s).2
          | none => s)
      | none => (false, s.1.dequeue x, s.2) := by
  simp only [abort, runOn_bind, runOn_registry]
  rcases s.1.assignedTo x with _ | id
  · rfl
  · simp only
    rcases s.1.find? id with _ | j <;> rfl

theorem runOn_setDisabled (name : String) (d : Bool) (s : Registry × Outbox) :
    (setDisabled name d).runOn links s =
      let ids := (s.1.judges.filter (·.name == name)).map (·.id)
      if ids.isEmpty then (false, s)
      else
        let r₁ := s.1.markDisabled name d
        let s₂ := ((updateMinTier r₁.fuel).runOn links (r₁, s.2)).2
        (true, if !d then ((ids.forM offerWork).runOn links s₂).2 else s₂) := by
  simp only [setDisabled, runOn_bind, runOn_registry]
  by_cases h : ((s.1.judges.filter (·.name == name)).map (·.id)).isEmpty = true
  · simp only [h, if_true, runOn_pure]
  · simp only [h, Bool.false_eq_true, if_false, runOn_bind, runOn_update, runOn_registry]
    cases d <;> rfl

theorem runOn_onJudgeFree (id : JudgeId) (x : SubmissionId) (s : Registry × Outbox) :
    (onJudgeFree id x).runOn links s =
      match s.1.find? id with
      | none => ((), s)
      | some j => (offerWork id).runOn links (s.1.release id x j, s.2) := by
  simp only [onJudgeFree, runOn_bind, runOn_registry]
  rcases s.1.find? id with _ | j
  · rfl
  · simp only [Registry.release, runOn_offerWork]
    by_cases hw : (j.working == some x) = true
    · simp only [hw, if_true, runOn_bind, runOn_update, runOn_registry]
      by_cases ha : ((s.1.modifyJudge id fun j => { j with working := none }).assignedTo x ==
          some id) = true
      · simp only [ha, if_true, runOn_bind, runOn_update, runOn_registry]
      · simp only [ha, Bool.false_eq_true, if_false, runOn_bind, runOn_registry]
    · simp only [hw, Bool.false_eq_true, if_false, runOn_bind, runOn_registry]
      by_cases ha : (s.1.assignedTo x == some id) = true
      · simp only [ha, if_true, runOn_bind, runOn_update, runOn_registry]
      · simp only [ha, Bool.false_eq_true, if_false, runOn_bind, runOn_registry]

-- The two cases of `runOn_onJudgeFree` as rewrites: proofs rewrite with these rather than
-- reduce the match, which would make the kernel evaluate the offer of work.
theorem runOn_onJudgeFree_of_find {id : JudgeId} {j : Judge} (x : SubmissionId)
    {s : Registry × Outbox} (hj : s.1.find? id = some j) :
    (onJudgeFree id x).runOn links s = (offerWork id).runOn links (s.1.release id x j, s.2) := by
  rw [runOn_onJudgeFree, hj]

theorem runOn_onJudgeFree_of_none {id : JudgeId} (x : SubmissionId) {s : Registry × Outbox}
    (hj : s.1.find? id = none) : (onJudgeFree id x).runOn links s = ((), s) := by
  rw [runOn_onJudgeFree, hj]

theorem runOn_setProblems (id : JudgeId) (ps : List String) (s : Registry × Outbox) :
    (setProblems id ps).runOn links s =
      if (s.1.find? id).isSome then
        (offerWork id).runOn links (s.1.modifyJudge id fun j => { j with problems := ps }, s.2)
      else ((), s) := by
  simp only [setProblems, runOn_bind, runOn_registry]
  by_cases h : (s.1.find? id).isSome = true
  · simp only [h, if_true, runOn_bind, runOn_update, runOn_registry, runOn_offerWork]
  · simp only [h, Bool.false_eq_true, if_false, runOn_pure]

theorem runOn_setExecutors (id : JudgeId) (es : List String) (s : Registry × Outbox) :
    (setExecutors id es).runOn links s =
      if (s.1.find? id).isSome then
        (offerWork id).runOn links (s.1.modifyJudge id fun j => { j with executors := es }, s.2)
      else ((), s) := by
  simp only [setExecutors, runOn_bind, runOn_registry]
  by_cases h : (s.1.find? id).isSome = true
  · simp only [h, if_true, runOn_bind, runOn_update, runOn_registry, runOn_offerWork]
  · simp only [h, Bool.false_eq_true, if_false, runOn_pure]

/-- `g` changes only what a judge can grade: the judge keeps its identity, its tier, whether it
is disabled and its work. -/
structure CapabilityChange (g : Judge → Judge) : Prop where
  id : ∀ j, (g j).id = j.id
  name : ∀ j, (g j).name = j.name
  tier : ∀ j, (g j).tier = j.tier
  disabled : ∀ j, (g j).disabled = j.disabled
  working : ∀ j, (g j).working = j.working

/-- `op` updates what judge `id` can grade: a live judge undergoes a capability change and is
offered work; otherwise nothing happens. -/
def CapabilityUpdate (id : JudgeId) (op : RegistryOp Unit) : Prop :=
  ∃ g, CapabilityChange g ∧ ∀ links s, op.runOn links s =
    if (s.1.find? id).isSome then (offerWork id).runOn links (s.1.modifyJudge id g, s.2) else ((), s)

theorem capabilityUpdate_setProblems (id : JudgeId) (ps : List String) :
    CapabilityUpdate id (setProblems id ps) :=
  ⟨fun j => { j with problems := ps }, ⟨fun _ => rfl, fun _ => rfl, fun _ => rfl, fun _ => rfl,
    fun _ => rfl⟩, fun links s => runOn_setProblems links id ps s⟩

theorem capabilityUpdate_setExecutors (id : JudgeId) (es : List String) :
    CapabilityUpdate id (setExecutors id es) :=
  ⟨fun j => { j with executors := es }, ⟨fun _ => rfl, fun _ => rfl, fun _ => rfl, fun _ => rfl,
    fun _ => rfl⟩, fun links s => runOn_setExecutors links id es s⟩

theorem runOn_setPing (id : JudgeId) (load : Option Binary64) (ping : Binary64)
    (s : Registry × Outbox) :
    (setPing id load ping).runOn links s =
      ((), s.1.modifyJudge id (fun j => { j with load := load.getD j.load, ping := some ping }),
        s.2) := by
  simp only [setPing, runOn_update]

theorem runOn_leave (id : JudgeId) (s : Registry × Outbox) :
    (leave id).runOn links s = (remove id s.1.fuel).runOn links s := by
  simp only [leave, runOn_bind, runOn_registry]

end RegistryOp

/-! ## Reachable registries -/

/-- A public operation of the registry, with its arguments. -/
inductive Call where
  /-- A judge connects, and is registered as `Judge.fresh` with these fields. -/
  | register (name : String) (tier : Nat) (problems executors : List String) (disabled : Bool)
      (link : LinkId)
  /-- A submission is offered for grading, equal loads broken by `tie`. -/
  | dispatch (req : Request) (tie : TieBreak)
  | abort (s : SubmissionId)
  | disconnect (name : String) (force : Bool)
  | setDisabled (name : String) (disabled : Bool)
  /-- A judge's connection ended. -/
  | leave (id : JudgeId)
  | onJudgeFree (id : JudgeId) (s : SubmissionId)
  | setProblems (id : JudgeId) (problems : List String)
  | setExecutors (id : JudgeId) (executors : List String)
  | setPing (id : JudgeId) (load : Option Binary64) (ping : Binary64)
  | disconnectAll (force : Bool)

namespace Call

/-- The registry a call leaves and the commands it sends. -/
def run (c : Call) (links : Links) (r : Registry) : Registry × Outbox :=
  match c with
  | .register name tier ps es d link =>
    ((RegistryOp.register (Judge.fresh name tier ps es d link)).runOn links (r, [])).2
  | .dispatch req tie => ((RegistryOp.dispatch req tie).runOn links (r, [])).2
  | .abort s => ((RegistryOp.abort s).runOn links (r, [])).2
  | .disconnect name force => ((RegistryOp.disconnect name force).runOn links (r, [])).2
  | .setDisabled name d => ((RegistryOp.setDisabled name d).runOn links (r, [])).2
  | .leave id => ((RegistryOp.leave id).runOn links (r, [])).2
  | .onJudgeFree id s => ((RegistryOp.onJudgeFree id s).runOn links (r, [])).2
  | .setProblems id ps => ((RegistryOp.setProblems id ps).runOn links (r, [])).2
  | .setExecutors id es => ((RegistryOp.setExecutors id es).runOn links (r, [])).2
  | .setPing id load ping => ((RegistryOp.setPing id load ping).runOn links (r, [])).2
  | .disconnectAll force => ((RegistryOp.disconnectAll force).runOn links (r, [])).2

end Call

/-- The registries that some run reaches: from the empty registry, any sequence of calls,
each with its own set of open links (a link may close between any two calls). -/
inductive Registry.Reachable : Registry → Prop
  | empty : Registry.Reachable Registry.empty
  | call {r : Registry} (c : Call) (links : Links) :
      Registry.Reachable r → Registry.Reachable (c.run links r).1

end JudgeRelay
