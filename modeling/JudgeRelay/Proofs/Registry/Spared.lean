import JudgeRelay.Proofs.Registry.Pending
import JudgeRelay.Proofs.Registry.Conservation

/-!
# What the registry leaves of a submission it was told to stop

Stopping a submission is fire-and-forget. When a judge grades it, the registry asks the judge
to abort and keeps the assignment until the judge reports back; when it waits, it leaves the
queue. Either way it is no longer read from the queue (`Call.abort_unwaiting`).

From then on the registry holds it back: a call that does not take it again, that is, offer it
while the registry neither queues nor assigns it, keeps it out of the queue and sends it to no
judge (`Call.spares`). `RegistryOp.Spares` says the same of the operations the relay runs, and
`Call.spares_of` gives it for every operation that is a call offering something else.
-/

namespace JudgeRelay

/-! ## What the queue is read as after a call -/

namespace PendingQueue

/-- A removed id is no longer read from the queue. -/
theorem id_ne_of_mem_toList_remove {q : PendingQueue} {x : SubmissionId} {r : Request}
    (h : r ∈ (q.remove x).2.toList) : r.id ≠ x := by
  have waiting := contains_of_mem_toList h
  rw [contains_remove] at waiting
  simp only [Bool.and_eq_true, bne_iff_ne, ne_eq] at waiting
  exact fun same => waiting.2 same.symm

end PendingQueue

namespace RegistryOp

variable {links : Links}

/-- Dispatching a request adds it, and nothing else, to what the queue is read as. -/
theorem dispatchLoop_waiting (req : Request) (tie : TieBreak) (f : Nat) :
    ∀ s : Registry × Outbox, s.1.queue.WellFormed →
      ∀ q ∈ ((dispatchLoop req tie f).runOn links s).2.1.queue.toList, q ∈ s.1.queue.toList ∨ q = req := by
  induction f generalizing tie with
  | zero =>
    intro s hwf q waiting
    rw [dispatchLoop_zero] at waiting
    exact PendingQueue.mem_toList_push hwf waiting
  | succ f ih =>
    intro s hwf q waiting
    rw [dispatchLoop_succ] at waiting
    rcases chosen : Registry.pickLeast (tie 0) (s.1.eligible req) with _ | j
    · rw [chosen] at waiting
      exact PendingQueue.mem_toList_push hwf waiting
    · rw [chosen] at waiting
      dsimp only at waiting
      split at waiting
      · exact .inl waiting
      · -- the judge that refused is removed, which only takes requests out of the queue
        have removed := (sendsQueued_cascade s.1.fuel).2.1 j.id links s
        exact (ih _ _ ((queue_cascade _).2.1 j.id links s hwf) q waiting).imp_left (removed.1 q)

end RegistryOp

namespace Call

open RegistryOp

/-- A call adds to what the queue is read as only the request it offers, and only when the
registry did not know its id. -/
theorem run_waiting (c : Call) (links : Links) {r : Registry} (hwf : r.queue.WellFormed) :
    ∀ q ∈ (c.run links r).1.queue.toList,
      q ∈ r.queue.toList ∨ ((∃ tie, c = .dispatch q tie) ∧ r.tracks q.id = false) := by
  -- every call but an offer takes requests out of the queue only
  have hstart : ∀ {α : Type} (op : RegistryOp α), Keeps FromQueue op →
      ∀ q ∈ (op.runOn links (r, [])).2.1.queue.toList, q ∈ r.queue.toList :=
    fun op hop q waiting => (hop links (r, [])).1 q waiting
  intro q waiting
  cases c with
  | register name tier ps es d link => exact .inl (hstart _ (sendsQueued_register _) q waiting)
  | dispatch req tie =>
    change q ∈ ((RegistryOp.dispatch req tie).runOn links (r, [])).2.1.queue.toList at waiting
    rw [runOn_dispatch] at waiting
    split at waiting
    · exact .inl waiting
    · next unknown =>
      refine (dispatchLoop_waiting req tie _ (r, []) hwf q waiting).imp_right fun same => ?_
      subst same
      exact ⟨⟨tie, rfl⟩, by simpa using unknown⟩
  | abort x => exact .inl (hstart _ (sendsQueued_abort x) q waiting)
  | disconnect name force =>
    change q ∈ ((RegistryOp.disconnect name force).runOn links (r, [])).2.1.queue.toList at waiting
    rw [runOn_disconnect_registry] at waiting
    exact .inl waiting
  | setDisabled name d => exact .inl (hstart _ (sendsQueued_setDisabled name d) q waiting)
  | leave id =>
    change q ∈ ((RegistryOp.leave id).runOn links (r, [])).2.1.queue.toList at waiting
    rw [runOn_leave] at waiting
    exact .inl (((sendsQueued_cascade _).2.1 id links (r, [])).1 q waiting)
  | onJudgeFree id x => exact .inl (hstart _ (sendsQueued_onJudgeFree id x) q waiting)
  | setProblems id ps =>
    exact .inl (hstart _ (sendsQueued_capabilityUpdate (capabilityUpdate_setProblems id ps)) q waiting)
  | setExecutors id es =>
    exact .inl (hstart _ (sendsQueued_capabilityUpdate (capabilityUpdate_setExecutors id es)) q waiting)
  | setPing id load ping =>
    change q ∈ ((RegistryOp.setPing id load ping).runOn links (r, [])).2.1.queue.toList at waiting
    rw [runOn_setPing] at waiting
    exact .inl waiting
  | disconnectAll force =>
    change q ∈ ((RegistryOp.disconnectAll force).runOn links (r, [])).2.1.queue.toList at waiting
    rw [runOn_disconnectAll_registry] at waiting
    exact .inl waiting

/-- After an abort the submission is not read from the queue: a graded submission never
waits, and one that waited is taken out. -/
theorem abort_unwaiting (x : SubmissionId) (links : Links) {r : Registry} (hc : r.Consistent) :
    ∀ q ∈ ((Call.abort x).run links r).1.queue.toList, q.id ≠ x := by
  intro q waiting
  change q ∈ ((RegistryOp.abort x).runOn links (r, [])).2.1.queue.toList at waiting
  rw [runOn_abort] at waiting
  rcases graded : r.assignedTo x with _ | id
  · rw [graded] at waiting
    exact PendingQueue.id_ne_of_mem_toList_remove waiting
  · rw [graded] at waiting
    have unchanged : q ∈ r.queue.toList := by
      dsimp only at waiting
      split at waiting
      · rwa [runOn_send_registry] at waiting
      · exact waiting
    rintro rfl
    obtain ⟨id', assigned⟩ := Registry.assignedTo_isSome.1 (by simp [graded] : (r.assignedTo q.id).isSome)
    have unqueued := hc.assigned_unqueued _ assigned
    rw [PendingQueue.contains_of_mem_toList unchanged] at unqueued
    cases unqueued

/-- A call offers submission `x` and the registry takes it: it was neither waiting nor being
graded. -/
def Takes (c : Call) (x : SubmissionId) (r : Registry) : Prop :=
  ∃ req tie, c = .dispatch req tie ∧ req.id = x ∧ r.tracks x = false

/-- A call that does not take `x` back, from a reachable registry that does not queue `x`:
the registry stays reachable, still does not queue `x`, and the call sends `x` to no judge.
An offer of `x` that is not taken is a duplicate, and sends nothing. -/
theorem spares (c : Call) (links : Links) {r : Registry} {x : SubmissionId} (reachable : r.Reachable)
    (unqueued : ∀ q ∈ r.queue.toList, q.id ≠ x) (notTaken : ¬c.Takes x r) :
    (c.run links r).1.Reachable ∧ (∀ q ∈ (c.run links r).1.queue.toList, q.id ≠ x) ∧
      ∀ e ∈ (c.run links r).2, ∀ q, e.command = .submit q → q.id ≠ x := by
  refine ⟨.call c links reachable, fun q waiting => ?_, fun e sent q command => ?_⟩
  · rcases run_waiting c links reachable.queue_wellFormed q waiting with old | ⟨⟨tie, rfl⟩, unknown⟩
    · exact unqueued q old
    · exact fun same => notTaken ⟨q, tie, rfl, same, same ▸ unknown⟩
  · rcases run_sends c links r e sent q command with waited | ⟨tie, rfl⟩
    · exact unqueued q waited
    · rintro rfl
      have known : r.tracks q.id = true := by
        cases unknown : r.tracks q.id
        · exact absurd ⟨q, tie, rfl, rfl, unknown⟩ notTaken
        · rfl
      change e ∈ ((RegistryOp.dispatch q tie).runOn links (r, [])).2.2 at sent
      rw [RegistryOp.runOn_dispatch, if_pos known] at sent
      exact absurd sent List.not_mem_nil

end Call

/-- Operation `op` holds `x` back: from a reachable registry that does not queue `x`, it leaves
a reachable registry that does not queue `x`, and sends `x` to no judge. -/
def RegistryOp.Spares {α : Type} (x : SubmissionId) (op : RegistryOp α) : Prop :=
  ∀ links r, r.Reachable → (∀ q ∈ r.queue.toList, q.id ≠ x) →
    (op.runOn links (r, [])).2.1.Reachable ∧
      (∀ q ∈ (op.runOn links (r, [])).2.1.queue.toList, q.id ≠ x) ∧
      ∀ e ∈ (op.runOn links (r, [])).2.2, ∀ q, e.command = .submit q → q.id ≠ x

/-- An operation that is a call offering nothing under `x` holds `x` back. -/
theorem Call.spares_of {α : Type} (c : Call) {op : RegistryOp α} {x : SubmissionId}
    (runs : ∀ links r, c.run links r = (op.runOn links (r, [])).2)
    (offers : ∀ req tie, c = .dispatch req tie → req.id ≠ x) : op.Spares x := by
  intro links r reachable unqueued
  have held := c.spares links reachable unqueued fun ⟨req, tie, offer, same, _⟩ =>
    offers req tie offer same
  rwa [runs] at held

end JudgeRelay
