import JudgeRelay.Proofs.Registry.Consistency
import JudgeRelay.Proofs.Queue.Refinement

/-!
# What an abort does, and what it leaves alone

Stopping a submission is answered from the registry as it stands. When a judge grades the
submission, the registry asks that judge to abort, through the judge's link, and changes
nothing else: the judge keeps the submission and the assignment stays until the judge
reports back. A link that is closed refuses the command, and the refusal is ignored.
Otherwise the submission leaves the queue if it waited there, and nothing is sent.

The queue's part is `PendingQueue.toList_remove`: removing an id takes exactly its request out
of what the queue is read as and keeps the others in order, whatever stale slots the removal
reclaims on the way. `abort_frame` states both branches for every reachable registry, where
the judge of an assigned submission is always live.
-/

namespace JudgeRelay

namespace PendingQueue

/-- Removing an id takes exactly its request out of the queue's reading and keeps the others
in order: the slots that reclaiming drops read as nothing. -/
theorem toList_remove (q : PendingQueue) (x : SubmissionId) :
    (q.remove x).2.toList = q.toList.filter (·.id != x) := by
  unfold remove
  rcases found : PendingQueue.entry? q x with _ | e
  · -- nothing waits under `x`, so nothing the queue is read as carries it
    symm
    apply List.filter_eq_self.2
    intro r member
    have other : r.id ≠ x := by
      rintro rfl
      have waiting := contains_of_mem_toList member
      simp [contains, found] at waiting
    simpa using other
  · dsimp only
    rw [← toList_view, view_reclaim, view_erase, ← toList_view]
    exact (List.filter_flatten ..).symm

end PendingQueue

namespace Registry

/-- The judge a submission is assigned to is live. -/
theorem Consistent.find?_of_assignedTo {r : Registry} (hc : r.Consistent) {s : SubmissionId}
    {id : JudgeId} (assigned : r.assignedTo s = some id) : ∃ j, r.find? id = some j := by
  obtain ⟨j, member, same, -⟩ := hc.assigned_working _ (hc.assignedTo_eq_some.1 assigned)
  exact ⟨j, hc.find?_eq_some.2 ⟨member, same⟩⟩

end Registry

namespace RegistryOp

theorem exec_abort_of_assigned {r : Registry} {s : SubmissionId} {id : JudgeId} {j : Judge}
    (links : Links) (assigned : r.assignedTo s = some id) (live : r.find? id = some j) :
    exec (abort s) links r = (true, r, if links j.link then [⟨r, j.link, .abort s⟩] else []) := by
  rw [exec_eq, runOn_abort, assigned]
  dsimp only
  rw [live]
  dsimp only
  rw [runOn_send]
  cases links j.link <;> rfl

theorem exec_abort_of_unassigned {r : Registry} {s : SubmissionId} (links : Links)
    (unassigned : r.assignedTo s = none) :
    exec (abort s) links r = (false, { r with queue := (r.queue.remove s).2 }, []) := by
  rw [exec_eq, runOn_abort, unassigned]
  rfl

end RegistryOp

open RegistryOp in
/-- Aborting a submission in a reachable registry, whatever links are open. A submission a judge
grades stays assigned and nothing changes, but an abort command goes to that judge's link when
the link is open. Any other submission leaves the queue if it waited there, the other waiting
requests keep their order, nothing is sent, and the answer is false; an id the registry does
not know changes nothing at all. -/
theorem abort_frame {r : Registry} (reach : r.Reachable) (s : SubmissionId) (links : Links) :
    (∀ id, r.assignedTo s = some id → ∃ j, r.find? id = some j ∧
      exec (abort s) links r = (true, r, if links j.link then [⟨r, j.link, .abort s⟩] else [])) ∧
    (r.assignedTo s = none →
      exec (abort s) links r = (false, { r with queue := (r.queue.remove s).2 }, []) ∧
      (r.queue.remove s).2.toList = r.queue.toList.filter (·.id != s) ∧
      (r.queue.remove s).2.contains s = false ∧
      (r.queue.contains s = false → exec (abort s) links r = (false, r, []))) := by
  refine ⟨fun id assigned => ?_, fun unassigned => ?_⟩
  · obtain ⟨j, live⟩ := reach.consistent.find?_of_assignedTo assigned
    exact ⟨j, live, exec_abort_of_assigned links assigned live⟩
  · refine ⟨exec_abort_of_unassigned links unassigned, r.queue.toList_remove s, by
      simp [PendingQueue.contains_remove], fun unknown => ?_⟩
    -- removing an id that does not wait leaves the queue as it was
    have untouched : (r.queue.remove s).2 = r.queue := by
      unfold PendingQueue.remove
      rw [show PendingQueue.entry? r.queue s = none by simpa [PendingQueue.contains] using unknown]
    rw [exec_abort_of_unassigned links unassigned, untouched]

/-- A judge registers and takes submission 7; aborting it asks the judge to stop. -/
theorem abort_frame_after_dispatch :
    let r := ((Call.dispatch ⟨7, "aplusb", "PY3", "", none, 1⟩ (fun _ => 0)).run (fun _ => true)
      ((Call.register "a" 0 ["aplusb"] ["PY3"] false 1).run (fun _ => true) Registry.empty).1).1
    r.Reachable ∧
      (∀ id, r.assignedTo 7 = some id → ∃ j, r.find? id = some j ∧
        RegistryOp.exec (RegistryOp.abort 7) (fun _ => true) r =
          (true, r, if (fun _ => true : Links) j.link then [⟨r, j.link, .abort 7⟩] else [])) ∧
      (r.assignedTo 7 = none →
        RegistryOp.exec (RegistryOp.abort 7) (fun _ => true) r =
          (false, { r with queue := (r.queue.remove 7).2 }, []) ∧
        (r.queue.remove 7).2.toList = r.queue.toList.filter (·.id != 7) ∧
        (r.queue.remove 7).2.contains 7 = false ∧
        (r.queue.contains 7 = false →
          RegistryOp.exec (RegistryOp.abort 7) (fun _ => true) r = (false, r, []))) := by
  intro r
  have reach : r.Reachable := Registry.Reachable.call (Call.dispatch ⟨7, "aplusb", "PY3", "", none, 1⟩ (fun _ => 0))
    (fun _ => true) (Registry.Reachable.call (Call.register "a" 0 ["aplusb"] ["PY3"] false 1)
      (fun _ => true) Registry.Reachable.empty)
  exact ⟨reach, abort_frame reach 7 (fun _ => true)⟩

end JudgeRelay
