import JudgeRelay.Proofs.Registry.Pending
import JudgeRelay.Proofs.Relay.Running

/-!
# A departing judge's work

A judge leaves the registry in one of two ways. Its session closes: the session takes what
waits on its link and hands it back to the registry, request by request, with what it failed
to write; the registry reports the judge's work as orphaned, and the session fails the orphan
unless it hands it back. Or a judge of the same name registers: the registry drops the old
judge and reports its work to the new session, which fails it, and the old session closes
later, when its judge is gone.

A session that closes while its judge is registered disposes of the judge's work exactly once:
it fails it when it had written it to the judge, and hands it back when it had not
(`close_disposes_once`). A session whose judge is gone fails nothing at its close, and hands
back nothing it had written; but it does hand back a submission the registry sent it and it
never wrote, which the new session has already failed (`reconnect_fails_and_reroutes`).
-/

namespace JudgeRelay

open Act RegistryOp

/-- Dropping a judge of a consistent registry orphans exactly its work. -/
theorem Registry.Consistent.orphanOf_eq {r : Registry} (hc : r.Consistent) {id : JudgeId}
    {k : Judge} (found : r.find? id = some k) : r.orphanOf id = k.working := by
  obtain ⟨member, same⟩ := Registry.find?_spec found
  rcases work : k.working with _ | x
  · simp [Registry.orphanOf, found, work]
  · have assigned : r.assignedTo x = some id :=
      hc.assignedTo_eq_some.2 (same ▸ hc.working_assigned k member x work)
    simp [Registry.orphanOf, found, work, assigned]

/-- The requests a session takes off its link are the submissions that waited there. -/
theorem ids_taken (cs : List Command) :
    (cs.filterMap fun c => match c with
      | .submit r => some r
      | _ => none).map (·.id) = cs.filterMap Command.handsOver := by
  induction cs with
  | nil => rfl
  | cons c cs ih =>
    cases c with
    | submit r => simp [Command.handsOver, ih]
    | abort x => exact ih
    | disconnect force => exact ih

/-- A judge leaving the registry reports what it worked on, if it was still its own. -/
theorem leave_orphan (id : JudgeId) (w : World) :
    ((Act.registry (leave id)).run w).1 = w.registry.orphanOf id := by
  obtain ⟨result, -⟩ := registry_spec (leave id) w
  rw [result, runOn_leave, remove_result]

/-- How a closing session disposes of its judge's work, in every reachable relay. Closing takes
what waits on the link; with what the session failed to write, that is handed back to the
registry (`handed`). The judge leaving reports an `orphan`, which the session fails unless it
is handed back.

While the judge is registered, the orphan is its work, and nothing else is handed back; the work
is failed exactly when the session had written it to the judge (it grades it), and handed back
exactly when it had not: never both, never neither. Once the judge is gone, nothing is
reported, at most one submission is handed back, and none that the session had written. -/
theorem close_disposes_once {w : World} (reach : w.Reachable) {t : TaskId} {s : Session}
    (sits : sessionsOf w.tasks t = some s) :
    let closing := (closeLink s.link).run w
    let handed := (s.undelivered ++ closing.1.filterMap fun c => match c with
      | .submit r => some r
      | _ => none).map (·.id)
    let orphan := ((Act.registry (leave s.judgeId)).run closing.2).1
    (∀ k, w.registry.find? s.judgeId = some k →
      orphan = k.working ∧ (∀ x ∈ handed, k.working = some x) ∧
      ∀ x, k.working = some x →
        ((orphan = some x ∧ x ∉ handed) ↔ s.current = some x) ∧
          (x ∈ handed ↔ s.current ≠ some x)) ∧
    (w.registry.find? s.judgeId = none →
      orphan = none ∧ handed.length ≤ 1 ∧ (s.current.isSome → handed = [])) := by
  intro closing handed orphan
  obtain ⟨P, R, agrees⟩ := reach.settled
  obtain ⟨registry₁, -, -, -, -, taken⟩ := closeLink_spec s.link w
  -- what is handed back is what waited for the session
  have waiting : handed = s.undelivered.map (·.id) ++ pendingOn w.links s.link := by
    simp only [handed, closing, List.map_append, ids_taken, taken]
  have reported : orphan = w.registry.orphanOf s.judgeId := by
    simp only [orphan, closing, leave_orphan, registry₁]
  refine ⟨fun k found => ?_, fun gone => ?_⟩
  · have work : orphan = k.working :=
      reported.trans (agrees.reachable.consistent.orphanOf_eq found)
    have agree := agrees.agree sits found
    rw [← waiting] at agree
    refine ⟨work, fun x back => agree.eq_of_mem back, fun x working => ?_⟩
    rw [working] at agree
    rw [work, working, agree.mem_iff]
    exact ⟨by simp, Iff.rfl⟩
  · have loose := agrees.loose sits
    rw [← waiting] at loose
    refine ⟨reported.trans (by simp [Registry.orphanOf, gone]), loose.1, fun grading => ?_⟩
    by_contra nonempty
    rw [loose.2 nonempty] at grading
    cases grading

open Reconnect in
/-- After `alpha` reconnects, the second `alpha`'s session grades submission 1, which its judge
works on; were the session to close, it would fail 1 and hand back nothing. -/
theorem close_disposes_once_after_reconnect :
    ∃ s, sessionsOf world.tasks 1 = some s ∧ s.current = some 1 ∧
      let closing := (closeLink s.link).run world
      let handed := (s.undelivered ++ closing.1.filterMap fun c => match c with
        | .submit r => some r
        | _ => none).map (·.id)
      let orphan := ((Act.registry (leave s.judgeId)).run closing.2).1
      (∀ k, world.registry.find? s.judgeId = some k →
        orphan = k.working ∧ (∀ x ∈ handed, k.working = some x) ∧
        ∀ x, k.working = some x →
          ((orphan = some x ∧ x ∉ handed) ↔ s.current = some x) ∧
            (x ∈ handed ↔ s.current ≠ some x)) ∧
      (world.registry.find? s.judgeId = none →
        orphan = none ∧ handed.length ≤ 1 ∧ (s.current.isSome → handed = [])) := by
  obtain ⟨s, sits, current⟩ := Option.bind_eq_some_iff.1 grading
  exact ⟨s, sits, current, close_disposes_once reachable sits⟩

/-- A reconnecting judge's work disposed of twice. The new session registers `alpha` again,
which drops the first `alpha` with submission 1 sent to it and not yet written, and fails 1 as
`judge reconnected`. The old session then fails to write 1 to its judge, closes, and hands 1
back to the registry, which sends it to the new `alpha`, registered as judge 2. -/
theorem reconnect_fails_and_reroutes :
    Reconnect.world.Reachable ∧
      (match Reconnect.world.store with
        | .log l => l.calls.any fun c => match c with
          | .submissionUpdate 1 (.internalError "judge reconnected") => true
          | _ => false
        | .memory _ => false) = true ∧
      Reconnect.world.registry.assignedTo 1 = some 2 :=
  ⟨Reconnect.reachable, Reconnect.outcome.2⟩

end JudgeRelay
