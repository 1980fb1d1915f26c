import JudgeRelay.Proofs.Queue.Tickets
import JudgeRelay.Proofs.Registry.Conservation

/-!
# Work is handed out in queue order

A judge offered work reads the queue by band and, within a band, first in first out
(`toList_ahead`), and takes the first request it can grade: every other waiting request it
could grade comes after that one. A request offered to the registry goes to a judge at once
only when that judge is idle, and an idle judge can take no waiting interactive work
(`interactive_work_never_waits`), so an interactive request sent at once passes only rejudge
and batch work, which wait in higher bands.

A rejudge or batch request sent at once is the exception. Dispatch withholds it only from the
last free judge of several that can grade it, so a judge that alone can grade it gets it while
rejudge work that judge could also grade waits, in the same band or a lower one
(`straight_rejudge_passes_waiting_rejudge`). What holds is `submissions_sent_in_queue_order`:
every request sent is handed over in turn (`Sent.InTurn`), save such a rejudge passing waiting
rejudge or batch work (`Sent.StraightRejudge`).
-/

namespace JudgeRelay

/-! ## 1. The first request a judge can grade -/

/-- The request a judge takes from a list comes before every other one it could grade. -/
theorem Registry.firstFor_first {j : Judge} {reserve : Bool} {R : Request → Request → Prop} :
    ∀ {l : List Request} {req : Request}, Registry.firstFor j reserve l = some req →
      l.Pairwise R → ∀ q ∈ l, q ≠ req → j.accepts q = true → R req q := by
  intro l
  induction l with
  | nil => exact fun chosen => nomatch chosen
  | cons p rest ih =>
    intro req chosen ordered q member other accepts
    unfold Registry.firstFor at chosen
    split at chosen
    · cases chosen
    · split at chosen
      · -- `p` is taken, and the rest of the list comes after it
        cases chosen
        rcases List.mem_cons.1 member with rfl | later
        · exact absurd rfl other
        · exact List.rel_of_pairwise_cons ordered later
      · next refuses =>
        rcases List.mem_cons.1 member with rfl | later
        · exact absurd accepts refuses
        · exact ih chosen ordered.of_cons q later other accepts

/-! ## 2. Commands that hand a request over in turn -/

namespace Sent

/-- A command hands its request over in turn when it goes to a judge that can grade it and
every other waiting request that judge could grade comes after it in the queue's order, or is
one that `passes` lets it pass. -/
def InTurn (e : Sent) (passes : Request → Request → Prop) : Prop :=
  ∀ q, e.command = .submit q → ∃ j ∈ e.registry.judges, j.link = e.link ∧ j.accepts q = true ∧
    ∀ q' ∈ e.registry.queue.toList, q'.id ≠ q.id → j.accepts q' = true →
      e.registry.queue.Ahead q q' ∨ passes q q'

/-- A rejudge or batch request that was not waiting passes waiting rejudge or batch work. -/
def StraightRejudge (e : Sent) (q q' : Request) : Prop :=
  e.registry.queue.contains q.id = false ∧ Priority.rejudge ≤ q.priority ∧
    Priority.rejudge ≤ q'.priority

theorem inTurn_of_ne_submit {r : Registry} {l : LinkId} {c : Command} (hc : ∀ q, c ≠ .submit q)
    (passes : Request → Request → Prop) : InTurn ⟨r, l, c⟩ passes :=
  fun q command => absurd command (hc q)

/-- A judge offered work takes the first waiting request it can grade. -/
theorem inTurn_offer {r : Registry} {id : JudgeId} {j : Judge} {req : Request}
    (hwf : r.queue.WellFormed) (hord : r.queue.Ordered) (offered : r.offer id = some (j, req))
    (passes : Request → Request → Prop) : InTurn ⟨r, j.link, .submit req⟩ passes := by
  obtain ⟨found, -, -, chosen⟩ := Registry.offer_spec offered
  intro q command
  obtain rfl : req = q := Command.submit.inj command
  refine ⟨j, (Registry.find?_spec found).1, rfl, (Registry.firstFor_spec chosen).2, ?_⟩
  intro q' waiting other accepts
  exact .inl (Registry.firstFor_first chosen (PendingQueue.toList_ahead hwf hord) q' waiting
    (fun same => other (congrArg Request.id same)) accepts)

/-- A request sent at once to an idle judge: every waiting request that judge could grade is
rejudge or batch work, which an interactive request comes before. -/
theorem inTurn_eligible {r : Registry} {req : Request} {j : Judge} (hwf : r.queue.WellFormed)
    (conserves : r.Conserves []) (unknown : r.tracks req.id = false) (chosen : j ∈ r.eligible req) :
    InTurn ⟨r, j.link, .submit req⟩ (StraightRejudge ⟨r, j.link, .submit req⟩) := by
  obtain ⟨member, tier, accepts, available⟩ := Registry.mem_eligible chosen
  intro q command
  obtain rfl : req = q := Command.submit.inj command
  refine ⟨j, member, rfl, accepts, ?_⟩
  intro q' waiting _ accepts'
  have later : Priority.rejudge ≤ q'.priority := by
    apply Nat.le_of_not_lt
    intro interactive
    exact List.not_mem_nil
      (conserves j ⟨member, available, tier.symm⟩ ⟨q', waiting, interactive, accepts'⟩)
  by_cases rejudge : Priority.rejudge ≤ req.priority
  · exact .inr ⟨(Bool.or_eq_false_iff.1 unknown).2, rejudge, later⟩
  · -- an interactive request is in a band below every rejudge band
    left
    left
    have length := hwf.bands_length
    simp only [PendingQueue.bandOf, length, Priority.bands, Priority.rejudge] at later rejudge ⊢
    omega

end Sent

/-! ## 3. Every run hands requests over in turn -/

namespace RegistryOp

variable {α : Type} {links : Links}

/-- The queue is well formed and read in order, and every command sent so far handed its
request over in turn. -/
structure Orderly (s : Registry × Outbox) : Prop where
  queue : s.1.queue.WellFormed
  ordered : s.1.queue.Ordered
  sent : ∀ e ∈ s.2, e.InTurn e.StraightRejudge

theorem Orderly.of_queue {s s' : Registry × Outbox} (hs : Orderly s) (queue : s'.1.queue = s.1.queue)
    (sent : s'.2 = s.2) : Orderly s' where
  queue := queue ▸ hs.queue
  ordered := queue ▸ hs.ordered
  sent := sent ▸ hs.sent

/-- Every run of `op` from an orderly state leaves one. -/
def KeepsOrderly (op : RegistryOp α) : Prop := Keeps (fun s s' => Orderly s → Orderly s') op

theorem keepsOrderly_refl (s : Registry × Outbox) : Orderly s → Orderly s := id

theorem keepsOrderly_trans (s₁ s₂ s₃ : Registry × Outbox) (h₁ : Orderly s₁ → Orderly s₂)
    (h₂ : Orderly s₂ → Orderly s₃) : Orderly s₁ → Orderly s₃ := h₂ ∘ h₁

theorem orderly_send (l : LinkId) (c : Command) (hc : ∀ q, c ≠ .submit q) {s : Registry × Outbox}
    (hs : Orderly s) : Orderly ((send l c).runOn links s).2 := by
  rw [runOn_send]
  split
  · exact ⟨hs.queue, hs.ordered, List.forall_mem_append.2
      ⟨hs.sent, List.forall_mem_singleton.2 (Sent.inTurn_of_ne_submit hc _)⟩⟩
  · exact hs

theorem orderly_cascade (f : Nat) :
    (∀ id, KeepsOrderly (handleFree id f)) ∧ (∀ id, KeepsOrderly (remove id f)) ∧
      KeepsOrderly (updateMinTier f) := by
  apply Keeps.cascade keepsOrderly_refl keepsOrderly_trans
  · intro s id j req offered hs
    exact ⟨hs.queue.remove req.id, hs.ordered.remove req.id, List.forall_mem_append.2
      ⟨hs.sent, List.forall_mem_singleton.2 (Sent.inTurn_offer hs.queue hs.ordered offered _)⟩⟩
  · exact fun s id hs => hs.of_queue (Registry.drop_queue s.1 id) rfl
  · exact fun s hs => hs.of_queue rfl rfl

theorem keepsOrderly_offerWork (id : JudgeId) : KeepsOrderly (offerWork id) := by
  intro links s hs
  rw [runOn_offerWork]
  exact (orderly_cascade _).1 id links s hs

/-- Offering a request: a judge that takes it at once is idle, so the registry must be one in
which no idle judge could take waiting interactive work, as every reachable one is, and stay
so after each judge that refuses is removed. -/
theorem orderly_dispatchLoop (req : Request) (tie : TieBreak) (f : Nat) :
    ∀ s : Registry × Outbox, Sound s → s.1.Conserves [] → s.1.tracks req.id = false →
      Orderly s → Orderly ((dispatchLoop req tie f).runOn links s).2 := by
  induction f generalizing tie with
  | zero =>
    intro s _ _ _ hs
    rw [dispatchLoop_zero]
    exact ⟨hs.queue.push req, hs.ordered.push hs.queue req, hs.sent⟩
  | succ f ih =>
    intro s sound conserves unknown hs
    rw [dispatchLoop_succ]
    rcases chosen : Registry.pickLeast (tie 0) (s.1.eligible req) with _ | j
    · exact ⟨hs.queue.push req, hs.ordered.push hs.queue req, hs.sent⟩
    · dsimp only
      split
      · exact ⟨hs.queue, hs.ordered, List.forall_mem_append.2 ⟨hs.sent, List.forall_mem_singleton.2
          (Sent.inTurn_eligible hs.queue conserves unknown (Registry.pickLeast_mem chosen))⟩⟩
      · -- the judge that refused is removed, and the request is offered again
        exact ih _ _ (sound_remove_fuel sound)
          (conserves_remove sound (conserves.mono fun _ member => absurd member List.not_mem_nil))
          (Registry.Forgets.untracked ((forgetting_cascade s.1.fuel).2.1 j.id links s) unknown)
          ((orderly_cascade _).2.1 j.id links s hs)

theorem orderly_dispatch (req : Request) (tie : TieBreak) {s : Registry × Outbox} (sound : Sound s)
    (conserves : s.1.Conserves []) (hs : Orderly s) : Orderly ((dispatch req tie).runOn links s).2 := by
  rw [runOn_dispatch]
  split
  · exact hs
  · next unknown =>
    exact orderly_dispatchLoop req tie _ s sound conserves (Bool.eq_false_iff.2 unknown) hs

theorem keepsOrderly_evict (acc : List SubmissionId) (x : JudgeId) : KeepsOrderly (evict acc x) := by
  intro links s hs
  rw [runOn_evict]
  dsimp only
  rcases s.1.find? x with _ | old
  · exact (orderly_cascade _).2.1 x links s hs
  · exact (orderly_cascade _).2.1 x links _ (orderly_send old.link _ (disconnect_ne_submit true) hs)

theorem keepsOrderly_register (j : Judge) : KeepsOrderly (register j) := by
  intro links s hs
  rw [runOn_register]
  dsimp only
  have evicted := Keeps.foldlM keepsOrderly_refl keepsOrderly_trans keepsOrderly_evict
    ((s.1.judges.filter (·.name == j.name)).map (·.id)) [] links s hs
  generalize ((((s.1.judges.filter (·.name == j.name)).map (·.id)).foldlM evict []).runOn
    links s) = e at evicted ⊢
  exact (orderly_cascade _).1 _ links _
    ((orderly_cascade _).2.2 links (e.2.1.enroll j, e.2.2) (evicted.of_queue rfl rfl))

theorem keepsOrderly_abort (x : SubmissionId) : KeepsOrderly (abort x) := by
  intro links s hs
  rw [runOn_abort]
  rcases s.1.assignedTo x with _ | id
  · exact ⟨hs.queue.remove x, hs.ordered.remove x, hs.sent⟩
  · dsimp only
    rcases s.1.find? id with _ | j
    · exact hs
    · exact orderly_send j.link _ (abort_ne_submit x) hs

theorem keepsOrderly_sendAll (js : List Judge) (c : Command) (hc : ∀ q, c ≠ .submit q) :
    KeepsOrderly (js.forM fun j => do let _ ← send j.link c) := by
  apply Keeps.forM keepsOrderly_refl keepsOrderly_trans
  intro j links s hs
  simp only [runOn_bind, runOn_pure]
  exact orderly_send j.link c hc hs

theorem keepsOrderly_setDisabled (name : String) (d : Bool) : KeepsOrderly (setDisabled name d) := by
  intro links s hs
  rw [runOn_setDisabled]
  dsimp only
  split
  · exact hs
  · have tier := (orderly_cascade (s.1.markDisabled name d).fuel).2.2 links (s.1.markDisabled name d, s.2)
      (hs.of_queue rfl rfl)
    split
    · exact Keeps.forM keepsOrderly_refl keepsOrderly_trans keepsOrderly_offerWork _ links _ tier
    · exact tier

theorem keepsOrderly_onJudgeFree (id : JudgeId) (x : SubmissionId) :
    KeepsOrderly (onJudgeFree id x) := by
  intro links s hs
  rcases found : s.1.find? id with _ | j
  · rw [runOn_onJudgeFree_of_none links x found]
    exact hs
  · rw [runOn_onJudgeFree_of_find links x found]
    exact keepsOrderly_offerWork id links _ (hs.of_queue (Registry.release_queue s.1 id x j) rfl)

theorem keepsOrderly_capabilityUpdate {id : JudgeId} {op : RegistryOp Unit}
    (update : CapabilityUpdate id op) : KeepsOrderly op := by
  obtain ⟨g, -, run⟩ := update
  intro links s hs
  rw [run]
  split
  · exact keepsOrderly_offerWork id links _ (hs.of_queue rfl rfl)
  · exact hs

end RegistryOp

/-- A call from a reachable registry whose queue is read in order leaves one, and hands every
request it sends over in turn. -/
theorem Call.run_orderly (c : Call) (links : Links) {r : Registry} (h : r.Reachable)
    (hord : r.queue.Ordered) : RegistryOp.Orderly (c.run links r) := by
  have hs : RegistryOp.Orderly (r, []) :=
    ⟨h.queue_wellFormed, hord, fun _ none => absurd none List.not_mem_nil⟩
  cases c with
  | register name tier ps es d link => exact RegistryOp.keepsOrderly_register _ links _ hs
  | dispatch req tie =>
    exact RegistryOp.orderly_dispatch req tie
      ⟨h.consistent, RegistryOp.served_start h.fresh, h.queue_wellFormed⟩ h.conserves hs
  | abort x => exact RegistryOp.keepsOrderly_abort x links _ hs
  | disconnect name force =>
    exact RegistryOp.keepsOrderly_sendAll _ _ (RegistryOp.disconnect_ne_submit force) links _ hs
  | setDisabled name d => exact RegistryOp.keepsOrderly_setDisabled name d links _ hs
  | leave id =>
    change RegistryOp.Orderly ((RegistryOp.leave id).runOn links (r, [])).2
    rw [RegistryOp.runOn_leave]
    exact (RegistryOp.orderly_cascade _).2.1 id links _ hs
  | onJudgeFree id x => exact RegistryOp.keepsOrderly_onJudgeFree id x links _ hs
  | setProblems id ps =>
    exact RegistryOp.keepsOrderly_capabilityUpdate (RegistryOp.capabilityUpdate_setProblems id ps)
      links _ hs
  | setExecutors id es =>
    exact RegistryOp.keepsOrderly_capabilityUpdate (RegistryOp.capabilityUpdate_setExecutors id es)
      links _ hs
  | setPing id load ping =>
    change RegistryOp.Orderly ((RegistryOp.setPing id load ping).runOn links (r, [])).2
    rw [RegistryOp.runOn_setPing]
    exact hs.of_queue rfl rfl
  | disconnectAll force =>
    exact RegistryOp.keepsOrderly_sendAll _ _ (RegistryOp.disconnect_ne_submit force) links _ hs

theorem Registry.Reachable.queue_ordered {r : Registry} (h : r.Reachable) : r.queue.Ordered := by
  induction h with
  | empty => exact PendingQueue.ordered_empty _
  | call c links reach ih => exact (Call.run_orderly c links reach ih).ordered

/-! ## 4. Queue order -/

/-- Work is handed out in queue order: every request a call sends from a reachable registry
goes to a judge that can grade it, and every other waiting request that judge could grade is
in a higher band, or in the same band and pushed later; a request not waiting counts as
pushed at the call. The one exception is a rejudge or batch request sent at once, which may
pass waiting rejudge or batch work. -/
theorem submissions_sent_in_queue_order {r : Registry} (h : r.Reachable) (c : Call) (links : Links) :
    ∀ e ∈ (c.run links r).2, e.InTurn e.StraightRejudge :=
  (Call.run_orderly c links h h.queue_ordered).sent

namespace Overtaking

/-- `j1` grades `aplusb`; `j2` grades `aplusb` and `bonus`. -/
def registered : Registry :=
  ((Call.register "j2" 1 ["aplusb", "bonus"] ["PY3"] false 2).run (fun _ => true)
    ((Call.register "j1" 1 ["aplusb"] ["PY3"] false 1).run (fun _ => true) Registry.empty).1).1

def contest : Request := ⟨1, "aplusb", "PY3", "", none, 0⟩

def rejudge : Request := ⟨2, "aplusb", "PY3", "", none, 2⟩

def bonus : Request := ⟨3, "bonus", "PY3", "", none, 2⟩

/-- `j1` grades the contest submission and the rejudge waits: `j2` is the last free judge of
the two that can grade it. -/
def waiting : Registry :=
  ((Call.dispatch rejudge fun _ => 0).run (fun _ => true)
    ((Call.dispatch contest fun _ => 0).run (fun _ => true) registered).1).1

theorem waiting_reachable : waiting.Reachable := .call _ _ (.call _ _ (.call _ _ (.call _ _ .empty)))

/-- What offering the rejudge of `bonus` sends. -/
def sent : Outbox := ((Call.dispatch bonus fun _ => 0).run (fun _ => true) waiting).2

end Overtaking

/-- The rejudge of `bonus`, which only `j2` can grade, goes to `j2` at once. -/
theorem submissions_sent_in_queue_order_past_rejudge :
    Overtaking.waiting.Reachable ∧
      ∀ e ∈ ((Call.dispatch Overtaking.bonus fun _ => 0).run (fun _ => true) Overtaking.waiting).2,
        e.InTurn e.StraightRejudge :=
  ⟨Overtaking.waiting_reachable,
    submissions_sent_in_queue_order Overtaking.waiting_reachable _ _⟩

/-- Queue order fails without its exception: the rejudge of `bonus` goes to `j2` while the
rejudge of `aplusb`, which `j2` could grade, waits ahead of it in the same band. -/
theorem straight_rejudge_passes_waiting_rejudge :
    ¬ ∀ r : Registry, r.Reachable → ∀ (c : Call) (links : Links), ∀ e ∈ (c.run links r).2,
      e.InTurn fun _ _ => False := by
  intro claim
  have command : (Overtaking.sent.get ⟨0, by decide⟩).command = .submit Overtaking.bonus := by
    decide
  have queued : Overtaking.rejudge ∈ (Overtaking.sent.get ⟨0, by decide⟩).registry.queue.toList := by
    decide
  have passed : ∀ j ∈ (Overtaking.sent.get ⟨0, by decide⟩).registry.judges,
      j.link = (Overtaking.sent.get ⟨0, by decide⟩).link → j.accepts Overtaking.rejudge = true ∧
        ¬(Overtaking.sent.get ⟨0, by decide⟩).registry.queue.Ahead Overtaking.bonus Overtaking.rejudge := by
    decide
  obtain ⟨j, member, link, -, order⟩ := claim _ Overtaking.waiting_reachable
    (.dispatch Overtaking.bonus fun _ => 0) (fun _ => true) _ (List.get_mem _ _) _ command
  obtain ⟨accepts, behind⟩ := passed j member link
  rcases order _ queued (by decide) accepts with ahead | never
  · exact behind ahead
  · exact never

end JudgeRelay
