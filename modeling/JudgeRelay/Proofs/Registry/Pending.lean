import JudgeRelay.Proofs.Registry.Consistency

/-!
# No submission is lost or made up

The registry knows a submission when it waits in the queue or is assigned to a judge
(`Registry.tracks`). This module follows that set through every public operation:

* offering a request adds its id exactly when the request is not a duplicate;
* aborting takes a submission out exactly when it was waiting;
* a judge reporting a submission done takes it out exactly when it was assigned to that judge;
* a judge leaving takes out exactly the submission it returns, and registering a judge exactly
  the submissions it reports orphaned;
* every other operation keeps the set, including the hand-overs from the queue to judges that
  it sets off (`pending_cascade`).

Every submission command sent carries either the request being offered or a request that was
waiting in the queue when the operation began (`sendsQueued_cascade`). `pending_changes`
gathers all of it.
-/

namespace JudgeRelay

namespace Registry

/-! ## 1. The known submissions under each plain change -/

/-- What the registry knows is read off the assignments and the queue alone. -/
theorem tracks_congr {r r' : Registry} (ha : r'.assignments = r.assignments)
    (hq : r'.queue = r.queue) (x : SubmissionId) : r'.tracks x = r.tracks x := by
  simp only [tracks, assignedTo, isQueued, ha, hq]

theorem assign_isSome (r : Registry) (s : SubmissionId) (id : JudgeId) (x : SubmissionId) :
    ((r.assign s id).assignedTo x).isSome = ((r.assignedTo x).isSome || s == x) := by
  rw [Bool.eq_iff_iff, Bool.or_eq_true, assignedTo_isSome, assignedTo_isSome]
  simp only [assign, List.mem_append, List.mem_filter, List.mem_singleton, Prod.mk.injEq,
    bne_iff_ne, ne_eq, beq_iff_eq]
  constructor
  · rintro ⟨id', ⟨hp, -⟩ | ⟨rfl, -⟩⟩
    · exact .inl ⟨id', hp⟩
    · exact .inr rfl
  · rintro (⟨id', hp⟩ | rfl)
    · by_cases hx : x = s
      · exact ⟨id, .inr ⟨hx, rfl⟩⟩
      · exact ⟨id', .inl ⟨hp, hx⟩⟩
    · exact ⟨id, .inr ⟨rfl, rfl⟩⟩

/-- A request that waits now is known from then on. -/
theorem tracks_enqueue (r : Registry) (req : Request) (x : SubmissionId) :
    (r.enqueue req).tracks x = (r.tracks x || req.id == x) := by
  simp only [tracks, isQueued, enqueue, PendingQueue.contains_push, Bool.or_assoc]
  rfl

theorem tracks_dequeue (r : Registry) (s x : SubmissionId) :
    (r.dequeue s).tracks x = ((r.assignedTo x).isSome || (r.isQueued x && s != x)) := by
  simp only [tracks, isQueued, dequeue, PendingQueue.contains_remove]
  rfl

/-- A request handed to a judge as it is offered is known from then on. -/
theorem tracks_give (r : Registry) (id : JudgeId) (req : Request) (x : SubmissionId) :
    (r.give id req).tracks x = (r.tracks x || req.id == x) := by
  show ((((r.setWorking id req.id).assign req.id id).assignedTo x).isSome || r.isQueued x) = _
  rw [assign_isSome]
  exact Bool.or_right_comm _ _ _

/-- Handing a waiting request to a judge moves it from the queue to the assignments. -/
theorem tracks_hand (r : Registry) (id : JudgeId) (req : Request)
    (hq : r.queue.contains req.id = true) (x : SubmissionId) :
    (r.hand id req).tracks x = r.tracks x := by
  show (((((r.setWorking id req.id).dequeue req.id).assign req.id id).assignedTo x).isSome ||
    (r.queue.remove req.id).2.contains x) = _
  rw [assign_isSome, PendingQueue.contains_remove]
  show ((r.assignedTo x).isSome || req.id == x || (r.queue.contains x && req.id != x)) =
    ((r.assignedTo x).isSome || r.queue.contains x)
  by_cases hx : req.id = x
  · subst hx
    simp [hq]
  · have hne : (req.id == x) = false := by simpa using hx
    simp [bne, hne]

/-- Dropping a judge forgets exactly what it was grading. -/
theorem Consistent.tracks_drop {r : Registry} (hc : r.Consistent) (id : JudgeId)
    (x : SubmissionId) :
    (r.drop id).tracks x = true ↔ r.tracks x = true ∧ r.orphanOf id ≠ some x := by
  unfold Registry.drop orphanOf
  rcases r.find? id with _ | j
  · simp
  · dsimp only
    rcases ho : j.working.filter (fun s => r.assignedTo s == some id) with _ | s
    · rw [show ({ r with judges := r.judges.filter (·.id != id) } : Registry).tracks x = r.tracks x
        from tracks_congr rfl rfl x]
      simp
    · -- the orphan was assigned to the judge, so it was not waiting
      have has : r.assignedTo s = some id := by
        simpa using (Option.filter_eq_some_iff.1 ho).2
      have hq : r.queue.contains s = false :=
        hc.assigned_unqueued _ (hc.assignedTo_eq_some.1 has)
      rw [tracks_iff, tracks_iff]
      simp only [unassign, List.mem_filter, bne_iff_ne, ne_eq, Option.some.injEq]
      by_cases hx : s = x
      · subst hx
        simp [hq]
      · simp [hx, Ne.symm hx]

/-- A judge reporting a submission done: the registry forgets the submission exactly when it
was assigned to that judge. -/
theorem Consistent.tracks_release {r : Registry} (hc : r.Consistent) {id : JudgeId} {j : Judge}
    (s : SubmissionId) (hj : r.find? id = some j) (x : SubmissionId) :
    (r.release id s j).tracks x = true ↔
      r.tracks x = true ∧ ¬(s = x ∧ r.assignedTo s = some id) := by
  obtain ⟨hjm, hjid⟩ := find?_spec hj
  unfold Registry.release
  dsimp only
  by_cases hw : j.working = some s
  · have has : r.assignedTo s = some id :=
      hc.assignedTo_eq_some.2 (hjid ▸ hc.working_assigned j hjm s hw)
    have hq : r.queue.contains s = false :=
      hc.assigned_unqueued _ (hc.assignedTo_eq_some.1 has)
    have hw' : (j.working == some s) = true := by simpa using hw
    have has' : ((r.modifyJudge id fun k => { k with working := none }).assignedTo s ==
        some id) = true := by
      show (r.assignedTo s == some id) = true
      simp [has]
    simp only [hw', if_true, has']
    rw [tracks_iff, tracks_iff]
    simp only [unassign, Registry.modifyJudge, List.mem_filter, bne_iff_ne, ne_eq, has, and_true]
    by_cases hx : s = x
    · subst hx
      simp [hq]
    · simp [hx, Ne.symm hx]
  · -- the submission is not the judge's work, so it is not assigned to the judge
    have has : r.assignedTo s ≠ some id := by
      intro h
      exact hw (hc.working_eq hjm (hjid ▸ hc.assignedTo_eq_some.1 h))
    have hw' : (j.working == some s) = false := by simpa using hw
    have has' : (r.assignedTo s == some id) = false := by simpa using has
    simp only [hw', has', Bool.false_eq_true, if_false]
    simp [has]

/-- A free judge grades nothing, so removing it orphans nothing. -/
theorem orphanOf_free {r : Registry} {id : JudgeId} {j : Judge} (hj : r.find? id = some j)
    (hw : j.working = none) : r.orphanOf id = none := by
  simp [orphanOf, hj, hw]

end Registry

namespace RegistryOp

variable {α : Type}

/-! ## 2. The dispatch cascade knows the same submissions -/

/-- From a consistent registry, every run of `op` ends in a consistent registry that knows
the same submissions. -/
def KeepsPending (op : RegistryOp α) : Prop :=
  Keeps (fun s s' => s.1.Consistent → s'.1.Consistent ∧ ∀ x, s'.1.tracks x = s.1.tracks x) op

theorem keepsPending_refl (s : Registry × Outbox) :
    s.1.Consistent → s.1.Consistent ∧ ∀ x, s.1.tracks x = s.1.tracks x :=
  fun hc => ⟨hc, fun _ => rfl⟩

theorem keepsPending_trans (s₁ s₂ s₃ : Registry × Outbox)
    (h₁ : s₁.1.Consistent → s₂.1.Consistent ∧ ∀ x, s₂.1.tracks x = s₁.1.tracks x)
    (h₂ : s₂.1.Consistent → s₃.1.Consistent ∧ ∀ x, s₃.1.tracks x = s₂.1.tracks x) :
    s₁.1.Consistent → s₃.1.Consistent ∧ ∀ x, s₃.1.tracks x = s₁.1.tracks x := by
  intro hc
  obtain ⟨hc₂, ht₂⟩ := h₁ hc
  obtain ⟨hc₃, ht₃⟩ := h₂ hc₂
  exact ⟨hc₃, fun x => (ht₃ x).trans (ht₂ x)⟩

/-- Removing a judge returns what it was grading, if that was still its own. -/
theorem remove_result (id : JudgeId) (f : Nat) (links : Links) (s : Registry × Outbox) :
    ((remove id f).runOn links s).1 = s.1.orphanOf id := by
  cases f with
  | zero => rw [remove_zero]
  | succ f =>
    rw [remove_succ]
    rcases hj : s.1.find? id with _ | j
    · simp [Registry.orphanOf, hj]
    · rfl

/-- The cascade hands waiting requests to judges and drops judges that refuse them, which
were free: it never forgets a submission. Removing a judge forgets its own work only. -/
theorem pending_cascade (f : Nat) :
    (∀ id, KeepsPending (handleFree id f)) ∧
      (∀ id links (s : Registry × Outbox), s.1.Consistent → ∀ x,
        ((remove id f).runOn links s).2.1.tracks x = true ↔
          s.1.tracks x = true ∧ s.1.orphanOf id ≠ some x) ∧
      KeepsPending (updateMinTier f) := by
  induction f with
  | zero =>
    refine ⟨fun id links s hc => ?_, fun id links s hc x => ?_, fun links s hc => ?_⟩
    · rw [handleFree_zero]
      exact keepsPending_refl s hc
    · rw [remove_zero]
      exact hc.tracks_drop id x
    · rw [updateMinTier_zero]
      exact ⟨hc.refresh, Registry.tracks_congr rfl rfl⟩
  | succ f ih =>
    obtain ⟨ihHandle, ihRemove, ihTier⟩ := ih
    have ihSettle : KeepsPending (settle f) := Keeps.settle keepsPending_trans ihTier ihHandle
    refine ⟨fun id links s hc => ?_, fun id links s hc x => ?_, fun links s hc => ?_⟩
    · rw [handleFree_succ]
      rcases ho : s.1.offer id with _ | ⟨j, req⟩
      · exact keepsPending_refl s hc
      · obtain ⟨hj, havail, -, -⟩ := Registry.offer_spec ho
        have hfree := (Registry.isAvailable_iff.1 havail).2
        have hq := Registry.offer_waiting ho
        dsimp only
        split
        · exact ⟨hc.hand hj hfree hq, Registry.tracks_hand _ _ _ hq⟩
        · -- the judge refused the request; it was free, so removing it forgets nothing
          refine ⟨(consistent_cascade f).2.1 id links s hc, fun x => ?_⟩
          have hx := ihRemove id links s hc x
          rw [Registry.orphanOf_free hj hfree] at hx
          exact Bool.eq_iff_iff.2 (hx.trans (and_iff_left (by simp)))
    · rw [remove_succ]
      rcases hj : s.1.find? id with _ | j
      · simp [Registry.orphanOf, hj]
      · obtain ⟨-, ht⟩ := ihSettle links (s.1.drop id, s.2) (hc.drop id)
        dsimp only
        rw [ht x]
        exact hc.tracks_drop id x
    · rw [updateMinTier_succ]
      split
      · exact keepsPending_refl s hc
      · have hrefresh : s.1.refresh.Consistent ∧ ∀ x, s.1.refresh.tracks x = s.1.tracks x :=
          ⟨hc.refresh, Registry.tracks_congr rfl rfl⟩
        split
        · exact keepsPending_trans _ (s.1.refresh, s.2) _ (fun _ => hrefresh)
            (Keeps.forM keepsPending_refl keepsPending_trans ihHandle _ links _) hc
        · exact hrefresh

theorem keepsPending_handleFree (id : JudgeId) (f : Nat) : KeepsPending (handleFree id f) :=
  (pending_cascade f).1 id

theorem keepsPending_updateMinTier (f : Nat) : KeepsPending (updateMinTier f) :=
  (pending_cascade f).2.2

theorem keepsPending_offerWork (id : JudgeId) : KeepsPending (offerWork id) := by
  intro links s hc
  rw [runOn_offerWork]
  exact keepsPending_handleFree id _ links s hc

/-! ## 3. Offering a request -/

/-- Dispatching a request the registry does not know: it is assigned or queued, never taken
for a duplicate, and the registry then knows it besides everything it knew. -/
theorem dispatchLoop_pending (req : Request) (tie : TieBreak) (f : Nat) (links : Links) :
    ∀ s : Registry × Outbox, s.1.Consistent → s.1.tracks req.id = false →
      ((dispatchLoop req tie f).runOn links s).1 ≠ .duplicate ∧
        ∀ x, ((dispatchLoop req tie f).runOn links s).2.1.tracks x = (s.1.tracks x || req.id == x) := by
  induction f generalizing tie with
  | zero =>
    intro s hc hx
    rw [dispatchLoop_zero]
    exact ⟨by simp, Registry.tracks_enqueue _ _⟩
  | succ f ih =>
    intro s hc hx
    rw [dispatchLoop_succ]
    rcases hj : Registry.pickLeast (tie 0) (s.1.eligible req) with _ | j
    · exact ⟨by simp, Registry.tracks_enqueue _ _⟩
    · obtain ⟨hjm, -, -, havail⟩ := Registry.mem_eligible (Registry.pickLeast_mem hj)
      have hfind : s.1.find? j.id = some j := hc.find?_eq_some.2 ⟨hjm, rfl⟩
      dsimp only
      split
      · exact ⟨by simp, Registry.tracks_give _ _ _⟩
      · -- the judge refused; it was free, so the registry still knows the same submissions
        have hrem := (pending_cascade s.1.fuel).2.1 j.id links s hc
        rw [Registry.orphanOf_free hfind (Registry.isAvailable_iff.1 havail).2] at hrem
        have hsame : ∀ x, ((remove j.id s.1.fuel).runOn links s).2.1.tracks x = s.1.tracks x :=
          fun x => Bool.eq_iff_iff.2 ((hrem x).trans (and_iff_left (by simp)))
        have hc₁ := (consistent_cascade s.1.fuel).2.1 j.id links s hc
        obtain ⟨hres, htr⟩ := ih _ _ hc₁ (by rw [hsame]; exact hx)
        exact ⟨hres, fun x => by rw [htr, hsame]⟩

/-- Offering a request: a duplicate exactly when the registry knows its id, and otherwise the
registry knows it from then on, besides everything it knew. -/
theorem dispatch_pending (req : Request) (tie : TieBreak) (links : Links) (s : Registry × Outbox)
    (hc : s.1.Consistent) :
    (((dispatch req tie).runOn links s).1 = .duplicate ↔ s.1.tracks req.id = true) ∧
      ∀ x, ((dispatch req tie).runOn links s).2.1.tracks x =
        (s.1.tracks x || (((dispatch req tie).runOn links s).1 != .duplicate && req.id == x)) := by
  rw [runOn_dispatch]
  split
  · next hx =>
    exact ⟨iff_of_true rfl hx, fun x => by simp only [bne_self_eq_false, Bool.false_and, Bool.or_false]⟩
  · next hx =>
    have hx' : s.1.tracks req.id = false := by simpa using hx
    obtain ⟨hres, htr⟩ := dispatchLoop_pending req tie _ links s hc hx'
    have hb : (((dispatchLoop req tie (s.1.judges.length + 1)).runOn links s).1 != .duplicate) = true :=
      bne_iff_ne.2 hres
    exact ⟨iff_of_false hres hx, fun x => by rw [htr, hb, Bool.true_and]⟩

/-! ## 4. The other public operations -/

/-- Aborting forgets a submission exactly when it was waiting; one being graded stays
known until its judge reports it done. -/
theorem abort_pending (y : SubmissionId) (links : Links) (s : Registry × Outbox)
    (hc : s.1.Consistent) (x : SubmissionId) :
    ((abort y).runOn links s).2.1.tracks x = true ↔
      s.1.tracks x = true ∧ ¬(y = x ∧ s.1.isQueued y = true) := by
  rw [runOn_abort]
  rcases ha : s.1.assignedTo y with _ | id
  · dsimp only
    rw [Registry.tracks_dequeue]
    by_cases hx : y = x
    · subst hx
      simp [Registry.tracks, ha]
    · have hne : (y != x) = true := by simpa using hx
      simp [Registry.tracks, hne, hx]
  · -- a submission being graded is not waiting, and aborting it only sends a command
    have hq : s.1.isQueued y = false := hc.assigned_unqueued _ (hc.assignedTo_eq_some.1 ha)
    dsimp only
    rcases s.1.find? id with _ | j
    · simp [hq]
    · dsimp only
      rw [runOn_send_registry]
      simp [hq]

/-- A judge reporting a submission done: the registry forgets it exactly when it was assigned
to that judge; handing the judge new work forgets nothing. -/
theorem onJudgeFree_pending (id : JudgeId) (y : SubmissionId) (links : Links)
    (s : Registry × Outbox) (hc : s.1.Consistent) (x : SubmissionId) :
    ((onJudgeFree id y).runOn links s).2.1.tracks x = true ↔
      s.1.tracks x = true ∧ ¬(y = x ∧ s.1.assignedTo y = some id) := by
  rcases hj : s.1.find? id with _ | j
  · -- an unknown judge has nothing assigned
    rw [runOn_onJudgeFree_of_none links y hj]
    have hna : s.1.assignedTo y ≠ some id := by
      intro h
      obtain ⟨k, hk, hkid, -⟩ := hc.assigned_working _ (hc.assignedTo_eq_some.1 h)
      exact Registry.find?_eq_none.1 hj k hk hkid
    simp [hna]
  · rw [runOn_onJudgeFree_of_find links y hj]
    obtain ⟨-, ht⟩ := keepsPending_offerWork id links (s.1.release id y j, s.2) (hc.release y hj)
    rw [ht x]
    exact hc.tracks_release y hj x

/-- A judge leaving forgets exactly the submission it returns. -/
theorem leave_pending (id : JudgeId) (links : Links) (s : Registry × Outbox)
    (hc : s.1.Consistent) (x : SubmissionId) :
    ((leave id).runOn links s).2.1.tracks x = true ↔
      s.1.tracks x = true ∧ ((leave id).runOn links s).1 ≠ some x := by
  rw [runOn_leave, remove_result]
  exact (pending_cascade _).2.1 id links s hc x

/-- One step of registration's eviction loop forgets exactly the evicted judge's work, which
it adds to the orphans. -/
theorem evict_pending (acc : List SubmissionId) (x : JudgeId) (links : Links)
    (s : Registry × Outbox) (hc : s.1.Consistent) :
    ((evict acc x).runOn links s).1 = acc ++ (s.1.orphanOf x).toList ∧
      ∀ y, ((evict acc x).runOn links s).2.1.tracks y = true ↔
        s.1.tracks y = true ∧ s.1.orphanOf x ≠ some y := by
  -- removing the judge from any state with the same registry does it
  have hremove : ∀ s₁ : Registry × Outbox, s₁.1 = s.1 →
      acc ++ ((remove x s₁.1.fuel).runOn links s₁).1.toList = acc ++ (s.1.orphanOf x).toList ∧
        ∀ y, ((remove x s₁.1.fuel).runOn links s₁).2.1.tracks y = true ↔
          s.1.tracks y = true ∧ s.1.orphanOf x ≠ some y := by
    intro s₁ hreg
    rw [remove_result, hreg]
    refine ⟨rfl, fun y => ?_⟩
    have h := (pending_cascade s₁.1.fuel).2.1 x links s₁ (hreg ▸ hc) y
    rwa [hreg] at h
  rw [runOn_evict]
  dsimp only
  rcases s.1.find? x with _ | old
  · exact hremove s rfl
  · exact hremove _ (runOn_send_registry links _ _ s)

/-- Registering a judge forgets exactly the submissions it reports orphaned: the work of the
judges of the same name, which it evicts. -/
theorem register_pending (j : Judge) (hw : j.working = none) (links : Links)
    (s : Registry × Outbox) (hc : s.1.Consistent) (x : SubmissionId) :
    ((register j).runOn links s).2.1.tracks x = true ↔
      s.1.tracks x = true ∧ x ∉ ((register j).runOn links s).1.2 := by
  rw [runOn_register]
  dsimp only
  obtain ⟨hc₁, hnames, htracks⟩ := foldlM_invariant links
    (fun acc rest (e : Registry × Outbox) => e.1.Consistent ∧
      (∀ k ∈ e.1.judges, k.name = j.name → k.id ∈ rest) ∧
      ∀ y, e.1.tracks y = true ↔ s.1.tracks y = true ∧ y ∉ acc)
    (fun acc y ys e ⟨hce, hn, ht⟩ => by
      obtain ⟨hres, htr⟩ := evict_pending acc y links e hce
      obtain ⟨hce', hn'⟩ := evict_keeps j.name acc y ys links e ⟨hce, hn⟩
      refine ⟨hce', hn', fun z => ?_⟩
      rw [htr, ht, hres, List.mem_append, Option.mem_toList, and_assoc]
      simp only [not_or, ne_eq, eq_comm])
    _ [] s
    ⟨hc, fun k hk hname => List.mem_map.2 ⟨k, List.mem_filter.2 ⟨hk, beq_iff_eq.2 hname⟩, rfl⟩,
      fun y => by simp⟩
  generalize (List.foldlM evict [] _).runOn links s = e at hc₁ hnames htracks ⊢
  -- the new judge joins, and offering it work knows the same submissions
  have hc₂ := hc₁.enroll hw fun k hk hname => nomatch hnames k hk hname
  obtain ⟨hc₃, ht₃⟩ := keepsPending_updateMinTier (e.2.1.enroll j).fuel links
    (e.2.1.enroll j, e.2.2) hc₂
  obtain ⟨-, ht₄⟩ := keepsPending_handleFree e.2.1.nextId _ links _ hc₃
  rw [ht₄ x, ht₃ x, Registry.tracks_congr rfl rfl x]
  exact htracks x

theorem keepsPending_setDisabled (name : String) (d : Bool) :
    KeepsPending (setDisabled name d) := by
  intro links s hc
  rw [runOn_setDisabled]
  dsimp only
  split
  · exact keepsPending_refl s hc
  · have hmark : (s.1.markDisabled name d).Consistent ∧
        ∀ x, (s.1.markDisabled name d).tracks x = s.1.tracks x :=
      ⟨hc.markDisabled name d, Registry.tracks_congr rfl rfl⟩
    have htier := keepsPending_trans s (s.1.markDisabled name d, s.2) _ (fun _ => hmark)
      (keepsPending_updateMinTier (s.1.markDisabled name d).fuel links
        (s.1.markDisabled name d, s.2)) hc
    split
    · exact keepsPending_trans s _ _ (fun _ => htier)
        (Keeps.forM keepsPending_refl keepsPending_trans keepsPending_offerWork _ links _) hc
    · exact htier

theorem keepsPending_capabilityUpdate {id : JudgeId} {op : RegistryOp Unit}
    (update : CapabilityUpdate id op) : KeepsPending op := by
  obtain ⟨g, hg, run⟩ := update
  intro links s hc
  rw [run]
  split
  · have hmod : (s.1.modifyJudge id g).Consistent :=
      hc.modifyJudge fun j => ⟨hg.id j, hg.name j, hg.working j⟩
    obtain ⟨hc', ht⟩ := keepsPending_offerWork id links (s.1.modifyJudge id g, s.2) hmod
    exact ⟨hc', fun x => (ht x).trans (Registry.tracks_congr rfl rfl x)⟩
  · exact keepsPending_refl s hc

theorem keepsPending_setPing (id : JudgeId) (load : Option Binary64) (ping : Binary64) :
    KeepsPending (setPing id load ping) := by
  intro links s hc
  rw [runOn_setPing]
  exact ⟨hc.modifyJudge fun _ => ⟨rfl, rfl, rfl⟩, Registry.tracks_congr rfl rfl⟩

/-! ## 5. Requests sent come from the queue -/

/-- From `s` to `s'` the queue gained no request, and every submission command sent carries
a request that waited in the queue of `s`. -/
def FromQueue (s s' : Registry × Outbox) : Prop :=
  (∀ q ∈ s'.1.queue.toList, q ∈ s.1.queue.toList) ∧
    ∃ new, s'.2 = s.2 ++ new ∧ ∀ e ∈ new, ∀ q, e.command = .submit q → q ∈ s.1.queue.toList

theorem fromQueue_refl (s : Registry × Outbox) : FromQueue s s :=
  ⟨fun _ h => h, [], by simp, by simp⟩

theorem fromQueue_trans (s₁ s₂ s₃ : Registry × Outbox) (h₁ : FromQueue s₁ s₂)
    (h₂ : FromQueue s₂ s₃) : FromQueue s₁ s₃ := by
  obtain ⟨hq₁, new₁, ho₁, hs₁⟩ := h₁
  obtain ⟨hq₂, new₂, ho₂, hs₂⟩ := h₂
  refine ⟨fun q hq => hq₁ q (hq₂ q hq), new₁ ++ new₂, by rw [ho₂, ho₁, List.append_assoc], ?_⟩
  intro e he q hcmd
  rcases List.mem_append.1 he with he | he
  · exact hs₁ e he q hcmd
  · exact hq₁ q (hs₂ e he q hcmd)

/-- A change of the registry that keeps the queue and sends nothing. -/
theorem fromQueue_of_queue {s s' : Registry × Outbox} (hq : s'.1.queue = s.1.queue)
    (ho : s'.2 = s.2) : FromQueue s s' :=
  ⟨fun q h => hq ▸ h, [], by simp [ho], by simp⟩

/-- Sending a command other than a submission. -/
theorem fromQueue_send (l : LinkId) (c : Command) (hc : ∀ q, c ≠ .submit q) (links : Links)
    (s : Registry × Outbox) : FromQueue s ((send l c).runOn links s).2 := by
  rw [runOn_send]
  split
  · refine ⟨fun _ h => h, [⟨s.1, l, c⟩], rfl, ?_⟩
    intro e he q hcmd
    rw [List.mem_singleton.1 he] at hcmd
    exact absurd hcmd (hc q)
  · exact fromQueue_refl s

/-- Sending a command other than a submission to each judge of a list. -/
theorem fromQueue_sendAll (js : List Judge) (c : Command) (hc : ∀ q, c ≠ .submit q) :
    Keeps FromQueue (js.forM fun j => do let _ ← send j.link c) := by
  apply Keeps.forM fromQueue_refl fromQueue_trans
  intro j links s
  simp only [runOn_bind, runOn_pure]
  exact fromQueue_send j.link c hc links s

/-- The cascade sends a judge only a request that was waiting, and takes requests out of the
queue only. -/
theorem sendsQueued_cascade (f : Nat) :
    (∀ id, Keeps FromQueue (handleFree id f)) ∧ (∀ id, Keeps FromQueue (remove id f)) ∧
      Keeps FromQueue (updateMinTier f) := by
  apply Keeps.cascade fromQueue_refl fromQueue_trans
  · intro s id j req ho
    have hqueue : (s.1.hand id req).queue = (s.1.queue.remove req.id).2 := rfl
    refine ⟨fun q h => PendingQueue.mem_toList_remove (hqueue ▸ h), [⟨s.1, j.link, .submit req⟩],
      rfl, ?_⟩
    intro e he q hcmd
    rw [List.mem_singleton.1 he, Command.submit.injEq] at hcmd
    rw [← hcmd]
    exact (Registry.firstFor_spec (Registry.offer_spec ho).2.2.2).1
  · exact fun s id => fromQueue_of_queue (Registry.drop_queue s.1 id) rfl
  · exact fun s => fromQueue_of_queue rfl rfl

theorem sendsQueued_offerWork (id : JudgeId) : Keeps FromQueue (offerWork id) := by
  intro links s
  rw [runOn_offerWork]
  exact (sendsQueued_cascade _).1 id links s

/-- Dispatching a request sends it, or requests that were waiting. -/
theorem dispatchLoop_sends (req : Request) (tie : TieBreak) (f : Nat) (links : Links) :
    ∀ s : Registry × Outbox, ∃ new, ((dispatchLoop req tie f).runOn links s).2.2 = s.2 ++ new ∧
      ∀ e ∈ new, ∀ q, e.command = .submit q → q ∈ s.1.queue.toList ∨ q = req := by
  induction f generalizing tie with
  | zero =>
    intro s
    rw [dispatchLoop_zero]
    exact ⟨[], by simp, by simp⟩
  | succ f ih =>
    intro s
    rw [dispatchLoop_succ]
    rcases Registry.pickLeast (tie 0) (s.1.eligible req) with _ | j
    · exact ⟨[], by simp, by simp⟩
    · dsimp only
      split
      · refine ⟨[⟨s.1, j.link, .submit req⟩], rfl, ?_⟩
        intro e he q hcmd
        rw [List.mem_singleton.1 he, Command.submit.injEq] at hcmd
        exact .inr hcmd.symm
      · obtain ⟨hq₁, new₁, ho₁, hs₁⟩ := (sendsQueued_cascade s.1.fuel).2.1 j.id links s
        obtain ⟨new₂, ho₂, hs₂⟩ := ih _ ((remove j.id s.1.fuel).runOn links s).2
        refine ⟨new₁ ++ new₂, by rw [ho₂, ho₁, List.append_assoc], ?_⟩
        intro e he q hcmd
        rcases List.mem_append.1 he with he | he
        · exact .inl (hs₁ e he q hcmd)
        · exact (hs₂ e he q hcmd).imp_left (hq₁ q)

theorem dispatch_sends (req : Request) (tie : TieBreak) (links : Links) (s : Registry × Outbox) :
    ∃ new, ((dispatch req tie).runOn links s).2.2 = s.2 ++ new ∧
      ∀ e ∈ new, ∀ q, e.command = .submit q → q ∈ s.1.queue.toList ∨ q = req := by
  rw [runOn_dispatch]
  split
  · exact ⟨[], by simp, by simp⟩
  · exact dispatchLoop_sends req tie _ links s

theorem sendsQueued_evict (acc : List SubmissionId) (x : JudgeId) : Keeps FromQueue (evict acc x) := by
  intro links s
  rw [runOn_evict]
  dsimp only
  rcases s.1.find? x with _ | old
  · exact (sendsQueued_cascade _).2.1 x links s
  · exact fromQueue_trans _ _ _
      (fromQueue_send old.link (.disconnect true) (disconnect_ne_submit true) links s)
      ((sendsQueued_cascade _).2.1 x links _)

theorem sendsQueued_register (j : Judge) : Keeps FromQueue (register j) := by
  intro links s
  rw [runOn_register]
  dsimp only
  have hfold := Keeps.foldlM fromQueue_refl fromQueue_trans sendsQueued_evict
    ((s.1.judges.filter (·.name == j.name)).map (·.id)) [] links s
  generalize (List.foldlM evict [] _).runOn links s = e at hfold ⊢
  refine fromQueue_trans _ _ _ hfold
    (fromQueue_trans _ (e.2.1.enroll j, e.2.2) _ (fromQueue_of_queue rfl rfl) ?_)
  exact fromQueue_trans _ _ _ ((sendsQueued_cascade _).2.2 links _)
    ((sendsQueued_cascade _).1 _ links _)

theorem sendsQueued_abort (y : SubmissionId) : Keeps FromQueue (abort y) := by
  intro links s
  rw [runOn_abort]
  rcases s.1.assignedTo y with _ | id
  · exact ⟨fun q h => PendingQueue.mem_toList_remove h, [], by simp, by simp⟩
  · dsimp only
    rcases s.1.find? id with _ | j
    · exact fromQueue_refl s
    · exact fromQueue_send j.link (.abort y) (abort_ne_submit y) links s

theorem sendsQueued_setDisabled (name : String) (d : Bool) : Keeps FromQueue (setDisabled name d) := by
  intro links s
  rw [runOn_setDisabled]
  dsimp only
  split
  · exact fromQueue_refl s
  · have htier := fromQueue_trans s (s.1.markDisabled name d, s.2) _ (fromQueue_of_queue rfl rfl)
      ((sendsQueued_cascade (s.1.markDisabled name d).fuel).2.2 links _)
    split
    · exact fromQueue_trans _ _ _ htier
        (Keeps.forM fromQueue_refl fromQueue_trans sendsQueued_offerWork _ links _)
    · exact htier

theorem sendsQueued_onJudgeFree (id : JudgeId) (y : SubmissionId) :
    Keeps FromQueue (onJudgeFree id y) := by
  intro links s
  rcases hj : s.1.find? id with _ | j
  · rw [runOn_onJudgeFree_of_none links y hj]
    exact fromQueue_refl s
  · rw [runOn_onJudgeFree_of_find links y hj]
    -- marking the judge free and unassigning leave the queue alone
    have hqueue : (s.1.release id y j).queue = s.1.queue := by
      unfold Registry.release
      dsimp only
      split <;> split <;> rfl
    exact fromQueue_trans s (s.1.release id y j, s.2) _ (fromQueue_of_queue hqueue rfl)
      (sendsQueued_offerWork id links _)

theorem sendsQueued_capabilityUpdate {id : JudgeId} {op : RegistryOp Unit}
    (update : CapabilityUpdate id op) : Keeps FromQueue op := by
  obtain ⟨g, -, run⟩ := update
  intro links s
  rw [run]
  split
  · exact fromQueue_trans s (s.1.modifyJudge id g, s.2) _ (fromQueue_of_queue rfl rfl)
      (sendsQueued_offerWork id links _)
  · exact fromQueue_refl s

end RegistryOp

namespace Call

/-- Every submission command a call sends carries a request that was waiting when the call
began, or the request the call offers. -/
theorem run_sends (c : Call) (links : Links) (r : Registry) :
    ∀ e ∈ (c.run links r).2, ∀ q, e.command = .submit q →
      q ∈ r.queue.toList ∨ ∃ tie, c = .dispatch q tie := by
  -- for every call but an offer, sends from the start come from the queue of the start
  have hstart : ∀ {α : Type} (op : RegistryOp α), RegistryOp.Keeps RegistryOp.FromQueue op →
      ∀ e ∈ (op.runOn links (r, [])).2.2, ∀ q, e.command = .submit q → q ∈ r.queue.toList := by
    intro α op hop e he q hcmd
    obtain ⟨-, new, ho, hs⟩ := hop links (r, [])
    rw [ho, List.nil_append] at he
    exact hs e he q hcmd
  intro e he q hcmd
  cases c with
  | register name tier ps es d link =>
    exact .inl (hstart _ (RegistryOp.sendsQueued_register _) e he q hcmd)
  | dispatch req tie =>
    obtain ⟨new, ho, hs⟩ := RegistryOp.dispatch_sends req tie links (r, [])
    change e ∈ ((RegistryOp.dispatch req tie).runOn links (r, [])).2.2 at he
    rw [ho, List.nil_append] at he
    exact (hs e he q hcmd).imp_right fun same => ⟨tie, by rw [same]⟩
  | abort s => exact .inl (hstart _ (RegistryOp.sendsQueued_abort s) e he q hcmd)
  | disconnect name force =>
    refine .inl (hstart _ ?_ e he q hcmd)
    intro links s
    simp only [RegistryOp.disconnect, RegistryOp.runOn_bind, RegistryOp.runOn_registry]
    exact RegistryOp.fromQueue_sendAll _ (.disconnect force) (RegistryOp.disconnect_ne_submit force) links s
  | setDisabled name d => exact .inl (hstart _ (RegistryOp.sendsQueued_setDisabled name d) e he q hcmd)
  | leave id =>
    refine .inl (hstart _ ?_ e he q hcmd)
    intro links s
    rw [RegistryOp.runOn_leave]
    exact (RegistryOp.sendsQueued_cascade _).2.1 id links s
  | onJudgeFree id s => exact .inl (hstart _ (RegistryOp.sendsQueued_onJudgeFree id s) e he q hcmd)
  | setProblems id ps =>
    exact .inl (hstart _ (RegistryOp.sendsQueued_capabilityUpdate
      (RegistryOp.capabilityUpdate_setProblems id ps)) e he q hcmd)
  | setExecutors id es =>
    exact .inl (hstart _ (RegistryOp.sendsQueued_capabilityUpdate
      (RegistryOp.capabilityUpdate_setExecutors id es)) e he q hcmd)
  | setPing id load ping =>
    refine .inl (hstart _ ?_ e he q hcmd)
    intro links s
    rw [RegistryOp.runOn_setPing]
    exact RegistryOp.fromQueue_of_queue rfl rfl
  | disconnectAll force =>
    refine .inl (hstart _ ?_ e he q hcmd)
    intro links s
    simp only [RegistryOp.disconnectAll, RegistryOp.runOn_bind, RegistryOp.runOn_registry]
    exact RegistryOp.fromQueue_sendAll _ (.disconnect force) (RegistryOp.disconnect_ne_submit force) links s

end Call

/-! ## 6. What every public operation does to the known submissions -/

open RegistryOp in
/-- How each public operation, run from registry `r` with the links `links` open, changes
the set of submissions the registry knows, and where the requests it sends come from. -/
structure Registry.PendingSpec (r : Registry) (links : Links) : Prop where
  /-- Offering a request is a duplicate exactly when the registry knows its id, ... -/
  duplicate_iff : ∀ req tie, (exec (dispatch req tie) links r).1 = .duplicate ↔ r.tracks req.id = true
  /-- ... and otherwise adds its id, and nothing else. -/
  dispatch_tracks : ∀ req tie x, (exec (dispatch req tie) links r).2.1.tracks x =
    (r.tracks x || ((exec (dispatch req tie) links r).1 != .duplicate && req.id == x))
  /-- Aborting takes a submission out exactly when it was waiting. -/
  abort_tracks : ∀ y x, (exec (abort y) links r).2.1.tracks x = true ↔
    r.tracks x = true ∧ ¬(y = x ∧ r.isQueued y = true)
  /-- A judge reporting a submission done takes it out exactly when it was assigned to it. -/
  onJudgeFree_tracks : ∀ id y x, (exec (onJudgeFree id y) links r).2.1.tracks x = true ↔
    r.tracks x = true ∧ ¬(y = x ∧ r.assignedTo y = some id)
  /-- A judge leaving takes out exactly the submission it returns. -/
  leave_tracks : ∀ id x, (exec (leave id) links r).2.1.tracks x = true ↔
    r.tracks x = true ∧ (exec (leave id) links r).1 ≠ some x
  /-- Registering a judge takes out exactly the submissions it reports orphaned. -/
  register_tracks : ∀ name tier ps es d link x,
    (exec (register (Judge.fresh name tier ps es d link)) links r).2.1.tracks x = true ↔
      r.tracks x = true ∧ x ∉ (exec (register (Judge.fresh name tier ps es d link)) links r).1.2
  disconnect_tracks : ∀ name force x, (exec (disconnect name force) links r).2.1.tracks x = r.tracks x
  setDisabled_tracks : ∀ name d x, (exec (setDisabled name d) links r).2.1.tracks x = r.tracks x
  setProblems_tracks : ∀ id ps x, (exec (setProblems id ps) links r).2.1.tracks x = r.tracks x
  setExecutors_tracks : ∀ id es x, (exec (setExecutors id es) links r).2.1.tracks x = r.tracks x
  setPing_tracks : ∀ id load ping x, (exec (setPing id load ping) links r).2.1.tracks x = r.tracks x
  disconnectAll_tracks : ∀ force x, (exec (disconnectAll force) links r).2.1.tracks x = r.tracks x
  /-- A request sent to a judge is one that waited in the queue, or the one being offered. -/
  sends_from_queue : ∀ c : Call, ∀ e ∈ (c.run links r).2, ∀ q,
    e.command = .submit q → q ∈ r.queue.toList ∨ ∃ tie, c = .dispatch q tie

open RegistryOp in
/-- In every reachable registry, with any links open, each public operation changes the set
of known submissions only as `Registry.PendingSpec` says: no submission is lost or made up. -/
theorem pending_changes {r : Registry} (h : r.Reachable) (links : Links) : r.PendingSpec links := by
  have hc := h.consistent
  refine ⟨fun req tie => ?_, fun req tie x => ?_, fun y x => ?_, fun id y x => ?_, fun id x => ?_,
    fun name tier ps es d link x => ?_, fun name force x => ?_, fun name d x => ?_,
    fun id ps x => ?_, fun id es x => ?_, fun id load ping x => ?_, fun force x => ?_,
    fun c => Call.run_sends c links r⟩ <;> rw [exec_eq]
  · exact (dispatch_pending req tie links (r, []) hc).1
  · exact (dispatch_pending req tie links (r, []) hc).2 x
  · exact abort_pending y links (r, []) hc x
  · exact onJudgeFree_pending id y links (r, []) hc x
  · exact leave_pending id links (r, []) hc x
  · exact register_pending _ rfl links (r, []) hc x
  · rw [runOn_disconnect_registry]
  · exact (keepsPending_setDisabled name d links (r, []) hc).2 x
  · exact (keepsPending_capabilityUpdate (capabilityUpdate_setProblems id ps) links (r, []) hc).2 x
  · exact (keepsPending_capabilityUpdate (capabilityUpdate_setExecutors id es) links (r, []) hc).2 x
  · exact (keepsPending_setPing id load ping links (r, []) hc).2 x
  · rw [runOn_disconnectAll_registry]

/-- From the registry a judge has just joined, with every link open. -/
theorem pending_changes_after_register :
    Registry.Reachable
        ((Call.register "a" 0 ["aplusb"] ["PY3"] false 1).run (fun _ => true) Registry.empty).1 ∧
      Registry.PendingSpec
        ((Call.register "a" 0 ["aplusb"] ["PY3"] false 1).run (fun _ => true) Registry.empty).1
        (fun _ => true) := by
  have h := Registry.Reachable.call (Call.register "a" 0 ["aplusb"] ["PY3"] false 1) (fun _ => true)
    Registry.Reachable.empty
  exact ⟨h, pending_changes h (fun _ => true)⟩

end JudgeRelay
