import JudgeRelay.Proofs.Registry.Consistency
import JudgeRelay.Proofs.Registry.Tiers
import JudgeRelay.Proofs.Queue.Order

/-!
# Interactive work never waits beside an idle judge

A request below the rejudge bands is never held back for reservation: dispatch withholds only
rejudges, and a judge offered work reads the queue lowest band first, so it reaches every
interactive request it can grade before the reservation could stop it. This module proves
that in every reachable registry no free judge of the serving tier could take a waiting
interactive request (`interactive_work_never_waits`).

The statement fails inside the dispatch cascade: when the serving tier widens, its free
judges are offered work one after another, and those not yet offered may well be able to take
waiting work. So the invariant carries the judges still to be offered work
(`Registry.Conserves r pending`), and every step of the cascade takes one off that list.

The same does not hold of rejudges beside a pool that should not reserve a judge:
`reservation_withholds_from_capable_pool` is a registry where a rejudge waits while a free
judge of the serving tier could take it and two judges of that tier are free.
-/

namespace JudgeRelay

/-! ## 1. The queue stays well formed -/

@[simp] theorem Registry.release_queue (r : Registry) (id : JudgeId) (x : SubmissionId) (j : Judge) :
    (r.release id x j).queue = r.queue := by
  unfold Registry.release
  dsimp only
  split <;> split <;> rfl

namespace RegistryOp

variable {α : Type}

/-- Every run of `op` keeps the queue well formed. -/
def KeepsQueue (op : RegistryOp α) : Prop :=
  Keeps (fun s s' => s.1.queue.WellFormed → s'.1.queue.WellFormed) op

theorem keepsQueue_refl (s : Registry × Outbox) : s.1.queue.WellFormed → s.1.queue.WellFormed := id

theorem keepsQueue_trans (s₁ s₂ s₃ : Registry × Outbox)
    (h₁ : s₁.1.queue.WellFormed → s₂.1.queue.WellFormed)
    (h₂ : s₂.1.queue.WellFormed → s₃.1.queue.WellFormed) :
    s₁.1.queue.WellFormed → s₃.1.queue.WellFormed := h₂ ∘ h₁

theorem queue_cascade (f : Nat) :
    (∀ id, KeepsQueue (handleFree id f)) ∧ (∀ id, KeepsQueue (remove id f)) ∧
      KeepsQueue (updateMinTier f) := by
  apply Keeps.cascade keepsQueue_refl keepsQueue_trans
  · exact fun s _ _ req _ hwf => hwf.remove req.id
  · intro s id hwf
    rw [Registry.drop_queue]
    exact hwf
  · exact fun _ hwf => hwf

theorem keepsQueue_offerWork (id : JudgeId) : KeepsQueue (offerWork id) := by
  intro links s hwf
  rw [runOn_offerWork]
  exact (queue_cascade _).1 id links s hwf

theorem keepsQueue_dispatchLoop (req : Request) (tie : TieBreak) (f : Nat) : KeepsQueue (dispatchLoop req tie f) := by
  induction f generalizing tie with
  | zero =>
    intro links s hwf
    rw [dispatchLoop_zero]
    exact hwf.push req
  | succ f ih =>
    intro links s hwf
    rw [dispatchLoop_succ]
    rcases Registry.pickLeast (tie 0) (s.1.eligible req) with _ | j
    · exact hwf.push req
    · dsimp only
      split
      · exact hwf
      · exact ih _ links _ ((queue_cascade _).2.1 j.id links s hwf)

theorem keepsQueue_capabilityUpdate {id : JudgeId} {op : RegistryOp Unit}
    (update : CapabilityUpdate id op) : KeepsQueue op := by
  obtain ⟨g, -, run⟩ := update
  intro links s hwf
  rw [run]
  split
  · exact keepsQueue_offerWork id links _ hwf
  · exact hwf

theorem keepsQueue_evict (acc : List SubmissionId) (x : JudgeId) : KeepsQueue (evict acc x) := by
  intro links s hwf
  rw [runOn_evict]
  dsimp only
  rcases s.1.find? x with _ | old
  · exact (queue_cascade _).2.1 x links s hwf
  · apply (queue_cascade _).2.1 x links _
    rw [runOn_send_registry]
    exact hwf

theorem keepsQueue_register (j : Judge) : KeepsQueue (register j) := by
  intro links s hwf
  rw [runOn_register]
  have hevict := Keeps.foldlM keepsQueue_refl keepsQueue_trans keepsQueue_evict
    ((s.1.judges.filter (·.name == j.name)).map (·.id)) [] links s hwf
  exact (queue_cascade _).1 _ links _ ((queue_cascade _).2.2 links _ hevict)

theorem keepsQueue_dispatch (req : Request) (tie : TieBreak) : KeepsQueue (dispatch req tie) := by
  intro links s hwf
  rw [runOn_dispatch]
  split
  · exact hwf
  · exact keepsQueue_dispatchLoop req tie _ links _ hwf

theorem keepsQueue_abort (x : SubmissionId) : KeepsQueue (abort x) := by
  intro links s hwf
  rw [runOn_abort]
  rcases s.1.assignedTo x with _ | id
  · exact hwf.remove x
  · dsimp only
    rcases s.1.find? id with _ | j
    · exact hwf
    · rw [runOn_send_registry]
      exact hwf

theorem keepsQueue_setDisabled (name : String) (d : Bool) : KeepsQueue (setDisabled name d) := by
  intro links s hwf
  rw [runOn_setDisabled]
  dsimp only
  split
  · exact hwf
  · have htier := (queue_cascade (s.1.markDisabled name d).fuel).2.2 links
      (s.1.markDisabled name d, s.2) hwf
    split
    · exact Keeps.forM keepsQueue_refl keepsQueue_trans keepsQueue_offerWork _ links _ htier
    · exact htier

theorem keepsQueue_leave (id : JudgeId) : KeepsQueue (leave id) := by
  intro links s hwf
  rw [runOn_leave]
  exact (queue_cascade _).2.1 id links _ hwf

theorem keepsQueue_onJudgeFree (id : JudgeId) (x : SubmissionId) : KeepsQueue (onJudgeFree id x) := by
  intro links s hwf
  rcases found : s.1.find? id with _ | j
  · rw [runOn_onJudgeFree_of_none links x found]
    exact hwf
  · rw [runOn_onJudgeFree_of_find links x found]
    apply keepsQueue_offerWork id links _
    rw [Registry.release_queue]
    exact hwf

theorem keepsQueue_setPing (id : JudgeId) (load : Option Binary64) (ping : Binary64) :
    KeepsQueue (setPing id load ping) := by
  intro links s hwf
  rw [runOn_setPing]
  exact hwf

end RegistryOp

/-- Every public call keeps the queue well formed. -/
theorem Call.run_queue (c : Call) (links : Links) {r : Registry} (hwf : r.queue.WellFormed) :
    (c.run links r).1.queue.WellFormed := by
  open RegistryOp in
  cases c with
  | register name tier ps es d link => exact keepsQueue_register _ links (r, []) hwf
  | dispatch req tie => exact keepsQueue_dispatch req tie links (r, []) hwf
  | abort x => exact keepsQueue_abort x links (r, []) hwf
  | disconnect name force =>
    show ((RegistryOp.disconnect name force).runOn links (r, [])).2.1.queue.WellFormed
    rw [runOn_disconnect_registry]
    exact hwf
  | setDisabled name d => exact keepsQueue_setDisabled name d links (r, []) hwf
  | leave id => exact keepsQueue_leave id links (r, []) hwf
  | onJudgeFree id x => exact keepsQueue_onJudgeFree id x links (r, []) hwf
  | setProblems id ps =>
    exact keepsQueue_capabilityUpdate (capabilityUpdate_setProblems id ps) links (r, []) hwf
  | setExecutors id es =>
    exact keepsQueue_capabilityUpdate (capabilityUpdate_setExecutors id es) links (r, []) hwf
  | setPing id load ping => exact keepsQueue_setPing id load ping links (r, []) hwf
  | disconnectAll force =>
    show ((RegistryOp.disconnectAll force).runOn links (r, [])).2.1.queue.WellFormed
    rw [runOn_disconnectAll_registry]
    exact hwf

theorem Registry.Reachable.queue_wellFormed {r : Registry} (h : r.Reachable) :
    r.queue.WellFormed := by
  induction h with
  | empty => exact PendingQueue.wellFormed_empty
  | call c links _ ih => exact Call.run_queue c links ih

/-! ## 2. Idle judges and waiting interactive work -/

namespace Registry

/-- A free judge of the serving tier: one that dispatch would give work to. -/
def Idle (r : Registry) (j : Judge) : Prop :=
  j ∈ r.judges ∧ j.isAvailable = true ∧ r.minTier = some j.tier

/-- Interactive work that judge `j` can grade waits: a request below the rejudge bands. -/
def Starves (r : Registry) (j : Judge) : Prop :=
  ∃ q ∈ r.queue.toList, q.priority < Priority.rejudge ∧ j.accepts q = true

/-- Every idle judge that could take waiting interactive work is among `pending`, the judges
still to be offered work. -/
def Conserves (r : Registry) (pending : List JudgeId) : Prop :=
  ∀ j, r.Idle j → r.Starves j → j.id ∈ pending

variable {r : Registry} {S : List JudgeId} {id : JudgeId}

theorem Conserves.mono (h : r.Conserves S) {T : List JudgeId} (hsub : ∀ i ∈ S, i ∈ T) :
    r.Conserves T :=
  fun j idle starves => hsub _ (h j idle starves)

theorem conserves_of_nil (h : r.judges = []) : r.Conserves S := by
  intro j idle _
  have member := idle.1
  rw [h] at member
  exact absurd member List.not_mem_nil

/-- Every idle judge is among the free judges of the pool. -/
theorem conserves_freeInPool (r : Registry) : r.Conserves r.freeInPool := by
  intro j idle _
  obtain ⟨member, available, tier⟩ := idle
  obtain ⟨enabled, free⟩ := isAvailable_iff.1 available
  refine List.mem_map.2 ⟨j, List.mem_filter.2 ⟨List.mem_filter.2 ⟨member, ?_⟩, ?_⟩, rfl⟩
  · simp [tier, enabled]
  · simp [Judge.isWorking, free]

/-- A judge that can grade a waiting request below the rejudge bands is always given some
request: no rejudge, where the reservation may stop the search, is read before it. -/
theorem firstFor_isSome {j : Judge} {reserve : Bool} {q : Request}
    (interactive : q.priority < Priority.rejudge) (accepts : j.accepts q = true) :
    ∀ {l : List Request}, l.Pairwise (fun a b => b.priority < Priority.rejudge →
      a.priority < Priority.rejudge) → q ∈ l → (firstFor j reserve l).isSome := by
  intro l
  induction l with
  | nil => exact fun _ member => absurd member List.not_mem_nil
  | cons p rest ih =>
    intro sorted member
    have before : p.priority < Priority.rejudge := by
      rcases List.mem_cons.1 member with rfl | later
      · exact interactive
      · exact List.rel_of_pairwise_cons sorted later interactive
    have goesOn : ¬((decide (p.priority ≥ Priority.rejudge) && reserve) = true) := by
      simp only [Bool.and_eq_true, decide_eq_true_eq, not_and]
      intro stop
      omega
    unfold firstFor
    rw [if_neg goesOn]
    split
    · rfl
    · next refuses =>
      have later : q ∈ rest := by
        rcases List.mem_cons.1 member with rfl | later
        · exact absurd accepts refuses
        · exact later
      exact ih (List.Pairwise.of_cons sorted) later

/-- An idle judge that could take waiting interactive work is offered some. -/
theorem offer_isSome (hc : r.Consistent) (hwf : r.queue.WellFormed) {j : Judge} (idle : r.Idle j)
    (starves : r.Starves j) : (r.offer j.id).isSome := by
  obtain ⟨member, available, tier⟩ := idle
  obtain ⟨q, waiting, interactive, accepts⟩ := starves
  have found : r.find? j.id = some j := hc.find?_eq_some.2 ⟨member, rfl⟩
  have given : (firstFor j r.shouldReserve r.queue.toList).isSome :=
    firstFor_isSome interactive accepts (PendingQueue.toList_interactive_first hwf) waiting
  simp only [offer, found, available, Bool.not_true, Bool.false_eq_true, if_false, tier,
    gt_iff_lt, Nat.lt_irrefl, Option.isSome_map]
  exact given

theorem Conserves.of_offer_none (h : r.Conserves (id :: S)) (hc : r.Consistent)
    (hwf : r.queue.WellFormed) (none : r.offer id = none) : r.Conserves S := by
  intro j idle starves
  rcases List.mem_cons.1 (h j idle starves) with same | rest
  · have offered := offer_isSome hc hwf idle starves
    rw [same, none] at offered
    cases offered
  · exact rest

theorem Conserves.of_absent (h : r.Conserves (id :: S)) (absent : r.find? id = none) :
    r.Conserves S := by
  intro j idle starves
  rcases List.mem_cons.1 (h j idle starves) with same | rest
  · exact absurd same (find?_eq_none.1 absent j idle.1)
  · exact rest

end Registry

/-! ## 3. Plain changes of the registry -/

namespace Registry

variable {r : Registry} {S : List JudgeId} {id : JudgeId}

theorem mem_modifyJudge {g : Judge → Judge} (hg : ∀ j, (g j).id = j.id) {k : Judge}
    (member : k ∈ (r.modifyJudge id g).judges) :
    (k.id ≠ id ∧ k ∈ r.judges) ∨ (k.id = id ∧ ∃ j ∈ r.judges, k = g j) := by
  obtain ⟨j, hj, rfl⟩ := List.mem_map.1 member
  by_cases same : j.id = id
  · right
    simp only [same, beq_self_eq_true, if_true]
    exact ⟨(hg j).trans same, j, hj, rfl⟩
  · left
    simp only [beq_iff_eq, same, if_false]
    exact ⟨same, hj⟩

/-- An idle judge after a change of judge `id` is another judge, idle before. -/
theorem idle_of_modifyJudge {g : Judge → Judge} (hg : ∀ j, (g j).id = j.id) {k : Judge}
    (idle : (r.modifyJudge id g).Idle k) (other : k.id ≠ id) : r.Idle k := by
  obtain ⟨member, available, tier⟩ := idle
  rcases mem_modifyJudge hg member with ⟨-, old⟩ | ⟨same, -⟩
  · exact ⟨old, available, tier⟩
  · exact absurd same other

/-- A judge given work is not idle. -/
theorem idle_of_setWorking {x : SubmissionId} {k : Judge}
    (idle : (r.modifyJudge id fun j => { j with working := some x }).Idle k) :
    k.id ≠ id ∧ r.Idle k := by
  have other : k.id ≠ id := by
    intro same
    obtain ⟨member, available, -⟩ := idle
    rcases mem_modifyJudge (g := fun j => { j with working := some x }) (fun _ => rfl) member
      with ⟨differ, -⟩ | ⟨-, j, -, rfl⟩
    · exact differ same
    · simp [isAvailable_iff] at available
  exact ⟨other, idle_of_modifyJudge (g := fun j => { j with working := some x }) (fun _ => rfl)
    idle other⟩

theorem starves_of_sub {r' : Registry} {k : Judge}
    (hsub : ∀ q ∈ r'.queue.toList, q ∈ r.queue.toList) (starves : r'.Starves k) : r.Starves k := by
  obtain ⟨q, waiting, interactive, accepts⟩ := starves
  exact ⟨q, hsub q waiting, interactive, accepts⟩

@[simp] theorem drop_minTier (r : Registry) (id : JudgeId) : (r.drop id).minTier = r.minTier := by
  unfold Registry.drop
  split
  · rfl
  · split <;> rfl

theorem Conserves.hand (h : r.Conserves (id :: S)) (req : Request) : (r.hand id req).Conserves S := by
  intro k idle starves
  obtain ⟨other, idle₀⟩ := idle_of_setWorking (x := req.id) idle
  have starves₀ := starves_of_sub (fun _ => PendingQueue.mem_toList_remove) starves
  exact (List.mem_cons.1 (h k idle₀ starves₀)).resolve_left other

theorem Conserves.give (h : r.Conserves S) (id : JudgeId) (req : Request) :
    (r.give id req).Conserves S := by
  intro k idle starves
  exact h k (idle_of_setWorking (x := req.id) idle).2 starves

theorem Conserves.drop (h : r.Conserves (id :: S)) : (r.drop id).Conserves S := by
  intro k idle starves
  obtain ⟨member, available, tier⟩ := idle
  rw [drop_judges] at member
  obtain ⟨old, differ⟩ := List.mem_filter.1 member
  have other : k.id ≠ id := by simpa using differ
  have starves₀ : r.Starves k := by
    obtain ⟨q, waiting, rest⟩ := starves
    rw [drop_queue] at waiting
    exact ⟨q, waiting, rest⟩
  rw [drop_minTier] at tier
  exact (List.mem_cons.1 (h k ⟨old, available, tier⟩ starves₀)).resolve_left other

theorem Conserves.dequeue (h : r.Conserves S) (x : SubmissionId) : (r.dequeue x).Conserves S :=
  fun k idle starves => h k idle (starves_of_sub (fun _ => PendingQueue.mem_toList_remove) starves)

/-- A changed judge may have become idle, or able to take waiting work. -/
theorem Conserves.modifyJudge (h : r.Conserves S) {g : Judge → Judge} (hg : ∀ j, (g j).id = j.id) :
    (r.modifyJudge id g).Conserves (id :: S) := by
  intro k idle starves
  by_cases same : k.id = id
  · exact List.mem_cons.2 (.inl same)
  · exact List.mem_cons_of_mem _ (h k (idle_of_modifyJudge hg idle same) starves)

/-- A change of a judge's load and round trip leaves who is idle and what it can grade. -/
theorem Conserves.modifyJudge_same (h : r.Conserves S) {g : Judge → Judge}
    (hg : ∀ j, (g j).id = j.id ∧ (g j).isAvailable = j.isAvailable ∧ (g j).tier = j.tier ∧
      (g j).accepts = j.accepts) :
    (r.modifyJudge id g).Conserves S := by
  intro k idle starves
  obtain ⟨member, available, tier⟩ := idle
  rcases mem_modifyJudge (fun j => (hg j).1) member with ⟨-, old⟩ | ⟨-, j, old, rfl⟩
  · exact h k ⟨old, available, tier⟩ starves
  · obtain ⟨sameId, sameAvailable, sameTier, sameAccepts⟩ := hg j
    rw [sameId]
    refine h j ⟨old, sameAvailable ▸ available, sameTier ▸ tier⟩ ?_
    obtain ⟨q, waiting, interactive, accepts⟩ := starves
    exact ⟨q, waiting, interactive, sameAccepts ▸ accepts⟩

theorem release_judges (r : Registry) (id : JudgeId) (x : SubmissionId) (j : Judge) :
    (r.release id x j).judges = (if j.working == some x then
      r.modifyJudge id (fun j => { j with working := none }) else r).judges := by
  unfold Registry.release
  dsimp only
  split <;> split <;> rfl

theorem release_minTier (r : Registry) (id : JudgeId) (x : SubmissionId) (j : Judge) :
    (r.release id x j).minTier = r.minTier := by
  unfold Registry.release
  dsimp only
  split <;> split <;> rfl

/-- A judge done with a submission may have become idle. -/
theorem Conserves.release (h : r.Conserves S) (x : SubmissionId) (j : Judge) :
    (r.release id x j).Conserves (id :: S) := by
  intro k idle starves
  by_cases same : k.id = id
  · exact List.mem_cons.2 (.inl same)
  · obtain ⟨member, available, tier⟩ := idle
    rw [release_judges] at member
    rw [release_minTier] at tier
    unfold Starves at starves
    rw [release_queue] at starves
    have old : k ∈ r.judges := by
      split at member
      · rcases mem_modifyJudge (g := fun j => { j with working := none }) (fun _ => rfl) member
          with ⟨-, old⟩ | ⟨same', -⟩
        · exact old
        · exact absurd same' same
      · exact member
    exact List.mem_cons_of_mem _ (h k ⟨old, available, tier⟩ starves)

/-- A new judge may be idle. -/
theorem Conserves.enroll (h : r.Conserves S) (j : Judge) : (r.enroll j).Conserves (r.nextId :: S) := by
  intro k idle starves
  obtain ⟨member, available, tier⟩ := idle
  rcases List.mem_append.1 member with old | new
  · exact List.mem_cons_of_mem _ (h k ⟨old, available, tier⟩ starves)
  · rw [List.mem_singleton.1 new]
    exact List.mem_cons_self ..

/-- Judges of a name that are enabled may have become idle; disabled ones are not. -/
theorem Conserves.markDisabled (h : r.Conserves S) (name : String) (d : Bool) :
    (r.markDisabled name d).Conserves
      ((if d then [] else (r.judges.filter (·.name == name)).map (·.id)) ++ S) := by
  intro k idle starves
  obtain ⟨member, available, tier⟩ := idle
  obtain ⟨j, old, rfl⟩ := List.mem_map.1 member
  by_cases named : j.name = name
  · have enabled := (isAvailable_iff.1 available).1
    simp only [named, beq_self_eq_true, if_true] at enabled ⊢
    subst enabled
    simp only [Bool.false_eq_true, if_false]
    exact List.mem_append_left _ (List.mem_map.2 ⟨j, List.mem_filter.2 ⟨old, by simpa using named⟩, rfl⟩)
  · simp only [beq_iff_eq, named, if_false] at available tier starves ⊢
    exact List.mem_append_right _ (h j ⟨old, available, tier⟩ starves)

end Registry

namespace Registry

variable {r : Registry} {S : List JudgeId}

/-- A request that waits while no idle judge could take it, if it is interactive. -/
theorem Conserves.enqueue (h : r.Conserves S) (hwf : r.queue.WellFormed) {req : Request}
    (unserved : req.priority < Priority.rejudge → ∀ j, r.Idle j → j.accepts req = false) :
    (r.enqueue req).Conserves S := by
  intro k idle starves
  obtain ⟨q, waiting, interactive, accepts⟩ := starves
  rcases PendingQueue.mem_toList_push hwf waiting with old | rfl
  · exact h k idle ⟨q, old, interactive, accepts⟩
  · rw [unserved interactive k idle] at accepts
    cases accepts

theorem widens_self (t : Option Nat) : widens t t = false := by
  cases t <;> simp [widens]

theorem refresh_eq_self (h : r.minTier = r.lowestTier) : r.refresh = r := by
  unfold refresh
  rw [← h]

/-- Recomputing a tier that does not widen: judges idle at the new tier were idle before, or
lie below the old tier, where only judges still to be offered work may be. -/
theorem conserves_refresh (h : r.Conserves S) (narrows : widens r.minTier r.lowestTier = false)
    (lower : ∀ k ∈ r.judges, k.disabled = false → ∀ t, r.minTier = some t → k.tier < t → k.id ∈ S) :
    r.refresh.Conserves S := by
  intro k idle starves
  obtain ⟨member, available, tier⟩ := idle
  have lowest : r.lowestTier = some k.tier := tier
  rcases old : r.minTier with _ | t
  · rw [old, lowest] at narrows
    cases narrows
  · rw [old, lowest] at narrows
    have below : k.tier ≤ t := by simpa [widens] using narrows
    rcases Nat.lt_or_eq_of_le below with lt | rfl
    · exact lower k member (isAvailable_iff.1 available).1 t old lt
    · exact h k ⟨member, available, old⟩ starves

end Registry

/-! ## 4. The dispatch cascade -/

namespace RegistryOp

/-- What offering work relies on: a consistent registry whose kept tier is fresh, whose
commands sent all fit, and whose queue is well formed. -/
structure Sound (s : Registry × Outbox) : Prop where
  consistent : s.1.Consistent
  served : Served s
  queue : s.1.queue.WellFormed

section Sound

variable {links : Links} {s : Registry × Outbox}

theorem sound_handleFree {id : JudgeId} {f : Nat} (hs : Sound s)
    (fuel : 3 * s.1.judges.length ≤ f) : Sound ((handleFree id f).runOn links s).2 :=
  ⟨(consistent_cascade f).1 id links s hs.consistent, (served_cascade f).1 id links s hs.served fuel,
    (queue_cascade f).1 id links s hs.queue⟩

theorem sound_remove {id : JudgeId} {f : Nat} (hs : Sound s)
    (fuel : 3 * s.1.judges.length ≤ f + 1) : Sound ((remove id f).runOn links s).2 :=
  ⟨(consistent_cascade f).2.1 id links s hs.consistent,
    (served_cascade f).2.1 id links s hs.served fuel, (queue_cascade f).2.1 id links s hs.queue⟩

theorem sound_updateMinTier {f : Nat} (hc : s.1.Consistent) (fits : ∀ e ∈ s.2, e.Fits)
    (hwf : s.1.queue.WellFormed) (fuel : 3 * s.1.judges.length + 1 ≤ f) :
    Sound ((updateMinTier f).runOn links s).2 :=
  ⟨(consistent_cascade f).2.2 links s hc, (served_cascade f).2.2 links s fits fuel,
    (queue_cascade f).2.2 links s hwf⟩

end Sound

/-- Offering work to judge `id` at fuel `f`, with fuel enough, takes it off the judges still
to be offered work. -/
def HandleConserves (f : Nat) : Prop :=
  ∀ id S links s, Sound s → 3 * s.1.judges.length ≤ f → s.1.Conserves (id :: S) →
    ((handleFree id f).runOn links s).2.1.Conserves S

/-- Removing judge `id` at fuel `f`, with fuel enough, takes it off the judges still to be
offered work. -/
def RemoveConserves (f : Nat) : Prop :=
  ∀ id S links s, Sound s → 3 * s.1.judges.length ≤ f + 1 → s.1.Conserves (id :: S) →
    ((remove id f).runOn links s).2.1.Conserves S

/-- Recomputing the tier at fuel `f`, with fuel enough, offers work to the whole pool when
the tier widens, and otherwise keeps what held of the recomputed tier. -/
def TierConserves (f : Nat) : Prop :=
  ∀ S links s, s.1.Consistent → (∀ e ∈ s.2, e.Fits) → s.1.queue.WellFormed →
    3 * s.1.judges.length + 1 ≤ f →
    (Registry.widens s.1.minTier s.1.lowestTier = false → s.1.refresh.Conserves S) →
    ((updateMinTier f).runOn links s).2.1.Conserves S

/-- Settling after a live judge is dropped: dropping a judge never lowers the tier, so the
recomputed tier either widens, which offers work to its whole pool, or stays; then a judge
left alone in the pool is offered work. -/
theorem conserves_settle {f : Nat} (hTier : TierConserves f) (hHandle : HandleConserves f)
    {id : JudgeId} {S : List JudgeId} {links : Links} {s : Registry × Outbox} {j : Judge}
    (hs : Sound s) (found : s.1.find? id = some j) (fuel : 3 * s.1.judges.length ≤ f + 2)
    (h : s.1.Conserves (id :: S)) : ((settle f).runOn links (s.1.drop id, s.2)).2.1.Conserves S := by
  have smaller := Registry.drop_length_lt found
  have hc : (s.1.drop id).Consistent := hs.consistent.drop id
  have hwf : (s.1.drop id).queue.WellFormed := by
    rw [Registry.drop_queue]
    exact hs.queue
  -- no judge left is below the old tier, which was fresh
  have notBelow : ∀ k ∈ (s.1.drop id).judges, k.disabled = false → ∀ t,
      (s.1.drop id).minTier = some t → k.tier < t → k.id ∈ S := by
    intro k member enabled t tier lower
    rw [Registry.drop_judges] at member
    rw [Registry.drop_minTier] at tier
    exact absurd (hs.served.1.le_tier tier (List.mem_filter.1 member).1 enabled) (Nat.not_le.2 lower)
  rw [runOn_settle]
  dsimp only
  have tier := hTier S links (s.1.drop id, s.2) hc hs.served.2 hwf (by dsimp only; omega)
    fun narrows => Registry.conserves_refresh h.drop narrows notBelow
  have sound : Sound ((updateMinTier f).runOn links (s.1.drop id, s.2)).2 :=
    sound_updateMinTier hc hs.served.2 hwf (by dsimp only; omega)
  have shrink := (shrinking_updateMinTier f links (s.1.drop id, s.2)).1.length_le
  dsimp only at shrink
  generalize ((updateMinTier f).runOn links (s.1.drop id, s.2)).2 = s₁ at tier sound shrink ⊢
  rcases s₁.1.pool with _ | ⟨only, _ | ⟨k, rest⟩⟩
  · exact tier
  · dsimp only
    split
    · exact hHandle only.id S links s₁ sound (by omega)
        (tier.mono fun i hi => List.mem_cons_of_mem _ hi)
    · exact tier
  · exact tier

end RegistryOp

namespace RegistryOp

/-- The dispatch cascade, with fuel enough, keeps every idle judge that could take waiting
interactive work among the judges still to be offered work, and takes off that list each
judge it offers work to. -/
theorem conserves_cascade (f : Nat) : HandleConserves f ∧ RemoveConserves f ∧ TierConserves f := by
  induction f with
  | zero =>
    refine ⟨fun id S links s _ fuel _ => ?_, fun id S links s _ fuel _ => ?_,
      fun S links s _ _ _ fuel _ => ?_⟩
    · -- without fuel only a registry with no judge is in budget
      have empty : s.1.judges = [] := List.eq_nil_of_length_eq_zero (by omega)
      rw [handleFree_zero]
      exact Registry.conserves_of_nil empty
    · have empty : s.1.judges = [] := List.eq_nil_of_length_eq_zero (by omega)
      have absent : s.1.find? id = none :=
        Registry.find?_eq_none.2 fun j member => by simp [empty] at member
      rw [remove_zero, Registry.drop_eq_self absent]
      exact Registry.conserves_of_nil empty
    · omega
  | succ f ih =>
    obtain ⟨ihHandle, ihRemove, ihTier⟩ := ih
    refine ⟨fun id S links s hs fuel h => ?_, fun id S links s hs fuel h => ?_,
      fun S links s hc fits hwf fuel h => ?_⟩
    · rw [handleFree_succ]
      rcases offered : s.1.offer id with _ | ⟨j, req⟩
      · exact h.of_offer_none hs.consistent hs.queue offered
      · dsimp only
        split
        · exact h.hand req
        · exact ihRemove id S links s hs fuel h
    · rw [remove_succ]
      rcases found : s.1.find? id with _ | j
      · exact h.of_absent found
      · exact conserves_settle ihTier ihHandle hs found fuel h
    · rw [updateMinTier_succ]
      split
      · next same =>
        have fresh : s.1.minTier = s.1.lowestTier := beq_iff_eq.1 same
        have kept := h (by rw [fresh]; exact Registry.widens_self _)
        rwa [Registry.refresh_eq_self fresh] at kept
      · split
        · -- the tier widened: each free judge of the new pool is offered work in turn
          have start : Sound (s.1.refresh, s.2) :=
            ⟨hc.refresh, ⟨Registry.fresh_refresh s.1, fits⟩, hwf⟩
          have done := forM_invariant links
            (fun rest s => Sound s ∧ 3 * s.1.judges.length ≤ f ∧ s.1.Conserves rest)
            (fun x xs s step => ⟨sound_handleFree step.1 step.2.1,
              Nat.le_trans (Nat.mul_le_mul_left 3 (shrinking_handleFree x f links s).1.length_le)
                step.2.1,
              ihHandle x xs links s step.1 step.2.1 step.2.2⟩)
            _ (s.1.refresh, s.2)
            ⟨start, Nat.le_of_add_le_add_right fuel, Registry.conserves_freeInPool _⟩
          exact done.2.2.mono fun _ member => absurd member List.not_mem_nil
        · next narrows => exact h (by simpa using narrows)

end RegistryOp

/-! ## 5. Every public operation -/

namespace Registry

/-- With no eligible judge, no idle judge can grade an interactive request: only rejudges are
withheld. -/
theorem not_accepts_of_eligible_nil {r : Registry} {req : Request} (none : r.eligible req = [])
    (interactive : req.priority < Priority.rejudge) {j : Judge} (idle : r.Idle j) :
    j.accepts req = false := by
  obtain ⟨member, available, tier⟩ := idle
  cases accepts : j.accepts req
  · rfl
  · have chosen : j ∈ (r.judges.filter fun k => some k.tier == r.minTier && k.accepts req).filter
        (·.isAvailable) := by
      simp [member, tier, accepts, available]
    unfold eligible at none
    dsimp only at none
    split at none
    · next withheld =>
      simp only [Bool.and_eq_true, decide_eq_true_eq] at withheld
      omega
    · rw [none] at chosen
      exact absurd chosen List.not_mem_nil

end Registry

namespace RegistryOp

variable {α : Type} {links : Links} {s : Registry × Outbox} {S : List JudgeId}

/-- Every run of `op` from a sound state in which no idle judge could take waiting
interactive work leaves a registry with none either. -/
def KeepsConserving (op : RegistryOp α) : Prop :=
  ∀ links s, Sound s → s.1.Conserves [] → (op.runOn links s).2.1.Conserves []

-- The public operations start the cascade with `Registry.fuel`, above the three times the
-- number of judges it needs.
theorem conserves_handleFree {id : JudgeId} (hs : Sound s) (h : s.1.Conserves (id :: S)) :
    ((handleFree id s.1.fuel).runOn links s).2.1.Conserves S :=
  (conserves_cascade _).1 id S links s hs (Nat.le_of_succ_le s.1.fuel_ample) h

theorem conserves_remove {id : JudgeId} (hs : Sound s) (h : s.1.Conserves (id :: S)) :
    ((remove id s.1.fuel).runOn links s).2.1.Conserves S :=
  (conserves_cascade _).2.1 id S links s hs
    (Nat.le_succ_of_le (Nat.le_of_succ_le s.1.fuel_ample)) h

theorem sound_remove_fuel {id : JudgeId} (hs : Sound s) :
    Sound ((remove id s.1.fuel).runOn links s).2 :=
  sound_remove hs (Nat.le_succ_of_le (Nat.le_of_succ_le s.1.fuel_ample))

theorem sound_send {l : LinkId} {c : Command} (hc : ∀ q, c ≠ .submit q) (hs : Sound s) :
    Sound ((send l c).runOn links s).2 := by
  refine ⟨?_, served_send l c hc links hs.served, ?_⟩
  · rw [runOn_send_registry]
    exact hs.consistent
  · rw [runOn_send_registry]
    exact hs.queue

theorem conserves_offerWork (id : JudgeId) (hs : Sound s) (h : s.1.Conserves (id :: S)) :
    ((offerWork id).runOn links s).2.1.Conserves S := by
  rw [runOn_offerWork]
  exact conserves_handleFree hs h

theorem sound_offerWork {id : JudgeId} (hs : Sound s) : Sound ((offerWork id).runOn links s).2 := by
  rw [runOn_offerWork]
  exact sound_handleFree hs (Nat.le_of_succ_le s.1.fuel_ample)

/-- Removing a live judge leaves fewer judges. -/
theorem remove_length_lt {id : JudgeId} {j : Judge} (f : Nat) (found : s.1.find? id = some j) :
    ((remove id f).runOn links s).2.1.judges.length < s.1.judges.length := by
  have smaller := Registry.drop_length_lt found
  cases f with
  | zero =>
    rw [remove_zero]
    exact smaller
  | succ f =>
    rw [remove_succ, found]
    dsimp only
    exact Nat.lt_of_le_of_lt (shrinking_settle f links (s.1.drop id, s.2)).1.length_le smaller

/-- Offering a request: each judge that refuses it is removed, which leaves one judge fewer,
so the loop's fuel outlasts the judges; a request waits only when no judge is eligible, and
then no idle judge can grade it if it is interactive. -/
theorem conserves_dispatchLoop (req : Request) (tie : TieBreak) (f : Nat) :
    ∀ s : Registry × Outbox, Sound s → s.1.tracks req.id = false →
      s.1.judges.length + 1 ≤ f → s.1.Conserves [] →
      ((dispatchLoop req tie f).runOn links s).2.1.Conserves [] := by
  induction f generalizing tie with
  | zero => intro s _ _ fuel _; omega
  | succ f ih =>
    intro s hs unknown fuel h
    rw [dispatchLoop_succ]
    rcases chosen : Registry.pickLeast (tie 0) (s.1.eligible req) with _ | j
    · exact h.enqueue hs.queue fun interactive k idle =>
        Registry.not_accepts_of_eligible_nil (Registry.pickLeast_eq_none chosen) interactive idle
    · obtain ⟨member, -, -, -⟩ := Registry.mem_eligible (Registry.pickLeast_mem chosen)
      have found : s.1.find? j.id = some j := hs.consistent.find?_eq_some.2 ⟨member, rfl⟩
      dsimp only
      split
      · exact h.give j.id req
      · -- the judge that refused is removed; the request is offered again
        have forgets := (forgetting_cascade s.1.fuel).2.1 j.id links s
        have stillUnknown : ((remove j.id s.1.fuel).runOn links s).2.1.tracks req.id = false := by
          cases known : ((remove j.id s.1.fuel).runOn links s).2.1.tracks req.id
          · rfl
          · rw [forgets _ known] at unknown
            cases unknown
        have smaller : ((remove j.id s.1.fuel).runOn links s).2.1.judges.length <
            s.1.judges.length := remove_length_lt s.1.fuel found
        exact ih _ _ (sound_remove_fuel hs) stillUnknown (by omega)
          (conserves_remove hs (h.mono fun _ member => absurd member List.not_mem_nil))

theorem keepsConserving_dispatch (req : Request) (tie : TieBreak) : KeepsConserving (dispatch req tie) := by
  intro links s hs h
  rw [runOn_dispatch]
  split
  · exact h
  · next known =>
    exact conserves_dispatchLoop req tie _ s hs (by simpa using known) (Nat.le_refl _) h

end RegistryOp

namespace RegistryOp

variable {links : Links} {s : Registry × Outbox}

theorem sound_evict (acc : List SubmissionId) (x : JudgeId) :
    Keeps (fun s s' => Sound s ∧ s.1.Conserves [] → Sound s' ∧ s'.1.Conserves []) (evict acc x) := by
  intro links s step
  obtain ⟨hs, h⟩ := step
  -- the judge is removed with fuel for the registry as it stands after the leave command
  have removes : ∀ s₁ : Registry × Outbox, Sound s₁ → s₁.1 = s.1 →
      Sound ((remove x s₁.1.fuel).runOn links s₁).2 ∧
        ((remove x s₁.1.fuel).runOn links s₁).2.1.Conserves [] := by
    intro s₁ hs₁ same
    refine ⟨sound_remove_fuel hs₁, conserves_remove hs₁ ?_⟩
    rw [same]
    exact h.mono fun _ member => absurd member List.not_mem_nil
  rw [runOn_evict]
  dsimp only
  rcases s.1.find? x with _ | old
  · exact removes s hs rfl
  · exact removes _ (sound_send (disconnect_ne_submit true) hs) (runOn_send_registry links _ _ s)

/-- Registering: the evictions keep the registry sound and conserving; the new judge may be
idle, and is offered work once the tier is recomputed. The recomputed tier is below the old
one only when the new judge is below it, and then the new judge is the only idle one. -/
theorem keepsConserving_register (j : Judge) (hw : j.working = none) :
    KeepsConserving (register j) := by
  intro links s hs h
  rw [runOn_register]
  dsimp only
  have evicted := Keeps.foldlM (fun _ step => step) (fun _ _ _ h₁ h₂ step => h₂ (h₁ step))
    sound_evict ((s.1.judges.filter (·.name == j.name)).map (·.id)) [] links s ⟨hs, h⟩
  have names := (consistent_evictions j.name links s hs.consistent).2
  generalize ((((s.1.judges.filter (·.name == j.name)).map (·.id)).foldlM evict []).runOn
    links s) = e at evicted names ⊢
  obtain ⟨hs₁, h₁⟩ := evicted
  have hc : (e.2.1.enroll j).Consistent := hs₁.consistent.enroll hw names
  have notBelow : ∀ k ∈ (e.2.1.enroll j).judges, k.disabled = false → ∀ t,
      (e.2.1.enroll j).minTier = some t → k.tier < t → k.id ∈ [e.2.1.nextId] := by
    intro k member enabled t tier lower
    rcases List.mem_append.1 member with old | new
    · exact absurd (hs₁.served.1.le_tier tier old enabled) (Nat.not_le.2 lower)
    · rw [List.mem_singleton.1 new]
      exact List.mem_singleton_self _
  have tier := (conserves_cascade (e.2.1.enroll j).fuel).2.2 [e.2.1.nextId] links
    (e.2.1.enroll j, e.2.2) hc hs₁.served.2 hs₁.queue (e.2.1.enroll j).fuel_ample
    fun narrows => Registry.conserves_refresh (h₁.enroll j) narrows notBelow
  have sound : Sound ((updateMinTier (e.2.1.enroll j).fuel).runOn links (e.2.1.enroll j, e.2.2)).2 :=
    sound_updateMinTier hc hs₁.served.2 hs₁.queue (e.2.1.enroll j).fuel_ample
  exact conserves_handleFree sound tier

theorem keepsConserving_abort (x : SubmissionId) : KeepsConserving (abort x) := by
  intro links s hs h
  rw [runOn_abort]
  rcases s.1.assignedTo x with _ | id
  · exact h.dequeue x
  · dsimp only
    rcases s.1.find? id with _ | j
    · exact h
    · rw [runOn_send_registry]
      exact h

/-- Enabling or disabling the judges of a name: the recomputed tier is below the old one only
when an enabled judge of that name is below it; the judges of that name are then offered
work, one after another. -/
theorem keepsConserving_setDisabled (name : String) (d : Bool) :
    KeepsConserving (setDisabled name d) := by
  intro links s hs h
  rw [runOn_setDisabled]
  dsimp only
  split
  · exact h
  · have marked := h.markDisabled name d
    have notBelow : ∀ k ∈ (s.1.markDisabled name d).judges, k.disabled = false → ∀ t,
        (s.1.markDisabled name d).minTier = some t → k.tier < t →
        k.id ∈ (if d then [] else (s.1.judges.filter (·.name == name)).map (·.id)) ++ [] := by
      intro k member enabled t tier lower
      obtain ⟨j, old, rfl⟩ := List.mem_map.1 member
      by_cases named : j.name = name
      · simp only [named, beq_self_eq_true, if_true] at enabled ⊢
        subst enabled
        simp only [Bool.false_eq_true, if_false, List.append_nil]
        exact List.mem_map.2 ⟨j, List.mem_filter.2 ⟨old, by simpa using named⟩, rfl⟩
      · simp only [beq_iff_eq, named, if_false] at enabled lower
        exact absurd (hs.served.1.le_tier tier old enabled) (Nat.not_le.2 lower)
    have tier := (conserves_cascade (s.1.markDisabled name d).fuel).2.2 _ links
      (s.1.markDisabled name d, s.2) (hs.consistent.markDisabled name d) hs.served.2 hs.queue
      (s.1.markDisabled name d).fuel_ample
      fun narrows => Registry.conserves_refresh marked narrows notBelow
    have sound : Sound ((updateMinTier (s.1.markDisabled name d).fuel).runOn links
        (s.1.markDisabled name d, s.2)).2 :=
      sound_updateMinTier (hs.consistent.markDisabled name d) hs.served.2 hs.queue
        (s.1.markDisabled name d).fuel_ample
    generalize ((updateMinTier (s.1.markDisabled name d).fuel).runOn links
      (s.1.markDisabled name d, s.2)).2 = s₂ at tier sound ⊢
    cases d with
    | false =>
      -- the enabled judges are offered work in turn
      simp only [Bool.not_false, if_true]
      have done := forM_invariant links (fun rest s => Sound s ∧ s.1.Conserves rest)
        (fun x xs s step => ⟨sound_offerWork step.1, conserves_offerWork x step.1 step.2⟩) _ s₂
        ⟨sound, by simpa using tier⟩
      exact done.2
    | true => exact tier

end RegistryOp

namespace RegistryOp

theorem keepsConserving_onJudgeFree (id : JudgeId) (x : SubmissionId) :
    KeepsConserving (onJudgeFree id x) := by
  intro links s hs h
  rcases found : s.1.find? id with _ | j
  · rw [runOn_onJudgeFree_of_none links x found]
    exact h
  · rw [runOn_onJudgeFree_of_find links x found]
    have sound : Sound (s.1.release id x j, s.2) := by
      refine ⟨hs.consistent.release x found, ⟨hs.served.1.release id x j, hs.served.2⟩, ?_⟩
      rw [Registry.release_queue]
      exact hs.queue
    exact conserves_offerWork id sound (h.release x j)

/-- A judge whose capabilities change may become able to take waiting work, so it is the one
judge still to be offered work, and it is offered work next. -/
theorem keepsConserving_capabilityUpdate {id : JudgeId} {op : RegistryOp Unit}
    (update : CapabilityUpdate id op) : KeepsConserving op := by
  obtain ⟨g, hg, run⟩ := update
  intro links s hs h
  rw [run]
  split
  · have sound : Sound (s.1.modifyJudge id g, s.2) :=
      ⟨hs.consistent.modifyJudge fun j => ⟨hg.id j, hg.name j, hg.working j⟩,
        ⟨hs.served.1.modifyJudge id hg.rank, hs.served.2⟩, hs.queue⟩
    exact conserves_offerWork id sound (h.modifyJudge hg.id)
  · exact h

theorem keepsConserving_setPing (id : JudgeId) (load : Option Binary64) (ping : Binary64) :
    KeepsConserving (setPing id load ping) := by
  intro links s _ h
  rw [runOn_setPing]
  exact h.modifyJudge_same fun _ => ⟨rfl, rfl, rfl, rfl⟩

theorem keepsConserving_leave (id : JudgeId) : KeepsConserving (leave id) := by
  intro links s hs h
  rw [runOn_leave]
  exact conserves_remove hs (h.mono fun _ member => absurd member List.not_mem_nil)

end RegistryOp

/-- A call from a reachable registry in which no idle judge could take waiting interactive
work leaves a registry with none either. -/
theorem Call.run_conserves (c : Call) (links : Links) {r : Registry} (h : r.Reachable)
    (hr : r.Conserves []) : (c.run links r).1.Conserves [] := by
  have hs : RegistryOp.Sound (r, []) :=
    ⟨h.consistent, RegistryOp.served_start h.fresh, h.queue_wellFormed⟩
  cases c with
  | register name tier ps es d link =>
    exact RegistryOp.keepsConserving_register _ rfl links _ hs hr
  | dispatch req tie => exact RegistryOp.keepsConserving_dispatch req tie links _ hs hr
  | abort x => exact RegistryOp.keepsConserving_abort x links _ hs hr
  | disconnect name force =>
    show ((RegistryOp.disconnect name force).runOn links (r, [])).2.1.Conserves []
    rw [RegistryOp.runOn_disconnect_registry]
    exact hr
  | setDisabled name d => exact RegistryOp.keepsConserving_setDisabled name d links _ hs hr
  | leave id => exact RegistryOp.keepsConserving_leave id links _ hs hr
  | onJudgeFree id x => exact RegistryOp.keepsConserving_onJudgeFree id x links _ hs hr
  | setProblems id ps =>
    exact RegistryOp.keepsConserving_capabilityUpdate (RegistryOp.capabilityUpdate_setProblems id ps)
      links _ hs hr
  | setExecutors id es =>
    exact RegistryOp.keepsConserving_capabilityUpdate
      (RegistryOp.capabilityUpdate_setExecutors id es) links _ hs hr
  | setPing id load ping => exact RegistryOp.keepsConserving_setPing id load ping links _ hs hr
  | disconnectAll force =>
    show ((RegistryOp.disconnectAll force).runOn links (r, [])).2.1.Conserves []
    rw [RegistryOp.runOn_disconnectAll_registry]
    exact hr

theorem Registry.Reachable.conserves {r : Registry} (h : r.Reachable) : r.Conserves [] := by
  induction h with
  | empty => exact Registry.conserves_of_nil rfl
  | call c links reach ih => exact Call.run_conserves c links reach ih

/-! ## 6. Work conservation -/

/-- In every reachable registry, a free judge of the serving tier that can grade a waiting
request leaves it waiting only when it is a rejudge: interactive work never waits beside an
idle judge that could take it. -/
theorem interactive_work_never_waits {r : Registry} (h : r.Reachable) :
    ∀ q ∈ r.queue.toList, ∀ j ∈ r.judges, j.isAvailable = true → r.minTier = some j.tier →
      j.accepts q = true → Priority.rejudge ≤ q.priority := by
  intro q waiting j member available tier accepts
  apply Nat.le_of_not_lt
  intro interactive
  exact List.not_mem_nil (h.conserves j ⟨member, available, tier⟩ ⟨q, waiting, interactive, accepts⟩)

/-- Three judges of one tier, two of which can grade `aplusb`; one of those grades a contest
submission, and a rejudge of `aplusb` waits beside the other. -/
theorem interactive_work_never_waits_beside_rejudge :
    Registry.Reachable ((Call.dispatch ⟨2, "aplusb", "PY3", "", none, 2⟩ (fun _ => 0)).run (fun _ => true)
      ((Call.dispatch ⟨1, "aplusb", "PY3", "", none, 0⟩ (fun _ => 0)).run (fun _ => true)
      ((Call.register "j3" 1 ["fib"] ["PY3"] false 3).run (fun _ => true)
      ((Call.register "j2" 1 ["aplusb"] ["PY3"] false 2).run (fun _ => true)
      ((Call.register "j1" 1 ["aplusb"] ["PY3"] false 1).run (fun _ => true)
        Registry.empty).1).1).1).1).1 ∧
    ∀ q ∈ ((Call.dispatch ⟨2, "aplusb", "PY3", "", none, 2⟩ (fun _ => 0)).run (fun _ => true)
      ((Call.dispatch ⟨1, "aplusb", "PY3", "", none, 0⟩ (fun _ => 0)).run (fun _ => true)
      ((Call.register "j3" 1 ["fib"] ["PY3"] false 3).run (fun _ => true)
      ((Call.register "j2" 1 ["aplusb"] ["PY3"] false 2).run (fun _ => true)
      ((Call.register "j1" 1 ["aplusb"] ["PY3"] false 1).run (fun _ => true)
        Registry.empty).1).1).1).1).1.queue.toList,
    ∀ j ∈ ((Call.dispatch ⟨2, "aplusb", "PY3", "", none, 2⟩ (fun _ => 0)).run (fun _ => true)
      ((Call.dispatch ⟨1, "aplusb", "PY3", "", none, 0⟩ (fun _ => 0)).run (fun _ => true)
      ((Call.register "j3" 1 ["fib"] ["PY3"] false 3).run (fun _ => true)
      ((Call.register "j2" 1 ["aplusb"] ["PY3"] false 2).run (fun _ => true)
      ((Call.register "j1" 1 ["aplusb"] ["PY3"] false 1).run (fun _ => true)
        Registry.empty).1).1).1).1).1.judges,
    j.isAvailable = true →
    ((Call.dispatch ⟨2, "aplusb", "PY3", "", none, 2⟩ (fun _ => 0)).run (fun _ => true)
      ((Call.dispatch ⟨1, "aplusb", "PY3", "", none, 0⟩ (fun _ => 0)).run (fun _ => true)
      ((Call.register "j3" 1 ["fib"] ["PY3"] false 3).run (fun _ => true)
      ((Call.register "j2" 1 ["aplusb"] ["PY3"] false 2).run (fun _ => true)
      ((Call.register "j1" 1 ["aplusb"] ["PY3"] false 1).run (fun _ => true)
        Registry.empty).1).1).1).1).1.minTier = some j.tier →
    j.accepts q = true → Priority.rejudge ≤ q.priority := by
  have h : Registry.Reachable ((Call.dispatch ⟨2, "aplusb", "PY3", "", none, 2⟩ (fun _ => 0)).run (fun _ => true)
      ((Call.dispatch ⟨1, "aplusb", "PY3", "", none, 0⟩ (fun _ => 0)).run (fun _ => true)
      ((Call.register "j3" 1 ["fib"] ["PY3"] false 3).run (fun _ => true)
      ((Call.register "j2" 1 ["aplusb"] ["PY3"] false 2).run (fun _ => true)
      ((Call.register "j1" 1 ["aplusb"] ["PY3"] false 1).run (fun _ => true)
        Registry.empty).1).1).1).1).1 :=
    .call _ _ (.call _ _ (.call _ _ (.call _ _ (.call _ _ .empty))))
  exact ⟨h, interactive_work_never_waits h⟩

/-- The reservation is not what keeps a rejudge waiting: in the registry above the rejudge of
`aplusb` waits beside the free judge `j2` of the serving tier, which can grade it, while two
of the three judges of that tier are free, so no judge should be reserved. Dispatch counts
the judges that can grade the request, not the judges of the tier. -/
theorem reservation_withholds_from_capable_pool :
    ¬ ∀ r : Registry, r.Reachable → ∀ q ∈ r.queue.toList, ∀ j ∈ r.judges,
      j.isAvailable = true → r.minTier = some j.tier → j.accepts q = true →
        Priority.rejudge ≤ q.priority ∧ r.shouldReserve = true := by
  intro claim
  let R : Registry := ((Call.dispatch ⟨2, "aplusb", "PY3", "", none, 2⟩ (fun _ => 0)).run (fun _ => true)
    ((Call.dispatch ⟨1, "aplusb", "PY3", "", none, 0⟩ (fun _ => 0)).run (fun _ => true)
    ((Call.register "j3" 1 ["fib"] ["PY3"] false 3).run (fun _ => true)
    ((Call.register "j2" 1 ["aplusb"] ["PY3"] false 2).run (fun _ => true)
    ((Call.register "j1" 1 ["aplusb"] ["PY3"] false 1).run (fun _ => true)
      Registry.empty).1).1).1).1).1
  have reach : R.Reachable := .call _ _ (.call _ _ (.call _ _ (.call _ _ (.call _ _ .empty))))
  have waiting : (⟨2, "aplusb", "PY3", "", none, 2⟩ : Request) ∈ R.queue.toList := by decide
  have available : (R.judges.get ⟨1, by decide⟩).isAvailable = true := by decide
  have tier : R.minTier = some (R.judges.get ⟨1, by decide⟩).tier := by decide
  have accepts : (R.judges.get ⟨1, by decide⟩).accepts ⟨2, "aplusb", "PY3", "", none, 2⟩ = true := by
    decide
  have free : R.shouldReserve = false := by decide
  obtain ⟨-, reserved⟩ := claim R reach _ waiting _ (List.get_mem _ _) available tier accepts
  rw [free] at reserved
  cases reserved

end JudgeRelay
