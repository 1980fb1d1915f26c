import JudgeRelay.Proofs.Registry.Steps
import JudgeRelay.Proofs.Queue.Contents

/-!
# What dispatching leaves alone

Dispatching never registers a judge nor changes one's name, tier, abilities or link: it
drops judges and changes what they grade, and it only appends to the outbox. This module
states that as a relation between states (`Registry.Shrinks`, with the outbox growing) and
proves it of the dispatch cascade at every fuel (`shrinking_cascade`) and of dispatching a
request (`shrinking_dispatch`).

It also gives `RegistryOp.Keeps`, the statement that every run of an operation moves the
state along a reflexive and transitive relation, with the rules that carry it through
sequences and loops of operations.
-/

namespace JudgeRelay

namespace Judge

/-- A judge as registered: everything but what it is grading. -/
def profile (j : Judge) : Judge := { j with working := none }

@[simp] theorem profile_id (j : Judge) : j.profile.id = j.id := rfl
@[simp] theorem profile_name (j : Judge) : j.profile.name = j.name := rfl
@[simp] theorem profile_tier (j : Judge) : j.profile.tier = j.tier := rfl
@[simp] theorem profile_disabled (j : Judge) : j.profile.disabled = j.disabled := rfl
@[simp] theorem profile_link (j : Judge) : j.profile.link = j.link := rfl

@[simp] theorem profile_setWorking (j : Judge) (w : Option SubmissionId) :
    ({ j with working := w } : Judge).profile = j.profile := rfl

end Judge

namespace Registry

/-- `r'` keeps some of `r`'s judges, in order and unchanged but for what they grade, and
`r`'s next id. -/
structure Shrinks (r r' : Registry) : Prop where
  nextId : r'.nextId = r.nextId
  judges : (r'.judges.map Judge.profile).Sublist (r.judges.map Judge.profile)

theorem Shrinks.refl (r : Registry) : r.Shrinks r := ⟨rfl, List.Sublist.refl _⟩

theorem Shrinks.trans {r r' r'' : Registry} (h₁ : r.Shrinks r') (h₂ : r'.Shrinks r'') :
    r.Shrinks r'' :=
  ⟨h₂.nextId.trans h₁.nextId, h₂.judges.trans h₁.judges⟩

theorem Shrinks.length_le {r r' : Registry} (h : r.Shrinks r') :
    r'.judges.length ≤ r.judges.length := by
  simpa using h.judges.length_le

/-- Every judge left was there before, as it was but for what it grades. -/
theorem Shrinks.mem {r r' : Registry} (h : r.Shrinks r') {j' : Judge} (hj : j' ∈ r'.judges) :
    ∃ j ∈ r.judges, j.profile = j'.profile := by
  have hp : j'.profile ∈ r.judges.map Judge.profile := h.judges.subset (List.mem_map_of_mem hj)
  simpa using hp

/-- A change that touches neither the judges nor the next id. -/
theorem shrinks_of_judges {r r' : Registry} (hj : r'.judges = r.judges)
    (hn : r'.nextId = r.nextId) : r.Shrinks r' := by
  constructor
  · exact hn
  · rewrite [hj]
    exact List.Sublist.refl _

/-- Changing one judge in a way that keeps some feature of every judge keeps the list of
that feature. -/
theorem modifyJudge_map {α : Type} (r : Registry) (id : JudgeId) (f : Judge → Judge)
    (g : Judge → α) (hf : ∀ j, g (f j) = g j) :
    (r.modifyJudge id f).judges.map g = r.judges.map g := by
  simp only [modifyJudge, List.map_map]
  apply List.map_congr_left
  intro j _
  simp only [Function.comp]
  split
  · exact hf j
  · rfl

theorem shrinks_setWorking (r : Registry) (id : JudgeId) (s : SubmissionId) :
    r.Shrinks (r.setWorking id s) := by
  constructor
  · rfl
  · rewrite [setWorking,
      modifyJudge_map r id (fun j => { j with working := some s }) Judge.profile (fun _ => rfl)]
    exact List.Sublist.refl _

theorem shrinks_hand (r : Registry) (id : JudgeId) (req : Request) : r.Shrinks (r.hand id req) :=
  (shrinks_setWorking r id req.id).trans (shrinks_of_judges rfl rfl)

theorem shrinks_give (r : Registry) (id : JudgeId) (req : Request) : r.Shrinks (r.give id req) :=
  (shrinks_setWorking r id req.id).trans (shrinks_of_judges rfl rfl)

theorem shrinks_enqueue (r : Registry) (req : Request) : r.Shrinks (r.enqueue req) :=
  shrinks_of_judges rfl rfl

theorem shrinks_refresh (r : Registry) : r.Shrinks r.refresh := shrinks_of_judges rfl rfl

theorem shrinks_drop (r : Registry) (id : JudgeId) : r.Shrinks (r.drop id) := by
  unfold drop
  split
  · exact Shrinks.refl r
  · have hfilter : r.Shrinks { r with judges := r.judges.filter (·.id != id) } :=
      ⟨rfl, List.filter_sublist.map _⟩
    split
    · exact hfilter.trans (shrinks_of_judges rfl rfl)
    · exact hfilter

/-- Dropping a judge leaves the queue alone. -/
@[simp] theorem drop_queue (r : Registry) (id : JudgeId) : (r.drop id).queue = r.queue := by
  unfold drop
  split
  · rfl
  · split <;> rfl

/-- Dropping a judge filters it out of the judges; the unassignment does not touch them. -/
theorem drop_judges (r : Registry) (id : JudgeId) :
    (r.drop id).judges = r.judges.filter (·.id != id) := by
  unfold drop
  split
  · next absent =>
    rw [List.filter_eq_self.2]
    intro k hk
    simpa using find?_eq_none.1 absent k hk
  · split <;> rfl

/-- A dropped judge is gone. -/
theorem drop_absent (r : Registry) (id : JudgeId) : ∀ k ∈ (r.drop id).judges, k.id ≠ id := by
  intro k hk
  rw [drop_judges] at hk
  simpa using (List.mem_filter.1 hk).2

/-- `r'` knows no submission that `r` did not. -/
def Forgets (r r' : Registry) : Prop := ∀ s, r'.tracks s = true → r.tracks s = true

theorem Forgets.refl (r : Registry) : r.Forgets r := fun _ h => h

theorem Forgets.trans {r r' r'' : Registry} (h₁ : r.Forgets r') (h₂ : r'.Forgets r'') :
    r.Forgets r'' := fun s h => h₁ s (h₂ s h)

theorem Forgets.untracked {r r' : Registry} (h : r.Forgets r') {s : SubmissionId}
    (unknown : r.tracks s = false) : r'.tracks s = false := by
  cases known : r'.tracks s
  · rfl
  · rw [h s known] at unknown
    cases unknown

/-- Offering work pairs a judge with a request that waits in the queue. -/
theorem offer_waiting {r : Registry} {id : JudgeId} {j : Judge} {req : Request}
    (h : r.offer id = some (j, req)) : r.queue.contains req.id = true :=
  PendingQueue.contains_of_mem_toList (firstFor_spec (offer_spec h).2.2.2).1

/-- Handing over a waiting request moves it from the queue to the assignments. -/
theorem forgets_hand (r : Registry) (id : JudgeId) (req : Request)
    (hq : r.queue.contains req.id = true) : r.Forgets (r.hand id req) := by
  intro s hs
  rw [tracks_iff] at hs ⊢
  rcases hs with ⟨id', hmem⟩ | hqs
  · simp only [hand, assign, List.mem_append, List.mem_filter, List.mem_singleton,
      Prod.mk.injEq] at hmem
    rcases hmem with ⟨hmem, -⟩ | ⟨rfl, -⟩
    · exact .inl ⟨id', hmem⟩
    · exact .inr hq
  · simp only [hand, assign, dequeue, PendingQueue.contains_remove, Bool.and_eq_true] at hqs
    exact .inr hqs.1

theorem forgets_drop (r : Registry) (id : JudgeId) : r.Forgets (r.drop id) := by
  have hunassign : ∀ (r' : Registry) (x : SubmissionId), r'.Forgets (r'.unassign x) := by
    intro r' x s hs
    rw [tracks_iff] at hs ⊢
    rcases hs with ⟨id', hmem⟩ | hqs
    · exact .inl ⟨id', (List.mem_filter.1 hmem).1⟩
    · exact .inr hqs
  unfold drop
  split
  · exact Forgets.refl r
  · split
    · exact hunassign { r with judges := r.judges.filter (·.id != id) } _
    · exact Forgets.refl r

end Registry

namespace RegistryOp

variable {α β γ : Type}

/-- Every run of `op`, whatever links are open, moves the state along `R`. -/
def Keeps (R : Registry × Outbox → Registry × Outbox → Prop) (op : RegistryOp α) : Prop :=
  ∀ links s, R s (op.runOn links s).2

section Keeps

variable {R : Registry × Outbox → Registry × Outbox → Prop}
  (refl : ∀ s, R s s) (trans : ∀ s₁ s₂ s₃, R s₁ s₂ → R s₂ s₃ → R s₁ s₃)
include refl trans

theorem Keeps.forM {g : γ → RegistryOp Unit} (hg : ∀ x, Keeps R (g x)) (xs : List γ) :
    Keeps R (xs.forM g) := by
  induction xs with
  | nil => exact fun links s => refl s
  | cons x xs ih =>
    intro links s
    rw [runOn_forM_cons]
    exact trans _ _ _ (hg x links s) (ih links _)

theorem Keeps.foldlM {g : β → γ → RegistryOp β} (hg : ∀ b x, Keeps R (g b x)) (xs : List γ) :
    ∀ b, Keeps R (xs.foldlM g b) := by
  induction xs with
  | nil => exact fun _ links s => refl s
  | cons x xs ih =>
    intro b links s
    rw [runOn_foldlM_cons]
    exact trans _ _ _ (hg b x links s) (ih _ links _)

omit refl in
/-- Settling after a drop keeps what recomputing the serving tier and offering work keep. -/
theorem Keeps.settle {f : Nat} (hTier : Keeps R (updateMinTier f))
    (hHandle : ∀ id, Keeps R (handleFree id f)) : Keeps R (settle f) := by
  intro links s
  rw [runOn_settle]
  dsimp only
  have htier := hTier links s
  generalize ((updateMinTier f).runOn links s).2 = s₁ at htier ⊢
  rcases s₁.1.pool with _ | ⟨only, _ | ⟨k, rest⟩⟩
  · exact htier
  · dsimp only
    split
    · exact trans _ _ _ htier (hHandle only.id links s₁)
    · exact htier
  · exact htier

/-- A relation that handing over a waiting request, dropping a judge and recomputing the
serving tier each keep is kept by the whole dispatch cascade, at every fuel. -/
theorem Keeps.cascade
    (hhand : ∀ s id j req, s.1.offer id = some (j, req) →
      R s (s.1.hand id req, s.2 ++ [⟨s.1, j.link, .submit req⟩]))
    (hdrop : ∀ s id, R s (s.1.drop id, s.2)) (hrefresh : ∀ s, R s (s.1.refresh, s.2))
    (f : Nat) :
    (∀ id, Keeps R (handleFree id f)) ∧ (∀ id, Keeps R (remove id f)) ∧
      Keeps R (updateMinTier f) := by
  induction f with
  | zero =>
    refine ⟨fun id links s => ?_, fun id links s => ?_, fun links s => ?_⟩
    · rw [handleFree_zero]
      exact refl s
    · rw [remove_zero]
      exact hdrop s id
    · rw [updateMinTier_zero]
      exact hrefresh s
  | succ f ih =>
    obtain ⟨ihHandle, ihRemove, ihTier⟩ := ih
    refine ⟨fun id links s => ?_, fun id links s => ?_, fun links s => ?_⟩
    · rw [handleFree_succ]
      rcases ho : s.1.offer id with _ | ⟨j, req⟩
      · exact refl s
      · dsimp only
        split
        · exact hhand s id j req ho
        · exact ihRemove id links s
    · rw [remove_succ]
      rcases s.1.find? id with _ | j
      · exact refl s
      · exact trans _ _ _ (hdrop s id) (Keeps.settle trans ihTier ihHandle links _)
    · rw [updateMinTier_succ]
      split
      · exact refl s
      · split
        · exact trans _ _ _ (hrefresh s) (Keeps.forM refl trans ihHandle _ links _)
        · exact hrefresh s

end Keeps

/-- A loop keeps a property of its accumulator, what is left to do and the state when each
step, run with an item first in what is left, keeps it for the rest. -/
theorem foldlM_invariant (links : Links) {g : β → γ → RegistryOp β}
    (P : β → List γ → Registry × Outbox → Prop)
    (hg : ∀ b x xs s, P b (x :: xs) s → P ((g b x).runOn links s).1 xs ((g b x).runOn links s).2) :
    ∀ (xs : List γ) b s, P b xs s →
      P ((xs.foldlM g b).runOn links s).1 [] ((xs.foldlM g b).runOn links s).2 := by
  intro xs
  induction xs with
  | nil => exact fun _ _ h => h
  | cons x xs ih =>
    intro b s h
    rw [runOn_foldlM_cons]
    exact ih _ _ (hg b x xs s h)

/-- A loop of operations keeps a property of what is left to do and the state when each
step, run with an item first in what is left, keeps it for the rest. -/
theorem forM_invariant (links : Links) {g : γ → RegistryOp Unit}
    (P : List γ → Registry × Outbox → Prop)
    (hg : ∀ x xs s, P (x :: xs) s → P xs ((g x).runOn links s).2) :
    ∀ (xs : List γ) s, P xs s → P [] ((xs.forM g).runOn links s).2 := by
  intro xs
  induction xs with
  | nil => exact fun _ h => h
  | cons x xs ih =>
    intro s h
    rw [runOn_forM_cons]
    exact ih _ (hg x xs s h)

/-- Sending a command leaves the registry as it is. -/
@[simp] theorem runOn_send_registry (links : Links) (l : LinkId) (c : Command)
    (s : Registry × Outbox) :
    ((send l c).runOn links s).2.1 = s.1 := by
  rw [runOn_send]
  split <;> rfl

/-- Dropping judges and changing what they grade, and appending to the outbox. -/
def Shrinking (op : RegistryOp α) : Prop :=
  Keeps (fun s s' => s.1.Shrinks s'.1 ∧ s.2 <+: s'.2) op

theorem shrinks_refl (s : Registry × Outbox) : s.1.Shrinks s.1 ∧ s.2 <+: s.2 :=
  ⟨Registry.Shrinks.refl _, List.prefix_refl _⟩

theorem shrinks_trans (s₁ s₂ s₃ : Registry × Outbox) (h₁ : s₁.1.Shrinks s₂.1 ∧ s₁.2 <+: s₂.2)
    (h₂ : s₂.1.Shrinks s₃.1 ∧ s₂.2 <+: s₃.2) : s₁.1.Shrinks s₃.1 ∧ s₁.2 <+: s₃.2 :=
  ⟨h₁.1.trans h₂.1, h₁.2.trans h₂.2⟩

/-- The dispatch cascade, at every fuel, only drops judges and changes what they grade. -/
theorem shrinking_cascade (f : Nat) :
    (∀ id, Shrinking (handleFree id f)) ∧ (∀ id, Shrinking (remove id f)) ∧
      Shrinking (updateMinTier f) :=
  Keeps.cascade shrinks_refl shrinks_trans
    (fun _ _ _ _ _ => ⟨Registry.shrinks_hand _ _ _, List.prefix_append _ _⟩)
    (fun _ _ => ⟨Registry.shrinks_drop _ _, List.prefix_refl _⟩)
    (fun _ => ⟨Registry.shrinks_refresh _, List.prefix_refl _⟩) f

/-- The dispatch cascade never makes up a submission. -/
theorem forgetting_cascade (f : Nat) :
    (∀ id, Keeps (fun s s' => s.1.Forgets s'.1) (handleFree id f)) ∧
      (∀ id, Keeps (fun s s' => s.1.Forgets s'.1) (remove id f)) ∧
      Keeps (fun s s' => s.1.Forgets s'.1) (updateMinTier f) :=
  Keeps.cascade (fun s => Registry.Forgets.refl s.1) (fun _ _ _ h₁ h₂ => h₁.trans h₂)
    (fun _ _ _ _ ho => Registry.forgets_hand _ _ _ (Registry.offer_waiting ho))
    (fun _ _ => Registry.forgets_drop _ _)
    (fun _ => Registry.Forgets.refl _) f

theorem shrinking_settle (f : Nat) : Shrinking (settle f) :=
  Keeps.settle shrinks_trans (shrinking_cascade f).2.2 (shrinking_cascade f).1

/-- After a judge is removed, no judge has its id. -/
theorem remove_absent (id : JudgeId) (f : Nat) (links : Links) (s : Registry × Outbox) :
    ∀ k ∈ ((remove id f).runOn links s).2.1.judges, k.id ≠ id := by
  cases f with
  | zero =>
    rw [remove_zero]
    exact Registry.drop_absent s.1 id
  | succ f =>
    rw [remove_succ]
    rcases hj : s.1.find? id with _ | j
    · exact Registry.find?_eq_none.1 hj
    · intro k hk
      -- settling only keeps judges that the drop left
      obtain ⟨k₀, hk₀, hprof⟩ := (shrinking_settle f links (s.1.drop id, s.2)).1.mem hk
      rw [← Judge.profile_id k, ← hprof, Judge.profile_id]
      exact Registry.drop_absent s.1 id k₀ hk₀

theorem disconnect_ne_submit (force : Bool) (q : Request) : Command.disconnect force ≠ .submit q := by
  intro h
  cases h

theorem abort_ne_submit (x : SubmissionId) (q : Request) : Command.abort x ≠ .submit q := by
  intro h
  cases h

/-- Sending a command and ignoring the answer leaves the registry alone. -/
theorem keeps_registry_send (l : LinkId) (c : Command) :
    Keeps (fun s s' => s'.1 = s.1) (do let _ ← send l c : RegistryOp Unit) := by
  intro links s
  simp only [runOn_bind, runOn_pure, runOn_send_registry]

/-- Sending a command to each judge of a list leaves the registry alone. -/
theorem runOn_sendAll_registry (js : List Judge) (c : Command) (links : Links)
    (s : Registry × Outbox) :
    ((js.forM fun j => do let _ ← send j.link c).runOn links s).2.1 = s.1 := by
  have hkeep : Keeps (fun s s' : Registry × Outbox => s'.1 = s.1)
      (js.forM fun j => do let _ ← send j.link c) := by
    apply Keeps.forM
    · exact fun _ => rfl
    · exact fun _ _ _ h₁ h₂ => h₂.trans h₁
    · exact fun j => keeps_registry_send j.link c
  exact hkeep links s

/-- Asking judges to leave changes nothing in the registry: they leave when their
connection ends. -/
theorem runOn_disconnect_registry (name : String) (force : Bool) (links : Links)
    (s : Registry × Outbox) : ((disconnect name force).runOn links s).2.1 = s.1 := by
  simp only [disconnect, runOn_bind, runOn_registry, runOn_sendAll_registry]

theorem runOn_disconnectAll_registry (force : Bool) (links : Links) (s : Registry × Outbox) :
    ((disconnectAll force).runOn links s).2.1 = s.1 := by
  simp only [disconnectAll, runOn_bind, runOn_registry, runOn_sendAll_registry]

theorem shrinking_handleFree (id : JudgeId) (f : Nat) : Shrinking (handleFree id f) :=
  (shrinking_cascade f).1 id

theorem shrinking_remove (id : JudgeId) (f : Nat) : Shrinking (remove id f) :=
  (shrinking_cascade f).2.1 id

theorem shrinking_updateMinTier (f : Nat) : Shrinking (updateMinTier f) :=
  (shrinking_cascade f).2.2

/-- Dispatching a request only drops judges and changes what they grade. -/
theorem shrinking_dispatchLoop (req : Request) (tie : TieBreak) (f : Nat) : Shrinking (dispatchLoop req tie f) := by
  induction f generalizing tie with
  | zero =>
    intro links s
    rw [dispatchLoop_zero]
    exact ⟨Registry.shrinks_enqueue _ _, List.prefix_refl _⟩
  | succ f ih =>
    intro links s
    rw [dispatchLoop_succ]
    rcases Registry.pickLeast (tie 0) (s.1.eligible req) with _ | j
    · exact ⟨Registry.shrinks_enqueue _ _, List.prefix_refl _⟩
    · dsimp only
      split
      · exact ⟨Registry.shrinks_give _ _ _, List.prefix_append _ _⟩
      · exact shrinks_trans s _ _ (shrinking_remove j.id _ links s) (ih _ links _)

theorem shrinking_dispatch (req : Request) (tie : TieBreak) : Shrinking (dispatch req tie) := by
  intro links s
  rw [runOn_dispatch]
  split
  · exact shrinks_refl s
  · exact shrinking_dispatchLoop req tie _ links s

end RegistryOp

end JudgeRelay
