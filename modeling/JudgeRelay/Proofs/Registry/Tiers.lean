import JudgeRelay.Proofs.Registry.Frame

/-!
# The serving tier

Only judges of the serving tier get work, and the registry keeps that tier in `minTier`
rather than recomputing it at every read. This module proves that the kept tier is the
lowest tier among enabled judges whenever it is read, and so that work only ever goes to a
free judge of the lowest enabled tier.

The kept tier goes stale at three places only: a judge is dropped, a judge is registered, or
judges are enabled or disabled. Each is followed by `updateMinTier`, which recomputes it.
Inside the dispatch cascade that recomputation needs fuel; every level of the cascade may
drop a judge, so fuel three times the number of judges is enough (`served_cascade`), and
every public operation starts the cascade with more.

Main results:
* `Registry.isLowestTier_iff`: `lowestTier` computes the lowest enabled tier;
* `served_cascade`: with enough fuel, the cascade leaves the kept tier fresh and sends work
  only to free judges of the lowest enabled tier that can grade it;
* `tier_exclusive`: after every call from a reachable registry the kept tier is the lowest
  enabled tier, and every request sent went to such a judge.
-/

namespace JudgeRelay

namespace Judge

/-- What the serving tier reads of a judge: whether it is disabled, and its tier. -/
def rank (j : Judge) : Bool × Nat := (j.disabled, j.tier)

end Judge

namespace Registry

/-- `t` is the lowest tier among the enabled judges of `r`; `none` when no judge is
enabled. -/
def IsLowestTier (r : Registry) : Option Nat → Prop
  | none => ∀ j ∈ r.judges, j.disabled = true
  | some t => (∃ j ∈ r.judges, j.disabled = false ∧ j.tier = t) ∧
      ∀ j ∈ r.judges, j.disabled = false → t ≤ j.tier

/-- The tiers of the enabled judges, in order. -/
def enabledTiers (r : Registry) : List Nat := ((r.judges.map Judge.rank).filter (!·.1)).map (·.2)

theorem foldl_lowest (js : List Judge) (a : Nat) :
    js.foldl (fun acc j => match acc with
      | some t => some (min t j.tier)
      | none => some j.tier) (some a) = some ((js.map (·.tier)).foldl min a) := by
  induction js generalizing a with
  | nil => rfl
  | cons j rest ih => exact ih (min a j.tier)

/-- The lowest enabled tier is the least of the enabled judges' tiers. -/
theorem lowestTier_eq_min? (r : Registry) : r.lowestTier = r.enabledTiers.min? := by
  have htiers : r.enabledTiers = (r.judges.filter (!·.disabled)).map (·.tier) := by
    simp [enabledTiers, List.filter_map, Function.comp_def, Judge.rank]
  rw [htiers, lowestTier]
  generalize r.judges.filter (!·.disabled) = js
  cases js with
  | nil => rfl
  | cons j rest => exact foldl_lowest rest j.tier

theorem mem_enabledTiers {r : Registry} {t : Nat} :
    t ∈ r.enabledTiers ↔ ∃ j ∈ r.judges, j.disabled = false ∧ j.tier = t := by
  simp [enabledTiers, Judge.rank]

theorem lowestTier_eq_some_iff {r : Registry} {t : Nat} :
    r.lowestTier = some t ↔ (∃ j ∈ r.judges, j.disabled = false ∧ j.tier = t) ∧
      ∀ j ∈ r.judges, j.disabled = false → t ≤ j.tier := by
  rw [lowestTier_eq_min?, List.min?_eq_some_iff, mem_enabledTiers]
  constructor
  · rintro ⟨hmem, hle⟩
    exact ⟨hmem, fun j hj hd => hle j.tier (mem_enabledTiers.2 ⟨j, hj, hd, rfl⟩)⟩
  · rintro ⟨hmem, hle⟩
    refine ⟨hmem, fun b hb => ?_⟩
    obtain ⟨j, hj, hd, rfl⟩ := mem_enabledTiers.1 hb
    exact hle j hj hd

theorem lowestTier_eq_none_iff {r : Registry} :
    r.lowestTier = none ↔ ∀ j ∈ r.judges, j.disabled = true := by
  rw [lowestTier_eq_min?, List.min?_eq_none_iff, List.eq_nil_iff_forall_not_mem]
  simp only [mem_enabledTiers, not_exists, not_and]
  constructor
  · intro h j hj
    simpa using h j.tier j hj
  · intro h t j hj hd
    simp [h j hj] at hd

/-- `lowestTier` computes the lowest enabled tier, and nothing else is. -/
theorem isLowestTier_iff {r : Registry} {t : Option Nat} : r.IsLowestTier t ↔ t = r.lowestTier := by
  cases t with
  | none => rw [IsLowestTier, eq_comm, lowestTier_eq_none_iff]
  | some t => rw [IsLowestTier, eq_comm, lowestTier_eq_some_iff]

/-- Only whether judges are enabled, and their tiers, decide the lowest enabled tier. -/
theorem lowestTier_congr {r r' : Registry} (h : r'.judges.map Judge.rank = r.judges.map Judge.rank) :
    r'.lowestTier = r.lowestTier := by
  rw [lowestTier_eq_min?, lowestTier_eq_min?, enabledTiers, enabledTiers, h]

theorem le_of_lowestTier {r : Registry} {t : Nat} (ht : r.lowestTier = some t) {j : Judge}
    (hj : j ∈ r.judges) (hd : j.disabled = false) : t ≤ j.tier :=
  (lowestTier_eq_some_iff.1 ht).2 j hj hd

/-! ## A fresh serving tier -/

/-- The kept serving tier is the lowest enabled tier. -/
def Fresh (r : Registry) : Prop := r.minTier = r.lowestTier

theorem fresh_iff {r : Registry} : r.Fresh ↔ r.IsLowestTier r.minTier := isLowestTier_iff.symm

theorem fresh_refresh (r : Registry) : r.refresh.Fresh := rfl

section Fresh

variable {r : Registry} (hf : r.Fresh)
include hf

/-- A change that keeps every judge's tier and whether it is enabled, and the kept tier,
keeps the tier fresh. -/
theorem Fresh.of_rank {r' : Registry} (hj : r'.judges.map Judge.rank = r.judges.map Judge.rank)
    (ht : r'.minTier = r.minTier) : r'.Fresh := by
  rw [Fresh, ht, lowestTier_congr hj]
  exact hf

/-- No enabled judge is below a fresh serving tier. -/
theorem Fresh.le_tier {t : Nat} (ht : r.minTier = some t) {j : Judge} (hj : j ∈ r.judges)
    (hd : j.disabled = false) : t ≤ j.tier :=
  le_of_lowestTier (Eq.trans (Eq.symm hf) ht) hj hd

theorem Fresh.modifyJudge (id : JudgeId) {g : Judge → Judge} (hg : ∀ j, (g j).rank = j.rank) :
    (r.modifyJudge id g).Fresh :=
  hf.of_rank (modifyJudge_map r id g Judge.rank hg) rfl

theorem Fresh.hand (id : JudgeId) (req : Request) : (r.hand id req).Fresh :=
  hf.modifyJudge id fun _ => rfl

theorem Fresh.give (id : JudgeId) (req : Request) : (r.give id req).Fresh :=
  hf.modifyJudge id fun _ => rfl

theorem Fresh.enqueue (req : Request) : (r.enqueue req).Fresh := hf

theorem Fresh.dequeue (x : SubmissionId) : (r.dequeue x).Fresh := hf

theorem Fresh.unassign (x : SubmissionId) : (r.unassign x).Fresh := hf

theorem Fresh.release (id : JudgeId) (x : SubmissionId) (j : Judge) : (r.release id x j).Fresh := by
  have hfreed : (r.modifyJudge id fun j => { j with working := none }).Fresh :=
    hf.modifyJudge id fun _ => rfl
  unfold Registry.release
  dsimp only
  split
  · split
    · exact hfreed.unassign x
    · exact hfreed
  · split
    · exact hf.unassign x
    · exact hf

end Fresh

/-- Dropping a live judge leaves fewer judges. -/
theorem drop_length_lt {r : Registry} {id : JudgeId} {j : Judge} (hj : r.find? id = some j) :
    (r.drop id).judges.length < r.judges.length := by
  obtain ⟨hmem, hid⟩ := find?_spec hj
  rw [drop_judges]
  exact List.length_filter_lt_length_iff_exists.2 ⟨j, hmem, by simp [hid]⟩

/-- The fuel the public operations start the cascade with: more than the three levels per
judge that it needs. -/
theorem fuel_ample (r : Registry) : 3 * r.judges.length + 1 ≤ r.fuel := by
  unfold fuel
  omega

theorem drop_eq_self {r : Registry} {id : JudgeId} (h : r.find? id = none) : r.drop id = r := by
  unfold Registry.drop
  rw [h]

end Registry

/-! ## Commands that fit -/

/-- A command fits the registry it was sent from when, if it hands over a request, it goes to
a live judge that is enabled, free and able to grade the request, whose tier is the lowest
enabled tier and the tier the registry serves. -/
def Sent.Fits (e : Sent) : Prop :=
  ∀ q, e.command = .submit q → ∃ j ∈ e.registry.judges, j.link = e.link ∧ j.disabled = false ∧
    j.working = none ∧ j.accepts q = true ∧ e.registry.minTier = some j.tier ∧
    ∀ k ∈ e.registry.judges, k.disabled = false → j.tier ≤ k.tier

namespace Sent

theorem fits_of_ne_submit {r : Registry} {l : LinkId} {c : Command} (hc : ∀ q, c ≠ .submit q) :
    Fits ⟨r, l, c⟩ :=
  fun q hq => absurd hq (hc q)

/-- A request handed, by a registry whose kept tier is fresh, to a free enabled judge of that
tier that can grade it. -/
theorem fits_submit {r : Registry} {j : Judge} {req : Request} (hf : r.Fresh)
    (hj : j ∈ r.judges) (ha : j.isAvailable = true) (hacc : j.accepts req = true)
    (ht : r.minTier = some j.tier) : Fits ⟨r, j.link, .submit req⟩ := by
  intro q hq
  obtain rfl : req = q := Command.submit.inj hq
  obtain ⟨hd, hw⟩ := Registry.isAvailable_iff.1 ha
  exact ⟨j, hj, rfl, hd, hw, hacc, ht, fun k hk hkd => hf.le_tier ht hk hkd⟩

/-- Work offered to a free judge fits: the offer admits the serving tier or below, and no
enabled judge is below the lowest enabled tier. -/
theorem fits_offer {r : Registry} {id : JudgeId} {j : Judge} {req : Request} (hf : r.Fresh)
    (ho : r.offer id = some (j, req)) : Fits ⟨r, j.link, .submit req⟩ := by
  obtain ⟨hfind, ha, ⟨t, ht, hle⟩, hq⟩ := Registry.offer_spec ho
  have hj := (Registry.find?_spec hfind).1
  have hge : t ≤ j.tier := hf.le_tier ht hj (Registry.isAvailable_iff.1 ha).1
  have htier : j.tier = t := Nat.le_antisymm hle hge
  exact fits_submit hf hj ha (Registry.firstFor_spec hq).2 (htier ▸ ht)

theorem fits_eligible {r : Registry} {req : Request} {j : Judge} (hf : r.Fresh)
    (hj : j ∈ r.eligible req) : Fits ⟨r, j.link, .submit req⟩ := by
  obtain ⟨hmem, ht, hacc, ha⟩ := Registry.mem_eligible hj
  exact fits_submit hf hmem ha hacc ht.symm

end Sent

namespace RegistryOp

variable {α γ : Type}

/-- The kept serving tier is fresh, and every command sent so far fits. -/
def Served (s : Registry × Outbox) : Prop := s.1.Fresh ∧ ∀ e ∈ s.2, e.Fits

theorem served_start {r : Registry} (hf : r.Fresh) : Served (r, []) :=
  ⟨hf, fun _ he => absurd he List.not_mem_nil⟩

theorem fits_append {o : Outbox} (ho : ∀ e ∈ o, e.Fits) {e : Sent} (he : e.Fits) :
    ∀ e' ∈ o ++ [e], e'.Fits := by
  intro e' he'
  rcases List.mem_append.1 he' with h | h
  · exact ho e' h
  · rw [List.mem_singleton.1 h]
    exact he

theorem served_send (l : LinkId) (c : Command) (hc : ∀ q, c ≠ .submit q) (links : Links)
    {s : Registry × Outbox} (hs : Served s) : Served ((send l c).runOn links s).2 := by
  rw [runOn_send]
  split
  · exact ⟨hs.1, fits_append hs.2 (Sent.fits_of_ne_submit hc)⟩
  · exact hs

/-- Offering work to each judge of a list in turn at one fuel keeps the tier served while
that fuel is enough for the registry, which only shrinks. -/
theorem served_forM (f : Nat)
    (hHandle : ∀ id links s, Served s → 3 * s.1.judges.length ≤ f →
      Served ((handleFree id f).runOn links s).2) (ids : List JudgeId) :
    Keeps (fun s s' => Served s → 3 * s.1.judges.length ≤ f →
      Served s' ∧ 3 * s'.1.judges.length ≤ f) (ids.forM fun i => handleFree i f) := by
  apply Keeps.forM
  · exact fun s hs hfuel => ⟨hs, hfuel⟩
  · intro s₁ s₂ s₃ h₁ h₂ hs hfuel
    obtain ⟨hs₂, hfuel₂⟩ := h₁ hs hfuel
    exact h₂ hs₂ hfuel₂
  · intro i links s hs hfuel
    have hle := (shrinking_handleFree i f links s).1.length_le
    exact ⟨hHandle i links s hs hfuel, by omega⟩

/-- The dispatch cascade keeps the tier served when its fuel is three times the number of
judges: offering work needs that much, removing a judge one less, and recomputing the tier,
which needs no fresh tier to start from, one more. Each level of the cascade either stops
or drops a judge, and dropping one frees three levels of fuel. -/
theorem served_cascade (f : Nat) :
    (∀ id links s, Served s → 3 * s.1.judges.length ≤ f →
      Served ((handleFree id f).runOn links s).2) ∧
    (∀ id links s, Served s → 3 * s.1.judges.length ≤ f + 1 →
      Served ((remove id f).runOn links s).2) ∧
    (∀ links s, (∀ e ∈ s.2, Sent.Fits e) → 3 * s.1.judges.length + 1 ≤ f →
      Served ((updateMinTier f).runOn links s).2) := by
  induction f with
  | zero =>
    refine ⟨fun id links s hs _ => ?_, fun id links s hs hfuel => ?_, fun links s _ hfuel => ?_⟩
    · rw [handleFree_zero]
      exact hs
    · -- without fuel only a registry with no judge is in budget, and it has none to remove
      have hnone : s.1.find? id = none := Registry.find?_eq_none.2 fun j hj =>
        absurd (List.length_pos_of_mem hj) (by omega)
      rw [remove_zero, Registry.drop_eq_self hnone]
      exact hs
    · omega
  | succ f ih =>
    obtain ⟨ihHandle, ihRemove, ihTier⟩ := ih
    refine ⟨fun id links s hs hfuel => ?_, fun id links s hs hfuel => ?_,
      fun links s hfits hfuel => ?_⟩
    · rw [handleFree_succ]
      rcases ho : s.1.offer id with _ | ⟨j, req⟩
      · exact hs
      · dsimp only
        split
        · exact ⟨hs.1.hand id req, fits_append hs.2 (Sent.fits_offer hs.1 ho)⟩
        · exact ihRemove id links s hs hfuel
    · rw [remove_succ]
      rcases hj : s.1.find? id with _ | j
      · exact hs
      · dsimp only
        have hlt := Registry.drop_length_lt hj
        rw [runOn_settle]
        dsimp only
        have htier := ihTier links (s.1.drop id, s.2) hs.2 (by dsimp only; omega)
        have hshrink := (shrinking_updateMinTier f links (s.1.drop id, s.2)).1.length_le
        dsimp only at hshrink
        generalize ((updateMinTier f).runOn links (s.1.drop id, s.2)).2 = s₁ at htier hshrink ⊢
        -- a judge left alone in the pool is offered work with the fuel left
        rcases s₁.1.pool with _ | ⟨only, _ | ⟨k, rest⟩⟩
        · exact htier
        · dsimp only
          split
          · exact ihHandle only.id links s₁ htier (by omega)
          · exact htier
        · exact htier
    · rw [updateMinTier_succ]
      split
      · next hsame => exact ⟨beq_iff_eq.1 hsame, hfits⟩
      · split
        · exact (served_forM f ihHandle _ links (s.1.refresh, s.2) ⟨Registry.fresh_refresh s.1, hfits⟩
            (Nat.le_of_add_le_add_right hfuel)).1
        · exact ⟨Registry.fresh_refresh s.1, hfits⟩

/-! ## Every public operation -/

/-- Every run of `op` from a state whose tier is served leaves one. -/
def KeepsServed (op : RegistryOp α) : Prop := Keeps (fun s s' => Served s → Served s') op

theorem keepsServed_refl (s : Registry × Outbox) : Served s → Served s := id

theorem keepsServed_trans (s₁ s₂ s₃ : Registry × Outbox) (h₁ : Served s₁ → Served s₂)
    (h₂ : Served s₂ → Served s₃) : Served s₁ → Served s₃ := h₂ ∘ h₁

theorem served_handleFree (id : JudgeId) (links : Links) {s : Registry × Outbox}
    (hs : Served s) : Served ((handleFree id s.1.fuel).runOn links s).2 :=
  (served_cascade _).1 id links s hs (Nat.le_of_succ_le s.1.fuel_ample)

theorem served_remove (id : JudgeId) (links : Links) {s : Registry × Outbox} (hs : Served s) :
    Served ((remove id s.1.fuel).runOn links s).2 :=
  (served_cascade _).2.1 id links s hs (Nat.le_succ_of_le (Nat.le_of_succ_le s.1.fuel_ample))

theorem served_updateMinTier (links : Links) {s : Registry × Outbox} (ho : ∀ e ∈ s.2, e.Fits) :
    Served ((updateMinTier s.1.fuel).runOn links s).2 :=
  (served_cascade _).2.2 links s ho s.1.fuel_ample

theorem keepsServed_offerWork (id : JudgeId) : KeepsServed (offerWork id) := by
  intro links s hs
  rw [runOn_offerWork]
  exact served_handleFree id links hs

theorem keepsServed_dispatchLoop (req : Request) (tie : TieBreak) (f : Nat) : KeepsServed (dispatchLoop req tie f) := by
  induction f generalizing tie with
  | zero =>
    intro links s hs
    rw [dispatchLoop_zero]
    exact ⟨hs.1.enqueue req, hs.2⟩
  | succ f ih =>
    intro links s hs
    rw [dispatchLoop_succ]
    rcases hl : Registry.pickLeast (tie 0) (s.1.eligible req) with _ | j
    · exact ⟨hs.1.enqueue req, hs.2⟩
    · dsimp only
      split
      · exact ⟨hs.1.give j.id req,
          fits_append hs.2 (Sent.fits_eligible hs.1 (Registry.pickLeast_mem hl))⟩
      · -- the judge that refused is removed, and the request is offered again
        exact ih _ links _ (served_remove j.id links hs)

theorem keepsServed_dispatch (req : Request) (tie : TieBreak) : KeepsServed (dispatch req tie) := by
  intro links s hs
  rw [runOn_dispatch]
  split
  · exact hs
  · exact keepsServed_dispatchLoop req tie _ links s hs

theorem keepsServed_evict (acc : List SubmissionId) (x : JudgeId) : KeepsServed (evict acc x) := by
  intro links s hs
  rw [runOn_evict]
  dsimp only
  rcases s.1.find? x with _ | old
  · exact served_remove x links hs
  · exact served_remove x links (served_send old.link _ (disconnect_ne_submit true) links hs)

/-- Registering: the evictions keep the tier served; enrolling the judge makes it stale, and
recomputing it makes it fresh again before the new judge is offered work. -/
theorem keepsServed_register (j : Judge) : KeepsServed (register j) := by
  intro links s hs
  rw [runOn_register]
  dsimp only
  have hevict := Keeps.foldlM keepsServed_refl keepsServed_trans keepsServed_evict
    ((s.1.judges.filter (·.name == j.name)).map (·.id)) [] links s hs
  generalize ((((s.1.judges.filter (·.name == j.name)).map (·.id)).foldlM evict []).runOn
    links s) = e at hevict ⊢
  exact served_handleFree _ links (served_updateMinTier links (s := (e.2.1.enroll j, e.2.2)) hevict.2)

theorem keepsServed_abort (x : SubmissionId) : KeepsServed (abort x) := by
  intro links s hs
  rw [runOn_abort]
  rcases s.1.assignedTo x with _ | id
  · exact ⟨hs.1.dequeue x, hs.2⟩
  · dsimp only
    rcases s.1.find? id with _ | j
    · exact hs
    · exact served_send j.link _ (abort_ne_submit x) links hs

theorem keepsServed_sendAll (js : List Judge) (c : Command) (hc : ∀ q, c ≠ .submit q) :
    KeepsServed (js.forM fun j => do let _ ← send j.link c) := by
  apply Keeps.forM keepsServed_refl keepsServed_trans
  intro j links s hs
  simp only [runOn_bind, runOn_pure]
  exact served_send j.link c hc links hs

theorem keepsServed_disconnect (name : String) (force : Bool) :
    KeepsServed (disconnect name force) := by
  intro links s
  simp only [disconnect, runOn_bind, runOn_registry]
  exact keepsServed_sendAll _ _ (disconnect_ne_submit force) links s

theorem keepsServed_disconnectAll (force : Bool) : KeepsServed (disconnectAll force) := by
  intro links s
  simp only [disconnectAll, runOn_bind, runOn_registry]
  exact keepsServed_sendAll _ _ (disconnect_ne_submit force) links s

/-- Enabling or disabling judges makes the tier stale until it is recomputed; only then are
the enabled judges offered work. -/
theorem keepsServed_setDisabled (name : String) (d : Bool) : KeepsServed (setDisabled name d) := by
  intro links s hs
  rw [runOn_setDisabled]
  dsimp only
  split
  · exact hs
  · have htier := served_updateMinTier links (s := (s.1.markDisabled name d, s.2)) hs.2
    split
    · exact Keeps.forM keepsServed_refl keepsServed_trans keepsServed_offerWork _ links _ htier
    · exact htier

theorem keepsServed_onJudgeFree (id : JudgeId) (x : SubmissionId) :
    KeepsServed (onJudgeFree id x) := by
  intro links s hs
  rcases hj : s.1.find? id with _ | j
  · rw [runOn_onJudgeFree_of_none links x hj]
    exact hs
  · rw [runOn_onJudgeFree_of_find links x hj]
    exact keepsServed_offerWork id links _ ⟨hs.1.release id x j, hs.2⟩

theorem CapabilityChange.rank {g : Judge → Judge} (hg : CapabilityChange g) (j : Judge) :
    (g j).rank = j.rank := by
  rw [Judge.rank, Judge.rank, hg.disabled, hg.tier]

theorem keepsServed_capabilityUpdate {id : JudgeId} {op : RegistryOp Unit}
    (update : CapabilityUpdate id op) : KeepsServed op := by
  obtain ⟨g, hg, run⟩ := update
  intro links s hs
  rw [run]
  split
  · exact keepsServed_offerWork id links _ ⟨hs.1.modifyJudge id hg.rank, hs.2⟩
  · exact hs

theorem keepsServed_setPing (id : JudgeId) (load : Option Binary64) (ping : Binary64) :
    KeepsServed (setPing id load ping) := by
  intro links s hs
  rw [runOn_setPing]
  exact ⟨hs.1.modifyJudge id fun _ => rfl, hs.2⟩

theorem keepsServed_leave (id : JudgeId) : KeepsServed (leave id) := by
  intro links s hs
  rw [runOn_leave]
  exact served_remove id links hs

end RegistryOp

/-- A call from a registry whose kept tier is fresh leaves it fresh, and sends only fitting
commands. -/
theorem Call.run_served (c : Call) (links : Links) {r : Registry} (hf : r.Fresh) :
    RegistryOp.Served (c.run links r) := by
  have hs := RegistryOp.served_start hf
  cases c with
  | register name tier ps es d link => exact RegistryOp.keepsServed_register _ links _ hs
  | dispatch req tie => exact RegistryOp.keepsServed_dispatch req tie links _ hs
  | abort x => exact RegistryOp.keepsServed_abort x links _ hs
  | disconnect name force => exact RegistryOp.keepsServed_disconnect name force links _ hs
  | setDisabled name d => exact RegistryOp.keepsServed_setDisabled name d links _ hs
  | leave id => exact RegistryOp.keepsServed_leave id links _ hs
  | onJudgeFree id x => exact RegistryOp.keepsServed_onJudgeFree id x links _ hs
  | setProblems id ps =>
    exact RegistryOp.keepsServed_capabilityUpdate (RegistryOp.capabilityUpdate_setProblems id ps)
      links _ hs
  | setExecutors id es =>
    exact RegistryOp.keepsServed_capabilityUpdate (RegistryOp.capabilityUpdate_setExecutors id es)
      links _ hs
  | setPing id load ping => exact RegistryOp.keepsServed_setPing id load ping links _ hs
  | disconnectAll force => exact RegistryOp.keepsServed_disconnectAll force links _ hs

theorem Registry.Reachable.fresh {r : Registry} (h : r.Reachable) : r.Fresh := by
  induction h with
  | empty => rfl
  | call c links _ ih => exact (Call.run_served c links ih).1

/-- Tier exclusivity: after every call from a reachable registry, the kept serving tier is the
lowest tier among enabled judges (`none` when no judge is enabled), and every request the call
sent went to a live judge that was, at that moment, enabled, free, able to grade it and of the
lowest enabled tier. -/
theorem tier_exclusive {r : Registry} (h : r.Reachable) (c : Call) (links : Links) :
    (c.run links r).1.IsLowestTier (c.run links r).1.minTier ∧ ∀ e ∈ (c.run links r).2, e.Fits := by
  obtain ⟨hf, hfits⟩ := Call.run_served c links h.fresh
  exact ⟨Registry.fresh_iff.1 hf, hfits⟩

theorem tier_exclusive_after_register :
    Registry.Reachable ((Call.register "a" 0 ["aplusb"] ["PY3"] false 1).run (fun _ => true)
      Registry.empty).1 ∧
    ((Call.dispatch ⟨7, "aplusb", "PY3", "", none, 1⟩ (fun _ => 0)).run (fun _ => true)
      ((Call.register "a" 0 ["aplusb"] ["PY3"] false 1).run (fun _ => true)
        Registry.empty).1).1.IsLowestTier
      ((Call.dispatch ⟨7, "aplusb", "PY3", "", none, 1⟩ (fun _ => 0)).run (fun _ => true)
        ((Call.register "a" 0 ["aplusb"] ["PY3"] false 1).run (fun _ => true)
          Registry.empty).1).1.minTier ∧
    ∀ e ∈ ((Call.dispatch ⟨7, "aplusb", "PY3", "", none, 1⟩ (fun _ => 0)).run (fun _ => true)
      ((Call.register "a" 0 ["aplusb"] ["PY3"] false 1).run (fun _ => true)
        Registry.empty).1).2, e.Fits :=
  have h : Registry.Reachable ((Call.register "a" 0 ["aplusb"] ["PY3"] false 1).run
      (fun _ => true) Registry.empty).1 := .call _ _ .empty
  ⟨h, tier_exclusive h (.dispatch ⟨7, "aplusb", "PY3", "", none, 1⟩ (fun _ => 0)) (fun _ => true)⟩

end JudgeRelay
