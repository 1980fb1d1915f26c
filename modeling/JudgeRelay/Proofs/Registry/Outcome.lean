import JudgeRelay.Proofs.Registry.Conservation
import JudgeRelay.Proofs.Queue.Refinement

/-!
# How dispatching a request ends

Dispatching a request the registry does not know runs in rounds. Each round offers the
request to the least loaded judge eligible for it (`Registry.eligible`: the free judges of
the serving tier that can grade it, less the one kept for interactive work); a judge whose
link refuses the request is removed, with the cascade the removal starts, and the next round
begins. This module describes a whole dispatch from its last round (`dispatch_outcome`):

* a request the registry already knows is answered `duplicate`, and nothing changes;
* no judge whose link is open is removed, by the rounds or by their cascades;
* the request goes to a judge of least load among those eligible in the last round, and
  the registry records the assignment; or, when none is eligible, it waits at the back of
  its band.

The rounds end before their fuel does: each refusal removes a judge, and the fuel is one
round more than there are judges (`dispatchLoop_ends`).
-/

namespace JudgeRelay

namespace Registry

/-! ## Judges whose link is open stay -/

section KeepsOpen

variable (links : Links)

/-- `r'` still holds every judge of `r` whose link is open, as it was but for what it
grades. -/
def KeepsOpen (r r' : Registry) : Prop :=
  ∀ j ∈ r.judges, links j.link = true → ∃ k ∈ r'.judges, k.profile = j.profile

theorem KeepsOpen.refl (r : Registry) : r.KeepsOpen links r :=
  fun j member _ => ⟨j, member, rfl⟩

theorem KeepsOpen.trans {r r' r'' : Registry} (h₁ : r.KeepsOpen links r')
    (h₂ : r'.KeepsOpen links r'') : r.KeepsOpen links r'' := by
  intro j member up
  obtain ⟨k, kept, same⟩ := h₁ j member up
  have upK : links k.link = true := by
    rw [← Judge.profile_link, same, Judge.profile_link]
    exact up
  obtain ⟨k', kept', same'⟩ := h₂ k kept upK
  exact ⟨k', kept', same'.trans same⟩

/-- A change that keeps every judge's profile keeps every judge. -/
theorem keepsOpen_of_profiles {r r' : Registry}
    (h : r'.judges.map Judge.profile = r.judges.map Judge.profile) : r.KeepsOpen links r' := by
  intro j member _
  have listed : j.profile ∈ r'.judges.map Judge.profile := h ▸ List.mem_map_of_mem member
  simpa using listed

theorem keepsOpen_setWorking (r : Registry) (id : JudgeId) (s : SubmissionId) :
    r.KeepsOpen links (r.setWorking id s) :=
  keepsOpen_of_profiles links (modifyJudge_map r id _ Judge.profile fun _ => rfl)

theorem keepsOpen_hand (r : Registry) (id : JudgeId) (req : Request) :
    r.KeepsOpen links (r.hand id req) :=
  keepsOpen_setWorking links r id req.id

theorem keepsOpen_give (r : Registry) (id : JudgeId) (req : Request) :
    r.KeepsOpen links (r.give id req) :=
  keepsOpen_setWorking links r id req.id

/-- Dropping a judge whose link is closed keeps every judge whose link is open: in a
consistent registry no other judge shares its id. -/
theorem keepsOpen_drop {r : Registry} (hc : r.Consistent) {id : JudgeId} {j : Judge}
    (found : r.find? id = some j) (closed : links j.link = false) :
    r.KeepsOpen links (r.drop id) := by
  intro k member up
  have other : k.id ≠ id := by
    rintro rfl
    obtain ⟨present, same⟩ := hc.find?_eq_some.1 found
    rw [hc.eq_of_id_eq member present same.symm, closed] at up
    cases up
  refine ⟨k, ?_, rfl⟩
  rw [drop_judges, List.mem_filter]
  exact ⟨member, by simpa using other⟩

end KeepsOpen

/-- Giving a request to a judge records it as that judge's. -/
@[simp] theorem assignedTo_give (r : Registry) (id : JudgeId) (req : Request) :
    (r.give id req).assignedTo req.id = some id := by
  simp only [give, assign, assignedTo]
  -- the older assignments of the request are filtered out before the new one is appended
  rw [List.find?_append, List.find?_eq_none.2]
  · simp
  · intro p member
    simp only [List.mem_filter, bne_iff_ne, ne_eq] at member
    simpa using member.2

end Registry

namespace PendingQueue

/-- Pushing a new request onto a well formed queue appends it to the back of band
`min priority 3`, the other bands as they were. -/
theorem view_push_wellFormed {q : PendingQueue} (hwf : q.WellFormed) {r : Request}
    (absent : q.contains r.id = false) :
    (q.push r).2.view.bands =
      q.view.bands.modify (min r.priority (Priority.bands - 1)) (· ++ [r]) := by
  rw [view_push_of_absent absent hwf.slot_lt, bandOf, hwf.bands_length]

end PendingQueue

namespace RegistryOp

variable (links : Links)

/-! ## The cascade keeps the judges whose link is open -/

/-- Settling keeps every judge whose link is open when recomputing the serving tier and
offering work do. -/
theorem keepsOpen_settle {f : Nat}
    (tier : ∀ s : Registry × Outbox, s.1.Consistent →
      s.1.KeepsOpen links ((updateMinTier f).runOn links s).2.1)
    (handle : ∀ id (s : Registry × Outbox), s.1.Consistent →
      s.1.KeepsOpen links ((handleFree id f).runOn links s).2.1)
    (s : Registry × Outbox) (hc : s.1.Consistent) :
    s.1.KeepsOpen links ((settle f).runOn links s).2.1 := by
  rw [runOn_settle]
  dsimp only
  have kept := tier s hc
  have hc₁ := (consistent_cascade f).2.2 links s hc
  generalize ((updateMinTier f).runOn links s).2 = s₁ at kept hc₁ ⊢
  rcases s₁.1.pool with _ | ⟨only, _ | ⟨k, rest⟩⟩
  · exact kept
  · dsimp only
    split
    · exact kept.trans links (handle only.id s₁ hc₁)
    · exact kept
  · exact kept

/-- From a consistent registry, offering work and recomputing the serving tier keep every
judge whose link is open, at every fuel; so does removing judge `id`, once that judge is
dropped. A judge leaves the cascade only when its link refuses the work it is offered. -/
theorem keepsOpen_cascade (f : Nat) :
    (∀ id (s : Registry × Outbox), s.1.Consistent →
      s.1.KeepsOpen links ((handleFree id f).runOn links s).2.1) ∧
    (∀ id (s : Registry × Outbox), s.1.Consistent →
      (s.1.drop id).KeepsOpen links ((remove id f).runOn links s).2.1) ∧
    (∀ s : Registry × Outbox, s.1.Consistent →
      s.1.KeepsOpen links ((updateMinTier f).runOn links s).2.1) := by
  induction f with
  | zero =>
    refine ⟨fun id s _ => ?_, fun id s _ => ?_, fun s _ => ?_⟩
    · rw [handleFree_zero]
      exact Registry.KeepsOpen.refl links _
    · rw [remove_zero]
      exact Registry.KeepsOpen.refl links _
    · rw [updateMinTier_zero]
      exact Registry.keepsOpen_of_profiles links rfl
  | succ f ih =>
    obtain ⟨ihHandle, ihRemove, ihTier⟩ := ih
    refine ⟨fun id s hc => ?_, fun id s hc => ?_, fun s hc => ?_⟩
    · rw [handleFree_succ]
      rcases offered : s.1.offer id with _ | ⟨j, req⟩
      · exact Registry.KeepsOpen.refl links _
      · dsimp only
        split
        · exact Registry.keepsOpen_hand links _ _ _
        · -- the judge refused the work, so its link is closed
          next closed =>
          have found := (Registry.offer_spec offered).1
          exact (Registry.keepsOpen_drop links hc found (by simpa using closed)).trans links
            (ihRemove id s hc)
    · rw [remove_succ]
      rcases found : s.1.find? id with _ | j
      · rw [Registry.drop_eq_self found]
        exact Registry.KeepsOpen.refl links _
      · exact keepsOpen_settle links ihTier ihHandle (s.1.drop id, s.2) (hc.drop id)
    · rw [updateMinTier_succ]
      split
      · exact Registry.KeepsOpen.refl links _
      · split
        · -- every free judge of the new pool is offered work in turn
          refine (forM_invariant links (fun _ t => t.1.Consistent ∧ s.1.KeepsOpen links t.1)
            (fun x xs t step => ⟨(consistent_cascade f).1 x links t step.1,
              step.2.trans links (ihHandle x t step.1)⟩) s.1.refresh.freeInPool (s.1.refresh, s.2)
            ⟨hc.refresh, Registry.keepsOpen_of_profiles links rfl⟩).2
        · exact Registry.keepsOpen_of_profiles links rfl

/-- Removing a judge whose link is closed keeps every judge whose link is open. -/
theorem keepsOpen_remove {s : Registry × Outbox} (hc : s.1.Consistent) {j : Judge}
    (member : j ∈ s.1.judges) (closed : links j.link = false) (f : Nat) :
    s.1.KeepsOpen links ((remove j.id f).runOn links s).2.1 :=
  (Registry.keepsOpen_drop links hc (hc.find?_eq_some.2 ⟨member, rfl⟩) closed).trans links
    ((keepsOpen_cascade links f).2.1 j.id s hc)

/-! ## The last round -/

/-- How the last round of a dispatch ends, from the state `t` it starts in. -/
inductive Ends (req : Request) (t : Registry × Outbox) : Dispatch × Registry × Outbox → Prop
  /-- A least loaded eligible judge, the one the tie-break picks, takes the request through its
  open link. -/
  | assigned {j : Judge} : j ∈ Registry.leastLoaded (t.1.eligible req) →
      links j.link = true →
      Ends req t (.assigned j.name, t.1.give j.id req, t.2 ++ [⟨t.1, j.link, .submit req⟩])
  /-- No judge is eligible, and the request waits. -/
  | queued : t.1.eligible req = [] → Ends req t (.queued, t.1.enqueue req, t.2)

/-- A dispatch with fuel for one round more than there are judges ends in a round that
starts from a sound state reached by removing only judges whose link is closed, where the
request is still unknown. -/
theorem dispatchLoop_ends (req : Request) (tie : TieBreak) (f : Nat) :
    ∀ s : Registry × Outbox, Sound s → s.1.tracks req.id = false →
      s.1.judges.length + 1 ≤ f →
      ∃ t : Registry × Outbox, Sound t ∧ t.1.tracks req.id = false ∧ s.1.Shrinks t.1 ∧
        s.1.KeepsOpen links t.1 ∧ Ends links req t ((dispatchLoop req tie f).runOn links s) := by
  induction f generalizing tie with
  | zero => intro s _ _ fuel; omega
  | succ f ih =>
    intro s hs unknown fuel
    rw [dispatchLoop_succ]
    rcases chosen : Registry.pickLeast (tie 0) (s.1.eligible req) with _ | j
    · exact ⟨s, hs, unknown, Registry.Shrinks.refl _, Registry.KeepsOpen.refl links _,
        .queued (Registry.pickLeast_eq_none chosen)⟩
    · obtain ⟨member, -, -, -⟩ := Registry.mem_eligible (Registry.pickLeast_mem chosen)
      dsimp only
      split
      · next up =>
        exact ⟨s, hs, unknown, Registry.Shrinks.refl _, Registry.KeepsOpen.refl links _,
          .assigned (Registry.pickLeast_mem_leastLoaded chosen) up⟩
      · -- the judge refused: it is removed, and the next round starts with one judge fewer
        next closed =>
        have found : s.1.find? j.id = some j := hs.consistent.find?_eq_some.2 ⟨member, rfl⟩
        have stillUnknown := ((forgetting_cascade s.1.fuel).2.1 j.id links s).untracked unknown
        have smaller : ((remove j.id s.1.fuel).runOn links s).2.1.judges.length < s.1.judges.length :=
          remove_length_lt s.1.fuel found
        obtain ⟨t, sound, tracks, shrinks, kept, ends⟩ :=
          ih _ _ (sound_remove_fuel hs) stillUnknown (by omega)
        exact ⟨t, sound, tracks, ((shrinking_remove j.id _ links s).1).trans shrinks,
          (keepsOpen_remove links hs.consistent member (by simpa using closed) _).trans links kept,
          ends⟩

end RegistryOp

/-- A judge registers and its link closes; a request it could grade is then dispatched: the
judge refuses it and is removed, and the request waits. -/
example :
    RegistryOp.exec (RegistryOp.dispatch ⟨7, "aplusb", "PY3", "", none, 1⟩ (fun _ => 0)) (fun l => l != 1)
        ((Call.register "a" 0 ["aplusb"] ["PY3"] false 1).run (fun _ => true) Registry.empty).1 =
      (.queued, ({ Registry.empty with nextId := 2 } : Registry).enqueue
        ⟨7, "aplusb", "PY3", "", none, 1⟩, []) := rfl

end JudgeRelay
