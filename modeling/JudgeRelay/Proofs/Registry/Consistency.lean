import Mathlib.Data.List.Nodup
import JudgeRelay.Proofs.Registry.Frame

/-!
# The registry's records agree

The registry keeps three records that must agree: the live judges, the pending queue, and
the assignments of submissions to judges. `Registry.Consistent` says how: judges have
distinct ids, all below the next id, and distinct names; every assignment names a live
judge that grades that very submission, which does not also wait in the queue; and a judge
that grades a submission has it assigned.

Each plain change of the registry that an operation makes keeps the invariant under its
own guard (`Consistent.drop`, `Consistent.hand`, `Consistent.give`, ...); hence every
operation does, whatever links are open, and every reachable registry is consistent
(`Registry.Reachable.consistent`). `registry_consistent` spells out what that means for the
assignment map.
-/

namespace JudgeRelay

namespace Registry

/-- The registry's records agree with each other. -/
structure Consistent (r : Registry) : Prop where
  /-- Judges have distinct ids, ... -/
  ids_nodup : (r.judges.map (·.id)).Nodup
  /-- ... all below the id the next judge gets. -/
  ids_lt : ∀ i ∈ r.judges.map (·.id), i < r.nextId
  /-- Live judges have distinct names. -/
  names_nodup : (r.judges.map (·.name)).Nodup
  /-- A submission is assigned to one judge at most. -/
  keys_nodup : (r.assignments.map (·.1)).Nodup
  /-- An assigned submission is what its judge, a live one, grades. -/
  assigned_working : ∀ p ∈ r.assignments, ∃ j ∈ r.judges, j.id = p.2 ∧ j.working = some p.1
  /-- An assigned submission does not wait. -/
  assigned_unqueued : ∀ p ∈ r.assignments, r.queue.contains p.1 = false
  /-- A judge that grades a submission has it assigned. -/
  working_assigned : ∀ j ∈ r.judges, ∀ s, j.working = some s → (s, j.id) ∈ r.assignments

/-- The registry's own consistency check: an assigned submission does not wait and is what
its judge, a live one, grades; a judge that grades a submission has it assigned. -/
def checkConsistent (r : Registry) : Bool :=
  r.assignments.all (fun p => !r.queue.contains p.1 && (r.find? p.2).any (·.working == some p.1)) &&
    r.judges.all fun j => match j.working with
      | some s => r.assignedTo s == some j.id
      | none => true

theorem consistent_empty : empty.Consistent where
  ids_nodup := List.nodup_nil
  ids_lt := fun _ h => nomatch h
  names_nodup := List.nodup_nil
  keys_nodup := List.nodup_nil
  assigned_working := fun _ h => nomatch h
  assigned_unqueued := fun _ h => nomatch h
  working_assigned := fun _ h => nomatch h

theorem map_map_of_eq {α : Type} (js : List Judge) (g : Judge → Judge) (f : Judge → α)
    (h : ∀ j, f (g j) = f j) : (js.map g).map f = js.map f := by
  rw [List.map_map]
  exact List.map_congr_left fun j _ => h j

/-- A submission the registry does not know is assigned to nobody and does not wait. -/
theorem untracked {r : Registry} {x : SubmissionId} (hx : r.tracks x = false) :
    (∀ p ∈ r.assignments, p.1 ≠ x) ∧ r.queue.contains x = false := by
  constructor
  · rintro ⟨s, id⟩ hp rfl
    have ht : r.tracks s = true := tracks_iff.2 (.inl ⟨id, hp⟩)
    rw [hx] at ht
    cases ht
  · cases hq : r.queue.contains x
    · rfl
    · have ht : r.tracks x = true := tracks_iff.2 (.inr hq)
      rw [hx] at ht
      cases ht

/-- In a list of distinct keys, looking a key up finds the one entry with that key. -/
theorem find?_key_iff {β κ : Type} [BEq κ] [LawfulBEq κ] (key : β → κ) {l : List β}
    (hn : (l.map key).Nodup) {k : κ} {b : β} :
    l.find? (fun x => key x == k) = some b ↔ b ∈ l ∧ key b = k := by
  constructor
  · intro h
    exact ⟨List.mem_of_find?_eq_some h, by simpa using List.find?_some h⟩
  · rintro ⟨hb, rfl⟩
    have hsome : (l.find? fun x => key x == key b).isSome := List.find?_isSome.2 ⟨b, hb, by simp⟩
    obtain ⟨b', hb'⟩ := Option.isSome_iff_exists.1 hsome
    have hkey : key b' = key b := by simpa using List.find?_some hb'
    rw [hb', List.inj_on_of_nodup_map hn (List.mem_of_find?_eq_some hb') hb hkey]

namespace Consistent

variable {r : Registry} (hc : r.Consistent)
include hc

/-! ## Lookups in a consistent registry -/

theorem eq_of_id_eq {j k : Judge} (hj : j ∈ r.judges) (hk : k ∈ r.judges) (h : j.id = k.id) :
    j = k :=
  List.inj_on_of_nodup_map hc.ids_nodup hj hk h

theorem eq_of_key_eq {p q : SubmissionId × JudgeId} (hp : p ∈ r.assignments)
    (hq : q ∈ r.assignments) (h : p.1 = q.1) : p = q :=
  List.inj_on_of_nodup_map hc.keys_nodup hp hq h

theorem find?_eq_some {id : JudgeId} {j : Judge} : r.find? id = some j ↔ j ∈ r.judges ∧ j.id = id :=
  find?_key_iff Judge.id hc.ids_nodup

theorem assignedTo_eq_some {s : SubmissionId} {id : JudgeId} :
    r.assignedTo s = some id ↔ (s, id) ∈ r.assignments := by
  simp only [assignedTo, Option.map_eq_some_iff, find?_key_iff Prod.fst hc.keys_nodup]
  constructor
  · rintro ⟨⟨s', id'⟩, ⟨hp, rfl⟩, rfl⟩
    exact hp
  · intro h
    exact ⟨(s, id), ⟨h, rfl⟩, rfl⟩

/-- A judge with work has nothing else assigned: its work is what it is assigned. -/
theorem working_eq {j : Judge} (hj : j ∈ r.judges) {s : SubmissionId}
    (hs : (s, j.id) ∈ r.assignments) : j.working = some s := by
  obtain ⟨k, hk, hkid, hkw⟩ := hc.assigned_working _ hs
  rw [← hc.eq_of_id_eq hk hj hkid]
  exact hkw

/-- A consistent registry passes its own consistency check. -/
theorem check : r.checkConsistent = true := by
  simp only [checkConsistent, Bool.and_eq_true, List.all_eq_true]
  constructor
  · intro p hp
    obtain ⟨j, hj, hid, hw⟩ := hc.assigned_working p hp
    have hfind : r.find? p.2 = some j := hc.find?_eq_some.2 ⟨hj, hid⟩
    simp [hc.assigned_unqueued p hp, hfind, hw]
  · intro j hj
    split
    · next s hw => simpa using hc.assignedTo_eq_some.2 (hc.working_assigned j hj s hw)
    · rfl

/-- No two live judges grade the same submission. -/
theorem working_unique {j k : Judge} (hj : j ∈ r.judges) (hk : k ∈ r.judges) {s : SubmissionId}
    (hjs : j.working = some s) (hks : k.working = some s) : j = k := by
  apply hc.eq_of_id_eq hj hk
  have hsame := hc.eq_of_key_eq (hc.working_assigned j hj s hjs) (hc.working_assigned k hk s hks) rfl
  exact congrArg Prod.snd hsame

/-- What a dropped judge takes with it is exactly its work. -/
theorem orphan_eq {id : JudgeId} {j : Judge} (hj : r.find? id = some j) :
    j.working.filter (fun s => r.assignedTo s == some id) = j.working := by
  obtain ⟨hjm, rfl⟩ := find?_spec hj
  rcases hw : j.working with _ | s
  · rfl
  · have has : r.assignedTo s = some j.id := hc.assignedTo_eq_some.2 (hc.working_assigned j hjm s hw)
    simp [has]

/-! ## Plain changes that keep the records in agreement -/

/-- A change that maps every judge to one with the same id and name keeps the registry
consistent when the new assignments and queue agree with the judges' new work. -/
theorem of_map {r' : Registry} (g : Judge → Judge) (hg : ∀ j, (g j).id = j.id ∧ (g j).name = j.name)
    (hj : r'.judges = r.judges.map g) (hn : r'.nextId = r.nextId)
    (hkeys : (r'.assignments.map (·.1)).Nodup)
    (haw : ∀ p ∈ r'.assignments, ∃ j ∈ r.judges, j.id = p.2 ∧ (g j).working = some p.1)
    (hau : ∀ p ∈ r'.assignments, r'.queue.contains p.1 = false)
    (hwa : ∀ j ∈ r.judges, ∀ s, (g j).working = some s → (s, j.id) ∈ r'.assignments) :
    r'.Consistent where
  ids_nodup := by
    rw [hj, map_map_of_eq _ _ _ fun j => (hg j).1]
    exact hc.ids_nodup
  ids_lt := by
    rw [hj, map_map_of_eq _ _ _ fun j => (hg j).1, hn]
    exact hc.ids_lt
  names_nodup := by
    rw [hj, map_map_of_eq _ _ _ fun j => (hg j).2]
    exact hc.names_nodup
  keys_nodup := hkeys
  assigned_working := by
    intro p hp
    obtain ⟨j, hjm, hid, hw⟩ := haw p hp
    exact ⟨g j, hj ▸ List.mem_map_of_mem hjm, (hg j).1.trans hid, hw⟩
  assigned_unqueued := hau
  working_assigned := by
    intro j' hj' s hs
    rw [hj] at hj'
    obtain ⟨j, hjm, rfl⟩ := List.mem_map.1 hj'
    rw [(hg j).1]
    exact hwa j hjm s hs

/-- Changing what judges can do, their load or whether they are enabled. -/
theorem map_judges {r' : Registry} (g : Judge → Judge)
    (hg : ∀ j, (g j).id = j.id ∧ (g j).name = j.name ∧ (g j).working = j.working)
    (hj : r'.judges = r.judges.map g) (hq : r'.queue = r.queue)
    (ha : r'.assignments = r.assignments) (hn : r'.nextId = r.nextId) : r'.Consistent := by
  refine hc.of_map g (fun j => ⟨(hg j).1, (hg j).2.1⟩) hj hn ?_ ?_ ?_ ?_ <;> rw [ha]
  · exact hc.keys_nodup
  · intro p hp
    obtain ⟨j, hjm, hid, hw⟩ := hc.assigned_working p hp
    exact ⟨j, hjm, hid, (hg j).2.2.trans hw⟩
  · rw [hq]
    exact hc.assigned_unqueued
  · intro j hjm s hs
    exact hc.working_assigned j hjm s ((hg j).2.2.symm.trans hs)

theorem refresh : r.refresh.Consistent :=
  hc.map_judges id (fun _ => ⟨rfl, rfl, rfl⟩) (List.map_id _).symm rfl rfl rfl

theorem modifyJudge {id : JudgeId} {f : Judge → Judge}
    (hf : ∀ j, (f j).id = j.id ∧ (f j).name = j.name ∧ (f j).working = j.working) :
    (r.modifyJudge id f).Consistent := by
  refine hc.map_judges _ (fun j => ?_) rfl rfl rfl rfl
  split
  · exact hf j
  · exact ⟨rfl, rfl, rfl⟩

theorem markDisabled (name : String) (d : Bool) : (r.markDisabled name d).Consistent := by
  refine hc.map_judges _ (fun j => ?_) rfl rfl rfl rfl
  split <;> exact ⟨rfl, rfl, rfl⟩

theorem dequeue (x : SubmissionId) : (r.dequeue x).Consistent :=
  { hc with
    assigned_unqueued := fun p hp => by
      simp [Registry.dequeue, PendingQueue.contains_remove, hc.assigned_unqueued p hp] }

/-- A request the registry does not know may wait. -/
theorem enqueue {req : Request} (hx : r.tracks req.id = false) : (r.enqueue req).Consistent :=
  { hc with
    assigned_unqueued := fun p hp => by
      have hne : req.id ≠ p.1 := fun h => (untracked hx).1 p hp h.symm
      simp [Registry.enqueue, PendingQueue.contains_push, hc.assigned_unqueued p hp, hne] }

/-- A free live judge takes a request the registry does not know. -/
theorem give {id : JudgeId} {j : Judge} {req : Request} (hj : r.find? id = some j)
    (hfree : j.working = none) (hx : r.tracks req.id = false) : (r.give id req).Consistent := by
  obtain ⟨hjm, rfl⟩ := find?_spec hj
  obtain ⟨hkeys, hq⟩ := untracked hx
  -- nothing was assigned under the request's id, so assigning it drops no entry
  have ha : (r.give j.id req).assignments = r.assignments ++ [(req.id, j.id)] := by
    simp only [Registry.give, assign, setWorking, Registry.modifyJudge]
    rw [List.filter_eq_self.2 fun p hp => by simpa using hkeys p hp]
  -- a judge that grades something is not the free judge `j`
  have hbusy : ∀ k ∈ r.judges, ∀ s, k.working = some s → k.id ≠ j.id := by
    intro k hk s hs hid
    rw [hc.eq_of_id_eq hk hjm hid, hfree] at hs
    cases hs
  refine hc.of_map (fun k => if k.id == j.id then { k with working := some req.id } else k)
    (fun k => by split <;> exact ⟨rfl, rfl⟩) rfl rfl ?_ ?_ ?_ ?_ <;> rw [ha]
  · rw [List.map_append, List.nodup_append]
    refine ⟨hc.keys_nodup, List.nodup_singleton _, ?_⟩
    intro a ha' b hb
    obtain ⟨p, hp, rfl⟩ := List.mem_map.1 ha'
    rw [List.mem_singleton.1 hb]
    exact hkeys p hp
  · intro p hp
    rcases List.mem_append.1 hp with hp | hp
    · obtain ⟨k, hk, hid, hw⟩ := hc.assigned_working p hp
      exact ⟨k, hk, hid, by simp [hbusy k hk _ hw, hw]⟩
    · rw [List.mem_singleton.1 hp]
      exact ⟨j, hjm, rfl, by simp⟩
  · intro p hp
    rcases List.mem_append.1 hp with hp | hp
    · exact hc.assigned_unqueued p hp
    · rw [List.mem_singleton.1 hp]
      exact hq
  · intro k hk s hs
    by_cases hid : k.id = j.id
    · simp only [hid, beq_self_eq_true, if_true, Option.some.injEq] at hs
      rw [hid, ← hs]
      exact List.mem_append_right _ (List.mem_singleton_self _)
    · simp only [hid, beq_iff_eq, if_false] at hs
      exact List.mem_append_left _ (hc.working_assigned k hk s hs)

/-- A free live judge takes a waiting request. -/
theorem hand {id : JudgeId} {j : Judge} {req : Request} (hj : r.find? id = some j)
    (hfree : j.working = none) (hq : r.queue.contains req.id = true) :
    (r.hand id req).Consistent := by
  -- once out of the queue, the request is unknown: a waiting request is assigned to nobody
  have hx : (r.dequeue req.id).tracks req.id = false := by
    cases ht : (r.dequeue req.id).tracks req.id
    · rfl
    · rcases tracks_iff.1 ht with ⟨i, hi⟩ | hqd
      · have hun := hc.assigned_unqueued _ hi
        rw [hq] at hun
        cases hun
      · simp [Registry.dequeue, PendingQueue.contains_remove] at hqd
  exact (hc.dequeue req.id).give hj hfree hx

/-- A judge stops grading its work, which is unassigned. -/
theorem free {id : JudgeId} {j : Judge} {s : SubmissionId} (hj : r.find? id = some j)
    (hw : j.working = some s) :
    ((r.modifyJudge id fun k => { k with working := none }).unassign s).Consistent := by
  obtain ⟨hjm, rfl⟩ := find?_spec hj
  have hjs : (s, j.id) ∈ r.assignments := hc.working_assigned j hjm s hw
  refine hc.of_map (fun k => if k.id == j.id then { k with working := none } else k)
    (fun k => by split <;> exact ⟨rfl, rfl⟩) rfl rfl ?_ ?_ ?_ ?_
  · exact hc.keys_nodup.sublist (List.filter_sublist.map _)
  · intro p hp
    obtain ⟨hp, hne⟩ := List.mem_filter.1 hp
    obtain ⟨k, hk, hid, hkw⟩ := hc.assigned_working p hp
    -- `j`'s work is `s`, which is no longer assigned, so `p` is another judge's
    have hkj : k.id ≠ j.id := by
      intro h
      rw [hc.eq_of_id_eq hk hjm h, hw, Option.some.injEq] at hkw
      simp [← hkw] at hne
    exact ⟨k, hk, hid, by simp [hkj, hkw]⟩
  · intro p hp
    exact hc.assigned_unqueued p (List.mem_filter.1 hp).1
  · intro k hk s' hs'
    by_cases hid : k.id = j.id
    · simp [hid] at hs'
    · simp only [hid, beq_iff_eq, if_false] at hs'
      have hks : (s', k.id) ∈ r.assignments := hc.working_assigned k hk s' hs'
      have hne : s' ≠ s := by
        rintro rfl
        exact hid (congrArg Prod.snd (hc.eq_of_key_eq hks hjs rfl))
      exact List.mem_filter.2 ⟨hks, by simpa using hne⟩

/-- A judge reports it stopped grading a submission. -/
theorem release {id : JudgeId} {j : Judge} (s : SubmissionId) (hj : r.find? id = some j) :
    (r.release id s j).Consistent := by
  obtain ⟨hjm, hjid⟩ := find?_spec hj
  unfold Registry.release
  dsimp only
  by_cases hw : j.working = some s
  · have has : (r.modifyJudge id fun k => { k with working := none }).assignedTo s = some id :=
      hc.assignedTo_eq_some.2 (hjid ▸ hc.working_assigned j hjm s hw)
    have hw' : (j.working == some s) = true := by simpa using hw
    simp only [hw', if_true, has, beq_self_eq_true]
    exact hc.free hj hw
  · -- the submission is not `j`'s, so it is not assigned to `j` either
    have has : r.assignedTo s ≠ some id := by
      intro h
      exact hw (hc.working_eq hjm (hjid ▸ hc.assignedTo_eq_some.1 h))
    have hw' : (j.working == some s) = false := by simpa using hw
    have has' : (r.assignedTo s == some id) = false := by simpa using has
    simp only [hw', has', Bool.false_eq_true, if_false]
    exact hc

/-- Dropping judge `id` keeps the registry consistent when the new assignments and queue
agree with the judges left. -/
theorem of_filter {r' : Registry} (id : JudgeId) (hj : r'.judges = r.judges.filter (·.id != id))
    (hn : r'.nextId = r.nextId) (hkeys : (r'.assignments.map (·.1)).Nodup)
    (haw : ∀ p ∈ r'.assignments, ∃ j ∈ r.judges, j.id ≠ id ∧ j.id = p.2 ∧ j.working = some p.1)
    (hau : ∀ p ∈ r'.assignments, r'.queue.contains p.1 = false)
    (hwa : ∀ j ∈ r.judges, j.id ≠ id → ∀ s, j.working = some s → (s, j.id) ∈ r'.assignments) :
    r'.Consistent where
  ids_nodup := by
    rw [hj]
    exact hc.ids_nodup.sublist (List.filter_sublist.map _)
  ids_lt := by
    rw [hj, hn]
    exact fun i hi => hc.ids_lt i ((List.filter_sublist.map _).subset hi)
  names_nodup := by
    rw [hj]
    exact hc.names_nodup.sublist (List.filter_sublist.map _)
  keys_nodup := hkeys
  assigned_working := by
    intro p hp
    obtain ⟨j, hjm, hne, h⟩ := haw p hp
    exact ⟨j, hj ▸ List.mem_filter.2 ⟨hjm, by simpa using hne⟩, h⟩
  assigned_unqueued := hau
  working_assigned := by
    intro j hjm s hs
    rw [hj] at hjm
    obtain ⟨hjm, hne⟩ := List.mem_filter.1 hjm
    exact hwa j hjm (by simpa using hne) s hs

/-- A judge leaves, and the assignment of its work goes with it. -/
theorem drop (id : JudgeId) : (r.drop id).Consistent := by
  unfold Registry.drop
  rcases hj : r.find? id with _ | j
  · exact hc
  · dsimp only
    rw [hc.orphan_eq hj]
    obtain ⟨hjm, rfl⟩ := find?_spec hj
    -- a judge with work other than `j`'s is not `j`
    have hother : ∀ k ∈ r.judges, ∀ s, k.working = some s → j.working ≠ some s → k.id ≠ j.id := by
      intro k hk s hs hne hid
      rw [hc.eq_of_id_eq hk hjm hid] at hs
      exact hne hs
    rcases hw : j.working with _ | s
    · refine hc.of_filter j.id rfl rfl hc.keys_nodup ?_ hc.assigned_unqueued ?_
      · intro p hp
        obtain ⟨k, hk, hid, hkw⟩ := hc.assigned_working p hp
        exact ⟨k, hk, hother k hk _ hkw (by simp [hw]), hid, hkw⟩
      · exact fun k hk _ s hs => hc.working_assigned k hk s hs
    · have hjs : (s, j.id) ∈ r.assignments := hc.working_assigned j hjm s hw
      refine hc.of_filter j.id rfl rfl (hc.keys_nodup.sublist (List.filter_sublist.map _)) ?_
        (fun p hp => hc.assigned_unqueued p (List.mem_filter.1 hp).1) ?_
      · intro p hp
        obtain ⟨hp, hne⟩ := List.mem_filter.1 hp
        obtain ⟨k, hk, hid, hkw⟩ := hc.assigned_working p hp
        refine ⟨k, hk, hother k hk _ hkw ?_, hid, hkw⟩
        rw [hw]
        intro h
        simp [Option.some.inj h] at hne
      · intro k hk hkj s' hs'
        have hks : (s', k.id) ∈ r.assignments := hc.working_assigned k hk s' hs'
        have hne : s' ≠ s := by
          rintro rfl
          exact hkj (congrArg Prod.snd (hc.eq_of_key_eq hks hjs rfl))
        exact List.mem_filter.2 ⟨hks, by simpa using hne⟩

/-- A new judge, idle and named unlike every live judge, joins under the next id. -/
theorem enroll {j : Judge} (hw : j.working = none) (hname : ∀ k ∈ r.judges, k.name ≠ j.name) :
    (r.enroll j).Consistent where
  ids_nodup := by
    simp only [Registry.enroll, List.map_append, List.map_cons, List.map_nil]
    rw [List.nodup_append]
    refine ⟨hc.ids_nodup, List.nodup_singleton _, ?_⟩
    intro a ha b hb
    rw [List.mem_singleton.1 hb]
    exact Nat.ne_of_lt (hc.ids_lt a ha)
  ids_lt := by
    intro i hi
    simp only [Registry.enroll, List.map_append, List.map_cons, List.map_nil, List.mem_append,
      List.mem_singleton] at hi
    rcases hi with hi | rfl
    · exact Nat.lt_succ_of_lt (hc.ids_lt i hi)
    · exact Nat.lt_succ_self _
  names_nodup := by
    simp only [Registry.enroll, List.map_append, List.map_cons, List.map_nil]
    rw [List.nodup_append]
    refine ⟨hc.names_nodup, List.nodup_singleton _, ?_⟩
    intro a ha b hb
    obtain ⟨k, hk, rfl⟩ := List.mem_map.1 ha
    rw [List.mem_singleton.1 hb]
    exact hname k hk
  keys_nodup := hc.keys_nodup
  assigned_working := fun p hp => by
    obtain ⟨k, hk, h⟩ := hc.assigned_working p hp
    exact ⟨k, List.mem_append_left _ hk, h⟩
  assigned_unqueued := hc.assigned_unqueued
  working_assigned := by
    intro k hk s hs
    rcases List.mem_append.1 hk with hk | hk
    · exact hc.working_assigned k hk s hs
    · obtain rfl := List.mem_singleton.1 hk
      simp [hw] at hs

end Consistent

end Registry

namespace RegistryOp

variable {α : Type}

/-- Every run of `op` from a consistent registry, whatever links are open, ends in a
consistent registry. -/
def KeepsConsistent (op : RegistryOp α) : Prop :=
  Keeps (fun s s' => s.1.Consistent → s'.1.Consistent) op

theorem keepsConsistent_refl (s : Registry × Outbox) : s.1.Consistent → s.1.Consistent := id

theorem keepsConsistent_trans (s₁ s₂ s₃ : Registry × Outbox)
    (h₁ : s₁.1.Consistent → s₂.1.Consistent) (h₂ : s₂.1.Consistent → s₃.1.Consistent) :
    s₁.1.Consistent → s₃.1.Consistent := h₂ ∘ h₁

theorem consistent_cascade (f : Nat) :
    (∀ id, KeepsConsistent (handleFree id f)) ∧ (∀ id, KeepsConsistent (remove id f)) ∧
      KeepsConsistent (updateMinTier f) := by
  apply Keeps.cascade keepsConsistent_refl keepsConsistent_trans
  · intro s id j req ho hc
    obtain ⟨hj, havail, -, -⟩ := Registry.offer_spec ho
    exact hc.hand hj (Registry.isAvailable_iff.1 havail).2 (Registry.offer_waiting ho)
  · exact fun s id hc => hc.drop id
  · exact fun s hc => hc.refresh

theorem keepsConsistent_offerWork (id : JudgeId) : KeepsConsistent (offerWork id) := by
  intro links s hc
  rw [runOn_offerWork]
  exact (consistent_cascade _).1 id links s hc

/-- Dispatching a request the registry does not know keeps it consistent: the request goes
to a free judge or waits, and a judge whose link refuses it is dropped, which makes no
submission known. -/
theorem consistent_dispatchLoop (req : Request) (tie : TieBreak) (f : Nat) (links : Links) :
    ∀ s : Registry × Outbox, s.1.Consistent → s.1.tracks req.id = false →
      ((dispatchLoop req tie f).runOn links s).2.1.Consistent := by
  induction f generalizing tie with
  | zero =>
    intro s hc hx
    rw [dispatchLoop_zero]
    exact hc.enqueue hx
  | succ f ih =>
    intro s hc hx
    rw [dispatchLoop_succ]
    rcases hj : Registry.pickLeast (tie 0) (s.1.eligible req) with _ | j
    · exact hc.enqueue hx
    · obtain ⟨hjm, -, -, havail⟩ := Registry.mem_eligible (Registry.pickLeast_mem hj)
      dsimp only
      split
      · exact hc.give (hc.find?_eq_some.2 ⟨hjm, rfl⟩) (Registry.isAvailable_iff.1 havail).2 hx
      · have hforget := (forgetting_cascade s.1.fuel).2.1 j.id links s
        refine ih _ _ ((consistent_cascade s.1.fuel).2.1 j.id links s hc) ?_
        cases ht : ((remove j.id s.1.fuel).runOn links s).2.1.tracks req.id
        · rfl
        · rw [hforget _ ht] at hx
          cases hx

theorem keepsConsistent_dispatch (req : Request) (tie : TieBreak) : KeepsConsistent (dispatch req tie) := by
  intro links s hc
  rw [runOn_dispatch]
  split
  · exact hc
  · next hx => exact consistent_dispatchLoop req tie _ links s hc (by simpa using hx)

/-- One step of registration's eviction loop, from a consistent registry in which every
judge named `name` is among the ids `x :: xs` still to evict: the registry stays consistent
and every judge so named is among `xs`. -/
theorem evict_keeps (name : String) (acc : List SubmissionId) (x : JudgeId) (xs : List JudgeId)
    (links : Links) (s : Registry × Outbox)
    (h : s.1.Consistent ∧ ∀ k ∈ s.1.judges, k.name = name → k.id ∈ x :: xs) :
    ((evict acc x).runOn links s).2.1.Consistent ∧
      ∀ k ∈ ((evict acc x).runOn links s).2.1.judges, k.name = name → k.id ∈ xs := by
  obtain ⟨hc, hnames⟩ := h
  -- removing the judge from any state with the same registry does it
  have hremove : ∀ s₁ : Registry × Outbox, s₁.1 = s.1 →
      ((remove x s₁.1.fuel).runOn links s₁).2.1.Consistent ∧
        ∀ k ∈ ((remove x s₁.1.fuel).runOn links s₁).2.1.judges, k.name = name → k.id ∈ xs := by
    intro s₁ hreg
    refine ⟨(consistent_cascade s₁.1.fuel).2.1 x links s₁ (hreg ▸ hc), ?_⟩
    intro k hk hname
    obtain ⟨k₀, hk₀, hprof⟩ := (shrinking_remove x _ links s₁).1.mem hk
    have hid : k₀.id = k.id := by rw [← Judge.profile_id k₀, hprof, Judge.profile_id]
    have hname₀ : k₀.name = name := by
      rw [← Judge.profile_name k₀, hprof, Judge.profile_name, hname]
    rw [hreg] at hk₀
    rcases List.mem_cons.1 (hnames k₀ hk₀ hname₀) with h | h
    · exact absurd (hid.symm.trans h) (remove_absent x _ links s₁ k hk)
    · exact hid ▸ h
  rw [runOn_evict]
  dsimp only
  -- telling the old judge to leave changes nothing in the registry
  rcases s.1.find? x with _ | old
  · exact hremove s rfl
  · exact hremove _ (runOn_send_registry links _ _ s)

/-- The eviction loop of registration leaves a consistent registry in which no judge has the
evicted name. -/
theorem consistent_evictions (name : String) (links : Links) (s : Registry × Outbox)
    (hc : s.1.Consistent) :
    ((((s.1.judges.filter (·.name == name)).map (·.id)).foldlM evict []).runOn links s).2.1.Consistent ∧
      ∀ k ∈ ((((s.1.judges.filter (·.name == name)).map (·.id)).foldlM evict []).runOn
        links s).2.1.judges, k.name ≠ name := by
  obtain ⟨hc₁, hnames⟩ := foldlM_invariant links
    (fun _ rest (s : Registry × Outbox) =>
      s.1.Consistent ∧ ∀ k ∈ s.1.judges, k.name = name → k.id ∈ rest)
    (fun acc x xs s h => evict_keeps name acc x xs links s h) _ [] s
    ⟨hc, fun k hk hname => List.mem_map.2 ⟨k, List.mem_filter.2 ⟨hk, beq_iff_eq.2 hname⟩, rfl⟩⟩
  exact ⟨hc₁, fun k hk hname => List.not_mem_nil (hnames k hk hname)⟩

/-- Registering a judge: after the evictions no judge has the new judge's name, so the new
judge can join. -/
theorem keepsConsistent_register (j : Judge) (hw : j.working = none) :
    KeepsConsistent (register j) := by
  intro links s hc
  rw [runOn_register]
  dsimp only
  obtain ⟨hc₁, hnames⟩ := consistent_evictions j.name links s hc
  exact (consistent_cascade _).1 _ links _
    ((consistent_cascade _).2.2 links _ (hc₁.enroll hw hnames))

theorem keepsConsistent_abort (x : SubmissionId) : KeepsConsistent (abort x) := by
  intro links s hc
  rw [runOn_abort]
  rcases s.1.assignedTo x with _ | id
  · exact hc.dequeue x
  · dsimp only
    rcases s.1.find? id with _ | j
    · exact hc
    · rw [runOn_send_registry]
      exact hc

theorem keepsConsistent_setDisabled (name : String) (d : Bool) :
    KeepsConsistent (setDisabled name d) := by
  intro links s hc
  rw [runOn_setDisabled]
  dsimp only
  split
  · exact hc
  · have htier := (consistent_cascade (s.1.markDisabled name d).fuel).2.2 links
      (s.1.markDisabled name d, s.2) (hc.markDisabled name d)
    split
    · exact Keeps.forM keepsConsistent_refl keepsConsistent_trans keepsConsistent_offerWork _
        links _ htier
    · exact htier

theorem keepsConsistent_onJudgeFree (id : JudgeId) (x : SubmissionId) :
    KeepsConsistent (onJudgeFree id x) := by
  intro links s hc
  rcases hj : s.1.find? id with _ | j
  · rw [runOn_onJudgeFree_of_none links x hj]
    exact hc
  · rw [runOn_onJudgeFree_of_find links x hj]
    exact keepsConsistent_offerWork id links _ (hc.release x hj)

theorem keepsConsistent_capabilityUpdate {id : JudgeId} {op : RegistryOp Unit}
    (update : CapabilityUpdate id op) : KeepsConsistent op := by
  obtain ⟨g, hg, run⟩ := update
  intro links s hc
  rw [run]
  split
  · exact keepsConsistent_offerWork id links _
      (hc.modifyJudge fun j => ⟨hg.id j, hg.name j, hg.working j⟩)
  · exact hc

theorem keepsConsistent_setPing (id : JudgeId) (load : Option Binary64) (ping : Binary64) :
    KeepsConsistent (setPing id load ping) := by
  intro links s hc
  rw [runOn_setPing]
  exact hc.modifyJudge fun _ => ⟨rfl, rfl, rfl⟩

theorem keepsConsistent_leave (id : JudgeId) : KeepsConsistent (leave id) := by
  intro links s hc
  rw [runOn_leave]
  exact (consistent_cascade _).2.1 id links s hc

end RegistryOp

namespace Call

/-- Every public call keeps the registry consistent, whatever links are open. -/
theorem run_consistent (c : Call) (links : Links) {r : Registry} (hc : r.Consistent) :
    (c.run links r).1.Consistent := by
  cases c with
  | register name tier ps es d link =>
    exact RegistryOp.keepsConsistent_register _ rfl links (r, []) hc
  | dispatch req tie => exact RegistryOp.keepsConsistent_dispatch req tie links (r, []) hc
  | abort s => exact RegistryOp.keepsConsistent_abort s links (r, []) hc
  | disconnect name force =>
    show ((RegistryOp.disconnect name force).runOn links (r, [])).2.1.Consistent
    rw [RegistryOp.runOn_disconnect_registry]
    exact hc
  | setDisabled name d => exact RegistryOp.keepsConsistent_setDisabled name d links (r, []) hc
  | leave id => exact RegistryOp.keepsConsistent_leave id links (r, []) hc
  | onJudgeFree id s => exact RegistryOp.keepsConsistent_onJudgeFree id s links (r, []) hc
  | setProblems id ps =>
    exact RegistryOp.keepsConsistent_capabilityUpdate (RegistryOp.capabilityUpdate_setProblems id ps)
      links (r, []) hc
  | setExecutors id es =>
    exact RegistryOp.keepsConsistent_capabilityUpdate (RegistryOp.capabilityUpdate_setExecutors id es)
      links (r, []) hc
  | setPing id load ping => exact RegistryOp.keepsConsistent_setPing id load ping links (r, []) hc
  | disconnectAll force =>
    show ((RegistryOp.disconnectAll force).runOn links (r, [])).2.1.Consistent
    rw [RegistryOp.runOn_disconnectAll_registry]
    exact hc

end Call

/-- Every reachable registry is consistent. -/
theorem Registry.Reachable.consistent {r : Registry} (h : r.Reachable) : r.Consistent := by
  induction h with
  | empty => exact Registry.consistent_empty
  | call c links _ ih => exact c.run_consistent links ih


/-- In every reachable registry, whatever links closed along the way, the consistency check
passes, live judges have distinct names, and no two live judges grade the same submission. -/
theorem registry_consistent {r : Registry} (h : r.Reachable) :
    r.checkConsistent = true ∧ (r.judges.map (·.name)).Nodup ∧
      ∀ j ∈ r.judges, ∀ k ∈ r.judges, ∀ s, j.working = some s → k.working = some s → j = k := by
  have hc := h.consistent
  exact ⟨hc.check, hc.names_nodup, fun j hj k hk s hjs hks => hc.working_unique hj hk hjs hks⟩

/-- A judge registers and takes a submission. -/
theorem registry_consistent_after_dispatch :
    Registry.Reachable
        ((Call.dispatch ⟨7, "aplusb", "PY3", "", none, 1⟩ (fun _ => 0)).run (fun _ => true)
        ((Call.register "a" 0 ["aplusb"] ["PY3"] false 1).run (fun _ => true) Registry.empty).1).1 ∧
      Registry.checkConsistent
        ((Call.dispatch ⟨7, "aplusb", "PY3", "", none, 1⟩ (fun _ => 0)).run (fun _ => true)
        ((Call.register "a" 0 ["aplusb"] ["PY3"] false 1).run (fun _ => true) Registry.empty).1).1 = true ∧
      ((Registry.judges
        ((Call.dispatch ⟨7, "aplusb", "PY3", "", none, 1⟩ (fun _ => 0)).run (fun _ => true)
        ((Call.register "a" 0 ["aplusb"] ["PY3"] false 1).run (fun _ => true) Registry.empty).1).1).map (·.name)).Nodup ∧
      ∀ j ∈ Registry.judges
        ((Call.dispatch ⟨7, "aplusb", "PY3", "", none, 1⟩ (fun _ => 0)).run (fun _ => true)
        ((Call.register "a" 0 ["aplusb"] ["PY3"] false 1).run (fun _ => true) Registry.empty).1).1,
      ∀ k ∈ Registry.judges
        ((Call.dispatch ⟨7, "aplusb", "PY3", "", none, 1⟩ (fun _ => 0)).run (fun _ => true)
        ((Call.register "a" 0 ["aplusb"] ["PY3"] false 1).run (fun _ => true) Registry.empty).1).1,
      ∀ s, j.working = some s → k.working = some s → j = k := by
  have h := Registry.Reachable.call (Call.dispatch ⟨7, "aplusb", "PY3", "", none, 1⟩ (fun _ => 0)) (fun _ => true)
    (Registry.Reachable.call (Call.register "a" 0 ["aplusb"] ["PY3"] false 1) (fun _ => true)
      Registry.Reachable.empty)
  exact ⟨h, registry_consistent h⟩

end JudgeRelay
