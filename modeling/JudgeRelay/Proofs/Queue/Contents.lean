import JudgeRelay.Dispatch.Queue

/-!
# Which ids the pending queue holds

`PendingQueue.contains` is the queue's membership test. This module says how pushing and
removing change it (`contains_push`, `contains_remove`) that every request the queue
is read as (`PendingQueue.toList`) is one of its members (`contains_of_mem_toList`), and
that a removal adds no request to that reading (`mem_toList_remove`).
-/

namespace JudgeRelay

namespace PendingQueue

theorem contains_iff (q : PendingQueue) (id : SubmissionId) :
    q.contains id = true ↔ ∃ e ∈ q.entries, e.request.id = id := by
  simp [contains, entry?]

theorem contains_eq_any (q : PendingQueue) (id : SubmissionId) :
    q.contains id = q.entries.any (·.request.id == id) := by
  rw [Bool.eq_iff_iff]
  simp [contains, entry?]

@[simp] theorem modifyBand_entries (q : PendingQueue) (i : Nat) (f : List Slot → List Slot) :
    (q.modifyBand i f).entries = q.entries := rfl

/-- Reclaiming stale slots leaves the live entries alone. -/
@[simp] theorem reclaim_entries (q : PendingQueue) (i : Nat) : (q.reclaim i).entries = q.entries := by
  unfold reclaim
  dsimp only
  split <;> rfl

@[simp] theorem contains_reclaim (q : PendingQueue) (i : Nat) (id : SubmissionId) :
    (q.reclaim i).contains id = q.contains id := by
  simp only [contains_eq_any, reclaim_entries]

@[simp] theorem empty_contains (n : Nat) (id : SubmissionId) : (empty n).contains id = false := by
  simp [contains_eq_any, empty]

/-- After a push the queue holds what it held and the pushed id; a push of an id already
waiting changes nothing. -/
theorem contains_push (q : PendingQueue) (r : Request) (id : SubmissionId) :
    (q.push r).2.contains id = (q.contains id || r.id == id) := by
  unfold push
  by_cases hr : q.contains r.id = true
  · simp only [hr, if_true]
    by_cases hid : r.id = id
    · subst hid
      simp [hr]
    · simp [hid]
  · simp only [hr, Bool.false_eq_true, if_false, contains_eq_any, List.any_append,
      modifyBand_entries, List.any_cons, List.any_nil, Bool.or_false]

/-- After removing an id the queue holds what it held but that id. -/
theorem contains_remove (q : PendingQueue) (x id : SubmissionId) :
    (q.remove x).2.contains id = (q.contains id && x != id) := by
  unfold remove
  rcases he : q.entry? x with _ | e
  · dsimp only
    by_cases hid : x = id
    · subst hid
      simp [contains, he]
    · simp [hid]
  · rw [Bool.eq_iff_iff]
    simp only [contains_reclaim, Bool.and_eq_true, contains_iff, List.mem_filter, bne_iff_ne,
      ne_eq]
    constructor
    · rintro ⟨e', ⟨he', hne⟩, rfl⟩
      exact ⟨⟨e', he', rfl⟩, Ne.symm hne⟩
    · rintro ⟨⟨e', he', rfl⟩, hne⟩
      exact ⟨e', ⟨he', Ne.symm hne⟩, rfl⟩

/-- Every request the queue is read as is waiting under its own id. -/
theorem contains_of_mem_toList {q : PendingQueue} {r : Request} (h : r ∈ q.toList) :
    q.contains r.id = true := by
  simp only [toList, List.mem_filterMap] at h
  obtain ⟨s, -, hs⟩ := h
  unfold requestOf at hs
  rcases he : q.entry? s.id with _ | e
  · simp [he] at hs
  · simp only [he] at hs
    have hr : e.request = r := by
      split at hs
      · exact Option.some.inj hs
      · cases hs
    have hid : e.request.id = s.id := by
      simpa using List.find?_some he
    rw [contains_iff]
    exact ⟨e, List.mem_of_find?_eq_some he, by rw [← hr]⟩

/-- Changing one band into a sublist of itself leaves the slots, read in order, a sublist. -/
theorem flatten_modify_sublist (bands : List (List Slot)) (i : Nat) (f : List Slot → List Slot)
    (hf : ∀ l, (f l).Sublist l) : ((bands.modify i f).flatten).Sublist bands.flatten := by
  induction bands generalizing i with
  | nil => simp
  | cons b rest ih =>
    cases i with
    | zero => simpa using (hf b).append (List.Sublist.refl rest.flatten)
    | succ i => simpa using (List.Sublist.refl b).append (ih i)

/-- Reclaiming drops slots and moves none. -/
theorem reclaim_slots_sublist (q : PendingQueue) (i : Nat) :
    (q.reclaim i).bands.flatten.Sublist q.bands.flatten := by
  have hdrop := flatten_modify_sublist q.bands i
    (·.dropWhile fun s => !q.isLive s) fun l => List.dropWhile_sublist _
  unfold reclaim
  dsimp only
  split
  · exact (flatten_modify_sublist _ i _ fun _ => List.filter_sublist).trans hdrop
  · exact hdrop

/-- A slot read after the entry of `id` is deleted reads as it did before. -/
theorem requestOf_filter {q : PendingQueue} (id : SubmissionId) {s : Slot} {r : Request}
    (h : ({ q with entries := q.entries.filter (·.request.id != id) } : PendingQueue).requestOf s =
      some r) : q.requestOf s = some r := by
  unfold requestOf entry? at h ⊢
  dsimp only at h
  rw [List.find?_filter] at h
  by_cases hs : s.id = id
  · -- no entry left has the deleted id
    have hnone : q.entries.find? (fun a => (a.request.id != id) = true ∧ (a.request.id == s.id) = true) =
        none := by
      rw [List.find?_eq_none]
      intro a _ ha
      simp only [bne_iff_ne, ne_eq, beq_iff_eq, hs, decide_eq_true_eq] at ha
      exact ha.1 ha.2
    rw [hnone] at h
    cases h
  · -- an entry with the slot's id survives the deletion, so the lookup is unchanged
    have hsame : (fun a : Entry => decide ((a.request.id != id) = true ∧ (a.request.id == s.id) = true)) =
        fun a => a.request.id == s.id := by
      funext a
      by_cases ha : a.request.id = s.id
      · simp [ha, hs]
      · simp [ha]
    rw [hsame] at h
    exact h

/-- Removing a request adds no request to the queue's reading. -/
theorem mem_toList_remove {q : PendingQueue} {x : SubmissionId} {r : Request}
    (h : r ∈ (q.remove x).2.toList) : r ∈ q.toList := by
  unfold remove at h
  split at h
  · exact h
  · simp only [toList, List.mem_filterMap] at h ⊢
    obtain ⟨s, hs, hr⟩ := h
    have hslot := (reclaim_slots_sublist _ _).subset hs
    refine ⟨s, hslot, requestOf_filter x ?_⟩
    -- reclaiming keeps the entries, so slots read the same
    unfold requestOf entry? at hr ⊢
    rwa [reclaim_entries] at hr

end PendingQueue

end JudgeRelay
