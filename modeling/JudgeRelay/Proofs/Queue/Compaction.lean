import JudgeRelay.Proofs.Queue.Refinement

/-!
# How far stale slots can pile up

A removal deletes the request's entry and leaves its slot stale. The queue then reclaims only
the band the request stood in: it drops the stale slots at that band's front, and compacts the
band when it holds more than `2 · size + 16` slots. The other bands are not looked at, so a
band that gathered stale slots behind a live one keeps them while removals elsewhere shrink the
queue: `stale_slots_dominate_other_band` is a run of forty operations on two bands after which
band 1 holds 19 slots, one of them live, while the queue holds one request.

What does hold is a bound by the queue's history (`stale_slots_within_peak`): in every state a
run reaches, each band holds at most `2 · P + 16` stale slots, where `P` is the most requests
the queue has held during the run. A band gains stale slots only by a removal from it, and that
removal leaves it either compacted or within `2 · size + 16` slots (`StaleBound.remove`); a push
adds a live slot and makes no slot stale (`StaleBound.push`).
-/

namespace JudgeRelay

namespace PendingQueue

/-- The queue after a sequence of operations, each on the queue the previous one left. -/
def after (q : PendingQueue) : List QueueOp → PendingQueue
  | [] => q
  | op :: ops => (q.answer op).2.after ops

/-- The most requests the queue holds at any point of a sequence of operations. -/
def peak (q : PendingQueue) : List QueueOp → Nat
  | [] => q.size
  | op :: ops => max q.size ((q.answer op).2.peak ops)

/-- The stale slots of a band: those no waiting request answers for. -/
def staleCount (q : PendingQueue) (b : List Slot) : Nat := b.countP fun s => !q.isLive s

theorem size_le_peak (q : PendingQueue) (ops : List QueueOp) : q.size ≤ q.peak ops := by
  cases ops with
  | nil => exact Nat.le_refl _
  | cons op ops => exact Nat.le_max_left _ _

/-! ## Removal and liveness under each change -/

theorem remove_of_none {q : PendingQueue} {x : SubmissionId} (found : PendingQueue.entry? q x = none) :
    q.remove x = (none, q) := by
  rw [remove, found]

theorem remove_of_some {q : PendingQueue} {x : SubmissionId} {e : Entry}
    (found : PendingQueue.entry? q x = some e) :
    q.remove x = (some e.request,
      ({ q with entries := q.entries.filter (·.request.id != x) } : PendingQueue).reclaim (q.bandOf e.request)) := by
  rw [remove, found]
  rfl

@[simp] theorem modifyBand_bands (q : PendingQueue) (i : Nat) (f : List Slot → List Slot) :
    (q.modifyBand i f).bands = q.bands.modify i f := rfl

theorem isLive_eq_isSome (q : PendingQueue) (s : Slot) : q.isLive s = (q.requestOf s).isSome := by
  unfold isLive requestOf
  split
  · split <;> simp_all
  · rfl

@[simp] theorem isLive_reclaim (q : PendingQueue) (i : Nat) : (q.reclaim i).isLive = q.isLive := by
  funext s
  rw [isLive_eq_isSome, isLive_eq_isSome, reclaim_requestOf]

@[simp] theorem size_reclaim (q : PendingQueue) (i : Nat) : (q.reclaim i).size = q.size := by
  simp only [size, reclaim_entries]

/-- Once the entry of `x` is deleted, the slots of `x` are stale and the others live as
before. -/
theorem isLive_erase (q : PendingQueue) (x : SubmissionId) (s : Slot) :
    ({ q with entries := q.entries.filter (·.request.id != x) } : PendingQueue).isLive s =
      (q.isLive s && s.id != x) := by
  rw [isLive_eq_isSome, isLive_eq_isSome, requestOf_erase]
  rcases reads : q.requestOf s with _ | r
  · rfl
  · rw [Option.filter_some, id_of_requestOf reads]
    by_cases same : s.id = x <;> simp [same]

/-- A live slot of a removed id stands for the removed entry. -/
theorem requestOf_of_entry {q : PendingQueue} {x : SubmissionId} {e : Entry} {s : Slot} {r : Request}
    (found : PendingQueue.entry? q x = some e) (same : s.id = x) (reads : q.requestOf s = some r) :
    r = e.request := by
  unfold requestOf at reads
  rw [same, found] at reads
  dsimp only at reads
  split at reads
  · exact (Option.some.inj reads).symm
  · cases reads

/-! ## The bound and the steps that keep it -/

/-- What the stale-slot bound rests on: no slot carries a ticket not yet handed out, every live
slot lies in its request's band, and no band holds more than `2 · P + 16` stale slots. -/
structure StaleBound (q : PendingQueue) (P : Nat) : Prop where
  slot_lt : ∀ s ∈ q.bands.flatten, s.ticket < q.nextTicket
  banded : q.Banded
  stale_le : ∀ b ∈ q.bands, q.staleCount b ≤ 2 * P + 16

theorem staleBound_empty (n P : Nat) : (empty n).StaleBound P where
  slot_lt := by simp [empty]
  banded := by
    intro i b found s member
    simp only [empty, List.getElem?_replicate] at found
    split at found
    · cases found
      cases member
    · cases found
  stale_le := by
    intro b member
    simp only [empty, List.mem_replicate] at member
    rw [member.2]
    simp [staleCount]

/-- Reclaiming a band leaves the others alone and the band itself within `2 · size + 16` stale
slots. -/
theorem staleCount_reclaim (q : PendingQueue) {t i : Nat} {b' : List Slot}
    (found : (q.reclaim t).bands[i]? = some b') :
    (i ≠ t ∧ q.bands[i]? = some b') ∨ (q.reclaim t).staleCount b' ≤ 2 * q.size + 16 := by
  by_cases here : i = t
  · right
    subst here
    unfold reclaim at found ⊢
    dsimp only at found ⊢
    split at found
    · -- compacted: only live slots are left
      next big =>
      rw [if_pos big]
      rw [modifyBand_bands, List.getElem?_modify_eq] at found
      obtain ⟨b, -, rfl⟩ := Option.map_eq_some_iff.1 found
      simp [staleCount, List.countP_filter]
    · next within =>
      rw [if_neg within]
      rw [List.getD_eq_getElem?_getD, show (q.modifyBand i _).bands[i]? = some b' from found,
        Option.getD_some] at within
      calc (q.modifyBand i _).staleCount b'
          _ ≤ b'.length := List.countP_le_length
          _ ≤ 2 * (q.modifyBand i _).size + 16 := Nat.le_of_not_gt within
          _ = 2 * q.size + 16 := rfl
  · left
    refine ⟨here, ?_⟩
    unfold reclaim at found
    dsimp only at found
    split at found <;> simpa [modifyBand, List.getElem?_modify_ne _ _ (Ne.symm here)] using found

section Steps

variable {q : PendingQueue} {P : Nat} (bound : q.StaleBound P)
include bound

/-- A push adds a live slot and leaves every other slot as live or stale as it was. -/
theorem StaleBound.push (r : Request) : (q.push r).2.StaleBound P := by
  cases present : q.contains r.id
  · refine ⟨slot_lt_push present bound.slot_lt, bound.banded.push bound.slot_lt r, ?_⟩
    intro b' member
    obtain ⟨i, found⟩ := List.mem_iff_getElem?.1 member
    rw [push_of_absent present] at found
    simp only [modifyBand, List.getElem?_modify] at found
    obtain ⟨b, found₀, rfl⟩ := Option.map_eq_some_iff.1 found
    have older : ∀ s ∈ b, s.ticket < q.nextTicket := fun s hs =>
      bound.slot_lt s (List.mem_flatten.2 ⟨b, List.mem_of_getElem? found₀, hs⟩)
    -- the old slots read as before, and the new one is live
    have same : (q.push r).2.staleCount b = q.staleCount b := by
      apply List.countP_congr
      intro s hs
      rw [isLive_eq_isSome, isLive_eq_isSome, push_requestOf_old present (older s hs)]
    have stale₀ := bound.stale_le b (List.mem_of_getElem? found₀)
    split
    · have fresh : (q.push r).2.staleCount [⟨q.nextTicket, r.id⟩] = 0 := by
        simp [staleCount, isLive_eq_isSome, push_requestOf_new present]
      rw [staleCount, List.countP_append, ← staleCount, ← staleCount, fresh, same]
      exact stale₀
    · rw [same]
      exact stale₀
  · simpa [PendingQueue.push, present] using bound

/-- A removal makes stale only the removed request's slot, which lies in the band it then
reclaims; that band ends within `2 · size + 16` stale slots. -/
theorem StaleBound.remove (x : SubmissionId) (room : (q.remove x).2.size ≤ P) :
    (q.remove x).2.StaleBound P := by
  refine ⟨slot_lt_remove bound.slot_lt x, bound.banded.remove x, ?_⟩
  rcases found : PendingQueue.entry? q x with _ | e
  · rw [remove_of_none found]
    exact bound.stale_le
  · rw [remove_of_some found] at room ⊢
    dsimp only at room ⊢
    rw [size_reclaim] at room
    intro b' member
    obtain ⟨i, at_i⟩ := List.mem_iff_getElem?.1 member
    rcases staleCount_reclaim _ at_i with ⟨other, untouched⟩ | reclaimed
    · -- a band other than the removed request's has no live slot of `x`
      have keeps : ∀ s ∈ b', q.isLive s = true → s.id ≠ x := by
        intro s hs live same
        obtain ⟨r, reads⟩ := Option.isSome_iff_exists.1 ((isLive_eq_isSome q s).symm.trans live)
        have banded := bound.banded i b' untouched s hs r reads
        rw [requestOf_of_entry found same reads] at banded
        exact other (banded.symm.trans (by simp [bandOf]))
      have same : (({ q with entries := q.entries.filter (·.request.id != x) } : PendingQueue).reclaim
          (q.bandOf e.request)).staleCount b' = q.staleCount b' := by
        apply List.countP_congr
        intro s hs
        rw [isLive_reclaim, isLive_erase]
        by_cases live : q.isLive s = true
        · simp [live, keeps s hs live]
        · simp [live]
      rw [same]
      exact bound.stale_le b' (List.mem_of_getElem? untouched)
    · calc _ ≤ 2 * (q.entries.filter (·.request.id != x)).length + 16 := reclaimed
        _ ≤ 2 * P + 16 := by
          simp only [size] at room
          omega

theorem StaleBound.answer (op : QueueOp) (room : (q.answer op).2.size ≤ P) :
    (q.answer op).2.StaleBound P := by
  cases op with
  | push r => exact bound.push r
  | remove x => exact bound.remove x room
  | contains x => exact bound
  | size => exact bound
  | toList => exact bound

end Steps

/-- A run keeps the bound for any `P` at or above its peak. -/
theorem StaleBound.after {q : PendingQueue} {P : Nat} (bound : q.StaleBound P) (ops : List QueueOp)
    (room : q.peak ops ≤ P) : (q.after ops).StaleBound P := by
  induction ops generalizing q with
  | nil => exact bound
  | cons op ops ih =>
    have room' : (q.answer op).2.peak ops ≤ P := (Nat.le_max_right _ _).trans room
    exact ih (bound.answer op ((size_le_peak _ ops).trans room')) room'

end PendingQueue

open PendingQueue in
/-- From an empty queue, after any sequence of operations, every band holds at most
`2 · P + 16` stale slots, where `P` is the most requests the queue held along the way. -/
theorem stale_slots_within_peak (n : Nat) (ops : List QueueOp) :
    ∀ b ∈ ((empty n).after ops).bands,
      b.countP (fun s => !((empty n).after ops).isLive s) ≤ 2 * (empty n).peak ops + 16 :=
  ((staleBound_empty n _).after ops (Nat.le_refl _)).stale_le

/-- After eighteen pushes and removals of request 2 beside requests 100 and 1, band 1 holds
eighteen stale slots, within `2 · 3 + 16`: the queue held three requests at its peak. -/
theorem stale_slots_within_peak_after_churn :
    let ops := [.push ⟨100, "", "", "", none, 0⟩, .push ⟨1, "", "", "", none, 1⟩] ++
      (List.replicate 18 [QueueOp.push ⟨2, "", "", "", none, 1⟩, .remove 2]).flatten ++
      [.remove 100]
    let q := (PendingQueue.empty 2).after ops
    q.bands[1]! ∈ q.bands ∧
      q.bands[1]!.countP (fun s => !q.isLive s) ≤ 2 * (PendingQueue.empty 2).peak ops + 16 := by
  intro ops q
  have member : q.bands[1]! ∈ q.bands := by decide +kernel
  exact ⟨member, stale_slots_within_peak 2 ops _ member⟩

/-- Two bands: request 100 waits in band 0 while eighteen pushes and removals of request 2 leave
stale slots in band 1 behind the live request 1; removing request 100 compacts only band 0, and
band 1 is left with 19 slots while the queue holds one request. -/
theorem stale_slots_dominate_other_band :
    let q := (PendingQueue.empty 2).after
      ([.push ⟨100, "", "", "", none, 0⟩, .push ⟨1, "", "", "", none, 1⟩] ++
        (List.replicate 18 [QueueOp.push ⟨2, "", "", "", none, 1⟩, .remove 2]).flatten ++
        [.remove 100])
    ¬ ∀ b ∈ q.bands, b.length ≤ 2 * q.size + 16 := by
  decide +kernel

end JudgeRelay
