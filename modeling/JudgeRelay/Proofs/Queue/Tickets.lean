import JudgeRelay.Proofs.Queue.Order

/-!
# First in, first out within a band

A band holds its slots in the order they were taken, so their tickets rise from front to back
(`PendingQueue.Ordered`): a push appends the largest ticket yet, and a removal only drops
slots. A waiting request's ticket is its entry's, and a request that does not wait counts as
pushed now, after every waiting one (`PendingQueue.ticketOf`). `PendingQueue.Ahead` orders
requests by band and then by ticket, and the queue is read in that order (`toList_ahead`).
-/

namespace JudgeRelay

namespace PendingQueue

/-- The ticket of a waiting request; a request that does not wait counts as pushed now. -/
def ticketOf (q : PendingQueue) (id : SubmissionId) : Nat :=
  ((q.entry? id).map (·.ticket)).getD q.nextTicket

/-- `a` is served before `b`: it is in a lower band, or in the same band and was pushed first. -/
def Ahead (q : PendingQueue) (a b : Request) : Prop :=
  q.bandOf a < q.bandOf b ∨ (q.bandOf a = q.bandOf b ∧ q.ticketOf a.id < q.ticketOf b.id)

instance (q : PendingQueue) (a b : Request) : Decidable (q.Ahead a b) :=
  inferInstanceAs (Decidable (_ ∨ _))

/-- Each band holds its slots in the order they were taken. -/
def Ordered (q : PendingQueue) : Prop :=
  ∀ b ∈ q.bands, b.Pairwise fun s t => s.ticket < t.ticket

theorem ordered_empty (n : Nat) : (empty n).Ordered := by
  intro b member
  simp only [empty, List.mem_replicate] at member
  rw [member.2]
  exact List.Pairwise.nil

/-- A live slot carries its request's ticket. -/
theorem ticketOf_of_requestOf {q : PendingQueue} {s : Slot} {r : Request}
    (reads : q.requestOf s = some r) : q.ticketOf r.id = s.ticket := by
  unfold requestOf at reads
  rcases found : q.entry? s.id with _ | e
  · rw [found] at reads
    cases reads
  · rw [found] at reads
    dsimp only at reads
    split at reads
    · next same =>
      cases reads
      have sameId : e.request.id = s.id := by simpa using List.find?_some found
      simp [ticketOf, sameId, found, beq_iff_eq.1 same]
    · cases reads

theorem Ordered.push {q : PendingQueue} (hwf : q.WellFormed) (hord : q.Ordered) (r : Request) :
    (q.push r).2.Ordered := by
  cases present : q.contains r.id
  · have bands_eq : (q.push r).2.bands = q.bands.modify (q.bandOf r) (· ++ [⟨q.nextTicket, r.id⟩]) := by
      rw [push_of_absent present]
      rfl
    intro b member
    rw [bands_eq] at member
    obtain ⟨i, found⟩ := List.mem_iff_getElem?.1 member
    rw [List.getElem?_modify] at found
    obtain ⟨b₀, found₀, rfl⟩ := Option.map_eq_some_iff.1 found
    have ordered₀ := hord b₀ (List.mem_of_getElem? found₀)
    split
    · -- the band pushed to gains the largest ticket handed out yet
      rw [List.pairwise_append]
      refine ⟨ordered₀, List.pairwise_singleton _ _, fun s old t new => ?_⟩
      rw [List.mem_singleton.1 new]
      exact hwf.slot_lt s (List.mem_flatten.2 ⟨b₀, List.mem_of_getElem? found₀, old⟩)
    · exact ordered₀
  · simpa [PendingQueue.push, present] using hord

theorem Ordered.remove {q : PendingQueue} (hord : q.Ordered) (x : SubmissionId) :
    (q.remove x).2.Ordered := by
  unfold PendingQueue.remove
  split
  · exact hord
  · intro b member
    obtain ⟨k, found⟩ := List.mem_iff_getElem?.1 member
    obtain ⟨b₀, found₀, sub⟩ := reclaim_band found
    exact (hord b₀ (List.mem_of_getElem? found₀)).sublist sub

/-- The queue is read in order: by band, and first in, first out within a band. -/
theorem toList_ahead {q : PendingQueue} (hwf : q.WellFormed) (hord : q.Ordered) :
    q.toList.Pairwise q.Ahead := by
  rw [toList, List.filterMap_flatten]
  apply pairwise_flatten_ranked q.bandOf (fun a b => q.ticketOf a.id < q.ticketOf b.id) _ 0
  intro i l found
  rw [List.getElem?_map] at found
  obtain ⟨b, found₀, rfl⟩ := Option.map_eq_some_iff.1 found
  refine ⟨fun x member => ?_, ?_⟩
  · obtain ⟨s, slot, reads⟩ := List.mem_filterMap.1 member
    rw [hwf.banded i b found₀ s slot x reads, Nat.zero_add]
  · -- the live slots of a band carry their requests' tickets, which rise from front to back
    apply List.pairwise_filterMap.2
    apply (hord b (List.mem_of_getElem? found₀)).imp
    intro s t earlier x readsX y readsY
    rw [ticketOf_of_requestOf readsX, ticketOf_of_requestOf readsY]
    exact earlier

end PendingQueue

end JudgeRelay
