import JudgeRelay.Proofs.Queue.Contents

/-!
# The order the pending queue is read in

The queue is read band by band, and each live slot stands in the band of its request.
`PendingQueue.WellFormed` states the bookkeeping that keeps it so: every ticket handed out is
below the next one, so a stale slot never comes back to life when its id is pushed again, and
every slot that a live entry answers for lies in the band of that entry's request. Pushing
and removing keep it (`WellFormed.push`, `WellFormed.remove`), and from it:

* `mem_toList_push`: a push adds the pushed request to the reading, and nothing else;
* `toList_sorted`: the reading is sorted by band;
* `toList_interactive_first`: no rejudge comes before a request of the bands below.
-/

namespace JudgeRelay

namespace PendingQueue

/-- Every slot a live entry answers for lies in the band of that entry's request. -/
def Banded (q : PendingQueue) : Prop :=
  ∀ i b, q.bands[i]? = some b → ∀ s ∈ b, ∀ r, q.requestOf s = some r → q.bandOf r = i

/-- The queue's bookkeeping. -/
structure WellFormed (q : PendingQueue) : Prop where
  /-- The four priority bands. -/
  bands_length : q.bands.length = Priority.bands
  slot_lt : ∀ s ∈ q.bands.flatten, s.ticket < q.nextTicket
  entry_lt : ∀ e ∈ q.entries, e.ticket < q.nextTicket
  /-- A slot a live entry answers for lies in the band of that entry's request. -/
  banded : ∀ i b, q.bands[i]? = some b → ∀ s ∈ b, ∀ r, q.requestOf s = some r → q.bandOf r = i

theorem wellFormed_empty : (empty Priority.bands).WellFormed where
  bands_length := by simp [empty, Priority.bands]
  slot_lt := by simp [empty]
  entry_lt := by simp [empty]
  banded := by
    intro i b found s member
    simp only [empty, List.getElem?_replicate] at found
    split at found
    · cases found
      cases member
    · cases found

/-- A slot in a band changed by `f` was in the band before, or is one that `f` adds. -/
theorem mem_flatten_modify {L : List (List Slot)} {i : Nat} {f : List Slot → List Slot}
    {s : Slot} {P : Slot → Prop} (hf : ∀ l, s ∈ f l → s ∈ l ∨ P s)
    (member : s ∈ (L.modify i f).flatten) : s ∈ L.flatten ∨ P s := by
  obtain ⟨b, hb, hs⟩ := List.mem_flatten.1 member
  obtain ⟨k, found⟩ := List.mem_iff_getElem?.1 hb
  rw [List.getElem?_modify] at found
  obtain ⟨b₀, found₀, rfl⟩ := Option.map_eq_some_iff.1 found
  have mem₀ : b₀ ∈ L := List.mem_of_getElem? found₀
  split at hs
  · exact (hf b₀ hs).imp_left fun h => List.mem_flatten.2 ⟨b₀, mem₀, h⟩
  · exact .inl (List.mem_flatten.2 ⟨b₀, mem₀, hs⟩)

@[simp] theorem modifyBand_bands_length (q : PendingQueue) (i : Nat) (f : List Slot → List Slot) :
    (q.modifyBand i f).bands.length = q.bands.length := List.length_modify _ _ _

@[simp] theorem reclaim_bands_length (q : PendingQueue) (i : Nat) :
    (q.reclaim i).bands.length = q.bands.length := by
  unfold reclaim
  dsimp only
  split <;> simp

@[simp] theorem reclaim_nextTicket (q : PendingQueue) (i : Nat) :
    (q.reclaim i).nextTicket = q.nextTicket := by
  unfold reclaim
  dsimp only
  split <;> rfl

theorem reclaim_requestOf (q : PendingQueue) (i : Nat) (s : Slot) :
    (q.reclaim i).requestOf s = q.requestOf s := by
  unfold requestOf PendingQueue.entry?
  rw [reclaim_entries]

/-- Reclaiming keeps each band a sublist of what it was. -/
theorem reclaim_band {q : PendingQueue} {i k : Nat} {b : List Slot}
    (found : (q.reclaim i).bands[k]? = some b) : ∃ b₀, q.bands[k]? = some b₀ ∧ b.Sublist b₀ := by
  -- one change of band `i` by a function that only drops slots
  have modified : ∀ (L : List (List Slot)) (f : List Slot → List Slot), (∀ l, (f l).Sublist l) →
      ∀ b, (L.modify i f)[k]? = some b → ∃ b₀, L[k]? = some b₀ ∧ b.Sublist b₀ := by
    intro L f hf b hb
    rw [List.getElem?_modify] at hb
    obtain ⟨b₀, found₀, rfl⟩ := Option.map_eq_some_iff.1 hb
    refine ⟨b₀, found₀, ?_⟩
    split
    · exact hf b₀
    · exact List.Sublist.refl b₀
  unfold reclaim at found
  dsimp only at found
  split at found
  · obtain ⟨b₁, found₁, sub₁⟩ := modified _ _ (fun _ => List.filter_sublist) b found
    obtain ⟨b₀, found₀, sub₀⟩ := modified _ _ (fun _ => List.dropWhile_sublist _) b₁ found₁
    exact ⟨b₀, found₀, sub₁.trans sub₀⟩
  · exact modified _ _ (fun _ => List.dropWhile_sublist _) b found

/-! ## Pushing -/

section Push

variable {q : PendingQueue} {r : Request} (absent : q.contains r.id = false)
include absent

theorem push_of_absent : (q.push r).2 =
    { q.modifyBand (q.bandOf r) (· ++ [⟨q.nextTicket, r.id⟩]) with
      entries := q.entries ++ [⟨q.nextTicket, r⟩], nextTicket := q.nextTicket + 1 } := by
  simp [push, absent]

theorem push_lookup (id : SubmissionId) :
    PendingQueue.entry? (q.push r).2 id =
      if r.id = id then some ⟨q.nextTicket, r⟩ else PendingQueue.entry? q id := by
  rw [push_of_absent absent]
  unfold PendingQueue.entry?
  dsimp only
  rw [List.find?_append]
  split
  · next same =>
    have none₀ : q.entries.find? (·.request.id == id) = none := by
      rw [← same]
      simpa [contains, PendingQueue.entry?] using absent
    simp [none₀, same]
  · next differ =>
    simp [differ]

/-- A slot handed out before the push reads as it did. -/
theorem push_requestOf_old {s : Slot} (older : s.ticket < q.nextTicket) :
    (q.push r).2.requestOf s = q.requestOf s := by
  unfold requestOf
  rw [push_lookup absent]
  by_cases same : r.id = s.id
  · have none₀ : PendingQueue.entry? q s.id = none := by
      rw [← same]
      simpa [contains] using absent
    have stale : (q.nextTicket == s.ticket) = false := by
      simp only [beq_eq_false_iff_ne]
      omega
    simp [same, none₀, stale]
  · simp only [same, if_false]

theorem push_requestOf_new : (q.push r).2.requestOf ⟨q.nextTicket, r.id⟩ = some r := by
  unfold requestOf
  rw [push_lookup absent]
  simp

theorem push_bandOf (x : Request) : (q.push r).2.bandOf x = q.bandOf x := by
  rw [push_of_absent absent]
  simp [bandOf]

/-- A push hands out the next ticket and moves it on, so every slot stays below it. -/
theorem slot_lt_push (older : ∀ s ∈ q.bands.flatten, s.ticket < q.nextTicket) :
    ∀ s ∈ (q.push r).2.bands.flatten, s.ticket < (q.push r).2.nextTicket := by
  intro s slot
  rw [push_of_absent absent] at slot ⊢
  rcases mem_flatten_modify (P := (· = ⟨q.nextTicket, r.id⟩)) (fun l h => by simpa using h) slot
    with old | rfl
  · exact Nat.lt_succ_of_lt (older s old)
  · exact Nat.lt_succ_self _

end Push

/-- A push adds the pushed request to the queue's reading, and nothing else. -/
theorem mem_toList_push {q : PendingQueue} (hwf : q.WellFormed) {r x : Request}
    (member : x ∈ (q.push r).2.toList) : x ∈ q.toList ∨ x = r := by
  cases present : q.contains r.id
  · simp only [toList, List.mem_filterMap] at member
    obtain ⟨s, slot, reads⟩ := member
    have slot' : s ∈ (q.bands.modify (q.bandOf r) (· ++ [⟨q.nextTicket, r.id⟩])).flatten := by
      rw [push_of_absent present] at slot
      exact slot
    rcases mem_flatten_modify (P := (· = ⟨q.nextTicket, r.id⟩))
        (fun l h => by simpa using h) slot' with old | rfl
    · rw [push_requestOf_old present (hwf.slot_lt s old)] at reads
      exact .inl (List.mem_filterMap.2 ⟨s, old, reads⟩)
    · rw [push_requestOf_new present] at reads
      exact .inr (Option.some.inj reads).symm
  · simp only [push, present, if_true] at member
    exact .inl member

/-- A push puts the new slot in its request's band and leaves the old slots reading as they
did. -/
theorem Banded.push {q : PendingQueue} (hb : q.Banded)
    (older : ∀ s ∈ q.bands.flatten, s.ticket < q.nextTicket) (r : Request) : (q.push r).2.Banded := by
  cases present : q.contains r.id
  · intro i b found s member x reads
    rw [push_bandOf present]
    have bands_eq : (q.push r).2.bands = q.bands.modify (q.bandOf r) (· ++ [⟨q.nextTicket, r.id⟩]) := by
      rw [push_of_absent present]
      rfl
    rw [bands_eq, List.getElem?_modify] at found
    obtain ⟨b₀, found₀, rfl⟩ := Option.map_eq_some_iff.1 found
    have older₀ : ∀ s ∈ b₀, s.ticket < q.nextTicket := fun s hs =>
      older s (List.mem_flatten.2 ⟨b₀, List.mem_of_getElem? found₀, hs⟩)
    split at member
    · next at_band =>
      rcases List.mem_append.1 member with old | new
      · rw [push_requestOf_old present (older₀ s old)] at reads
        exact hb i b₀ found₀ s old x reads
      · rw [List.mem_singleton.1 new, push_requestOf_new present] at reads
        rw [← Option.some.inj reads]
        exact at_band
    · rw [push_requestOf_old present (older₀ s member)] at reads
      exact hb i b₀ found₀ s member x reads
  · simpa [PendingQueue.push, present] using hb

theorem WellFormed.push {q : PendingQueue} (hwf : q.WellFormed) (r : Request) :
    (q.push r).2.WellFormed := by
  cases present : q.contains r.id
  · have next_eq : (q.push r).2.nextTicket = q.nextTicket + 1 := by
      rw [push_of_absent present]
    refine ⟨?_, slot_lt_push present hwf.slot_lt, ?_, Banded.push hwf.banded hwf.slot_lt r⟩
    · rw [push_of_absent present, modifyBand_bands_length]
      exact hwf.bands_length
    · intro e entry
      rw [next_eq]
      rw [push_of_absent present] at entry
      rcases List.mem_append.1 entry with old | new
      · exact Nat.lt_succ_of_lt (hwf.entry_lt e old)
      · rw [List.mem_singleton.1 new]
        exact Nat.lt_succ_self _
  · simpa [PendingQueue.push, present] using hwf

/-! ## Removing -/

/-- A removal hands out no ticket and only drops slots, so every slot stays below the next
ticket. -/
theorem slot_lt_remove {q : PendingQueue} (older : ∀ s ∈ q.bands.flatten, s.ticket < q.nextTicket)
    (x : SubmissionId) : ∀ s ∈ (q.remove x).2.bands.flatten, s.ticket < (q.remove x).2.nextTicket := by
  unfold PendingQueue.remove
  split
  · exact older
  · intro s slot
    have old := (reclaim_slots_sublist _ _).subset slot
    rw [reclaim_nextTicket]
    exact older s old

/-- A removal only drops slots and entries, so the slots left read in their own bands. -/
theorem Banded.remove {q : PendingQueue} (hb : q.Banded) (x : SubmissionId) : (q.remove x).2.Banded := by
  unfold PendingQueue.remove
  split
  · exact hb
  · intro i b found s member y reads
    obtain ⟨b₀, found₀, sub⟩ := reclaim_band found
    rw [reclaim_requestOf] at reads
    have banded := hb i b₀ found₀ s (sub.subset member) y (requestOf_filter x reads)
    simpa [bandOf] using banded

theorem WellFormed.remove {q : PendingQueue} (hwf : q.WellFormed) (x : SubmissionId) :
    (q.remove x).2.WellFormed := by
  refine ⟨?_, slot_lt_remove hwf.slot_lt x, ?_, Banded.remove hwf.banded x⟩
  · unfold PendingQueue.remove
    split
    · exact hwf.bands_length
    · rw [reclaim_bands_length]
      exact hwf.bands_length
  · unfold PendingQueue.remove
    split
    · exact hwf.entry_lt
    · intro e entry
      rw [reclaim_entries] at entry
      rw [reclaim_nextTicket]
      exact hwf.entry_lt e (List.mem_filter.1 entry).1

/-! ## Reading in band order -/

/-- Lists whose `i`-th member holds only items of level `k + i`, each ordered by `R`, joined,
are ordered by level and, within a level, by `R`. -/
theorem pairwise_flatten_ranked {β : Type} (level : β → Nat) (R : β → β → Prop) :
    ∀ (L : List (List β)) (k : Nat), (∀ i l, L[i]? = some l → (∀ x ∈ l, level x = k + i) ∧ l.Pairwise R) →
      L.flatten.Pairwise (fun x y => level x < level y ∨ (level x = level y ∧ R x y)) := by
  intro L
  induction L with
  | nil => simp
  | cons l rest ih =>
    intro k levels
    rw [List.flatten_cons, List.pairwise_append]
    obtain ⟨here, ordered⟩ := levels 0 l rfl
    have later : ∀ i l', rest[i]? = some l' → (∀ x ∈ l', level x = (k + 1) + i) ∧ l'.Pairwise R := by
      intro i l' found
      obtain ⟨atLevel, ordered'⟩ := levels (i + 1) l' (by simpa using found)
      refine ⟨fun x hx => ?_, ordered'⟩
      rw [atLevel x hx]
      omega
    refine ⟨?_, ih (k + 1) later, ?_⟩
    · exact ordered.imp_of_mem fun hx hy related =>
        .inr ⟨(here _ hx).trans (here _ hy).symm, related⟩
    · intro x hx y hy
      obtain ⟨l', hl', hy'⟩ := List.mem_flatten.1 hy
      obtain ⟨i, found⟩ := List.mem_iff_getElem?.1 hl'
      left
      rw [here x hx, (later i l' found).1 y hy']
      omega

/-- Lists whose `i`-th member holds only items of level `k + i`, joined, are sorted by
level. -/
theorem pairwise_flatten_levels {β : Type} (level : β → Nat) (L : List (List β)) (k : Nat)
    (levels : ∀ i l, L[i]? = some l → ∀ x ∈ l, level x = k + i) :
    L.flatten.Pairwise (fun x y => level x ≤ level y) := by
  have ranked := pairwise_flatten_ranked level (fun _ _ => True) L k fun i l found =>
    ⟨levels i l found, List.pairwise_of_forall fun _ _ => trivial⟩
  exact ranked.imp fun order => order.elim Nat.le_of_lt fun same => Nat.le_of_eq same.1

/-- The queue is read lowest band first. -/
theorem toList_sorted {q : PendingQueue} (hwf : q.WellFormed) :
    q.toList.Pairwise (fun a b => q.bandOf a ≤ q.bandOf b) := by
  rw [toList, List.filterMap_flatten]
  apply pairwise_flatten_levels q.bandOf _ 0
  intro i l found x member
  rw [List.getElem?_map] at found
  obtain ⟨b, found₀, rfl⟩ := Option.map_eq_some_iff.1 found
  obtain ⟨s, slot, reads⟩ := List.mem_filterMap.1 member
  rw [hwf.banded i b found₀ s slot x reads, Nat.zero_add]

/-- No rejudge is read before a request of the bands below. -/
theorem toList_interactive_first {q : PendingQueue} (hwf : q.WellFormed) :
    q.toList.Pairwise (fun a b => b.priority < Priority.rejudge → a.priority < Priority.rejudge) := by
  apply (toList_sorted hwf).imp
  intro a b ordered interactive
  have length := hwf.bands_length
  simp only [bandOf, length, Priority.bands, Priority.rejudge] at ordered interactive ⊢
  omega

end PendingQueue

end JudgeRelay
