import Mathlib.Data.List.Basic
import Mathlib.Data.List.Find
import Mathlib.Data.List.Nodup
import Mathlib.Data.List.TakeWhile
import JudgeRelay.Proofs.Queue.Order

/-!
# The pending queue is a list of bands

The pending queue keeps a slot per insertion and deletes lazily, but what it answers is
what a plain model answers: `BandQueue`, one first-in first-out list of requests per band,
where a push appends to the request's band and a removal deletes the request where it
stands.

`PendingQueue.view` reads the model off the queue: each band's live slots, in order.
`PendingQueue.Represents` is the representation invariant under it: tickets handed out lie
below the next one, so a slot left behind by a removal stays stale when its id is pushed
again; the ids waiting are distinct; and the live slots are exactly the entries, each once.
Every operation answers as the model does and moves the view as the model moves
(`answer_view`), and keeps the invariant (`Represents.answer`). Hence
`pending_queue_answers_as_bands`: from an empty queue, any sequence of operations gets the
model's answers.
-/

namespace JudgeRelay

/-- The queue as a list of bands, lowest first, each in order of insertion. -/
structure BandQueue where
  bands : List (List Request)
  deriving DecidableEq, Repr

namespace BandQueue

/-- `n` empty bands (one when `n` is zero). -/
def empty (n : Nat) : BandQueue := ⟨List.replicate (max n 1) []⟩

/-- The requests, lowest band first. -/
def toList (a : BandQueue) : List Request := a.bands.flatten

def contains (a : BandQueue) (id : SubmissionId) : Bool := a.toList.any (·.id == id)

def size (a : BandQueue) : Nat := a.toList.length

/-- Appends a request to its band, the last band for a priority past it; refused when
its id is already present. -/
def push (a : BandQueue) (r : Request) : Bool × BandQueue :=
  if a.contains r.id then (false, a)
  else (true, ⟨a.bands.modify (min r.priority (a.bands.length - 1)) (· ++ [r])⟩)

/-- Deletes and returns the request with an id. -/
def remove (a : BandQueue) (id : SubmissionId) : Option Request × BandQueue :=
  match a.toList.find? (·.id == id) with
  | none => (none, a)
  | some r => (some r, ⟨a.bands.map (·.filter (·.id != id))⟩)

end BandQueue

/-- An operation on a queue. -/
inductive QueueOp where
  | push (r : Request)
  | remove (id : SubmissionId)
  | contains (id : SubmissionId)
  | size
  | toList
  deriving DecidableEq, Repr

/-- What a queue answers to an operation. -/
inductive QueueReply where
  | pushed (added : Bool)
  | removed (r : Option Request)
  | present (holds : Bool)
  | count (n : Nat)
  | listing (requests : List Request)
  deriving DecidableEq, Repr

namespace QueueOp

/-- The answers of a queue to operations in turn, each on the queue the previous one
left. -/
def replies {σ : Type} (answer : σ → QueueOp → QueueReply × σ) : σ → List QueueOp → List QueueReply
  | _, [] => []
  | q, op :: ops => (answer q op).1 :: replies answer (answer q op).2 ops

end QueueOp

def BandQueue.answer (a : BandQueue) : QueueOp → QueueReply × BandQueue
  | .push r => ((a.push r).1 |> .pushed, (a.push r).2)
  | .remove id => ((a.remove id).1 |> .removed, (a.remove id).2)
  | .contains id => (.present (a.contains id), a)
  | .size => (.count a.size, a)
  | .toList => (.listing a.toList, a)

namespace PendingQueue

def answer (q : PendingQueue) : QueueOp → QueueReply × PendingQueue
  | .push r => ((q.push r).1 |> .pushed, (q.push r).2)
  | .remove id => ((q.remove id).1 |> .removed, (q.remove id).2)
  | .contains id => (.present (q.contains id), q)
  | .size => (.count q.size, q)
  | .toList => (.listing q.toList, q)

/-- The queue as a list of bands: each band's live slots, read in order. -/
def view (q : PendingQueue) : BandQueue := ⟨q.bands.map (·.filterMap q.requestOf)⟩

/-- The representation invariant. -/
structure Represents (q : PendingQueue) : Prop where
  bands_pos : 0 < q.bands.length
  /-- No slot carries the ticket of a later push. -/
  slot_lt : ∀ s ∈ q.bands.flatten, s.ticket < q.nextTicket
  ids_nodup : (q.entries.map (·.request.id)).Nodup
  /-- The live slots stand for the entries, each once. -/
  perm : q.toList.Perm (q.entries.map (·.request))

theorem represents_empty (n : Nat) : (empty n).Represents where
  bands_pos := by simp [empty]
  slot_lt := by simp [empty]
  ids_nodup := by simp [empty]
  perm := by simp [empty, toList]

theorem view_empty (n : Nat) : (empty n).view = BandQueue.empty n := by
  simp [view, empty, BandQueue.empty]

@[simp] theorem view_bands_length (q : PendingQueue) : q.view.bands.length = q.bands.length := by
  simp [view]

theorem toList_view (q : PendingQueue) : q.view.toList = q.toList := by
  simp [view, BandQueue.toList, toList, List.filterMap_flatten]

/-- A live slot carries the id of the request it stands for. -/
theorem id_of_requestOf {q : PendingQueue} {s : Slot} {r : Request} (reads : q.requestOf s = some r) :
    r.id = s.id := by
  unfold requestOf at reads
  rcases found : PendingQueue.entry? q s.id with _ | e
  · simp [found] at reads
  · simp only [found] at reads
    split at reads
    · cases reads
      simpa using List.find?_some found
    · cases reads

/-- A slot that is not live reads as nothing. -/
theorem requestOf_of_not_live {q : PendingQueue} {s : Slot} (stale : q.isLive s = false) :
    q.requestOf s = none := by
  unfold isLive at stale
  unfold requestOf
  split
  · next found =>
    simp only [found, beq_eq_false_iff_ne] at stale
    simp [stale]
  · rfl

/-! ## Reading the model -/

section Reading

variable {q : PendingQueue} (hq : q.Represents)
include hq

theorem contains_view (id : SubmissionId) : q.view.contains id = q.contains id := by
  rw [BandQueue.contains, toList_view, hq.perm.any_eq, contains_eq_any, List.any_map]
  rfl

theorem size_view : q.view.size = q.size := by
  rw [BandQueue.size, toList_view, hq.perm.length_eq, List.length_map]
  rfl

/-- The model finds an id where the queue's entries hold it: at most one request waits
under an id. -/
theorem find?_view (id : SubmissionId) :
    q.view.toList.find? (·.id == id) = (PendingQueue.entry? q id).map (·.request) := by
  have pulled : (q.entries.find? (·.request.id == id)).map (·.request) =
      (q.entries.map (·.request)).find? (·.id == id) := by
    rw [List.find?_map]
    rfl
  rw [toList_view, PendingQueue.entry?, pulled]
  apply List.find?_eq_find?_of_perm hq.perm
  rintro a ⟨member, same⟩ b ⟨member', same'⟩
  -- two waiting requests under one id are one entry
  obtain ⟨e, he, rfl⟩ := List.mem_map.1 (hq.perm.subset member)
  obtain ⟨e', he', rfl⟩ := List.mem_map.1 (hq.perm.subset member')
  have ids : e.request.id = e'.request.id := by
    rw [beq_iff_eq.1 same, beq_iff_eq.1 same']
  rw [List.inj_on_of_nodup_map hq.ids_nodup he he' ids]

end Reading

/-! ## Pushing -/

/-- Appending to one band of a list of bands appends to their concatenation, up to order. -/
theorem flatten_modify_append_perm {α : Type} (x : α) :
    ∀ (L : List (List α)) (i : Nat), i < L.length → (L.modify i (· ++ [x])).flatten.Perm (L.flatten ++ [x])
  | [], _, bound => absurd bound (Nat.not_lt_zero _)
  | b :: rest, 0, _ => by
    have swapped : ([x] ++ rest.flatten).Perm (rest.flatten ++ [x]) := List.perm_append_comm
    simpa using swapped.append_left b
  | b :: rest, i + 1, bound => by
    simpa using (flatten_modify_append_perm x rest i (by simpa using bound)).append_left b

/-- Changing one member and then reading every member is reading them and then changing the
reading, when the two changes agree. -/
theorem map_modify_of_comm {α β : Type} {f : α → α} {g : β → β} {h : α → β}
    (comm : ∀ a, h (f a) = g (h a)) (L : List α) (i : Nat) :
    (L.modify i f).map h = (L.map h).modify i g := by
  apply List.ext_getElem?
  intro j
  rw [List.getElem?_map, List.getElem?_modify, List.getElem?_modify, List.getElem?_map]
  cases L[j]? with
  | none => rfl
  | some a =>
    by_cases same : i = j
    · simp [same, comm]
    · simp [same]

/-- Changing one member by a change that its reading ignores leaves the reading alone. -/
theorem map_modify_of_eq {α β : Type} {f : α → α} {h : α → β} (keep : ∀ a, h (f a) = h a)
    (L : List α) (i : Nat) : (L.modify i f).map h = L.map h := by
  rw [map_modify_of_comm (g := id) keep, List.modify_id]

section Push

variable {q : PendingQueue} {r : Request} (absent : q.contains r.id = false)
include absent

/-- The slots of the bands after a push: the old ones, and the new one at the back of
the request's band. -/
theorem push_bands :
    (q.push r).2.bands = q.bands.modify (q.bandOf r) (· ++ [⟨q.nextTicket, r.id⟩]) := by
  rw [push_of_absent absent]
  rfl

theorem view_push_of_absent (fresh : ∀ s ∈ q.bands.flatten, s.ticket < q.nextTicket) :
    (q.push r).2.view = ⟨q.view.bands.modify (q.bandOf r) (· ++ [r])⟩ := by
  have older : ∀ b ∈ q.bands, ∀ s ∈ b, s.ticket < q.nextTicket := fun b hb s hs =>
    fresh s (List.mem_flatten.2 ⟨b, hb, hs⟩)
  -- an old slot reads as before; the new slot reads as the pushed request
  have band : ∀ b ∈ q.bands, b.filterMap (q.push r).2.requestOf = b.filterMap q.requestOf :=
    fun b hb => List.filterMap_congr fun s hs => push_requestOf_old absent (older b hb s hs)
  have appended : ∀ b : List Slot, (b ++ [(⟨q.nextTicket, r.id⟩ : Slot)]).filterMap (q.push r).2.requestOf =
      b.filterMap (q.push r).2.requestOf ++ [r] := fun b => by
    simp [List.filterMap_append, push_requestOf_new absent]
  rw [view, push_bands absent, map_modify_of_comm (g := (· ++ [r])) appended,
    List.map_congr_left band]
  rfl

theorem Represents.push_of_absent (hq : q.Represents) : (q.push r).2.Represents where
  bands_pos := by
    rw [push_bands absent, List.length_modify]
    exact hq.bands_pos
  slot_lt := slot_lt_push absent hq.slot_lt
  ids_nodup := by
    rw [PendingQueue.push_of_absent absent, List.map_append, List.nodup_append]
    refine ⟨hq.ids_nodup, by simp, ?_⟩
    intro a member b new same
    -- the pushed id is not among those waiting
    obtain ⟨e, he, rfl⟩ := List.mem_map.1 member
    have pushed : b = r.id := by simpa using new
    have waiting : q.contains r.id = true := by
      rw [contains_iff]
      exact ⟨e, he, same.trans pushed⟩
    rw [absent] at waiting
    cases waiting
  perm := by
    have within : q.bandOf r < q.view.bands.length := by
      simp only [view_bands_length, bandOf]
      have := hq.bands_pos
      omega
    rw [← toList_view, view_push_of_absent absent hq.slot_lt, PendingQueue.push_of_absent absent]
    calc (q.view.bands.modify (q.bandOf r) (· ++ [r])).flatten
        _ |>.Perm (q.view.toList ++ [r]) := flatten_modify_append_perm r _ _ within
        _ |>.Perm (q.entries.map (·.request) ++ [r]) := by
          rw [toList_view]
          exact hq.perm.append_right [r]
        _ = (q.entries ++ [Entry.mk q.nextTicket r]).map (·.request) := by simp

end Push

/-! ## Removing -/

/-- The entry of an id once the entries of `x` are deleted. -/
theorem entry?_erase (q : PendingQueue) (x id : SubmissionId) :
    PendingQueue.entry? { q with entries := q.entries.filter (·.request.id != x) } id =
      if id = x then none else PendingQueue.entry? q id := by
  unfold PendingQueue.entry?
  dsimp only
  rw [List.find?_filter]
  split
  · next same =>
    rw [List.find?_eq_none]
    intro e _ found
    simp only [bne_iff_ne, ne_eq, beq_iff_eq, decide_eq_true_eq] at found
    exact found.1 (found.2.trans same)
  · next differ =>
    apply List.find?_congr
    intro e _
    by_cases found : e.request.id = id
    · simp [found, differ]
    · simp [found]

/-- Once the entries of `x` are deleted, its slots read as nothing and the others as
before. -/
theorem requestOf_erase (q : PendingQueue) (x : SubmissionId) (s : Slot) :
    ({ q with entries := q.entries.filter (·.request.id != x) } : PendingQueue).requestOf s =
      (q.requestOf s).filter (·.id != x) := by
  by_cases same : s.id = x
  · have gone : ({ q with entries := q.entries.filter (·.request.id != x) } : PendingQueue).requestOf s =
        none := by
      unfold requestOf
      rw [entry?_erase, if_pos same]
    rcases reads : q.requestOf s with _ | r
    · rw [gone]
      rfl
    · rw [gone, Option.filter_some, id_of_requestOf reads, same]
      simp
  · have kept : ({ q with entries := q.entries.filter (·.request.id != x) } : PendingQueue).requestOf s =
        q.requestOf s := by
      unfold requestOf
      rw [entry?_erase, if_neg same]
    rcases reads : q.requestOf s with _ | r
    · rw [kept, reads]
      rfl
    · rw [kept, reads, Option.filter_some, id_of_requestOf reads]
      simp [same]

/-- Deleting the entries of `x` deletes `x` from every band of the view. -/
theorem view_erase (q : PendingQueue) (x : SubmissionId) :
    ({ q with entries := q.entries.filter (·.request.id != x) } : PendingQueue).view =
      ⟨q.view.bands.map (·.filter (·.id != x))⟩ := by
  simp only [view, List.map_map, BandQueue.mk.injEq]
  apply List.map_congr_left
  intro b _
  simp only [Function.comp, List.filter_filterMap, requestOf_erase]

@[simp] theorem modifyBand_isLive (q : PendingQueue) (i : Nat) (f : List Slot → List Slot) :
    (q.modifyBand i f).isLive = q.isLive := rfl

/-- Reclaiming drops only slots that read as nothing. -/
theorem view_reclaim (q : PendingQueue) (i : Nat) : (q.reclaim i).view = q.view := by
  have reads : (q.reclaim i).requestOf = q.requestOf := funext (reclaim_requestOf q i)
  have dropped : ∀ b : List Slot,
      (b.dropWhile fun s => !q.isLive s).filterMap q.requestOf = b.filterMap q.requestOf := by
    intro b
    have front : (b.takeWhile fun s => !q.isLive s).filterMap q.requestOf = [] := by
      apply List.filterMap_eq_nil_iff.2
      intro s taken
      exact requestOf_of_not_live (by simpa using List.mem_takeWhile_imp taken)
    conv_rhs => rw [← List.takeWhile_append_dropWhile (p := fun s => !q.isLive s) (l := b)]
    rw [List.filterMap_append, front, List.nil_append]
  have kept : ∀ b : List Slot, (b.filter q.isLive).filterMap q.requestOf = b.filterMap q.requestOf := by
    intro b
    rw [List.filterMap_filter]
    apply List.filterMap_congr
    intro s _
    split
    · rfl
    · next stale => exact (requestOf_of_not_live (by simpa using stale)).symm
  rw [view, view, reads]
  unfold reclaim
  dsimp only
  split
  · rw [modifyBand_isLive]
    simp only [modifyBand]
    rw [map_modify_of_eq kept, map_modify_of_eq dropped]
  · simp only [modifyBand]
    rw [map_modify_of_eq dropped]

section Remove

variable {q : PendingQueue} (hq : q.Represents)
include hq

theorem remove_view (x : SubmissionId) :
    (q.remove x).1 = (q.view.remove x).1 ∧ (q.remove x).2.view = (q.view.remove x).2 := by
  unfold PendingQueue.remove BandQueue.remove
  rw [find?_view hq]
  rcases PendingQueue.entry? q x with _ | e
  · exact ⟨rfl, rfl⟩
  · refine ⟨rfl, ?_⟩
    dsimp only
    rw [view_reclaim, view_erase]
    rfl

theorem Represents.remove (x : SubmissionId) : (q.remove x).2.Represents := by
  unfold PendingQueue.remove
  split
  · exact hq
  · next e found =>
    dsimp only
    refine ⟨?_, ?_, ?_, ?_⟩
    · rw [reclaim_bands_length]
      exact hq.bands_pos
    · intro s slot
      have old := (reclaim_slots_sublist _ _).subset slot
      rw [reclaim_nextTicket]
      exact hq.slot_lt s old
    · rw [reclaim_entries]
      exact hq.ids_nodup.sublist (List.filter_sublist.map _)
    · rw [← toList_view, view_reclaim, view_erase, reclaim_entries]
      calc (q.view.bands.map (·.filter (·.id != x))).flatten
          _ = q.toList.filter (·.id != x) := by rw [← List.filter_flatten, ← toList_view]; rfl
          _ |>.Perm ((q.entries.map (·.request)).filter (·.id != x)) := hq.perm.filter _
          _ = (q.entries.filter (·.request.id != x)).map (·.request) := by
            rw [List.filter_map]
            rfl

end Remove

/-! ## Any sequence of operations -/

section Answer

variable {q : PendingQueue} (hq : q.Represents)
include hq

/-- Every operation answers as the model does, and moves the view as the model moves. -/
theorem answer_view (op : QueueOp) :
    (q.answer op).1 = (q.view.answer op).1 ∧ (q.answer op).2.view = (q.view.answer op).2 := by
  cases op with
  | push r =>
    cases present : q.contains r.id
    · have band : min r.priority (q.view.bands.length - 1) = q.bandOf r := by
        simp [bandOf]
      refine ⟨by simp [answer, BandQueue.answer, BandQueue.push, contains_view hq, present,
        PendingQueue.push], ?_⟩
      simp only [answer, BandQueue.answer, BandQueue.push, contains_view hq, present,
        Bool.false_eq_true, if_false, band]
      exact view_push_of_absent present hq.slot_lt
    · simp [answer, BandQueue.answer, BandQueue.push, contains_view hq, present, PendingQueue.push]
  | remove x =>
    obtain ⟨taken, left⟩ := remove_view hq x
    exact ⟨by rw [answer, BandQueue.answer, taken], left⟩
  | contains x => exact ⟨by simp [answer, BandQueue.answer, contains_view hq], rfl⟩
  | size => exact ⟨by simp [answer, BandQueue.answer, size_view hq], rfl⟩
  | toList => exact ⟨by simp [answer, BandQueue.answer, toList_view], rfl⟩

theorem Represents.answer (op : QueueOp) : (q.answer op).2.Represents := by
  cases op with
  | push r =>
    cases present : q.contains r.id
    · exact hq.push_of_absent present
    · simpa [PendingQueue.answer, PendingQueue.push, present] using hq
  | remove x => exact hq.remove x
  | contains x => exact hq
  | size => exact hq
  | toList => exact hq

/-- From a represented queue, the queue and its view answer every sequence of operations
alike. -/
theorem replies_view (ops : List QueueOp) :
    QueueOp.replies answer q ops = QueueOp.replies BandQueue.answer q.view ops := by
  induction ops generalizing q with
  | nil => rfl
  | cons op ops ih =>
    obtain ⟨reply, moved⟩ := answer_view hq op
    simp only [QueueOp.replies, reply, ih (hq.answer op), moved]

end Answer

end PendingQueue

/-- The pending queue answers every sequence of pushes, removals, membership tests, counts
and readings as a list of first-in first-out bands does. -/
theorem pending_queue_answers_as_bands (n : Nat) (ops : List QueueOp) :
    QueueOp.replies PendingQueue.answer (PendingQueue.empty n) ops =
      QueueOp.replies BandQueue.answer (BandQueue.empty n) ops := by
  rw [PendingQueue.replies_view (PendingQueue.represents_empty n), PendingQueue.view_empty]

/-- An id removed and pushed again goes to the back of its band, behind the stale slot it
left. -/
example : QueueOp.replies PendingQueue.answer (PendingQueue.empty 4)
    [.push ⟨1, "aplusb", "PY3", "", none, 0⟩, .push ⟨2, "aplusb", "PY3", "", none, 0⟩, .remove 1,
      .push ⟨1, "aplusb", "PY3", "", none, 0⟩, .toList] =
    [.pushed true, .pushed true, .removed (some ⟨1, "aplusb", "PY3", "", none, 0⟩), .pushed true,
      .listing [⟨2, "aplusb", "PY3", "", none, 0⟩, ⟨1, "aplusb", "PY3", "", none, 0⟩]] := by
  decide

end JudgeRelay
