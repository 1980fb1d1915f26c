import JudgeRelay.Proofs.Registry.Conservation

/-!
# What a judge's link holds

The registry marks a judge busy as it sends the judge a submission; the judge's session takes
the submission off the link later, grades it, and reports the judge free. `RegistryOp.Ledger`
accounts for every link at once, counting what waited on each link before an operation (`P`)
and what the operation hands over on it, against the session reading the link (`R`: the id the
session registered its judge under and the submission it grades, `none` for a link no session
reads):

* a judge's link is read by the session of its id; a free judge's link holds no submission and
  its session grades none; a busy judge's submission waits on its link while the session grades
  none, or the session grades it and the link holds none (`Handover.Agree`);
* a link whose judge has left holds at most one submission, and only while its session grades
  none (`Handover.Loose`); a link no session reads holds nothing;
* every session's judge id was handed out already: it is below the next id.

Every operation keeps the ledger. Two of them change what sessions know along with the
registry, and say so: a judge reported free was grading what its session reported
(`ledger_onJudgeFree`), and a judge registered takes a link that only its new session reads,
under an id no session had (`ledger_register`).
-/

namespace JudgeRelay

/-- The submission a command hands over, if it hands one over. -/
def Command.handsOver : Command → Option SubmissionId
  | .submit r => some r.id
  | _ => none

/-- A judge's place in the ledger: its id, its link and its work. -/
def Judge.station (j : Judge) : JudgeId × LinkId × Option SubmissionId := (j.id, j.link, j.working)

namespace Handover

/-- A judge's work agrees with the submissions waiting on its link and the one its session
grades. -/
def Agree : Option SubmissionId → List SubmissionId → Option SubmissionId → Prop
  | none, waiting, current => waiting = [] ∧ current = none
  | some x, waiting, current => (waiting = [x] ∧ current = none) ∨ (waiting = [] ∧ current = some x)

/-- A link whose judge has left: at most one submission waits on it, and only while its
session grades none. -/
def Loose (waiting : List SubmissionId) (current : Option SubmissionId) : Prop :=
  waiting.length ≤ 1 ∧ (waiting ≠ [] → current = none)

theorem Agree.loose {work current : Option SubmissionId} {waiting : List SubmissionId}
    (h : Agree work waiting current) : Loose waiting current := by
  cases work with
  | none =>
    obtain ⟨rfl, rfl⟩ := h
    exact ⟨by simp, fun _ => rfl⟩
  | some x =>
    rcases h with ⟨rfl, rfl⟩ | ⟨rfl, rfl⟩
    · exact ⟨by simp, fun _ => rfl⟩
    · exact ⟨by simp, fun nonempty => absurd rfl nonempty⟩

section

variable {work current : Option SubmissionId} {waiting : List SubmissionId} {x : SubmissionId}

/-- A session that grades `x` grades its judge's work, and nothing waits for it. -/
theorem Agree.of_current (h : Agree work waiting (some x)) : work = some x ∧ waiting = [] := by
  cases work with
  | none => cases h.2
  | some y =>
    rcases h with ⟨-, stale⟩ | ⟨empty, same⟩
    · cases stale
    · exact ⟨same.symm, empty⟩

/-- The first submission waiting for a session is its judge's work, alone, and the session
grades none. -/
theorem Agree.of_waiting {rest : List SubmissionId} (h : Agree work (x :: rest) current) :
    work = some x ∧ rest = [] ∧ current = none := by
  cases work with
  | none => cases h.1
  | some y =>
    rcases h with ⟨same, idle⟩ | ⟨stale, -⟩
    · obtain ⟨first, alone⟩ := List.cons_eq_cons.1 same
      exact ⟨by rw [first], alone, idle⟩
    · cases stale

/-- Whatever waits for a session is its judge's work. -/
theorem Agree.eq_of_mem (h : Agree work waiting current) (waits : x ∈ waiting) : work = some x := by
  obtain ⟨rest, more, rfl⟩ := List.append_of_mem waits
  cases rest with
  | nil => exact h.of_waiting.1
  | cons y rest =>
    obtain ⟨-, alone, -⟩ := h.of_waiting
    simp at alone

/-- A judge's work waits for its session exactly when the session does not grade it. -/
theorem Agree.mem_iff (h : Agree (some x) waiting current) : x ∈ waiting ↔ current ≠ some x := by
  rcases h with ⟨once, idle⟩ | ⟨none, grading⟩
  · simp [once, idle]
  · simp [none, grading]

end

end Handover

theorem Registry.release_nextId (r : Registry) (id : JudgeId) (x : SubmissionId) (j : Judge) :
    (r.release id x j).nextId = r.nextId := by
  unfold Registry.release
  dsimp only
  split <;> split <;> rfl

namespace RegistryOp

/-- The submissions an outbox hands over on a link, in order. -/
def handedOn (o : Outbox) (l : LinkId) : List SubmissionId :=
  o.filterMap fun e => if e.link = l then e.command.handsOver else none

theorem handedOn_append (o o' : Outbox) (l : LinkId) :
    handedOn (o ++ o') l = handedOn o l ++ handedOn o' l :=
  List.filterMap_append

theorem handedOn_submit (o : Outbox) (r : Registry) (l l' : LinkId) (q : Request) :
    handedOn (o ++ [⟨r, l', .submit q⟩]) l = handedOn o l ++ if l' = l then [q.id] else [] := by
  rw [handedOn_append]
  by_cases same : l' = l <;> simp [handedOn, Command.handsOver, same]

theorem handedOn_other (o : Outbox) (r : Registry) (l l' : LinkId) {c : Command}
    (hc : ∀ q, c ≠ .submit q) : handedOn (o ++ [⟨r, l', c⟩]) l = handedOn o l := by
  have none : c.handsOver = none := by
    cases c with
    | submit q => exact absurd rfl (hc q)
    | abort _ => rfl
    | disconnect _ => rfl
  rw [handedOn_append]
  simp [handedOn, none]

@[simp] theorem handedOn_nil (l : LinkId) : handedOn [] l = [] := rfl

/-- What the session reading a link knows: the id it registered its judge under, and the
submission it grades. -/
structure Reader where
  judge : JudgeId
  grading : Option SubmissionId
  deriving DecidableEq

/-- The ledger of a state: every judge's link is read by the session of its id and agrees with
it, every link whose judge has left is loose, and a link no session reads holds nothing,
counting what waited on each link before (`P`) and what the outbox hands over. Sessions'
judge ids were handed out already; judges have distinct links and distinct ids. -/
structure Ledger (P : LinkId → List SubmissionId) (R : LinkId → Option Reader)
    (s : Registry × Outbox) : Prop where
  judge : ∀ k ∈ s.1.judges, ∃ c, R k.link = some ⟨k.id, c⟩ ∧
    Handover.Agree k.working (P k.link ++ handedOn s.2 k.link) c
  left : ∀ l x, R l = some x → l ∉ s.1.judges.map (·.link) →
    Handover.Loose (P l ++ handedOn s.2 l) x.grading
  unread : ∀ l, R l = none → P l ++ handedOn s.2 l = []
  readers_lt : ∀ l x, R l = some x → x.judge < s.1.nextId
  links : (s.1.judges.map (·.link)).Nodup
  ids : (s.1.judges.map (·.id)).Nodup

variable {α : Type} {P : LinkId → List SubmissionId} {R : LinkId → Option Reader}
  {s : Registry × Outbox}

namespace Ledger

theorem link_read (h : Ledger P R s) {k : Judge} (member : k ∈ s.1.judges) : R k.link ≠ none := by
  obtain ⟨c, read, -⟩ := h.judge k member
  rw [read]
  exact Option.some_ne_none _

theorem id_lt (h : Ledger P R s) {k : Judge} (member : k ∈ s.1.judges) : k.id < s.1.nextId := by
  obtain ⟨c, read, -⟩ := h.judge k member
  exact h.readers_lt _ _ read

/-- A change that keeps every judge's station, the next id and the outbox. -/
theorem congr (h : Ledger P R s) {r' : Registry}
    (stations : r'.judges.map Judge.station = s.1.judges.map Judge.station)
    (nextId : r'.nextId = s.1.nextId) : Ledger P R (r', s.2) := by
  have links : r'.judges.map (·.link) = s.1.judges.map (·.link) := by
    simpa [Judge.station, List.map_map, Function.comp_def] using congrArg (List.map (·.2.1)) stations
  have ids : r'.judges.map (·.id) = s.1.judges.map (·.id) := by
    simpa [Judge.station, List.map_map, Function.comp_def] using congrArg (List.map (·.1)) stations
  refine ⟨fun k member => ?_, fun l x read gone => h.left l x read (links ▸ gone), h.unread,
    nextId ▸ h.readers_lt, links ▸ h.links, ids ▸ h.ids⟩
  -- a judge kept its id, its link and its work from one before
  obtain ⟨k₀, member₀, same⟩ := List.mem_map.1 (stations ▸ List.mem_map_of_mem member :
    k.station ∈ s.1.judges.map Judge.station)
  simp only [Judge.station, Prod.mk.injEq] at same
  obtain ⟨id, link, work⟩ := same
  rw [← id, ← link, ← work]
  exact h.judge k₀ member₀

/-- Sending a command other than a submission. -/
theorem send (h : Ledger P R s) (l : LinkId) {c : Command} (hc : ∀ q, c ≠ .submit q) :
    Ledger P R (s.1, s.2 ++ [⟨s.1, l, c⟩]) := by
  refine ⟨fun k member => ?_, fun l' x read gone => ?_, fun l' unread => ?_, h.readers_lt,
    h.links, h.ids⟩ <;> simp only [handedOn_other _ _ _ _ hc]
  · exact h.judge k member
  · exact h.left l' x read gone
  · exact h.unread l' unread

/-- Moving the commands sent so far into what waits on the links. -/
theorem flush {r : Registry} {out : Outbox} (h : Ledger P R (r, out)) :
    Ledger (fun l => P l ++ handedOn out l) R (r, []) := by
  refine ⟨fun k member => ?_, fun l x read gone => ?_, fun l unread => ?_, h.readers_lt, h.links,
    h.ids⟩ <;> simp only [handedOn_nil, List.append_nil]
  · exact h.judge k member
  · exact h.left l x read gone
  · exact h.unread l unread

/-- Judge `j` comes to work on `work` while the outbox becomes `o'` and the session reading `j`'s
link comes to grade `c`, nothing else changing for the other links: the ledger holds when `j`
agrees with its link afterwards. -/
theorem rework (h : Ledger P R s) {j : Judge} (member : j ∈ s.1.judges) (work : Option SubmissionId)
    {r' : Registry} (judges : r'.judges = (s.1.modifyJudge j.id fun k => { k with working := work }).judges)
    (nextId : r'.nextId = s.1.nextId) {o' : Outbox}
    (others : ∀ l, j.link ≠ l → handedOn o' l = handedOn s.2 l)
    {R' : LinkId → Option Reader} (readOthers : ∀ l, j.link ≠ l → R' l = R l)
    {c : Option SubmissionId} (read : R' j.link = some ⟨j.id, c⟩)
    (agree : Handover.Agree work (P j.link ++ handedOn o' j.link) c) : Ledger P R' (r', o') := by
  -- the other judges keep their links, which differ from `j`'s
  have other : ∀ k ∈ s.1.judges, k.id ≠ j.id → j.link ≠ k.link := fun k hk differ same =>
    differ (congrArg Judge.id (List.inj_on_of_nodup_map h.links hk member same.symm))
  have links : r'.judges.map (·.link) = s.1.judges.map (·.link) := by
    rw [judges]
    exact Registry.modifyJudge_map _ _ _ _ fun _ => rfl
  have ids : r'.judges.map (·.id) = s.1.judges.map (·.id) := by
    rw [judges]
    exact Registry.modifyJudge_map _ _ _ _ fun _ => rfl
  have unreadOthers : ∀ l, R' l = none → j.link ≠ l := fun l unread same => by
    rw [← same, read] at unread
    cases unread
  refine ⟨fun k hk => ?_, fun l x read' gone => ?_, fun l unread => ?_, fun l x read' => ?_,
    links ▸ h.links, ids ▸ h.ids⟩
  · rw [judges] at hk
    rcases Registry.mem_modifyJudge (g := fun k => { k with working := work }) (fun _ => rfl) hk
      with ⟨differ, old⟩ | ⟨same, j', member', rfl⟩
    · rw [others _ (other k old differ), readOthers _ (other k old differ)]
      exact h.judge k old
    · obtain rfl : j' = j := List.inj_on_of_nodup_map h.ids member' member same
      exact ⟨c, read, agree⟩
  · have differ : j.link ≠ l := fun same => gone (links ▸ same ▸ List.mem_map_of_mem member)
    rw [others l differ]
    rw [readOthers l differ] at read'
    exact h.left l x read' (links ▸ gone)
  · have differ := unreadOthers l unread
    rw [others l differ]
    rw [readOthers l differ] at unread
    exact h.unread l unread
  · rw [nextId]
    by_cases same : j.link = l
    · rw [← same, read] at read'
      cases read'
      exact h.id_lt member
    · rw [readOthers l same] at read'
      exact h.readers_lt l x read'

/-- A free judge `j` is handed request `q`. -/
theorem submit (h : Ledger P R s) {j : Judge} (member : j ∈ s.1.judges) (free : j.working = none)
    (q : Request) {r' : Registry} (judges : r'.judges = (s.1.setWorking j.id q.id).judges)
    (nextId : r'.nextId = s.1.nextId) : Ledger P R (r', s.2 ++ [⟨s.1, j.link, .submit q⟩]) := by
  obtain ⟨c, read, agree⟩ := h.judge j member
  rw [free] at agree
  obtain ⟨empty, rfl⟩ := agree
  refine h.rework member (some q.id) judges nextId (fun l differ => ?_) (fun _ _ => rfl) read
    (.inl ⟨?_, rfl⟩)
  · rw [handedOn_submit, if_neg differ, List.append_nil]
  · rw [handedOn_submit, if_pos rfl, ← List.append_assoc, empty, List.nil_append]

/-- Dropping a judge leaves its link loose. -/
theorem drop (h : Ledger P R s) (id : JudgeId) : Ledger P R (s.1.drop id, s.2) := by
  have sub : (s.1.drop id).judges.Sublist s.1.judges := by
    rw [Registry.drop_judges]
    exact List.filter_sublist
  have nextId : (s.1.drop id).nextId = s.1.nextId := (Registry.shrinks_drop s.1 id).nextId
  refine ⟨fun k member => h.judge k (sub.subset member), fun l x read gone => ?_, h.unread,
    nextId ▸ h.readers_lt, h.links.sublist (sub.map _), h.ids.sublist (sub.map _)⟩
  by_cases had : l ∈ s.1.judges.map (·.link)
  · -- the judge dropped was the one on that link
    obtain ⟨k, member, rfl⟩ := List.mem_map.1 had
    obtain ⟨c, read', agree⟩ := h.judge k member
    rw [read] at read'
    cases read'
    exact agree.loose
  · exact h.left l x read had

/-- What waits on one link `l` and who reads it change; the ledger holds when the link's new
entry fits the judge on it, or, with none on it, reads as a link whose judge has left. -/
theorem relink (h : Ledger P R s) {l : LinkId} {p : List SubmissionId} {x : Option Reader}
    (judged : ∀ k ∈ s.1.judges, k.link = l →
      ∃ c, x = some ⟨k.id, c⟩ ∧ Handover.Agree k.working (p ++ handedOn s.2 l) c)
    (left : ∀ y, x = some y → l ∉ s.1.judges.map (·.link) →
      Handover.Loose (p ++ handedOn s.2 l) y.grading)
    (unread : x = none → p ++ handedOn s.2 l = []) (below : ∀ y, x = some y → y.judge < s.1.nextId) :
    Ledger (Function.update P l p) (Function.update R l x) s := by
  refine ⟨fun k member => ?_, fun l' y read gone => ?_, fun l' none => ?_, fun l' y read => ?_,
    h.links, h.ids⟩
  · by_cases same : k.link = l
    · rw [same, Function.update_self, Function.update_self]
      exact judged k member same
    · rw [Function.update_of_ne same, Function.update_of_ne same]
      exact h.judge k member
  all_goals by_cases same : l' = l
  · subst same
    rw [Function.update_self] at read ⊢
    exact left y read gone
  · rw [Function.update_of_ne same] at read ⊢
    exact h.left l' y read gone
  · subst same
    rw [Function.update_self] at none ⊢
    exact unread none
  · rw [Function.update_of_ne same] at none ⊢
    exact h.unread l' none
  · subst same
    rw [Function.update_self] at read
    exact below y read
  · rw [Function.update_of_ne same] at read
    exact h.readers_lt l' y read

/-- A session whose judge has left stops grading. -/
theorem forget (h : Ledger P R s) {l : LinkId} {x : Reader} (read : R l = some x)
    (gone : l ∉ s.1.judges.map (·.link)) :
    Ledger P (Function.update R l (some ⟨x.judge, none⟩)) s := by
  have relinked := h.relink (p := P l) (x := some ⟨x.judge, none⟩)
    (fun k member same => absurd (List.mem_map.2 ⟨k, member, same⟩) gone)
    (fun y read' _ => by
      cases read'
      exact ⟨(h.left l x read gone).1, fun _ => rfl⟩)
    (fun none => nomatch none)
    (fun y read' => by
      cases read'
      exact h.readers_lt l x read)
  rwa [Function.update_eq_self] at relinked

/-- A judge is registered over a link no session read so far; its new session reads the link
under the next id. -/
theorem enroll (h : Ledger P R s) {j : Judge} (free : j.working = none) (unread : R j.link = none) :
    Ledger P (Function.update R j.link (some ⟨s.1.nextId, none⟩)) (s.1.enroll j, s.2) := by
  have empty := h.unread j.link unread
  have fresh : j.link ∉ s.1.judges.map (·.link) := fun had => by
    obtain ⟨k, member, same⟩ := List.mem_map.1 had
    exact h.link_read member (same ▸ unread)
  have stale : s.1.nextId ∉ s.1.judges.map (·.id) := fun had => by
    obtain ⟨k, member, same⟩ := List.mem_map.1 had
    exact Nat.lt_irrefl _ (same ▸ h.id_lt member)
  refine ⟨fun k member => ?_, fun l x read' gone => ?_, fun l unread' => ?_, fun l x read' => ?_, ?_,
    ?_⟩
  · rcases List.mem_append.1 member with old | new
    · have differ : k.link ≠ j.link := fun same => fresh (same ▸ List.mem_map_of_mem old)
      rw [Function.update_of_ne differ]
      exact h.judge k old
    · rw [List.mem_singleton.1 new]
      exact ⟨none, Function.update_self _ _ _, by rw [free, empty]; exact ⟨rfl, rfl⟩⟩
  · have gone₀ : l ∉ s.1.judges.map (·.link) := fun had =>
      gone (by simp only [Registry.enroll, List.map_append]; exact List.mem_append_left _ had)
    have differ : l ≠ j.link := fun same =>
      gone (by simp [Registry.enroll, same])
    rw [Function.update_of_ne differ] at read'
    exact h.left l x read' gone₀
  · have differ : l ≠ j.link := fun same => by
      rw [same, Function.update_self] at unread'
      cases unread'
    rw [Function.update_of_ne differ] at unread'
    exact h.unread l unread'
  · show x.judge < s.1.nextId + 1
    by_cases same : l = j.link
    · rw [same, Function.update_self] at read'
      cases read'
      exact Nat.lt_succ_self _
    · rw [Function.update_of_ne same] at read'
      exact Nat.lt_succ_of_lt (h.readers_lt l x read')
  · simp only [Registry.enroll, List.map_append, List.map_cons, List.map_nil]
    exact List.nodup_append.2 ⟨h.links, List.nodup_singleton _,
      fun a had b new => by rw [List.mem_singleton.1 new]; exact fun same => fresh (same ▸ had)⟩
  · simp only [Registry.enroll, List.map_append, List.map_cons, List.map_nil]
    exact List.nodup_append.2 ⟨h.ids, List.nodup_singleton _,
      fun a had b new => by rw [List.mem_singleton.1 new]; exact fun same => stale (same ▸ had)⟩

/-- A judge reported free by its session, which graded `x`, was busy with `x`; it is freed. -/
theorem release (h : Ledger P R s) {id : JudgeId} {j : Judge} (found : s.1.find? id = some j)
    {x : SubmissionId} (grading : R j.link = some ⟨j.id, some x⟩) :
    Ledger P (Function.update R j.link (some ⟨j.id, none⟩)) (s.1.release id x j, s.2) := by
  obtain ⟨member, rfl⟩ := Registry.find?_spec found
  obtain ⟨c, read, agree⟩ := h.judge j member
  rw [grading] at read
  cases read
  -- the session grades `x`, so the judge works on `x` and nothing waits on its link
  have busy := agree.of_current
  have judges : (s.1.release j.id x j).judges =
      (s.1.modifyJudge j.id fun k => { k with working := none }).judges := by
    rw [Registry.release_judges, busy.1]
    simp
  exact h.rework member none judges (Registry.release_nextId _ _ _ _) (fun _ _ => rfl)
    (fun l differ => Function.update_of_ne (Ne.symm differ) _ _) (Function.update_self _ _ _)
    ⟨busy.2, rfl⟩

/-! ### At rest: the moves of a session -/

/-- A session that grades nothing takes the submission waiting on its link. -/
theorem take {r : Registry} (h : Ledger P R (r, [])) {l : LinkId} {i : JudgeId}
    (read : R l = some ⟨i, none⟩) {x : SubmissionId} {rest : List SubmissionId}
    (waiting : P l = x :: rest) :
    Ledger (Function.update P l rest) (Function.update R l (some ⟨i, some x⟩)) (r, []) := by
  -- one submission at most waits on a link, so nothing waits behind `x`
  have alone : rest = [] := by
    by_cases had : l ∈ r.judges.map (·.link)
    · obtain ⟨k, member, rfl⟩ := List.mem_map.1 had
      obtain ⟨c, read', agree⟩ := h.judge k member
      simp only [handedOn_nil, List.append_nil, waiting] at agree
      exact agree.of_waiting.2.1
    · have short := (h.left l _ read had).1
      simp only [handedOn_nil, List.append_nil, waiting, List.length_cons] at short
      exact List.eq_nil_of_length_eq_zero (by omega)
  subst alone
  refine h.relink (x := some ⟨i, some x⟩) (fun k member same => ?_) (fun y read' _ => ?_)
    (fun none => nomatch none) (fun y read' => ?_)
  · -- the judge on the link worked on `x`, which its session now grades
    obtain ⟨c, read', agree⟩ := h.judge k member
    rw [same, read] at read'
    cases read'
    simp only [handedOn_nil, List.append_nil, same, waiting] at agree ⊢
    rw [agree.of_waiting.1]
    exact ⟨some x, rfl, .inr ⟨rfl, rfl⟩⟩
  · cases read'
    exact ⟨by simp, fun nonempty => absurd rfl nonempty⟩
  · cases read'
    exact h.readers_lt l ⟨i, none⟩ read

/-- A link whose judge has left, and which its session no longer reads, waits on nothing. -/
theorem vacate {r : Registry} (h : Ledger P R (r, [])) {l : LinkId}
    (gone : l ∉ r.judges.map (·.link)) :
    Ledger (Function.update P l []) (Function.update R l none) (r, []) :=
  h.relink (x := none) (fun k member same => absurd (List.mem_map.2 ⟨k, member, same⟩) gone)
    (fun _ read _ => nomatch read) (fun _ => rfl) fun _ read => nomatch read

end Ledger

/-! ## Every operation keeps the ledger -/

/-- Every run of `op` from a state with a ledger leaves one, for the same links and sessions. -/
def KeepsLedger (P : LinkId → List SubmissionId) (R : LinkId → Option Reader)
    (op : RegistryOp α) : Prop :=
  Keeps (fun s s' => Ledger P R s → Ledger P R s') op

theorem keepsLedger_refl (s : Registry × Outbox) : Ledger P R s → Ledger P R s := id

theorem keepsLedger_trans (s₁ s₂ s₃ : Registry × Outbox) (h₁ : Ledger P R s₁ → Ledger P R s₂)
    (h₂ : Ledger P R s₂ → Ledger P R s₃) : Ledger P R s₁ → Ledger P R s₃ := h₂ ∘ h₁

theorem ledger_send (l : LinkId) {c : Command} (hc : ∀ q, c ≠ .submit q) (links : Links)
    (h : Ledger P R s) : Ledger P R ((send l c).runOn links s).2 := by
  rw [runOn_send]
  split
  · exact h.send l hc
  · exact h

theorem ledger_cascade (f : Nat) :
    (∀ id, KeepsLedger P R (handleFree id f)) ∧ (∀ id, KeepsLedger P R (remove id f)) ∧
      KeepsLedger P R (updateMinTier f) := by
  apply Keeps.cascade keepsLedger_refl keepsLedger_trans
  · intro s id j req offered h
    obtain ⟨found, available, -, -⟩ := Registry.offer_spec offered
    obtain ⟨member, rfl⟩ := Registry.find?_spec found
    exact h.submit member (Registry.isAvailable_iff.1 available).2 req rfl rfl
  · exact fun s id h => h.drop id
  · exact fun s h => h.congr rfl rfl

theorem keepsLedger_offerWork (id : JudgeId) : KeepsLedger P R (offerWork id) := by
  intro links s h
  rw [runOn_offerWork]
  exact (ledger_cascade _).1 id links s h

theorem keepsLedger_dispatchLoop (req : Request) (tie : TieBreak) (f : Nat) : KeepsLedger P R (dispatchLoop req tie f) := by
  induction f generalizing tie with
  | zero =>
    intro links s h
    rw [dispatchLoop_zero]
    exact h.congr rfl rfl
  | succ f ih =>
    intro links s h
    rw [dispatchLoop_succ]
    rcases chosen : Registry.pickLeast (tie 0) (s.1.eligible req) with _ | j
    · exact h.congr rfl rfl
    · obtain ⟨member, -, -, available⟩ := Registry.mem_eligible (Registry.pickLeast_mem chosen)
      dsimp only
      split
      · exact h.submit member (Registry.isAvailable_iff.1 available).2 req rfl rfl
      · exact ih _ links _ ((ledger_cascade _).2.1 j.id links s h)

theorem keepsLedger_dispatch (req : Request) (tie : TieBreak) : KeepsLedger P R (dispatch req tie) := by
  intro links s h
  rw [runOn_dispatch]
  split
  · exact h
  · exact keepsLedger_dispatchLoop req tie _ links s h

theorem keepsLedger_evict (acc : List SubmissionId) (x : JudgeId) : KeepsLedger P R (evict acc x) := by
  intro links s h
  rw [runOn_evict]
  dsimp only
  rcases s.1.find? x with _ | old
  · exact (ledger_cascade _).2.1 x links s h
  · exact (ledger_cascade _).2.1 x links _ (ledger_send old.link (disconnect_ne_submit true) links h)

/-- Registering a judge over a link that no session read so far: its new session reads the link
under the id the registry returns, which is above every id a session had. -/
theorem ledger_register (j : Judge) (free : j.working = none) (links : Links) (h : Ledger P R s)
    (unread : R j.link = none) :
    Ledger P (Function.update R j.link (some ⟨((register j).runOn links s).1.1, none⟩))
      ((register j).runOn links s).2 ∧
    ∀ l x, R l = some x → x.judge < ((register j).runOn links s).1.1 := by
  rw [runOn_register]
  dsimp only
  have evicted := Keeps.foldlM keepsLedger_refl keepsLedger_trans keepsLedger_evict
    ((s.1.judges.filter (·.name == j.name)).map (·.id)) [] links s h
  generalize ((((s.1.judges.filter (·.name == j.name)).map (·.id)).foldlM evict []).runOn
    links s) = e at evicted ⊢
  have enrolled := evicted.enroll free unread
  exact ⟨(ledger_cascade _).1 _ links _ ((ledger_cascade _).2.2 links _ enrolled),
    evicted.readers_lt⟩

theorem keepsLedger_abort (x : SubmissionId) : KeepsLedger P R (abort x) := by
  intro links s h
  rw [runOn_abort]
  rcases s.1.assignedTo x with _ | id
  · exact h.congr rfl rfl
  · dsimp only
    rcases s.1.find? id with _ | j
    · exact h
    · exact ledger_send j.link (abort_ne_submit x) links h

theorem keepsLedger_sendAll (js : List Judge) (c : Command) (hc : ∀ q, c ≠ .submit q) :
    KeepsLedger P R (js.forM fun j => do let _ ← send j.link c) := by
  apply Keeps.forM keepsLedger_refl keepsLedger_trans
  intro j links s h
  simp only [runOn_bind, runOn_pure]
  exact ledger_send j.link hc links h

theorem keepsLedger_setDisabled (name : String) (d : Bool) : KeepsLedger P R (setDisabled name d) := by
  intro links s h
  rw [runOn_setDisabled]
  dsimp only
  split
  · exact h
  · have marked : Ledger P R (s.1.markDisabled name d, s.2) :=
      h.congr (Registry.map_map_of_eq _ _ _ fun k => by split <;> rfl) rfl
    have tier := (ledger_cascade (s.1.markDisabled name d).fuel).2.2 links _ marked
    split
    · exact Keeps.forM keepsLedger_refl keepsLedger_trans keepsLedger_offerWork _ links _ tier
    · exact tier

/-- A judge reported free by its session, which graded `x`. -/
theorem ledger_onJudgeFree (id : JudgeId) (x : SubmissionId) (links : Links) (h : Ledger P R s)
    {j : Judge} (found : s.1.find? id = some j) (grading : R j.link = some ⟨j.id, some x⟩) :
    Ledger P (Function.update R j.link (some ⟨j.id, none⟩)) ((onJudgeFree id x).runOn links s).2 := by
  rw [runOn_onJudgeFree_of_find links x found]
  exact keepsLedger_offerWork id links _ (h.release found grading)

/-- Changing a judge but not its station, then offering it work. -/
theorem keepsLedger_modifyThenOffer {id : JudgeId} {f : Judge → Judge}
    (keeps : ∀ k, (f k).station = k.station) {op : RegistryOp Unit}
    (run : ∀ links s, op.runOn links s = if (s.1.find? id).isSome then
      (offerWork id).runOn links (s.1.modifyJudge id f, s.2) else ((), s)) :
    KeepsLedger P R op := by
  intro links s h
  rw [run]
  split
  · exact keepsLedger_offerWork id links _ (h.congr (Registry.modifyJudge_map _ _ _ _ keeps) rfl)
  · exact h

theorem keepsLedger_setPing (id : JudgeId) (load : Option Binary64) (ping : Binary64) :
    KeepsLedger P R (setPing id load ping) := by
  intro links s h
  rw [runOn_setPing]
  exact h.congr (Registry.modifyJudge_map _ _ _ _ fun _ => rfl) rfl

theorem keepsLedger_setProblems (id : JudgeId) (ps : List String) :
    KeepsLedger P R (setProblems id ps) := by
  refine keepsLedger_modifyThenOffer ?_ fun links s => runOn_setProblems links id ps s
  exact fun _ => rfl

theorem keepsLedger_setExecutors (id : JudgeId) (es : List String) :
    KeepsLedger P R (setExecutors id es) := by
  refine keepsLedger_modifyThenOffer ?_ fun links s => runOn_setExecutors links id es s
  exact fun _ => rfl

theorem keepsLedger_disconnect (name : String) (force : Bool) :
    KeepsLedger P R (disconnect name force) := by
  intro links s h
  simp only [disconnect, runOn_bind, runOn_registry]
  exact keepsLedger_sendAll _ _ (disconnect_ne_submit force) links _ h

theorem keepsLedger_disconnectAll (force : Bool) : KeepsLedger P R (disconnectAll force) := by
  intro links s h
  simp only [disconnectAll, runOn_bind, runOn_registry]
  exact keepsLedger_sendAll _ _ (disconnect_ne_submit force) links _ h

end RegistryOp

end JudgeRelay
