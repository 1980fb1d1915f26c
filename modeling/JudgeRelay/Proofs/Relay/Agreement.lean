import JudgeRelay.Proofs.Relay.Steps

/-!
# Sessions agree with the registry

The registry marks a judge busy when it sends the judge a submission, and the judge's session
learns of the submission only when it takes the command off the link, later still when the
write to the judge succeeds. `Agrees` says how the two views fit together at every moment a
task can be interrupted, for the sessions the tasks serve (`sess`, by task):

* the registry is one its operations reach from the empty registry (`Registry.Reachable`), so
  what is proved of reachable registries holds of it;
* the registry's ledger holds (`RegistryOp.Ledger`), counting on each session's link what the
  session failed to write and what waits on the link, with the session's judge id and the
  submission it grades as the link's reader;
* every link with a reader has a session, sessions have distinct links and distinct judge
  ids, and a session waits for an acknowledgement only while it grades.

Its consequences for a session whose judge is registered (`Agrees.agree`): the judge works on
a submission exactly when that submission is pending on the link, failed to be written, or is
graded by the session, and on one of the three only; a submission pending on the link finds
the session grading nothing (`Agrees.idle_of_pending`).

The rest of the module is how each kind of step keeps it: a registry operation that keeps the
ledger (`Agrees.operate`), a session changing what it grades together with a registry
operation (`Agrees.resettle`), a judge registered with its new session (`Agrees.enroll`) and a
session leaving (`Agrees.leave`).
-/

namespace JudgeRelay

open RegistryOp

/-- The submission a command hands over, as a list. -/
def Command.handed : Command → List Request
  | .submit r => [r]
  | _ => []

theorem Command.handed_ids (c : Command) : c.handed.map (·.id) = c.handsOver.toList := by
  cases c <;> rfl

/-- A session that has taken command `c` off its link and not yet written it to its judge: what
`c` hands over counts as not yet delivered. -/
def Session.holding (s : Session) (c : Command) : Session :=
  { s with undelivered := s.undelivered ++ c.handed }

@[simp] theorem Session.holding_judgeId (s : Session) (c : Command) : (s.holding c).judgeId = s.judgeId := rfl
@[simp] theorem Session.holding_link (s : Session) (c : Command) : (s.holding c).link = s.link := rfl
@[simp] theorem Session.holding_current (s : Session) (c : Command) : (s.holding c).current = s.current := rfl
@[simp] theorem Session.holding_ackDeadline (s : Session) (c : Command) :
    (s.holding c).ackDeadline = s.ackDeadline := rfl
@[simp] theorem Session.holding_undelivered (s : Session) (c : Command) :
    (s.holding c).undelivered = s.undelivered ++ c.handed := rfl

/-- The sessions `sess` agree with registry `r` over `links`, with `P` counting on a session's
link what it failed to write and what waits there, and `R` reading each session's judge id and
what it grades. -/
structure Agrees (r : Registry) (links : Array Link) (sess : TaskId → Option Session)
    (P : LinkId → List SubmissionId) (R : LinkId → Option Reader) : Prop where
  reachable : r.Reachable
  ledger : Ledger P R (r, [])
  waiting : ∀ t s, sess t = some s → P s.link = s.undelivered.map (·.id) ++ pendingOn links s.link
  reading : ∀ t s, sess t = some s → R s.link = some ⟨s.judgeId, s.current⟩
  readBy : ∀ l x, R l = some x → ∃ t s, sess t = some s ∧ s.link = l
  distinct : ∀ t t' s s', sess t = some s → sess t' = some s' → t ≠ t' →
    s.link ≠ s'.link ∧ s.judgeId ≠ s'.judgeId
  inside : ∀ t s, sess t = some s → s.link < links.size
  acked : ∀ t s, sess t = some s → s.ackDeadline.isSome → s.current.isSome

/-- Some ledger makes the sessions agree with the registry. -/
def Agreeing (r : Registry) (links : Array Link) (sess : TaskId → Option Session) : Prop :=
  ∃ P R, Agrees r links sess P R

variable {r : Registry} {links : Array Link} {sess : TaskId → Option Session}
  {P : LinkId → List SubmissionId} {R : LinkId → Option Reader} {t : TaskId} {s : Session}

theorem update_eq_some {t t' : TaskId} {o : Option Session} {s' : Session}
    (h : Function.update sess t o t' = some s') : (t' = t ∧ o = some s') ∨ (t' ≠ t ∧ sess t' = some s') := by
  by_cases same : t' = t
  · subst same
    rw [Function.update_self] at h
    exact .inl ⟨rfl, h⟩
  · rw [Function.update_of_ne same] at h
    exact .inr ⟨same, h⟩

namespace Agrees

/-- The judge registered under a session's id is the one on the session's link. -/
theorem judge_link (h : Agrees r links sess P R) (sits : sess t = some s) {k : Judge}
    (member : k ∈ r.judges) (same : k.id = s.judgeId) : k.link = s.link := by
  obtain ⟨c, read, -⟩ := h.ledger.judge k member
  obtain ⟨t', s', sits', link⟩ := h.readBy _ _ read
  have ids : s'.judgeId = k.id := by
    have same := h.reading t' s' sits'
    rw [link, read] at same
    exact (Reader.mk.inj (Option.some.inj same)).1.symm
  by_cases here : t' = t
  · rw [here, sits] at sits'
    cases sits'
    exact link.symm
  · exact absurd (ids.trans same) (h.distinct t' t s' s sits' sits here).2

/-- A session whose judge is no longer registered reads a link no judge has. -/
theorem unregistered (h : Agrees r links sess P R) (sits : sess t = some s)
    (none : r.find? s.judgeId = none) : s.link ∉ r.judges.map (·.link) := by
  intro had
  obtain ⟨k, member, same⟩ := List.mem_map.1 had
  obtain ⟨c, read, -⟩ := h.ledger.judge k member
  rw [same, h.reading t s sits] at read
  exact Registry.find?_eq_none.1 none k member (Reader.mk.inj (Option.some.inj read)).1.symm

/-- What a registered judge works on agrees with its session: it is waiting for the session,
on the link or among what the session failed to write, or the session grades it. -/
theorem agree (h : Agrees r links sess P R) (sits : sess t = some s) {k : Judge}
    (found : r.find? s.judgeId = some k) :
    Handover.Agree k.working (s.undelivered.map (·.id) ++ pendingOn links s.link) s.current := by
  obtain ⟨member, same⟩ := Registry.find?_spec found
  obtain ⟨c, read, agree⟩ := h.ledger.judge k member
  rw [h.judge_link sits member same, h.reading t s sits, same] at read
  cases read
  rw [← h.waiting t s sits]
  simpa [h.judge_link sits member same] using agree

/-- A registered judge whose session grades `x` works on `x`. -/
theorem working_of_current (h : Agrees r links sess P R) (sits : sess t = some s) {k : Judge}
    (found : r.find? s.judgeId = some k) {x : SubmissionId} (grading : s.current = some x) :
    k.working = some x := by
  have agree := h.agree sits found
  rw [grading] at agree
  exact agree.of_current.1

/-- At most one submission waits for a session, and only while it grades none. -/
theorem loose (h : Agrees r links sess P R) (sits : sess t = some s) :
    Handover.Loose (s.undelivered.map (·.id) ++ pendingOn links s.link) s.current := by
  rcases found : r.find? s.judgeId with _ | k
  · have loose := h.ledger.left s.link _ (h.reading t s sits) (h.unregistered sits found)
    simpa [h.waiting t s sits] using loose
  · exact (h.agree sits found).loose

/-- A session with a submission pending on its link grades nothing. -/
theorem idle_of_pending (h : Agrees r links sess P R) (sits : sess t = some s) {x : SubmissionId}
    (pending : x ∈ pendingOn links s.link) : s.current = none :=
  (h.loose sits).2 fun empty => by
    rw [(List.append_eq_nil_iff.1 empty).2] at pending
    cases pending

/-! ## Steps that keep the agreement -/

/-- A registry operation that keeps the ledger, delivering what it sends. -/
theorem operate (h : Agrees r links sess P R) {r' : Registry} {out : Outbox}
    (ledger : Ledger P R (r', out)) (reachable : r'.Reachable) {links' : Array Link}
    (size : links'.size = links.size)
    (pending : ∀ l < links.size, pendingOn links' l = pendingOn links l ++ handedOn out l) :
    Agrees r' links' sess (fun l => P l ++ handedOn out l) R := by
  refine ⟨reachable, ledger.flush, fun t s sits => ?_, h.reading, h.readBy, h.distinct,
    fun t s sits => size ▸ h.inside t s sits, h.acked⟩
  rw [h.waiting t s sits, pending _ (h.inside t s sits), List.append_assoc]

/-- Session `t` comes to be `s'`, keeping its judge id and link, while a registry operation
runs whose ledger differs from the old one on the session's link only. -/
theorem resettle (h : Agrees r links sess P R) (sits : sess t = some s) {s' : Session}
    (judgeId : s'.judgeId = s.judgeId) (link : s'.link = s.link)
    {r' : Registry} {out : Outbox} {P' : LinkId → List SubmissionId} {R' : LinkId → Option Reader}
    (ledger : Ledger P' R' (r', out)) (reachable : r'.Reachable) {links' : Array Link}
    (size : links'.size = links.size)
    (pending : ∀ l < links.size, s.link ≠ l → pendingOn links' l = pendingOn links l ++ handedOn out l)
    (pendingOthers : ∀ l, s.link ≠ l → P' l = P l) (readOthers : ∀ l, s.link ≠ l → R' l = R l)
    (waiting : P' s.link ++ handedOn out s.link = s'.undelivered.map (·.id) ++ pendingOn links' s.link)
    (reading : R' s.link = some ⟨s.judgeId, s'.current⟩)
    (acked : s'.ackDeadline.isSome → s'.current.isSome) {P'' : LinkId → List SubmissionId}
    (flushed : ∀ l, P'' l = P' l ++ handedOn out l) :
    Agrees r' links' (Function.update sess t (some s')) P'' R' := by
  obtain rfl : P'' = fun l => P' l ++ handedOn out l := funext flushed
  -- the other sessions keep their links, which differ from session `t`'s
  have other : ∀ t'' s'', sess t'' = some s'' → t'' ≠ t → s.link ≠ s''.link :=
    fun t'' s'' sits'' differ => (h.distinct t t'' s s'' sits sits'' (Ne.symm differ)).1
  refine ⟨reachable, ledger.flush, fun t'' s'' sits'' => ?_, fun t'' s'' sits'' => ?_, fun l x read => ?_,
    fun t₁ t₂ s₁ s₂ sits₁ sits₂ differ => ?_, fun t'' s'' sits'' => ?_, fun t'' s'' sits'' => ?_⟩
  · rcases update_eq_some sits'' with ⟨-, same⟩ | ⟨differ, old⟩
    · cases same
      rw [link]
      exact waiting
    · rw [pendingOthers _ (other t'' s'' old differ), h.waiting t'' s'' old,
        pending _ (h.inside t'' s'' old) (other t'' s'' old differ), List.append_assoc]
  · rcases update_eq_some sits'' with ⟨-, same⟩ | ⟨differ, old⟩
    · cases same
      rw [link, reading, judgeId]
    · rw [readOthers _ (other t'' s'' old differ)]
      exact h.reading t'' s'' old
  · by_cases here : s.link = l
    · exact ⟨t, s', Function.update_self _ _ _, link.trans here⟩
    · rw [readOthers l here] at read
      obtain ⟨t'', s'', sits'', same⟩ := h.readBy l x read
      have differ : t'' ≠ t := fun same' => by
        rw [same', sits] at sits''
        cases sits''
        exact here same
      exact ⟨t'', s'', by rw [Function.update_of_ne differ]; exact sits'', same⟩
  · -- a session at `t` reads as the old one there
    have old : ∀ t'' s'', Function.update sess t (some s') t'' = some s'' →
        ∃ s₀, sess t'' = some s₀ ∧ s''.link = s₀.link ∧ s''.judgeId = s₀.judgeId := by
      intro t'' s'' sits''
      rcases update_eq_some sits'' with ⟨here, same⟩ | ⟨-, old⟩
      · cases same
        exact ⟨s, by rw [here]; exact sits, link, judgeId⟩
      · exact ⟨s'', old, rfl, rfl⟩
    obtain ⟨s₁', sits₁', link₁, id₁⟩ := old t₁ s₁ sits₁
    obtain ⟨s₂', sits₂', link₂, id₂⟩ := old t₂ s₂ sits₂
    rw [link₁, link₂, id₁, id₂]
    exact h.distinct t₁ t₂ s₁' s₂' sits₁' sits₂' differ
  · rcases update_eq_some sits'' with ⟨-, same⟩ | ⟨-, old⟩
    · cases same
      rw [size, link]
      exact h.inside t s sits
    · exact size ▸ h.inside t'' s'' old
  · rcases update_eq_some sits'' with ⟨-, same⟩ | ⟨-, old⟩
    · cases same
      exact acked
    · exact h.acked t'' s'' old

/-- Session `t` changes nothing the registry sees. -/
theorem reseat (h : Agrees r links sess P R) (sits : sess t = some s) {s' : Session}
    (judgeId : s'.judgeId = s.judgeId) (link : s'.link = s.link) (current : s'.current = s.current)
    (undelivered : s'.undelivered = s.undelivered)
    (acked : s'.ackDeadline.isSome → s'.current.isSome) :
    Agrees r links (Function.update sess t (some s')) P R :=
  h.resettle sits judgeId link h.ledger h.reachable rfl (fun _ _ _ => (List.append_nil _).symm)
    (fun _ _ => rfl) (fun _ _ => rfl) (by rw [h.waiting t s sits, undelivered, handedOn_nil,
      List.append_nil]) (by rw [h.reading t s sits, current]) acked
    (fun _ => (List.append_nil _).symm)

/-- Session `t` holds submission `q`, taken off its link, and writes it to its judge: it now
grades `q` and waits for the judge to acknowledge it. -/
theorem take (h : Agrees r links sess P R) (sits : sess t = some (s.holding (.submit q)))
    (deadline : Nat) :
    Agrees r links (Function.update sess t
        (some { s with current := some q.id, ackDeadline := some deadline }))
      (Function.update P s.link []) (Function.update R s.link (some ⟨s.judgeId, some q.id⟩)) := by
  have loose := h.loose sits
  simp only [Session.holding, Command.handed, List.map_append, List.map_cons, List.map_nil,
    List.append_assoc, List.singleton_append] at loose
  -- `q` is the one submission waiting for the session, which grades none
  have alone : s.undelivered = [] ∧ pendingOn links s.link = [] := by
    have short := loose.1
    simp only [List.length_append, List.length_cons, List.length_map] at short
    exact ⟨List.eq_nil_of_length_eq_zero (by omega), List.eq_nil_of_length_eq_zero (by omega)⟩
  have idle : s.current = none := loose.2 (by simp)
  have waiting := h.waiting t _ sits
  have reading := h.reading t _ sits
  simp only [Session.holding, Command.handed, alone.1, alone.2, idle, List.nil_append,
    List.map_cons, List.map_nil, List.append_nil] at waiting reading
  refine h.resettle sits ?_ ?_ (h.ledger.take reading waiting) h.reachable rfl
    (fun _ _ _ => (List.append_nil _).symm) (fun l differ => Function.update_of_ne (Ne.symm differ) _ _)
    (fun l differ => Function.update_of_ne (Ne.symm differ) _ _) ?_ (Function.update_self _ _ _)
    (fun _ => rfl) (fun _ => (List.append_nil _).symm)
  · rfl
  · rfl
  · simp [alone.1, alone.2]

/-- Session `t` reports the judge free after it graded `x`: the session grades nothing, and
the registry frees the judge if it is still registered. -/
theorem finish (h : Agrees r links sess P R) (sits : sess t = some s) {x : SubmissionId}
    (grading : s.current = some x) (lo : Links) {links' : Array Link}
    (size : links'.size = links.size)
    (pending : ∀ l < links.size, pendingOn links' l =
      pendingOn links l ++ handedOn ((onJudgeFree s.judgeId x).runOn lo (r, [])).2.2 l)
    {s' : Session} (judgeId : s'.judgeId = s.judgeId) (link : s'.link = s.link)
    (undelivered : s'.undelivered = s.undelivered) (current : s'.current = none)
    (ackDeadline : s'.ackDeadline = none) :
    Agreeing ((onJudgeFree s.judgeId x).runOn lo (r, [])).2.1 links'
      (Function.update sess t (some s')) := by
  have waiting : ∀ out : Outbox, (∀ l < links.size, pendingOn links' l = pendingOn links l ++
      handedOn out l) → P s.link ++ handedOn out s.link =
        s'.undelivered.map (·.id) ++ pendingOn links' s.link := fun out pending' => by
    rw [h.waiting t s sits, pending' _ (h.inside t s sits), undelivered, List.append_assoc]
  have acked : s'.ackDeadline.isSome → s'.current.isSome := by simp [ackDeadline]
  rcases found : r.find? s.judgeId with _ | k
  · -- a judge no longer registered: the registry does nothing, the session stops grading
    rw [runOn_onJudgeFree_of_none lo x found] at pending ⊢
    have ledger := h.ledger.forget (h.reading t s sits) (h.unregistered sits found)
    exact ⟨_, _, h.resettle sits judgeId link ledger h.reachable size (fun l _ _ => pending l ‹_›)
      (fun _ _ => rfl) (fun l differ => Function.update_of_ne (Ne.symm differ) _ _)
      (waiting [] pending) (by rw [Function.update_self, current]) acked
      (fun _ => rfl)⟩
  · obtain ⟨member, same⟩ := Registry.find?_spec found
    have onLink := h.judge_link sits member same
    have ledger := ledger_onJudgeFree s.judgeId x lo h.ledger found
      (by rw [onLink, h.reading t s sits, grading, same])
    rw [onLink, same] at ledger
    exact ⟨_, _, h.resettle sits judgeId link ledger (.call (.onJudgeFree s.judgeId x) lo h.reachable)
      size (fun l below _ => pending l below)
      (fun _ _ => rfl) (fun l differ => Function.update_of_ne (Ne.symm differ) _ _)
      (waiting _ pending) (by rw [Function.update_self, current]) acked (fun _ => rfl)⟩

/-- A judge registers over link `links.size`, just opened and read by no session, and task `t`
starts serving it: the new session grades nothing under the id the registry returns. -/
theorem enroll (h : Agrees r links sess P R) (idle : sess t = none) {j : Judge}
    (free : j.working = none) (fresh : j.link = links.size) (lo : Links) {links₁ : Array Link}
    (size₁ : links₁.size = links.size + 1) (old₁ : ∀ l < links.size, pendingOn links₁ l = pendingOn links l)
    (new₁ : pendingOn links₁ links.size = []) {links₂ : Array Link} (size₂ : links₂.size = links₁.size)
    (pending₂ : ∀ l < links₁.size, pendingOn links₂ l =
      pendingOn links₁ l ++ handedOn ((register j).runOn lo (r, [])).2.2 l)
    {s : Session} (judgeId : s.judgeId = ((register j).runOn lo (r, [])).1.1)
    (link : s.link = links.size) (current : s.current = none) (undelivered : s.undelivered = [])
    (ackDeadline : s.ackDeadline = none) (reachable : ((register j).runOn lo (r, [])).2.1.Reachable) :
    Agreeing ((register j).runOn lo (r, [])).2.1 links₂ (Function.update sess t (some s)) := by
  -- no session reads the new link, which is past every session's
  have unread : R links.size = none := by
    rcases read : R links.size with _ | y
    · rfl
    · obtain ⟨t', s', sits', same⟩ := h.readBy _ _ read
      exact absurd (same ▸ h.inside t' s' sits') (Nat.lt_irrefl _)
  obtain ⟨ledger, below⟩ := ledger_register j free lo h.ledger (fresh ▸ unread)
  rw [fresh] at ledger
  have empty : P links.size = [] := by simpa using h.ledger.unread _ unread
  have apart : ∀ t' s', sess t' = some s' → s'.link ≠ links.size :=
    fun t' s' sits' same => Nat.lt_irrefl _ (same ▸ h.inside t' s' sits')
  refine ⟨fun l => P l ++ handedOn ((register j).runOn lo (r, [])).2.2 l, _, reachable, ledger.flush,
    fun t' s' sits' => ?_, fun t' s' sits' => ?_, fun l y read => ?_,
    fun t₁ t₂ s₁ s₂ sits₁ sits₂ differ => ?_, fun t' s' sits' => ?_, fun t' s' sits' => ?_⟩
  · rcases update_eq_some sits' with ⟨-, same⟩ | ⟨-, old⟩
    · cases same
      rw [link, undelivered, pending₂ links.size (by omega), new₁, empty]
      rfl
    · have below' := h.inside t' s' old
      rw [h.waiting t' s' old, pending₂ s'.link (Nat.lt_of_lt_of_le below' (by omega)),
        old₁ _ below', List.append_assoc]
  · rcases update_eq_some sits' with ⟨-, same⟩ | ⟨-, old⟩
    · cases same
      rw [link, Function.update_self, judgeId, current]
    · rw [Function.update_of_ne (apart t' s' old)]
      exact h.reading t' s' old
  · by_cases here : l = links.size
    · exact ⟨t, s, Function.update_self _ _ _, link.trans here.symm⟩
    · rw [Function.update_of_ne here] at read
      obtain ⟨t', s', sits', same⟩ := h.readBy l y read
      have differ : t' ≠ t := fun same' => by
        rw [same', idle] at sits'
        cases sits'
      exact ⟨t', s', by rw [Function.update_of_ne differ]; exact sits', same⟩
  · -- the new session's link and id are past every other session's
    have fresher : ∀ t' s', sess t' = some s' → s'.link ≠ s.link ∧ s'.judgeId ≠ s.judgeId :=
      fun t' s' sits' => ⟨link ▸ apart t' s' sits', fun same => by
        have := below _ _ (h.reading t' s' sits')
        rw [← judgeId, ← same] at this
        exact Nat.lt_irrefl _ this⟩
    rcases update_eq_some sits₁ with ⟨here₁, same₁⟩ | ⟨-, old₁'⟩ <;>
      rcases update_eq_some sits₂ with ⟨here₂, same₂⟩ | ⟨-, old₂'⟩
    · exact absurd (here₁.trans here₂.symm) differ
    · cases same₁
      exact ⟨(fresher t₂ s₂ old₂').1.symm, (fresher t₂ s₂ old₂').2.symm⟩
    · cases same₂
      exact fresher t₁ s₁ old₁'
    · exact h.distinct t₁ t₂ s₁ s₂ old₁' old₂' differ
  · rcases update_eq_some sits' with ⟨-, same⟩ | ⟨-, old⟩
    · cases same
      rw [size₂, size₁, link]
      exact Nat.lt_succ_self _
    · rw [size₂, size₁]
      exact Nat.lt_succ_of_lt (h.inside t' s' old)
  · rcases update_eq_some sits' with ⟨-, same⟩ | ⟨-, old⟩
    · cases same
      simp [ackDeadline]
    · exact h.acked t' s' old

/-- Session `t` closes its link, taking what waits there, and its judge leaves the registry:
nothing reads the link any more. -/
theorem leave (h : Agrees r links sess P R) (sits : sess t = some s) {links₁ : Array Link}
    (size₁ : links₁.size = links.size) (others₁ : ∀ l, s.link ≠ l → pendingOn links₁ l = pendingOn links l)
    {r' : Registry} {out : Outbox} (ledger : Ledger P R (r', out)) (reachable : r'.Reachable)
    (gone : ∀ k ∈ r'.judges, k.id ≠ s.judgeId) {links₂ : Array Link}
    (size₂ : links₂.size = links₁.size)
    (pending₂ : ∀ l < links₁.size, pendingOn links₂ l = pendingOn links₁ l ++ handedOn out l) :
    Agreeing r' links₂ (Function.update sess t none) := by
  have vacated : s.link ∉ r'.judges.map (·.link) := fun had => by
    obtain ⟨k, member, same⟩ := List.mem_map.1 had
    obtain ⟨c, read, -⟩ := ledger.judge k member
    rw [same, h.reading t s sits] at read
    exact gone k member (Reader.mk.inj (Option.some.inj read)).1.symm
  have other : ∀ t' s', Function.update sess t none t' = some s' → sess t' = some s' ∧ s.link ≠ s'.link :=
    fun t' s' sits' => by
      rcases update_eq_some sits' with ⟨-, same⟩ | ⟨differ, old⟩
      · cases same
      · exact ⟨old, (h.distinct t t' s s' sits old (Ne.symm differ)).1⟩
  refine ⟨_, _, reachable, ledger.flush.vacate vacated, fun t' s' sits' => ?_, fun t' s' sits' => ?_,
    fun l y read => ?_, fun t₁ t₂ s₁ s₂ sits₁ sits₂ differ => ?_, fun t' s' sits' => ?_,
    fun t' s' sits' => ?_⟩
  · obtain ⟨old, apart⟩ := other t' s' sits'
    rw [Function.update_of_ne (Ne.symm apart), h.waiting t' s' old,
      pending₂ _ (size₁ ▸ h.inside t' s' old), others₁ _ apart, List.append_assoc]
  · obtain ⟨old, apart⟩ := other t' s' sits'
    rw [Function.update_of_ne (Ne.symm apart)]
    exact h.reading t' s' old
  · have differ : l ≠ s.link := fun same => by
      rw [same, Function.update_self] at read
      cases read
    rw [Function.update_of_ne differ] at read
    obtain ⟨t', s', sits', same⟩ := h.readBy l y read
    have apart : t' ≠ t := fun same' => by
      rw [same', sits] at sits'
      cases sits'
      exact differ same.symm
    exact ⟨t', s', by rw [Function.update_of_ne apart]; exact sits', same⟩
  · exact h.distinct t₁ t₂ s₁ s₂ (other t₁ s₁ sits₁).1 (other t₂ s₂ sits₂).1 differ
  · rw [size₂, size₁]
    exact h.inside t' s' (other t' s' sits').1
  · exact h.acked t' s' (other t' s' sits').1

end Agrees

end JudgeRelay
