import JudgeRelay.Proofs.Relay.Agreement
import JudgeRelay.Proofs.Relay.Stages

/-!
# Serving a judge keeps the agreement

A judge's task runs its session step by step: it reads a packet or takes a command, writes to
the judge, reports to the registry, and at the end stores the session back in its task or
closes it. In between the task's own session lives only in the running code, so the
invariant while task `t` serves `s` is `Serving T t s`: the tasks are as they were (`T`), and
the sessions of `T` with `s` in place of task `t`'s agree with the registry. A task that
serves no session leaves its place empty (`Vacant T t`). At rest, every task's session agrees
(`Settled`).

Main statements: serving a judge, whatever comes in, ends settled (`serve_settled`), and so do
closing a session (`close_settled`), admitting a judge (`welcome_settled`) and waiting for its
handshake (`awaitHandshake_settled`, `awaitProxyHeader_settled`). The walk over each stage's
code is the one of `Stages`; what is shown here is what each step does to the agreement
(`serve_steps`).
-/

namespace JudgeRelay

open Act RegistryOp

variable {α : Type}

/-- The tasks are `T`, and the sessions `sess` agree with the registry. -/
def Agreed (T : Array Task) (sess : TaskId → Option Session) (w : World) : Prop :=
  w.tasks = T ∧ Agreeing w.registry w.links sess

/-- Task `t` of `T` is running session `s`; the other tasks serve what `T` says. -/
def Serving (T : Array Task) (t : TaskId) (s : Session) (w : World) : Prop :=
  t < T.size ∧ Agreed T (Function.update (sessionsOf T) t (some s)) w

/-- Every task's session agrees with the registry. -/
def Settled (w : World) : Prop := Agreeing w.registry w.links (sessionsOf w.tasks)

/-- Task `t` of `T` serves no session; the other tasks serve what `T` says. -/
def Vacant (T : Array Task) (t : TaskId) (w : World) : Prop :=
  t < T.size ∧ Agreed T (Function.update (sessionsOf T) t none) w

variable {T : Array Task} {t : TaskId} {s : Session} {sess : TaskId → Option Session}

theorem Act.Quiet.agreed {a : Act α} (h : Quiet a) :
    Triple (Agreed T sess) a fun _ => Agreed T sess :=
  h.triple fun r links tasks => tasks = T ∧ Agreeing r links sess

theorem Act.Quiet.serving {a : Act α} (h : Quiet a) :
    Triple (Serving T t s) a fun _ => Serving T t s :=
  fun w ⟨inside, agreed⟩ => ⟨inside, h.agreed w agreed⟩

theorem Act.Quiet.settled {a : Act α} (h : Quiet a) : Triple Settled a fun _ => Settled :=
  h.triple fun r links tasks => Agreeing r links (sessionsOf tasks)

theorem Act.Quiet.vacant {a : Act α} (h : Quiet a) : Triple (Vacant T t) a fun _ => Vacant T t :=
  fun w ⟨inside, agreed⟩ => ⟨inside, h.agreed w agreed⟩

/-- A step that is quiet keeps every session it may serve agreeing. -/
theorem Act.Quiet.serving_all {a : Act α} {C : Session → Prop} (h : Quiet a) :
    Triple (fun w => ∀ s, C s → Serving T t s w) a fun _ w => ∀ s, C s → Serving T t s w :=
  h.triple fun r links tasks => ∀ s, C s →
    t < T.size ∧ tasks = T ∧ Agreeing r links (Function.update (sessionsOf T) t (some s))

theorem Settled.vacant {w : World} (h : Settled w) (inside : t < w.tasks.size)
    (idle : sessionsOf w.tasks t = none) : Vacant w.tasks t w := by
  refine ⟨inside, rfl, ?_⟩
  rw [Function.update_eq_self_iff.2 idle.symm]
  exact h

theorem Settled.serving {w : World} (h : Settled w) (inside : t < w.tasks.size)
    (sits : sessionsOf w.tasks t = some s) : Serving w.tasks t s w := by
  refine ⟨inside, rfl, ?_⟩
  rw [Function.update_eq_self_iff.2 sits.symm]
  exact h

/-- A registry operation that keeps every ledger, and takes a reachable registry to a reachable
one, keeps the agreement. -/
theorem registry_agreed {op : RegistryOp α} (keeps : ∀ P R, KeepsLedger P R op)
    (reaches : ∀ links r, r.Reachable → (op.runOn links (r, [])).2.1.Reachable) :
    Triple (Agreed T sess) (Act.registry op) fun _ => Agreed T sess := by
  rintro w ⟨tasks, P, R, h⟩
  obtain ⟨-, registry, tasks', size, pending⟩ := registry_spec op w
  refine ⟨tasks'.trans tasks, fun l => P l ++ handedOn (op.runOn w.linkOpen (w.registry, [])).2.2 l,
    R, ?_⟩
  rw [registry]
  exact h.operate (keeps P R w.linkOpen (w.registry, []) h.ledger)
    (reaches w.linkOpen w.registry h.reachable) size pending

theorem registry_serving {op : RegistryOp α} (keeps : ∀ P R, KeepsLedger P R op)
    (reaches : ∀ links r, r.Reachable → (op.runOn links (r, [])).2.1.Reachable) :
    Triple (Serving T t s) (Act.registry op) fun _ => Serving T t s :=
  fun w ⟨inside, agreed⟩ => ⟨inside, registry_agreed keeps reaches w agreed⟩

/-- A step that keeps every agreement of the tasks as they are keeps the relay settled. -/
theorem settled_of_agreed {a : Act α} (h : ∀ T sess, Triple (Agreed T sess) a fun _ => Agreed T sess) :
    Triple Settled a fun _ => Settled := by
  intro w settled
  obtain ⟨tasks, agreeing⟩ := h w.tasks _ w ⟨rfl, settled⟩
  show Agreeing _ _ (sessionsOf _)
  rw [tasks]
  exact agreeing

theorem registry_settled {op : RegistryOp α} (keeps : ∀ P R, KeepsLedger P R op)
    (reaches : ∀ links r, r.Reachable → (op.runOn links (r, [])).2.1.Reachable) :
    Triple Settled (Act.registry op) fun _ => Settled :=
  settled_of_agreed fun _ _ => registry_agreed keeps reaches

namespace Serving

variable {w : World}

/-- The running session changes nothing the registry sees but what waits for it, as its link
changes. -/
theorem shift (h : Serving T t s w) {w' : World} (tasks : w'.tasks = w.tasks)
    (registry : w'.registry = w.registry) (size : w'.links.size = w.links.size)
    (others : ∀ l, s.link ≠ l → pendingOn w'.links l = pendingOn w.links l) {s' : Session}
    (judgeId : s'.judgeId = s.judgeId) (link : s'.link = s.link) (current : s'.current = s.current)
    (acked : s'.ackDeadline.isSome → s'.current.isSome)
    (waiting : s.undelivered.map (·.id) ++ pendingOn w.links s.link =
      s'.undelivered.map (·.id) ++ pendingOn w'.links s.link) :
    Serving T t s' w' := by
  obtain ⟨inside, tasks₀, P, R, agrees⟩ := h
  refine ⟨inside, tasks.trans tasks₀, P, R, ?_⟩
  have sits := Function.update_self t (some s) (sessionsOf T)
  have moved := agrees.resettle sits judgeId link agrees.ledger agrees.reachable size
    (fun l _ differ => by rw [others l differ, handedOn_nil, List.append_nil]) (fun _ _ => rfl)
    (fun _ _ => rfl) (by rw [handedOn_nil, List.append_nil, ← waiting]; exact agrees.waiting t s sits)
    (by rw [agrees.reading t s sits, current]) acked (fun _ => (List.append_nil _).symm)
  rw [Function.update_idem] at moved
  rw [registry]
  exact moved

/-- The running session changes nothing the registry sees. -/
theorem reseat (h : Serving T t s w) {s' : Session} (judgeId : s'.judgeId = s.judgeId)
    (link : s'.link = s.link) (current : s'.current = s.current)
    (undelivered : s'.undelivered = s.undelivered)
    (acked : s'.ackDeadline.isSome → s'.current.isSome) : Serving T t s' w :=
  h.shift rfl rfl rfl (fun _ _ => rfl) judgeId link current acked (by rw [undelivered])

/-- The running session's acknowledgement deadline only matters while it grades. -/
theorem acked (h : Serving T t s w) : s.ackDeadline.isSome → s.current.isSome := by
  obtain ⟨-, -, P, R, agrees⟩ := h
  exact agrees.acked t s (Function.update_self _ _ _)

/-- The running session changes only the fields that are the task's own business. -/
theorem restamp (h : Serving T t s w) {s' : Session} (judgeId : s'.judgeId = s.judgeId)
    (link : s'.link = s.link) (current : s'.current = s.current)
    (undelivered : s'.undelivered = s.undelivered) (ackDeadline : s'.ackDeadline = s.ackDeadline) :
    Serving T t s' w :=
  h.reseat judgeId link current undelivered (by rw [ackDeadline, current]; exact h.acked)

/-- A command that hands nothing over, taken off the link, leaves the session as it was. -/
theorem unhold (h : Serving T t (s.holding c) w) (empty : c.handed = []) : Serving T t s w :=
  h.reseat rfl rfl rfl (by simp [empty]) h.acked

end Serving

theorem takeCommand_serving (s : Session) :
    Triple (Serving T t s) (takeCommand s.link) fun o => Serving T t (o.elim s s.holding) := by
  intro w h
  obtain ⟨registry, tasks, size, others, pending⟩ := takeCommand_spec s.link w
  rcases taken : ((takeCommand s.link).run w).1 with _ | c
  · refine h.shift tasks registry size others rfl rfl rfl h.acked ?_
    rw [pending, taken]
    rfl
  · refine h.shift tasks registry size others rfl rfl rfl h.acked ?_
    rw [pending, taken]
    simp [Session.holding, ← Command.handed_ids]

theorem submit_serving (jt : JudgeTask) (s : Session) (q : Request) :
    Triple (Serving T t (s.holding (.submit q))) (JudgeTask.submit jt s q)
      fun result => Serving T t result.2 := by
  -- not written, `q` stays undelivered as the session held it
  refine JudgeTask.submit_triple jt s q (quiet_store _).serving
    (fun _ => (quiet_sendPacket _ _).serving) quiet_now.serving
    (fun _ => (JudgeTask.quiet_persist _ _).serving) ?_ fun _ h => h
  -- written: the session grades `q`
  rintro now w ⟨inside, tasks, P, R, agrees⟩
  have taken := agrees.take (Function.update_self _ _ _) (now + Session.ackTimeout)
  rw [Function.update_idem] at taken
  exact ⟨inside, tasks, _, _, taken⟩

theorem onCommand_serving (jt : JudgeTask) (s : Session) (c : Command) :
    Triple (Serving T t (s.holding c)) (JudgeTask.onCommand jt s c)
      fun result => Serving T t result.2 := by
  refine JudgeTask.onCommand_triple jt s c (fun q same => ?_)
    (fun _ => (quiet_sendPacket _ _).serving) (quiet_sendPacket _ _).serving
    fun other _ h => h.unhold ?_
  · subst same
    exact submit_serving jt s q
  · -- only a submission hands anything over
    cases c with
    | submit q => exact absurd rfl (other q)
    | abort _ => rfl
    | disconnect _ => rfl

/-- A grading ends: the registry frees the judge, and the session stops grading. -/
theorem finish_serving {x : SubmissionId} (grading : s.current = some x) :
    Triple (Serving T t s) (Act.registry (onJudgeFree s.judgeId x))
      fun _ => Serving T t { s with current := none, ackDeadline := none } := by
  rintro w ⟨inside, tasks, P, R, agrees⟩
  obtain ⟨-, registry, tasks', size, pending⟩ := registry_spec (onJudgeFree s.judgeId x) w
  refine ⟨inside, tasks'.trans tasks, ?_⟩
  have finished : Agreeing _ _ (Function.update (Function.update (sessionsOf T) t (some s)) t
      (some { s with current := none, ackDeadline := none })) :=
    agrees.finish (Function.update_self _ _ _) grading w.linkOpen size pending rfl rfl rfl rfl rfl
  rw [Function.update_idem, ← registry] at finished
  exact finished

theorem onGradingEvent_serving (s : Session) (id : SubmissionId) (p : JudgePacket)
    (grading : s.current = some id) :
    Triple (Serving T t s) (JudgeTask.onGradingEvent s id p) fun s' => Serving T t s' := by
  unfold JudgeTask.onGradingEvent
  dsimp only
  -- an acknowledgement clears the deadline, which the session may always do
  have acknowledged : ∀ w, Serving T t s w → Serving T t { s with ackDeadline := none } w :=
    fun _ h => h.reseat rfl rfl rfl rfl (by simp)
  split
  · split
    · exact Triple.pure _ acknowledged
    · exact Triple.pure _ fun _ h => h
  · refine Triple.bind (JudgeTask.quiet_persist _ _).serving fun _ => ?_
    split
    · split
      · next terminal => cases terminal
      · exact Triple.bind (finish_serving grading) fun _ => Triple.pure _ fun _ h => h
    · split
      · exact Triple.pure _ acknowledged
      · exact Triple.pure _ fun _ h => h

theorem onPacket_serving (s : Session) (payload : ByteArray) :
    Triple (Serving T t s) (JudgeTask.onPacket s payload) fun o => Serving T t (o.getD s) :=
  JudgeTask.onPacket_triple payload (onGradingEvent_serving s)
    (fun _ _ => registry_serving (fun _ _ => keepsLedger_setPing _ _ _)
      fun links _ => .call (.setPing _ _ _) links)
    (fun _ _ => (quiet_store _).serving)
    (fun _ => registry_serving (fun _ _ => keepsLedger_setProblems _ _)
      fun links _ => .call (.setProblems _ _) links)
    fun _ => registry_serving (fun _ _ => keepsLedger_setExecutors _ _)
      fun links _ => .call (.setExecutors _ _) links

/-! ## Closing a session -/

theorem setTask_settled (inside : t < T.size) (task : Task) :
    Triple (Agreed T (Function.update (sessionsOf T) t task.session?)) (setTask t task)
      fun _ => Settled := by
  rintro w ⟨tasks, agreeing⟩
  show Agreeing w.registry w.links (sessionsOf (w.tasks.set! t task))
  rw [tasks, sessionsOf_set inside]
  exact agreeing

theorem setTask_idle_settled (task : Task) (idle : task.session? = none) :
    Triple (Agreed T (Function.update (sessionsOf T) t none)) (setTask t task) fun _ => Settled := by
  rintro w ⟨tasks, agreeing⟩
  show Agreeing w.registry w.links (sessionsOf (w.tasks.set! t task))
  rw [tasks, sessionsOf_set_idle t idle]
  exact agreeing

theorem release_settled (jt : JudgeTask) :
    Triple (Agreed T (Function.update (sessionsOf T) t none)) (JudgeTask.release t jt)
      fun _ => Settled :=
  Triple.bind (quiet_modifyConn _ _).agreed fun _ => setTask_idle_settled _ rfl

/-- The judge of a session that closed its link leaves the registry: the other sessions still
agree with it. -/
theorem leave_vacates (s : Session) (left : List Command) :
    Triple (fun w => ∃ w₀, Serving T t s w₀ ∧ (closeLink s.link).run w₀ = (left, w))
      (Act.registry (leave s.judgeId)) fun _ => Agreed T (Function.update (sessionsOf T) t none) := by
  rintro w ⟨w₀, ⟨-, tasks, P, R, agrees⟩, closed⟩
  have closing := closeLink_spec s.link w₀
  rw [closed] at closing
  obtain ⟨registry₁, tasks₁, size₁, others₁, -, -⟩ := closing
  obtain ⟨-, registry₂, tasks₂, size₂, pending₂⟩ := registry_spec (leave s.judgeId) w
  have ledger : Ledger P R ((leave s.judgeId).runOn w.linkOpen (w.registry, [])).2 := by
    rw [runOn_leave]
    exact (ledger_cascade _).2.1 _ _ _ (registry₁ ▸ agrees.ledger)
  have gone : ∀ k ∈ ((leave s.judgeId).runOn w.linkOpen (w.registry, [])).2.1.judges,
      k.id ≠ s.judgeId := by
    rw [runOn_leave]
    exact remove_absent _ _ _ _
  have vacated := agrees.leave (Function.update_self _ _ _) size₁ others₁ ledger
    (.call (.leave s.judgeId) w.linkOpen (registry₁ ▸ agrees.reachable)) gone size₂ pending₂
  rw [Function.update_idem, ← registry₂] at vacated
  exact ⟨tasks₂.trans (tasks₁.trans tasks), vacated⟩

/-- Closing a session leaves every task's session agreeing with the registry: once the judge
has left, the rest touches only the store and the connection, and re-routes work through
operations that keep every ledger. -/
theorem close_settled (jt : JudgeTask) (s : Session) :
    Triple (Serving T t s) (JudgeTask.close t jt s) fun _ => Settled :=
  JudgeTask.close_triple jt s (leave_vacates s) (fun _ _ _ => (JudgeTask.quiet_persist _ _).agreed)
    (fun _ r _ => dispatch_triple r calm_drawTieBreak.1.agreed fun tie =>
      registry_agreed (fun _ _ => keepsLedger_dispatch r tie) fun links _ => .call (.dispatch r tie) links)
    (fun _ => (quiet_store _).agreed.conseq (fun _ h => h.1) fun _ _ h => h) (fun _ _ h _ => h)
    (quiet_modifyConn _ _).agreed (release_settled jt)

/-! ## Serving -/

/-- Each step of serving a judge keeps the agreement: only a registry operation, taking a
command and sending a submission touch what the registry sees. -/
theorem serve_steps (t : TaskId) (c : ConnId) :
    JudgeTask.ServeSteps t c (Serving T t) (fun s cmd => Serving T t (s.holding cmd)) Settled where
  pull jt _ := (JudgeTask.quiet_pull jt).serving
  clock _ := quiet_now.serving
  choose _ ready := (JudgeTask.calm_choose ready).1.serving
  ping _ _ := (quiet_sendPacket _ _).serving
  stamp _ _ _ h := h.restamp rfl rfl rfl rfl rfl
  reschedule _ _ _ h := h.restamp rfl rfl rfl rfl rfl
  packet := onPacket_serving
  take s := (takeCommand_serving s).conseq (fun _ h => h) fun o _ h => by cases o <;> exact h
  command jt s cmd _ := onCommand_serving jt s cmd
  close jt s _ := close_settled jt s
  park _ _ _ _ h := setTask_settled h.1 _ _ h.2
  wake := (quiet_wake t).settled

/-- Serving a judge, whatever it sends and whatever the registry asks, ends with every
session agreeing with the registry. -/
theorem serve_settled (t : TaskId) (fuel : Nat) (jt : JudgeTask) (s : Session) :
    Triple (Serving T t s) (JudgeTask.serve t jt s fuel) fun _ => Settled :=
  JudgeTask.serve_triple (serve_steps t jt.conn) fuel jt s rfl

/-! ## Admitting a judge -/

/-- A judge registers over the link its task just opened: the task serves a session for it that
holds nothing yet. -/
theorem enroll_serving (j : Judge) (free : j.working = none)
    (reaches : ∀ links r, r.Reachable → ((register j).runOn links (r, [])).2.1.Reachable) :
    Triple (fun w => ∃ w₀, Vacant T t w₀ ∧ (openLink (some t)).run w₀ = (j.link, w))
      (Act.registry (register j)) fun x w => ∀ s : Session, (s.judgeId = x.1 ∧ s.link = j.link ∧
        s.current = none ∧ s.undelivered = [] ∧ s.ackDeadline = none) → Serving T t s w := by
  rintro w ⟨w₀, ⟨inside, tasks, P, R, agrees⟩, opened⟩ s ⟨judgeId, link, current, undelivered,
    ackDeadline⟩
  rw [openLink_run] at opened
  obtain ⟨fresh, rfl⟩ := Prod.mk.inj opened
  obtain ⟨result, registry, tasks', size₂, pending₂⟩ := registry_spec (register j) _
  have enrolled := agrees.enroll (Function.update_self _ _ _) free fresh.symm _ (Array.size_push _)
    (fun l below => pendingOn_push_of_lt _ below) (by simp [pendingOn]) size₂ pending₂
    (judgeId.trans (congrArg Prod.fst result)) (link.trans fresh.symm) current undelivered ackDeadline
    (reaches _ _ agrees.reachable)
  rw [Function.update_idem, ← registry] at enrolled
  exact ⟨inside, tasks'.trans tasks, enrolled⟩

/-- Admitting a judge, or turning it away, ends with every session agreeing with the registry. -/
theorem welcome_settled (jt : JudgeTask) (name key : String) (problems executors : List String)
    (tier : Option Nat) (fuel : Nat) :
    Triple (Vacant T t) (JudgeTask.welcome t jt name key problems executors tier fuel)
      fun _ => Settled :=
  -- until the task serves it, the new judge's session may be any that holds nothing yet
  JudgeTask.welcome_triple (J := fun id link w => ∀ s : Session, (s.judgeId = id ∧
      s.link = link ∧ s.current = none ∧ s.undelivered = [] ∧ s.ackDeadline = none) →
        Serving T t s w)
    jt name key problems executors tier fuel (fun w h => release_settled jt w h.2)
    (fun _ link => enroll_serving _ rfl fun links _ => .call (.register _ _ _ _ _ link) links)
    (fun _ _ => quiet_now.serving_all) (fun _ _ _ _ => (JudgeTask.quiet_persist _ _).serving_all)
    (fun _ _ _ _ _ => (quiet_store _).serving_all.conseq (fun _ h => h)
      fun _ _ h => h _ ⟨rfl, rfl, rfl, rfl, rfl⟩)
    (fun _ => (quiet_sendPacket _ _).serving) (serve_settled t fuel jt) (close_settled jt)

/-- Waiting for the handshake ends with every session agreeing with the registry. -/
theorem awaitHandshake_settled (jt : JudgeTask) (deadline fuel : Nat) :
    Triple (Vacant T t) (JudgeTask.awaitHandshake t jt deadline fuel) fun _ => Settled :=
  JudgeTask.awaitHandshake_triple jt deadline fuel (fun jt => (JudgeTask.quiet_readPacket jt).vacant)
    quiet_now.vacant (fun jt _ w h => release_settled jt w h.2)
    (fun _ _ idle w h => setTask_idle_settled _ idle w h.2)
    fun jt name key problems executors tier _ =>
      welcome_settled jt name key problems executors tier fuel

/-- Waiting for the PROXY header ends with every session agreeing with the registry. -/
theorem awaitProxyHeader_settled (jt : JudgeTask) (deadline fuel : Nat) :
    Triple (Vacant T t) (JudgeTask.awaitProxyHeader t jt deadline fuel) fun _ => Settled :=
  JudgeTask.awaitProxyHeader_triple jt deadline fuel (fun jt => (JudgeTask.quiet_pull jt).vacant)
    quiet_now.vacant (fun jt _ w h => release_settled jt w h.2)
    (fun _ _ idle w h => setTask_idle_settled _ idle w h.2)
    fun jt d _ => awaitHandshake_settled jt d fuel

end JudgeRelay
