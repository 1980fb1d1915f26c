import JudgeRelay.Proofs.Relay.Steps

/-!
# The tasks, followed once for any invariant

Every fact proved of a task follows the same code. A judge's task waits for a PROXY header and
a handshake, then serves the judge one packet, command or ping at a time; a control task waits
for one request and answers it. This module follows that code once. Each lemma gives a triple
for a stage from one triple per step the stage takes, so that an invariant of the relay is
shown to survive a stage by showing what each of its steps does to it, and a change to a
stage's code touches the lemma here only.

* `JudgeTask.onPacket_triple`, `JudgeTask.submit_triple` and `JudgeTask.onCommand_triple`:
  handling a packet from the judge and a command of the registry.
* `JudgeTask.close_triple`: closing a session.
* `JudgeTask.ServeSteps`: what an invariant must survive while the task serves a session, and
  `JudgeTask.serve_triple`: serving then keeps it, for any fuel.
* `JudgeTask.welcome_triple`: admitting a judge, and `JudgeTask.awaitHandshake_triple`,
  `JudgeTask.awaitProxyHeader_triple`: the two waits before a session exists.
* `ControlTask.process_triple`: carrying out a control request.
* `JudgeTask.poll_triple`, `ControlTask.await_triple`, `ControlTask.poll_triple`: a task's run
  until it waits, from its stages.
-/

namespace JudgeRelay

namespace JudgeTask

open Act

variable {t : TaskId}

/-! ## Packets and commands -/

/-- A packet from the judge keeps `B` of the session when recording the current submission's
grading event keeps it, and so do the registry updates and the store report a packet may ask
for. A packet that cannot be read, or that is about another submission, leaves all as it was. -/
theorem onPacket_triple {B : Session → World → Prop} {s : Session} (payload : ByteArray)
    (grading : ∀ id p, s.current = some id → Triple (B s) (onGradingEvent s id p) fun s' => B s')
    (ping : ∀ load rtt, Triple (B s) (Act.registry (.setPing s.judgeId load rtt)) fun _ => B s)
    (report : ∀ rtt load, Triple (B s) (Act.store (.judgePing s.name rtt load)) fun _ => B s)
    (problems : ∀ ps, Triple (B s) (Act.registry (.setProblems s.judgeId ps)) fun _ => B s)
    (executors : ∀ es, Triple (B s) (Act.registry (.setExecutors s.judgeId es)) fun _ => B s) :
    Triple (B s) (onPacket s payload) fun o => B (o.getD s) := by
  unfold onPacket
  split
  · exact Triple.pure _ fun _ h => h
  · split
    · split
      · exact Triple.pure _ fun _ h => h
      · next id _ same =>
        have current : s.current = some id := by simpa using same
        exact Triple.map some (grading id _ current)
    · split
      · refine Triple.bind Triple.get_keeps fun _ => ?_
        refine Triple.bind (ping _ _) fun _ => ?_
        exact Triple.bind (report _ _) fun _ => Triple.pure _ fun _ h => h
      · exact Triple.bind (problems _) fun _ => Triple.pure _ fun _ h => h
      · exact Triple.bind (executors _) fun _ => Triple.pure _ fun _ h => h
      · exact Triple.pure _ fun _ h => h

/-- Sending a submission keeps `P` through the store and the connection, and ends in `B` of
the session that grades it (`taken`) when the write goes through, of the session that keeps it
undelivered (`kept`) when it fails. -/
theorem submit_triple {P : World → Prop} {B : Session → World → Prop} (jt : JudgeTask)
    (s : Session) (q : Request)
    (limits : Triple P (Act.store (.problemLimits q.problem q.language)) fun _ => P)
    (send : ∀ limits, Triple P
      (sendPacket jt.conn (RelayPacket.submission q.id q.problem q.language q.source limits).toJson)
      fun _ => P)
    (clock : Triple P now fun _ => P) (persist : ∀ u, Triple P (persist q.id u) fun _ => P)
    (taken : ∀ n w, P w →
      B { s with current := some q.id, ackDeadline := some (n + Session.ackTimeout) } w)
    (kept : ∀ w, P w → B { s with undelivered := s.undelivered ++ [q] } w) :
    Triple P (submit jt s q) fun x => B x.2 := by
  unfold submit
  refine Triple.bind limits fun _ => ?_
  dsimp only
  refine Triple.bind (send _) fun written => ?_
  split
  · refine Triple.bind clock fun n => ?_
    exact Triple.bind (persist _) fun _ => Triple.pure _ (taken n)
  · exact Triple.pure _ kept

/-- A command of the registry, taken off the link in a world satisfying `P`: a submission is
sent as `submit_triple` says, and any other command leaves the session as it was. -/
theorem onCommand_triple {P : World → Prop} {B : Session → World → Prop} (jt : JudgeTask)
    (s : Session) (c : Command)
    (submit : ∀ q, c = .submit q → Triple P (submit jt s q) fun x => B x.2)
    (terminate : ∀ id, Triple P (sendPacket jt.conn (RelayPacket.terminate id).toJson) fun _ => P)
    (disconnect : Triple P (sendPacket jt.conn RelayPacket.disconnect.toJson) fun _ => P)
    (unhold : (∀ q, c ≠ .submit q) → ∀ w, P w → B s w) :
    Triple P (onCommand jt s c) fun x => B x.2 := by
  cases c with
  | submit q => exact submit q rfl
  | abort x =>
    have other : ∀ q, Command.abort x ≠ .submit q := by
      intro q same
      cases same
    exact Triple.bind (terminate x) fun _ => Triple.pure _ (unhold other)
  | disconnect force =>
    have other : ∀ q, Command.disconnect force ≠ .submit q := by
      intro q same
      cases same
    cases force with
    | true => exact Triple.pure _ (unhold other)
    | false => exact Triple.bind disconnect fun _ => Triple.pure _ (unhold other)

/-! ## Closing -/

/-- Closing a session: its link is closed and its judge leaves the registry, which brings
about `L left`, `left` being what the link held; failing the judge's work and giving back to the
registry what the session failed to write and what the link held keep `L left`; the store's
record of the judge's name then brings about `R`, whether the name is recorded offline because
no judge of it is left or not; shutting the connection keeps `R`, and releasing it ends in
`Q`. -/
theorem close_triple {P R Q : World → Prop} {L : List Command → World → Prop} (jt : JudgeTask)
    (s : Session)
    (leave : ∀ left, Triple (fun w => ∃ w₀, P w₀ ∧ (closeLink s.link).run w₀ = (left, w))
      (Act.registry (.leave s.judgeId)) fun _ => L left)
    (persist : ∀ left id u, Triple (L left) (persist id u) fun _ => L left)
    (dispatch : ∀ left, ∀ r ∈ s.undelivered ++ left.filterMap (fun c => match c with
      | .submit r => some r
      | _ => none), Triple (L left) (Act.dispatch r) fun _ => L left)
    (offline : ∀ left, Triple (fun w => L left w ∧ w.registry.judges.any (·.name == s.name) = false)
      (Act.store (.judgeOffline s.name)) fun _ => R)
    (online : ∀ left w, L left w → w.registry.judges.any (·.name == s.name) = true → R w)
    (shutdown : Triple R (modifyConn jt.conn Conn.serverShutdown) fun _ => R)
    (release : Triple R (release t jt) fun _ => Q) :
    Triple P (close t jt s) fun _ => Q := by
  unfold close
  refine Triple.bind (Triple.strongest _) fun left => ?_
  dsimp only
  refine Triple.bind (leave left) fun o => ?_
  -- failing the orphan touches only the store; the three ways on are then the same
  split
  on_goal 1 =>
    split
    on_goal 1 => refine Triple.bind (persist left _ _) fun _ => ?_
  all_goals
    refine Triple.bind (Triple.forM_mem (fun r handed =>
      Triple.bind (dispatch left r handed) fun d => ?_)) fun _ => ?_
    · split
      · exact persist left _ _
      · exact Triple.pure _ fun _ h => h
    refine Triple.bind Triple.get_self fun w₀ => ?_
    split
    · next gone =>
      refine Triple.bind ((offline left).conseq ?_ fun _ _ h => h) fun _ =>
        Triple.bind shutdown fun _ => release
      rintro _ ⟨rfl, h⟩
      exact ⟨h, by simpa using gone⟩
    · next named =>
      refine Triple.bind (shutdown.conseq ?_ fun _ _ h => h) fun _ => release
      rintro _ ⟨rfl, h⟩
      exact online left w₀ h (by simpa using named)

/-! ## Serving -/

/-- What an invariant must survive, one step of `serve` at a time, for serving a judge over
connection `c` to keep it: `B s` holds while task `t` serves session `s`, `H s cmd` while it
holds command `cmd` just taken off the session's link, and `Q` once the task has stored its
state or closed. -/
structure ServeSteps (t : TaskId) (c : ConnId) (B : Session → World → Prop)
    (H : Session → Command → World → Prop) (Q : World → Prop) : Prop where
  pull : ∀ jt s, Triple (B s) (pull jt) fun _ => B s
  clock : ∀ s, Triple (B s) now fun _ => B s
  /-- Which of the ready branches a round takes is the next coin's business. -/
  choose : ∀ s ready, Triple (B s) (choose ready) fun _ => B s
  ping : ∀ s n, Triple (B s) (sendPacket c (RelayPacket.ping n).toJson) fun _ => B s
  /-- The time of the judge's last packet is the task's own business. -/
  stamp : ∀ s n w, B s w → B { s with lastActivity := n } w
  /-- So is the time of the next ping. -/
  reschedule : ∀ s n w, B s w → B { s with nextPing := n } w
  packet : ∀ s payload, Triple (B s) (onPacket s payload) fun o => B (o.getD s)
  take : ∀ s, Triple (B s) (takeCommand s.link) fun o => o.elim (B s) (H s)
  command : ∀ (jt : JudgeTask) s cmd, jt.conn = c →
    Triple (H s cmd) (onCommand jt s cmd) fun x => B x.2
  close : ∀ (jt : JudgeTask) s, jt.conn = c → Triple (B s) (close t jt s) fun _ => Q
  park : ∀ (jt : JudgeTask) s, jt.conn = c →
    Triple (B s) (setTask t (.judge { jt with stage := .serving s })) fun _ => Q
  wake : Triple Q (wake t) fun _ => Q

/-- Looking whether a command waits changes nothing. -/
theorem hasCommand_keeps {P : World → Prop} (l : LinkId) : Triple P (hasCommand l) fun _ => P :=
  Triple.bind Triple.get_keeps fun _ => Triple.pure _ fun _ h => h

/-- Serving a judge keeps what each of its steps keeps, whatever the judge sends, the registry
asks and the coins give, for any fuel. The induction is on the fuel: each round serves the
session the last round left, or closes it, over the same connection. -/
theorem serve_triple {c : ConnId} {B : Session → World → Prop}
    {H : Session → Command → World → Prop} {Q : World → Prop} (h : ServeSteps t c B H Q) :
    ∀ (fuel : Nat) (jt : JudgeTask) (s : Session), jt.conn = c →
      Triple (B s) (serve t jt s fuel) fun _ => Q
  | 0, jt, s, same => Triple.bind (h.park jt s same) fun _ => h.wake
  | fuel + 1, jt, s, same => by
    simp only [serve]
    refine Triple.bind ((h.pull jt s).result (R := fun x => x.1.conn = jt.conn) (JudgeTask.pull_conn jt))
      fun x => ?_
    rcases x with ⟨jt', ended⟩
    refine Triple.assume fun pulled => ?_
    have same' : jt'.conn = c := pulled.trans same
    dsimp only
    refine Triple.bind (h.clock s) fun n => ?_
    refine Triple.bind (hasCommand_keeps s.link) fun _ => ?_
    refine Triple.bind (h.choose s _) fun _ => ?_
    split
    · -- a packet: the session handles it stamped with the time, and closes unstamped
      split
      · refine Triple.bind ((h.packet _ _).conseq (h.stamp s n) fun _ _ h => h) fun o => ?_
        rcases o with _ | s'
        · exact (h.close _ s (by exact same')).conseq (h.stamp _ s.lastActivity) fun _ _ h => h
        · exact serve_triple h fuel _ s' (by exact same')
      · exact h.close _ s (by exact same')
    · refine Triple.bind (h.take s) fun o => ?_
      rcases o with _ | cmd
      · exact h.park jt' s same'
      · refine Triple.bind (h.command jt' s cmd same') fun x => ?_
        rcases x with ⟨ok, s'⟩
        dsimp only
        split
        · exact serve_triple h fuel jt' s' same'
        · exact h.close jt' s' same'
    · -- a ping is due: the session only moves its next ping
      refine Triple.bind Triple.get_keeps fun _ => ?_
      refine Triple.bind (same' ▸ h.ping s _) fun written => ?_
      split
      · exact (serve_triple h fuel jt' _ same').conseq (h.reschedule s _) fun _ _ h => h
      · exact (h.close jt' _ same').conseq (h.reschedule s _) fun _ _ h => h
    · exact h.close jt' s same'
    · exact h.park jt' s same'

/-! ## Before the handshake -/

section Waiting

variable {V Q : World → Prop}

/-- Admitting a judge: a judge that fails to authenticate has its connection released. One that
passes is registered over a new link, which brings about `J` of its id and link; failing the
submissions of the judge it replaces keeps `J`, and recording it online brings about `B` of its
new session, which serving or closing the session then takes to `Q`. -/
theorem welcome_triple {J : JudgeId → LinkId → World → Prop} {B : Session → World → Prop}
    (jt : JudgeTask) (name key : String) (problems executors : List String) (tier : Option Nat)
    (fuel : Nat) (release : Triple V (release t jt) fun _ => Q)
    (enroll : ∀ (profile : JudgeProfile) link,
      Triple (fun w => ∃ w₀, V w₀ ∧ (openLink (some t)).run w₀ = (link, w))
        (Act.registry (.register (Judge.fresh name (tier.getD profile.tier) problems executors
          profile.disabled link))) fun x => J x.1 link)
    (clock : ∀ id link, Triple (J id link) now fun _ => J id link)
    (persist : ∀ id link o u, Triple (J id link) (persist o u) fun _ => J id link)
    (online : ∀ id link n (a : Arrival), a.name = name → Triple (J id link)
      (Act.store (.judgeOnline a)) fun _ =>
        B { judgeId := id, name, link, lastActivity := n, nextPing := n + Session.pingInterval })
    (send : ∀ s, Triple (B s) (sendPacket jt.conn RelayPacket.handshakeSuccess.toJson) fun _ => B s)
    (serve : ∀ s, Triple (B s) (serve t jt s fuel) fun _ => Q)
    (close : ∀ s, Triple (B s) (close t jt s) fun _ => Q) :
    Triple V (welcome t jt name key problems executors tier fuel) fun _ => Q := by
  unfold welcome
  refine Triple.bind Triple.get_keeps fun _ => ?_
  split
  · exact release
  · next profile _ =>
    refine Triple.bind (Triple.strongest _) fun link => ?_
    refine Triple.bind (enroll profile link) fun x => ?_
    refine Triple.bind (clock _ _) fun n => ?_
    refine Triple.bind (Triple.forM (fun _ => persist _ _ _ _) _) fun _ => ?_
    -- from the record on, the task serves the new judge's session
    refine Triple.bind (online _ _ n _ rfl) fun _ => ?_
    refine Triple.bind (send _) fun _ => ?_
    split
    · exact serve _
    · exact close _

/-- Waiting for the handshake keeps `V` until the task admits the judge, releases the
connection or stores itself as still waiting, each of which ends in `Q`; the task serves the
connection it served throughout. -/
theorem awaitHandshake_triple (jt : JudgeTask) (deadline fuel : Nat)
    (read : ∀ jt, Triple V (readPacket jt) fun _ => V) (clock : Triple V now fun _ => V)
    (release : ∀ jt' : JudgeTask, jt'.conn = jt.conn → Triple V (release t jt') fun _ => Q)
    (park : ∀ jt' : JudgeTask, jt'.conn = jt.conn → (Task.judge jt').session? = none →
      Triple V (setTask t (.judge jt')) fun _ => Q)
    (welcome : ∀ (jt' : JudgeTask) name key problems executors tier, jt'.conn = jt.conn →
      Triple V (welcome t jt' name key problems executors tier fuel) fun _ => Q) :
    Triple V (awaitHandshake t jt deadline fuel) fun _ => Q := by
  unfold awaitHandshake
  refine Triple.bind ((read jt).result (R := fun x => x.2.conn = jt.conn) (JudgeTask.readPacket_conn jt))
    fun x => ?_
  rcases x with ⟨p | _ | _, jt'⟩ <;> refine Triple.assume fun same => ?_ <;> dsimp only
  · split
    · exact welcome _ _ _ _ _ _ same
    · exact release jt' same
  · exact release jt' same
  · refine Triple.bind clock fun _ => ?_
    split
    · exact release jt' same
    · exact park _ same rfl

/-- Waiting for the PROXY header keeps `V` until the task goes on to wait for the handshake,
releases the connection or stores itself as still waiting, over the connection it served. -/
theorem awaitProxyHeader_triple (jt : JudgeTask) (deadline fuel : Nat)
    (pull : ∀ jt, Triple V (pull jt) fun _ => V) (clock : Triple V now fun _ => V)
    (release : ∀ jt' : JudgeTask, jt'.conn = jt.conn → Triple V (release t jt') fun _ => Q)
    (park : ∀ jt' : JudgeTask, jt'.conn = jt.conn → (Task.judge jt').session? = none →
      Triple V (setTask t (.judge jt')) fun _ => Q)
    (handshake : ∀ (jt' : JudgeTask) d, jt'.conn = jt.conn →
      Triple V (awaitHandshake t jt' d fuel) fun _ => Q) :
    Triple V (awaitProxyHeader t jt deadline fuel) fun _ => Q := by
  unfold awaitProxyHeader
  refine Triple.bind ((pull jt).result (R := fun x => x.1.conn = jt.conn) (JudgeTask.pull_conn jt))
    fun x => ?_
  rcases x with ⟨jt', ended⟩
  refine Triple.assume fun same => ?_
  dsimp only
  split
  · exact release _ same
  · refine Triple.bind clock fun _ => handshake _ _ ?_
    split <;> exact same
  · refine Triple.bind clock fun _ => ?_
    split
    · exact release _ same
    · exact park _ same rfl

end Waiting

end JudgeTask

/-! ## Running a task -/

open Act

variable {t : TaskId}

/-- A triple for running a judge's task, from one for each of its stages: the task holds no
session before it serves one (`idle`), and holds `s` while it serves `s` (`busy`). -/
theorem JudgeTask.poll_triple {P Q I : World → Prop} {B : Session → World → Prop} {jt : JudgeTask}
    (idle : (∀ s, jt.stage ≠ .serving s) → ∀ w, P w → I w)
    (busy : ∀ s, jt.stage = .serving s → ∀ w, P w → B s w) (finished : ∀ w, P w → Q w)
    (clock : Triple I now fun _ => I)
    (proxy : ∀ (jt' : JudgeTask) d fuel, jt'.conn = jt.conn →
      Triple I (JudgeTask.awaitProxyHeader t jt' d fuel) fun _ => Q)
    (handshake : ∀ (jt' : JudgeTask) d fuel, jt'.conn = jt.conn →
      Triple I (JudgeTask.awaitHandshake t jt' d fuel) fun _ => Q)
    (serving : ∀ s fuel, Triple (B s) (JudgeTask.serve t jt s fuel) fun _ => Q) :
    Triple P (JudgeTask.poll t jt) fun _ => Q := by
  unfold JudgeTask.poll
  refine Triple.bind Triple.get_keeps fun _ => ?_
  split
  · next stage =>
    refine Triple.bind (clock.conseq (idle fun s => by simp [stage]) fun _ _ h => h) fun _ => ?_
    split
    · exact proxy _ _ _ rfl
    · exact handshake _ _ _ rfl
  · next stage => exact (proxy _ _ _ rfl).conseq (idle fun s => by simp [stage]) fun _ _ h => h
  · next stage => exact (handshake _ _ _ rfl).conseq (idle fun s => by simp [stage]) fun _ _ h => h
  · next s stage => exact (serving _ _).conseq (busy s stage) fun _ _ h => h
  · exact Triple.pure _ fun w h => finished w h

/-- `JudgeTask.poll_triple` for the judge's task found at `t` among the tasks `T`: the task's
place holds no session before it serves one, and holds `s` while it serves `s`, so the two
invariants need only be had from what `T` holds there. -/
theorem JudgeTask.poll_triple_at {S Q V : World → Prop} {B : Session → World → Prop}
    {T : Array Task} {jt : JudgeTask} (found : T[t]? = some (.judge jt))
    (vacant : ∀ w, w.tasks = T → S w → sessionsOf T t = none → V w)
    (serving : ∀ s w, w.tasks = T → S w → sessionsOf T t = some s → B s w)
    (finished : ∀ w, S w → Q w) (clock : Triple V now fun _ => V)
    (proxy : ∀ (jt' : JudgeTask) d fuel, jt'.conn = jt.conn →
      Triple V (JudgeTask.awaitProxyHeader t jt' d fuel) fun _ => Q)
    (handshake : ∀ (jt' : JudgeTask) d fuel, jt'.conn = jt.conn →
      Triple V (JudgeTask.awaitHandshake t jt' d fuel) fun _ => Q)
    (serve : ∀ s fuel, Triple (B s) (JudgeTask.serve t jt s fuel) fun _ => Q) :
    Triple (fun w => w.tasks = T ∧ S w) (JudgeTask.poll t jt) fun _ => Q := by
  have session : sessionsOf T t = Task.session? (.judge jt) := by simp [sessionsOf, found]
  refine JudgeTask.poll_triple ?_ ?_ (fun w h => finished w h.2) clock proxy handshake serve
  · -- a stage other than serving holds no session
    rintro idle w ⟨tasks, h⟩
    refine vacant w tasks h (session.trans ?_)
    rcases stage : jt.stage with _ | _ | _ | s | _ <;> simp [Task.session?, stage]
    exact idle s stage
  · rintro s stage w ⟨tasks, h⟩
    exact serving s w tasks h (session.trans (by simp [Task.session?, stage]))

/-- A triple for waiting on a control request and answering it, from triples for its steps:
what touches only the connections and the clock without writing to the client keeps `I`, and
so do processing a request and writing the reply; the task then ends in `Q`, released or
waiting again. -/
theorem ControlTask.await_triple {I Q : World → Prop} {ct : ControlTask} {deadline : Nat}
    (calm : ∀ {α : Type} (a : Act α), Calm a → Mute a → Triple I a fun _ => I)
    (process : ∀ req, Triple I (ControlTask.process req) fun _ => I)
    (reply : ∀ (c : ConnId) (r : ControlReply), Triple I (sendPacket c r.toJson) fun _ => I)
    (release : ∀ ct, Triple I (ControlTask.release t ct) fun _ => Q)
    (wait : ∀ ct, Triple I (setTask t (.control ct)) fun _ => Q) :
    Triple I (ControlTask.await t ct deadline) fun _ => Q := by
  unfold ControlTask.await
  refine Triple.bind (calm _ (calm_onConn _ _ _) (mute_onConn _ _ Conn.unwritten_serverRead))
    fun x => ?_
  rcases x with ⟨bytes, ended⟩
  dsimp only
  split
  · exact release _
  · -- a request that parses is processed; either way the reply is sent and the task ends
    have refused : Triple I (pure ControlReply.badRequest) fun _ => I := Triple.pure _ fun _ h => h
    split
    on_goal 1 => refine Triple.bind (process _) fun _ => ?_
    on_goal 2 => refine Triple.bind refused fun _ => ?_
    all_goals
      refine Triple.bind (reply _ _) fun _ => ?_
      refine Triple.bind (calm _ (calm_modifyConn _ _) (mute_modifyConn _ Conn.unwritten_serverShutdown))
        fun _ => ?_
      exact release _
  · refine Triple.bind (calm _ calm_now mute_now) fun _ => ?_
    split
    · exact release _
    · exact wait _

/-- A control request keeps `I` when the registry operations it may ask for, and recording a
submission's update, keep it. A submission whose priority is out of range changes nothing. -/
theorem ControlTask.process_triple {I : World → Prop} (req : ControlRequest)
    (dispatch : ∀ r : Request, (∃ problem language source judge priority,
      req = .submit r.id problem language source judge priority) → Triple I (Act.dispatch r) fun _ => I)
    (abort : ∀ x, Triple I (Act.registry (.abort x)) fun _ => I)
    (disconnect : ∀ name force, Triple I (Act.registry (.disconnect name force)) fun _ => I)
    (disable : ∀ name d, Triple I (Act.registry (.setDisabled name d)) fun _ => I)
    (persist : ∀ id u, Triple I (ControlTask.persist id u) fun _ => I) :
    Triple I (ControlTask.process req) fun _ => I := by
  have done : ∀ {α : Type} (v : α), Triple I (pure v : Act α) fun _ => I :=
    fun v => Triple.pure v fun _ h => h
  cases req with
  | submit id problem language source judgeName priority =>
    simp only [ControlTask.process]
    split
    · exact done _
    · refine Triple.bind (dispatch _ ⟨_, _, _, _, _, rfl⟩) fun d => ?_
      split
      · exact Triple.bind (persist _ _) fun _ => done _
      · exact done _
  | terminate id =>
    refine Triple.bind Triple.get_keeps fun _ => Triple.bind (abort id) fun _ => ?_
    split
    · exact Triple.bind (persist _ _) fun _ => done _
    · exact done _
  | disconnectJudge name force => exact Triple.bind (disconnect name force) fun _ => done _
  | disableJudge name disabled => exact Triple.bind (disable name disabled) fun _ => done _

/-- A triple for running a control task, from one for waiting on its request: the task holds
no session. -/
theorem ControlTask.poll_triple {P Q I : World → Prop} {ct : ControlTask} (idle : ∀ w, P w → I w)
    (finished : ∀ w, P w → Q w) (clock : Triple I now fun _ => I)
    (await : ∀ ct d, Triple I (ControlTask.await t ct d) fun _ => Q) :
    Triple P (ControlTask.poll t ct) fun _ => Q := by
  unfold ControlTask.poll
  split
  · exact Triple.bind (clock.conseq idle fun _ _ h => h) fun _ => await _ _
  · exact (await _ _).conseq idle fun _ _ h => h
  · exact Triple.pure _ finished

end JudgeRelay
