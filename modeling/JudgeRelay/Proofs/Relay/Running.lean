import JudgeRelay.Proofs.Relay.Sessions

/-!
# Running the relay keeps every session agreeing

A task runs until it waits; what it does depends on its stage, and each stage's code was
shown to end settled (`Sessions`). Here that is lifted to the tasks, the scheduler and the
clients: running any task, settling, moving the clock, and every client action leave the
relay settled. The lifting is stated once for any invariant: a task's run keeps it from a
triple for each of its stages (`JudgeTask.poll_triple`, `ControlTask.poll_triple`, in
`Stages`), the scheduler keeps what every task's run and every calm step keep
(`World.settleWith_keeps`, `World.advance_keeps`), and so does every event
(`Event.act_triple`).

From a relay that has just started, anything may then happen in any order (`World.Reachable`):
clients connect, write, stop writing, go away or stop reading, control requests reach the
registry, the store is asked, the clock moves, and any task runs, ready or not. In every
world reached that way each session agrees with the registry (`sessions_agree_with_registry`).
-/

namespace JudgeRelay

open Act RegistryOp

variable {T : Array Task} {t : TaskId}

/-! ## Judge tasks -/

/-- Running a judge's task until it waits, in whatever stage it is, ends settled. -/
theorem JudgeTask.poll_settled {jt : JudgeTask} (found : T[t]? = some (.judge jt)) :
    Triple (fun w => w.tasks = T ∧ Settled w) (JudgeTask.poll t jt) fun _ => Settled := by
  obtain ⟨inside, -⟩ := Array.getElem?_eq_some_iff.1 found
  refine JudgeTask.poll_triple_at (V := Vacant T t) (B := Serving T t) found
    (fun w tasks settled idle => ?_) (fun s w tasks settled sits => ?_) (fun _ h => h)
    quiet_now.vacant (fun jt d fuel _ => awaitProxyHeader_settled jt d fuel)
    (fun jt d fuel _ => awaitHandshake_settled jt d fuel) fun s fuel => serve_settled t fuel jt s
  · subst tasks
    exact settled.vacant inside idle
  · subst tasks
    exact settled.serving inside sits

/-! ## Control tasks -/

/-- A control request changes the registry only through operations that keep every ledger. -/
theorem ControlTask.process_agreed {sess : TaskId → Option Session} (req : ControlRequest) :
    Triple (Agreed T sess) (ControlTask.process req) fun _ => Agreed T sess :=
  ControlTask.process_triple req
    (fun r _ => dispatch_triple r calm_drawTieBreak.1.agreed fun tie =>
      registry_agreed (fun _ _ => keepsLedger_dispatch r tie) fun links _ => .call (.dispatch r tie) links)
    (fun x => registry_agreed (fun _ _ => keepsLedger_abort x) fun links _ => .call (.abort x) links)
    (fun name force => registry_agreed (fun _ _ => keepsLedger_disconnect name force) fun links _ =>
      .call (.disconnect name force) links)
    (fun name d => registry_agreed (fun _ _ => keepsLedger_setDisabled name d) fun links _ =>
      .call (.setDisabled name d) links)
    fun _ _ => (quiet_bind (quiet_store _) fun _ => quiet_pure _).agreed

theorem ControlTask.process_vacant (req : ControlRequest) :
    Triple (Vacant T t) (ControlTask.process req) fun _ => Vacant T t :=
  fun w ⟨inside, agreed⟩ => ⟨inside, ControlTask.process_agreed req w agreed⟩

theorem ControlTask.release_settled (ct : ControlTask) :
    Triple (Agreed T (Function.update (sessionsOf T) t none)) (ControlTask.release t ct)
      fun _ => Settled :=
  Triple.bind (quiet_modifyConn _ _).agreed fun _ => setTask_idle_settled _ rfl

/-- Waiting for a control request, and answering it, ends settled. -/
theorem ControlTask.await_settled (ct : ControlTask) (deadline : Nat) :
    Triple (Vacant T t) (ControlTask.await t ct deadline) fun _ => Settled :=
  ControlTask.await_triple (fun _ calm _ => calm.1.vacant) ControlTask.process_vacant
    (fun _ _ => (quiet_sendPacket _ _).vacant) (fun ct w h => ControlTask.release_settled ct w h.2)
    fun _ w h => setTask_idle_settled _ rfl w h.2

theorem ControlTask.poll_settled {ct : ControlTask} (found : T[t]? = some (.control ct)) :
    Triple (fun w => w.tasks = T ∧ Settled w) (ControlTask.poll t ct) fun _ => Settled := by
  obtain ⟨inside, -⟩ := Array.getElem?_eq_some_iff.1 found
  refine ControlTask.poll_triple (I := Vacant T t) ?_ (fun _ h => h.2) quiet_now.vacant
    ControlTask.await_settled
  rintro w ⟨rfl, settled⟩
  exact settled.vacant inside (by simp [sessionsOf, found, Task.session?])

/-! ## The scheduler and the clients -/

namespace World

variable {I : World → Prop}

/-- Running any task keeps what each kind of task's run keeps. -/
theorem pollTask_keeps
    (judge : ∀ (T : Array Task) t jt, T[t]? = some (.judge jt) →
      Triple (fun w => w.tasks = T ∧ I w) (JudgeTask.poll t jt) fun _ => I)
    (control : ∀ (T : Array Task) t ct, T[t]? = some (.control ct) →
      Triple (fun w => w.tasks = T ∧ I w) (ControlTask.poll t ct) fun _ => I)
    (t : TaskId) : Triple I (pollTask t) fun _ => I := by
  unfold pollTask
  refine Triple.bind Triple.get_self fun w₀ => ?_
  have same : ∀ w, w₀ = w ∧ I w → w.tasks = w₀.tasks ∧ I w :=
    fun _ ⟨here, holds⟩ => ⟨here ▸ rfl, holds⟩
  split
  · next found => exact (judge _ _ _ found).conseq same fun _ _ h => h
  · next found => exact (control _ _ _ found).conseq same fun _ _ h => h
  · exact Triple.pure _ fun _ h => h.2

/-- The scheduler keeps what every run of a task keeps, when calm steps that write to no client
keep it too: moving the ready list or the clock changes nothing the invariant reads. -/
theorem settleWith_keeps
    (calm : ∀ {α : Type} (a : Act α), Calm a → Mute a → Triple I a fun _ => I)
    (poll : ∀ t, Triple I (pollTask t) fun _ => I) : ∀ fuel, Triple I (settleWith fuel) fun _ => I
  | 0 => Triple.pure _ fun _ h => h
  | fuel + 1 => by
    unfold settleWith
    refine Triple.bind Triple.get fun _ => ?_
    split
    · exact Triple.pure _ fun _ h => h
    · refine Triple.bind (calm _ (calm_modify fun _ => ⟨rfl, rfl, rfl, rfl⟩)
        (mute_modify fun _ => ⟨rfl, rfl⟩)) fun _ => ?_
      exact Triple.bind (poll _) fun _ => settleWith_keeps calm poll fuel

theorem settle_keeps
    (calm : ∀ {α : Type} (a : Act α), Calm a → Mute a → Triple I a fun _ => I)
    (poll : ∀ t, Triple I (pollTask t) fun _ => I) : Triple I settle fun _ => I :=
  Triple.bind Triple.get fun _ => settleWith_keeps calm poll _

theorem advance_keeps
    (calm : ∀ {α : Type} (a : Act α), Calm a → Mute a → Triple I a fun _ => I)
    (poll : ∀ t, Triple I (pollTask t) fun _ => I) (span : Nat) :
    Triple I (advance span) fun _ => I := by
  unfold advance
  refine Triple.bind (calm _ (calm_modify fun _ => ⟨rfl, rfl, rfl, rfl⟩)
    (mute_modify fun _ => ⟨rfl, rfl⟩)) fun _ => ?_
  refine Triple.bind Triple.get fun _ => ?_
  dsimp only
  exact Triple.bind (Triple.forM (fun _ => calm _ (calm_wake _) (mute_wake _)) _) fun _ =>
    settle_keeps calm poll

/-- Running any task, ready or not, ends settled. -/
theorem pollTask_settled (t : TaskId) : Triple Settled (pollTask t) fun _ => Settled :=
  pollTask_keeps (fun _ _ _ found => JudgeTask.poll_settled found)
    (fun _ _ _ found => ControlTask.poll_settled found) t

/-- A new connection's task serves no session yet. -/
theorem openConn_settled (label : String) {task : ConnId → Task}
    (idle : ∀ c, (task c).session? = none) :
    Triple Settled (openConn label task) fun _ => Settled := by
  unfold openConn
  refine Triple.bind Triple.get_self fun w₀ => ?_
  refine Triple.bind (?_ : Triple _ (set _) fun _ => Settled) fun _ => ?_
  · rintro w ⟨rfl, settled⟩
    show Agreeing w₀.registry w₀.links (sessionsOf (w₀.tasks.push _))
    rw [sessionsOf_push (idle _)]
    exact settled
  · exact Triple.bind (quiet_wake _).settled fun _ => Triple.pure _ fun _ h => h

theorem calm_wakeServer (c : ConnId) : Calm (wakeServer c) := by
  refine calm_bind calm_get fun _ => ?_
  split
  · exact calm_wake _
  · exact calm_pure _

theorem calm_clientWrite (c : ConnId) (bytes : ByteArray) : Calm (clientWrite c bytes) := by
  refine calm_bind (calm_onConn _ _ _) fun ok => ?_
  dsimp only
  split
  · exact calm_bind (calm_wakeServer c) fun _ => calm_pure _
  · exact calm_pure _

theorem mute_wakeServer (c : ConnId) : Mute (wakeServer c) := by
  refine mute_bind mute_get fun _ => ?_
  split
  · exact mute_wake _
  · exact mute_pure _

theorem mute_clientWrite (c : ConnId) (bytes : ByteArray) : Mute (clientWrite c bytes) := by
  refine mute_bind (mute_onConn _ _ fun conn => conn.unwritten_clientWrite bytes) fun ok => ?_
  dsimp only
  split
  · exact mute_bind (mute_wakeServer c) fun _ => mute_pure _
  · exact mute_pure _

end World

/-! ## Reachable worlds -/

/-- What may happen to a running relay. -/
inductive Event where
  /-- A judge connects from `peer`, through a trusted proxy when `viaProxy`. -/
  | connectJudge (label : String) (peer : SocketAddress) (viaProxy : Bool)
  | connectControl (label : String)
  | write (c : ConnId) (bytes : ByteArray)
  | shutdown (c : ConnId)
  | drop (c : ConnId)
  | stopReading (c : ConnId)
  | look (c : ConnId)
  | takeReceived (c : ConnId)
  /-- The control listener carries out a request. -/
  | request (req : ControlRequest)
  /-- Every judge is asked to leave. -/
  | disconnectAll (force : Bool)
  /-- The store is asked from outside the tasks. -/
  | storeCall (call : StoreCall)
  | advance (span : Nat)
  /-- A task runs until it waits, whether it was ready or not. -/
  | run (t : TaskId)
  | settle

/-- What an event does to the world. -/
def Event.act : Event → Act Unit
  | .connectJudge label peer viaProxy => do let _ ← World.connectJudge label peer viaProxy
  | .connectControl label => do let _ ← World.connectControl label
  | .write c bytes => do let _ ← World.clientWrite c bytes
  | .shutdown c => World.clientShutdown c
  | .drop c => World.clientDrop c
  | .stopReading c => World.clientStopReading c
  | .look c => do let _ ← World.lookAt c
  | .takeReceived c => do let _ ← World.takeReceived c
  | .request req => do let _ ← ControlTask.process req
  | .disconnectAll force => Act.registry (RegistryOp.disconnectAll force)
  | .storeCall call => do let _ ← Act.store call
  | .advance span => World.advance span
  | .run t => World.pollTask t
  | .settle => World.settle

/-- The worlds a relay reaches from its start, one event after another. -/
inductive World.Reachable : World → Prop
  | start (auth : JudgeAuth) (store : Store) : World.Reachable { auth, store }
  | step {w : World} (reach : World.Reachable w) (e : Event) : World.Reachable (e.act.run w).2

/-- The world after events, one after another. -/
def World.after (w : World) (es : List Event) : World := es.foldl (fun w e => (e.act.run w).2) w

theorem World.Reachable.after {w : World} (reach : w.Reachable) (es : List Event) :
    (w.after es).Reachable := by
  induction es generalizing w with
  | nil => exact reach
  | cons e es ih => exact ih (reach.step e)

/-- An event keeps what calm steps, new connections, control requests, asking every judge to
leave, the store call it makes and every run of a task keep: the scheduler's moves are made of
calm steps and runs of tasks. -/
theorem Event.act_triple {I : World → Prop} (e : Event)
    (calm : ∀ {α : Type} (a : Act α), Calm a → Mute a → Triple I a fun _ => I)
    (judge : ∀ label peer viaProxy, e = .connectJudge label peer viaProxy →
      Triple I (World.connectJudge label peer viaProxy) fun _ => I)
    (control : ∀ label, e = .connectControl label → Triple I (World.connectControl label) fun _ => I)
    (request : ∀ req, e = .request req → Triple I (ControlTask.process req) fun _ => I)
    (disconnectAll : ∀ force, Triple I (Act.registry (RegistryOp.disconnectAll force)) fun _ => I)
    (store : ∀ call, e = .storeCall call → Triple I (Act.store call) fun _ => I)
    (poll : ∀ t, Triple I (World.pollTask t) fun _ => I) :
    Triple I e.act fun _ => I := by
  have done : ∀ {α : Type} (v : α), Triple I (pure v : Act α) fun _ => I :=
    fun v => Triple.pure v fun _ h => h
  -- a client's move on its connection is calm, and writes nothing it will read
  have client : ∀ (c : ConnId) (f : Conn → Conn), (∀ conn : Conn, conn.Unwritten (f conn)) →
      Triple I (do modifyConn c f; World.wakeServer c) fun _ => I := fun c _ hf =>
    calm _ (calm_bind (calm_modifyConn _ _) fun _ => World.calm_wakeServer c)
      (mute_bind (mute_modifyConn _ hf) fun _ => World.mute_wakeServer c)
  cases e with
  | connectJudge => exact Triple.bind (judge _ _ _ rfl) fun _ => done _
  | connectControl => exact Triple.bind (control _ rfl) fun _ => done _
  | write c bytes =>
    exact Triple.bind (calm _ (World.calm_clientWrite c bytes) (World.mute_clientWrite c bytes))
      fun _ => done _
  | shutdown c => exact client c _ Conn.unwritten_clientShutdown
  | drop c => exact client c _ Conn.unwritten_clientDrop
  | stopReading c => exact calm _ (calm_modifyConn _ _) (mute_modifyConn _ Conn.unwritten_clientStopReading)
  | look c =>
    exact Triple.bind (calm _ (calm_onConn _ _ _) (mute_onConn _ _ Conn.unwritten_look)) fun _ => done _
  | takeReceived c =>
    exact Triple.bind (calm _ (calm_onConn _ _ _) (mute_onConn _ _ Conn.unwritten_takeReceived))
      fun _ => done _
  | request req => exact Triple.bind (request req rfl) fun _ => done _
  | disconnectAll force => exact disconnectAll force
  | storeCall call => exact Triple.bind (store call rfl) fun _ => done _
  | advance span => exact World.advance_keeps calm poll span
  | run t => exact poll t
  | settle => exact World.settle_keeps calm poll

theorem Event.act_settled (e : Event) : Triple Settled e.act fun _ => Settled :=
  e.act_triple (fun _ calm _ => calm.1.settled)
    (fun label _ _ _ => World.openConn_settled label fun _ => rfl)
    (fun label _ => World.openConn_settled label fun _ => rfl)
    (fun req _ => settled_of_agreed fun _ _ => ControlTask.process_agreed req)
    (fun force => registry_settled (fun _ _ => keepsLedger_disconnectAll force) fun links _ =>
      .call (.disconnectAll force) links)
    (fun call _ => (quiet_store call).settled) World.pollTask_settled

/-- At the start no judge is registered and no task serves a session. -/
theorem settled_start (auth : JudgeAuth) (store : Store) : Settled { auth, store } := by
  refine ⟨fun _ => [], fun _ => none, .empty, ⟨?_, ?_, ?_, ?_, ?_, ?_⟩, ?_, ?_, ?_, ?_, ?_, ?_⟩ <;>
    simp [sessionsOf, Registry.empty]

theorem World.Reachable.settled {w : World} (reach : w.Reachable) : Settled w := by
  induction reach with
  | start auth store => exact settled_start auth store
  | step _ e settled => exact e.act_settled _ settled

/-- The relay's registry is always one the registry's operations reach from the empty registry,
so what is proved of reachable registries holds of the relay's. -/
theorem World.Reachable.registry {w : World} (reach : w.Reachable) : w.registry.Reachable := by
  obtain ⟨P, R, agrees⟩ := reach.settled
  exact agrees.reachable

/-! ## Sessions agree with the registry -/

/-- The earlier of a session's two deadlines is due only when one of them is. -/
theorem Session.due_of_due_deadline {s : Session} {n : Nat} (due : Clock.due n s.deadline) :
    (∃ a, s.ackDeadline = some a ∧ Clock.due n a) ∨ Clock.due n s.idleDeadline := by
  unfold Session.deadline at due
  rcases ack : s.ackDeadline with _ | a
  · simp only [ack] at due
    exact Or.inr due
  · simp only [ack] at due
    by_cases earlier : a ≤ s.idleDeadline
    · rw [Nat.min_eq_left earlier] at due
      exact Or.inl ⟨a, rfl, due⟩
    · rw [Nat.min_eq_right (by omega)] at due
      exact Or.inr due

/-- In every reachable relay each session agrees with the registry's record of its judge. A
registered judge works on what its session grades. A judge that works on `x` has it handed
to its session and not yet written to the judge, waiting on the link or among what the
session failed to write, and nothing else, while the session grades none; or the session
grades `x` and nothing is handed to it. A session's acknowledgement deadline runs only while
it grades, and a submission is handed to a session only while it grades none, so no judge is
sent a submission while it grades one. When a session's deadline is due, its silence deadline
is, or its acknowledgement deadline is while it grades. -/
theorem sessions_agree_with_registry {w : World} (reach : w.Reachable) {t : TaskId}
    {s : Session} (sits : sessionsOf w.tasks t = some s) :
    (∀ k, w.registry.find? s.judgeId = some k →
      (∀ x, s.current = some x → k.working = some x) ∧
      ∀ x, k.working = some x →
        (s.undelivered.map (·.id) ++ pendingOn w.links s.link = [x] ∧ s.current = none) ∨
          (s.undelivered.map (·.id) ++ pendingOn w.links s.link = [] ∧ s.current = some x)) ∧
    (s.ackDeadline.isSome → s.current.isSome) ∧
    (∀ x ∈ pendingOn w.links s.link, s.current = none) ∧
    ∀ n, Clock.due n s.deadline →
      (∃ a, s.ackDeadline = some a ∧ Clock.due n a ∧ s.current.isSome) ∨
        Clock.due n s.idleDeadline := by
  obtain ⟨P, R, agrees⟩ := reach.settled
  have acked := agrees.acked t s sits
  refine ⟨fun k found => ⟨fun x => agrees.working_of_current sits found, fun x working => ?_⟩,
    acked, fun x pending => agrees.idle_of_pending sits pending, fun n due => ?_⟩
  · have agree := agrees.agree sits found
    rw [working] at agree
    exact agree
  · rcases s.due_of_due_deadline due with ⟨a, ack, ackDue⟩ | idleDue
    · exact Or.inl ⟨a, ack, ackDue, acked (by simp [ack])⟩
    · exact Or.inr idleDue

namespace Handshake

/-- A judge's address. -/
def peer : SocketAddress := ⟨.v4 ⟨#v[192, 0, 2, 1]⟩, 40000, 0⟩

/-- The handshake of judge `alpha`. -/
def hello : Json.Value :=
  .obj [("name", .str "handshake"), ("id", .str "alpha"), ("key", .str "alpha-key"),
    ("problems", .arr [.str "aplusb"]), ("executors", .arr [.str "PY3"])]

/-- The frame carrying the handshake. -/
def frame : ByteArray := (Frame.encode Deflate.zlib hello.toBytes).toOption.getD ByteArray.empty

/-- A relay that lists judge `alpha`, with a store that logs every call. -/
def start : World := { auth := { judges := [⟨"alpha", "alpha-key", ⟨1, false⟩⟩] }, store := .log {} }

end Handshake

namespace Reconnect

open Handshake

/-- `alpha` connects and is admitted, then stops reading. `alpha` connects again and sends its
handshake, and before the tasks run a control request submits submission 1, which the registry
sends to the `alpha` registered first. -/
def world : World :=
  start.after [.connectJudge "a1" peer false, .write 0 frame, .settle,
    .stopReading 0, .connectJudge "a2" peer false, .write 1 frame,
    .request (.submit 1 "aplusb" "PY3" "" none 0), .settle]

theorem reachable : world.Reachable := (World.Reachable.start _ _).after _

/-- What the tasks leave, evaluated once for the theorems that read it: the second `alpha`'s
session grades submission 1, the store heard that 1 failed as `judge reconnected`, and the
registry assigned 1 to the second `alpha`, registered as judge 2. -/
theorem outcome :
    (sessionsOf world.tasks 1).bind (·.current) = some 1 ∧
      (match world.store with
        | .log l => l.calls.any fun c => match c with
          | .submissionUpdate 1 (.internalError "judge reconnected") => true
          | _ => false
        | .memory _ => false) = true ∧
      world.registry.assignedTo 1 = some 2 := by
  decide +kernel

/-- The second `alpha`'s session grades submission 1. -/
theorem grading : (sessionsOf world.tasks 1).bind (·.current) = some 1 := outcome.1

end Reconnect

open Reconnect in
/-- After `alpha` reconnects, the session of the second `alpha` grades submission 1, and agrees
with the registry. -/
theorem sessions_agree_after_reconnect :
    ∃ s, sessionsOf world.tasks 1 = some s ∧ s.current = some 1 ∧
      (∀ k, world.registry.find? s.judgeId = some k →
        (∀ x, s.current = some x → k.working = some x) ∧
        ∀ x, k.working = some x →
          (s.undelivered.map (·.id) ++ pendingOn world.links s.link = [x] ∧ s.current = none) ∨
            (s.undelivered.map (·.id) ++ pendingOn world.links s.link = [] ∧ s.current = some x)) ∧
      (s.ackDeadline.isSome → s.current.isSome) ∧
      (∀ x ∈ pendingOn world.links s.link, s.current = none) ∧
      ∀ n, Clock.due n s.deadline →
        (∃ a, s.ackDeadline = some a ∧ Clock.due n a ∧ s.current.isSome) ∨
          Clock.due n s.idleDeadline := by
  obtain ⟨s, sits, current⟩ := Option.bind_eq_some_iff.1 grading
  exact ⟨s, sits, current, sessions_agree_with_registry reachable sits⟩

end JudgeRelay
