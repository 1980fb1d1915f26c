import JudgeRelay.Relay.JudgeSession
import JudgeRelay.Relay.ControlSession

/-!
# Running the relay

Ready tasks run one after another, each until it has to wait, until none is ready
(`settle`). Moving the clock forward fires every timer that falls due, which makes
the tasks waiting for them ready in the order of their deadlines; the tasks then see
the new time.

Clients act on the world between these runs: they open connections, write, stop
writing, go away, or stop reading. Judges can also be attached to the registry
directly through links that nobody serves; what is sent on them stays in their inbox.
-/

namespace JudgeRelay

namespace World

open Act

/-- The task serving a connection. -/
def taskOf (w : World) (c : ConnId) : Option TaskId := w.tasks.findIdx? (·.conn == c)

/-- Runs one task until it has to wait. -/
def pollTask (t : TaskId) : Act Unit := do
  match (← get).tasks[t]? with
  | some (.judge jt) => JudgeTask.poll t jt
  | some (.control ct) => ControlTask.poll t ct
  | none => pure ()

/-- Runs ready tasks, at most `fuel` of them. -/
def settleWith : Nat → Act Unit
  | 0 => pure ()
  | fuel + 1 => do
    match (← get).ready with
    | [] => pure ()
    | t :: rest => do
      modify fun w => { w with ready := rest }
      pollTask t
      settleWith fuel

/-- Runs ready tasks until none is left. Every run of a task consumes bytes or
commands, fires a timer, or ends a task, and each of those makes a bounded number of
tasks ready; the bound used here is far above what that allows. -/
def settle : Act Unit := do
  let w ← get
  let bytes := w.conns.foldl (fun acc c => acc + c.inbound.size) 0
  let commands := w.links.foldl (fun acc l => acc + l.inbox.length) 0
  settleWith (1000 + 64 * (w.tasks.size + w.links.size) + 4 * (bytes + commands))

/-- Moves the clock forward by `span` nanoseconds, makes the tasks whose timers fall
due ready in the order of their deadlines, and runs them. -/
def advance (span : Nat) : Act Unit := do
  modify fun w => { w with now := w.now + span }
  let w ← get
  let due := (w.tasks.toList.zipIdx.filterMap fun (task, t) =>
    match (task.deadlines.filter (Clock.due w.now)).map Clock.tick |>.min? with
    | some d => some (d, t)
    | none => none).mergeSort fun a b => a.1 < b.1 || (a.1 == b.1 && a.2 ≤ b.2)
  due.forM fun (_, t) => wake t
  settle

/-- Makes the task of a connection ready. -/
def wakeServer (c : ConnId) : Act Unit := do
  match (← get).taskOf c with
  | some t => wake t
  | none => pure ()

/-- A client opens a connection served by a new task. -/
def openConn (label : String) (task : ConnId → Task) : Act ConnId := do
  let w ← get
  let c := w.conns.size
  set { w with conns := w.conns.push { label }, tasks := w.tasks.push (task c) }
  wake w.tasks.size
  pure c

/-- A judge connects from `peer`; `viaProxy` when it comes through a trusted proxy. -/
def connectJudge (label : String) (peer : SocketAddress) (viaProxy : Bool) : Act ConnId :=
  openConn label fun c => .judge { conn := c, peer, viaProxy }

/-- A control client connects. -/
def connectControl (label : String) : Act ConnId :=
  openConn label fun c => .control { conn := c }

/-- A client writes; false when the write fails. -/
def clientWrite (c : ConnId) (bytes : ByteArray) : Act Bool := do
  let ok ← onConn c (·.clientWrite bytes) false
  if ok then wakeServer c
  pure ok

/-- A client stops writing. -/
def clientShutdown (c : ConnId) : Act Unit := do
  modifyConn c Conn.clientShutdown
  wakeServer c

/-- A client goes away. -/
def clientDrop (c : ConnId) : Act Unit := do
  modifyConn c Conn.clientDrop
  wakeServer c

/-- A client stops reading. -/
def clientStopReading (c : ConnId) : Act Unit := modifyConn c Conn.clientStopReading

/-- Attaches a judge to the registry through a link nobody serves. -/
def attachJudge (name : String) (tier : Nat) (problems executors : List String)
    (disabled : Bool) : Act (LinkId × JudgeId × List SubmissionId) := do
  let link ← openLink none
  let (id, orphans) ← Act.registry
    (RegistryOp.register (Judge.fresh name tier problems executors disabled link))
  pure (link, id, orphans)

/-- Closes a link nobody serves; later commands to its judge fail. -/
def detachLink (l : LinkId) : Act Unit := do let _ ← closeLink l

/-- Takes the commands waiting on a link nobody serves. -/
def takeInbox (l : LinkId) : Act (List Command) := do
  let w ← get
  match w.links[l]? with
  | some link =>
    set { w with links := w.links.set! l { link with inbox := [] } }
    pure link.inbox
  | none => pure []

/-- What a client read since the last look, and whether it saw the end. -/
def lookAt (c : ConnId) : Act (List Received × Bool) := onConn c Conn.look ([], false)

/-- What a client read since the last look, and whether it saw the end, leaving the
end to be seen again. -/
def takeReceived (c : ConnId) : Act (List Received × Bool) :=
  onConn c Conn.takeReceived ([], false)

end World

end JudgeRelay
