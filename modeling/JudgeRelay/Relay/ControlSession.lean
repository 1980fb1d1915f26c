import JudgeRelay.Relay.World

/-!
# Serving a control client

A control client sends one request within five seconds and gets one reply, after
which the relay closes the connection. A connection that fails, or sends nothing in
time, is closed without a reply. A request that cannot be read, or a submission with
a priority outside the bands, gets `bad-request`.

* A submission goes to the registry; when it has to wait, the store records it as
  queued. The reply names the submission.
* A termination stops the submission: a judge grading it is told to abort; a
  submission that was only waiting leaves the queue and is recorded as aborted. The
  reply says whether a judge was told.
* A disconnection asks every judge of the name to leave, forcibly or not.
* Disabling or enabling applies to every judge of the name.
-/

namespace JudgeRelay

namespace ControlTask

open Act

/-- Records a submission's update in the store. -/
def persist (id : SubmissionId) (u : SubmissionUpdate) : Act Unit := do
  let _ ← Act.store (.submissionUpdate id u)

/-- Carries out a request and gives the reply. -/
def process : ControlRequest → Act ControlReply
  | .submit id problem language source judgeName priority => do
    match Priority.check priority with
    | none => pure .badRequest
    | some band =>
      match ← Act.dispatch ⟨id, problem, language, source, judgeName, band⟩ with
      | .queued => persist id .queued
      | _ => pure ()
      pure (.received id)
  | .terminate id => do
    let wasQueued := (← get).registry.isQueued id
    let judgeAborted ← Act.registry (RegistryOp.abort id)
    if wasQueued && !judgeAborted then persist id .aborted
    pure (.terminated judgeAborted)
  | .disconnectJudge name force => do
    Act.registry (RegistryOp.disconnect name force)
    pure .judgeDisconnected
  | .disableJudge name disabled => do
    let _ ← Act.registry (RegistryOp.setDisabled name disabled)
    pure .judgeDisableUpdated

/-- Finishes the task and releases the connection. -/
def release (t : TaskId) (ct : ControlTask) : Act Unit := do
  modifyConn ct.conn Conn.serverDrop
  setTask t (.control { ct with stage := .finished })

/-- Waits for the request until the deadline, then answers it. -/
def await (t : TaskId) (ct : ControlTask) (deadline : Nat) : Act Unit := do
  let (bytes, ended) ← onConn ct.conn Conn.serverRead (ByteArray.empty, true)
  let (r, decoder) := (ct.decoder.push bytes).next
  let ct := { ct with decoder }
  match r with
  | .error _ => release t ct
  | .ok (some payload) => do
    let reply ← match ControlRequest.parse payload with
      | .ok req => process req
      | .error _ => pure .badRequest
    let _ ← sendPacket ct.conn reply.toJson
    modifyConn ct.conn Conn.serverShutdown
    release t ct
  | .ok none =>
    if ended || Clock.due (← now) deadline then release t ct
    else setTask t (.control { ct with stage := .awaiting deadline })

/-- Runs the task until it has to wait. -/
def poll (t : TaskId) (ct : ControlTask) : Act Unit := do
  match ct.stage with
  | .start => await t ct ((← now) + Task.firstPacketTimeout)
  | .awaiting d => await t ct d
  | .finished => pure ()

end ControlTask

end JudgeRelay
