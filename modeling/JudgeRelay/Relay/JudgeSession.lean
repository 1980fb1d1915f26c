import JudgeRelay.Relay.World
import JudgeRelay.Wire.Proxy

/-!
# Serving a judge

A judge connection goes through these stages.

1. When it comes through a trusted proxy, a PROXY header within five seconds; its
   addresses replace the socket's.
2. A handshake within five seconds. The judge must be listed with the key it gives;
   it is then registered (dropping any judge of the same name, whose submission is
   failed as `judge reconnected`), recorded online, and sent `handshake-success`.
3. Serving, until the connection fails or the judge is told to leave. The task
   relays the registry's commands to the judge (a submission goes with its problem's
   limits), relays the judge's reports to the store, pings the judge every ten
   seconds, and drops it when it stays silent for sixty seconds or leaves a
   submission unacknowledged for twenty.
4. Closing: submissions sent on the link but never written to the judge go back to
   the registry (and to the store as queued when they wait); the one the judge was
   grading is failed as `judge disconnected`; the judge is recorded offline unless
   another judge of its name is live; the connection is released.

A packet that cannot be read ends the connection; a report about a submission other
than the current one is ignored.
-/

namespace JudgeRelay

namespace JudgeTask

open Act

/-- Records a submission's update in the store. -/
def persist (id : SubmissionId) (u : SubmissionUpdate) : Act Unit := do
  let _ ← Act.store (.submissionUpdate id u)

/-- Finishes the task and releases the connection. -/
def release (t : TaskId) (jt : JudgeTask) : Act Unit := do
  modifyConn jt.conn Conn.serverDrop
  setTask t (.judge { jt with stage := .finished })

/-- Moves the bytes that arrived into the decoder; true when the stream has ended. -/
def pull (jt : JudgeTask) : Act (JudgeTask × Bool) := do
  let (bytes, ended) ← onConn jt.conn Conn.serverRead (ByteArray.empty, true)
  pure ({ jt with decoder := jt.decoder.push bytes }, ended)

/-- What reading a packet gave. -/
inductive Reading where
  | packet (payload : ByteArray)
  | failed (e : WireError)
  | waiting

/-- What the decoder's next frame gives, the stream having ended or not. -/
def Reading.of : Except WireError (Option ByteArray) → Bool → Reading
  | .error e, _ => .failed e
  | .ok (some p), _ => .packet p
  | .ok none, ended => if ended then .failed .closed else .waiting

/-- A branch a serving round can take: the judge's next packet (or the end of its stream),
a command of the registry, the ping timer, the deadline. -/
inductive Branch where
  | packet
  | command
  | ping
  | deadline
  deriving DecidableEq, Repr

/-- The branches ready at once, in the order the relay lists them. -/
def Branch.ready (reading : Reading) (commanded pingDue deadlineDue : Bool) : List Branch :=
  (match reading with
   | .waiting => []
   | _ => [.packet]) ++
  (if commanded then [.command] else []) ++ (if pingDue then [.ping] else []) ++
  (if deadlineDue then [.deadline] else [])

/-- Takes one of the branches ready: the relay polls them in a random order, for which the
next coin stands. -/
def choose (ready : List Branch) : Act (Option Branch) := do
  let coin ← toss
  pure ready[coin % ready.length]?

/-- Whether a command waits on a link. -/
def hasCommand (l : LinkId) : Act Bool := do
  pure ((((← get).links[l]?).map fun link => !link.inbox.isEmpty).getD false)

/-- Reads the next packet if it has arrived whole. -/
def readPacket (jt : JudgeTask) : Act (Reading × JudgeTask) := do
  let (jt, ended) ← pull jt
  let (r, decoder) := jt.decoder.next
  let jt := { jt with decoder }
  match r with
  | .error e => pure (.failed e, jt)
  | .ok (some p) => pure (.packet p, jt)
  | .ok none => pure (if ended then .failed .closed else .waiting, jt)

/-- Leaves the registry and releases the connection (stage 4). -/
def close (t : TaskId) (jt : JudgeTask) (s : Session) : Act Unit := do
  let left ← closeLink s.link
  let undelivered := s.undelivered ++ left.filterMap fun
    | .submit r => some r
    | _ => none
  match ← Act.registry (RegistryOp.leave s.judgeId) with
  | some orphan =>
    if !undelivered.any (·.id == orphan) then persist orphan (.internalError "judge disconnected")
  | none => pure ()
  undelivered.forM fun r => do
    match ← Act.dispatch r with
    | .queued => persist r.id .queued
    | _ => pure ()
  if !(← get).registry.judges.any (·.name == s.name) then
    let _ ← Act.store (.judgeOffline s.name)
  modifyConn jt.conn Conn.serverShutdown
  release t jt

/-- Sends the judge a submission with its problem's limits (the defaults when the
store cannot give them). False when the write fails; the submission is then kept
as undelivered. -/
def submit (jt : JudgeTask) (s : Session) (r : Request) : Act (Bool × Session) := do
  let limits := match ← Act.store (.problemLimits r.problem r.language) with
    | .ok (.limits l) => l
    | _ => Limits.default
  let packet := RelayPacket.submission r.id r.problem r.language r.source limits
  if ← sendPacket jt.conn packet.toJson then
    let s := { s with current := some r.id, ackDeadline := some ((← now) + Session.ackTimeout) }
    persist r.id (.processing s.name)
    pure (true, s)
  else pure (false, { s with undelivered := s.undelivered ++ [r] })

/-- Relays a command of the registry; false when the session ends. -/
def onCommand (jt : JudgeTask) (s : Session) : Command → Act (Bool × Session)
  | .submit r => submit jt s r
  | .abort id => do pure (← sendPacket jt.conn (RelayPacket.terminate id).toJson, s)
  | .disconnect true => pure (false, s)
  | .disconnect false => do pure (← sendPacket jt.conn RelayPacket.disconnect.toJson, s)

/-- The store's record of a grading event. -/
def updateOf : JudgePacket → Option SubmissionUpdate
  | .acknowledged _ => some .acknowledged
  | .gradingBegin _ p => some (.gradingBegin p)
  | .batchBegin _ b => some (.batchBegin b)
  | .batchEnd _ b => some (.batchEnd b)
  | .testCase _ pos b details => some (.testCase pos b details)
  | .compileMessage _ log => some (.compileMessage log)
  | .compileError _ log => some (.compileError log)
  | .internalError _ m => some (.internalError m)
  | .aborted _ => some .aborted
  | .gradingEnd _ => some .gradingEnd
  | _ => none

/-- Records a grading event of the current submission; one that ends the grading
frees the judge. -/
def onGradingEvent (s : Session) (id : SubmissionId) (p : JudgePacket) : Act Session := do
  let s := match p with
    | .acknowledged _ => { s with ackDeadline := none }
    | _ => s
  match updateOf p with
  | none => pure s
  | some u =>
    persist id u
    if p.isTerminal then
      let s := { s with current := none, ackDeadline := none }
      Act.registry (RegistryOp.onJudgeFree s.judgeId id)
      pure s
    else pure s

/-- Handles a packet from the judge; `none` when it cannot be read, which ends the
session. -/
def onPacket (s : Session) (payload : ByteArray) : Act (Option Session) := do
  match JudgePacket.parse payload with
  | .error _ => pure none
  | .ok p =>
    match p.submissionId? with
    | some id => if s.current != some id then pure (some s) else some <$> onGradingEvent s id p
    | none =>
      match p with
      | .pingResponse sent _ load => do
        let rtt := ((← get).wallNow.sub sent).max Binary64.zero
        Act.registry (RegistryOp.setPing s.judgeId load rtt)
        let _ ← Act.store (.judgePing s.name rtt load)
        pure (some s)
      | .problemUpdate ps => do
        Act.registry (RegistryOp.setProblems s.judgeId ps)
        pure (some s)
      | .executorUpdate es => do
        Act.registry (RegistryOp.setExecutors s.judgeId es)
        pure (some s)
      | _ => pure (some s)

/-- Serves the judge until the task has to wait (stage 3). Each round takes one of the
branches ready at once, the one the next coin picks: a packet, a command, a due ping or a
passed deadline. Each round takes a packet or a command, or sends a ping, so `fuel` bounds
the rounds by what is waiting; should it run out, the task makes itself ready again. -/
def serve (t : TaskId) (jt : JudgeTask) (s : Session) : Nat → Act Unit
  | 0 => do
    setTask t (.judge { jt with stage := .serving s })
    wake t
  | fuel + 1 => do
    let (jt, ended) ← pull jt
    let (r, decoder) := jt.decoder.next
    let reading := Reading.of r ended
    let now ← now
    let ready := Branch.ready reading (← hasCommand s.link) (Clock.due now s.nextPing)
      (Clock.due now s.deadline)
    match ← choose ready with
    | some .packet =>
      let jt := { jt with decoder }
      match reading with
      | .packet p => do
        match ← onPacket { s with lastActivity := now } p with
        | some s => serve t jt s fuel
        | none => close t jt s
      | _ => close t jt s
    | some .command => do
      match ← takeCommand s.link with
      | some c => do
        let (ok, s) ← onCommand jt s c
        if ok then serve t jt s fuel else close t jt s
      | none => setTask t (.judge { jt with stage := .serving s })
    | some .ping => do
      let next := if now > s.nextPing + 5 * Clock.millisecond then now + Session.pingInterval
        else s.nextPing + Session.pingInterval
      let s := { s with nextPing := next }
      if ← sendPacket jt.conn (RelayPacket.ping (← get).wallNow).toJson then serve t jt s fuel
      else close t jt s
    | some .deadline => close t jt s
    | none => setTask t (.judge { jt with stage := .serving s })

/-- Admits a judge that sent its handshake (stage 2). -/
def welcome (t : TaskId) (jt : JudgeTask) (name key : String) (problems executors : List String)
    (tier : Option Nat) (fuel : Nat) : Act Unit := do
  match (← get).auth.authenticate name key with
  | none => release t jt
  | some profile =>
    let tier := tier.getD profile.tier
    let link ← openLink (some t)
    let (id, orphans) ← Act.registry
      (RegistryOp.register (Judge.fresh name tier problems executors profile.disabled link))
    let now ← now
    let s : Session := { judgeId := id, name, link, lastActivity := now,
                         nextPing := now + Session.pingInterval }
    orphans.forM fun o => persist o (.internalError "judge reconnected")
    let _ ← Act.store (.judgeOnline ⟨name, tier, jt.peer.toText,
      jt.localAddress.map SocketAddress.toText, problems.length, executors⟩)
    if ← sendPacket jt.conn RelayPacket.handshakeSuccess.toJson then serve t jt s fuel
    else close t jt s

/-- Waits for the handshake (stage 2). -/
def awaitHandshake (t : TaskId) (jt : JudgeTask) (deadline fuel : Nat) : Act Unit := do
  let (r, jt) ← readPacket jt
  match r with
  | .failed _ => release t jt
  | .waiting =>
    if Clock.due (← now) deadline then release t jt
    else setTask t (.judge { jt with stage := .handshake deadline })
  | .packet p =>
    match JudgePacket.parse p with
    | .ok (.handshake name key problems executors tier) =>
      welcome t jt name key problems executors tier fuel
    | _ => release t jt

/-- Waits for the PROXY header (stage 1). -/
def awaitProxyHeader (t : TaskId) (jt : JudgeTask) (deadline fuel : Nat) : Act Unit := do
  let (jt, ended) ← pull jt
  match ProxyHeader.parse jt.decoder.bytes with
  | .error _ => release t jt
  | .ok (some (h, used)) =>
    let jt := { jt with decoder := jt.decoder.consume used }
    let jt := match h with
      | .tcp source destination => { jt with peer := source, localAddress := some destination }
      | .unknown => jt
    let d := (← now) + Task.firstPacketTimeout
    awaitHandshake t { jt with stage := .handshake d } d fuel
  | .ok none =>
    if ended || Clock.due (← now) deadline then release t jt
    else setTask t (.judge { jt with stage := .proxyHeader deadline })

/-- Runs the task until it has to wait. -/
def poll (t : TaskId) (jt : JudgeTask) : Act Unit := do
  let w ← get
  let waiting := (w.conns[jt.conn]?.map (·.inbound.size)).getD 0 + jt.decoder.bytes.size
  let fuel := waiting + w.registry.queue.size + w.registry.judges.length + 16
  match jt.stage with
  | .start =>
    let d := (← now) + Task.firstPacketTimeout
    if jt.viaProxy then awaitProxyHeader t { jt with stage := .proxyHeader d } d fuel
    else awaitHandshake t { jt with stage := .handshake d } d fuel
  | .proxyHeader d => awaitProxyHeader t jt d fuel
  | .handshake d => awaitHandshake t jt d fuel
  | .serving s =>
    let inbox := (w.links[s.link]?.map (·.inbox.length)).getD 0
    serve t jt s (fuel + inbox)
  | .finished => pure ()

end JudgeTask

end JudgeRelay
