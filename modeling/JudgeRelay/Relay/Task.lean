import JudgeRelay.Dispatch.Registry
import JudgeRelay.Net.Address
import JudgeRelay.Relay.Connection

/-!
# Connection tasks

Each connection to the relay is served by a task. A task runs until it has to wait:
for bytes, for a command, or for a timer. Its state says where it waits.

A judge connection optionally reads a PROXY header, then waits for the handshake,
each within five seconds; once registered it serves the judge (`Session`). A control
connection waits five seconds for its one request.
-/

namespace JudgeRelay

/-- Index of a task. -/
abbrev TaskId := Nat

/-- A registered judge being served. -/
structure Session where
  judgeId : JudgeId
  name : String
  /-- The link on which the registry sends this judge commands. -/
  link : LinkId
  /-- The submission last sent to the judge and not yet finished. -/
  current : Option SubmissionId := none
  /-- When the current submission must have been acknowledged, while it is not. -/
  ackDeadline : Option Nat := none
  /-- When the judge last sent a packet, or finished its handshake. -/
  lastActivity : Nat
  /-- Submissions sent to this judge by the registry that never reached it. -/
  undelivered : List Request := []
  /-- When the next ping is due. -/
  nextPing : Nat
  deriving Repr

namespace Session

/-- A judge silent for this long is dropped. -/
def idleTimeout : Nat := 60 * 1000000000

/-- A submission must be acknowledged within this long. -/
def ackTimeout : Nat := 20 * 1000000000

/-- Pings are this far apart. -/
def pingInterval : Nat := 10 * 1000000000

/-- When the judge counts as gone for silence. -/
def idleDeadline (s : Session) : Nat := s.lastActivity + idleTimeout

/-- The earlier of the acknowledgement and silence deadlines. -/
def deadline (s : Session) : Nat :=
  match s.ackDeadline with
  | some a => min a s.idleDeadline
  | none => s.idleDeadline

end Session

/-- Where a judge connection's task is. -/
inductive JudgeStage where
  /-- Not yet run. -/
  | start
  /-- Waiting for the PROXY header until the deadline. -/
  | proxyHeader (deadline : Nat)
  /-- Waiting for the handshake until the deadline. -/
  | handshake (deadline : Nat)
  /-- Serving a registered judge. -/
  | serving (s : Session)
  /-- Done; the connection is released. -/
  | finished
  deriving Repr

/-- The task serving a judge connection. -/
structure JudgeTask where
  conn : ConnId
  /-- The judge's address, as the socket or a PROXY header reports it. -/
  peer : SocketAddress
  /-- Whether the connection starts with a PROXY header. -/
  viaProxy : Bool
  /-- The relay-side address the judge dialed, when a PROXY header reported it. -/
  localAddress : Option SocketAddress := none
  /-- Bytes read and not yet taken by a packet. -/
  decoder : FrameBuffer := {}
  stage : JudgeStage := .start

/-- Where a control connection's task is. -/
inductive ControlStage where
  | start
  /-- Waiting for the request until the deadline. -/
  | awaiting (deadline : Nat)
  | finished
  deriving Repr

/-- The task serving a control connection. -/
structure ControlTask where
  conn : ConnId
  decoder : FrameBuffer := {}
  stage : ControlStage := .start

/-- A connection task. -/
inductive Task where
  | judge (t : JudgeTask)
  | control (t : ControlTask)

namespace Task

/-- The first packet must arrive within this long. -/
def firstPacketTimeout : Nat := 5 * 1000000000

/-- The deadlines the task waits for. -/
def deadlines : Task → List Nat
  | .judge t =>
    match t.stage with
    | .proxyHeader d | .handshake d => [d]
    | .serving s => [s.nextPing, s.deadline]
    | _ => []
  | .control t =>
    match t.stage with
    | .awaiting d => [d]
    | _ => []

/-- The connection the task serves. -/
def conn : Task → ConnId
  | .judge t => t.conn
  | .control t => t.conn

end Task

end JudgeRelay
