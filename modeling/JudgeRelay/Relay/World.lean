import JudgeRelay.Relay.Task
import JudgeRelay.Relay.Clock
import JudgeRelay.Store.Backend
import JudgeRelay.Config.Credentials
import JudgeRelay.Packet.Judge
import JudgeRelay.Packet.Control

/-!
# The relay's world

Everything the relay's tasks share: the clock, the registry, the credentials, the
store, the connections, the tasks and the links on which the registry sends judges
commands, and the queue of tasks ready to run.

Tasks run one at a time, in the order they became ready, each until it has to wait.
A task becomes ready when bytes or the end of the stream reach its connection, when a
command reaches its link, or when one of its timers fires.

The relay draws random numbers in two places: a dispatch breaks ties between equally
loaded judges at random, and a judge session takes one of the branches ready at once at
random. The world holds what these draws give, in turn (`tieBreaks`, `coins`): a run of
the relay is a run for some such tapes, and every tape gives a run.

`Act` is a step of a task, or of a client, on the world.
-/

namespace JudgeRelay

/-- A link on which the registry sends a judge commands. -/
structure Link where
  /-- The task that receives them, for a judge served over a connection. -/
  owner : Option TaskId
  isOpen : Bool := true
  /-- Commands sent and not yet taken. -/
  inbox : List Command := []

/-- The relay's world. -/
structure World where
  /-- Nanoseconds since the start. -/
  now : Nat := 0
  /-- The wall clock at the start, in nanoseconds since the epoch. -/
  wallStart : Nat := 1700000000 * 1000000000
  registry : Registry := Registry.empty
  auth : JudgeAuth
  store : Store
  conns : Array Conn := #[]
  tasks : Array Task := #[]
  links : Array Link := #[]
  /-- Tasks ready to run, first first. -/
  ready : List TaskId := []
  /-- The codec of the frames the relay writes. -/
  zlib : Deflate.Zlib := Deflate.zlib
  /-- The tie-breaks of the relay's dispatches, in turn. -/
  tieBreaks : Nat → TieBreak := fun _ _ => 0
  /-- How many dispatches have drawn theirs. -/
  dispatches : Nat := 0
  /-- The coins the judge sessions toss, in turn, to take one of the branches ready. -/
  coins : Nat → Nat := fun _ => 0
  /-- How many coins have been tossed. -/
  tosses : Nat := 0

/-- A step on the world. -/
abbrev Act := StateM World

namespace World

/-- The wall clock in seconds. -/
def wallNow (w : World) : Binary64 := Clock.toSeconds (w.wallStart + w.now)

/-- Whether a link is open. -/
def linkOpen (w : World) (l : LinkId) : Bool := (w.links[l]?.map (·.isOpen)).getD false

end World

namespace Act

/-- The clock. -/
def now : Act Nat := do pure (← get).now

/-- Makes a task ready, unless it already is. -/
def wake (t : TaskId) : Act Unit :=
  modify fun w => if w.ready.contains t then w else { w with ready := w.ready ++ [t] }

/-- Replaces a task's state. -/
def setTask (t : TaskId) (task : Task) : Act Unit :=
  modify fun w => { w with tasks := w.tasks.set! t task }

/-- Changes a connection. -/
def modifyConn (c : ConnId) (f : Conn → Conn) : Act Unit :=
  modify fun w => { w with conns := w.conns.modify c f }

/-- Runs a step on a connection that gives a result. -/
def onConn (c : ConnId) (f : Conn → α × Conn) (default : α) : Act α := do
  let w ← get
  match w.conns[c]? with
  | some conn =>
    let (a, conn) := f conn
    set { w with conns := w.conns.set! c conn }
    pure a
  | none => pure default

/-- Asks the store. -/
def store (call : StoreCall) : Act (Except String StoreReply) := do
  let w ← get
  let (r, s) := w.store.call call
  set { w with store := s }
  pure r

/-- Hands a command to a link's inbox and wakes the task that receives it. -/
def deliver (l : LinkId) (c : Command) : Act Unit := do
  let w ← get
  match w.links[l]? with
  | some link =>
    set { w with links := w.links.set! l { link with inbox := link.inbox ++ [c] } }
    match link.owner with
    | some t => wake t
    | none => pure ()
  | none => pure ()

/-- Runs a registry operation, then delivers the commands it sent. -/
def registry (op : RegistryOp α) : Act α := do
  let w ← get
  let (a, r, out) := RegistryOp.exec op w.linkOpen w.registry
  set { w with registry := r }
  out.forM fun s => deliver s.link s.command
  pure a

/-- Draws the next tie-break. -/
def drawTieBreak : Act TieBreak := do
  let w ← get
  set { w with dispatches := w.dispatches + 1 }
  pure (w.tieBreaks w.dispatches)

/-- Dispatches a request, breaking ties with the next tie-break. -/
def dispatch (req : Request) : Act Dispatch := do
  Act.registry (RegistryOp.dispatch req (← drawTieBreak))

/-- Tosses the next coin. -/
def toss : Act Nat := do
  let w ← get
  set { w with tosses := w.tosses + 1 }
  pure (w.coins w.tosses)

/-- Opens a link; a receiving task is woken by what is sent on it. -/
def openLink (owner : Option TaskId) : Act LinkId := do
  let w ← get
  set { w with links := w.links.push { owner } }
  pure w.links.size

/-- Takes the oldest command from a link's inbox. -/
def takeCommand (l : LinkId) : Act (Option Command) := do
  let w ← get
  match w.links[l]? with
  | some link =>
    match link.inbox with
    | c :: rest =>
      set { w with links := w.links.set! l { link with inbox := rest } }
      pure (some c)
    | [] => pure none
  | none => pure none

/-- Closes a link and takes every command left in it. -/
def closeLink (l : LinkId) : Act (List Command) := do
  let w ← get
  match w.links[l]? with
  | some link =>
    set { w with links := w.links.set! l { link with isOpen := false, inbox := [] } }
    pure link.inbox
  | none => pure []

/-- Writes a packet to a connection as one frame; false when the frame cannot be made or
the write fails. -/
def sendPacket (c : ConnId) (packet : Json.Value) : Act Bool := do
  match Frame.encode (← get).zlib packet.toBytes with
  | .ok frame => onConn c (fun conn => conn.serverWrite frame) false
  | .error _ => pure false

end Act

end JudgeRelay
