import JudgeRelay.Relay.Scheduler

/-!
# A bench around the relay

A bench runs the relay against scripted clients on a clock that moves only when told.
Each step acts on the world, then every task that became ready runs until all wait;
a batch of steps acts several times before the tasks run. After each step the bench
takes a snapshot: the step's outcome, the registry, the commands sent to judges
attached directly, what each client read and whether it saw its stream end, and
what reached the store since the previous snapshot.

Judges may be attached directly, under a label, or connect as clients. Steps name a
judge by its label, by its registry id, or by its name, meaning the newest live judge
of that name.
-/

namespace JudgeRelay

/-- Which judge a step means. -/
inductive JudgeRef where
  /-- The judge a step attached under this label. -/
  | label (l : String)
  /-- The judge with this registry id. -/
  | id (n : JudgeId)
  /-- The newest live judge of this name. -/
  | newest (name : String)

/-- What a client writes. -/
inductive Payload where
  /-- These bytes. -/
  | raw (bytes : ByteArray)
  /-- The compact text of a JSON value. A top-level `"submission-id": "$current"` is
  first replaced by the submission the newest live judge named `currentOf` grades,
  or -1. -/
  | json (v : Json.Value) (currentOf : Option String)

/-- A write of a client: the payload, and whether it goes as one frame. -/
structure Write where
  payload : Payload
  framed : Bool

/-- A step of a scripted run. -/
inductive Step where
  /-- Attaches a judge directly under a label. -/
  | register (label name : String) (tier : Nat) (problems executors : List String)
      (disabled : Bool)
  /-- Offers a submission to the registry. -/
  | submit (r : Request)
  | abort (id : SubmissionId)
  | disconnect (name : String) (force : Bool)
  | disconnectAll (force : Bool)
  | disable (name : String) (disabled : Bool)
  /-- Drops a judge from the registry. -/
  | remove (j : JudgeRef)
  /-- Tells the registry a judge is done with a submission. -/
  | free (j : JudgeRef) (id : SubmissionId)
  /-- Tells the registry a judge is done with what it grades. -/
  | finish (j : JudgeRef)
  | problems (j : JudgeRef) (list : List String)
  | executors (j : JudgeRef) (list : List String)
  | ping (j : JudgeRef) (load : Option Binary64) (ping : Binary64)
  /-- Closes the link of a directly attached judge. -/
  | kill (label : String)
  /-- A judge client connects. -/
  | connect (conn : String) (viaProxy : Bool) (peer : SocketAddress)
  /-- A client writes, then goes away when `dropAfter`. -/
  | send (conn : String) (w : Write) (dropAfter : Bool)
  /-- A client stops writing. -/
  | eof (conn : String)
  /-- A client goes away. -/
  | drop (conn : String)
  /-- A client stops reading. -/
  | closeRead (conn : String)
  /-- A control client connects under a label (by default `control-N` for the N-th
  control step), writes, then stops writing (`eof`) or goes away (`dropAfter`). -/
  | control (conn : Option String) (w : Write) (eof dropAfter : Bool)
  /-- Moves the clock forward by a span in seconds. -/
  | advance (secs : Binary64)
  /-- Several steps with no task run between them. -/
  | batch (steps : List Step)
  | storeReset
  | storeSweep
  | storeLimits (problem language : String)
  deriving Inhabited

/-- The outcome of a step. -/
inductive Outcome where
  | nothing
  /-- A judge attached: its id and the submissions of the judges it replaced. -/
  | registered (id : JudgeId) (orphans : List SubmissionId)
  | dispatched (d : Dispatch)
  | flag (b : Bool)
  | submission (id : Option SubmissionId)
  /-- Whether a client's write succeeded. -/
  | written (ok : Bool)
  /-- A control exchange: whether the request was written, the packets of the
  reply, and whether the client saw its stream end. -/
  | replied (written : Bool) (reply : List Received) (closed : Bool)
  /-- A control request written on a connection, whether it was written and whether the
  client went away after it, its reply not yet read. -/
  | awaiting (conn : ConnId) (written : Bool) (dropped : Bool)
  | several (outcomes : List Outcome)
  | stored (r : Except String StoreReply)

/-- What the store shows in a snapshot. -/
inductive StoreView where
  /-- The calls since the previous snapshot. -/
  | calls (new : List StoreCall)
  /-- The whole store, and for each submission the updates since the previous
  snapshot. -/
  | memory (m : MemoryStore) (fresh : List (SubmissionId × List SubmissionUpdate))

/-- What a step leaves to see. -/
structure Snapshot where
  outcome : Outcome
  judges : List Judge
  minTier : Option Nat
  queue : List Request
  /-- Submissions being graded, with their judge's name. -/
  assignments : List (SubmissionId × String)
  /-- Commands sent since the previous snapshot to each directly attached judge
  whose link is open, for those that got any. -/
  commands : List (String × List Command)
  /-- What each client read since the previous snapshot, for those that read any. -/
  packets : List (String × List Received)
  /-- The clients that saw their stream end since the previous snapshot, sorted. -/
  closed : List String
  store : StoreView

/-- A bench: the relay's world with the clients and directly attached judges. -/
structure Bench where
  world : World
  /-- Directly attached judges: label, link and registry id. -/
  attached : List (String × LinkId × JudgeId) := []
  /-- Client connections by label. -/
  conns : List (String × ConnId) := []
  /-- Control steps so far. -/
  controls : Nat := 0
  /-- Store calls already shown. -/
  shownCalls : Nat := 0
  /-- Submission updates already shown, by submission. -/
  shownUpdates : List (SubmissionId × Nat) := []

namespace Bench

/-- A step on the bench. -/
abbrev Run := StateM Bench

/-- Runs a step of the world. -/
def act (a : Act α) : Run α := do
  let b ← get
  let (x, w) := a.run b.world
  set { b with world := w }
  pure x

/-- The registry id a reference means; 0 when none. -/
def resolve (j : JudgeRef) : Run JudgeId := do
  let b ← get
  match j with
  | .label l => pure (((b.attached.find? (·.1 == l)).map (·.2.2)).getD 0)
  | .id n => pure n
  | .newest name =>
    pure (((b.world.registry.judges.filter (·.name == name)).map (·.id)).max?.getD 0)

/-- The connection of a label. -/
def connOf (label : String) : Run ConnId := do
  pure ((((← get).conns.find? (·.1 == label)).map (·.2)).getD 0)

/-- The bytes of a write. -/
def bytesOf (w : Write) : Run ByteArray := do
  let body ← match w.payload with
    | .raw bytes => pure bytes
    | .json v currentOf => do
      let v ← match currentOf, v with
        | some name, .obj fields =>
          if fields.any (fun f => f.1 == "submission-id" && f.2 matches .str "$current") then do
            let id ← resolve (.newest name)
            let grading := ((← get).world.registry.find? id).bind (·.working)
            pure (.obj (fields.map fun f =>
              if f.1 == "submission-id" then (f.1, .int (grading.getD (-1))) else f))
          else pure v
        | _, _ => pure v
      pure v.toBytes
  if w.framed then
    match Frame.encode (← get).world.zlib body with
    | .ok frame => pure frame
    | .error _ => pure ByteArray.empty
  else pure body

/-- Acts out a step without running the tasks. The outcome of a control step is
completed by `complete` once they have run. -/
def perform : Step → Run Outcome
  | .register label name tier problems executors disabled => do
    let (link, id, orphans) ← act (World.attachJudge name tier problems executors disabled)
    modify fun b => { b with attached := b.attached ++ [(label, link, id)] }
    pure (.registered id orphans)
  | .submit r => do pure (.dispatched (← act (Act.dispatch r)))
  | .abort id => do pure (.flag (← act (Act.registry (RegistryOp.abort id))))
  | .disconnect name force => do
    act (Act.registry (RegistryOp.disconnect name force))
    pure .nothing
  | .disconnectAll force => do
    act (Act.registry (RegistryOp.disconnectAll force))
    pure .nothing
  | .disable name d => do pure (.flag (← act (Act.registry (RegistryOp.setDisabled name d))))
  | .remove j => do
    let id ← resolve j
    pure (.submission (← act (Act.registry (RegistryOp.leave id))))
  | .free j s => do
    let id ← resolve j
    act (Act.registry (RegistryOp.onJudgeFree id s))
    pure .nothing
  | .finish j => do
    let id ← resolve j
    let grading := ((← get).world.registry.find? id).bind (·.working)
    match grading with
    | some s => act (Act.registry (RegistryOp.onJudgeFree id s))
    | none => pure ()
    pure (.submission grading)
  | .problems j list => do
    let id ← resolve j
    act (Act.registry (RegistryOp.setProblems id list))
    pure .nothing
  | .executors j list => do
    let id ← resolve j
    act (Act.registry (RegistryOp.setExecutors id list))
    pure .nothing
  | .ping j load p => do
    let id ← resolve j
    act (Act.registry (RegistryOp.setPing id load p))
    pure .nothing
  | .kill label => do
    match (← get).attached.find? (·.1 == label) with
    | some (_, link, _) => act (World.detachLink link)
    | none => pure ()
    pure .nothing
  | .connect conn viaProxy peer => do
    let c ← act (World.connectJudge conn peer viaProxy)
    modify fun b => { b with conns := b.conns ++ [(conn, c)] }
    pure .nothing
  | .send conn w dropAfter => do
    let c ← connOf conn
    let ok ← act (World.clientWrite c (← bytesOf w))
    if dropAfter then act (World.clientDrop c)
    pure (.written ok)
  | .eof conn => do
    act (World.clientShutdown (← connOf conn))
    pure .nothing
  | .drop conn => do
    act (World.clientDrop (← connOf conn))
    pure .nothing
  | .closeRead conn => do
    act (World.clientStopReading (← connOf conn))
    pure .nothing
  | .control conn w eof dropAfter => do
    modify fun b => { b with controls := b.controls + 1 }
    let label := conn.getD ("control-" ++ toString (← get).controls)
    let c ← act (World.connectControl label)
    modify fun b => { b with conns := b.conns ++ [(label, c)] }
    let ok ← act (World.clientWrite c (← bytesOf w))
    if dropAfter then act (World.clientDrop c)
    else if eof then act (World.clientShutdown c)
    pure (.awaiting c ok dropAfter)
  | .advance secs => do
    act (World.advance (Clock.ofSeconds secs))
    pure .nothing
  | .batch steps => do pure (.several (← performAll steps))
  | .storeReset => do pure (.stored (← act (Act.store .resetJudges)))
  | .storeSweep => do pure (.stored (← act (Act.store .sweep)))
  | .storeLimits problem language => do
    pure (.stored (← act (Act.store (.problemLimits problem language))))
where
  /-- Acts out steps in order. -/
  performAll : List Step → Run (List Outcome)
    | [] => pure []
    | s :: rest => do
      let o ← perform s
      pure (o :: (← performAll rest))

/-- Completes the outcome of every control step, those of a batch included, with the
reply its client read and whether it saw the end. -/
def complete : Outcome → Run Outcome
  | .awaiting c ok dropAfter => do
    let (got, ended) ← act (World.takeReceived c)
    pure (.replied ok got (ended || dropAfter))
  | .several outcomes => do pure (.several (← completeAll outcomes))
  | o => pure o
where
  /-- Completes outcomes in order. -/
  completeAll : List Outcome → Run (List Outcome)
    | [] => pure []
    | o :: rest => do
      let o ← complete o
      pure (o :: (← completeAll rest))

/-- Takes a snapshot after a step with this outcome. -/
def snapshot (outcome : Outcome) : Run Snapshot := do
  let b ← get
  let r := b.world.registry
  let commands ← b.attached.filterMapM fun (label, link, _) => do
    if (← get).world.linkOpen link then
      let cmds ← act (World.takeInbox link)
      pure (if cmds.isEmpty then none else some (label, cmds))
    else pure none
  let looks ← b.conns.mapM fun (label, c) => do pure (label, ← act (World.lookAt c))
  let b ← get
  let store ← match b.world.store with
    | .log l => do
      set { b with shownCalls := l.calls.length }
      pure (StoreView.calls (l.calls.drop b.shownCalls))
    | .memory m => do
      let fresh := m.updates.map fun (id, us) =>
        (id, us.drop (((b.shownUpdates.find? (·.1 == id)).map (·.2)).getD 0))
      set { b with shownUpdates := m.updates.map fun (p : SubmissionId × List SubmissionUpdate) => (p.1, p.2.length) }
      pure (StoreView.memory m fresh)
  pure {
    outcome, judges := r.judges, minTier := r.minTier, queue := r.queue.toList,
    assignments := r.assignments.filterMap fun (s, j) => (r.find? j).map fun jd => (s, jd.name),
    commands,
    packets := looks.filterMap fun (label, got, _) => if got.isEmpty then none else some (label, got),
    closed := ((looks.filter (·.2.2)).map (·.1)).mergeSort (fun a b => decide (a ≤ b)),
    store }

/-- Runs one step: acts, runs the tasks, completes the outcome, takes the snapshot. -/
def step (s : Step) : Run Snapshot := do
  let o ← perform s
  act World.settle
  snapshot (← complete o)

/-- Runs a script. -/
def runAll : List Step → Run (List Snapshot)
  | [] => pure []
  | s :: rest => do
    let snap ← step s
    pure (snap :: (← runAll rest))

end Bench

end JudgeRelay
