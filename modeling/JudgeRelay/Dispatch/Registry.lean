import JudgeRelay.Dispatch.Queue
import JudgeRelay.Dispatch.Judge

/-!
# The registry and its dispatch rules

The registry holds every live judge, the pending queue, and which judge grades which
submission. Its operations send commands to judges through their links; a link that
refuses a command marks its judge as gone, and the judge is dropped.

Rules:
1. Only judges of the lowest tier among enabled judges (the serving tier) get work.
2. When more than one judge shares that tier and at most one of them is free, the free
   one is kept for interactive work: rejudge bands are withheld from it.
3. A request goes to one of the least loaded available judges that can grade it (loads
   in the total order of binary64 values), or waits in the queue. Equal loads are broken
   at random; the coins a dispatch draws are its parameter (`TieBreak`).
4. A judge that becomes free takes the first waiting request it can grade.

Dropping a judge can change the serving tier, which offers work to other judges, whose
links may in turn refuse it; every such cascade drops a judge, so the operations carry
fuel counted from the number of judges (`Registry.fuel`).
-/

namespace JudgeRelay

/-- What became of a request offered to the registry. -/
inductive Dispatch where
  /-- Sent to the judge of this name. -/
  | assigned (name : String)
  /-- Waiting in the queue. -/
  | queued
  /-- Already waiting or being graded; nothing changed. -/
  | duplicate
  deriving DecidableEq, Repr

/-- The registry's state. -/
structure Registry where
  /-- Live judges by ascending id. -/
  judges : List Judge
  queue : PendingQueue
  /-- Which judge grades which submission. -/
  assignments : List (SubmissionId × JudgeId)
  /-- The serving tier. -/
  minTier : Option Nat
  /-- The id the next registered judge gets. -/
  nextId : JudgeId
  deriving Repr

namespace Registry

/-- An empty registry: no judges, the four priority bands, ids from 1. -/
def empty : Registry := ⟨[], PendingQueue.empty Priority.bands, [], none, 1⟩

instance : Inhabited Registry := ⟨empty⟩

/-- The judge with an id. -/
def find? (r : Registry) (id : JudgeId) : Option Judge := r.judges.find? (·.id == id)

/-- The judge grading a submission. -/
def assignedTo (r : Registry) (s : SubmissionId) : Option JudgeId :=
  (r.assignments.find? (·.1 == s)).map (·.2)

/-- Whether a submission is waiting in the queue. -/
def isQueued (r : Registry) (s : SubmissionId) : Bool := r.queue.contains s

/-- The lowest tier among enabled judges. -/
def lowestTier (r : Registry) : Option Nat :=
  (r.judges.filter (!·.disabled)).foldl
    (fun acc j => match acc with
      | some t => some (min t j.tier)
      | none => some j.tier) none

/-- The judges competing for work: enabled judges of the serving tier. -/
def pool (r : Registry) : List Judge :=
  r.judges.filter fun j => some j.tier == r.minTier && !j.disabled

/-- More than one judge competes for work and at most one of them is free. -/
def shouldReserve (r : Registry) : Bool :=
  let p := r.pool
  decide (p.length > 1) && decide ((p.filter (!·.isWorking)).length ≤ 1)

/-- Fuel for any cascade of drops: every step of a cascade drops a judge. -/
def fuel (r : Registry) : Nat := 4 * (r.judges.length + 2)

/-- Applies `f` to the judge with an id. -/
def modifyJudge (r : Registry) (id : JudgeId) (f : Judge → Judge) : Registry :=
  { r with judges := r.judges.map fun j => if j.id == id then f j else j }

/-- Records that a judge grades a submission. -/
def assign (r : Registry) (s : SubmissionId) (id : JudgeId) : Registry :=
  { r with assignments := r.assignments.filter (·.1 != s) ++ [(s, id)] }

/-- Forgets who grades a submission. -/
def unassign (r : Registry) (s : SubmissionId) : Registry :=
  { r with assignments := r.assignments.filter (·.1 != s) }

/-- Whether a new serving tier opens work to more judges: it rose, or appeared. -/
def widens : Option Nat → Option Nat → Bool
  | some old, some new => decide (new > old)
  | none, some _ => true
  | _, _ => false

/-- The judges a request being dispatched may go to: the free judges of the serving tier
that can grade it, or none when the only free one among several is kept from rejudges. -/
def eligible (r : Registry) (req : Request) : List Judge :=
  let candidates := r.judges.filter fun j => some j.tier == r.minTier && j.accepts req
  let available := candidates.filter (·.isAvailable)
  if candidates.length > 1 && available.length == 1 && req.priority ≥ Priority.rejudge then []
  else available

/-- The least loaded judges of a list, in the list's order. -/
def leastLoaded (js : List Judge) : List Judge :=
  match (js.map (·.load.totalKey)).min? with
  | some least => js.filter (·.load.totalKey == least)
  | none => []

/-- The judge a coin picks among the least loaded of a list. -/
def pickLeast (coin : Nat) (js : List Judge) : Option Judge :=
  (leastLoaded js)[coin % (leastLoaded js).length]?

/-- The first waiting request a judge can grade, stopping at the rejudge bands when
`reserve` holds. -/
def firstFor (j : Judge) (reserve : Bool) : List Request → Option Request
  | [] => none
  | r :: rest =>
    if r.priority ≥ Priority.rejudge && reserve then none
    else if j.accepts r then some r
    else firstFor j reserve rest

end Registry

/-- Which links are open; a command on a closed link is refused. -/
abbrev Links := LinkId → Bool

/-- How a dispatch breaks ties between equally loaded judges: the coins it draws, one per
attempt, the first attempt's first. The relay draws random numbers here. -/
abbrev TieBreak := Nat → Nat

/-- A command sent on a link, with the registry as it stood when the command was sent. -/
structure Sent where
  registry : Registry
  link : LinkId
  command : Command
  deriving Repr

/-- Commands sent, in order. -/
abbrev Outbox := List Sent

/-- A registry operation: it reads which links are open, and changes the registry and
sends commands. -/
abbrev RegistryOp := ReaderT Links (StateM (Registry × Outbox))

namespace RegistryOp

/-- The registry. -/
def registry : RegistryOp Registry := do pure (← get).1

/-- Changes the registry. -/
def update (f : Registry → Registry) : RegistryOp Unit := modify fun (r, o) => (f r, o)

/-- Sends a command on a link; false when the link refuses it. -/
def send (link : LinkId) (c : Command) : RegistryOp Bool := do
  if (← read) link then
    modify fun (r, o) => (r, o ++ [⟨r, link, c⟩])
    pure true
  else pure false

/-- Hands a request to a judge, which is then busy with it; false when its link
refuses. -/
def submitTo (j : Judge) (req : Request) : RegistryOp Bool := do
  if ← send j.link (.submit req) then
    update (·.modifyJudge j.id fun j => { j with working := some req.id })
    pure true
  else pure false

/-- Drops a judge without looking at the consequences; returns the submission it was
grading, if that was still assigned to it. -/
def dropJudge (id : JudgeId) : RegistryOp (Option SubmissionId) := do
  let r ← registry
  match r.find? id with
  | none => pure none
  | some j =>
    let orphan := j.working.filter fun s => r.assignedTo s == some id
    update fun r =>
      let r := { r with judges := r.judges.filter (·.id != id) }
      match orphan with
      | some s => r.unassign s
      | none => r
    pure orphan

mutual

/-- Offers waiting work to a judge that may be free (rule 4). -/
def handleFree (id : JudgeId) : Nat → RegistryOp Unit
  | 0 => pure ()
  | fuel + 1 => do
    let r ← registry
    let reserve := r.shouldReserve
    match r.find? id with
    | none => pure ()
    | some j =>
      if !j.isAvailable then pure ()
      else
        match r.minTier with
        | none => pure ()
        | some t =>
          if j.tier > t then pure ()
          else
            match Registry.firstFor j reserve r.queue.toList with
            | none => pure ()
            | some req => do
              if ← submitTo j req then
                update fun r => { r with queue := (r.queue.remove req.id).2 }.assign req.id id
              else
                let _ ← remove id fuel

/-- Drops a judge, recomputes the serving tier, and offers work to a judge left alone
in its tier; returns the submission the dropped judge was grading, if still its own. -/
def remove (id : JudgeId) : Nat → RegistryOp (Option SubmissionId)
  | 0 => dropJudge id
  | fuel + 1 => do
    let r ← registry
    match r.find? id with
    | none => pure none
    | some _ => do
      let orphan ← dropJudge id
      updateMinTier fuel
      match (← registry).pool with
      | [only] => if only.working.isNone then handleFree only.id fuel else pure ()
      | _ => pure ()
      pure orphan

/-- Recomputes the serving tier; when it widens (rises, or appears), offers work to
every free judge of the new tier. -/
def updateMinTier : Nat → RegistryOp Unit
  | 0 => update fun r => { r with minTier := r.lowestTier }
  | fuel + 1 => do
    let r ← registry
    let old := r.minTier
    let new := r.lowestTier
    if old == new then pure ()
    else do
      update fun r => { r with minTier := new }
      if Registry.widens old new then
        let free := ((← registry).pool.filter (!·.isWorking)).map (·.id)
        free.forM fun i => handleFree i fuel

end

/-- Offers a request to judges until one takes it or none is available (rules 1–3);
each refusal drops a judge, so `fuel` counts the judges that may still refuse. -/
def dispatchLoop (req : Request) (tie : TieBreak) : Nat → RegistryOp Dispatch
  | 0 => do
    update fun r => { r with queue := (r.queue.push req).2 }
    pure .queued
  | fuel + 1 => do
    let r ← registry
    match Registry.pickLeast (tie 0) (r.eligible req) with
    | none => do
      update fun r => { r with queue := (r.queue.push req).2 }
      pure .queued
    | some j => do
      if ← submitTo j req then
        update (·.assign req.id j.id)
        pure (.assigned j.name)
      else do
        let _ ← remove j.id r.fuel
        dispatchLoop req (fun n => tie (n + 1)) fuel

/-- Dispatches a request, unless it is already waiting or being graded. -/
def dispatch (req : Request) (tie : TieBreak) : RegistryOp Dispatch := do
  let r ← registry
  if (r.assignedTo req.id).isSome || r.isQueued req.id then pure .duplicate
  else dispatchLoop req tie (r.judges.length + 1)

/-- Adds a judge, first dropping (with a forced disconnect) every judge of the same
name; returns its id and the submissions the dropped judges were grading. -/
def register (j : Judge) : RegistryOp (JudgeId × List SubmissionId) := do
  let stale := ((← registry).judges.filter (·.name == j.name)).map (·.id)
  let orphans ← stale.foldlM (fun acc id => do
    match (← registry).find? id with
    | some old => let _ ← send old.link (.disconnect true)
    | none => pure ()
    let orphan ← remove id (← registry).fuel
    pure (acc ++ orphan.toList)) []
  let id := (← registry).nextId
  update fun r => { r with judges := r.judges ++ [{ j with id := id }], nextId := id + 1 }
  updateMinTier (← registry).fuel
  handleFree id (← registry).fuel
  pure (id, orphans)

/-- Stops a submission: true when a judge was grading it (and was asked to abort),
false when it was only taken out of the queue or was unknown. -/
def abort (s : SubmissionId) : RegistryOp Bool := do
  let r ← registry
  match r.assignedTo s with
  | some id => do
    match r.find? id with
    | some j => let _ ← send j.link (.abort s)
    | none => pure ()
    pure true
  | none => do
    update fun r => { r with queue := (r.queue.remove s).2 }
    pure false

/-- Asks every judge of a name to leave. -/
def disconnect (name : String) (force : Bool) : RegistryOp Unit := do
  let targets := (← registry).judges.filter (·.name == name)
  targets.forM fun j => do let _ ← send j.link (.disconnect force)

/-- Asks every judge to leave. -/
def disconnectAll (force : Bool) : RegistryOp Unit := do
  (← registry).judges.forM fun j => do let _ ← send j.link (.disconnect force)

/-- Enables or disables every judge of a name; false when there is none. -/
def setDisabled (name : String) (disabled : Bool) : RegistryOp Bool := do
  let ids := ((← registry).judges.filter (·.name == name)).map (·.id)
  if ids.isEmpty then pure false
  else do
    update fun r => { r with judges := r.judges.map fun j =>
      if j.name == name then { j with disabled := disabled } else j }
    updateMinTier (← registry).fuel
    if !disabled then ids.forM fun id => do handleFree id (← registry).fuel
    pure true

/-- A judge finished, or gave up on, a submission. -/
def onJudgeFree (id : JudgeId) (s : SubmissionId) : RegistryOp Unit := do
  match (← registry).find? id with
  | none => pure ()
  | some j => do
    if j.working == some s then update (·.modifyJudge id fun j => { j with working := none })
    if (← registry).assignedTo s == some id then update (·.unassign s)
    handleFree id (← registry).fuel

/-- Replaces what a judge can grade, then offers it work. -/
def setProblems (id : JudgeId) (problems : List String) : RegistryOp Unit := do
  if ((← registry).find? id).isSome then
    update (·.modifyJudge id fun j => { j with problems := problems })
    handleFree id (← registry).fuel

/-- Replaces the languages a judge can run, then offers it work. -/
def setExecutors (id : JudgeId) (executors : List String) : RegistryOp Unit := do
  if ((← registry).find? id).isSome then
    update (·.modifyJudge id fun j => { j with executors := executors })
    handleFree id (← registry).fuel

/-- Records a judge's round trip and, when reported, its load. -/
def setPing (id : JudgeId) (load : Option Binary64) (ping : Binary64) : RegistryOp Unit :=
  update (·.modifyJudge id fun j =>
    { j with load := load.getD j.load, ping := some ping })

/-- Drops a judge whose connection ended (see `remove`). -/
def leave (id : JudgeId) : RegistryOp (Option SubmissionId) := do
  remove id (← registry).fuel

/-- Runs an operation: the new registry, the commands sent, and the result. -/
def exec (op : RegistryOp α) (links : Links) (r : Registry) : α × Registry × Outbox :=
  let (a, r', o) := (op.run links).run (r, [])
  (a, r', o)

end RegistryOp

end JudgeRelay
