import JudgeRelay.Store.Memory
import JudgeRelay.Number.Parse

/-!
# A store kept in Redis

The relay's persistent store keeps the state of submissions in a Redis server:

* `bridge:submission:<id>`, a hash per submission: its `status` code, the judge grading it,
  or the error it ended with;
* `bridge:submissions:active`, the set of the ids still queued or being graded;
* every submission update is also published, as JSON, on the channel
  `bridge:submission-events`.

Each call sends the server a list of commands. A submission update that carries a status
writes it and adds the id to the active set, or takes it out when the update ends the
grading; then it writes the update's own field, if it has one, and publishes the update. A
sweep reads the active set, marks every submission in it `IE` with an empty error, and
deletes the set; its writes go in one transaction.

The server is not part of this library. `RedisServer` is what the store needs of one: the
state a command leaves, and what `SMEMBERS` and `HGET` read.
-/

namespace JudgeRelay

/-- A command to a Redis server, of those the store sends. -/
inductive RedisCommand where
  /-- `SADD key member` -/
  | sadd (key member : String)
  /-- `SREM key member` -/
  | srem (key member : String)
  /-- `DEL key` -/
  | del (key : String)
  /-- `HSET key field value …`, also sent as `HMSET`: sets the fields in order. -/
  | hset (key : String) (fields : List (String × String))
  /-- `PUBLISH channel message` -/
  | publish (channel message : String)
  deriving DecidableEq, Repr

namespace RedisCommand

/-- The message a command publishes, with its channel. -/
def published? : RedisCommand → Option (String × String)
  | .publish channel message => some (channel, message)
  | _ => none

end RedisCommand

/-- The calls of the store that concern submissions. -/
inductive SubmissionCall where
  | update (id : SubmissionId) (u : SubmissionUpdate)
  | sweep
  deriving Repr

namespace SubmissionCall

/-- The call as the relay makes it of any store. -/
def toStoreCall : SubmissionCall → StoreCall
  | .update id u => .submissionUpdate id u
  | .sweep => .sweep

/-- The submission update a call records, if it is one. -/
def updates : SubmissionCall → List (SubmissionId × SubmissionUpdate)
  | .update id u => [(id, u)]
  | .sweep => []

end SubmissionCall

/-- A Redis server as the store uses it, with states of type `σ`. -/
structure RedisServer (σ : Type) where
  /-- The state a command leaves. -/
  run : σ → RedisCommand → σ
  /-- The members of the set at a key (`SMEMBERS`). -/
  members : σ → String → List String
  /-- A field of the hash at a key (`HGET`). -/
  field : σ → String → String → Option String

namespace RedisStore

/-- The hash of a submission. -/
def submissionKey (id : SubmissionId) : String := "bridge:submission:" ++ toString id

/-- The set of submissions still queued or being graded. -/
def activeKey : String := "bridge:submissions:active"

/-- The channel submission updates are published on. -/
def eventChannel : String := "bridge:submission-events"

/-- The published form of an update: the submission's id, then the update's own members. -/
def event (id : SubmissionId) (u : SubmissionUpdate) : String :=
  (Json.Value.obj (("submission-id", .int id) :: u.members)).render

/-- The field an update writes besides its status. -/
def ownField : SubmissionUpdate → Option (String × String)
  | .processing judge => some ("judge", judge)
  | .compileError log => some ("error", log)
  | .internalError message => some ("error", message)
  | _ => none

/-- The commands of a submission update, in the order they are sent. -/
def updateCommands (id : SubmissionId) (u : SubmissionUpdate) : List RedisCommand :=
  (match u.status with
    | some code =>
      [.hset (submissionKey id) [("status", code)],
        if u.isFinal then .srem activeKey (toString id) else .sadd activeKey (toString id)]
    | none => []) ++
  (ownField u).toList.map (fun f => .hset (submissionKey id) [f]) ++
  [.publish eventChannel (event id u)]

/-- The writes of a sweep over the given submissions. -/
def sweepCommands (ids : List SubmissionId) : List RedisCommand :=
  ids.map (fun id => .hset (submissionKey id) [("status", "IE"), ("error", "")]) ++ [.del activeKey]

variable {σ : Type} (srv : RedisServer σ)

/-- Sends commands in turn. -/
def send (s : σ) (cmds : List RedisCommand) : σ := cmds.foldl srv.run s

/-- Records a submission update: the state it leaves and the commands sent. -/
def submissionUpdate (s : σ) (id : SubmissionId) (u : SubmissionUpdate) : σ × List RedisCommand :=
  (send srv s (updateCommands id u), updateCommands id u)

/-- Fails the submissions left in progress: how many there were, the state left and the
commands sent; nothing when a member of the active set is not a submission id. -/
def sweep (s : σ) : Option (Nat × σ × List RedisCommand) := do
  let ids ← (srv.members s activeKey).mapM NumberText.parseI64
  pure (ids.length, send srv s (sweepCommands ids), sweepCommands ids)

/-- Answers a call: the reply, the state left and the commands sent; nothing when the sweep
cannot read the active set. -/
def call (s : σ) : SubmissionCall → Option (StoreReply × σ × List RedisCommand)
  | .update id u =>
    let (s, cmds) := submissionUpdate srv s id u
    some (.done, s, cmds)
  | .sweep => (sweep srv s).map fun (n, s, cmds) => (.swept n, s, cmds)

/-- Answers calls in turn: the replies, the state left and every command sent, in order. -/
def callAll (s : σ) : List SubmissionCall → Option (List StoreReply × σ × List RedisCommand)
  | [] => some ([], s, [])
  | c :: cs => do
    let (r, s, cmds) ← call srv s c
    let (rs, s, more) ← callAll s cs
    pure (r :: rs, s, cmds ++ more)

end RedisStore

end JudgeRelay
