import JudgeRelay.Json.Record
import JudgeRelay.Json.Write
import JudgeRelay.Dispatch.Request

/-!
# Control packets

A control client sends one request and gets one reply. Requests are records tagged by
their member `name`: a submission to grade, a submission to stop, a judge to
disconnect, a judge to disable or enable. The priority of a submission is read as any
64-bit integer here and checked against the priority bands later, so that a bad one
gets a `bad-request` reply rather than a reading error.
-/

namespace JudgeRelay

open Json

/-- A request received on the control listener. -/
inductive ControlRequest where
  /-- Grade a submission, on the named judge if one is given. -/
  | submit (id : SubmissionId) (problem language source : String) (judgeName : Option String)
      (priority : Int)
  /-- Stop a running or queued submission. -/
  | terminate (id : SubmissionId)
  /-- Close every connection of a judge. -/
  | disconnectJudge (name : String) (force : Bool)
  /-- Set whether a judge may receive new work. -/
  | disableJudge (name : String) (disabled : Bool)
  deriving Repr

namespace ControlRequest

/-- The tags of control requests, in the order problems list them. -/
def tags : List String :=
  ["submission-request", "terminate-submission", "disconnect-judge", "disable-judge"]

/-- The priority a submission gets when the request names none. -/
def defaultPriority : Int := Priority.default

/-- Members of a submission request. -/
def submitFields : Fields :=
  ⟨"SubmissionRequestPacket", [required "submission-id" asI64, required "problem-id" asString,
    required "language" asString, required "source" asString,
    optional "judge-id" (asOption asString), optional "priority" asI64]⟩

/-- Members of a termination request. -/
def terminateFields : Fields := ⟨"TerminateSubmissionPacket", [required "submission-id" asI64]⟩

/-- Members of a disconnection request. -/
def disconnectFields : Fields :=
  ⟨"DisconnectJudgePacket", [required "judge-id" asString, optional "force" asBool]⟩

/-- Members of a disable request. -/
def disableFields : Fields :=
  ⟨"DisableJudgePacket", [required "judge-id" asString, required "is-disabled" asBool]⟩

/-- Builds a request of the given tag from its content. -/
def ofContent (tag : String) (c : Content) : Except String ControlRequest :=
  match tag with
  | "submission-request" => do
    let f ← submitFields.decode c
    pure (.submit (← f.get "submission-id" asI64) (← f.get "problem-id" asString)
      (← f.get "language" asString) (← f.get "source" asString)
      (← f.getD "judge-id" (asOption asString) none) (← f.getD "priority" asI64 defaultPriority))
  | "terminate-submission" => do
    let f ← terminateFields.decode c
    pure (.terminate (← f.get "submission-id" asI64))
  | "disconnect-judge" => do
    let f ← disconnectFields.decode c
    pure (.disconnectJudge (← f.get "judge-id" asString) (← f.getD "force" asBool false))
  | _ => do
    let f ← disableFields.decode c
    pure (.disableJudge (← f.get "judge-id" asString) (← f.get "is-disabled" asBool))

/-- Reads a control request from a payload. -/
def parse (src : ByteArray) : Except ReadError ControlRequest :=
  parseTagged src "name" tags "internally tagged enum ControlRequest" ofContent

end ControlRequest

/-- The reply sent before a control connection closes. -/
inductive ControlReply where
  /-- A submission request was taken. -/
  | received (id : SubmissionId)
  /-- A termination request was handled; whether a judge was told to abort. -/
  | terminated (judgeAborted : Bool)
  /-- A disconnection request was handled. -/
  | judgeDisconnected
  /-- A disable request was handled. -/
  | judgeDisableUpdated
  /-- The request could not be read or was refused. -/
  | badRequest
  deriving Repr, DecidableEq

namespace ControlReply

/-- The reply as a JSON record. -/
def toJson : ControlReply → Value
  | .received id => .obj [("name", .str "submission-received"), ("submission-id", .int id)]
  | .terminated a => .obj [("name", .str "submission-received"), ("judge-aborted", .bool a)]
  | .judgeDisconnected => .obj [("name", .str "judge-disconnected")]
  | .judgeDisableUpdated => .obj [("name", .str "judge-disable-updated")]
  | .badRequest => .obj [("name", .str "bad-request")]

end ControlReply

end JudgeRelay
