import JudgeRelay.Json.Record
import JudgeRelay.Json.Write
import JudgeRelay.Dispatch.Request
import JudgeRelay.Limits

/-!
# Judge packets

A judge sends a handshake first, then answers pings, announces changes to its
problems and languages, and reports on the submission it grades. The events about a
submission carry its id; four of them end the judge's work on it. Test-case reports
keep every member the relay does not know, to pass them on untouched.

The relay sends a judge the handshake's confirmation, pings stamped with its clock,
submissions with their limits, requests to stop a submission, and the request to
leave once the current work is done.
-/

namespace JudgeRelay

open Json

/-- A packet sent by a judge. -/
inductive JudgePacket where
  /-- The judge introduces itself: its name, key, problems, languages, and a tier
  that overrides the configured one. -/
  | handshake (name key : String) (problems executors : List String) (tier : Option Nat)
  /-- The answer to a ping: the echoed stamp, the judge's clock, its load. -/
  | pingResponse (sent : Binary64) (time load : Option Binary64)
  /-- The problems the judge has on disk. -/
  | problemUpdate (problems : List String)
  /-- The languages the judge can run. -/
  | executorUpdate (executors : List String)
  /-- The judge took the submission. -/
  | acknowledged (id : SubmissionId)
  /-- Grading started. -/
  | gradingBegin (id : SubmissionId) (pretested : Bool)
  /-- A batch of test cases started. -/
  | batchBegin (id : SubmissionId) (batch : Option Nat)
  /-- A batch of test cases ended. -/
  | batchEnd (id : SubmissionId) (batch : Option Nat)
  /-- One test case was run; `details` holds the members passed on untouched. -/
  | testCase (id : SubmissionId) (position : Nat) (batch : Option Nat)
      (details : List (String × Value))
  /-- The submission did not compile. -/
  | compileError (id : SubmissionId) (log : String)
  /-- The compiler had something to say. -/
  | compileMessage (id : SubmissionId) (log : String)
  /-- The judge failed on the submission. -/
  | internalError (id : SubmissionId) (message : String)
  /-- The submission was stopped. -/
  | aborted (id : SubmissionId)
  /-- Grading finished. -/
  | gradingEnd (id : SubmissionId)
  deriving Repr

namespace JudgePacket

/-- The tags of judge packets, in the order problems list them. -/
def tags : List String :=
  ["handshake", "ping-response", "problem-update", "executor-update", "acknowledged",
    "grading-begin", "batch-begin", "batch-end", "test-case", "compile-error",
    "compile-message", "internal-error", "aborted", "grading-end"]

/-- The tag of a packet. -/
def kind : JudgePacket → String
  | .handshake .. => "handshake"
  | .pingResponse .. => "ping-response"
  | .problemUpdate _ => "problem-update"
  | .executorUpdate _ => "executor-update"
  | .acknowledged _ => "acknowledged"
  | .gradingBegin .. => "grading-begin"
  | .batchBegin .. => "batch-begin"
  | .batchEnd .. => "batch-end"
  | .testCase .. => "test-case"
  | .compileError .. => "compile-error"
  | .compileMessage .. => "compile-message"
  | .internalError .. => "internal-error"
  | .aborted _ => "aborted"
  | .gradingEnd _ => "grading-end"

/-- The submission a grading event is about; none for the other packets. -/
def submissionId? : JudgePacket → Option SubmissionId
  | .acknowledged id | .gradingBegin id _ | .batchBegin id _ | .batchEnd id _
  | .testCase id .. | .compileError id _ | .compileMessage id _ | .internalError id _
  | .aborted id | .gradingEnd id => some id
  | .handshake .. | .pingResponse .. | .problemUpdate _ | .executorUpdate _ => none

/-- Whether the event ends the judge's work on its submission. -/
def isTerminal : JudgePacket → Bool
  | .gradingEnd _ | .compileError .. | .internalError .. | .aborted _ => true
  | _ => false

/-- Members of a handshake. -/
def handshakeFields : Fields :=
  ⟨"Handshake", [required "id" asString, required "key" asString, optional "problems" asStrings,
    optional "executors" asStrings, optional "tier" (asOption asU32)]⟩

/-- Members of a ping answer. -/
def pingFields : Fields :=
  ⟨"PingResponse", [required "when" asF64, optional "time" (asOption asF64),
    optional "load" (asOption asF64)]⟩

/-- Members of an event naming only its submission. -/
def refFields : Fields := ⟨"SubmissionRef", [required "submission-id" asI64]⟩

/-- Members of a batch event. -/
def batchFields : Fields :=
  ⟨"BatchRef", [required "submission-id" asI64, optional "batch" (asOption asU32)]⟩

/-- The members of a test-case report that the relay reads itself. -/
def testCaseFields : Fields :=
  ⟨"TestCase", [required "submission-id" asI64, required "position" asU32,
    optional "batch" (asOption asU32)]⟩

/-- Members of a compiler report. -/
def logFields : Fields :=
  ⟨"CompileLog", [required "submission-id" asI64, optional "log" asString]⟩

/-- Builds a packet of the given tag from its content. -/
def ofContent (tag : String) (c : Content) : Except String JudgePacket :=
  match tag with
  | "handshake" => do
    let f ← handshakeFields.decode c
    pure (.handshake (← f.get "id" asString) (← f.get "key" asString)
      (← f.getD "problems" asStrings []) (← f.getD "executors" asStrings [])
      (← f.getD "tier" (asOption asU32) none))
  | "ping-response" => do
    let f ← pingFields.decode c
    pure (.pingResponse (← f.get "when" asF64) (← f.getD "time" (asOption asF64) none)
      (← f.getD "load" (asOption asF64) none))
  | "problem-update" => do
    let f ← (⟨"ProblemUpdate", [required "problems" asStrings]⟩ : Fields).decode c
    pure (.problemUpdate (← f.get "problems" asStrings))
  | "executor-update" => do
    let f ← (⟨"ExecutorUpdate", [required "executors" asStrings]⟩ : Fields).decode c
    pure (.executorUpdate (← f.get "executors" asStrings))
  | "grading-begin" => do
    let f ← (⟨"GradingBegin", [required "submission-id" asI64, optional "pretested" asBool]⟩
      : Fields).decode c
    pure (.gradingBegin (← f.get "submission-id" asI64) (← f.getD "pretested" asBool false))
  | "batch-begin" => do
    let f ← batchFields.decode c
    pure (.batchBegin (← f.get "submission-id" asI64) (← f.getD "batch" (asOption asU32) none))
  | "batch-end" => do
    let f ← batchFields.decode c
    pure (.batchEnd (← f.get "submission-id" asI64) (← f.getD "batch" (asOption asU32) none))
  | "test-case" =>
    match c with
    | .elements _ => .error (invalidType (.arr []) "struct TestCase")
    | .members fields => do
      let f ← testCaseFields.decode c
      let known := testCaseFields.specs.map (·.key)
      let details := Value.canonicalFields
        ((fields.filter fun kv => !known.contains kv.1).map fun (k, v) => (k, v.canonical))
      pure (.testCase (← f.get "submission-id" asI64) (← f.get "position" asU32)
        (← f.getD "batch" (asOption asU32) none) details)
  | "compile-error" => do
    let f ← logFields.decode c
    pure (.compileError (← f.get "submission-id" asI64) (← f.getD "log" asString ""))
  | "compile-message" => do
    let f ← logFields.decode c
    pure (.compileMessage (← f.get "submission-id" asI64) (← f.getD "log" asString ""))
  | "internal-error" => do
    let f ← (⟨"InternalError", [required "submission-id" asI64, optional "message" asString]⟩
      : Fields).decode c
    pure (.internalError (← f.get "submission-id" asI64) (← f.getD "message" asString ""))
  | "acknowledged" => do
    let f ← refFields.decode c
    pure (.acknowledged (← f.get "submission-id" asI64))
  | "aborted" => do
    let f ← refFields.decode c
    pure (.aborted (← f.get "submission-id" asI64))
  | _ => do
    let f ← refFields.decode c
    pure (.gradingEnd (← f.get "submission-id" asI64))

/-- Reads a judge packet from a payload. -/
def parse (src : ByteArray) : Except ReadError JudgePacket :=
  parseTagged src "name" tags "internally tagged enum JudgePacket" ofContent

end JudgePacket

/-- A packet the relay sends to a judge. -/
inductive RelayPacket where
  /-- The handshake was accepted. -/
  | handshakeSuccess
  /-- A ping stamped with the relay's clock, in seconds. -/
  | ping (sent : Binary64)
  /-- A submission to grade, with the limits of its problem. -/
  | submission (id : SubmissionId) (problem language source : String) (limits : Limits)
  /-- Stop grading a submission. -/
  | terminate (id : SubmissionId)
  /-- Leave once the current submission is done. -/
  | disconnect

namespace RelayPacket

/-- The packet as a JSON record. -/
def toJson : RelayPacket → Value
  | .handshakeSuccess => .obj [("name", .str "handshake-success")]
  | .ping sent => .obj [("name", .str "ping"), ("when", .float sent)]
  | .submission id problem language source limits =>
    .obj [("name", .str "submission-request"), ("submission-id", .int id),
      ("problem-id", .str problem), ("language", .str language), ("source", .str source),
      ("time-limit", .float limits.timeLimit), ("memory-limit", .nat limits.memoryLimit),
      ("short-circuit", .bool limits.shortCircuit)]
  | .terminate id => .obj [("name", .str "terminate-submission"), ("submission-id", .int id)]
  | .disconnect => .obj [("name", .str "disconnect")]

end RelayPacket

end JudgeRelay
