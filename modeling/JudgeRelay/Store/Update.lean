import JudgeRelay.Json.Write
import JudgeRelay.Dispatch.Request
import JudgeRelay.Limits

/-!
# What the relay tells the store

The store is where the web side reads judge and submission state. The relay writes to
it best-effort: when a judge comes online or goes offline, when it answers a ping,
and at every change in a submission's grading. It also asks the store for the limits
of a problem.

A submission update may set the submission's status code (`QU` queued, `P`
processing, `G` grading, `CE`, `IE`, `AB`, `D` for the endings) and, when it ends the
grading, takes the submission out of the set of those in progress.
-/

namespace JudgeRelay

open Json

/-- A change in a submission's grading. -/
inductive SubmissionUpdate where
  | queued
  | processing (judge : String)
  | acknowledged
  | gradingBegin (pretested : Bool)
  | batchBegin (batch : Option Nat)
  | batchEnd (batch : Option Nat)
  | testCase (position : Nat) (batch : Option Nat) (details : List (String × Value))
  | compileMessage (log : String)
  | compileError (log : String)
  | internalError (message : String)
  | aborted
  | gradingEnd
  deriving Repr

namespace SubmissionUpdate

/-- The status code the update sets, if it sets one. -/
def status : SubmissionUpdate → Option String
  | .queued => some "QU"
  | .processing _ => some "P"
  | .gradingBegin _ => some "G"
  | .compileError _ => some "CE"
  | .internalError _ => some "IE"
  | .aborted => some "AB"
  | .gradingEnd => some "D"
  | _ => none

/-- Whether the update ends the submission's grading. -/
def isFinal : SubmissionUpdate → Bool
  | .compileError _ | .internalError _ | .aborted | .gradingEnd => true
  | _ => false

/-- The update's tag and fields, in the order they are written. -/
def members : SubmissionUpdate → List (String × Value)
  | .queued => [("state", .str "queued")]
  | .processing judge => [("state", .str "processing"), ("judge", .str judge)]
  | .acknowledged => [("state", .str "acknowledged")]
  | .gradingBegin p => [("state", .str "grading-begin"), ("pretested", .bool p)]
  | .batchBegin b => [("state", .str "batch-begin"), ("batch", .ofOption .nat b)]
  | .batchEnd b => [("state", .str "batch-end"), ("batch", .ofOption .nat b)]
  | .testCase pos b details =>
    [("state", .str "test-case"), ("position", .nat pos), ("batch", .ofOption .nat b),
      ("details", .obj details)]
  | .compileMessage log => [("state", .str "compile-message"), ("log", .str log)]
  | .compileError log => [("state", .str "compile-error"), ("log", .str log)]
  | .internalError m => [("state", .str "internal-error"), ("message", .str m)]
  | .aborted => [("state", .str "aborted")]
  | .gradingEnd => [("state", .str "grading-end")]

/-- The update as a JSON record tagged by `state`. -/
def toJson (u : SubmissionUpdate) : Value := .obj u.members

end SubmissionUpdate

/-- What is recorded about a judge when its handshake succeeds. -/
structure Arrival where
  name : String
  tier : Nat
  /-- The judge's address as the relay sees it. -/
  address : String
  /-- The relay-side address the judge dialed, when a proxy reported it. -/
  localAddress : Option String
  /-- How many problems the judge announced. -/
  problems : Nat
  executors : List String
  deriving Repr

/-- A request to the store. -/
inductive StoreCall where
  /-- Mark every known judge offline, with no ping or load. -/
  | resetJudges
  /-- Fail the submissions a previous run left in progress; answers how many. -/
  | sweep
  | judgeOnline (a : Arrival)
  | judgeOffline (name : String)
  | judgePing (name : String) (ping : Binary64) (load : Option Binary64)
  /-- The limits of a problem for a language. -/
  | problemLimits (problem language : String)
  | submissionUpdate (id : SubmissionId) (u : SubmissionUpdate)
  deriving Repr

/-- What the store answers. -/
inductive StoreReply where
  | done
  | swept (count : Nat)
  | limits (l : Limits)
  deriving Repr

end JudgeRelay
