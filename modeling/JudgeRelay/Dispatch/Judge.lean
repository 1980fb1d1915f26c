import JudgeRelay.Dispatch.Request
import JudgeRelay.Number.Binary64

/-!
# Judges and their commands

A judge, as the registry sees it: a name (not unique over time, since a judge may
reconnect), the registry's own id for this connection, a tier (lower tiers are
served first), what it can grade, and how busy it is. Commands reach the judge's
connection through its link; a link whose connection has gone refuses them.
-/

namespace JudgeRelay

/-- The registry's id of one judge connection; ids are never reused. -/
abbrev JudgeId := Nat

/-- The id of a link: the channel through which commands reach one connection. -/
abbrev LinkId := Nat

/-- What the registry asks of a judge's connection. -/
inductive Command where
  /-- Grade this submission. -/
  | submit (r : Request)
  /-- Stop grading this submission. -/
  | abort (id : SubmissionId)
  /-- Leave: at once when `force`, else once current work is done. -/
  | disconnect (force : Bool)
  deriving DecidableEq, Repr

/-- A registered judge. -/
structure Judge where
  id : JudgeId
  name : String
  tier : Nat
  /-- Problem codes it can grade. -/
  problems : List String
  /-- Language keys it can run. -/
  executors : List String
  /-- Its last reported load. -/
  load : Binary64
  /-- Its last measured round trip in seconds, once measured. -/
  ping : Option Binary64
  disabled : Bool
  /-- The submission it was last given and has not finished. -/
  working : Option SubmissionId
  link : LinkId
  deriving Repr

namespace Judge

/-- A fresh judge: not yet registered (id 0), idle, load zero. -/
def fresh (name : String) (tier : Nat) (problems executors : List String) (disabled : Bool)
    (link : LinkId) : Judge :=
  ⟨0, name, tier, problems, executors, Binary64.zero, none, disabled, none, link⟩

/-- Whether the judge may grade `problem` in `language`, honouring a request for one
named judge. -/
def canJudge (j : Judge) (problem language : String) (only : Option String) : Bool :=
  j.problems.contains problem && j.executors.contains language &&
    (match only with
     | some name => name == j.name
     | none => true)

/-- Whether the judge may grade a request. -/
def accepts (j : Judge) (r : Request) : Bool := j.canJudge r.problem r.language r.judgeName

/-- Grading something. -/
def isWorking (j : Judge) : Bool := j.working.isSome

/-- Enabled and not grading. -/
def isAvailable (j : Judge) : Bool := !j.disabled && j.working.isNone

end Judge

end JudgeRelay
