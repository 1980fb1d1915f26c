/-!
# Submission requests and priority bands

A request asks for one submission to be graded. Its priority names a band: band 0
is for contests, band 1 the default, and bands 2 and 3 are rejudges and batch
rejudges, which a judge may be held back from (see `Registry.handleFree`).
-/

namespace JudgeRelay

/-- A submission's identifier, chosen by whoever submits it (a signed 64-bit integer). -/
abbrev SubmissionId := Int

/-- One submission waiting for, or handed to, a judge. -/
structure Request where
  id : SubmissionId
  /-- The problem's code. -/
  problem : String
  /-- The language key of the source. -/
  language : String
  source : String
  /-- When set, only the judge of this name may grade the submission. -/
  judgeName : Option String
  /-- The priority band; bands past the last one count as the last. -/
  priority : Nat
  deriving DecidableEq, Repr, Inhabited

namespace Priority

/-- Contest submissions. -/
def contest : Nat := 0
/-- The band of a request that names none. -/
def default : Nat := 1
/-- Rejudges: from this band on, work may be withheld to keep a judge free. -/
def rejudge : Nat := 2
/-- Batch rejudges. -/
def batchRejudge : Nat := 3
/-- The number of bands. -/
def bands : Nat := 4

/-- The band a priority from the wire names, if it is one of the `bands` bands. -/
def check (p : Int) : Option Nat :=
  if 0 ≤ p ∧ p < bands then some p.toNat else none

end Priority

end JudgeRelay
