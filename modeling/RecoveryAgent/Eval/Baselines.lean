import RecoveryAgent.Eval.Types

/-!
# The baselines

The cause-blind policies of `eval/baselines.py`; the scoreboard compares with the ladder.
-/

namespace RecoveryAgent.Eval

/-- Nothing is done. -/
def baselineB0 : PlanFn := fun _ => []

/-- One retry at once. -/
def baselineB1 : PlanFn := fun _ =>
  [{ verb := .scheduleRetry, dayOffset := 0, note := "b1_immediate_retry" }]

/-- The fixed ladder: three retries and one nag. -/
def baselineB2 : PlanFn := fun _ =>
  [{ verb := .scheduleRetry, dayOffset := 0, note := "b2_retry_0" },
    { verb := .genericNag, dayOffset := 1, note := "b2_nag" },
    { verb := .scheduleRetry, dayOffset := 2, note := "b2_retry_2" },
    { verb := .scheduleRetry, dayOffset := 5, note := "b2_retry_5" }]

theorem week_within_horizon : 7 ≤ 60 := by decide

/-- Many retries and many contacts. -/
def baselineB3 : PlanFn := fun _ =>
  [{ verb := .scheduleRetry, dayOffset := 0, note := "b3_retry_0" },
    { verb := .scheduleRetry, dayOffset := 1, note := "b3_retry_1" },
    { verb := .scheduleRetry, dayOffset := 2, note := "b3_retry_2" },
    { verb := .scheduleRetry, dayOffset := 3, note := "b3_retry_3" },
    { verb := .scheduleRetry, dayOffset := 5, note := "b3_retry_5" },
    { verb := .scheduleRetry, dayOffset := 8, note := "b3_retry_8" },
    { verb := .scheduleRetry, dayOffset := 13, note := "b3_retry_13" },
    { verb := .genericNag, dayOffset := 0, note := "b3_nag_0" },
    { verb := .genericNag, dayOffset := 3, note := "b3_nag_3" },
    { verb := .genericNag, dayOffset := 7, note := "b3_nag_7", withinHorizon := week_within_horizon },
    { verb := .sendPaymentLink, dayOffset := 10, note := "b3_link" }]

end RecoveryAgent.Eval
