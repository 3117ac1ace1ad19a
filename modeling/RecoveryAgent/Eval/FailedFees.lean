import RecoveryAgent.Eval.Outcomes

/-!
# The fee on failed attempts

The costing charges `attempt.psp_fee_on_failed_attempt` for every retry that was played. It
sees how many there were, not that the last of them may have gone through.
-/

namespace RecoveryAgent.Eval

open Config Library

/-- The part of the attempt cost that is priced at the fee, before rounding. -/
def feePart (costs : Costs) (case : SimCase) (executed : List PlannedAction) : ℚ :=
  (charges costs case executed).attemptCost -
    (charges { costs with pspFeeOnFailedAttempt := 0 } case executed).attemptCost

/-- It is the fee for every retry. -/
theorem feePart_eq (costs : Costs) (case : SimCase) (executed : List PlannedAction) :
    feePart costs case executed =
      costs.pspFeeOnFailedAttempt * executed.countP fun a => isRetryVerb a.verb := by
  have hcharged := charged_charges costs case executed
  have hfree := charged_charges { costs with pspFeeOnFailedAttempt := 0 } case executed
  rw [feePart, hcharged.attemptCost, hfree.attemptCost, hcharged.retryIndex, hfree.retryIndex]
  simp only [excessRetries, schemeCap]
  ring

section

variable {G : Type*} (random : G → ℚ × G) (g : G) (case : SimCase) (planFn : PlanFn)

/-- The retries that were played and did not go through. -/
def failedRetries : ℕ :=
  (Halting.trace (playAction random case) { rng := g } (chronological (planFn case))).countP
    fun played => isRetryVerb played.1.verb && !played.2

/-- A scheduled retry goes through, and nothing before it has recovered the case. -/
def RetryGoesThrough : Prop :=
  ∃ before action after, chronological (planFn case) = before ++ action :: after ∧
    isRetryVerb action.verb = true ∧ (playOut random case { rng := g } before).2 = false ∧
    (tryRetry random (playOut random case { rng := g } before).1.rng case action.dayOffset).1 = true

variable {random g case planFn}

/-- For a retry, recovering the case is going through. -/
theorem playAction_retry {p : Play G} {action : PlannedAction}
    (hretry : isRetryVerb action.verb = true) :
    (playAction random case p action).2 = (tryRetry random p.rng case action.dayOffset).1 := by
  unfold playAction
  rw [if_pos hretry]

/-- The retries of a plan that nothing halted have all failed. -/
theorem countP_failed (plan : List PlannedAction) :
    (plan.map fun action => (action, false)).countP
        (fun played => isRetryVerb played.1.verb && !played.2) =
      plan.countP fun a => isRetryVerb a.verb := by
  rw [List.countP_map]
  exact List.countP_congr fun action _ => by simp

/-- Of the retries that were played, the one that went through has not failed. -/
theorem retries_of_goesThrough (h : RetryGoesThrough random g case planFn) :
    (runCase random g case planFn).retries = failedRetries random g case planFn + 1 := by
  obtain ⟨before, action, after, hplan, hretry, hbefore, hok⟩ := h
  have htrace := Halting.trace_of_halted (playAction random case) after hbefore
    ((playAction_retry hretry).trans hok)
  rw [(runCase_counts random g case planFn).1, failedRetries, processed, reached_eq, hplan, htrace,
    List.countP_append, countP_failed, List.map_append, List.countP_append, List.map_map]
  simp [hretry, Function.comp_def]

/-- Otherwise all of them have failed. -/
theorem retries_of_not_goesThrough (h : ¬RetryGoesThrough random g case planFn) :
    (runCase random g case planFn).retries = failedRetries random g case planFn := by
  rw [(runCase_counts random g case planFn).1, failedRetries, processed, reached_eq]
  cases hhalted : (playOut random case { rng := g } (chronological (planFn case))).2 with
  | false =>
      rw [Halting.trace_of_not_halted _ hhalted, countP_failed, List.map_map]
      simp [Function.comp_def]
  | true =>
      obtain ⟨before, action, after, hplan, hbefore, haction⟩ := (Halting.halted_iff _).1 hhalted
      -- what recovered the case was not a retry
      have hcontact : isRetryVerb action.verb = false := by
        by_contra hretry
        rw [Bool.not_eq_false] at hretry
        exact h ⟨before, action, after, hplan, hretry, hbefore,
          (playAction_retry hretry).symm.trans haction⟩
      rw [hplan, Halting.trace_of_halted _ after hbefore haction, List.countP_append,
        countP_failed, List.map_append, List.countP_append, List.map_map]
      simp [hcontact, Function.comp_def]

variable (random g case planFn)

/-- The fee is charged on failed attempts only, exactly when there is no fee or no retry goes
through. -/
theorem fee_on_failed_attempts_iff (costs : Costs) :
    feePart costs case (executedActions case (runCase random g case planFn) planFn) =
        costs.pspFeeOnFailedAttempt * failedRetries random g case planFn ↔
      costs.pspFeeOnFailedAttempt = 0 ∨ ¬RetryGoesThrough random g case planFn := by
  have hpart := feePart_eq costs case (executedActions case (runCase random g case planFn) planFn)
  rw [(priced_as_played random g case planFn).2.1] at hpart
  rw [hpart]
  by_cases hthrough : RetryGoesThrough random g case planFn
  · rw [retries_of_goesThrough hthrough, Nat.cast_add, Nat.cast_one, mul_add, mul_one,
      add_eq_left]
    exact ⟨Or.inl, fun h => h.resolve_right (not_not.2 hthrough)⟩
  · rw [retries_of_not_goesThrough hthrough]
    exact iff_of_true rfl (Or.inr hthrough)

end

/-- A timeout on a valid instrument. -/
def timeoutCase : SimCase where
  visible :=
    { caseKey := "sim_42_0001"
      payerRef := "payer_42_0001"
      amountPaise := 49900
      rail := "card"
      failureReason := .gatewayTimeout }
  hidden :=
    { instrumentValid := true
      trueCreditDay := 1
      naturalRecoveryProb := 18 / 100
      baseContactResponseProb := 12 / 100
      retrySuccessIfFunded := 86 / 100 }
  failureDom := 15

/-- A provider that charges for attempts. -/
def feeCosts : Costs := { shippedCosts with pspFeeOnFailedAttempt := 3 }

def retryNextWeek : PlanFn := fun _ => [{ verb := .scheduleRetry, dayOffset := 7 }]

/-- The first retry goes through and pays the fee. -/
theorem fee_on_a_successful_attempt :
    (runCase (fun g : Unit => (0, g)) () timeoutCase retryNextWeek).recovered = true ∧
      failedRetries (fun g : Unit => (0, g)) () timeoutCase retryNextWeek = 0 ∧
      feePart feeCosts timeoutCase (executedActions timeoutCase
        (runCase (fun g : Unit => (0, g)) () timeoutCase retryNextWeek) retryNextWeek) ≠
          feeCosts.pspFeeOnFailedAttempt *
            failedRetries (fun g : Unit => (0, g)) () timeoutCase retryNextWeek := by
  refine ⟨?_, ?_, ?_⟩ <;> decide +kernel

end RecoveryAgent.Eval
