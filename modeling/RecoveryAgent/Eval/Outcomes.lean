import RecoveryAgent.Eval.Metrics
import RecoveryAgent.Eval.Played
import RecoveryAgent.Library.Halting

/-!
# What an outcome can be

The loop of `run_case` halts at the first action that recovers the case. A dead
instrument is never recovered by a retry, and a batch never recovers more than is at risk.
-/

namespace RecoveryAgent.Eval

open Python Config Library

section

variable {G : Type*} (random : G → ℚ × G)

/-!
## The loop halts at the recovery
-/

/-- The variables when the loop ends, and whether an action recovered the case. -/
def playOut (case : SimCase) (p : Play G) (actions : List PlannedAction) : Play G × Bool :=
  Halting.run (playAction random case) p actions

theorem playActions_eq (case : SimCase) (p : Play G) (actions : List PlannedAction) :
    playActions random case p actions =
      playedOutcome case (playOut random case p actions).1 (playOut random case p actions).2 := by
  induction actions generalizing p with
  | nil => rfl
  | cons action rest ih =>
      unfold playOut Halting.run playActions
      simp only
      split
      · rfl
      · exact ih _

theorem reached_eq (case : SimCase) (p : Play G) (actions : List PlannedAction) :
    reached random case p actions =
      (Halting.trace (playAction random case) p actions).map Prod.fst := by
  induction actions generalizing p with
  | nil => rfl
  | cons action rest ih =>
      unfold Halting.trace reached
      simp only
      split
      · rfl
      · rw [List.map_cons, ih]

theorem runCase_of_plan (g : G) {case : SimCase} {planFn : PlanFn} (hplan : planFn case ≠ []) :
    runCase random g case planFn =
      playedOutcome case (playOut random case { rng := g } (chronological (planFn case))).1
        (playOut random case { rng := g } (chronological (planFn case))).2 := by
  have hne : chronological (planFn case) ≠ [] := by
    intro hnil
    have hlength := List.length_insertionSort (fun a b : PlannedAction => a.dayOffset ≤ b.dayOffset)
      (planFn case)
    rw [chronological] at hnil
    rw [hnil] at hlength
    exact hplan (List.length_eq_zero_iff.1 hlength.symm)
  rw [← playActions_eq]
  unfold runCase
  cases hsorted : chronological (planFn case) with
  | nil => exact absurd hsorted hne
  | cons action rest => rfl

/-- The outcome of a case without a plan. -/
theorem runCase_of_nil (g : G) {case : SimCase} {planFn : PlanFn} (hplan : planFn case = []) :
    ∃ note, runCase random g case planFn =
      { caseKey := case.visible.caseKey
        recovered := (tryNaturalRecovery random g case).1
        recoveredPaise :=
          if (tryNaturalRecovery random g case).1 then case.visible.amountPaise else 0
        contacts := 0
        retries := 0
        natural := (tryNaturalRecovery random g case).1
        notes := [note] } := by
  unfold runCase
  rw [hplan]
  exact ⟨_, rfl⟩

/-!
## One round
-/

/-- Attempts are wasted on dead instruments only. -/
theorem playAction_wasted {case : SimCase} {p : Play G} (action : PlannedAction)
    (h : p.wastedAttempts =
      if recoveryClassFor case.visible.failureReason = .customerAction then p.retries else 0) :
    (playAction random case p action).1.wastedAttempts =
      if recoveryClassFor case.visible.failureReason = .customerAction then
        (playAction random case p action).1.retries else 0 := by
  unfold playAction
  by_cases hretry : isRetryVerb action.verb = true
  · rw [if_pos hretry]
    simp only
    rw [h]
    split
    · rfl
    · rfl
  · rw [if_neg hretry]
    split
    · exact h
    · exact h

/-- A dead instrument is not recovered by a retry, and a noop recovers nothing. -/
theorem contact_of_recovered {case : SimCase} {p : Play G} {action : PlannedAction}
    (hclass : recoveryClassFor case.visible.failureReason = .customerAction)
    (h : (playAction random case p action).2 = true) : isContactVerb action.verb = true := by
  unfold playAction tryRetry at h
  rw [if_pos hclass] at h
  rcases verb_cases action.verb with ⟨hretry, -⟩ | ⟨-, hcontact, -⟩ | ⟨hretry, hcontact, -⟩
  · rw [if_pos hretry] at h
    cases h
  · exact hcontact
  · rw [if_neg (by simp [hretry]), if_neg (by simp [hcontact])] at h
    cases h

/-!
## One case
-/

/-- No more is processed than was planned. -/
theorem countP_processed_le (g : G) (case : SimCase) (planFn : PlanFn) (p : PlannedAction → Bool) :
    (processed random g case planFn).countP p ≤ (planFn case).countP p := by
  have hsorted : (chronological (planFn case)).countP p = (planFn case).countP p :=
    (List.perm_insertionSort _ _).countP_eq p
  rw [← hsorted]
  have hprefix := reached_prefix random case { rng := g } (chronological (planFn case))
  exact hprefix.sublist.countP_le

/-- What recovers a case by an action is the last one that is processed. -/
theorem getLast?_processed {g : G} {case : SimCase} {planFn : PlanFn}
    (h : (playOut random case { rng := g } (chronological (planFn case))).2 = true) :
    ∃ p action, (processed random g case planFn).getLast? = some action ∧
      (playAction random case p action).2 = true := by
  obtain ⟨before, action, after, hplan, hbefore, haction⟩ := (Halting.halted_iff _).1 h
  refine ⟨_, action, ?_, haction⟩
  rw [processed, reached_eq, hplan, Halting.trace_of_halted _ after hbefore haction,
    List.map_append, List.map_singleton, List.getLast?_concat]

/-- What holds of the outcome of a case. -/
structure OutcomeOf (g : G) (case : SimCase) (planFn : PlanFn) (outcome : CaseOutcome) : Prop where
  recoveredPaise : outcome.recoveredPaise =
    if outcome.recovered then case.visible.amountPaise else 0
  retries : outcome.retries ≤ (planFn case).countP fun a => isRetryVerb a.verb
  contacts : outcome.contacts ≤ (planFn case).countP fun a => isContactVerb a.verb
  wastedAttempts : outcome.wastedAttempts =
    if recoveryClassFor case.visible.failureReason = .customerAction then outcome.retries else 0
  deadInstrument : recoveryClassFor case.visible.failureReason = .customerAction →
    outcome.recovered = true → (outcome.natural = true ∧ planFn case = []) ∨
      ∃ action, (processed random g case planFn).getLast? = some action ∧
        isContactVerb action.verb = true
  natural : outcome.natural = true → planFn case = []

theorem outcomeOf_runCase (g : G) (case : SimCase) (planFn : PlanFn) :
    OutcomeOf random g case planFn (runCase random g case planFn) := by
  obtain ⟨hretries, hcontacts⟩ := runCase_counts random g case planFn
  have hcounts := countP_processed_le random g case planFn
  by_cases hplan : planFn case = []
  · obtain ⟨note, hrun⟩ := runCase_of_nil random g hplan
    refine ⟨?_, hretries ▸ hcounts _, hcontacts ▸ hcounts _, ?_, ?_, fun _ => hplan⟩
    · rw [hrun]
    · rw [hrun]
      simp only
      split
      · rfl
      · rfl
    · intro _ hrecovered
      rw [hrun] at hrecovered ⊢
      exact Or.inl ⟨hrecovered, hplan⟩
  · have hrun := runCase_of_plan random g hplan
    refine ⟨?_, hretries ▸ hcounts _, hcontacts ▸ hcounts _, ?_, ?_, ?_⟩
    · rw [hrun]
      rfl
    · rw [hrun]
      apply Halting.run_invariant _ (P := fun p : Play G => p.wastedAttempts =
        if recoveryClassFor case.visible.failureReason = .customerAction then p.retries else 0)
      · exact fun p action => playAction_wasted random action
      · simp only
        split
        · rfl
        · rfl
    · intro hclass hrecovered
      rw [hrun] at hrecovered
      obtain ⟨p, action, hlast, haction⟩ := getLast?_processed random hrecovered
      exact Or.inr ⟨action, hlast, contact_of_recovered random hclass haction⟩
    · intro hnatural
      rw [hrun] at hnatural
      cases hnatural

/-!
## A batch
-/

/-- A batch recovers nothing negative, and at most what is at risk. -/
theorem recovered_between (seeded : String → G) (seed : ℤ) {cases : List SimCase}
    (hamounts : ∀ case ∈ cases, 0 ≤ case.visible.amountPaise) (planFn : PlanFn) :
    0 ≤ ((runBatch random seeded seed cases planFn).map (·.recoveredPaise)).sum ∧
      ((runBatch random seeded seed cases planFn).map (·.recoveredPaise)).sum ≤
        (cases.map (·.visible.amountPaise)).sum := by
  rw [runBatch, List.map_map]
  induction cases with
  | nil => exact ⟨le_rfl, le_rfl⟩
  | cons case cases ih =>
      obtain ⟨hlow, hhigh⟩ := ih fun c hc => hamounts c (List.mem_cons_of_mem case hc)
      have hamount := hamounts case List.mem_cons_self
      have hpaise := (outcomeOf_runCase random (seeded s!"{seed}:{case.visible.caseKey}") case
        planFn).recoveredPaise
      rw [List.map_cons, List.sum_cons, List.map_cons, List.sum_cons]
      simp only [Function.comp_apply]
      rw [hpaise]
      split
      · exact ⟨add_nonneg hamount hlow, add_le_add le_rfl hhigh⟩
      · exact ⟨add_nonneg le_rfl hlow, add_le_add hamount hhigh⟩

theorem paiseToInr_mono {paise paise' : ℤ} (h : paise ≤ paise') :
    paiseToInr paise ≤ paiseToInr paise' :=
  div_le_div_of_nonneg_right (Int.cast_le.2 h) (by norm_num)

/-- A share of a whole that is not negative rounds to one between zero and one. -/
theorem rate_within {part whole : ℚ} (hpart : 0 ≤ part) (hwhole : part ≤ whole) (digits : ℕ) :
    0 ≤ round (if whole ≠ 0 then part / whole else 0) digits ∧
      round (if whole ≠ 0 then part / whole else 0) digits ≤ 1 := by
  have hshare : 0 ≤ (if whole ≠ 0 then part / whole else 0) ∧
      (if whole ≠ 0 then part / whole else 0) ≤ 1 := by
    split
    · exact ⟨div_nonneg hpart (hpart.trans hwhole), div_le_one_of_le₀ hwhole (hpart.trans hwhole)⟩
    · exact ⟨le_rfl, zero_le_one⟩
  have hzero : round 0 digits = 0 := round_of_onGrid (Rounding.onGrid_zero _)
  have hone : round 1 digits = 1 := round_of_onGrid ⟨10 ^ digits, by push_cast; ring⟩
  have hlow := round_mono digits hshare.1
  have hhigh := round_mono digits hshare.2
  simp only at hlow hhigh
  rw [hzero] at hlow
  rw [hone] at hhigh
  exact ⟨hlow, hhigh⟩

/-- What `compute_metrics` reads off the amounts of a batch. -/
theorem computeMetrics_rate (costs : Costs) (label : String) (seed : ℤ) {cases : List SimCase}
    {outcomes : List CaseOutcome} (hlengths : cases.length = outcomes.length)
    (scoredPlan : Option PlanFn) :
    ∃ m, computeMetrics costs label seed cases outcomes scoredPlan = some m ∧
      m.atRiskInr = paiseToInr (cases.map (·.visible.amountPaise)).sum ∧
      m.recoveredInr = paiseToInr (outcomes.map (·.recoveredPaise)).sum ∧
      m.recoveryRate = round
        (if paiseToInr (cases.map (·.visible.amountPaise)).sum ≠ 0 then
          paiseToInr (outcomes.map (·.recoveredPaise)).sum /
            paiseToInr (cases.map (·.visible.amountPaise)).sum else 0) 6 := by
  rw [computeMetrics, if_neg (not_not.2 hlengths)]
  cases scoredPlan with
  | none => exact ⟨_, rfl, round_paiseToInr _, round_paiseToInr _, rfl⟩
  | some plan =>
      have hcosts : ∃ totals, computeBatchCosts costs cases outcomes plan label = some totals :=
        ⟨_, if_neg (not_not.2 hlengths)⟩
      obtain ⟨totals, htotals⟩ := hcosts
      change ∃ m, (computeBatchCosts costs cases outcomes plan label >>= _) = some m ∧ _
      rw [htotals]
      exact ⟨_, rfl, round_paiseToInr _, round_paiseToInr _, rfl⟩

/-- Every outcome of the simulator keeps its promises, for every stream of random numbers,
case and plan; and no batch recovers more than is at risk. -/
theorem outcome_invariants (seeded : String → G) (planFn : PlanFn) :
    (∀ g case, OutcomeOf random g case planFn (runCase random g case planFn)) ∧
      ∀ (costs : Costs) (label : String) (seed : ℤ) (cases : List SimCase)
        (scoredPlan : Option PlanFn), (∀ case ∈ cases, 0 ≤ case.visible.amountPaise) →
        ∃ m, computeMetrics costs label seed cases
            (runBatch random seeded seed cases planFn) scoredPlan = some m ∧
          m.recoveredInr ≤ m.atRiskInr ∧ 0 ≤ m.recoveryRate ∧ m.recoveryRate ≤ 1 := by
  refine ⟨fun g case => outcomeOf_runCase random g case planFn, ?_⟩
  intro costs label seed cases scoredPlan hamounts
  have hlengths : cases.length = (runBatch random seeded seed cases planFn).length := by
    rw [runBatch, List.length_map]
  obtain ⟨m, hm, hrisk, hrecovered, hrate⟩ :=
    computeMetrics_rate costs label seed hlengths scoredPlan
  obtain ⟨hlow, hhigh⟩ := recovered_between random seeded seed hamounts planFn
  have hzero : paiseToInr 0 = 0 := by simp [paiseToInr]
  have hpart := paiseToInr_mono hlow
  have hwhole := paiseToInr_mono hhigh
  rw [hzero] at hpart
  refine ⟨m, hm, ?_, ?_⟩
  · rw [hrisk, hrecovered]
    exact hwhole
  · rw [hrate]
    exact rate_within hpart hwhole 6

end

/-- The ladder on one case whose amount is not negative. -/
theorem outcome_invariants_ladder :
    ∃ m, computeMetrics shippedCosts "b2" 42 [brokeCase]
        (runBatch (fun g : Unit => (1, g)) (fun _ => ()) 42 [brokeCase] baselineB2)
        (some baselineB2) = some m ∧
      m.recoveredInr ≤ m.atRiskInr ∧ 0 ≤ m.recoveryRate ∧ m.recoveryRate ≤ 1 :=
  (outcome_invariants (fun g : Unit => (1, g)) (fun _ => ()) baselineB2).2 shippedCosts "b2" 42
    [brokeCase] (some baselineB2) (by decide)

end RecoveryAgent.Eval
