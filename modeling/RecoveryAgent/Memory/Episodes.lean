import Mathlib.Algebra.BigOperators.Ring.Finset
import Mathlib.Algebra.Order.Group.MinMax
import RecoveryAgent.Eval.Bridge
import RecoveryAgent.Eval.Metrics

/-!
# Episodes of the memory

`memory/episode_factory.py`: a simulated case with its outcome becomes a payment episode.
Its net recovery is priced by `compute_case_costs`, rounded to paise and cut off at zero,
so the corpus tells the economics of the benchmark but for the losses on single cases.
-/

namespace RecoveryAgent.Memory

open Library Python Config Eval

inductive DataSource where
  | syntheticSimulation
  | razorpayTest
  | demo
  deriving DecidableEq, Repr

inductive EpisodeOutcome where
  | success
  | failed
  | pending
  deriving DecidableEq, Repr

/-- One historical recovery episode, with the bounds that its validation checks. -/
structure PaymentEpisode where
  episodeId : String
  caseId : Option String := none
  seed : Option ℤ := none
  simulationVersion : String := "v1"
  amountPaise : ℤ
  currency : String := "INR"
  rail : String := "card"
  failureReason : FailureReason
  recoveryClass : RecoveryClass
  attemptNumber : ℤ := 1
  action : String
  outcome : EpisodeOutcome
  recoveredPaise : ℤ := 0
  netRecoveredPaise : Option ℤ := none
  dataSource : DataSource
  delaySeconds : Option ℤ := none
  prohibited : Bool := false
  customerType : Option String := none
  amount_nonneg : 0 ≤ amountPaise
  attempt_pos : 1 ≤ attemptNumber
  recovered_nonneg : 0 ≤ recoveredPaise
  net_nonneg : ∀ net, netRecoveredPaise = some net → 0 ≤ net
  delay_nonneg : ∀ delay, delaySeconds = some delay → 0 ≤ delay

/-- `logical_episode_id`: the same case of the same seed has the same id. -/
def logicalEpisodeId (seed : ℤ) (caseId simulationVersion : String) : String :=
  s!"recovery_{simulationVersion}_seed{seed}_" ++ caseId.map fun c => if c = '/' then '_' else c

def simVerbToAction : SimVerb → String
  | .scheduleRetry => "schedule_retry"
  | .sendPaymentLink => "send_payment_link"
  | .genericNag => "generic_nag"
  | .noop => "noop"

/-- `_primary_executed_action`: the first action that was executed, else the first that was
planned, and its delay. -/
def primaryExecutedAction (case : SimCase) (outcome : CaseOutcome) (planFn : PlanFn) :
    String × Option ℕ :=
  match executedActions case outcome planFn with
  | first :: _ => (simVerbToAction first.verb, some (first.dayOffset * 86400))
  | [] =>
      match chronological (planFn case) with
      | first :: _ => (simVerbToAction first.verb, some (first.dayOffset * 86400))
      | [] => ("noop", none)

def netRecoveredPaiseForCase (costs : Costs) (case : SimCase) (outcome : CaseOutcome)
    (planFn : PlanFn) (label : String) : ℤ :=
  let row := computeCaseCosts costs case outcome planFn label
  let totalCost := row.attemptCostInr + row.mdrCostInr + row.riskCostInr + row.customerCostInr
  max 0 (roundHalfEven ((paiseToInr outcome.recoveredPaise - totalCost) * 100))

/-- `payment_episode_from_case`. It raises when the episode is not valid. -/
def paymentEpisodeFromCase (costs : Costs) (seed : ℤ) (planFn : PlanFn)
    (simulationVersion : String) (case : SimCase) (outcome : CaseOutcome) :
    Option PaymentEpisode :=
  let visible := case.visible
  let rc := recoveryClassFor visible.failureReason
  let primary := primaryExecutedAction case outcome planFn
  if h : 0 ≤ visible.amountPaise ∧ 1 ≤ visible.attemptNumber ∧ 0 ≤ outcome.recoveredPaise then
    some
      { episodeId := logicalEpisodeId seed visible.caseKey simulationVersion
        caseId := some visible.caseKey
        seed := some seed
        simulationVersion
        amountPaise := visible.amountPaise
        rail := visible.rail
        failureReason := visible.failureReason
        recoveryClass := rc
        attemptNumber := visible.attemptNumber
        action := primary.1
        outcome := if outcome.recovered then .success else .failed
        recoveredPaise := outcome.recoveredPaise
        netRecoveredPaise := some (netRecoveredPaiseForCase costs case outcome planFn "ours")
        dataSource := .syntheticSimulation
        delaySeconds := primary.2.map (↑)
        prohibited := rc = .prohibited
        amount_nonneg := h.1
        attempt_pos := h.2.1
        recovered_nonneg := h.2.2
        net_nonneg := by
          rintro net ⟨⟩
          exact le_max_left _ _
        delay_nonneg := by
          intro delay hdelay
          obtain ⟨seconds, -, rfl⟩ := Option.map_eq_some_iff.1 hdelay
          exact Int.natCast_nonneg seconds }
  else none

/-- The episodes of a batch with its outcomes. -/
def paymentEpisodes (costs : Costs) (seed : ℤ) (planFn : PlanFn) (simulationVersion : String)
    (ps : List (SimCase × CaseOutcome)) : Option (List PaymentEpisode) :=
  ps.mapM fun p => paymentEpisodeFromCase costs seed planFn simulationVersion p.1 p.2

theorem paymentEpisodeFromCase_net {costs : Costs} {seed : ℤ} {planFn : PlanFn}
    {simulationVersion : String} {case : SimCase} {outcome : CaseOutcome} {e : PaymentEpisode}
    (h : paymentEpisodeFromCase costs seed planFn simulationVersion case outcome = some e) :
    e.netRecoveredPaise = some (netRecoveredPaiseForCase costs case outcome planFn "ours") := by
  unfold paymentEpisodeFromCase at h
  simp only at h
  split at h
  · cases h
    rfl
  · cases h

/-!
## Against the benchmark
-/

section

variable (costs : Costs) (planFn : PlanFn) (label : String)

/-- What a case brings in. -/
def gross (p : SimCase × CaseOutcome) : ℚ := paiseToInr p.2.recoveredPaise

/-- What a case loses: by how much its cost exceeds what it brings in. -/
def loss (cost : SimCase × CaseOutcome → ℚ) (p : SimCase × CaseOutcome) : ℚ :=
  max 0 (cost p - gross p)

/-- Cutting a case off at zero is adding its loss. -/
theorem gross_sub_add_loss (cost : SimCase × CaseOutcome → ℚ) (p : SimCase × CaseOutcome) :
    gross p - cost p + loss cost p = max 0 (gross p - cost p) := by
  unfold loss
  rcases le_total (cost p) (gross p) with h | h
  · rw [max_eq_left (sub_nonpos.2 h), max_eq_right (sub_nonneg.2 h), add_zero]
  · rw [max_eq_right (sub_nonneg.2 h), max_eq_left (sub_nonpos.2 h), sub_add_sub_cancel, sub_self]

/-- The net recovery of an episode is near what the case brings in after a cost, when that
cost is near the one it is priced at. -/
theorem netRecoveredPaise_near {cost : SimCase × CaseOutcome → ℚ} {ε : ℚ}
    {p : SimCase × CaseOutcome} (hcost : |caseCost costs planFn label p - cost p| ≤ ε) :
    |(netRecoveredPaiseForCase costs p.1 p.2 planFn label : ℚ) -
      100 * (gross p - cost p + loss cost p)| ≤ 1 / 2 + 100 * ε := by
  have hrounded : |((max 0 (roundHalfEven ((gross p - caseCost costs planFn label p) * 100)) : ℤ) :
      ℚ) - max 0 ((gross p - caseCost costs planFn label p) * 100)| ≤ 1 / 2 := by
    push_cast
    rw [max_comm 0, max_comm 0]
    exact (abs_max_sub_max_le_abs _ _ _).trans (roundHalfEven_near _)
  have hpriced : |max 0 ((gross p - caseCost costs planFn label p) * 100) -
      max 0 ((gross p - cost p) * 100)| ≤ 100 * ε := by
    rw [max_comm 0, max_comm 0]
    refine (abs_max_sub_max_le_abs _ _ _).trans ?_
    have hdiff : (gross p - caseCost costs planFn label p) * 100 - (gross p - cost p) * 100 =
        -(100 * (caseCost costs planFn label p - cost p)) := by ring
    rw [hdiff, abs_neg, abs_mul, abs_of_pos (by norm_num)]
    exact mul_le_mul_of_nonneg_left hcost (by norm_num)
  have hscaled : 100 * max 0 (gross p - cost p) = max 0 ((gross p - cost p) * 100) := by
    rw [mul_max_of_nonneg _ _ (by norm_num), mul_zero, mul_comm]
  rw [gross_sub_add_loss, hscaled]
  exact (abs_sub_le _ _ _).trans (add_le_add hrounded hpriced)

def netRecovered (episodes : List PaymentEpisode) : ℤ :=
  (episodes.map fun e => e.netRecoveredPaise.getD 0).sum

/-- The episodes tell what the cases bring in after their costs and with their losses. -/
def TellsNetWithLosses (cost : SimCase × CaseOutcome → ℚ) (tolerance : ℚ)
    (ps : List (SimCase × CaseOutcome)) (episodes : List PaymentEpisode) : Prop :=
  |(netRecovered episodes : ℚ) -
    100 * ((ps.map gross).sum - (ps.map cost).sum + (ps.map (loss cost)).sum)| ≤
      ps.length * tolerance

theorem netRecovered_paymentEpisodes {seed : ℤ} {simulationVersion : String}
    {ps : List (SimCase × CaseOutcome)} {episodes : List PaymentEpisode}
    (h : paymentEpisodes costs seed planFn simulationVersion ps = some episodes) :
    (netRecovered episodes : ℚ) =
      (ps.map fun p => (netRecoveredPaiseForCase costs p.1 p.2 planFn "ours" : ℚ)).sum := by
  have hsum := Grouping.sum_of_forall₂
    (f := fun p => netRecoveredPaiseForCase costs p.1 p.2 planFn "ours")
    (g := fun e : PaymentEpisode => e.netRecoveredPaise.getD 0)
    (fun p e hp => by rw [paymentEpisodeFromCase_net hp]; rfl) (Grouping.forall₂_of_mapM h)
  rw [netRecovered, hsum, Int.cast_list_sum, List.map_map]
  rfl

theorem tellsNetWithLosses {seed : ℤ} {simulationVersion : String}
    {ps : List (SimCase × CaseOutcome)} {episodes : List PaymentEpisode}
    (h : paymentEpisodes costs seed planFn simulationVersion ps = some episodes)
    {cost : SimCase × CaseOutcome → ℚ} {ε : ℚ}
    (hcost : ∀ p, |caseCost costs planFn "ours" p - cost p| ≤ ε) :
    TellsNetWithLosses cost (1 / 2 + 100 * ε) ps episodes := by
  have hnear := Rounding.sum_map_near ps
    fun p _ => netRecoveredPaise_near costs planFn "ours" (hcost p)
  unfold TellsNetWithLosses
  rw [netRecovered_paymentEpisodes costs planFn h, ← Grouping.sum_map_sub, ← List.sum_map_add,
    ← List.sum_map_mul_left]
  exact hnear

end

/-- On a batch of `ours` the net recovery of the episodes is, in paise, what the benchmark
has recovered, less its total cost before that is rounded, plus the losses on single cases:
up to half a paisa for each episode with the costs of the cases as the benchmark adds them
up, and up to four times half a digit more with the costs before they are rounded. -/
theorem episodes_tell_net_with_losses {G : Type*} (random : G → ℚ × G) (seeded : String → G)
    (costs : Costs) (seed : ℤ) (cases : List SimCase) (simulationVersion : String) :
    let outcomes := runBatch random seeded seed cases policyOurs
    let ps := cases.zip outcomes
    ∃ totals m, computeBatchCosts costs cases outcomes policyOurs "ours" = some totals ∧
      totals.totalCostInr = round ((ps.map (caseCost costs policyOurs "ours")).sum) 2 ∧
      computeMetrics costs "ours" seed cases outcomes (some policyOurs) = some m ∧
      m.grossRecoveredInr = (ps.map gross).sum ∧
      ∀ episodes, paymentEpisodes costs seed policyOurs simulationVersion ps = some episodes →
        TellsNetWithLosses (caseCost costs policyOurs "ours") (1 / 2) ps episodes ∧
          TellsNetWithLosses (caseCharge costs policyOurs) (1 / 2 + 1 / 50) ps episodes := by
  intro outcomes ps
  have hlength : cases.length = outcomes.length := (List.length_map _).symm
  have hcases : ps.map Prod.fst = cases := List.map_fst_zip hlength.le
  have houtcomes : ps.map Prod.snd = outcomes := List.map_snd_zip hlength.ge
  obtain ⟨totals, htotals, htotal⟩ := computeBatchCosts_total costs policyOurs "ours" ps
  obtain ⟨m, hm, htallied⟩ := computeMetrics_tallied costs "ours" seed (some policyOurs) ps
  rw [hcases, houtcomes] at htotals hm
  refine ⟨totals, m, htotals, htotal, hm, htallied.gross, ?_⟩
  intro episodes h
  constructor
  · have hsame : ∀ p, |caseCost costs policyOurs "ours" p - caseCost costs policyOurs "ours" p| ≤
        (0 : ℚ) := by
      simp
    have htells := tellsNetWithLosses costs policyOurs h hsame
    norm_num at htells
    exact htells
  · have htells := tellsNetWithLosses costs policyOurs h
      (fun p => caseCost_near costs policyOurs "ours" p)
    norm_num at htells ⊢
    exact htells

def expiredCard : SimCase where
  visible :=
    { caseKey := "sim_42_0000"
      payerRef := "payer_42_0000"
      amountPaise := 49900
      rail := "card"
      failureReason := .cardExpired }
  hidden :=
    { instrumentValid := false
      trueCreditDay := 1
      naturalRecoveryProb := 2 / 100
      baseContactResponseProb := 58 / 100
      retrySuccessIfFunded := 0 }
  failureDom := 15

/-- The expired card, with a customer who answers no link. -/
def unanswered : List (SimCase × CaseOutcome) :=
  [expiredCard].zip (runBatch (fun g : Unit => (1, g)) (fun _ => ()) 42 [expiredCard] policyOurs)

theorem episodes_tell_net_with_losses_unanswered :
    ∃ episodes, paymentEpisodes shippedCosts 42 policyOurs "v1" unanswered = some episodes ∧
      TellsNetWithLosses (caseCost shippedCosts policyOurs "ours") (1 / 2) unanswered episodes := by
  have hmade : (paymentEpisodes shippedCosts 42 policyOurs "v1" unanswered).isSome = true := by
    decide +kernel
  obtain ⟨episodes, hepisodes⟩ := Option.isSome_iff_exists.1 hmade
  obtain ⟨-, -, -, -, -, -, htells⟩ := episodes_tell_net_with_losses (fun g : Unit => (1, g))
    (fun _ => ()) shippedCosts 42 [expiredCard] "v1"
  exact ⟨episodes, hepisodes, (htells episodes hepisodes).1⟩

/-- The two links that nobody answered cost 24 paise, and the corpus tells 0. -/
theorem unanswered_links_untold :
    ∃ episodes, paymentEpisodes shippedCosts 42 policyOurs "v1" unanswered = some episodes ∧
      ∀ cost ∈ [caseCost shippedCosts policyOurs "ours", caseCharge shippedCosts policyOurs],
        ¬|(netRecovered episodes : ℚ) -
          100 * ((unanswered.map gross).sum - (unanswered.map cost).sum)| ≤
            unanswered.length * (1 / 2 + 1 / 50) := by
  have hmade : (paymentEpisodes shippedCosts 42 policyOurs "v1" unanswered).map netRecovered =
      some 0 := by
    decide +kernel
  have hcosts : ∀ cost ∈ [caseCost shippedCosts policyOurs "ours",
      caseCharge shippedCosts policyOurs], (unanswered.map cost).sum = 6 / 25 := by
    simp only [List.mem_cons, List.not_mem_nil, or_false, forall_eq_or_imp, forall_eq]
    decide +kernel
  have hgross : (unanswered.map gross).sum = 0 := by decide +kernel
  obtain ⟨episodes, hepisodes, hnet⟩ := Option.map_eq_some_iff.1 hmade
  refine ⟨episodes, hepisodes, ?_⟩
  intro cost hcost
  rw [hnet, hcosts cost hcost, hgross]
  norm_num [unanswered, runBatch]

end RecoveryAgent.Memory
