import RecoveryAgent.Eval.Batch
import RecoveryAgent.Eval.Benchmark

/-!
# Both policies on one batch

`compare_seed` of `eval/benchmark.py`: a batch is generated once, and played and scored
under `ours` and under `b2`.
-/

namespace RecoveryAgent.Eval

open Python Config Library

inductive Winner where
  | ours
  | b2
  | tie
  deriving DecidableEq, Repr

structure SeedPairResult where
  seed : ℤ
  n : ℤ
  ours : BatchMetrics
  b2 : BatchMetrics
  deltaRecoveredInr : ℚ
  deltaNetRecoveredInr : ℚ
  winner : Winner
  cases : List CaseCompareRow
  scenarios : List ScenarioBreakdownRow

/-- `_winner`, with the tolerance of half a paisa. -/
def winnerOf (deltaInr : ℚ) : Winner :=
  if |deltaInr| ≤ 5 / 1000 then .tie else if 0 < deltaInr then .ours else .b2

section

variable {G : Type*} (costs : Costs) (rng : Rng G)

/-- The numbers of one policy, on a batch that it has played. -/
def scored (label : String) (planFn : PlanFn) (seed : ℤ) (cases : List SimCase) :
    Option BatchMetrics :=
  computeMetrics costs label seed cases (runBatch rng.random rng.seeded seed cases planFn)
    (some planFn)

/-- `compare_seed`, once the batch is generated. -/
def compareCases (seed n : ℤ) (cases : List SimCase) : Option SeedPairResult := do
  let ours ← scored costs rng "ours" policyOurs seed cases
  let b2 ← scored costs rng "b2" baselineB2 seed cases
  let grossDelta := round (ours.grossDeltaInr b2) 2
  let netDelta := round (ours.netDeltaInr b2) 2
  let rows ← buildCaseRows seed cases (runBatch rng.random rng.seeded seed cases policyOurs)
    (runBatch rng.random rng.seeded seed cases baselineB2)
  some
    { seed
      n
      ours
      b2
      deltaRecoveredInr := grossDelta
      deltaNetRecoveredInr := netDelta
      winner := winnerOf netDelta
      cases := rows
      scenarios := scenarioBreakdown rows }

def compareSeed (seed n : ℤ) : Option SeedPairResult := do
  let cases ← generateBatch rng seed n
  compareCases costs rng seed n cases

/-!
## A batch that was played
-/

/-- The cases with the outcomes that a policy has for them. -/
def played (planFn : PlanFn) (seed : ℤ) (cases : List SimCase) : List (SimCase × CaseOutcome) :=
  cases.map fun case =>
    (case, runCase rng.random (rng.seeded s!"{seed}:{case.visible.caseKey}") case planFn)

theorem played_fst (planFn : PlanFn) (seed : ℤ) (cases : List SimCase) :
    (played rng planFn seed cases).map Prod.fst = cases := by
  rw [played, List.map_map]
  exact List.map_id cases

theorem played_snd (planFn : PlanFn) (seed : ℤ) (cases : List SimCase) :
    (played rng planFn seed cases).map Prod.snd =
      runBatch rng.random rng.seeded seed cases planFn := by
  rw [played, List.map_map, runBatch]
  rfl

theorem runBatch_aligned (planFn : PlanFn) (seed : ℤ) (cases : List SimCase) :
    Aligned cases (runBatch rng.random rng.seeded seed cases planFn) := by
  rw [Aligned, runBatch, List.map_map]
  apply List.map_congr_left
  intro case _
  exact (runCase_caseKey rng.random _ case planFn).symm

theorem scored_tallied (label : String) (planFn : PlanFn) (seed : ℤ) (cases : List SimCase) :
    ∃ m, scored costs rng label planFn seed cases = some m ∧
      Tallied costs label (some planFn) (played rng planFn seed cases) m := by
  have htallied := computeMetrics_tallied costs label seed (some planFn)
    (played rng planFn seed cases)
  rwa [played_fst, played_snd] at htallied

/-- A generated batch can be compared, and its scenarios reconcile with its numbers. -/
theorem compareSeed_reconciles (seed : ℤ) {n : ℤ} (hn : 0 < n) :
    ∃ cases rows ours b2, generateBatch rng seed n = some cases ∧
      buildCaseRows seed cases (runBatch rng.random rng.seeded seed cases policyOurs)
        (runBatch rng.random rng.seeded seed cases baselineB2) = some rows ∧
      scored costs rng "ours" policyOurs seed cases = some ours ∧
      scored costs rng "b2" baselineB2 seed cases = some b2 ∧
      compareSeed costs rng seed n = some
        { seed
          n
          ours
          b2
          deltaRecoveredInr := round (ours.grossDeltaInr b2) 2
          deltaNetRecoveredInr := round (ours.netDeltaInr b2) 2
          winner := winnerOf (round (ours.netDeltaInr b2) 2)
          cases := rows
          scenarios := scenarioBreakdown rows } ∧
      ScenariosReconcile (scenarioBreakdown rows) ours b2 := by
  have hgenerated : ∃ cases, generateBatch rng seed n = some cases :=
    ⟨_, if_neg (not_le.2 hn)⟩
  obtain ⟨cases, hcases⟩ := hgenerated
  obtain ⟨hkeys, hplanned⟩ := generateBatch_cases rng hcases
  have halignedOurs := runBatch_aligned rng policyOurs seed cases
  have halignedB2 := runBatch_aligned rng baselineB2 seed cases
  obtain ⟨rows, hrows, hrowsTallied⟩ :=
    buildCaseRows_tallied seed hkeys halignedOurs halignedB2 hplanned
  obtain ⟨ours, hours, htours⟩ := scored_tallied costs rng "ours" policyOurs seed cases
  obtain ⟨b2, hb2, htb2⟩ := scored_tallied costs rng "b2" baselineB2 seed cases
  have hlineOurs := htours.headline
  have hlineB2 := htb2.headline
  rw [played_fst, played_snd] at hlineOurs hlineB2
  refine ⟨cases, rows, ours, b2, hcases, hrows, hours, hb2, ?_,
    scenarios_reconcile hkeys halignedOurs halignedB2 hrowsTallied hlineOurs hlineB2⟩
  rw [compareSeed, hcases]
  change compareCases costs rng seed n cases = _
  rw [compareCases, hours, hb2, hrows]
  rfl

end

end RecoveryAgent.Eval
