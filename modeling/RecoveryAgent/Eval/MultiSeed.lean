import Mathlib.Data.List.MinMax
import RecoveryAgent.Eval.Comparison
import RecoveryAgent.Eval.Outcomes
import RecoveryAgent.Eval.Percentiles
import RecoveryAgent.Eval.Seeds
import RecoveryAgent.Library.Pooling

/-!
# Many seeds pooled

`run_multi_seed` of `eval/benchmark.py` and the page that shows its report. Every seed is
compared by itself; the report adds the seeds up, counts who won them, names the best and the
worst one, and breaks the rows of all of them down by failure reason once more.
-/

namespace RecoveryAgent.Eval

open Python Config Library

structure EfficiencyView where
  oursAvgRetriesPerCase : ℚ
  b2AvgRetriesPerCase : ℚ
  oursAvgContactsPerCase : ℚ
  b2AvgContactsPerCase : ℚ
  oursContactsPerRecovery : ℚ
  b2ContactsPerRecovery : ℚ
  oursWastedAttempts : ℕ := 0
  b2WastedAttempts : ℕ := 0

structure MultiSeedReport where
  n : ℤ
  seeds : List ℤ
  headlineSeed : ℤ := 42
  perSeed : List SeedPairResult
  oursTotalAtRiskInr : ℚ
  b2TotalAtRiskInr : ℚ
  oursTotalRecoveredInr : ℚ
  b2TotalRecoveredInr : ℚ
  oursTotalRecoveries : ℕ
  b2TotalRecoveries : ℕ
  oursTotalRetries : ℕ
  b2TotalRetries : ℕ
  oursTotalContacts : ℕ
  b2TotalContacts : ℕ
  totalCases : ℤ
  oursPooledRecoveryRate : ℚ
  b2PooledRecoveryRate : ℚ
  oursAvgRecoveredInrPerCase : ℚ
  b2AvgRecoveredInrPerCase : ℚ
  oursRecoveredStats : ScalarStats
  b2RecoveredStats : ScalarStats
  deltaRecoveredStats : ScalarStats
  deltaNetRecoveredStats : ScalarStats
  oursRateStats : ScalarStats
  b2RateStats : ScalarStats
  seedsWonOurs : ℕ
  seedsWonB2 : ℕ
  seedsTied : ℕ
  winRateOurs : ℚ := 0
  worstSeedForOurs : Option ℤ := none
  worstSeedDeltaNetInr : ℚ := 0
  bestSeedForOurs : Option ℤ := none
  bestSeedDeltaNetInr : ℚ := 0
  efficiency : EfficiencyView
  scenariosPooled : List ScenarioBreakdownRow

/-- `worst_seed_for_ours`: of two equally bad seeds the first. -/
def worstSeedForOurs (perSeed : List SeedPairResult) : Option ℤ × ℚ :=
  match perSeed.argmin (·.deltaNetRecoveredInr) with
  | none => (none, 0)
  | some worst => (some worst.seed, round worst.deltaNetRecoveredInr 2)

def bestSeedForOurs (perSeed : List SeedPairResult) : Option ℤ × ℚ :=
  match perSeed.argmax (·.deltaNetRecoveredInr) with
  | none => (none, 0)
  | some best => (some best.seed, round best.deltaNetRecoveredInr 2)

/-- `round(part / whole, digits) if whole else empty`. -/
def roundedShare (part whole : ℚ) (digits : ℕ) (empty : ℚ) : ℚ :=
  if whole ≠ 0 then round (part / whole) digits else empty

section

variable {G : Type*} (costs : Costs) (rng : Rng G) (stdev : List ℚ → ℚ)

/-- `run_multi_seed`. It raises without seeds, and where a comparison raises. -/
def runMultiSeed (seeds : List ℤ) (n : ℤ) : Option MultiSeedReport :=
  if seeds = [] then none
  else do
    let perSeed ← seeds.mapM fun seed => compareSeed costs rng seed n
    let oursRec := perSeed.map (·.ours.recoveredInr)
    let b2Rec := perSeed.map (·.b2.recoveredInr)
    let oursAtRisk := (perSeed.map (·.ours.atRiskInr)).sum
    let b2AtRisk := (perSeed.map (·.b2.atRiskInr)).sum
    let oursRecovered := oursRec.sum
    let b2Recovered := b2Rec.sum
    let totalCases := (perSeed.map (·.n)).sum
    let oursRecoveries := (perSeed.map (·.ours.recoveries)).sum
    let b2Recoveries := (perSeed.map (·.b2.recoveries)).sum
    let oursRetries := (perSeed.map (·.ours.retries)).sum
    let b2Retries := (perSeed.map (·.b2.retries)).sum
    let oursContacts := (perSeed.map (·.ours.contacts)).sum
    let b2Contacts := (perSeed.map (·.b2.contacts)).sum
    let wonByOurs := perSeed.countP fun p => p.winner = .ours
    let oursRecoveredStats ← scalarStats stdev oursRec
    let b2RecoveredStats ← scalarStats stdev b2Rec
    let deltaRecoveredStats ← scalarStats stdev (perSeed.map (·.deltaRecoveredInr))
    let deltaNetRecoveredStats ← scalarStats stdev (perSeed.map (·.deltaNetRecoveredInr))
    let oursRateStats ← scalarStats stdev (perSeed.map (·.ours.recoveryRate))
    let b2RateStats ← scalarStats stdev (perSeed.map (·.b2.recoveryRate))
    some
      { n
        seeds
        perSeed
        oursTotalAtRiskInr := round oursAtRisk 2
        b2TotalAtRiskInr := round b2AtRisk 2
        oursTotalRecoveredInr := round oursRecovered 2
        b2TotalRecoveredInr := round b2Recovered 2
        oursTotalRecoveries := oursRecoveries
        b2TotalRecoveries := b2Recoveries
        oursTotalRetries := oursRetries
        b2TotalRetries := b2Retries
        oursTotalContacts := oursContacts
        b2TotalContacts := b2Contacts
        totalCases
        oursPooledRecoveryRate := roundedShare oursRecovered oursAtRisk 6 0
        b2PooledRecoveryRate := roundedShare b2Recovered b2AtRisk 6 0
        oursAvgRecoveredInrPerCase := roundedShare oursRecovered totalCases 4 0
        b2AvgRecoveredInrPerCase := roundedShare b2Recovered totalCases 4 0
        oursRecoveredStats
        b2RecoveredStats
        deltaRecoveredStats
        deltaNetRecoveredStats
        oursRateStats
        b2RateStats
        seedsWonOurs := wonByOurs
        seedsWonB2 := perSeed.countP fun p => p.winner = .b2
        seedsTied := perSeed.countP fun p => p.winner = .tie
        winRateOurs := roundedShare wonByOurs seeds.length 4 0
        worstSeedForOurs := (worstSeedForOurs perSeed).1
        worstSeedDeltaNetInr := (worstSeedForOurs perSeed).2
        bestSeedForOurs := (bestSeedForOurs perSeed).1
        bestSeedDeltaNetInr := (bestSeedForOurs perSeed).2
        efficiency :=
          { oursAvgRetriesPerCase := roundedShare oursRetries totalCases 4 0
            b2AvgRetriesPerCase := roundedShare b2Retries totalCases 4 0
            oursAvgContactsPerCase := roundedShare oursContacts totalCases 4 0
            b2AvgContactsPerCase := roundedShare b2Contacts totalCases 4 0
            oursContactsPerRecovery := roundedShare oursContacts oursRecoveries 4 (-1)
            b2ContactsPerRecovery := roundedShare b2Contacts b2Recoveries 4 (-1)
            oursWastedAttempts := (perSeed.map (·.ours.wastedAttempts)).sum
            b2WastedAttempts := (perSeed.map (·.b2.wastedAttempts)).sum }
        scenariosPooled := scenarioBreakdown (perSeed.flatMap (·.cases)) }

/-- `run_multi_seed_report`: no seeds are the default ones. -/
def runMultiSeedReport (seeds : List ℤ) (n : ℤ) : Option MultiSeedReport :=
  runMultiSeed costs rng stdev (if seeds = [] then defaultMultiSeeds else seeds) n

/-- The report of `batch_distribution_page`, with the parameters `n` and `seeds` of its URL.
Only a `ValueError` of the seeds is answered. -/
def batchDistributionPage (nRaw seedsRaw : Option String) :
    Except SeedsError (Option MultiSeedReport) := do
  let n ← seedOfText (nRaw.getD "200")
  let seeds ←
    match parseSeedsArg (seedsRaw.getD "42-51") with
    | .ok seeds => .ok seeds
    | .error .valueError => .ok defaultMultiSeeds
    | .error e => .error e
  return runMultiSeedReport costs rng stdev seeds (max 10 (min n 1000))

/-!
## One seed
-/

/-- What the report uses of the numbers of a policy. -/
structure Rated (m : BatchMetrics) : Prop where
  recovered_nonneg : 0 ≤ m.recoveredInr
  recovered_le : m.recoveredInr ≤ m.atRiskInr
  gross : m.grossRecoveredInr = m.recoveredInr
  rate : m.recoveryRate = round (Pooling.share m.recoveredInr m.atRiskInr) 6
  grid : Rounding.OnGrid (10 ^ 2) m.recoveredInr ∧ Rounding.OnGrid (10 ^ 2) m.atRiskInr

/-- The comparison of a seed, as the report uses it. -/
structure Compared (seed n : ℤ) (p : SeedPairResult) : Prop where
  seed : p.seed = seed
  n : p.n = n
  ours : Rated p.ours
  b2 : Rated p.b2
  winner : p.winner = winnerOf p.deltaNetRecoveredInr
  delta : Rounding.OnGrid (10 ^ 2) p.deltaNetRecoveredInr
  scenarios : p.scenarios = scenarioBreakdown p.cases
  reconcile : ScenariosReconcile p.scenarios p.ours p.b2
  rows : ∀ row ∈ p.cases, Rounding.OnGrid (10 ^ 2) row.amountInr ∧
    Rounding.OnGrid (10 ^ 2) row.oursRecoveredInr ∧ Rounding.OnGrid (10 ^ 2) row.b2RecoveredInr

theorem scored_rated {label : String} {planFn : PlanFn} {seed : ℤ} {cases : List SimCase}
    (hamounts : ∀ case ∈ cases, 0 ≤ case.visible.amountPaise) {m : BatchMetrics}
    (h : scored costs rng label planFn seed cases = some m) : Rated m := by
  have hlengths : cases.length = (runBatch rng.random rng.seeded seed cases planFn).length := by
    rw [runBatch, List.length_map]
  obtain ⟨hlow, hhigh⟩ := recovered_between rng.random rng.seeded seed hamounts planFn
  have hzero : paiseToInr 0 = 0 := by simp [paiseToInr]
  have hpart := paiseToInr_mono hlow
  rw [hzero] at hpart
  rw [scored, computeMetrics, if_neg (not_not.2 hlengths)] at h
  obtain ⟨totals, -, h⟩ := Option.bind_eq_some_iff.1 h
  cases h
  constructor
  · simp only [round_paiseToInr]
    exact hpart
  · simp only [round_paiseToInr]
    exact paiseToInr_mono hhigh
  · rfl
  · simp only [round_paiseToInr]
    rfl
  · exact ⟨onGrid_round _ 2, onGrid_round _ 2⟩

theorem onGrid_of_buildCaseRows {seed : ℤ} {cases : List SimCase}
    {oursOutcomes b2Outcomes : List CaseOutcome} {rows : List CaseCompareRow}
    (h : buildCaseRows seed cases oursOutcomes b2Outcomes = some rows) :
    ∀ row ∈ rows, Rounding.OnGrid (10 ^ 2) row.amountInr ∧
      Rounding.OnGrid (10 ^ 2) row.oursRecoveredInr ∧
      Rounding.OnGrid (10 ^ 2) row.b2RecoveredInr := by
  refine Grouping.forall_mem_of_forall₂ (fun case row hrow => ?_) (Grouping.forall₂_of_mapM h)
  obtain ⟨o, -, hrow⟩ := Option.bind_eq_some_iff.1 hrow
  obtain ⟨b, -, hrow⟩ := Option.bind_eq_some_iff.1 hrow
  obtain ⟨plan, -, hrow⟩ := Option.bind_eq_some_iff.1 hrow
  cases hrow
  exact ⟨onGrid_round _ 2, onGrid_round _ 2, onGrid_round _ 2⟩

theorem compareSeed_compared (seed : ℤ) {n : ℤ} (hn : 0 < n) :
    ∃ p, compareSeed costs rng seed n = some p ∧ Compared seed n p := by
  obtain ⟨cases, rows, ours, b2, hcases, hrows, hours, hb2, hcompared, hreconcile⟩ :=
    compareSeed_reconciles costs rng seed hn
  have hamounts : ∀ case ∈ cases, 0 ≤ case.visible.amountPaise := by
    intro case hcase
    have hlisted : ∀ amount ∈ amountsPaise, 0 ≤ amount := by decide
    rw [generateBatch, if_neg (not_le.2 hn)] at hcases
    cases hcases
    exact hlisted _ (amount_of_mem_generateCases rng hcase)
  exact ⟨_, hcompared, rfl, rfl, scored_rated costs rng hamounts hours,
    scored_rated costs rng hamounts hb2, rfl, onGrid_round _ 2, rfl, hreconcile,
    onGrid_of_buildCaseRows hrows⟩

/-!
## All seeds
-/

/-- The rows of one failure reason. -/
def atReason (reason : String) (scenarios : List ScenarioBreakdownRow) :
    List ScenarioBreakdownRow :=
  scenarios.filter fun row => row.failureReason = reason

/-- A breakdown has one row for a reason that occurs, and none for another. -/
theorem sum_atReason {M : Type*} [AddCommMonoid M] {rows : List CaseCompareRow}
    {f : CaseCompareRow → M} {g : ScenarioBreakdownRow → M} (reason : String)
    (hrow : g (scenarioRow reason
        (Grouping.group CaseCompareRow.failureReason rows reason)) =
      ((Grouping.group CaseCompareRow.failureReason rows reason).map f).sum) :
    ((atReason reason (scenarioBreakdown rows)).map g).sum =
      ((Grouping.group CaseCompareRow.failureReason rows reason).map f).sum := by
  set reasons := ((rows.map (·.failureReason)).dedup).insertionSort (· ≤ ·) with hreasons
  have hperm := List.perm_insertionSort (· ≤ ·) ((rows.map (·.failureReason)).dedup)
  have hnodup : reasons.Nodup := hperm.nodup_iff.2 (List.nodup_dedup _)
  have hrows : atReason reason (scenarioBreakdown rows) =
      (reasons.filter fun r => r = reason).map fun r =>
        scenarioRow r (Grouping.group CaseCompareRow.failureReason rows r) := by
    rw [atReason, scenarioBreakdown, ← hreasons, List.filter_map]
    rfl
  rw [hrows, List.filter_eq reason]
  by_cases hmem : reason ∈ reasons
  · rw [List.count_eq_one_of_mem hnodup hmem]
    simpa using hrow
  · have hempty : Grouping.group CaseCompareRow.failureReason rows reason = [] := by
      refine List.eq_nil_iff_forall_not_mem.2 fun row hrow => hmem ?_
      obtain ⟨hlisted, rfl⟩ := Grouping.mem_group.1 hrow
      rw [hreasons, hperm.mem_iff, List.mem_dedup]
      exact List.mem_map_of_mem hlisted
    rw [List.count_eq_zero_of_not_mem hmem, hempty]
    rfl

/-- All amounts of the rows are whole paise. -/
def WholePaise (rows : List CaseCompareRow) : Prop :=
  ∀ row ∈ rows, Rounding.OnGrid (10 ^ 2) row.amountInr ∧
    Rounding.OnGrid (10 ^ 2) row.oursRecoveredInr ∧ Rounding.OnGrid (10 ^ 2) row.b2RecoveredInr

/-- A number of a breakdown that adds up one of the rows. -/
def AddsUp {M : Type*} [AddCommMonoid M] (g : ScenarioBreakdownRow → M) (f : CaseCompareRow → M) :
    Prop :=
  ∀ rows, WholePaise rows → ∀ reason,
    g (scenarioRow reason (Grouping.group CaseCompareRow.failureReason rows reason)) =
      ((Grouping.group CaseCompareRow.failureReason rows reason).map f).sum

theorem addsUp_nCases : AddsUp (·.nCases) fun _ => 1 :=
  fun rows _ reason => by simp [scenarioRow]

theorem addsUp_oursAtRisk : AddsUp (·.oursAtRiskInr) (·.amountInr) :=
  fun _ hrows => round_sum_group fun row hrow => (hrows row hrow).1

theorem addsUp_b2AtRisk : AddsUp (·.b2AtRiskInr) (·.amountInr) :=
  fun _ hrows => round_sum_group fun row hrow => (hrows row hrow).1

theorem addsUp_oursRecovered : AddsUp (·.oursRecoveredInr) (·.oursRecoveredInr) :=
  fun _ hrows => round_sum_group fun row hrow => (hrows row hrow).2.1

theorem addsUp_b2Recovered : AddsUp (·.b2RecoveredInr) (·.b2RecoveredInr) :=
  fun _ hrows => round_sum_group fun row hrow => (hrows row hrow).2.2

theorem addsUp_delta :
    AddsUp (·.deltaInr) fun row => row.oursRecoveredInr - row.b2RecoveredInr := by
  intro rows hrows reason
  have hgrid : ∀ row ∈ rows,
      Rounding.OnGrid (10 ^ 2) (row.oursRecoveredInr - row.b2RecoveredInr) :=
    fun row hrow => (hrows row hrow).2.1.sub (hrows row hrow).2.2
  have hsum := round_sum_group hgrid reason
  rw [Grouping.sum_map_sub] at hsum ⊢
  exact hsum

theorem addsUp_oursRecoveries :
    AddsUp (·.oursRecoveries) fun row => if row.oursRecovered then 1 else 0 :=
  fun _ _ _ => Grouping.countP_eq_sum _ _

theorem addsUp_b2Recoveries :
    AddsUp (·.b2Recoveries) fun row => if row.b2Recovered then 1 else 0 :=
  fun _ _ _ => Grouping.countP_eq_sum _ _

theorem wholePaise_flatMap {perSeed : List SeedPairResult}
    (h : ∀ p ∈ perSeed, WholePaise p.cases) : WholePaise (perSeed.flatMap (·.cases)) := by
  intro row hrow
  obtain ⟨p, hp, hmem⟩ := List.mem_flatMap.1 hrow
  exact h p hp row hmem

theorem sum_flatMap {α β M : Type*} [AddCommMonoid M] (xs : List α) (g : α → List β) (f : β → M) :
    ((xs.flatMap g).map f).sum = (xs.map fun x => ((g x).map f).sum).sum := by
  induction xs with
  | nil => rfl
  | cons x xs ih =>
      rw [List.flatMap_cons, List.map_append, List.sum_append, ih, List.map_cons, List.sum_cons]

/-- What adds up does so reason by reason, and over all reasons. -/
theorem AddsUp.pooled {M : Type*} [AddCommMonoid M] {g : ScenarioBreakdownRow → M}
    {f : CaseCompareRow → M} (h : AddsUp g f) {perSeed : List SeedPairResult}
    (hrows : ∀ p ∈ perSeed, WholePaise p.cases)
    (hscenarios : ∀ p ∈ perSeed, p.scenarios = scenarioBreakdown p.cases) :
    (∀ reason, ((atReason reason (scenarioBreakdown (perSeed.flatMap (·.cases)))).map g).sum =
      (perSeed.map fun p => ((atReason reason p.scenarios).map g).sum).sum) ∧
    ((scenarioBreakdown (perSeed.flatMap (·.cases))).map g).sum =
      (perSeed.map fun p => (p.scenarios.map g).sum).sum := by
  have hall := wholePaise_flatMap hrows
  constructor
  · intro reason
    rw [sum_atReason reason (h _ hall reason), Grouping.group, List.filter_flatMap, sum_flatMap]
    congr 1
    refine List.map_congr_left fun p hp => ?_
    rw [hscenarios p hp, sum_atReason reason (h _ (hrows p hp) reason)]
    rfl
  · rw [sum_scenarioBreakdown (h _ hall), sum_flatMap]
    congr 1
    refine List.map_congr_left fun p hp => ?_
    rw [hscenarios p hp, sum_scenarioBreakdown (h _ (hrows p hp))]

/-- The breakdown of all rows says of every reason what those of the seeds say together. -/
def ByReason {M : Type*} [AddCommMonoid M] (r : MultiSeedReport) (g : ScenarioBreakdownRow → M) :
    Prop :=
  ∀ reason, ((atReason reason r.scenariosPooled).map g).sum =
    (r.perSeed.map fun p => ((atReason reason p.scenarios).map g).sum).sum

/-- The report against its seeds. -/
structure MultiSeedReconciles (seeds : List ℤ) (n : ℤ) (r : MultiSeedReport) : Prop where
  perSeed : List.Forall₂ (fun seed p => compareSeed costs rng seed n = some p) seeds r.perSeed
  totalCases : r.totalCases = n * seeds.length
  oursRecovered : r.oursTotalRecoveredInr = (r.perSeed.map (·.ours.recoveredInr)).sum
  b2Recovered : r.b2TotalRecoveredInr = (r.perSeed.map (·.b2.recoveredInr)).sum
  atRisk : r.oursTotalAtRiskInr = (r.perSeed.map (·.ours.atRiskInr)).sum ∧
    r.b2TotalAtRiskInr = r.oursTotalAtRiskInr
  winners : r.seedsWonOurs + r.seedsWonB2 + r.seedsTied = seeds.length
  winRate : r.winRateOurs ∈ Set.Icc 0 1
  worst : ∃ p ∈ r.perSeed, r.worstSeedForOurs = some p.seed ∧
    r.worstSeedDeltaNetInr = p.deltaNetRecoveredInr ∧
    ∀ q ∈ r.perSeed, p.deltaNetRecoveredInr ≤ q.deltaNetRecoveredInr
  best : ∃ p ∈ r.perSeed, r.bestSeedForOurs = some p.seed ∧
    r.bestSeedDeltaNetInr = p.deltaNetRecoveredInr ∧
    ∀ q ∈ r.perSeed, q.deltaNetRecoveredInr ≤ p.deltaNetRecoveredInr
  oursRate : ∀ low high, (∀ p ∈ r.perSeed, p.ours.recoveryRate ∈ Set.Icc low high) →
    r.oursPooledRecoveryRate ∈ Set.Icc low high
  b2Rate : ∀ low high, (∀ p ∈ r.perSeed, p.b2.recoveryRate ∈ Set.Icc low high) →
    r.b2PooledRecoveryRate ∈ Set.Icc low high
  byReason : ByReason r (·.nCases) ∧ ByReason r (·.deltaInr) ∧
    (ByReason r (·.oursAtRiskInr) ∧ ByReason r (·.b2AtRiskInr)) ∧
    (ByReason r (·.oursRecoveredInr) ∧ ByReason r (·.b2RecoveredInr)) ∧
    ByReason r (·.oursRecoveries) ∧ ByReason r (·.b2Recoveries)
  headline : (r.scenariosPooled.map (·.oursAtRiskInr)).sum = r.oursTotalAtRiskInr ∧
    (r.scenariosPooled.map (·.oursRecoveredInr)).sum = r.oursTotalRecoveredInr ∧
    (r.scenariosPooled.map (·.b2RecoveredInr)).sum = r.b2TotalRecoveredInr ∧
    (r.scenariosPooled.map (·.oursRecoveries)).sum = r.oursTotalRecoveries ∧
    (r.scenariosPooled.map (·.b2Recoveries)).sum = r.b2TotalRecoveries

theorem scalarStats_of_ne_nil {values : List ℚ} (hne : values ≠ []) :
    ∃ stats, scalarStats stdev values = some stats := by
  have hten : (10 : ℚ) ∈ Set.Icc (0 : ℚ) 100 := by constructor <;> norm_num
  have hninety : (90 : ℚ) ∈ Set.Icc (0 : ℚ) 100 := by constructor <;> norm_num
  exact ⟨_, by rw [scalarStats, if_neg hne, median_eq hne, percentile_eq hne hten,
    percentile_eq hne hninety, orderStatistic_zero hne, orderStatistic_last hne]; rfl⟩

theorem countP_winner (perSeed : List SeedPairResult) :
    perSeed.countP (fun p => p.winner = .ours) + perSeed.countP (fun p => p.winner = .b2) +
      perSeed.countP (fun p => p.winner = .tie) = perSeed.length := by
  induction perSeed with
  | nil => rfl
  | cons p perSeed ih =>
      rw [List.countP_cons, List.countP_cons, List.countP_cons, List.length_cons, ← ih]
      cases p.winner <;> simp <;> omega

theorem roundedShare_eq (part whole : ℚ) (digits : ℕ) :
    roundedShare part whole digits 0 = round (Pooling.share part whole) digits := by
  unfold roundedShare Pooling.share
  split
  · rfl
  · exact (round_of_onGrid (Rounding.onGrid_zero _)).symm

/-- The pooled rate lies where all the rates lie, rounded as they are. -/
theorem pooledRate_mem {perSeed : List SeedPairResult} (hne : perSeed ≠ [])
    {metrics : SeedPairResult → BatchMetrics} (h : ∀ p ∈ perSeed, Rated (metrics p)) {low high : ℚ}
    (hrates : ∀ p ∈ perSeed, (metrics p).recoveryRate ∈ Set.Icc low high) :
    roundedShare (perSeed.map fun p => (metrics p).recoveredInr).sum
      (perSeed.map fun p => (metrics p).atRiskInr).sum 6 0 ∈ Set.Icc low high := by
  obtain ⟨least, hleast⟩ := Option.ne_none_iff_exists'.1 (mt (List.argmin_eq_none
    (f := fun p => Pooling.share (metrics p).recoveredInr (metrics p).atRiskInr)).1 hne)
  obtain ⟨most, hmost⟩ := Option.ne_none_iff_exists'.1 (mt (List.argmax_eq_none
    (f := fun p => Pooling.share (metrics p).recoveredInr (metrics p).atRiskInr)).1 hne)
  have hpooled := Pooling.share_sum_mem hne
    (fun p hp => (h p hp).recovered_nonneg.trans (h p hp).recovered_le)
    (fun p hp hzero => le_antisymm (hzero ▸ (h p hp).recovered_le) (h p hp).recovered_nonneg)
    fun p hp => ⟨List.le_of_mem_argmin hp hleast, List.le_of_mem_argmax hp hmost⟩
  have hlow := hrates least (List.argmin_mem hleast)
  have hhigh := hrates most (List.argmax_mem hmost)
  rw [(h least (List.argmin_mem hleast)).rate] at hlow
  rw [(h most (List.argmax_mem hmost)).rate] at hhigh
  rw [roundedShare_eq]
  exact ⟨hlow.1.trans (round_mono 6 hpooled.1), (round_mono 6 hpooled.2).trans hhigh.2⟩

theorem onGrid_sum_map {perSeed : List SeedPairResult} {f : SeedPairResult → ℚ}
    (h : ∀ p ∈ perSeed, Rounding.OnGrid (10 ^ 2) (f p)) :
    round (perSeed.map f).sum 2 = (perSeed.map f).sum := by
  refine round_of_onGrid (Rounding.onGrid_sum fun x hx => ?_)
  obtain ⟨p, hp, rfl⟩ := List.mem_map.1 hx
  exact h p hp

/-- `run_multi_seed` has a report on seeds that there are, and it reconciles with them. -/
theorem runMultiSeed_reconciles {seeds : List ℤ} (hseeds : seeds ≠ []) {n : ℤ} (hn : 0 < n) :
    ∃ r, runMultiSeed costs rng stdev seeds n = some r ∧
      MultiSeedReconciles costs rng seeds n r := by
  have hseed : ∀ seed ∈ seeds, ∃ p, compareSeed costs rng seed n = some p ∧
      (compareSeed costs rng seed n = some p ∧ Compared seed n p) := fun seed _ => by
    obtain ⟨p, hp, hcompared⟩ := compareSeed_compared costs rng seed hn
    exact ⟨p, hp, hp, hcompared⟩
  obtain ⟨perSeed, hperSeed, hcompared⟩ := Grouping.mapM_of_forall hseed
  have hall : ∀ p ∈ perSeed, ∃ seed, Compared seed n p :=
    Grouping.forall_mem_of_forall₂ (fun seed _ h => ⟨seed, h.2⟩) hcompared
  have hlength : perSeed.length = seeds.length := hcompared.length_eq.symm
  have hne : perSeed ≠ [] := by
    rw [← List.length_pos_iff] at hseeds ⊢
    omega
  have hours : ∀ p ∈ perSeed, Rated p.ours := fun p hp => (hall p hp).elim fun _ h => h.ours
  have hb2 : ∀ p ∈ perSeed, Rated p.b2 := fun p hp => (hall p hp).elim fun _ h => h.b2
  have hrows : ∀ p ∈ perSeed, WholePaise p.cases := fun p hp => (hall p hp).elim fun _ h => h.rows
  have hscenarios : ∀ p ∈ perSeed, p.scenarios = scenarioBreakdown p.cases :=
    fun p hp => (hall p hp).elim fun _ h => h.scenarios
  have hreconcile : ∀ p ∈ perSeed, ScenariosReconcile p.scenarios p.ours p.b2 :=
    fun p hp => (hall p hp).elim fun _ h => h.reconcile
  have hdelta : ∀ p ∈ perSeed, round p.deltaNetRecoveredInr 2 = p.deltaNetRecoveredInr :=
    fun p hp => (hall p hp).elim fun _ h => round_of_onGrid h.delta
  have hstats : ∀ f : SeedPairResult → ℚ, ∃ stats, scalarStats stdev (perSeed.map f) = some stats :=
    fun f => scalarStats_of_ne_nil stdev (by simpa using hne)
  obtain ⟨stats₁, hstats₁⟩ := hstats (·.ours.recoveredInr)
  obtain ⟨stats₂, hstats₂⟩ := hstats (·.b2.recoveredInr)
  obtain ⟨stats₃, hstats₃⟩ := hstats (·.deltaRecoveredInr)
  obtain ⟨stats₄, hstats₄⟩ := hstats (·.deltaNetRecoveredInr)
  obtain ⟨stats₅, hstats₅⟩ := hstats (·.ours.recoveryRate)
  obtain ⟨stats₆, hstats₆⟩ := hstats (·.b2.recoveryRate)
  have hoursAtRisk := onGrid_sum_map fun p hp => (hours p hp).grid.2
  have hb2AtRisk := onGrid_sum_map fun p hp => (hb2 p hp).grid.2
  have hoursSum := onGrid_sum_map fun p hp => (hours p hp).grid.1
  have hb2Sum := onGrid_sum_map fun p hp => (hb2 p hp).grid.1
  have hsameRisk : (perSeed.map (·.b2.atRiskInr)).sum = (perSeed.map (·.ours.atRiskInr)).sum := by
    congr 1
    refine List.map_congr_left fun p hp => ?_
    rw [← (hreconcile p hp).oursAtRisk, ← (hreconcile p hp).b2AtRisk, hscenarios p hp,
      scenarioBreakdown, List.map_map, List.map_map]
    rfl
  obtain ⟨worst, hworst⟩ := Option.ne_none_iff_exists'.1
    (mt (List.argmin_eq_none (f := fun p : SeedPairResult => p.deltaNetRecoveredInr)).1 hne)
  obtain ⟨best, hbest⟩ := Option.ne_none_iff_exists'.1
    (mt (List.argmax_eq_none (f := fun p : SeedPairResult => p.deltaNetRecoveredInr)).1 hne)
  have hworstEq : worstSeedForOurs perSeed = (some worst.seed, worst.deltaNetRecoveredInr) := by
    rw [worstSeedForOurs, hworst, ← hdelta worst (List.argmin_mem hworst)]
  have hbestEq : bestSeedForOurs perSeed = (some best.seed, best.deltaNetRecoveredInr) := by
    rw [bestSeedForOurs, hbest, ← hdelta best (List.argmax_mem hbest)]
  refine ⟨_, by rw [runMultiSeed, if_neg hseeds, hperSeed]; simp only [Option.bind_eq_bind,
    Option.bind_some, hstats₁, hstats₂, hstats₃, hstats₄, hstats₅, hstats₆]; rfl, ?_⟩
  constructor
  · exact hcompared.imp fun _ _ h => h.1
  · have hn : ∀ p ∈ perSeed, p.n = n := fun p hp => (hall p hp).elim fun _ h => h.n
    rw [List.map_congr_left hn, List.map_const', List.sum_replicate, nsmul_eq_mul, hlength,
      mul_comm]
  · exact hoursSum
  · exact hb2Sum
  · exact ⟨hoursAtRisk, hb2AtRisk.trans (hsameRisk.trans hoursAtRisk.symm)⟩
  · exact (countP_winner perSeed).trans hlength
  · simp only [roundedShare_eq]
    exact rate_within (Nat.cast_nonneg _)
      (Nat.cast_le.2 (List.countP_le_length.trans hlength.le)) 4
  · simp only [hworstEq]
    exact ⟨worst, List.argmin_mem hworst, rfl, rfl, fun q hq => List.le_of_mem_argmin hq hworst⟩
  · simp only [hbestEq]
    exact ⟨best, List.argmax_mem hbest, rfl, rfl, fun q hq => List.le_of_mem_argmax hq hbest⟩
  · exact fun low high hrates => pooledRate_mem hne hours hrates
  · exact fun low high hrates => pooledRate_mem hne hb2 hrates
  · exact ⟨(addsUp_nCases.pooled hrows hscenarios).1, (addsUp_delta.pooled hrows hscenarios).1,
      ⟨(addsUp_oursAtRisk.pooled hrows hscenarios).1, (addsUp_b2AtRisk.pooled hrows hscenarios).1⟩,
      ⟨(addsUp_oursRecovered.pooled hrows hscenarios).1,
        (addsUp_b2Recovered.pooled hrows hscenarios).1⟩,
      (addsUp_oursRecoveries.pooled hrows hscenarios).1,
      (addsUp_b2Recoveries.pooled hrows hscenarios).1⟩
  · refine ⟨(addsUp_oursAtRisk.pooled hrows hscenarios).2.trans ?_,
      (addsUp_oursRecovered.pooled hrows hscenarios).2.trans ?_,
      (addsUp_b2Recovered.pooled hrows hscenarios).2.trans ?_,
      (addsUp_oursRecoveries.pooled hrows hscenarios).2.trans ?_,
      (addsUp_b2Recoveries.pooled hrows hscenarios).2.trans ?_⟩
    · rw [List.map_congr_left fun p hp => (hreconcile p hp).oursAtRisk]
      exact hoursAtRisk.symm
    · rw [List.map_congr_left fun p hp => (hreconcile p hp).oursGross.trans (hours p hp).gross]
      exact hoursSum.symm
    · rw [List.map_congr_left fun p hp => (hreconcile p hp).b2Gross.trans (hb2 p hp).gross]
      exact hb2Sum.symm
    · rw [List.map_congr_left fun p hp => (hreconcile p hp).oursRecoveries]
    · rw [List.map_congr_left fun p hp => (hreconcile p hp).b2Recoveries]

/-- The seeds that the page ends up with. -/
def shownSeeds (seedsRaw : Option String) : List ℤ :=
  match parseSeedsArg (seedsRaw.getD "42-51") with
  | .ok (seed :: seeds) => seed :: seeds
  | _ => defaultMultiSeeds

/-- The text asks for a range of more seeds than a list can hold. -/
def AsksTooMany (seedsRaw : Option String) : Prop :=
  let letters := (strip (seedsRaw.getD "42-51")).toList
  ('-' ∈ letters ∧ ',' ∉ letters) ∧ ∃ start stop,
    intOfText (strip (.ofList (letters.takeWhile (· ≠ '-')))) = some start ∧
    intOfText (strip (.ofList ((letters.dropWhile (· ≠ '-')).drop 1))) = some stop ∧
    2 ^ 60 ≤ stop + 1 - start

theorem seedOfText_eq_error {text : String} {e : SeedsError} (h : seedOfText text = .error e) :
    e = .valueError := by
  unfold seedOfText at h
  split at h
  · cases h
  · cases h
    rfl

theorem mapM_seedOfText_eq_error {texts : List String} {e : SeedsError}
    (h : texts.mapM seedOfText = .error e) : e = .valueError := by
  induction texts with
  | nil => cases h
  | cons text texts ih =>
      rw [List.mapM_cons] at h
      cases hseed : seedOfText text with
      | error e' =>
          rw [hseed] at h
          cases h
          exact seedOfText_eq_error hseed
      | ok seed =>
          rw [hseed] at h
          cases hrest : texts.mapM seedOfText with
          | error e' =>
              rw [hrest] at h
              cases h
              exact ih hrest
          | ok seeds =>
              rw [hrest] at h
              cases h

/-- What a range raises that does not go down. -/
theorem listRange_escapes_iff {start stop : ℤ} :
    (∃ e, listRange start stop = .error e ∧ e ≠ .valueError) ↔ 2 ^ 60 ≤ stop + 1 - start := by
  unfold listRange
  split
  · exact iff_of_true ⟨_, rfl, nofun⟩ (by omega)
  · split
    · exact iff_of_true ⟨_, rfl, nofun⟩ (by omega)
    · exact iff_of_false nofun (by omega)

/-- A parsed text raises anything but a `ValueError` exactly when it asks for too many seeds. -/
theorem parseSeedsArg_escapes_iff (seedsRaw : Option String) :
    (∃ e, parseSeedsArg (seedsRaw.getD "42-51") = .error e ∧ e ≠ .valueError) ↔
      AsksTooMany seedsRaw := by
  unfold parseSeedsArg AsksTooMany
  generalize (strip (seedsRaw.getD "42-51")).toList = letters
  simp only
  by_cases hnil : letters = []
  · rw [if_pos hnil]
    refine iff_of_false nofun fun h => ?_
    rw [hnil] at h
    exact absurd h.1.1 List.not_mem_nil
  rw [if_neg hnil]
  by_cases hranged : '-' ∈ letters ∧ ',' ∉ letters
  · rw [if_pos hranged, and_iff_right hranged, rangedSeeds]
    simp only [seedOfText]
    cases intOfText (strip (.ofList (letters.takeWhile (· ≠ '-')))) with
    | none => exact iff_of_false (by rintro ⟨e, ⟨⟩, he⟩; exact he rfl) (by simp)
    | some start =>
        cases intOfText (strip (.ofList ((letters.dropWhile (· ≠ '-')).drop 1))) with
        | none => exact iff_of_false (by rintro ⟨e, ⟨⟩, he⟩; exact he rfl) (by simp)
        | some stop =>
            change (∃ e, (if stop < start then _ else listRange start stop) = .error e ∧ _) ↔ _
            simp only [Option.some.injEq, exists_and_left, exists_eq_left']
            by_cases hback : stop < start
            · rw [if_pos hback]
              refine iff_of_false ?_ (by omega)
              rintro ⟨e, herror, he⟩
              cases herror
              exact he rfl
            · rw [if_neg hback]
              exact listRange_escapes_iff
  · rw [if_neg hranged]
    refine iff_of_false ?_ fun h => hranged h.1
    rintro ⟨e, herror, he⟩
    exact he (mapM_seedOfText_eq_error herror)

/-- The page raises what it does not answer. -/
theorem batchDistributionPage_of_asksTooMany (nRaw : Option String) {seedsRaw : Option String}
    (h : AsksTooMany seedsRaw) :
    ∃ e, batchDistributionPage costs rng stdev nRaw seedsRaw = .error e := by
  obtain ⟨e, hparse, he⟩ := (parseSeedsArg_escapes_iff seedsRaw).2 h
  unfold batchDistributionPage
  rw [hparse]
  cases seedOfText (nRaw.getD "200") with
  | error e => exact ⟨e, rfl⟩
  | ok n =>
      cases e with
      | valueError => exact absurd rfl he
      | overflowError => exact ⟨_, rfl⟩
      | memoryError => exact ⟨_, rfl⟩

theorem shownSeeds_ne_nil (seedsRaw : Option String) : shownSeeds seedsRaw ≠ [] := by
  have hdefault : defaultMultiSeeds ≠ [] := by decide
  unfold shownSeeds
  split
  · exact List.cons_ne_nil _ _
  · exact hdefault

/-- Otherwise it reports on its seeds. -/
theorem batchDistributionPage_eq {nRaw seedsRaw : Option String} {n : ℤ}
    (hn : intOfText (nRaw.getD "200") = some n) (h : ¬AsksTooMany seedsRaw) :
    batchDistributionPage costs rng stdev nRaw seedsRaw =
      .ok (runMultiSeed costs rng stdev (shownSeeds seedsRaw) (max 10 (min n 1000))) := by
  have hdefault : defaultMultiSeeds ≠ [] := by decide
  have hread : seedOfText (nRaw.getD "200") = .ok n := by rw [seedOfText, hn]
  have hcaught := mt (parseSeedsArg_escapes_iff seedsRaw).1 h
  unfold batchDistributionPage shownSeeds
  rw [hread]
  cases hparse : parseSeedsArg (seedsRaw.getD "42-51") with
  | ok seeds =>
      cases seeds with
      | nil => exact congrArg Except.ok (by rw [runMultiSeedReport, if_pos rfl])
      | cons seed seeds =>
          exact congrArg Except.ok (by rw [runMultiSeedReport, if_neg (List.cons_ne_nil _ _)])
  | error e =>
      cases e with
      | valueError => exact congrArg Except.ok (by rw [runMultiSeedReport, if_neg hdefault])
      | overflowError => exact absurd ⟨_, hparse, by decide⟩ hcaught
      | memoryError => exact absurd ⟨_, hparse, by decide⟩ hcaught

/-- The distribution page raises exactly when it is asked for a number of cases that is no
integer, or for a range that no list can hold. Otherwise the seeds are those of the text, or the
default ones where it has none that can be read, the number of cases is cut to the limits of
the page, and the report reconciles with its seeds. -/
theorem distribution_page_reconciles (nRaw seedsRaw : Option String) :
    ((intOfText (nRaw.getD "200") = none ∨ AsksTooMany seedsRaw) ∧
      ∃ e, batchDistributionPage costs rng stdev nRaw seedsRaw = .error e) ∨
    ∃ n r, intOfText (nRaw.getD "200") = some n ∧ ¬AsksTooMany seedsRaw ∧
      batchDistributionPage costs rng stdev nRaw seedsRaw = .ok (some r) ∧
      MultiSeedReconciles costs rng (shownSeeds seedsRaw) (max 10 (min n 1000)) r := by
  by_cases hmany : AsksTooMany seedsRaw
  · exact Or.inl ⟨Or.inr hmany, batchDistributionPage_of_asksTooMany costs rng stdev nRaw hmany⟩
  cases hn : intOfText (nRaw.getD "200") with
  | none =>
      refine Or.inl ⟨Or.inl rfl, .valueError, ?_⟩
      rw [batchDistributionPage, seedOfText, hn]
      rfl
  | some n =>
      have hpos : 0 < max 10 (min n 1000) := lt_max_of_lt_left (by norm_num)
      obtain ⟨r, hr, hreconciles⟩ :=
        runMultiSeed_reconciles costs rng stdev (shownSeeds_ne_nil seedsRaw) hpos
      refine Or.inr ⟨n, r, rfl, hmany, ?_, hreconciles⟩
      rw [batchDistributionPage_eq costs rng stdev hn hmany, hr]

end

end RecoveryAgent.Eval
