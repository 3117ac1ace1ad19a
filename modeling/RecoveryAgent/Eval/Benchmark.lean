import Mathlib.Data.String.Basic
import RecoveryAgent.Eval.Played
import RecoveryAgent.Eval.Segments
import RecoveryAgent.Library.Table

/-!
# The breakdown by failure reason

`eval/benchmark.py`: one row for each case with the results of both policies, found by
the key of the case, and the rows in buckets by their failure reason.
-/

namespace RecoveryAgent.Eval

open Python Config Library

structure PlanSummary where
  verbs : List String
  notes : List String := []

structure CaseCompareRow where
  seed : ℤ
  caseKey : String
  failureReason : String
  amountPaise : ℤ
  amountInr : ℚ
  oursPlan : PlanSummary
  b2Plan : PlanSummary
  oursRecovered : Bool
  b2Recovered : Bool
  oursRecoveredPaise : ℤ
  b2RecoveredPaise : ℤ
  oursRecoveredInr : ℚ
  b2RecoveredInr : ℚ
  deltaInr : ℚ
  oursRetries : ℕ
  b2Retries : ℕ
  oursContacts : ℕ
  b2Contacts : ℕ
  oursNotes : List String := []
  b2Notes : List String := []

structure ScenarioBreakdownRow where
  failureReason : String
  nCases : ℕ
  oursRecoveredInr : ℚ
  b2RecoveredInr : ℚ
  deltaInr : ℚ
  oursRecoveries : ℕ
  b2Recoveries : ℕ
  oursRecoveryRate : ℚ
  b2RecoveryRate : ℚ
  oursAtRiskInr : ℚ
  b2AtRiskInr : ℚ

def planSummary (actions : List PlannedAction) : PlanSummary where
  verbs := actions.map (·.verb.value)
  notes := (actions.map (·.note)).filter (· ≠ "")

/-- A lookup in `_outcome_by_key`: of two outcomes with one key the later wins. -/
def outcomeByKey (outcomes : List CaseOutcome) (key : String) : Option CaseOutcome :=
  outcomes.reverse.find? fun o => o.caseKey = key

/-- One round of the loop of `build_case_rows`. It raises when a policy has no outcome
under the key. -/
def buildCaseRow (seed : ℤ) (oursOutcomes b2Outcomes : List CaseOutcome) (case : SimCase) :
    Option CaseCompareRow := do
  let key := case.visible.caseKey
  let o ← outcomeByKey oursOutcomes key
  let b ← outcomeByKey b2Outcomes key
  let oInr := paiseToInr o.recoveredPaise
  let bInr := paiseToInr b.recoveredPaise
  let planOurs ← policyOursFromTaxonomy case
  some
    { seed
      caseKey := key
      failureReason := case.visible.failureReason.value
      amountPaise := case.visible.amountPaise
      amountInr := round (paiseToInr case.visible.amountPaise) 2
      oursPlan := planSummary planOurs
      b2Plan := planSummary (baselineB2 case)
      oursRecovered := o.recovered
      b2Recovered := b.recovered
      oursRecoveredPaise := o.recoveredPaise
      b2RecoveredPaise := b.recoveredPaise
      oursRecoveredInr := round oInr 2
      b2RecoveredInr := round bInr 2
      deltaInr := round (oInr - bInr) 2
      oursRetries := o.retries
      b2Retries := b.retries
      oursContacts := o.contacts
      b2Contacts := b.contacts
      oursNotes := o.notes
      b2Notes := b.notes }

def buildCaseRows (seed : ℤ) (cases : List SimCase) (oursOutcomes b2Outcomes : List CaseOutcome) :
    Option (List CaseCompareRow) :=
  cases.mapM (buildCaseRow seed oursOutcomes b2Outcomes)

/-- The row of one failure reason. -/
def scenarioRow (reason : String) (group : List CaseCompareRow) : ScenarioBreakdownRow :=
  let atRisk := (group.map (·.amountInr)).sum
  let oursRec := (group.map (·.oursRecoveredInr)).sum
  let b2Rec := (group.map (·.b2RecoveredInr)).sum
  let oursWins := group.countP (·.oursRecovered)
  let b2Wins := group.countP (·.b2Recovered)
  { failureReason := reason
    nCases := group.length
    oursRecoveredInr := round oursRec 2
    b2RecoveredInr := round b2Rec 2
    deltaInr := round (oursRec - b2Rec) 2
    oursRecoveries := oursWins
    b2Recoveries := b2Wins
    oursRecoveryRate := if group.length ≠ 0 then round (oursWins / group.length) 6 else 0
    b2RecoveryRate := if group.length ≠ 0 then round (b2Wins / group.length) 6 else 0
    oursAtRiskInr := round atRisk 2
    b2AtRiskInr := round atRisk 2 }

/-- `scenario_breakdown`: one row for each failure reason that occurs, in order. -/
def scenarioBreakdown (rows : List CaseCompareRow) : List ScenarioBreakdownRow :=
  (((rows.map (·.failureReason)).dedup).insertionSort (· ≤ ·)).map fun reason =>
    scenarioRow reason (Grouping.group CaseCompareRow.failureReason rows reason)

/-!
## The rows of the cases
-/

/-- Every case has its outcome, in the same place. -/
def Aligned (cases : List SimCase) (outcomes : List CaseOutcome) : Prop :=
  cases.map (·.visible.caseKey) = outcomes.map (·.caseKey)

instance : Keyed CaseOutcome String := ⟨CaseOutcome.caseKey⟩

/-- Where no two outcomes share a key, each is found under its own. -/
theorem outcomeByKey_of_mem {outcomes : List CaseOutcome}
    (hkeys : (outcomes.map (·.caseKey)).Nodup) {o : CaseOutcome} (h : o ∈ outcomes) :
    outcomeByKey outcomes o.caseKey = some o := by
  have hnodup : (outcomes.reverse.map Keyed.key).Nodup := by
    rw [List.map_reverse, List.nodup_reverse]
    exact hkeys
  exact Table.get?_of_mem (t := ⟨outcomes.reverse, hnodup⟩) (List.mem_reverse.2 h)

/-- What the outcome of a case has, found by its key. -/
def found {M : Type*} [Zero M] (outcomes : List CaseOutcome) (f : CaseOutcome → M)
    (case : SimCase) : M :=
  ((outcomeByKey outcomes case.visible.caseKey).map f).getD 0

section

variable {cases : List SimCase} {outcomes : List CaseOutcome}

theorem Aligned.nodup (h : Aligned cases outcomes)
    (hkeys : (cases.map (·.visible.caseKey)).Nodup) : (outcomes.map (·.caseKey)).Nodup :=
  h ▸ hkeys

/-- Aligned lists are the two sides of a list of pairs. -/
theorem Aligned.pairs (h : Aligned cases outcomes) :
    ∃ ps : List (SimCase × CaseOutcome), cases = ps.map Prod.fst ∧ outcomes = ps.map Prod.snd := by
  have hlength : cases.length = outcomes.length := by
    have hmapped := congrArg List.length h
    rwa [List.length_map, List.length_map] at hmapped
  exact ⟨cases.zip outcomes, (List.map_fst_zip hlength.le).symm,
    (List.map_snd_zip hlength.ge).symm⟩

/-- A case finds its outcome. -/
theorem Aligned.outcomeByKey (h : Aligned cases outcomes)
    (hkeys : (cases.map (·.visible.caseKey)).Nodup) {case : SimCase} (hcase : case ∈ cases) :
    ∃ o, Eval.outcomeByKey outcomes case.visible.caseKey = some o := by
  have hmem : case.visible.caseKey ∈ outcomes.map (·.caseKey) :=
    h ▸ List.mem_map_of_mem hcase
  obtain ⟨o, ho, hkey⟩ := List.mem_map.1 hmem
  exact ⟨o, hkey ▸ outcomeByKey_of_mem (h.nodup hkeys) ho⟩

/-- What the cases find adds up over the outcomes. -/
theorem Aligned.sum_found {M : Type*} [AddCommMonoid M] (h : Aligned cases outcomes)
    (hkeys : (cases.map (·.visible.caseKey)).Nodup) (f : CaseOutcome → M) :
    (cases.map (found outcomes f)).sum = (outcomes.map f).sum := by
  have hbykey : cases.map (found outcomes f) = (cases.map (·.visible.caseKey)).map
      fun key => ((Eval.outcomeByKey outcomes key).map f).getD 0 := by
    rw [List.map_map]
    rfl
  rw [hbykey, h, List.map_map]
  congr 1
  apply List.map_congr_left
  intro o ho
  simp [outcomeByKey_of_mem (h.nodup hkeys) ho]

end

/-- The row of a case holds what both policies found for it. -/
structure RowTallied (oursOutcomes b2Outcomes : List CaseOutcome) (case : SimCase)
    (row : CaseCompareRow) : Prop where
  amount : row.amountInr = paiseToInr case.visible.amountPaise
  ours : row.oursRecoveredInr = found oursOutcomes (fun o => paiseToInr o.recoveredPaise) case
  b2 : row.b2RecoveredInr = found b2Outcomes (fun o => paiseToInr o.recoveredPaise) case
  oursWins : (if row.oursRecovered then 1 else 0) =
    found oursOutcomes (fun o => if o.recovered then 1 else 0) case
  b2Wins : (if row.b2Recovered then 1 else 0) =
    found b2Outcomes (fun o => if o.recovered then 1 else 0) case
  grid : Rounding.OnGrid (10 ^ 2) row.amountInr ∧ Rounding.OnGrid (10 ^ 2) row.oursRecoveredInr ∧
    Rounding.OnGrid (10 ^ 2) row.b2RecoveredInr

/-- `build_case_rows` on aligned outcomes, when `ours` has a plan for every case. -/
theorem buildCaseRows_tallied (seed : ℤ) {cases : List SimCase}
    {oursOutcomes b2Outcomes : List CaseOutcome} (hkeys : (cases.map (·.visible.caseKey)).Nodup)
    (hours : Aligned cases oursOutcomes) (hb2 : Aligned cases b2Outcomes)
    (hplanned : ∀ case ∈ cases, (policyOursFromTaxonomy case).isSome) :
    ∃ rows, buildCaseRows seed cases oursOutcomes b2Outcomes = some rows ∧
      List.Forall₂ (RowTallied oursOutcomes b2Outcomes) cases rows := by
  apply Grouping.mapM_of_forall
  intro case hcase
  obtain ⟨o, ho⟩ := hours.outcomeByKey hkeys hcase
  obtain ⟨b, hb⟩ := hb2.outcomeByKey hkeys hcase
  obtain ⟨plan, hplan⟩ := Option.isSome_iff_exists.1 (hplanned case hcase)
  refine ⟨_, by rw [buildCaseRow, ho, hb, hplan]; rfl, ?_⟩
  constructor
  · exact round_paiseToInr _
  · simp only [found, ho]
    exact round_paiseToInr _
  · simp only [found, hb]
    exact round_paiseToInr _
  · simp [found, ho]
  · simp [found, hb]
  · exact ⟨onGrid_round _ 2, onGrid_round _ 2, onGrid_round _ 2⟩

/-!
## The scenarios add up
-/

/-- What is a sum over each bucket is, over all reasons, the sum over the rows. -/
theorem sum_scenarioBreakdown {M : Type*} [AddCommMonoid M] {rows : List CaseCompareRow}
    {f : CaseCompareRow → M} {g : ScenarioBreakdownRow → M}
    (hrow : ∀ reason, g (scenarioRow reason
        (Grouping.group CaseCompareRow.failureReason rows reason)) =
      ((Grouping.group CaseCompareRow.failureReason rows reason).map f).sum) :
    ((scenarioBreakdown rows).map g).sum = (rows.map f).sum := by
  have hperm := List.perm_insertionSort (· ≤ ·) ((rows.map (·.failureReason)).dedup)
  have hnodup : (((rows.map (·.failureReason)).dedup).insertionSort (· ≤ ·)).Nodup :=
    hperm.nodup_iff.2 (List.nodup_dedup _)
  have hcovers : ∀ row ∈ rows, row.failureReason ∈
      ((rows.map (·.failureReason)).dedup).insertionSort (· ≤ ·) := by
    intro row hmem
    rw [hperm.mem_iff, List.mem_dedup]
    exact List.mem_map_of_mem hmem
  rw [scenarioBreakdown, List.map_map, ← Grouping.sum_groups f hnodup hcovers]
  congr 1
  apply List.map_congr_left
  intro reason _
  exact hrow reason

/-- Two digits survive a sum over a bucket. -/
theorem round_sum_group {rows : List CaseCompareRow} {f : CaseCompareRow → ℚ}
    (hgrid : ∀ row ∈ rows, Rounding.OnGrid (10 ^ 2) (f row)) (reason : String) :
    round ((Grouping.group CaseCompareRow.failureReason rows reason).map f).sum 2 =
      ((Grouping.group CaseCompareRow.failureReason rows reason).map f).sum := by
  apply round_of_onGrid
  apply Rounding.onGrid_sum
  intro x hx
  obtain ⟨row, hrow, rfl⟩ := List.mem_map.1 hx
  exact hgrid row (Grouping.mem_group.1 hrow).1

/-- The rows of the breakdown against the numbers of both policies. -/
structure ScenariosReconcile (scenarios : List ScenarioBreakdownRow) (ours b2 : BatchMetrics) :
    Prop where
  n : (scenarios.map (·.nCases)).sum = ours.n ∧ (scenarios.map (·.nCases)).sum = b2.n
  oursAtRisk : (scenarios.map (·.oursAtRiskInr)).sum = ours.atRiskInr
  b2AtRisk : (scenarios.map (·.b2AtRiskInr)).sum = b2.atRiskInr
  oursGross : (scenarios.map (·.oursRecoveredInr)).sum = ours.grossRecoveredInr
  b2Gross : (scenarios.map (·.b2RecoveredInr)).sum = b2.grossRecoveredInr
  oursRecoveries : (scenarios.map (·.oursRecoveries)).sum = ours.recoveries
  b2Recoveries : (scenarios.map (·.b2Recoveries)).sum = b2.recoveries

/-- The numbers of a batch that the scenarios are held against. -/
structure Headline (cases : List SimCase) (outcomes : List CaseOutcome) (m : BatchMetrics) :
    Prop where
  n : m.n = (cases.map fun _ => 1).sum
  atRisk : m.atRiskInr = (cases.map fun case => paiseToInr case.visible.amountPaise).sum
  gross : m.grossRecoveredInr = (outcomes.map fun o => paiseToInr o.recoveredPaise).sum
  recoveries : m.recoveries = (outcomes.map fun o => if o.recovered then 1 else 0).sum

theorem Tallied.headline {costs : Costs} {label : String} {planFn : Option PlanFn}
    {ps : List (SimCase × CaseOutcome)} {m : BatchMetrics} (h : Tallied costs label planFn ps m) :
    Headline (ps.map Prod.fst) (ps.map Prod.snd) m where
  n := by
    rw [h.n, List.map_map]
    rfl
  atRisk := by
    rw [h.atRisk, List.map_map]
    rfl
  gross := by
    rw [h.gross, List.map_map]
    rfl
  recoveries := by
    rw [h.recoveries, List.map_map]
    rfl

theorem scenarios_reconcile {cases : List SimCase} {oursOutcomes b2Outcomes : List CaseOutcome}
    (hkeys : (cases.map (·.visible.caseKey)).Nodup) (hours : Aligned cases oursOutcomes)
    (hb2 : Aligned cases b2Outcomes) {rows : List CaseCompareRow}
    (hrows : List.Forall₂ (RowTallied oursOutcomes b2Outcomes) cases rows)
    {ours b2 : BatchMetrics} (hoursLine : Headline cases oursOutcomes ours)
    (hb2Line : Headline cases b2Outcomes b2) :
    ScenariosReconcile (scenarioBreakdown rows) ours b2 := by
  have hgrid := Grouping.forall_mem_of_forall₂ (fun _ _ h => h.grid) hrows
  have hn : ((scenarioBreakdown rows).map (·.nCases)).sum = (cases.map fun _ => 1).sum := by
    rw [sum_scenarioBreakdown (f := fun _ => 1) fun reason => by simp [scenarioRow]]
    exact Grouping.sum_of_forall₂ (fun _ _ _ => rfl) hrows
  have hrisk : (rows.map (·.amountInr)).sum =
      (cases.map fun case => paiseToInr case.visible.amountPaise).sum :=
    Grouping.sum_of_forall₂ (fun _ _ h => h.amount) hrows
  constructor
  · exact ⟨hn.trans hoursLine.n.symm, hn.trans hb2Line.n.symm⟩
  · rw [sum_scenarioBreakdown (f := (·.amountInr)), hrisk, hoursLine.atRisk]
    exact round_sum_group fun row hrow => (hgrid row hrow).1
  · rw [sum_scenarioBreakdown (f := (·.amountInr)), hrisk, hb2Line.atRisk]
    exact round_sum_group fun row hrow => (hgrid row hrow).1
  · rw [sum_scenarioBreakdown (f := (·.oursRecoveredInr)),
      Grouping.sum_of_forall₂ (fun _ _ h => h.ours) hrows, hours.sum_found hkeys, hoursLine.gross]
    exact round_sum_group fun row hrow => (hgrid row hrow).2.1
  · rw [sum_scenarioBreakdown (f := (·.b2RecoveredInr)),
      Grouping.sum_of_forall₂ (fun _ _ h => h.b2) hrows, hb2.sum_found hkeys, hb2Line.gross]
    exact round_sum_group fun row hrow => (hgrid row hrow).2.2
  · rw [sum_scenarioBreakdown (f := fun row => if row.oursRecovered then 1 else 0)
        fun reason => Grouping.countP_eq_sum _ _,
      Grouping.sum_of_forall₂ (fun _ _ h => h.oursWins) hrows, hours.sum_found hkeys,
      hoursLine.recoveries]
  · rw [sum_scenarioBreakdown (f := fun row => if row.b2Recovered then 1 else 0)
        fun reason => Grouping.countP_eq_sum _ _,
      Grouping.sum_of_forall₂ (fun _ _ h => h.b2Wins) hrows, hb2.sum_found hkeys,
      hb2Line.recoveries]

/-- Net and cost of a batch are its gross. -/
theorem net_add_total {costs : Costs} {label : String} {seed : ℤ} {cases : List SimCase}
    {outcomes : List CaseOutcome} {planFn : Option PlanFn} {m : BatchMetrics}
    (h : computeMetrics costs label seed cases outcomes planFn = some m) :
    m.netRecoveredInr + m.totalCostInr = m.grossRecoveredInr := by
  have hlength : cases.length = outcomes.length := by
    by_contra hne
    rw [computeMetrics, if_pos hne] at h
    cases h
  obtain ⟨m', hm', htallied⟩ :=
    computeMetrics_tallied costs label seed planFn (cases.zip outcomes)
  rw [List.map_fst_zip hlength.le, List.map_snd_zip hlength.ge, h] at hm'
  cases hm'
  exact htallied.net

/-- The breakdowns reconcile with the headline. Of every aligned batch, whatever the policy
that is priced, the breakdown by class has the numbers of the batch; the breakdown by reason
has those of both policies, when `ours` has plans for the cases; and net and cost are the
gross. -/
theorem breakdowns_reconcile (costs : Costs) (seed : ℤ) (cases : List SimCase)
    (hkeys : (cases.map (·.visible.caseKey)).Nodup) (oursOutcomes b2Outcomes : List CaseOutcome)
    (hours : Aligned cases oursOutcomes) (hb2 : Aligned cases b2Outcomes) :
    (∀ outcomes, Aligned cases outcomes → ∀ label planFn, ∃ segments m,
      computePolicySegments costs label cases outcomes planFn seed = some segments ∧
      computeMetrics costs label seed cases outcomes (some planFn) = some m ∧
      SegmentsReconcile segments m) ∧
    ((∀ case ∈ cases, (policyOursFromTaxonomy case).isSome) →
      ∀ oursPlan b2Plan, ∃ rows ours b2,
        buildCaseRows seed cases oursOutcomes b2Outcomes = some rows ∧
        computeMetrics costs "ours" seed cases oursOutcomes oursPlan = some ours ∧
        computeMetrics costs "b2" seed cases b2Outcomes b2Plan = some b2 ∧
        ScenariosReconcile (scenarioBreakdown rows) ours b2) ∧
    ∀ outcomes label planFn m,
      computeMetrics costs label seed cases outcomes planFn = some m →
        m.netRecoveredInr + m.totalCostInr = m.grossRecoveredInr := by
  refine ⟨?_, ?_, fun _ _ _ _ h => net_add_total h⟩
  · intro outcomes haligned label planFn
    obtain ⟨ps, rfl, rfl⟩ := haligned.pairs
    exact segments_reconcile costs label planFn seed ps
  · intro hplanned oursPlan b2Plan
    obtain ⟨rows, hrows, htallied⟩ := buildCaseRows_tallied seed hkeys hours hb2 hplanned
    obtain ⟨ops, hocases, hoout⟩ := hours.pairs
    obtain ⟨bps, hbcases, hbout⟩ := hb2.pairs
    obtain ⟨ours, hmours, htours⟩ := computeMetrics_tallied costs "ours" seed oursPlan ops
    obtain ⟨b2, hmb2, htb2⟩ := computeMetrics_tallied costs "b2" seed b2Plan bps
    have holine := htours.headline
    have hbline := htb2.headline
    rw [← hocases, ← hoout] at hmours holine
    rw [← hbcases, ← hbout] at hmb2 hbline
    exact ⟨rows, ours, b2, hrows, hmours, hmb2,
      scenarios_reconcile hkeys hours hb2 htallied holine hbline⟩

/-- A recovered case, by itself and through the ladder. -/
theorem breakdowns_reconcile_broke :
    ∃ rows ours b2,
      buildCaseRows 42 [brokeCase] [⟨"sim_42_0000", true, 49900, 0, 0, 0, true, []⟩]
        [⟨"sim_42_0000", true, 49900, 1, 1, 0, false, []⟩] = some rows ∧
      computeMetrics shippedCosts "ours" 42 [brokeCase]
        [⟨"sim_42_0000", true, 49900, 0, 0, 0, true, []⟩] (some policyOurs) = some ours ∧
      computeMetrics shippedCosts "b2" 42 [brokeCase]
        [⟨"sim_42_0000", true, 49900, 1, 1, 0, false, []⟩] (some baselineB2) = some b2 ∧
      ScenariosReconcile (scenarioBreakdown rows) ours b2 := by
  have hreconcile := breakdowns_reconcile shippedCosts 42 [brokeCase] (List.nodup_singleton _)
    [⟨"sim_42_0000", true, 49900, 0, 0, 0, true, []⟩]
    [⟨"sim_42_0000", true, 49900, 1, 1, 0, false, []⟩] rfl rfl
  apply hreconcile.2.1
  intro case hcase
  rw [List.mem_singleton.1 hcase]
  exact policyOurs_isSome (by decide)

end RecoveryAgent.Eval
