import RecoveryAgent.Eval.Bridge
import RecoveryAgent.Eval.Metrics

/-!
# The breakdown by recovery class

`eval/segments.py`: the cases of a batch in buckets by their recovery class, each with
numbers of its own.
-/

namespace RecoveryAgent.Eval

open Python Config Library

def classOrder : List RecoveryClass := [.retryFixable, .customerAction, .ambiguous, .prohibited]

structure PolicySegmentRow where
  label : String
  recoveryClass : String
  nCases : ℕ
  atRiskInr : ℚ
  grossRecoveredInr : ℚ
  netRecoveredInr : ℚ
  retries : ℕ
  contacts : ℕ
  wastedAttempts : ℕ
  recoveries : ℕ
  totalCostInr : ℚ := 0

structure SegmentCompareRow where
  recoveryClass : String
  nCases : ℕ
  ours : PolicySegmentRow
  b2 : PolicySegmentRow
  deltaNetInr : ℚ
  deltaGrossInr : ℚ
  b2ZeroRecoveryWithSpend : Bool

/-- The bucket of a case. -/
def classOf (p : SimCase × CaseOutcome) : RecoveryClass :=
  recoveryClassFor p.1.visible.failureReason

/-- `compute_policy_segments`. A class without cases has no row; it raises on lists of
two lengths. -/
def computePolicySegments (costs : Costs) (label : String) (cases : List SimCase)
    (outcomes : List CaseOutcome) (planFn : PlanFn) (seed : ℤ) : Option (List PolicySegmentRow) :=
  if cases.length ≠ outcomes.length then none
  else
    let bucket := Grouping.group classOf (cases.zip outcomes)
    (classOrder.filter fun rc => !(bucket rc).isEmpty).mapM fun rc => do
      let m ← computeMetrics costs label seed ((bucket rc).map Prod.fst)
        ((bucket rc).map Prod.snd) (some planFn)
      some
        { label
          recoveryClass := rc.value
          nCases := (bucket rc).length
          atRiskInr := m.atRiskInr
          grossRecoveredInr := m.grossRecoveredInr
          netRecoveredInr := m.netRecoveredInr
          retries := m.retries
          contacts := m.contacts
          wastedAttempts := m.wastedAttempts
          recoveries := m.recoveries
          totalCostInr := m.totalCostInr }

/-- `compute_segment_compare`: the classes that both policies have a row for. -/
def computeSegmentCompare (costs : Costs) (cases : List SimCase)
    (oursOutcomes b2Outcomes : List CaseOutcome) (seed : ℤ) : Option (List SegmentCompareRow) := do
  let oursRows ← computePolicySegments costs "ours" cases oursOutcomes policyOurs seed
  let b2Rows ← computePolicySegments costs "b2" cases b2Outcomes baselineB2 seed
  some (classOrder.filterMap fun rc => do
    let ours ← oursRows.reverse.find? fun r => r.recoveryClass = rc.value
    let b2 ← b2Rows.reverse.find? fun r => r.recoveryClass = rc.value
    some
      { recoveryClass := rc.value
        nCases := ours.nCases
        ours
        b2
        deltaNetInr := round (ours.netRecoveredInr - b2.netRecoveredInr) 2
        deltaGrossInr := round (ours.grossRecoveredInr - b2.grossRecoveredInr) 2
        b2ZeroRecoveryWithSpend := 0 < b2.retries + b2.contacts ∧ b2.recoveries = 0 })

/-!
## The rows add up
-/

/-- The row of a class holds the sums over its bucket. -/
structure SegmentTallied (costs : Costs) (label : String) (planFn : PlanFn)
    (ps : List (SimCase × CaseOutcome)) (row : PolicySegmentRow) : Prop where
  n : row.nCases = (ps.map fun _ => 1).sum
  atRisk : row.atRiskInr = (ps.map fun p => paiseToInr p.1.visible.amountPaise).sum
  gross : row.grossRecoveredInr = (ps.map fun p => paiseToInr p.2.recoveredPaise).sum
  retries : row.retries = (ps.map fun p => p.2.retries).sum
  contacts : row.contacts = (ps.map fun p => p.2.contacts).sum
  wasted : row.wastedAttempts = (ps.map fun p => p.2.wastedAttempts).sum
  recoveries : row.recoveries = (ps.map fun p => if p.2.recovered then 1 else 0).sum
  net : row.netRecoveredInr = (ps.map fun p => paiseToInr p.2.recoveredPaise).sum -
    round ((ps.map (caseCost costs planFn label)).sum) 2

def presentClasses (ps : List (SimCase × CaseOutcome)) : List RecoveryClass :=
  classOrder.filter fun rc => !(Grouping.group classOf ps rc).isEmpty

theorem mem_classOrder (rc : RecoveryClass) : rc ∈ classOrder := by
  cases rc <;> decide

/-- Sums over the buckets that have cases are sums over the batch. -/
theorem sum_presentClasses {M : Type*} [AddCommMonoid M] (f : SimCase × CaseOutcome → M)
    (ps : List (SimCase × CaseOutcome)) :
    ((presentClasses ps).map fun rc => ((Grouping.group classOf ps rc).map f).sum).sum =
      (ps.map f).sum :=
  Grouping.sum_present f (by decide) fun p _ => mem_classOrder (classOf p)

theorem computePolicySegments_tallied (costs : Costs) (label : String) (planFn : PlanFn)
    (seed : ℤ) (ps : List (SimCase × CaseOutcome)) :
    ∃ segments, computePolicySegments costs label (ps.map Prod.fst) (ps.map Prod.snd) planFn
        seed = some segments ∧
      List.Forall₂ (fun rc row => row.recoveryClass = rc.value ∧
          SegmentTallied costs label planFn (Grouping.group classOf ps rc) row)
        (presentClasses ps) segments := by
  have hzip : (ps.map Prod.fst).zip (ps.map Prod.snd) = ps := (List.zip_of_prod rfl rfl).symm
  unfold computePolicySegments
  rw [if_neg (by simp), hzip]
  apply Grouping.mapM_of_forall
  intro rc _
  obtain ⟨m, hm, htallied⟩ := computeMetrics_tallied costs label seed (some planFn)
    (Grouping.group classOf ps rc)
  rw [hm]
  refine ⟨_, rfl, rfl, ⟨?_, htallied.atRisk, htallied.gross, htallied.retries,
    htallied.contacts, htallied.wasted, htallied.recoveries, ?_⟩⟩
  · simp
  · simp only
    rw [← htallied.gross, ← htallied.net, htallied.total planFn rfl, add_sub_cancel_right]

/-- The rows of the breakdown against the numbers of the batch: the four classes and the
batch round five totals. -/
structure SegmentsReconcile (segments : List PolicySegmentRow) (m : BatchMetrics) : Prop where
  n : (segments.map (·.nCases)).sum = m.n
  atRisk : (segments.map (·.atRiskInr)).sum = m.atRiskInr
  gross : (segments.map (·.grossRecoveredInr)).sum = m.grossRecoveredInr
  retries : (segments.map (·.retries)).sum = m.retries
  contacts : (segments.map (·.contacts)).sum = m.contacts
  wasted : (segments.map (·.wastedAttempts)).sum = m.wastedAttempts
  recoveries : (segments.map (·.recoveries)).sum = m.recoveries
  net : |(segments.map (·.netRecoveredInr)).sum - m.netRecoveredInr| ≤ 25 / 1000

/-- Five roundings to two digits are within two and a half paise. -/
theorem rounded_totals_near (classes : List RecoveryClass) (hfew : classes.length ≤ 4)
    (total : RecoveryClass → ℚ) :
    |(classes.map fun rc => round (total rc) 2).sum - round ((classes.map total).sum) 2| ≤
      25 / 1000 := by
  have hnear := nearest_roundHalfEven.sum_scaled_near (ten_pow_pos 2) (classes.map total)
  rw [List.map_map, List.length_map] at hnear
  refine hnear.trans ?_
  have hlength : (classes.length : ℚ) ≤ 4 := by exact_mod_cast hfew
  linarith

def classGross (ps : List (SimCase × CaseOutcome)) (rc : RecoveryClass) : ℚ :=
  ((Grouping.group classOf ps rc).map fun p => paiseToInr p.2.recoveredPaise).sum

def classNet (costs : Costs) (label : String) (planFn : PlanFn)
    (ps : List (SimCase × CaseOutcome)) (rc : RecoveryClass) : ℚ :=
  classGross ps rc -
    round ((Grouping.group classOf ps rc).map (caseCost costs planFn label)).sum 2

theorem sum_classGross (ps : List (SimCase × CaseOutcome)) :
    ((presentClasses ps).map (classGross ps)).sum =
      (ps.map fun p => paiseToInr p.2.recoveredPaise).sum :=
  sum_presentClasses _ ps

theorem nets_near {costs : Costs} {label : String} {planFn : PlanFn}
    {ps : List (SimCase × CaseOutcome)} {m : BatchMetrics}
    (h : Tallied costs label (some planFn) ps m) :
    |((presentClasses ps).map (classNet costs label planFn ps)).sum - m.netRecoveredInr| ≤
      25 / 1000 := by
  have hnets : ((presentClasses ps).map (classNet costs label planFn ps)).sum =
      m.grossRecoveredInr - ((presentClasses ps).map fun rc =>
        round ((Grouping.group classOf ps rc).map (caseCost costs planFn label)).sum 2).sum := by
    unfold classNet
    rw [Grouping.sum_map_sub, sum_classGross, h.gross]
  have hnet : m.netRecoveredInr = m.grossRecoveredInr -
      round (((presentClasses ps).map fun rc => ((Grouping.group classOf ps rc).map
        (caseCost costs planFn label)).sum).sum) 2 := by
    rw [sum_presentClasses, ← h.total planFn rfl, ← h.net, add_sub_cancel_right]
  have hfew : (presentClasses ps).length ≤ 4 := List.length_filter_le _ _
  rw [hnets, hnet, sub_sub_sub_cancel_left, abs_sub_comm]
  exact rounded_totals_near (presentClasses ps) hfew _

theorem segments_reconcile (costs : Costs) (label : String) (planFn : PlanFn) (seed : ℤ)
    (ps : List (SimCase × CaseOutcome)) :
    ∃ segments m, computePolicySegments costs label (ps.map Prod.fst) (ps.map Prod.snd) planFn
        seed = some segments ∧
      computeMetrics costs label seed (ps.map Prod.fst) (ps.map Prod.snd) (some planFn) = some m ∧
      SegmentsReconcile segments m := by
  obtain ⟨segments, hsegments, hrows⟩ := computePolicySegments_tallied costs label planFn seed ps
  obtain ⟨m, hm, hbatch⟩ := computeMetrics_tallied costs label seed (some planFn) ps
  refine ⟨segments, m, hsegments, hm, ?_⟩
  constructor
  · rw [Grouping.sum_of_forall₂ (fun _ _ h => h.2.n) hrows, sum_presentClasses, hbatch.n]
  · rw [Grouping.sum_of_forall₂ (fun _ _ h => h.2.atRisk) hrows, sum_presentClasses, hbatch.atRisk]
  · rw [Grouping.sum_of_forall₂ (fun _ _ h => h.2.gross) hrows, sum_presentClasses, hbatch.gross]
  · rw [Grouping.sum_of_forall₂ (fun _ _ h => h.2.retries) hrows, sum_presentClasses,
      hbatch.retries]
  · rw [Grouping.sum_of_forall₂ (fun _ _ h => h.2.contacts) hrows, sum_presentClasses,
      hbatch.contacts]
  · rw [Grouping.sum_of_forall₂ (fun _ _ h => h.2.wasted) hrows, sum_presentClasses, hbatch.wasted]
  · rw [Grouping.sum_of_forall₂ (fun _ _ h => h.2.recoveries) hrows, sum_presentClasses,
      hbatch.recoveries]
  · rw [Grouping.sum_of_forall₂ (f := classNet costs label planFn ps)
      (fun _ _ h => h.2.net) hrows]
    exact nets_near hbatch

/-!
## Both policies side by side
-/

theorem RecoveryClass.value_injective : Function.Injective RecoveryClass.value := by
  intro rc rc' h
  cases rc <;> cases rc' <;> first | rfl | exact absurd h (by decide)

/-- The row of a class is found under its name, and only the rows of classes are found. -/
theorem find_segment {P : RecoveryClass → PolicySegmentRow → Prop} {classes : List RecoveryClass}
    {segments : List PolicySegmentRow}
    (hrows : List.Forall₂ (fun rc row => row.recoveryClass = rc.value ∧ P rc row) classes segments)
    (rc : RecoveryClass) :
    (rc ∈ classes → ∃ row,
      segments.reverse.find? (fun r => r.recoveryClass = rc.value) = some row ∧ P rc row) ∧
      (rc ∉ classes → segments.reverse.find? (fun r => r.recoveryClass = rc.value) = none) := by
  constructor
  · intro hrc
    obtain ⟨row, hrow, hname, -⟩ := Grouping.exists_right_of_forall₂ hrows hrc
    have hsome : (segments.reverse.find? fun r => r.recoveryClass = rc.value).isSome :=
      List.find?_isSome.2 ⟨row, List.mem_reverse.2 hrow, decide_eq_true hname⟩
    obtain ⟨found, hfound⟩ := Option.isSome_iff_exists.1 hsome
    have hmem := List.mem_reverse.1 (List.mem_of_find?_eq_some hfound)
    have hkey : found.recoveryClass = rc.value := by
      simpa using List.find?_some hfound
    obtain ⟨rc', -, hname', hP⟩ := Grouping.exists_left_of_forall₂ hrows hmem
    have hsame : rc' = rc := RecoveryClass.value_injective (hname'.symm.trans hkey)
    exact ⟨found, hfound, hsame ▸ hP⟩
  · intro hrc
    rw [List.find?_eq_none]
    intro row hrow hkey
    obtain ⟨rc', hrc', hname, -⟩ :=
      Grouping.exists_left_of_forall₂ hrows (List.mem_reverse.1 hrow)
    have hsame : rc' = rc :=
      RecoveryClass.value_injective (hname.symm.trans (of_decide_eq_true hkey))
    exact hrc (hsame ▸ hrc')

theorem presentClasses_congr {ops bps : List (SimCase × CaseOutcome)}
    (h : ops.map Prod.fst = bps.map Prod.fst) : presentClasses ops = presentClasses bps := by
  have hcases : ∀ (ps : List (SimCase × CaseOutcome)) rc,
      (Grouping.group classOf ps rc).isEmpty = ((ps.map Prod.fst).filter fun case =>
        recoveryClassFor case.visible.failureReason = rc).isEmpty := by
    intro ps rc
    rw [List.filter_map, List.isEmpty_map]
    rfl
  unfold presentClasses
  congr 1
  funext rc
  rw [hcases ops rc, hcases bps rc, h]

/-- The row of a class holds the rows of both policies. -/
structure SegmentCompared (costs : Costs) (ops bps : List (SimCase × CaseOutcome))
    (rc : RecoveryClass) (row : SegmentCompareRow) : Prop where
  recoveryClass : row.recoveryClass = rc.value
  nCases : row.nCases = row.ours.nCases
  ours : SegmentTallied costs "ours" policyOurs (Grouping.group classOf ops rc) row.ours
  b2 : SegmentTallied costs "b2" baselineB2 (Grouping.group classOf bps rc) row.b2
  deltaGross : row.deltaGrossInr =
    round (row.ours.grossRecoveredInr - row.b2.grossRecoveredInr) 2
  deltaNet : row.deltaNetInr = round (row.ours.netRecoveredInr - row.b2.netRecoveredInr) 2

/-- Every class with cases has its row, in order. -/
theorem computeSegmentCompare_compared (costs : Costs) (seed : ℤ)
    {ops bps : List (SimCase × CaseOutcome)} (hcases : ops.map Prod.fst = bps.map Prod.fst) :
    ∃ rows, computeSegmentCompare costs (ops.map Prod.fst) (ops.map Prod.snd)
        (bps.map Prod.snd) seed = some rows ∧
      List.Forall₂ (SegmentCompared costs ops bps) (presentClasses ops) rows := by
  obtain ⟨oursRows, hours, hoursRows⟩ :=
    computePolicySegments_tallied costs "ours" policyOurs seed ops
  obtain ⟨b2Rows, hb2, hb2Rows⟩ := computePolicySegments_tallied costs "b2" baselineB2 seed bps
  rw [← hcases] at hb2
  rw [← presentClasses_congr hcases] at hb2Rows
  unfold computeSegmentCompare
  rw [hours, hb2]
  refine ⟨_, rfl, Grouping.forall₂_filterMap ?_ ?_ classOrder⟩
  · intro rc hrc
    have hpresent : rc ∈ presentClasses ops := List.mem_filter.2 ⟨mem_classOrder rc, hrc⟩
    obtain ⟨ours, hfound, htallied⟩ := (find_segment hoursRows rc).1 hpresent
    obtain ⟨b2, hfound', htallied'⟩ := (find_segment hb2Rows rc).1 hpresent
    rw [hfound, hfound']
    exact ⟨_, rfl, ⟨rfl, rfl, htallied, htallied', rfl, rfl⟩⟩
  · intro rc hrc
    have habsent : rc ∉ presentClasses ops := by
      intro hmem
      rw [(List.mem_filter.1 hmem).2] at hrc
      cases hrc
    rw [(find_segment hoursRows rc).2 habsent]
    rfl

end RecoveryAgent.Eval
