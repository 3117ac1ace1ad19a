import Mathlib.Data.List.AList
import RecoveryAgent.Config.Overrides
import RecoveryAgent.Eval.CostKnobs
import RecoveryAgent.Eval.GateEstimate
import RecoveryAgent.Eval.Segments

/-!
# Stored runs

`run_eval` of `eval/service.py` and the records of `eval/run_store.py`: a batch is played by
the policies of some labels, scored under overrides that are cleared at the end, and kept
under an id. The headline of a record is the lead of `ours` under the costs of its run.
-/

namespace RecoveryAgent.Eval

open Python Config Library

structure EvalRunRecord where
  runId : String
  createdAt : String
  seed : ℤ
  n : ℤ
  labels : List String
  metrics : List BatchMetrics
  gateBlocks : List (String × ℕ) := []
  declineMix : List (String × ℕ) := []
  deltaOursVsB2Inr : Option ℚ := none
  deltaNetOursVsB2Inr : Option ℚ := none
  segments : List SegmentCompareRow := []
  costOverrides : Overrides := []
  sampleCaseIds : List String := []

abbrev EvalRunStore := AList fun _ : String => EvalRunRecord

def EvalRunStore.save (store : EvalRunStore) (record : EvalRunRecord) : EvalRunStore :=
  AList.insert record.runId record store

def EvalRunStore.get (store : EvalRunStore) (runId : String) : Option EvalRunRecord :=
  AList.lookup runId store

def policies : String → Option PlanFn
  | "b0" => some baselineB0
  | "b1" => some baselineB1
  | "b2" => some baselineB2
  | "b3" => some baselineB3
  | "ours" => some policyOurs
  | _ => none

/-- `summarize_mix`: the reasons in the order in which they come up. -/
def summarizeMix (cases : List SimCase) : List (String × ℕ) :=
  let reasons := cases.map (·.visible.failureReason.value)
  reasons.eraseDups.map fun reason => (reason, reasons.count reason)

/-- A lookup in `by_label`: of two metrics with one label the later wins. -/
def byLabel (metrics : List BatchMetrics) (label : String) : Option BatchMetrics :=
  metrics.reverse.find? (·.label = label)

section

variable {G : Type*} (rng : Rng G)

/-- One round of the loop over the labels, without the gate blocks. -/
def scoreLabel (costs : Costs) (seed : ℤ) (cases : List SimCase) (label : String) :
    Option BatchMetrics := do
  let planFn ← policies label
  scored costs rng label planFn seed cases

/-- The record of `run_eval`, once everything is scored. -/
def newRecord (runId createdAt : String) (seed n : ℤ) (labels : List String)
    (overrides : Overrides) (cases : List SimCase) (metrics : List BatchMetrics)
    (segments : List SegmentCompareRow) : EvalRunRecord where
  runId
  createdAt
  seed
  n
  labels
  metrics
  -- at the fixed daytime the gates return
  gateBlocks := labels.eraseDups.filterMap fun label => do
    let planFn ← policies label
    let blocks ← (countGateBlocks cases planFn none).toOption
    some (label, blocks)
  declineMix := summarizeMix cases
  deltaOursVsB2Inr := do
    let ours ← byLabel metrics "ours"
    let b2 ← byLabel metrics "b2"
    some (round (ours.grossDeltaInr b2) 2)
  deltaNetOursVsB2Inr := do
    let ours ← byLabel metrics "ours"
    let b2 ← byLabel metrics "b2"
    some (round (ours.netDeltaInr b2) 2)
  segments
  costOverrides := overrides

/-- The part of `run_eval` that reads the costs. -/
def evalRecord (runId createdAt : String) (seed n : ℤ) (labels : List String)
    (overrides : Overrides) (costs : Costs) : Option EvalRunRecord := do
  let cases ← generateBatch rng seed n
  let metrics ← labels.mapM (scoreLabel rng costs seed cases)
  let segments ←
    if "ours" ∈ labels ∧ "b2" ∈ labels then
      computeSegmentCompare costs cases (runBatch rng.random rng.seeded seed cases policyOurs)
        (runBatch rng.random rng.seeded seed cases baselineB2) seed
    else some []
  some (newRecord runId createdAt seed n labels overrides cases metrics segments)

/-- `labels or ["b2", "ours"]`. -/
def runLabels (labels : Option (List String)) : List String :=
  if labels.getD [] = [] then ["b2", "ours"] else labels.getD []

/-- `run_eval`, with the new id and the time: the record and the store that holds it. -/
def runEval (file : Costs) (runId createdAt : String) (store : EvalRunStore) (seed n : ℤ)
    (labels : Option (List String)) (costOverrides : Option Overrides) :
    Live (EvalRunRecord × EvalRunStore) :=
  let labels := runLabels labels
  let overrides := costOverrides.getD []
  if labels.any fun label => (policies label).isNone then Cell.read fun _ => none
  else
    let run : Live (EvalRunRecord × EvalRunStore) := do
      let record ← Live.costing file (evalRecord rng runId createdAt seed n labels overrides)
      pure (record, store.save record)
    if overrides = [] then run
    else do
      setCostOverrides overrides
      Cell.tryFinally run clearCostOverrides

/-- What the costs charge `ours` for a batch more than `b2`: two calls of
`compute_batch_costs`. -/
def extraCost (seed : ℤ) (cases : List SimCase) (costs : Costs) : Option ℚ := do
  let ours ← computeBatchCosts costs cases (runBatch rng.random rng.seeded seed cases policyOurs)
    policyOurs "ours"
  let b2 ← computeBatchCosts costs cases (runBatch rng.random rng.seeded seed cases baselineB2)
    baselineB2 "b2"
  some (ours.totalCostInr - b2.totalCostInr)

/-- The values that a run is scored with. -/
def effectiveOverrides (costOverrides : Option Overrides) (inForce : Overrides) : Overrides :=
  if costOverrides.getD [] = [] then inForce else costOverrides.getD []

/-!
## The lead and what is charged
-/

variable {rng} {costs : Costs} {seed : ℤ} {cases : List SimCase} {label : String}
  {planFn : PlanFn} {m : BatchMetrics}

/-- The net of a batch is an amount in paise. -/
theorem onGrid_net (h : scored costs rng label planFn seed cases = some m) :
    Rounding.OnGrid (10 ^ 2) m.netRecoveredInr := by
  rw [scored_net rng label planFn seed cases h]
  refine Rounding.OnGrid.sub (Rounding.onGrid_sum fun x hx => ?_) (onGrid_round _ 2)
  obtain ⟨p, -, rfl⟩ := List.mem_map.1 hx
  exact onGrid_paiseToInr _

theorem computeBatchCosts_played (rng : Rng G) (costs : Costs) (label : String) (planFn : PlanFn)
    (seed : ℤ) (cases : List SimCase) :
    ∃ totals, computeBatchCosts costs cases
        (runBatch rng.random rng.seeded seed cases planFn) planFn label = some totals ∧
      totals.totalCostInr =
        round (((played rng planFn seed cases).map (caseCost costs planFn label)).sum) 2 := by
  have htotal := computeBatchCosts_total costs planFn label (played rng planFn seed cases)
  rwa [played_fst, played_snd] at htotal

/-- The two calls add up the rounded costs of the cases that each policy has played. -/
theorem extraCost_eq (rng : Rng G) (seed : ℤ) (cases : List SimCase) (costs : Costs) :
    extraCost rng seed cases costs = some
      (round (((played rng policyOurs seed cases).map (caseCost costs policyOurs "ours")).sum) 2 -
        round (((played rng baselineB2 seed cases).map (caseCost costs baselineB2 "b2")).sum)
          2) := by
  obtain ⟨ours, hours, hoursTotal⟩ :=
    computeBatchCosts_played rng costs "ours" policyOurs seed cases
  obtain ⟨b2, hb2, hb2Total⟩ := computeBatchCosts_played rng costs "b2" baselineB2 seed cases
  rw [extraCost, hours, hb2, ← hoursTotal, ← hb2Total]
  rfl

/-- Under all costs the lead on a batch is `gross`, less what they charge more. -/
def LeadFrom (rng : Rng G) (seed : ℤ) (cases : List SimCase) (gross : ℚ) : Prop :=
  ∀ (costs : Costs) (ours b2 : BatchMetrics),
    scored costs rng "ours" policyOurs seed cases = some ours →
    scored costs rng "b2" baselineB2 seed cases = some b2 →
    ∃ extra, extraCost rng seed cases costs = some extra ∧ ours.netDeltaInr b2 = gross - extra

theorem exists_leadFrom (rng : Rng G) (seed : ℤ) (cases : List SimCase) :
    ∃ gross, LeadFrom rng seed cases gross := by
  refine ⟨((played rng policyOurs seed cases).map fun p => paiseToInr p.2.recoveredPaise).sum -
    ((played rng baselineB2 seed cases).map fun p => paiseToInr p.2.recoveredPaise).sum, ?_⟩
  intro costs ours b2 hours hb2
  refine ⟨_, extraCost_eq rng seed cases costs, ?_⟩
  rw [BatchMetrics.netDeltaInr, scored_net rng _ _ seed cases hours,
    scored_net rng _ _ seed cases hb2]
  ring

/-!
## The headline of a record
-/

theorem scoreLabel_label (h : scoreLabel rng costs seed cases label = some m) :
    m.label = label := by
  obtain ⟨planFn, -, h⟩ := Option.bind_eq_some_iff.1 h
  unfold scored computeMetrics at h
  split at h
  · cases h
  · obtain ⟨totals, -, h⟩ := Option.bind_eq_some_iff.1 h
    cases h
    rfl

theorem byLabel_of_scored {labels : List String} {metrics : List BatchMetrics}
    (hmetrics : labels.mapM (scoreLabel rng costs seed cases) = some metrics)
    (hmem : label ∈ labels) (h : scoreLabel rng costs seed cases label = some m) :
    byLabel metrics label = some m := by
  have hscored := Grouping.forall₂_of_mapM hmetrics
  cases hfound : byLabel metrics label with
  | none =>
      obtain ⟨m', hm', hsame⟩ := Grouping.exists_right_of_forall₂ hscored hmem
      have hnot := List.find?_eq_none.1 hfound m' (List.mem_reverse.2 hm')
      exact absurd (decide_eq_true (scoreLabel_label hsame)) hnot
  | some found =>
      unfold byLabel at hfound
      have hpicked := List.find?_some hfound
      have hlabel : found.label = label := of_decide_eq_true hpicked
      have hmemFound : found ∈ metrics := List.mem_reverse.1 (List.mem_of_find?_eq_some hfound)
      obtain ⟨label', -, hscore⟩ := Grouping.exists_left_of_forall₂ hscored hmemFound
      rw [← scoreLabel_label hscore, hlabel] at hscore
      exact hscore.symm.trans h

/-- A run with both labels of the headline has a record, with the lead under its costs. -/
theorem evalRecord_headline {labels : List String} (hknown : ∀ label ∈ labels,
      (policies label).isSome) (hours : "ours" ∈ labels) (hb2 : "b2" ∈ labels) {n : ℤ}
    (hcases : generateBatch rng seed n = some cases) (runId createdAt : String)
    (overrides : Overrides) (costs : Costs) :
    ∃ record ours b2, evalRecord rng runId createdAt seed n labels overrides costs = some record ∧
      scored costs rng "ours" policyOurs seed cases = some ours ∧
      scored costs rng "b2" baselineB2 seed cases = some b2 ∧
      record.runId = runId ∧ record.seed = seed ∧ record.n = n ∧
      record.deltaNetOursVsB2Inr = some (ours.netDeltaInr b2) := by
  obtain ⟨ours, hscoredOurs, -⟩ := scored_tallied costs rng "ours" policyOurs seed cases
  obtain ⟨b2, hscoredB2, -⟩ := scored_tallied costs rng "b2" baselineB2 seed cases
  obtain ⟨metrics, hmetrics, -⟩ : ∃ metrics,
      labels.mapM (scoreLabel rng costs seed cases) = some metrics ∧
        List.Forall₂ (fun _ _ => True) labels metrics := by
    apply Grouping.mapM_of_forall
    intro label hlabel
    obtain ⟨planFn, hplan⟩ := Option.isSome_iff_exists.1 (hknown label hlabel)
    obtain ⟨m, hm, -⟩ := scored_tallied costs rng label planFn seed cases
    exact ⟨m, by rw [scoreLabel, hplan]; exact hm, trivial⟩
  have hbyOurs : byLabel metrics "ours" = some ours :=
    byLabel_of_scored hmetrics hours hscoredOurs
  have hbyB2 : byLabel metrics "b2" = some b2 := byLabel_of_scored hmetrics hb2 hscoredB2
  obtain ⟨segments, hsegments⟩ : ∃ segments, computeSegmentCompare costs cases
      (runBatch rng.random rng.seeded seed cases policyOurs)
      (runBatch rng.random rng.seeded seed cases baselineB2) seed = some segments := by
    have hsame := (played_fst rng policyOurs seed cases).trans
      (played_fst rng baselineB2 seed cases).symm
    obtain ⟨segments, hsegments, -⟩ := computeSegmentCompare_compared costs seed hsame
    rw [played_fst, played_snd, played_snd] at hsegments
    exact ⟨segments, hsegments⟩
  have hround : round (ours.netDeltaInr b2) 2 = ours.netDeltaInr b2 :=
    round_of_onGrid ((onGrid_net hscoredOurs).sub (onGrid_net hscoredB2))
  refine ⟨newRecord runId createdAt seed n labels overrides cases metrics segments, ours, b2, ?_,
    hscoredOurs, hscoredB2, rfl, rfl, rfl, ?_⟩
  · rw [evalRecord, hcases]
    simp only [Option.bind_eq_bind, Option.bind_some, hmetrics]
    rw [if_pos ⟨hours, hb2⟩, hsegments]
    rfl
  · simp only [newRecord, hbyOurs, hbyB2, Option.bind_eq_bind, Option.bind_some, hround]

/-- What `run_eval` leaves: the record under the values that it is scored with, kept under
its id, and no overrides where it had set some. -/
theorem runEval_of_record {file : Costs} {runId createdAt : String} {store : EvalRunStore}
    {n : ℤ} {labels : Option (List String)} {costOverrides : Option Overrides}
    {inForce : Overrides} {record : EvalRunRecord}
    (hknown : ∀ label ∈ runLabels labels, (policies label).isSome)
    (hrecord : evalRecord rng runId createdAt seed n (runLabels labels) (costOverrides.getD [])
      (file.under (effectiveOverrides costOverrides inForce)) = some record) :
    runEval rng file runId createdAt store seed n labels costOverrides inForce =
      (some (record, store.save record), if costOverrides.getD [] = [] then inForce else []) := by
  have hnone : ¬((runLabels labels).any fun label => (policies label).isNone) = true := by
    rw [List.any_eq_true]
    rintro ⟨label, hlabel, hnone⟩
    have hsome := hknown label hlabel
    rw [Option.isNone_iff_eq_none.1 hnone] at hsome
    cases hsome
  have hrun : ∀ overrides : Overrides, evalRecord rng runId createdAt seed n (runLabels labels)
      (costOverrides.getD []) (file.under overrides) = some record →
      (do
        let record ← Live.costing file (evalRecord rng runId createdAt seed n (runLabels labels)
          (costOverrides.getD []))
        pure (record, store.save record) : Live (EvalRunRecord × EvalRunStore)) overrides =
          (some (record, store.save record), overrides) := by
    intro overrides hscored
    apply Cell.bind_of_some
    rw [Live.costing, Cell.read_apply, hscored]
  unfold effectiveOverrides at hrecord
  rw [runEval, if_neg hnone]
  by_cases hempty : costOverrides.getD [] = []
  · rw [if_pos hempty] at hrecord
    rw [if_pos hempty, if_pos hempty]
    exact hrun inForce hrecord
  · rw [if_neg hempty] at hrecord
    rw [if_neg hempty, if_neg hempty]
    refine (Cell.during_apply (costOverrides.getD []) []).trans ?_
    rw [hrun (costOverrides.getD []) hrecord]

/-- A run with both labels is stored, with the lead under the values it was scored with. -/
theorem runEval_lead (file : Costs) (runId createdAt : String) (store : EvalRunStore) {n : ℤ}
    (hcases : generateBatch rng seed n = some cases) {gross : ℚ}
    (hgross : LeadFrom rng seed cases gross) {labels : Option (List String)}
    (hknown : ∀ label ∈ runLabels labels, (policies label).isSome)
    (hours : "ours" ∈ runLabels labels) (hb2 : "b2" ∈ runLabels labels)
    (costOverrides : Option Overrides) (inForce : Overrides) :
    ∃ record extra, runEval rng file runId createdAt store seed n labels costOverrides inForce =
        (some (record, store.save record), if costOverrides.getD [] = [] then inForce else []) ∧
      record.runId = runId ∧ record.seed = seed ∧ record.n = n ∧
      extraCost rng seed cases (file.under (effectiveOverrides costOverrides inForce)) =
        some extra ∧
      record.deltaNetOursVsB2Inr = some (gross - extra) := by
  obtain ⟨record, ours, b2, hrecord, hscoredOurs, hscoredB2, hid, hseed, hn, hdelta⟩ :=
    evalRecord_headline hknown hours hb2 hcases runId createdAt (costOverrides.getD [])
      (file.under (effectiveOverrides costOverrides inForce))
  obtain ⟨extra, hextra, hlead⟩ := hgross _ ours b2 hscoredOurs hscoredB2
  rw [hlead] at hdelta
  exact ⟨record, extra, runEval_of_record hknown hrecord, hid, hseed, hn, hextra, hdelta⟩

theorem save_get {store : EvalRunStore} {record : EvalRunRecord} {runId : String}
    (h : record.runId = runId) : (store.save record).get runId = some record := by
  rw [EvalRunStore.get, EvalRunStore.save, h, AList.lookup_insert]

end

end RecoveryAgent.Eval
