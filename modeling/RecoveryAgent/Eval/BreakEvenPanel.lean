import RecoveryAgent.Eval.BreakEven
import RecoveryAgent.Eval.PriceTables

/-!
# The panel beside a stored run

`batch_run_view` of `api/routes_ui.py` solves for the break-even anew, over the overrides
that the process shares. Every lead that the solver asks for is scored under one override
and clears them all, so the solver answers as if each lead were a function of the value, and
what was in force before it is gone.
-/

namespace RecoveryAgent.Eval

open Python Config Library

/-- `_net_delta_with_override`, in the process. -/
def netDeltaLive {G : Type*} (file : Costs) (rng : Rng G) (seed n : ℤ) (param : BreakEvenParam)
    (value : ℚ) : Live ℚ := do
  setCostOverrides [(param.key, value)]
  Cell.tryFinally
    (Live.costing file fun costs =>
      (compareSeed costs rng seed n).map SeedPairResult.deltaNetRecoveredInr)
    clearCostOverrides

/-- The loop of `solve_break_even`, in the process. -/
def bisectLive (netDelta : ℚ → Live ℚ) (tol : ℚ) :
    ℕ → (left right deltaLo deltaHi : ℚ) → Live (Bool × ℚ)
  | 0, left, right, _, _ => pure (false, (left + right) / 2)
  | rounds + 1, left, right, deltaLo, deltaHi => do
      let mid := (left + right) / 2
      let deltaMid ← netDelta mid
      if |deltaMid| ≤ tol then pure (true, mid)
      else if deltaLo * deltaMid ≤ 0 then bisectLive netDelta tol rounds left mid deltaLo deltaMid
      else bisectLive netDelta tol rounds mid right deltaMid deltaHi

/-- `solve_break_even`, in the process. -/
def solveBreakEvenLive {G : Type*} (text : FloatText) (file : Costs) (rng : Rng G) (seed n : ℤ)
    (paramKey : BreakEvenParam) (lo hi tol : ℚ) (maxIter : ℤ) : Live BreakEvenResult := do
  let default ← Live.costing file fun costs => some (paramKey.value costs)
  let deltaDefault ← netDeltaLive file rng seed n paramKey default
  let deltaLo ← netDeltaLive file rng seed n paramKey lo
  let deltaHi ← netDeltaLive file rng seed n paramKey hi
  let direction :=
    if deltaLo ≤ deltaHi then "Raising this cost hurts B2 more than Ours (our net lead grows)."
    else "Raising this cost hurts Ours more than B2."
  let result (breakEvenValue : Option ℚ) (note : String) : BreakEvenResult :=
    { paramKey
      defaultValue := default
      breakEvenValue
      deltaNetAtDefault := round deltaDefault 2
      direction
      seed
      n
      note }
  if 0 < deltaLo * deltaHi then
    pure (result none
      (s!"No zero-crossing on [{text.str lo}, {text.str hi}]. " ++
        s!"Delta at lo={text.fixed2 deltaLo}, hi={text.fixed2 deltaHi}."))
  else do
    let (within, mid) ← bisectLive (netDeltaLive file rng seed n paramKey) tol maxIter.toNat lo hi
      deltaLo deltaHi
    pure (result (some (round mid 4))
      (if within then s!"Net delta within ₹{text.str tol} of zero at this {paramKey.key}."
      else "Approximate break-even from binary search."))

inductive BatchRunResponse where
  | redirect (url : String) (statusCode : ℕ)
  | page (run : EvalRunRecord) (breakEven : BreakEvenResult)

def batchRunView {G : Type*} (text : FloatText) (file : Costs) (rng : Rng G)
    (store : EvalRunStore) (runId : String) : Live BatchRunResponse :=
  match store.get runId with
  | none => pure (.redirect "/ui/batch" 303)
  | some run => do
      let breakEven ← solveBreakEvenLive text file rng run.seed run.n .smsDlt 0 50 (5 / 100) 40
      pure (.page run breakEven)

/-!
## Every lead clears the overrides
-/

/-- One override is one knob. -/
theorem under_key (file : Costs) (param : BreakEvenParam) (value : ℚ) :
    file.under [(param.key, value)] = param.override file value := by
  cases param <;> rfl

variable {G : Type*} {file : Costs} {rng : Rng G} {seed n : ℤ}

theorem netDeltaLive_apply (param : BreakEvenParam) (value : ℚ) (inForce : Overrides) :
    netDeltaLive file rng seed n param value inForce =
      (netDeltaWithOverride file rng seed n param value, []) := by
  refine (Cell.during_apply [(param.key, value)] []).trans ?_
  rw [Live.costing, Cell.read_apply, under_key, netDeltaWithOverride]

/-- The loop, from a process without overrides. -/
theorem bisectLive_apply (param : BreakEvenParam) (tol : ℚ) (rounds : ℕ)
    (left right deltaLo deltaHi : ℚ) :
    bisectLive (netDeltaLive file rng seed n param) tol rounds left right deltaLo deltaHi [] =
      (bisect (netDeltaWithOverride file rng seed n param) tol rounds left right deltaLo deltaHi,
        []) := by
  induction rounds generalizing left right deltaLo deltaHi with
  | zero => rfl
  | succ rounds ih =>
      rw [bisectLive, bisect]
      apply Cell.bind_settled (netDeltaLive_apply param _ [])
      intro deltaMid
      split
      · rfl
      · split
        · exact ih _ _ _ _
        · exact ih _ _ _ _

/-- The solver answers as without a process, for the value of the knob that is in force; and
then nothing is in force. -/
theorem solveBreakEvenLive_apply (text : FloatText) (param : BreakEvenParam) (lo hi tol : ℚ)
    (maxIter : ℤ) (inForce : Overrides) :
    solveBreakEvenLive text file rng seed n param lo hi tol maxIter inForce =
      (solveBreakEven text (netDeltaWithOverride file rng seed n param)
        (param.value (file.under inForce)) seed n param lo hi tol maxIter, []) := by
  have hdefault : Live.costing file (fun costs => some (param.value costs)) inForce =
      (some (param.value (file.under inForce)), inForce) := rfl
  rw [solveBreakEvenLive, solveBreakEven, Cell.bind_of_some hdefault]
  apply Cell.bind_settled (netDeltaLive_apply param _ inForce)
  intro deltaDefault
  apply Cell.bind_settled (netDeltaLive_apply param lo [])
  intro deltaLo
  apply Cell.bind_settled (netDeltaLive_apply param hi [])
  intro deltaHi
  split
  · rfl
  · apply Cell.bind_settled (bisectLive_apply param tol maxIter.toNat lo hi deltaLo deltaHi)
    intro found
    rfl

/-!
## Two evaluations of one batch
-/

theorem deltaNetAtDefault_of_solve {text : FloatText} {f : ℚ → ℚ} {default : ℚ}
    {param : BreakEvenParam} {lo hi tol : ℚ} {maxIter : ℤ} {result : BreakEvenResult}
    (h : solveBreakEven text (fun value => some (f value)) default seed n param lo hi tol
      maxIter = some result) : result.deltaNetAtDefault = round (f default) 2 := by
  simp only [solveBreakEven, Option.bind_eq_bind, Option.bind_some] at h
  split at h
  · cases h
    rfl
  · obtain ⟨found, -, h⟩ := Option.bind_eq_some_iff.1 h
    cases h
    rfl

/-- The panel shows the lead under the file's costs, with the message at the price that was in
force; and it leaves nothing in force. -/
theorem batchRunView_lead (text : FloatText) (file : Costs) {cases : List SimCase} (hn : 0 < n)
    (hcases : generateBatch rng seed n = some cases) {gross : ℚ}
    (hgross : LeadFrom rng seed cases gross) {store : EvalRunStore} {runId : String}
    {run : EvalRunRecord} (hrun : store.get runId = some run) (hseed : run.seed = seed)
    (hrunN : run.n = n) (inForce : Overrides) :
    ∃ breakEven extra, batchRunView text file rng store runId inForce =
        (some (.page run breakEven), []) ∧
      extraCost rng seed cases
        (BreakEvenParam.smsDlt.override file (file.under inForce).smsDlt) = some extra ∧
      breakEven.deltaNetAtDefault = gross - extra := by
  subst hseed hrunN
  obtain ⟨cases', rows, ours, b2, hcases', -, hours, hb2, hcompare, -⟩ :=
    compareSeed_reconciles (BreakEvenParam.smsDlt.override file (file.under inForce).smsDlt) rng
      run.seed hn
  have hsame : cases' = cases := Option.some.inj (hcases'.symm.trans hcases)
  rw [hsame] at hours hb2
  obtain ⟨extra, hextra, hlead⟩ := hgross _ ours b2 hours hb2
  obtain ⟨f, hf⟩ := netDeltaWithOverride_eq file rng run.seed hn .smsDlt
  have hvalue : f (file.under inForce).smsDlt = ours.netDeltaInr b2 := by
    have happly := congrFun hf (file.under inForce).smsDlt
    rw [netDeltaWithOverride, hcompare] at happly
    rw [← Option.some.inj happly]
    exact round_of_onGrid ((onGrid_net hours).sub (onGrid_net hb2))
  obtain ⟨breakEven, hsolved⟩ := Option.isSome_iff_exists.1
    (solveBreakEven_isSome text f (file.under inForce).smsDlt run.seed run.n .smsDlt 0 50
      (5 / 100) 40)
  refine ⟨breakEven, extra, ?_, hextra, ?_⟩
  · have hlive : solveBreakEvenLive text file rng run.seed run.n .smsDlt 0 50 (5 / 100) 40
        inForce = _ := solveBreakEvenLive_apply text .smsDlt 0 50 (5 / 100) 40 inForce
    rw [hf] at hlive
    rw [batchRunView, hrun]
    exact Cell.bind_of_some (hlive.trans (congrArg (·, []) hsolved))
  · rw [deltaNetAtDefault_of_solve hsolved, hvalue, ← hlead]
    exact round_of_onGrid ((onGrid_net hours).sub (onGrid_net hb2))

/-- When the panel describes the run. A run with both labels of the headline is stored. From
any later store that has it, the panel shows the lead of the run and leaves the overrides as
they were, when none are in force and the values that the run was scored with price the batch
as the file does; and it does so only when none are in force and the two charge `ours` equally
more than `b2`, up to the digits that are rounded off. -/
theorem panel_describes_run (text : FloatText) (file : Costs) (rng : Rng G)
    (runId createdAt : String) (store : EvalRunStore) (seed : ℤ) {n : ℤ} (hn : 0 < n)
    {labels : Option (List String)} (hknown : ∀ label ∈ runLabels labels, (policies label).isSome)
    (hours : "ours" ∈ runLabels labels) (hb2 : "b2" ∈ runLabels labels)
    (costOverrides : Option Overrides) (atRun : Overrides) :
    ∃ cases record, generateBatch rng seed n = some cases ∧
      runEval rng file runId createdAt store seed n labels costOverrides atRun =
        (some (record, store.save record), if costOverrides.getD [] = [] then atRun else []) ∧
      (store.save record).get runId = some record ∧
      ∀ (later : EvalRunStore) (inForce : Overrides), later.get runId = some record →
        ∃ breakEven left, batchRunView text file rng later runId inForce =
            (some (.page record breakEven), left) ∧
          (inForce = [] ∧
              BatchPricedAlike (file.under (effectiveOverrides costOverrides atRun)) file cases →
            record.deltaNetOursVsB2Inr = some breakEven.deltaNetAtDefault ∧ left = inForce) ∧
          (record.deltaNetOursVsB2Inr = some breakEven.deltaNetAtDefault ∧ left = inForce →
            inForce = [] ∧
              |extraCharge rng seed cases (file.under (effectiveOverrides costOverrides atRun)) -
                extraCharge rng seed cases file| ≤ 1 / 50 + n * (1 / 1250)) := by
  obtain ⟨cases, hcases⟩ : ∃ cases, generateBatch rng seed n = some cases :=
    ⟨_, if_neg (not_le.2 hn)⟩
  obtain ⟨gross, hgross⟩ := exists_leadFrom rng seed cases
  obtain ⟨record, extraRun, hrun, hid, hseed, hrunN, hextraRun, hdelta⟩ :=
    runEval_lead file runId createdAt store hcases hgross hknown hours hb2 costOverrides atRun
  refine ⟨cases, record, hcases, hrun, save_get hid, ?_⟩
  intro later inForce hlater
  obtain ⟨breakEven, extraPanel, hview, hextraPanel, hpanel⟩ :=
    batchRunView_lead text file hn hcases hgross hlater hseed hrunN inForce
  refine ⟨breakEven, [], hview, ?_, ?_⟩
  · rintro ⟨rfl, halike⟩
    -- without overrides the message has the price of the file
    change extraCost rng seed cases file = some extraPanel at hextraPanel
    rw [extraCost_alike rng seed halike, hextraPanel] at hextraRun
    rw [hdelta, hpanel, Option.some.inj hextraRun]
    exact ⟨rfl, rfl⟩
  · rintro ⟨hsame, rfl⟩
    change extraCost rng seed cases file = some extraPanel at hextraPanel
    rw [hdelta, hpanel] at hsame
    rw [sub_right_injective (Option.some.inj hsame)] at hextraRun
    have hlength : (cases.length : ℚ) = n := by exact_mod_cast generateBatch_length rng hcases
    have hcharged := abs_le.1 (extraCost_near rng seed cases _ hextraRun)
    have hfile := abs_le.1 (extraCost_near rng seed cases file hextraPanel)
    rw [hlength] at hcharged hfile
    refine ⟨rfl, abs_le.2 ⟨?_, ?_⟩⟩
    · linarith [hcharged.2, hfile.1]
    · linarith [hcharged.1, hfile.2]

/-- Generators that draw close to one, so that no retry goes through. -/
def unluckyRng : Rng Unit where
  seed _ := ()
  seeded _ := ()
  random g := (99 / 100, g)
  randbelow _ h g := (⟨0, h⟩, g)

/-- A run with dearer e-mails, of which the simulator sends none. -/
theorem panel_describes_run_email :
    ∃ record breakEven,
      runEval unluckyRng shippedCosts "run_1" "" ∅ 42 1 none (some [("attempt.email", 5)]) [] =
        (some (record, EvalRunStore.save ∅ record), []) ∧
      batchRunView ⟨fun _ => "", fun _ => ""⟩ shippedCosts unluckyRng
        (EvalRunStore.save ∅ record) "run_1" [] = (some (.page record breakEven), []) ∧
      record.deltaNetOursVsB2Inr = some breakEven.deltaNetAtDefault := by
  have hknown : ∀ label ∈ runLabels none, (policies label).isSome := by decide
  obtain ⟨cases, record, -, hrun, hstored, hshown⟩ :=
    panel_describes_run ⟨fun _ => "", fun _ => ""⟩ shippedCosts unluckyRng "run_1" "" ∅ 42
      (n := 1) (by decide) hknown (by decide) (by decide) (some [("attempt.email", 5)]) []
  obtain ⟨breakEven, left, hview, hdescribes, -⟩ := hshown _ [] hstored
  obtain ⟨hdelta, rfl⟩ := hdescribes ⟨rfl, fun case _ =>
    ⟨pricedAlike_email shippedCosts 5 case _, pricedAlike_email shippedCosts 5 case _⟩⟩
  exact ⟨record, breakEven, hrun, hview, hdelta⟩

/-- A run with messages at five rupees: its lead is not the one that the panel shows. -/
theorem panel_misses_overrides :
    ∃ record breakEven,
      runEval unluckyRng shippedCosts "run_1" "" ∅ 42 1 none (some [("attempt.sms_dlt", 5)]) [] =
        (some (record, EvalRunStore.save ∅ record), []) ∧
      batchRunView ⟨fun _ => "", fun _ => ""⟩ shippedCosts unluckyRng
        (EvalRunStore.save ∅ record) "run_1" [] = (some (.page record breakEven), []) ∧
      record.deltaNetOursVsB2Inr ≠ some breakEven.deltaNetAtDefault := by
  obtain ⟨cases, hcases⟩ : ∃ cases, generateBatch unluckyRng 42 1 = some cases := ⟨_, rfl⟩
  obtain ⟨gross, hgross⟩ := exists_leadFrom unluckyRng 42 cases
  have hknown : ∀ label ∈ runLabels none, (policies label).isSome := by decide
  obtain ⟨record, extraRun, hrun, hid, hseed, hrunN, hextraRun, hdelta⟩ :=
    runEval_lead shippedCosts "run_1" "" ∅ hcases hgross hknown (by decide) (by decide)
      (some [("attempt.sms_dlt", 5)]) []
  obtain ⟨breakEven, extraPanel, hview, hextraPanel, hpanel⟩ :=
    batchRunView_lead ⟨fun _ => "", fun _ => ""⟩ shippedCosts (by decide) hcases hgross
      (save_get hid) hseed hrunN []
  refine ⟨record, breakEven, hrun, hview, ?_⟩
  have hcharged : ((generateBatch unluckyRng 42 1).bind fun cases =>
      extraCost unluckyRng 42 cases
        (shippedCosts.under (effectiveOverrides (some [("attempt.sms_dlt", 5)]) []))) ≠
      (generateBatch unluckyRng 42 1).bind fun cases =>
        extraCost unluckyRng 42 cases (BreakEvenParam.smsDlt.override shippedCosts
          (shippedCosts.under []).smsDlt) := by
    decide +kernel
  rw [hcases, Option.bind_some, Option.bind_some, hextraRun, hextraPanel] at hcharged
  rw [hdelta, hpanel]
  intro hsame
  exact hcharged (congrArg some (sub_right_injective (Option.some.inj hsame)))

end RecoveryAgent.Eval
