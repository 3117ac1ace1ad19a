import RecoveryAgent.Eval.CostKnobs
import RecoveryAgent.Eval.Futile
import RecoveryAgent.Eval.SalaryWindow
import RecoveryAgent.Execute.Service

/-!
# The simulated executor

`execute/sim_adapter.py`, what `get_executor` gives unless Razorpay is asked for. It throws
the dice of one action with a generator seeded by the case and the action, and it has its own
idea of dead instruments and of the days with funds, beside those of the payer of the batch.
-/

namespace RecoveryAgent.Execute

open Library Python Policy Ledger Guard Eval

def fundsLikely (execMeta : ExecuteMeta) (dayOffset : ℕ) : Bool :=
  match execMeta.observedCreditDay with
  | none => 3 ≤ dayOffset
  | some credit =>
      let absDom := (execMeta.failureDom - 1 + dayOffset) % 28 + 1
      absDom ∈ [credit, credit % 28 + 1, (credit + 1) % 28 + 1]

def deadReasons : List String := ["card_expired", "token_invalid", "mandate_revoked"]

def simSeed (action : Action) (case : CaseRow) (execMeta : ExecuteMeta) : String :=
  let dayOffset :=
    match action.dayOffset with
    | none => "None"
    | some offset => toString offset
  execMeta.seed ++ ":" ++ case.id ++ ":" ++ action.verb.value ++ ":" ++ dayOffset

def retryChance (execMeta : ExecuteMeta) (dayOffset : ℕ) : ℚ :=
  if lower execMeta.failureReason ∈ ["issuer_transient", "gateway_timeout"] then 75 / 100
  else if fundsLikely execMeta dayOffset then 85 / 100
  else 8 / 100

section

variable {G : Type*} (rng : Rng G)

def simRetry (g : G) (action : Action) (execMeta : ExecuteMeta) : Outcome :=
  let reason := lower execMeta.failureReason
  if reason ∈ deadReasons then
    { ok := false
      externalId := some ("sim_retry_" ++ toString (rng.randint g 1000 9999).1)
      recovered := false
      status := "failed"
      note := "dead_instrument_retry_impossible"
      raw := [("reason", .str reason)] }
  else
    let dayOffset := action.dayOffset.getD 0
    let p := retryChance execMeta dayOffset
    let (draw, g) := rng.random g
    let recovered := decide (draw < p)
    { ok := recovered
      externalId := some ("sim_pay_" ++ toString (rng.randint g 10000 99999).1)
      recovered
      status := if recovered then "ok" else "failed"
      note := "sim_retry"
      raw := [("p", .float (.fin p)), ("funded", .bool (fundsLikely execMeta dayOffset))] }

def simLink (g : G) (execMeta : ExecuteMeta) : Outcome :=
  let p : ℚ := if lower execMeta.failureReason ∈ deadReasons then 40 / 100 else 22 / 100
  let (draw, g) := rng.random g
  let recovered := decide (draw < p)
  { ok := true
    externalId := some ("sim_plink_" ++ toString (rng.randint g 10000 99999).1)
    recovered
    status := "created_link"
    note := "sim_link_sent"
    raw := [("payer_acted", .bool recovered), ("p", .float (.fin p))] }

def simRun : Executor := fun action case execMeta =>
  let g := rng.seeded (simSeed action case execMeta)
  match action.verb with
  | .escalateHuman =>
      { ok := true
        externalId := some ("sim_esc_" ++ slice 8 case.id)
        recovered := false
        status := "escalated"
        note := "handed_to_human" }
  | .scheduleRetry => simRetry rng g action execMeta
  | .sendPaymentLink => simLink rng g execMeta
  | .requestMandateUpdate => simLink rng g execMeta

/-!
## Dead instruments
-/

theorem mem_deadReasons_iff (reason : FailureReason) :
    reason.value ∈ deadReasons ↔ recoveryClassFor reason = .customerAction := by
  cases reason <;> decide

theorem simRun_retry_dead {action : Action} {case : CaseRow} {execMeta : ExecuteMeta}
    (hverb : action.verb = .scheduleRetry)
    (hdead : lower execMeta.failureReason ∈ deadReasons) :
    (simRun rng action case execMeta).recovered = false := by
  simp only [simRun, hverb, simRetry, if_pos hdead]

end

/-!
## The days with funds
-/

/-- With the credit day known, the executor and the payer of the batch find funds on the same
days. -/
theorem fundsLikely_eq {execMeta : ExecuteMeta} {case : SimCase}
    (hreason : case.visible.failureReason ∉
      [FailureReason.issuerTransient, .gatewayTimeout, .riskFraud])
    (hvalid : case.hidden.instrumentValid = true)
    (hcredit : execMeta.observedCreditDay = some case.hidden.trueCreditDay)
    (hdom : execMeta.failureDom = case.failureDom) (dayOffset : ℕ) :
    fundsLikely execMeta dayOffset =
      fundsAvailableOnDay case (case.failureDom + dayOffset) := by
  have htransient : case.visible.failureReason ∉
      [FailureReason.issuerTransient, .gatewayTimeout] := by
    intro h
    apply hreason
    simp only [List.mem_cons, List.not_mem_nil, or_false] at h ⊢
    tauto
  have hfraud : case.visible.failureReason ≠ .riskFraud := by
    rintro h
    exact hreason (by simp [h])
  have hday : execMeta.failureDom - 1 + (dayOffset : ℤ) =
      case.failureDom + dayOffset - 1 := by
    rw [hdom]
    omega
  simp only [fundsLikely, hcredit, fundsAvailableOnDay, if_neg htransient, if_neg hfraud, hvalid,
    hday]
  simp

/-!
## Against the payer of the batch
-/

section

variable {G : Type*} (rng : Rng G)

/-- A guarded retry on a dead instrument never recovers the case. -/
theorem dead_retry_open {s : Session} {row : CaseRow} (hheld : s.Holds row) {ctx : GuardContext}
    {execMeta : ExecuteMeta} {policyVersion : String} (hverb : ctx.action.verb = .scheduleRetry)
    (hdead : lower execMeta.failureReason ∈ deadReasons)
    {run : GuardRun} {outcome : Option Outcome}
    (hran : executeWithGuards s row ctx (simRun rng) (some execMeta) policyVersion =
      .ok (run, outcome)) (hrecovered : run.case.status = .recovered) :
    row.status = .recovered := by
  have hconducted := Conducted.some (exec_conducts (simRun rng) execMeta policyVersion)
  have hverdict := guardEffect_verdict s row ctx
    (some (execConduct (simRun rng) execMeta policyVersion)) policyVersion []
  obtain ⟨hrun, -⟩ := Prod.mk.inj (executeWithGuards_eq_ok hran)
  have hcase : run.case = (guardRun s row ctx (some (exec (simRun rng) execMeta policyVersion))
      policyVersion []).case := congrArg GuardRun.case hrun
  rw [hcase, (guardRun_eq hconducted hheld).2] at hrecovered
  generalize guardEffect s row ctx (some (execConduct (simRun rng) execMeta policyVersion))
    policyVersion [] = e at hverdict hrecovered
  cases hverdict with
  | stopped _ => exact hrecovered
  | optedOut _ _ => cases hrecovered
  | raised _ _ _ => exact hrecovered
  | blocked _ _ _ _ => cases hrecovered
  | admitted _ _ _ _ nothing => cases nothing
  | executed running _ _ _ something =>
      cases something
      have hnot : (simRun rng ctx.action (reopened row) execMeta).recovered = false :=
        simRun_retry_dead rng hverb hdead
      have hcounted : (execConduct (simRun rng) execMeta policyVersion ctx.action
          (reopened row)).case = counted (reopened row) ctx.action := by
        simp only [execConduct, hnot]
        rfl
      rw [hcounted, counted, if_pos hverb] at hrecovered
      cases (reopened_status running).1.symm.trans hrecovered

/-- The executor and the payer of the batch agree on what a retry can do: on an instrument that
needs the customer none recovers the case, guarded or in the batch, and elsewhere, with the
credit day known, both find funds on the same days. -/
theorem sim_agrees_with_payer {case : SimCase} {execMeta : ExecuteMeta}
    (hreason : lower execMeta.failureReason = case.visible.failureReason.value) :
    (recoveryClassFor case.visible.failureReason = .customerAction →
      (∀ g dayOffset, (tryRetry rng.random g case dayOffset).1 = false) ∧
      ∀ {s : Session} {row : CaseRow}, s.Holds row → ∀ ctx : GuardContext,
        ctx.action.verb = .scheduleRetry → ∀ policyVersion run outcome,
          executeWithGuards s row ctx (simRun rng) (some execMeta) policyVersion =
            .ok (run, outcome) → run.case.status = .recovered → row.status = .recovered) ∧
    (case.visible.failureReason ∉
        [FailureReason.issuerTransient, .gatewayTimeout, .riskFraud] →
      case.hidden.instrumentValid = true →
      execMeta.observedCreditDay = some case.hidden.trueCreditDay →
      execMeta.failureDom = case.failureDom → ∀ dayOffset : ℕ,
        fundsLikely execMeta dayOffset =
          fundsAvailableOnDay case (case.failureDom + dayOffset)) := by
  refine ⟨fun hclass => ⟨fun g dayOffset => ?_, ?_⟩, fundsLikely_eq⟩
  · rw [tryRetry, if_pos hclass]
  · intro s row hheld ctx hverb policyVersion run outcome
    refine dead_retry_open rng hheld hverb ?_
    rw [hreason]
    exact (mem_deadReasons_iff _).2 hclass

end

/-- The case of a payer whose card has expired. -/
def expiredRow : CaseRow where
  id := "sim_42_0001"
  payerRef := "payer_42_0001"
  amountPaise := 49900
  rail := .card

/-- A guarded retry of an expired card; and the salary of the seventh, twenty days after a
failure on the fifteenth. -/
theorem sim_agrees_with_payer_late :
    (∃ run outcome, executeWithGuards { db := Db.single expiredRow, utcnow := fun _ => daytime }
        expiredRow { caseId := expiredRow.id, action := { verb := .scheduleRetry }, now := daytime }
        (simRun zeroRng) (some { failureReason := "card_expired" }) "phase7" =
          .ok (run, outcome) ∧ run.case.status ≠ .recovered) ∧
    fundsLikely { failureReason := "insufficient_funds", observedCreditDay := some 7 } 20 =
      fundsAvailableOnDay latePayer (latePayer.failureDom + (20 : ℕ)) := by
  constructor
  · have hheld : Session.Holds { db := Db.single expiredRow, utcnow := fun _ => daytime }
        expiredRow := rfl
    have hran := @executeWithGuards_of_returns
      { db := Db.single expiredRow, utcnow := fun _ => daytime } expiredRow
      { caseId := expiredRow.id, action := { verb := .scheduleRetry }, now := daytime }
      (simRun zeroRng) (some { failureReason := "card_expired" }) "phase7" rfl
    refine ⟨_, _, hran, fun hrecovered => ?_⟩
    have hbefore := ((@sim_agrees_with_payer _ zeroRng expiredCase
      { failureReason := "card_expired" } (by decide)).1 rfl).2 hheld _ rfl _ _ _ hran hrecovered
    cases hbefore
  · exact (@sim_agrees_with_payer _ zeroRng latePayer
      { failureReason := "insufficient_funds", observedCreditDay := some 7 } (by decide)).2
        (by decide) rfl rfl rfl 20

/-!
## Against the planner
-/

/-- Of the first two planned days one has funds, whatever the day of the failure and the
observed credit day. -/
theorem observed_plan_funded : ∀ day i : Fin 28,
    ∃ off ∈ (salaryWindowOffsets day.val (some (i.val + 1))).take 2,
      0 ≤ off ∧ dayOfMonth (day.val + off) ∈ fundedDays (i.val + 1) := by
  decide +kernel

/-- Without a hint one of the first three planned days is late enough. -/
theorem unobserved_plan_late : ∀ day : Fin 28,
    ∃ off ∈ (salaryWindowOffsets day.val none).take 3, 3 ≤ off := by
  decide +kernel

theorem salaryWindow_take {n : ℕ} {maxRetries : ℤ} (hbudget : (n : ℤ) ≤ maxRetries)
    {failureDom : ℤ} {observedCreditDay : Option ℤ} {off : ℤ}
    (h : off ∈ (salaryWindowOffsets (failureDom % 28) observedCreditDay).take n) :
    off ∈ offsetsForTiming "salary_window" failureDom observedCreditDay maxRetries := by
  rw [salaryWindowOffsets_emod] at h
  have hle : n ≤ (max 0 maxRetries).toNat := by omega
  rw [offsetsForTiming, if_pos rfl]
  exact ((List.take_sublist_take_left hle).subset h)

/-- With three retries or more the salary plan has a day on which the executor finds funds,
with or without an observed credit day. -/
theorem salary_plan_meets_sim (execMeta : ExecuteMeta)
    (hcredit : ∀ credit, execMeta.observedCreditDay = some credit → 1 ≤ credit ∧ credit ≤ 28)
    {maxRetries : ℤ} (hbudget : 3 ≤ maxRetries) :
    ∃ off : ℕ, (off : ℤ) ∈ offsetsForTiming "salary_window" execMeta.failureDom
        execMeta.observedCreditDay maxRetries ∧
      fundsLikely execMeta off = true := by
  obtain ⟨day, hday⟩ : ∃ day : Fin 28, execMeta.failureDom % 28 = day.val :=
    ⟨⟨(execMeta.failureDom % 28).toNat, by omega⟩, by simp only; omega⟩
  cases hobserved : execMeta.observedCreditDay with
  | none =>
      obtain ⟨off, hoff, hlate⟩ := unobserved_plan_late day
      rw [← hday] at hoff
      have hmem := salaryWindow_take hbudget hoff
      lift off to ℕ using by omega
      refine ⟨off, hmem, ?_⟩
      simp only [fundsLikely, hobserved, decide_eq_true_eq]
      exact_mod_cast hlate
  | some credit =>
      obtain ⟨hlow, hhigh⟩ := hcredit credit hobserved
      obtain ⟨i, hi⟩ : ∃ i : Fin 28, credit = i.val + 1 :=
        ⟨⟨(credit - 1).toNat, by omega⟩, by simp only; omega⟩
      obtain ⟨off, hoff, hnonneg, hfunded⟩ := observed_plan_funded day i
      rw [← hday, ← hi] at hoff hfunded
      rw [dayOfMonth_add_emod] at hfunded
      have hmem : off ∈ offsetsForTiming "salary_window" execMeta.failureDom (some credit)
          maxRetries := salaryWindow_take (n := 2) (by omega) hoff
      lift off to ℕ using hnonneg
      refine ⟨off, hmem, ?_⟩
      have hshift : execMeta.failureDom - 1 + (off : ℤ) = execMeta.failureDom + off - 1 := by omega
      simp only [fundsLikely, hobserved, hshift, decide_eq_true_eq]
      exact hfunded

/-- A failure on the fifteenth with the salary on the seventh, as it is planned. -/
theorem salary_plan_meets_sim_late :
    ∃ off : ℕ, (off : ℤ) ∈ offsetsForTiming "salary_window" 15 (some 7) 4 ∧
      fundsLikely { observedCreditDay := some 7 } off = true :=
  salary_plan_meets_sim { observedCreditDay := some 7 } (by
    rintro credit ⟨⟩
    decide) (by decide)

end RecoveryAgent.Execute
