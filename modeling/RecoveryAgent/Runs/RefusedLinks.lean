import RecoveryAgent.Execute.Razorpay
import RecoveryAgent.Runs.AtMostOnce

/-!
# Refused links

No reader of the code asks an outcome whether it is ok. A link that Razorpay refuses is
counted as a contact, and its `action` row stands for its fingerprint, like those of a
link that was created: the action is used up.
-/

namespace RecoveryAgent.Runs

open Library Python Policy Ledger Guard Execute

/-- A link is asked for, and Razorpay refuses it or the request raises. -/
structure LinkRefused (r : RazorpayExecutor) (action : Action) (case : CaseRow)
    (execMeta : ExecuteMeta) : Prop where
  link : action.verb.isLink = true
  live : r.dryRun = false ∧ execMeta.dryRun = false
  notCreated : ∀ plinkId data,
    r.postPaymentLink (RazorpayExecutor.linkPayload action case execMeta) ≠ .created plinkId data

namespace LinkRefused

variable {r : RazorpayExecutor} {action : Action} {case : CaseRow} {execMeta : ExecuteMeta}

/-- The outcome is neither ok nor a recovery, and names nothing at Razorpay. -/
theorem outcome (h : LinkRefused r action case execMeta) :
    (r.run action case execMeta).ok = false ∧
      (r.run action case execMeta).recovered = false ∧
        (r.run action case execMeta).externalId = none := by
  have hrun : r.run action case execMeta = r.createPaymentLink action case execMeta := by
    unfold RazorpayExecutor.run
    rcases (ActionVerb.isLink_iff action.verb).1 h.link with hverb | hverb
    · rw [hverb]
    · rw [hverb]
  rw [hrun, RazorpayExecutor.createPaymentLink, if_neg (by simp [h.live])]
  cases hreply : r.postPaymentLink (RazorpayExecutor.linkPayload action case execMeta) with
  | created plinkId data => exact absurd hreply (h.notCreated plinkId data)
  | refused statusCode text => exact ⟨rfl, rfl, rfl⟩
  | raised text => exact ⟨rfl, rfl, rfl⟩

/-- A blocked case that is open again asks for the same link. -/
theorem reopened (h : LinkRefused r action case execMeta) :
    LinkRefused r action (reopened case) execMeta := by
  refine ⟨h.link, h.live, ?_⟩
  have hpayload : RazorpayExecutor.linkPayload action (Guard.reopened case) execMeta =
      RazorpayExecutor.linkPayload action case execMeta := by
    unfold Guard.reopened
    split
    · rfl
    · rfl
  rw [hpayload]
  exact h.notCreated

/-- The contact is counted, and the case stays open. -/
theorem case_after (h : LinkRefused r action case execMeta) (policyVersion : String)
    (hrunning : isCaseStopped case = false) :
    (execConduct r.run execMeta policyVersion action (Guard.reopened case)).case.contactsUsed =
        case.contactsUsed + 1 ∧
      isCaseStopped (execConduct r.run execMeta policyVersion action
        (Guard.reopened case)).case = false := by
  have hretry : action.verb ≠ .scheduleRetry := by
    intro hverb
    have hlink := h.link
    rw [hverb] at hlink
    cases hlink
  have hcase : (execConduct r.run execMeta policyVersion action (Guard.reopened case)).case =
      counted (Guard.reopened case) action := by
    unfold execConduct
    simp only [h.reopened.outcome.2.1, Bool.false_eq_true, if_false]
  rw [hcase, counted, if_neg hretry, if_pos h.link]
  constructor
  · unfold Guard.reopened
    split
    · rfl
    · rfl
  · exact isCaseStopped_eq_false_iff.2 (Or.inl (reopened_status hrunning).1)

end LinkRefused

/-- The context of a request for the same action, with nothing but the ledger to say what
was executed. -/
structure AsksAgain (ctx ctx' : GuardContext) : Prop where
  caseId : ctx'.caseId = ctx.caseId
  action : ctx'.action = ctx.action
  fingerprint : ctx'.actionFingerprint = ctx.actionFingerprint
  executed : ctx'.executedFingerprints = ∅

theorem AsksAgain.fingerprint_eq {ctx ctx' : GuardContext} (h : AsksAgain ctx ctx') :
    ctx'.fingerprint = ctx.fingerprint := by
  unfold GuardContext.fingerprint fingerprintAction
  rw [h.caseId, h.action, h.fingerprint]

/-- After `execute_with_guards` with a link that is refused, one contact more is used, the
executed fingerprints are those from before and that of the action, and a request for the
same action is refused by the idempotency gate. -/
theorem refused_link_is_used_up (r : RazorpayExecutor) {s : Session} {case : CaseRow}
    {ctx : GuardContext} (execMeta : Option ExecuteMeta) (policyVersion : String)
    (hheld : s.Holds case) (hthrough : LetThrough s case ctx)
    (hrefused : LinkRefused r ctx.action case
      (execMeta.getD { failureReason := "unknown", seed := case.id })) :
    ∃ run outcome,
      executeWithGuards s case ctx r.run execMeta policyVersion = .ok (run, outcome) ∧
      (∃ out, outcome = some out ∧ out.ok = false ∧ out.externalId = none) ∧
      run.session.Holds run.case ∧ isCaseStopped run.case = false ∧
      run.case.contactsUsed = case.contactsUsed + 1 ∧
      executedFingerprints run.session case.id =
        insert ctx.fingerprint (executedFingerprints s case.id) ∧
      ∀ ctx', AsksAgain ctx ctx' →
        (gateIdempotency (ctx'.replayed run.session case.id)).passed = false ∧
          ¬LetThrough run.session run.case ctx' := by
  generalize hmeta : execMeta.getD { failureReason := "unknown", seed := case.id } = m at hrefused
  have hconducted := Conducted.some (exec_conducts r.run m policyVersion)
  obtain ⟨hsession, hcase⟩ : (guardRun s case ctx _ policyVersion []).session = _ ∧
      (guardRun s case ctx _ policyVersion []).case = _ :=
    guardRun_eq hconducted hheld
  have hverdict := guardEffect_verdict s case ctx (some (execConduct r.run m policyVersion))
    policyVersion []
  obtain ⟨hcontacts, hopen⟩ := hrefused.case_after policyVersion hthrough.running
  have hexecuted : executedFingerprints (s.perform (guardEffect s case ctx
      (some (execConduct r.run m policyVersion)) policyVersion [])) case.id =
        insert ctx.fingerprint (executedFingerprints s case.id) := by
    ext fp
    rw [executedFingerprints_verdict fp hverdict hconducted, hthrough.effect, Finset.mem_insert,
      or_comm, eq_comm (a := fp)]
    simp
  have hid := hverdict.id hconducted
  have heffect : (guardEffect s case ctx (some (execConduct r.run m policyVersion))
      policyVersion []).case = _ :=
    congrArg Effect.case (hthrough.effect (execConduct r.run m policyVersion))
  refine ⟨_, _, executeWithGuards_of_returns hthrough.raisesOn, ?_⟩
  simp only [hmeta, (hthrough.result _).2, Option.isSome_some, if_true]
  rw [hsession, hcase]
  refine ⟨⟨_, rfl, hrefused.reopened.outcome.1, hrefused.reopened.outcome.2.2⟩,
    hheld.perform hid, ?_, ?_, hexecuted, ?_⟩
  · rw [heffect]
    exact hopen
  · rw [heffect]
    exact hcontacts
  · intro ctx' hagain
    have hon : ctx'.fingerprint ∈ ctx'.executedOn (s.perform (guardEffect s case ctx
        (some (execConduct r.run m policyVersion)) policyVersion [])) case.id := by
      rw [GuardContext.executedOn, if_pos hagain.executed, hexecuted, hagain.fingerprint_eq]
      exact Finset.mem_insert_self _ _
    refine ⟨Bool.eq_false_iff.2 fun hpassed => idempotency_passed_iff.1 hpassed hon, ?_⟩
    intro hlet
    have hpassed := hlet.passed
    rw [hid] at hpassed
    exact (checks_allPassed_iff.1 hpassed).2.2.2.2.2 hon

/-- Razorpay answers every request for a link with an error. -/
def refusing : RazorpayExecutor where
  keyId := "rzp_test_key"
  keySecret := "secret"
  newHex := "0123456789"
  getPayment := fun _ => .error "not found"
  postPaymentLink := fun _ => .refused 500 "server error"

/-- A link for the fresh case. -/
def linkContext : GuardContext where
  caseId := "case_1"
  action := { verb := .sendPaymentLink, channel := .link, amountPaise := some 49900 }
  now := daytime

theorem linkContext_letThrough :
    LetThrough (openSession (fun _ => daytime) freshDb) freshCase linkContext :=
  ⟨rfl, rfl, by decide, by decide⟩

theorem refused_link_is_used_up_fresh :
    ∃ run outcome, executeWithGuards (openSession (fun _ => daytime) freshDb) freshCase linkContext
      refusing.run none "phase7" = .ok (run, outcome) ∧ run.case.contactsUsed = 1 := by
  have hheld : (openSession (fun _ => daytime) freshDb).Holds freshCase := rfl
  have hrefused : LinkRefused refusing linkContext.action freshCase
      { failureReason := "unknown", seed := "case_1" } :=
    ⟨rfl, ⟨by decide, rfl⟩, nofun⟩
  obtain ⟨run, outcome, hran, -, -, -, hcontacts, -⟩ :=
    refused_link_is_used_up refusing none "phase7" hheld linkContext_letThrough hrefused
  exact ⟨run, outcome, hran, hcontacts⟩

/-- The refused link of the fresh case leaves neither the counter nor the fingerprints as
they were, and the second request for it does not get through. -/
theorem refused_link_not_retryable :
    let s := openSession (fun _ => daytime) freshDb
    ∃ run outcome,
      executeWithGuards s freshCase linkContext refusing.run none "phase7" = .ok (run, outcome) ∧
      run.case.contactsUsed ≠ freshCase.contactsUsed ∧
      executedFingerprints run.session "case_1" ≠ executedFingerprints s "case_1" ∧
      (gateIdempotency (linkContext.replayed run.session "case_1")).passed = false :=
  ⟨_, _, executeWithGuards_of_returns (by decide), by decide⟩

end RecoveryAgent.Runs
