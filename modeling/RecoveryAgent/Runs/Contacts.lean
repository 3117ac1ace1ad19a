import RecoveryAgent.Runs.Budget

/-!
# The contact budget

The gates know a contact by its verb or by its channel; `_exec` counts contacts
by their verb alone. An action that contacts through its channel only is
therefore gated by a counter that it never raises. Where the contacts that get
through are links, `max_contacts` bounds them.
-/

namespace RecoveryAgent.Runs

open Library Python Policy Ledger Guard Execute

/-- The context takes the counters from the row, under one budget. -/
def ExecuteCall.TakesCounters (maxContacts : ℤ) (call : ExecuteCall) : Prop :=
  ∀ case, (call.ctx case).contactsUsed = case.contactsUsed ∧
    (call.ctx case).attemptsUsed = case.attemptsUsed ∧
      (call.ctx case).maxContacts = maxContacts

/-- A contact that the guard lets through is one by its verb. -/
def ContactsAreLinks (utcnow : ℕ → DateTime) (caseId : String) (db : Db) (call : ExecuteCall) :
    Prop :=
  ∀ case, db.cases.get? caseId = some case →
    LetThrough (openSession utcnow db) case (call.ctx case) →
      isContactVerbOrChannel (call.ctx case).action = true →
        (call.ctx case).action.verb.isLink = true

/-- The executed actions that the gates recognise as contacts. -/
def contactsMade (utcnow : ℕ → DateTime) (caseId : String) (db : Db)
    (calls : List ExecuteCall) : ℕ :=
  (Run.emitted (executeStep utcnow caseId) db calls).countP
    fun c => isContactVerbOrChannel c.action

theorem contactsUsed_lt_of_letThrough {s : Session} {case : CaseRow} {ctx : GuardContext}
    (h : LetThrough s case ctx) (hcontact : isContactVerbOrChannel ctx.action = true) :
    ctx.contactsUsed < ctx.maxContacts := by
  have hgates := checks_allPassed_iff.1 h.passed
  exact hgates.2.2.1 hcontact

/-- In a run whose contacts are links, the contacts made and the contacts already
counted stay within the budget. -/
theorem contacts_bounded_of_links (utcnow : ℕ → DateTime) (caseId : String) (db : Db)
    (maxContacts : ℤ) (calls : List ExecuteCall)
    (hcounters : ∀ call ∈ calls, call.TakesCounters maxContacts)
    (hlinks : Run.along (executeStep utcnow caseId) (ContactsAreLinks utcnow caseId) db calls) :
    contactsMade utcnow caseId db calls ≤ maxContacts.toNat - storedUse contacts caseId db := by
  apply (executeStep_budgeted contacts isContactVerbOrChannel maxContacts.toNat utcnow
    caseId).emitted_le
  apply Run.along_of_along _ hlinks hcounters
  intro db call hcall htakes case hcase hthrough hcontact
  obtain ⟨hused, -, hmax⟩ := htakes case
  have hlt := contactsUsed_lt_of_letThrough hthrough hcontact
  rw [hused, hmax] at hlt
  constructor
  · exact hcall case hcase hthrough hcontact
  · exact Int.lt_toNat.2 hlt

/-- A call that takes the counters from the row, on a channel of its own. -/
def contactCall (verb : ActionVerb) (channel : Channel) (dayOffset : ℕ) : ExecuteCall where
  ctx := fun case =>
    { caseId := case.id
      action :=
        { verb
          channel
          dayOffset := some dayOffset
          reasonCode := "AI_PROPOSAL"
          proposedBy := .llm }
      now := daytime
      contactsUsed := case.contactsUsed
      attemptsUsed := case.attemptsUsed }
  executor := fun _ _ _ => { ok := true }
  execMeta := fun case => { seed := case.id }
  policyVersion := "phase7"

theorem contactCall_takesCounters (verb : ActionVerb) (channel : Channel) (dayOffset : ℕ) :
    (contactCall verb channel dayOffset).TakesCounters 2 :=
  fun _ => ⟨rfl, rfl, rfl⟩

/-- Of three links on a fresh case at most two are sent. -/
theorem contacts_bounded_of_links_fresh :
    contactsMade (fun _ => daytime) "case_1" freshDb
        ([0, 1, 2].map (contactCall .sendPaymentLink .link)) ≤
      (2 : ℤ).toNat - storedUse contacts "case_1" freshDb :=
  contacts_bounded_of_links (fun _ => daytime) "case_1" freshDb 2
    ([0, 1, 2].map (contactCall .sendPaymentLink .link))
    (List.forall_mem_map.2 fun dayOffset _ => contactCall_takesCounters _ _ dayOffset)
    ⟨fun _ _ _ _ => rfl, fun _ _ _ _ => rfl, fun _ _ _ _ => rfl, trivial⟩

/-- Three hand-overs to a human that name a channel are all executed under a
budget of two contacts. -/
theorem contacts_exceed_budget :
    (∀ call ∈ [0, 1, 2].map (contactCall .escalateHuman .sms), call.TakesCounters 2) ∧
      ¬contactsMade (fun _ => daytime) "case_1" freshDb
        ([0, 1, 2].map (contactCall .escalateHuman .sms)) ≤ 2 := by
  constructor
  · exact List.forall_mem_map.2 fun dayOffset _ => contactCall_takesCounters _ _ dayOffset
  · decide

end RecoveryAgent.Runs
