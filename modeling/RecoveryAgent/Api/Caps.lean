import RecoveryAgent.Api.RoutesExecute

/-!
# The caps across requests

On a given case the route puts the counters of the request into the context,
and those of the row only on a case it has just opened. The caps then compare
numbers that no execution has raised. They hold over a run whose requests come
through only while the row itself is below the caps.
-/

namespace RecoveryAgent.Api

open Library Python Policy Ledger Guard Execute Runs

structure ExecuteRunRequest.LeavesCounters (req : ExecuteRunRequest) : Prop where
  contactsUsed : req.contactsUsed = 0
  attemptsUsed : req.attemptsUsed = 0
  maxContacts : req.maxContacts = 2
  maxAttempts : req.maxAttempts = 3

/-- The executed actions with a verb of the given kind. -/
def executedOf (kind : ActionVerb → Bool) (utcnow : ℕ → DateTime) (db : Db)
    (requests : List (Environment × ExecuteRunRequest)) : ℕ :=
  (Run.emitted (executeRunStep utcnow) db requests).countP fun c => kind c.action.verb

def isRetry (verb : ActionVerb) : Bool := verb = .scheduleRetry

/-- When the guard lets a retry or a link through, the row is below its cap. -/
def RowBelowCaps (utcnow : ℕ → DateTime) (caseId : String) (db : Db)
    (request : Environment × ExecuteRunRequest) : Prop :=
  ∀ now action case, request.2.clock request.1 = .ok now → request.2.action = .ok action →
    db.cases.get? caseId = some case →
      LetThrough (openSession utcnow db) case (request.2.context now action case) →
        (isRetry action.verb = true → case.attemptsUsed < 3) ∧
          (action.verb.isLink = true → case.contactsUsed < 2)

/-- Requests on a given case within a budget spend it. -/
theorem executeRunStep_budgeted (counter : Counter) (kind : Action → Bool) (cap : ℕ)
    (utcnow : ℕ → DateTime) (caseId : String) :
    Run.Budgeted (executeRunStep utcnow) (fun c => kind c.action) (storedUse counter caseId)
      (StoredStopped caseId) cap fun db request => request.2.given = some caseId ∧
        ∀ now action, request.2.clock request.1 = .ok now → request.2.action = .ok action →
          WithinBudget counter kind cap utcnow caseId db
            (request.2.call request.1 now action) where
  kept := by
    rintro db ⟨env, req⟩ ⟨hgiven, hwithin⟩
    rcases executeRunStep_of_given utcnow db hgiven with hstep |
      ⟨now, action, hclock, haction, hstep⟩
    · rw [hstep]
    · rw [hstep]
      exact (executeStep_budgeted counter kind cap utcnow caseId).kept db _
        (hwithin now action hclock haction)
  shut := by
    rintro db ⟨env, req⟩ ⟨hgiven, hwithin⟩ hstopped
    rcases executeRunStep_of_given utcnow db hgiven with hstep |
      ⟨now, action, hclock, haction, hstep⟩
    · rw [hstep]
      exact ⟨hstopped, rfl⟩
    · rw [hstep]
      exact (executeStep_budgeted counter kind cap utcnow caseId).shut db _
        (hwithin now action hclock haction) hstopped
  spend := by
    rintro db ⟨env, req⟩ ⟨hgiven, hwithin⟩
    rcases executeRunStep_of_given utcnow db hgiven with hstep |
      ⟨now, action, hclock, haction, hstep⟩
    · rw [hstep]
      exact Or.inl rfl
    · rw [hstep]
      exact (executeStep_budgeted counter kind cap utcnow caseId).spend db _
        (hwithin now action hclock haction)

/-- In a run on a given case whose requests come through only below the row's
caps, at most three retries and two links are executed, less those the row has
counted before. -/
theorem caps_hold_below_row_caps (utcnow : ℕ → DateTime) (caseId : String) (db : Db)
    (requests : List (Environment × ExecuteRunRequest))
    (hgiven : ∀ request ∈ requests, request.2.given = some caseId)
    (hcaps : Run.along (executeRunStep utcnow) (RowBelowCaps utcnow caseId) db requests) :
    executedOf isRetry utcnow db requests ≤ 3 - storedUse attempts caseId db ∧
      executedOf ActionVerb.isLink utcnow db requests ≤ 2 - storedUse contacts caseId db := by
  constructor
  · apply (executeRunStep_budgeted attempts (fun a => isRetry a.verb) 3 utcnow caseId).emitted_le
    apply Run.along_of_along _ hcaps hgiven
    rintro db ⟨env, req⟩ hrow hcase
    refine ⟨hcase, ?_⟩
    intro now action hclock haction case hget hthrough hretry
    exact ⟨hretry, (hrow now action case hclock haction hget hthrough).1 hretry⟩
  · apply (executeRunStep_budgeted contacts (fun a => a.verb.isLink) 2 utcnow caseId).emitted_le
    apply Run.along_of_along _ hcaps hgiven
    rintro db ⟨env, req⟩ hrow hcase
    refine ⟨hcase, ?_⟩
    intro now action hclock haction case hget hthrough hlink
    exact ⟨hlink, (hrow now action case hclock haction hget hthrough).2 hlink⟩

/-- A retry request on the case, as a client sends it. -/
def retryOnDay (dayOffset : ℤ) : Environment × ExecuteRunRequest :=
  ({ fromisoformat := fun _ => none
     now := daytime
     newEventId := "exec_1"
     newCaseId := "case_2"
     getExecutor := fun _ _ _ _ => { ok := true } },
    { dayOffset, caseId := some "case_1" })

theorem rowBelowCaps_of_counts {utcnow : ℕ → DateTime} {caseId : String} {db : Db}
    {request : Environment × ExecuteRunRequest} {n m : ℕ}
    (hcounts : ((db.cases.get? caseId).map fun case => (case.attemptsUsed, case.contactsUsed)) =
      some (n, m)) (hn : n < 3) (hm : m < 2) : RowBelowCaps utcnow caseId db request := by
  intro now action case _ _ hget _
  rw [hget, Option.map_some, Option.some.injEq, Prod.mk.injEq] at hcounts
  obtain ⟨rfl, rfl⟩ := hcounts
  exact ⟨fun _ => hn, fun _ => hm⟩

/-- Three retries on different days stay within the caps. -/
theorem caps_hold_below_row_caps_retries :
    executedOf isRetry (fun _ => daytime) freshDb ([0, 1, 2].map retryOnDay) ≤
        3 - storedUse attempts "case_1" freshDb ∧
      executedOf ActionVerb.isLink (fun _ => daytime) freshDb ([0, 1, 2].map retryOnDay) ≤
        2 - storedUse contacts "case_1" freshDb := by
  apply caps_hold_below_row_caps (fun _ => daytime) "case_1" freshDb ([0, 1, 2].map retryOnDay)
  · exact List.forall_mem_map.2 fun dayOffset _ => rfl
  · have hzero : (0 : ℕ) < 2 := by decide
    refine ⟨?_, ?_, ?_, trivial⟩
    · exact rowBelowCaps_of_counts (n := 0) (m := 0) rfl (by decide) hzero
    · exact rowBelowCaps_of_counts (n := 1) (m := 0) rfl (by decide) hzero
    · exact rowBelowCaps_of_counts (n := 2) (m := 0) rfl (by decide) hzero

/-- Four retries with default counters, on different days, are all executed. -/
theorem four_retries_pass_caps :
    (∀ request ∈ [0, 1, 2, 3].map retryOnDay,
      request.2.given = some "case_1" ∧ request.2.LeavesCounters) ∧
    ¬executedOf isRetry (fun _ => daytime) freshDb ([0, 1, 2, 3].map retryOnDay) ≤ 3 := by
  constructor
  · exact List.forall_mem_map.2 fun dayOffset _ => ⟨rfl, rfl, rfl, rfl, rfl⟩
  · decide

end RecoveryAgent.Api
