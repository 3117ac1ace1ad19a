import RecoveryAgent.Eval.GateEstimate
import RecoveryAgent.Eval.Played
import RecoveryAgent.Runs.AtMostOnce
import RecoveryAgent.Runs.Budget

/-!
# The path that is estimated

The planned actions of a case, put through `execute_with_guards` one after the other: the
counters stand on the case row and the executed fingerprints in the ledger. A link is
charged to the contacts only, and no action is executed twice, so the path has a quota of
three for the retries and one of two for the links.
-/

namespace RecoveryAgent.Eval

open Python Policy Ledger Guard Execute Library

/-- A case on its way through `execute_with_guards`, and how many calls were blocked. -/
structure Feed where
  session : Session
  row : CaseRow
  blocked : ℕ := 0

section

variable (now : DateTime) (case : SimCase) (executor : Executor) (execMeta : Option ExecuteMeta)
  (policyVersion : String)

/-- One planned action goes through `execute_with_guards`, with the counters of the
row. -/
def feedAction (f : Feed) (pa : PlannedAction) : Except PyError Feed :=
  if pa.verb = .noop then .ok f
  else do
    let (run, _) ← executeWithGuards f.session f.row
      (planContext case now f.row.contactsUsed f.row.attemptsUsed (toAction pa)) executor
      execMeta policyVersion
    return {
      session := run.session
      row := run.case
      blocked := f.blocked + if run.result.allowed then 0 else 1 }

/-- How many actions of the plan are blocked on their way. -/
def blockedInFeed (s : Session) (row : CaseRow) (plan : List PlannedAction) :
    Except PyError ℕ := do
  let f ← (chronological plan).foldlM (feedAction now case executor execMeta policyVersion)
    { session := s, row }
  return f.blocked

/-- What an action leaves behind on its way. -/
def fedAction (f : Feed) (pa : PlannedAction) : Feed :=
  if pa.verb = .noop then f
  else
    let (run, _) := serviceRun f.session f.row
      (planContext case now f.row.contactsUsed f.row.attemptsUsed (toAction pa)) executor
      execMeta policyVersion
    { session := run.session
      row := run.case
      blocked := f.blocked + if run.result.allowed then 0 else 1 }

/-- On a running case an action raises where the gates do. -/
theorem feedAction_eq {f : Feed} (hrunning : isCaseStopped f.row = false) (pa : PlannedAction) :
    feedAction now case executor execMeta policyVersion f pa =
      if raisesAt now pa then .error .overflowError
      else .ok (fedAction now case executor execMeta policyVersion f pa) := by
  unfold feedAction fedAction
  by_cases hnoop : pa.verb = .noop
  · have hquiet : raisesAt now pa = false := by
      simp [raisesAt, toAction, hnoop, isContactVerbOrChannel, ActionVerb.isLink]
    simp [hnoop, hquiet]
  · have hraises : (planContext case now f.row.contactsUsed f.row.attemptsUsed
        (toAction pa)).raisesOn f.row = raisesAt now pa := by
      simp only [GuardContext.raisesOn, hrunning]
      rfl
    simp only [if_neg hnoop, executeWithGuards_eq, hraises]
    cases raisesAt now pa with
    | true => rfl
    | false => rfl

end

/-- A row for the case as it is opened, held by the session, with nothing executed. -/
structure FreshRow (case : SimCase) (s : Session) (row : CaseRow) : Prop where
  id : row.id = case.visible.caseKey
  held : s.Holds row
  opened : row.status = .opened
  attempts : row.attemptsUsed = 0
  contacts : row.contactsUsed = 0
  unexecuted : executedFingerprints s row.id = ∅

/-!
## The guarded path counts separately
-/

section

variable {now : DateTime} {case : SimCase}

/-- The row and the ledger hold what the separate quotas have spent and admitted. -/
structure FeedTracks (case : SimCase) (f : Feed) (s : Quota.Used × Finset Action) : Prop where
  id : f.row.id = case.visible.caseKey
  held : f.session.Holds f.row
  running : isCaseStopped f.row = false
  attempts : f.row.attemptsUsed = s.1.main
  contacts : f.row.contactsUsed = s.1.side
  executed : ∀ pa : PlannedAction, pa.verb ≠ .noop →
    (actionFingerprint f.row.id (toAction pa) ∈ executedFingerprints f.session f.row.id ↔
      toAction pa ∈ s.2)

variable {executor : Executor} {execMeta : Option ExecuteMeta} {policyVersion : String}

variable (now) in
/-- The gates of the path ask what the separate quotas ask. -/
theorem FeedTracks.letThrough_iff {f : Feed} {s : Quota.Used × Finset Action}
    (h : FeedTracks case f s) {pa : PlannedAction} (hnoop : pa.verb ≠ .noop)
    (hreturns : raisesAt now pa = false) :
    LetThrough f.session f.row
        (planContext case now f.row.contactsUsed f.row.attemptsUsed (toAction pa)) ↔
      Eligible now case (toAction pa) ∧ toAction pa ∉ s.2 ∧ s.1.main < 3 ∧
        (isRetry (toAction pa) = false → s.1.side < 2) := by
  have hexecuted : (planContext case now f.row.contactsUsed f.row.attemptsUsed
      (toAction pa)).executedOn f.session f.row.id = executedFingerprints f.session f.row.id :=
    if_pos rfl
  have hreplayed : (planContext case now f.row.contactsUsed f.row.attemptsUsed
      (toAction pa)).replayed f.session f.row.id =
        { planContext case now f.row.contactsUsed f.row.attemptsUsed (toAction pa) with
          executedFingerprints := executedFingerprints f.session f.row.id } := by
    rw [GuardContext.replayed, hexecuted]
  have hgates := planned_allPassed_iff hnoop hreplayed
  rw [← h.id, h.executed pa hnoop, h.attempts, h.contacts] at hgates
  rw [← hgates, ← h.attempts, ← h.contacts]
  exact ⟨fun hthrough => hthrough.passed, fun hpassed => ⟨h.running, rfl, hreturns, hpassed⟩⟩

variable (now case executor execMeta policyVersion) in
/-- One planned action on its way performs the effect of the pipeline. -/
theorem fedAction_eq {f : Feed} (hheld : f.session.Holds f.row) {pa : PlannedAction}
    (hnoop : pa.verb ≠ .noop) {ctx : GuardContext}
    (hctx : ctx = planContext case now f.row.contactsUsed f.row.attemptsUsed (toAction pa)) :
    ∃ m e, Verdict f.session f.row ctx (some (execConduct executor m policyVersion))
        policyVersion [] e ∧
      (fedAction now case executor execMeta policyVersion f pa).session =
        f.session.perform e ∧
      (fedAction now case executor execMeta policyVersion f pa).row = e.case ∧
      (fedAction now case executor execMeta policyVersion f pa).blocked = f.blocked +
        if (guardRun f.session f.row ctx (some (exec executor m policyVersion))
          policyVersion []).result.allowed then 0 else 1 := by
  obtain ⟨m, hm⟩ : ∃ m, m = execMeta.getD { failureReason := "unknown", seed := f.row.id } :=
    ⟨_, rfl⟩
  have hconduct := Conducted.some (exec_conducts executor m policyVersion)
  have hsession : (guardRun f.session f.row ctx
      (some (exec executor m policyVersion)) policyVersion []).session = _ :=
    (guardRun_eq hconduct hheld).1
  have hrow : (guardRun f.session f.row ctx
      (some (exec executor m policyVersion)) policyVersion []).case = _ :=
    (guardRun_eq hconduct hheld).2
  refine ⟨m, _, guardEffect_verdict f.session f.row ctx _ policyVersion [], ?_, ?_, ?_⟩
  · rw [← hsession, fedAction, if_neg hnoop, hctx, hm]
    rfl
  · rw [← hrow, fedAction, if_neg hnoop, hctx, hm]
    rfl
  · rw [fedAction, if_neg hnoop, hctx, hm]
    rfl

/-- A verdict keeps track: the counters are those of its row, and the action counts as
executed when the executor was called. -/
theorem FeedTracks.performed {f f' : Feed} {s s' : Quota.Used × Finset Action}
    (h : FeedTracks case f s) {pa : PlannedAction} {m : ExecuteMeta}
    {e : Effect} (hverdict : Verdict f.session f.row
      (planContext case now f.row.contactsUsed f.row.attemptsUsed (toAction pa))
      (some (execConduct executor m policyVersion)) policyVersion [] e)
    (hsession : f'.session = f.session.perform e) (hrow : f'.row = e.case)
    (hrunning : isCaseStopped e.case = false) (hattempts : e.case.attemptsUsed = s'.1.main)
    (hcontacts : e.case.contactsUsed = s'.1.side)
    (hexecuted : ∀ a, a ∈ s'.2 ↔ a ∈ s.2 ∨ e.calls ≠ [] ∧ a = toAction pa) :
    FeedTracks case f' s' := by
  have hconduct := Conducted.some (exec_conducts executor m policyVersion)
  have hid := hverdict.id hconduct
  constructor
  · rw [hrow, hid, h.id]
  · rw [hsession, hrow]
    exact h.held.perform hid
  · rw [hrow]
    exact hrunning
  · rw [hrow]
    exact hattempts
  · rw [hrow]
    exact hcontacts
  · intro pb hb
    have hfingerprints := Runs.executedFingerprints_verdict
      (actionFingerprint f.row.id (toAction pb)) hverdict hconduct
    rw [hsession, hrow, hid, hfingerprints, h.executed pb hb, hexecuted]
    apply or_congr_right
    apply and_congr_right
    intro _
    rw [h.id]
    constructor
    · intro hsame
      exact toAction_eq_of_fingerprint hsame.symm
    · intro hsame
      rw [hsame]
      rfl

variable (executor execMeta policyVersion) in
/-- What is refused on its way leaves the quotas as they are. -/
theorem FeedTracks.refused {f : Feed} {s : Quota.Used × Finset Action} (h : FeedTracks case f s)
    {pa : PlannedAction} (hnoop : pa.verb ≠ .noop) (hreturns : raisesAt now pa = false)
    (hnot : ¬LetThrough f.session f.row
      (planContext case now f.row.contactsUsed f.row.attemptsUsed (toAction pa))) :
    FeedTracks case (fedAction now case executor execMeta policyVersion f pa) s ∧
      (fedAction now case executor execMeta policyVersion f pa).blocked = f.blocked + 1 := by
  obtain ⟨m, e, hverdict, hsession, hrow, hblocked⟩ :=
    fedAction_eq now case executor execMeta policyVersion h.held hnoop rfl
  have hrefused : e.case = { f.row with status := .blocked } ∧ e.calls = [] := by
    cases hverdict with
    | stopped stopped => simp [h.running] at stopped
    | optedOut _ opt => cases opt
    | raised _ _ raises => cases hreturns.symm.trans raises
    | blocked _ _ _ _ => exact ⟨rfl, rfl⟩
    | admitted _ _ _ _ nothing => cases nothing
    | executed running opt returns passed _ => exact absurd ⟨running, opt, returns, passed⟩ hnot
  refine ⟨h.performed hverdict hsession hrow ?_ ?_ ?_ ?_, ?_⟩
  · rw [hrefused.1]
    rfl
  · rw [hrefused.1]
    exact h.attempts
  · rw [hrefused.1]
    exact h.contacts
  · simp [hrefused.2]
  · rw [hblocked, (result_of_not_letThrough hnot _).1]
    rfl

variable (executor execMeta policyVersion) in
/-- What is let through on its way is charged to the quota of its kind. -/
theorem FeedTracks.admitted (hnever : ∀ action row m, (executor action row m).recovered = false)
    {f : Feed} {s : Quota.Used × Finset Action} (h : FeedTracks case f s) {pa : PlannedAction}
    (hnoop : pa.verb ≠ .noop)
    (hthrough : LetThrough f.session f.row
      (planContext case now f.row.contactsUsed f.row.attemptsUsed (toAction pa))) :
    FeedTracks case (fedAction now case executor execMeta policyVersion f pa)
        (if isRetry (toAction pa) then { s.1 with main := s.1.main + 1 }
          else { s.1 with side := s.1.side + 1 }, insert (toAction pa) s.2) ∧
      (fedAction now case executor execMeta policyVersion f pa).blocked = f.blocked := by
  obtain ⟨m, e, hverdict, hsession, hrow, hblocked⟩ :=
    fedAction_eq now case executor execMeta policyVersion h.held hnoop rfl
  have hadmitted : e.case = counted (reopened f.row) (toAction pa) ∧ e.calls ≠ [] := by
    cases hverdict with
    | stopped stopped => simp [h.running] at stopped
    | optedOut _ opt => cases opt
    | raised _ _ raises => cases hthrough.returns.symm.trans raises
    | blocked _ _ _ refused =>
        have hpassed := hthrough.passed
        rw [refused] at hpassed
        cases hpassed
    | admitted _ _ _ _ nothing => cases nothing
    | executed _ _ _ _ something =>
        cases something
        constructor
        · simp [execConduct, hnever]
          rfl
        · exact List.cons_ne_nil _ _
  obtain ⟨-, hstatus, -⟩ := counted_status (reopened f.row) (toAction pa)
  have hattempts := Runs.attempts.counted (reopened f.row) (toAction pa)
  have hcontacts := Runs.contacts.counted (reopened f.row) (toAction pa)
  refine ⟨h.performed hverdict hsession hrow ?_ ?_ ?_ ?_, ?_⟩
  · rw [hadmitted.1, isCaseStopped, hstatus, (reopened_status h.running).1]
    rfl
  · rw [hadmitted.1]
    change Runs.attempts.used (counted (reopened f.row) (toAction pa)) = _
    rw [hattempts, Runs.Counter.reopened]
    change f.row.attemptsUsed + (if isRetry (toAction pa) then 1 else 0) = _
    rw [h.attempts]
    split <;> rfl
  · rw [hadmitted.1]
    change Runs.contacts.used (counted (reopened f.row) (toAction pa)) = _
    rw [hcontacts, Runs.Counter.reopened]
    change f.row.contactsUsed + (if (toAction pa).verb.isLink then 1 else 0) = _
    rw [h.contacts]
    rcases toAction_cases hnoop with ⟨hverb, -⟩ | ⟨hverb, -⟩
    · simp [isRetry, hverb, ActionVerb.isLink]
    · simp [isRetry, hverb, ActionVerb.isLink]
  · intro a
    simp [hadmitted.2, or_comm]
  · rw [hblocked, (hthrough.result _).1]
    rfl

variable (executor execMeta policyVersion) in
/-- One planned action that no standing gate refuses goes through the separate quotas. -/
theorem FeedTracks.step (hnever : ∀ action row m, (executor action row m).recovered = false)
    {f : Feed} {s : Quota.Used × Finset Action} (h : FeedTracks case f s) {pa : PlannedAction}
    (hnoop : pa.verb ≠ .noop) (hreturns : raisesAt now pa = false)
    (heligible : Eligible now case (toAction pa)) :
    FeedTracks case (fedAction now case executor execMeta policyVersion f pa)
        (Quota.separate isRetry 3 2 s (toAction pa)).1 ∧
      (fedAction now case executor execMeta policyVersion f pa).blocked +
        (Quota.separate isRetry 3 2 s (toAction pa)).2.length = f.blocked + 1 := by
  have hthrough := h.letThrough_iff now hnoop hreturns
  by_cases hroom : toAction pa ∉ s.2 ∧ s.1.main < 3 ∧ (isRetry (toAction pa) = false → s.1.side < 2)
  · obtain ⟨htracks, hblocked⟩ := h.admitted executor execMeta policyVersion hnever hnoop
      (hthrough.2 ⟨heligible, hroom⟩)
    rw [Quota.separate, if_pos hroom, hblocked]
    exact ⟨htracks, rfl⟩
  · obtain ⟨htracks, hblocked⟩ := h.refused executor execMeta policyVersion hnoop hreturns
      fun hnot => hroom (hthrough.1 hnot).2
    rw [Quota.separate, if_neg hroom, hblocked]
    exact ⟨htracks, rfl⟩

variable (now executor execMeta policyVersion) in
/-- One planned action at which the gates return, in terms of the separate quotas. -/
theorem FeedTracks.fed (hnever : ∀ action row m, (executor action row m).recovered = false)
    {f : Feed} {s : Quota.Used × Finset Action} (h : FeedTracks case f s) {pa : PlannedAction}
    (hreturns : raisesAt now pa = false) :
    ∃ s' admitted, FeedTracks case (fedAction now case executor execMeta policyVersion f pa) s' ∧
      (∀ actions, (Run.emitted (Quota.separate isRetry 3 2) s
          (eligible now case (pa :: actions))).length =
        admitted + (Run.emitted (Quota.separate isRetry 3 2) s'
          (eligible now case actions)).length) ∧
      (fedAction now case executor execMeta policyVersion f pa).blocked + admitted =
        f.blocked + if pa.verb ≠ .noop then 1 else 0 := by
  by_cases hnoop : pa.verb = .noop
  · have hidle : fedAction now case executor execMeta policyVersion f pa = f := if_pos hnoop
    rw [hidle]
    refine ⟨s, 0, h, fun actions => ?_, ?_⟩
    · rw [eligible_noop hnoop, Nat.zero_add]
    · simp [hnoop]
  · by_cases heligible : Eligible now case (toAction pa)
    · obtain ⟨htracks, hblocked⟩ :=
        h.step executor execMeta policyVersion hnever hnoop hreturns heligible
      refine ⟨_, (Quota.separate isRetry 3 2 s (toAction pa)).2.length, htracks,
        fun actions => ?_, ?_⟩
      · rw [eligible_cons hnoop, if_pos heligible, Run.emitted_cons, List.length_append]
      · rw [hblocked, if_pos hnoop]
    · obtain ⟨htracks, hblocked⟩ := h.refused executor execMeta policyVersion hnoop hreturns
        fun hthrough => heligible ((h.letThrough_iff now hnoop hreturns).1 hthrough).1
      refine ⟨s, 0, htracks, fun actions => ?_, ?_⟩
      · rw [eligible_cons hnoop, if_neg heligible, Nat.zero_add]
      · rw [hblocked, if_pos hnoop]

variable (now executor execMeta policyVersion) in
/-- The guarded path blocks what the separate quotas do not cover. -/
theorem feed_blocks (hnever : ∀ action row m, (executor action row m).recovered = false)
    {f : Feed} {s : Quota.Used × Finset Action} (h : FeedTracks case f s)
    (actions : List PlannedAction) (hreturns : ∀ pa ∈ actions, raisesAt now pa = false) :
    (actions.foldl (fedAction now case executor execMeta policyVersion) f).blocked +
        (Run.emitted (Quota.separate isRetry 3 2) s (eligible now case actions)).length =
      f.blocked + actions.countP fun pa => pa.verb ≠ .noop := by
  induction actions generalizing f s with
  | nil => rfl
  | cons pa actions ih =>
      obtain ⟨hhead, hrest⟩ := List.forall_mem_cons.1 hreturns
      obtain ⟨s', admitted, htracks, hemitted, hblocked⟩ :=
        h.fed now executor execMeta policyVersion hnever hhead
      have hlater := ih htracks hrest
      rw [List.foldl_cons, hemitted actions, List.countP_cons]
      simp only [decide_eq_true_eq] at hblocked ⊢
      omega

theorem FreshRow.tracks {s : Session} {row : CaseRow} (h : FreshRow case s row) :
    FeedTracks case { session := s, row } ({}, ∅) where
  id := h.id
  held := h.held
  running := by
    rw [isCaseStopped_eq_false_iff]
    exact Or.inl h.opened
  attempts := h.attempts
  contacts := h.contacts
  executed := by
    intro pa _
    rw [h.unexecuted]
    simp

end

/-!
## Where the two agree
-/

/-- Of the actions that the standing gates let through, count the retries and the links,
the distinct retries, and the distinct links that come before the third distinct
retry. -/
def CountsAgree (now : DateTime) (case : SimCase) (plan : List PlannedAction) : Prop :=
  let actions := eligible now case (chronological plan)
  min 3 (actions.countP isRetry + min 2 (actions.countP fun a => !isRetry a)) =
    min 3 (Quota.mains isRetry actions).card +
      min 2 (Quota.openSides isRetry 3 ∅ actions).toFinset.card

/-- The guarded path raises where the gates do, and otherwise blocks in terms of the plan. -/
theorem blockedInFeed_eq (now : DateTime) {case : SimCase} {executor : Executor}
    (hnever : ∀ action row m, (executor action row m).recovered = false)
    (execMeta : Option ExecuteMeta) (policyVersion : String) {s : Session} {row : CaseRow}
    (hfresh : FreshRow case s row) (plan : List PlannedAction) :
    ∃ blocked, blockedInFeed now case executor execMeta policyVersion s row plan =
        (if plan.any (raisesAt now) then .error .overflowError else .ok blocked) ∧
      (plan.any (raisesAt now) = false → blocked +
        (min 3 (Quota.mains isRetry (eligible now case (chronological plan))).card +
          min 2 (Quota.openSides isRetry 3 ∅
            (eligible now case (chronological plan))).toFinset.card) =
        (chronological plan).countP fun pa => pa.verb ≠ .noop) := by
  refine ⟨((chronological plan).foldl (fedAction now case executor execMeta policyVersion)
    { session := s, row }).blocked, ?_, fun hreturns => ?_⟩
  · rw [blockedInFeed, foldlM_eq_ite (fun f => ∃ used, FeedTracks case f used)
      (fun f pa ⟨used, h⟩ => feedAction_eq now case executor execMeta policyVersion h.running pa)
      (fun f pa ⟨used, h⟩ hpa =>
        (h.fed now executor execMeta policyVersion hnever hpa).imp fun _ ⟨_, h, _⟩ => h)
      _ ⟨_, hfresh.tracks⟩, any_chronological]
    split
    · rfl
    · rfl
  · have hall : ∀ pa ∈ chronological plan, raisesAt now pa = false := by
      intro pa hpa
      rw [mem_chronological] at hpa
      exact Bool.eq_false_iff.2 (List.any_eq_false.1 hreturns pa hpa)
    have hblocks := feed_blocks now executor execMeta policyVersion hnever hfresh.tracks
      (chronological plan) hall
    rw [Quota.separate_length, Nat.zero_add] at hblocks
    exact hblocks

/-- An executor that does its work and recovers nothing. -/
def quietExecutor : Executor := fun _ _ _ => { ok := true }

def brokeRow : CaseRow where
  id := "sim_42_0000"
  payerRef := "payer_42_0000"
  amountPaise := 49900
  rail := .card

def brokeSession : Session := Runs.openSession (fun _ => daytime) (Db.single brokeRow)

theorem brokeRow_fresh : FreshRow brokeCase brokeSession brokeRow := by
  constructor <;> rfl

/-- What `count_gate_blocks` adds for a case is what the guarded path blocks, exactly when
the counts agree. Where the clock has no time in India and a plan contacts the customer,
both raise. -/
theorem blocks_agree_iff (cases rest : List SimCase) (case : SimCase) (planFn : PlanFn)
    (now : Option DateTime) (executor : Executor)
    (hnever : ∀ action row m, (executor action row m).recovered = false)
    (execMeta : Option ExecuteMeta) (policyVersion : String) (s : Session) (row : CaseRow)
    (hfresh : FreshRow case s row) :
    (countGateBlocks (cases ++ case :: rest) planFn now = do
        let others ← countGateBlocks (cases ++ rest) planFn now
        let blocked ← blockedInFeed (now.getD daytime) case executor execMeta policyVersion s row
          (planFn case)
        return others + blocked) ↔
      CountsAgree (now.getD daytime) case (planFn case) ∨
        ∃ other ∈ cases ++ case :: rest, PlanRaises (now.getD daytime) (planFn other) := by
  obtain ⟨blocked, hfeed, hblocked⟩ := blockedInFeed_eq (now.getD daytime) hnever execMeta
    policyVersion hfresh (planFn case)
  have hestimated := caseBlocks_eq (now.getD daytime) planFn case
  have hraises : (∃ other ∈ cases ++ case :: rest, PlanRaises (now.getD daytime) (planFn other)) ↔
      ((cases ++ case :: rest).any fun other =>
        (planFn other).any (raisesAt (now.getD daytime))) = true := by
    simp only [List.any_eq_true, PlanRaises]
  have hall : ((cases ++ case :: rest).any fun other =>
      (planFn other).any (raisesAt (now.getD daytime))) =
        (((cases ++ rest).any fun other => (planFn other).any (raisesAt (now.getD daytime))) ||
          (planFn case).any (raisesAt (now.getD daytime))) := by
    rw [List.any_append, List.any_cons, List.any_append, Bool.or_assoc]
    congr 1
    exact Bool.or_comm _ _
  rw [hraises, countGateBlocks_eq, countGateBlocks_eq, hfeed, hall]
  cases hothers : (cases ++ rest).any fun other =>
      (planFn other).any (raisesAt (now.getD daytime)) with
  | true => exact iff_of_true rfl (Or.inr rfl)
  | false =>
      cases hcase : (planFn case).any (raisesAt (now.getD daytime)) with
      | true => exact iff_of_true rfl (Or.inr rfl)
      | false =>
          have hagree := hblocked hcase
          simp only [Bool.or_false, Bool.false_eq_true, if_false, or_false]
          change Except.ok _ = Except.ok _ ↔ _
          rw [Except.ok.injEq, CountsAgree]
          simp only [List.map_append, List.map_cons, List.sum_append, List.sum_cons]
          omega

/-- The ladder without its last retry. -/
theorem blocks_agree_iff_ladder :
    (countGateBlocks [brokeCase] (fun case => (baselineB2 case).take 3) none = do
        let others ← countGateBlocks [] (fun case => (baselineB2 case).take 3) none
        let blocked ← blockedInFeed daytime brokeCase quietExecutor none "phase7" brokeSession
          brokeRow ((baselineB2 brokeCase).take 3)
        return others + blocked) ↔
      CountsAgree daytime brokeCase ((baselineB2 brokeCase).take 3) ∨
        ∃ other ∈ [brokeCase], PlanRaises daytime ((baselineB2 other).take 3) :=
  blocks_agree_iff [] [] brokeCase (fun case => (baselineB2 case).take 3) none quietExecutor
    (fun _ _ _ => rfl) none "phase7" brokeSession brokeRow brokeRow_fresh

/-- The ladder of a case without funds has four actions, and the quotas cover them all. -/
theorem ladder_covered :
    min 3 (Quota.mains isRetry (eligible daytime brokeCase
        (chronological (baselineB2 brokeCase)))).card +
      min 2 (Quota.openSides isRetry 3 ∅ (eligible daytime brokeCase
        (chronological (baselineB2 brokeCase)))).toFinset.card = 4 ∧
    ((chronological (baselineB2 brokeCase)).countP fun pa => pa.verb ≠ .noop) = 4 := by
  decide

/-- The nag of the ladder uses up an attempt in the estimate, and the last retry is
blocked there; the guarded path lets all four actions through. -/
theorem ladder_blocked_in_estimate :
    countGateBlocks [brokeCase] baselineB2 none = .ok 1 ∧
      blockedInFeed daytime brokeCase quietExecutor none "phase7" brokeSession brokeRow
        (baselineB2 brokeCase) = .ok 0 := by
  have hreturns : (baselineB2 brokeCase).any (raisesAt daytime) = false := by decide
  constructor
  · have hblocks : caseBlocks daytime baselineB2 brokeCase = 1 := by decide
    rw [countGateBlocks_eq, if_neg (by simp [hreturns])]
    simp [hblocks]
  · have hnever : ∀ action row m, (quietExecutor action row m).recovered = false :=
      fun _ _ _ => rfl
    obtain ⟨blocked, hfeed, hblocked⟩ := blockedInFeed_eq daytime hnever none "phase7"
      brokeRow_fresh (baselineB2 brokeCase)
    have hcount := hblocked hreturns
    obtain ⟨hadmitted, hplanned⟩ := ladder_covered
    rw [hadmitted, hplanned] at hcount
    have hnone : blocked = 0 := Nat.add_right_cancel (m := 4) hcount
    rw [hfeed, hreturns, hnone]
    rfl

end RecoveryAgent.Eval
