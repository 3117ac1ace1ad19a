import RecoveryAgent.Ai.Decision
import RecoveryAgent.Demo.Abandoned

/-!
# Action rows of a blocked run

The reader of the ledger takes every `action` row for an executed action: such
rows are written after the gates have passed and the adapter has run. The agent
writes one of its own before the gates, for the message it has drafted.
-/

namespace RecoveryAgent.Demo

open Library Python Policy Ledger Guard Execute Ai Memory Runs Generator

/-- Among the rows no action is told of. -/
def NoAction (rows : List LedgerColumns) : Prop := ∀ e ∈ rows, e.kind ≠ .action

/-- The row comes after six passing gate checks on its case, and tells of a call. -/
structure Earned (calls : List ExecutorCall) (before : List LedgerColumns) (e : LedgerColumns) :
    Prop where
  gates : ∀ name ∈ gateNames, ∃ g ∈ before, g.kind = .gateCheck ∧ g.caseId = e.caseId ∧
    g.gateName = some name ∧ g.gateResult = some .passed
  called : ∃ call ∈ calls, e.caseId = call.caseId ∧
    e.payload.get? "action" = some (.obj call.action.modelDump) ∧
      e.payload.get? "execute_result" = some (.obj call.result)

/-- What `executed_fingerprints` takes for granted of the `action` rows. -/
def ActionsEarned (calls : List ExecutorCall) (rows : List LedgerColumns) : Prop :=
  ∀ before e after, rows = before ++ e :: after → e.kind = .action → Earned calls before e

theorem NoAction.append {rows rows' : List LedgerColumns} (h : NoAction rows)
    (h' : NoAction rows') : NoAction (rows ++ rows') := by
  intro e he
  rcases List.mem_append.1 he with he | he
  · exact h e he
  · exact h' e he

theorem NoAction.earned {rows : List LedgerColumns} (h : NoAction rows)
    (calls : List ExecutorCall) : ActionsEarned calls rows := by
  intro before e after hrows hkind
  exact absurd hkind (h e (by simp [hrows]))

/-- An `action` row stands behind all the rows that tell of no action. -/
theorem split_behind {rows rows' before after : List LedgerColumns} {e : LedgerColumns}
    (h : NoAction rows) (hkind : e.kind = .action) (hsplit : rows ++ rows' = before ++ e :: after) :
    ∃ more, before = rows ++ more ∧ rows' = more ++ e :: after := by
  rcases List.append_eq_append_iff.1 hsplit with ⟨more, hbefore, hrest⟩ | ⟨rest, hrows, hrest⟩
  · exact ⟨more, hbefore, hrest⟩
  · cases rest with
    | nil =>
        refine ⟨[], ?_, hrest.symm⟩
        rw [hrows, List.append_nil, List.append_nil]
    | cons x rest =>
        obtain ⟨rfl, -⟩ := List.cons.inj hrest
        exact absurd hkind (h e (by simp [hrows]))

/-!
## The message of the agent
-/

section

variable {env : DemoEnv} {input : DemoInput} {db : Db} {h : Handover} {w : World}

/-- The agent of this run drafts a message on the case. -/
def DemoDrafts (env : DemoEnv) (input : DemoInput) (caseId : String) : Prop :=
  Drafts (demoAgent env input) (caseContext env input caseId)

theorem agentFacts_action_iff (agent : Agent) (ctx : CaseContext) (caseId : String) :
    (∃ f ∈ agentFacts caseId (agent.run ctx).1, f.kind = .action) ↔ Drafts agent ctx := by
  rw [← run_isLink_iff, ← (run_drafts agent ctx).1]
  have hmem : (∃ f ∈ agentFacts caseId (agent.run ctx).1, f.kind = .action) ↔
      LedgerKind.action ∈ (agentFacts caseId (agent.run ctx).1).map (·.kind) := by
    rw [List.mem_map]
  rw [hmem, agentFacts_kinds, run_kinds]
  cases (agent.run ctx).1.message with
  | none => simp
  | some m => simp

/-- Before the guard the ledger tells of an action exactly when a message is
drafted, and then on this case. -/
theorem handedOver_actions (hhanded : handedOver env input db = some h) :
    ∃ earlier, h.session.db.history = db.history ++ earlier ∧
      (∀ e ∈ earlier, e.kind ≠ .gateCheck) ∧
      (DemoDrafts env input h.case.id →
        ∃ e ∈ earlier, e.kind = .action ∧ e.caseId = h.case.id) ∧
      (¬DemoDrafts env input h.case.id → NoAction earlier) := by
  obtain ⟨opened, rag, hhistory, hevents, hresult⟩ := handedOver_history hhanded
  have hiff := agentFacts_action_iff (demoAgent env input)
    (caseContext env input h.case.id) h.case.id
  obtain ⟨earlier, hearlier, hgates⟩ := handedOver_not_gateCheck hhanded
  have hsame := List.append_cancel_left (hearlier.symm.trans hhistory)
  refine ⟨earlier, hearlier, hgates, ?_, ?_⟩
  · intro hdrafts
    obtain ⟨f, hf, hkind⟩ := hiff.2 hdrafts
    refine ⟨f.toLedgerColumns, ?_, hkind, ?_⟩
    · rw [hsame, hresult]
      exact List.mem_append_right _ (List.mem_map_of_mem (List.mem_append_left _ hf))
    · obtain ⟨ev, -, rfl⟩ := List.mem_map.1 hf
      rfl
  · intro hnot e he hkind
    rw [hsame, hresult] at he
    rcases List.mem_append.1 he with he | he
    · cases hkind.symm.trans (hevents e he)
    · obtain ⟨f, hf, rfl⟩ := List.mem_map.1 he
      rcases List.mem_append.1 hf with hf | hf
      · exact hnot (hiff.1 ⟨f, hf, hkind⟩)
      · split at hf
        · rw [List.mem_singleton.1 hf] at hkind
          cases hkind
        · cases hf

end

/-!
## What the execute section adds
-/

/-- The guard's answer is the same whether or not a demo link follows. -/
theorem liveExecute_pipe (env : DemoEnv) (input : DemoInput) (case : CaseRow)
    (ctx : GuardContext) (s : Session) :
    (liveExecute env input case ctx s).1.pipe =
      (serviceRun s case ctx env.razorpay.run (some (demoMeta input case)) "ui-demo").1 := by
  unfold liveExecute
  simp only
  split
  · rfl
  · rfl

namespace Handover

variable (h : Handover) (env : DemoEnv) (input : DemoInput)

/-- The pipeline blocks the action exactly when the guard does not let it
through. -/
theorem blocked_iff :
    (h.execute env input).1.pipe.result.allowed = false ↔
      ¬LetThrough h.session h.case (h.ctx input) := by
  have hresult : ∃ executeFn, (h.execute env input).1.pipe.result =
      (guardRun h.session h.case (h.ctx input) executeFn "ui-demo" []).result := by
    unfold execute
    split
    · refine ⟨some (exec env.razorpay.run (demoMeta input h.case) "ui-demo"), ?_⟩
      rw [liveExecute_pipe]
      rfl
    · exact ⟨none, rfl⟩
  obtain ⟨executeFn, hsame⟩ := hresult
  rw [hsame]
  constructor
  · intro hblocked hthrough
    rw [(hthrough.result executeFn).1] at hblocked
    cases hblocked
  · intro hnot
    exact (result_of_not_letThrough hnot executeFn).1

/-- Where nothing is executed the guard tells of no action. -/
theorem idle_history (hheld : h.session.Holds h.case) (hidle : ¬h.Admitted input) :
    ∃ rows, (h.execute env input).2.db.history = h.session.db.history ++ rows ∧
      NoAction rows := by
  obtain ⟨e, executeFn, conduct, hconducted, hverdict, hnone, hsession⟩ :=
    h.execute_of_not_admitted env input hheld hidle
  have hcount := hverdict.action_rows hconducted
  rw [hnone, List.length_nil, List.countP_eq_zero] at hcount
  refine ⟨e.facts.map (·.toLedgerColumns), ?_, ?_⟩
  · rw [hsession, Session.perform_history]
  · intro row hrow
    obtain ⟨f, hf, rfl⟩ := List.mem_map.1 hrow
    simpa using hcount f hf

/-- Where the action is executed, every `action` row of the guard and of the demo
link is earned. -/
theorem admitted_earned (hheld : h.session.Holds h.case) (hfresh : h.session.calls = [])
    (hadmitted : h.Admitted input) {earlier : List LedgerColumns} (hearlier : NoAction earlier) :
    ActionsEarned (h.execute env input).2.calls (earlier ++ h.executedRows env input) := by
  have hconduct : NoAction ((execConduct env.razorpay.run (demoMeta input h.case) "ui-demo"
      (h.ctx input).action (reopened h.case)).facts.map (·.toLedgerColumns)) := by
    intro row hrow hkind
    obtain ⟨f, hf, rfl⟩ := List.mem_map.1 hrow
    rcases (execConduct_lawful _ _ _ _ _).kinds f hf with houtcome | hstop
    · cases houtcome.symm.trans hkind
    · cases hstop.symm.trans hkind
  have hgates : NoAction ((gateFacts h.session h.case.id (h.ctx input) "ui-demo" []).map
      (·.toLedgerColumns)) := by
    intro row hrow hkind
    obtain ⟨f, hf, rfl⟩ := List.mem_map.1 hrow
    cases (mem_gateFacts hf).2.1.symm.trans hkind
  intro before e after hsplit hkind
  rw [h.executedRows_of_admitted env input hadmitted] at hsplit
  obtain ⟨executed, rfl, hexecuted⟩ := split_behind hearlier hkind hsplit
  obtain ⟨conducted, rfl, hconducted⟩ := split_behind hgates hkind hexecuted
  obtain ⟨more, rfl, hmore⟩ := split_behind hconduct hkind hconducted
  have hbefore : ∀ {caseId : String}, caseId = h.case.id → ∀ name ∈ gateNames, ∃ g ∈ earlier ++
      ((gateFacts h.session h.case.id (h.ctx input) "ui-demo" []).map (·.toLedgerColumns) ++
        ((execConduct env.razorpay.run (demoMeta input h.case) "ui-demo" (h.ctx input).action
          (reopened h.case)).facts.map (·.toLedgerColumns) ++ more)),
      g.kind = .gateCheck ∧ g.caseId = caseId ∧ g.gateName = some name ∧
        g.gateResult = some .passed := by
    rintro caseId rfl name hname
    obtain ⟨g, hg, hgate, hcase, hgateName, hresult, -⟩ :=
      h.gateRows_of_admitted input hadmitted name hname
    exact ⟨g, List.mem_append_right _ (List.mem_append_left _ hg), hgate, hcase, hgateName, hresult⟩
  rw [h.calls_of_admitted env input hheld hfresh hadmitted]
  have he : e ∈ more ++ e :: after := by simp
  rw [← hmore] at he
  rcases List.mem_cons.1 he with rfl | he
  · exact ⟨hbefore rfl, h.gatedCall env input, List.mem_cons_self, rfl, rfl, rfl⟩
  · by_cases hlinked : h.DemoLinked env input
    · rw [if_pos hlinked] at he ⊢
      rw [List.mem_singleton.1 he]
      have hid := h.gatedCase_id env input
      exact ⟨hbefore hid, h.demoCall env input, by simp, hid, rfl, rfl⟩
    · rw [if_neg hlinked] at he
      cases he

end Handover

/-!
## The runs
-/

section

variable {env : DemoEnv} {input : DemoInput} {db : Db} {h : Handover} {w : World}

/-- Whatever the flow leaves, either only the opened case is committed or the
second session is. -/
theorem left_committed (hw : Left env input db w) :
    (∃ rows, w.committed.history = db.history ++ rows ∧ ∀ e ∈ rows, e.kind = .event) ∨
      Completed env input db w := by
  obtain ⟨hclosed, hend⟩ := flow_meets env input db (start env db) rfl
  rcases hw with rfl | ⟨y, hy⟩
  · split at hend
    · exact Or.inr hend
    · exact Or.inl hend.history
  · cases hclosed (y, w) hy with
    | before _ _ quiet => exact Or.inl quiet.history
    | gate _ _ committed _ =>
        rw [committed]
        exact Or.inl openedWorld_quiet.history
    | after _ _ handed committed calls => exact Or.inr ⟨_, handed, committed, calls⟩

theorem noAction_of_events {rows : List LedgerColumns} (hevents : ∀ e ∈ rows, e.kind = .event) :
    NoAction rows := by
  intro e he hkind
  cases (hevents e he).symm.trans hkind

/-- A drafted message is told of before any gate check. -/
theorem not_earned_of_drafted {earlier rows : List LedgerColumns} {caseId : String}
    (hgates : ∀ e ∈ earlier, e.kind ≠ .gateCheck)
    (hdrafted : ∃ e ∈ earlier, e.kind = .action ∧ e.caseId = caseId)
    (calls : List ExecutorCall) : ¬ActionsEarned calls (earlier ++ rows) := by
  obtain ⟨e, he, hkind, -⟩ := hdrafted
  obtain ⟨before, after, rfl⟩ := List.append_of_mem he
  intro hearned
  have hsplit : (before ++ e :: after) ++ rows = before ++ e :: (after ++ rows) := by simp
  obtain ⟨g, hg, hgate, -⟩ := (hearned before e _ hsplit hkind).gates "idempotency" (by decide)
  exact hgates g (List.mem_append_left _ hg) hgate

/-- The rows of a completed run begin with those that were written before the
guard. -/
theorem completed_rows (hheld : h.session.Holds h.case) {earlier : List LedgerColumns}
    (hearlier : h.session.db.history = db.history ++ earlier)
    (hcommitted : w.committed = (h.execute env input).2.db) :
    ∃ rows, w.committed.history = db.history ++ (earlier ++ rows) ∧
      (h.Admitted input → rows = h.executedRows env input) ∧
      (¬h.Admitted input → NoAction rows) := by
  by_cases hadmitted : h.Admitted input
  · refine ⟨h.executedRows env input, ?_, fun _ => rfl, fun hnot => absurd hadmitted hnot⟩
    rw [hcommitted, h.execute_history env input hheld hadmitted, hearlier, List.append_assoc]
  · obtain ⟨rows, hrows, hquiet⟩ := h.idle_history env input hheld hadmitted
    refine ⟨rows, ?_, fun h => absurd h hadmitted, fun _ => hquiet⟩
    rw [hcommitted, hrows, hearlier, List.append_assoc]

end

theorem noAction_trail {db : Db} {w : World} {rows : List LedgerColumns} {caseId : String}
    (hrows : w.committed.history = db.history ++ rows) :
    NoAction (w.committed.trail caseId) ↔
      NoAction (db.trail caseId) ∧ ∀ e ∈ rows, e.caseId = caseId → e.kind ≠ .action := by
  rw [Db.trail, hrows, List.filter_append]
  constructor
  · intro hnone
    constructor
    · intro e he
      exact hnone e (List.mem_append_left _ he)
    · intro e he hcase
      exact hnone e (List.mem_append_right _ (List.mem_filter.2 ⟨he, by simpa using hcase⟩))
  · rintro ⟨hearlier, hnone⟩
    refine NoAction.append hearlier ?_
    intro e he
    obtain ⟨hmem, hcase⟩ := List.mem_filter.1 he
    exact hnone e hmem (by simpa using hcase)

/-- Whatever a run leaves: every `action` row of the run is earned, and when the
pipeline blocks the action there is none on the case, unless the agent has drafted
a message and the second session is committed. -/
theorem action_rows_iff (env : DemoEnv) (input : DemoInput) (db : Db) (w : World) (h : Handover)
    (hleft : Left env input db w) (hhanded : handedOver env input db = some h) :
    ((h.execute env input).1.pipe.result.allowed = false →
      (NoAction (w.committed.trail h.case.id) ↔ NoAction (db.trail h.case.id) ∧
        ¬(DemoDrafts env input h.case.id ∧ w.committed = (h.execute env input).2.db))) ∧
    (ActionsEarned w.calls (w.rowsSince db) ↔
      ¬(DemoDrafts env input h.case.id ∧ w.committed = (h.execute env input).2.db)) := by
  obtain ⟨hheld, hfresh, -⟩ := handedOver_holds hhanded
  obtain ⟨earlier, hearlier, hgates, hdrafted, hundrafted⟩ := handedOver_actions hhanded
  by_cases hbad : DemoDrafts env input h.case.id ∧ w.committed = (h.execute env input).2.db
  · obtain ⟨rows, hrows, -, -⟩ := completed_rows hheld hearlier hbad.2
    have hsome := hdrafted hbad.1
    constructor
    · intro _
      rw [noAction_trail hrows]
      obtain ⟨e, he, hkind, hcase⟩ := hsome
      constructor
      · rintro ⟨-, hnone⟩
        exact absurd hkind (hnone e (List.mem_append_left _ he) hcase)
      · rintro ⟨-, hnot⟩
        exact absurd hbad hnot
    · rw [World.rowsSince, hrows, List.drop_left]
      constructor
      · intro hearned
        exact absurd hearned (not_earned_of_drafted hgates hsome _)
      · intro hnot
        exact absurd hbad hnot
  · rw [iff_true_right hbad, and_iff_left hbad]
    rcases left_committed hleft with ⟨rows, hrows, hevents⟩ | ⟨h', hhanded', hcommitted, hcalls⟩
    · have hnone := noAction_of_events hevents
      rw [noAction_trail hrows, World.rowsSince, hrows, List.drop_left]
      exact ⟨fun _ => and_iff_left fun e he _ => hnone e he, hnone.earned _⟩
    · cases hhanded.symm.trans hhanded'
      have hnone := hundrafted fun hdrafts => hbad ⟨hdrafts, hcommitted⟩
      obtain ⟨rows, hrows, hadmittedRows, hidle⟩ := completed_rows hheld hearlier hcommitted
      rw [noAction_trail hrows, World.rowsSince, hrows, List.drop_left, hcalls]
      constructor
      · intro hblocked
        have hnot : ¬h.Admitted input := fun hadmitted =>
          (h.blocked_iff env input).1 hblocked hadmitted.letThrough
        exact and_iff_left fun e he _ => (hnone.append (hidle hnot)) e he
      · by_cases hadmitted : h.Admitted input
        · rw [hadmittedRows hadmitted]
          exact h.admitted_earned env input hheld hfresh hadmitted hnone
        · exact (hnone.append (hidle hadmitted)).earned _

/-- A run that is refused at the gate. -/
def refusedInput (rawErrorReason : String) : DemoInput where
  rawErrorReason
  refuseAtGate := true

def refusedEnd (rawErrorReason : String) : World :=
  (iterAiDemoCase offlineEnv (refusedInput rawErrorReason) (start offlineEnv Db.empty)).state

/-- A model that wants a retry told by sms. -/
def textingReply : ℕ → Reply
  | 0 => .value (.obj
      [("summary", .str "not enough money"), ("likely_class", .str "insufficient_funds"),
        ("confidence", .int 1), ("rationale", .str "")])
  | _ => .value (.obj
      [("verb", .str "schedule_retry"), ("day_offset", .int 3), ("channel", .str "sms")])

def textingEnv : DemoEnv :=
  { offlineEnv with
    agent :=
      { offlineEnv.agent with
        client := { model := "qwen3:8b", available := true, chatJson := textingReply } } }

/-- The sms is refused at night, and the ledger tells of no action. -/
theorem action_rows_iff_refused_retry :
    NoAction ((iterAiDemoCase textingEnv (refusedInput "insufficient_funds")
      (start textingEnv Db.empty)).state.committed.trail "case_1") := by
  have hview : (handedOver textingEnv (refusedInput "insufficient_funds") Db.empty).map (fun h =>
      (h.case.id, (h.execute textingEnv (refusedInput "insufficient_funds")).1.pipe.result.allowed))
        = some ("case_1", false) := by decide
  obtain ⟨h, hhanded, hboth⟩ := Option.map_eq_some_iff.1 hview
  obtain ⟨hid, hblocked⟩ := Prod.mk.inj hboth
  have hiff := (action_rows_iff textingEnv (refusedInput "insufficient_funds") Db.empty
    _ h (Or.inl rfl) hhanded).1 hblocked
  rw [hid] at hiff
  apply hiff.2
  constructor
  · intro e he
    cases he
  · rintro ⟨hdrafts, -⟩
    rw [DemoDrafts, ← run_isLink_iff] at hdrafts
    have hverb : ((demoAgent textingEnv (refusedInput "insufficient_funds")).run (caseContext
        textingEnv (refusedInput "insufficient_funds") "case_1")).1.actionValidated.verb.isLink =
          false := by decide
    rw [hverb] at hdrafts
    cases hdrafts

/-- On an expired card the pipeline blocks the action, and the committed ledger of
the case has an `action` row. -/
theorem blocked_run_has_action_row :
    ∃ h, handedOver offlineEnv (refusedInput "card_expired") Db.empty = some h ∧
      (h.execute offlineEnv (refusedInput "card_expired")).1.pipe.result.allowed = false ∧
      (refusedEnd "card_expired").calls = [] ∧
      ¬NoAction ((refusedEnd "card_expired").committed.trail h.case.id) := by
  have hview : (handedOver offlineEnv (refusedInput "card_expired") Db.empty).map (fun h =>
      (h.case.id, (h.execute offlineEnv (refusedInput "card_expired")).1.pipe.result.allowed))
        = some ("case_1", false) := by decide
  obtain ⟨h, hhanded, hboth⟩ := Option.map_eq_some_iff.1 hview
  obtain ⟨hid, hblocked⟩ := Prod.mk.inj hboth
  refine ⟨h, hhanded, hblocked, ?_, ?_⟩
  · have hcalls : (refusedEnd "card_expired").calls.map (·.caseId) = [] := by decide
    exact List.map_eq_nil_iff.1 hcalls
  · rw [hid]
    intro hnone
    have hkinds : LedgerKind.action ∈
        ((refusedEnd "card_expired").committed.trail "case_1").map (·.kind) := by decide
    obtain ⟨e, he, hkind⟩ := List.mem_map.1 hkinds
    exact hnone e he hkind

end RecoveryAgent.Demo
