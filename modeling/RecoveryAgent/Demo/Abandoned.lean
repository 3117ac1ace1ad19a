import RecoveryAgent.Ai.Service
import RecoveryAgent.Demo.Links
import RecoveryAgent.Guard.Fingerprints

/-!
# Streams that are abandoned

The consumer of the flow may stop at any event, and then only the cleanup runs.
A call of an executor has happened nevertheless. Whether the ledger tells of it
depends on the event: the gate events come before the commit.
-/

namespace RecoveryAgent.Demo

open Library Python Policy Ledger Guard Execute Ai Memory Runs Generator

/-- The rows committed since the flow began. -/
def World.rowsSince (w : World) (db : Db) : List LedgerColumns :=
  w.committed.history.drop db.history.length

/-- Among the rows are the passed gate checks of the call and its outcome. -/
structure Gated (rows : List LedgerColumns) (call : ExecutorCall) : Prop where
  checks : ∀ name ∈ gateNames, ∃ e ∈ rows, e.kind = .gateCheck ∧ e.caseId = call.caseId ∧
    e.gateName = some name ∧ e.gateResult = some .passed ∧
      e.payload.get? "action_fingerprint" =
        some (.str (actionFingerprint call.caseId call.action))
  outcome : ∃ e ∈ rows, e.kind = .outcome ∧ e.caseId = call.caseId ∧ e.payload = call.result

/-- Among the rows is the `action` row of the call. -/
def Acted (rows : List LedgerColumns) (call : ExecutorCall) : Prop :=
  ∃ e ∈ rows, e.kind = .action ∧ e.caseId = call.caseId ∧
    e.payload.get? "action" = some (.obj call.action.modelDump) ∧
      e.payload.get? "execute_result" = some (.obj call.result)

/-- The mark of an action that is made outside the guard. -/
def NotGated (call : ExecutorCall) : Prop := call.action.reasonCode = "UI_DEMO_LINK_NOT_GATED"

/-- No execution is lost: the rows that the code has for each call are
committed. The demo link has an `action` row only. -/
def Kept (db : Db) (w : World) : Prop :=
  ∀ call ∈ w.calls, Acted (w.rowsSince db) call ∧
    (NotGated call ∨ Gated (w.rowsSince db) call)

/-- Each call has gate checks, an outcome and an action committed, the demo link
too. -/
def FullyKept (db : Db) (w : World) : Prop :=
  ∀ call ∈ w.calls, Acted (w.rowsSince db) call ∧ Gated (w.rowsSince db) call

theorem FullyKept.kept {db : Db} {w : World} (h : FullyKept db w) : Kept db w := by
  intro call hcall
  obtain ⟨hacted, hgated⟩ := h call hcall
  exact ⟨hacted, Or.inr hgated⟩

theorem Acted.mono {rows rows' : List LedgerColumns} {call : ExecutorCall} (h : Acted rows call)
    (hrows : rows ⊆ rows') : Acted rows' call := by
  obtain ⟨e, he, hrow⟩ := h
  exact ⟨e, hrows he, hrow⟩

theorem Gated.mono {rows rows' : List LedgerColumns} {call : ExecutorCall} (h : Gated rows call)
    (hrows : rows ⊆ rows') : Gated rows' call where
  checks := by
    intro name hname
    obtain ⟨e, he, hrow⟩ := h.checks name hname
    exact ⟨e, hrows he, hrow⟩
  outcome := by
    obtain ⟨e, he, hrow⟩ := h.outcome
    exact ⟨e, hrows he, hrow⟩

theorem fullyKept_of_calls_nil {db : Db} {w : World} (h : w.calls = []) : FullyKept db w := by
  intro call hcall
  rw [h] at hcall
  cases hcall

/-!
## What the guard and the demo link write
-/

theorem gateFact_fingerprint (caseId policyVersion : String) (ctx : GuardContext)
    (proposedBy : Json) (c : GateCheck) :
    (gateFact caseId policyVersion ctx (Fields.setDefault [] "proposed_by" proposedBy)
      c).payload.get? "action_fingerprint" = some (.str ctx.actionFingerprint) := rfl

namespace Handover

variable (h : Handover) (env : DemoEnv) (input : DemoInput)

/-- The rows of an admitted run from the guard on. -/
def executedRows : List LedgerColumns :=
  (h.gatedEffect env input).facts.map (·.toLedgerColumns) ++
    if h.DemoLinked env input then
      [(demoFact (h.gatedCase env input) (h.ctx input).action.verb
        (h.demoOutcome env input)).toLedgerColumns]
    else []

theorem execute_history (hheld : h.session.Holds h.case) (hadmitted : h.Admitted input) :
    (h.execute env input).2.db.history =
      h.session.db.history ++ h.executedRows env input := by
  rw [h.execute_of_admitted env input hheld hadmitted, executedRows]
  split
  · rw [Session.appendLedger_history, Session.call_db, Session.perform_history,
      List.append_assoc]
  · rw [Session.perform_history, List.append_nil]

/-- The gates see the fingerprint of the agent's action. -/
theorem gated_fingerprint :
    ((h.ctx input).gated h.session h.case.id).actionFingerprint =
      actionFingerprint h.case.id (h.ctx input).action :=
  if_neg (composeFingerprint_ne_empty _ _ _ _ _)

theorem executedRows_of_admitted (hadmitted : h.Admitted input) :
    h.executedRows env input =
      (gateFacts h.session h.case.id (h.ctx input) "ui-demo" []).map (·.toLedgerColumns) ++
        ((execConduct env.razorpay.run (demoMeta input h.case) "ui-demo" (h.ctx input).action
          (reopened h.case)).facts.map (·.toLedgerColumns) ++
            (actionFact h.case.id "ui-demo" ((h.ctx input).gated h.session h.case.id)
                (h.gatedOutcome env input).modelDump).toLedgerColumns ::
              if h.DemoLinked env input then
                [(demoFact (h.gatedCase env input) (h.ctx input).action.verb
                  (h.demoOutcome env input)).toLedgerColumns]
              else []) := by
  rw [executedRows, h.gatedEffect_of_admitted env input hadmitted]
  simp only [List.map_append, List.map_cons, List.map_nil, List.append_assoc, List.cons_append,
    List.nil_append]

/-- The guarded call has its `action` row. -/
theorem gatedCall_acted (hadmitted : h.Admitted input) :
    Acted (h.executedRows env input) (h.gatedCall env input) := by
  refine ⟨(actionFact h.case.id "ui-demo" ((h.ctx input).gated h.session h.case.id)
    (h.gatedOutcome env input).modelDump).toLedgerColumns, ?_, rfl, rfl, rfl, rfl⟩
  rw [h.executedRows_of_admitted env input hadmitted]
  simp

theorem gateRows_of_admitted (hadmitted : h.Admitted input) :
    ∀ name ∈ gateNames, ∃ e ∈ (gateFacts h.session h.case.id (h.ctx input) "ui-demo" []).map
        (·.toLedgerColumns), e.kind = .gateCheck ∧ e.caseId = h.case.id ∧
      e.gateName = some name ∧ e.gateResult = some .passed ∧
        e.payload.get? "action_fingerprint" =
          some (.str (actionFingerprint h.case.id (h.ctx input).action)) := by
  intro name hname
  have hnames : ((h.ctx input).checks h.session h.case.id).map (·.name) = gateNames :=
    gateVerdicts_names _
  rw [← hnames] at hname
  obtain ⟨c, hc, rfl⟩ := List.mem_map.1 hname
  have hpassed : c.passed = true := List.all_eq_true.1 hadmitted.letThrough.passed c hc
  have hresult : c.gateResult = .passed := if_pos hpassed
  refine ⟨_, List.mem_map_of_mem (List.mem_map_of_mem hc), rfl, rfl, rfl,
    congrArg some hresult, ?_⟩
  exact (gateFact_fingerprint ..).trans
    (congrArg (fun fp => some (Json.str fp)) (h.gated_fingerprint input))

theorem gatedCall_gated (hadmitted : h.Admitted input) :
    Gated (h.executedRows env input) (h.gatedCall env input) := by
  rw [h.executedRows_of_admitted env input hadmitted]
  constructor
  · intro name hname
    obtain ⟨e, he, hrow⟩ := h.gateRows_of_admitted input hadmitted name hname
    exact ⟨e, List.mem_append_left _ he, hrow⟩
  · refine ⟨(outcomeFact h.case.id "ui-demo" (h.gatedOutcome env input)).toLedgerColumns, ?_,
      rfl, rfl, rfl⟩
    have hfact : outcomeFact h.case.id "ui-demo" (h.gatedOutcome env input) ∈
        (execConduct env.razorpay.run (demoMeta input h.case) "ui-demo" (h.ctx input).action
          (reopened h.case)).facts := by
      unfold execConduct gatedOutcome
      simp only [reopened_id]
      split
      · exact List.mem_cons_self
      · exact List.mem_cons_self
    exact List.mem_append_right _ (List.mem_append_left _ (List.mem_map_of_mem hfact))

/-- The demo link has its `action` row. -/
theorem demoCall_acted (hadmitted : h.Admitted input) (hlinked : h.DemoLinked env input) :
    Acted (h.executedRows env input) (h.demoCall env input) := by
  refine ⟨(demoFact (h.gatedCase env input) (h.ctx input).action.verb
    (h.demoOutcome env input)).toLedgerColumns, ?_, rfl, h.gatedCase_id env input, rfl, rfl⟩
  rw [h.executedRows_of_admitted env input hadmitted, if_pos hlinked]
  simp

/-- The demo link has no gate checks: those written are of an action with another
verb. -/
theorem demoCall_not_gated (hadmitted : h.Admitted input) (hlinked : h.DemoLinked env input)
    {earlier : List LedgerColumns} (hearlier : ∀ e ∈ earlier, e.kind ≠ .gateCheck) :
    ¬Gated (earlier ++ h.executedRows env input) (h.demoCall env input) := by
  intro hgated
  obtain ⟨e, he, hkind, -, -, -, hfingerprint⟩ := hgated.checks "idempotency" (by decide)
  rw [h.executedRows_of_admitted env input hadmitted, if_pos hlinked] at he
  rcases List.mem_append.1 he with he | he
  · exact hearlier e he hkind
  rcases List.mem_append.1 he with he | he
  · obtain ⟨f, hf, rfl⟩ := List.mem_map.1 he
    obtain ⟨c, -, rfl⟩ := List.mem_map.1 hf
    have hgate := (gateFact_fingerprint ..).symm.trans hfingerprint
    rw [h.gated_fingerprint input] at hgate
    have hsame := Json.str.inj (Option.some.inj hgate)
    exact hlinked.2 (fields_of_actionFingerprint hsame).1
  rcases List.mem_append.1 he with he | he
  · obtain ⟨f, hf, rfl⟩ := List.mem_map.1 he
    rcases (execConduct_lawful _ _ _ _ _).kinds f hf with houtcome | hstop
    · cases houtcome.symm.trans hkind
    · cases hstop.symm.trans hkind
  · rcases List.mem_cons.1 he with rfl | he
    · cases hkind
    · rw [List.mem_singleton.1 he] at hkind
      cases hkind

end Handover

/-!
## Where the consumer may stop
-/

section

variable {env : DemoEnv} {input : DemoInput} {db : Db} {h : Handover} {y : Event} {w : World}

/-- At a gate event nothing of the execution is committed. -/
theorem not_kept_of_gate (hhanded : handedOver env input db = some h)
    (hcommitted : w.committed = (openedWorld env input db).committed)
    (hcalls : w.calls = (h.execute env input).2.calls) (hadmitted : h.Admitted input) :
    ¬Kept db w := by
  obtain ⟨hheld, hfresh, -⟩ := handedOver_holds hhanded
  have hquiet : Quiet env db (openedWorld env input db) := openedWorld_quiet
  obtain ⟨opened, hopened, hevents⟩ := hquiet.history
  intro hkept
  have hgated : h.gatedCall env input ∈ w.calls := by
    rw [hcalls, h.calls_of_admitted env input hheld hfresh hadmitted]
    exact List.mem_cons_self
  obtain ⟨⟨e, he, hkind, -⟩, -⟩ := hkept _ hgated
  rw [World.rowsSince, hcommitted, hopened, List.drop_left] at he
  cases (hevents e he).symm.trans hkind

/-- After the commit every execution is kept, and only a demo link is without gate
checks. -/
theorem kept_after (hhanded : handedOver env input db = some h)
    (hcommitted : w.committed = (h.execute env input).2.db)
    (hcalls : w.calls = (h.execute env input).2.calls) (hadmitted : h.Admitted input) :
    Kept db w ∧ (FullyKept db w ↔ ¬h.DemoLinked env input) := by
  obtain ⟨hheld, hfresh, -⟩ := handedOver_holds hhanded
  obtain ⟨earlier, hearlier, hkinds⟩ := handedOver_not_gateCheck hhanded
  have hrows : w.rowsSince db = earlier ++ h.executedRows env input := by
    rw [World.rowsSince, hcommitted, h.execute_history env input hheld hadmitted, hearlier,
      List.append_assoc, List.drop_left]
  have hsubset : h.executedRows env input ⊆ w.rowsSince db := by
    rw [hrows]
    exact List.subset_append_right _ _
  have hacted := (h.gatedCall_acted env input hadmitted).mono hsubset
  have hgated := (h.gatedCall_gated env input hadmitted).mono hsubset
  rw [h.calls_of_admitted env input hheld hfresh hadmitted] at hcalls
  by_cases hlinked : h.DemoLinked env input
  · rw [if_pos hlinked] at hcalls
    have hdemo := (h.demoCall_acted env input hadmitted hlinked).mono hsubset
    constructor
    · intro call hcall
      rw [hcalls] at hcall
      rcases List.mem_cons.1 hcall with rfl | hcall
      · exact ⟨hacted, Or.inr hgated⟩
      · rw [List.mem_singleton.1 hcall]
        exact ⟨hdemo, Or.inl rfl⟩
    · constructor
      · intro hfully
        obtain ⟨-, hnone⟩ := hfully (h.demoCall env input) (by rw [hcalls]; simp)
        rw [hrows] at hnone
        exact absurd hnone (h.demoCall_not_gated env input hadmitted hlinked hkinds)
      · intro hnot
        exact absurd hlinked hnot
  · rw [if_neg hlinked] at hcalls
    have hfully : FullyKept db w := by
      intro call hcall
      rw [hcalls] at hcall
      rw [List.mem_singleton.1 hcall]
      exact ⟨hacted, hgated⟩
    exact ⟨hfully.kept, fun _ => hlinked, fun _ => hfully⟩

end

/-- Wherever the consumer stops, no execution is lost unless the event is a gate of
a live run whose action the guard has let through. Each call has gate checks and
an outcome as well, unless a demo link was made. -/
theorem executions_kept_iff (env : DemoEnv) (input : DemoInput) (db : Db) (y : Event) (w : World)
    (hclosed : (y, w) ∈ (iterAiDemoCase env input (start env db)).closed) :
    (Kept db w ↔
      ¬∃ h, handedOver env input db = some h ∧ h.Admitted input ∧ y.isGate = true) ∧
    (FullyKept db w ↔
      ¬∃ h, handedOver env input db = some h ∧ h.Admitted input ∧
        (y.isGate = true ∨ y.afterCommit = true ∧ h.DemoLinked env input)) := by
  have hreached : Reached env input db y w :=
    (flow_meets env input db (start env db) rfl).1 (y, w) hclosed
  cases hreached with
  | before gate after quiet =>
      have hfully : FullyKept db w := fullyKept_of_calls_nil quiet.calls
      simp [gate, after, hfully, hfully.kept]
  | gate gate handed committed calls =>
      rename_i h
      by_cases hadmitted : h.Admitted input
      · have hlost := not_kept_of_gate handed committed calls hadmitted
        have hnot : ¬FullyKept db w := fun hfully => hlost hfully.kept
        simp [gate, handed, hadmitted, hlost, hnot]
      · obtain ⟨hheld, hfresh, -⟩ := handedOver_holds handed
        rw [h.calls_of_not_admitted env input hheld hfresh hadmitted] at calls
        have hfully : FullyKept db w := fullyKept_of_calls_nil calls
        simp [handed, hadmitted, hfully, hfully.kept]
  | after gate after handed committed calls =>
      rename_i h
      by_cases hadmitted : h.Admitted input
      · obtain ⟨hkept, hfully⟩ := kept_after handed committed calls hadmitted
        simp [gate, after, handed, hadmitted, hkept, hfully]
      · obtain ⟨hheld, hfresh, -⟩ := handedOver_holds handed
        rw [h.calls_of_not_admitted env input hheld hfresh hadmitted] at calls
        have hfully : FullyKept db w := fullyKept_of_calls_nil calls
        simp [handed, hadmitted, hfully, hfully.kept]

/-- Where a live run on an expired card may be closed. -/
def liveClosed : List (Event × World) :=
  (iterAiDemoCase offlineEnv (liveInput "card_expired") (start offlineEnv Db.empty)).closed

theorem liveClosed_ne_nil : liveClosed ≠ [] := by
  intro hnil
  have hlength : liveClosed.length = 19 := by decide
  rw [hnil] at hlength
  cases hlength

/-- Closed at its last event the run has everything in the ledger. -/
theorem executions_kept_iff_last :
    FullyKept Db.empty (liveClosed.getLast liveClosed_ne_nil).2 := by
  apply (executions_kept_iff offlineEnv (liveInput "card_expired") Db.empty
    (liveClosed.getLast liveClosed_ne_nil).1 _ (List.getLast_mem liveClosed_ne_nil)).2.2
  rintro ⟨h, hhanded, -, hgate | ⟨-, hlinked⟩⟩
  · have hlast : (liveClosed.getLast liveClosed_ne_nil).1.isGate = false := by decide
    rw [hlast] at hgate
    cases hgate
  · have hverb : (handedOver offlineEnv (liveInput "card_expired") Db.empty).map
        (fun h => (h.ctx (liveInput "card_expired")).action.verb) = some .sendPaymentLink := by
      decide
    rw [hhanded] at hverb
    exact hlinked.2 (Option.some.inj hverb)

/-- Closed at a gate event the run has called Razorpay, and only the opened case is
in the ledger. -/
theorem closed_gate_loses_execution :
    ∃ y w, (y, w) ∈ (iterAiDemoCase offlineEnv (liveInput "card_expired")
      (start offlineEnv Db.empty)).closed ∧ y.isGate = true ∧
        w.calls.map (·.action.verb) = [.sendPaymentLink] ∧ ¬Kept Db.empty w := by
  have hview : (true, [ActionVerb.sendPaymentLink], [LedgerKind.event]) ∈
      liveClosed.map fun p => (p.1.isGate, p.2.calls.map (·.action.verb),
        p.2.committed.history.map (·.kind)) := by
    decide
  obtain ⟨⟨y, w⟩, hclosed, hp⟩ := List.mem_map.1 hview
  obtain ⟨hgate, hrest⟩ := Prod.mk.inj hp
  obtain ⟨hverbs, hkinds⟩ := Prod.mk.inj hrest
  refine ⟨y, w, hclosed, hgate, hverbs, ?_⟩
  intro hkept
  obtain ⟨call, hcall⟩ : ∃ call, call ∈ w.calls :=
    List.exists_mem_of_ne_nil _ fun hnil => by rw [hnil] at hverbs; cases hverbs
  obtain ⟨⟨e, he, hkind, -⟩, -⟩ := hkept call hcall
  have hmem := List.mem_map_of_mem (f := fun e : LedgerColumns => e.kind)
    (List.mem_of_mem_drop he)
  rw [hkinds, hkind] at hmem
  cases List.mem_singleton.1 hmem

end RecoveryAgent.Demo
