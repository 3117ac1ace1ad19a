import RecoveryAgent.Guard.Audit
import RecoveryAgent.Library.Latest

/-!
# The case page

`_case_story` of `api/routes_ui.py` and `build_safety_checks` of `api/ui_helpers.py`. The
header of the page and its checklist are two readings of one trail: the header stays blocked
after one blocking check, while the checklist shows the latest verdict of every gate.
-/

namespace RecoveryAgent.Api

open Library Python Ledger Guard

/-!
## The header
-/

inductive GatesState where
  | none
  | passed
  | blocked
  deriving DecidableEq, Repr

/-- Plain-English progress for the case page header. -/
structure CaseStory where
  failure : Json := .null
  proposed : Json := .null
  byAi : Bool := false
  byRules : Bool := false
  gates : GatesState := .none
  blockedBy : Json := .null
  plink : Option String := none
  nextHint : String := ""
  recovered : Bool := false

/-- What one row adds to the story. -/
def tellRow (py : Conversions) (story : CaseStory) (e : LedgerEntryView) : CaseStory :=
  let item (key : String) := e.payload.item key
  match e.kind with
  | .event =>
      if story.failure.truthy then story
      else { story with failure := (item "raw_error_reason").or (item "reason") }
  | .classification => { story with failure := (item "likely_class").or story.failure }
  | .decision =>
      let action := ((item "validated").or (item "action")).or (.obj e.payload)
      { story with
        proposed := if action.isObj then (action.fields.item "verb").or story.proposed
          else story.proposed
        byAi := story.byAi || e.actor = .llm
        byRules := story.byRules || e.actor = .policy }
  | .gateCheck =>
      if e.gateResult = some .blocked then
        { story with
          gates := .blocked
          blockedBy := ((Json.ofOptStr e.gateName).or (item "gate")).or story.blockedBy }
      else if story.gates ≠ .blocked then { story with gates := .passed }
      else story
  | .outcome =>
      let ext := py.textOf ((item "external_id").or (.str ""))
      if startsWith "plink_" ext then { story with plink := some ext } else story
  | _ => story

/-- The hint under the header. -/
def nextHint (story : CaseStory) (case : Option CaseRow) : String :=
  if story.plink.isSome then
    match case with
    | some case =>
        if case.status = .recovered then
          "Recovered — payment_link.paid received. " ++
            "Match webhook payload below against Razorpay dashboard."
        else
          "Payment Link created. Pay in Razorpay test mode (or POST payment_link.paid webhook). " ++
            "This page refreshes when status flips to RECOVERED."
    | none => "Done for the live edge — open this plink_ in the Razorpay test dashboard."
  else if story.gates = .blocked then
    "Gate blocked this action — that is the product working. " ++
      "Compliance refused before any money moved."
  else if story.gates = .passed then
    "Gates allowed the action. Use the button below for Step 3 (Razorpay), " ++
      "or go home for Measure."
  else if story.proposed.truthy then
    "Proposal is on the ledger. Gates should appear above — refresh if missing."
  else "Run Step 2 from the demo home to fill this trail."

def caseStory (py : Conversions) (ledger : List LedgerEntryView) (case : Option CaseRow) :
    CaseStory :=
  let story := ledger.foldl (tellRow py) {}
  { story with
    failure :=
      match case with
      | some case =>
          if story.failure.truthy then story.failure else .ofOptStr case.failureClass
      | none => story.failure
    nextHint := nextHint story case
    recovered := case.any fun case => case.status = .recovered }

/-!
## The checklist
-/

def gateLabels : List (String × String) :=
  [("prohibited_recovery", "Fraud policy"),
    ("contact_window", "Contact window"),
    ("frequency_cap", "Frequency cap"),
    ("mandate_validity", "Mandate validity"),
    ("attempt_cap", "Attempt cap"),
    ("idempotency", "Idempotency")]

def gateOrder : List String := gateLabels.map Prod.fst

inductive CheckStatus where
  | passed
  | blocked
  | pending
  | unknown
  deriving DecidableEq, Repr

structure SafetyCheck where
  gate : String
  label : String
  verdict : Option String
  status : CheckStatus
  deriving DecidableEq, Repr

/-- The gate that a row of the log is about. -/
def namedGate (row : AuditLogRow) : Option String :=
  row.gateName.filter fun name => name ≠ ""

/-- `row.verdict or "unknown"`. -/
def verdictText (row : AuditLogRow) : String :=
  match row.verdict with
  | none => "unknown"
  | some verdict => if verdict = "" then "unknown" else verdict

def statusOfVerdict : Option String → CheckStatus
  | none => .pending
  | some verdict =>
      if verdict = "pass" then .passed else if verdict = "block" then .blocked else .unknown

/-- `build_safety_checks`: one check for every gate, with its latest verdict. -/
def buildSafetyChecks (auditLog : List AuditLogRow) : List SafetyCheck :=
  let byGate := latest namedGate verdictText auditLog
  gateLabels.map fun gate =>
    { gate := gate.1
      label := gate.2
      verdict := byGate gate.1
      status := statusOfVerdict (byGate gate.1) }

/-!
## What the header says
-/

section

variable (py : Conversions)

theorem tellRow_gates (story : CaseStory) (e : LedgerEntryView) :
    (tellRow py story e).gates =
      if e.kind = .gateCheck then
        if e.gateResult = some .blocked ∨ story.gates = .blocked then .blocked else .passed
      else story.gates := by
  unfold tellRow
  cases e.kind with
  | gateCheck =>
      simp only [if_true]
      by_cases hblock : e.gateResult = some .blocked
      · rw [if_pos hblock, if_pos (Or.inl hblock)]
      · rw [if_neg hblock]
        by_cases hgates : story.gates = .blocked
        · rw [if_neg (not_not.2 hgates), if_pos (Or.inr hgates), hgates]
        · rw [if_pos hgates, if_neg (fun h => h.elim hblock hgates)]
  | event =>
      simp only
      split
      · rfl
      · rfl
  | outcome =>
      simp only
      split
      · rfl
      · rfl
  | _ => rfl

/-- The header is blocked by the first blocking check, and stays so. -/
theorem foldl_tellRow_blocked_iff (ledger : List LedgerEntryView) (story : CaseStory) :
    (ledger.foldl (tellRow py) story).gates = .blocked ↔
      story.gates = .blocked ∨ ∃ e ∈ gateChecks ledger, e.gateResult = some .blocked := by
  induction ledger generalizing story with
  | nil => simp [gateChecks]
  | cons e rest ih =>
      rw [List.foldl_cons, ih, tellRow_gates]
      by_cases hkind : e.kind = .gateCheck
      · rw [if_pos hkind, gateChecks_cons_of_check hkind]
        simp only [List.mem_cons, exists_eq_or_imp]
        by_cases hblock : e.gateResult = some .blocked ∨ story.gates = .blocked
        · rw [if_pos hblock]
          simp only [true_or, true_iff]
          exact hblock.elim (fun h => Or.inr (Or.inl h)) Or.inl
        · rw [if_neg hblock]
          push Not at hblock
          simp [hblock.1, hblock.2]
      · rw [if_neg hkind, gateChecks_cons_of_other hkind]

/-- The header says nothing of the gates as long as there is no check. -/
theorem foldl_tellRow_none_iff (ledger : List LedgerEntryView) (story : CaseStory) :
    (ledger.foldl (tellRow py) story).gates = .none ↔
      story.gates = .none ∧ gateChecks ledger = [] := by
  induction ledger generalizing story with
  | nil => simp [gateChecks]
  | cons e rest ih =>
      rw [List.foldl_cons, ih, tellRow_gates]
      by_cases hkind : e.kind = .gateCheck
      · rw [if_pos hkind, gateChecks_cons_of_check hkind]
        refine iff_of_false (fun h => ?_) (fun h => List.cons_ne_nil _ _ h.2)
        obtain ⟨hnone, -⟩ := h
        split at hnone
        · cases hnone
        · cases hnone
      · rw [if_neg hkind, gateChecks_cons_of_other hkind]

variable (ledger : List LedgerEntryView) (case : Option CaseRow)

theorem caseStory_blocked_iff :
    (caseStory py ledger case).gates = .blocked ↔
      ∃ e ∈ gateChecks ledger, e.gateResult = some .blocked := by
  change (ledger.foldl (tellRow py) {}).gates = .blocked ↔ _
  rw [foldl_tellRow_blocked_iff]
  exact or_iff_right nofun

theorem caseStory_passed_iff :
    (caseStory py ledger case).gates = .passed ↔
      gateChecks ledger ≠ [] ∧ ¬∃ e ∈ gateChecks ledger, e.gateResult = some .blocked := by
  have hblocked := caseStory_blocked_iff py ledger case
  have hnone : (caseStory py ledger case).gates = .none ↔ gateChecks ledger = [] := by
    change (ledger.foldl (tellRow py) {}).gates = .none ↔ _
    rw [foldl_tellRow_none_iff]
    exact and_iff_right rfl
  rw [← hblocked, ne_eq, ← hnone]
  cases (caseStory py ledger case).gates with
  | none => simp
  | passed => simp
  | blocked => simp

end

/-!
## What the checklist says
-/

/-- Every check names a gate of the checklist, and a verdict in its payload is the one of its
column. -/
def NamesItsGate (e : LedgerEntryView) : Prop :=
  (∃ gate ∈ gateOrder, e.gateName = some gate) ∧
    ∀ verdict, e.payload.get? "verdict" = some verdict → verdict ≠ .null →
      verdict = .ofOptStr (e.gateResult.map GateResult.value)

section

variable {errorText : Fields → String} {base : Fields} {e : LedgerEntryView} {row : AuditLogRow}

theorem recordedVerdict_of_named (h : NamesItsGate e) :
    recordedVerdict e = .ofOptStr (e.gateResult.map GateResult.value) := by
  unfold recordedVerdict Fields.item
  cases hverdict : e.payload.get? "verdict" with
  | none => rfl
  | some verdict =>
      have hsame := h.2 verdict hverdict
      cases verdict with
      | null => rfl
      | bool b => exact hsame nofun
      | int i => exact hsame nofun
      | float x => exact hsame nofun
      | str s => exact hsame nofun
      | arr xs => exact hsame nofun
      | obj d => exact hsame nofun

/-- The row of a check has its gate and its verdict. -/
theorem row_of_named (h : NamesItsGate e) (hrow : auditLogRow errorText base e = .ok row) :
    namedGate row = e.gateName ∧ row.verdict = e.gateResult.map GateResult.value := by
  obtain ⟨heq, -⟩ := auditLogRow_eq_ok hrow
  obtain ⟨gate, hgate, hname⟩ := h.1
  have hnonempty : gate ≠ "" := by
    rintro rfl
    exact absurd hgate (by decide)
  have hgateName : row.gateName = some gate := by
    rw [heq]
    change optionalStr ((Json.ofOptStr e.gateName).or (e.payload.item "gate")) = some gate
    rw [hname]
    unfold Json.or
    rw [if_pos (by simpa [Json.ofOptStr, Json.truthy] using hnonempty)]
    rfl
  have hverdict : row.verdict = e.gateResult.map GateResult.value := by
    rw [heq]
    change optionalStr (recordedVerdict e) = _
    rw [recordedVerdict_of_named h]
    cases e.gateResult with
    | none => rfl
    | some result => rfl
  refine ⟨?_, hverdict⟩
  rw [namedGate, hgateName, hname, Option.filter_some, if_pos (decide_eq_true hnonempty)]

end

def checkText (e : LedgerEntryView) : String :=
  match e.gateResult with
  | none => "unknown"
  | some result => result.value

theorem checkText_eq_block_iff (e : LedgerEntryView) :
    checkText e = "block" ↔ e.gateResult = some .blocked := by
  unfold checkText
  cases e.gateResult with
  | none => exact iff_of_false (by decide) nofun
  | some result =>
      cases result with
      | passed => exact iff_of_false (by decide) (by decide)
      | blocked => exact iff_of_true rfl rfl

/-- A blocking check that no later check of its gate replaces. -/
def StillBlocked (checks : List LedgerEntryView) : Prop :=
  ∃ before e after, checks = before ++ e :: after ∧ e.gateResult = some .blocked ∧
    ∀ later ∈ after, later.gateName ≠ e.gateName

theorem StillBlocked.exists_blocked {checks : List LedgerEntryView} (h : StillBlocked checks) :
    ∃ e ∈ checks, e.gateResult = some .blocked := by
  obtain ⟨before, e, after, rfl, hblocked, -⟩ := h
  exact ⟨e, List.mem_append_right before List.mem_cons_self, hblocked⟩

theorem statusOfVerdict_blocked_iff (verdict : Option String) :
    statusOfVerdict verdict = .blocked ↔ verdict = some "block" := by
  cases verdict with
  | none => exact iff_of_false nofun nofun
  | some verdict =>
      unfold statusOfVerdict
      simp only [Option.some_inj]
      by_cases hpass : verdict = "pass"
      · rw [if_pos hpass, hpass]
        exact iff_of_false nofun (by decide)
      · rw [if_neg hpass]
        by_cases hblock : verdict = "block"
        · rw [if_pos hblock]
          exact iff_of_true rfl hblock
        · rw [if_neg hblock]
          exact iff_of_false nofun hblock

theorem exists_blocked_check_iff (log : List AuditLogRow) :
    (∃ check ∈ buildSafetyChecks log, check.status = .blocked) ↔
      ∃ gate ∈ gateOrder, latest namedGate verdictText log gate = some "block" := by
  unfold buildSafetyChecks gateOrder
  simp only [List.mem_map, exists_exists_and_eq_and, statusOfVerdict_blocked_iff]

section

variable {errorText : Fields → String} {ledger : List LedgerEntryView} {log : List AuditLogRow}
  (hnamed : ∀ e ∈ gateChecks ledger, NamesItsGate e)
  (hlog : buildAuditLog errorText ledger = .ok log)

include hnamed hlog

theorem latest_log :
    latest namedGate verdictText log =
      latest LedgerEntryView.gateName checkText (gateChecks ledger) := by
  obtain ⟨base, -, hrows⟩ := bind_eq_ok hlog
  have hshow := map_of_mapM (g := fun row => (namedGate row, verdictText row))
    (k := fun e : LedgerEntryView => (e.gateName, checkText e)) hrows (by
      intro e he row hrow
      obtain ⟨hgate, hverdict⟩ := row_of_named (hnamed e he) hrow
      rw [hgate, verdictText, hverdict, checkText]
      cases e.gateResult with
      | none => rfl
      | some result => cases result <;> rfl)
  have hlatest := congrArg (latest Prod.fst Prod.snd) hshow
  rw [latest_map, latest_map] at hlatest
  exact hlatest

theorem exists_blocked_check_iff_stillBlocked :
    (∃ check ∈ buildSafetyChecks log, check.status = .blocked) ↔
      StillBlocked (gateChecks ledger) := by
  rw [exists_blocked_check_iff, latest_log hnamed hlog]
  constructor
  · rintro ⟨gate, -, hlatest⟩
    obtain ⟨before, e, after, hsplit, hgate, htext, hafter⟩ :=
      (latest_eq_some_iff _ _).1 hlatest
    refine ⟨before, e, after, hsplit, (checkText_eq_block_iff e).1 htext, ?_⟩
    rw [hgate]
    exact hafter
  · rintro ⟨before, e, after, hsplit, hblocked, hafter⟩
    have hmem : e ∈ gateChecks ledger := by
      rw [hsplit]
      exact List.mem_append_right before List.mem_cons_self
    obtain ⟨gate, hgate, hname⟩ := (hnamed e hmem).1
    rw [hname] at hafter
    exact ⟨gate, hgate, (latest_eq_some_iff _ _).2
      ⟨before, e, after, hsplit, hname, (checkText_eq_block_iff e).2 hblocked, hafter⟩⟩

/-- The header and the checklist of a case agree exactly when some blocking check, if there
is one, is not replaced by a later check of its gate. -/
theorem case_page_consistent_iff (py : Conversions) (case : Option CaseRow) :
    (((caseStory py ledger case).gates = .blocked ↔
        ∃ check ∈ buildSafetyChecks log, check.status = .blocked) ∧
      ((caseStory py ledger case).gates = .passed ↔
        gateChecks ledger ≠ [] ∧ ∀ check ∈ buildSafetyChecks log, check.status ≠ .blocked)) ↔
      ((∃ e ∈ gateChecks ledger, e.gateResult = some .blocked) →
        StillBlocked (gateChecks ledger)) := by
  have hnone : (∀ check ∈ buildSafetyChecks log, check.status ≠ .blocked) ↔
      ¬∃ check ∈ buildSafetyChecks log, check.status = .blocked := by
    push Not
    rfl
  rw [hnone, exists_blocked_check_iff_stillBlocked hnamed hlog, caseStory_blocked_iff,
    caseStory_passed_iff]
  have hstill : StillBlocked (gateChecks ledger) →
      ∃ e ∈ gateChecks ledger, e.gateResult = some .blocked := StillBlocked.exists_blocked
  constructor
  · exact fun h hblocked => h.1.1 hblocked
  · intro h
    refine ⟨⟨h, hstill⟩, and_congr_right fun _ => not_congr ⟨h, hstill⟩⟩

end

/-- Texts as they stand, and nothing else. -/
def plainText : Conversions where
  textOf v := v.text?.getD "None"
  textOf_eq := Json.getD_text?_eq
  intOfText _ := none
  errorText _ := ""

/-- A check of the contact window that blocked. -/
def lateRow (seq : ℕ) : LedgerEntryView :=
  { windowRow seq with gateResult := some .blocked, reasonCode := "GATE_WINDOW" }

theorem namesItsGate_windowRow (seq : ℕ) : NamesItsGate (windowRow seq) := by
  refine ⟨⟨"contact_window", by decide, rfl⟩, fun verdict hverdict => ?_⟩
  cases hverdict

theorem namesItsGate_lateRow (seq : ℕ) : NamesItsGate (lateRow seq) := by
  refine ⟨⟨"contact_window", by decide, rfl⟩, fun verdict hverdict => ?_⟩
  cases hverdict

/-- A check that blocks and is the last one of its gate. -/
theorem case_page_consistent_iff_lateRow :
    ((caseStory plainText [windowRow 1, lateRow 2] none).gates = .blocked ↔
      ∃ check ∈ buildSafetyChecks [rowOf (windowRow 1) (auditFields [] (windowRow 1)),
        rowOf (lateRow 2) (auditFields [] (lateRow 2))], check.status = .blocked) := by
  have hnamed : ∀ e ∈ gateChecks [windowRow 1, lateRow 2], NamesItsGate e := by
    intro e he
    change e ∈ [windowRow 1, lateRow 2] at he
    rcases List.mem_cons.1 he with rfl | he
    · exact namesItsGate_windowRow 1
    · rw [List.mem_singleton.1 he]
      exact namesItsGate_lateRow 2
  have hlog : buildAuditLog (fun _ => "") [windowRow 1, lateRow 2] =
      .ok [rowOf (windowRow 1) (auditFields [] (windowRow 1)),
        rowOf (lateRow 2) (auditFields [] (lateRow 2))] := rfl
  have hstill : StillBlocked (gateChecks [windowRow 1, lateRow 2]) :=
    ⟨[windowRow 1], lateRow 2, [], rfl, rfl, List.forall_mem_nil _⟩
  exact ((case_page_consistent_iff hnamed hlog plainText none).2 fun _ => hstill).1

/-- A check that blocks before one of the same gate passes, as the replayed fixture writes
them: the header stays blocked and no check of the list is. -/
theorem blocked_header_over_passed_checks :
    ∃ log, buildAuditLog (fun _ => "") [lateRow 1, windowRow 2] = .ok log ∧
      (∀ e ∈ gateChecks [lateRow 1, windowRow 2], NamesItsGate e) ∧
      (caseStory plainText [lateRow 1, windowRow 2] none).gates = .blocked ∧
      ¬∃ check ∈ buildSafetyChecks log, check.status = .blocked := by
  have hlog : buildAuditLog (fun _ => "") [lateRow 1, windowRow 2] =
      .ok [rowOf (lateRow 1) (auditFields [] (lateRow 1)),
        rowOf (windowRow 2) (auditFields [] (windowRow 2))] := rfl
  have hnamed : ∀ e ∈ gateChecks [lateRow 1, windowRow 2], NamesItsGate e := by
    intro e he
    change e ∈ [lateRow 1, windowRow 2] at he
    rcases List.mem_cons.1 he with rfl | he
    · exact namesItsGate_lateRow 1
    · rw [List.mem_singleton.1 he]
      exact namesItsGate_windowRow 2
  refine ⟨_, hlog, hnamed, ?_, by decide⟩
  rw [caseStory_blocked_iff]
  exact ⟨lateRow 1, List.mem_cons_self, rfl⟩

end RecoveryAgent.Api
