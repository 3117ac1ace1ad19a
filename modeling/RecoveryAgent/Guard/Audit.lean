import RecoveryAgent.Ledger.Views

/-!
# The gate audit log

`guard/audit.py`: one row for every gate check of a ledger. What a check does not record
itself is joined from the latest decision of the whole ledger, so a later decision can
change the rows of earlier checks. Which rows it leaves alone is said field by field.
-/

namespace RecoveryAgent.Guard

open Library Python Ledger

structure AuditLogRow where
  seq : ℕ
  atText : String
  proposedVerb : Option String
  proposedChannel : Option String
  failureClass : Option String
  gateName : Option String
  verdict : Option String
  rule : Option String
  model : Option String
  promptHash : Option String
  actor : Option String
  deriving DecidableEq, Repr

/-- `_decision_audit`: what the latest decision says, as a dictionary. -/
def decisionAudit (ledger : List LedgerEntryView) : Except PyError Fields :=
  match ledger.reverse.find? fun e => e.kind = .decision with
  | none => .ok []
  | some e => do
      let audit := (e.payload.item "audit").or (.obj [])
      let validated :=
        ((e.payload.item "validated").or (e.payload.item "action")).or (.obj [])
      let model ← audit.get "model"
      let promptHash ← audit.get "prompt_hash"
      return [("proposed_verb", validated.fields.item "verb"),
        ("proposed_channel", validated.fields.item "channel"),
        ("failure_class", validated.fields.item "failure_class"),
        ("model", model),
        ("prompt_hash", promptHash),
        ("actor", .str e.actor.value)]

/-- The verdict that a check records in its payload, else its column. -/
def recordedVerdict (e : LedgerEntryView) : Json :=
  match e.payload.item "verdict" with
  | .null => .ofOptStr (e.gateResult.map GateResult.value)
  | verdict => verdict

/-- The fields that a check may record itself. -/
def joinedKeys : List String :=
  ["proposed_verb", "proposed_channel", "failure_class", "model", "prompt_hash"]

/-- `payload.get(key) or base.get(key)`. -/
def joined (base : Fields) (e : LedgerEntryView) (key : String) : Json :=
  (e.payload.item key).or (base.item key)

/-- The texts that a row is built from. -/
def auditFields (base : Fields) (e : LedgerEntryView) : Fields :=
  [("proposed_verb", joined base e "proposed_verb"),
    ("proposed_channel", joined base e "proposed_channel"),
    ("failure_class", joined base e "failure_class"),
    ("gate_name", (Json.ofOptStr e.gateName).or (e.payload.item "gate")),
    ("verdict", recordedVerdict e),
    ("rule", (e.payload.item "reason_code").or (.str e.reasonCode)),
    ("model", joined base e "model"),
    ("prompt_hash", joined base e "prompt_hash"),
    ("actor", base.item "actor")]

def isOptionalStr : Json → Bool
  | .null => true
  | .str _ => true
  | _ => false

/-- An accepted value. -/
def optionalStr : Json → Option String
  | .str s => some s
  | _ => none

/-- The row of a check with these texts. -/
def rowOf (e : LedgerEntryView) (fields : Fields) : AuditLogRow :=
  let text (key : String) := optionalStr (fields.item key)
  { seq := e.seq
    atText := isoformat e.atTime
    proposedVerb := text "proposed_verb"
    proposedChannel := text "proposed_channel"
    failureClass := text "failure_class"
    gateName := text "gate_name"
    verdict := text "verdict"
    rule := text "rule"
    model := text "model"
    promptHash := text "prompt_hash"
    actor := text "actor" }

section

-- the text of a `ValidationError`, by the fields that were refused
variable (errorText : Fields → String)

def auditLogRow (base : Fields) (e : LedgerEntryView) : Except PyError AuditLogRow :=
  let fields := auditFields base e
  let refused := fields.filter fun field => !isOptionalStr field.2
  if refused.isEmpty then .ok (rowOf e fields)
  else .error (.valueError (errorText refused))

def gateChecks (ledger : List LedgerEntryView) : List LedgerEntryView :=
  ledger.filter fun e => e.kind = .gateCheck

/-- `build_audit_log`: one row per `gate_check`, enriched with the latest decision. -/
def buildAuditLog (ledger : List LedgerEntryView) : Except PyError (List AuditLogRow) := do
  let base ← decisionAudit ledger
  (gateChecks ledger).mapM (auditLogRow errorText base)

/-!
## The latest decision
-/

theorem gateChecks_append (ledger later : List LedgerEntryView) :
    gateChecks (ledger ++ later) = gateChecks ledger ++ gateChecks later :=
  List.filter_append ..

theorem gateChecks_cons_of_check {e : LedgerEntryView} (h : e.kind = .gateCheck)
    (rest : List LedgerEntryView) : gateChecks (e :: rest) = e :: gateChecks rest :=
  List.filter_cons_of_pos (decide_eq_true h)

theorem gateChecks_cons_of_other {e : LedgerEntryView} (h : e.kind ≠ .gateCheck)
    (rest : List LedgerEntryView) : gateChecks (e :: rest) = gateChecks rest :=
  List.filter_cons_of_neg (by simpa using h)

/-!
## Rows that two decisions agree on
-/

/-- The check finds in both what it does not record itself. -/
structure Agrees (base base' : Fields) (e : LedgerEntryView) : Prop where
  joined : ∀ key ∈ joinedKeys,
    (e.payload.item key).truthy = true ∨ base.item key = base'.item key
  actor : base.item "actor" = base'.item "actor"

variable {errorText} {base base' : Fields} {e : LedgerEntryView}

theorem joined_of_truthy {key : String} (h : (e.payload.item key).truthy = true) :
    joined base e key = e.payload.item key := if_pos h

theorem joined_of_not_truthy {key : String} (h : ¬(e.payload.item key).truthy = true) :
    joined base e key = base.item key := if_neg h

theorem auditFields_of_agrees (h : Agrees base base' e) :
    auditFields base e = auditFields base' e := by
  have hjoined : ∀ key ∈ joinedKeys, joined base e key = joined base' e key := by
    intro key hkey
    by_cases htruthy : (e.payload.item key).truthy = true
    · rw [joined_of_truthy htruthy, joined_of_truthy htruthy]
    · rw [joined_of_not_truthy htruthy, joined_of_not_truthy htruthy]
      exact (h.joined key hkey).resolve_left htruthy
  unfold auditFields
  rw [hjoined "proposed_verb" (by decide), hjoined "proposed_channel" (by decide),
    hjoined "failure_class" (by decide), hjoined "model" (by decide),
    hjoined "prompt_hash" (by decide), h.actor]

/-- An accepted value is given by its text. -/
theorem optionalStr_injective {v w : Json} (hv : isOptionalStr v = true)
    (hw : isOptionalStr w = true) (h : optionalStr v = optionalStr w) : v = w := by
  cases v with
  | null =>
      cases w with
      | null => rfl
      | str s => cases h
      | _ => cases hw
  | str s =>
      cases w with
      | null => cases h
      | str s' =>
          cases h
          rfl
      | _ => cases hw
  | _ => cases hv

theorem isOptionalStr_item {fields : Fields}
    (h : ∀ field ∈ fields, isOptionalStr field.2 = true) (key : String) :
    isOptionalStr (fields.item key) = true := by
  unfold Fields.item Fields.get?
  cases hfound : List.lookup key fields with
  | none => rfl
  | some v =>
      obtain ⟨before, after, hsplit, -⟩ := List.lookup_eq_some_iff.1 hfound
      exact h (key, v) (by rw [hsplit]; simp)

/-- A row that was built has accepted texts only. -/
theorem auditLogRow_eq_ok {row : AuditLogRow} (h : auditLogRow errorText base e = .ok row) :
    row = rowOf e (auditFields base e) ∧
      ∀ field ∈ auditFields base e, isOptionalStr field.2 = true := by
  unfold auditLogRow at h
  simp only at h
  split at h
  · next hnone =>
      refine ⟨(Except.ok.inj h).symm, fun field hfield => ?_⟩
      by_contra hrefused
      rw [List.isEmpty_iff, List.filter_eq_nil_iff] at hnone
      exact hnone field hfield (by simpa using hrefused)
  · cases h

/-- Two decisions give a check the same row exactly when it finds the same in both. -/
theorem auditLogRow_eq_iff {row : AuditLogRow} (h : auditLogRow errorText base e = .ok row) :
    auditLogRow errorText base' e = .ok row ↔ Agrees base base' e := by
  constructor
  · intro h'
    obtain ⟨hrow, haccepted⟩ := auditLogRow_eq_ok h
    obtain ⟨hrow', haccepted'⟩ := auditLogRow_eq_ok h'
    have hsame : rowOf e (auditFields base e) = rowOf e (auditFields base' e) :=
      hrow.symm.trans hrow'
    have heq : ∀ key, optionalStr ((auditFields base e).item key) =
        optionalStr ((auditFields base' e).item key) →
          (auditFields base e).item key = (auditFields base' e).item key :=
      fun key => optionalStr_injective (isOptionalStr_item haccepted key)
        (isOptionalStr_item haccepted' key)
    have hjoined : ∀ key ∈ joinedKeys, joined base e key = joined base' e key := by
      intro key hkey
      simp only [joinedKeys, List.mem_cons, List.not_mem_nil, or_false] at hkey
      rcases hkey with rfl | rfl | rfl | rfl | rfl
      · exact heq "proposed_verb" (congrArg AuditLogRow.proposedVerb hsame)
      · exact heq "proposed_channel" (congrArg AuditLogRow.proposedChannel hsame)
      · exact heq "failure_class" (congrArg AuditLogRow.failureClass hsame)
      · exact heq "model" (congrArg AuditLogRow.model hsame)
      · exact heq "prompt_hash" (congrArg AuditLogRow.promptHash hsame)
    constructor
    · intro key hkey
      by_cases htruthy : (e.payload.item key).truthy = true
      · exact Or.inl htruthy
      · have hbase := hjoined key hkey
        rw [joined_of_not_truthy htruthy, joined_of_not_truthy htruthy] at hbase
        exact Or.inr hbase
    · exact heq "actor" (congrArg AuditLogRow.actor hsame)
  · intro hagrees
    rw [← h]
    unfold auditLogRow
    rw [auditFields_of_agrees hagrees]

/-!
## Later rows
-/

variable (errorText)

/-- The log of an extended ledger begins with the log of the ledger exactly when the latest
decision of both can be read, every check of the ledger finds in it what it found before, and
every later check can be shown with it. -/
theorem audit_log_stable_iff {ledger : List LedgerEntryView} {log : List AuditLogRow}
    (h : buildAuditLog errorText ledger = .ok log) (later : List LedgerEntryView) :
    (∃ rest, buildAuditLog errorText (ledger ++ later) = .ok (log ++ rest)) ↔
      ∃ base base', decisionAudit ledger = .ok base ∧
        decisionAudit (ledger ++ later) = .ok base' ∧
        (∀ e ∈ gateChecks ledger, Agrees base base' e) ∧
        ∀ e ∈ gateChecks later, ∃ row, auditLogRow errorText base' e = .ok row := by
  obtain ⟨base, hbase, hlog⟩ := bind_eq_ok h
  have hagrees : ∀ base', (gateChecks ledger).mapM (auditLogRow errorText base') = .ok log ↔
      ∀ e ∈ gateChecks ledger, Agrees base base' e := by
    intro base'
    have hrows := exists_mapM_eq_ok_iff.1 ⟨log, hlog⟩
    rw [mapM_eq_ok_congr hlog]
    refine forall₂_congr fun e he => ?_
    obtain ⟨row, hrow⟩ := hrows e he
    rw [← auditLogRow_eq_iff hrow]
    constructor
    · exact fun hsame => hsame row hrow
    · intro hrow' b hb
      cases hrow.symm.trans hb
      exact hrow'
  constructor
  · rintro ⟨rest, hextended⟩
    obtain ⟨base', hbase', hextended⟩ := bind_eq_ok hextended
    rw [gateChecks_append] at hextended
    obtain ⟨rows, rows', hrows, hrows', heq⟩ := mapM_eq_ok_append.1 hextended
    -- both logs have one row for every check of the ledger
    have hlength : rows.length = log.length := by
      rw [length_of_mapM hrows, length_of_mapM hlog]
    obtain ⟨hfirst, hsecond⟩ := List.append_inj heq.symm hlength
    rw [hfirst] at hrows
    exact ⟨base, base', hbase, hbase', (hagrees base').1 hrows,
      exists_mapM_eq_ok_iff.1 ⟨rows', hrows'⟩⟩
  · rintro ⟨base₁, base', hbase₁, hbase', hkept, hlater⟩
    cases hbase.symm.trans hbase₁
    obtain ⟨rest, hrest⟩ := exists_mapM_eq_ok_iff.2 hlater
    refine ⟨rest, ?_⟩
    rw [buildAuditLog, hbase', gateChecks_append]
    exact mapM_eq_ok_append.2 ⟨log, rest, (hagrees base').2 hkept, hrest, rfl⟩

end

/-- A decision of the rules, or of a model. -/
def decisionRow (seq : ℕ) (actor : LedgerActor) (model : String) : LedgerEntryView where
  seq
  caseId := "case_1"
  atTime := daytime
  kind := .decision
  actor
  policyVersion := "2026-08-26-metrics-s1"
  payload :=
    [("validated", .obj [("verb", .str "send_payment_link"), ("channel", .str "link"),
        ("failure_class", .str "card_expired")]),
      ("audit", .obj [("model", .str model), ("prompt_hash", .null)])]
  reasonCode := "DEAD_CARD_LINK"

/-- A check of the contact window that passed. -/
def windowRow (seq : ℕ) : LedgerEntryView where
  seq
  caseId := "case_1"
  atTime := daytime
  kind := .gateCheck
  actor := .system
  policyVersion := "2026-08-26-metrics-s1"
  payload := [("gate", .str "contact_window")]
  reasonCode := "GATE_WINDOW_OK"
  gateName := some "contact_window"
  gateResult := some .passed

/-- Another check of the same case, after the log was read. -/
theorem audit_log_stable_iff_check :
    ∃ rest, buildAuditLog (fun _ => "") ([decisionRow 1 .policy "rules_fallback", windowRow 2] ++
      [windowRow 3]) = .ok
        ([rowOf (windowRow 2) (auditFields
          [("proposed_verb", .str "send_payment_link"), ("proposed_channel", .str "link"),
            ("failure_class", .str "card_expired"), ("model", .str "rules_fallback"),
            ("prompt_hash", .null), ("actor", .str "policy")] (windowRow 2))] ++ rest) := by
  refine (audit_log_stable_iff (fun _ => "") rfl [windowRow 3]).2
    ⟨_, _, rfl, rfl, fun e _ => ⟨fun _ _ => Or.inr rfl, rfl⟩, ?_⟩
  intro e he
  rw [List.mem_singleton.1 he]
  exact ⟨_, rfl⟩

/-- A later decision of a model takes over the check that the rules had asked for. -/
theorem earlier_check_reattributed :
    ∃ row row', buildAuditLog (fun _ => "") [decisionRow 1 .policy "rules_fallback",
        windowRow 2] = .ok [row] ∧
      buildAuditLog (fun _ => "") ([decisionRow 1 .policy "rules_fallback", windowRow 2] ++
        [decisionRow 3 .llm "qwen3:8b"]) = .ok [row'] ∧
      (row.model, row.actor) = (some "rules_fallback", some "policy") ∧
      (row'.model, row'.actor) = (some "qwen3:8b", some "llm") ∧ ¬[row] <+: [row'] := by
  refine ⟨_, _, rfl, rfl, rfl, rfl, ?_⟩
  intro hstart
  have hrow := List.head_eq_of_cons_eq (hstart.eq_of_length rfl)
  have hmodel : some "rules_fallback" = some "qwen3:8b" := congrArg AuditLogRow.model hrow
  exact absurd hmodel (by decide)

end RecoveryAgent.Guard
