import RecoveryAgent.Api.Escapes
import RecoveryAgent.Api.System

/-!
# The payment loop

A link that an execution has created is looked up in the outcome rows when Razorpay tells that
it is paid, unless the notes of the link name the case. Requests of any kind may come in
between, and after it.
-/

namespace RecoveryAgent.Api

open Library Python Policy Ledger Guard Execute Ingest Runs Demo

/-- A delivery that is read as a paid link, with a key and a case that can be looked up. -/
structure PaidDelivery (env : WebhookEnvironment) (req : WebhookRequest)
    (paid : PaymentLinkPaidEvent) : Prop where
  key : env.utf8.encodes paid.eventId = true
  named : env.utf8.encodesOpt paid.caseId = true
  read : ∃ body, Reads env req (.obj body) ∧
    razorpayEventName env.outside body = "payment_link.paid" ∧
      normalisePaymentLinkPaid env.outside body = .ok paid

/-- The event leads to this case: its notes name the case, or they name none and no outcome
row of another case has the link. -/
inductive Addressed (db : Db) (paid : PaymentLinkPaidEvent) (caseId : String) : Prop where
  | noted (named : paid.caseId = some caseId) (nonempty : caseId ≠ "")
  | traced (unnamed : paid.caseId.getD "" = "")
      (only : ∀ e ∈ db.history, e.kind = .outcome →
        hasExternalId e paid.paymentLinkId = true → e.caseId = caseId)

/-- An outcome row of the case has the link. -/
def Linked (db : Db) (caseId plinkId : String) : Prop :=
  ∃ e ∈ db.history, e.kind = .outcome ∧ hasExternalId e plinkId = true ∧ e.caseId = caseId

theorem Linked.of_extends {db db' : Db} (h : Extends db db') {caseId plinkId : String}
    (hlinked : Linked db caseId plinkId) : Linked db' caseId plinkId := by
  obtain ⟨e, he, hrow⟩ := hlinked
  have hhistory : db.history <+: db'.history := h.ledger.map _
  exact ⟨e, hhistory.subset he, hrow⟩

/-- The lookup finds the case of the link when no other case has it. -/
theorem findCaseIdByPlink_eq {s : Session} {caseId plinkId : String}
    (hlinked : Linked s.db caseId plinkId)
    (honly : ∀ e ∈ s.db.history, e.kind = .outcome → hasExternalId e plinkId = true →
      e.caseId = caseId) : findCaseIdByPlink s plinkId = some caseId := by
  obtain ⟨e, he, hkind, hexternal, -⟩ := hlinked
  unfold findCaseIdByPlink
  cases hfind : s.db.history.reverse.find? fun e =>
      e.kind = .outcome && hasExternalId e plinkId with
  | none =>
      have hnone := List.find?_eq_none.1 hfind e (List.mem_reverse.2 he)
      simp [hkind, hexternal] at hnone
  | some found =>
      have hmem := List.mem_reverse.1 (List.mem_of_find?_eq_some hfind)
      have hfound := List.find?_some hfind
      simp only [Bool.and_eq_true, decide_eq_true_eq] at hfound
      exact congrArg some (honly found hmem hfound.1 hfound.2)

theorem paidCaseId_of_addressed {s : Session} {paid : PaymentLinkPaidEvent} {caseId : String}
    (hlinked : Linked s.db caseId paid.paymentLinkId) (h : Addressed s.db paid caseId) :
    paidCaseId s paid = some caseId := by
  cases h with
  | noted named nonempty =>
      rw [paidCaseId, named]
      exact if_neg nonempty
  | traced unnamed only =>
      have hfound := findCaseIdByPlink_eq hlinked only
      unfold paidCaseId
      split
      · next named hnamed =>
          have hempty : named = "" := by simpa [hnamed] using unnamed
          rw [if_pos hempty, hfound]
      · exact hfound

/-- An execution whose outcome has a link leaves an outcome row with it. -/
theorem linked_of_executed {s : Session} {case : CaseRow} (hheld : s.Holds case)
    {ctx : GuardContext} {executor : Executor} {execMeta : ExecuteMeta} {policyVersion : String}
    {run : GuardRun} {out : Outcome}
    (hran : executeWithGuards s case ctx executor (some execMeta) policyVersion =
      .ok (run, some out)) {plinkId : String} (hlink : out.externalId = some plinkId)
    (hne : plinkId ≠ "") : Linked run.session.db case.id plinkId := by
  have hconducted := Conducted.some (exec_conducts executor execMeta policyVersion)
  set conduct := some (execConduct executor execMeta policyVersion)
  have hverdict := guardEffect_verdict s case ctx conduct policyVersion []
  have hserved := (executeWithGuards_eq_ok hran).symm
  have hrun : (guardRun s case ctx (some (exec executor execMeta policyVersion))
      policyVersion []) = run := congrArg Prod.fst hserved
  have hout : (if run.result.executed = true then
      some (executor ctx.action (reopened case) execMeta) else none) = some out := by
    rw [← hrun]
    exact congrArg Prod.snd hserved
  have hlet : LetThrough s case ctx := by
    by_contra hrefused
    have hidle : (guardRun s case ctx
        (some (exec executor execMeta policyVersion)) policyVersion []).result.executed = false :=
      (result_of_not_letThrough hrefused _).2
    rw [hrun] at hidle
    rw [hidle] at hout
    cases hout
  rw [if_pos (by rw [← hrun]; exact (hlet.result _).2)] at hout
  have hexternal : (executor ctx.action (reopened case) execMeta).modelDump.get? "external_id" =
      some (.str plinkId) := by
    rw [Option.some.inj hout, Outcome.modelDump, hlink]
    rfl
  obtain ⟨f, hf, hkind, hpayload⟩ := (verdict_outcome_iff hverdict
    fun payload => payload.get? "external_id" = some (.str plinkId)).2 ⟨hlet, hexternal⟩
  have hsession : run.session = s.perform (guardEffect s case ctx conduct policyVersion []) := by
    rw [← hrun]
    exact (guardRun_eq hconducted hheld).1
  refine ⟨f.toLedgerColumns, ?_, hkind, ?_, (hverdict.own hconducted).1 f hf⟩
  · rw [hsession, Session.perform_history]
    exact List.mem_append_right _ (List.mem_map_of_mem hf)
  · have hstored : f.toLedgerColumns.payload.get? "external_id" = some (.str plinkId) := hpayload
    simp [hasExternalId, hstored, Json.truthy, hne]

theorem extends_executeWithGuards {s : Session} {case : CaseRow} (hheld : s.Holds case)
    {ctx : GuardContext} {executor : Executor} {execMeta : ExecuteMeta} {policyVersion : String}
    {ran : GuardRun × Option Outcome}
    (hran : executeWithGuards s case ctx executor (some execMeta) policyVersion = .ok ran) :
    Extends s.db ran.1.session.db := by
  rw [executeWithGuards_eq_ok hran]
  have hconducted := Conducted.some (exec_conducts executor execMeta policyVersion)
  obtain ⟨made, hmade, -⟩ := calls_guarded hheld ctx hconducted policyVersion []
  refine (written_guarded hheld ctx hconducted ?_ policyVersion [] hmade).extended
  rintro act ⟨⟩
  exact keeps_execConduct executor execMeta policyVersion

/-!
## Deliveries
-/

section

variable {env : WebhookEnvironment} {req : WebhookRequest} {paid : PaymentLinkPaidEvent} {db : Db}

/-- Such a delivery is handed to the service, and what the service leaves is committed. -/
theorem postRazorpay_paid (h : PaidDelivery env req paid) {result : PaymentLinkPaidResult}
    {t : Session} (hdone : handlePaymentLinkPaid (openSession env.utcnow db) paid =
      .ok (result, t)) :
    postRazorpay env req db = (.returned (paidBody "payment_link.paid" result), t.db) := by
  obtain ⟨body, hreads, hname, hpaid⟩ := h.read
  have hstore : storePaid env.utf8 (openSession env.utcnow db) paid = .ok (result, t) := by
    rw [storePaid_of_bound h.key h.named, hdone]
    rfl
  have hroute : razorpayWebhook env req (openSession env.utcnow db) =
      .ok (paidBody "payment_link.paid" result, t) := by
    rw [razorpayWebhook_of_paid hreads hname]
    simp only [paidRoute, translated, hpaid, hstore, Except.mapError, bind, Except.bind, hname]
    rfl
  simp only [postRazorpay, hroute]

theorem first_delivery (h : PaidDelivery env req paid) {caseId : String}
    (hnew : db.processed.get? paid.eventId = none)
    (haddressed : paidCaseId (openSession env.utcnow db) paid = some caseId) {case : CaseRow}
    (hcase : db.cases.get? caseId = some case) :
    ∃ result, (postRazorpay env req db).1 = .returned (paidBody "payment_link.paid" result) ∧
      (result.caseId = caseId ∧ result.duplicate = false ∧ result.recovered = true) ∧
      (∃ case', (postRazorpay env req db).2.cases.get? caseId = some case' ∧
        case'.status = .recovered) ∧
      ∃ mark, (postRazorpay env req db).2.processed.get? paid.eventId = some mark ∧
        mark.caseId = caseId := by
  have hhandled := handlePaymentLinkPaid_handled (openSession env.utcnow db) paid
  generalize hout : handlePaymentLinkPaid (openSession env.utcnow db) paid = out at hhandled
  cases hhandled with
  | duplicate seen _ => cases hnew.symm.trans seen
  | noCaseForLink _ unresolved => cases haddressed.symm.trans unresolved
  | caseNotFound _ resolved absent =>
      cases haddressed.symm.trans resolved
      cases hcase.symm.trans absent
  | @closed closed _ _ resolved held remembered =>
      cases haddressed.symm.trans resolved
      have hself := getCase_perform_self held
        ⟨continues_paid closed paid, paidEffect_own closed paid⟩
      rw [postRazorpay_paid h hout]
      refine ⟨_, rfl, ⟨rfl, rfl, rfl⟩, ⟨_, hself, ?_⟩, _, Table.get?_insert?_self remembered, rfl⟩
      unfold paidEffect
      split
      · next hrecovered => exact hrecovered
      · rfl

theorem later_delivery (h : PaidDelivery env req paid) {mark : ProcessedEventRow}
    (hmark : db.processed.get? paid.eventId = some mark) {case : CaseRow}
    (hcase : db.cases.get? mark.caseId = some case) (hrecovered : case.status = .recovered) :
    ∃ result, postRazorpay env req db =
        (.returned (paidBody "payment_link.paid" result), db) ∧
      result.caseId = mark.caseId ∧ result.duplicate = true ∧ result.recovered = true := by
  have hfound : (openSession env.utcnow db).findProcessed paid.eventId = some mark := hmark
  have hload : (openSession env.utcnow db).getCase mark.caseId = some case := hcase
  refine ⟨⟨mark.caseId, paid.eventId, true, true, paid.paymentLinkId, paid.paymentId, none⟩, ?_,
    rfl, rfl, rfl⟩
  refine postRazorpay_paid (t := openSession env.utcnow db) h ?_
  simp only [handlePaymentLinkPaid, hfound, hload, hrecovered, decide_true]

end

/-!
## The loop
-/

/-- Whatever comes after it, the case is recovered, no executor is called for it, and another
delivery of the event is answered and changes nothing. -/
structure StaysPaid (utcnow : ℕ → DateTime) (db : Db) (caseId eventId : String) : Prop where
  recovered : ∀ entries, ∃ case,
    (Run.final (handle utcnow) db entries).cases.get? caseId = some case ∧
      case.status = .recovered
  uncalled : ∀ entries, ∀ c ∈ Run.emitted (handle utcnow) db entries, c.caseId ≠ caseId
  redelivered : ∀ entries env req paid, PaidDelivery env req paid → paid.eventId = eventId →
    ∃ result, postRazorpay env req (Run.final (handle utcnow) db entries) =
        (.returned (paidBody "payment_link.paid" result), Run.final (handle utcnow) db entries) ∧
      result.caseId = caseId ∧ result.duplicate = true ∧ result.recovered = true

theorem staysPaid (utcnow : ℕ → DateTime) {db : Db} {caseId eventId : String} {case : CaseRow}
    (hcase : db.cases.get? caseId = some case) (hrecovered : case.status = .recovered)
    {mark : ProcessedEventRow} (hmark : db.processed.get? eventId = some mark)
    (hid : mark.caseId = caseId) : StaysPaid utcnow db caseId eventId := by
  have hlater : ∀ entries, ∃ case,
      (Run.final (handle utcnow) db entries).cases.get? caseId = some case ∧
        case.status = .recovered := by
    intro entries
    obtain ⟨case', hcase', hcontinues⟩ :=
      ((handle_growing utcnow).final db entries).cases caseId case hcase
    exact ⟨case', hcase', hcontinues.recovered hrecovered⟩
  refine ⟨hlater, never_called utcnow hcase (by rw [isCaseStopped, hrecovered]; rfl), ?_⟩
  rintro entries env req paid hdelivery rfl
  obtain ⟨case', hcase', hrecovered'⟩ := hlater entries
  have hmark' := ((handle_growing utcnow).final db entries).processed _ mark hmark
  rw [← hid] at hcase' ⊢
  exact later_delivery hdelivery hmark' hcase' hrecovered'

/-- A payment of a link that an execution has created closes the case of that execution,
whatever has come in between, and the case stays closed. -/
theorem paid_link_closes_case (utcnow : ℕ → DateTime) {s : Session} {case : CaseRow}
    (hheld : s.Holds case) {ctx : GuardContext} {executor : Executor} {execMeta : ExecuteMeta}
    {policyVersion : String} {run : GuardRun} {out : Outcome}
    (hran : executeWithGuards s case ctx executor (some execMeta) policyVersion =
      .ok (run, some out)) {env : WebhookEnvironment} {req : WebhookRequest}
    {paid : PaymentLinkPaidEvent} (hdelivery : PaidDelivery env req paid)
    (hlink : out.externalId = some paid.paymentLinkId) (hne : paid.paymentLinkId ≠ "")
    (entries : List Entry) :
    let later := Run.final (handle utcnow) run.session.db entries
    Addressed later paid case.id → later.processed.get? paid.eventId = none →
      ∃ result, (postRazorpay env req later).1 =
          .returned (paidBody "payment_link.paid" result) ∧
        (result.caseId = case.id ∧ result.duplicate = false ∧ result.recovered = true) ∧
        StaysPaid utcnow (postRazorpay env req later).2 case.id paid.eventId := by
  intro later haddressed hnew
  have hgrown : Extends run.session.db later := (handle_growing utcnow).final _ entries
  have hlinked : Linked later case.id paid.paymentLinkId :=
    (linked_of_executed hheld hran hlink hne).of_extends hgrown
  have hstored : ∃ case', later.cases.get? case.id = some case' := by
    have hextends : Extends s.db run.session.db := extends_executeWithGuards hheld hran
    obtain ⟨case', hcase', -⟩ := (hextends.trans hgrown).cases case.id case hheld
    exact ⟨case', hcase'⟩
  obtain ⟨case', hcase'⟩ := hstored
  have hroute : paidCaseId (openSession env.utcnow later) paid = some case.id :=
    paidCaseId_of_addressed hlinked haddressed
  obtain ⟨result, hanswer, hresult, ⟨closed, hclosed, hrecovered⟩, mark, hmark, hid⟩ :=
    first_delivery hdelivery hnew hroute hcase'
  exact ⟨result, hanswer, hresult, staysPaid utcnow hclosed hrecovered hmark hid⟩

/-- The link button on the fresh case. -/
def pressed : GuardRun × Option Outcome :=
  serviceRun (openSession (fun _ => daytime) freshDb) freshCase
    (uiLinkContext "card_expired" freshCase) linkExecutor
    (some (uiLinkMeta "card_expired" freshCase)) "ui-demo"

def pressedOutcome : Outcome :=
  linkExecutor (uiLinkAction freshCase) (reopened freshCase) (uiLinkMeta "card_expired" freshCase)

/-- What `json.loads` makes of the notice of a paid link. -/
def paidLoads (text : String) : Option Json :=
  if text = strayNotice then some strayNoticeJson else none

def paidNotice : PaymentLinkPaidEvent where
  eventId := "evt_plpaid_plink_1"
  paymentLinkId := "plink_1"
  occurredAt := daytime
  raw :=
    [("event", .str "payment_link.paid"),
      ("payload", .obj [("payment_link", .obj [("entity", .obj [("id", .str "plink_1")])])])]

theorem paidNotice_delivery :
    PaidDelivery (unsigned paidLoads) ⟨strayNotice.toUTF8, none⟩ paidNotice where
  key := Utf8.encodes_scalar _
  named := Utf8.encodesOpt_scalar _
  read := ⟨_, ⟨by decide, strayNotice, by decide, rfl⟩, rfl, rfl⟩

/-- The link of the button is paid at once. -/
theorem paid_link_closes_case_button :
    ∃ result, (postRazorpay (unsigned paidLoads) ⟨strayNotice.toUTF8, none⟩
        pressed.1.session.db).1 = .returned (paidBody "payment_link.paid" result) ∧
      (result.caseId = "case_1" ∧ result.duplicate = false ∧ result.recovered = true) ∧
      StaysPaid (fun _ => daytime) (postRazorpay (unsigned paidLoads)
        ⟨strayNotice.toUTF8, none⟩ pressed.1.session.db).2 "case_1" "evt_plpaid_plink_1" := by
  have honly : ∀ e ∈ pressed.1.session.db.history, e.kind = .outcome →
      hasExternalId e "plink_1" = true → e.caseId = "case_1" := by
    intro e he _ _
    have hcases : pressed.1.session.db.history.map (·.caseId) = List.replicate 8 "case_1" := by
      decide
    have hmem := List.mem_map_of_mem (f := fun e : LedgerColumns => e.caseId) he
    rw [hcases] at hmem
    exact List.eq_of_mem_replicate hmem
  have hran : executeWithGuards (openSession (fun _ => daytime) freshDb) freshCase
      (uiLinkContext "card_expired" freshCase) linkExecutor
      (some (uiLinkMeta "card_expired" freshCase)) "ui-demo" =
        .ok (pressed.1, some pressedOutcome) := by
    have hexecuted : pressed.1.result.executed = true := by decide
    have hsecond : pressed.2 = if pressed.1.result.executed = true then some pressedOutcome
        else none := rfl
    rw [if_pos hexecuted] at hsecond
    rw [executeWithGuards_of_returns (by decide), ← hsecond]
    rfl
  have hheld : (openSession (fun _ => daytime) freshDb).Holds freshCase := rfl
  exact paid_link_closes_case (fun _ => daytime) hheld hran paidNotice_delivery (by decide)
    (by decide) [] (.traced rfl honly) rfl

end RecoveryAgent.Api
