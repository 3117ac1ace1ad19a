import RecoveryAgent.Api.Escapes

/-!
# Webhooks about other events

Whatever is not a paid link is taken for a failed payment: no event name is compared
with `payment.failed`. When another event opens a case, and so takes the key of a
failure of the same payment.
-/

namespace RecoveryAgent.Api

open Library Python Ledger Ingest Runs

variable {env : WebhookEnvironment} {req : WebhookRequest} {db : Db} {body : Fields}

/-- The client is told that the event was seen before. -/
def toldDuplicate (answer : WebhookAnswer) : Prop :=
  ∃ body, answer = .returned body ∧ body.item "duplicate" = .bool true

/-- The delivery opens no case and uses up no event id, and no failed payment that is
delivered later is a duplicate because of it. -/
structure Disregarded (env : WebhookEnvironment) (req : WebhookRequest) (db : Db) : Prop where
  cases : (postRazorpay env req db).2.cases = db.cases
  processed : (postRazorpay env req db).2.processed = db.processed
  later : ∀ (env' : WebhookEnvironment) (req' : WebhookRequest) (body' : Fields),
    Reads env' req' (.obj body') → razorpayEventName env'.outside body' = "payment.failed" →
      toldDuplicate (postRazorpay env' req' (postRazorpay env req db).2).1 →
        toldDuplicate (postRazorpay env' req' db).1

theorem disregarded_of_unchanged (h : (postRazorpay env req db).2 = db) :
    Disregarded env req db := by
  constructor
  · rw [h]
  · rw [h]
  · intro env' req' body' _ _ hduplicate
    rwa [h] at hduplicate

theorem postRazorpay_of_error {e : WebhookError}
    (h : razorpayWebhook env req (openSession env.utcnow db) = .error e) :
    (postRazorpay env req db).2 = db := by
  unfold postRazorpay
  rw [h]
  cases e <;> rfl

theorem postRazorpay_of_ok {answer : Fields} {s : Session}
    (h : razorpayWebhook env req (openSession env.utcnow db) = .ok (answer, s)) :
    (postRazorpay env req db).2 = s.db := by
  unfold postRazorpay
  rw [h]

/-- A failure that is stored was seen, or has opened a case. -/
theorem storeRiskEvent_eq_ok {utf8 : Utf8} {s t : Session} {newCaseId : String}
    {event : RiskEvent} {result : IngestResult}
    (h : storeRiskEvent utf8 s newCaseId event = .ok (result, t)) :
    (s.findProcessed event.eventId).isSome ∧ t = s ∨
      s.findProcessed event.eventId = none ∧
        t.db.cases.rows = s.db.cases.rows ++ [openedCase newCaseId event] := by
  have hingested := ingestRiskEvent_ingested s newCaseId event
  rw [ingested_of_stored h] at hingested
  cases hingested with
  | duplicate seen => exact Or.inl ⟨by rw [seen]; rfl, rfl⟩
  | opened unseen inserted _ => exact Or.inr ⟨unseen, (Table.insert?_eq_some inserted).2⟩

/-- A body that the branch for failures takes without a fault. -/
theorem failureRoute_of_faultless (h : firstFault (failureRouteFaults env db body) = none) :
    ∃ event answer t, normaliseRazorpayWebhook env.outside body = .ok event ∧
      failureRoute env body (openSession env.utcnow db) = .ok (answer, t) ∧
      ∃ result, storeRiskEvent env.utf8 (openSession env.utcnow db) env.newCaseId event =
        .ok (result, t) := by
  rw [← routeFault_failureRoute] at h
  obtain ⟨⟨answer, t⟩, hroute⟩ := fault_eq_none_iff.1 h
  obtain ⟨event, hevent, hstore⟩ := bind_eq_ok hroute
  obtain ⟨⟨result, u⟩, hresult, hreturn⟩ := bind_eq_ok hstore
  cases hreturn
  exact ⟨event, _, _, mapError_eq_ok_iff.1 hevent, hroute, result, hresult⟩

/-- An event that is neither a failure nor a paid link is disregarded exactly when it
is not genuine, when it has a fault that a failed payment may have, or when its key is
on record already. -/
theorem disregarded_iff (env : WebhookEnvironment) (req : WebhookRequest) (db : Db)
    (body : Fields)
    (hparsed : ∃ text, String.fromUTF8? req.raw = some text ∧
      env.loads (if text = "" then "\x7b\x7d" else text) = some (.obj body))
    (hname : razorpayEventName env.outside body ∉ ["", "payment.failed", "payment_link.paid"]) :
    Disregarded env req db ↔
      verifyRazorpaySignature env.signature req.raw req.signature ≠ .ok true ∨
        firstFault (failureRouteFaults env db body) ≠ none ∨
          (db.processed.get?
            (failureEventId env.outside body (paymentEntity body).fields)).isSome := by
  have hother : razorpayEventName env.outside body ≠ "payment_link.paid" := by
    intro heq
    simp [heq] at hname
  by_cases hgenuine : verifyRazorpaySignature env.signature req.raw req.signature = .ok true
  · have hreads : Reads env req (.obj body) := ⟨hgenuine, hparsed⟩
    have hfaults : routeFaults env db body = failureRouteFaults env db body := if_neg hother
    cases hfault : firstFault (failureRouteFaults env db body) with
    | some k =>
        refine iff_of_true ?_ (Or.inr (Or.inl nofun))
        have hroute : routeFault (razorpayWebhook env req (openSession env.utcnow db)) = _ :=
          routeFault_of_reads hreads
        rw [hfaults, hfault] at hroute
        obtain ⟨e, he, -⟩ := fault_eq_some_iff.1 hroute
        exact disregarded_of_unchanged (postRazorpay_of_error he)
    | none =>
        obtain ⟨event, answer, t, hevent, hroute, result, hstore⟩ :=
          failureRoute_of_faultless hfault
        have hkey := (normaliseRazorpayWebhook_eq_ok hevent).eventId
        have hpost : (postRazorpay env req db).2 = t.db := by
          have hbranch := razorpayWebhook_of_reads hreads (openSession env.utcnow db)
          rw [if_neg hother, hroute] at hbranch
          exact postRazorpay_of_ok hbranch
        rw [← hkey]
        rcases storeRiskEvent_eq_ok hstore with ⟨hseen, rfl⟩ | ⟨hunseen, hopened⟩
        · exact iff_of_true (disregarded_of_unchanged hpost) (Or.inr (Or.inr hseen))
        · refine iff_of_false ?_ ?_
          · intro hdisregarded
            have hsame := hdisregarded.cases
            rw [hpost] at hsame
            rw [hsame] at hopened
            exact absurd (congrArg List.length hopened) (by simp [openSession])
          · rintro (hnot | hnot | hseen)
            · exact hnot hgenuine
            · exact hnot rfl
            · have hnone : db.processed.get? event.eventId = none := hunseen
              rw [hnone] at hseen
              cases hseen
  · refine iff_of_true ?_ (Or.inl hgenuine)
    cases hroute : razorpayWebhook env req (openSession env.utcnow db) with
    | error e => exact disregarded_of_unchanged (postRazorpay_of_error hroute)
    | ok p =>
        obtain ⟨v, hread, -⟩ := bind_eq_ok hroute
        exact absurd (readBody_eq_ok_iff.1 hread).genuine hgenuine

/-- The webhook of Razorpay for one payment. -/
def paymentNotice (eventName : String) : String :=
  "\x7b\"event\":\"" ++ eventName ++ "\",\"payload\":\x7b\"payment\":" ++
    "\x7b\"entity\":\x7b\"id\":\"pay_1\"\x7d\x7d\x7d\x7d"

def paymentNoticeJson (eventName : String) : Json :=
  .obj [("event", .str eventName),
    ("payload", .obj [("payment", .obj [("entity", .obj [("id", .str "pay_1")])])])]

/-- What `json.loads` makes of the two notices. -/
def paymentLoads (text : String) : Option Json :=
  if text = paymentNotice "payment.captured" then some (paymentNoticeJson "payment.captured")
  else if text = paymentNotice "payment.failed" then some (paymentNoticeJson "payment.failed")
  else none

def notice (eventName : String) : WebhookRequest := ⟨(paymentNotice eventName).toUTF8, none⟩

/-- A captured payment is not disregarded by an empty ledger. -/
theorem disregarded_iff_captured :
    ¬ Disregarded (unsigned paymentLoads) (notice "payment.captured") Db.empty := by
  rw [disregarded_iff (unsigned paymentLoads) (notice "payment.captured") Db.empty
    [("event", .str "payment.captured"),
      ("payload", .obj [("payment", .obj [("entity", .obj [("id", .str "pay_1")])])])]
    ⟨paymentNotice "payment.captured", by decide, rfl⟩ (by decide)]
  rintro (h | h | h)
  · exact h rfl
  · exact h rfl
  · cases h

/-- A captured payment opens a case, and the failure of the same payment is then
discarded as a duplicate. -/
theorem captured_discards_failed :
    ¬ Disregarded (unsigned paymentLoads) (notice "payment.captured") Db.empty ∧
      (postRazorpay (unsigned paymentLoads) (notice "payment.captured") Db.empty).2.cases.rows.map
        (·.id) = ["case_1"] ∧
      toldDuplicate (postRazorpay (unsigned paymentLoads) (notice "payment.failed")
        (postRazorpay (unsigned paymentLoads) (notice "payment.captured") Db.empty).2).1 := by
  refine ⟨?_, ?_, ?_⟩
  · intro h
    have hcases := congrArg (fun t => t.rows.length) h.cases
    cases hcases
  · decide
  · exact ⟨_, rfl, rfl⟩

end RecoveryAgent.Api
