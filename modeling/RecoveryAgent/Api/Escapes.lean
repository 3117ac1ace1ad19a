import RecoveryAgent.Api.RoutesWebhooks

/-!
# Webhooks that the route does not survive

Which exceptions leave the webhook route. The faults of a branch are those of its
normaliser, and what the driver and the service behind it refuse, in that order; only a
`ValueError` of the normaliser is answered.
-/

namespace RecoveryAgent.Api

open Library Python Ledger Ingest Runs

/-!
## The services
-/

/-- The case that a paid link is for: the one it names, else the one it was created
for. -/
def linkedCaseId (s : Session) (caseRef : Option String) (plinkId : String) : Option String :=
  match caseRef with
  | some caseId => if caseId = "" then findCaseIdByPlink s plinkId else some caseId
  | none => findCaseIdByPlink s plinkId

theorem ingestRiskEvent_fault (s : Session) (newCaseId : String) (event : RiskEvent) :
    fault (fun _ => Fault.escaped) (ingestRiskEvent s newCaseId event) =
      faultIf (!((s.findProcessed event.eventId).isSome || (s.getCase newCaseId).isNone))
        .escaped := by
  have hingested := ingestRiskEvent_ingested s newCaseId event
  cases hresult : ingestRiskEvent s newCaseId event with
  | error e =>
      rw [hresult] at hingested
      cases hingested with
      | taken unseen refused =>
          have hheld : (s.getCase newCaseId).isNone = false := by
            cases hcase : s.getCase newCaseId with
            | some case => rfl
            | none =>
                obtain ⟨cases', hinsert⟩ :=
                  Table.insert?_of_get?_eq_none (r := openedCase newCaseId event) hcase
                cases refused.symm.trans hinsert
          rw [unseen, hheld]
          rfl
  | ok p =>
      rw [hresult] at hingested
      cases hingested with
      | duplicate seen =>
          rw [seen]
          rfl
      | opened unseen inserted _ =>
          have hfree : s.getCase newCaseId = none := (Table.insert?_eq_some inserted).1
          rw [hfree, Option.isNone_none, Bool.or_true]
          rfl

theorem routeFault_raising {α : Type} {x : Except PyError α} {b : Bool}
    (h : faultOf x = faultIf (!b) .escaped) :
    routeFault (raising x) = faultIf (!b) .escaped := by
  cases x with
  | ok a => exact h
  | error e =>
      cases b with
      | true => cases h
      | false => rfl

/-- A failure is stored when its key can be bound, and it is a duplicate, or its columns can
be bound and its case id is free. -/
theorem routeFault_storeRiskEvent (utf8 : Utf8) (s : Session) (newCaseId : String)
    (event : RiskEvent) :
    routeFault (storeRiskEvent utf8 s newCaseId event) =
      faultIf (!(utf8.encodes event.eventId && ((s.findProcessed event.eventId).isSome ||
        storable utf8 event && (s.getCase newCaseId).isNone))) .escaped := by
  have hbound := routeFault_raising (faultOf_bindRiskEvent utf8 s event)
  have hingested : routeFault ((ingestRiskEvent s newCaseId event).mapError .service) = _ :=
    (fault_mapError _ _).trans (ingestRiskEvent_fault s newCaseId event)
  refine (fault_bind_faultIf hbound fun _ => hingested).trans ?_
  rw [Bool.or_and_distrib_left, Bool.and_assoc]

/-- A paid link is handled when its key can be bound, and it is a duplicate, or the case that
it names can be bound and its case is found. -/
theorem routeFault_storePaid (utf8 : Utf8) (s : Session) (paid : PaymentLinkPaidEvent) :
    routeFault (storePaid utf8 s paid) =
      faultIf (!(utf8.encodes paid.eventId && ((s.findProcessed paid.eventId).isSome ||
        utf8.encodesOpt paid.caseId &&
          ((linkedCaseId s paid.caseId paid.paymentLinkId).bind s.getCase).isSome))) .escaped := by
  have hbound := faultOf_bindPaid utf8 s paid
  have hhandled : routeFault ((handlePaymentLinkPaid s paid).mapError .service) =
      faultIf (!((s.findProcessed paid.eventId).isSome ||
        ((linkedCaseId s paid.caseId paid.paymentLinkId).bind s.getCase).isSome)) .escaped := by
    have hlinked : linkedCaseId s paid.caseId paid.paymentLinkId = paidCaseId s paid := rfl
    have hcases := handlePaymentLinkPaid_handled s paid
    rw [hlinked]
    cases hresult : handlePaymentLinkPaid s paid with
    | error e =>
        rw [hresult] at hcases
        cases hcases with
        | noCaseForLink unseen unresolved =>
            rw [unseen, unresolved]
            rfl
        | caseNotFound unseen resolved absent =>
            rw [unseen, resolved, Option.bind_some, absent]
            rfl
    | ok p =>
        rw [hresult] at hcases
        cases hcases with
        | duplicate seen recovered =>
            rw [seen]
            rfl
        | closed unseen resolved held _ =>
            have hcase : s.getCase _ = some _ := held
            rw [unseen, resolved, Option.bind_some, hcase]
            rfl
  refine (fault_bind_faultIf (routeFault_raising hbound) fun _ => hhandled).trans ?_
  rw [Bool.or_and_distrib_left, Bool.and_assoc]

/-!
## The branches
-/

/-- What the columns of a failure take from its body can be bound. -/
def storableFailure (utf8 : Utf8) (o : Outside) (body : Fields) : Bool :=
  let entity := (paymentEntity body).fields
  let encoded v := utf8.encodesOpt (optStr? v).join
  utf8.encodes (o.str (payerRefOf body entity)) &&
    below o.py storableAmount (failureAmount body entity) &&
      encoded (failureSubscriptionId body entity) && encoded (failureMandateId body entity) &&
        utf8.encodes (o.str (reasonOf body entity))

theorem storableFailure_of_normalised {o : Outside} {body : Fields} {event : RiskEvent}
    (utf8 : Utf8) (h : Normalised o body event) :
    storableFailure utf8 o body = storable utf8 event := by
  have hbelow : below o.py storableAmount (failureAmount body (paymentEntity body).fields) =
      decide (event.amountPaise < storableAmount) := by
    rw [below_of_ok h.amount]
    simp
  simp only [storableFailure, hbelow, ← h.payerRef, ← h.reason, h.subscriptionId, h.mandateId,
    Option.join_some, storable]

/-- What may go wrong with a failed payment. -/
def failureRouteFaults (env : WebhookEnvironment) (db : Db) (body : Fields) :
    List (Option Fault) :=
  let key := failureEventId env.outside body (paymentEntity body).fields
  failureFaults env.outside body ++
    [faultIf (!(env.utf8.encodes key && ((db.processed.get? key).isSome ||
      storableFailure env.utf8 env.outside body && (db.cases.get? env.newCaseId).isNone)))
        .escaped]

/-- What may go wrong with a paid link. -/
def paidRouteFaults (env : WebhookEnvironment) (db : Db) (body : Fields) : List (Option Fault) :=
  let entity := (linkEntity body).fields
  let key := paidEventId env.outside body entity
  let named := paidCaseRef env.outside body entity
  paidFaults env.outside body ++
    [faultIf (!(env.utf8.encodes key && ((db.processed.get? key).isSome ||
      env.utf8.encodesOpt named && ((linkedCaseId (openSession env.utcnow db) named
        (plinkIdOf env.outside body entity)).bind db.cases.get?).isSome))) .escaped]

variable {env : WebhookEnvironment} {req : WebhookRequest} {db : Db} {body : Fields}

theorem routeFault_failureRoute :
    routeFault (failureRoute env body (openSession env.utcnow db)) =
      firstFault (failureRouteFaults env db body) := by
  unfold failureRouteFaults
  rw [firstFault_append, ← faultOf_normaliseRazorpayWebhook, ← routeFault_translated]
  refine fault_bind fun event hevent => ?_
  have hnormalised := normaliseRazorpayWebhook_eq_ok (mapError_eq_ok_iff.1 hevent)
  rw [storableFailure_of_normalised env.utf8 hnormalised, ← hnormalised.eventId, firstFault_cons,
    firstFault_nil, Option.or_none]
  refine Eq.trans ?_
    (routeFault_storeRiskEvent env.utf8 (openSession env.utcnow db) env.newCaseId event)
  cases storeRiskEvent env.utf8 (openSession env.utcnow db) env.newCaseId event <;> rfl

theorem routeFault_paidRoute :
    routeFault (paidRoute env body (openSession env.utcnow db)) =
      firstFault (paidRouteFaults env db body) := by
  unfold paidRouteFaults
  rw [firstFault_append, ← faultOf_normalisePaymentLinkPaid, ← routeFault_translated]
  refine fault_bind fun paid hpaid => ?_
  obtain ⟨hkey, hplink, hcase⟩ := normalisePaymentLinkPaid_eq_ok (mapError_eq_ok_iff.1 hpaid)
  simp only [firstFault_cons, firstFault_nil, Option.or_none]
  rw [← hkey, ← hplink, ← hcase]
  refine Eq.trans ?_ (routeFault_storePaid env.utf8 (openSession env.utcnow db) paid)
  cases storePaid env.utf8 (openSession env.utcnow db) paid <;> rfl

/-!
## The route
-/

/-- What may go wrong with a body, by its event name. -/
def routeFaults (env : WebhookEnvironment) (db : Db) (body : Fields) : List (Option Fault) :=
  if razorpayEventName env.outside body = "payment_link.paid" then paidRouteFaults env db body
  else failureRouteFaults env db body

/-- The requests that end in an exception that nobody catches: the signature cannot
be compared, the bytes are no text, the JSON is no object, or the first fault of the
branch is not a `ValueError` of its normaliser. -/
inductive Escapes (env : WebhookEnvironment) (req : WebhookRequest) (db : Db) : Prop where
  | incomparable (h : Incomparable env.signature req.signature)
  | noText (genuine : verifyRazorpaySignature env.signature req.raw req.signature = .ok true)
      (h : String.fromUTF8? req.raw = none)
  | noObject {v : Json} (read : Reads env req v) (h : v.isObj = false)
  | branch {body : Fields} (read : Reads env req (.obj body))
      (h : firstFault (routeFaults env db body) = some .escaped)

/-- An object is worked on by the branch of its event name. -/
theorem razorpayWebhook_of_reads (read : Reads env req (.obj body)) (s : Session) :
    razorpayWebhook env req s =
      if razorpayEventName env.outside body = "payment_link.paid" then paidRoute env body s
      else failureRoute env body s := by
  simp only [razorpayWebhook, readBody_eq_ok_iff.2 read]
  rfl

theorem razorpayWebhook_of_paid (read : Reads env req (.obj body))
    (hname : razorpayEventName env.outside body = "payment_link.paid") (s : Session) :
    razorpayWebhook env req s = paidRoute env body s := by
  rw [razorpayWebhook_of_reads read, if_pos hname]

theorem routeFault_of_reads (read : Reads env req (.obj body)) :
    routeFault (razorpayWebhook env req (openSession env.utcnow db)) =
      firstFault (routeFaults env db body) := by
  rw [razorpayWebhook_of_reads read, routeFaults]
  split
  · exact routeFault_paidRoute
  · exact routeFault_failureRoute

/-- What is no object has no `get`. -/
theorem routeFault_of_reads_other {v : Json} (read : Reads env req v) (h : v.isObj = false) :
    routeFault (razorpayWebhook env req (openSession env.utcnow db)) = some .escaped := by
  have hdict : demandDict v = .error .attributeError := by
    cases v with
    | obj d => cases h
    | _ => rfl
  unfold razorpayWebhook
  rw [readBody_eq_ok_iff.2 read]
  change routeFault (raising (demandDict v) >>= _) = _
  rw [hdict]
  rfl

theorem routeFault_razorpayWebhook :
    routeFault (razorpayWebhook env req (openSession env.utcnow db)) = some .escaped ↔
      Escapes env req db := by
  cases hread : readBody env req with
  | error e =>
      have hnone : ∀ {v : Json}, ¬ Reads env req v := by
        intro v read
        cases hread.symm.trans (readBody_eq_ok_iff.2 read)
      have hroute : routeFault (razorpayWebhook env req (openSession env.utcnow db)) =
          routeFault (readBody env req) := by
        simp only [razorpayWebhook, hread]
        rfl
      rw [hroute, routeFault_readBody]
      constructor
      · rintro (h | ⟨genuine, h⟩)
        · exact .incomparable h
        · exact .noText genuine h
      · intro h
        cases h with
        | incomparable h => exact Or.inl h
        | noText genuine h => exact Or.inr ⟨genuine, h⟩
        | noObject read _ => exact absurd read hnone
        | branch read _ => exact absurd read hnone
  | ok v =>
      have hreads : Reads env req v := readBody_eq_ok_iff.1 hread
      have hreadable : routeFault (readBody env req) ≠ some .escaped := by
        rw [hread]
        nofun
      rw [Ne, routeFault_readBody, not_or, not_and] at hreadable
      constructor
      · intro hfault
        cases hobj : v.isObj with
        | false => exact .noObject hreads hobj
        | true =>
            rw [Json.eq_obj_of_isObj hobj] at hreads
            rw [routeFault_of_reads hreads] at hfault
            exact .branch hreads hfault
      · intro h
        cases h with
        | incomparable h => exact absurd h hreadable.1
        | noText genuine h => exact absurd h (hreadable.2 genuine)
        | noObject read h => exact routeFault_of_reads_other read h
        | branch read h =>
            rw [routeFault_of_reads read]
            exact h

/-- The answer is a result, or one of the route's own two rejections. -/
def Answered : WebhookAnswer → Prop
  | .returned _ => True
  | .rejected status _ => status = 400 ∨ status = 401
  | .escaped _ => False

/-- The route has answered, and has written nothing unless it returned. -/
structure Settled (env : WebhookEnvironment) (req : WebhookRequest) (db : Db) : Prop where
  answered : Answered (postRazorpay env req db).1
  kept : (∀ body, (postRazorpay env req db).1 ≠ .returned body) → (postRazorpay env req db).2 = db

/-- The route's own rejections have one of two statuses. -/
def OwnStatus {α : Type} (x : Except WebhookError α) : Prop :=
  ∀ status detail, x = .error (.http status detail) → status = 400 ∨ status = 401

theorem OwnStatus.bind {α β : Type} {x : Except WebhookError α} {f : α → Except WebhookError β}
    (hx : OwnStatus x) (hf : ∀ a, OwnStatus (f a)) : OwnStatus (x >>= f) := by
  intro status detail h
  rcases bind_eq_error h with h | ⟨a, -, h⟩
  · exact hx status detail h
  · exact hf a status detail h

theorem ownStatus_raising {α : Type} (x : Except PyError α) : OwnStatus (raising x) := by
  intro status detail h
  cases x <;> cases h

theorem ownStatus_service {α : Type} (x : Except ServiceError α) :
    OwnStatus (x.mapError WebhookError.service) := by
  intro status detail h
  cases x <;> cases h

theorem ownStatus_translated {α : Type} (x : Except PyError α) : OwnStatus (translated x) := by
  intro status detail h
  cases x with
  | ok a => cases h
  | error e =>
      cases e with
      | valueError text =>
          cases h
          exact Or.inl rfl
      | _ => cases h

theorem ownStatus_return {α : Type} (a : α) : OwnStatus (pure a : Except WebhookError α) := nofun

theorem ownStatus_readBody : OwnStatus (readBody env req) := by
  refine (ownStatus_raising _).bind fun genuine => ?_
  intro status detail h
  split at h
  · split at h
    · cases h
    · split at h
      · cases h
        exact Or.inl rfl
      · cases h
  · cases h
    exact Or.inr rfl

theorem ownStatus_storeRiskEvent (utf8 : Utf8) (s : Session) (newCaseId : String)
    (event : RiskEvent) : OwnStatus (storeRiskEvent utf8 s newCaseId event) :=
  (ownStatus_raising _).bind fun _ => ownStatus_service _

theorem ownStatus_storePaid (utf8 : Utf8) (s : Session) (paid : PaymentLinkPaidEvent) :
    OwnStatus (storePaid utf8 s paid) :=
  (ownStatus_raising _).bind fun _ => ownStatus_service _

theorem ownStatus_razorpayWebhook (s : Session) : OwnStatus (razorpayWebhook env req s) := by
  refine ownStatus_readBody.bind fun v => (ownStatus_raising _).bind fun body => ?_
  split
  · refine (ownStatus_translated _).bind fun paid => ?_
    exact (ownStatus_storePaid _ _ _).bind fun result => ownStatus_return _
  · refine (ownStatus_translated _).bind fun event => ?_
    exact (ownStatus_storeRiskEvent _ _ _ _).bind fun result => ownStatus_return _

/-- A delivery is settled exactly when no exception escapes. -/
theorem settled_iff_not_escapes (env : WebhookEnvironment) (req : WebhookRequest) (db : Db) :
    Settled env req db ↔ ¬ Escapes env req db := by
  rw [← routeFault_razorpayWebhook]
  constructor
  · intro hsettled hfault
    obtain ⟨e, he, hkind⟩ := fault_eq_some_iff.1 hfault
    have hanswered := hsettled.answered
    unfold postRazorpay at hanswered
    rw [he] at hanswered
    cases e with
    | http status detail => cases hkind
    | raised e => exact hanswered
    | service e => exact hanswered
  · intro hfault
    cases hroute : razorpayWebhook env req (openSession env.utcnow db) with
    | ok p =>
        refine ⟨?_, ?_⟩
        · simp [postRazorpay, hroute, Answered]
        · intro hnone
          exact absurd (by simp [postRazorpay, hroute]) (hnone p.1)
    | error e =>
        rw [hroute] at hfault
        cases e with
        | http status detail =>
            refine ⟨?_, ?_⟩
            · simp only [postRazorpay, hroute]
              exact ownStatus_razorpayWebhook _ _ _ hroute
            · simp [postRazorpay, hroute]
        | raised e => exact absurd rfl hfault
        | service e => exact absurd rfl hfault

def plainOutside : Outside where
  py := plainConversions
  pydantic := ⟨fun _ => none, fun _ => none, fun _ _ => ""⟩
  now := daytime
  uuidHex := "0a1b2c3d4e5f"

/-- A request without a signature, where unsigned webhooks are allowed. -/
def unsigned (loads : String → Option Json) : WebhookEnvironment where
  signature :=
    { allowUnsignedWebhooks := some "1"
      hmacHexdigest := fun _ _ => ""
      hexdigest_ascii := fun _ _ => rfl }
  outside := plainOutside
  utf8 := .scalar
  loads
  newCaseId := "case_1"
  utcnow := fun _ => daytime

/-- The notice that a link is paid which no case knows. -/
def strayNotice : String :=
  "\x7b\"event\":\"payment_link.paid\",\"payload\":\x7b\"payment_link\":" ++
    "\x7b\"entity\":\x7b\"id\":\"plink_1\"\x7d\x7d\x7d\x7d"

def strayNoticeJson : Json :=
  .obj [("event", .str "payment_link.paid"),
    ("payload", .obj [("payment_link", .obj [("entity", .obj [("id", .str "plink_1")])])])]

/-- The `ValueError` of an unknown link leaves the route. -/
theorem not_settled_stray_notice :
    ¬ Settled (unsigned fun text => if text = strayNotice then some strayNoticeJson else none)
      ⟨strayNotice.toUTF8, none⟩ Db.empty := by
  rintro ⟨hanswered, -⟩
  have hreads : Reads (unsigned fun text => if text = strayNotice then some strayNoticeJson
      else none) ⟨strayNotice.toUTF8, none⟩ strayNoticeJson :=
    ⟨by decide, strayNotice, by decide, rfl⟩
  rw [postRazorpay, razorpayWebhook_of_paid hreads rfl, paidRoute] at hanswered
  simp only [unsigned, storePaid_of_bound (Utf8.encodes_scalar _) (Utf8.encodesOpt_scalar _)]
    at hanswered
  exact hanswered

end RecoveryAgent.Api
