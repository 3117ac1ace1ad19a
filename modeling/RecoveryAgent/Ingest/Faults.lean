import RecoveryAgent.Ingest.Normalise

/-!
# What the normalisers do with malformed bodies

For each normaliser the faults that a body can have, in the order in which the code
comes to them. A body fails with the first of its faults, and is normalised when it
has none.
-/

namespace RecoveryAgent.Ingest

open Library Python Ledger

/-!
## The steps
-/

/-- `int(v)` is below the bound. -/
def below (py : Conversions) (bound : ℤ) (v : Json) : Bool :=
  match pyInt py v with
  | .ok i => i < bound
  | .error _ => false

/-- What is true and no text. `v or ""` then has no `lower`. -/
def noText (v : Json) : Bool := v.truthy && (Ai.Pydantic.str? v).isNone

/-- The reason that a failure gives. -/
def reasonOf (body entity : Fields) : Json :=
  (entity.item "error_reason").or ((Fields.item (errorOf entity).fields "reason").or
    ((entity.item "status_reason").or ((body.item "raw_error_reason").or (.str "unknown"))))

/-- The payer that a failure names. -/
def payerRefOf (body entity : Fields) : Json :=
  (entity.item "customer_id").or ((Fields.item (notesOf entity).fields "payer_ref").or
    ((body.item "payer_ref").or (.str "payer_unknown")))

def creditDayOf (body entity : Fields) : Json :=
  match body.item "observed_credit_day" with
  | .null => Fields.item (notesOf entity).fields "observed_credit_day"
  | credit => credit

theorem below_of_ok {py : Conversions} {bound i : ℤ} {v : Json} (h : pyInt py v = .ok i) :
    below py bound v = decide (i < bound) := by
  rw [below, h]

theorem faultOf_validated {α : Type} (o : Outside) (title : String) (body : Fields)
    (a : Option α) : faultOf (validated o title body a) = faultIf a.isNone .caught := by
  cases a <;> rfl

theorem failureCreditDay_eq {body entity : Fields} (h : (notesOf entity).isObj = true) :
    failureCreditDay body entity = .ok (creditDayOf body entity) := by
  unfold failureCreditDay creditDayOf
  rw [Json.eq_obj_of_isObj h]
  cases body.item "observed_credit_day" <;> rfl

theorem or_empty_str? (v : Json) : (Ai.Pydantic.str? (v.or (.str ""))).isNone = noText v := by
  unfold noText Json.or
  cases v.truthy with
  | true => rfl
  | false => rfl

theorem faultOf_railFrom (o : Outside) (method : Json) {entity : Fields}
    (h : (notesOf entity).isObj = true) :
    faultOf (railFrom o method entity) = faultIf (noText method) .escaped := by
  unfold railFrom
  rw [Json.eq_obj_of_isObj h, ← or_empty_str? method]
  cases method.or (.str "") with
  | str m =>
      dsimp only
      split
      · rfl
      · split
        · rfl
        · split <;> rfl
  | _ => rfl

/-!
## A failed payment
-/

def failureFaults (o : Outside) (body : Fields) : List (Option Fault) :=
  let entity := (paymentEntity body).fields
  [faultIf (!(failurePayload body).isObj) .escaped,
    faultIf (!(paymentEntity body).isObj) .caught,
    faultIf ((entity.item "error").misfit && !(entity.item "error_reason").truthy) .escaped,
    faultIf ((entity.item "error").misfit && !(entity.item "error_code").truthy) .escaped,
    faultOf (pyInt o.py (failureAmount body entity)),
    faultIf ((entity.item "notes").misfit && !(entity.item "customer_id").truthy) .escaped,
    faultOf (occurredAt o (entity.item "created_at")),
    faultIf (entity.item "notes").misfit .escaped,
    faultIf (noText (entity.item "method")) .escaped,
    faultOf (pyInt o.py (failureAttempt body)),
    faultIf (payerContext? o.pydantic (creditDayOf body entity)
      (body.item "dnd_flag").truthy).isNone .caught,
    faultIf ((optStr? (failureSubscriptionId body entity)).isNone ||
      (optStr? (failureMandateId body entity)).isNone || (optStr? (entity.item "id")).isNone ||
      below o.py 0 (failureAmount body entity) || below o.py 1 (failureAttempt body)) .caught]

/-- A failed payment is normalised up to its first fault. -/
theorem faultOf_normaliseRazorpayWebhook (o : Outside) (body : Fields) :
    faultOf (normaliseRazorpayWebhook o body) = firstFault (failureFaults o body) := by
  unfold normaliseRazorpayWebhook failureFaults
  refine fault_bind_first (Json.faultOf_get ..) fun inPayload hpayload => ?_
  obtain ⟨-, rfl⟩ := Json.get_eq_ok hpayload
  refine fault_bind_first (faultOf_asEntity ..) fun entity hentity => ?_
  have hobj : paymentEntity body = .obj entity := asEntity_eq_ok hentity
  rw [hobj, Json.fields_obj]
  refine fault_bind_first (Json.faultOf_orElse_get ..) fun reason _ => ?_
  refine fault_bind_first (Json.faultOf_orElse_get ..) fun code _ => ?_
  refine fault_bind_first rfl fun amount hamount => ?_
  refine fault_bind_first (Json.faultOf_orElse_get ..) fun payerRef _ => ?_
  refine fault_bind_first rfl fun occurred _ => ?_
  refine fault_bind_first (Json.faultOf_or_get ..) fun inNotes hinNotes => ?_
  have hnotes : (notesOf entity).isObj = true := (Json.get_eq_ok hinNotes).1
  rw [fault_bind_of_ok (failureCreditDay_eq hnotes)]
  refine fault_bind_first (faultOf_railFrom o _ hnotes) fun rail _ => ?_
  refine fault_bind_first rfl fun attempt hattempt => ?_
  refine fault_bind_first (faultOf_validated ..) fun payerContext _ => ?_
  refine (faultOf_validated ..).trans ?_
  rw [below_of_ok hamount, below_of_ok hattempt, firstFault_cons, firstFault_nil, Option.or_none]
  congr 1
  cases optStr? (failureSubscriptionId body entity) with
  | none => simp
  | some subscriptionId =>
      cases optStr? (failureMandateId body entity) with
      | none => simp
      | some mandateId =>
          cases optStr? (entity.item "id") with
          | none => simp
          | some paymentRef =>
              by_cases hvalid : 0 ≤ amount ∧ 1 ≤ attempt
              · simp [hvalid]
              · simp [hvalid]
                omega

theorem validated_eq_ok {α : Type} {o : Outside} {title : String} {body : Fields}
    {a? : Option α} {a : α} (h : validated o title body a? = .ok a) : a? = some a := by
  cases a? with
  | some b =>
      cases h
      rfl
  | none => cases h

/-- What a value is that is looked up only when it is needed. -/
theorem orElse_get_eq_ok {w v u : Json} {key : String} {g : Json → Json}
    (h : (w.orElse do
      let found ← v.get key
      return g found) = .ok u) : u = w.or (g (Fields.item v.fields key)) := by
  unfold Json.orElse at h
  unfold Json.or
  split at h
  · next htrue =>
      cases h
      rw [if_pos htrue]
  · next hfalse =>
      obtain ⟨found, hfound, h⟩ := bind_eq_ok h
      cases h
      rw [if_neg hfalse, (Json.get_eq_ok hfound).2]

/-- What a normalised failure says of the columns of its case. -/
structure Normalised (o : Outside) (body : Fields) (event : RiskEvent) : Prop where
  eventId : event.eventId = failureEventId o body (paymentEntity body).fields
  amount : pyInt o.py (failureAmount body (paymentEntity body).fields) = .ok event.amountPaise
  payerRef : event.payerRef = o.str (payerRefOf body (paymentEntity body).fields)
  subscriptionId : optStr? (failureSubscriptionId body (paymentEntity body).fields) =
    some event.subscriptionId
  mandateId : optStr? (failureMandateId body (paymentEntity body).fields) = some event.mandateId
  reason : event.rawErrorReason = o.str (reasonOf body (paymentEntity body).fields)

theorem normaliseRazorpayWebhook_eq_ok {o : Outside} {body : Fields} {event : RiskEvent}
    (h : normaliseRazorpayWebhook o body = .ok event) : Normalised o body event := by
  obtain ⟨inPayload, hpayload, h⟩ := bind_eq_ok h
  obtain ⟨-, rfl⟩ := Json.get_eq_ok hpayload
  obtain ⟨entity, hentity, h⟩ := bind_eq_ok h
  have hobj : paymentEntity body = .obj entity := asEntity_eq_ok hentity
  obtain ⟨reason, hreason, h⟩ := bind_eq_ok h
  obtain ⟨code, -, h⟩ := bind_eq_ok h
  obtain ⟨amount, hamount, h⟩ := bind_eq_ok h
  obtain ⟨payerRef, hpayerRef, h⟩ := bind_eq_ok h
  obtain ⟨occurred, -, h⟩ := bind_eq_ok h
  obtain ⟨inNotes, -, h⟩ := bind_eq_ok h
  obtain ⟨credit, -, h⟩ := bind_eq_ok h
  obtain ⟨rail, -, h⟩ := bind_eq_ok h
  obtain ⟨attempt, -, h⟩ := bind_eq_ok h
  obtain ⟨payerContext, -, h⟩ := bind_eq_ok h
  have hsome := validated_eq_ok h
  obtain ⟨subscriptionId, hsubscription, hsome⟩ := Option.bind_eq_some_iff.1 hsome
  obtain ⟨mandateId, hmandate, hsome⟩ := Option.bind_eq_some_iff.1 hsome
  obtain ⟨paymentRef, -, hsome⟩ := Option.bind_eq_some_iff.1 hsome
  by_cases hvalid : 0 ≤ amount ∧ 1 ≤ attempt
  · rw [dif_pos hvalid] at hsome
    cases hsome
    constructor
    all_goals rw [hobj, Json.fields_obj]
    · rw [hamount]
      exact congrArg Except.ok (Int.toNat_of_nonneg hvalid.1).symm
    · exact congrArg o.str (orElse_get_eq_ok hpayerRef)
    · exact hsubscription
    · exact hmandate
    · exact congrArg o.str (orElse_get_eq_ok hreason)
  · rw [dif_neg hvalid] at hsome
    cases hsome

/-!
## A paid Payment Link
-/

/-- The payment next to the link. -/
def paymentBeside (body : Fields) : Json :=
  paidPayment (Fields.item (paidPayload body).fields "payment")

/-- The amount that a paid link was paid with, as far as it is one. -/
def paidAmountOf (body entity : Fields) (payment : Json) : Json :=
  (entity.item "amount_paid").or ((entity.item "amount").or
    ((Fields.item payment.fields "amount").or ((body.item "amount_paise").or (.int 0))))

def paidFaults (o : Outside) (body : Fields) : List (Option Fault) :=
  let entity := (linkEntity body).fields
  let payment := paymentBeside body
  [faultIf (!(paidPayload body).isObj) .escaped,
    faultIf (!(linkEntity body).isObj) .caught,
    faultIf (!startsWith "plink_" (plinkIdOf o body entity)) .caught,
    faultIf (entity.item "notes").misfit .escaped,
    faultIf (!payment.isObj && !(entity.item "amount_paid").truthy &&
      !(entity.item "amount").truthy) .escaped,
    faultOf (pyInt o.py (paidAmountOf body entity payment)),
    faultOf (occurredAt o ((entity.item "updated_at").or (entity.item "created_at"))),
    faultIf (!payment.isObj) .escaped,
    faultIf (below o.py 0 (paidAmountOf body entity payment)) .caught]

def paidCaseRef (o : Outside) (body entity : Fields) : Option String :=
  optText o ((Fields.item (notesOf entity).fields "case_id").or (body.item "case_id"))

theorem faultOf_demandPlink (plinkId : String) :
    faultOf (demandPlink plinkId) = faultIf (!startsWith "plink_" plinkId) .caught := by
  unfold demandPlink faultIf
  cases startsWith "plink_" plinkId <;> rfl

theorem faultOf_paidAmount (body entity : Fields) (payment : Json) :
    faultOf (paidAmount body entity payment) =
      faultIf (!payment.isObj && !(entity.item "amount_paid").truthy &&
        !(entity.item "amount").truthy) .escaped := by
  unfold paidAmount
  rw [Json.faultOf_orElse, Json.faultOf_orElse]
  cases (entity.item "amount_paid").truthy with
  | true => simp [faultIf]
  | false =>
      cases (entity.item "amount").truthy with
      | true => simp [faultIf]
      | false => cases payment <;> simp [faultIf, Json.get, Json.isObj, PyError.fault, faultOf]

theorem paidAmount_eq_ok {body entity : Fields} {payment v : Json}
    (h : paidAmount body entity payment = .ok v) : v = paidAmountOf body entity payment := by
  unfold paidAmount Json.orElse at h
  unfold paidAmountOf Json.or
  split at h
  · next hpaid =>
      cases h
      rw [if_pos hpaid]
  · next hpaid =>
      rw [if_neg hpaid]
      split at h
      · next hamount =>
          cases h
          rw [if_pos hamount]
      · next hamount =>
          obtain ⟨found, hfound, h⟩ := bind_eq_ok h
          cases h
          rw [if_neg hamount, (Json.get_eq_ok hfound).2]
          rfl

theorem faultOf_paidCurrency (entity : Fields) {payment : Json} (h : payment.isObj = true) :
    faultOf (paidCurrency entity payment) = none := by
  unfold paidCurrency
  rw [Json.faultOf_orElse, Json.eq_obj_of_isObj h]
  split <;> rfl

theorem faultOf_normalisePaymentLinkPaid (o : Outside) (body : Fields) :
    faultOf (normalisePaymentLinkPaid o body) = firstFault (paidFaults o body) := by
  unfold normalisePaymentLinkPaid paidFaults
  refine fault_bind_first (Json.faultOf_get ..) fun inPayload hpayload => ?_
  obtain ⟨hisObj, rfl⟩ := Json.get_eq_ok hpayload
  refine fault_bind_first (faultOf_asEntity ..) fun entity hentity => ?_
  have hobj : linkEntity body = .obj entity := asEntity_eq_ok hentity
  rw [hobj, Json.fields_obj]
  have hget : (paidPayload body).get "payment" =
      .ok (Fields.item (paidPayload body).fields "payment") := by
    rw [Json.eq_obj_of_isObj hisObj]
    rfl
  rw [fault_bind_of_ok hget]
  refine fault_bind_first (faultOf_demandPlink _) fun _ _ => ?_
  refine fault_bind_first (Json.faultOf_or_get ..) fun inNotes _ => ?_
  refine fault_bind_first (faultOf_paidAmount ..) fun amountValue hvalue => ?_
  obtain rfl := paidAmount_eq_ok hvalue
  refine fault_bind_first rfl fun amount hamount => ?_
  refine fault_bind_first rfl fun occurred _ => ?_
  refine fault_bind_first (Json.faultOf_get ..) fun inPayment hinPayment => ?_
  obtain ⟨currency, hcurrency⟩ :=
    fault_eq_none_iff.1 (faultOf_paidCurrency entity (Json.get_eq_ok hinPayment).1)
  rw [fault_bind_of_ok hcurrency]
  have hbelow : below o.py 0 (paidAmountOf body entity (paymentBeside body)) =
      decide (amount < 0) := below_of_ok hamount
  refine (faultOf_validated ..).trans ?_
  rw [hbelow, firstFault_cons, firstFault_nil, Option.or_none]
  congr 1
  by_cases hvalid : 0 ≤ amount
  · simp [hvalid]
  · simp [hvalid]
    omega

theorem normalisePaymentLinkPaid_eq_ok {o : Outside} {body : Fields}
    {paid : PaymentLinkPaidEvent} (h : normalisePaymentLinkPaid o body = .ok paid) :
    paid.eventId = paidEventId o body (linkEntity body).fields ∧
      paid.paymentLinkId = plinkIdOf o body (linkEntity body).fields ∧
        paid.caseId = paidCaseRef o body (linkEntity body).fields := by
  obtain ⟨inPayload, hpayload, h⟩ := bind_eq_ok h
  obtain ⟨-, rfl⟩ := Json.get_eq_ok hpayload
  obtain ⟨entity, hentity, h⟩ := bind_eq_ok h
  have hobj : linkEntity body = .obj entity := asEntity_eq_ok hentity
  obtain ⟨paymentInPayload, -, h⟩ := bind_eq_ok h
  obtain ⟨_, -, h⟩ := bind_eq_ok h
  obtain ⟨inNotes, hinNotes, h⟩ := bind_eq_ok h
  obtain ⟨amountValue, -, h⟩ := bind_eq_ok h
  obtain ⟨amount, -, h⟩ := bind_eq_ok h
  obtain ⟨occurred, -, h⟩ := bind_eq_ok h
  obtain ⟨inPayment, -, h⟩ := bind_eq_ok h
  obtain ⟨currency, -, h⟩ := bind_eq_ok h
  have hsome := validated_eq_ok h
  rw [hobj, Json.fields_obj]
  by_cases hvalid : 0 ≤ amount
  · rw [if_pos hvalid] at hsome
    cases hsome
    refine ⟨rfl, rfl, ?_⟩
    rw [paidCaseRef, ← (Json.get_eq_ok hinNotes).2]
  · rw [if_neg hvalid] at hsome
    cases hsome

end RecoveryAgent.Ingest
