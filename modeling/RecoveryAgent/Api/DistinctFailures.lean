import RecoveryAgent.Api.OtherEvents

/-!
# Different failures and their keys

A failure without an `event_id` is remembered under a key that is made of its payment: the
id of the payment, or else the text of its order. Two payments without an id share the key
when their orders have the same text, and then the second one is taken for a duplicate of
the first. A paid link without an id gets a fresh key in its place.
-/

namespace RecoveryAgent.Api

open Library Python Ledger Ingest Runs

def paymentId (o : Outside) (body : Fields) : Option String :=
  let entity := (paymentEntity body).fields
  if (entity.item "id").truthy then some (o.str (entity.item "id")) else none

/-- The text that stands for a payment without an id. -/
def orderText (o : Outside) (body : Fields) : String :=
  o.str (((paymentEntity body).fields.get? "order_id").getD (.str "unknown"))

/-- Two failures are about different payments: their ids differ, or one has no id and they
differ in the order, the amount, the customer or the time. -/
def DifferentPayments (o : Outside) (b c : Fields) : Prop :=
  let p := (paymentEntity b).fields
  let q := (paymentEntity c).fields
  paymentId o b ≠ paymentId o c ∨
    ((paymentId o b = none ∨ paymentId o c = none) ∧
      (p.item "order_id" ≠ q.item "order_id" ∨ failureAmount b p ≠ failureAmount c q ∨
        failurePayerRef b p ≠ failurePayerRef c q ∨ p.item "created_at" ≠ q.item "created_at"))

/-- The driver can bind the key of a failure, and the columns of its case. -/
def Storable (utf8 : Utf8) (o : Outside) (body : Fields) : Prop :=
  utf8.encodes (failureEventId o body (paymentEntity body).fields) = true ∧
    storableFailure utf8 o body = true

/-!
## The derived keys
-/

/-- The key that is made of a payment. -/
def derivedKey (id : Option String) (order : String) : String :=
  match id with
  | some id => "evt_fail_" ++ id
  | none => "rzp_" ++ order

/-- Texts differ that differ at a place in front of where they are continued. -/
theorem append_ne_append {before before' : String} {n : ℕ}
    (h : before.toList[n]? ≠ before'.toList[n]?) (hn : n < before.toList.length)
    (hn' : n < before'.toList.length) (s t : String) : before ++ s ≠ before' ++ t := by
  intro heq
  have hchars := congrArg (fun text => text.toList[n]?) heq
  simp only [String.toList_append, List.getElem?_append_left hn,
    List.getElem?_append_left hn'] at hchars
  exact h hchars

/-- A key identifies the payment it is made of, as far as the payment has an id, and else
the text of its order. -/
theorem derivedKey_eq_iff {id id' : Option String} {order order' : String} :
    derivedKey id order = derivedKey id' order' ↔ id = id' ∧ (id = none → order = order') := by
  cases id with
  | some i =>
      cases id' with
      | some j => simp [derivedKey]
      | none =>
          refine iff_of_false (append_ne_append (n := 0) ?_ ?_ ?_ i order') nofun
          all_goals decide
  | none =>
      cases id' with
      | some j =>
          refine iff_of_false (append_ne_append (n := 0) ?_ ?_ ?_ order j) nofun
          all_goals decide
      | none => simp [derivedKey]

/-- The key of an accepted failure without an `event_id`. -/
theorem eventId_of_derived {o : Outside} {body : Fields} {event : RiskEvent}
    (h : normaliseRazorpayWebhook o body = .ok event)
    (hderived : (body.item "event_id").truthy = false) :
    event.eventId = derivedKey (paymentId o body) (orderText o body) := by
  rw [(normaliseRazorpayWebhook_eq_ok h).eventId, failureEventId, hderived]
  unfold paymentId
  cases htruthy : ((paymentEntity body).fields.item "id").truthy with
  | false => simp [htruthy, derivedKey, orderText]
  | true => simp [htruthy, derivedKey]

theorem eventId_of_paid {o : Outside} {body : Fields} {paid : PaymentLinkPaidEvent}
    (h : normalisePaymentLinkPaid o body = .ok paid)
    (hderived : (body.item "event_id").truthy = false) :
    ∃ text, paid.eventId = "evt_plpaid_" ++ text := by
  rw [(normalisePaymentLinkPaid_eq_ok h).1, paidEventId, hderived]
  cases htruthy : ((linkEntity body).fields.item "id").truthy
  · exact ⟨_, rfl⟩
  · exact ⟨_, rfl⟩

theorem derivedKey_ne_paid (id : Option String) (order text : String) :
    derivedKey id order ≠ "evt_plpaid_" ++ text := by
  cases id with
  | some i =>
      apply append_ne_append (n := 4)
      all_goals decide
  | none =>
      apply append_ne_append (n := 0)
      all_goals decide

theorem storable_iff {utf8 : Utf8} {o : Outside} {body : Fields} {event : RiskEvent}
    (h : normaliseRazorpayWebhook o body = .ok event) :
    Storable utf8 o body ↔ utf8.encodes event.eventId = true ∧ storable utf8 event = true := by
  have hnormalised := normaliseRazorpayWebhook_eq_ok h
  rw [Storable, storableFailure_of_normalised utf8 hnormalised, hnormalised.eventId]

/-!
## Two failures in a row
-/

/-- Two failures, ingested one after the other, each open a case of their own. -/
def OpensTwoCases (utf8 : Utf8) (utcnow : ℕ → DateTime) (db : Db) (a b : String × RiskEvent) :
    Prop :=
  ∃ result s result' s',
    storeRiskEvent utf8 (openSession utcnow db) a.1 a.2 = .ok (result, s) ∧
      storeRiskEvent utf8 (openSession utcnow s.db) b.1 b.2 = .ok (result', s') ∧
        result.duplicate = false ∧ result'.duplicate = false ∧
          s'.db.cases.rows = db.cases.rows ++ [openedCase a.1 a.2, openedCase b.1 b.2]

/-- The event is new and the made-up id is free. -/
structure Unseen (db : Db) (a : String × RiskEvent) : Prop where
  event : db.processed.get? a.2.eventId = none
  case : db.cases.get? a.1 = none

section

variable {utf8 : Utf8} {utcnow : ℕ → DateTime} {db : Db} {a : String × RiskEvent}

variable (utcnow) in
/-- A new failure that can be bound opens a case and is remembered. -/
theorem storeRiskEvent_of_unseen (h : Unseen db a) (hkey : utf8.encodes a.2.eventId = true)
    (hbound : storable utf8 a.2 = true) :
    ∃ result s, storeRiskEvent utf8 (openSession utcnow db) a.1 a.2 = .ok (result, s) ∧
      result.duplicate = false ∧ s.db.cases.rows = db.cases.rows ++ [openedCase a.1 a.2] ∧
        (∀ caseId ≠ a.1, s.db.cases.get? caseId = db.cases.get? caseId) ∧
          (s.db.processed.get? a.2.eventId).isSome ∧
            ∀ eventId ≠ a.2.eventId, s.db.processed.get? eventId = db.processed.get? eventId := by
  have hstore := storeRiskEvent_of_bound (s := openSession utcnow db) a.1 hkey (Or.inr hbound)
  have hingested := ingestRiskEvent_ingested (openSession utcnow db) a.1 a.2
  rw [hstore]
  generalize ingestRiskEvent (openSession utcnow db) a.1 a.2 = result at hingested ⊢
  cases hingested with
  | duplicate seen =>
      have hnone := h.event
      rw [show db.processed.get? a.2.eventId = _ from seen] at hnone
      cases hnone
  | taken unseen refused =>
      obtain ⟨cases, hinsert⟩ := Table.insert?_of_get?_eq_none
        (r := openedCase a.1 a.2) (t := db.cases) h.case
      rw [show db.cases.insert? (openedCase a.1 a.2) = none from refused] at hinsert
      cases hinsert
  | opened unseen inserted remembered =>
      refine ⟨_, _, rfl, rfl, (Table.insert?_eq_some inserted).2, ?_, ?_, ?_⟩
      · exact fun caseId hne => Table.get?_insert?_of_ne inserted hne
      · exact Option.isSome_of_eq_some (Table.get?_insert?_self remembered)
      · exact fun eventId hne => Table.get?_insert?_of_ne remembered hne

/-- What cannot be bound is not stored. -/
theorem storeRiskEvent_of_unbound (h : Unseen db a)
    (hunbound : ¬(utf8.encodes a.2.eventId = true ∧ storable utf8 a.2 = true)) :
    ∀ x, storeRiskEvent utf8 (openSession utcnow db) a.1 a.2 ≠ .ok x := by
  have hunseen : ((openSession utcnow db).findProcessed a.2.eventId).isSome = false :=
    Option.isSome_eq_false_iff.2 (Option.isNone_iff_eq_none.2 h.event)
  have hrefused : (utf8.encodes a.2.eventId && storable utf8 a.2) = false :=
    Bool.eq_false_iff.2 fun hboth => hunbound (Bool.and_eq_true_iff.1 hboth)
  have hfault := faultOf_bindRiskEvent utf8 (openSession utcnow db) a.2
  rw [hunseen, Bool.false_or, hrefused] at hfault
  obtain ⟨e, hbound, -⟩ := fault_eq_some_iff.1 hfault
  intro x hstore
  rw [storeRiskEvent, hbound] at hstore
  cases hstore

/-- Both of two new failures open a case exactly when their keys differ and they can be
bound. -/
theorem opensTwoCases_iff {b : String × RiskEvent} (ha : Unseen db a) (hb : Unseen db b)
    (hids : a.1 ≠ b.1) :
    OpensTwoCases utf8 utcnow db a b ↔ a.2.eventId ≠ b.2.eventId ∧
      (utf8.encodes a.2.eventId = true ∧ storable utf8 a.2 = true) ∧
        utf8.encodes b.2.eventId = true ∧ storable utf8 b.2 = true := by
  by_cases hbound : utf8.encodes a.2.eventId = true ∧ storable utf8 a.2 = true
  · obtain ⟨result, s, hstore, hnew, hrows, hcases, hseen, hprocessed⟩ :=
      storeRiskEvent_of_unseen utcnow ha hbound.1 hbound.2
    by_cases hkeys : a.2.eventId = b.2.eventId
    · refine iff_of_false ?_ fun h => h.1 hkeys
      rintro ⟨_, s₁, _, s₂, hfirst, hsecond, -, -, hboth⟩
      rw [hstore] at hfirst
      cases hfirst
      rw [hkeys] at hseen
      rcases storeRiskEvent_eq_ok hsecond with ⟨-, rfl⟩ | ⟨hunseen, -⟩
      · have hlength := congrArg List.length (hrows.symm.trans hboth)
        simp at hlength
      · rw [show s.db.processed.get? b.2.eventId = none from hunseen] at hseen
        cases hseen
    · have hb' : Unseen s.db b :=
        ⟨(hprocessed _ (Ne.symm hkeys)).trans hb.event, (hcases _ hids.symm).trans hb.case⟩
      by_cases hbound' : utf8.encodes b.2.eventId = true ∧ storable utf8 b.2 = true
      · refine iff_of_true ?_ ⟨hkeys, hbound, hbound'⟩
        obtain ⟨result', s', hstore', hnew', hrows', -⟩ :=
          storeRiskEvent_of_unseen utcnow hb' hbound'.1 hbound'.2
        refine ⟨result, s, result', s', hstore, hstore', hnew, hnew', ?_⟩
        rw [hrows', hrows, List.append_assoc]
        rfl
      · refine iff_of_false ?_ fun h => hbound' h.2.2
        rintro ⟨_, s₁, _, s₂, hfirst, hsecond, -⟩
        rw [hstore] at hfirst
        cases hfirst
        exact storeRiskEvent_of_unbound hb' hbound' _ hsecond
  · refine iff_of_false ?_ fun h => hbound h.2.1
    rintro ⟨_, s₁, _, s₂, hfirst, -⟩
    exact storeRiskEvent_of_unbound ha hbound _ hfirst

end

/-!
## Failures of different payments
-/

/-- Two accepted failures of different payments, neither with an `event_id`, have different
keys and open two cases exactly when one of the payments has an id or the texts of their
orders differ, and both can be bound. The key of a failure is never that of a paid link. -/
theorem distinct_failures_iff (utf8 : Utf8) (o : Outside) (now : DateTime) (uuidHex : String)
    {b c : Fields} {e f : RiskEvent} (he : normaliseRazorpayWebhook o b = .ok e)
    (hf : normaliseRazorpayWebhook { o with now, uuidHex } c = .ok f)
    (hb : (b.item "event_id").truthy = false) (hc : (c.item "event_id").truthy = false)
    (hdifferent : DifferentPayments o b c) (utcnow : ℕ → DateTime) {db : Db} {x y : String}
    (hx : Unseen db (x, e)) (hy : Unseen db (y, f)) (hxy : x ≠ y) :
    (e.eventId ≠ f.eventId ∧ OpensTwoCases utf8 utcnow db (x, e) (y, f) ↔
      ¬(paymentId o b = none ∧ paymentId o c = none ∧ orderText o b = orderText o c) ∧
        Storable utf8 o b ∧ Storable utf8 o c) ∧
    ∀ o' p paid, normalisePaymentLinkPaid o' p = .ok paid →
      (p.item "event_id").truthy = false → e.eventId ≠ paid.eventId := by
  have hekey := eventId_of_derived he hb
  have hfkey := eventId_of_derived hf hc
  change f.eventId = derivedKey (paymentId o c) (orderText o c) at hfkey
  have hkeys : e.eventId ≠ f.eventId ↔
      ¬(paymentId o b = none ∧ paymentId o c = none ∧ orderText o b = orderText o c) := by
    rw [hekey, hfkey, ne_eq, derivedKey_eq_iff, not_iff_not]
    constructor
    · rintro ⟨hids, horders⟩
      have hnone : paymentId o b = none := by
        rcases hdifferent with hne | ⟨hnone | hnone, -⟩
        · exact absurd hids hne
        · exact hnone
        · exact hids.trans hnone
      exact ⟨hnone, hids.symm.trans hnone, horders hnone⟩
    · rintro ⟨hnone, hnone', horders⟩
      exact ⟨hnone.trans hnone'.symm, fun _ => horders⟩
  have hebound : Storable utf8 o b ↔ utf8.encodes e.eventId = true ∧ storable utf8 e = true :=
    storable_iff he
  have hfbound : Storable utf8 o c ↔ utf8.encodes f.eventId = true ∧ storable utf8 f = true :=
    storable_iff (o := { o with now, uuidHex }) hf
  refine ⟨?_, ?_⟩
  · rw [opensTwoCases_iff hx hy hxy, ← hkeys, hebound, hfbound]
    exact ⟨And.right, fun h => ⟨h.1, h⟩⟩
  · intro o' p paid hpaid hp
    obtain ⟨text, htext⟩ := eventId_of_paid hpaid hp
    rw [hekey, htext]
    exact derivedKey_ne_paid _ _ _

def failedPayment (payment : Fields) : Fields :=
  [("event", .str "payment.failed"),
    ("payload", .obj [("payment", .obj [("entity", .obj payment)])])]

/-- What the two failures are normalised to. -/
def failedEvent (eventId : String) (paymentRef : Option String) (amountPaise : ℕ) : RiskEvent where
  eventId
  source := .razorpayWebhook
  occurredAt := daytime
  merchantId := "merch_unknown"
  payerRef := "payer_unknown"
  paymentRef
  amountPaise
  rail := .card
  rawErrorReason := "unknown"

theorem distinct_failures_iff_ids :
    OpensTwoCases .scalar (fun _ => daytime) Db.empty
      ("case_1", failedEvent "evt_fail_pay_1" (some "pay_1") 100)
      ("case_2", failedEvent "evt_fail_pay_2" (some "pay_2") 100) := by
  have hfirst : Unseen Db.empty ("case_1", failedEvent "evt_fail_pay_1" (some "pay_1") 100) :=
    ⟨rfl, rfl⟩
  have hsecond : Unseen Db.empty ("case_2", failedEvent "evt_fail_pay_2" (some "pay_2") 100) :=
    ⟨rfl, rfl⟩
  have hiff := (distinct_failures_iff .scalar plainOutside daytime "0a1b2c3d4e5f"
    (b := failedPayment [("id", .str "pay_1"), ("amount", .int 100)])
    (c := failedPayment [("id", .str "pay_2"), ("amount", .int 100)]) rfl rfl rfl rfl
    (Or.inl (by decide)) (fun _ => daytime) hfirst hsecond (by decide)).1
  refine (hiff.2 ⟨by decide, ?_, ?_⟩).2
  all_goals
    refine ⟨Utf8.encodes_scalar _, ?_⟩
    simp only [storableFailure, Utf8.encodes_scalar, Utf8.encodesOpt_scalar, Bool.true_and,
      Bool.and_true]
    decide

/-- Two customers fail to pay different amounts, and the second failure is taken for a
duplicate of the first. -/
theorem different_failures_merged :
    let b := failedPayment [("amount", .int 100), ("customer_id", .str "cust_1")]
    let c := failedPayment [("amount", .int 200), ("customer_id", .str "cust_2")]
    DifferentPayments plainOutside b c ∧
      ∃ e f, normaliseRazorpayWebhook plainOutside b = .ok e ∧
        normaliseRazorpayWebhook plainOutside c = .ok f ∧ e.eventId = f.eventId ∧
          ¬OpensTwoCases .scalar (fun _ => daytime) Db.empty ("case_1", e) ("case_2", f) := by
  intro b c
  refine ⟨Or.inr ⟨Or.inl rfl, Or.inr (Or.inl ?_)⟩, _, _, rfl, rfl, rfl, ?_⟩
  · rintro ⟨⟩
  · rw [opensTwoCases_iff ⟨rfl, rfl⟩ ⟨rfl, rfl⟩ (by decide)]
    exact fun h => h.1 rfl

end RecoveryAgent.Api
