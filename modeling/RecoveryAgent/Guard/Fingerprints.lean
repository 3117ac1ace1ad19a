import RecoveryAgent.Guard.Gates
import RecoveryAgent.Python.Digits

/-!
# What a fingerprint says

A fingerprint joins four fields to the id of a case by colons, without escaping them. Of
the four only the last may contain a colon, so the fields can be read off from the left.
The fingerprint of an action is the same when it is composed from the live action and
when it is composed from the dump in the ledger.
-/

namespace RecoveryAgent.Guard

open Python Policy Ledger

/-!
## Reading a fingerprint
-/

/-- The text of a day is `None`, or digits after at most one sign. -/
theorem optDayText (d : Option ℤ) :
    ((Json.ofOptInt d).text?.getD "").toList =
      match d with
      | none => "None".toList
      | some (.ofNat n) => Nat.toDigits 10 n
      | some (.negSucc n) => '-' :: Nat.toDigits 10 (n + 1) := by
  cases d with
  | none => rfl
  | some i =>
      have htext := toString_int i
      cases i with
      | ofNat n => exact htext
      | negSucc n => exact htext

theorem colon_not_mem_optDayText (d : Option ℤ) :
    ':' ∉ ((Json.ofOptInt d).text?.getD "").toList := by
  rw [optDayText]
  match d with
  | none => decide
  | some (.ofNat n) => exact not_mem_toDigits (by decide) n
  | some (.negSucc n) =>
      exact fun hmem => not_mem_toDigits (by decide) (n + 1)
        ((List.mem_cons.1 hmem).resolve_left (by decide))

/-- No two days have one text. -/
theorem optDayText_injective :
    Function.Injective fun d : Option ℤ => ((Json.ofOptInt d).text?.getD "").toList := by
  intro d e h
  simp only [optDayText] at h
  match d, e with
  | none, none => rfl
  | none, some (.ofNat n) =>
      exact absurd h (ne_toDigits (c := 'N') (by decide) (by decide) n)
  | none, some (.negSucc n) => exact absurd (List.cons.inj h).1 (by decide)
  | some (.ofNat n), none =>
      exact absurd h.symm (ne_toDigits (c := 'N') (by decide) (by decide) n)
  | some (.ofNat n), some (.ofNat m) => rw [toDigits_injective h]
  | some (.ofNat n), some (.negSucc m) =>
      exact absurd h.symm (ne_toDigits (c := '-') List.mem_cons_self (by decide) n)
  | some (.negSucc n), none => exact absurd (List.cons.inj h).1 (by decide)
  | some (.negSucc n), some (.ofNat m) =>
      exact absurd h (ne_toDigits (c := '-') List.mem_cons_self (by decide) m)
  | some (.negSucc n), some (.negSucc m) =>
      rw [Nat.succ.inj (toDigits_injective (List.cons.inj h).2)]

theorem colon_not_mem_verb (v : ActionVerb) : ':' ∉ v.value.toList := by
  cases v <;> decide

theorem verb_value_injective : Function.Injective ActionVerb.value := by
  intro v w h
  have hsame := congrArg ActionVerb.ofValue? h
  rw [ActionVerb.ofValue?_value, ActionVerb.ofValue?_value] at hsame
  exact Option.some.inj hsame

theorem colon_not_mem_channel (c : Channel) : ':' ∉ c.value.toList := by
  cases c <;> decide

theorem channel_value_injective : Function.Injective Channel.value := by
  intro c d h
  have hsame := congrArg Channel.ofValue? h
  rw [Channel.ofValue?_value, Channel.ofValue?_value] at hsame
  exact Option.some.inj hsame

/-- What a fingerprint is made of beside the case. -/
structure FingerprintFields where
  verb : ActionVerb
  dayOffset : Option ℤ
  channel : Channel
  reasonCode : String
  deriving DecidableEq, Repr

def FingerprintFields.compose (caseId : String) (k : FingerprintFields) : String :=
  composeFingerprint caseId k.verb.value (.ofOptInt k.dayOffset) k.channel.value k.reasonCode

/-- On one case the fields can be read off the fingerprint. -/
theorem compose_injective (caseId : String) :
    Function.Injective (FingerprintFields.compose caseId) := by
  rintro ⟨verb, day, channel, reason⟩ ⟨verb', day', channel', reason'⟩ h
  have hlist := congrArg String.toList h
  simp only [FingerprintFields.compose, composeFingerprint, String.toList_append,
    List.append_assoc, List.append_cancel_left_eq] at hlist
  obtain ⟨hverb, hafter⟩ := split_at_separator (colon_not_mem_verb verb)
    (colon_not_mem_verb verb') hlist
  obtain ⟨hday, hafter⟩ := split_at_separator (colon_not_mem_optDayText day)
    (colon_not_mem_optDayText day') hafter
  obtain ⟨hchannel, hreason⟩ := split_at_separator (colon_not_mem_channel channel)
    (colon_not_mem_channel channel') hafter
  rw [verb_value_injective (String.toList_injective hverb), optDayText_injective hday,
    channel_value_injective (String.toList_injective hchannel), String.toList_injective hreason]

/-- On one case the fingerprint of an action fixes its verb, its day, its channel and its
reason. -/
theorem fields_of_actionFingerprint {caseId : String} {a b : Action}
    (h : actionFingerprint caseId a = actionFingerprint caseId b) :
    a.verb = b.verb ∧ a.dayOffset = b.dayOffset ∧ a.channel = b.channel ∧
      a.reasonCode = b.reasonCode := by
  have hcompose : ∀ c : Action, actionFingerprint caseId c =
      FingerprintFields.compose caseId
        ⟨c.verb, c.dayOffset.map Int.ofNat, c.channel, c.reasonCode⟩ := by
    intro c
    unfold actionFingerprint FingerprintFields.compose
    cases c.dayOffset with
    | none => rfl
    | some n => rfl
  rw [hcompose, hcompose] at h
  obtain ⟨hverb, hday, hchannel, hreason⟩ := FingerprintFields.mk.inj (compose_injective caseId h)
  exact ⟨hverb, Option.map_injective (fun _ _ => Int.ofNat.inj) hday, hchannel, hreason⟩

/-!
## Through the ledger
-/

/-- A row adds the fingerprint it stands for. -/
theorem executedFingerprints_appendLedger {s : Session} {f : LedgerFact} {fp : String}
    (hkind : f.kind = .action) (hfp : replayedFingerprint f.toLedgerColumns = some fp) :
    executedFingerprints (s.appendLedger f) f.caseId =
      insert fp (executedFingerprints s f.caseId) := by
  have htrail : (s.appendLedger f).db.trail f.caseId =
      s.db.trail f.caseId ++ [f.toLedgerColumns] := by
    rw [Db.trail, Session.appendLedger_history, List.filter_append, Db.trail]
    simp
  ext other
  rw [Finset.mem_insert, mem_executedFingerprints, mem_executedFingerprints, htrail]
  simp only [List.mem_append, List.mem_singleton, or_and_right, exists_or, exists_eq_left, hkind,
    hfp, true_and, Option.some_inj]
  rw [or_comm, eq_comm]

/-- What is composed from the dump of an action is what is composed from the action. -/
theorem composed_of_modelDump (caseId : String) (a : Action) :
    composeFingerprint caseId (fieldText a.modelDump "verb" "")
        ((Fields.get? a.modelDump "day_offset").getD .null)
        (fieldText a.modelDump "channel" "none") (fieldText a.modelDump "reason_code" "") =
      actionFingerprint caseId a := by
  obtain ⟨hverb, hday, hchannel, hreason⟩ := a.modelDump_get?
  unfold fieldText
  rw [hverb, hday, hchannel, hreason]
  rfl

/-- A row without a stored fingerprint stands for the composed one; an empty text stores
none. -/
theorem replayedFingerprint_of_action {e : LedgerColumns} {a : Action}
    (hstored : e.payload.get? "action_fingerprint" = none ∨
      e.payload.get? "action_fingerprint" = some (.str ""))
    (haction : e.payload.get? "action" = some (.obj a.modelDump)) :
    replayedFingerprint e = some (actionFingerprint e.caseId a) := by
  have hfalse : ((e.payload.get? "action_fingerprint").getD .null).truthy = false := by
    rcases hstored with hnone | hempty
    · rw [hnone]
      rfl
    · rw [hempty]
      rfl
  have hfields : a.modelDump.isEmpty = false := rfl
  unfold replayedFingerprint
  simp only [hfalse, Bool.false_eq_true, if_false, haction, Option.getD_some, hfields]
  rw [composed_of_modelDump]

theorem replayedFingerprint_of_stored {e : LedgerColumns} {fp : String} (hfp : fp ≠ "")
    (hstored : e.payload.get? "action_fingerprint" = some (.str fp)) :
    replayedFingerprint e = some fp := by
  have htrue : (Json.str fp).truthy = true := by simp [Json.truthy, hfp]
  simp only [replayedFingerprint, hstored, Option.getD_some, htrue, if_true, Json.text?_str]

/-- On one case no two choices of a verb, a day, a channel and a reason share a
fingerprint; and an `action` row of the case adds to the executed fingerprints the one
that it stores, or the one of a context that holds its action when it stores none. -/
theorem fingerprints_identify_and_survive (caseId : String) :
    (∀ (verb verb' : ActionVerb) (day day' : Option ℤ) (channel channel' : Channel)
      (reason reason' : String),
      composeFingerprint caseId verb.value (.ofOptInt day) channel.value reason =
          composeFingerprint caseId verb'.value (.ofOptInt day') channel'.value reason' →
        verb = verb' ∧ day = day' ∧ channel = channel' ∧ reason = reason') ∧
    (∀ (s : Session) (ctx : GuardContext) (f : LedgerFact), ctx.caseId = caseId →
      f.caseId = caseId → f.kind = .action →
      f.payload.get? "action" = some (.obj ctx.action.modelDump) →
      (f.payload.get? "action_fingerprint" = none ∨
        f.payload.get? "action_fingerprint" = some (.str "")) →
      executedFingerprints (s.appendLedger f) caseId =
        insert (fingerprintAction ctx) (executedFingerprints s caseId)) ∧
    (∀ (s : Session) (f : LedgerFact) (fp : String), f.caseId = caseId → f.kind = .action →
      fp ≠ "" → f.payload.get? "action_fingerprint" = some (.str fp) →
      executedFingerprints (s.appendLedger f) caseId =
        insert fp (executedFingerprints s caseId)) := by
  refine ⟨?_, ?_, ?_⟩
  · intro verb verb' day day' channel channel' reason reason' h
    have hfields : FingerprintFields.mk verb day channel reason =
        ⟨verb', day', channel', reason'⟩ :=
      compose_injective caseId h
    cases hfields
    exact ⟨rfl, rfl, rfl, rfl⟩
  · rintro s ctx f hctx rfl hkind haction hstored
    have hfp : replayedFingerprint f.toLedgerColumns = some (fingerprintAction ctx) := by
      rw [replayedFingerprint_of_action hstored haction, fingerprintAction, hctx]
    exact executedFingerprints_appendLedger hkind hfp
  · rintro s f fp rfl hkind hfp hstored
    exact executedFingerprints_appendLedger hkind (replayedFingerprint_of_stored hfp hstored)

def colonLink : Action :=
  { verb := .sendPaymentLink, channel := .sms, reasonCode := "card:expired" }

/-- An old row of that action, without a fingerprint. -/
def colonLinkFact : LedgerFact where
  caseId := "case_1"
  kind := .action
  actor := .system
  payload := [("action", .obj colonLink.modelDump)]
  readable := fun _ => .of_modelDump (a := colonLink) rfl nofun

theorem fingerprints_identify_and_survive_colon :
    (⟨.sendPaymentLink, none, .sms, "card:expired"⟩ : FingerprintFields).compose "case_1" ≠
        (⟨.sendPaymentLink, none, .link, "expired"⟩ : FingerprintFields).compose "case_1" ∧
    executedFingerprints (Session.appendLedger ⟨Db.empty, fun _ => daytime, []⟩ colonLinkFact)
        "case_1" = {"case_1:send_payment_link:None:sms:card:expired"} ∧
    executedFingerprints (Session.appendLedger ⟨Db.empty, fun _ => daytime, []⟩
        { colonLinkFact with
          payload := [("action_fingerprint", .str "case_1:kept")]
          readable := fun _ => ⟨by rintro v ⟨⟩ _; exact ⟨_, rfl⟩, nofun⟩ })
        "case_1" = {"case_1:kept"} := by
  obtain ⟨hfields, hcomposed, hstored⟩ := fingerprints_identify_and_survive "case_1"
  refine ⟨?_, ?_, ?_⟩
  · intro h
    have hchannel := (hfields _ _ _ _ _ _ _ _ h).2.2.1
    cases hchannel
  · exact hcomposed ⟨Db.empty, fun _ => daytime, []⟩
      { caseId := "case_1", action := colonLink, now := daytime } colonLinkFact rfl rfl rfl rfl
      (Or.inl rfl)
  · exact hstored ⟨Db.empty, fun _ => daytime, []⟩ _ "case_1:kept" rfl rfl (by decide) rfl

end RecoveryAgent.Guard
