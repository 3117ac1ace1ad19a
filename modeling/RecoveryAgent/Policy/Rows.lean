import RecoveryAgent.Policy.Engine

/-!
# The planner and its row

A row of the taxonomy gives the planner a retry budget and a contact permission. The budget
is applied in some of the timing modes and the permission in some of the branches, so
whether a plan obeys its row depends on how the row combines them.
-/

namespace RecoveryAgent.Policy

namespace TaxonomyRow

def verb' (row : TaxonomyRow) : ActionVerb := row.defaultVerb.getD .escalateHuman

/-- The row has nothing automated. -/
def escalates (row : TaxonomyRow) : Bool := row.verb' = .escalateHuman || row.timing' = "none"

/-- The verbs and days of the plan that a row is given. -/
def outline (row : TaxonomyRow) (failureDom : ℤ) (observedCreditDay : Option ℤ) :
    List (ActionVerb × ℕ) :=
  if row.escalates then [(.escalateHuman, 0)]
  else if row.verb'.isLink then
    (row.verb', 0) :: if row.allowContact' then [(.sendPaymentLink, 3)] else []
  else
    (offsetsForTiming row.timing' failureDom observedCreditDay row.maxRetries').map fun off =>
      (if row.timing' = "spaced_then_link" ∧ 4 ≤ off ∧ row.allowContact' then .sendPaymentLink
      else .scheduleRetry, off.toNat)

/-- The budget and the permission of a row cover what its verb and timing plan in any case:
a first link, the contact's retry of `immediate_contact`, and the spaced retries. -/
def covered (row : TaxonomyRow) : Bool :=
  row.escalates ||
    if row.verb'.isLink then row.allowContact'
    else if row.timing' = "immediate_contact" then 1 ≤ row.maxRetries'
    else if row.timing' = "spaced_then_link" then
      (if row.allowContact' then 1 else 2) ≤ row.maxRetries'
    else true

end TaxonomyRow

section

variable (engine : PolicyEngine) (failureClass : String) (cfg : TaxonomyRow) (amountPaise : ℕ)
  (score : ℚ) (failureDom : ℤ) (observedCreditDay : Option ℤ) (proposedBy : ProposedBy)

/-- The plan of a row has the verbs and days of its outline. -/
theorem map_actionsFromClassCfg :
    (engine.actionsFromClassCfg failureClass cfg amountPaise score failureDom observedCreditDay
        proposedBy).map (fun a => (a.verb, a.dayOffset)) =
      (cfg.outline failureDom observedCreditDay).map fun p => (p.1, some p.2) := by
  unfold PolicyEngine.actionsFromClassCfg TaxonomyRow.outline TaxonomyRow.escalates
    TaxonomyRow.verb'
  simp only [Bool.or_eq_true, decide_eq_true_eq]
  by_cases hescalates : cfg.defaultVerb.getD .escalateHuman = .escalateHuman ∨ cfg.timing' = "none"
  · rw [if_pos hescalates, if_pos hescalates]
    rfl
  · rw [if_neg hescalates, if_neg hescalates]
    by_cases hlink : (cfg.defaultVerb.getD .escalateHuman).isLink = true
    · rw [if_pos hlink, if_pos hlink]
      cases cfg.allowContact' with
      | true => rfl
      | false => rfl
    · rw [if_neg hlink, if_neg hlink, List.map_map, List.map_map]
      apply List.map_congr_left
      intro off _
      simp only [Function.comp_apply]
      split
      · rfl
      · rfl

theorem map_verb_actionsFromClassCfg :
    (engine.actionsFromClassCfg failureClass cfg amountPaise score failureDom observedCreditDay
        proposedBy).map Action.verb =
      (cfg.outline failureDom observedCreditDay).map Prod.fst := by
  have hmap := congrArg (List.map Prod.fst) (map_actionsFromClassCfg engine failureClass cfg
    amountPaise score failureDom observedCreditDay proposedBy)
  rw [List.map_map, List.map_map] at hmap
  exact hmap

end

/-- A plan within the retry budget and the contact permission of its row. -/
def Obeys (row : TaxonomyRow) (verbs : List ActionVerb) : Prop :=
  verbs.countP (fun verb => verb = .scheduleRetry) ≤ (max 0 row.maxRetries').toNat ∧
    (row.allowContact' = false → ∀ verb ∈ verbs, verb.isLink = false)

/-- The budget is applied in every timing but two. -/
theorem length_offsetsForTiming {timing : String} (himmediate : timing ≠ "immediate_contact")
    (hspaced : timing ≠ "spaced_then_link") (failureDom : ℤ) (observedCreditDay : Option ℤ)
    (maxRetries : ℤ) :
    (offsetsForTiming timing failureDom observedCreditDay maxRetries).length ≤
      (max 0 maxRetries).toNat := by
  unfold offsetsForTiming
  simp only
  rw [if_neg himmediate, if_neg hspaced]
  split
  · exact List.length_take_le _ _
  · split
    · exact List.length_take_le _ _
    · split
      · exact Nat.zero_le _
      · exact List.length_take_le _ _

section

variable {row : TaxonomyRow}

theorem obeys_escalation : Obeys row [.escalateHuman] :=
  ⟨Nat.zero_le _, fun _ => by decide⟩

/-- A link is never a retry, and it needs the permission. -/
theorem obeys_links_iff {verb : ActionVerb} (hlink : verb.isLink = true) :
    Obeys row (verb :: if row.allowContact' then [.sendPaymentLink] else []) ↔
      row.allowContact' = true := by
  have hretry : verb ≠ .scheduleRetry := by
    intro h
    rw [h] at hlink
    cases hlink
  constructor
  · rintro ⟨-, hcontact⟩
    by_contra hforbidden
    rw [Bool.not_eq_true] at hforbidden
    have hnone := hcontact hforbidden verb List.mem_cons_self
    rw [hlink] at hnone
    cases hnone
  · intro hallowed
    refine ⟨?_, fun hforbidden => absurd (hallowed.symm.trans hforbidden) (by decide)⟩
    rw [hallowed, if_pos rfl, List.countP_cons_of_neg (by simpa using hretry)]
    exact Nat.zero_le _

/-- Retries alone need the budget only. -/
theorem obeys_retries_iff (n : ℕ) :
    Obeys row (List.replicate n .scheduleRetry) ↔ n ≤ (max 0 row.maxRetries').toNat := by
  have hcount : (List.replicate n ActionVerb.scheduleRetry).countP
      (fun verb => verb = .scheduleRetry) = n := by
    rw [List.countP_replicate]
    rfl
  constructor
  · rintro ⟨hbudget, -⟩
    rwa [hcount] at hbudget
  · intro hbudget
    refine ⟨hcount.trans_le hbudget, fun _ verb hverb => ?_⟩
    rw [List.eq_of_mem_replicate hverb]
    rfl

/-- The outline of a row obeys it exactly when the row covers it. -/
theorem obeys_outline_iff (failureDom : ℤ) (observedCreditDay : Option ℤ) :
    Obeys row ((row.outline failureDom observedCreditDay).map Prod.fst) ↔ row.covered = true := by
  unfold TaxonomyRow.outline TaxonomyRow.covered
  cases hescalates : row.escalates with
  | true => exact iff_of_true obeys_escalation rfl
  | false =>
      rw [if_neg Bool.false_ne_true, Bool.false_or]
      by_cases hlink : row.verb'.isLink = true
      · rw [if_pos hlink, if_pos hlink, List.map_cons, apply_ite (List.map Prod.fst)]
        exact obeys_links_iff hlink
      · rw [if_neg hlink, if_neg hlink, List.map_map]
        by_cases hspaced : row.timing' = "spaced_then_link"
        · rw [hspaced, if_neg (by decide), if_pos rfl]
          cases hallowed : row.allowContact' with
          | true =>
              change Obeys row [.scheduleRetry, .sendPaymentLink] ↔ _
              constructor
              · rintro ⟨hbudget, -⟩
                change 1 ≤ _ at hbudget
                simp only [if_true, decide_eq_true_eq]
                omega
              · intro hbudget
                simp only [if_true, decide_eq_true_eq] at hbudget
                refine ⟨?_, fun h => absurd (hallowed.symm.trans h) (by decide)⟩
                change 1 ≤ _
                omega
          | false =>
              change Obeys row (List.replicate 2 .scheduleRetry) ↔ _
              rw [obeys_retries_iff]
              simp only [Bool.false_eq_true, if_false, decide_eq_true_eq]
              omega
        · -- every other timing plans retries only
          have hverbs : ∀ offs : List ℤ, offs.map (Prod.fst ∘ fun off =>
              (if row.timing' = "spaced_then_link" ∧ 4 ≤ off ∧ row.allowContact' then
                ActionVerb.sendPaymentLink else .scheduleRetry, off.toNat)) =
              List.replicate offs.length .scheduleRetry := by
            intro offs
            rw [List.eq_replicate_iff]
            refine ⟨List.length_map _, fun verb hverb => ?_⟩
            obtain ⟨off, -, rfl⟩ := List.mem_map.1 hverb
            exact if_neg fun h => hspaced h.1
          rw [hverbs, obeys_retries_iff]
          by_cases himmediate : row.timing' = "immediate_contact"
          · rw [himmediate, if_pos rfl]
            change 1 ≤ _ ↔ _
            rw [decide_eq_true_eq]
            omega
          · rw [if_neg himmediate, if_neg hspaced]
            exact iff_of_true (length_offsetsForTiming himmediate hspaced _ _ _) rfl

end

/-- The planner obeys the row it is given exactly when the row covers what its verb and timing
plan in any case. -/
theorem planner_obeys_row_iff (engine : PolicyEngine) (failureClass : String) (cfg : TaxonomyRow)
    (amountPaise : ℕ) (score : ℚ) (failureDom : ℤ) (observedCreditDay : Option ℤ)
    (proposedBy : ProposedBy) :
    Obeys cfg ((engine.actionsFromClassCfg failureClass cfg amountPaise score failureDom
      observedCreditDay proposedBy).map Action.verb) ↔ cfg.covered = true := by
  rw [map_verb_actionsFromClassCfg]
  exact obeys_outline_iff failureDom observedCreditDay

/-- The row of `do_not_honour` without its contact permission. -/
def silentSpacedRow : TaxonomyRow :=
  { category := some "ambiguous"
    defaultVerb := some .scheduleRetry
    allowContact := some false
    maxRetries := some 1
    timing := some "spaced_then_link"
    reasonCode := some "DNH_SPACED" }

/-- The row of `card_expired` without its contact permission. -/
def silentDeadRow : TaxonomyRow :=
  { category := some "dead"
    defaultVerb := some .sendPaymentLink
    allowContact := some false
    maxRetries := some 0
    timing := some "immediate_contact"
    reasonCode := some "DEAD_CARD_LINK" }

/-- The one retry becomes two, and the link is planned without the permission. -/
theorem row_not_obeyed :
    (PolicyEngine.shipped.actionsFromClassCfg "do_not_honour" silentSpacedRow 49900 0 15 none
        .rulesFallback).map Action.verb = [.scheduleRetry, .scheduleRetry] ∧
      ¬Obeys silentSpacedRow ((PolicyEngine.shipped.actionsFromClassCfg "do_not_honour"
        silentSpacedRow 49900 0 15 none .rulesFallback).map Action.verb) ∧
      (PolicyEngine.shipped.actionsFromClassCfg "card_expired" silentDeadRow 49900 0 15 none
        .rulesFallback).map Action.verb = [.sendPaymentLink] ∧
      ¬Obeys silentDeadRow ((PolicyEngine.shipped.actionsFromClassCfg "card_expired"
        silentDeadRow 49900 0 15 none .rulesFallback).map Action.verb) := by
  have hretries : (PolicyEngine.shipped.actionsFromClassCfg "do_not_honour" silentSpacedRow 49900
      0 15 none .rulesFallback).map Action.verb = [.scheduleRetry, .scheduleRetry] := rfl
  have hlink : (PolicyEngine.shipped.actionsFromClassCfg "card_expired" silentDeadRow 49900 0 15
      none .rulesFallback).map Action.verb = [.sendPaymentLink] := rfl
  refine ⟨hretries, ?_, hlink, ?_⟩
  · rw [hretries]
    rintro ⟨hbudget, -⟩
    exact absurd hbudget (by decide)
  · rw [hlink]
    rintro ⟨-, hcontact⟩
    exact absurd (hcontact rfl .sendPaymentLink List.mem_cons_self) (by decide)

end RecoveryAgent.Policy
