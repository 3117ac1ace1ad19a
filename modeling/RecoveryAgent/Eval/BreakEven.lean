import RecoveryAgent.Eval.CostKnobs
import RecoveryAgent.Library.Bisection

/-!
# Where the lead crosses zero

`eval/break_even.py`: the value of one cost knob at which both policies net the same, by
bisection. The lead at a value is only ever asked for, so it is a parameter; for the
benchmark it is what `compare_seed` says under the override.
-/

namespace RecoveryAgent.Eval

open Python Config Library

namespace BreakEvenParam

/-- The dotted key in `costs.json`. -/
def key : BreakEvenParam → String
  | smsDlt => "attempt.sms_dlt"
  | whatsappUtility => "attempt.whatsapp_utility"
  | churnProbPerInappropriateContact => "customer.churn_prob_per_inappropriate_contact"

/-- `get_cost_value` of the parameter. -/
def value (costs : Costs) : BreakEvenParam → ℚ
  | smsDlt => costs.smsDlt
  | whatsappUtility => costs.whatsappUtility
  | churnProbPerInappropriateContact => costs.churnProbPerInappropriateContact

end BreakEvenParam

structure BreakEvenResult where
  paramKey : BreakEvenParam
  defaultValue : ℚ
  breakEvenValue : Option ℚ
  deltaNetAtDefault : ℚ
  direction : String
  seed : ℤ
  n : ℤ
  note : String
  deriving DecidableEq, Repr

/-- `_net_delta_with_override`: `none` is the error of an empty batch. -/
def netDeltaWithOverride {G : Type*} (costs : Costs) (rng : Rng G) (seed n : ℤ)
    (param : BreakEvenParam) (value : ℚ) : Option ℚ :=
  (compareSeed (param.override costs value) rng seed n).map SeedPairResult.deltaNetRecoveredInr

/-- How floats are written in a text: `str(x)` and `f"{x:.2f}"`. -/
structure FloatText where
  str : ℚ → String
  fixed2 : ℚ → String

/-- The loop of `solve_break_even`: whether it met a lead within the tolerance, and the
middle that it reports. -/
def bisect (netDelta : ℚ → Option ℚ) (tol : ℚ) :
    ℕ → (left right deltaLo deltaHi : ℚ) → Option (Bool × ℚ)
  | 0, left, right, _, _ => some (false, (left + right) / 2)
  | rounds + 1, left, right, deltaLo, deltaHi => do
      let mid := (left + right) / 2
      let deltaMid ← netDelta mid
      if |deltaMid| ≤ tol then some (true, mid)
      else if deltaLo * deltaMid ≤ 0 then bisect netDelta tol rounds left mid deltaLo deltaMid
      else bisect netDelta tol rounds mid right deltaMid deltaHi

/-- `solve_break_even`, with the current value of the parameter and the lead at a value. -/
def solveBreakEven (text : FloatText) (netDelta : ℚ → Option ℚ) (default : ℚ) (seed n : ℤ)
    (paramKey : BreakEvenParam) (lo hi tol : ℚ) (maxIter : ℤ) : Option BreakEvenResult := do
  let deltaDefault ← netDelta default
  let deltaLo ← netDelta lo
  let deltaHi ← netDelta hi
  let direction :=
    if deltaLo ≤ deltaHi then "Raising this cost hurts B2 more than Ours (our net lead grows)."
    else "Raising this cost hurts Ours more than B2."
  let result (breakEvenValue : Option ℚ) (note : String) : BreakEvenResult :=
    { paramKey
      defaultValue := default
      breakEvenValue
      deltaNetAtDefault := round deltaDefault 2
      direction
      seed
      n
      note }
  if 0 < deltaLo * deltaHi then
    some (result none
      (s!"No zero-crossing on [{text.str lo}, {text.str hi}]. " ++
        s!"Delta at lo={text.fixed2 deltaLo}, hi={text.fixed2 deltaHi}."))
  else do
    let (within, mid) ← bisect netDelta tol maxIter.toNat lo hi deltaLo deltaHi
    some (result (some (round mid 4))
      (if within then s!"Net delta within ₹{text.str tol} of zero at this {paramKey.key}."
      else "Approximate break-even from binary search."))

/-!
## The loop halves brackets
-/

section

variable {f : ℚ → ℚ} {lo hi : ℚ} (tol : ℚ)

/-- The deltas that the loop carries along are those at the ends of a bracket. -/
theorem bisect_bracket (rounds : ℕ) (b : Bracket f lo hi) :
    bisect (fun value => some (f value)) tol rounds b.left b.right (f b.left) (f b.right) =
      some ((b.search (fun value => |f value| ≤ tol) rounds).1,
        (b.search (fun value => |f value| ≤ tol) rounds).2.mid) := by
  induction rounds generalizing b with
  | zero => rfl
  | succ rounds ih =>
      rw [Bracket.search, bisect]
      simp only [Option.bind_eq_bind, Option.bind_some, decide_eq_true_eq]
      change (if |f b.mid| ≤ tol then _ else _) = _
      by_cases hgood : |f b.mid| ≤ tol
      · rw [if_pos hgood, if_pos hgood]
        rfl
      · rw [if_neg hgood, if_neg hgood, ← ih b.halve]
        change (if f b.left * f b.mid ≤ 0 then _ else _) = _
        unfold Bracket.halve
        by_cases hchange : f b.left * f b.mid ≤ 0
        · rw [if_pos hchange, dif_pos hchange]
          rfl
        · rw [if_neg hchange, dif_neg hchange]
          rfl

/-- What the loop reports when the lead does not have one sign at the ends: a middle whose
lead is within the tolerance, or that of a bracket halved in every round. -/
theorem bisect_spec (hle : lo ≤ hi) (hchange : f lo * f hi ≤ 0) (rounds : ℕ) :
    ∃ within mid, bisect (fun value => some (f value)) tol rounds lo hi (f lo) (f hi) =
        some (within, mid) ∧ lo ≤ mid ∧ mid ≤ hi ∧
      (|f mid| ≤ tol ∨ ∃ a b, lo ≤ a ∧ a ≤ b ∧ b ≤ hi ∧ f a * f b ≤ 0 ∧
        b - a = (hi - lo) / 2 ^ rounds ∧ mid = (a + b) / 2) := by
  let start : Bracket f lo hi := Bracket.whole hle hchange
  obtain ⟨⟨within, b⟩, hsearch⟩ :
      ∃ p, start.search (fun value => |f value| ≤ tol) rounds = p := ⟨_, rfl⟩
  have hbisect := bisect_bracket tol rounds start
  rw [hsearch] at hbisect
  refine ⟨within, b.mid, hbisect, b.lo_le_mid, b.mid_le_hi, ?_⟩
  cases within with
  | true =>
      have hgood := start.good_of_search (congrArg Prod.fst hsearch)
      rw [hsearch] at hgood
      exact Or.inl (of_decide_eq_true hgood)
  | false =>
      have hwidth := start.width_of_search (congrArg Prod.fst hsearch)
      rw [hsearch] at hwidth
      exact Or.inr ⟨b.left, b.right, b.lo_le_left, b.left_le_right, b.right_le_hi, b.change,
        hwidth, rfl⟩

end

section

variable (text : FloatText) (f : ℚ → ℚ) (default : ℚ) (seed n : ℤ) (paramKey : BreakEvenParam)

/-- Break-even bisection is sound: it reports no value exactly when the lead has one sign at
both ends, and otherwise the rounded middle of a bracket that has been halved every time, or
one at which the lead is within the tolerance. -/
theorem solveBreakEven_sound {lo hi : ℚ} (hlt : lo < hi) (tol : ℚ) (maxIter : ℤ) :
    ∃ result, solveBreakEven text (fun value => some (f value)) default seed n paramKey lo hi tol
        maxIter = some result ∧
      (result.breakEvenValue = none ↔ 0 < f lo * f hi) ∧
      (¬0 < f lo * f hi → ∃ within mid,
        bisect (fun value => some (f value)) tol maxIter.toNat lo hi (f lo) (f hi) =
          some (within, mid) ∧
        result.breakEvenValue = some (round mid 4) ∧ lo ≤ mid ∧ mid ≤ hi ∧
        (|f mid| ≤ tol ∨ ∃ a b, lo ≤ a ∧ a ≤ b ∧ b ≤ hi ∧ f a * f b ≤ 0 ∧
          b - a = (hi - lo) / 2 ^ maxIter.toNat ∧ mid = (a + b) / 2)) := by
  simp only [solveBreakEven, Option.bind_eq_bind, Option.bind_some]
  by_cases hsign : 0 < f lo * f hi
  · rw [if_pos hsign]
    exact ⟨_, rfl, iff_of_true rfl hsign, fun hno => absurd hsign hno⟩
  · rw [if_neg hsign]
    obtain ⟨within, mid, hbisect, hspec⟩ := bisect_spec tol hlt.le (not_lt.1 hsign) maxIter.toNat
    rw [hbisect]
    refine ⟨_, rfl, iff_of_false ?_ hsign, fun _ => ⟨within, mid, rfl, rfl, hspec⟩⟩
    exact Option.some_ne_none _

end

theorem solveBreakEven_sound_three :
    ∃ result, solveBreakEven ⟨fun _ => "", fun _ => ""⟩ (fun value => some (value - 3)) 0 42 200
        .smsDlt 0 4 (5 / 100) 40 = some result ∧
      (result.breakEvenValue = none ↔ (0 : ℚ) < (0 - 3) * (4 - 3)) ∧
      (¬(0 : ℚ) < (0 - 3) * (4 - 3) → ∃ within mid,
        bisect (fun value => some (value - 3)) (5 / 100) 40 0 4 (0 - 3) (4 - 3) =
          some (within, mid) ∧
        result.breakEvenValue = some (round mid 4) ∧ 0 ≤ mid ∧ mid ≤ 4 ∧
        (|mid - 3| ≤ 5 / 100 ∨ ∃ a b : ℚ, 0 ≤ a ∧ a ≤ b ∧ b ≤ 4 ∧ (a - 3) * (b - 3) ≤ 0 ∧
          b - a = (4 - 0) / 2 ^ 40 ∧ mid = (a + b) / 2)) :=
  solveBreakEven_sound ⟨fun _ => "", fun _ => ""⟩ (fun value => value - 3) 0 42 200 .smsDlt
    (by norm_num) (5 / 100) 40

/-!
## The benchmark's lead
-/

/-- A batch that is not empty has a lead under every value of a parameter. -/
theorem netDeltaWithOverride_eq {G : Type*} (costs : Costs) (rng : Rng G) (seed : ℤ) {n : ℤ}
    (hn : 0 < n) (param : BreakEvenParam) :
    ∃ f : ℚ → ℚ, netDeltaWithOverride costs rng seed n param = fun value => some (f value) := by
  have hlead : ∀ value, ∃ lead, netDeltaWithOverride costs rng seed n param value = some lead := by
    intro value
    obtain ⟨_, _, ours, b2, _, _, _, _, hcompare, _⟩ :=
      compareSeed_reconciles (param.override costs value) rng seed hn
    exact ⟨round (ours.netDeltaInr b2) 2, by rw [netDeltaWithOverride, hcompare]; rfl⟩
  choose f hf using hlead
  exact ⟨f, funext hf⟩

theorem bisect_isSome (f : ℚ → ℚ) (tol : ℚ) (rounds : ℕ) (left right deltaLo deltaHi : ℚ) :
    (bisect (fun value => some (f value)) tol rounds left right deltaLo deltaHi).isSome := by
  induction rounds generalizing left right deltaLo deltaHi with
  | zero => rfl
  | succ rounds ih =>
      simp only [bisect, Option.bind_eq_bind, Option.bind_some]
      split
      · rfl
      · split
        · exact ih _ _ _ _
        · exact ih _ _ _ _

/-- Where every value has a lead, the solver ends with a result. -/
theorem solveBreakEven_isSome (text : FloatText) (f : ℚ → ℚ) (default : ℚ) (seed n : ℤ)
    (param : BreakEvenParam) (lo hi tol : ℚ) (maxIter : ℤ) :
    (solveBreakEven text (fun value => some (f value)) default seed n param lo hi tol
      maxIter).isSome := by
  simp only [solveBreakEven, Option.bind_eq_bind, Option.bind_some]
  split
  · rfl
  · obtain ⟨p, hp⟩ := Option.isSome_iff_exists.1
      (bisect_isSome f tol maxIter.toNat lo hi (f lo) (f hi))
    rw [hp]
    rfl

end RecoveryAgent.Eval
