import RecoveryAgent.Eval.BreakEven

/-!
# What the note of a break-even says

`solve_break_even` tests its tolerance on a middle and reports the middle rounded to four
digits. In one cost knob the lead is affine, so the middles are known from the inputs: they
are the probes of the crossing. The note holds of the value that is reported exactly when
rounding the first good probe neither leaves the tolerance nor the bracket.
-/

namespace RecoveryAgent.Eval

open Python Config Library

/-- The note of a result that met a lead within the tolerance. -/
def withinNote (text : FloatText) (tol : ℚ) (paramKey : BreakEvenParam) : String :=
  s!"Net delta within ₹{text.str tol} of zero at this {paramKey.key}."

/-- Where `a * x + b` is zero; at the lower bound if it is zero everywhere. -/
def crossing (a b lo : ℚ) : ℚ := if a = 0 then lo else -b / a

/-- Rounding to four digits leaves the first probe within the tolerance where it is: still
within the tolerance, and between the bounds. -/
def RoundingKeeps (a b lo hi tol : ℚ) (maxIter : ℤ) : Prop :=
  ∀ k < maxIter.toNat,
    |a * probe lo hi (crossing a b lo) k + b| ≤ tol →
    (∀ j < k, tol < |a * probe lo hi (crossing a b lo) j + b|) →
    |a * round (probe lo hi (crossing a b lo) k) 4 + b| ≤ tol ∧
      lo ≤ round (probe lo hi (crossing a b lo) k) 4 ∧
      round (probe lo hi (crossing a b lo) k) 4 ≤ hi

/-!
## The notes
-/

theorem withinNote_ne_of_take {text : FloatText} {tol : ℚ} {paramKey : BreakEvenParam}
    {note : String} (h : note.toList.take 2 ≠ ['N', 'e']) :
    note ≠ withinNote text tol paramKey := by
  rintro rfl
  apply h
  unfold withinNote
  simp only [String.toList_append]
  rfl

/-!
## Affine leads
-/

section

variable {a b : ℚ}

theorem crossesAt_affine (ha : a ≠ 0) : CrossesAt (fun x => a * x + b) (-b / a) := by
  intro x y hxy
  have hfactor : (a * x + b) * (a * y + b) = a ^ 2 * ((x - -b / a) * (y - -b / a)) := by
    field_simp
    ring
  have hsquare : 0 < a ^ 2 := by positivity
  simp only [hfactor]
  constructor
  · intro h
    have hproduct : (x - -b / a) * (y - -b / a) ≤ 0 := nonpos_of_mul_nonpos_right h hsquare
    rcases mul_nonpos_iff.1 hproduct with ⟨hx, hy⟩ | ⟨hx, hy⟩
    · constructor
      · linarith
      · linarith
    · exact ⟨sub_nonpos.1 hx, sub_nonneg.1 hy⟩
  · rintro ⟨hx, hy⟩
    apply mul_nonpos_of_nonneg_of_nonpos hsquare.le
    exact mul_nonpos_of_nonpos_of_nonneg (sub_nonpos.2 hx) (sub_nonneg.2 hy)

variable {lo hi : ℚ} (hlt : lo < hi)

/-- Where there is no lead at all, the lower half is kept every time. -/
theorem iterate_halve_of_zero (f : ℚ → ℚ) (hf : ∀ x, f x = 0) (hchange : f lo * f hi ≤ 0) (k : ℕ) :
    (Bracket.halve^[k] (Bracket.whole hlt.le hchange)).left = lo ∧
      (Bracket.halve^[k] (Bracket.whole hlt.le hchange)).right = lo + (hi - lo) / 2 ^ k := by
  induction k with
  | zero =>
      constructor
      · rfl
      · simp [Bracket.whole]
  | succ k ih =>
      obtain ⟨hleft, hright⟩ := ih
      rw [Function.iterate_succ_apply']
      set bracket := Bracket.halve^[k] (Bracket.whole hlt.le hchange)
      have hbelow : f bracket.left * f bracket.mid ≤ 0 := by
        rw [hf, zero_mul]
      unfold Bracket.halve
      rw [dif_pos hbelow]
      constructor
      · exact hleft
      · change bracket.mid = _
        rw [Bracket.mid, hleft, hright, pow_succ]
        field_simp
        ring

/-- The middles are the probes of the crossing. -/
theorem mid_eq_probe (hchange : (a * lo + b) * (a * hi + b) ≤ 0) (k : ℕ) :
    (Bracket.halve^[k]
        (Bracket.whole (f := fun x => a * x + b) hlt.le hchange)).mid =
      probe lo hi (crossing a b lo) k := by
  by_cases ha : a = 0
  · subst ha
    have hb : b = 0 := by
      rw [zero_mul, zero_mul, zero_add] at hchange
      exact mul_self_eq_zero.1 (le_antisymm hchange (mul_self_nonneg b))
    have hzero : ∀ x : ℚ, (fun x => 0 * x + b) x = 0 := by
      intro x
      simp [hb]
    obtain ⟨hleft, hright⟩ := iterate_halve_of_zero hlt _ hzero hchange k
    have hcell : cell (2 ^ k * ((lo - lo) / (hi - lo))) = 0 := by
      simp [cell]
    rw [Bracket.mid, hleft, hright, probe, crossing, if_pos rfl, hcell, pow_succ]
    push_cast
    field_simp
    ring
  · rw [crossing, if_neg ha]
    exact mid_iterate_halve (crossesAt_affine ha) hlt hchange k

end

/-- The search ends well exactly at the first good probe. -/
theorem search_iff_first {a b lo hi : ℚ} (hlt : lo < hi)
    (hchange : (a * lo + b) * (a * hi + b) ≤ 0) (tol : ℚ) (rounds : ℕ)
    {P : ℚ → Prop} :
    (((Bracket.whole (f := fun x => a * x + b) hlt.le hchange).search
        (fun value => |a * value + b| ≤ tol) rounds).1 = true →
      P ((Bracket.whole (f := fun x => a * x + b) hlt.le hchange).search
        (fun value => |a * value + b| ≤ tol) rounds).2.mid) ↔
      ∀ k < rounds, |a * probe lo hi (crossing a b lo) k + b| ≤ tol →
        (∀ j < k, tol < |a * probe lo hi (crossing a b lo) j + b|) →
        P (probe lo hi (crossing a b lo) k) := by
  have hmid := mid_eq_probe hlt hchange
  constructor
  · intro h k hk hgood hfirst
    have hsearch : (Bracket.whole (f := fun x => a * x + b) hlt.le hchange).search
        (fun value => |a * value + b| ≤ tol) rounds = (true, _) :=
      Bracket.search_eq_of_first _ hk
        (by rw [hmid k]; exact decide_eq_true hgood)
        (fun j hj => by rw [hmid j]; exact decide_eq_false (not_le.2 (hfirst j hj)))
    rw [hsearch, hmid k] at h
    exact h rfl
  · intro h hend
    obtain ⟨k, hk, hgood, hfirst⟩ := Bracket.exists_first_of_search _ hend
    rw [Bracket.search_eq_of_first _ hk hgood hfirst, hmid k]
    rw [hmid k] at hgood
    apply h k hk (of_decide_eq_true hgood)
    intro j hj
    have hbad := hfirst j hj
    rw [hmid j] at hbad
    exact not_le.1 (of_decide_eq_false hbad)

/-- The note of a break-even says what it does exactly when rounding keeps the first good
probe: on an affine lead, a value that is reported with that note is within the tolerance and
between the bounds, if and only if it is where the crossing puts it. -/
theorem break_even_note_holds_iff (text : FloatText) (a b default : ℚ) (seed n : ℤ)
    (paramKey : BreakEvenParam) {lo hi : ℚ} (hlt : lo < hi) (tol : ℚ) (maxIter : ℤ) :
    (∃ result, solveBreakEven text (fun value => some (a * value + b)) default seed n paramKey lo hi
        tol maxIter = some result ∧
      (result.note = withinNote text tol paramKey →
        ∃ value, result.breakEvenValue = some value ∧ |a * value + b| ≤ tol ∧
          lo ≤ value ∧ value ≤ hi)) ↔
      ((a * lo + b) * (a * hi + b) ≤ 0 → RoundingKeeps a b lo hi tol maxIter) := by
  simp only [solveBreakEven, Option.bind_eq_bind, Option.bind_some]
  by_cases hsign : 0 < (a * lo + b) * (a * hi + b)
  · rw [if_pos hsign]
    refine iff_of_true ⟨_, rfl, fun hnote => absurd hnote ?_⟩ fun hno => absurd hsign (not_lt.2 hno)
    apply withinNote_ne_of_take
    simp only [String.toList_append]
    exact (by decide : ['N', 'o'] ≠ ['N', 'e'])
  · have hchange := not_lt.1 hsign
    set found := (Bracket.whole (f := fun x => a * x + b) hlt.le hchange).search
      (fun value => |a * value + b| ≤ tol) maxIter.toNat with hfound
    have hbisect : bisect (fun value => some (a * value + b)) tol maxIter.toNat lo hi (a * lo + b)
        (a * hi + b) = some (found.1, found.2.mid) :=
      bisect_bracket tol maxIter.toNat (Bracket.whole (f := fun x => a * x + b) hlt.le hchange)
    have hfirst := search_iff_first hlt hchange tol maxIter.toNat
      (P := fun value => |a * round value 4 + b| ≤ tol ∧ lo ≤ round value 4 ∧ round value 4 ≤ hi)
    rw [if_neg hsign, RoundingKeeps, imp_iff_right hchange, ← hfirst, ← hfound, hbisect,
      Option.bind_some]
    cases hend : found.1 with
    | true =>
        constructor
        · rintro ⟨result, hresult, hkept⟩ -
          cases hresult
          obtain ⟨value, hvalue, hholds⟩ := hkept rfl
          cases hvalue
          exact hholds
        · intro hholds
          exact ⟨_, rfl, fun _ => ⟨_, rfl, hholds rfl⟩⟩
    | false =>
        refine iff_of_true ⟨_, rfl, fun hnote => absurd hnote ?_⟩ fun h => absurd h (by decide)
        apply withinNote_ne_of_take
        exact (by decide : "Approximate break-even from binary search.".toList.take 2 ≠ ['N', 'e'])

/-- A lead that crosses zero at three, where rounding changes nothing. -/
theorem break_even_note_holds_iff_three :
    (∃ result, solveBreakEven ⟨fun _ => "", fun _ => ""⟩ (fun value => some (1 * value + -3)) 0 42
        200 .smsDlt 0 4 (5 / 100) 40 = some result ∧
      (result.note = withinNote ⟨fun _ => "", fun _ => ""⟩ (5 / 100) .smsDlt →
        ∃ value, result.breakEvenValue = some value ∧ |1 * value + -3| ≤ 5 / 100 ∧
          0 ≤ value ∧ value ≤ 4)) ↔
      (((1 : ℚ) * 0 + -3) * (1 * 4 + -3) ≤ 0 → RoundingKeeps 1 (-3) 0 4 (5 / 100) 40) :=
  break_even_note_holds_iff ⟨fun _ => "", fun _ => ""⟩ 1 (-3) 0 42 200 .smsDlt (by norm_num)
    (5 / 100) 40

/-- With a hundred inappropriate contacts at a lifetime value of 4800 rupees, a churn
probability of 9/32 breaks even; it is reported as 0.2812, where the lead is 24 rupees. -/
theorem rounded_break_even_off_by_rupees :
    ∃ result, solveBreakEven ⟨fun _ => "0.05", fun _ => ""⟩
        (fun value => some (480000 * value + -135000)) (1 / 100) 42 200
        .churnProbPerInappropriateContact 0 1 (5 / 100) 40 = some result ∧
      result.note = withinNote ⟨fun _ => "0.05", fun _ => ""⟩ (5 / 100)
        .churnProbPerInappropriateContact ∧
      result.breakEvenValue = some (2812 / 10000) ∧
      |480000 * (2812 / 10000) + -135000| = (24 : ℚ) ∧ ¬(24 : ℚ) ≤ 5 / 100 := by
  have hsolved : (solveBreakEven ⟨fun _ => "0.05", fun _ => ""⟩
      (fun value => some (480000 * value + -135000)) (1 / 100) 42 200
      .churnProbPerInappropriateContact 0 1 (5 / 100) 40).map
        (fun result => (result.note, result.breakEvenValue)) =
      some (withinNote ⟨fun _ => "0.05", fun _ => ""⟩ (5 / 100) .churnProbPerInappropriateContact,
        some (2812 / 10000)) := by
    decide +kernel
  obtain ⟨result, hresult, hfields⟩ := Option.map_eq_some_iff.1 hsolved
  obtain ⟨hnote, hvalue⟩ := Prod.mk.inj hfields
  exact ⟨result, hresult, hnote, hvalue, by norm_num, by norm_num⟩

end RecoveryAgent.Eval
