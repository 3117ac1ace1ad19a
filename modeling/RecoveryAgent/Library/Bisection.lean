import Mathlib.Algebra.Order.Field.Basic
import Mathlib.Algebra.Order.Floor.Semiring
import Mathlib.Logic.Function.Iterate
import Mathlib.Tactic.FieldSimp
import Mathlib.Tactic.Linarith
import Mathlib.Tactic.Positivity
import Mathlib.Tactic.Ring

/-!
# Bisection

An interval at whose ends a function does not have one sign is halved so that the half
that is kept is such an interval again. Nothing is asked of the function: it need not be
monotone or continuous.
-/

namespace Library

variable {K : Type*} [Field K] [LinearOrder K] {f : K → K} {lo hi : K}

/-- An interval inside `[lo, hi]` at whose ends `f` does not have one sign. -/
structure Bracket (f : K → K) (lo hi : K) where
  left : K
  right : K
  lo_le_left : lo ≤ left
  left_le_right : left ≤ right
  right_le_hi : right ≤ hi
  change : f left * f right ≤ 0

namespace Bracket

def mid (b : Bracket f lo hi) : K := (b.left + b.right) / 2

def width (b : Bracket f lo hi) : K := b.right - b.left

variable [IsStrictOrderedRing K] (b : Bracket f lo hi)

theorem left_le_mid : b.left ≤ b.mid := by
  have h := b.left_le_right
  unfold mid
  linarith

theorem mid_le_right : b.mid ≤ b.right := by
  have h := b.left_le_right
  unfold mid
  linarith

theorem lo_le_mid : lo ≤ b.mid := b.lo_le_left.trans b.left_le_mid

theorem mid_le_hi : b.mid ≤ hi := b.mid_le_right.trans b.right_le_hi

/-- A middle on the side of the left end is not on the side of the right one. -/
theorem change_right (h : ¬f b.left * f b.mid ≤ 0) : f b.mid * f b.right ≤ 0 := by
  have hchange := b.change
  rcases pos_and_pos_or_neg_and_neg_of_mul_pos (not_le.1 h) with ⟨hleft, hmid⟩ | ⟨hleft, hmid⟩
  · have hright : f b.right ≤ 0 := nonpos_of_mul_nonpos_right hchange hleft
    exact mul_nonpos_of_nonneg_of_nonpos hmid.le hright
  · have hright : 0 ≤ f b.right := by
      by_contra hneg
      exact not_lt.2 hchange (mul_pos_of_neg_of_neg hleft (not_le.1 hneg))
    exact mul_nonpos_of_nonpos_of_nonneg hmid.le hright

/-- The half over which the sign still changes; the lower one if both do. -/
def halve : Bracket f lo hi :=
  if h : f b.left * f b.mid ≤ 0 then
    { b with
      right := b.mid
      left_le_right := b.left_le_mid
      right_le_hi := b.mid_le_hi
      change := h }
  else
    { b with
      left := b.mid
      lo_le_left := b.lo_le_mid
      left_le_right := b.mid_le_right
      change := b.change_right h }

theorem width_halve : b.halve.width = b.width / 2 := by
  unfold halve
  split
  · change b.mid - b.left = (b.right - b.left) / 2
    unfold mid
    ring
  · change b.right - b.mid = (b.right - b.left) / 2
    unfold mid
    ring

/-- Halve until the middle is good enough, at most so many times. -/
def search (good : K → Bool) : ℕ → Bracket f lo hi → Bool × Bracket f lo hi
  | 0, b => (false, b)
  | n + 1, b => if good b.mid then (true, b) else search good n b.halve

variable {good : K → Bool} {n : ℕ}

theorem good_of_search (h : (search good n b).1 = true) :
    good (search good n b).2.mid = true := by
  induction n generalizing b with
  | zero => cases h
  | succ n ih =>
      rw [search] at h ⊢
      by_cases hgood : good b.mid = true
      · rw [if_pos hgood]
        exact hgood
      · rw [if_neg hgood] at h ⊢
        exact ih b.halve h

/-- A search that never met a good middle has halved its bracket every time. -/
theorem width_of_search (h : (search good n b).1 = false) :
    (search good n b).2.width = b.width / 2 ^ n := by
  induction n generalizing b with
  | zero => rw [search, pow_zero, div_one]
  | succ n ih =>
      rw [search] at h ⊢
      by_cases hgood : good b.mid = true
      · rw [if_pos hgood] at h
        cases h
      · rw [if_neg hgood] at h ⊢
        rw [ih b.halve h, width_halve, div_div, pow_succ']

/-- A search stops at the first halving whose middle is good. -/
theorem search_eq_of_first {k : ℕ} (hk : k < n) (hgood : good (halve^[k] b).mid = true)
    (hfirst : ∀ j < k, good (halve^[j] b).mid = false) : search good n b = (true, halve^[k] b) := by
  induction n generalizing b k with
  | zero => cases hk
  | succ n ih =>
      rw [search]
      cases k with
      | zero =>
          rw [Function.iterate_zero, id] at hgood
          rw [if_pos hgood]
          rfl
      | succ k =>
          have hzero : good b.mid = false := hfirst 0 (Nat.succ_pos k)
          rw [if_neg (by rw [hzero]; decide), Function.iterate_succ_apply]
          apply ih b.halve (Nat.lt_of_succ_lt_succ hk)
          · rwa [Function.iterate_succ_apply] at hgood
          · intro j hj
            have hnext := hfirst (j + 1) (Nat.succ_lt_succ hj)
            rwa [Function.iterate_succ_apply] at hnext

/-- A search that ends well has stopped at some halving for the first time. -/
theorem exists_first_of_search (h : (search good n b).1 = true) :
    ∃ k < n, good (halve^[k] b).mid = true ∧ ∀ j < k, good (halve^[j] b).mid = false := by
  induction n generalizing b with
  | zero => cases h
  | succ n ih =>
      rw [search] at h
      by_cases hgood : good b.mid = true
      · exact ⟨0, Nat.succ_pos n, hgood, fun j hj => absurd hj (Nat.not_lt_zero j)⟩
      · rw [if_neg hgood] at h
        obtain ⟨k, hk, hgoodLater, hfirst⟩ := ih b.halve h
        refine ⟨k + 1, Nat.succ_lt_succ hk, ?_, ?_⟩
        · rwa [Function.iterate_succ_apply]
        · intro j hj
          cases j with
          | zero => exact Bool.eq_false_iff.2 hgood
          | succ j =>
              rw [Function.iterate_succ_apply]
              exact hfirst j (Nat.lt_of_succ_lt_succ hj)

/-- The whole interval, when the sign changes over it. -/
def whole (hle : lo ≤ hi) (hchange : f lo * f hi ≤ 0) : Bracket f lo hi where
  left := lo
  right := hi
  lo_le_left := le_rfl
  left_le_right := hle
  right_le_hi := le_rfl
  change := hchange

end Bracket

/-!
## Where one crossing leads

A function that changes its sign at one point only keeps that point in its bracket. So the
brackets are the dyadic cells of the point, and which points are tried is known beforehand.
-/

/-- `f` has one sign below `r` and the other one above. -/
def CrossesAt (f : K → K) (r : K) : Prop :=
  ∀ x y, x ≤ y → (f x * f y ≤ 0 ↔ x ≤ r ∧ r ≤ y)

section

variable [FloorSemiring K]

/-- The number of the cell of `x` among the unit cells that are open to the left; the first
one is closed. -/
def cell (x : K) : ℕ := ⌈x⌉₊ - 1

/-- The `k`-th point that is tried between `lo` and `hi` when the crossing is at `r`. -/
def probe (lo hi r : K) (k : ℕ) : K :=
  lo + (hi - lo) * (2 * cell (2 ^ k * ((r - lo) / (hi - lo))) + 1) / 2 ^ (k + 1)

theorem cell_eq_iff {x : K} {j : ℕ} : cell x = j ↔ x ≤ j + 1 ∧ (j = 0 ∨ j < x) := by
  have hle : ⌈x⌉₊ ≤ j + 1 ↔ x ≤ j + 1 := by
    rw [Nat.ceil_le]
    push_cast
    rfl
  have hlt : j < ⌈x⌉₊ ↔ (j : K) < x := Nat.lt_ceil
  rw [cell, ← hle, ← hlt]
  omega

variable [IsStrictOrderedRing K]

/-- The cell of half the width: the lower half up to its end, else the upper one. -/
theorem cell_two_mul {x : K} {j : ℕ} (h : cell x = j) :
    cell (2 * x) = if 2 * x ≤ 2 * j + 1 then 2 * j else 2 * j + 1 := by
  obtain ⟨hle, hlow⟩ := cell_eq_iff.1 h
  split
  · next hhalf =>
      rw [cell_eq_iff]
      push_cast
      refine ⟨hhalf, ?_⟩
      rcases hlow with rfl | hlow
      · exact Or.inl rfl
      · exact Or.inr (by linarith)
  · next hhalf =>
      rw [cell_eq_iff]
      push_cast
      exact ⟨by linarith, Or.inr (not_le.1 hhalf)⟩

variable {r : K}

/-- The brackets of a search are the cells of the crossing. -/
theorem iterate_halve (hcross : CrossesAt f r) (hlt : lo < hi) (hchange : f lo * f hi ≤ 0)
    (k : ℕ) :
    (Bracket.halve^[k] (Bracket.whole hlt.le hchange)).left =
        lo + (hi - lo) * cell (2 ^ k * ((r - lo) / (hi - lo))) / 2 ^ k ∧
      (Bracket.halve^[k] (Bracket.whole hlt.le hchange)).right =
        lo + (hi - lo) * (cell (2 ^ k * ((r - lo) / (hi - lo))) + 1) / 2 ^ k := by
  have hwidth : 0 < hi - lo := sub_pos.2 hlt
  induction k with
  | zero =>
      have hr := (hcross lo hi hlt.le).1 hchange
      have hcell : cell (2 ^ 0 * ((r - lo) / (hi - lo))) = 0 := by
        rw [cell_eq_iff, pow_zero, one_mul, Nat.cast_zero, zero_add, div_le_one hwidth]
        exact ⟨sub_le_sub_right hr.2 lo, Or.inl rfl⟩
      rw [hcell]
      constructor
      · simp [Bracket.whole]
      · simp [Bracket.whole]
  | succ k ih =>
      obtain ⟨hleft, hright⟩ := ih
      rw [Function.iterate_succ_apply']
      set b := Bracket.halve^[k] (Bracket.whole hlt.le hchange) with hb
      set j := cell (2 ^ k * ((r - lo) / (hi - lo))) with hj
      have hmid : b.mid = lo + (hi - lo) * (2 * j + 1) / 2 ^ (k + 1) := by
        rw [Bracket.mid, hleft, hright, pow_succ]
        field_simp
        ring
      have hcell := cell_two_mul hj.symm
      rw [← mul_assoc, ← pow_succ'] at hcell
      have hbelow : f b.left * f b.mid ≤ 0 ↔ 2 ^ (k + 1) * ((r - lo) / (hi - lo)) ≤ 2 * j + 1 := by
        have hinside := (hcross b.left b.right b.left_le_right).1 b.change
        rw [hcross b.left b.mid b.left_le_mid, and_iff_right hinside.1, hmid,
          ← sub_le_iff_le_add', mul_div_assoc, ← div_le_iff₀' hwidth, le_div_iff₀' (by positivity)]
      rw [hcell]
      unfold Bracket.halve
      by_cases h : f b.left * f b.mid ≤ 0
      · rw [dif_pos h, if_pos (hbelow.1 h)]
        constructor
        · rw [hleft, pow_succ]
          push_cast
          field_simp
        · change b.mid = _
          rw [hmid]
          push_cast
          ring
      · rw [dif_neg h, if_neg (mt hbelow.2 h)]
        constructor
        · change b.mid = _
          rw [hmid]
          push_cast
          ring
        · rw [hright, pow_succ]
          push_cast
          field_simp
          ring

/-- The points that a search tries. -/
theorem mid_iterate_halve (hcross : CrossesAt f r) (hlt : lo < hi) (hchange : f lo * f hi ≤ 0)
    (k : ℕ) :
    (Bracket.halve^[k] (Bracket.whole hlt.le hchange)).mid = probe lo hi r k := by
  obtain ⟨hleft, hright⟩ := iterate_halve hcross hlt hchange k
  rw [Bracket.mid, hleft, hright, probe, pow_succ]
  field_simp
  ring

end

end Library
