import Mathlib.Algebra.BigOperators.Ring.List
import Mathlib.Algebra.Order.BigOperators.Group.List
import Mathlib.Algebra.Order.Field.Basic

/-!
# Pooled shares

The share that parts make of wholes when both are added up lies between the least and the
greatest of the single shares. A share of nothing counts as zero.
-/

namespace Library

namespace Pooling

variable {α K : Type*} [Field K] [LinearOrder K] [IsStrictOrderedRing K]

/-- A part of a whole. -/
def share (part whole : K) : K := if whole ≠ 0 then part / whole else 0

omit [IsStrictOrderedRing K] in
theorem share_mul {part whole : K} (h : whole = 0 → part = 0) :
    share part whole * whole = part := by
  unfold share
  by_cases hwhole : whole = 0
  · rw [hwhole, mul_zero, h hwhole]
  · rw [if_pos hwhole, div_mul_cancel₀ part hwhole]

variable {part whole : α → K} {xs : List α}

theorem sum_le_mul_sum {bound : K} (h : ∀ x ∈ xs, part x ≤ bound * whole x) :
    (xs.map part).sum ≤ bound * (xs.map whole).sum := by
  rw [← List.sum_map_mul_left]
  exact List.sum_le_sum h

theorem mul_sum_le_sum {bound : K} (h : ∀ x ∈ xs, bound * whole x ≤ part x) :
    bound * (xs.map whole).sum ≤ (xs.map part).sum := by
  rw [← List.sum_map_mul_left]
  exact List.sum_le_sum h

/-- Bounds of all the shares are bounds of the share of the sums. -/
theorem share_sum_mem (hne : xs ≠ []) (hwhole : ∀ x ∈ xs, 0 ≤ whole x)
    (hpart : ∀ x ∈ xs, whole x = 0 → part x = 0) {low high : K}
    (h : ∀ x ∈ xs, share (part x) (whole x) ∈ Set.Icc low high) :
    share (xs.map part).sum (xs.map whole).sum ∈ Set.Icc low high := by
  have hupper : (xs.map part).sum ≤ high * (xs.map whole).sum := sum_le_mul_sum fun x hx => by
    have hshare := mul_le_mul_of_nonneg_right (h x hx).2 (hwhole x hx)
    rwa [share_mul (hpart x hx)] at hshare
  have hlower : low * (xs.map whole).sum ≤ (xs.map part).sum := mul_sum_le_sum fun x hx => by
    have hshare := mul_le_mul_of_nonneg_right (h x hx).1 (hwhole x hx)
    rwa [share_mul (hpart x hx)] at hshare
  have hwholes : ∀ y ∈ xs.map whole, 0 ≤ y := fun y hy => by
    obtain ⟨x, hx, rfl⟩ := List.mem_map.1 hy
    exact hwhole x hx
  have hsum : 0 ≤ (xs.map whole).sum := List.sum_nonneg hwholes
  rcases hsum.eq_or_lt with hzero | hpos
  · -- no whole at all: the shares are zero, and there is one of them
    obtain ⟨x, hx⟩ := List.exists_mem_of_ne_nil xs hne
    have hall : ∀ y ∈ xs.map whole, y = 0 :=
      fun y hy => List.all_zero_of_le_zero_le_of_sum_eq_zero hwholes hzero.symm hy
    have hshare := h x hx
    rw [share, if_neg (not_not.2 (hall _ (List.mem_map_of_mem hx)))] at hshare
    rw [share, if_neg (not_not.2 hzero.symm)]
    exact hshare
  · rw [share, if_pos hpos.ne']
    exact ⟨(le_div_iff₀ hpos).2 hlower, (div_le_iff₀ hpos).2 hupper⟩

end Pooling

end Library
