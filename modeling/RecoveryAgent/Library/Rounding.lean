import Mathlib.Algebra.BigOperators.Group.List.Basic
import Mathlib.Algebra.Order.Field.Basic
import Mathlib.Algebra.Order.Ring.Abs
import Mathlib.Data.Int.ConditionallyCompleteOrder
import Mathlib.Tactic.Linarith
import Mathlib.Tactic.Ring

/-!
# Rounding to a grid

A rounding to the integers that is monotone and never further away than one half rounds,
after scaling by `s`, to the multiples of `1 / s`. It keeps what is on that grid, it is
monotone, and each rounded summand of a sum adds at most half a step of the grid to the
error.
-/

namespace Library

namespace Rounding

section

variable {K : Type*} [Field K] {s : K}

/-- Rounding to the multiples of `1 / s`. -/
def scaled (r : K → ℤ) (s x : K) : K := r (x * s) / s

/-- `x` is a multiple of `1 / s`. -/
def OnGrid (s x : K) : Prop := ∃ n : ℤ, x * s = n

theorem onGrid_scaled (r : K → ℤ) (hs : s ≠ 0) (x : K) : OnGrid s (scaled r s x) :=
  ⟨r (x * s), div_mul_cancel₀ _ hs⟩

theorem onGrid_zero (s : K) : OnGrid s 0 := ⟨0, by simp⟩

theorem OnGrid.add {x y : K} (hx : OnGrid s x) (hy : OnGrid s y) : OnGrid s (x + y) := by
  obtain ⟨n, hn⟩ := hx
  obtain ⟨m, hm⟩ := hy
  refine ⟨n + m, ?_⟩
  rw [add_mul, hn, hm]
  push_cast
  rfl

theorem onGrid_sum {xs : List K} (h : ∀ x ∈ xs, OnGrid s x) : OnGrid s xs.sum := by
  induction xs with
  | nil => exact onGrid_zero s
  | cons x xs ih =>
      rw [List.sum_cons]
      exact (h x List.mem_cons_self).add (ih fun y hy => h y (List.mem_cons_of_mem x hy))

theorem OnGrid.sub {x y : K} (hx : OnGrid s x) (hy : OnGrid s y) : OnGrid s (x - y) := by
  obtain ⟨n, hn⟩ := hx
  obtain ⟨m, hm⟩ := hy
  refine ⟨n - m, ?_⟩
  rw [sub_mul, hn, hm]
  push_cast
  rfl

end

variable {K : Type*} [Field K] [LinearOrder K] [IsStrictOrderedRing K]

/-- A monotone rounding to a nearest integer. -/
structure Nearest (r : K → ℤ) : Prop where
  mono : Monotone r
  near : ∀ x, |(r x : K) - x| ≤ 1 / 2

variable {r : K → ℤ} {s : K}

/-- An integer is its own nearest integer. -/
theorem Nearest.intCast (h : Nearest r) (n : ℤ) : r n = n := by
  have hnear := abs_le.1 (h.near n)
  have hupper : ((r n - n : ℤ) : K) < 1 := by
    push_cast
    linarith
  have hlower : (-1 : K) < ((r n - n : ℤ) : K) := by
    push_cast
    linarith
  have hlt : r n - n < 1 := by exact_mod_cast hupper
  have hgt : -1 < r n - n := by exact_mod_cast hlower
  omega

theorem Nearest.scaled_mono (h : Nearest r) (hs : 0 < s) : Monotone (scaled r s) := by
  intro x y hxy
  have hrounded : r (x * s) ≤ r (y * s) := h.mono (mul_le_mul_of_nonneg_right hxy hs.le)
  exact div_le_div_of_nonneg_right (by exact_mod_cast hrounded) hs.le

theorem Nearest.scaled_of_onGrid (h : Nearest r) (hs : 0 < s) {x : K} (hx : OnGrid s x) :
    scaled r s x = x := by
  obtain ⟨n, hn⟩ := hx
  rw [scaled, hn, h.intCast, ← hn, mul_div_cancel_right₀ _ hs.ne']

/-- Rounding moves by half a step at most. -/
theorem Nearest.scaled_near (h : Nearest r) (hs : 0 < s) (x : K) :
    |scaled r s x - x| ≤ 1 / (2 * s) := by
  have hscale : scaled r s x - x = (r (x * s) - x * s) / s := by
    rw [scaled, sub_div, mul_div_cancel_right₀ _ hs.ne']
  rw [hscale, abs_div, abs_of_pos hs, ← div_div]
  exact div_le_div_of_nonneg_right (h.near _) hs.le

/-!
## Sums
-/

/-- Summands that are near each other add up to sums that are near each other. -/
theorem sum_map_near {α : Type*} {f g : α → K} {ε : K} (xs : List α)
    (h : ∀ x ∈ xs, |f x - g x| ≤ ε) : |(xs.map f).sum - (xs.map g).sum| ≤ xs.length * ε := by
  induction xs with
  | nil => simp
  | cons x xs ih =>
      have hrest := ih fun y hy => h y (List.mem_cons_of_mem x hy)
      have hsplit : ((x :: xs).map f).sum - ((x :: xs).map g).sum =
          (f x - g x) + ((xs.map f).sum - (xs.map g).sum) := by
        rw [List.map_cons, List.map_cons, List.sum_cons, List.sum_cons]
        ring
      rw [hsplit, List.length_cons]
      push_cast
      calc |(f x - g x) + ((xs.map f).sum - (xs.map g).sum)|
          ≤ |f x - g x| + |(xs.map f).sum - (xs.map g).sum| := abs_add_le _ _
        _ ≤ ε + xs.length * ε := add_le_add (h x List.mem_cons_self) hrest
        _ = (xs.length + 1) * ε := by ring

/-- Rounded summands add up to the sum of the summands, up to half a step for each. -/
theorem Nearest.sum_near (h : Nearest r) (hs : 0 < s) (xs : List K) :
    |(xs.map (scaled r s)).sum - xs.sum| ≤ xs.length * (1 / (2 * s)) := by
  have hnear := sum_map_near (g := id) xs fun x _ => h.scaled_near hs x
  rwa [List.map_id] at hnear

/-- The rounded summands against the rounded sum. -/
theorem Nearest.sum_scaled_near (h : Nearest r) (hs : 0 < s) (xs : List K) :
    |(xs.map (scaled r s)).sum - scaled r s xs.sum| ≤ (xs.length + 1) * (1 / (2 * s)) := by
  have hsum := abs_le.1 (h.sum_near hs xs)
  have hone := abs_le.1 (h.scaled_near hs xs.sum)
  rw [add_mul, one_mul]
  apply abs_le.2
  constructor
  · linarith [hsum.1, hone.2]
  · linarith [hsum.2, hone.1]

end Rounding

end Library
