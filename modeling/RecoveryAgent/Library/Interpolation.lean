import Mathlib.Algebra.Order.Floor.Semiring
import Mathlib.Algebra.Order.Field.Basic
import Mathlib.Data.List.Sort
import Mathlib.Tactic.Linarith
import Mathlib.Tactic.Ring

/-!
# Interpolation between order statistics

A sequence is continued to the numbers between its indices by straight lines. The
continuation of a monotone sequence is monotone, and never leaves the two values it lies
between. The sequence meant here is that of the order statistics of a list: its elements in
order, the last one repeated for ever.
-/

namespace Library

section

variable {K : Type*} [Field K] [LinearOrder K] [FloorSemiring K]

/-- The straight line between the two neighbours of `k`. -/
def interpolate (v : ℕ → K) (k : K) : K := v ⌊k⌋₊ + (k - ⌊k⌋₊) * (v (⌊k⌋₊ + 1) - v ⌊k⌋₊)

variable [IsStrictOrderedRing K] {v : ℕ → K}

theorem interpolate_natCast (v : ℕ → K) (n : ℕ) : interpolate v n = v n := by
  rw [interpolate, Nat.floor_natCast, sub_self, zero_mul, add_zero]

theorem interpolate_natCast_add_half (v : ℕ → K) (n : ℕ) :
    interpolate v (n + 1 / 2) = (v n + v (n + 1)) / 2 := by
  have hfloor : ⌊(n : K) + 1 / 2⌋₊ = n := by
    rw [Nat.floor_eq_iff (by positivity)]
    constructor
    · linarith
    · linarith
  rw [interpolate, hfloor]
  ring

/-- A point of the line is between its neighbours. -/
theorem interpolate_mem (hv : Monotone v) {k : K} (hk : 0 ≤ k) :
    v ⌊k⌋₊ ≤ interpolate v k ∧ interpolate v k ≤ v (⌊k⌋₊ + 1) := by
  have hlow : 0 ≤ k - ⌊k⌋₊ := sub_nonneg.2 (Nat.floor_le hk)
  have hhigh : k - ⌊k⌋₊ ≤ 1 := by linarith [Nat.lt_floor_add_one k]
  have hrise : 0 ≤ v (⌊k⌋₊ + 1) - v ⌊k⌋₊ := sub_nonneg.2 (hv (Nat.le_succ _))
  constructor
  · exact le_add_of_nonneg_right (mul_nonneg hlow hrise)
  · have hstep : (k - ⌊k⌋₊) * (v (⌊k⌋₊ + 1) - v ⌊k⌋₊) ≤ v (⌊k⌋₊ + 1) - v ⌊k⌋₊ :=
      mul_le_of_le_one_left hrise hhigh
    rw [interpolate]
    linarith

/-- On one line by its slope, across lines by the values at the indices in between. -/
theorem interpolate_monotoneOn (hv : Monotone v) : MonotoneOn (interpolate v) (Set.Ici 0) := by
  intro k hk l hl hkl
  rcases (Nat.floor_mono hkl).lt_or_eq with hlt | heq
  · calc interpolate v k ≤ v (⌊k⌋₊ + 1) := (interpolate_mem hv hk).2
      _ ≤ v ⌊l⌋₊ := hv hlt
      _ ≤ interpolate v l := (interpolate_mem hv hl).1
  · have hrise : 0 ≤ v (⌊k⌋₊ + 1) - v ⌊k⌋₊ := sub_nonneg.2 (hv (Nat.le_succ _))
    rw [interpolate, interpolate, ← heq]
    apply add_le_add_right
    exact mul_le_mul_of_nonneg_right (sub_le_sub_right hkl _) hrise

end

/-!
## Order statistics
-/

section

variable {α : Type*} [LinearOrder α] {xs ys : List α}

/-- Sorting forgets the order. -/
theorem insertionSort_eq_of_perm (h : xs.Perm ys) :
    xs.insertionSort (· ≤ ·) = ys.insertionSort (· ≤ ·) :=
  (((List.perm_insertionSort _ xs).trans h).trans
    (List.perm_insertionSort _ ys).symm).eq_of_pairwise
    (fun _ _ _ _ => le_antisymm) (List.pairwise_insertionSort _ xs)
    (List.pairwise_insertionSort _ ys)

/-- The `i`-th smallest element, the greatest from the end on. -/
def orderStatistic (xs : List α) (hne : xs ≠ []) (i : ℕ) : α :=
  (xs.insertionSort (· ≤ ·)).get
    ⟨min i (xs.length - 1), by
      have hpos := List.length_pos_iff.2 hne
      rw [List.length_insertionSort]
      omega⟩

variable (hne : xs ≠ [])

theorem orderStatistic_mono : Monotone (orderStatistic xs hne) := by
  intro i j hij
  have hsorted := List.pairwise_insertionSort (· ≤ ·) xs
  exact (List.sortedLE_iff_pairwise.2 hsorted).monotone_get (by simp; omega)

theorem orderStatistic_mem (i : ℕ) : orderStatistic xs hne i ∈ xs :=
  (List.mem_insertionSort _).1 (List.get_mem _ _)

/-- The place of an element in the order. -/
theorem exists_orderStatistic_eq {x : α} (hx : x ∈ xs) :
    ∃ i < xs.length, orderStatistic xs hne i = x := by
  obtain ⟨i, hi⟩ := List.get_of_mem ((List.mem_insertionSort (· ≤ ·)).2 hx)
  have hlt : (i : ℕ) < xs.length := by simpa using i.2
  refine ⟨i, hlt, ?_⟩
  rw [← hi, orderStatistic]
  congr 2
  omega

theorem orderStatistic_zero : xs.min? = some (orderStatistic xs hne 0) := by
  rw [List.min?_eq_some_iff]
  refine ⟨orderStatistic_mem hne 0, fun x hx => ?_⟩
  obtain ⟨i, -, rfl⟩ := exists_orderStatistic_eq hne hx
  exact orderStatistic_mono hne (Nat.zero_le i)

theorem orderStatistic_last : xs.max? = some (orderStatistic xs hne (xs.length - 1)) := by
  rw [List.max?_eq_some_iff]
  refine ⟨orderStatistic_mem hne _, fun x hx => ?_⟩
  obtain ⟨i, hi, rfl⟩ := exists_orderStatistic_eq hne hx
  exact orderStatistic_mono hne (by omega)

end

end Library
