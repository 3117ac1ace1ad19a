import Mathlib.Tactic.NormNum
import RecoveryAgent.Library.Interpolation
import RecoveryAgent.Python.Rounding

/-!
# The statistics over many seeds

`_percentile` and `_scalar_stats` of `eval/benchmark.py`. A percentile interpolates between
the order statistics of its values, and is rounded to four digits.
-/

namespace RecoveryAgent.Eval

open Python Library

/-- `xs[i]`, which counts from the end for a negative index and raises beyond the ends. -/
def pyIndex {α : Type*} (xs : List α) (i : ℤ) : Option α :=
  if 0 ≤ i then xs[i.toNat]?
  else if 0 ≤ i + xs.length then xs[(i + xs.length).toNat]?
  else none

/-- `_percentile`. It raises where an index is beyond the ends. -/
def percentile (values : List ℚ) (pct : ℚ) : Option ℚ :=
  let vals := values.insertionSort (· ≤ ·)
  if vals = [] then some 0
  else if vals.length = 1 then (pyIndex vals 0).map (round · 4)
  else do
    let k : ℚ := ((vals.length - 1 : ℤ) : ℚ) * pct / 100
    let f := truncate k
    let c := min (f + 1) (vals.length - 1)
    if f = c then (pyIndex vals f).map (round · 4)
    else do
      let low ← pyIndex vals f
      let high ← pyIndex vals c
      some (round (low + (k - f) * (high - low)) 4)

/-- `statistics.median`. It raises for no values. -/
def median (values : List ℚ) : Option ℚ :=
  let data := values.insertionSort (· ≤ ·)
  let n := data.length
  if n = 0 then none
  else if n % 2 = 1 then data[n / 2]?
  else do
    let below ← data[n / 2 - 1]?
    let above ← data[n / 2]?
    some ((below + above) / 2)

structure ScalarStats where
  mean : ℚ
  median : ℚ
  p10 : ℚ
  p90 : ℚ
  stdev : ℚ
  min : ℚ
  max : ℚ
  n : ℕ

/-- `_scalar_stats`. A standard deviation is a square root, which `stdev` stands for. -/
def scalarStats (stdev : List ℚ → ℚ) (vals : List ℚ) : Option ScalarStats :=
  if vals = [] then
    some { mean := 0, median := 0, p10 := 0, p90 := 0, stdev := 0, min := 0, max := 0, n := 0 }
  else do
    let middle ← median vals
    let p10 ← percentile vals 10
    let p90 ← percentile vals 90
    let least ← vals.min?
    let greatest ← vals.max?
    some
      { mean := round (vals.sum / vals.length) 4
        median := round middle 4
        p10
        p90
        stdev := if 1 < vals.length then round (stdev vals) 4 else 0
        min := round least 4
        max := round greatest 4
        n := vals.length }

/-!
## On values that there are
-/

/-- The place among the order statistics that a percentile stands for. -/
def rank (values : List ℚ) (pct : ℚ) : ℚ := (values.length - 1) * pct / 100

theorem rank_zero (values : List ℚ) : rank values 0 = (0 : ℕ) := by
  simp [rank]

theorem truncate_of_nonneg {q : ℚ} (h : 0 ≤ q) : truncate q = (⌊q⌋₊ : ℤ) := by
  rw [truncate, if_neg (not_lt.2 h)]
  exact (Int.natCast_floor_eq_floor h).symm

section

variable {values : List ℚ} (hne : values ≠ [])

include hne

theorem getElem?_insertionSort {i : ℕ} (hi : i < values.length) :
    (values.insertionSort (· ≤ ·))[i]? = some (orderStatistic values hne i) := by
  have hlt : i < (values.insertionSort (· ≤ ·)).length := by
    rwa [List.length_insertionSort]
  rw [List.getElem?_eq_getElem hlt, orderStatistic]
  congr 2
  exact (min_eq_left (by omega)).symm

theorem pyIndex_insertionSort {i : ℤ} (hzero : 0 ≤ i) (hi : i < values.length) :
    pyIndex (values.insertionSort (· ≤ ·)) i = some (orderStatistic values hne i.toNat) := by
  rw [pyIndex, if_pos hzero]
  exact getElem?_insertionSort hne (by omega)

theorem rank_nonneg {pct : ℚ} (hpct : 0 ≤ pct) : 0 ≤ rank values pct := by
  have hlength : (1 : ℚ) ≤ values.length := by
    exact_mod_cast List.length_pos_iff.2 hne
  exact div_nonneg (mul_nonneg (by linarith) hpct) (by norm_num)

theorem rank_mono : Monotone (rank values) := by
  intro p q hpq
  have hlength : (1 : ℚ) ≤ values.length := by
    exact_mod_cast List.length_pos_iff.2 hne
  apply div_le_div_of_nonneg_right _ (by norm_num)
  exact mul_le_mul_of_nonneg_left hpq (by linarith)

theorem rank_hundred : rank values 100 = (values.length - 1 : ℕ) := by
  rw [rank, Nat.cast_sub (List.length_pos_iff.2 hne)]
  push_cast
  ring

/-- Between nothing and everything a rank is a place of the list, or between two of them. -/
theorem floor_rank_le {pct : ℚ} (hpct : pct ≤ 100) : ⌊rank values pct⌋₊ ≤ values.length - 1 := by
  have hfloor := Nat.floor_mono (rank_mono hne hpct)
  rwa [rank_hundred hne, Nat.floor_natCast] at hfloor

/-- At the last place the line has come to its end. -/
theorem interpolate_last {pct : ℚ} (hpct : pct ∈ Set.Icc 0 100)
    (hlast : ⌊rank values pct⌋₊ = values.length - 1) :
    interpolate (orderStatistic values hne) (rank values pct) =
      orderStatistic values hne (values.length - 1) := by
  have hrank : rank values pct = (values.length - 1 : ℕ) := by
    apply le_antisymm
    · rw [← rank_hundred hne]
      exact rank_mono hne hpct.2
    · rw [← hlast]
      exact Nat.floor_le (rank_nonneg hne hpct.1)
  rw [hrank, interpolate_natCast]

/-- A percentile is the rounded interpolation at its rank. -/
theorem percentile_eq {pct : ℚ} (hpct : pct ∈ Set.Icc 0 100) :
    percentile values pct =
      some (round (interpolate (orderStatistic values hne) (rank values pct)) 4) := by
  have hlength := List.length_insertionSort (· ≤ ·) values
  have hpos := List.length_pos_iff.2 hne
  have hsorted : values.insertionSort (· ≤ ·) ≠ [] := by
    rw [← List.length_pos_iff, hlength]
    exact hpos
  have hfloor := floor_rank_le hne hpct.2
  have hk : (((values.length : ℤ) - 1 : ℤ) : ℚ) * pct / 100 = rank values pct := by
    rw [rank]
    push_cast
    rfl
  rw [percentile]
  simp only [if_neg hsorted, hlength, hk, truncate_of_nonneg (rank_nonneg hne hpct.1)]
  by_cases hone : values.length = 1
  · rw [if_pos hone, pyIndex_insertionSort hne le_rfl (by omega),
      interpolate_last hne hpct (by omega), hone]
    rfl
  · rw [if_neg hone]
    by_cases hlast : ⌊rank values pct⌋₊ = values.length - 1
    · rw [if_pos (by omega), pyIndex_insertionSort hne (by omega) (by omega),
        interpolate_last hne hpct hlast, ← hlast]
      rfl
    · have hnext : min ((⌊rank values pct⌋₊ : ℤ) + 1) (values.length - 1) =
          (⌊rank values pct⌋₊ + 1 : ℕ) := by
        push_cast
        omega
      rw [hnext, if_neg (by omega), pyIndex_insertionSort hne (by omega) (by omega),
        pyIndex_insertionSort hne (by omega) (by omega)]
      rfl

/-- The median is the interpolation half-way. -/
theorem median_eq :
    median values = some (interpolate (orderStatistic values hne) (rank values 50)) := by
  have hpos := List.length_pos_iff.2 hne
  rw [median]
  simp only [List.length_insertionSort, if_neg hpos.ne']
  rcases Nat.even_or_odd' values.length with ⟨m, hm | hm⟩
  · -- the two middle places, of which the rank is half-way
    have hrank : rank values 50 = (m - 1 : ℕ) + 1 / 2 := by
      rw [rank, hm, Nat.cast_sub (by omega)]
      push_cast
      ring
    have hbelow : values.length / 2 - 1 = m - 1 := by omega
    have habove : values.length / 2 = m - 1 + 1 := by omega
    rw [if_neg (by omega), hbelow, habove, getElem?_insertionSort hne (by omega),
      getElem?_insertionSort hne (by omega), hrank, interpolate_natCast_add_half]
    rfl
  · have hrank : rank values 50 = (m : ℕ) := by
      rw [rank, hm]
      push_cast
      ring
    have hmiddle : values.length / 2 = m := by omega
    rw [if_pos (by omega), hmiddle, getElem?_insertionSort hne (by omega), hrank,
      interpolate_natCast]

end

theorem percentile_perm {xs ys : List ℚ} (h : xs.Perm ys) (pct : ℚ) :
    percentile xs pct = percentile ys pct := by
  rw [percentile, percentile, insertionSort_eq_of_perm h]

/-- What a percentile of the values is, for every part between nothing and everything. -/
def interpolated (values : List ℚ) (hne : values ≠ []) (pct : ℚ) : ℚ :=
  round (interpolate (orderStatistic values hne) (rank values pct)) 4

section

variable {values : List ℚ} (hne : values ≠ [])

theorem interpolated_monotoneOn : MonotoneOn (interpolated values hne) (Set.Icc 0 100) := by
  intro p hp q hq hpq
  apply round_mono 4
  exact interpolate_monotoneOn (orderStatistic_mono hne) (rank_nonneg hne hp.1)
    (rank_nonneg hne hq.1) (rank_mono hne hpq)

theorem interpolated_zero :
    interpolated values hne 0 = round (orderStatistic values hne 0) 4 := by
  rw [interpolated, rank_zero, interpolate_natCast]

theorem interpolated_hundred :
    interpolated values hne 100 = round (orderStatistic values hne (values.length - 1)) 4 := by
  rw [interpolated, rank_hundred hne, interpolate_natCast]

end

/-- Percentiles are order statistics. Those of values that there are do not depend on their
order, grow with the part, run from the rounded minimum at nothing to the rounded maximum at
everything, and are the rounded median half-way; so the five numbers that are reported are in
order. -/
theorem percentiles_are_order_statistics {values : List ℚ} (hne : values ≠ []) :
    (∀ values', values.Perm values' → ∀ pct, percentile values' pct = percentile values pct) ∧
    (∃ (q : ℚ → ℚ) (least greatest middle : ℚ),
      (∀ pct ∈ Set.Icc 0 100, percentile values pct = some (q pct)) ∧
      MonotoneOn q (Set.Icc 0 100) ∧
      values.min? = some least ∧ values.max? = some greatest ∧ median values = some middle ∧
      (∀ pct ∈ Set.Icc 0 100, round least 4 ≤ q pct ∧ q pct ≤ round greatest 4) ∧
      q 0 = round least 4 ∧ q 100 = round greatest 4 ∧ q 50 = round middle 4) ∧
    ∀ stdev, ∃ stats, scalarStats stdev values = some stats ∧ stats.min ≤ stats.p10 ∧
      stats.p10 ≤ stats.median ∧ stats.median ≤ stats.p90 ∧ stats.p90 ≤ stats.max := by
  have hmono := interpolated_monotoneOn hne
  have hzero := interpolated_zero hne
  have hhundred := interpolated_hundred hne
  have hbounds : ∀ pct ∈ Set.Icc (0 : ℚ) 100,
      round (orderStatistic values hne 0) 4 ≤ interpolated values hne pct ∧
        interpolated values hne pct ≤
          round (orderStatistic values hne (values.length - 1)) 4 := by
    intro pct hpct
    rw [← hzero, ← hhundred]
    exact ⟨hmono ⟨le_rfl, by norm_num⟩ hpct hpct.1, hmono hpct ⟨by norm_num, le_rfl⟩ hpct.2⟩
  have hten : (10 : ℚ) ∈ Set.Icc (0 : ℚ) 100 := by constructor <;> norm_num
  have hfifty : (50 : ℚ) ∈ Set.Icc (0 : ℚ) 100 := by constructor <;> norm_num
  have hninety : (90 : ℚ) ∈ Set.Icc (0 : ℚ) 100 := by constructor <;> norm_num
  refine ⟨fun values' h pct => (percentile_perm h pct).symm, ⟨interpolated values hne, _, _, _,
    fun pct hpct => percentile_eq hne hpct, hmono, orderStatistic_zero hne,
    orderStatistic_last hne, median_eq hne, hbounds, hzero, hhundred, rfl⟩, fun stdev => ?_⟩
  refine ⟨_, by rw [scalarStats, if_neg hne, median_eq hne, percentile_eq hne hten,
    percentile_eq hne hninety, orderStatistic_zero hne, orderStatistic_last hne]; rfl, ?_⟩
  exact ⟨(hbounds 10 hten).1, hmono hten hfifty (by norm_num), hmono hfifty hninety (by norm_num),
    (hbounds 90 hninety).2⟩

/-- Four values, in two orders. -/
theorem percentiles_are_order_statistics_four :
    percentile [3, 1, 4, 2] 90 = percentile [1, 2, 3, 4] 90 ∧
      ∃ stats, scalarStats (fun _ => 0) [1, 2, 3, 4] = some stats ∧ stats.min ≤ stats.p10 ∧
        stats.p10 ≤ stats.median ∧ stats.median ≤ stats.p90 ∧ stats.p90 ≤ stats.max := by
  have hne : ([1, 2, 3, 4] : List ℚ) ≠ [] := List.cons_ne_nil _ _
  have h := percentiles_are_order_statistics hne
  exact ⟨h.1 [3, 1, 4, 2] (by decide) 90, h.2.2 _⟩

end RecoveryAgent.Eval
