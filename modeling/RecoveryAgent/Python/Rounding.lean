import Mathlib.Algebra.Order.Floor.Ring
import Mathlib.Algebra.Order.Ring.Unbundled.Rat
import Mathlib.Data.Rat.Floor
import RecoveryAgent.Library.Rounding
import RecoveryAgent.Python.Values

/-!
# Rounding in exact arithmetic

`round(q, digits)` rounds to the grid of the powers of ten, halves to the even digit.
-/

namespace RecoveryAgent.Python

open Library Rounding

theorem floor_near (q : ℚ) : (q.floor : ℚ) ≤ q ∧ q < q.floor + 1 := by
  have hfloor : q.floor = ⌊q⌋ := rfl
  rw [hfloor]
  exact ⟨Int.floor_le q, Int.lt_floor_add_one q⟩

/-- The nearest integer is below or above. -/
theorem roundHalfEven_between (q : ℚ) :
    q.floor ≤ roundHalfEven q ∧ roundHalfEven q ≤ q.floor + 1 := by
  unfold roundHalfEven
  simp only
  split
  · omega
  · split
    · omega
    · split
      · omega
      · omega

theorem roundHalfEven_mono : Monotone roundHalfEven := by
  intro p q hpq
  have hp := roundHalfEven_between p
  have hq := roundHalfEven_between q
  have hfloor : p.floor ≤ q.floor := Int.floor_le_floor hpq
  rcases hfloor.lt_or_eq with hlt | heq
  · omega
  · -- between the same two integers, the larger fraction is rounded up first
    unfold roundHalfEven
    simp only [heq]
    have hfraction : p - q.floor ≤ q - q.floor := sub_le_sub_right hpq _
    by_cases hlow : p - q.floor < 1 / 2
    · rw [if_pos hlow]
      split
      · exact le_rfl
      · split
        · omega
        · split
          · exact le_rfl
          · omega
    · have hqlow : ¬q - q.floor < 1 / 2 := fun h => hlow (lt_of_le_of_lt hfraction h)
      rw [if_neg hlow, if_neg hqlow]
      by_cases hhigh : 1 / 2 < p - q.floor
      · rw [if_pos hhigh, if_pos (lt_of_lt_of_le hhigh hfraction)]
      · rw [if_neg hhigh]
        by_cases hqhigh : 1 / 2 < q - q.floor
        · rw [if_pos hqhigh]
          split
          · omega
          · exact le_rfl
        · rw [if_neg hqhigh]

theorem roundHalfEven_near (q : ℚ) : |(roundHalfEven q : ℚ) - q| ≤ 1 / 2 := by
  obtain ⟨hlow, hhigh⟩ := floor_near q
  unfold roundHalfEven
  simp only
  apply abs_le.2
  split
  · next hbelow => constructor <;> linarith
  · next hbelow =>
      split
      · next habove =>
          push_cast
          constructor <;> linarith
      · next habove =>
          split
          · constructor <;> linarith
          · push_cast
            constructor <;> linarith

theorem nearest_roundHalfEven : Nearest roundHalfEven where
  mono := roundHalfEven_mono
  near := roundHalfEven_near

theorem ten_pow_pos (digits : ℕ) : (0 : ℚ) < 10 ^ digits := pow_pos (by norm_num) digits

theorem round_mono (digits : ℕ) : Monotone (round · digits) :=
  nearest_roundHalfEven.scaled_mono (ten_pow_pos digits)

theorem round_near (q : ℚ) (digits : ℕ) : |round q digits - q| ≤ 1 / (2 * 10 ^ digits) :=
  nearest_roundHalfEven.scaled_near (ten_pow_pos digits) q

theorem onGrid_round (q : ℚ) (digits : ℕ) : OnGrid (10 ^ digits) (round q digits) :=
  onGrid_scaled roundHalfEven (ten_pow_pos digits).ne' q

theorem round_of_onGrid {q : ℚ} {digits : ℕ} (h : OnGrid (10 ^ digits) q) : round q digits = q :=
  nearest_roundHalfEven.scaled_of_onGrid (ten_pow_pos digits) h

end RecoveryAgent.Python
