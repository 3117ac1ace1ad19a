import Mathlib.Algebra.Order.Group.Nat

/-!
# Attempts up to a limit

A series of attempts goes on while no attempt settles it, and at most for a number of
further attempts. It ends at one attempt, which is known by what came before it.
-/

namespace Library.Attempts

/-- Where a series ends that is at attempt `i` and may go on for `more` attempts. -/
def stop (settled : ℕ → Bool) : (more i : ℕ) → ℕ
  | 0, i => i
  | more + 1, i => if settled i then i else stop settled more (i + 1)

variable {settled : ℕ → Bool} {more i j : ℕ}

theorem stop_le (settled : ℕ → Bool) (more i : ℕ) : stop settled more i ≤ i + more := by
  induction more generalizing i with
  | zero => exact le_rfl
  | succ more ih =>
      unfold stop
      split
      · exact Nat.le_add_right i (more + 1)
      · exact (ih (i + 1)).trans (by omega)

theorem settled_before_stop (settled : ℕ → Bool) (more : ℕ) :
    ∀ {i k : ℕ}, i ≤ k → k < stop settled more i → settled k = false := by
  induction more with
  | zero => exact fun hik hk => absurd hk (not_lt.2 hik)
  | succ more ih =>
      intro i k hik hk
      unfold stop at hk
      split at hk
      · exact absurd hk (not_lt.2 hik)
      · next hgoes =>
          rcases hik.eq_or_lt with rfl | hlt
          · exact eq_false_of_ne_true hgoes
          · exact ih hlt hk

/-- A series that ends before its limit is settled. -/
theorem settled_stop (settled : ℕ → Bool) (more i : ℕ) (h : stop settled more i < i + more) :
    settled (stop settled more i) = true := by
  induction more generalizing i with
  | zero => exact absurd h (lt_irrefl _)
  | succ more ih =>
      unfold stop at h ⊢
      split
      · next hends => exact hends
      · next hgoes =>
          rw [if_neg hgoes] at h
          exact ih (i + 1) (by omega)

/-- The end of a series: the first attempt that settles it, or the last one. -/
theorem stop_eq (hij : i ≤ j) (hle : j ≤ i + more)
    (hbefore : ∀ k, i ≤ k → k < j → settled k = false)
    (hend : settled j = true ∨ j = i + more) : stop settled more i = j := by
  induction more generalizing i with
  | zero =>
      rw [stop]
      omega
  | succ more ih =>
      unfold stop
      rcases hij.eq_or_lt with rfl | hlt
      · rcases hend with hend | hend
        · rw [if_pos hend]
        · omega
      · rw [hbefore i le_rfl hlt]
        simp only [Bool.false_eq_true, if_false]
        apply ih hlt (by omega) fun k hk => hbefore k (by omega)
        exact hend.imp_right fun h => by omega

end Library.Attempts
