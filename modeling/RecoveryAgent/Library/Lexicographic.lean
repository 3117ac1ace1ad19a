import Mathlib

/-!
# Words in the order of numbers

Two words of one length decide the order of all words that go on from them. So a number that
is written as the word of a quotient, in one width, and then the word of a remainder is in the
order of the numbers.
-/

namespace Library

namespace Lexicographic

variable {α : Type*} [LinearOrder α]

theorem append_lt_append {a b : List α} (hlength : a.length = b.length) (h : a < b)
    (c d : List α) : a ++ c < b ++ d := by
  induction a generalizing b with
  | nil =>
      rw [List.eq_nil_of_length_eq_zero hlength.symm] at h
      exact absurd h (lt_irrefl _)
  | cons x xs ih =>
      cases b with
      | nil => cases hlength
      | cons y ys =>
          rw [List.cons_append, List.cons_append, List.cons_lt_cons_iff]
          rcases List.cons_lt_cons_iff.1 h with hxy | ⟨hxy, hrest⟩
          · exact Or.inl hxy
          · exact Or.inr ⟨hxy, ih (Nat.succ.inj hlength) hrest⟩

/-- Words of one width, in the order of their numbers. -/
structure Ordered (I : Set ℤ) (width : ℕ) (word : ℤ → List α) : Prop where
  strictMonoOn : StrictMonoOn word I
  length_eq : ∀ n ∈ I, (word n).length = width

variable {I : Set ℤ} {width width' : ℕ} {word word' : ℤ → List α}

theorem strictMonoOn_append_left (front : List α) (h : StrictMonoOn word I) :
    StrictMonoOn (fun n => front ++ word n) I :=
  fun _ hn _ hm hnm => List.append_left_lt (h hn hm hnm)

theorem Ordered.append_left (front : List α) (h : Ordered I width word) :
    Ordered I (front.length + width) fun n => front ++ word n where
  strictMonoOn := strictMonoOn_append_left front h.strictMonoOn
  length_eq n hn := by rw [List.length_append, h.length_eq n hn]

/-- What comes after words of one width does not matter. -/
theorem Ordered.strictMonoOn_append (h : Ordered I width word) (rest : ℤ → List α) :
    StrictMonoOn (fun n => word n ++ rest n) I :=
  fun n hn m hm hnm => append_lt_append ((h.length_eq n hn).trans (h.length_eq m hm).symm)
    (h.strictMonoOn hn hm hnm) _ _

/-- The words of the quotient and of the remainder. -/
theorem Ordered.strictMonoOn_ediv {k : ℤ} (hk : 0 < k) (h : Ordered I width word)
    (h' : StrictMonoOn word' (Set.Ico 0 k)) :
    StrictMonoOn (fun n => word (n / k) ++ word' (n % k)) (Set.preimage (· / k) I) := by
  intro n hn m hm hnm
  have hrem : ∀ i : ℤ, i % k ∈ Set.Ico 0 k :=
    fun i => ⟨Int.emod_nonneg i hk.ne', Int.emod_lt_of_pos i hk⟩
  rcases (Int.ediv_le_ediv hk hnm.le).lt_or_eq with hlt | heq
  · exact append_lt_append ((h.length_eq _ hn).trans (h.length_eq _ hm).symm)
      (h.strictMonoOn hn hm hlt) _ _
  · have hmod : n % k < m % k := by
      have hndiv := Int.emod_add_mul_ediv n k
      have hmdiv := Int.emod_add_mul_ediv m k
      rw [heq] at hndiv
      omega
    simp only [heq]
    exact List.append_left_lt (h' (hrem n) (hrem m) hmod)

theorem Ordered.ediv {k : ℤ} (hk : 0 < k) (h : Ordered I width word)
    (h' : Ordered (Set.Ico 0 k) width' word') :
    Ordered (Set.preimage (· / k) I) (width + width') fun n => word (n / k) ++ word' (n % k) where
  strictMonoOn := h.strictMonoOn_ediv hk h'.strictMonoOn
  length_eq n hn := by
    rw [List.length_append, h.length_eq _ hn,
      h'.length_eq _ ⟨Int.emod_nonneg n hk.ne', Int.emod_lt_of_pos n hk⟩]

theorem Ordered.mono {J : Set ℤ} (hJ : J ⊆ I) (h : Ordered I width word) :
    Ordered J width word where
  strictMonoOn _ hn _ hm := h.strictMonoOn (hJ hn) (hJ hm)
  length_eq n hn := h.length_eq n (hJ hn)

theorem Ordered.congr (h : Ordered I width word) (hwords : ∀ n ∈ I, word' n = word n) :
    Ordered I width word' where
  strictMonoOn n hn m hm hnm := by
    rw [hwords n hn, hwords m hm]
    exact h.strictMonoOn hn hm hnm
  length_eq n hn := by rw [hwords n hn, h.length_eq n hn]

end Lexicographic

end Library
