import Mathlib.Data.List.MinMax
import Mathlib.Data.List.Sort

/-!
# Stable ranking

The items of a list in the order of their keys, where those of one key stay in the order
they came in. The order of the keys and the order within each key leave one list only, so a
ranking is carried along by every map that keeps the order of the keys.
-/

namespace Library

namespace Ranking

variable {α β : Type*} [LinearOrder β] (key : α → β)

/-- The items by their keys. -/
def ranked (xs : List α) : List α := xs.insertionSort fun a b => key a ≤ key b

/-- `ys` is the ranking of `xs`. -/
structure Ranks (xs ys : List α) : Prop where
  sorted : ys.Pairwise fun a b => key a ≤ key b
  stable : ∀ k, ys.filter (fun a => key a = k) = xs.filter fun a => key a = k

variable {key} {xs ys zs : List α}

theorem ranked_perm (xs : List α) : (ranked key xs).Perm xs := List.perm_insertionSort _ xs

theorem ranked_ranks (xs : List α) : Ranks key xs (ranked key xs) := by
  have : Std.Total fun a b : α => key a ≤ key b := ⟨fun a b => le_total (key a) (key b)⟩
  have : IsTrans α fun a b : α => key a ≤ key b := ⟨fun _ _ _ => le_trans⟩
  refine ⟨List.pairwise_insertionSort _ xs, fun k => ?_⟩
  have hone : (xs.filter fun a => key a = k).Pairwise fun a b => key a ≤ key b := by
    refine List.pairwise_of_forall_mem_list fun a ha b hb => ?_
    have hka : key a = k := by simpa using (List.mem_filter.1 ha).2
    have hkb : key b = k := by simpa using (List.mem_filter.1 hb).2
    rw [hka, hkb]
  have hsub := (List.sublist_insertionSort hone List.filter_sublist).filter fun a => key a = k
  rw [List.filter_filter] at hsub
  simp only [Bool.and_self] at hsub
  exact (hsub.eq_of_length ((ranked_perm xs).filter _).length_eq.symm).symm

theorem Ranks.mem_iff (h : Ranks key xs ys) {a : α} : a ∈ ys ↔ a ∈ xs := by
  have hfiber : ∀ zs : List α, a ∈ zs ↔ a ∈ zs.filter fun b => key b = key a := by simp
  rw [hfiber ys, hfiber xs, h.stable]

theorem Ranks.unique (h : Ranks key xs ys) (h' : Ranks key xs zs) : ys = zs := by
  have hsame : ∀ k, ys.filter (fun a => key a = k) = zs.filter fun a => key a = k :=
    fun k => (h.stable k).trans (h'.stable k).symm
  have hsorted := h.sorted
  have hsorted' := h'.sorted
  clear h h'
  induction ys generalizing zs with
  | nil =>
      cases zs with
      | nil => rfl
      | cons z zs => simpa using hsame (key z)
  | cons y ys ih =>
      cases zs with
      | nil => simpa using hsame (key y)
      | cons z zs =>
          have hmem : ∀ {us vs : List α}, (∀ k, us.filter (fun a => key a = k) =
              vs.filter fun a => key a = k) → ∀ a ∈ us, a ∈ vs := fun huv a ha =>
            (List.mem_filter.1 (huv (key a) ▸ List.mem_filter.2 ⟨ha, decide_eq_true rfl⟩)).1
          have hyz : key y ≤ key z := by
            rcases List.mem_cons.1 (hmem (fun k => (hsame k).symm) z List.mem_cons_self) with
              rfl | hz
            · exact le_rfl
            · exact (List.pairwise_cons.1 hsorted).1 z hz
          have hzy : key z ≤ key y := by
            rcases List.mem_cons.1 (hmem hsame y List.mem_cons_self) with rfl | hy
            · exact le_rfl
            · exact (List.pairwise_cons.1 hsorted').1 y hy
          have hkey : key z = key y := le_antisymm hzy hyz
          have hheads := hsame (key y)
          rw [List.filter_cons_of_pos (p := fun a => decide (key a = key y)) (decide_eq_true rfl),
            List.filter_cons_of_pos (p := fun a => decide (key a = key y))
              (decide_eq_true hkey)] at hheads
          obtain ⟨rfl, -⟩ := List.cons.inj hheads
          rw [ih (fun k => ?_) (List.pairwise_cons.1 hsorted).2 (List.pairwise_cons.1 hsorted').2]
          have hk := hsame k
          by_cases hky : key y = k
          · simpa [hky] using hk
          · simpa [hky] using hk

/-- A map that keeps the order of the keys carries a ranking along. -/
theorem ranked_map {γ δ : Type*} [LinearOrder δ] {key' : γ → δ} {f : α → γ}
    (hf : ∀ a b, key' (f a) ≤ key' (f b) ↔ key a ≤ key b) (xs : List α) :
    ranked key' (xs.map f) = (ranked key xs).map f := by
  have hrank : Ranks key xs (ranked key xs) := ranked_ranks xs
  have hmap : Ranks key' (xs.map f) (ranked key' (xs.map f)) := ranked_ranks (xs.map f)
  refine hmap.unique ⟨?_, fun k => ?_⟩
  · rw [List.pairwise_map]
    exact hrank.sorted.imp fun hab => (hf _ _).2 hab
  · rw [List.filter_map, List.filter_map]
    by_cases hk : ∃ a, key' (f a) = k
    · obtain ⟨a, rfl⟩ := hk
      have hfiber : ((fun c => decide (key' c = key' (f a))) ∘ f) = fun b => key b = key a := by
        funext b
        rw [Function.comp_apply, decide_eq_decide]
        exact (le_antisymm_iff.trans (and_congr (hf b a) (hf a b))).trans le_antisymm_iff.symm
      rw [hfiber, hrank.stable]
    · have hnone : ∀ b, ¬((fun c => decide (key' c = k)) ∘ f) b = true := fun b hb =>
        hk ⟨b, of_decide_eq_true hb⟩
      rw [List.filter_eq_nil_iff.2 fun b _ => hnone b, List.filter_eq_nil_iff.2 fun b _ => hnone b]

/-- The head of a ranking is the first item of the least key. -/
theorem head?_ranked (xs : List α) : (ranked key xs).head? = xs.argmin key := by
  induction xs with
  | nil => rfl
  | cons x xs ih =>
      rw [List.argmin_cons, ← ih]
      change (List.orderedInsert (fun a b => key a ≤ key b) x (ranked key xs)).head? = _
      cases ranked key xs with
      | nil => rfl
      | cons y ys =>
          rw [List.orderedInsert_cons, List.head?_cons]
          by_cases hxy : key x ≤ key y
          · rw [if_pos hxy]
            simp [hxy]
          · rw [if_neg hxy]
            simp [lt_of_not_ge hxy]

/-- Items of different keys have one ranking, in whatever order they come. -/
theorem ranked_eq_of_perm {ys : List α} (hperm : ys.Perm xs)
    (hsorted : ys.Pairwise fun a b => key a < key b) : ranked key xs = ys := by
  have hranked : (ranked key xs).Pairwise fun a b => key a ≤ key b := (ranked_ranks xs).sorted
  have hsame : (ranked key xs).Perm ys := (ranked_perm xs).trans hperm.symm
  have hkeys : (ys.map key).Nodup := (List.pairwise_map.2 hsorted).imp fun hab => hab.ne
  refine hsame.eq_of_pairwise (fun a b ha hb hab hba => ?_) hranked (hsorted.imp le_of_lt)
  exact List.inj_on_of_nodup_map hkeys (hsame.mem_iff.1 ha) hb (le_antisymm hab hba)

end Ranking

end Library
