import Mathlib.Data.List.Nodup
import Mathlib.Data.List.Infix
import Mathlib.Data.List.Chain

/-!
# Tables and journals

Two shapes of stored rows. A `Table` is a list of rows with a primary key: no
two rows share a key, so a lookup has at most one answer and an insertion is
refused when the key is taken. A `Journal` is a list of rows with an increasing
sequence number: rows are only ever added at the end, under the number after
the last one. Both carry their invariant as a field, so a value that breaks it
cannot be built.
-/

namespace Library

/-- Of a kind that occurs at most once there are no two. -/
theorem eq_of_countP_le_one {α : Type*} {p : α → Bool} {l : List α} (h : l.countP p ≤ 1)
    {a b : α} (ha : a ∈ l) (hb : b ∈ l) (hpa : p a = true) (hpb : p b = true) : a = b := by
  have hfilter : (l.filter p).length ≤ 1 := by
    rw [← List.countP_eq_length_filter]
    exact h
  have hmema : a ∈ l.filter p := List.mem_filter.2 ⟨ha, hpa⟩
  have hmemb : b ∈ l.filter p := List.mem_filter.2 ⟨hb, hpb⟩
  match hl : l.filter p with
  | [] =>
      rw [hl] at hmema
      cases hmema
  | [c] =>
      rw [hl] at hmema hmemb
      rw [List.mem_singleton.1 hmema, List.mem_singleton.1 hmemb]
  | c :: c' :: rest =>
      rw [hl] at hfilter
      simp at hfilter

/-- Rows with a primary key. -/
class Keyed (R : Type*) (K : outParam (Type*)) where
  key : R → K

/-- Rows with a sequence number. -/
class Sequenced (R : Type*) where
  seq : R → ℕ

/-- A table: rows with pairwise different primary keys. -/
structure Table (R : Type*) {K : Type*} [Keyed R K] where
  rows : List R
  nodup : (rows.map Keyed.key).Nodup

namespace Table

variable {R K : Type*} [Keyed R K]

/-- The table with no rows. -/
def empty : Table R := ⟨[], List.nodup_nil⟩

@[simp] theorem empty_rows : (empty : Table R).rows = [] := rfl

variable [DecidableEq K]

/-- The row with a given key. -/
def get? (t : Table R) (k : K) : Option R :=
  t.rows.find? fun r => Keyed.key r = k

/-- Replacing the row that has the key of `r`; a table without such a row is
unchanged. -/
def set (t : Table R) (r : R) : Table R where
  rows := t.rows.map fun x => if (Keyed.key x : K) = Keyed.key r then r else x
  nodup := by
    have hkey : (t.rows.map fun x => if (Keyed.key x : K) = Keyed.key r then r else x).map
        Keyed.key = t.rows.map (Keyed.key : R → K) := by
      rw [List.map_map]
      apply List.map_congr_left
      intro x _
      simp only [Function.comp_apply]
      split
      · next h => exact h.symm
      · rfl
    rw [hkey]
    exact t.nodup

omit [DecidableEq K] in
/-- Rows of a kind that all have one key are at most one. -/
theorem countP_le_one (t : Table R) {p : R → Bool}
    (h : ∀ a ∈ t.rows, ∀ b ∈ t.rows, p a = true → p b = true →
      (Keyed.key a : K) = Keyed.key b) : t.rows.countP p ≤ 1 := by
  have hkeys : ((t.rows.filter p).map (Keyed.key : R → K)).Nodup :=
    t.nodup.sublist (List.filter_sublist.map _)
  have hmem : ∀ a ∈ t.rows.filter p, a ∈ t.rows ∧ p a = true := fun a => List.mem_filter.1
  rw [List.countP_eq_length_filter]
  match hl : t.rows.filter p with
  | [] => simp
  | [c] => simp
  | a :: b :: rest =>
      rw [hl] at hkeys hmem
      obtain ⟨ha, hpa⟩ := hmem a (by simp)
      obtain ⟨hb, hpb⟩ := hmem b (by simp)
      simp [h a ha b hb hpa hpb] at hkeys

/-- Adding a row; refused when its key is taken. -/
def insert? (t : Table R) (r : R) : Option (Table R) :=
  if h : (Keyed.key r : K) ∈ t.rows.map Keyed.key then none
  else some
    { rows := t.rows ++ [r]
      nodup := by
        rw [List.map_append]
        exact List.Nodup.append t.nodup (List.nodup_singleton _) (by simpa using h) }

theorem get?_empty (k : K) : (empty : Table R).get? k = none := rfl

theorem key_of_get? {t : Table R} {k : K} {r : R} (h : t.get? k = some r) :
    Keyed.key r = k := by
  simpa using List.find?_some h

/-- A key is held by one row only, so a stored row is the one found under its
key. -/
theorem get?_of_mem {t : Table R} {r : R} (h : r ∈ t.rows) :
    t.get? (Keyed.key r) = some r := by
  obtain ⟨rows, hnodup⟩ := t
  simp only [get?] at h ⊢
  induction rows with
  | nil => cases h
  | cons x xs ih =>
      rw [List.map_cons, List.nodup_cons] at hnodup
      rcases List.mem_cons.1 h with rfl | hmem
      · simp
      · have hne : (Keyed.key x : K) ≠ Keyed.key r := by
          intro heq
          exact hnodup.1 (heq ▸ List.mem_map_of_mem hmem)
        rw [List.find?_cons_of_neg (by simpa using hne)]
        exact ih hnodup.2 hmem

theorem get?_eq_none_iff {t : Table R} {k : K} :
    t.get? k = none ↔ ∀ r ∈ t.rows, Keyed.key r ≠ k := by
  simp [get?, List.find?_eq_none]

/-- The replaced row is found under its key, if there was one to replace. -/
theorem get?_set_self {t : Table R} {r r₀ : R} (h : t.get? (Keyed.key r) = some r₀) :
    (t.set r).get? (Keyed.key r) = some r := by
  obtain ⟨rows, hnodup⟩ := t
  simp only [get?, set] at h ⊢
  clear hnodup
  induction rows with
  | nil => cases h
  | cons x xs ih =>
      by_cases hx : (Keyed.key x : K) = Keyed.key r
      · simp [hx]
      · rw [List.find?_cons_of_neg (by simpa using hx)] at h
        simp [hx, ih h]

theorem get?_set_of_ne (t : Table R) {r : R} {k : K} (h : k ≠ Keyed.key r) :
    (t.set r).get? k = t.get? k := by
  obtain ⟨rows, hnodup⟩ := t
  simp only [get?, set]
  clear hnodup
  induction rows with
  | nil => rfl
  | cons x xs ih =>
      by_cases hx : (Keyed.key x : K) = Keyed.key r
      · have hxk : (Keyed.key x : K) ≠ k := fun e => h (e.symm.trans hx)
        simp [hx, h.symm, ih]
      · by_cases hxk : (Keyed.key x : K) = k
        · simp [hxk, h]
        · simp [hx, hxk, ih]

/-- Writing back a stored row changes nothing. -/
theorem set_eq_self {t : Table R} {r : R} (h : t.get? (Keyed.key r) = some r) : t.set r = t := by
  have hrows : t.rows.map (fun x => if (Keyed.key x : K) = Keyed.key r then r else x) =
      t.rows.map id := by
    apply List.map_congr_left
    intro x hx
    by_cases hk : (Keyed.key x : K) = Keyed.key r
    · have hxr : some x = some r := by
        rw [← get?_of_mem hx, hk, h]
      simp [Option.some.inj hxr]
    · simp [hk]
  unfold set
  cases t
  simpa using hrows

/-- Of two rows written under one key the later stays. -/
theorem set_set (t : Table R) {r r' : R} (h : (Keyed.key r : K) = Keyed.key r') :
    (t.set r).set r' = t.set r' := by
  unfold set
  simp only [List.map_map, mk.injEq]
  apply List.map_congr_left
  intro x _
  by_cases hk : (Keyed.key x : K) = Keyed.key r'
  · simp [h, hk]
  · simp [h, hk]

theorem insert?_eq_some {t t' : Table R} {r : R} (h : t.insert? r = some t') :
    t.get? (Keyed.key r) = none ∧ t'.rows = t.rows ++ [r] := by
  unfold insert? at h
  split at h
  · cases h
  · next hnot =>
      cases h
      refine ⟨get?_eq_none_iff.2 fun x hx heq => hnot ?_, rfl⟩
      exact heq ▸ List.mem_map_of_mem hx

/-- A key that no row has can be inserted. -/
theorem insert?_of_get?_eq_none {t : Table R} {r : R} (h : t.get? (Keyed.key r) = none) :
    ∃ t', t.insert? r = some t' := by
  have hfree : (Keyed.key r : K) ∉ t.rows.map Keyed.key := by
    intro hmem
    obtain ⟨x, hx, hkey⟩ := List.mem_map.1 hmem
    exact get?_eq_none_iff.1 h x hx hkey
  unfold insert?
  rw [dif_neg hfree]
  exact ⟨_, rfl⟩

/-- Writing a row under its key: it takes the place of the row that has the key, or comes after
all rows. -/
def put (t : Table R) (r : R) : Table R :=
  if h : (Keyed.key r : K) ∈ t.rows.map Keyed.key then t.set r
  else
    { rows := t.rows ++ [r]
      nodup := by
        rw [List.map_append]
        exact List.Nodup.append t.nodup (List.nodup_singleton _) (by simpa using h) }

theorem get?_put (t : Table R) (r : R) (k : K) :
    (t.put r).get? k = if Keyed.key r = k then some r else t.get? k := by
  unfold put
  split
  · next hmem =>
      by_cases hk : (Keyed.key r : K) = k
      · obtain ⟨r₀, hr₀, hkey⟩ := List.mem_map.1 hmem
        rw [if_pos hk, ← hk, get?_set_self (hkey ▸ get?_of_mem hr₀)]
      · rw [if_neg hk, get?_set_of_ne t (Ne.symm hk)]
  · next hfree =>
      have hnew : [r].find? (fun x => decide (Keyed.key x = k)) =
          if Keyed.key r = k then some r else none := by
        simp [List.find?_cons]
        split <;> simp_all
      rw [get?, List.find?_append, hnew]
      by_cases hk : (Keyed.key r : K) = k
      · have hnone : t.get? k = none := by
          refine get?_eq_none_iff.2 fun x hx hkey => hfree ?_
          exact hk ▸ hkey ▸ List.mem_map_of_mem hx
        rw [if_pos hk, if_pos hk]
        exact congrArg (Option.or · (some r)) hnone
      · rw [if_neg hk, if_neg hk, Option.or_none]
        rfl

theorem get?_insert?_self {t t' : Table R} {r : R} (h : t.insert? r = some t') :
    t'.get? (Keyed.key r) = some r :=
  get?_of_mem (by simp [(insert?_eq_some h).2])

theorem get?_insert?_of_ne {t t' : Table R} {r : R} (h : t.insert? r = some t') {k : K}
    (hk : k ≠ Keyed.key r) : t'.get? k = t.get? k := by
  have hnew : [r].find? (fun x => decide (Keyed.key x = k)) = none := by
    simp [hk.symm]
  rw [get?, (insert?_eq_some h).2, List.find?_append, hnew, Option.or_none]
  rfl

end Table

/-- A journal: rows in the order of their increasing sequence numbers. -/
structure Journal (R : Type*) [Sequenced R] where
  rows : List R
  increasing : rows.Pairwise fun a b => Sequenced.seq a < Sequenced.seq b

namespace Journal

variable {R : Type*} [Sequenced R]

/-- The journal with no rows. -/
def empty : Journal R := ⟨[], List.Pairwise.nil⟩

/-- The number the next row gets: one more than the last. -/
def nextSeq (j : Journal R) : ℕ :=
  (j.rows.getLast?.map Sequenced.seq).getD 0 + 1

theorem seq_lt_nextSeq (j : Journal R) {r : R} (h : r ∈ j.rows) :
    Sequenced.seq r < j.nextSeq := by
  obtain ⟨rows, hinc⟩ := j
  simp only [nextSeq] at h ⊢
  induction rows using List.reverseRecOn with
  | nil => cases h
  | append_singleton xs x _ =>
      rw [List.getLast?_append, List.getLast?_singleton]
      simp only [Option.some_or, Option.map_some, Option.getD_some]
      rcases List.mem_append.1 h with hmem | hmem
      · have := (List.pairwise_append.1 hinc).2.2 r hmem x (List.mem_singleton_self x)
        omega
      · rw [List.mem_singleton.1 hmem]
        exact Nat.lt_succ_self _

/-- Adding one row at the end. `mk` builds the row from its number. -/
def append (j : Journal R) (mk : ℕ → R) (hmk : ∀ n, Sequenced.seq (mk n) = n) : Journal R where
  rows := j.rows ++ [mk j.nextSeq]
  increasing := by
    rw [List.pairwise_append]
    refine ⟨j.increasing, List.pairwise_singleton _ _, ?_⟩
    intro a ha b hb
    rw [List.mem_singleton.1 hb, hmk]
    exact j.seq_lt_nextSeq ha

@[simp] theorem empty_rows : (empty : Journal R).rows = [] := rfl

@[simp] theorem append_rows (j : Journal R) (mk : ℕ → R)
    (hmk : ∀ n, Sequenced.seq (mk n) = n) :
    (j.append mk hmk).rows = j.rows ++ [mk j.nextSeq] := rfl

@[simp] theorem append_nextSeq (j : Journal R) (mk : ℕ → R)
    (hmk : ∀ n, Sequenced.seq (mk n) = n) :
    (j.append mk hmk).nextSeq = j.nextSeq + 1 := by
  simp [nextSeq, hmk]

end Journal

namespace Journal

variable {R F : Type*}

/-- The rows written for a list of facts, numbered from `n` on. -/
def numbered (stamp : F → ℕ → R) : ℕ → List F → List R
  | _, [] => []
  | n, f :: fs => stamp f n :: numbered stamp (n + 1) fs

@[simp] theorem numbered_cons (stamp : F → ℕ → R) (n : ℕ) (f : F) (fs : List F) :
    numbered stamp n (f :: fs) = stamp f n :: numbered stamp (n + 1) fs := rfl

/-- Reading back what does not depend on the number. -/
theorem numbered_map {β : Type*} (stamp : F → ℕ → R) (view : R → β) (view' : F → β)
    (hview : ∀ f n, view (stamp f n) = view' f) (n : ℕ) (fs : List F) :
    (numbered stamp n fs).map view = fs.map view' := by
  induction fs generalizing n with
  | nil => rfl
  | cons f fs ih => rw [numbered_cons, List.map_cons, List.map_cons, hview, ih]

theorem mem_numbered {stamp : F → ℕ → R} {n : ℕ} {fs : List F} {r : R}
    (h : r ∈ numbered stamp n fs) : ∃ f ∈ fs, ∃ m, r = stamp f m := by
  induction fs generalizing n with
  | nil => cases h
  | cons f fs ih =>
      rcases List.mem_cons.1 h with rfl | hmem
      · exact ⟨f, List.mem_cons_self, n, rfl⟩
      · obtain ⟨g, hg, m, hr⟩ := ih hmem
        exact ⟨g, List.mem_cons_of_mem _ hg, m, hr⟩

end Journal

end Library
