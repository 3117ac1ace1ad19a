import Mathlib.Data.Finset.Card
import Mathlib.Data.List.AList

/-!
# Counting the rows of a map

How many rows of a finite map are of a kind, as the number of keys that have such a row. Two
maps that agree outside of a set of keys differ in their counts by what they have inside.
-/

namespace Library.Tally

variable {κ α : Type*} (kind : α → Bool)

/-- The number of rows of a kind. -/
def tally (rows : AList fun _ : κ => α) : ℕ := rows.entries.countP fun e => kind e.2

variable [DecidableEq κ]

/-- The keys whose row is of a kind. -/
def counted (rows : AList fun _ : κ => α) : Finset κ :=
  rows.keys.toFinset.filter fun k => (rows.lookup k).any kind

variable {kind} {rows rows' : AList fun _ : κ => α}

theorem mem_counted {k : κ} : k ∈ counted kind rows ↔ (rows.lookup k).any kind = true := by
  rw [counted, Finset.mem_filter, List.mem_toFinset, and_iff_right_iff_imp]
  intro h
  obtain ⟨row, hrow, -⟩ := (Option.any_eq_true _ _).1 h
  exact AList.mem_keys.2 (AList.lookup_isSome.1 (Option.isSome_iff_exists.2 ⟨row, hrow⟩))

theorem tally_eq_card : tally kind rows = (counted kind rows).card := by
  have hkeys : tally kind rows = rows.keys.countP fun k => (rows.lookup k).any kind := by
    rw [tally, AList.keys, List.keys, List.countP_map]
    apply List.countP_congr
    intro e he
    have hrow : rows.lookup e.1 = some e.2 := AList.mem_lookup_iff.2 he
    simp only [Function.comp_apply, hrow, Option.any_some]
  rw [hkeys, counted, List.countP_eq_length_filter, ← List.toFinset_filter]
  exact (List.toFinset_card_of_nodup (rows.nodupKeys.filter _)).symm

/-- Maps that have rows of the kind for the same keys outside of `keys` count as many there. -/
theorem tally_of_agree {keys : Finset κ}
    (h : ∀ k ∉ keys, (rows'.lookup k).any kind = (rows.lookup k).any kind) :
    tally kind rows' + (keys.filter fun k => (rows.lookup k).any kind).card =
      tally kind rows + (keys.filter fun k => (rows'.lookup k).any kind).card := by
  have hinside : ∀ rows : AList fun _ : κ => α,
      (keys.filter fun k => (rows.lookup k).any kind) = counted kind rows ∩ keys := by
    intro rows
    ext k
    rw [Finset.mem_filter, Finset.mem_inter, mem_counted, and_comm]
  have houtside : counted kind rows' \ keys = counted kind rows \ keys := by
    ext k
    rw [Finset.mem_sdiff, Finset.mem_sdiff, mem_counted, mem_counted]
    exact and_congr_left fun hk => by rw [h k hk]
  rw [tally_eq_card, tally_eq_card, hinside, hinside,
    ← Finset.card_sdiff_add_card_inter (counted kind rows') keys,
    ← Finset.card_sdiff_add_card_inter (counted kind rows) keys, houtside]
  omega

end Library.Tally
