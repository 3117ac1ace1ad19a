import Mathlib.Data.Prod.Lex
import RecoveryAgent.Library.Ranking
import RecoveryAgent.Memory.Corpus

/-!
# The table of cases

`filter_sort_cases` of `eval/benchmark.py`: the rows of a failure reason and of a result, in
the order of a key, cut to a limit. The table is a stable ranking of the rows that are kept,
and it treats the two policies alike.
-/

namespace RecoveryAgent.Eval

open Python Library Ranking Memory

inductive SortKey where
  | b2Advantage
  | oursAdvantage
  | failureReason
  | deltaInr
  deriving DecidableEq, Repr

/-- Which of the policies recovered the case. -/
inductive RecoveredBy where
  | ours
  | b2
  | either
  | neither
  | both
  deriving DecidableEq, Repr

/-- Whether a filter keeps what was recovered so by the two policies. -/
def RecoveredBy.keeps : RecoveredBy → Bool → Bool → Bool
  | ours, byOurs, byB2 => byOurs && !byB2
  | b2, byOurs, byB2 => byB2 && !byOurs
  | both, byOurs, byB2 => byOurs && byB2
  | neither, byOurs, byB2 => !byOurs && !byB2
  | either, byOurs, byB2 => byOurs || byB2

/-- The rows of a failure reason. An empty one keeps all. -/
def ofReason (failureReason : Option String) (r : CaseCompareRow) : Bool :=
  match failureReason with
  | some reason => reason = "" || r.failureReason = reason
  | none => true

def ofRecovered (recovered : Option RecoveredBy) (r : CaseCompareRow) : Bool :=
  match recovered with
  | some policy => policy.keeps r.oursRecovered r.b2Recovered
  | none => true

def keptRow (failureReason : Option String) (recovered : Option RecoveredBy)
    (r : CaseCompareRow) : Bool :=
  ofReason failureReason r && ofRecovered recovered r

/-- `list.sort` with the key. -/
def sortRows : SortKey → List CaseCompareRow → List CaseCompareRow
  | .b2Advantage => ranked (·.deltaInr)
  | .oursAdvantage => ranked fun r => OrderDual.toDual r.deltaInr
  | .failureReason => ranked fun r => toLex (r.failureReason, r.caseKey)
  | .deltaInr => ranked (·.deltaInr)

def filterSortCases (rows : List CaseCompareRow) (sortBy : SortKey)
    (failureReason : Option String) (recovered : Option RecoveredBy) (limit : Option ℤ) :
    List CaseCompareRow :=
  let filtered := sortRows sortBy (rows.filter (keptRow failureReason recovered))
  match limit with
  | some limit => sliceTo filtered limit
  | none => filtered

/-!
## A stable ranking
-/

/-- `a` does not come after `b`. -/
def notAfter : SortKey → CaseCompareRow → CaseCompareRow → Prop
  | .b2Advantage, a, b => a.deltaInr ≤ b.deltaInr
  | .oursAdvantage, a, b => b.deltaInr ≤ a.deltaInr
  | .failureReason, a, b =>
      a.failureReason < b.failureReason ∨
        a.failureReason = b.failureReason ∧ a.caseKey ≤ b.caseKey
  | .deltaInr, a, b => a.deltaInr ≤ b.deltaInr

/-- The rows in order, and rows that may come either way as they came. -/
structure StablyOrdered (sortBy : SortKey) (rows table : List CaseCompareRow) : Prop where
  perm : table.Perm rows
  sorted : table.Pairwise (notAfter sortBy)
  stable : ∀ p : CaseCompareRow → Bool,
    (∀ a b, p a = true → p b = true → notAfter sortBy a b) → table.filter p = rows.filter p

theorem stablyOrdered_ranked {β : Type*} [LinearOrder β] {key : CaseCompareRow → β}
    {sortBy : SortKey} (hkey : ∀ a b, notAfter sortBy a b ↔ key a ≤ key b)
    (rows : List CaseCompareRow) : StablyOrdered sortBy rows (ranked key rows) := by
  have hrank : Ranks key rows (ranked key rows) := ranked_ranks rows
  refine ⟨ranked_perm rows, hrank.sorted.imp fun hab => (hkey _ _).2 hab, fun p hp => ?_⟩
  by_cases hsome : ∃ a ∈ rows, p a = true
  · obtain ⟨a, -, ha⟩ := hsome
    have hsplit : ∀ xs : List CaseCompareRow,
        xs.filter p = (xs.filter fun b => key b = key a).filter p := by
      intro xs
      rw [List.filter_filter]
      refine List.filter_congr fun b _ => ?_
      by_cases hb : p b = true
      · have heq : key b = key a :=
          le_antisymm ((hkey b a).1 (hp b a hb ha)) ((hkey a b).1 (hp a b ha hb))
        rw [hb, heq]
        simp
      · rw [Bool.eq_false_iff.2 hb, Bool.false_and]
    rw [hsplit, hrank.stable, ← hsplit]
  · have hnone : ∀ a ∈ rows, ¬p a = true := fun a ha hpa => hsome ⟨a, ha, hpa⟩
    rw [List.filter_eq_nil_iff.2 hnone,
      List.filter_eq_nil_iff.2 fun a ha => hnone a (hrank.mem_iff.1 ha)]

theorem sortRows_stablyOrdered (sortBy : SortKey) (rows : List CaseCompareRow) :
    StablyOrdered sortBy rows (sortRows sortBy rows) := by
  cases sortBy with
  | b2Advantage => exact stablyOrdered_ranked (fun _ _ => Iff.rfl) rows
  | oursAdvantage => exact stablyOrdered_ranked (fun _ _ => Iff.rfl) rows
  | failureReason =>
      refine stablyOrdered_ranked (fun a b => ?_) rows
      rw [Prod.Lex.le_iff]
      exact Iff.rfl
  | deltaInr => exact stablyOrdered_ranked (fun _ _ => Iff.rfl) rows

/-!
## Exchanging the policies
-/

/-- The row with the policies exchanged. -/
def CaseCompareRow.swap (r : CaseCompareRow) : CaseCompareRow where
  seed := r.seed
  caseKey := r.caseKey
  failureReason := r.failureReason
  amountPaise := r.amountPaise
  amountInr := r.amountInr
  oursPlan := r.b2Plan
  b2Plan := r.oursPlan
  oursRecovered := r.b2Recovered
  b2Recovered := r.oursRecovered
  oursRecoveredPaise := r.b2RecoveredPaise
  b2RecoveredPaise := r.oursRecoveredPaise
  oursRecoveredInr := r.b2RecoveredInr
  b2RecoveredInr := r.oursRecoveredInr
  deltaInr := -r.deltaInr
  oursRetries := r.b2Retries
  b2Retries := r.oursRetries
  oursContacts := r.b2Contacts
  b2Contacts := r.oursContacts
  oursNotes := r.b2Notes
  b2Notes := r.oursNotes

def SortKey.swap : SortKey → SortKey
  | b2Advantage => oursAdvantage
  | oursAdvantage => b2Advantage
  | failureReason => failureReason
  | deltaInr => oursAdvantage

def RecoveredBy.swap : RecoveredBy → RecoveredBy
  | ours => b2
  | b2 => ours
  | either => either
  | neither => neither
  | both => both

theorem keeps_swap (recovered : RecoveredBy) (byOurs byB2 : Bool) :
    recovered.swap.keeps byB2 byOurs = recovered.keeps byOurs byB2 := by
  cases recovered <;> revert byOurs byB2 <;> decide

theorem keptRow_swap (failureReason : Option String) (recovered : Option RecoveredBy)
    (r : CaseCompareRow) :
    keptRow failureReason (recovered.map RecoveredBy.swap) r.swap =
      keptRow failureReason recovered r := by
  cases recovered with
  | none => rfl
  | some recovered => exact congrArg (ofReason failureReason r && ·) (keeps_swap recovered _ _)

/-- What was recovered is in exactly one of the views but `either`. -/
theorem existsUnique_view (byOurs byB2 : Bool) :
    ∃! view, view ≠ RecoveredBy.either ∧ view.keeps byOurs byB2 = true := by
  cases byOurs <;> cases byB2
  · exact ⟨.neither, by decide, by rintro (_ | _) <;> decide⟩
  · exact ⟨.b2, by decide, by rintro (_ | _) <;> decide⟩
  · exact ⟨.ours, by decide, by rintro (_ | _) <;> decide⟩
  · exact ⟨.both, by decide, by rintro (_ | _) <;> decide⟩

theorem sortRows_swap (sortBy : SortKey) (rows : List CaseCompareRow) :
    sortRows sortBy.swap (rows.map CaseCompareRow.swap) =
      (sortRows sortBy rows).map CaseCompareRow.swap := by
  have hneg : ∀ a b : CaseCompareRow, a.swap.deltaInr ≤ b.swap.deltaInr ↔
      b.deltaInr ≤ a.deltaInr := fun _ _ => neg_le_neg_iff
  cases sortBy with
  | b2Advantage => exact ranked_map (fun a b => hneg b a) rows
  | oursAdvantage => exact ranked_map (fun a b => hneg a b) rows
  | failureReason => exact ranked_map (fun _ _ => Iff.rfl) rows
  | deltaInr => exact ranked_map (fun a b => hneg b a) rows

theorem sliceTo_map {α β : Type*} (f : α → β) (xs : List α) (limit : ℤ) :
    sliceTo (xs.map f) limit = (sliceTo xs limit).map f := by
  unfold sliceTo
  split
  · exact List.map_take.symm
  · rw [List.length_map]
    exact List.map_take.symm

/-- The table is a stable ranking of the rows that are kept, cut to the limit; every row is in
exactly one of the views of what was recovered; and exchanging the policies in the rows, in the
key and in the filter exchanges them in the table. -/
theorem case_table (rows : List CaseCompareRow) (sortBy : SortKey)
    (failureReason : Option String) (recovered : Option RecoveredBy) :
    StablyOrdered sortBy (rows.filter (keptRow failureReason recovered))
      (filterSortCases rows sortBy failureReason recovered none) ∧
    (∀ limit : ℕ, filterSortCases rows sortBy failureReason recovered (some limit) =
      (filterSortCases rows sortBy failureReason recovered none).take limit) ∧
    (∀ r ∈ filterSortCases rows sortBy failureReason none none, ∃! view,
      view ≠ RecoveredBy.either ∧
        r ∈ filterSortCases rows sortBy failureReason (some view) none) ∧
    ∀ limit, filterSortCases (rows.map CaseCompareRow.swap) sortBy.swap failureReason
        (recovered.map RecoveredBy.swap) limit =
      (filterSortCases rows sortBy failureReason recovered limit).map CaseCompareRow.swap := by
  have hmem : ∀ r recovered, r ∈ filterSortCases rows sortBy failureReason recovered none ↔
      r ∈ rows ∧ keptRow failureReason recovered r = true := by
    intro r recovered
    rw [← List.mem_filter]
    exact (sortRows_stablyOrdered sortBy _).perm.mem_iff
  refine ⟨sortRows_stablyOrdered sortBy _, fun limit => ?_, fun r hr => ?_, fun limit => ?_⟩
  · simp only [filterSortCases, sliceTo, if_pos (Int.natCast_nonneg limit), Int.toNat_natCast]
  · obtain ⟨hrow, hkept⟩ := (hmem r none).1 hr
    have hview : ∀ view : RecoveredBy, keptRow failureReason (some view) r =
        view.keeps r.oursRecovered r.b2Recovered := by
      intro view
      have hreason : ofReason failureReason r = true := by
        rwa [keptRow, ofRecovered, Bool.and_true] at hkept
      rw [keptRow, hreason, Bool.true_and]
      rfl
    obtain ⟨view, ⟨hne, hkeeps⟩, honly⟩ :=
      existsUnique_view r.oursRecovered r.b2Recovered
    refine ⟨view, ⟨hne, (hmem r _).2 ⟨hrow, (hview view).trans hkeeps⟩⟩, ?_⟩
    rintro view' ⟨hne', hr'⟩
    exact honly view' ⟨hne', (hview view').symm.trans ((hmem r _).1 hr').2⟩
  · have hfiltered : (rows.map CaseCompareRow.swap).filter
        (keptRow failureReason (recovered.map RecoveredBy.swap)) =
        (rows.filter (keptRow failureReason recovered)).map CaseCompareRow.swap := by
      rw [List.filter_map]
      congr 1
      refine List.filter_congr fun r _ => keptRow_swap failureReason recovered r
    simp only [filterSortCases, hfiltered, sortRows_swap]
    cases limit with
    | none => rfl
    | some limit => exact sliceTo_map _ _ limit

end RecoveryAgent.Eval
