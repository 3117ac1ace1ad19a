import Mathlib.Data.String.Basic
import Mathlib.Tactic.NormNum
import RecoveryAgent.Diagnose.Rules
import RecoveryAgent.Python.Rounding

/-!
# Scores and effort bands

`diagnose/scoring.py` for every configuration of the taxonomy: the score is a clipped and
rounded sum of capped terms, so it moves with each of its inputs in one direction only, and
the band of a score is the highest one that the score reaches.
-/

namespace RecoveryAgent.Diagnose

open Python Policy Library

/-- No weight, penalty or cap is negative. The bases of the categories may be anything. -/
structure NonnegScoring (scoring : Scoring) : Prop where
  valueWeightPer1000Inr : 0 ≤ scoring.valueWeightPer1000Inr
  valueWeightCap : 0 ≤ scoring.valueWeightCap
  fatiguePenaltyPerContact : 0 ≤ scoring.fatiguePenaltyPerContact
  tenureBonusPer365Days : 0 ≤ scoring.tenureBonusPer365Days
  tenureBonusCap : 0 ≤ scoring.tenureBonusCap

/-!
## The score
-/

/-- The clipping to the unit interval, and the rounding after it. -/
def clipped (raw : ℚ) : ℚ := Python.round (min 1 (max 0 raw)) 4

theorem clipped_mono : Monotone clipped := by
  intro raw raw' h
  exact round_mono 4 (min_le_min_left 1 (max_le_max_left 0 h))

/-- Zero and one are on the grid of four digits, so rounding does not leave the interval. -/
theorem clipped_mem (raw : ℚ) : 0 ≤ clipped raw ∧ clipped raw ≤ 1 := by
  have hzero : Python.round 0 4 = 0 := round_of_onGrid (Rounding.onGrid_zero _)
  have hone : Python.round 1 4 = 1 := round_of_onGrid ⟨10 ^ 4, by norm_num⟩
  constructor
  · calc (0 : ℚ) = Python.round 0 4 := hzero.symm
      _ ≤ clipped raw := round_mono 4 (le_min zero_le_one (le_max_left 0 raw))
  · calc clipped raw ≤ Python.round 1 4 := round_mono 4 (min_le_left 1 _)
      _ = 1 := hone

/-- A capped term with a weight that is not negative grows with what it weighs. -/
theorem cappedTerm_mono (cap : ℚ) {weight : ℚ} (hweight : 0 ≤ weight) :
    Monotone fun x => min cap (x * weight) := by
  intro x y h
  exact min_le_min_left cap (mul_le_mul_of_nonneg_right h hweight)

section

variable (category : String) (scoring : Scoring)

theorem recoverabilityScore_mem (amountPaise contactsUsed tenureDays : ℤ) :
    0 ≤ recoverabilityScore category amountPaise contactsUsed tenureDays scoring ∧
      recoverabilityScore category amountPaise contactsUsed tenureDays scoring ≤ 1 :=
  clipped_mem _

variable {scoring} (hscoring : NonnegScoring scoring)

include hscoring

theorem recoverabilityScore_mono_amountPaise (contactsUsed tenureDays : ℤ) :
    Monotone fun amountPaise =>
      recoverabilityScore category amountPaise contactsUsed tenureDays scoring := by
  intro amount amount' h
  have hinr : (amount : ℚ) / 100 / 1000 ≤ amount' / 100 / 1000 := by
    have hcast : (amount : ℚ) ≤ amount' := Int.cast_le.2 h
    linarith
  apply clipped_mono
  apply sub_le_sub_right
  apply add_le_add_left
  apply add_le_add_right
  exact cappedTerm_mono scoring.valueWeightCap hscoring.valueWeightPer1000Inr hinr

theorem recoverabilityScore_mono_tenureDays (amountPaise contactsUsed : ℤ) :
    Monotone fun tenureDays =>
      recoverabilityScore category amountPaise contactsUsed tenureDays scoring := by
  intro tenure tenure' h
  have hyears : (tenure : ℚ) / 365 ≤ tenure' / 365 := by
    have hcast : (tenure : ℚ) ≤ tenure' := Int.cast_le.2 h
    linarith
  apply clipped_mono
  apply sub_le_sub_right
  apply add_le_add_right
  exact cappedTerm_mono scoring.tenureBonusCap hscoring.tenureBonusPer365Days hyears

theorem recoverabilityScore_anti_contactsUsed (amountPaise tenureDays : ℤ) :
    Antitone fun contactsUsed =>
      recoverabilityScore category amountPaise contactsUsed tenureDays scoring := by
  intro contacts contacts' h
  have hcounted : ((max 0 contacts : ℤ) : ℚ) ≤ (max 0 contacts' : ℤ) :=
    Int.cast_le.2 (max_le_max_left 0 h)
  apply clipped_mono
  apply sub_le_sub_left
  exact mul_le_mul_of_nonneg_left hcounted hscoring.fatiguePenaltyPerContact

end

/-!
## The band
-/

theorem bandAbove_iff {a b : String × ℚ} :
    bandAbove a b = true ↔ b.2 < a.2 ∨ a.2 = b.2 ∧ b.1 ≤ a.1 := by
  simp [bandAbove]

instance : Std.Total fun a b => bandAbove a b = true where
  total a b := by
    rw [bandAbove_iff, bandAbove_iff]
    rcases lt_trichotomy a.2 b.2 with h | h | h
    · exact Or.inr (Or.inl h)
    · rcases le_total a.1 b.1 with hname | hname
      · exact Or.inr (Or.inr ⟨h.symm, hname⟩)
      · exact Or.inl (Or.inr ⟨h, hname⟩)
    · exact Or.inl (Or.inl h)

instance : IsTrans (String × ℚ) fun a b => bandAbove a b = true where
  trans a b c hab hbc := by
    rw [bandAbove_iff] at hab hbc ⊢
    rcases hab with hab | ⟨hab, hname⟩
    · rcases hbc with hbc | ⟨hbc, -⟩
      · exact Or.inl (hbc.trans hab)
      · exact Or.inl (hbc ▸ hab)
    · rcases hbc with hbc | ⟨hbc, hname'⟩
      · exact Or.inl (hab ▸ hbc)
      · exact Or.inr ⟨hab.trans hbc, hname'.trans hname⟩

theorem minScore_le_of_bandAbove {a b : String × ℚ} (h : bandAbove a b = true) : b.2 ≤ a.2 := by
  rcases bandAbove_iff.1 h with h | ⟨h, -⟩
  · exact h.le
  · exact h.ge

/-- On a list that falls, the first element that is low enough is the highest such. -/
theorem le_of_find?_sorted {bands : List (String × ℚ)} {score : ℚ}
    (hsorted : bands.Pairwise fun a b => bandAbove a b = true) {best : String × ℚ}
    (hfind : bands.find? (fun band => band.2 ≤ score) = some best) :
    ∀ band ∈ bands, band.2 ≤ score → band.2 ≤ best.2 := by
  induction bands with
  | nil => cases hfind
  | cons first rest ih =>
      obtain ⟨hfirst, hrest⟩ := List.pairwise_cons.1 hsorted
      intro band hband hreached
      by_cases hreach : first.2 ≤ score
      · rw [List.find?_cons_of_pos (by simpa using hreach)] at hfind
        cases hfind
        rcases List.mem_cons.1 hband with rfl | hband
        · exact le_rfl
        · exact minScore_le_of_bandAbove (hfirst band hband)
      · rw [List.find?_cons_of_neg (by simpa using hreach)] at hfind
        rcases List.mem_cons.1 hband with rfl | hband
        · exact absurd hreached hreach
        · exact ih hrest hfind band hband hreached

/-- The minimum score of the band of that name. -/
def minScoreOf (bands : List (String × ℚ)) (name : String) : ℚ := (bands.lookup name).getD 0

/-- Where no two bands share a name, a band is found under its own. -/
theorem lookup_of_mem {bands : List (String × ℚ)} (hnames : (bands.map Prod.fst).Nodup)
    {band : String × ℚ} (h : band ∈ bands) : bands.lookup band.1 = some band.2 := by
  obtain ⟨before, after, rfl⟩ := List.append_of_mem h
  rw [List.lookup_eq_some_iff]
  refine ⟨before, after, rfl, ?_⟩
  intro other hother
  rw [List.map_append, List.map_cons] at hnames
  have hdisjoint := List.disjoint_of_nodup_append hnames
  apply bne_iff_ne.2
  intro hsame
  exact hdisjoint (List.mem_map_of_mem hother) (hsame ▸ List.mem_cons_self)

section

variable {bands : List (String × ℚ)} (hlow : ∃ band ∈ bands, band.2 ≤ 0) {score : ℚ}
  (hscore : 0 ≤ score)

include hlow hscore

/-- The band of a score that is not negative: of those that the score reaches, one with the
greatest minimum. -/
theorem effortBand_spec :
    ∃ best ∈ bands, effortBand score bands = best.1 ∧ best.2 ≤ score ∧
      ∀ band ∈ bands, band.2 ≤ score → band.2 ≤ best.2 := by
  obtain ⟨low, hmem, hreached⟩ := hlow
  have hsome : ((bands.insertionSort fun a b => bandAbove a b).find?
      fun band => band.2 ≤ score).isSome := by
    rw [List.find?_isSome]
    exact ⟨low, (List.mem_insertionSort _).2 hmem, decide_eq_true (hreached.trans hscore)⟩
  obtain ⟨best, hfind⟩ := Option.isSome_iff_exists.1 hsome
  have hreach : decide (best.2 ≤ score) = true :=
    List.find?_some (p := fun band : String × ℚ => decide (band.2 ≤ score)) hfind
  refine ⟨best, (List.mem_insertionSort _).1 (List.mem_of_find?_eq_some hfind), ?_,
    of_decide_eq_true hreach, ?_⟩
  · rw [effortBand, hfind]
  · intro band hband
    exact le_of_find?_sorted (List.pairwise_insertionSort _ bands) hfind band
      ((List.mem_insertionSort _).2 hband)

variable (hnames : (bands.map Prod.fst).Nodup)

include hnames

theorem minScoreOf_effortBand :
    bands.lookup (effortBand score bands) = some (minScoreOf bands (effortBand score bands)) ∧
      minScoreOf bands (effortBand score bands) ≤ score ∧
      ∀ band ∈ bands, band.2 ≤ score → band.2 ≤ minScoreOf bands (effortBand score bands) := by
  obtain ⟨best, hbest, hname, hreached, hgreatest⟩ := effortBand_spec hlow hscore
  have hlookup := lookup_of_mem hnames hbest
  have hmin : minScoreOf bands best.1 = best.2 := by
    rw [minScoreOf, hlookup]
    rfl
  rw [hname, hmin]
  exact ⟨hlookup, hreached, hgreatest⟩

theorem minScoreOf_effortBand_mono {score' : ℚ} (h : score ≤ score') :
    minScoreOf bands (effortBand score bands) ≤ minScoreOf bands (effortBand score' bands) := by
  obtain ⟨best, hbest, hname, hreached, -⟩ := effortBand_spec hlow hscore
  obtain ⟨-, -, hgreatest⟩ := minScoreOf_effortBand hlow (hscore.trans h) hnames
  have hmin : minScoreOf bands (effortBand score bands) = best.2 := by
    rw [hname, minScoreOf, lookup_of_mem hnames hbest]
    rfl
  rw [hmin]
  exact hgreatest best hbest (hreached.trans h)

end

/-- Scores and effort bands are monotone: a score is in the unit interval, falls with the
contacts and grows with the amount and the tenure; a score that is not negative gets a band
with the greatest minimum that it reaches; so more contacts never raise the band. -/
theorem scores_and_bands_monotone {scoring : Scoring} (hscoring : NonnegScoring scoring)
    {bands : List (String × ℚ)} (hnames : (bands.map Prod.fst).Nodup)
    (hlow : ∃ band ∈ bands, band.2 ≤ 0) (category : String) :
    (∀ amountPaise contactsUsed tenureDays,
      0 ≤ recoverabilityScore category amountPaise contactsUsed tenureDays scoring ∧
        recoverabilityScore category amountPaise contactsUsed tenureDays scoring ≤ 1) ∧
    (∀ amountPaise tenureDays, Antitone fun contactsUsed =>
      recoverabilityScore category amountPaise contactsUsed tenureDays scoring) ∧
    (∀ contactsUsed tenureDays, Monotone fun amountPaise =>
      recoverabilityScore category amountPaise contactsUsed tenureDays scoring) ∧
    (∀ amountPaise contactsUsed, Monotone fun tenureDays =>
      recoverabilityScore category amountPaise contactsUsed tenureDays scoring) ∧
    (∀ score, 0 ≤ score →
      bands.lookup (effortBand score bands) = some (minScoreOf bands (effortBand score bands)) ∧
        minScoreOf bands (effortBand score bands) ≤ score ∧
        ∀ band ∈ bands, band.2 ≤ score →
          band.2 ≤ minScoreOf bands (effortBand score bands)) ∧
    ∀ amountPaise tenureDays, Antitone fun contactsUsed => minScoreOf bands (effortBand
      (recoverabilityScore category amountPaise contactsUsed tenureDays scoring) bands) := by
  refine ⟨recoverabilityScore_mem category scoring,
    recoverabilityScore_anti_contactsUsed category hscoring,
    recoverabilityScore_mono_amountPaise category hscoring,
    recoverabilityScore_mono_tenureDays category hscoring,
    fun score hscore => minScoreOf_effortBand hlow hscore hnames, ?_⟩
  intro amountPaise tenureDays contacts contacts' h
  exact minScoreOf_effortBand_mono hlow
    (recoverabilityScore_mem category scoring amountPaise contacts' tenureDays).1 hnames
    (recoverabilityScore_anti_contactsUsed category hscoring amountPaise tenureDays h)

/-- The shipped taxonomy is such a configuration. -/
theorem nonnegScoring_shipped : NonnegScoring shipped.scoring := by
  constructor <;> norm_num [shipped]

/-- On the shipped bands, an expired card after three contacts and before any. -/
theorem scores_and_bands_monotone_shipped :
    minScoreOf shipped.effortBands
        (effortBand (recoverabilityScore "dead" 49900 3 30 shipped.scoring) shipped.effortBands) ≤
      minScoreOf shipped.effortBands
        (effortBand (recoverabilityScore "dead" 49900 0 30 shipped.scoring) shipped.effortBands) :=
  (scores_and_bands_monotone nonnegScoring_shipped (by decide) ⟨("low", 0), by decide, le_rfl⟩
    "dead").2.2.2.2.2 49900 30 (by decide : (0 : ℤ) ≤ 3)

end RecoveryAgent.Diagnose
