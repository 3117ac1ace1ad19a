import Mathlib.Data.String.Basic
import Mathlib.Tactic.IntervalCases
import RecoveryAgent.Library.Lexicographic
import RecoveryAgent.Python.Digits

/-!
# Datetimes in the order of their texts

The text of a datetime is its year, month, day, hour, minute, second and fraction, the first
six in one width each. So up to the year 9999 texts are in the order of their datetimes, as
long as what follows comes before a fraction.
-/

namespace RecoveryAgent.Python

open Library Lexicographic

/-!
## Dates
-/

def yearOfEra (doe : ℤ) : ℤ := (doe - doe / 1460 + doe / 36524 - doe / 146096) / 365

def marchYear (day : ℤ) : ℤ :=
  yearOfEra ((day + 719468) % 146097) + (day + 719468) / 146097 * 400

def dayOfMarchYear (day : ℤ) : ℤ :=
  let yoe := yearOfEra ((day + 719468) % 146097)
  (day + 719468) % 146097 - (365 * yoe + yoe / 4 - yoe / 100)

theorem yearOfEra_spec {doe : ℤ} (h0 : 0 ≤ doe) (h1 : doe < 146097) :
    0 ≤ yearOfEra doe ∧ yearOfEra doe < 400 ∧
      0 ≤ doe - (365 * yearOfEra doe + yearOfEra doe / 4 - yearOfEra doe / 100) ∧
      doe - (365 * yearOfEra doe + yearOfEra doe / 4 - yearOfEra doe / 100) ≤ 366 := by
  obtain ⟨f, hf⟩ : ∃ f, f = doe / 36524 := ⟨_, rfl⟩
  obtain ⟨g, hg⟩ : ∃ g, g = doe / 146096 := ⟨_, rfl⟩
  have hyoe : yearOfEra doe = (doe - doe / 1460 + f - g) / 365 := by rw [hf, hg, yearOfEra]
  generalize yearOfEra doe = yoe at *
  obtain ⟨d, hd⟩ : ∃ d, d = yoe / 100 := ⟨_, rfl⟩
  have h400 : 0 ≤ yoe ∧ yoe < 400 := by omega
  refine ⟨h400.1, h400.2, ?_⟩
  rw [← hd]
  -- With the century of the day and that of the year fixed, what is left is linear.
  have hf0 : 0 ≤ f := by omega
  have hf4 : f ≤ 4 := by omega
  have hg0 : 0 ≤ g := by omega
  have hg1 : g ≤ 1 := by omega
  have hd0 : 0 ≤ d := by omega
  have hd3 : d ≤ 3 := by omega
  interval_cases f <;> interval_cases g <;> interval_cases d <;> omega

theorem yearOfEra_mono {a b : ℤ} (h0 : 0 ≤ a) (h : a ≤ b) (h1 : b < 146097) :
    yearOfEra a ≤ yearOfEra b := by
  have hleap : a - a / 1460 ≤ b - b / 1460 := by omega
  have hcentury : a / 36524 ≤ b / 36524 := by omega
  have hsum : a - a / 1460 + a / 36524 - a / 146096 ≤ b - b / 1460 + b / 36524 - b / 146096 := by
    rcases (show b ≤ 146096 by omega).lt_or_eq with hb | rfl
    · omega
    · omega
  exact Int.ediv_le_ediv (by decide) hsum

theorem marchYear_mono {a b : ℤ} (h : a ≤ b) : marchYear a ≤ marchYear b := by
  have hspec : ∀ day : ℤ, _ := fun day =>
    @yearOfEra_spec ((day + 719468) % 146097) (by omega) (by omega)
  have ha := hspec a
  have hb := hspec b
  unfold marchYear
  by_cases hera : (a + 719468) / 146097 = (b + 719468) / 146097
  · have hmono : yearOfEra ((a + 719468) % 146097) ≤ yearOfEra ((b + 719468) % 146097) :=
      yearOfEra_mono (by omega) (by omega) (by omega)
    omega
  · omega

theorem dayOfMarchYear_bounds (day : ℤ) : 0 ≤ dayOfMarchYear day ∧ dayOfMarchYear day ≤ 366 :=
  (@yearOfEra_spec ((day + 719468) % 146097) (by omega) (by omega)).2.2

theorem dayOfMarchYear_sub {a b : ℤ} (h : marchYear a = marchYear b) :
    dayOfMarchYear b - dayOfMarchYear a = b - a := by
  have hspec : ∀ day : ℤ, _ := fun day =>
    @yearOfEra_spec ((day + 719468) % 146097) (by omega) (by omega)
  have ha := hspec a
  have hb := hspec b
  unfold marchYear at h
  unfold dayOfMarchYear
  have hyoe : yearOfEra ((a + 719468) % 146097) = yearOfEra ((b + 719468) % 146097) := by omega
  simp only [hyoe]
  omega

/-- `civil` by months that start with March. -/
theorem civil_spec (day : ℤ) :
    ∃ mp, mp = (5 * dayOfMarchYear day + 2) / 153 ∧ 0 ≤ mp ∧ mp ≤ 11 ∧
      12 * (civil day).1 + (civil day).2.1 = 12 * marchYear day + mp + 3 ∧
      1 ≤ (civil day).2.1 ∧ (civil day).2.1 ≤ 12 ∧
      (civil day).2.2 = dayOfMarchYear day - (153 * mp + 2) / 5 + 1 := by
  have hcivil : civil day =
      (marchYear day + (if (if (5 * dayOfMarchYear day + 2) / 153 < 10
        then (5 * dayOfMarchYear day + 2) / 153 + 3
        else (5 * dayOfMarchYear day + 2) / 153 - 9) ≤ 2 then 1 else 0),
       (if (5 * dayOfMarchYear day + 2) / 153 < 10 then (5 * dayOfMarchYear day + 2) / 153 + 3
        else (5 * dayOfMarchYear day + 2) / 153 - 9),
       dayOfMarchYear day - (153 * ((5 * dayOfMarchYear day + 2) / 153) + 2) / 5 + 1) := rfl
  have hdoy := dayOfMarchYear_bounds day
  refine ⟨_, rfl, by omega, by omega, ?_⟩
  rw [hcivil]
  simp only [and_true]
  split <;> split <;> omega

/-- A later day has a later date. -/
theorem civil_lt {a b : ℤ} (h : a < b) :
    (civil a).1 < (civil b).1 ∨ (civil a).1 = (civil b).1 ∧
      ((civil a).2.1 < (civil b).2.1 ∨ (civil a).2.1 = (civil b).2.1 ∧
        (civil a).2.2 < (civil b).2.2) := by
  obtain ⟨ma, hma, hma0, hma11, hya, ha1, ha12, hda⟩ := civil_spec a
  obtain ⟨mb, hmb, hmb0, hmb11, hyb, hb1, hb12, hdb⟩ := civil_spec b
  have hyear := marchYear_mono h.le
  rcases hyear.lt_or_eq with hlt | heq
  · omega
  · have hdays := dayOfMarchYear_sub heq
    omega

/-- Months and days have two digits. -/
theorem civil_two (day : ℤ) :
    (civil day).2.1 ∈ Set.Ico (0 : ℤ) (10 ^ 2) ∧ (civil day).2.2 ∈ Set.Ico (0 : ℤ) (10 ^ 2) := by
  obtain ⟨mp, hmp, hmp0, hmp11, -, hmonth1, hmonth12, hday⟩ := civil_spec day
  have hdoy := dayOfMarchYear_bounds day
  refine ⟨⟨by omega, by omega⟩, ⟨by omega, by omega⟩⟩

/-!
## Digits
-/

theorem padded_toList (width n : ℕ) :
    (padded width n).toList =
      List.replicate (width - (Nat.toDigits 10 n).length) '0' ++ Nat.toDigits 10 n := by
  have hdigits : (toString (n : ℤ).natAbs).toList = Nat.toDigits 10 n := Nat.toList_repr
  rw [padded, hdigits, String.toList_ofList]

/-- The last digit stands for itself, and what is before it for the tens. -/
theorem padded_succ {width : ℕ} (hwidth : 0 < width) (n : ℕ) :
    (padded (width + 1) n).toList = (padded width (n / 10 : ℕ)).toList ++ [(n % 10).digitChar] := by
  rw [padded_toList, padded_toList]
  rcases Nat.lt_or_ge n 10 with hn | hn
  · rw [Nat.div_eq_of_lt hn, Nat.mod_eq_of_lt hn, Nat.toDigits_of_lt_base hn,
      Nat.toDigits_of_lt_base (b := 10) (by decide)]
    have hzeros : List.replicate (width - 1) '0' ++ ['0'] = List.replicate width '0' := by
      rw [← List.replicate_succ', Nat.sub_add_cancel hwidth]
    exact congrArg (· ++ [n.digitChar]) hzeros.symm
  · rw [Nat.toDigits_of_base_le (by decide) hn, List.length_append, List.length_singleton,
      Nat.add_sub_add_right, List.append_assoc]

theorem digit_ordered : Ordered (Set.Ico 0 10) 1 fun n : ℤ => [n.toNat.digitChar] where
  strictMonoOn := by
    rintro n ⟨hn0, hn⟩ m ⟨hm0, hm⟩ hnm
    have hdigits : ∀ a < 10, ∀ b < 10, a < b → [a.digitChar] < [b.digitChar] := by decide
    exact hdigits n.toNat (by omega) m.toNat (by omega) (by omega)
  length_eq _ _ := rfl

/-- Numbers that fit into a width are in the order of their digits. -/
theorem padded_ordered {width : ℕ} (hwidth : 0 < width) :
    Ordered (Set.Ico 0 (10 ^ width)) width fun n => (padded width n).toList := by
  induction width, hwidth using Nat.le_induction with
  | base =>
      refine digit_ordered.congr fun n hn => ?_
      lift n to ℕ using hn.1
      have hlt : n < 10 := by simpa using hn.2
      rw [padded_toList, Nat.toDigits_of_lt_base hlt]
      rfl
  | succ width hwidth ih =>
      have hdigits := ih.ediv (by decide) digit_ordered
      refine (hdigits.mono fun n hn => ?_).congr fun n hn => ?_
      · obtain ⟨hn0, hn⟩ := hn
        rw [pow_succ] at hn
        exact ⟨Int.ediv_nonneg hn0 (by decide), Int.ediv_lt_of_lt_mul (by decide) hn⟩
      · lift n to ℕ using hn.1
        have hmod : ((n : ℤ) % 10).toNat = n % 10 := by omega
        rw [padded_succ hwidth, hmod, Int.natCast_ediv]
        rfl

/-!
## Texts
-/

def dateText (day : ℤ) : List Char :=
  (padded 4 (civil day).1).toList ++ ('-' :: (padded 2 (civil day).2.1).toList ++
    ('-' :: (padded 2 (civil day).2.2).toList))

/-- The time of day in a text, from the second of the day. -/
def clockText (seconds : ℤ) : List Char :=
  (padded 2 (seconds / 60 / 60)).toList ++ (':' :: (padded 2 (seconds / 60 % 60)).toList) ++
    (':' :: (padded 2 (seconds % 60)).toList)

def fractionText (zone : List Char) (fraction : ℤ) : List Char :=
  if fraction = 0 then zone else '.' :: (padded 6 fraction).toList ++ zone

theorem isoText_naive (micros : ℤ) (zone : String) :
    (({ micros, utcOffset := none } : DateTime).isoText ++ zone).toList =
      dateText (micros / 1000000 / 86400) ++ (['T'] ++ clockText (micros / 1000000 % 86400)) ++
        fractionText zone.toList (micros % 1000000) := by
  simp only [DateTime.isoText, dateText, clockText, fractionText]
  by_cases hfraction : micros % 1000000 = 0
  · simp [hfraction, String.toList_append, Int.ediv_ediv]
  · simp [hfraction, String.toList_append, Int.ediv_ediv]

theorem clockText_ordered : Ordered (Set.Ico 0 86400) 8 clockText := by
  have hbound : Set.Ico (0 : ℤ) 60 ⊆ Set.Ico 0 (10 ^ 2) :=
    fun _ hn => ⟨hn.1, hn.2.trans (by decide)⟩
  have htwo := (@padded_ordered 2 (by decide)).mono hbound
  have hpart : Ordered (Set.Ico 0 60) 3 fun n => ':' :: (padded 2 n).toList := htwo.append_left [':']
  have hminutes := htwo.ediv (by decide : (0 : ℤ) < 60) hpart
  refine (hminutes.ediv (by decide : (0 : ℤ) < 60) hpart).mono fun n hn => ?_
  have hn0 : 0 ≤ n := hn.1
  have hn1 : n < 86400 := hn.2
  exact ⟨show 0 ≤ n / 60 / 60 by omega, show n / 60 / 60 < 60 by omega⟩

theorem fractionText_strictMonoOn {zone : List Char} (hzone : zone < ['.']) :
    StrictMonoOn (fractionText zone) (Set.Ico 0 1000000) := by
  intro n hn m hm hnm
  have hm0 : m ≠ 0 := by have := hn.1; omega
  unfold fractionText
  rw [if_neg hm0]
  split
  · cases zone with
    | nil => exact List.nil_lt_cons _ _
    | cons c zone =>
        rcases List.cons_lt_cons_iff.1 hzone with hc | ⟨-, hnil⟩
        · exact List.cons_lt_cons_iff.2 (Or.inl hc)
        · exact absurd hnil (List.not_lt_nil zone)
  · have hsix := (@padded_ordered 6 (by decide)).strictMonoOn_append fun _ => zone
    have hbound : ∀ i ∈ Set.Ico (0 : ℤ) 1000000, i ∈ Set.Ico (0 : ℤ) (10 ^ 6) :=
      fun i hi => ⟨hi.1, hi.2.trans_le (by norm_num)⟩
    exact List.cons_lt_cons_iff.2 (Or.inr ⟨rfl, hsix (hbound n hn) (hbound m hm) hnm⟩)

/-- The days whose year has four digits. -/
def Dated (day : ℤ) : Prop := 0 ≤ (civil day).1 ∧ (civil day).1 < 10 ^ 4

instance (day : ℤ) : Decidable (Dated day) :=
  inferInstanceAs (Decidable (0 ≤ (civil day).1 ∧ (civil day).1 < 10 ^ 4))

theorem dateText_ordered : Ordered {day | Dated day} 10 dateText where
  strictMonoOn := by
    intro a ha b hb hab
    have hyear := @padded_ordered 4 (by decide)
    have htwo := @padded_ordered 2 (by decide)
    have hyearA : (civil a).1 ∈ Set.Ico (0 : ℤ) (10 ^ 4) := ha
    have hyearB : (civil b).1 ∈ Set.Ico (0 : ℤ) (10 ^ 4) := hb
    obtain ⟨hmonthA, hdayA⟩ := civil_two a
    obtain ⟨hmonthB, hdayB⟩ := civil_two b
    unfold dateText
    rcases civil_lt hab with hlt | ⟨heq, hlt | ⟨heq', hlt⟩⟩
    · exact append_lt_append ((hyear.length_eq _ hyearA).trans (hyear.length_eq _ hyearB).symm)
        (hyear.strictMonoOn hyearA hyearB hlt) _ _
    · rw [heq]
      refine List.append_left_lt (List.cons_lt_cons_iff.2 (Or.inr ⟨rfl, ?_⟩))
      exact append_lt_append ((htwo.length_eq _ hmonthA).trans (htwo.length_eq _ hmonthB).symm)
        (htwo.strictMonoOn hmonthA hmonthB hlt) _ _
    · rw [heq, heq']
      refine List.append_left_lt (List.append_left_lt (List.cons_lt_cons_iff.2 (Or.inr ⟨rfl, ?_⟩)))
      exact htwo.strictMonoOn hdayA hdayB hlt
  length_eq day hday := by
    have hyear := (@padded_ordered 4 (by decide)).length_eq _ hday
    have hmonth := (@padded_ordered 2 (by decide)).length_eq _ (civil_two day).1
    have hday := (@padded_ordered 2 (by decide)).length_eq _ (civil_two day).2
    simp only [dateText, List.length_append, List.length_cons, hyear, hmonth, hday]

/-- The day that a moment falls on. -/
def dayOf (micros : ℤ) : ℤ := micros / 1000000 / 86400

/-- Texts with one zone are in the order of their moments. -/
theorem isoText_lt {zone : String} (hzone : zone.toList < ['.']) {micros micros' : ℤ}
    (h : micros < micros') (hdated : Dated (dayOf micros)) (hdated' : Dated (dayOf micros')) :
    ({ micros, utcOffset := none } : DateTime).isoText ++ zone <
      ({ micros := micros', utcOffset := none } : DateTime).isoText ++ zone := by
  have hclock := clockText_ordered.append_left ['T']
  have hseconds := dateText_ordered.ediv (by decide) hclock
  have htexts := hseconds.strictMonoOn_ediv (by decide) (fractionText_strictMonoOn hzone)
  rw [String.lt_iff_toList_lt, isoText_naive, isoText_naive]
  exact htexts hdated hdated' h

end RecoveryAgent.Python
