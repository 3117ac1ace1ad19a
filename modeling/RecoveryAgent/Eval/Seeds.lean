import Mathlib.Algebra.Order.Ring.Int
import RecoveryAgent.Library.Fault
import RecoveryAgent.Python.IntText

/-!
# Seeds as a text

`parse_seeds_arg` of `eval/benchmark.py` reads a comma-separated list, a range with a hyphen,
or nothing at all. A hyphen is a sign as well, so what begins with one is no range and no
single seed.
-/

namespace RecoveryAgent.Eval

open Python

/-- `range(start, stop + 1)`. -/
def seedRange (start stop : ℤ) : List ℤ :=
  (List.range (stop + 1 - start).toNat).map fun k : ℕ => start + k

def defaultMultiSeeds : List ℤ := seedRange 42 51

/-- What `parse_seeds_arg` raises. -/
inductive SeedsError where
  | valueError
  | overflowError
  | memoryError
  deriving DecidableEq, Repr

/-- `int(text)`. -/
def seedOfText (text : String) : Except SeedsError ℤ :=
  match intOfText text with
  | some i => .ok i
  | none => .error .valueError

/-- `list(range(start, stop + 1))`. The length of a list is a machine word, and its entries take
eight bytes each. -/
def listRange (start stop : ℤ) : Except SeedsError (List ℤ) :=
  if 2 ^ 63 ≤ stop + 1 - start then .error .overflowError
  else if 2 ^ 60 ≤ stop + 1 - start then .error .memoryError
  else .ok (seedRange start stop)

/-- `[int(x.strip()) for x in raw.split(",") if x.strip()]`. -/
def listedSeeds (letters : List Char) : Except SeedsError (List ℤ) :=
  (((letters.splitOn ',').map fun part => strip (.ofList part)).filter fun part =>
    part ≠ "").mapM seedOfText

/-- The two ends at the first hyphen. -/
def rangedSeeds (letters : List Char) : Except SeedsError (List ℤ) := do
  let start ← seedOfText (strip (.ofList (letters.takeWhile (· ≠ '-'))))
  let stop ← seedOfText (strip (.ofList ((letters.dropWhile (· ≠ '-')).drop 1)))
  if stop < start then throw .valueError
  else listRange start stop

def parseSeedsArg (raw : String) : Except SeedsError (List ℤ) :=
  let letters := (strip raw).toList
  if letters = [] then .ok defaultMultiSeeds
  else if '-' ∈ letters ∧ ',' ∉ letters then rangedSeeds letters
  else listedSeeds letters

/-- Seeds with commas between them. -/
def commaList (seeds : List ℤ) : String := String.intercalate "," (seeds.map toString)

/-- Two ends with a hyphen between them. -/
def hyphenRange (start stop : ℤ) : String := toString start ++ "-" ++ toString stop

/-!
## Lists
-/

theorem toList_commaList (seeds : List ℤ) :
    (commaList seeds).toList = [','].intercalate (seeds.map fun i => (toString i).toList) := by
  rw [commaList, String.toList_intercalate, List.map_map]
  rfl

theorem comma_notMem (i : ℤ) : ',' ∉ (toString i).toList :=
  not_mem_toString_int (by decide) (by decide) i

theorem seedOfText_toString (i : ℤ) :
    seedOfText (toString i) =
      if i.natAbs < intLimit then .ok i else .error .valueError := by
  rw [seedOfText, intOfText_toString]
  by_cases h : i.natAbs < intLimit
  · rw [if_pos h, if_pos h]
  · rw [if_neg h, if_neg h]

theorem toString_int_ne_empty (i : ℤ) : toString i ≠ "" := by
  have hdigits : (toString i).toList ≠ [] := by
    rw [toString_int]
    cases i with
    | ofNat n => exact Nat.toDigits_ne_nil
    | negSucc n => exact List.cons_ne_nil _ _
  exact fun h => hdigits (by rw [h]; rfl)

theorem word_commaList (seeds : List ℤ) : Word (commaList seeds) := by
  induction seeds with
  | nil => decide
  | cons i seeds ih =>
      cases seeds with
      | nil =>
          rw [commaList, List.map_singleton, String.intercalate_singleton]
          exact word_toString_int i
      | cons j seeds =>
          rw [commaList, List.map_cons, List.map_cons, String.intercalate_cons_cons]
          exact ((word_toString_int i).append (by decide)).append ih

theorem listedSeeds_commaList {seeds : List ℤ} (hne : seeds ≠ []) :
    listedSeeds (commaList seeds).toList =
      if ∀ seed ∈ seeds, seed.natAbs < intLimit then .ok seeds else .error .valueError := by
  have hparts : ((seeds.map fun i => (toString i).toList).map fun part => strip (.ofList part)) =
      seeds.map toString := by
    rw [List.map_map]
    refine List.map_congr_left fun i _ => ?_
    rw [Function.comp_apply, String.ofList_toList, (word_toString_int i).strip_eq]
  have hkept : (seeds.map toString).filter (fun part => part ≠ "") = seeds.map toString := by
    refine List.filter_eq_self.2 fun part hpart => ?_
    obtain ⟨i, -, rfl⟩ := List.mem_map.1 hpart
    exact decide_eq_true (toString_int_ne_empty i)
  rw [listedSeeds, toList_commaList, List.splitOn_intercalate, hparts, hkept]
  · clear hparts hkept hne
    induction seeds with
    | nil => rfl
    | cons i seeds ih =>
        rw [List.map_cons, List.mapM_cons, seedOfText_toString, ih]
        have hcons : (∀ seed ∈ i :: seeds, seed.natAbs < intLimit) ↔
            i.natAbs < intLimit ∧ ∀ seed ∈ seeds, seed.natAbs < intLimit := List.forall_mem_cons
        by_cases hi : i.natAbs < intLimit
        · by_cases hrest : ∀ seed ∈ seeds, seed.natAbs < intLimit
          · rw [if_pos hi, if_pos hrest, if_pos (hcons.2 ⟨hi, hrest⟩)]
            rfl
          · rw [if_pos hi, if_neg hrest, if_neg fun h => hrest (hcons.1 h).2]
            rfl
        · rw [if_neg hi, if_neg fun h => hi (hcons.1 h).1]
          rfl
  · intro part hpart
    obtain ⟨i, -, rfl⟩ := List.mem_map.1 hpart
    exact comma_notMem i
  · simpa using hne

/-- A number that begins with a hyphen has no start before it. -/
theorem rangedSeeds_of_neg {i : ℤ} (h : i < 0) (rest : List Char) :
    rangedSeeds ((toString i).toList ++ rest) = .error .valueError := by
  obtain ⟨n, rfl⟩ := Int.eq_negSucc_of_lt_zero h
  have hnothing : seedOfText (strip (.ofList [])) = .error .valueError := by
    have hempty : strip (.ofList []) = "" := rfl
    rw [hempty, seedOfText]
    rfl
  rw [toString_int, rangedSeeds, List.cons_append, List.takeWhile_cons_of_neg (by decide),
    hnothing]
  rfl

theorem hyphen_mem_iff (i : ℤ) : '-' ∈ (toString i).toList ↔ i < 0 := by
  rw [toString_int]
  match i with
  | .ofNat n =>
      simp only
      exact iff_of_false (not_mem_toDigits (by decide) n) (not_lt.2 (Int.natCast_nonneg n))
  | .negSucc n => exact iff_of_true List.mem_cons_self (Int.negSucc_lt_zero n)

/-- What is written with commas is read back, but for no seeds at all and for a single
negative one. -/
theorem parseSeedsArg_commaList (seeds : List ℤ) :
    parseSeedsArg (commaList seeds) = .ok seeds ↔
      seeds ≠ [] ∧ (∀ seed, seeds = [seed] → 0 ≤ seed) ∧
        ∀ seed ∈ seeds, seed.natAbs < intLimit := by
  have hletters : strip (commaList seeds) = commaList seeds := (word_commaList seeds).strip_eq
  have hlisted : ∀ {seeds : List ℤ}, seeds ≠ [] →
      (listedSeeds (commaList seeds).toList = .ok seeds ↔
        ∀ seed ∈ seeds, seed.natAbs < intLimit) := by
    intro seeds hne
    rw [listedSeeds_commaList hne]
    split
    · next h => exact iff_of_true rfl h
    · next h => exact iff_of_false nofun h
  rw [parseSeedsArg]
  simp only [hletters]
  match seeds with
  | [] =>
      have hempty : (commaList []).toList = [] := rfl
      rw [if_pos hempty]
      exact iff_of_false (by decide) fun h => h.1 rfl
  | [i] =>
      have hsingle : commaList [i] = toString i := String.intercalate_singleton
      have hne : (toString i).toList ≠ [] := by simpa using toString_int_ne_empty i
      rw [hsingle, if_neg hne]
      by_cases hneg : i < 0
      · rw [if_pos ⟨(hyphen_mem_iff i).2 hneg, comma_notMem i⟩,
          ← List.append_nil (toString i).toList, rangedSeeds_of_neg hneg]
        exact iff_of_false nofun fun h => absurd (h.2.1 i rfl) (by omega)
      · rw [if_neg fun h => hneg ((hyphen_mem_iff i).1 h.1), ← hsingle,
          hlisted (List.cons_ne_nil i [])]
        refine ⟨fun h => ⟨List.cons_ne_nil i [], fun seed heq => ?_, h⟩, fun h => h.2.2⟩
        cases heq
        omega
  | i :: j :: seeds =>
      have hcomma : ',' ∈ (commaList (i :: j :: seeds)).toList := by
        rw [toList_commaList, List.map_cons, List.map_cons, List.intercalate_cons_cons]
        simp
      rw [if_neg (List.ne_nil_of_mem hcomma), if_neg fun h => h.2 hcomma,
        hlisted (List.cons_ne_nil i _)]
      exact ⟨fun h => ⟨List.cons_ne_nil i _, nofun, h⟩, fun h => h.2.2⟩

/-!
## Ranges
-/

theorem word_hyphenRange (start stop : ℤ) : Word (hyphenRange start stop) :=
  ((word_toString_int start).append (by decide)).append (word_toString_int stop)

theorem toList_hyphenRange (start stop : ℤ) : (hyphenRange start stop).toList =
    (toString start).toList ++ '-' :: (toString stop).toList := by
  rw [hyphenRange, String.toList_append, String.toList_append, List.append_assoc]
  rfl

/-- The first hyphen ends a start that is not negative. -/
theorem rangedSeeds_of_nonneg {start : ℤ} (h : 0 ≤ start) (stop : ℤ) :
    rangedSeeds ((toString start).toList ++ '-' :: (toString stop).toList) = (do
      let start ← seedOfText (toString start)
      let stop ← seedOfText (toString stop)
      if stop < start then throw .valueError
      else listRange start stop) := by
  have hhyphen : ∀ c ∈ (toString start).toList, decide (c ≠ '-') = true :=
    fun c hc => decide_eq_true fun heq => absurd ((hyphen_mem_iff start).1 (heq ▸ hc)) (not_lt.2 h)
  have hword : ∀ i : ℤ, strip (.ofList (toString i).toList) = toString i := fun i => by
    rw [String.ofList_toList, (word_toString_int i).strip_eq]
  rw [rangedSeeds, List.takeWhile_append_of_pos hhyphen, List.dropWhile_append_of_pos hhyphen,
    List.takeWhile_cons_of_neg (by decide), List.dropWhile_cons_of_neg (by decide),
    List.append_nil, List.drop_one, List.tail_cons, hword, hword]

theorem listRange_eq_ok_iff {start stop : ℤ} :
    listRange start stop = .ok (seedRange start stop) ↔ stop + 1 - start < 2 ^ 60 := by
  unfold listRange
  split
  · exact iff_of_false nofun (by omega)
  · split
    · exact iff_of_false nofun (by omega)
    · exact iff_of_true rfl (by omega)

/-- A range is read back when it starts at zero or above, does not go down, and has numbers that
can be written and as many of them as a list can hold. -/
theorem parseSeedsArg_hyphenRange (start stop : ℤ) :
    parseSeedsArg (hyphenRange start stop) = .ok (seedRange start stop) ↔
      0 ≤ start ∧ start ≤ stop ∧ stop.natAbs < intLimit ∧ stop + 1 - start < 2 ^ 60 := by
  have hletters : strip (hyphenRange start stop) = hyphenRange start stop :=
    (word_hyphenRange start stop).strip_eq
  have hhyphen : '-' ∈ (hyphenRange start stop).toList := by
    rw [toList_hyphenRange]
    simp
  have hcomma : ',' ∉ (hyphenRange start stop).toList := by
    rw [toList_hyphenRange, List.mem_append, List.mem_cons]
    rintro (h | h | h)
    · exact comma_notMem start h
    · cases h
    · exact comma_notMem stop h
  rw [parseSeedsArg]
  simp only [hletters]
  rw [if_neg (List.ne_nil_of_mem hhyphen), if_pos ⟨hhyphen, hcomma⟩, toList_hyphenRange]
  by_cases hneg : start < 0
  · rw [rangedSeeds_of_neg hneg]
    exact iff_of_false nofun fun h => absurd h.1 (not_le.2 hneg)
  rw [rangedSeeds_of_nonneg (not_lt.1 hneg), seedOfText_toString, seedOfText_toString]
  by_cases hstop : stop.natAbs < intLimit
  · by_cases hstart : start.natAbs < intLimit
    · rw [if_pos hstart, if_pos hstop]
      change (if stop < start then _ else listRange start stop) = _ ↔ _
      by_cases hback : stop < start
      · rw [if_pos hback]
        exact iff_of_false nofun fun h => absurd h.2.1 (not_le.2 hback)
      · rw [if_neg hback, listRange_eq_ok_iff]
        exact ⟨fun h => ⟨not_lt.1 hneg, not_lt.1 hback, hstop, h⟩, fun h => h.2.2.2⟩
    · rw [if_neg hstart]
      exact iff_of_false nofun fun h => hstart (by omega)
  · rw [if_neg hstop]
    refine iff_of_false (fun h => ?_) fun h => hstop h.2.2.1
    obtain ⟨_, -, h⟩ := Library.bind_eq_ok h
    cases h

/-- The texts of the docstring are read back as they are meant, and where they are not is known:
a list of seeds unless it is empty or one negative seed, and a range exactly when it starts at
zero or above, does not go down, and is no longer than a list can be. Nothing is no error but
the default. -/
theorem seeds_read_back :
    (∀ seeds, parseSeedsArg (commaList seeds) = .ok seeds ↔
      seeds ≠ [] ∧ (∀ seed, seeds = [seed] → 0 ≤ seed) ∧
        ∀ seed ∈ seeds, seed.natAbs < intLimit) ∧
    (∀ start stop, parseSeedsArg (hyphenRange start stop) = .ok (seedRange start stop) ↔
      0 ≤ start ∧ start ≤ stop ∧ stop.natAbs < intLimit ∧ stop + 1 - start < 2 ^ 60) ∧
    ∀ start stop, 0 ≤ start → start ≤ stop → stop.natAbs < intLimit →
      stop + 1 - start < 2 ^ 60 →
      parseSeedsArg (commaList (seedRange start stop)) =
        parseSeedsArg (hyphenRange start stop) := by
  refine ⟨parseSeedsArg_commaList, parseSeedsArg_hyphenRange,
    fun start stop hstart hstop hlimit hlength => ?_⟩
  have hmem : ∀ seed ∈ seedRange start stop, 0 ≤ seed ∧ seed ≤ stop := by
    intro seed hseed
    obtain ⟨k, hk, rfl⟩ := List.mem_map.1 hseed
    have hbound := List.mem_range.1 hk
    omega
  have hne : seedRange start stop ≠ [] := by
    have hlength : (seedRange start stop).length = (stop + 1 - start).toNat := by
      rw [seedRange, List.length_map, List.length_range]
    intro hnil
    rw [hnil, List.length_nil] at hlength
    omega
  rw [(parseSeedsArg_hyphenRange start stop).2 ⟨hstart, hstop, hlimit, hlength⟩]
  refine (parseSeedsArg_commaList _).2 ⟨hne, fun seed h => (hmem seed ?_).1, fun seed hseed => ?_⟩
  · exact h ▸ List.mem_singleton_self seed
  · have hbounds := hmem seed hseed
    omega

theorem seeds_read_back_five :
    parseSeedsArg (commaList (seedRange 42 46)) = parseSeedsArg (hyphenRange 42 46) :=
  have hlimit : (46 : ℤ).natAbs < intLimit := length_toDigits_le_iff.1 (by decide)
  seeds_read_back.2.2 42 46 (by decide) (by decide) hlimit (by decide)

example : parseSeedsArg " 42 - 44 " = .ok [42, 43, 44] := by decide

end RecoveryAgent.Eval
