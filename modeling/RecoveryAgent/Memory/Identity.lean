import Mathlib.Data.List.TakeWhile
import RecoveryAgent.Eval.Batch
import RecoveryAgent.Memory.Episodes
import RecoveryAgent.Python.Digits

/-!
# Who an episode is

`memory/identity.py`: the id of an episode and the name of its document, both from its seed
and the key of its case. The id holds the key as it is; the name holds the number that a
pattern reads off the end of the key. Either way the seed and the number of the case can be
read back, so over a set of seeds no two episodes of a corpus share one of them.
-/

namespace RecoveryAgent.Memory

open Python Eval Library

/-- What `_(\d+)$` matches first: the digits after an underscore that go on to the end, or to
the newline at the end. -/
def caseIndexMatch : List Char → Option (List Char)
  | [] => none
  | c :: rest =>
      if c = '_' ∧ rest.takeWhile isDecimal ≠ [] ∧
          (rest.dropWhile isDecimal = [] ∨ rest.dropWhile isDecimal = ['\n']) then
        some (rest.takeWhile isDecimal)
      else caseIndexMatch rest

def caseIndexFromKey (caseId : String) : String :=
  match caseIndexMatch caseId.toList with
  | some digits => toString (intOfDecimals digits)
  | none =>
      let tail := (caseId.toList.reverse.takeWhile (· ≠ '_')).reverse
      if tail ≠ [] ∧ tail.all isDigit then String.ofList tail else "0"

def documentFilename (seed : ℤ) (caseId : String) (simulationVersion : String) : String :=
  s!"recovery-sim-{simulationVersion}-seed{seed}-case{caseIndexFromKey caseId}.txt"

/-!
## Reading the key of a case
-/

/-- The last underscore decides, when only digits come after it. -/
theorem caseIndexMatch_append (before : List Char) {digits : List Char} (hne : digits ≠ [])
    (hdigits : ∀ c ∈ digits, isDecimal c = true) :
    caseIndexMatch (before ++ '_' :: digits) = some digits := by
  have htake : digits.takeWhile isDecimal = digits := List.takeWhile_eq_self_iff.2 hdigits
  have hdrop : digits.dropWhile isDecimal = [] := List.dropWhile_eq_nil_iff.2 hdigits
  induction before with
  | nil =>
      rw [List.nil_append, caseIndexMatch, htake, hdrop,
        if_pos ⟨rfl, hne, Or.inl rfl⟩]
  | cons c before ih =>
      -- the underscore further on is left after the digits here
      have hleft : '_' ∈ (before ++ '_' :: digits).dropWhile isDecimal := by
        have hmem : '_' ∈ (before ++ '_' :: digits).takeWhile isDecimal ++
            (before ++ '_' :: digits).dropWhile isDecimal := by
          rw [List.takeWhile_append_dropWhile]
          exact List.mem_append_right _ List.mem_cons_self
        rcases List.mem_append.1 hmem with hmem | hmem
        · exact absurd (List.mem_takeWhile_imp hmem) (by decide)
        · exact hmem
      rw [List.cons_append, caseIndexMatch, if_neg ?_, ih]
      rintro ⟨-, -, hend | hend⟩
      · rw [hend] at hleft
        cases hleft
      · rw [hend] at hleft
        exact absurd hleft (by decide)

theorem toList_caseKeyOf (seed : ℤ) (i : ℕ) :
    (caseKeyOf seed i).toList =
      "sim_".toList ++ (toString seed).toList ++ '_' :: (padded 4 i).toList := by
  rw [caseKeyOf, String.toList_append, String.toList_append, String.toList_append,
    List.append_assoc]
  rfl

theorem caseIndexFromKey_caseKeyOf (seed : ℤ) (i : ℕ) :
    caseIndexFromKey (caseKeyOf seed i) = toString i := by
  have hmatch := caseIndexMatch_append ("sim_".toList ++ (toString seed).toList)
    (padded_ne_nil 4 i) fun c hc => isDecimal_of_isDigit (isDigit_of_mem_padded hc)
  rw [caseIndexFromKey, toList_caseKeyOf, hmatch]
  exact congrArg toString (intOfDecimals_padded 4 i)

/-!
## Reading an identity
-/

/-- There is no slash in the key of a case, so the id holds it as it is. -/
theorem logicalEpisodeId_caseKeyOf (seed : ℤ) (i : ℕ) (simulationVersion : String) :
    (logicalEpisodeId seed (caseKeyOf seed i) simulationVersion).toList =
      ("recovery_" ++ simulationVersion ++ "_seed").toList ++ ((toString seed).toList ++
        '_' :: (caseKeyOf seed i).toList) := by
  have hslash : ∀ c ∈ (caseKeyOf seed i).toList, c ≠ '/' := by
    rintro c hc rfl
    rw [toList_caseKeyOf, List.mem_append, List.mem_append, List.mem_cons] at hc
    rcases hc with (hc | hc) | hc | hc
    · exact absurd hc (by decide)
    · exact not_mem_toString_int (by decide) (by decide) seed hc
    · exact absurd hc (by decide)
    · exact absurd (isDigit_of_mem_padded hc) (by decide)
  have hmap : ((caseKeyOf seed i).toList.map fun c => if c = '/' then '_' else c) =
      (caseKeyOf seed i).toList := by
    rw [List.map_congr_left fun c hc => if_neg (hslash c hc), List.map_id']
  rw [logicalEpisodeId]
  simp only [String.toList_append, String.toList_map, hmap, List.append_assoc]
  rfl

theorem documentFilename_caseKeyOf (seed : ℤ) (i : ℕ) (simulationVersion : String) :
    (documentFilename seed (caseKeyOf seed i) simulationVersion).toList =
      ("recovery-sim-" ++ simulationVersion ++ "-seed").toList ++
        (((toString seed).toList ++ ['-']) ++ 'c' :: ("ase".toList ++
          ((toString (i : ℤ)).toList ++ ".txt".toList))) := by
  have hcase : "-case".toList = '-' :: 'c' :: "ase".toList := by decide
  have hindex : toString (i : ℤ) = toString i := rfl
  unfold documentFilename
  simp only [caseIndexFromKey_caseKeyOf]
  change ("recovery-sim-" ++ simulationVersion ++ "-seed" ++ toString seed ++ "-case" ++
    toString i ++ ".txt").toList = _
  simp only [String.toList_append, hindex, hcase, List.append_assoc, List.cons_append,
    List.nil_append]

/-- The seed and the number of a case are in its id. -/
theorem logicalEpisodeId_injective (simulationVersion : String) :
    Function.Injective fun p : ℤ × ℕ =>
      logicalEpisodeId p.1 (caseKeyOf p.1 p.2) simulationVersion := by
  rintro ⟨seed, i⟩ ⟨seed', i'⟩ h
  have hlist := congrArg String.toList h
  simp only [logicalEpisodeId_caseKeyOf] at hlist
  have hunderscore : ∀ s : ℤ, '_' ∉ (toString s).toList :=
    not_mem_toString_int (by decide) (by decide)
  obtain ⟨hseed, hkey⟩ := split_at_separator (hunderscore seed) (hunderscore seed')
    (List.append_cancel_left hlist)
  have hsame : seed = seed' := toString_int_injective hseed
  subst hsame
  rw [caseKeyOf_injective seed (String.toList_inj.1 hkey)]

/-- They are in the name of its document. -/
theorem documentFilename_injective (simulationVersion : String) :
    Function.Injective fun p : ℤ × ℕ =>
      documentFilename p.1 (caseKeyOf p.1 p.2) simulationVersion := by
  rintro ⟨seed, i⟩ ⟨seed', i'⟩ h
  have hlist := congrArg String.toList h
  simp only [documentFilename_caseKeyOf] at hlist
  have hletter : ∀ s : ℤ, 'c' ∉ (toString s).toList ++ ['-'] := by
    intro s hmem
    rcases List.mem_append.1 hmem with hmem | hmem
    · exact not_mem_toString_int (by decide) (by decide) s hmem
    · exact absurd hmem (by decide)
  have hrest := List.append_cancel_left hlist
  obtain ⟨hseed, hindex⟩ := split_at_separator (hletter seed) (hletter seed') hrest
  have hsame : seed = seed' := toString_int_injective (List.append_cancel_right hseed)
  have hnumber : (i : ℤ) = i' := toString_int_injective
    (List.append_cancel_right (List.append_cancel_left hindex))
  rw [hsame, Int.ofNat_inj.1 hnumber]

end RecoveryAgent.Memory
