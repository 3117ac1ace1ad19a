import Mathlib.Algebra.Ring.Rat
import RecoveryAgent.Eval.Bridge
import RecoveryAgent.Python.Values

/-!
# The generated batch

`eval/batch.py` and the hidden truths of `eval/payer_model.py`: one generator, seeded
by a number, draws the cases one after the other. Every generated case has a key of its
own, and the rules have a plan for it.
-/

namespace RecoveryAgent.Eval

open Python

/-- A family of seeded generators. All further draws are made of a number in the unit
interval and of a number below a bound. -/
structure Rng (G : Type*) where
  /-- `random.Random` of a number -/
  seed : ℤ → G
  /-- `random.Random` of a text -/
  seeded : String → G
  random : G → ℚ × G
  randbelow : (n : ℕ) → 0 < n → G → Fin n × G

section

variable {G α : Type*}

/-- `rng.randint`, on a range that is not empty. -/
def Rng.randint (rng : Rng G) (g : G) (low high : ℤ) (h : low ≤ high := by decide) : ℤ × G :=
  let (i, g) := rng.randbelow (high - low + 1).toNat (by omega) g
  (low + i.val, g)

/-- `rng.choice`, of a sequence that is not empty. -/
def Rng.choice (rng : Rng G) (g : G) (xs : List α) (h : 0 < xs.length := by decide) : α × G :=
  let (i, g) := rng.randbelow xs.length h g
  (xs.get i, g)

/-- The key at a point of the weights laid end to end; the last takes what is beyond. -/
def keyAt : α × ℚ → List (α × ℚ) → ℚ → α
  | (key, _), [], _ => key
  | (key, weight), next :: rest, point =>
      if point < weight then key else keyAt next rest (point - weight)

/-- `rng.choices` of one key, as in `_weighted_choice`. -/
def weightedChoice (rng : Rng G) (g : G) (weights : List (α × ℚ))
    (h : weights ≠ [] := by decide) : α × G :=
  let (draw, g) := rng.random g
  (keyAt (weights.head h) weights.tail (draw * (weights.map Prod.snd).sum), g)

end

def declineWeights : List (FailureReason × ℚ) :=
  [(.insufficientFunds, 34 / 100), (.issuerTransient, 14 / 100), (.gatewayTimeout, 8 / 100),
    (.cardExpired, 16 / 100), (.tokenInvalid, 8 / 100), (.mandateRevoked, 6 / 100),
    (.doNotHonour, 10 / 100), (.riskFraud, 4 / 100)]

def rails : List String := ["card", "upi_autopay", "enach"]

def amountsPaise : List ℤ := [19900, 49900, 99900, 149900, 299900]

variable {G : Type*} (rng : Rng G)

def sampleHiddenTruth (g : G) (reason : FailureReason) : HiddenPayerTruth × G :=
  let (trueCreditDay, g) := rng.randint g 1 7
  let truth : HiddenPayerTruth :=
    match reason with
    | .cardExpired | .tokenInvalid | .mandateRevoked =>
        { instrumentValid := false
          trueCreditDay
          naturalRecoveryProb := 2 / 100
          baseContactResponseProb := 58 / 100
          retrySuccessIfFunded := 0 }
    | .riskFraud =>
        { instrumentValid := true
          trueCreditDay
          naturalRecoveryProb := 1 / 100
          baseContactResponseProb := 5 / 100
          retrySuccessIfFunded := 5 / 100 }
    | .insufficientFunds =>
        { instrumentValid := true
          trueCreditDay
          naturalRecoveryProb := 8 / 100
          baseContactResponseProb := 22 / 100
          retrySuccessIfFunded := 92 / 100 }
    | .issuerTransient | .gatewayTimeout =>
        { instrumentValid := true
          trueCreditDay
          naturalRecoveryProb := 18 / 100
          baseContactResponseProb := 12 / 100
          retrySuccessIfFunded := 86 / 100 }
    | .doNotHonour =>
        { instrumentValid := true
          trueCreditDay
          naturalRecoveryProb := 10 / 100
          baseContactResponseProb := 28 / 100
          retrySuccessIfFunded := 48 / 100 }
  (truth, g)

/-- The noisy hint at the credit day: often right, sometimes missing or wrong. -/
def observeCreditDay (g : G) (trueCreditDay : ℤ) : Option ℤ × G :=
  let (draw, g) := rng.random g
  if draw < 55 / 100 then (some trueCreditDay, g)
  else
    let (draw, g) := rng.random g
    if draw < 5 / 10 then (none, g)
    else
      let (day, g) := rng.randint g 1 7
      (some day, g)

def caseKeyOf (seed : ℤ) (i : ℕ) : String := s!"sim_{seed}_" ++ padded 4 i

/-- One round of the loop of `generate_batch`. -/
def generateCase (seed : ℤ) (i : ℕ) (g : G) : SimCase × G :=
  let (failureReason, g) := weightedChoice rng g declineWeights
  let (hidden, g) := sampleHiddenTruth rng g failureReason
  let (failureDom, g) := rng.randint g 1 28
  let (amountPaise, g) := rng.choice g amountsPaise
  let (rail, g) := rng.choice g rails
  let (observedCreditDay, g) := observeCreditDay rng g hidden.trueCreditDay
  ({ visible :=
       { caseKey := caseKeyOf seed i
         payerRef := s!"payer_{seed}_" ++ padded 4 i
         amountPaise
         rail
         failureReason
         attemptNumber := 1
         observedCreditDay }
     hidden
     failureDom }, g)

/-- So many rounds, from the `i`-th on. -/
def generateCases (seed : ℤ) : ℕ → ℕ → G → List SimCase
  | 0, _, _ => []
  | count + 1, i, g =>
      let (case, g) := generateCase rng seed i g
      case :: generateCases seed count (i + 1) g

/-- `generate_batch`. It raises when no case is asked for. -/
def generateBatch (seed n : ℤ) : Option (List SimCase) :=
  if n ≤ 0 then none else some (generateCases rng seed n.toNat 0 (rng.seed seed))

/-!
## What is generated
-/

theorem generateCase_amount (seed : ℤ) (i : ℕ) (g : G) :
    (generateCase rng seed i g).1.visible.amountPaise ∈ amountsPaise :=
  List.get_mem _ _

theorem generateCase_caseKey (seed : ℤ) (i : ℕ) (g : G) :
    (generateCase rng seed i g).1.visible.caseKey = caseKeyOf seed i := rfl

/-- The amounts are among the five. -/
theorem amount_of_mem_generateCases {seed : ℤ} {count i : ℕ} {g : G} {case : SimCase}
    (h : case ∈ generateCases rng seed count i g) : case.visible.amountPaise ∈ amountsPaise := by
  induction count generalizing i g with
  | zero => cases h
  | succ count ih =>
      unfold generateCases at h
      rcases List.mem_cons.1 h with rfl | h
      · exact generateCase_amount rng seed i g
      · exact ih h

theorem generateCases_caseKeys (seed : ℤ) (count i : ℕ) (g : G) :
    (generateCases rng seed count i g).map (·.visible.caseKey) =
      (List.range' i count).map (caseKeyOf seed) := by
  induction count generalizing i g with
  | zero => rfl
  | succ count ih =>
      unfold generateCases
      rw [List.range'_succ, List.map_cons, List.map_cons, generateCase_caseKey, ih]

/-- As many cases are generated as were asked for. -/
theorem generateBatch_length {seed n : ℤ} {cases : List SimCase}
    (h : generateBatch rng seed n = some cases) : (cases.length : ℤ) = n := by
  unfold generateBatch at h
  split at h
  · cases h
  · cases h
    have hkeys := congrArg List.length (generateCases_caseKeys rng seed n.toNat 0 (rng.seed seed))
    rw [List.length_map, List.length_map, List.length_range'] at hkeys
    omega

theorem caseKeyOf_injective (seed : ℤ) : Function.Injective (caseKeyOf seed) := by
  intro i j h
  unfold caseKeyOf at h
  exact padded_injective 4 ((String.append_right_inj _).1 h)

/-- Of a generated batch no two cases share a key, and the rules have a plan for each. -/
theorem generateBatch_cases {seed n : ℤ} {cases : List SimCase}
    (h : generateBatch rng seed n = some cases) :
    (cases.map (·.visible.caseKey)).Nodup ∧
      ∀ case ∈ cases, (policyOursFromTaxonomy case).isSome := by
  unfold generateBatch at h
  split at h
  · cases h
  · cases h
    constructor
    · rw [generateCases_caseKeys]
      exact (List.nodup_range' 1).map (caseKeyOf_injective seed)
    · intro case hcase
      have hamounts : ∀ amount ∈ amountsPaise, 0 ≤ amount := by decide
      exact policyOurs_isSome (hamounts _ (amount_of_mem_generateCases rng hcase))

end RecoveryAgent.Eval
