import Mathlib.Data.List.ProdSigma
import RecoveryAgent.Eval.Comparison
import RecoveryAgent.Memory.Identity

/-!
# The corpus

`generate_episodes_for_seeds` of `memory/episode_factory.py`: the batch of every seed,
played by `ours`, one episode for each case. `memory/seed.py` keeps an episode in its
manifest under its id, and uploads it under the name of its document.
-/

namespace RecoveryAgent.Memory

open Python Config Eval Library

def uploadName (episode : PaymentEpisode) : String :=
  documentFilename (episode.seed.getD 0)
    (if episode.caseId.getD "" = "" then episode.episodeId else episode.caseId.getD "")
    episode.simulationVersion

/-- `xs[:limit]`, which counts from the end for a negative limit. -/
def sliceTo {α : Type*} (xs : List α) (limit : ℤ) : List α :=
  if 0 ≤ limit then xs.take limit.toNat else xs.take (xs.length + limit).toNat

section

variable {G : Type*} (costs : Costs) (rng : Rng G)

/-- `generate_episodes_for_seed`. It raises when no case is asked for. -/
def generateEpisodesForSeed (seed n : ℤ) (simulationVersion : String) :
    Option (List PaymentEpisode) := do
  let cases ← generateBatch rng seed n
  cases.mapM fun case =>
    paymentEpisodeFromCase costs seed policyOurs simulationVersion case
      (runCase rng.random (rng.seeded s!"{seed}:{case.visible.caseKey}") case policyOurs)

/-- The loop of `generate_episodes_for_seeds`, from the episodes so far. -/
def extendEpisodes (n : ℤ) (limit : Option ℤ) (simulationVersion : String) :
    List PaymentEpisode → List ℤ → Option (List PaymentEpisode)
  | episodes, [] => some episodes
  | episodes, seed :: seeds => do
      let batch ← generateEpisodesForSeed costs rng seed n simulationVersion
      match limit with
      | none => extendEpisodes n limit simulationVersion (episodes ++ batch) seeds
      | some bound =>
          if bound ≤ (episodes ++ batch).length then some (sliceTo (episodes ++ batch) bound)
          else extendEpisodes n limit simulationVersion (episodes ++ batch) seeds

def generateEpisodesForSeeds (seeds : List ℤ) (n : ℤ) (limit : Option ℤ)
    (simulationVersion : String) : Option (List PaymentEpisode) :=
  extendEpisodes costs rng n limit simulationVersion [] seeds

/-!
## Numbered episodes
-/

/-- The seed and the number that an episode is made of. -/
structure Numbered (simulationVersion : String) (p : ℤ × ℕ) (episode : PaymentEpisode) :
    Prop where
  episodeId : episode.episodeId =
    logicalEpisodeId p.1 (caseKeyOf p.1 p.2) simulationVersion
  uploadName : uploadName episode = documentFilename p.1 (caseKeyOf p.1 p.2) simulationVersion

theorem caseKeyOf_ne_empty (seed : ℤ) (i : ℕ) : caseKeyOf seed i ≠ "" := by
  intro h
  have hlist := congrArg String.toList h
  rw [toList_caseKeyOf] at hlist
  cases hlist

theorem numbered_of_case {seed : ℤ} {i : ℕ} {planFn : PlanFn} {simulationVersion : String}
    {case : SimCase} {outcome : CaseOutcome} {episode : PaymentEpisode}
    (hkey : case.visible.caseKey = caseKeyOf seed i)
    (h : paymentEpisodeFromCase costs seed planFn simulationVersion case outcome = some episode) :
    Numbered simulationVersion (seed, i) episode := by
  unfold paymentEpisodeFromCase at h
  simp only [hkey] at h
  split at h
  · cases h
    constructor
    · rfl
    · rw [Memory.uploadName]
      simp only [Option.getD_some, if_neg (caseKeyOf_ne_empty seed i)]
  · cases h

theorem numbered_of_seed {seed n : ℤ} {simulationVersion : String}
    {episodes : List PaymentEpisode}
    (h : generateEpisodesForSeed costs rng seed n simulationVersion = some episodes) :
    List.Forall₂ (Numbered simulationVersion) ((List.range n.toNat).map (Prod.mk seed))
      episodes := by
  obtain ⟨cases, hcases, hmade⟩ := Option.bind_eq_some_iff.1 h
  have hkeys : cases.map (·.visible.caseKey) = (List.range n.toNat).map (caseKeyOf seed) := by
    unfold generateBatch at hcases
    split at hcases
    · cases hcases
    · cases hcases
      rw [generateCases_caseKeys, List.range_eq_range']
  have hcase : List.Forall₂ (fun key episode => ∀ i, key = caseKeyOf seed i →
      Numbered simulationVersion (seed, i) episode) (cases.map (·.visible.caseKey)) episodes := by
    rw [List.forall₂_map_left_iff]
    exact (Grouping.forall₂_of_mapM hmade).imp fun case episode hepisode i hkey =>
      numbered_of_case costs hkey hepisode
  rw [hkeys, List.forall₂_map_left_iff] at hcase
  rw [List.forall₂_map_left_iff]
  exact hcase.imp fun i episode hnumbered => hnumbered i rfl

theorem sliceTo_eq_take {α : Type*} (xs : List α) (limit : ℤ) :
    ∃ k, sliceTo xs limit = xs.take k := by
  unfold sliceTo
  split
  · exact ⟨_, rfl⟩
  · exact ⟨_, rfl⟩

/-- Whatever the limit, the episodes are numbered by some of the pairs, in order. -/
theorem numbered_extendEpisodes {n : ℤ} {limit : Option ℤ} {simulationVersion : String}
    {seeds : List ℤ} {before episodes : List PaymentEpisode} {ps : List (ℤ × ℕ)}
    (hbefore : List.Forall₂ (Numbered simulationVersion) ps before)
    (h : extendEpisodes costs rng n limit simulationVersion before seeds = some episodes) :
    ∃ qs, List.Sublist qs (ps ++ seeds ×ˢ List.range n.toNat) ∧
      List.Forall₂ (Numbered simulationVersion) qs episodes := by
  induction seeds generalizing before ps with
  | nil =>
      cases h
      exact ⟨ps, List.sublist_append_left _ _, hbefore⟩
  | cons seed seeds ih =>
      rw [List.product_cons, ← List.append_assoc]
      obtain ⟨batch, hbatch, hrest⟩ := Option.bind_eq_some_iff.1 h
      have hall := List.rel_append hbefore (numbered_of_seed costs rng hbatch)
      cases limit with
      | none => exact ih hall hrest
      | some bound =>
          simp only at hrest
          split at hrest
          · obtain ⟨k, hk⟩ := sliceTo_eq_take (before ++ batch) bound
            rw [hk] at hrest
            cases hrest
            exact ⟨_, (List.take_sublist k _).trans (List.sublist_append_left _ _),
              List.forall₂_take k hall⟩
          · exact ih hall hrest

/-- What the pairs do not share, the episodes do not share. -/
theorem nodup_of_numbered {simulationVersion : String} {qs : List (ℤ × ℕ)}
    {episodes : List PaymentEpisode} (hqs : qs.Nodup)
    (h : List.Forall₂ (Numbered simulationVersion) qs episodes) :
    (episodes.map (·.episodeId)).Nodup ∧ (episodes.map uploadName).Nodup := by
  have hids := Grouping.map_of_forall₂ (fun p _ hnumbered => hnumbered.episodeId) h
  have hnames := Grouping.map_of_forall₂ (fun p _ hnumbered => hnumbered.uploadName) h
  rw [hids, hnames]
  exact ⟨hqs.map (logicalEpisodeId_injective simulationVersion),
    hqs.map (documentFilename_injective simulationVersion)⟩

/-- Corpus identities never collide: different numbers or different seeds give different ids
and different document names, so over different seeds no two episodes share one of them. -/
theorem corpus_identities_distinct (simulationVersion : String) :
    (∀ p q : ℤ × ℕ, p ≠ q →
      logicalEpisodeId p.1 (caseKeyOf p.1 p.2) simulationVersion ≠
          logicalEpisodeId q.1 (caseKeyOf q.1 q.2) simulationVersion ∧
        documentFilename p.1 (caseKeyOf p.1 p.2) simulationVersion ≠
          documentFilename q.1 (caseKeyOf q.1 q.2) simulationVersion) ∧
    ∀ seeds : List ℤ, seeds.Nodup → ∀ n limit episodes,
      generateEpisodesForSeeds costs rng seeds n limit simulationVersion = some episodes →
        (episodes.map (·.episodeId)).Nodup ∧ (episodes.map uploadName).Nodup := by
  constructor
  · intro p q hne
    exact ⟨(logicalEpisodeId_injective simulationVersion).ne hne,
      (documentFilename_injective simulationVersion).ne hne⟩
  · intro seeds hseeds n limit episodes h
    obtain ⟨qs, hsub, hnumbered⟩ := numbered_extendEpisodes costs rng List.Forall₂.nil h
    exact nodup_of_numbered ((hseeds.product List.nodup_range).sublist hsub) hnumbered

end

/-- Two seeds with a case each, drawn from a generator that always draws the same. -/
theorem corpus_identities_distinct_two_seeds :
    logicalEpisodeId (-5) (caseKeyOf (-5) 12345) "v1" ≠
        logicalEpisodeId 5 (caseKeyOf 5 12345) "v1" ∧
      ∃ episodes, generateEpisodesForSeeds shippedCosts
          ⟨fun _ => (), fun _ => (), fun g => (1 / 2, g), fun _ h g => (⟨0, h⟩, g)⟩ [4, 42] 1 none
          "v1" = some episodes ∧
        (episodes.map (·.episodeId)).Nodup ∧ (episodes.map uploadName).Nodup := by
  have hdistinct := corpus_identities_distinct shippedCosts
    (⟨fun _ => (), fun _ => (), fun g => (1 / 2, g), fun _ h g => (⟨0, h⟩, g)⟩ : Rng Unit) "v1"
  have hmade : (generateEpisodesForSeeds shippedCosts
      (⟨fun _ => (), fun _ => (), fun g => (1 / 2, g), fun _ h g => (⟨0, h⟩, g)⟩ : Rng Unit)
      [4, 42] 1 none "v1").isSome = true := by
    decide +kernel
  obtain ⟨episodes, hepisodes⟩ := Option.isSome_iff_exists.1 hmade
  exact ⟨(hdistinct.1 (-5, 12345) (5, 12345) (by decide)).1, episodes, hepisodes,
    hdistinct.2 [4, 42] (by decide) 1 none episodes hepisodes⟩

end RecoveryAgent.Memory
