import RecoveryAgent.Ai.Client
import RecoveryAgent.Python.JsonLetters

/-!
# A reply read back

What `parse_json_content` makes of a JSON object that the model sends as it is, in a fence
or after its thoughts. The tags and fences are looked for in the raw text, the strings of
the object included. A block or a pair of fences inside the object is cut out with what
stands between, and what is parsed then has fewer letters than the object.
-/

namespace RecoveryAgent.Ai

open Library Python

/-!
## What is left of a text
-/

/-- A part of a text: its escapes are still whole, and it has no letter more often. -/
structure Remnant (part whole : List Char) : Prop where
  escaped : Escaped whole → Escaped part
  fewer : ∀ z, part.count z ≤ whole.count z

namespace Remnant

variable {part whole : List Char}

theorem refl (text : List Char) : Remnant text text := ⟨id, fun _ => Nat.le_refl _⟩

theorem trans {middle : List Char} (h : Remnant part middle) (h' : Remnant middle whole) :
    Remnant part whole :=
  ⟨fun hwhole => h.escaped (h'.escaped hwhole), fun z => (h.fewer z).trans (h'.fewer z)⟩

theorem of_append_left {before : List Char} (hbefore : '\\' ∉ before) :
    Remnant part (before ++ part) :=
  ⟨fun h => h.of_append_left hbefore, fun z => (List.sublist_append_right before part).count_le z⟩

/-- The text before a letter that no escape has. -/
theorem of_append_cons {c : Char} (hc : isEscapeChar c = false) (after : List Char) :
    Remnant part (part ++ c :: after) :=
  ⟨fun h => (h.split hc).1, fun z => (List.sublist_append_left part _).count_le z⟩

/-- The text after a letter that no escape has. -/
theorem of_after {c : Char} (hc : isEscapeChar c = false) (before : List Char) :
    Remnant part (before ++ c :: part) :=
  ⟨fun h => (h.split hc).2, fun z => ((List.sublist_cons_self c part).trans
    (List.sublist_append_right before _)).count_le z⟩

end Remnant

theorem ignoringCase_of_isSpace {c k : Char} (hc : isSpace c = true) (hk : isSpace k = false)
    (hupper : isSpace k.toUpper = false) : ignoringCase k c = false := by
  have hfold : ∀ pair ∈ [('i', 0x130), ('i', 0x131), ('s', 0x17F), ('k', 0x212A)],
      isSpace (Char.ofNat pair.2) = false := by decide
  unfold ignoringCase
  rw [Bool.or_eq_false_iff, Bool.or_eq_false_iff]
  refine ⟨⟨?_, ?_⟩, ?_⟩
  · refine decide_eq_false ?_
    rintro rfl
    rw [hc] at hk
    cases hk
  · refine decide_eq_false ?_
    rintro rfl
    rw [hc] at hupper
    cases hupper
  · refine decide_eq_false fun hmem => ?_
    have hletter := hfold _ hmem
    rw [Char.ofNat_toNat, hc] at hletter
    cases hletter

/-- The text without the whitespace at both ends. -/
def trimmed (text : List Char) : List Char := (text.dropWhile isSpace).rdropWhile isSpace

theorem toList_strip (s : String) : (strip s).toList = trimmed s.toList := by
  rw [strip, String.toList_ofList]
  rfl

/-- A text that begins and ends with other letters than whitespace. -/
structure Solid (text : List Char) : Prop where
  first : ∃ c rest, text = c :: rest ∧ isSpace c = false
  last : ∃ rest c, text = rest ++ [c] ∧ isSpace c = false

theorem Solid.trimmed {text : List Char} (h : Solid text) : trimmed text = text := by
  obtain ⟨c, rest, hfirst, hc⟩ := h.first
  obtain ⟨rest', c', hlast, hc'⟩ := h.last
  have hdrop : text.dropWhile isSpace = text := by
    rw [hfirst, List.dropWhile_cons_of_neg (by simpa using hc)]
  rw [Ai.trimmed, hdrop, hlast, List.rdropWhile_concat_neg _ _ _ (by simpa using hc')]

theorem trimmed_append_left {space : List Char} (h : ∀ c ∈ space, isSpace c = true)
    (text : List Char) : trimmed (space ++ text) = trimmed text := by
  rw [trimmed, List.dropWhile_append_of_pos h, trimmed]

theorem Solid.trimmed_append_right {text space : List Char} (h : Solid text)
    (hspace : ∀ c ∈ space, isSpace c = true) : Ai.trimmed (text ++ space) = text := by
  obtain ⟨c, rest, hfirst, hc⟩ := h.first
  have hdrop : (text ++ space).dropWhile isSpace = text ++ space := by
    rw [hfirst, List.cons_append, List.dropWhile_cons_of_neg (by simpa using hc)]
  rw [Ai.trimmed, hdrop]
  induction space using List.reverseRecOn with
  | nil =>
      obtain ⟨rest', c', hlast, hc'⟩ := h.last
      rw [List.append_nil, hlast, List.rdropWhile_concat_neg _ _ _ (by simpa using hc')]
  | append_singleton space x ih =>
      have hx : isSpace x = true := hspace x (by simp)
      rw [← List.append_assoc, List.rdropWhile_concat_pos _ _ _ hx]
      refine ih (fun y hy => hspace y (List.mem_append_left _ hy)) ?_
      rw [hfirst, List.cons_append, List.dropWhile_cons_of_neg (by simpa using hc)]

theorem backslash_notMem {space : List Char} (h : ∀ c ∈ space, isSpace c = true) :
    '\\' ∉ space := fun hmem => absurd (h _ hmem) (by decide)

namespace Remnant

theorem dropWhile_isSpace (text : List Char) : Remnant (text.dropWhile isSpace) text := by
  conv => right; rw [← List.takeWhile_append_dropWhile (p := isSpace) (l := text)]
  exact .of_append_left (backslash_notMem fun c hc => List.mem_takeWhile_imp hc)

theorem rdropWhile_isSpace (text : List Char) : Remnant (text.rdropWhile isSpace) text := by
  have hsplit : text.rdropWhile isSpace ++ text.rtakeWhile isSpace = text :=
    List.rdropWhile_append_rtakeWhile
  cases htail : text.rtakeWhile isSpace with
  | nil =>
      rw [htail, List.append_nil] at hsplit
      rw [hsplit]
      exact .refl text
  | cons c tail =>
      have hc : isSpace c = true := List.mem_rtakeWhile_imp (by rw [htail]; simp)
      rw [htail] at hsplit
      conv => right; rw [← hsplit]
      exact .of_append_cons (isEscapeChar_of_isSpace hc) tail

theorem trimmed (text : List Char) : Remnant (trimmed text) text :=
  (rdropWhile_isSpace _).trans (dropWhile_isSpace text)

end Remnant

/-- A letter without case is spelled as it is. -/
theorem eq_of_ignoringCase {k x : Char} (hk : k ∈ ['<', '>', '`'])
    (h : ignoringCase k x = true) : x = k := by
  have hupper : ∀ k ∈ ['<', '>', '`'], k.toUpper = k := by decide
  have hfold : ∀ k ∈ ['<', '>', '`'],
      ∀ pair ∈ [('i', 0x130), ('i', 0x131), ('s', 0x17F), ('k', 0x212A)], pair.1 ≠ k := by
    decide
  simp only [ignoringCase, Bool.or_eq_true, decide_eq_true_eq] at h
  rcases h with (h | h) | h
  · exact h
  · exact h.trans (hupper k hk)
  · exact absurd rfl (hfold k hk _ h)

theorem spelled_last {name w : List Char}
    (h : List.Forall₂ (fun p x => p x = true) ((name ++ ['>']).map ignoringCase) w) :
    ∃ u, w = u ++ ['>'] := by
  induction name generalizing w with
  | nil =>
      cases h with
      | cons hx hrest =>
          cases hrest
          exact ⟨[], by rw [eq_of_ignoringCase (by decide) hx, List.nil_append]⟩
  | cons k name ih =>
      cases h with
      | cons hx hrest =>
          obtain ⟨u, rfl⟩ := ih hrest
          exact ⟨_ :: u, rfl⟩

/-- A tag begins and ends with its angle brackets. -/
theorem spells_tag {name w : List Char} (h : (tag name).Spells w) :
    ∃ u, w = '<' :: (u ++ ['>']) := by
  cases h with
  | cons hx hrest =>
      obtain ⟨u, rfl⟩ := spelled_last hrest
      exact ⟨u, by rw [eq_of_ignoringCase (by decide) hx]⟩

theorem spells_fence {w : List Char} (h : fence.Spells w) : w = ['`', '`', '`'] := by
  cases h with
  | cons h₁ h =>
      cases h with
      | cons h₂ h =>
          cases h with
          | cons h₃ h =>
              cases h
              rw [eq_of_ignoringCase (by decide) h₁, eq_of_ignoringCase (by decide) h₂,
                eq_of_ignoringCase (by decide) h₃]

namespace Remnant

theorem removeBlocks (name name' text : List Char) :
    Remnant (removeBlocks (tag name) (tag name') text) text := by
  refine ⟨removeBlocks_keeps (fun _ _ => Escaped.append) ?_ ?_,
    fun z => (removeBlocks_sublist text).count_le z⟩
  · intro u hu xs ys h
    obtain ⟨u', rfl⟩ := spells_tag hu
    refine ⟨(h.split (by decide)).1, ?_⟩
    rw [List.cons_append, List.append_assoc, ← List.cons_append, ← List.append_assoc] at h
    exact (h.split (by decide)).2
  · intro w hw xs ys h
    obtain ⟨w', rfl⟩ := spells_tag hw
    rw [List.cons_append, List.append_assoc, ← List.cons_append, ← List.append_assoc] at h
    exact (h.split (by decide)).2

theorem cut_fence {text before rest : List Char} (h : cut? fence text = some (before, rest)) :
    Remnant before text ∧ Remnant rest text ∧
      text.count '`' = before.count '`' + 3 + rest.count '`' := by
  obtain ⟨w, hw, rfl⟩ := cut?_eq_some h
  rw [spells_fence hw]
  refine ⟨.of_append_cons (by decide) _, ?_, ?_⟩
  · have hafter : Remnant rest ((before ++ ['`', '`']) ++ '`' :: rest) :=
      .of_after (by decide) _
    rwa [List.append_assoc] at hafter
  · simp only [List.count_append, List.cons_append, List.nil_append, List.count_cons_self]
    omega

end Remnant

/-- Only the name of the language and blanks are passed over after a fence. -/
theorem afterLanguage_split (text : List Char) : ∃ skipped, text = skipped ++ afterLanguage text ∧
    '\\' ∉ skipped ∧ '`' ∉ skipped := by
  have hspaces : ∀ z, isSpace z = false → ∀ rest : List Char, z ∉ rest.takeWhile isSpace := by
    intro z hz rest hmem
    rw [List.mem_takeWhile_imp hmem] at hz
    cases hz
  have hletters : ∀ z ∈ ['\\', '`'], ∀ p ∈ "json".toList.map ignoringCase, p z = false := by
    intro z hz p hp
    obtain ⟨k, hk, rfl⟩ := List.mem_map.1 hp
    have hall : ∀ z ∈ ['\\', '`'], ∀ k ∈ "json".toList, ignoringCase k z = false := by decide
    exact hall z hz k hk
  unfold afterLanguage
  cases hword : afterWord? ("json".toList.map ignoringCase) text with
  | none =>
      refine ⟨text.takeWhile isSpace, List.takeWhile_append_dropWhile.symm, ?_, ?_⟩
      · exact hspaces _ (by decide) text
      · exact hspaces _ (by decide) text
  | some rest =>
      obtain ⟨w, rfl, hspelled⟩ := afterWord?_eq_some_iff.1 hword
      refine ⟨w ++ rest.takeWhile isSpace, ?_, ?_, ?_⟩
      · rw [Option.getD_some, List.append_assoc, List.takeWhile_append_dropWhile]
      · rw [List.mem_append, not_or]
        exact ⟨notMem_of_spelled hspelled (hletters _ (by decide)), hspaces _ (by decide) rest⟩
      · rw [List.mem_append, not_or]
        exact ⟨notMem_of_spelled hspelled (hletters _ (by decide)), hspaces _ (by decide) rest⟩

/-- What is inside of a pair of fences is less than the text. -/
theorem Remnant.fenced {text inside : List Char} (h : fenced? text = some inside) :
    Remnant inside text ∧ inside.count '`' < text.count '`' := by
  obtain ⟨⟨before, rest⟩, hopened, h⟩ := Option.bind_eq_some_iff.1 h
  obtain ⟨⟨inside', after⟩, hclosed, heq⟩ := Option.bind_eq_some_iff.1 h
  cases heq
  obtain ⟨-, hrest, hcount⟩ := cut_fence hopened
  obtain ⟨hinside, -, hcount'⟩ := cut_fence hclosed
  obtain ⟨skipped, hsplit, hbackslash, -⟩ := afterLanguage_split rest
  have hskip : Remnant (afterLanguage rest) rest := by
    conv => right; rw [hsplit]
    exact .of_append_left hbackslash
  have hfewer := hskip.fewer '`'
  refine ⟨hinside.trans (hskip.trans hrest), ?_⟩
  simp only at hcount hcount' ⊢
  omega

/-- A text has a pair of fences exactly when it has two of them. -/
theorem fenced?_eq_none_iff (text : List Char) :
    fenced? text = none ↔ block? fence fence text = none := by
  unfold fenced? block?
  cases cut? fence text with
  | none => exact iff_of_true rfl rfl
  | some opened =>
      obtain ⟨skipped, hsplit, -, hfence⟩ := afterLanguage_split opened.2
      have hhead : ∀ c ∈ skipped, fence.head c = false := by
        intro c hc
        by_contra hcase
        rw [Bool.not_eq_false] at hcase
        rw [eq_of_ignoringCase (by decide) hcase] at hc
        exact hfence hc
      have hcut := cut?_append_left hhead (afterLanguage opened.2)
      rw [← hsplit] at hcut
      simp only [Option.bind_eq_bind, Option.bind_some, hcut, Option.map_map]
      cases cut? fence (afterLanguage opened.2) with
      | none => exact iff_of_true rfl rfl
      | some closed => exact iff_of_false nofun nofun

section

variable {c : Char} (hc : isEscapeChar c = false)

include hc

theorem ne_backslash : c ≠ '\\' := by
  rintro rfl
  exact absurd hc (by decide)

/-- The text from the first such letter on. -/
theorem Remnant.dropWhile_ne (text : List Char) : Remnant (text.dropWhile fun x => x ≠ c) text := by
  by_cases hmem : c ∈ text
  · obtain ⟨before, after, rfl, hbefore⟩ := List.eq_append_cons_of_mem hmem
    rw [List.dropWhile_append_of_pos fun x hx => decide_eq_true (ne_of_mem_of_not_mem hx hbefore),
      List.dropWhile_cons_of_neg (by simp)]
    exact ⟨fun h => .letter (ne_backslash hc) (h.split hc).2,
      fun z => (List.sublist_append_right before _).count_le z⟩
  · have hnil : (text.dropWhile fun x => x ≠ c) = [] := by
      rw [List.dropWhile_eq_nil_iff]
      exact fun x hx => decide_eq_true (ne_of_mem_of_not_mem hx hmem)
    rw [hnil]
    exact ⟨fun _ => .nil, fun z => Nat.zero_le _⟩

/-- The text up to the last such letter. -/
theorem Remnant.rdropWhile_ne (text : List Char) :
    Remnant (text.rdropWhile fun x => x ≠ c) text := by
  by_cases hmem : c ∈ text
  · obtain ⟨after, before, hsplit, hafter⟩ :=
      List.eq_append_cons_of_mem (List.mem_reverse.2 hmem)
    have htext : text = (before.reverse ++ [c]) ++ after.reverse := by
      rw [← List.reverse_reverse text, hsplit]
      simp
    have hdrop : (text.rdropWhile fun x => x ≠ c) = before.reverse ++ [c] := by
      rw [List.rdropWhile, hsplit, List.dropWhile_append_of_pos fun x hx =>
        decide_eq_true (ne_of_mem_of_not_mem hx hafter), List.dropWhile_cons_of_neg (by simp),
        List.reverse_cons]
    rw [hdrop]
    refine ⟨fun h => ?_, fun z => ?_⟩
    · rw [htext, List.append_assoc] at h
      exact (h.split hc).1.append (.letter (ne_backslash hc) .nil)
    · rw [htext]
      exact (List.sublist_append_left _ _).count_le z
  · have hnil : (text.rdropWhile fun x => x ≠ c) = [] := by
      rw [List.rdropWhile_eq_nil_iff]
      exact fun x hx => decide_eq_true (ne_of_mem_of_not_mem hx hmem)
    rw [hnil]
    exact ⟨fun _ => .nil, fun z => Nat.zero_le _⟩

end

/-- The text from its first opening to its last closing brace. -/
theorem Remnant.fragment {text fragment : String} (h : fragment? text = some fragment) :
    Remnant fragment.toList text.toList := by
  unfold fragment? at h
  simp only at h
  split at h
  · cases h
  · cases h
    rw [String.toList_ofList]
    exact (rdropWhile_ne (by decide) _).trans (dropWhile_ne (by decide) _)

/-!
## What is parsed
-/

/-- The text without its thoughts. -/
def unthought (text : List Char) : List Char :=
  trimmed (removeBlocks thinkingOpen thinkingClose
    (trimmed (removeBlocks thinkOpen thinkClose text)))

/-- The text inside of the fences, if there are any. -/
def unfenced (text : List Char) : List Char :=
  match fenced? text with
  | some inside => trimmed inside
  | none => text

theorem toList_extracted (content : String) :
    (extracted content).toList = unfenced (unthought (trimmed content.toList)) := by
  have hblocks : ∀ m n text, (withoutBlocks m n text).toList =
      trimmed (removeBlocks m n text.toList) := by
    intro m n text
    rw [withoutBlocks, toList_strip, String.toList_ofList]
  unfold extracted unfenced unthought
  simp only [hblocks, toList_strip]
  cases fenced? (trimmed (removeBlocks thinkingOpen thinkingClose
      (trimmed (removeBlocks thinkOpen thinkClose (trimmed content.toList))))) with
  | none => simp only [hblocks, toList_strip]
  | some inside => simp only [toList_strip, String.toList_ofList]

theorem Remnant.unthought (text : List Char) : Remnant (unthought text) text :=
  (trimmed _).trans ((removeBlocks _ _ _).trans ((trimmed _).trans (removeBlocks _ _ _)))

theorem Remnant.unfenced (text : List Char) : Remnant (unfenced text) text := by
  unfold Ai.unfenced
  cases h : fenced? text with
  | none => exact .refl text
  | some inside => exact (trimmed inside).trans (fenced h).1

section

variable (json : JsonModule) (repr : FloatRepr) {d : Fields} {content : String}

/-- An object whose text is parsed is read back. -/
theorem parseJsonContent_of_eq (hround : json.loads (.ofList (dumps repr (.obj d))) = .ok (.obj d))
    (h : (extracted content).toList = dumps repr (.obj d)) :
    parseJsonContent json content = .value (.obj d) := by
  have hextracted : extracted content = .ofList (dumps repr (.obj d)) := by
    rw [← h, String.ofList_toList]
  unfold parseJsonContent
  simp only [hextracted, hround]

/-- No object is read from a text that has less of its markup. -/
theorem parseJsonContent_ne_of_lt (hescaped : Escaped (extracted content).toList) {z : Char}
    (hz : z ∈ markup)
    (h : (extracted content).toList.count z < (dumps repr (.obj d)).count z) :
    parseJsonContent json content ≠ .value (.obj d) := by
  have hread : ∀ text, Remnant text.toList (extracted content).toList →
      json.loads text ≠ .ok (.obj d) := by
    intro text hpart hloads
    have hletters := (json.loads_sound _ _ hloads).letters_le_count hz (hpart.escaped hescaped)
    rw [count_dumps repr hz] at h
    exact absurd (hletters.trans (hpart.fewer z)) (Nat.not_le_of_lt h)
  unfold parseJsonContent
  simp only
  split
  · next v hloads =>
      intro hvalue
      cases hvalue
      exact hread _ (.refl _) hloads
  · exact nofun
  · split
    · next fragment hfragment =>
        split
        · next v hloads =>
            intro hvalue
            cases hvalue
            exact hread _ (.fragment hfragment) hloads
        · exact nofun
    · exact nofun

end

/-!
## Replies around an object
-/

/-- The thoughts before a reply, closed once. -/
structure Thoughts where
  text : List Char
  space : List Char
  unclosed : cut? thinkClose text = none
  blank : ∀ c ∈ space, isSpace c = true

/-- The blanks inside of a fence. -/
structure Fencing where
  before : List Char
  after : List Char
  blank_before : ∀ c ∈ before, isSpace c = true
  blank_after : ∀ c ∈ after, isSpace c = true

/-- What a reply has around its object. -/
structure Wrapper where
  thoughts : Option Thoughts
  fencing : Option Fencing

def tagText (name : List Char) : List Char := '<' :: (name ++ ['>'])

def fenceText : List Char := ['`', '`', '`']

def Thoughts.wrap (thoughts : Thoughts) (text : List Char) : List Char :=
  tagText "think".toList ++
    (thoughts.text ++ (tagText "/think".toList ++ (thoughts.space ++ text)))

def Fencing.opening (fencing : Fencing) : List Char :=
  fenceText ++ ("json".toList ++ fencing.before)

def Fencing.closing (fencing : Fencing) : List Char := fencing.after ++ fenceText

def Fencing.wrap (fencing : Fencing) (text : List Char) : List Char :=
  fencing.opening ++ (text ++ fencing.closing)

/-- The reply after the thoughts. -/
def Wrapper.inner (w : Wrapper) (text : List Char) : List Char :=
  match w.fencing with
  | some fencing => fencing.wrap text
  | none => text

def Wrapper.wrap (w : Wrapper) (text : List Char) : List Char :=
  match w.thoughts with
  | some thoughts => thoughts.wrap (w.inner text)
  | none => w.inner text

/-- No two fences in a plain reply, and none inside of a fence. -/
def Wrapper.Unfenced (w : Wrapper) (text : List Char) : Prop :=
  match w.fencing with
  | some _ => cut? fence text = none
  | none => block? fence fence text = none

/-- The text has nothing that is taken for thoughts or for a fence. -/
structure Wrapper.Keeps (w : Wrapper) (text : List Char) : Prop where
  think : block? thinkOpen thinkClose text = none
  thinking : block? thinkingOpen thinkingClose text = none
  unfenced : w.Unfenced text

theorem spells_ignoringCase (text : List Char) :
    List.Forall₂ (fun p x => p x = true) (text.map ignoringCase) text := by
  rw [List.forall₂_map_left_iff, List.forall₂_same]
  intro c _
  simp [ignoringCase]

theorem spells_tagText (name : List Char) : (tag name).Spells (tagText name) :=
  spells_ignoringCase (tagText name)

theorem foreign_tag {name : List Char} (hname : ∀ k ∈ tagText name,
    isSpace k = false ∧ isSpace k.toUpper = false ∧ ignoringCase k '`' = false)
    {x : Char} (hx : isSpace x = true ∨ x = '`') : (tag name).Foreign x := by
  intro p hp
  obtain ⟨k, hk, rfl⟩ := List.mem_map.1 (show p ∈ (tagText name).map ignoringCase from hp)
  obtain ⟨hspace, hupper, hfence⟩ := hname k hk
  rcases hx with hx | rfl
  · exact ignoringCase_of_isSpace hx hspace hupper
  · exact hfence

theorem Thoughts.block? (thoughts : Thoughts) (text : List Char) :
    Library.block? thinkOpen thinkClose (thoughts.wrap text) =
      some ([], thoughts.space ++ text) := by
  have hopen : thinkOpen.Spells (tagText "think".toList) := spells_tagText _
  have hclose : thinkClose.Spells (tagText "/think".toList) := spells_tagText _
  have hborderless : thinkClose.Borderless := by
    intro x hx
    rw [eq_of_ignoringCase (by decide) hx]
    decide
  rw [Library.block?, Thoughts.wrap, hopen.cut?, Option.bind_some,
    cut?_append_spelled hborderless hclose thoughts.unclosed]
  rfl

theorem unthought_wrap (thoughts : Thoughts) (text : List Char) :
    unthought (thoughts.wrap text) = unthought text := by
  have hspace : ∀ c ∈ thoughts.space, thinkOpen.head c = false := by
    intro c hc
    exact ignoringCase_of_isSpace (thoughts.blank c hc) (by decide) (by decide)
  rw [unthought, removeBlocks_of_some (thoughts.block? text), List.nil_append,
    removeBlocks_append_left hspace, trimmed_append_left thoughts.blank, unthought]

/-- A reply without blocks is as it was, and one with a block has lost some of its markup. -/
theorem unthought_of_solid {text : List Char} (h : Solid text) :
    (Library.block? thinkOpen thinkClose text = none ∧
      Library.block? thinkingOpen thinkingClose text = none ∧ unthought text = text) ∨
    (¬(Library.block? thinkOpen thinkClose text = none ∧
      Library.block? thinkingOpen thinkingClose text = none) ∧
        (unthought text).count '<' < text.count '<') := by
  have hhead : ∀ name x, (tag name).head x = true → x = '<' :=
    fun _ _ hx => eq_of_ignoringCase (by decide) hx
  cases hthink : Library.block? thinkOpen thinkClose text with
  | some block =>
      refine Or.inr ⟨fun hnone => (nomatch hnone.1), ?_⟩
      have hrest : Remnant (unthought text) (removeBlocks thinkOpen thinkClose text) :=
        (Remnant.trimmed _).trans ((Remnant.removeBlocks _ _ _).trans (Remnant.trimmed _))
      exact (hrest.fewer '<').trans_lt (count_removeBlocks_lt (hhead _) hthink)
  | none =>
      have hfirst : trimmed (removeBlocks thinkOpen thinkClose text) = text := by
        rw [removeBlocks_of_none hthink, h.trimmed]
      cases hthinking : Library.block? thinkingOpen thinkingClose text with
      | some block =>
          refine Or.inr ⟨fun hnone => (nomatch hnone.2), ?_⟩
          rw [unthought, hfirst]
          exact ((Remnant.trimmed _).fewer '<').trans_lt
            (count_removeBlocks_lt (hhead _) hthinking)
      | none =>
          refine Or.inl ⟨rfl, rfl, ?_⟩
          rw [unthought, hfirst, removeBlocks_of_none hthinking, h.trimmed]

/-- The text between the braces of an object. -/
def Braced (text : List Char) : Prop := ∃ inside, text = '{' :: (inside ++ ['}'])

theorem braced_dumps (repr : FloatRepr) (d : Fields) : Braced (dumps repr (.obj d)) :=
  ⟨dumpsMembers repr [] d, by rw [dumps]⟩

theorem Braced.solid {text : List Char} (h : Braced text) : Solid text := by
  obtain ⟨inside, rfl⟩ := h
  exact ⟨⟨_, _, rfl, by decide⟩, ⟨'{' :: inside, _, rfl, by decide⟩⟩

namespace Fencing

variable (fencing : Fencing) {text : List Char}

theorem solid (text : List Char) : Solid (fencing.wrap text) := by
  refine ⟨⟨_, _, rfl, by decide⟩, ⟨fencing.opening ++
    (text ++ (fencing.after ++ ['`', '`'])), '`', ?_, by decide⟩⟩
  simp [wrap, closing, fenceText]

/-- What a fence adds to a text has no backslash and no tag. -/
theorem notMem {z : Char} (hspace : isSpace z = false) (hz : z ∉ fenceText ++ "json".toList) :
    z ∉ fencing.opening ∧ z ∉ fencing.closing := by
  have hblank : ∀ space : List Char, (∀ c ∈ space, isSpace c = true) → z ∉ space := by
    intro space h hmem
    rw [h z hmem] at hspace
    cases hspace
  rw [List.mem_append, not_or] at hz
  constructor
  · rw [opening, List.mem_append, List.mem_append, not_or, not_or]
    exact ⟨hz.1, hz.2, hblank _ fencing.blank_before⟩
  · rw [closing, List.mem_append, not_or]
    exact ⟨hblank _ fencing.blank_after, hz.1⟩

theorem escaped_wrap (h : Escaped text) : Escaped (fencing.wrap text) := by
  obtain ⟨hbefore, hafter⟩ := fencing.notMem (z := '\\') (by decide) (by decide)
  exact (Escaped.of_no_backslash hbefore).append (h.append (.of_no_backslash hafter))

theorem count_wrap : (fencing.wrap text).count '<' = text.count '<' := by
  obtain ⟨hbefore, hafter⟩ := fencing.notMem (z := '<') (by decide) (by decide)
  rw [wrap, List.count_append, List.count_append, List.count_eq_zero.2 hbefore,
    List.count_eq_zero.2 hafter, Nat.zero_add, Nat.add_zero]

theorem block?_wrap {name name' : List Char}
    (hname : ∀ k ∈ tagText name ++ tagText name',
      isSpace k = false ∧ isSpace k.toUpper = false ∧ ignoringCase k '`' = false) :
    Library.block? (tag name) (tag name') (fencing.wrap text) = none ↔
      Library.block? (tag name) (tag name') text = none := by
  obtain ⟨hbefore, -⟩ := fencing.notMem (z := '<') (by decide) (by decide)
  have hhead : ∀ c ∈ fencing.opening, (tag name).head c = false := by
    intro c hc
    by_contra hopen
    rw [Bool.not_eq_false] at hopen
    rw [eq_of_ignoringCase (by decide) hopen] at hc
    exact hbefore hc
  have hafter : ∀ c ∈ fencing.closing, isSpace c = true ∨ c = '`' := by
    intro c hc
    rcases List.mem_append.1 hc with hc | hc
    · exact Or.inl (fencing.blank_after c hc)
    · exact Or.inr (by simpa [fenceText] using hc)
  rw [wrap, block?_append hhead
    (fun c hc => foreign_tag (fun k hk => hname k (List.mem_append_left _ hk)) (hafter c hc))
    (fun c hc => foreign_tag (fun k hk => hname k (List.mem_append_right _ hk)) (hafter c hc)),
    Option.map_eq_none_iff]

/-- What is inside of the fence is the text up to its own first fence. -/
theorem fenced?_wrap (h : Braced text) :
    (cut? fence text = none ∧ fenced? (fencing.wrap text) = some (text ++ fencing.after)) ∨
      ∃ cut, cut? fence text = some cut ∧ fenced? (fencing.wrap text) = some cut.1 := by
  obtain ⟨inside, rfl⟩ := h
  have hfence : fence.Spells fenceText := spells_ignoringCase fenceText
  have hforeign : ∀ p ∈ fence.word, p '}' = false := by decide
  have hspace : ∀ c ∈ fencing.after, fence.head c = false := fun c hc =>
    ignoringCase_of_isSpace (fencing.blank_after c hc) (by decide) (by decide)
  have hopened : cut? fence (fencing.wrap ('{' :: (inside ++ ['}']))) =
      some ([], "json".toList ++ (fencing.before ++
        ('{' :: (inside ++ ['}']) ++ fencing.closing))) := by
    rw [wrap, opening, List.append_assoc, hfence.cut?, List.append_assoc]
  have hlanguage : afterLanguage ("json".toList ++ (fencing.before ++
      ('{' :: (inside ++ ['}']) ++ fencing.closing))) =
        ('{' :: inside) ++ '}' :: fencing.closing := by
    rw [afterLanguage, afterWord?_eq_some_iff.2 ⟨_, rfl, spells_ignoringCase _⟩,
      Option.getD_some, List.dropWhile_append_of_pos fencing.blank_before, List.cons_append,
      List.dropWhile_cons_of_neg (by decide)]
    simp
  have hclosed : cut? fence fencing.closing = some (fencing.after, []) := by
    have hend := hfence.cut? []
    rw [List.append_nil] at hend
    rw [closing, cut?_append_left hspace, hend, Option.map_some, List.append_nil]
  have hcut := cut?_append_cons hforeign ('{' :: inside) []
  have hcut' := cut?_append_cons hforeign ('{' :: inside) fencing.closing
  rw [List.cons_append] at hcut
  simp only [fenced?, hopened, Option.bind_eq_bind, Option.bind_some, hlanguage, hcut']
  rw [hcut]
  cases cut? fence ('{' :: inside) with
  | some cut => exact Or.inr ⟨_, rfl, rfl⟩
  | none =>
      refine Or.inl ⟨rfl, ?_⟩
      simp only [hclosed, Option.map_some, Option.bind_some]
      simp

end Fencing

namespace Wrapper

variable (w : Wrapper) {text : List Char}

theorem solid_inner (h : Braced text) : Solid (w.inner text) := by
  unfold inner
  cases w.fencing with
  | none => exact h.solid
  | some fencing => exact fencing.solid text

theorem escaped_inner (h : Escaped text) : Escaped (w.inner text) := by
  unfold inner
  cases w.fencing with
  | none => exact h
  | some fencing => exact fencing.escaped_wrap h

theorem count_inner (text : List Char) : (w.inner text).count '<' = text.count '<' := by
  unfold inner
  cases w.fencing with
  | none => rfl
  | some fencing => exact fencing.count_wrap

theorem block?_inner (text name name' : List Char)
    (hname : ∀ k ∈ tagText name ++ tagText name',
      isSpace k = false ∧ isSpace k.toUpper = false ∧ ignoringCase k '`' = false) :
    block? (tag name) (tag name') (w.inner text) = none ↔
      block? (tag name) (tag name') text = none := by
  unfold inner
  cases w.fencing with
  | none => exact Iff.rfl
  | some fencing => exact fencing.block?_wrap hname

/-- The thoughts before a reply are taken away. -/
theorem unthought_wrap (h : Braced text) :
    unthought (trimmed (w.wrap text)) = unthought (w.inner text) := by
  have hinner := w.solid_inner h
  unfold wrap
  cases w.thoughts with
  | none => rw [hinner.trimmed]
  | some thoughts =>
      obtain ⟨rest, c, hlast, hc⟩ := hinner.last
      have hsolid : Solid (thoughts.wrap (w.inner text)) := by
        refine ⟨⟨_, _, rfl, by decide⟩, ⟨tagText "think".toList ++ (thoughts.text ++
          (tagText "/think".toList ++ (thoughts.space ++ rest))), c, ?_, hc⟩⟩
        simp [Thoughts.wrap, hlast]
      rw [hsolid.trimmed, Ai.unthought_wrap]

/-- The text inside of the fences is the object, or has lost some of its markup. -/
theorem unfenced_inner (h : Braced text) :
    (w.Unfenced text ∧ unfenced (w.inner text) = text) ∨
      (¬w.Unfenced text ∧ (unfenced (w.inner text)).count '`' < text.count '`') := by
  unfold Unfenced inner
  cases w.fencing with
  | none =>
      have hnone := fenced?_eq_none_iff text
      unfold unfenced
      cases hfenced : fenced? text with
      | none => exact Or.inl ⟨hnone.1 hfenced, rfl⟩
      | some inside =>
          refine Or.inr ⟨fun hblock => ?_, ?_⟩
          · rw [hnone.2 hblock] at hfenced
            cases hfenced
          · exact ((Remnant.trimmed inside).fewer '`').trans_lt (Remnant.fenced hfenced).2
  | some fencing =>
      unfold unfenced
      rcases fencing.fenced?_wrap h with ⟨hnone, hinside⟩ | ⟨cut, hcut, hinside⟩
      · simp only [hinside]
        exact Or.inl ⟨hnone, h.solid.trimmed_append_right fencing.blank_after⟩
      · simp only [hinside]
        refine Or.inr ⟨fun hnone => ?_, ?_⟩
        · rw [hnone] at hcut
          cases hcut
        · have hcount := (Remnant.cut_fence hcut).2.2
          have hfewer := (Remnant.trimmed cut.1).fewer '`'
          omega

end Wrapper

/-- An object that `json.loads` reads back from its text is read back from a reply, with or
without thoughts before it and a fence around it, exactly when its text has no think block,
no thinking block, and no pair of fences, or no fence at all inside of a fence. -/
theorem parse_json_round_trip_iff (json : JsonModule) (repr : FloatRepr) {d : Fields}
    (hround : json.loads (.ofList (dumps repr (.obj d))) = .ok (.obj d)) (w : Wrapper) :
    parseJsonContent json (.ofList (w.wrap (dumps repr (.obj d)))) = .value (.obj d) ↔
      w.Keeps (dumps repr (.obj d)) := by
  have hbraced := braced_dumps repr d
  have hescaped := w.escaped_inner (escaped_dumps repr (.obj d))
  have hthink := w.block?_inner (dumps repr (.obj d)) "think".toList "/think".toList (by decide)
  have hthinking := w.block?_inner (dumps repr (.obj d)) "thinking".toList "/thinking".toList
    (by decide)
  have htext : (extracted (.ofList (w.wrap (dumps repr (.obj d))))).toList =
      unfenced (unthought (w.inner (dumps repr (.obj d)))) := by
    rw [toList_extracted, String.toList_ofList, w.unthought_wrap hbraced]
  have hparsed : Remnant (extracted (.ofList (w.wrap (dumps repr (.obj d))))).toList
      (w.inner (dumps repr (.obj d))) := by
    rw [htext]
    exact (Remnant.unfenced _).trans (.unthought _)
  rcases unthought_of_solid (w.solid_inner hbraced) with ⟨hnone, hnone', hsame⟩ | ⟨hblock, hlost⟩
  · rw [hsame] at htext
    rcases w.unfenced_inner hbraced with ⟨hunfenced, hobject⟩ | ⟨hfence, hlost⟩
    · refine iff_of_true (parseJsonContent_of_eq json repr hround (htext.trans hobject)) ?_
      exact ⟨hthink.1 hnone, hthinking.1 hnone', hunfenced⟩
    · refine iff_of_false ?_ fun hkeeps => hfence hkeeps.unfenced
      exact parseJsonContent_ne_of_lt json repr (hparsed.escaped hescaped) (z := '`') (by decide)
        (by rwa [htext])
  · refine iff_of_false ?_ fun hkeeps => hblock ⟨hthink.2 hkeeps.think, hthinking.2 hkeeps.thinking⟩
    refine parseJsonContent_ne_of_lt json repr (hparsed.escaped hescaped) (z := '<') (by decide) ?_
    rw [htext, ← w.count_inner (dumps repr (.obj d))]
    exact ((Remnant.unfenced _).fewer '<').trans_lt hlost

/-- A `json` module that reads the texts of these values and no others. -/
def readerOf (repr : FloatRepr) (values : List Json)
    (h : ∀ v ∈ values, hasDistinctKeys v = true) : JsonModule where
  loads s :=
    match values.find? fun v => .ofList (dumps repr v) = s with
    | some v => .ok v
    | none => .error (.decode "Expecting value: line 1 column 1 (char 0)")
  loads_sound := by
    intro s v hloads
    split at hloads
    · next v' hfound =>
        cases hloads
        have htext : String.ofList (dumps repr v) = s := by
          simpa using List.find?_some hfound
        rw [← htext, String.toList_ofList]
        exact jsonText_dumps repr v (h v (List.mem_of_find?_eq_some hfound))
    · cases hloads
  reprText s := s
  repr _ := ""

def noFloats : FloatRepr := ⟨fun _ => [], nofun⟩

def retryReply : Fields := [("verb", .str "schedule_retry"), ("channel", .str "none")]

/-- Thoughts, and a fence on lines of its own. -/
def thoughtfulReply : Wrapper where
  thoughts := some ⟨"hmm".toList, ['\n'], by decide, by decide⟩
  fencing := some ⟨['\n'], ['\n'], by decide, by decide⟩

theorem parse_json_round_trip_iff_retryReply :
    parseJsonContent (readerOf noFloats [.obj retryReply] (by decide))
        (.ofList (thoughtfulReply.wrap (dumps noFloats (.obj retryReply)))) =
      .value (.obj retryReply) := by
  refine (parse_json_round_trip_iff _ noFloats ?_ thoughtfulReply).2 ⟨?_, ?_, ?_⟩
  · simp [readerOf]
  · decide
  · decide
  · change cut? fence _ = none
    decide

def taggedReply : Fields := [("a", .str "<think>x</think>")]

def emptiedReply : Fields := [("a", .str "")]

/-- An object whose string has a think block is read back without it. -/
theorem think_block_in_a_string_lost :
    (readerOf noFloats [.obj taggedReply, .obj emptiedReply] (by decide)).loads
        (.ofList (dumps noFloats (.obj taggedReply))) = .ok (.obj taggedReply) ∧
      parseJsonContent (readerOf noFloats [.obj taggedReply, .obj emptiedReply] (by decide))
        (.ofList (dumps noFloats (.obj taggedReply))) = .value (.obj emptiedReply) ∧
      Reply.value (.obj emptiedReply) ≠ .value (.obj taggedReply) := by
  have hblock : removeBlocks thinkOpen thinkClose (dumps noFloats (.obj taggedReply)) =
      dumps noFloats (.obj emptiedReply) := by
    have hfirst : block? thinkOpen thinkClose (dumps noFloats (.obj taggedReply)) =
        some (['{', '"', 'a', '"', ':', ' ', '"'], ['"', '}']) := by decide
    rw [removeBlocks_of_some hfirst, removeBlocks_of_none (by decide)]
    decide
  have htext : extracted (.ofList (dumps noFloats (.obj taggedReply))) =
      .ofList (dumps noFloats (.obj emptiedReply)) := by
    rw [← String.toList_inj, toList_extracted, String.toList_ofList, String.toList_ofList,
      (braced_dumps _ _).solid.trimmed, unthought, hblock, (braced_dumps _ _).solid.trimmed,
      removeBlocks_of_none (by decide), (braced_dumps _ _).solid.trimmed]
    decide
  refine ⟨?_, ?_, ?_⟩
  · simp [readerOf]
  · have hloads : (readerOf noFloats [.obj taggedReply, .obj emptiedReply] (by decide)).loads
        (.ofList (dumps noFloats (.obj emptiedReply))) = .ok (.obj emptiedReply) := rfl
    unfold parseJsonContent
    simp only [htext, hloads]
  · simp [emptiedReply, taggedReply]

end RecoveryAgent.Ai
