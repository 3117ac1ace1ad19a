import RecoveryAgent.Config.Overrides
import RecoveryAgent.Python.Errors
import RecoveryAgent.Python.JsonText

/-!
# Reading costs.json

The loader of `config/costs.py`. Groups are walked down to the leaves, and a leaf is kept under
its dotted key. What is kept are the leaves to which the names lead, and a document is refused
where the names lead to anything else.
-/

namespace RecoveryAgent.Config

open Library Python

/-- `_VALID_SOURCES`, sorted. -/
def validSources : List String := ["ASSUMPTION", "dashboard", "invoice", "published"]

/-- A cost of a known source. -/
structure CostParam where
  value : PyFloat
  source : String
  note : Option String
  known : source ∈ validSources := by decide
  deriving DecidableEq

inductive CostsError where
  | rootNotObject
  | noParameters
  | notRecognised (key : String)
  | notObject (key : String)
  | missing (key field : String)
  | python (e : PyError)
  | invalidSource (key source : String)
  | unknownKey (key : String) (known : List String)
  deriving DecidableEq, Repr

/-- The parameters by dotted key, in the order in which the keys came up. -/
abbrev CostParams := List (String × CostParam)

/-- `out[key] = param`. -/
def setParam : CostParams → String → CostParam → CostParams
  | [], key, param => [(key, param)]
  | (k, p) :: out, key, param =>
      if k = key then (k, param) :: out else (k, p) :: setParam out key param

/-- `isinstance(child, dict) and "value" in child and "source" in child`. -/
def isLeaf : Json → Bool
  | .obj d => (Fields.get? d "value").isSome && (Fields.get? d "source").isSome
  | _ => false

/-- `f"{prefix}.{name}" if prefix else name`. -/
def dotted (group name : String) : String := if group = "" then name else group ++ "." ++ name

section

variable (py : Readers)

def parseLeaf (key : String) (raw : Json) : Except CostsError CostParam :=
  match raw with
  | .obj d =>
      match Fields.get? d "value", Fields.get? d "source" with
      | none, _ => .error (.missing key "value")
      | some _, none => .error (.missing key "source")
      | some v, some s =>
          match pyFloat py v with
          | .error e => .error (.python e)
          | .ok value =>
              let source := py.textOf s
              let note :=
                match Fields.item d "note" with
                | .null => none
                | text => some (py.textOf text)
              if known : source ∈ validSources then .ok { value, source, note, known }
              else .error (.invalidSource key source)
  | _ => .error (.notObject key)

mutual

def walkLeaves (group : String) (out : CostParams) : Json → Except CostsError CostParams
  | .obj d => walkMembers group out d
  | .arr _ => .ok out
  | .null => .ok out
  | .bool _ => .ok out
  | .int _ => .ok out
  | .float _ => .ok out
  | .str _ => .ok out

/-- Its loop. -/
def walkMembers (group : String) (out : CostParams) :
    List (String × Json) → Except CostsError CostParams
  | [] => .ok out
  | (name, child) :: rest =>
      if startsWith "_" name then walkMembers group out rest
      else if isLeaf child then do
        let param ← parseLeaf py (dotted group name) child
        walkMembers group (setParam out (dotted group name) param) rest
      else if child.isObj then do
        let out ← walkLeaves (dotted group name) out child
        walkMembers group out rest
      else .error (.notRecognised (dotted group name))

end

/-- `load_costs`, of the document in the file. -/
def loadCosts (doc : Json) : Except CostsError CostParams :=
  if doc.isObj then do
    let params ← walkLeaves py "" [] doc
    if params.isEmpty then .error .noParameters else return params
  else .error .rootNotObject

/-!
## What stands in a document
-/

mutual

/-- What the walk comes upon, with its key: the leaves, and what is neither leaf nor group. -/
def costEntries (group : String) : Json → List (String × Json)
  | .obj d => memberEntries group d
  | .arr _ => []
  | .null => []
  | .bool _ => []
  | .int _ => []
  | .float _ => []
  | .str _ => []

def memberEntries (group : String) : List (String × Json) → List (String × Json)
  | [] => []
  | (name, child) :: rest =>
      (if startsWith "_" name then []
        else if child.isObj && !isLeaf child then costEntries (dotted group name) child
        else [(dotted group name, child)]) ++ memberEntries group rest

end

def readEntry (entry : String × Json) : Except CostsError CostParam :=
  if isLeaf entry.2 then parseLeaf py entry.1 entry.2
  else .error (.notRecognised entry.1)

def keepEntry (out : CostParams) (entry : String × Json) : Except CostsError CostParams := do
  let param ← readEntry py entry
  return setParam out entry.1 param

mutual

/-- The walk reads the entries one after the other. -/
theorem walkLeaves_eq : ∀ (group : String) (out : CostParams) (v : Json),
    walkLeaves py group out v =
      (costEntries group v).foldlM (keepEntry py) out
  | group, out, .obj d => walkMembers_eq group out d
  | _, _, .arr _ => rfl
  | _, _, .null => rfl
  | _, _, .bool _ => rfl
  | _, _, .int _ => rfl
  | _, _, .float _ => rfl
  | _, _, .str _ => rfl

theorem walkMembers_eq : ∀ (group : String) (out : CostParams) (d : List (String × Json)),
    walkMembers py group out d =
      (memberEntries group d).foldlM (keepEntry py) out
  | _, _, [] => rfl
  | group, out, (name, child) :: rest => by
      rw [walkMembers, memberEntries, List.foldlM_append]
      by_cases hhidden : startsWith "_" name = true
      · rw [if_pos hhidden, if_pos hhidden]
        exact walkMembers_eq group out rest
      rw [if_neg hhidden, if_neg hhidden]
      by_cases hleaf : isLeaf child = true
      · rw [if_pos hleaf, if_neg (by simp [hleaf])]
        simp only [List.foldlM_cons, List.foldlM_nil, keepEntry, readEntry, if_pos hleaf]
        cases parseLeaf py (dotted group name) child with
        | error e => rfl
        | ok param => exact walkMembers_eq group _ rest
      rw [if_neg hleaf]
      by_cases hgroup : child.isObj = true
      · rw [if_pos hgroup, if_pos (by simp [hgroup, hleaf]), walkLeaves_eq]
        refine bind_congr fun out => ?_
        exact walkMembers_eq group out rest
      · rw [if_neg hgroup, if_neg (by simp [hgroup])]
        simp only [List.foldlM_cons, List.foldlM_nil, keepEntry, readEntry, if_neg hleaf]
        rfl

end

end

/-!
## Where the names lead
-/

/-- The names lead to the child, from group to group, none of them hidden. -/
inductive LeadsTo : Fields → List String → Json → Prop where
  | here {d : Fields} {name : String} {child : Json} (mem : (name, child) ∈ d)
      (visible : startsWith "_" name = false) (stop : (child.isObj && !isLeaf child) = false) :
      LeadsTo d [name] child
  | under {d : Fields} {name : String} {child below : Json} {path : List String}
      (mem : (name, child) ∈ d) (visible : startsWith "_" name = false)
      (group : (child.isObj && !isLeaf child) = true) (rest : LeadsTo child.fields path below) :
      LeadsTo d (name :: path) below

/-- The dotted key of a path, below a group. -/
def keyBelow (group : String) (path : List String) : String := path.foldl dotted group

theorem mem_memberEntries_cons {group name : String} {child : Json} {rest : Fields}
    {entry : String × Json} :
    entry ∈ memberEntries group ((name, child) :: rest) ↔
      (startsWith "_" name = false ∧
        if (child.isObj && !isLeaf child) = true then entry ∈ costEntries (dotted group name) child
        else entry = (dotted group name, child)) ∨ entry ∈ memberEntries group rest := by
  rw [memberEntries, List.mem_append]
  refine or_congr_left ?_
  cases startsWith "_" name with
  | true => simp
  | false =>
      simp only [Bool.false_eq_true, if_false, true_and]
      split <;> simp

theorem leadsTo_cons {name : String} {child below : Json} {rest : Fields} {path : List String} :
    LeadsTo ((name, child) :: rest) path below ↔
      (startsWith "_" name = false ∧
        if (child.isObj && !isLeaf child) = true then
          ∃ path', path = name :: path' ∧ LeadsTo child.fields path' below
        else path = [name] ∧ below = child) ∨ LeadsTo rest path below := by
  constructor
  · rintro (⟨hmem, hvisible, hstop⟩ | ⟨hmem, hvisible, hgroup, hrest⟩)
    · rcases List.mem_cons.1 hmem with heq | hmem
      · cases heq
        rw [hstop]
        exact Or.inl ⟨hvisible, by simp⟩
      · exact Or.inr (.here hmem hvisible hstop)
    · rcases List.mem_cons.1 hmem with heq | hmem
      · cases heq
        rw [hgroup]
        exact Or.inl ⟨hvisible, _, rfl, hrest⟩
      · exact Or.inr (.under hmem hvisible hgroup hrest)
  · rintro (⟨hvisible, hlead⟩ | hrest)
    · split at hlead
      · next hgroup =>
          obtain ⟨path', rfl, hrest⟩ := hlead
          exact .under List.mem_cons_self hvisible hgroup hrest
      · next hstop =>
          obtain ⟨rfl, rfl⟩ := hlead
          exact .here List.mem_cons_self hvisible (by simpa using hstop)
    · cases hrest with
      | here mem visible stop => exact .here (List.mem_cons_of_mem _ mem) visible stop
      | under mem visible group rest =>
          exact .under (List.mem_cons_of_mem _ mem) visible group rest

theorem not_leadsTo_nil {path : List String} {child : Json} : ¬LeadsTo [] path child := by
  intro h
  cases h with
  | here mem _ _ => cases mem
  | under mem _ _ _ => cases mem

mutual

/-- The entries are what the names lead to. -/
theorem mem_costEntries_iff : ∀ (group : String) (v : Json) (key : String) (child : Json),
    (key, child) ∈ costEntries group v ↔
      ∃ path, LeadsTo v.fields path child ∧ key = keyBelow group path
  | group, .obj d, key, child => mem_memberEntries_iff group d key child
  | _, .arr _, _, _ => iff_of_false List.not_mem_nil fun ⟨_, h, _⟩ => not_leadsTo_nil h
  | _, .null, _, _ => iff_of_false List.not_mem_nil fun ⟨_, h, _⟩ => not_leadsTo_nil h
  | _, .bool _, _, _ => iff_of_false List.not_mem_nil fun ⟨_, h, _⟩ => not_leadsTo_nil h
  | _, .int _, _, _ => iff_of_false List.not_mem_nil fun ⟨_, h, _⟩ => not_leadsTo_nil h
  | _, .float _, _, _ => iff_of_false List.not_mem_nil fun ⟨_, h, _⟩ => not_leadsTo_nil h
  | _, .str _, _, _ => iff_of_false List.not_mem_nil fun ⟨_, h, _⟩ => not_leadsTo_nil h

theorem mem_memberEntries_iff : ∀ (group : String) (d : Fields) (key : String) (child : Json),
    (key, child) ∈ memberEntries group d ↔
      ∃ path, LeadsTo d path child ∧ key = keyBelow group path
  | _, [], _, _ => iff_of_false List.not_mem_nil fun ⟨_, h, _⟩ => not_leadsTo_nil h
  | group, (name, v) :: rest, key, child => by
      simp only [mem_memberEntries_cons, leadsTo_cons, mem_memberEntries_iff group rest,
        mem_costEntries_iff (dotted group name) v]
      constructor
      · rintro (⟨hvisible, hhere⟩ | ⟨path, hlead, hkey⟩)
        · by_cases hgroup : (v.isObj && !isLeaf v) = true
          · rw [if_pos hgroup] at hhere
            obtain ⟨path, hlead, hkey⟩ := hhere
            exact ⟨name :: path, Or.inl ⟨hvisible, by rw [if_pos hgroup]; exact ⟨path, rfl, hlead⟩⟩,
              hkey⟩
          · rw [if_neg hgroup] at hhere
            cases hhere
            exact ⟨[name], Or.inl ⟨hvisible, by rw [if_neg hgroup]; exact ⟨rfl, rfl⟩⟩, rfl⟩
        · exact ⟨path, Or.inr hlead, hkey⟩
      · rintro ⟨path, ⟨hvisible, hhere⟩ | hlead, hkey⟩
        · refine Or.inl ⟨hvisible, ?_⟩
          by_cases hgroup : (v.isObj && !isLeaf v) = true
          · rw [if_pos hgroup] at hhere ⊢
            obtain ⟨path', rfl, hlead⟩ := hhere
            exact ⟨path', hlead, hkey⟩
          · rw [if_neg hgroup] at hhere ⊢
            obtain ⟨rfl, rfl⟩ := hhere
            rw [hkey]
            rfl
        · exact Or.inr ⟨path, hlead, hkey⟩

end

/-- A name that can be told apart in a dotted key. -/
structure PlainName (name : String) : Prop where
  nonempty : name ≠ ""
  undotted : '.' ∉ name.toList

mutual

def hasPlainNames : Json → Bool
  | .obj d => membersPlain d
  | .arr _ => true
  | .null => true
  | .bool _ => true
  | .int _ => true
  | .float _ => true
  | .str _ => true

def membersPlain : List (String × Json) → Bool
  | [] => true
  | (name, v) :: d =>
      (name ≠ "" && '.' ∉ name.toList) && hasPlainNames v && membersPlain d

end

theorem plain_of_mem {d : Fields} (h : membersPlain d = true) {name : String} {v : Json}
    (hv : (name, v) ∈ d) : PlainName name ∧ membersPlain v.fields = true := by
  induction d with
  | nil => cases hv
  | cons member d ih =>
      obtain ⟨key, child⟩ := member
      rw [membersPlain, Bool.and_eq_true, Bool.and_eq_true, Bool.and_eq_true] at h
      rcases List.mem_cons.1 hv with hv | hv
      · obtain ⟨rfl, rfl⟩ := Prod.mk.inj hv
        refine ⟨⟨of_decide_eq_true h.1.1.1, of_decide_eq_true h.1.1.2⟩, ?_⟩
        have hchild := h.1.2
        cases v with
        | obj d => simpa [hasPlainNames] using hchild
        | _ => rfl
      · exact ih h.2 hv

theorem LeadsTo.plain {d : Fields} {path : List String} {child : Json}
    (h : LeadsTo d path child) (hplain : membersPlain d = true) :
    ∀ name ∈ path, PlainName name := by
  induction h with
  | here mem _ _ =>
      intro name hname
      rw [List.mem_singleton.1 hname]
      exact (plain_of_mem hplain mem).1
  | under mem _ _ _ ih =>
      intro name hname
      rcases List.mem_cons.1 hname with rfl | hname
      · exact (plain_of_mem hplain mem).1
      · exact ih (plain_of_mem hplain mem).2 name hname

theorem keyBelow_toList {group : String} (hgroup : group ≠ "") (path : List String) :
    (keyBelow group path).toList =
      List.intercalate ['.'] (group.toList :: path.map String.toList) := by
  induction path generalizing group with
  | nil => simp [keyBelow]
  | cons name path ih =>
      have hdotted : dotted group name = group ++ "." ++ name := if_neg hgroup
      have hnonempty : dotted group name ≠ "" := by
        rw [hdotted]
        simp
      have hbelow := ih hnonempty
      rw [hdotted, String.toList_append, String.toList_append] at hbelow
      have hsplit : keyBelow group (name :: path) = keyBelow (group ++ "." ++ name) path := by
        rw [← hdotted]
        rfl
      rw [hsplit, hbelow, List.map_cons]
      cases path with
      | nil => simp [List.intercalate_cons_cons]
      | cons next path => simp [List.intercalate_cons_cons]

theorem LeadsTo.path_ne_nil {d : Fields} {path : List String} {child : Json}
    (h : LeadsTo d path child) : path ≠ [] := by
  cases h <;> exact List.cons_ne_nil _ _

/-- The key of a path of plain names splits at its dots into the path. -/
theorem splitOn_key {path : List String} (hne : path ≠ [])
    (hplain : ∀ name ∈ path, PlainName name) :
    (keyBelow "" path).toList.splitOn '.' = path.map String.toList := by
  cases path with
  | nil => exact absurd rfl hne
  | cons name path =>
      have hkey : keyBelow "" (name :: path) = keyBelow name path := by
        rw [keyBelow, List.foldl_cons, dotted, if_pos rfl]
        rfl
      rw [hkey, keyBelow_toList (hplain name List.mem_cons_self).nonempty, ← List.map_cons]
      refine List.splitOn_intercalate '.' ?_ (by simp)
      intro letters hletters
      obtain ⟨part, hpart, rfl⟩ := List.mem_map.1 hletters
      exact (hplain part hpart).undotted

theorem key_injective {path path' : List String} (hne : path ≠ []) (hne' : path' ≠ [])
    (hplain : ∀ name ∈ path, PlainName name) (hplain' : ∀ name ∈ path', PlainName name)
    (h : keyBelow "" path = keyBelow "" path') : path = path' := by
  have hsplit := splitOn_key hne hplain
  rw [h, splitOn_key hne' hplain'] at hsplit
  have hinjective : Function.Injective String.toList := fun _ _ h => String.toList_injective h
  exact (List.map_injective_iff.2 hinjective hsplit).symm

theorem mem_distinct {d : Fields} (h : membersDistinct d = true) {name : String} {v w : Json}
    (hv : (name, v) ∈ d) (hw : (name, w) ∈ d) : v = w := by
  induction d with
  | nil => cases hv
  | cons member d ih =>
      obtain ⟨key, child⟩ := member
      rw [membersDistinct, Bool.and_eq_true, Bool.and_eq_true, Bool.not_eq_true',
        List.any_eq_false] at h
      rcases List.mem_cons.1 hv with hv | hv
      · rcases List.mem_cons.1 hw with hw | hw
        · rw [Prod.mk.injEq] at hv hw
          exact hv.2.trans hw.2.symm
        · have hfresh := h.1.1 _ hw
          simp [(Prod.mk.inj hv).1] at hfresh
      · rcases List.mem_cons.1 hw with hw | hw
        · have hfresh := h.1.1 _ hv
          simp [(Prod.mk.inj hw).1] at hfresh
        · exact ih h.2 hv hw

theorem distinct_of_mem {d : Fields} (h : membersDistinct d = true) {name : String} {v : Json}
    (hv : (name, v) ∈ d) : membersDistinct v.fields = true := by
  induction d with
  | nil => cases hv
  | cons member d ih =>
      obtain ⟨key, child⟩ := member
      rw [membersDistinct, Bool.and_eq_true, Bool.and_eq_true] at h
      rcases List.mem_cons.1 hv with hv | hv
      · have hchild := h.1.2
        rw [← (Prod.mk.inj hv).2] at hchild
        cases v with
        | obj d => simpa [hasDistinctKeys] using hchild
        | _ => rfl
      · exact ih h.2 hv

/-- A path leads to one child at most. -/
theorem LeadsTo.unique {d : Fields} {path : List String} {v w : Json} (hv : LeadsTo d path v)
    (hdistinct : membersDistinct d = true) (hw : LeadsTo d path w) : v = w := by
  induction hv with
  | here mem _ stop =>
      cases hw with
      | here mem' _ _ => exact mem_distinct hdistinct mem mem'
      | under _ _ _ rest => exact absurd rfl rest.path_ne_nil
  | under mem _ group rest ih =>
      cases hw with
      | here _ _ _ => exact absurd rfl rest.path_ne_nil
      | under mem' _ _ rest' =>
          cases mem_distinct hdistinct mem mem'
          exact ih (distinct_of_mem hdistinct mem) rest'

/-!
## What is kept
-/

theorem lookup_cons_eq {β : Type*} (k : String) (p : β) (out : List (String × β))
    (other : String) :
    List.lookup other ((k, p) :: out) = if other = k then some p else out.lookup other := by
  rw [List.lookup_cons]
  by_cases h : other = k
  · rw [if_pos h, beq_iff_eq.2 h]
  · rw [if_neg h, beq_eq_false_iff_ne.2 h]

theorem lookup_setParam (out : CostParams) (key : String) (param : CostParam) (other : String) :
    (setParam out key param).lookup other =
      if other = key then some param else out.lookup other := by
  induction out with
  | nil => exact lookup_cons_eq key param [] other
  | cons kept out ih =>
      obtain ⟨k, p⟩ := kept
      rw [setParam, lookup_cons_eq]
      by_cases hk : k = key
      · rw [if_pos hk, lookup_cons_eq, hk]
        split <;> rfl
      · rw [if_neg hk, lookup_cons_eq, ih]
        by_cases h : other = k
        · rw [if_pos h, if_neg fun heq => hk (h.symm.trans heq)]
          exact (if_pos h).symm
        · rw [if_neg h, if_neg h]

theorem setParam_ne_nil (out : CostParams) (key : String) (param : CostParam) :
    setParam out key param ≠ [] := by
  cases out with
  | nil => exact List.cons_ne_nil _ _
  | cons kept out =>
      rw [setParam]
      split <;> exact List.cons_ne_nil _ _

section

variable {py : Readers}

theorem keepEntry_eq_ok {out out' : CostParams} {entry : String × Json}
    (h : keepEntry py out entry = .ok out') :
    ∃ param, readEntry py entry = .ok param ∧
      out' = setParam out entry.1 param := by
  unfold keepEntry at h
  cases hread : readEntry py entry with
  | error e =>
      rw [hread] at h
      cases h
  | ok param =>
      rw [hread] at h
      exact ⟨param, rfl, (Except.ok.inj h).symm⟩

/-- The entries are kept when each of them can be read. -/
theorem foldlM_keepEntry_isOk (entries : List (String × Json)) (out : CostParams) :
    (∃ out', entries.foldlM (keepEntry py) out = .ok out') ↔
      ∀ entry ∈ entries, ∃ param, readEntry py entry = .ok param := by
  induction entries generalizing out with
  | nil => exact iff_of_true ⟨out, rfl⟩ fun _ h => absurd h List.not_mem_nil
  | cons entry entries ih =>
      rw [List.forall_mem_cons, List.foldlM_cons]
      cases hkept : keepEntry py out entry with
      | error e =>
          refine iff_of_false (fun ⟨_, h⟩ => by cases h) ?_
          rintro ⟨⟨param, hread⟩, -⟩
          rw [keepEntry, hread] at hkept
          cases hkept
      | ok out' =>
          obtain ⟨param, hread, -⟩ := keepEntry_eq_ok hkept
          exact (ih out').trans ⟨fun h => ⟨⟨param, hread⟩, h⟩, fun h => h.2⟩

/-- What is kept after some entries that differ under different keys only. -/
theorem lookup_foldlM_keepEntry {entries : List (String × Json)} {out out' : CostParams}
    (h : entries.foldlM (keepEntry py) out = .ok out')
    (hone : ∀ key v w, (key, v) ∈ entries → (key, w) ∈ entries → v = w) (key : String)
    (param : CostParam) :
    out'.lookup key = some param ↔
      (∃ child, (key, child) ∈ entries ∧ readEntry py (key, child) = .ok param) ∨
        (∀ child, (key, child) ∉ entries) ∧ out.lookup key = some param := by
  induction entries generalizing out with
  | nil =>
      cases h
      simp
  | cons entry entries ih =>
      obtain ⟨k, v⟩ := entry
      rw [List.foldlM_cons] at h
      obtain ⟨middle, hkept, h⟩ := bind_eq_ok h
      obtain ⟨read, hread, rfl⟩ := keepEntry_eq_ok hkept
      rw [ih h fun key v w hv hw =>
        hone key v w (List.mem_cons_of_mem _ hv) (List.mem_cons_of_mem _ hw), lookup_setParam]
      by_cases hk : key = k
      · subst hk
        have honly : ∀ w, (key, w) ∈ entries → w = v := fun w hw =>
          hone key w v (List.mem_cons_of_mem _ hw) List.mem_cons_self
        rw [if_pos rfl]
        constructor
        · rintro (⟨w, hw, hparam⟩ | ⟨-, hparam⟩)
          · exact Or.inl ⟨w, List.mem_cons_of_mem _ hw, hparam⟩
          · cases hparam
            exact Or.inl ⟨v, List.mem_cons_self, hread⟩
        · rintro (⟨w, hw, hparam⟩ | ⟨hnone, -⟩)
          · rcases List.mem_cons.1 hw with heq | hw
            · cases heq
              by_cases hlater : ∃ w, (key, w) ∈ entries
              · obtain ⟨later, hmore⟩ := hlater
                have hsame := honly later hmore
                subst hsame
                exact Or.inl ⟨later, hmore, hparam⟩
              · push Not at hlater
                exact Or.inr ⟨hlater, congrArg some (Except.ok.inj (hread.symm.trans hparam))⟩
            · exact Or.inl ⟨w, hw, hparam⟩
          · exact absurd List.mem_cons_self (hnone v)
      · have hmem : ∀ w, (key, w) ∈ (k, v) :: entries ↔ (key, w) ∈ entries := fun w =>
          List.mem_cons.trans (or_iff_right fun heq => hk (Prod.mk.inj heq).1)
        rw [if_neg hk]
        simp only [hmem]

theorem loadCosts_eq_ok {doc : Json} {params : CostParams}
    (h : loadCosts py doc = .ok params) :
    doc.isObj = true ∧ params ≠ [] ∧
      (costEntries "" doc).foldlM (keepEntry py) [] = .ok params := by
  unfold loadCosts at h
  split at h
  · next hobj =>
      obtain ⟨walked, hwalk, h⟩ := bind_eq_ok h
      split at h
      · cases h
      · next hnonempty =>
          cases h
          rw [walkLeaves_eq] at hwalk
          exact ⟨hobj, by simpa using hnonempty, hwalk⟩
  · cases h

theorem foldlM_keepEntry_ne_nil {entries : List (String × Json)} {out out' : CostParams}
    (h : entries.foldlM (keepEntry py) out = .ok out')
    (hne : out ≠ [] ∨ entries ≠ []) : out' ≠ [] := by
  induction entries generalizing out with
  | nil =>
      cases h
      exact hne.resolve_right fun h => h rfl
  | cons entry entries ih =>
      rw [List.foldlM_cons] at h
      obtain ⟨middle, hkept, h⟩ := bind_eq_ok h
      obtain ⟨read, -, rfl⟩ := keepEntry_eq_ok hkept
      exact ih h (Or.inl (setParam_ne_nil _ _ _))

/-- A document is loaded when it is an object, its names lead somewhere, and only to leaves that
can be read. -/
theorem loadCosts_isOk_iff (doc : Json) :
    (∃ params, loadCosts py doc = .ok params) ↔
      doc.isObj = true ∧ (∃ path child, LeadsTo doc.fields path child) ∧
        ∀ path child, LeadsTo doc.fields path child →
          ∃ param, readEntry py (keyBelow "" path, child) = .ok param := by
  have hentries : (∀ entry ∈ costEntries "" doc,
      ∃ param, readEntry py entry = .ok param) ↔
        ∀ path child, LeadsTo doc.fields path child →
          ∃ param, readEntry py (keyBelow "" path, child) = .ok param := by
    constructor
    · exact fun h path child hlead =>
        h _ ((mem_costEntries_iff "" doc _ _).2 ⟨path, hlead, rfl⟩)
    · rintro h ⟨key, child⟩ hentry
      obtain ⟨path, hlead, rfl⟩ := (mem_costEntries_iff "" doc key child).1 hentry
      exact h path child hlead
  rw [← hentries]
  constructor
  · rintro ⟨params, h⟩
    obtain ⟨hobj, hne, hfold⟩ := loadCosts_eq_ok h
    refine ⟨hobj, ?_, (foldlM_keepEntry_isOk _ _).1 ⟨params, hfold⟩⟩
    cases hall : costEntries "" doc with
    | nil =>
        rw [hall] at hfold
        cases hfold
        exact absurd rfl hne
    | cons entry rest =>
        obtain ⟨path, hlead, -⟩ := (mem_costEntries_iff "" doc entry.1 entry.2).1
          (by rw [hall]; exact List.mem_cons_self)
        exact ⟨path, entry.2, hlead⟩
  · rintro ⟨hobj, ⟨path, child, hlead⟩, hread⟩
    obtain ⟨params, hfold⟩ := (foldlM_keepEntry_isOk (costEntries "" doc) []).2 hread
    have hmem := (mem_costEntries_iff "" doc _ _).2 ⟨path, hlead, rfl⟩
    have hne := foldlM_keepEntry_ne_nil hfold (Or.inr (List.ne_nil_of_mem hmem))
    refine ⟨params, ?_⟩
    rw [loadCosts, if_pos hobj, walkLeaves_eq, hfold]
    change (if params.isEmpty = true then _ else _) = _
    rw [if_neg (by simpa using hne)]
    rfl

theorem isLeaf_of_parseLeaf {key : String} {raw : Json} {param : CostParam}
    (h : parseLeaf py key raw = .ok param) : isLeaf raw = true := by
  unfold parseLeaf at h
  split at h
  · next d =>
      split at h
      · cases h
      · cases h
      · next v s hvalue hsource =>
          rw [isLeaf, hvalue, hsource]
          rfl
  · cases h

theorem readEntry_eq_ok_iff {key : String} {child : Json} {param : CostParam} :
    readEntry py (key, child) = .ok param ↔
      parseLeaf py key child = .ok param := by
  unfold readEntry
  by_cases hleaf : isLeaf child = true
  · rw [if_pos hleaf]
  · rw [if_neg hleaf]
    exact iff_of_false nofun fun h => hleaf (isLeaf_of_parseLeaf h)

/-- The loader accepts a document exactly when its names lead somewhere and only to leaves that
can be read. Where the names are plain, it keeps under every dotted key the leaf to which the
key leads, and nothing else. -/
theorem load_costs_reads_leaves (doc : Json) :
    ((∃ params, loadCosts py doc = .ok params) ↔
      doc.isObj = true ∧ (∃ path child, LeadsTo doc.fields path child) ∧
        ∀ path child, LeadsTo doc.fields path child →
          ∃ param, parseLeaf py (keyBelow "" path) child = .ok param) ∧
    (hasDistinctKeys doc = true → hasPlainNames doc = true →
      ∀ params, loadCosts py doc = .ok params → ∀ key param,
        (params.lookup key = some param ↔
          ∃ path child, LeadsTo doc.fields path child ∧ key = keyBelow "" path ∧
            parseLeaf py key child = .ok param)) := by
  refine ⟨?_, ?_⟩
  · have haccepted := @loadCosts_isOk_iff py doc
    simp only [readEntry_eq_ok_iff] at haccepted
    exact haccepted
  · intro hdistinct hplain params hloaded key param
    obtain ⟨hobj, -, hfold⟩ := loadCosts_eq_ok hloaded
    have hmembers : membersDistinct doc.fields = true := by
      rw [Json.eq_obj_of_isObj hobj] at hdistinct
      simpa [hasDistinctKeys] using hdistinct
    have hnames : membersPlain doc.fields = true := by
      rw [Json.eq_obj_of_isObj hobj] at hplain
      simpa [hasPlainNames] using hplain
    have hone : ∀ key v w, (key, v) ∈ costEntries "" doc → (key, w) ∈ costEntries "" doc →
        v = w := by
      intro key v w hv hw
      obtain ⟨path, hlead, hkey⟩ := (mem_costEntries_iff "" doc key v).1 hv
      obtain ⟨path', hlead', hkey'⟩ := (mem_costEntries_iff "" doc key w).1 hw
      have hsame := key_injective hlead.path_ne_nil hlead'.path_ne_nil (hlead.plain hnames)
        (hlead'.plain hnames) (hkey.symm.trans hkey')
      rw [← hsame] at hlead'
      exact hlead.unique hmembers hlead'
    rw [lookup_foldlM_keepEntry hfold hone]
    simp only [readEntry_eq_ok_iff, mem_costEntries_iff]
    constructor
    · rintro (⟨child, ⟨path, hlead, hkey⟩, hparam⟩ | ⟨-, hparam⟩)
      · exact ⟨path, child, hlead, hkey, hparam⟩
      · cases hparam
    · rintro ⟨path, child, hlead, hkey, hparam⟩
      exact Or.inl ⟨child, ⟨path, hlead, hkey⟩, hparam⟩

end

/-!
## The shipped document
-/

def shippedLeaf (name : String) (value : Json) (source : String) (note : Option String) :
    String × Json :=
  (name, .obj ([("value", value), ("source", .str source)] ++
    (note.map fun text => ("note", .str text)).toList))

/-- `config/costs.json`. -/
def shippedDocument : Json :=
  .obj
    [("_note",
        .str "All INR. source must be one of: dashboard | invoice | published | ASSUMPTION"),
      ("attempt", .obj
        [shippedLeaf "psp_fee_on_failed_attempt" (.float (.fin 0)) "dashboard"
            (some ("Razorpay bills on success, not on failed auth. " ++
              "Verify against our MID contract.")),
          shippedLeaf "sms_dlt" (.float (.fin (2 / 10))) "ASSUMPTION"
            (some "replace with our SMS vendor invoice rate"),
          shippedLeaf "whatsapp_utility" (.float (.fin (12 / 100))) "ASSUMPTION"
            (some "Meta utility template, India"),
          shippedLeaf "email" (.float (.fin (1 / 100))) "ASSUMPTION" none,
          shippedLeaf "network_excess_retry_penalty" (.float (.fin 0)) "ASSUMPTION"
            (some ("Applies only past card-scheme retry caps. VERIFY current Visa/Mastercard " ++
              "programme thresholds and fees before quoting on stage."))]),
      ("success", .obj
        [shippedLeaf "mdr_pct" (.float (.fin (2 / 100))) "published"
          (some "Razorpay standard domestic. Verify our negotiated rate.")]),
      ("risk", .obj
        [shippedLeaf "chargeback_fee" (.int 1500) "ASSUMPTION"
            (some "pull exact figure from Razorpay dashboard"),
          shippedLeaf "support_ticket" (.int 35) "ASSUMPTION"
            (some "fully-loaded cost per ticket"),
          shippedLeaf "issuer_auth_decay_pct_per_excess_attempt" (.float (.fin (2 / 1000)))
            "ASSUMPTION"
            (some "unsourceable — must be shown as a modelling assumption in the UI")]),
      ("customer", .obj
        [shippedLeaf "churn_prob_per_inappropriate_contact" (.float (.fin (1 / 100)))
            "ASSUMPTION" none,
          shippedLeaf "ltv" (.int 4800) "ASSUMPTION" none]),
      ("scheme_limits", .obj
        [shippedLeaf "max_attempts_per_transaction_30d" (.int 15) "ASSUMPTION"
            (some "VERIFY against current card scheme rules"),
          shippedLeaf "max_attempts_hard_decline" (.int 1) "ASSUMPTION" none])]

def fixedTexts : Readers where
  textOf v := v.text?.getD "None"
  textOf_eq := Json.getD_text?_eq
  intOfText _ := none
  errorText _ := ""
  floatOfText _ := none

theorem shippedDocument_isOk : (loadCosts fixedTexts shippedDocument).isOk = true := by
  decide +kernel

/-- What is kept of the shipped document. -/
def shippedParams : CostParams := (loadCosts fixedTexts shippedDocument).toOption.getD []

theorem loadCosts_shipped : loadCosts fixedTexts shippedDocument = .ok shippedParams := by
  have hok := shippedDocument_isOk
  unfold shippedParams
  cases h : loadCosts fixedTexts shippedDocument with
  | error e =>
      rw [h] at hok
      cases hok
  | ok params => rfl

/-- The price of a message, found where its key leads. -/
theorem load_costs_reads_leaves_shipped :
    ∃ path child, LeadsTo shippedDocument.fields path child ∧
      "attempt.sms_dlt" = keyBelow "" path ∧
        parseLeaf fixedTexts "attempt.sms_dlt" child =
          .ok { value := .fin (2 / 10), source := "ASSUMPTION"
                note := some "replace with our SMS vendor invoice rate" } :=
  ((load_costs_reads_leaves shippedDocument).2 (by decide) (by decide) shippedParams
    loadCosts_shipped "attempt.sms_dlt" _).1 (by decide +kernel)

end RecoveryAgent.Config
