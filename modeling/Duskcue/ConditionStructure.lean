import Duskcue.Conditions
import Duskcue.RuleTree

/-! The structure of conditions, as it is validated before an overlay is stored. A document
that passes reads as a tree of rules, and its evaluation never meets a node it has to
guess at. -/
namespace Duskcue.Conditions
variable {φ : Type}

/-! ## Validation -/

inductive ConditionError
  | invalidStructure (text : String)
  | missingKey (key : String)
  | invalidOperator (operator : String)

def validOps : List String := ["eq", "neq", "in", "gt", "gte", "lt", "lte", "exists", "matches"]

def validateLeafStructure (obj : Fields φ) : Except ConditionError Unit :=
  match obj.text "field" with
  | none => .error (.missingKey "field")
  | some _ =>
    match obj.text "op" with
    | none => .error (.missingKey "op")
    | some op =>
      if !validOps.contains op then .error (.invalidOperator op)
      else if op = "in" then
        if (obj.lookup "values").isSome then .ok () else .error (.missingKey "values")
      else if (obj.lookup "value").isSome then .ok () else .error (.missingKey "value")

theorem sizeOf_rule {obj : Fields φ} (listed : obj.lookup "rules" = some (.list rules)) (member : rule ∈ rules) :
    sizeOf rule < sizeOf (Json.object obj) := by
  have within := List.sizeOf_lt_of_mem member
  have held := sizeOf_lookup listed
  simp only [Json.list.sizeOf_spec] at held
  omega

mutual
def validateGroup (group : Json φ) : Except ConditionError Unit :=
  match group with
  | .object obj =>
    match Fields.text obj "operator" with
    | none => .error (.missingKey "operator")
    | some operator =>
      if operator ≠ "and" ∧ operator ≠ "or" then .error (.invalidOperator operator)
      else match _found : obj.lookup "rules" with
        | some (.list rules) => forM rules.attach fun r => validateNode r.1
        | _ => .error (.missingKey "rules")
  | _ => .error (.invalidStructure "rule group must be an object")
termination_by (sizeOf group, 0)
decreasing_by exact Prod.Lex.left _ _ (sizeOf_rule _found r.2)

def validateNode (node : Json φ) : Except ConditionError Unit :=
  match node with
  | .object obj =>
    if (obj.lookup "operator").isSome then validateGroup (.object obj) else validateLeafStructure obj
  | _ => .error (.invalidStructure "rule must be an object")
termination_by (sizeOf node, 1)
end

def validateStructure (conditions : Json φ) : Except ConditionError Unit :=
  match conditions with
  | .null | .bool _ => .ok ()
  | .object [] => .ok ()
  | .object obj => validateGroup (.object obj)
  | _ => .error (.invalidStructure "conditions must be a JSON object")

/-! ## What validation accepts -/

/-- A leaf that names a field and an operator there is. -/
def Asks (obj : Fields φ) : Prop :=
  (obj.text "field").isSome = true ∧ ∃ op, obj.text "op" = some op ∧ op ∈ validOps ∧
    (obj.lookup (if op = "in" then "values" else "value")).isSome = true

inductive WellFormed : Json φ → Prop
  | leaf (plain : obj.lookup "operator" = none) (asks : Asks obj) : WellFormed (.object obj)
  | group {obj : Fields φ} {operator : String} {rules : List (Json φ)}
      (named : obj.lookup "operator" = some (.text operator)) (logical : operator = "and" ∨ operator = "or")
      (listed : obj.lookup "rules" = some (.list rules)) (below : ∀ rule ∈ rules, WellFormed rule) :
      WellFormed (.object obj)

section
variable {obj : Fields φ} {rules : List (Json φ)} {operator : String}

theorem text_eq_some : obj.text key = some text ↔ obj.lookup key = some (.text text) := by
  unfold Fields.text
  cases obj.lookup key with
  | none => simp
  | some value => cases value <;> simp [Json.asStr]

theorem validateLeafStructure_ok : validateLeafStructure obj = .ok () ↔ Asks obj := by
  unfold validateLeafStructure Asks
  cases obj.text "field" with
  | none => simp
  | some =>
    cases obj.text "op" with
    | none => simp
    | some op =>
      by_cases known : op ∈ validOps
      · by_cases within : op = "in"
        · subst within
          simp [known]
        · simp [known, within]
      · simp [known]

theorem forM_ok {α : Type} {check : α → Except ConditionError Unit} {items : List α} :
    forM items check = .ok () ↔ ∀ item ∈ items, check item = .ok () := by
  induction items with
  | nil => simp [pure, Except.pure]
  | cons item _ ih =>
    rw [List.forM_cons, List.forall_mem_cons, ← ih]
    cases check item <;> simp [bind, Except.bind]

theorem validateGroup_ok : validateGroup (.object obj) = .ok () ↔
    ∃ operator rules, obj.lookup "operator" = some (.text operator) ∧ (operator = "and" ∨ operator = "or") ∧
      obj.lookup "rules" = some (.list rules) ∧ ∀ rule ∈ rules, validateNode rule = .ok () := by
  unfold validateGroup
  constructor
  · intro valid
    split at valid
    · cases valid
    · rename_i operator named
      split at valid
      · cases valid
      · rename_i logical
        split at valid
        · rename_i rules listed
          refine ⟨operator, rules, text_eq_some.mp named, by tauto, listed, fun rule member => ?_⟩
          exact forM_ok.mp valid ⟨rule, member⟩ (List.mem_attach _ _)
        · cases valid
  · rintro ⟨operator, rules, named, logical, listed, below⟩
    rw [text_eq_some.mpr named]
    simp only
    rw [if_neg (by tauto)]
    split
    · rename_i found
      cases found.symm.trans listed
      exact forM_ok.mpr fun r _ => below r.1 r.2
    · rename_i other
      exact absurd listed (other rules)

theorem wellFormed_of_validateNode (valid : validateNode node = .ok ()) : WellFormed node := by
  induction size : sizeOf node using Nat.strong_induction_on generalizing node with | _ n ih
  subst size
  cases node with
  | object obj =>
    rw [validateNode] at valid
    cases named : obj.lookup "operator" with
    | none =>
      rw [named, if_neg (by simp)] at valid
      exact .leaf named (validateLeafStructure_ok.mp valid)
    | some =>
      rw [named, if_pos (by rfl)] at valid
      obtain ⟨operator, rules, named, logical, listed, below⟩ := validateGroup_ok.mp valid
      exact .group named logical listed fun rule member =>
        ih _ (sizeOf_rule listed member) (below rule member) rfl
  | _ =>
    rw [validateNode] at valid
    · cases valid
    · rintro obj ⟨⟩

theorem validateNode_ok : validateNode node = .ok () ↔ WellFormed node := by
  constructor
  · exact wellFormed_of_validateNode
  · intro formed
    induction formed with
    | leaf plain asks =>
      rw [validateNode, if_neg (by simp [plain])]
      exact validateLeafStructure_ok.mpr asks
    | group named logical listed _ ih =>
      rw [validateNode, if_pos (by simp [named])]
      exact validateGroup_ok.mpr ⟨_, _, named, logical, listed, ih⟩

end

/-! ## What conditions say -/

def connective : String → Option Connective
  | "and" => some .all
  | "or" => some .any
  | _ => none

/-- The tree a node stands for, if it can be read as one. -/
def read (node : Json φ) : Option (RuleTree (Fields φ)) :=
  match node with
  | .object obj =>
    if (obj.lookup "operator").isSome then
      match (Fields.text obj "operator").bind connective, _found : obj.lookup "rules" with
      | some joined, some (.list rules) => (rules.attach.mapM fun r => read r.1).map (.group joined)
      | _, _ => none
    else some (.leaf obj)
  | _ => none
termination_by sizeOf node
decreasing_by exact sizeOf_rule _found r.2

/-- Conditions that are no group have a fixed answer. -/
def denotation (conditions : Json φ) : Option (RuleTree (Fields φ)) :=
  match conditions with
  | .null => some (.constant true)
  | .bool b => some (.constant b)
  | .object [] => some (.group .all [])
  | _ => read conditions

/-! ## Evaluation with a record of what it guesses -/

/-- The places where the evaluator goes on after meeting what it does not expect. -/
inductive Fallback
  | conditionsNotObject | groupNotObject | ruleNotObject | missingOperator | unknownOperator
  | missingRules | missingField | missingOp | unknownOp

/-- `Iterator::all`, which stops at the first `false`. -/
def traceAll : List (Bool × List Fallback) → Bool × List Fallback
  | [] => (true, [])
  | (true, seen) :: rest => ((traceAll rest).1, seen ++ (traceAll rest).2)
  | (false, seen) :: _ => (false, seen)

/-- `Iterator::any`, which stops at the first `true`. -/
def traceAny : List (Bool × List Fallback) → Bool × List Fallback
  | [] => (false, [])
  | (true, seen) :: _ => (true, seen)
  | (false, seen) :: rest => ((traceAny rest).1, seen ++ (traceAny rest).2)

section
variable (env : Formats φ) (ctx : MediaFilterContext φ)

def traceLeaf (obj : Fields φ) : Bool × List Fallback :=
  (evaluateLeaf env obj ctx,
    match obj.text "field", obj.text "op" with
    | none, _ => [.missingField]
    | some _, none => [.missingOp]
    | some _, some op => if op ∈ validOps then [] else [.unknownOp])

mutual
def traceGroup (group : Json φ) : Bool × List Fallback :=
  match group with
  | .object obj =>
    let guessed := if (Fields.text obj "operator").isNone then [.missingOperator] else []
    match _found : obj.lookup "rules" with
    | some (.list rules) =>
      if rules.isEmpty then (true, guessed)
      else match (Fields.text obj "operator").getD "and" with
        | "and" =>
          let rest := traceAll (rules.attach.map fun r => traceNode r.1)
          (rest.1, guessed ++ rest.2)
        | "or" => traceAny (rules.attach.map fun r => traceNode r.1)
        | _ =>
          let rest := traceAll (rules.attach.map fun r => traceNode r.1)
          (rest.1, .unknownOperator :: rest.2)
    | _ => (true, guessed ++ [.missingRules])
  | _ => (true, [.groupNotObject])
termination_by (sizeOf group, 0)
decreasing_by all_goals exact Prod.Lex.left _ _ (sizeOf_rule _found r.2)

def traceNode (node : Json φ) : Bool × List Fallback :=
  match node with
  | .object obj => if (obj.lookup "operator").isSome then traceGroup (.object obj) else traceLeaf env ctx obj
  | _ => (false, [.ruleNotObject])
termination_by (sizeOf node, 1)
end

/-- `evaluate`, with the guesses it makes. -/
def trace (conditions : Json φ) : Bool × List Fallback :=
  match conditions with
  | .null => (true, [])
  | .bool b => (b, [])
  | .object [] => (true, [])
  | .object obj => traceGroup env ctx (.object obj)
  | _ => (true, [.conditionsNotObject])

end

section
variable {env : Formats φ} {ctx : MediaFilterContext φ} {obj : Fields φ} {rules : List (Json φ)} {operator : String}

theorem traceAll_fst (outcomes : List (Bool × List Fallback)) :
    (traceAll outcomes).1 = outcomes.all Prod.fst := by
  induction outcomes with
  | nil => rfl
  | cons outcome _ ih =>
    obtain ⟨b, seen⟩ := outcome
    cases b
    · rfl
    · rw [traceAll, List.all_cons, ih, Bool.true_and]

theorem traceAny_fst (outcomes : List (Bool × List Fallback)) :
    (traceAny outcomes).1 = outcomes.any Prod.fst := by
  induction outcomes with
  | nil => rfl
  | cons outcome _ ih =>
    obtain ⟨b, seen⟩ := outcome
    cases b
    · rw [traceAny, List.any_cons, ih, Bool.false_or]
    · rfl

theorem traceAll_clean (clean : ∀ outcome ∈ outcomes, outcome.2 = []) : (traceAll outcomes).2 = [] := by
  induction outcomes with
  | nil => rfl
  | cons outcome _ ih =>
    obtain ⟨b, seen⟩ := outcome
    obtain ⟨rfl, others⟩ := List.forall_mem_cons.mp clean
    cases b
    · rfl
    · exact ih others

theorem traceAny_clean (clean : ∀ outcome ∈ outcomes, outcome.2 = []) : (traceAny outcomes).2 = [] := by
  induction outcomes with
  | nil => rfl
  | cons outcome _ ih =>
    obtain ⟨b, seen⟩ := outcome
    obtain ⟨rfl, others⟩ := List.forall_mem_cons.mp clean
    cases b
    · exact ih others
    · rfl

theorem traceLeaf_clean (asks : Asks obj) : traceLeaf env ctx obj = (evaluateLeaf env obj ctx, []) := by
  obtain ⟨named, op, asked, known, _⟩ := asks
  obtain ⟨field, named⟩ := Option.isSome_iff_exists.mp named
  rw [traceLeaf, named, asked]
  simp only [if_pos known]

theorem evaluateGroup_unlisted (unlisted : ∀ rules, obj.lookup "rules" ≠ some (.list rules)) :
    evaluateGroup env (.object obj) ctx = true := by
  unfold evaluateGroup
  split
  · rename_i rules found
    exact absurd found (unlisted rules)
  · rfl

theorem evaluateGroup_empty (listed : obj.lookup "rules" = some (.list [])) :
    evaluateGroup env (.object obj) ctx = true := by
  unfold evaluateGroup
  split
  · rename_i rules found
    cases found.symm.trans listed
    rfl
  · rfl

theorem traceGroup_unlisted (unlisted : ∀ rules, obj.lookup "rules" ≠ some (.list rules)) :
    (traceGroup env ctx (.object obj)).1 = true := by
  unfold traceGroup
  dsimp only
  split
  · rename_i rules found
    exact absurd found (unlisted rules)
  · rfl

theorem traceGroup_empty (listed : obj.lookup "rules" = some (.list [])) : traceGroup env ctx (.object obj) =
    (true, if (Fields.text obj "operator").isNone then [.missingOperator] else []) := by
  unfold traceGroup
  dsimp only
  split
  · rename_i rules found
    cases found.symm.trans listed
    rfl
  · rename_i other
    exact absurd listed (other [])

theorem traceGroup_rules (listed : obj.lookup "rules" = some (.list rules)) (filled : rules ≠ []) :
    (traceGroup env ctx (.object obj)).1 =
      if (Fields.text obj "operator").getD "and" = "or" then (rules.map fun rule => (traceNode env ctx rule).1).any id
      else (rules.map fun rule => (traceNode env ctx rule).1).all id := by
  unfold traceGroup
  dsimp only
  split
  · rename_i found
    cases found.symm.trans listed
    rw [if_neg (by simpa using filled)]
    split
    · rename_i and_
      have other : ¬ (Fields.text obj "operator").getD "and" = "or" := by
        rw [and_]
        decide
      rw [if_neg other, traceAll_fst]
      simp [Function.comp_def]
    · rename_i or_
      rw [if_pos or_, traceAny_fst]
      simp [Function.comp_def]
    · rename_i other
      rw [if_neg other, traceAll_fst]
      simp [Function.comp_def]
  · rename_i other
    exact absurd listed (other rules)

/-- A group with an operator there is guesses nothing of its own. -/
theorem traceGroup_clean (named : obj.lookup "operator" = some (.text operator))
    (logical : operator = "and" ∨ operator = "or") (listed : obj.lookup "rules" = some (.list rules))
    (below : ∀ rule ∈ rules, (traceNode env ctx rule).2 = []) : (traceGroup env ctx (.object obj)).2 = [] := by
  have clean : ∀ outcome ∈ rules.attach.map (fun r => traceNode env ctx r.1), outcome.2 = [] := by
    intro outcome member
    obtain ⟨r, _, rfl⟩ := List.mem_map.mp member
    exact below r.1 r.2
  unfold traceGroup
  dsimp only
  rw [text_eq_some.mpr named]
  split
  · rename_i found
    cases found.symm.trans listed
    split
    · rfl
    · rcases logical with rfl | rfl
      · exact traceAll_clean clean
      · exact traceAny_clean clean
  · rename_i other
    exact absurd listed (other rules)

theorem traceGroup_fst (below : ∀ rules, obj.lookup "rules" = some (.list rules) → ∀ rule ∈ rules,
      (traceNode env ctx rule).1 = evaluateNode env rule ctx) :
    (traceGroup env ctx (.object obj)).1 = evaluateGroup env (.object obj) ctx := by
  by_cases listed : ∃ rules, obj.lookup "rules" = some (.list rules)
  · obtain ⟨rules, listed⟩ := listed
    have same : rules.map (fun rule => (traceNode env ctx rule).1) =
        rules.map fun rule => evaluateNode env rule ctx :=
      List.map_congr_left (below rules listed)
    by_cases empty : rules = []
    · subst empty
      rw [traceGroup_empty listed, evaluateGroup_empty listed]
    · rw [traceGroup_rules listed empty, evaluateGroup_rules listed empty, same]
      simp only [List.any_map, List.all_map, Function.comp_def, id_eq]
  · rw [traceGroup_unlisted (by simpa using listed), evaluateGroup_unlisted (by simpa using listed)]

theorem traceNode_fst : (traceNode env ctx node).1 = evaluateNode env node ctx := by
  induction size : sizeOf node using Nat.strong_induction_on generalizing node with | _ n ih
  subst size
  cases node with
  | object =>
    rw [traceNode, evaluateNode]
    split
    · exact traceGroup_fst fun rules listed rule member => ih _ (sizeOf_rule listed member) rfl
    · rfl
  | _ =>
    rw [traceNode, evaluateNode]
    all_goals rintro obj ⟨⟩

/-- Where the structure is valid nothing is guessed. -/
theorem WellFormed.traceNode (formed : WellFormed node) : (traceNode env ctx node).2 = [] := by
  induction formed with
  | leaf plain asks =>
    rw [Conditions.traceNode, if_neg (by simp [plain]), traceLeaf_clean asks]
  | group named logical listed _ ih =>
    rw [Conditions.traceNode, if_pos (by simp [named])]
    exact traceGroup_clean named logical listed ih

/-! ## The tree of a valid document -/

theorem mapM_eq_some {α β : Type} {f : α → Option β} {items : List α} {g : α → β}
    (each : ∀ item ∈ items, f item = some (g item)) : items.mapM f = some (items.map g) := by
  induction items with
  | nil => rfl
  | cons _ _ ih =>
    obtain ⟨first, others⟩ := List.forall_mem_cons.mp each
    rw [List.mapM_cons, first, ih others]
    rfl

theorem read_leaf (plain : obj.lookup "operator" = none) : read (.object obj) = some (.leaf obj) := by
  rw [read, plain]
  rfl

theorem read_group {joined : Connective} {tree : Json φ → RuleTree (Fields φ)}
    (named : obj.lookup "operator" = some (.text operator)) (logical : connective operator = some joined)
    (listed : obj.lookup "rules" = some (.list rules)) (below : ∀ rule ∈ rules, read rule = some (tree rule)) :
    read (.object obj) = some (.group joined (rules.map tree)) := by
  have each : rules.attach.mapM (fun r => read r.1) = some (rules.attach.map fun r => tree r.1) :=
    mapM_eq_some fun r _ => below r.1 r.2
  rw [read, if_pos (by simp [named])]
  split
  · rename_i known found
    cases found.symm.trans listed
    rw [text_eq_some.mpr named, Option.bind_some, logical] at known
    cases known
    rw [each]
    simp
  · rename_i other
    exact absurd listed (other _ _ (by rw [text_eq_some.mpr named, Option.bind_some, logical]))

theorem connective_isSome : (connective operator).isSome = true ↔ operator = "and" ∨ operator = "or" := by
  unfold connective
  split <;> simp_all

/-- A group with an operator there is joins the answers of its rules. -/
theorem evaluateNode_join (named : obj.lookup "operator" = some (.text operator))
    (logical : connective operator = some joined) (listed : obj.lookup "rules" = some (.list rules)) :
    evaluateNode env (.object obj) ctx = joined.join (rules.map fun rule => evaluateNode env rule ctx) := by
  by_cases empty : rules = []
  · subst empty
    rw [evaluateNode, if_pos (by simp [named]), evaluateGroup_empty listed]
    rfl
  · have filled : (rules.map fun rule => evaluateNode env rule ctx).isEmpty = false := by simpa using empty
    rw [evaluateNode_group named listed empty]
    unfold Connective.join
    rw [filled, Bool.false_or]
    rcases connective_isSome.mp (Option.isSome_of_mem logical) with rfl | rfl
    · cases logical
      simp
    · cases logical
      simp

/-- The tree of a node that can be read. -/
def ruleTree (node : Json φ) : RuleTree (Fields φ) := (read node).getD (.constant true)

theorem read_of_isSome (readable : (read node).isSome = true) : read node = some (ruleTree node) := by
  obtain ⟨tree, found⟩ := Option.isSome_iff_exists.mp readable
  rw [ruleTree, found, Option.getD_some]

theorem WellFormed.read {node : Json φ} (formed : WellFormed node) : read node = some (ruleTree node) := by
  refine read_of_isSome ?_
  induction formed with
  | leaf plain =>
    rw [read_leaf plain]
    rfl
  | group named logical listed _ ih =>
    obtain ⟨joined, logical⟩ := Option.isSome_iff_exists.mp (connective_isSome.mpr logical)
    rw [read_group named logical listed fun rule member => read_of_isSome (ih rule member)]
    rfl

theorem ruleTree_leaf (plain : obj.lookup "operator" = none) : ruleTree (.object obj) = .leaf obj := by
  rw [ruleTree, read_leaf plain, Option.getD_some]

theorem ruleTree_group (named : obj.lookup "operator" = some (.text operator))
    (logical : connective operator = some joined) (listed : obj.lookup "rules" = some (.list rules))
    (below : ∀ rule ∈ rules, WellFormed rule) :
    ruleTree (.object obj) = .group joined (rules.map ruleTree) := by
  rw [ruleTree, read_group named logical listed fun rule member => (below rule member).read, Option.getD_some]

theorem WellFormed.evaluateNode (formed : WellFormed node) :
    evaluateNode env node ctx = (ruleTree node).holds fun obj => evaluateLeaf env obj ctx := by
  induction formed with
  | leaf plain => rw [evaluateNode_leaf plain, ruleTree_leaf plain, RuleTree.holds]
  | @group _ _ _ named logical listed below ih =>
    obtain ⟨joined, logical⟩ := Option.isSome_iff_exists.mp (connective_isSome.mpr logical)
    rw [evaluateNode_join named logical listed, ruleTree_group named logical listed below, RuleTree.holds_group,
      List.map_map]
    exact congrArg joined.join (List.map_congr_left ih)

end

/-! ## Changes of a document -/

/-- The object with other rules. Whatever else it holds stays. -/
structure Relisted (obj obj' : Fields φ) (rules rules' : List (Json φ)) : Prop where
  before : obj.lookup "rules" = some (.list rules)
  after : obj'.lookup "rules" = some (.list rules')
  rest : ∀ key, key ≠ "rules" → obj'.lookup key = obj.lookup key

/-- One change of a document: the rules of a group permuted, a nested group that holds rules
dissolved into a group with its operator, or such a change further down. -/
inductive Rearranged : Json φ → Json φ → Prop
  | permute (named : obj.lookup "operator" = some (.text operator)) (relisted : Relisted obj obj' rules rules')
      (same : rules.Perm rules') : Rearranged (.object obj) (.object obj')
  | flatten {obj obj' nested : Fields φ} {front inner back : List (Json φ)} {operator : String}
      (named : obj.lookup "operator" = some (.text operator))
      (inside : nested.lookup "operator" = some (.text operator))
      (listed : nested.lookup "rules" = some (.list inner)) (filled : inner ≠ [])
      (relisted : Relisted obj obj' (front ++ .object nested :: back) (front ++ inner ++ back)) :
      Rearranged (.object obj) (.object obj')
  | inside {obj obj' : Fields φ} {front back : List (Json φ)} {rule rule' : Json φ} {operator : String}
      (named : obj.lookup "operator" = some (.text operator))
      (relisted : Relisted obj obj' (front ++ rule :: back) (front ++ rule' :: back))
      (change : Rearranged rule rule') : Rearranged (.object obj) (.object obj')

section
variable {env : Formats φ} {ctx : MediaFilterContext φ} {obj obj' : Fields φ} {rules rules' : List (Json φ)}
  {operator : String}

theorem Relisted.named (relisted : Relisted obj obj' rules rules')
    (named : obj.lookup "operator" = some (.text operator)) : obj'.lookup "operator" = some (.text operator) := by
  rw [relisted.rest _ (by decide), named]

theorem WellFormed.parts (formed : WellFormed (.object obj))
    (named : obj.lookup "operator" = some (.text operator)) (listed : obj.lookup "rules" = some (.list rules)) :
    (operator = "and" ∨ operator = "or") ∧ ∀ rule ∈ rules, WellFormed rule := by
  cases formed with
  | leaf plain => cases plain.symm.trans named
  | group named' logical listed' below =>
    cases named.symm.trans named'
    cases listed.symm.trans listed'
    exact ⟨logical, below⟩

theorem Rearranged.wellFormed (change : Rearranged node node') (formed : WellFormed node) :
    WellFormed node' := by
  induction change with
  | permute named relisted same =>
    obtain ⟨logical, below⟩ := formed.parts named relisted.before
    exact .group (relisted.named named) logical relisted.after fun rule member => below rule (same.mem_iff.mpr member)
  | @flatten _ _ _ _ _ _ _ named inside listed _ relisted =>
    obtain ⟨logical, below⟩ := formed.parts named relisted.before
    obtain ⟨_, within⟩ := (below _ (by simp)).parts inside listed
    refine .group (relisted.named named) logical relisted.after fun rule member => ?_
    rcases List.mem_append.mp member with member | behind
    · rcases List.mem_append.mp member with ahead | held
      · exact below rule (by simp [ahead])
      · exact within rule held
    · exact below rule (by simp [behind])
  | @inside _ _ _ _ rule _ _ named relisted _ ih =>
    obtain ⟨logical, below⟩ := formed.parts named relisted.before
    refine .group (relisted.named named) logical relisted.after fun other member => ?_
    rcases List.mem_append.mp member with ahead | member
    · exact below other (by simp [ahead])
    · rcases List.mem_cons.mp member with rfl | behind
      · exact ih (below rule (by simp))
      · exact below other (by simp [behind])

theorem Rearranged.ruleTree (change : Rearranged node node') (formed : WellFormed node) :
    (ruleTree node).Rearranged (ruleTree node') := by
  have formed' := change.wellFormed formed
  induction change with
  | permute named relisted same =>
    obtain ⟨logical, below⟩ := formed.parts named relisted.before
    obtain ⟨joined, logical⟩ := Option.isSome_iff_exists.mp (connective_isSome.mpr logical)
    obtain ⟨_, below'⟩ := formed'.parts (relisted.named named) relisted.after
    rw [ruleTree_group named logical relisted.before below,
      ruleTree_group (relisted.named named) logical relisted.after below']
    exact .permute (same.map _)
  | flatten named inside listed filled relisted =>
    obtain ⟨logical, below⟩ := formed.parts named relisted.before
    obtain ⟨joined, logical⟩ := Option.isSome_iff_exists.mp (connective_isSome.mpr logical)
    obtain ⟨_, below'⟩ := formed'.parts (relisted.named named) relisted.after
    obtain ⟨_, within⟩ := (below _ (by simp)).parts inside listed
    rw [ruleTree_group named logical relisted.before below,
      ruleTree_group (relisted.named named) logical relisted.after below', List.map_append, List.map_cons,
      ruleTree_group inside logical listed within, List.map_append, List.map_append]
    exact .flatten (by simpa using filled)
  | inside named relisted _ ih =>
    obtain ⟨logical, below⟩ := formed.parts named relisted.before
    obtain ⟨joined, logical⟩ := Option.isSome_iff_exists.mp (connective_isSome.mpr logical)
    obtain ⟨_, below'⟩ := formed'.parts (relisted.named named) relisted.after
    rw [ruleTree_group named logical relisted.before below,
      ruleTree_group (relisted.named named) logical relisted.after below', List.map_append, List.map_cons,
      List.map_append, List.map_cons]
    exact .inside (ih (below _ (by simp)) (below' _ (by simp)))

/-- A change of a group is a change of the answer's tree, so the answer stays. -/
theorem Rearranged.evaluateNode (change : Rearranged node node') (formed : WellFormed node) :
    Conditions.evaluateNode env node' ctx = Conditions.evaluateNode env node ctx := by
  rw [formed.evaluateNode, (change.wellFormed formed).evaluateNode, (change.ruleTree formed).holds_eq]

end

/-! ## Documents -/

section
variable {env : Formats φ} {ctx : MediaFilterContext φ} {conditions conditions' : Json φ}

/-- What validation accepts: a fixed answer, or a tree of rules with a group at its root. -/
inductive Accepted : Json φ → Prop
  | null : Accepted .null
  | fixed (b : Bool) : Accepted (.bool b)
  | empty : Accepted (.object [])
  | tree {conditions : Json φ} (grouped : Grouped conditions) (formed : WellFormed conditions) : Accepted conditions

theorem validateStructure_ok : validateStructure conditions = .ok () ↔ Accepted conditions := by
  constructor
  · intro valid
    cases conditions with
    | null => exact .null
    | bool b => exact .fixed b
    | object obj =>
      cases obj with
      | nil => exact .empty
      | cons =>
        obtain ⟨operator, rules, named, logical, listed, below⟩ := validateGroup_ok.mp valid
        refine .tree ?_ (.group named logical listed fun rule member => validateNode_ok.mp (below rule member))
        rw [Grouped, Json.get, named]
        rfl
    | integer | fraction | text | list => cases valid
  · intro accepted
    cases accepted with
    | null | fixed | empty => rfl
    | tree grouped formed =>
      cases formed with
      | leaf plain =>
        rw [Grouped, Json.get, plain] at grouped
        cases grouped
      | @group obj operator rules named logical listed below =>
        have valid : validateGroup (.object obj) = .ok () := validateGroup_ok.mpr
          ⟨operator, rules, named, logical, listed, fun rule member => validateNode_ok.mpr (below rule member)⟩
        cases obj with
        | nil => cases named
        | cons => exact valid

theorem trace_grouped (grouped : Grouped conditions) : trace env ctx conditions = traceNode env ctx conditions := by
  unfold Grouped Json.get at grouped
  split at grouped
  · rename_i obj
    cases obj with
    | nil => cases grouped
    | cons =>
      rw [traceNode, if_pos grouped]
      rfl
  · cases grouped

theorem denotation_grouped (grouped : Grouped conditions) : denotation conditions = read conditions := by
  unfold Grouped Json.get at grouped
  split at grouped
  · rename_i obj
    cases obj with
    | nil => cases grouped
    | cons => rfl
  · cases grouped

/-- The record does not change the answer of any document. -/
theorem trace_fst : (trace env ctx conditions).1 = evaluate env conditions ctx := by
  cases conditions with
  | object obj =>
    cases obj with
    | nil => rfl
    | cons => exact traceGroup_fst fun _ _ _ _ => traceNode_fst
  | null | bool | integer | fraction | text | list => rfl

theorem Accepted.trace (accepted : Accepted conditions) :
    trace env ctx conditions = (evaluate env conditions ctx, []) := by
  refine Prod.ext trace_fst ?_
  cases accepted with
  | null | fixed | empty => rfl
  | tree grouped formed => rw [trace_grouped grouped, formed.traceNode]

theorem Accepted.denotation (accepted : Accepted conditions) : ∃ tree, denotation conditions = some tree ∧
    ∀ (env : Formats φ) ctx, evaluate env conditions ctx = tree.holds fun obj => evaluateLeaf env obj ctx := by
  cases accepted with
  | null | fixed => exact ⟨_, rfl, fun env ctx => by rw [RuleTree.holds, evaluate]⟩
  | empty => exact ⟨_, rfl, fun env ctx => by rw [RuleTree.holds_group]; rfl⟩
  | tree grouped formed =>
    refine ⟨_, (denotation_grouped grouped).trans formed.read, fun env ctx => ?_⟩
    rw [evaluate_grouped grouped, formed.evaluateNode]

theorem Rearranged.accepted (change : Rearranged conditions conditions') (accepted : Accepted conditions) :
    Accepted conditions' ∧ evaluate env conditions' ctx = evaluate env conditions ctx := by
  have grouped : Grouped conditions ∧ Grouped conditions' := by
    cases change with
    | permute named relisted | flatten named _ _ _ relisted | inside named relisted =>
      simp [Grouped, Json.get, named, relisted.named named]
  cases accepted with
  | tree _ formed =>
    refine ⟨.tree grouped.2 (change.wellFormed formed), ?_⟩
    rw [evaluate_grouped grouped.1, evaluate_grouped grouped.2, change.evaluateNode formed]
  | null | fixed | empty => cases grouped.1

end

/-- Conditions that pass validation are evaluated without a guess, as the tree they stand
for says, and any number of changes that keep the tree's meaning keeps their answer. -/
theorem validated_conditions_denote (env : Formats φ) (conditions : Json φ) (ctx : MediaFilterContext φ)
    (valid : validateStructure conditions = .ok ()) :
    trace env ctx conditions = (evaluate env conditions ctx, []) ∧
      (∃ tree, denotation conditions = some tree ∧
        evaluate env conditions ctx = tree.holds fun obj => evaluateLeaf env obj ctx) ∧
      ∀ conditions', Relation.ReflTransGen Rearranged conditions conditions' →
        validateStructure conditions' = .ok () ∧ evaluate env conditions' ctx = evaluate env conditions ctx := by
  have accepted := validateStructure_ok.mp valid
  obtain ⟨tree, reads, holds⟩ := accepted.denotation
  refine ⟨accepted.trace, ⟨tree, reads, holds env ctx⟩, fun conditions' changes => ?_⟩
  induction changes with
  | refl => exact ⟨valid, rfl⟩
  | tail _ change ih =>
    obtain ⟨valid', same⟩ := ih
    obtain ⟨accepted', kept⟩ := change.accepted (validateStructure_ok.mp valid')
    exact ⟨validateStructure_ok.mpr accepted', kept.trans same⟩

namespace Sample

def all (rules : List (Json Rat)) : Json Rat := .object [("operator", .text "and"), ("rules", .list rules)]

def nested : Json Rat := all [all [.object differs, .object absent], .object mistyped]

def flat : Json Rat := all [.object absent, .object mistyped, .object differs]

theorem differs_formed : WellFormed (.object differs) :=
  .leaf rfl ⟨rfl, "neq", rfl, by decide, rfl⟩

theorem absent_formed : WellFormed (.object absent) :=
  .leaf rfl ⟨rfl, "exists", rfl, by decide, rfl⟩

theorem mistyped_formed : WellFormed (.object mistyped) :=
  .leaf rfl ⟨rfl, "neq", rfl, by decide, rfl⟩

theorem all_formed (below : ∀ rule ∈ rules, WellFormed rule) : WellFormed (all rules) :=
  .group rfl (.inl rfl) rfl below

theorem nested_valid : validateStructure nested = .ok () := by
  refine validateStructure_ok.mpr (.tree rfl (all_formed fun rule member => ?_))
  rcases List.mem_pair.mp member with rfl | rfl
  · refine all_formed fun rule member => ?_
    rcases List.mem_pair.mp member with rfl | rfl
    · exact differs_formed
    · exact absent_formed
  · exact mistyped_formed

theorem relisted (rules rules' : List (Json Rat)) :
    Relisted [("operator", .text "and"), ("rules", .list rules)] [("operator", .text "and"), ("rules", .list rules')]
      rules rules' :=
  ⟨rfl, rfl, fun key other => by simp [List.lookup_cons, beq_false_of_ne other]⟩

/-- The inner group is dissolved and its first rule goes last. -/
theorem nested_flat : Relation.ReflTransGen Rearranged nested flat := by
  have dissolved : Rearranged nested (all ([] ++ [.object differs, .object absent] ++ [.object mistyped])) :=
    .flatten rfl rfl rfl (List.cons_ne_nil _ _)
      (relisted ([] ++ all [.object differs, .object absent] :: [.object mistyped]) _)
  have last : Rearranged (all ([.object differs] ++ [.object absent, .object mistyped])) flat :=
    .permute rfl (relisted _ _) List.perm_append_comm
  exact .head dissolved (.single last)

end Sample

theorem nested_condition_flattens : validateStructure Sample.flat = .ok () ∧
    evaluate Sample.formats Sample.flat Sample.context = evaluate Sample.formats Sample.nested Sample.context :=
  (validated_conditions_denote Sample.formats Sample.nested Sample.context Sample.nested_valid).2.2 _
    Sample.nested_flat

end Duskcue.Conditions
