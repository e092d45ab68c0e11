import Mathlib.Data.List.Basic

/-! Trees of tests joined by `all` and `any`, and the changes of a tree that keep what it
says. Nothing here is about a particular document. -/
namespace Duskcue

/-- How the rules of a group are joined. -/
inductive Connective
  | all | any

inductive RuleTree (L : Type)
  | constant (value : Bool)
  | leaf (test : L)
  | group (connective : Connective) (rules : List (RuleTree L))

namespace Connective

/-- A group without rules holds, whatever joins them. -/
def join (connective : Connective) (outcomes : List Bool) : Bool :=
  outcomes.isEmpty || match connective with
    | all => outcomes.all id
    | any => outcomes.any id

variable {c : Connective} {front back inner outcomes outcomes' : List Bool} {b : Bool}

theorem join_perm (same : outcomes.Perm outcomes') : c.join outcomes = c.join outcomes' := by
  have empty : outcomes.isEmpty = outcomes'.isEmpty := by
    rw [Bool.eq_iff_iff, List.isEmpty_iff_length_eq_zero, List.isEmpty_iff_length_eq_zero, same.length_eq]
  have every : outcomes.all id = outcomes'.all id := by
    rw [Bool.eq_iff_iff, List.all_eq_true, List.all_eq_true]
    exact forall_congr' fun b => by rw [same.mem_iff]
  have some : outcomes.any id = outcomes'.any id := by
    rw [Bool.eq_iff_iff, List.any_eq_true, List.any_eq_true]
    exact exists_congr fun b => by rw [same.mem_iff]
  unfold join
  cases c <;> simp only [empty, every, some]

/-- A group that holds rules says what its rules say in its place. -/
theorem join_flatten (filled : inner ≠ []) :
    c.join (front ++ c.join inner :: back) = c.join (front ++ inner ++ back) := by
  obtain ⟨b, rest, rfl⟩ := List.exists_cons_of_ne_nil filled
  have shown : ∀ outcomes : List Bool, outcomes ≠ [] → c.join outcomes =
      match c with
      | all => outcomes.all id
      | any => outcomes.any id := by
    intro outcomes filled
    unfold join
    rw [List.isEmpty_eq_false_iff.mpr filled, Bool.false_or]
  rw [shown _ filled, shown _ (by simp), shown _ (by simp)]
  cases c <;> simp [Bool.and_assoc, Bool.or_assoc]

end Connective

namespace RuleTree
variable {L : Type} {outcome : L → Bool}

/-- What a tree says once every test has its outcome. -/
def holds (outcome : L → Bool) : RuleTree L → Bool
  | constant value => value
  | leaf test => outcome test
  | group connective rules => connective.join (rules.map (holds outcome))

theorem holds_group : (group c rules).holds outcome = c.join (rules.map (holds outcome)) := by
  rw [holds]

/-- One change of a tree: the rules of a group in another order, a nested group that holds
rules dissolved into a group joined the same way, or such a change further down. -/
inductive Rearranged : RuleTree L → RuleTree L → Prop
  | permute (same : rules.Perm rules') :
      Rearranged (group c rules) (group c rules')
  | flatten {c : Connective} {front inner back : List (RuleTree L)} (filled : inner ≠ []) :
      Rearranged (group c (front ++ group c inner :: back)) (group c (front ++ inner ++ back))
  | inside {c : Connective} {front back : List (RuleTree L)} {rule rule' : RuleTree L}
      (change : Rearranged rule rule') :
      Rearranged (group c (front ++ rule :: back)) (group c (front ++ rule' :: back))

theorem Rearranged.holds_eq (change : Rearranged tree tree') : tree.holds outcome = tree'.holds outcome := by
  induction change with
  | permute same =>
    rw [holds_group, holds_group]
    exact Connective.join_perm (same.map _)
  | flatten filled =>
    simp only [holds_group, List.map_append, List.map_cons]
    exact Connective.join_flatten (by simpa using filled)
  | inside _ ih => simp only [holds_group, List.map_append, List.map_cons, ih]

end RuleTree

end Duskcue
