import Mathlib.Algebra.Order.Ring.Nat
import Mathlib.Data.List.Infix

/-! Regular expressions as a backtracking search matches them: the leftmost match, of the matches
there the first in the order of the alternatives, and repetitions as long as they can be.
A text is a list of characters, and `κ` the keys of the groups. -/
namespace Duskcue

inductive Regex (κ : Type)
  | empty
  | one (accepts : Char → Bool)
  | start
  | finish
  | seq (first second : Regex κ)
  | alt (first second : Regex κ)
  | many (accepts : Char → Bool) (least : Nat) (most : Option Nat)
  | group (key : κ) (body : Regex κ)

namespace Regex

variable {κ : Type}

/-- What an expression has come to: the text that is left, and the texts of its groups. -/
abbrev Walk (κ : Type) := List Char × List (κ × List Char)

/-- The ways of an expression through the beginning of a text, the preferred ones first. The text is the
end of one that has `total` characters. -/
def walk (total : Nat) : Regex κ → List Char → List (Walk κ)
  | empty, rest => [(rest, [])]
  | one accepts, rest =>
    match rest with
    | [] => []
    | c :: after => if accepts c then [(after, [])] else []
  | start, rest => if rest.length = total then [(rest, [])] else []
  | finish, rest => if rest = [] then [(rest, [])] else []
  | seq first second, rest =>
    (first.walk total rest).flatMap fun x => (second.walk total x.1).map fun y => (y.1, x.2 ++ y.2)
  | alt first second, rest => first.walk total rest ++ second.walk total rest
  | many accepts least most, rest =>
    let longest := (rest.takeWhile accepts).length
    let bound := most.elim longest (min longest)
    (List.range (bound + 1 - least)).reverse.map fun n => (rest.drop (least + n), [])
  | group key body, rest =>
    (body.walk total rest).map fun x => (x.1, (key, rest.take (rest.length - x.1.length)) :: x.2)

/-- A match: what is before it, what it matched, what is behind it, and its groups. -/
structure Match (κ : Type) where
  before : List Char
  matched : List Char
  after : List Char
  groups : List (κ × List Char)

/-- The leftmost match in the end of a text. -/
def searchFrom (total : Nat) (r : Regex κ) (before : List Char) : List Char → Option (Match κ)
  | [] =>
    match r.walk total [] with
    | (after, groups) :: _ => some ⟨before, [], after, groups⟩
    | [] => none
  | c :: rest =>
    match r.walk total (c :: rest) with
    | (after, groups) :: _ => some ⟨before, (c :: rest).take ((c :: rest).length - after.length), after, groups⟩
    | [] => searchFrom total r (before ++ [c]) rest

/-- `Regex::find`. -/
def search (r : Regex κ) (text : List Char) : Option (Match κ) := r.searchFrom text.length [] text

/-- `Regex::captures`, with the text of each group that took part. -/
def captures [BEq κ] (r : Regex κ) (text : List Char) : Option (κ → Option (List Char)) :=
  (r.search text).map fun found key => found.groups.lookup key

/-- `Regex::is_match`. -/
def isMatch (r : Regex κ) (text : List Char) : Bool := (r.search text).isSome

/-- `Regex::replace`: of the first match only. -/
def replace (r : Regex κ) (replacement text : List Char) : List Char :=
  match r.search text with
  | some found => found.before ++ replacement ++ found.after
  | none => text

/-- The matches in the end of a text, each behind the one before. -/
def searchAll (total : Nat) (r : Regex κ) : Nat → List Char → List (Match κ)
  | 0, _ => []
  | fuel + 1, rest =>
    match r.searchFrom total [] rest with
    | some found => found :: searchAll total r fuel found.after
    | none => []

/-- `Regex::captures_iter`, of an expression that matches no empty text. -/
def capturesIter [BEq κ] (r : Regex κ) (text : List Char) : List (κ → Option (List Char)) :=
  (r.searchAll text.length text.length text).map fun found key => found.groups.lookup key

/-- What a compiled expression is used for. A replacement is taken as it stands. -/
structure Compiled (κ : Type) where
  isMatch : List Char → Bool
  captures : List Char → Option (κ → Option (List Char))
  capturesIter : List Char → List (κ → Option (List Char))
  replace : List Char → List Char → List Char

/-- An expression, compiled. -/
def compiled [BEq κ] (r : Regex κ) : Compiled κ where
  isMatch := r.isMatch
  captures := r.captures
  capturesIter := r.capturesIter
  replace text replacement := r.replace replacement text

/-- A text as it stands. -/
def lit : List Char → Regex κ
  | [] => empty
  | c :: text => seq (one (· == c)) (lit text)

/-- `r?`. -/
def opt (r : Regex κ) : Regex κ := alt r empty

/-! ## Ways -/

variable {total : Nat} {r first second : Regex κ} {rest after middle : List Char} {groups more : List (κ × List Char)}
  {accepts : Char → Bool} {least : Nat} {most : Option Nat} {key : κ}

@[simp] theorem walk_empty : (empty : Regex κ).walk total rest = [(rest, [])] := rfl

theorem mem_one : (after, groups) ∈ (one accepts).walk total rest ↔
    groups = [] ∧ ∃ c, rest = c :: after ∧ accepts c = true := by
  unfold walk
  cases rest with
  | nil => simp
  | cons c =>
    dsimp only
    split
    · simp only [List.mem_singleton, Prod.mk.injEq, List.cons.injEq]
      constructor
      · rintro ⟨rfl, rfl⟩
        exact ⟨rfl, c, ⟨rfl, rfl⟩, by assumption⟩
      · rintro ⟨rfl, d, ⟨rfl, rfl⟩, -⟩
        exact ⟨rfl, rfl⟩
    · simp only [List.not_mem_nil, List.cons.injEq, false_iff, not_and, not_exists]
      rintro - d ⟨rfl, -⟩
      assumption

theorem mem_seq : (after, groups) ∈ (seq first second).walk total rest ↔
    ∃ middle before more, (middle, before) ∈ first.walk total rest ∧ (after, more) ∈ second.walk total middle ∧
      groups = before ++ more := by
  simp only [walk, List.mem_flatMap, List.mem_map, Prod.mk.injEq, Prod.exists]
  constructor
  · rintro ⟨middle, before, there, left, more, then', rfl, rfl⟩
    exact ⟨middle, before, more, there, then', rfl⟩
  · rintro ⟨middle, before, more, there, then', rfl⟩
    exact ⟨middle, before, there, after, more, then', rfl, rfl⟩

theorem mem_alt : (after, groups) ∈ (alt first second).walk total rest ↔
    (after, groups) ∈ first.walk total rest ∨ (after, groups) ∈ second.walk total rest := List.mem_append

theorem mem_many : (after, groups) ∈ (many accepts least most : Regex κ).walk total rest ↔
    groups = [] ∧ ∃ run, rest = run ++ after ∧ (∀ c ∈ run, accepts c = true) ∧ least ≤ run.length ∧
      ∀ m ∈ most, run.length ≤ m := by
  simp only [walk, List.mem_map, List.mem_reverse, List.mem_range, Prod.mk.injEq]
  have bounded (n : Nat) : n ≤ most.elim (rest.takeWhile accepts).length (min (rest.takeWhile accepts).length) ↔
      n ≤ (rest.takeWhile accepts).length ∧ ∀ m ∈ most, n ≤ m := by
    cases most <;> simp
  constructor
  · rintro ⟨n, few, rfl, rfl⟩
    obtain ⟨within, below⟩ := (bounded (least + n)).mp (by omega)
    have start : rest.take (least + n) <+: rest.takeWhile accepts :=
      List.prefix_of_prefix_length_le (List.take_prefix ..) (List.takeWhile_prefix _)
        ((List.length_take_le ..).trans within)
    have long : (rest.take (least + n)).length = least + n :=
      List.length_take_of_le (within.trans (List.takeWhile_prefix _).length_le)
    refine ⟨rfl, rest.take (least + n), (List.take_append_drop ..).symm, fun c member => ?_, by omega, ?_⟩
    · exact List.all_eq_true.mp (List.all_takeWhile ..) c (start.subset member)
    · rwa [long]
  · rintro ⟨rfl, run, rfl, all, enough, few⟩
    have within : run.length ≤ ((run ++ after).takeWhile accepts).length := by
      rw [List.takeWhile_append_of_pos all, List.length_append]
      omega
    have below := (bounded run.length).mpr ⟨within, few⟩
    refine ⟨run.length - least, by omega, ?_, rfl⟩
    rw [Nat.add_sub_cancel' enough, List.drop_left]

theorem suffix_of_mem (led : (after, groups) ∈ r.walk total rest) : after <:+ rest := by
  induction r generalizing rest after groups with
  | empty => exact (Prod.mk.inj (List.mem_singleton.mp led)).1 ▸ List.suffix_refl _
  | one =>
    obtain ⟨-, c, rfl, -⟩ := mem_one.mp led
    exact List.suffix_cons ..
  | start | finish =>
    unfold walk at led
    split at led
    · exact (Prod.mk.inj (List.mem_singleton.mp led)).1 ▸ List.suffix_refl _
    · cases led
  | seq _ _ ih ih' =>
    obtain ⟨middle, before, more, there, then', -⟩ := mem_seq.mp led
    exact (ih' then').trans (ih there)
  | alt _ _ ih ih' => exact (mem_alt.mp led).elim ih ih'
  | many =>
    obtain ⟨-, run, rfl, -⟩ := mem_many.mp led
    exact List.suffix_append ..
  | group _ _ ih =>
    obtain ⟨way, there, same⟩ := List.mem_map.mp led
    exact (Prod.mk.inj same).1 ▸ ih there

theorem mem_group : (after, groups) ∈ (group key r).walk total rest ↔
    ∃ more text, (after, more) ∈ r.walk total rest ∧ rest = text ++ after ∧ groups = (key, text) :: more := by
  simp only [walk, List.mem_map, Prod.mk.injEq, Prod.exists]
  constructor
  · rintro ⟨left, more, led, rfl, rfl⟩
    obtain ⟨text, rfl⟩ := suffix_of_mem led
    exact ⟨more, text, led, rfl, by simp⟩
  · rintro ⟨more, text, led, rfl, rfl⟩
    exact ⟨after, more, led, rfl, by simp⟩

theorem mem_group_many : (after, groups) ∈ (group key (many accepts least most)).walk total rest ↔
    ∃ text, groups = [(key, text)] ∧ rest = text ++ after ∧ (∀ c ∈ text, accepts c = true) ∧ least ≤ text.length ∧
      ∀ m ∈ most, text.length ≤ m := by
  rw [mem_group]
  simp only [mem_many]
  constructor
  · rintro ⟨more, text, ⟨rfl, run, same, all, enough, few⟩, rfl, rfl⟩
    obtain rfl := List.append_cancel_right same
    exact ⟨text, rfl, rfl, all, enough, few⟩
  · rintro ⟨text, rfl, rfl, all, enough, few⟩
    exact ⟨[], text, ⟨rfl, text, rfl, all, enough, few⟩, rfl, rfl⟩

/-- A character that may be left out. -/
theorem mem_opt_one : (after, groups) ∈ (opt (one accepts)).walk total rest ↔
    groups = [] ∧ ∃ mark, rest = mark ++ after ∧ mark.length ≤ 1 ∧ ∀ c ∈ mark, accepts c = true := by
  unfold opt
  rw [mem_alt, mem_one, walk_empty, List.mem_singleton, Prod.mk.injEq]
  constructor
  · rintro (⟨rfl, c, rfl, accepted⟩ | ⟨rfl, rfl⟩)
    · exact ⟨rfl, [c], rfl, le_rfl, by simpa using accepted⟩
    · exact ⟨rfl, [], rfl, Nat.zero_le _, by simp⟩
  · rintro ⟨rfl, mark, rfl, few, all⟩
    match mark with
    | [] => exact .inr ⟨rfl, rfl⟩
    | [c] => exact .inl ⟨rfl, c, rfl, all c (by simp)⟩
    | _ :: _ :: _ => simp at few

theorem mem_lit : (after, groups) ∈ (lit text : Regex κ).walk total rest ↔
    groups = [] ∧ rest = text ++ after := by
  induction text generalizing rest groups with
  | nil => simp [lit, eq_comm, and_comm]
  | cons c text ih =>
    rw [lit, mem_seq]
    simp only [mem_one, ih, beq_iff_eq]
    constructor
    · rintro ⟨middle, before, more, ⟨rfl, d, rfl, rfl⟩, ⟨rfl, rfl⟩, rfl⟩
      exact ⟨rfl, rfl⟩
    · rintro ⟨rfl, rfl⟩
      exact ⟨text ++ after, [], [], ⟨rfl, c, rfl, rfl⟩, ⟨rfl, rfl⟩, rfl⟩

/-! ## The preferred way -/

/-- The preferred way of an expression. -/
def Best (total : Nat) (r : Regex κ) (rest : List Char) (way : Walk κ) : Prop :=
  (r.walk total rest).head? = some way

theorem Best.mem (best : Best total r rest way) : way ∈ r.walk total rest :=
  List.mem_of_head? best

theorem best_empty : Best total (empty : Regex κ) rest (rest, []) := rfl

theorem best_one {c : Char} (accepted : accepts c = true) : Best total (one accepts : Regex κ) (c :: rest) (rest, []) := by
  unfold Best walk
  simp [accepted]

theorem Best.seq (there : Best total first rest (middle, groups)) (then' : Best total second middle (after, more)) :
    Best total (seq first second) rest (after, groups ++ more) := by
  obtain ⟨others, ways⟩ := List.head?_eq_some_iff.mp there
  obtain ⟨rests, behind⟩ := List.head?_eq_some_iff.mp then'
  unfold Best walk
  rw [ways, List.flatMap_cons, behind]
  rfl

theorem Best.left {way : Walk κ} (best : Best total first rest way) : Best total (alt first second) rest way := by
  unfold Best walk
  rw [List.head?_append, best]
  rfl

theorem Best.right (fails : first.walk total rest = []) (best : Best total second rest way) :
    Best total (alt first second) rest way := by
  unfold Best walk
  rwa [fails, List.nil_append]

theorem Best.opt (best : Best total r rest way) : Best total (opt r) rest way := best.left

theorem best_opt_empty (fails : r.walk total rest = []) : Best total (opt r) rest (rest, []) :=
  Best.right fails best_empty

theorem Best.group {text : List Char} (best : Best total r (text ++ after) (after, groups)) :
    Best total (group key r) (text ++ after) (after, (key, text) :: groups) := by
  obtain ⟨others, ways⟩ := List.head?_eq_some_iff.mp best
  unfold Best walk
  rw [ways]
  simp

/-- A repetition goes as far as it can. -/
theorem best_longest (enough : least ≤ most.elim (rest.takeWhile accepts).length (min (rest.takeWhile accepts).length)) :
    Best total (many accepts least most : Regex κ) rest
      (rest.drop (most.elim (rest.takeWhile accepts).length (min (rest.takeWhile accepts).length)), []) := by
  unfold Best walk
  dsimp only
  generalize most.elim (rest.takeWhile accepts).length (min (rest.takeWhile accepts).length) = bound at enough ⊢
  rw [List.head?_map, List.head?_reverse, show bound + 1 - least = (bound - least) + 1 by omega, List.getLast?_range]
  simp [Nat.add_sub_cancel' enough]

theorem best_many {run : List Char} (all : ∀ c ∈ run, accepts c = true) (enough : least ≤ run.length)
    (few : ∀ m ∈ most, run.length ≤ m) (full : (∃ m ∈ most, run.length = m) ∨ ∀ c ∈ after.head?, accepts c = false) :
    Best total (many accepts least most : Regex κ) (run ++ after) (after, []) := by
  have bound : most.elim ((run ++ after).takeWhile accepts).length (min ((run ++ after).takeWhile accepts).length) =
      run.length := by
    rw [List.takeWhile_append_of_pos all, List.length_append]
    rcases full with ⟨m, rfl, same⟩ | stops
    · simp only [Option.elim]
      omega
    · have stopped : after.takeWhile accepts = [] := by
        cases after with
        | nil => rfl
        | cons c => rw [List.takeWhile_cons, if_neg (by simp [stops c rfl])]
      rw [stopped, List.length_nil, Nat.add_zero]
      cases most with
      | none => rfl
      | some m => exact Nat.min_eq_left (few m rfl)
  have best := @best_longest κ total (run ++ after) accepts least most (enough.trans_eq bound.symm)
  rwa [bound, List.drop_left] at best

/-- A bounded repetition takes the first of the characters it accepts. -/
theorem best_take {bound : Nat} (enough : least ≤ ((rest.takeWhile accepts).take bound).length) :
    Best total (many accepts least (some bound) : Regex κ) rest
      (rest.drop ((rest.takeWhile accepts).take bound).length, []) := by
  rw [List.length_take, Nat.min_comm] at enough ⊢
  exact best_longest enough

theorem best_lit (text : List Char) : Best total (lit text : Regex κ) (text ++ after) (after, []) := by
  induction text with
  | nil => exact best_empty
  | cons c _ ih => exact Best.seq (best_one (beq_self_eq_true c)) ih

theorem walk_eq_nil (fails : ∀ after groups, (after, groups) ∉ r.walk total rest) : r.walk total rest = [] :=
  List.eq_nil_iff_forall_not_mem.mpr fun way => fails way.1 way.2

/-! ## The leftmost match -/

theorem searchFrom_skip {before skipped rest : List Char}
    (fails : ∀ u v, skipped = u ++ v → v ≠ [] → r.walk total (v ++ rest) = []) :
    r.searchFrom total before (skipped ++ rest) = r.searchFrom total (before ++ skipped) rest := by
  induction skipped generalizing before with
  | nil => simp
  | cons c skipped ih =>
    have here : r.walk total (c :: (skipped ++ rest)) = [] := fails [] _ rfl (List.cons_ne_nil _ _)
    rw [List.cons_append, searchFrom, here]
    show searchFrom total r (before ++ [c]) (skipped ++ rest) = _
    rw [ih fun u v same filled => fails (c :: u) v (by rw [same, List.cons_append]) filled, List.append_assoc,
      List.singleton_append]

theorem searchFrom_here (best : Best total r (text ++ after) (after, groups)) :
    r.searchFrom total before (text ++ after) = some ⟨before, text, after, groups⟩ := by
  obtain ⟨others, ways⟩ := List.head?_eq_some_iff.mp best
  generalize whole : text ++ after = rest at ways
  cases rest with
  | nil =>
    obtain ⟨rfl, rfl⟩ := List.append_eq_nil_iff.mp whole
    rw [searchFrom, ways]
  | cons =>
    rw [searchFrom, ways, ← whole]
    simp

/-- The match is where an expression first has a way, and the preferred way there. -/
theorem search_eq_some {before text : List Char}
    (fails : ∀ u v, before = u ++ v → v ≠ [] → r.walk (before ++ (text ++ after)).length (v ++ (text ++ after)) = [])
    (best : Best (before ++ (text ++ after)).length r (text ++ after) (after, groups)) :
    r.search (before ++ (text ++ after)) = some ⟨before, text, after, groups⟩ := by
  unfold search
  rw [searchFrom_skip fails, searchFrom_here best, List.nil_append]

theorem search_eq_none (fails : ∀ u v, text = u ++ v → r.walk text.length v = []) : r.search text = none := by
  have skip := @searchFrom_skip κ text.length r [] text [] fun u v same _ => by
    rw [List.append_nil]
    exact fails u v same
  unfold search
  rw [List.append_nil] at skip
  rw [skip, searchFrom, fails text [] (List.append_nil _).symm]

theorem mem_start : (after, groups) ∈ (start : Regex κ).walk total rest ↔
    rest.length = total ∧ after = rest ∧ groups = [] := by
  unfold walk
  split <;> simp [*]

theorem mem_finish : (after, groups) ∈ (finish : Regex κ).walk total rest ↔ rest = [] ∧ after = [] ∧ groups = [] := by
  unfold walk
  split <;> simp_all

/-- An anchored expression matches at the beginning. -/
theorem search_start_eq_some (best : Best (text ++ after).length r (text ++ after) (after, groups)) :
    (seq start r).search (text ++ after) = some ⟨[], text, after, groups⟩ := by
  have here : Best (text ++ after).length (start : Regex κ) (text ++ after) (text ++ after, []) := by
    unfold Best walk
    rw [if_pos rfl]
    rfl
  have match' := @search_eq_some κ (seq start r) after groups [] text
    (fun u v same filled => absurd (List.append_eq_nil_iff.mp same.symm).2 filled) (here.seq best)
  exact match'

/-- An anchored expression matches nowhere but at the beginning. -/
theorem search_start_eq_none {text : List Char} (fails : r.walk text.length text = []) :
    (seq start r).search text = none := by
  refine search_eq_none fun u v same => walk_eq_nil fun after groups led => ?_
  obtain ⟨middle, _, more, began, there, -⟩ := mem_seq.mp led
  obtain ⟨whole, rfl, -⟩ := mem_start.mp began
  have front : u = [] := by
    rw [same, List.length_append] at whole
    exact List.length_eq_zero_iff.mp (by omega)
  rw [front, List.nil_append] at same
  rw [← same, fails] at there
  cases there

/-- Where every way needs a character, a text without it has no match. -/
theorem search_absent (absent : c ∉ text)
    (needs : ∀ {total rest after groups}, (after, groups) ∈ r.walk total rest → c ∈ rest) : r.search text = none :=
  search_eq_none fun u v same => walk_eq_nil fun after groups led => absent (by
    rw [same]
    exact List.mem_append_right u (needs led))

theorem captures_eq_none [BEq κ] (none' : r.search text = none) : r.captures text = none := by
  unfold captures
  rw [none']
  rfl

theorem replace_eq_self (none' : r.search text = none) (replacement : List Char) :
    r.replace replacement text = text := by
  unfold replace
  rw [none']

theorem replace_eq (match' : r.search text = some found) (replacement : List Char) :
    r.replace replacement text = found.before ++ replacement ++ found.after := by
  unfold replace
  rw [match']

theorem captures_eq_some [BEq κ] (match' : r.search text = some found) :
    r.captures text = some fun key => found.groups.lookup key := by
  unfold captures
  rw [match']
  rfl

theorem searchFrom_sound (result : r.searchFrom total before rest = some found) :
    ∃ skipped text, rest = skipped ++ text ∧ found.before = before ++ skipped ∧
      (found.after, found.groups) ∈ r.walk total text := by
  induction rest generalizing before with
  | nil =>
    unfold searchFrom at result
    split at result
    · rename_i after groups others ways
      cases result
      exact ⟨[], [], rfl, (List.append_nil before).symm, ways ▸ List.mem_cons_self⟩
    · cases result
  | cons c rest ih =>
    unfold searchFrom at result
    split at result
    · rename_i after groups others ways
      cases result
      exact ⟨[], c :: rest, rfl, (List.append_nil before).symm, ways ▸ List.mem_cons_self⟩
    · obtain ⟨skipped, text, rfl, front, led⟩ := ih result
      exact ⟨c :: skipped, text, rfl, by rw [front, List.append_assoc, List.singleton_append], led⟩

theorem replace_subset (r : Regex κ) (replacement text : List Char) :
    r.replace replacement text ⊆ replacement ++ text := by
  unfold replace
  split
  · rename_i found result
    obtain ⟨skipped, rest, rfl, front, led⟩ := searchFrom_sound result
    rw [List.nil_append] at front
    intro c member
    rw [front, List.mem_append, List.mem_append] at member
    rcases member with (first | new) | later
    · exact List.mem_append_right _ (List.mem_append_left _ first)
    · exact List.mem_append_left _ new
    · exact List.mem_append_right _ (List.mem_append_right _ ((suffix_of_mem led).subset later))
  · exact List.subset_append_right _ _

/-- Each match of an iteration is a way from somewhere in the text. -/
theorem searchAll_sound (member : found ∈ r.searchAll total fuel rest) :
    ∃ text, text <:+ rest ∧ (found.after, found.groups) ∈ r.walk total text := by
  induction fuel generalizing rest with
  | zero => cases member
  | succ fuel ih =>
    unfold searchAll at member
    split at member
    · rename_i first result
      obtain ⟨skipped, text, rfl, -, led⟩ := searchFrom_sound result
      have ends : text <:+ skipped ++ text := List.suffix_append _ _
      rcases List.mem_cons.mp member with rfl | later
      · exact ⟨text, ends, led⟩
      · obtain ⟨text', ends', led'⟩ := ih later
        exact ⟨text', ends'.trans ((suffix_of_mem led).trans ends), led'⟩
    · cases member

theorem mem_capturesIter [BEq κ]
    (member : caps ∈ r.capturesIter text) : ∃ rest after groups, rest <:+ text ∧ (after, groups) ∈ r.walk text.length rest ∧
      caps = fun key => groups.lookup key := by
  obtain ⟨found, within, rfl⟩ := List.mem_map.mp member
  obtain ⟨rest, ends, led⟩ := searchAll_sound within
  exact ⟨rest, found.after, found.groups, ends, led, rfl⟩

end Regex
end Duskcue
