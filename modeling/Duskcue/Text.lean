import Mathlib.Algebra.Order.Ring.Nat
import Mathlib.Data.Bool.AllAny
import Mathlib.Data.List.DropRight
import Mathlib.Data.List.Infix

/-! Texts as lists of characters, with the operations of Rust's `str` on them. A
character that does not occur in a pattern keeps the two sides of it apart under
`replace`. -/
namespace Duskcue.Text

instance decidableMem (text : List Char) (texts : List (List Char)) : Decidable (text ∈ texts) := inferInstance

/-- `char::is_whitespace`: the Unicode property White_Space. -/
def isWhitespace (c : Char) : Bool :=
  let n := c.toNat
  (9 ≤ n && n ≤ 13) || n = 32 || n = 0x85 || n = 0xA0 || n = 0x1680 || (0x2000 ≤ n && n ≤ 0x200A) ||
    n = 0x2028 || n = 0x2029 || n = 0x202F || n = 0x205F || n = 0x3000

/-- `str::trim_end`. -/
def trimEnd (text : List Char) : List Char := text.rdropWhile isWhitespace

/-- `str::trim`. -/
def trim (text : List Char) : List Char := trimEnd (text.dropWhile isWhitespace)

/-- `str::len`, in bytes. -/
def byteLength (text : List Char) : Nat := (text.map Char.utf8Size).sum

/-- `str::strip_prefix`. -/
def stripPrefix (head text : List Char) : Option (List Char) :=
  if head <+: text then some (text.drop head.length) else none

/-- `str::strip_suffix`. -/
def stripSuffix (last text : List Char) : Option (List Char) :=
  if last <:+ text then some (text.take (text.length - last.length)) else none

/-- `str::split_once`, at the first occurrence. -/
def splitOnce (pattern : List Char) : List Char → Option (List Char × List Char)
  | [] => if pattern = [] then some ([], []) else none
  | c :: rest =>
    if pattern <+: c :: rest then some ([], (c :: rest).drop pattern.length)
    else (splitOnce pattern rest).map fun parts => (c :: parts.1, parts.2)

/-- The line ending that `lines` takes off behind a line feed. -/
def chomp (line : List Char) : List Char := (stripSuffix ['\r'] line).getD line

/-- `str::lines`. -/
def lines (text : List Char) : List (List Char) :=
  let pieces := text.splitOn '\n'
  pieces.dropLast.map chomp ++ (pieces.getLast?.filter fun piece => !piece.isEmpty).toList

/-- The characters still to be skipped belong to the last match. -/
def replaceFrom (pattern replacement : List Char) : Nat → List Char → List Char
  | _, [] => []
  | skip + 1, _ :: rest => replaceFrom pattern replacement skip rest
  | 0, c :: rest =>
    if pattern <+: c :: rest then replacement ++ replaceFrom pattern replacement (pattern.length - 1) rest
    else c :: replaceFrom pattern replacement 0 rest

/-- `str::replace` of a pattern that is not empty. -/
def replace (pattern replacement text : List Char) : List Char := replaceFrom pattern replacement 0 text

/-! ## Prefixes, suffixes and the first occurrence -/

variable {head last pattern text rest a b : List Char} {c : Char}

theorem stripPrefix_eq_some : stripPrefix head text = some rest ↔ text = head ++ rest := by
  unfold stripPrefix
  constructor
  · intro stripped
    split at stripped
    · rename_i starts
      obtain ⟨tail, rfl⟩ := starts
      cases stripped
      simp
    · cases stripped
  · rintro rfl
    simp

theorem stripSuffix_eq_some : stripSuffix last text = some rest ↔ text = rest ++ last := by
  unfold stripSuffix
  constructor
  · intro stripped
    split at stripped
    · rename_i ends
      obtain ⟨front, rfl⟩ := ends
      cases stripped
      simp
    · cases stripped
  · rintro rfl
    simp

theorem splitOnce_eq_some (nonempty : pattern ≠ []) (split : splitOnce pattern text = some (a, b)) :
    text = a ++ pattern ++ b ∧ ¬ pattern <:+: a := by
  induction text generalizing a b with
  | nil => simp [splitOnce, nonempty] at split
  | cons c text ih =>
    unfold splitOnce at split
    split at split
    · rename_i starts
      cases split
      refine ⟨?_, by simpa using nonempty⟩
      simpa using (List.prefix_iff_eq_append.mp starts).symm
    · rename_i other
      obtain ⟨⟨front, back⟩, found, same⟩ := Option.map_eq_some_iff.mp split
      cases same
      obtain ⟨shape, first⟩ := ih found
      refine ⟨by simp [shape], ?_⟩
      rw [List.infix_cons_iff]
      rintro (starts | within)
      · apply other
        rw [shape]
        refine starts.trans ⟨pattern ++ back, ?_⟩
        simp
      · exact first within

theorem splitOnce_isSome (within : pattern <:+: text) : ∃ a b, splitOnce pattern text = some (a, b) := by
  induction text with
  | nil =>
    have empty : pattern = [] := List.infix_nil.mp within
    exact ⟨[], [], by simp [splitOnce, empty]⟩
  | cons c text ih =>
    unfold splitOnce
    split
    · exact ⟨_, _, rfl⟩
    · rename_i other
      rcases List.infix_cons_iff.mp within with starts | within
      · exact (other starts).elim
      · obtain ⟨front, back, found⟩ := ih within
        exact ⟨c :: front, back, by rw [found]; rfl⟩

/-- Two texts that go on after the first occurrence of a character agree up to it. -/
theorem before_eq (first : c ∉ a) (first' : c ∉ a') (same : a ++ c :: b = a' ++ c :: b') : a = a' := by
  have cut : ∀ {a b : List Char}, c ∉ a → (a ++ c :: b).takeWhile (· ≠ c) = a := by
    intro a b first
    rw [List.takeWhile_append_of_pos]
    · simp
    · intro x member
      simp only [decide_eq_true_eq]
      rintro rfl
      exact first member
  rw [← cut (b := b) first, same, cut first']

/-- A text is split at a character where it goes on after the first occurrence of it. -/
theorem splitOnce_char : splitOnce [c] text = some (a, b) ↔ text = a ++ c :: b ∧ c ∉ a := by
  constructor
  · intro split
    obtain ⟨shape, first⟩ := splitOnce_eq_some (by simp) split
    rw [List.singleton_infix_iff] at first
    exact ⟨by simpa using shape, first⟩
  · rintro ⟨rfl, first⟩
    obtain ⟨front, back, split⟩ := splitOnce_isSome ((List.singleton_infix_iff _ _).mpr (show c ∈ a ++ c :: b by simp))
    obtain ⟨shape, first'⟩ := splitOnce_eq_some (by simp) split
    rw [List.singleton_infix_iff] at first'
    have shape : a ++ c :: b = front ++ c :: back := by simpa using shape
    have same := before_eq first first' shape
    subst same
    simp only [List.append_cancel_left_eq, List.cons.injEq, true_and] at shape
    rw [split, shape]

/-- A match does not reach over a character that is not in the pattern. -/
theorem prefix_of_prefix_append_cons (absent : c ∉ pattern) (starts : pattern <+: a ++ c :: b) : pattern <+: a := by
  have through : a ++ [c] <+: a ++ c :: b := ⟨b, by simp⟩
  rcases List.prefix_or_prefix_of_prefix starts through with shorter | longer
  · rcases List.prefix_concat_iff.mp shorter with rfl | starts
    · simp at absent
    · exact starts
  · exact (absent (longer.subset (by simp))).elim

/-- An occurrence does not reach over a character that is not in it. -/
theorem infix_append_cons (absent : c ∉ pattern) (within : pattern <:+: a ++ c :: b) :
    pattern <:+: a ∨ pattern <:+: b := by
  induction a with
  | nil =>
    rcases List.infix_cons_iff.mp within with starts | within
    · cases pattern with
      | nil => exact .inl List.nil_infix
      | cons =>
        have same := (List.cons_prefix_cons.mp starts).1
        simp [same] at absent
    · exact .inr within
  | cons x a ih =>
    rcases List.infix_cons_iff.mp within with starts | within
    · exact .inl (prefix_of_prefix_append_cons absent starts).isInfix
    · rcases ih within with within | within
      · exact .inl (List.infix_cons within)
      · exact .inr within

/-! ## Replacement -/

section
variable {replacement : List Char}

theorem replaceFrom_eq (skip : Nat) (text : List Char) :
    replaceFrom pattern replacement skip text = replace pattern replacement (text.drop skip) := by
  induction text generalizing skip with
  | nil => simp [replace, replaceFrom]
  | cons c _ ih =>
    cases skip with
    | zero => rfl
    | succ => rw [replaceFrom, ih, List.drop_succ_cons]

theorem replace_cons (other : ¬ pattern <+: c :: text) :
    replace pattern replacement (c :: text) = c :: replace pattern replacement text := by
  rw [replace, replaceFrom, if_neg other, replace]

theorem replace_match (nonempty : pattern ≠ []) (text : List Char) :
    replace pattern replacement (pattern ++ text) = replacement ++ replace pattern replacement text := by
  obtain ⟨first, pattern, rfl⟩ := List.exists_cons_of_ne_nil nonempty
  rw [replace, List.cons_append, replaceFrom, if_pos ⟨text, by simp⟩, replaceFrom_eq]
  simp

theorem replace_of_not_infix (absent : ¬ pattern <:+: text) : replace pattern replacement text = text := by
  induction text with
  | nil => rfl
  | cons c _ ih =>
    rw [List.infix_cons_iff, not_or] at absent
    rw [replace_cons absent.1, ih absent.2]

theorem replace_append_cons (nonempty : pattern ≠ []) (absent : c ∉ pattern) (a b : List Char) :
    replace pattern replacement (a ++ c :: b) =
      replace pattern replacement a ++ c :: replace pattern replacement b := by
  match a with
  | [] =>
    have other : ¬ pattern <+: c :: b := by
      intro starts
      exact nonempty (List.prefix_nil.mp (prefix_of_prefix_append_cons (a := []) absent starts))
    exact replace_cons other
  | x :: a =>
    by_cases starts : pattern <+: x :: a ++ c :: b
    · obtain ⟨after, same⟩ := prefix_of_prefix_append_cons absent starts
      have shorter : after.length < (x :: a).length := by
        have positive := List.length_pos_iff.mpr nonempty
        rw [← same, List.length_append]
        omega
      rw [← same, List.append_assoc, replace_match nonempty, replace_append_cons nonempty absent after b,
        replace_match nonempty, List.append_assoc]
    · have other : ¬ pattern <+: x :: a := fun starts' => starts (starts'.trans ⟨c :: b, rfl⟩)
      rw [List.cons_append] at starts ⊢
      rw [replace_cons starts, replace_append_cons nonempty absent a b, replace_cons other]
      rfl
termination_by a.length
decreasing_by
  · exact shorter
  · simp

section
variable {searched : List Char} (apart : ∀ c ∈ searched, c ∉ replacement)
include apart

theorem infix_of_infix_append (some : searched ≠ []) (within : searched <:+: replacement ++ text) :
    searched <:+: text := by
  induction replacement with
  | nil => exact within
  | cons r _ ih =>
    rw [List.cons_append] at within
    rcases List.infix_cons_iff.mp within with starts | within
    · obtain ⟨first, searched, rfl⟩ := List.exists_cons_of_ne_nil some
      have same := (List.cons_prefix_cons.mp starts).1
      exact (apart first (by simp) (by simp [same])).elim
    · exact ih (fun c member held => apart c member (by simp [held])) within

theorem prefix_of_prefix_replace (nonempty : pattern ≠ []) (visible : replacement ≠ [])
    (starts : searched <+: replace pattern replacement text) : searched <+: text := by
  induction text generalizing searched with
  | nil => exact starts
  | cons c text ih =>
    cases searched with
    | nil => exact List.nil_prefix
    | cons first =>
      by_cases matched : pattern <+: c :: text
      · obtain ⟨after, same⟩ := matched
        obtain ⟨r, replacement, rfl⟩ := List.exists_cons_of_ne_nil visible
        rw [← same, replace_match nonempty, List.cons_append] at starts
        have same := (List.cons_prefix_cons.mp starts).1
        exact (apart first (by simp) (by simp [same])).elim
      · rw [replace_cons matched] at starts
        obtain ⟨same, starts⟩ := List.cons_prefix_cons.mp starts
        exact List.cons_prefix_cons.mpr ⟨same, ih (fun c member => apart c (by simp [member])) starts⟩

/-- A text that shares no character with the replacement was there before. -/
theorem infix_of_infix_replace (nonempty : pattern ≠ []) (visible : replacement ≠ []) (some : searched ≠ [])
    (text : List Char) (within : searched <:+: replace pattern replacement text) : searched <:+: text := by
  match text with
  | [] => exact within
  | c :: text =>
    by_cases matched : pattern <+: c :: text
    · obtain ⟨after, same⟩ := matched
      have shorter : after.length < (c :: text).length := by
        have positive := List.length_pos_iff.mpr nonempty
        rw [← same, List.length_append]
        omega
      rw [← same, replace_match nonempty] at within
      have later := infix_of_infix_replace nonempty visible some after (infix_of_infix_append apart some within)
      rw [← same]
      exact later.trans (List.suffix_append _ _).isInfix
    · rw [replace_cons matched] at within
      rcases List.infix_cons_iff.mp within with starts | within
      · rw [← replace_cons matched] at starts
        exact (prefix_of_prefix_replace apart nonempty visible starts).isInfix
      · exact List.infix_cons (infix_of_infix_replace nonempty visible some text within)
termination_by text.length
decreasing_by
  · exact shorter
  · simp

end

end

/-! ## Lines -/

theorem not_mem_of_mem_splitOn (member : piece ∈ text.splitOn c) : c ∉ piece := by
  induction text generalizing piece with
  | nil =>
    simp only [List.splitOn_nil, List.mem_singleton] at member
    simp [member]
  | cons x text ih =>
    rw [List.splitOn_cons_eq_if_modifyHead] at member
    split at member
    · rcases List.mem_cons.mp member with rfl | member
      · simp
      · exact ih member
    · rename_i other
      obtain ⟨first, pieces, shape⟩ := List.exists_cons_of_ne_nil (List.splitOn_ne_nil c text)
      rw [shape, List.modifyHead_cons] at member
      rcases List.mem_cons.mp member with rfl | member
      · have rest : c ∉ first := ih (by simp [shape])
        simp only [List.mem_cons, not_or]
        exact ⟨fun same => other (by simp [same]), rest⟩
      · exact ih (by simp [shape, member])

theorem chomp_starts (line : List Char) : chomp line <+: line := by
  unfold chomp
  cases stripped : stripSuffix ['\r'] line with
  | none => exact List.prefix_refl _
  | some => exact ⟨['\r'], (stripSuffix_eq_some.mp stripped).symm⟩

theorem not_mem_of_mem_lines (member : line ∈ lines text) : '\n' ∉ line := by
  simp only [lines, List.mem_append, List.mem_map, Option.mem_toList] at member
  rcases member with ⟨piece, member, rfl⟩ | found
  · intro held
    exact not_mem_of_mem_splitOn (List.dropLast_subset _ member) ((chomp_starts piece).subset held)
  · obtain ⟨last, -⟩ := Option.filter_eq_some_iff.mp found
    exact not_mem_of_mem_splitOn (List.mem_of_getLast? last)

theorem lines_intercalate (nonempty : rows ≠ []) (plain : ∀ row ∈ rows, '\n' ∉ row) :
    lines (['\n'].intercalate rows ++ ['\n']) = rows.map chomp := by
  have joined : ['\n'].intercalate rows ++ ['\n'] = ['\n'].intercalate (rows ++ [[]]) := by
    induction rows with
    | nil => exact (nonempty rfl).elim
    | cons row rows ih =>
      cases rows with
      | nil => simp [List.intercalate_cons_cons]
      | cons =>
        have rest := ih (by simp) fun row member => plain row (by simp [member])
        rw [List.cons_append] at rest
        rw [List.intercalate_cons_cons, List.cons_append, List.cons_append, List.intercalate_cons_cons, ← rest]
        simp
  have pieces : (['\n'].intercalate (rows ++ [[]])).splitOn '\n' = rows ++ [[]] := by
    apply List.splitOn_intercalate
    · intro row member
      rcases List.mem_append.mp member with member | member
      · exact plain row member
      · simp [List.mem_singleton.mp member]
    · simp
  rw [joined, lines, pieces]
  simp

theorem chomp_eq_self (plain : '\r' ∉ text) : chomp text = text := by
  unfold chomp
  cases stripped : stripSuffix ['\r'] text with
  | none => rfl
  | some =>
    rw [stripSuffix_eq_some] at stripped
    exact (plain (by simp [stripped])).elim

theorem trim_eq_self (plain : ∀ c ∈ text, isWhitespace c = false) : trim text = text := by
  have front : text.dropWhile isWhitespace = text := by
    rw [List.dropWhile_eq_self_iff]
    intro filled
    simp [plain _ (List.getElem_mem _)]
  unfold trim trimEnd
  rw [front, List.rdropWhile_eq_self_iff]
  intro filled
  simp [plain _ (List.getLast_mem filled)]

theorem starts_trim (starts : front :: (middle ++ [c]) <+: text)
    (first : isWhitespace front = false) (final : isWhitespace c = false) : front :: (middle ++ [c]) <+: trim text := by
  obtain ⟨rest, rfl⟩ := starts
  unfold trim trimEnd
  have kept : (front :: (middle ++ [c]) ++ rest).dropWhile isWhitespace = front :: (middle ++ [c]) ++ rest := by
    rw [List.cons_append, List.dropWhile_cons_of_neg (by simp [first])]
  have back : (front :: (middle ++ [c])).reverse.dropWhile isWhitespace = (front :: (middle ++ [c])).reverse := by
    simp [final]
  rw [kept, List.rdropWhile, List.reverse_append, List.dropWhile_append, back]
  split
  · simp
  · simp

/-- A trimmed text does not end in a carriage return. -/
theorem chomp_trim (text : List Char) : chomp (trim text) = trim text := by
  unfold chomp
  cases stripped : stripSuffix ['\r'] (trim text) with
  | none => rfl
  | some front =>
    rw [stripSuffix_eq_some] at stripped
    have filled : (text.dropWhile isWhitespace).rdropWhile isWhitespace ≠ [] := by
      intro empty
      rw [trim, trimEnd, empty] at stripped
      simp at stripped
    have ending := List.rdropWhile_last_not isWhitespace (text.dropWhile isWhitespace) filled
    have final : ((text.dropWhile isWhitespace).rdropWhile isWhitespace).getLast filled = '\r' := by
      simp only [show (text.dropWhile isWhitespace).rdropWhile isWhitespace = front ++ ['\r'] from stripped]
      simp
    rw [final] at ending
    exact absurd (show isWhitespace '\r' = true by decide) ending

theorem chomp_append (filled : b ≠ []) (plain : chomp b = b) : chomp (a ++ b) = a ++ b := by
  obtain ⟨front, final, rfl⟩ : ∃ front final, b = front ++ [final] := by
    exact ⟨b.dropLast, b.getLast filled, (List.dropLast_append_getLast filled).symm⟩
  have other : final ≠ '\r' := by
    rintro rfl
    have stripped : stripSuffix ['\r'] (front ++ ['\r']) = some front := stripSuffix_eq_some.mpr rfl
    unfold chomp at plain
    rw [stripped] at plain
    simp at plain
  unfold chomp
  cases stripped : stripSuffix ['\r'] (a ++ (front ++ [final])) with
  | none => rfl
  | some =>
    rw [stripSuffix_eq_some, ← List.append_assoc] at stripped
    have same := (List.append_inj' stripped rfl).2
    simp only [List.cons.injEq, and_true] at same
    exact (other same).elim

theorem trim_subset (text : List Char) : trim text ⊆ text := by
  intro c member
  exact (List.dropWhile_suffix _).subset ((List.rdropWhile_prefix _ _).subset member)

theorem exists_of_forall₂ {α β : Type} {R : α → β → Prop} {xs : List α} {ys : List β} {x : α}
    (related : List.Forall₂ R xs ys) (member : x ∈ xs) : ∃ y ∈ ys, R x y := by
  induction related with
  | nil => cases member
  | cons first _ ih =>
    rcases List.mem_cons.mp member with rfl | member
    · exact ⟨_, List.mem_cons_self, first⟩
    · obtain ⟨y, held, related⟩ := ih member
      exact ⟨y, List.mem_cons_of_mem _ held, related⟩

end Duskcue.Text
