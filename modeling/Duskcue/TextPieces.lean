import Duskcue.Text

/-! A text taken apart at the occurrences of a pattern, read as lines and trimmed, when
it was put together from rows that hold none of what separates them. -/
namespace Duskcue.Text

/-- The characters still to be skipped belong to the last match. -/
def splitFrom (pattern : List Char) : Nat → List Char → List (List Char)
  | _, [] => [[]]
  | skip + 1, _ :: rest => splitFrom pattern skip rest
  | 0, c :: rest =>
    if pattern <+: c :: rest then [] :: splitFrom pattern (pattern.length - 1) rest
    else (splitFrom pattern 0 rest).modifyHead (c :: ·)

/-- `str::split` at a pattern that is not empty. -/
def split (pattern text : List Char) : List (List Char) := splitFrom pattern 0 text

/-- Neither empty nor with white space at an end. -/
def Trimmed (text : List Char) : Prop := text ≠ [] ∧ trim text = text

instance decidableTrimmed (text : List Char) : Decidable (Trimmed text) :=
  inferInstanceAs (Decidable (text ≠ [] ∧ trim text = text))

/-! ## Splitting -/

variable {pattern text rest row : List Char} {c : Char}

theorem splitFrom_eq (skip : Nat) (text : List Char) :
    splitFrom pattern skip text = split pattern (text.drop skip) := by
  induction text generalizing skip with
  | nil => simp [split, splitFrom]
  | cons c _ ih =>
    cases skip with
    | zero => rfl
    | succ => rw [splitFrom, ih, List.drop_succ_cons]

theorem split_nil : split pattern [] = [[]] := rfl

theorem split_cons (other : ¬ pattern <+: c :: text) :
    split pattern (c :: text) = (split pattern text).modifyHead (c :: ·) := by
  rw [split, splitFrom, if_neg other, split]

theorem split_match (nonempty : pattern ≠ []) (text : List Char) :
    split pattern (pattern ++ text) = [] :: split pattern text := by
  obtain ⟨first, pattern, rfl⟩ := List.exists_cons_of_ne_nil nonempty
  rw [split, List.cons_append, splitFrom, if_pos ⟨text, by simp⟩, splitFrom_eq]
  simp

/-- A text without the first character of the pattern stays in one piece. -/
theorem split_append (absent : c ∉ row) (text : List Char) :
    split (c :: pattern) (row ++ text) = (split (c :: pattern) text).modifyHead (row ++ ·) := by
  induction row with
  | nil =>
    rw [List.nil_append]
    cases split (c :: pattern) text with
    | nil => rfl
    | cons => rfl
  | cons x row ih =>
    rw [List.mem_cons, not_or] at absent
    have other : ¬ c :: pattern <+: x :: (row ++ text) := fun starts => absent.1 (List.cons_prefix_cons.mp starts).1
    rw [List.cons_append, split_cons other, ih absent.2, List.modifyHead_modifyHead]
    rfl

theorem split_plain (absent : ¬ pattern <:+: text) : split pattern text = [text] := by
  induction text with
  | nil => rfl
  | cons c _ ih =>
    rw [List.infix_cons_iff, not_or] at absent
    rw [split_cons absent.1, ih absent.2]
    rfl

theorem split_absent (absent : c ∉ row) : split (c :: pattern) row = [row] :=
  split_plain fun within => absent (within.subset (by simp))

theorem split_row (absent : c ∉ row) (text : List Char) :
    split (c :: pattern) (row ++ c :: (pattern ++ text)) = row :: split (c :: pattern) text := by
  rw [split_append absent, ← List.cons_append, split_match (List.cons_ne_nil _ _)]
  simp

/-! ## Paragraphs -/

/-- A blank line. -/
def paragraph : List Char := ['\n', '\n']

/-- A line feed before another character separates nothing. -/
theorem split_line (plain : '\n' ∉ row) (other : c ≠ '\n') (text : List Char) :
    split paragraph (row ++ '\n' :: c :: text) = (split paragraph (c :: text)).modifyHead (row ++ '\n' :: ·) := by
  have single : ¬ paragraph <+: '\n' :: c :: text := by
    intro starts
    have second := (List.cons_prefix_cons.mp starts).2
    exact other (List.cons_prefix_cons.mp second).1.symm
  rw [paragraph, split_append plain, ← paragraph, split_cons single, List.modifyHead_modifyHead]
  rfl

/-- Lines of which none is blank are one piece, up to the blank line behind them. -/
theorem split_paragraph (nonempty : rows ≠ []) (plain : ∀ row ∈ rows, row ≠ [] ∧ '\n' ∉ row) (text : List Char) :
    split paragraph (rows.flatMap (· ++ ['\n']) ++ '\n' :: text) = ['\n'].intercalate rows :: split paragraph text := by
  induction rows with
  | nil => exact (nonempty rfl).elim
  | cons row rows ih =>
    have first := plain row (by simp)
    cases rows with
    | nil =>
      have shape : [row].flatMap (· ++ ['\n']) ++ '\n' :: text = row ++ '\n' :: (['\n'] ++ text) := by simp
      rw [shape, paragraph, split_row first.2]
      simp
    | cons next =>
      have later := ih (by simp) fun row member => plain row (by simp [member])
      obtain ⟨filled, plain⟩ := plain next (by simp)
      obtain ⟨c, next, rfl⟩ := List.exists_cons_of_ne_nil filled
      have other : c ≠ '\n' := by
        rintro rfl
        simp at plain
      rw [List.flatMap_cons, List.append_assoc, List.append_assoc, List.singleton_append]
      rw [List.flatMap_cons, List.cons_append, List.cons_append, List.cons_append] at later ⊢
      rw [split_line first.2 other, later, List.intercalate_cons_cons]
      simp

/-- Between carriage returns no blank line is seen. -/
theorem split_returned {rows : List (List Char)} (plain : ∀ row ∈ rows, '\n' ∉ row) :
    split paragraph (rows.flatMap (· ++ ['\r', '\n'])) = [rows.flatMap (· ++ ['\r', '\n'])] := by
  induction rows with
  | nil => rfl
  | cons row rows ih =>
    have absent : '\n' ∉ row ++ ['\r'] := by
      simp [plain row (by simp)]
    have rest := ih fun row member => plain row (by simp [member])
    have shape : (row :: rows).flatMap (· ++ ['\r', '\n']) =
        (row ++ ['\r']) ++ '\n' :: rows.flatMap (· ++ ['\r', '\n']) := by simp
    rw [shape]
    cases tail : rows.flatMap (· ++ ['\r', '\n']) with
    | nil =>
      have single : ¬ paragraph <+: ['\n'] := by decide
      rw [paragraph, split_append absent, ← paragraph, split_cons single, split_nil]
      rfl
    | cons c =>
      have other : c ≠ '\n' := by
        rintro rfl
        cases rows with
        | nil => simp at tail
        | cons next =>
          have plain := plain next (by simp)
          cases next with
          | nil => simp at tail
          | cons =>
            simp only [List.flatMap_cons, List.cons_append, List.cons.injEq] at tail
            simp [tail.1] at plain
      rw [tail] at rest
      rw [split_line absent other, rest]
      simp

/-! ## Rows -/

theorem intercalate_concat (separator : List Char) (rows : List (List Char)) (last : List Char) :
    separator.intercalate (rows ++ [last]) = rows.flatMap (· ++ separator) ++ last := by
  induction rows with
  | nil => simp
  | cons _ rows ih =>
    obtain ⟨next, more, shape⟩ := List.exists_cons_of_ne_nil (show rows ++ [last] ≠ [] by simp)
    rw [List.cons_append, shape, List.intercalate_cons_cons, ← shape, ih]
    simp

/-! ## Lines -/

theorem lines_line (plain : '\n' ∉ row) (text : List Char) : lines (row ++ '\n' :: text) = chomp row :: lines text := by
  have pieces := List.splitOn_append_cons_self_of_not_mem plain text
  obtain ⟨piece, more, shape⟩ := List.exists_cons_of_ne_nil (List.splitOn_ne_nil '\n' text)
  simp only [lines, pieces, shape]
  rw [List.dropLast_cons_of_ne_nil (by simp), List.getLast?_cons_cons, List.map_cons, List.cons_append]

theorem lines_last (plain : '\n' ∉ row) (filled : row ≠ []) : lines row = [row] := by
  simp [lines, List.splitOn_eq_singleton plain, filled]

theorem lines_nil : lines [] = [] := rfl

/-- Lines joined by a line feed, behind a carriage return or not, are read back. -/
theorem lines_joined (ending : List Char) (bare : '\n' ∉ ending)
    (plain : ∀ row ∈ rows, '\n' ∉ row ∧ chomp (row ++ ending) = row) (final : '\n' ∉ last) (filled : last ≠ []) :
    lines (rows.flatMap (· ++ (ending ++ ['\n'])) ++ last) = rows ++ [last] := by
  induction rows with
  | nil => exact lines_last final filled
  | cons row rows ih =>
    have first := plain row (by simp)
    have absent : '\n' ∉ row ++ ending := by simp [first.1, bare]
    have shape : (row :: rows).flatMap (· ++ (ending ++ ['\n'])) ++ last =
        (row ++ ending) ++ '\n' :: (rows.flatMap (· ++ (ending ++ ['\n'])) ++ last) := by simp
    rw [shape, lines_line absent, first.2, ih fun row member => plain row (by simp [member])]
    rfl

/-- Rows joined by line feeds are read back, up to a blank one at the end. -/
theorem lines_rows (plain : ∀ row ∈ rows, '\n' ∉ row ∧ chomp row = row) (final : '\n' ∉ last) :
    lines (['\n'].intercalate (rows ++ [last])) = if last = [] then rows else rows ++ [last] := by
  have joined : rows.flatMap (· ++ ['\n']) = rows.flatMap (· ++ ([] ++ ['\n'])) := rfl
  rw [intercalate_concat]
  split
  · rename_i blank
    rw [blank, List.append_nil]
    induction rows with
    | nil => rfl
    | cons row _ ih =>
      have first := plain row (by simp)
      rw [List.flatMap_cons, List.append_assoc, List.singleton_append, lines_line first.1, first.2,
        ih (fun row member => plain row (by simp [member])) rfl]
  · rename_i filled
    rw [joined]
    exact lines_joined [] (by simp) (by simpa using plain) final filled

theorem lines_append (front text : List Char) :
    lines (front ++ '\n' :: text) = lines (front ++ ['\n']) ++ lines text := by
  obtain ⟨row, more, shape⟩ := List.exists_cons_of_ne_nil (List.splitOn_ne_nil '\n' text)
  simp only [lines, List.splitOn_append_cons_self, List.splitOn_nil, shape]
  rw [List.dropLast_append_of_ne_nil (by simp), List.dropLast_append_of_ne_nil (by simp),
    List.getLast?_append_of_ne_nil _ (by simp), List.getLast?_append_of_ne_nil _ (by simp), List.map_append]
  simp

/-! ## Trimming -/

theorem trimmed_iff : Trimmed text ↔
    (∃ first rest, text = first :: rest ∧ isWhitespace first = false) ∧
      ∃ front last, text = front ++ [last] ∧ isWhitespace last = false := by
  constructor
  · rintro ⟨filled, trimmed⟩
    have starts : text.dropWhile isWhitespace = text := by
      have shorter := (List.rdropWhile_prefix isWhitespace (text.dropWhile isWhitespace)).length_le
      have same : ((text.dropWhile isWhitespace).rdropWhile isWhitespace).length = text.length :=
        congrArg List.length trimmed
      exact (List.dropWhile_suffix isWhitespace).eq_of_length_le (by omega)
    have ends : text.rdropWhile isWhitespace = text := by
      have trimmed : (text.dropWhile isWhitespace).rdropWhile isWhitespace = text := trimmed
      rwa [starts] at trimmed
    refine ⟨?_, ?_⟩
    · obtain ⟨first, rest, rfl⟩ := List.exists_cons_of_ne_nil filled
      refine ⟨first, rest, rfl, ?_⟩
      have visible := List.dropWhile_eq_self_iff.mp starts (by simp)
      rw [List.getElem_cons_zero] at visible
      exact Bool.eq_false_of_not_eq_true visible
    · refine ⟨text.dropLast, text.getLast filled, (List.dropLast_append_getLast filled).symm, ?_⟩
      simpa using List.rdropWhile_eq_self_iff.mp ends filled
  · rintro ⟨⟨first, rest, rfl, visible⟩, front, last, shape, final⟩
    refine ⟨List.cons_ne_nil _ _, ?_⟩
    have starts : (first :: rest).dropWhile isWhitespace = first :: rest :=
      List.dropWhile_cons_of_neg (by simp [visible])
    unfold trim trimEnd
    rw [starts, shape, List.rdropWhile_concat_neg _ _ _ (by simp [final])]

/-- What stands between trimmed texts is not at an end. -/
theorem Trimmed.around (starts : Trimmed front) (ends : Trimmed last) (middle : List Char) :
    Trimmed (front ++ middle ++ last) := by
  obtain ⟨⟨first, rest, shape, visible⟩, -⟩ := trimmed_iff.mp starts
  obtain ⟨-, before, final, shape', visible'⟩ := trimmed_iff.mp ends
  refine trimmed_iff.mpr ⟨⟨first, rest ++ middle ++ last, by simp [shape], visible⟩, ?_⟩
  exact ⟨front ++ middle ++ before, final, by simp [shape'], visible'⟩

theorem trimmed_intercalate (separator : List Char) (nonempty : rows ≠ [])
    (trimmed : ∀ row ∈ rows, Trimmed row) : Trimmed (separator.intercalate rows) := by
  induction rows with
  | nil => exact (nonempty rfl).elim
  | cons row rows ih =>
    cases rows with
    | nil => simpa using trimmed row (by simp)
    | cons =>
      have later := ih (by simp) fun row member => trimmed row (by simp [member])
      rw [List.intercalate_cons_cons]
      exact (trimmed row (by simp)).around later separator

theorem trimmed_of_visible (filled : text ≠ []) (visible : ∀ c ∈ text, isWhitespace c = false) : Trimmed text :=
  ⟨filled, trim_eq_self visible⟩

theorem mem_trim (visible : isWhitespace c = false) (member : c ∈ text) : c ∈ trim text := by
  have kept {text : List Char} (member : c ∈ text) : c ∈ text.dropWhile isWhitespace := by
    rw [← List.takeWhile_append_dropWhile (p := isWhitespace) (l := text)] at member
    rcases List.mem_append.mp member with blank | kept
    · rw [List.all_eq_true.mp List.all_takeWhile c blank] at visible
      cases visible
    · exact kept
  exact List.mem_reverse.mpr (kept (List.mem_reverse.mpr (kept member)))

/-- Only the white space around a trimmed text is taken off. -/
theorem trim_padded (front : List Char) {back : List Char} (trimmed : Trimmed text)
    (before : ∀ c ∈ front, isWhitespace c = true)
    (after : ∀ c ∈ back, isWhitespace c = true) : trim (front ++ text ++ back) = text := by
  obtain ⟨⟨first, rest, shape, visible⟩, starting, last, shape', final⟩ := trimmed_iff.mp trimmed
  have starts : (front ++ text ++ back).dropWhile isWhitespace = text ++ back := by
    rw [List.append_assoc, List.dropWhile_append_of_pos before, shape, List.cons_append,
      List.dropWhile_cons_of_neg (by simp [visible])]
  have padding : back.reverse.dropWhile isWhitespace = [] := by
    rw [List.dropWhile_eq_nil_iff]
    intro c member
    exact after c (List.mem_reverse.mp member)
  unfold trim trimEnd
  rw [starts, List.rdropWhile, List.reverse_append, List.dropWhile_append, padding]
  rw [List.isEmpty_nil, if_pos rfl, ← List.rdropWhile, shape', List.rdropWhile_concat_neg _ _ _ (by simp [final])]

theorem chomp_trimmed (trimmed : trim row = row) : chomp row = row := by
  rw [← trimmed, chomp_trim]

theorem chomp_returned (row : List Char) : chomp (row ++ ['\r']) = row := by
  rw [chomp, stripSuffix_eq_some.mpr rfl, Option.getD_some]

/-! ## One character for another -/

theorem replace_char (old new : Char) (text : List Char) :
    replace [old] [new] text = text.map fun c => if c = old then new else c := by
  induction text with
  | nil => rfl
  | cons c text ih =>
    by_cases same : c = old
    · have found : replace [old] [new] ([old] ++ text) = [new] ++ replace [old] [new] text :=
        replace_match (by simp) text
      rw [List.singleton_append, ih] at found
      rw [same, found]
      simp
    · have other : ¬ [old] <+: c :: text := fun starts => same (List.cons_prefix_cons.mp starts).1.symm
      rw [replace_cons other, ih, List.map_cons, if_neg same]

theorem replace_char_append (old new : Char) (a b : List Char) :
    replace [old] [new] (a ++ b) = replace [old] [new] a ++ replace [old] [new] b := by
  simp only [replace_char, List.map_append]

theorem replace_char_absent (absent : old ∉ text) (new : Char) : replace [old] [new] text = text :=
  replace_of_not_infix (by rwa [List.singleton_infix_iff])

theorem replace_char_found (old new : Char) (text : List Char) :
    replace [old] [new] (old :: text) = new :: replace [old] [new] text := by
  simp only [replace_char, List.map_cons, if_pos]

/-- A text without the first character of the pattern is kept. -/
theorem replace_append (absent : c ∉ row) (replacement text : List Char) :
    replace (c :: pattern) replacement (row ++ text) = row ++ replace (c :: pattern) replacement text := by
  induction row with
  | nil => rfl
  | cons x row ih =>
    rw [List.mem_cons, not_or] at absent
    have other : ¬ c :: pattern <+: x :: (row ++ text) := fun starts => absent.1 (List.cons_prefix_cons.mp starts).1
    rw [List.cons_append, replace_cons other, ih absent.2]
    rfl

theorem replace_absent (absent : c ∉ text) (replacement : List Char) : replace (c :: pattern) replacement text = text :=
  replace_of_not_infix fun within => absent (within.subset (by simp))

theorem not_mem_replace (visible : replacement ≠ []) (apart : c ∉ replacement)
    (nonempty : pattern ≠ []) (absent : c ∉ text) : c ∉ replace pattern replacement text := by
  intro member
  have apart : ∀ x ∈ [c], x ∉ replacement := by simpa using apart
  have within := infix_of_infix_replace apart nonempty visible (by simp) text
    ((List.singleton_infix_iff _ _).mpr member)
  exact absent ((List.singleton_infix_iff _ _).mp within)

/-- Separators between rows that hold none of them are replaced. -/
theorem replace_intercalate (plain : ∀ row ∈ rows, c ∉ row) :
    replace (c :: pattern) replacement ((c :: pattern).intercalate rows) = replacement.intercalate rows := by
  induction rows with
  | nil => rfl
  | cons row rows ih =>
    cases rows with
    | nil => simpa using replace_absent (plain row (by simp)) replacement
    | cons =>
      have later := ih fun row member => plain row (by simp [member])
      rw [List.intercalate_cons_cons, List.append_assoc, replace_append (plain row (by simp)),
        replace_match (List.cons_ne_nil _ _), later, List.intercalate_cons_cons, List.append_assoc]

end Duskcue.Text
