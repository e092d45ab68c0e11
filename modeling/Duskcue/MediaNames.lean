import Duskcue.Identification

/-! The title and the year that a library scan cuts out of a folder's name. -/
namespace Duskcue.LibraryNames
open Text Decimals MediaMatching Regex

section Expressions
variable (decimal : Char → Bool)

/-- `[.\-_ ]`. -/
def yearBreak (c : Char) : Bool := ['.', '-', '_', ' '].contains c

/-- `\((\d{4})\)`. -/
def yearExpression : Regex GroupKey := seq (lit ['(']) (seq (group (.get 1) (digits decimal 4 4)) (lit [')']))

/-- `(?:^|[.\-_ ])(\d{4})(?:[.\-_ ]|$)`. -/
def standaloneExpression : Regex GroupKey :=
  seq (alt start (one yearBreak)) (seq (group (.get 1) (digits decimal 4 4)) (alt (one yearBreak) finish))

/-- `\s*\(\d{4}\)\s*`. -/
def parenthesizedExpression : Regex GroupKey :=
  seq spaces (seq (lit ['(']) (seq (digits decimal 4 4) (seq (lit [')']) spaces)))

/-- `(?i)[_.\s\-](\d{1,2})x(\d{1,3})`. -/
def crossExpression : Regex GroupKey :=
  seq (one separates) (seq (group (.get 1) (digits decimal 1 2)) (seq (one ['x', 'X'].contains)
    (group (.get 2) (digits decimal 1 3))))

/-- `\s*\{[^}]*\}\s*`. -/
def curlyExpression : Regex GroupKey :=
  seq spaces (seq (lit ['\x7b']) (seq (many (· != '\x7d') 0 none) (seq (lit ['\x7d']) spaces)))

/-- `\s*\[[^\]]*\]\s*`. -/
def squareExpression : Regex GroupKey :=
  seq spaces (seq (lit ['[']) (seq (many (· != ']') 0 none) (seq (lit [']']) spaces)))

end Expressions

def yearText : List Char := "\\((\\d\x7b4\x7d)\\)".toList
def standaloneText : List Char := "(?:^|[.\\-_ ])(\\d\x7b4\x7d)(?:[.\\-_ ]|$)".toList
def parenthesizedText : List Char := "\\s*\\(\\d\x7b4\x7d\\)\\s*".toList
def curlyText : List Char := "\\s*\\\x7b[^\x7d]*\\\x7d\\s*".toList
def squareText : List Char := "\\s*\\[[^\\]]*\\]\\s*".toList

/-- `str::split_whitespace`. -/
def splitWhitespace (text : List Char) : List (List Char) := (text.splitOnP isWhitespace).filter (· ≠ [])

section Names
variable (regex : List Char → Option (Compiled GroupKey))

/-- `parse_year_from_name`. -/
def parseYearFromName (name : List Char) : Option Nat := do
  let re ← regex yearText
  match re.captures name with
  | some caps => parseBelow (2 ^ 16) (← caps (.get 1))
  | none =>
    let yearStandalone ← regex standaloneText
    let caps ← yearStandalone.captures name
    let year ← parseBelow (2 ^ 16) (← caps (.get 1))
    if 1900 ≤ year ∧ year ≤ 2100 then some year else none

/-- `replace(['.', '_'], " ")`. -/
def dotToSpace (c : Char) : Char := if c = '.' ∨ c = '_' then ' ' else c

/-- `clean_series_name`. `none` is a panic. -/
def cleanSeriesName (name : List Char) : Option (List Char) := do
  let re ← regex curlyText
  let re2 ← regex squareText
  let cleaned := re.replace name []
  let cleaned := re2.replace cleaned []
  let yearRe ← regex parenthesizedText
  let cleaned := yearRe.replace cleaned []
  return [' '].intercalate (splitWhitespace ((trim cleaned).map dotToSpace))

structure ParsedMediaName where
  title : List Char
  year : Option Nat
  season : Option Nat
  episode : Option Nat
  episodeEnd : Option Nat

/-- A file as its path names it: `file_stem` and `file_name`, where they are Unicode. -/
structure FilePath where
  fileStem : Option (List Char)
  fileName : Option (List Char)

/-- `parse_media_name`, of a file in a folder of this name. The outer `none` is a panic. -/
def parseMediaName (filePath : FilePath) (parentName : Option (List Char)) : Option (Option ParsedMediaName) :=
  match filePath.fileStem with
  | none => some none
  | some _ => do
    let nameSource := parentName.getD []
    let year := parseYearFromName regex nameSource
    let title ← if year.isSome then
        some ((regex parenthesizedText).map fun re => trim (re.replace nameSource []))
      else (cleanSeriesName regex nameSource).map some
    match title with
    | none => return none
    | some title =>
      let marker ← parseSxxexxFilename regex filePath.fileName
      return some
        { title, year, season := marker.map (·.1), episode := marker.map (·.2.1), episodeEnd := marker.bind (·.2.2) }

end Names

/-- The expressions of the names, compiled. -/
structure NamesCompile (regex : List Char → Option (Compiled GroupKey)) (decimal : Char → Bool) : Prop where
  tags : TagsCompile regex decimal
  marker : regex markerText = some (markerExpression decimal).compiled
  cross : regex crossText = some (crossExpression decimal).compiled
  year : regex yearText = some (yearExpression decimal).compiled
  standalone : regex standaloneText = some (standaloneExpression decimal).compiled
  parenthesized : regex parenthesizedText = some (parenthesizedExpression decimal).compiled
  curly : regex curlyText = some curlyExpression.compiled
  square : regex squareText = some squareExpression.compiled

/-! ## Titles -/

/-- A character of a title's words: no white space, no bracket, and nothing that separates words. -/
def plainChar (c : Char) : Bool := !isWhitespace c && !(['(', ')', '[', ']', '\x7b', '\x7d', '.', '-', '_'].contains c)

/-- A title, as its words. -/
structure Title where
  words : List (List Char)
  filled : words ≠ []
  plain : ∀ word ∈ words, word ≠ [] ∧ ∀ c ∈ word, plainChar c = true

namespace Title
variable {c : Char} (title : Title)

/-- The words with single spaces between them. -/
def text : List Char := [' '].intercalate title.words

/-- The words and the year with dots between them. -/
def dotted (year : List Char) : List Char := ['.'].intercalate (title.words ++ [year])

theorem visible_of_plain (plain : plainChar c = true) : isWhitespace c = false := by
  unfold plainChar at plain
  rw [Bool.and_eq_true, Bool.not_eq_true'] at plain
  exact plain.1

theorem mem_intercalate {separator : List Char} (member : c ∈ separator.intercalate rows) :
    c ∈ separator ∨ ∃ row ∈ rows, c ∈ row := by
  induction rows with
  | nil => cases member
  | cons row rows ih =>
    cases rows with
    | nil => exact .inr ⟨row, List.mem_cons_self, by simpa using member⟩
    | cons =>
      rw [List.intercalate_cons_cons, List.mem_append, List.mem_append] at member
      rcases member with (first | between) | later
      · exact .inr ⟨row, List.mem_cons_self, first⟩
      · exact .inl between
      · rcases ih later with between | ⟨other, known, within⟩
        · exact .inl between
        · exact .inr ⟨other, List.mem_cons_of_mem _ known, within⟩

theorem plain_or_space (member : c ∈ title.text) : c = ' ' ∨ plainChar c = true := by
  rcases mem_intercalate member with between | ⟨word, known, within⟩
  · exact .inl (List.mem_singleton.mp between)
  · exact .inr ((title.plain word known).2 c within)

theorem not_mem_text (other : c ≠ ' ' ∧ plainChar c = false) : c ∉ title.text := by
  intro member
  rcases title.plain_or_space member with rfl | plain
  · exact other.1 rfl
  · rw [other.2] at plain
    cases plain

theorem trimmed_text : Trimmed title.text :=
  trimmed_intercalate _ title.filled fun word known =>
    trimmed_of_visible (title.plain word known).1 fun c member => visible_of_plain ((title.plain word known).2 c member)

end Title

/-- Words with single spaces between them are split into themselves. -/
theorem splitWhitespace_intercalate (plain : ∀ word ∈ words, word ≠ [] ∧ ∀ c ∈ word, isWhitespace c = false) :
    splitWhitespace ([' '].intercalate words) = words := by
  unfold splitWhitespace
  induction words with
  | nil => rfl
  | cons word words ih =>
    obtain ⟨filled, visible⟩ := plain word List.mem_cons_self
    cases words with
    | nil =>
      rw [List.intercalate_singleton, List.splitOnP_eq_singleton visible]
      simp [filled]
    | cons =>
      rw [List.intercalate_cons_cons, List.append_assoc, List.singleton_append,
        List.splitOnP_append_cons_of_forall_mem visible ' ' (by decide), List.filter_cons_of_pos (by simpa using filled),
        ih fun row member => plain row (List.mem_cons_of_mem _ member)]

/-- A character of the separator for another one. -/
theorem map_intercalate {words : List (List Char)} (turned : f old = new)
    (kept : ∀ word ∈ words, word.map f = word) : ([old].intercalate words).map f = [new].intercalate words := by
  induction words with
  | nil => rfl
  | cons word words ih =>
    have first := kept word List.mem_cons_self
    cases words with
    | nil => simpa using first
    | cons =>
      have later := ih fun row member => kept row (List.mem_cons_of_mem _ member)
      rw [List.intercalate_cons_cons, List.intercalate_cons_cons, List.map_append, List.map_append, first, later,
        List.map_singleton, turned]

/-! ## A title with its year -/

section Years
variable {decimal : Char → Bool} {regex : List Char → Option (Compiled GroupKey)} {total : Nat} {c : Char}
  {rest after name year : List Char} {groups : List (GroupKey × List Char)} {more : Regex GroupKey}

/-- Between white space and the rest, an expression of this form needs its character. -/
theorem mem_spaces_lit (led : (after, groups) ∈ (seq spaces (seq (lit [c]) more)).walk total rest) :
    ∃ blank tail, rest = blank ++ c :: tail ∧ ∀ d ∈ blank, isWhitespace d = true := by
  obtain ⟨_, _, _, spaced, others, -⟩ := mem_seq.mp led
  obtain ⟨-, blank, rfl, blanks, -⟩ := mem_many.mp spaced
  obtain ⟨tail, _, _, opened, -, -⟩ := mem_seq.mp others
  obtain ⟨-, rfl⟩ := mem_lit.mp opened
  exact ⟨blank, tail, rfl, blanks⟩

theorem needs_char (led : (after, groups) ∈ (seq spaces (seq (lit [c]) more)).walk total rest) : c ∈ rest := by
  obtain ⟨blank, tail, rfl, -⟩ := mem_spaces_lit led
  simp

theorem yearExpression_starts (led : (after, groups) ∈ (yearExpression decimal).walk total rest) :
    ∃ tail, rest = '(' :: tail := by
  obtain ⟨tail, _, _, opened, -, -⟩ := mem_seq.mp led
  obtain ⟨-, rfl⟩ := mem_lit.mp opened
  exact ⟨tail, rfl⟩

/-- Four digits of ASCII. -/
structure FourDigits (year : List Char) : Prop where
  four : year.length = 4
  digits : ∀ c ∈ year, c.isDigit = true

theorem best_four (of : Decimal decimal) (digits : FourDigits year) :
    Best total (LibraryNames.digits decimal 4 4) (year ++ rest) (rest, []) :=
  best_many (fun c member => of.digit (digits.digits c member)) digits.four.ge
    (by rintro _ ⟨⟩; exact digits.four.le) (.inl ⟨4, rfl, digits.four⟩)

theorem year_search (of : Decimal decimal) (title : Title) (digits : FourDigits year) (rest : List Char) :
    (yearExpression decimal).search ((title.text ++ [' ']) ++ (('(' :: (year ++ [')'])) ++ rest)) =
      some ⟨title.text ++ [' '], '(' :: (year ++ [')']), rest, [(.get 1, year)]⟩ := by
  refine search_eq_some (fun u v same filled => walk_eq_nil fun after groups led => ?_) ?_
  · obtain ⟨tail, starts⟩ := yearExpression_starts led
    obtain ⟨c, v, rfl⟩ := List.exists_cons_of_ne_nil filled
    obtain ⟨rfl, -⟩ := List.cons.inj starts
    have member : '(' ∈ title.text ++ [' '] := by simp [same]
    rcases List.mem_append.mp member with within | space
    · exact title.not_mem_text (by decide) within
    · exact absurd space (by decide)
  · have counted : Best ((title.text ++ [' ']) ++ (('(' :: (year ++ [')'])) ++ rest)).length
        (group (.get 1) (LibraryNames.digits decimal 4 4)) (year ++ ')' :: rest) (')' :: rest, [(.get 1, year)]) :=
      (best_four of digits).group
    have best := Best.seq (best_lit ['(']) (counted.seq (@best_lit GroupKey _ rest [')']))
    have shape : ('(' :: (year ++ [')'])) ++ rest = ['('] ++ (year ++ ')' :: rest) := by simp
    rw [shape] at best ⊢
    exact best

theorem parseYear_title (compile : NamesCompile regex decimal) (of : Decimal decimal) (title : Title)
    (digits : FourDigits year) (rest : List Char) :
    parseYearFromName regex (title.text ++ ' ' :: '(' :: (year ++ ')' :: rest)) = some (Nat.ofDigitChars 10 year 0) := by
  have shape : title.text ++ ' ' :: '(' :: (year ++ ')' :: rest) =
      (title.text ++ [' ']) ++ (('(' :: (year ++ [')'])) ++ rest) := by simp
  have read : parseBelow (2 ^ 16) year = some (Nat.ofDigitChars 10 year 0) :=
    parse_digits (List.length_pos_iff.mp (by rw [digits.four]; decide)) digits.digits (by rw [digits.four]; decide)
  unfold parseYearFromName
  simp only [compile.year, Option.bind_eq_bind, Option.bind_some, compiled, shape,
    captures_eq_some (year_search of title digits rest)]
  exact read

/-- A title's text is followed by its year: nothing of it is taken for white space before a bracket. -/
theorem unopened (title : Title) (same : title.text = u ++ v) (filled : v ≠ [])
    (opened : v ++ ' ' :: rest = blank ++ '(' :: tail) (blanks : ∀ d ∈ blank, isWhitespace d = true) : False := by
  obtain ⟨-, front, last, shape, visible⟩ := trimmed_iff.mp title.trimmed_text
  have final : last ∈ v := by
    obtain ⟨before, d, rfl⟩ := List.eq_nil_or_concat v |>.resolve_left filled
    have ends := congrArg List.getLast? (same.symm.trans shape)
    rw [List.concat_eq_append, ← List.append_assoc, List.getLast?_concat, List.getLast?_concat] at ends
    cases ends
    simp
  have seen (within : v ⊆ blank) : False := by
    rw [blanks last (within final)] at visible
    cases visible
  rcases List.append_eq_append_iff.mp opened with ⟨extra, rfl, -⟩ | ⟨extra, rfl, tailEq⟩
  · exact seen (List.subset_append_left _ _)
  · cases extra with
    | nil => exact seen (by simp)
    | cons =>
      obtain ⟨rfl, -⟩ := List.cons.inj tailEq
      exact title.not_mem_text (by decide : '(' ≠ ' ' ∧ plainChar '(' = false) (by simp [same])

/-- The year in brackets is cut out from behind a title, with the white space around it. -/
theorem title_search (of : Decimal decimal) (title : Title) (digits : FourDigits year) {gap rest : List Char}
    (blanks : ∀ c ∈ gap, isWhitespace c = true) (stops : ∀ c ∈ rest.head?, isWhitespace c = false) :
    (parenthesizedExpression decimal).search (title.text ++ ((' ' :: '(' :: (year ++ ')' :: gap)) ++ rest)) =
      some ⟨title.text, ' ' :: '(' :: (year ++ ')' :: gap), rest, []⟩ := by
  refine search_eq_some (fun u v same filled => walk_eq_nil fun after groups led => ?_) ?_
  · obtain ⟨blank, tail, opened, white⟩ := mem_spaces_lit led
    rw [List.cons_append] at opened
    exact unopened title same filled opened white
  · generalize (title.text ++ ((' ' :: '(' :: (year ++ ')' :: gap)) ++ rest)).length = total
    have space : Best total spaces (' ' :: '(' :: (year ++ ')' :: (gap ++ rest))) ('(' :: (year ++ ')' :: (gap ++ rest)), []) :=
      @best_many GroupKey total ('(' :: (year ++ ')' :: (gap ++ rest))) isWhitespace 0 none [' '] (by decide)
        (Nat.zero_le _) nofun (.inr fun c first => by cases first; rfl)
    have closing : Best total spaces (gap ++ rest) (rest, []) :=
      @best_many GroupKey total rest isWhitespace 0 none gap blanks (Nat.zero_le _) nofun (.inr stops)
    have counted := (@best_four decimal total (')' :: (gap ++ rest)) year of digits).seq
      (Best.seq (@best_lit GroupKey total (gap ++ rest) [')']) closing)
    have best := space.seq (Best.seq (best_lit ['(']) counted)
    have shape : (' ' :: '(' :: (year ++ ')' :: gap)) ++ rest = ' ' :: '(' :: (year ++ ')' :: (gap ++ rest)) := by simp
    rw [shape]
    exact best

end Years

/-! ## Names of movies and series -/

section Parsed
variable {decimal : Char → Bool} {regex : List Char → Option (Compiled GroupKey)} {year name : List Char}
  {filePath : FilePath} {stem : List Char}

/-- The markers of a file's name are read without a panic. -/
theorem parseSxxexx_some (compile : NamesCompile regex decimal) (fileName : Option (List Char)) :
    ∃ marker, parseSxxexxFilename regex fileName = some marker := by
  unfold parseSxxexxFilename
  simp only [compile.marker, compile.cross, Option.bind_eq_bind, Option.bind_some]
  split
  · exact ⟨_, rfl⟩
  · exact ⟨_, rfl⟩

/-- A title with its year in brackets: what is behind the brackets is taken for the end of the title. -/
theorem parseMediaName_title (compile : NamesCompile regex decimal) (of : Decimal decimal) (title : Title)
    (digits : FourDigits year) (named : filePath.fileStem = some stem) (gap rest : List Char)
    (blanks : ∀ c ∈ gap, isWhitespace c = true) (stops : ∀ c ∈ rest.head?, isWhitespace c = false) :
    ∃ parsed, parseMediaName regex filePath (some (title.text ++ ' ' :: '(' :: (year ++ ')' :: (gap ++ rest)))) =
        some (some parsed) ∧
      parsed.title = trim (title.text ++ rest) ∧ parsed.year = some (Nat.ofDigitChars 10 year 0) := by
  have shape : title.text ++ ' ' :: '(' :: (year ++ ')' :: (gap ++ rest)) =
      title.text ++ ((' ' :: '(' :: (year ++ ')' :: gap)) ++ rest) := by simp
  have cut : (parenthesizedExpression decimal).replace [] (title.text ++ ' ' :: '(' :: (year ++ ')' :: (gap ++ rest))) =
      title.text ++ rest := by
    rw [shape, replace_eq (title_search of title digits blanks stops)]
    simp
  obtain ⟨marker, marked⟩ := parseSxxexx_some compile filePath.fileName
  unfold parseMediaName
  simp only [named, Option.getD_some, parseYear_title compile of title digits, Option.isSome_some, if_true,
    compile.parenthesized, Option.map_some, compiled, cut, marked, Option.bind_eq_bind, Option.bind_some]
  exact ⟨_, rfl, rfl, rfl⟩

/-- A name without brackets has no year in brackets, and nothing to cut out. -/
theorem cleanSeriesName_plain (compile : NamesCompile regex decimal) (curly : '\x7b' ∉ name) (square : '[' ∉ name)
    (round : '(' ∉ name) : cleanSeriesName regex name =
      some ([' '].intercalate (splitWhitespace ((trim name).map dotToSpace))) := by
  unfold cleanSeriesName
  simp only [compile.curly, compile.square, compile.parenthesized, Option.bind_eq_bind, Option.bind_some, compiled]
  rw [show curlyExpression.replace [] name = name from replace_eq_self (search_absent curly needs_char) [],
    show squareExpression.replace [] name = name from replace_eq_self (search_absent square needs_char) [],
    show (parenthesizedExpression decimal).replace [] name = name from replace_eq_self (search_absent round needs_char) []]
  rfl

theorem digit_plain {c : Char} (digit : c.isDigit = true) : plainChar c = true := by
  have others : ∀ d ∈ ['(', ')', '[', ']', '\x7b', '\x7d', '.', '-', '_'], d.isDigit = false := by decide
  unfold plainChar
  rw [isWhitespace_of_isDigit digit, Bool.not_false, Bool.true_and, Bool.not_eq_true', Bool.eq_false_iff]
  intro within
  rw [others c (List.contains_iff_mem.mp within)] at digit
  cases digit

/-- A title and its year as words of one name. -/
theorem dotted_plain (title : Title) (digits : FourDigits year) :
    ∀ word ∈ title.words ++ [year], word ≠ [] ∧ ∀ c ∈ word, plainChar c = true := by
  intro word member
  rcases List.mem_append.mp member with known | last
  · exact title.plain word known
  · obtain rfl := List.mem_singleton.mp last
    exact ⟨List.length_pos_iff.mp (by rw [digits.four]; decide), fun c within => digit_plain (digits.digits c within)⟩

theorem not_mem_dotted (title : Title) (digits : FourDigits year) (other : c ≠ '.' ∧ plainChar c = false) :
    c ∉ title.dotted year := by
  intro member
  rcases Title.mem_intercalate member with between | ⟨word, known, within⟩
  · exact other.1 (List.mem_singleton.mp between)
  · rw [(dotted_plain title digits word known).2 c within] at other
    cases other.2

/-- The title of a name with dots is never the title: it keeps the dots, or the year. -/
theorem parseMediaName_dotted (compile : NamesCompile regex decimal) (title : Title) (digits : FourDigits year)
    (named : filePath.fileStem = some stem) :
    ∃ parsed, parseMediaName regex filePath (some (title.dotted year)) = some (some parsed) ∧ parsed.title ≠ title.text := by
  have plain := dotted_plain title digits
  have round : '(' ∉ title.dotted year := not_mem_dotted title digits (by decide)
  have square : '[' ∉ title.dotted year := not_mem_dotted title digits (by decide)
  have curly : '\x7b' ∉ title.dotted year := not_mem_dotted title digits (by decide)
  have trimmed : Trimmed (title.dotted year) := trimmed_intercalate _ (by simp) fun word known =>
    trimmed_of_visible (plain word known).1 fun c within => Title.visible_of_plain ((plain word known).2 c within)
  have uncut : (parenthesizedExpression decimal).replace [] (title.dotted year) = title.dotted year :=
    replace_eq_self (search_absent round needs_char) []
  obtain ⟨marker, marked⟩ := parseSxxexx_some compile filePath.fileName
  cases found : parseYearFromName regex (title.dotted year) with
  | some y =>
    refine ⟨⟨trim (title.dotted year), some y, marker.map (·.1), marker.map (·.2.1), marker.bind (·.2.2)⟩, ?_, ?_⟩
    · unfold parseMediaName
      simp only [named, Option.getD_some, found, Option.isSome_some, if_true, compile.parenthesized, Option.map_some,
        compiled, uncut, marked, Option.bind_eq_bind, Option.bind_some]
      rfl
    · rw [trimmed.2]
      intro same
      refine title.not_mem_text (by decide : '.' ≠ ' ' ∧ plainChar '.' = false) (same ▸ ?_)
      obtain ⟨first, words, shape⟩ := List.exists_cons_of_ne_nil title.filled
      unfold Title.dotted
      rw [shape]
      cases words <;> simp
  | none =>
    have kept : ∀ word ∈ title.words ++ [year], word.map dotToSpace = word := by
      intro word known
      refine (List.map_congr_left fun c within => ?_).trans (List.map_id word)
      have apart : ¬ (c = '.' ∨ c = '_') := by
        rintro (rfl | rfl) <;> exact absurd ((plain word known).2 _ within) (by decide)
      exact if_neg apart
    have split := splitWhitespace_intercalate fun word known =>
      ⟨(plain word known).1, fun c within => Title.visible_of_plain ((plain word known).2 c within)⟩
    have cleaned := cleanSeriesName_plain compile curly square round
    have spacedOut : (title.dotted year).map dotToSpace = [' '].intercalate (title.words ++ [year]) :=
      map_intercalate (if_pos (.inl rfl)) kept
    rw [trimmed.2, spacedOut, split] at cleaned
    refine ⟨⟨[' '].intercalate (title.words ++ [year]), none, marker.map (·.1), marker.map (·.2.1), marker.bind (·.2.2)⟩,
      ?_, fun same => ?_⟩
    · unfold parseMediaName
      simp only [named, Option.getD_some, found, Option.isSome_none, cleaned, Option.map_some, marked,
        Option.bind_eq_bind, Option.bind_some]
      rfl
    · have words := congrArg splitWhitespace same
      dsimp only at words
      rw [split, Title.text, splitWhitespace_intercalate fun word known =>
        ⟨(title.plain word known).1, fun c within => Title.visible_of_plain ((title.plain word known).2 c within)⟩] at words
      have longer := congrArg List.length words
      simp at longer

end Parsed

end Duskcue.LibraryNames
