import Duskcue.MediaMatching
import Duskcue.Regexes

/-! What a library scan reads from the name of an episode's file. -/
namespace Duskcue.LibraryNames
open Text Decimals MediaMatching Regex

deriving instance DecidableEq for MediaMatching.Group

instance decidableForallMem (p : Char → Prop) [DecidablePred p] (text : List Char) : Decidable (∀ c ∈ text, p c) :=
  List.decidableBAll p text

abbrev GroupKey := MediaMatching.Group

/-- What is documented of `\d`, the decimal digits of all scripts. -/
structure Decimal (decimal : Char → Bool) : Prop where
  ascii : ∀ c : Char, c.toNat < 128 → decimal c = c.isDigit
  visible : ∀ c, isWhitespace c = true → decimal c = false

section Expressions
variable (decimal : Char → Bool)

/-- `\d\x7bleast,most\x7d`. -/
def digits (least most : Nat) : Regex GroupKey := many decimal least (some most)

/-- `\s*`. -/
def spaces : Regex GroupKey := many isWhitespace 0 none

/-- `[_.\s\-]`. -/
def separates (c : Char) : Bool := ['_', '.', '-'].contains c || isWhitespace c

/-- `s` in either case: the long s is one of its spellings. -/
def isS (c : Char) : Bool := ['s', 'S', 'ſ'].contains c

/-- `[ex]` in either case. -/
def isEx (c : Char) : Bool := ['e', 'E', 'x', 'X'].contains c

/-- `[-e]` in either case. -/
def isDash (c : Char) : Bool := ['-', 'e', 'E'].contains c

/-- `\s*[-e]\s*(\d\x7b1,3\x7d)`. -/
def endExpression : Regex GroupKey :=
  seq spaces (seq (one isDash) (seq spaces (group (.get 3) (digits decimal 1 3))))

/-- `(?i)[_.\s\-]s?(\d\x7b1,2\x7d)[ex](\d\x7b1,3\x7d)(?:\s*[-e]\s*(\d\x7b1,3\x7d))?`. -/
def markerExpression : Regex GroupKey :=
  seq (one separates) (seq (opt (one isS)) (seq (group (.get 1) (digits decimal 1 2)) (seq (one isEx)
    (seq (group (.get 2) (digits decimal 1 3)) (opt (endExpression decimal))))))

end Expressions

def markerText : List Char :=
  "(?i)[_.\\s\\-]s?(\\d\x7b1,2\x7d)[ex](\\d\x7b1,3\x7d)(?:\\s*[-e]\\s*(\\d\x7b1,3\x7d))?".toList

def crossText : List Char := "(?i)[_.\\s\\-](\\d\x7b1,2\x7d)x(\\d\x7b1,3\x7d)".toList

/-- `parse_sxxexx_filename`, of a path's file name where it has one in Unicode. `none` is a panic. -/
def parseSxxexxFilename (regex : List Char → Option (Compiled GroupKey)) (fileName : Option (List Char)) :
    Option (Option (Nat × Nat × Option Nat)) := do
  let filename := fileName.getD []
  let re ← regex markerText
  match re.captures filename with
  | some caps => return do
    let season ← parseBelow (2 ^ 32) (← caps (.get 1))
    let episode ← parseBelow (2 ^ 32) (← caps (.get 2))
    let episodeEnd := (caps (.get 3)).bind (parseBelow (2 ^ 32))
    return (season, episode, episodeEnd)
  | none =>
    let altRe ← regex crossText
    return do
      let caps ← altRe.captures filename
      let season ← parseBelow (2 ^ 32) (← caps (.get 1))
      let episode ← parseBelow (2 ^ 32) (← caps (.get 2))
      return (season, episode, none)

/-! ## Characters -/

section Characters
variable {decimal : Char → Bool}

theorem Decimal.digit (of : Decimal decimal) {c : Char} (digit : c.isDigit = true) : decimal c = true := by
  rw [of.ascii c, digit]
  rw [Char.isDigit, Bool.and_eq_true, decide_eq_true_eq, decide_eq_true_eq] at digit
  have high : c.toNat ≤ 57 := digit.2
  omega

theorem Decimal.other (of : Decimal decimal) {c : Char} (plain : c.toNat < 128 ∧ c.isDigit = false) : decimal c = false :=
  (of.ascii c plain.1).trans plain.2

theorem Decimal.not_space (of : Decimal decimal) (digit : decimal c = true) : isWhitespace c = false := by
  cases space : isWhitespace c with
  | false => rfl
  | true => rw [of.visible c space] at digit; cases digit

end Characters

/-! ## Markers -/

section Markers
variable {decimal : Char → Bool} {total : Nat} {rest tail : List Char}

/-- A season and an episode as they are marked in a name, behind a separator. -/
def Marks (decimal : Char → Bool) (text : List Char) : Prop :=
  ∃ sep mark season x episode, text = sep :: (mark ++ season ++ x :: episode) ∧ separates sep = true ∧
    (mark.length ≤ 1 ∧ ∀ c ∈ mark, isS c = true) ∧
    (1 ≤ season.length ∧ season.length ≤ 2 ∧ ∀ c ∈ season, decimal c = true) ∧ isEx x = true ∧
    1 ≤ episode.length ∧ episode.length ≤ 3 ∧ ∀ c ∈ episode, decimal c = true

/-- A name that holds a season/episode marker. -/
def Marked (decimal : Char → Bool) (name : List Char) : Prop := ∃ text, text <:+: name ∧ Marks decimal text

theorem marks_of_mem (led : (after, groups) ∈ (markerExpression decimal).walk total rest) :
    ∃ text more, rest = text ++ more ∧ Marks decimal text := by
  unfold markerExpression digits at led
  obtain ⟨_, _, _, separator, lettered, -⟩ := mem_seq.mp led
  obtain ⟨-, sep, rfl, separating⟩ := mem_one.mp separator
  obtain ⟨_, _, _, marked, seasoned, -⟩ := mem_seq.mp lettered
  obtain ⟨-, mark, rfl, brief, marking⟩ := mem_opt_one.mp marked
  obtain ⟨_, _, _, numbered, crossing, -⟩ := mem_seq.mp seasoned
  obtain ⟨season, -, rfl, seasonDigits, one, two⟩ := mem_group_many.mp numbered
  obtain ⟨_, _, _, crossed, counting, -⟩ := mem_seq.mp crossing
  obtain ⟨-, x, rfl, ex⟩ := mem_one.mp crossed
  obtain ⟨middle, _, _, counted, -, -⟩ := mem_seq.mp counting
  obtain ⟨episode, -, rfl, episodeDigits, some', three⟩ := mem_group_many.mp counted
  exact ⟨sep :: (mark ++ season ++ x :: episode), middle, by simp, sep, mark, season, x, episode, rfl, separating,
    ⟨brief, marking⟩, ⟨one, two 2 rfl, seasonDigits⟩, ex, some', three 3 rfl, episodeDigits⟩

theorem Marks.visible (of : Decimal decimal) (marks : Marks decimal text) :
    ∀ c ∈ text.tail, isWhitespace c = false := by
  obtain ⟨sep, mark, season, x, episode, rfl, -, ⟨-, marking⟩, ⟨-, -, seasonDigits⟩, ex, -, -, episodeDigits⟩ := marks
  have letters : ∀ c ∈ ['s', 'S', 'ſ', 'e', 'E', 'x', 'X'], isWhitespace c = false := by decide
  intro c member
  simp only [List.tail_cons, List.mem_append, List.mem_cons] at member
  rcases member with (member | member) | rfl | member
  · have letter := List.contains_iff_mem.mp (marking c member)
    exact letters c (List.mem_append_left ['e', 'E', 'x', 'X'] letter)
  · exact of.not_space (seasonDigits c member)
  · have letter := List.contains_iff_mem.mp ex
    exact letters c (List.mem_append_right ['s', 'S', 'ſ'] letter)
  · exact of.not_space (episodeDigits c member)

/-- A match does not begin in a name that holds no marker. -/
theorem walk_unmarked (of : Decimal decimal) (unmarked : ¬ Marked decimal (u ++ v)) (filled : v ≠ []) :
    (markerExpression decimal).walk total (v ++ ' ' :: tail) = [] := by
  refine walk_eq_nil fun after groups led => ?_
  obtain ⟨text, more, same, marks⟩ := marks_of_mem led
  have within (p : text <+: v) : False := unmarked ⟨text, p.isInfix.trans (List.suffix_append u v).isInfix, marks⟩
  rcases List.append_eq_append_iff.mp same with ⟨extra, textEq, tailEq⟩ | ⟨extra, vEq, -⟩
  · cases extra with
    | nil => exact within (by simp [textEq])
    | cons =>
      obtain ⟨rfl, -⟩ := List.cons.inj tailEq
      obtain ⟨d, v, rfl⟩ := List.exists_cons_of_ne_nil filled
      have visible := marks.visible of ' ' (by simp [textEq])
      exact absurd visible (by decide)
  · exact within ⟨extra, vEq.symm⟩

end Markers

/-! ## The last episode of a range -/

section Ends
variable {decimal : Char → Bool} {total : Nat} {rest after : List Char} {groups : List (GroupKey × List Char)}

/-- What is read as the last episode behind a dash. -/
def endDigits (decimal : Char → Bool) (rest : List Char) : List Char :=
  ((rest.dropWhile isWhitespace).takeWhile decimal).take 3

theorem endDigits_space : endDigits decimal (' ' :: rest) = endDigits decimal rest := rfl

theorem decimal_of_mem_endDigits (member : c ∈ endDigits decimal rest) : decimal c = true :=
  List.all_eq_true.mp List.all_takeWhile c (List.mem_of_mem_take member)

theorem mem_end (of : Decimal decimal) (led : (after, groups) ∈ (endExpression decimal).walk total rest) :
    ∃ blank dash middle, rest = blank ++ dash :: middle ∧ (∀ c ∈ blank, isWhitespace c = true) ∧ isDash dash = true ∧
      endDigits decimal middle ≠ [] := by
  unfold endExpression spaces digits at led
  obtain ⟨_, _, _, spaced, dashing, -⟩ := mem_seq.mp led
  obtain ⟨-, blank, rfl, blanks, -⟩ := mem_many.mp spaced
  obtain ⟨_, _, _, dashed, more, -⟩ := mem_seq.mp dashing
  obtain ⟨-, dash, rfl, isDash⟩ := mem_one.mp dashed
  obtain ⟨_, _, _, spaced', counting, -⟩ := mem_seq.mp more
  obtain ⟨-, blank', rfl, blanks', -⟩ := mem_many.mp spaced'
  obtain ⟨text, -, rfl, textDigits, one, -⟩ := mem_group_many.mp counting
  refine ⟨blank, dash, _, rfl, blanks, isDash, ?_⟩
  obtain ⟨c, text, rfl⟩ := List.exists_cons_of_length_pos one
  have digit := textDigits c List.mem_cons_self
  unfold endDigits
  rw [List.dropWhile_append_of_pos blanks', List.cons_append, List.dropWhile_cons_of_neg (by simp [of.not_space digit]),
    List.takeWhile_cons_of_pos digit]
  exact List.cons_ne_nil _ _

/-- Where no dash comes at once, or no digit behind it, no last episode is read. -/
theorem walk_end_visible (of : Decimal decimal) (visible : isWhitespace c = false)
    (other : isDash c = false ∨ endDigits decimal rest = []) : (endExpression decimal).walk total (c :: rest) = [] := by
  refine walk_eq_nil fun after groups led => ?_
  obtain ⟨blank, dash, middle, same, blanks, dashed, read⟩ := mem_end of led
  cases blank with
  | nil =>
    obtain ⟨rfl, rfl⟩ := List.cons.inj same
    rcases other with other | none
    · exact absurd dashed (by simp [other])
    · exact read none
  | cons =>
    obtain ⟨rfl, -⟩ := List.cons.inj same
    exact absurd (blanks c List.mem_cons_self) (by simp [visible])

theorem walk_end_spaced (of : Decimal decimal) (none : endDigits decimal rest = []) :
    (endExpression decimal).walk total (' ' :: '-' :: rest) = [] := by
  refine walk_eq_nil fun after groups led => ?_
  obtain ⟨blank, dash, middle, same, blanks, dashed, read⟩ := mem_end of led
  cases blank with
  | nil =>
    obtain ⟨rfl, -⟩ := List.cons.inj same
    exact absurd dashed (by decide)
  | cons d blank =>
    obtain ⟨-, same⟩ := List.cons.inj same
    cases blank with
    | nil =>
      obtain ⟨-, rfl⟩ := List.cons.inj same
      exact read none
    | cons =>
      obtain ⟨rfl, -⟩ := List.cons.inj same
      exact absurd (blanks '-' (by simp)) (by decide)

theorem best_end (read : endDigits decimal rest ≠ []) :
    ∃ after, ∀ total, Best total (endExpression decimal) (' ' :: '-' :: rest) (after, [(.get 3, endDigits decimal rest)]) := by
  have blanks : ∀ c ∈ rest.takeWhile isWhitespace, isWhitespace c = true := List.all_eq_true.mp List.all_takeWhile
  obtain ⟨after, whole⟩ : endDigits decimal rest <+: rest.dropWhile isWhitespace :=
    (List.take_prefix ..).trans (List.takeWhile_prefix _)
  refine ⟨after, fun total => ?_⟩
  have counted := @best_take GroupKey total (rest.dropWhile isWhitespace) decimal 1 3 (List.length_pos_iff.mpr read)
  rw [show ((rest.dropWhile isWhitespace).takeWhile decimal).take 3 = endDigits decimal rest from rfl, ← whole,
    List.drop_left] at counted
  have stops : ∀ c ∈ (rest.dropWhile isWhitespace).head?, isWhitespace c = false := by
    intro c first
    have shape := List.head?_dropWhile_not isWhitespace rest
    simpa only [Option.mem_def.mp first] using shape
  have spaced := @best_many GroupKey total _ isWhitespace 0 none _ blanks (Nat.zero_le _) nofun (.inr stops)
  rw [List.takeWhile_append_dropWhile, ← whole] at spaced
  have space : Best total (spaces : Regex GroupKey) (' ' :: '-' :: rest) ('-' :: rest, []) :=
    @best_many GroupKey total ('-' :: rest) isWhitespace 0 none [' '] (by decide) (Nat.zero_le _) nofun
      (.inr fun c first => by cases first; rfl)
  exact space.seq (Best.seq (best_one rfl) (spaced.seq counted.group))

/-- The way of a marker through its text, where the numbers are digits and no digit is behind them. -/
theorem best_marker (of : Decimal decimal) {season episode tail : List Char}
    (seasonDigits : 1 ≤ season.length ∧ season.length ≤ 2 ∧ ∀ c ∈ season, c.isDigit = true)
    (episodeDigits : 1 ≤ episode.length ∧ episode.length ≤ 3 ∧ ∀ c ∈ episode, c.isDigit = true)
    (stops : ∀ c ∈ tail.head?, decimal c = false)
    (ends : Best total (opt (endExpression decimal)) tail (after, groups)) :
    Best total (markerExpression decimal) (' ' :: 'S' :: (season ++ 'E' :: (episode ++ tail)))
      (after, (.get 1, season) :: (.get 2, episode) :: groups) := by
  have counted : Best total (group (.get 2) (digits decimal 1 3)) (episode ++ tail) (tail, [(.get 2, episode)]) :=
    Best.group (best_many (fun c member => of.digit (episodeDigits.2.2 c member)) episodeDigits.1
      (by rintro _ ⟨⟩; exact episodeDigits.2.1) (.inr stops))
  have stops' : ∀ c ∈ ('E' :: (episode ++ tail)).head?, decimal c = false := by
    rintro c ⟨⟩
    exact of.other (by decide)
  have numbered : Best total (group (.get 1) (digits decimal 1 2)) (season ++ 'E' :: (episode ++ tail))
      ('E' :: (episode ++ tail), [(.get 1, season)]) :=
    Best.group (best_many (fun c member => of.digit (seasonDigits.2.2 c member)) seasonDigits.1
      (by rintro _ ⟨⟩; exact seasonDigits.2.1) (.inr stops'))
  have crossed := Best.seq (@best_one GroupKey total (episode ++ tail) isEx 'E' rfl) (counted.seq ends)
  have marked := Best.seq (@best_one GroupKey total (season ++ 'E' :: (episode ++ tail)) isS 'S' rfl).opt
    (numbered.seq crossed)
  exact Best.seq (best_one rfl) marked

end Ends

/-! ## The name of an episode's file -/

section Names

/-- The end of a range as it is written behind an episode. -/
def writeEnd (width : Nat) : Option Nat → List Char
  | some last => '-' :: 'E' :: padded width last
  | none => []

/-- A file's name: of the series, season and episode, and what trails them. -/
def episodeName (name season episode last trailing ext : List Char) : List Char :=
  name ++ ' ' :: 'S' :: (season ++ 'E' :: (episode ++ (last ++ (trailing ++ '.' :: ext))))

/-- What trails the numbers is read as the end of a range: behind a spaced dash come digits of ASCII, and
no others among the first three. -/
def ReadsEnd (decimal : Char → Bool) (trailing ext : List Char) : Prop :=
  ∃ rest, trailing = " - ".toList ++ rest ∧ endDigits decimal (rest ++ '.' :: ext) ≠ [] ∧
    ∀ c ∈ endDigits decimal (rest ++ '.' :: ext), c.isDigit = true

variable {regex : List Char → Option (Compiled GroupKey)} {decimal : Char → Bool}
  {name season episode tail after : List Char} {groups : List (GroupKey × List Char)}

/-- What is read of a name that holds no marker of its own. -/
theorem parse_name (of : Decimal decimal) (compiles : regex markerText = some (markerExpression decimal).compiled)
    (unmarked : ¬ Marked decimal name)
    (seasonDigits : 1 ≤ season.length ∧ season.length ≤ 2 ∧ ∀ c ∈ season, c.isDigit = true)
    (episodeDigits : 1 ≤ episode.length ∧ episode.length ≤ 3 ∧ ∀ c ∈ episode, c.isDigit = true)
    (stops : ∀ c ∈ tail.head?, decimal c = false)
    (ends : ∀ total, Best total (opt (endExpression decimal)) tail (after, groups)) :
    parseSxxexxFilename regex (some (name ++ ' ' :: 'S' :: (season ++ 'E' :: (episode ++ tail)))) =
      some (some (Nat.ofDigitChars 10 season 0, Nat.ofDigitChars 10 episode 0,
        (groups.lookup (.get 3)).bind (parseBelow (2 ^ 32)))) := by
  have best (total : Nat) := best_marker of seasonDigits episodeDigits stops (ends total)
  obtain ⟨text, whole⟩ := suffix_of_mem (best 0).mem
  have unmatched (total : Nat) (u v : List Char) (same : name = u ++ v) (filled : v ≠ []) :
      (markerExpression decimal).walk total (v ++ (text ++ after)) = [] := by
    rw [whole]
    exact walk_unmarked of (same ▸ unmarked) filled
  have found := search_eq_some (unmatched _) (by rw [whole]; exact best _)
  rw [whole] at found
  have number {digits : List Char} {least most : Nat} (read : least ≤ digits.length ∧ digits.length ≤ most ∧
      ∀ c ∈ digits, c.isDigit = true) (some' : 1 ≤ least) (few : most ≤ 9) :
      parseBelow (2 ^ 32) digits = some (Nat.ofDigitChars 10 digits 0) := by
    refine parse_digits (List.length_pos_iff.mp (some'.trans read.1)) read.2.2 ?_
    exact (Nat.pow_le_pow_right (by decide) (read.2.1.trans few)).trans (by decide : 10 ^ 9 ≤ 2 ^ 32)
  unfold parseSxxexxFilename
  simp only [Option.getD_some, compiles, Option.bind_eq_bind, Option.bind_some, compiled, captures_eq_some found]
  show some ((parseBelow (2 ^ 32) season).bind fun s => (parseBelow (2 ^ 32) episode).bind fun e =>
    some (s, e, (groups.lookup (.get 3)).bind (parseBelow (2 ^ 32)))) = _
  rw [number seasonDigits le_rfl (by decide), number episodeDigits le_rfl (by decide)]
  rfl

/-- Digits that are read as the end of a range are digits of ASCII, and they are read. -/
theorem parse_endDigits (of : Decimal decimal) :
    (parseBelow (2 ^ 32) (endDigits decimal rest)).isSome ↔
      endDigits decimal rest ≠ [] ∧ ∀ c ∈ endDigits decimal rest, c.isDigit = true := by
  constructor
  · intro read
    obtain ⟨n, parsed⟩ := Option.isSome_iff_exists.mp read
    refine digits_of_parse parsed fun member => ?_
    exact absurd (decimal_of_mem_endDigits member) (by rw [of.other (by decide)]; decide)
  · rintro ⟨filled, digits⟩
    have few : (endDigits decimal rest).length ≤ 3 := (List.length_take_le ..)
    rw [parse_digits filled digits ((Nat.pow_le_pow_right (by decide) few).trans (by decide))]
    rfl

/-- What is read as the last episode of a range from what is behind the numbers. -/
def readEnd (decimal : Char → Bool) : List Char → Option Nat
  | ' ' :: '-' :: ' ' :: rest => parseBelow (2 ^ 32) (endDigits decimal rest)
  | _ => none

theorem parse_episodeName (of : Decimal decimal) (compiles : regex markerText = some (markerExpression decimal).compiled)
    (unmarked : ¬ Marked decimal name)
    (seasonDigits : 1 ≤ season.length ∧ season.length ≤ 2 ∧ ∀ c ∈ season, c.isDigit = true)
    (episodeDigits : 1 ≤ episode.length ∧ episode.length ≤ 3 ∧ ∀ c ∈ episode, c.isDigit = true)
    (width : Nat) (last : Option Nat) (trailing ext : List Char)
    (trails : " - ".toList <+: trailing ∨ ".".toList <+: trailing) :
    parseSxxexxFilename regex (some (episodeName name season episode (writeEnd width last) trailing ext)) =
      some (some (Nat.ofDigitChars 10 season 0, Nat.ofDigitChars 10 episode 0,
        if last = none then readEnd decimal (trailing ++ '.' :: ext) else none)) := by
  unfold episodeName
  cases last with
  | some last =>
    have none' : endDigits decimal ('E' :: (padded width last ++ (trailing ++ '.' :: ext))) = [] := by
      unfold endDigits
      rw [List.dropWhile_cons_of_neg (by decide), List.takeWhile_cons_of_neg (by simp [of.other (c := 'E') (by decide)])]
      rfl
    exact parse_name of compiles unmarked seasonDigits episodeDigits (by rintro c ⟨⟩; exact of.other (by decide))
      fun total => best_opt_empty (walk_end_visible of (by decide) (.inr none'))
  | none =>
    rcases trails with ⟨rest, rfl⟩ | ⟨rest, rfl⟩
    · have stops : ∀ c ∈ (' ' :: '-' :: ' ' :: (rest ++ '.' :: ext)).head?, decimal c = false := by
        rintro c ⟨⟩
        exact of.other (by decide)
      by_cases read : endDigits decimal (' ' :: (rest ++ '.' :: ext)) = []
      · have parsed := parse_name of compiles unmarked seasonDigits episodeDigits stops
          fun total => best_opt_empty (walk_end_spaced of read)
        rw [endDigits_space] at read
        have nothing : readEnd decimal (' ' :: '-' :: ' ' :: (rest ++ '.' :: ext)) = none := by
          rw [readEnd, read]
          rfl
        rw [if_pos rfl]
        exact parsed.trans (congrArg (fun last => some (some (_, _, last))) nothing.symm)
      · obtain ⟨after, best⟩ := best_end read
        exact parse_name of compiles unmarked seasonDigits episodeDigits stops fun total => (best total).opt
    · exact parse_name of compiles unmarked seasonDigits episodeDigits (by rintro c ⟨⟩; exact of.other (by decide))
        fun total => best_opt_empty (walk_end_visible of (by decide) (.inl (by decide)))

/-- The end of a range is never read where it is written behind an `E`, and without one a number that
trails a spaced dash is taken for it. -/
theorem episode_read_iff (regex : List Char → Option (Compiled GroupKey)) (decimal : Char → Bool)
    (of : Decimal decimal) (compiles : regex markerText = some (markerExpression decimal).compiled)
    (name trailing ext : List Char) (season episode seasonWidth episodeWidth width : Nat) (last : Option Nat)
    (unmarked : ¬ Marked decimal name) (seasons : season < 100) (episodes : episode < 1000)
    (narrow : seasonWidth ≤ 2 ∧ episodeWidth ≤ 3) (_ : ∀ n ∈ last, episode ≤ n)
    (trails : " - ".toList <+: trailing ∨ ".".toList <+: trailing) :
    parseSxxexxFilename regex (some (episodeName name (padded seasonWidth season) (padded episodeWidth episode)
        (writeEnd width last) trailing ext)) = some (some (season, episode, last)) ↔
      last = none ∧ ¬ ReadsEnd decimal trailing ext := by
  rw [parse_episodeName of compiles unmarked
    ⟨length_padded_pos .., length_padded_le (by decide) narrow.1 seasons, fun _ => isDigit_of_mem_padded⟩
    ⟨length_padded_pos .., length_padded_le (by decide) narrow.2 episodes, fun _ => isDigit_of_mem_padded⟩
    width last trailing ext trails, ofDigitChars_padded, ofDigitChars_padded]
  simp only [Option.some.injEq, Prod.mk.injEq, true_and]
  cases last with
  | some last => simp
  | none =>
    simp only [if_true, true_and]
    rcases trails with ⟨rest, rfl⟩ | ⟨rest, rfl⟩
    · have read : ReadsEnd decimal (" - ".toList ++ rest) ext ↔
          (parseBelow (2 ^ 32) (endDigits decimal (rest ++ '.' :: ext))).isSome := by
        rw [parse_endDigits of]
        constructor
        · rintro ⟨other, same, read⟩
          obtain rfl : rest = other := List.append_cancel_left same
          exact read
        · exact fun read => ⟨rest, rfl, read⟩
      rw [read, Bool.not_eq_true, Option.isSome_eq_false_iff, Option.isNone_iff_eq_none]
      rfl
    · refine iff_of_true rfl ?_
      rintro ⟨other, same, -⟩
      exact absurd (List.cons.inj same).1 (by decide)

/-- The digits of ASCII for `\d`, and the expression of the markers alone. -/
def asciiRegex (text : List Char) : Option (Compiled GroupKey) :=
  if text = markerText then some (markerExpression Char.isDigit).compiled else none

theorem decimal_isDigit : Decimal Char.isDigit where
  ascii _ _ := rfl
  visible c space := by
    cases digit : c.isDigit with
    | false => rfl
    | true => rw [isWhitespace_of_isDigit digit] at space; cases space

/-- A marker needs a separator. -/
theorem unmarked_of_plain (plain : ∀ c ∈ name, separates c = false) : ¬ Marked decimal name := by
  rintro ⟨_, within, sep, mark, season, x, episode, rfl, separating, -⟩
  rw [plain sep (within.subset List.mem_cons_self)] at separating
  cases separating

/-- `Show S01E05.1080p.mkv`. -/
theorem episode_read : parseSxxexxFilename asciiRegex (some (episodeName "Show".toList (padded 2 1) (padded 2 5)
    (writeEnd 2 none) ".1080p".toList "mkv".toList)) = some (some (1, 5, none)) := by
  refine (episode_read_iff asciiRegex Char.isDigit decimal_isDigit (if_pos rfl) _ _ _ 1 5 2 2 2 none
    (unmarked_of_plain (by decide)) (by decide) (by decide) (by decide) nofun (.inr (by decide))).mpr ⟨rfl, ?_⟩
  rintro ⟨rest, same, -⟩
  exact absurd (List.cons.inj same).1 (by decide)

/-- `Show S01E05-E06.mkv` is read as the fifth episode alone. -/
theorem range_lost : ¬ ∀ (regex : List Char → Option (Compiled GroupKey)) (decimal : Char → Bool),
    Decimal decimal → regex markerText = some (markerExpression decimal).compiled →
    ∀ (name trailing ext : List Char) (season episode seasonWidth episodeWidth width : Nat) (last : Option Nat),
      ¬ Marked decimal name → season < 100 → episode < 1000 → seasonWidth ≤ 2 ∧ episodeWidth ≤ 3 →
      (∀ n ∈ last, episode ≤ n) → (" - ".toList <+: trailing ∨ ".".toList <+: trailing) →
      parseSxxexxFilename regex (some (episodeName name (padded seasonWidth season) (padded episodeWidth episode)
        (writeEnd width last) trailing ext)) = some (some (season, episode, last)) := by
  intro all
  have read := all asciiRegex Char.isDigit decimal_isDigit (if_pos rfl) "Show".toList ".1080p".toList "mkv".toList
    1 5 2 2 2 (some 6) (unmarked_of_plain (by decide)) (by decide) (by decide) (by decide)
    (by rintro _ ⟨⟩; decide) (.inr (by decide))
  have other : parseSxxexxFilename asciiRegex (some (episodeName "Show".toList (padded 2 1) (padded 2 5)
      (writeEnd 2 (some 6)) ".1080p".toList "mkv".toList)) = some (some (1, 5, none)) := by decide +kernel
  rw [other] at read
  cases read

end Names

end Duskcue.LibraryNames
