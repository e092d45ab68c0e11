import Duskcue.LibraryNames

/-! The expression that a naming pattern is turned into, and the names that it matches: literal texts
around a season and an episode. -/
namespace Duskcue.MediaMatching
open Text Decimals Regex LibraryNames

/-! ## Expressions of literals and tokens -/

inductive Token
  | season
  | episode
  | special
deriving DecidableEq

def Token.name : Token → List Char
  | .season => "season".toList
  | .episode => "episode".toList
  | .special => "special".toList

/-- The most digits of a token. -/
def Token.width : Token → Nat
  | .season => 2
  | .episode | .special => 3

/-- The group of a token, as a text. -/
def Token.text : Token → List Char
  | .season => "(?P<season>\\d\x7b1,2\x7d)".toList
  | .episode => "(?P<episode>\\d\x7b1,3\x7d)".toList
  | .special => "(?P<special>\\d\x7b1,3\x7d)".toList

/-- A piece of an expression: a character, escaped or not, or the group of a token. -/
inductive Piece
  | char (c : Char) (escaped : Bool)
  | token (t : Token)

/-- The characters that stand for something else where they are not escaped. -/
def operators : List Char := ['\\', '.', '+', '*', '?', '(', ')', '|', '[', ']', '\x7b', '\x7d', '^', '$']

/-- A character that means itself: an operator that is escaped, or another one as it stands. -/
def Piece.Plain : Piece → Prop
  | .char c escaped => escaped = true ↔ c ∈ operators
  | .token _ => True

def Piece.text : Piece → List Char
  | .char c escaped => if escaped then ['\\', c] else [c]
  | .token t => t.text

def Piece.token? : Piece → Option Token
  | .char _ _ => none
  | .token t => some t

/-- What pieces match behind the beginning of a text, up to its end. -/
def piecesExpression (decimal : Char → Bool) : List Piece → Regex GroupKey
  | [] => finish
  | .char c _ :: pieces => seq (one (· == c)) (piecesExpression decimal pieces)
  | .token t :: pieces =>
    seq (group (.name t.name) (digits decimal 1 t.width)) (piecesExpression decimal pieces)

/-- What a match captures, by the names of the groups alone. -/
def byName (caps : GroupKey → Option (List Char)) (name : List Char) : Option (List Char) := caps (.name name)

/-- Expressions of plain pieces compile, and match what they say. -/
def PiecesCompile (regex : List Char → Option (List Char → Option (GroupKey → Option (List Char))))
    (decimal : Char → Bool) : Prop :=
  ∀ pieces : List Piece, (∀ piece ∈ pieces, piece.Plain) → (pieces.filterMap Piece.token?).Nodup →
    ∃ captures, regex ('^' :: (pieces.flatMap Piece.text ++ ['$'])) = some captures ∧ ∀ text,
      (captures text).map byName = ((seq start (piecesExpression decimal pieces)).captures text).map byName

/-! ## Patterns -/

/-- A token as a pattern spells it. -/
structure Spelled where
  token : Token
  spelling : List Char
  closed : '\x7d' ∉ spelling
  known : tokenGroup (trim spelling) = some token.text

/-- A pattern of literal texts around two tokens, one for the season and one for the episode. -/
structure NamePattern where
  before : List Char
  first : Spelled
  between : List Char
  second : Spelled
  after : List Char
  literal : ∀ c ∈ before ++ between ++ after, c ≠ '\x7b' ∧ c ≠ '*' ∧ c ≠ '?'
  tokens : (first.token = .season ∧ second.token = .episode) ∨ (first.token = .episode ∧ second.token = .season)

def Spelled.text (spelled : Spelled) : List Char := '\x7b' :: (spelled.spelling ++ ['\x7d'])

namespace NamePattern

def text (pattern : NamePattern) : List Char :=
  pattern.before ++ (pattern.first.text ++ (pattern.between ++ (pattern.second.text ++ pattern.after)))

/-- The name with these texts for the first and the second token. -/
def write (pattern : NamePattern) (first second : List Char) : List Char :=
  pattern.before ++ (first ++ (pattern.between ++ (second ++ pattern.after)))

/-- The name with these texts for the season and the episode. -/
def fill (pattern : NamePattern) (season episode : List Char) : List Char :=
  if pattern.first.token = .season then pattern.write season episode else pattern.write episode season

/-- No neighbour of a token is a digit. -/
structure Apart (pattern : NamePattern) (decimal : Char → Bool) : Prop where
  before : ∀ c ∈ pattern.before.getLast?, decimal c = false
  filled : pattern.between ≠ []
  first : ∀ c ∈ pattern.between.head?, decimal c = false
  last : ∀ c ∈ pattern.between.getLast?, decimal c = false
  after : ∀ c ∈ pattern.after.head?, decimal c = false

/-- A text that writes the number in at most so many digits. -/
structure Writes (width number : Nat) (text : List Char) : Prop where
  filled : 1 ≤ text.length
  few : text.length ≤ width
  digits : ∀ c ∈ text, c.isDigit = true
  value : Nat.ofDigitChars 10 text 0 = number

/-- The name is the pattern with the numbers written into it. -/
def Instance (pattern : NamePattern) (filename : List Char) (season episode : Nat) : Prop :=
  ∃ s e, Writes 2 season s ∧ Writes 3 episode e ∧ filename = pattern.fill s e

/-- The pattern with an episode in ASCII, and a season in digits of which some are not. -/
def ForeignSeason (pattern : NamePattern) (decimal : Char → Bool) (filename : List Char) : Prop :=
  ∃ s e, (1 ≤ s.length ∧ s.length ≤ 2 ∧ (∀ c ∈ s, decimal c = true) ∧ ∃ c ∈ s, c.isDigit = false) ∧
    (1 ≤ e.length ∧ e.length ≤ 3 ∧ ∀ c ∈ e, c.isDigit = true) ∧ filename = pattern.fill s e

end NamePattern

/-! ## The expression of a pattern -/

/-- A literal character of a pattern. -/
def literalPiece (c : Char) : Piece := .char c (decide (c ∈ special))

theorem plain_literalPiece (literal : c ≠ '\x7b' ∧ c ≠ '*' ∧ c ≠ '?') : (literalPiece c).Plain := by
  show decide (c ∈ special) = true ↔ c ∈ operators
  rw [decide_eq_true_iff]
  unfold special operators
  constructor
  all_goals
    intro member
    simp only [List.mem_cons, List.not_mem_nil, or_false] at member ⊢
    grind

theorem patternBody_literal {row rest : List Char} (literal : ∀ c ∈ row, c ≠ '\x7b' ∧ c ≠ '*' ∧ c ≠ '?') :
    patternBody 0 (row ++ rest) = (patternBody 0 rest).map ((row.map literalPiece).flatMap Piece.text ++ ·) := by
  induction row with
  | nil => simp
  | cons c _ ih =>
    obtain ⟨opened, star, mark⟩ := literal c List.mem_cons_self
    rw [List.cons_append, patternBody, if_neg opened, if_neg star, if_neg mark,
      ih fun d member => literal d (List.mem_cons_of_mem _ member), List.map_cons, List.flatMap_cons]
    by_cases escaped : c ∈ special
    · rw [if_pos escaped, Option.map_map]
      simp [literalPiece, Piece.text, escaped, Function.comp_def]
    · rw [if_neg escaped, Option.map_map]
      simp [literalPiece, Piece.text, escaped, Function.comp_def]

theorem patternBody_skip (skipped rest : List Char) : patternBody skipped.length (skipped ++ rest) = patternBody 0 rest := by
  induction skipped with
  | nil => rfl
  | cons c _ ih => rw [List.length_cons, List.cons_append, patternBody, ih]

theorem patternBody_token (spelled : Spelled) (rest : List Char) :
    patternBody 0 (spelled.text ++ rest) = (patternBody 0 rest).map (spelled.token.text ++ ·) := by
  have split : splitOnce ['\x7d'] (spelled.spelling ++ '\x7d' :: rest) = some (spelled.spelling, rest) :=
    splitOnce_char.mpr ⟨rfl, spelled.closed⟩
  have shape : spelled.text ++ rest = '\x7b' :: (spelled.spelling ++ '\x7d' :: rest) := by simp [Spelled.text]
  have skip := patternBody_skip (spelled.spelling ++ ['\x7d']) rest
  rw [List.length_append, List.append_assoc, List.singleton_append] at skip
  rw [shape, patternBody, if_pos rfl]
  simp only [split, spelled.known, Option.bind_eq_bind, Option.bind_some]
  rw [show spelled.spelling.length + 1 = spelled.spelling.length + ['\x7d'].length from rfl, skip]
  cases patternBody 0 rest <;> rfl

/-- The pieces of a pattern. -/
def NamePattern.pieces (pattern : NamePattern) : List Piece :=
  pattern.before.map literalPiece ++ (.token pattern.first.token :: (pattern.between.map literalPiece ++
    (.token pattern.second.token :: pattern.after.map literalPiece)))

theorem patternToRegex_pieces (pattern : NamePattern) :
    patternToRegex pattern.text = some ('^' :: (pattern.pieces.flatMap Piece.text ++ ['$'])) := by
  have literal {row : List Char} (within : row ⊆ pattern.before ++ pattern.between ++ pattern.after) :
      ∀ c ∈ row, c ≠ '\x7b' ∧ c ≠ '*' ∧ c ≠ '?' := fun c member => pattern.literal c (within member)
  have last : patternBody 0 pattern.after = some ((pattern.after.map literalPiece).flatMap Piece.text) := by
    have body := @patternBody_literal pattern.after [] (literal (List.subset_append_right _ _))
    rw [List.append_nil] at body
    rw [body]
    simp [patternBody]
  unfold patternToRegex NamePattern.text
  rw [patternBody_literal (literal fun c member => by simp [member]), patternBody_token,
    patternBody_literal (literal fun c member => by simp [member]), patternBody_token, last]
  simp [NamePattern.pieces, Piece.text]

/-! ## What the pieces match -/

section Pieces
variable {decimal : Char → Bool} {total : Nat} {row rest after : List Char} {groups more : List (GroupKey × List Char)}
  {pieces : List Piece} {t : Token}

theorem mem_literals (led : (after, groups) ∈ (piecesExpression decimal (row.map literalPiece ++ pieces)).walk total rest) :
    ∃ tail, rest = row ++ tail ∧ (after, groups) ∈ (piecesExpression decimal pieces).walk total tail := by
  induction row generalizing rest groups with
  | nil => exact ⟨rest, rfl, led⟩
  | cons _ _ ih =>
    obtain ⟨_, _, more, first, others, rfl⟩ := mem_seq.mp led
    obtain ⟨rfl, d, rfl, same⟩ := mem_one.mp first
    obtain ⟨tail, rfl, there⟩ := ih others
    obtain rfl := beq_iff_eq.mp same
    exact ⟨tail, rfl, there⟩

theorem best_literals (best : Best total (piecesExpression decimal pieces) rest (after, groups)) :
    Best total (piecesExpression decimal (row.map literalPiece ++ pieces)) (row ++ rest) (after, groups) := by
  induction row with
  | nil => exact best
  | cons c _ ih => exact Best.seq (best_one (beq_self_eq_true c)) ih

/-- Digits of a token, within its width. -/
def Fits (decimal : Char → Bool) (t : Token) (text : List Char) : Prop :=
  1 ≤ text.length ∧ text.length ≤ t.width ∧ ∀ c ∈ text, decimal c = true

theorem mem_token (led : (after, groups) ∈ (piecesExpression decimal (.token t :: pieces)).walk total rest) :
    ∃ text tail more, rest = text ++ tail ∧ Fits decimal t text ∧ groups = (.name t.name, text) :: more ∧
      (after, more) ∈ (piecesExpression decimal pieces).walk total tail := by
  obtain ⟨tail, _, more, counted, others, rfl⟩ := mem_seq.mp led
  obtain ⟨text, rfl, rfl, all, enough, few⟩ := mem_group_many.mp counted
  exact ⟨text, tail, more, rfl, ⟨enough, few _ rfl, all⟩, rfl, others⟩

/-- A token takes all digits that stand there. -/
theorem best_token (fits : Fits decimal t text) (stops : ∀ c ∈ rest.head?, decimal c = false)
    (best : Best total (piecesExpression decimal pieces) rest (after, more)) :
    Best total (piecesExpression decimal (.token t :: pieces)) (text ++ rest) (after, (.name t.name, text) :: more) :=
  (best_many fits.2.2 fits.1 (by rintro _ ⟨⟩; exact fits.2.1) (.inr stops)).group.seq best

end Pieces

/-! ## What a pattern matches -/

namespace NamePattern
variable {pattern : NamePattern} {decimal : Char → Bool} {total : Nat} {first second filename rest : List Char}
  {groups : List (GroupKey × List Char)}

theorem mem_pieces (led : (rest, groups) ∈ (piecesExpression decimal pattern.pieces).walk total filename) :
    ∃ first second, filename = pattern.write first second ∧ Fits decimal pattern.first.token first ∧
      Fits decimal pattern.second.token second := by
  obtain ⟨_, rfl, opened⟩ := mem_literals led
  obtain ⟨first, _, _, rfl, fits, -, parted⟩ := mem_token opened
  obtain ⟨_, rfl, between⟩ := mem_literals parted
  obtain ⟨second, _, _, rfl, fits', -, closing⟩ := mem_token between
  rw [← List.append_nil (pattern.after.map literalPiece)] at closing
  obtain ⟨_, rfl, ended⟩ := mem_literals closing
  obtain ⟨rfl, -⟩ := mem_finish.mp ended
  exact ⟨first, second, by simp [write], fits, fits'⟩

theorem best_pieces (apart : pattern.Apart decimal) (fits : Fits decimal pattern.first.token first)
    (fits' : Fits decimal pattern.second.token second) :
    Best total (piecesExpression decimal pattern.pieces) (pattern.write first second)
      ([], [(.name pattern.first.token.name, first), (.name pattern.second.token.name, second)]) := by
  have ended : Best total (piecesExpression decimal []) [] ([], []) := rfl
  have closing := @best_literals decimal total pattern.after [] [] [] [] ended
  rw [List.append_nil, List.append_nil] at closing
  have later := @best_literals decimal total pattern.between _ _ _ _ (best_token fits' apart.after closing)
  refine best_literals (best_token fits (fun c first => ?_) later)
  obtain ⟨d, between, shape⟩ := List.exists_cons_of_ne_nil apart.filled
  have head := apart.first
  rw [shape] at head first
  exact head c first

theorem plain_pieces (pattern : NamePattern) : ∀ piece ∈ pattern.pieces, piece.Plain := by
  have literal {row : List Char} (within : row ⊆ pattern.before ++ pattern.between ++ pattern.after) :
      ∀ piece ∈ row.map literalPiece, piece.Plain := by
    intro piece member
    obtain ⟨c, known, rfl⟩ := List.mem_map.mp member
    exact plain_literalPiece (pattern.literal c (within known))
  intro piece member
  unfold pieces at member
  rw [List.mem_append, List.mem_cons, List.mem_append, List.mem_cons] at member
  rcases member with before | rfl | between | rfl | after
  · exact literal (fun c member => by simp [member]) piece before
  · trivial
  · exact literal (fun c member => by simp [member]) piece between
  · trivial
  · exact literal (fun c member => by simp [member]) piece after

theorem nodup_tokens (pattern : NamePattern) : (pattern.pieces.filterMap Piece.token?).Nodup := by
  have none' (row : List Char) : (row.map literalPiece).filterMap Piece.token? = [] := by
    rw [List.filterMap_map]
    exact List.filterMap_eq_nil_iff.mpr fun c _ => rfl
  have shape : pattern.pieces.filterMap Piece.token? = [pattern.first.token, pattern.second.token] := by
    unfold pieces
    simp [none', Piece.token?]
  rw [shape]
  rcases pattern.tokens with ⟨one, two⟩ | ⟨one, two⟩ <;> rw [one, two] <;> decide

variable {regex : List Char → Option (List Char → Option (GroupKey → Option (List Char)))} {defaultSeason : Nat}

variable {season episode : List Char}

theorem exists_fill (fits : Fits decimal pattern.first.token first) (fits' : Fits decimal pattern.second.token second) :
    ∃ season episode, Fits decimal .season season ∧ Fits decimal .episode episode ∧
      pattern.write first second = pattern.fill season episode := by
  unfold fill
  rcases pattern.tokens with ⟨one, two⟩ | ⟨one, two⟩ <;> rw [one] at fits <;> rw [two] at fits' <;> rw [one]
  · exact ⟨first, second, fits, fits', rfl⟩
  · exact ⟨second, first, fits', fits, rfl⟩

theorem best_fill (apart : pattern.Apart decimal) (fits : Fits decimal .season season) (fits' : Fits decimal .episode episode)
    (total : Nat) : ∃ groups, Best total (piecesExpression decimal pattern.pieces) (pattern.fill season episode) ([], groups) ∧
      groups.lookup (.name "season".toList) = some season ∧ groups.lookup (.name "episode".toList) = some episode := by
  unfold fill
  rcases pattern.tokens with ⟨one, two⟩ | ⟨one, two⟩
  · have best := @best_pieces pattern decimal total season episode apart (one ▸ fits) (two ▸ fits')
    rw [one, two] at best
    rw [if_pos one]
    exact ⟨_, best, rfl, rfl⟩
  · have best := @best_pieces pattern decimal total episode season apart (one ▸ fits') (two ▸ fits)
    rw [one, two] at best
    rw [if_neg (by rw [one]; decide)]
    exact ⟨_, best, rfl, rfl⟩

/-- A name is a pattern with two texts in one way. -/
theorem fill_inj (apart : pattern.Apart decimal) (fits : Fits decimal .season season) (fits' : Fits decimal .episode episode)
    (other : Fits decimal .season season') (other' : Fits decimal .episode episode')
    (same : pattern.fill season episode = pattern.fill season' episode') : season = season' ∧ episode = episode' := by
  obtain ⟨groups, best, seasons, episodes⟩ := best_fill apart fits fits' 0
  obtain ⟨groups', best', seasons', episodes'⟩ := best_fill apart other other' 0
  rw [← same] at best'
  obtain ⟨-, rfl⟩ := Prod.mk.inj (Option.some.inj (best.symm.trans best'))
  exact ⟨Option.some.inj (seasons.symm.trans seasons'), Option.some.inj (episodes.symm.trans episodes')⟩

/-- What a pattern makes of a name that has digits in the places of its tokens. -/
theorem matchPattern_fill (compile : PiecesCompile regex decimal) (apart : pattern.Apart decimal)
    (fits : Fits decimal .season season) (fits' : Fits decimal .episode episode) :
    matchPattern regex pattern.text (pattern.fill season episode) defaultSeason =
      (parseBelow (2 ^ 32) episode).map fun e => ((parseBelow (2 ^ 32) season).getD defaultSeason, e, none) := by
  obtain ⟨captures, compiles, agrees⟩ := compile pattern.pieces pattern.plain_pieces pattern.nodup_tokens
  obtain ⟨groups, best, seasons, episodes⟩ := best_fill apart fits fits' (pattern.fill season episode).length
  rw [← List.append_nil (pattern.fill season episode)] at best
  have found := search_start_eq_some best
  rw [List.append_nil] at found
  have same := agrees (pattern.fill season episode)
  rw [captures_eq_some found, Option.map_some] at same
  obtain ⟨caps, caught, named⟩ := Option.map_eq_some_iff.mp same
  have seasoned : caps (.name "season".toList) = some season := (congrFun named _).trans seasons
  have numbered : caps (.name "episode".toList) = some episode := (congrFun named _).trans episodes
  unfold matchPattern
  simp only [patternToRegex_pieces, compiles, caught, seasoned, numbered, Option.bind_eq_bind, Option.bind_some]
  cases parseBelow (2 ^ 32) episode <;> rfl

theorem matchPattern_other (compile : PiecesCompile regex decimal)
    (other : ∀ season episode, Fits decimal .season season → Fits decimal .episode episode →
      filename ≠ pattern.fill season episode) : matchPattern regex pattern.text filename defaultSeason = none := by
  obtain ⟨captures, compiles, agrees⟩ := compile pattern.pieces pattern.plain_pieces pattern.nodup_tokens
  have fails : (piecesExpression decimal pattern.pieces).walk filename.length filename = [] := by
    refine walk_eq_nil fun after groups led => ?_
    obtain ⟨first, second, same, fits, fits'⟩ := mem_pieces led
    obtain ⟨season, episode, seasons, episodes, filled⟩ := exists_fill fits fits'
    exact other season episode seasons episodes (same.trans filled)
  have uncaught : captures filename = none := by
    have same := agrees filename
    rw [captures_eq_none (search_start_eq_none fails)] at same
    exact Option.map_eq_none_iff.mp same
  unfold matchPattern
  simp only [patternToRegex_pieces, compiles, uncaught, Option.bind_eq_bind, Option.bind_some, Option.bind_none]

/-! ## Exact answers -/

/-- The answer to a name is exact: the numbers that are written into the pattern, or nothing. -/
structure Exact (regex : List Char → Option (List Char → Option (GroupKey → Option (List Char)))) (pattern : NamePattern)
    (filename : List Char) (defaultSeason : Nat) : Prop where
  matched : ∀ season episode, pattern.Instance filename season episode →
    matchPattern regex pattern.text filename defaultSeason = some (season, episode, none)
  unmatched : (∀ season episode, ¬ pattern.Instance filename season episode) →
    matchPattern regex pattern.text filename defaultSeason = none

theorem Writes.fits (of : Decimal decimal) {t : Token} {number : Nat} {text : List Char} (writes : Writes t.width number text) :
    Fits decimal t text := ⟨writes.filled, writes.few, fun c member => of.digit (writes.digits c member)⟩

theorem Writes.read {width number : Nat} {text : List Char} (writes : Writes width number text) (narrow : width ≤ 3) :
    parseBelow (2 ^ 32) text = some number := by
  have few := (Nat.pow_le_pow_right (by decide : 0 < 10) (writes.few.trans narrow)).trans (by decide : 10 ^ 3 ≤ 2 ^ 32)
  rw [parse_digits (List.length_pos_iff.mp writes.filled) writes.digits few, writes.value]

/-- Digits of which some are not of ASCII are no number. -/
theorem unread_of_foreign (of : Decimal decimal) {text : List Char} (digits : ∀ c ∈ text, decimal c = true)
    (foreign : ∃ c ∈ text, c.isDigit = false) : parseBelow (2 ^ 32) text = none := by
  cases parsed : parseBelow (2 ^ 32) text with
  | none => rfl
  | some =>
    obtain ⟨c, member, other⟩ := foreign
    have unsigned : '+' ∉ text := fun plus => absurd (digits _ plus) (by rw [of.other (by decide)]; decide)
    rw [(digits_of_parse parsed unsigned).2 c member] at other
    cases other

theorem ascii_or_foreign (text : List Char) : (∀ c ∈ text, c.isDigit = true) ∨ ∃ c ∈ text, c.isDigit = false := by
  by_cases all : ∀ c ∈ text, c.isDigit = true
  · exact .inl all
  · obtain ⟨c, apart⟩ := not_forall.mp all
    obtain ⟨member, other⟩ := Classical.not_imp.mp apart
    exact .inr ⟨c, member, Bool.eq_false_of_not_eq_true other⟩

/-- A pattern's answer to a name is exact but where the season of the name is in other digits than those of
ASCII: it is taken for the default then. -/
theorem pattern_exact_iff (regex : List Char → Option (List Char → Option (GroupKey → Option (List Char))))
    (decimal : Char → Bool) (of : Decimal decimal) (compile : PiecesCompile regex decimal) (pattern : NamePattern)
    (apart : pattern.Apart decimal) (filename : List Char) (defaultSeason : Nat) :
    Exact regex pattern filename defaultSeason ↔ ¬ pattern.ForeignSeason decimal filename := by
  by_cases shape : ∃ season episode, Fits decimal .season season ∧ Fits decimal .episode episode ∧
      filename = pattern.fill season episode
  · obtain ⟨season, episode, fits, fits', rfl⟩ := shape
    have unique {season' episode' : List Char} (other : Fits decimal .season season') (other' : Fits decimal .episode episode')
        (same : pattern.fill season episode = pattern.fill season' episode') : season = season' ∧ episode = episode' :=
      fill_inj apart fits fits' other other' same
    have answer : matchPattern regex pattern.text (pattern.fill season episode) defaultSeason =
        (parseBelow (2 ^ 32) episode).map fun e => ((parseBelow (2 ^ 32) season).getD defaultSeason, e, none) :=
      matchPattern_fill compile apart fits fits'
    have written {s e : Nat} (held : pattern.Instance (pattern.fill season episode) s e) :
        Writes 2 s season ∧ Writes 3 e episode := by
      obtain ⟨season', episode', writes, writes', same⟩ := held
      obtain ⟨rfl, rfl⟩ := unique (Writes.fits of writes) (Writes.fits of writes') same
      exact ⟨writes, writes'⟩
    rcases ascii_or_foreign episode with ascii | foreign
    · have numbered : Writes 3 (Nat.ofDigitChars 10 episode 0) episode := ⟨fits'.1, fits'.2.1, ascii, rfl⟩
      rw [numbered.read le_rfl, Option.map_some] at answer
      rcases ascii_or_foreign season with ascii' | foreign'
      · have seasoned : Writes 2 (Nat.ofDigitChars 10 season 0) season := ⟨fits.1, fits.2.1, ascii', rfl⟩
        rw [seasoned.read (by decide), Option.getD_some] at answer
        refine iff_of_true ⟨fun s e held => ?_, fun none' => ?_⟩ ?_
        · obtain ⟨writes, writes'⟩ := written held
          rw [answer, writes.value, writes'.value]
        · exact absurd ⟨season, episode, seasoned, numbered, rfl⟩ (none' _ _)
        · rintro ⟨season', episode', ⟨one, two, digits, c, member, other⟩, ⟨one', three, digits'⟩, same⟩
          obtain ⟨rfl, -⟩ := unique ⟨one, two, digits⟩ ⟨one', three, fun d within => of.digit (digits' d within)⟩ same
          rw [ascii' c member] at other
          cases other
      · refine iff_of_false (fun exact' => ?_) (not_not.mpr ?_)
        · have none' := exact'.unmatched fun s e held => by
            obtain ⟨c, member, other⟩ := foreign'
            rw [(written held).1.digits c member] at other
            cases other
          rw [answer] at none'
          cases none'
        · exact ⟨season, episode, ⟨fits.1, fits.2.1, fits.2.2, foreign'⟩, ⟨fits'.1, fits'.2.1, ascii⟩, rfl⟩
    · rw [unread_of_foreign of fits'.2.2 foreign, Option.map_none] at answer
      obtain ⟨c, member, other⟩ := foreign
      refine iff_of_true ⟨fun s e held => ?_, fun _ => answer⟩ ?_
      · rw [(written held).2.digits c member] at other
        cases other
      · rintro ⟨season', episode', ⟨one, two, digits, -⟩, ⟨one', three, digits'⟩, same⟩
        obtain ⟨-, rfl⟩ := unique ⟨one, two, digits⟩ ⟨one', three, fun d within => of.digit (digits' d within)⟩ same
        rw [digits' c member] at other
        cases other
  · have answer : matchPattern regex pattern.text filename defaultSeason = none :=
      matchPattern_other compile fun season episode fits fits' same => shape ⟨season, episode, fits, fits', same⟩
    refine iff_of_true ⟨fun s e held => ?_, fun _ => answer⟩ ?_
    · obtain ⟨season, episode, writes, writes', same⟩ := held
      exact absurd ⟨season, episode, Writes.fits of writes, Writes.fits of writes', same⟩ shape
    · rintro ⟨season, episode, ⟨one, two, digits, -⟩, ⟨one', three, digits'⟩, same⟩
      exact shape ⟨season, episode, ⟨one, two, digits⟩, ⟨one', three, fun c member => of.digit (digits' c member)⟩, same⟩

end NamePattern

/-! ## A reader of such expressions -/

/-- The pieces of an expression, up to its end. -/
def readPieces : Nat → List Char → Option (List Piece)
  | 0, _ => none
  | fuel + 1, text =>
    if text = ['$'] then some []
    else match text with
      | [] => none
      | '(' :: _ =>
        let t : Token := if text.take 6 = "(?P<se".toList then .season
          else if text.take 6 = "(?P<ep".toList then .episode else .special
        (readPieces fuel (text.drop t.text.length)).map (.token t :: ·)
      | '\\' :: c :: rest => (readPieces fuel rest).map (.char c true :: ·)
      | c :: rest => (readPieces fuel rest).map (.char c false :: ·)

/-- The expressions of plain pieces alone. -/
def pieceRegex (decimal : Char → Bool) : List Char → Option (List Char → Option (GroupKey → Option (List Char)))
  | '^' :: body =>
    (readPieces body.length body).map fun pieces => (seq start (piecesExpression decimal pieces)).captures
  | _ => none

theorem readPieces_text (plain : ∀ piece ∈ pieces, piece.Plain) {fuel : Nat}
    (enough : pieces.length < fuel) : readPieces fuel (pieces.flatMap Piece.text ++ ['$']) = some pieces := by
  induction pieces generalizing fuel with
  | nil =>
    obtain ⟨fuel, rfl⟩ := Nat.exists_eq_add_of_lt enough
    rfl
  | cons piece pieces ih =>
    obtain ⟨fuel, rfl⟩ : ∃ n, fuel = n + 1 := ⟨fuel - 1, by omega⟩
    have later := @ih (fun other member => plain other (List.mem_cons_of_mem _ member)) fuel
      (by rw [List.length_cons] at enough; omega)
    have first := plain piece List.mem_cons_self
    rw [List.flatMap_cons, List.append_assoc]
    generalize pieces.flatMap Piece.text ++ ['$'] = rest at later ⊢
    cases piece with
    | token t =>
      have read : readPieces (fuel + 1) (t.text ++ rest) =
          (readPieces fuel ((t.text ++ rest).drop t.text.length)).map (.token t :: ·) := by
        cases t <;> rfl
      rw [List.drop_left, later] at read
      exact read
    | char c escaped =>
      cases escaped with
      | true =>
        have read : readPieces (fuel + 1) ('\\' :: c :: rest) = (readPieces fuel rest).map (.char c true :: ·) := by
          rw [readPieces, if_neg (by simp)]
        rw [later] at read
        exact read
      | false =>
        have apart : c ∉ operators := fun member => by cases first.mpr member
        have read : readPieces (fuel + 1) (c :: rest) = (readPieces fuel rest).map (.char c false :: ·) := by
          have ended : c :: rest ≠ ['$'] := by
            intro same
            obtain ⟨rfl, -⟩ := List.cons.inj same
            exact apart (by decide)
          rw [readPieces, if_neg ended]
          · rintro rfl
            exact apart (by decide)
          · rintro d tail rfl
            exact absurd (by decide) apart
        rw [later] at read
        exact read

theorem length_text (pieces : List Piece) : pieces.length ≤ (pieces.flatMap Piece.text).length := by
  induction pieces with
  | nil => exact Nat.zero_le _
  | cons piece =>
    have some' : 1 ≤ piece.text.length := by
      cases piece with
      | char c escaped => cases escaped <;> simp [Piece.text]
      | token t => cases t <;> decide
    rw [List.length_cons, List.flatMap_cons, List.length_append]
    omega

theorem pieceRegex_compile (decimal : Char → Bool) : PiecesCompile (pieceRegex decimal) decimal := by
  intro pieces plain _
  refine ⟨(seq start (piecesExpression decimal pieces)).captures, ?_, fun text => rfl⟩
  have long := length_text pieces
  show (readPieces _ (pieces.flatMap Piece.text ++ ['$'])).map _ = _
  rw [readPieces_text plain (by rw [List.length_append]; exact Nat.lt_succ_of_le long)]
  rfl

/-- `S\x7bs\x7dE\x7be\x7d.mkv`. -/
def samplePattern : NamePattern where
  before := "S".toList
  first := ⟨.season, "s".toList, by decide, rfl⟩
  between := "E".toList
  second := ⟨.episode, "e".toList, by decide, rfl⟩
  after := ".mkv".toList
  literal := by decide
  tokens := .inl ⟨rfl, rfl⟩

theorem sample_apart (of : Decimal decimal) : samplePattern.Apart decimal where
  before := by
    rintro c ⟨⟩
    exact of.other (by decide)
  filled := by decide
  first := by
    rintro c ⟨⟩
    exact of.other (by decide)
  last := by
    rintro c ⟨⟩
    exact of.other (by decide)
  after := by
    rintro c ⟨⟩
    exact of.other (by decide)

/-- `S1E05.mkv`. -/
theorem sample_exact : NamePattern.Exact (pieceRegex Char.isDigit) samplePattern "S1E05.mkv".toList 1 := by
  refine (NamePattern.pattern_exact_iff (pieceRegex Char.isDigit) Char.isDigit decimal_isDigit
    (pieceRegex_compile Char.isDigit) samplePattern (sample_apart decimal_isDigit) "S1E05.mkv".toList 1).mpr ?_
  rintro ⟨season, episode, ⟨-, -, digits, c, member, other⟩, -⟩
  rw [digits c member] at other
  cases other

/-- The digits of ASCII and one more. -/
def arabicThree (c : Char) : Bool := c.isDigit || c == '٣'

theorem decimal_arabicThree : Decimal arabicThree where
  ascii c low := by
    have other : (c == '٣') = false := by
      rw [beq_eq_false_iff_ne]
      rintro rfl
      exact absurd low (by decide)
    rw [arabicThree, other, Bool.or_false]
  visible c space := by
    have other : (c == '٣') = false := by
      rw [beq_eq_false_iff_ne]
      rintro rfl
      exact absurd space (by decide)
    rw [arabicThree, other, Bool.or_false]
    exact (decimal_isDigit.visible c space)

/-- `S٣E05.mkv` is the fifth episode of the default season. -/
theorem foreign_season_matched : ¬ ∀ (regex : List Char → Option (List Char → Option (GroupKey → Option (List Char))))
    (decimal : Char → Bool), Decimal decimal → PiecesCompile regex decimal → ∀ pattern : NamePattern,
    pattern.Apart decimal → ∀ (filename : List Char) (defaultSeason : Nat),
    NamePattern.Exact regex pattern filename defaultSeason := by
  intro all
  have exact' := all (pieceRegex arabicThree) arabicThree decimal_arabicThree (pieceRegex_compile arabicThree)
    samplePattern (sample_apart decimal_arabicThree) (samplePattern.fill ['٣'] ['0', '5']) 1
  have fits : Fits arabicThree .season ['٣'] := ⟨by decide, by decide, by decide⟩
  have fits' : Fits arabicThree .episode ['0', '5'] := ⟨by decide, by decide, by decide⟩
  have none' := exact'.unmatched fun s e ⟨season, episode, writes, writes', same⟩ => by
    obtain ⟨rfl, -⟩ := NamePattern.fill_inj (sample_apart decimal_arabicThree) fits fits'
      (NamePattern.Writes.fits decimal_arabicThree writes) (NamePattern.Writes.fits decimal_arabicThree writes') same
    exact absurd (writes.digits '٣' List.mem_cons_self) (by decide)
  rw [NamePattern.matchPattern_fill (pieceRegex_compile arabicThree) (sample_apart decimal_arabicThree) fits fits'] at none'
  exact absurd none' (by decide)

end Duskcue.MediaMatching
