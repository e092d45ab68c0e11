import Duskcue.PlaybackSchema
import Duskcue.Text

/-! Which media a profile may see. The rule is written twice: as a check on one item
before it is played, and as a condition of the query that lists items. Both read the
rating that a provider wrote, whatever its text. -/
namespace Duskcue.MediaAccess
open Playback (Uuid Time)
open Transaction Text

inductive ProfilesError
  | contentNotAllowed
  | invalidContentRating (value : List Char)

structure ProfileScope where
  profileType : String
  maxContentRating : List Char
  libraryIds : List Uuid
  userLibraryIds : List Uuid
  hasAllLibraryAccess : Bool

structure Library where
  deletedAt : Option Time

structure MediaItem where
  libraryId : Uuid
  contentRating : Option (List Char)

structure Store where
  libraries : Table Uuid Library
  mediaItems : Table Uuid MediaItem

/-! ## The check -/

def contentRatings : List String :=
  ["TV-Y", "TV-Y7", "G", "TV-G", "PG", "TV-PG", "PG-13", "TV-14", "R", "TV-MA", "NC-17"]

/-- `str::to_ascii_uppercase`. -/
def toAsciiUppercase (text : List Char) : List Char := text.map Char.toUpper

def canonicalContentRating (value : List Char) : Except ProfilesError String :=
  let normalized := String.ofList (toAsciiUppercase (trim value))
  match normalized with
  | "TVY" | "TV-Y" => .ok "TV-Y"
  | "TVY7" | "TV-Y7" | "TV-Y7-FV" => .ok "TV-Y7"
  | "G" | "TVG" | "TV-G" => if normalized.startsWith "TV" then .ok "TV-G" else .ok "G"
  | "PG" => .ok "PG"
  | "TVPG" | "TV-PG" => .ok "TV-PG"
  | "PG13" | "PG-13" => .ok "PG-13"
  | "TV14" | "TV-14" => .ok "TV-14"
  | "R" => .ok "R"
  | "TVMA" | "TV-MA" => .ok "TV-MA"
  | "NC17" | "NC-17" => .ok "NC-17"
  | _ => .error (.invalidContentRating value)

/-- `split([' ', ':']).next()`. -/
def firstPiece (text : List Char) : List Char := text.takeWhile fun c => c ≠ ' ' && c ≠ ':'

def contentRatingRank (value : List Char) : Option Nat :=
  (canonicalContentRating (firstPiece (toAsciiUppercase (trim value)))).toOption.bind fun rating =>
    contentRatings.findIdx? (· = rating)

def isKids (scope : ProfileScope) : Bool := scope.profileType = "kids"

def isMediaAllowed (scope : ProfileScope) (libraryId : Uuid) (contentRating : Option (List Char)) : Bool :=
  let userAllowsLibrary := scope.hasAllLibraryAccess || scope.userLibraryIds.contains libraryId
  if !userAllowsLibrary then false
  else if !isKids scope then true
  else if !scope.libraryIds.contains libraryId then false
  else
    match contentRating.bind contentRatingRank, contentRatingRank scope.maxContentRating with
    | some actualRank, some maxRank => actualRank ≤ maxRank
    | _, _ => false

def assertMediaAccessOnConnection (scope : ProfileScope) (mediaItemId : Uuid) :
    Transaction Store ProfilesError Unit := do
  let s ← get
  let item ← demand ((s.mediaItems.find mediaItemId).filter fun item =>
    (s.libraries.find item.libraryId).any fun library => library.deletedAt.isNone) .contentNotAllowed
  ensure (isMediaAllowed scope item.libraryId item.contentRating) .contentNotAllowed

/-! ## The query -/

/-- The white space that the query trims. -/
def trimmedSpaces : List Char :=
  [' ', '\t', '\n', '\r', '\u000b', '\u000c', '\u0085', '\u00a0', '\u1680', '\u2000', '\u2001', '\u2002', '\u2003',
    '\u2004', '\u2005', '\u2006', '\u2007', '\u2008', '\u2009', '\u200a', '\u2028', '\u2029', '\u202f', '\u205f', '\u3000']

/-- The names of ratings in the query, with their ranks. -/
def ratingAliases : List (String × Nat) :=
  [("TVY", 0), ("TV-Y", 0), ("TVY7", 1), ("TV-Y7", 1), ("TV-Y7-FV", 1), ("G", 2), ("TVG", 3), ("TV-G", 3), ("PG", 4),
    ("TVPG", 5), ("TV-PG", 5), ("PG13", 6), ("PG-13", 6), ("TV14", 7), ("TV-14", 7), ("R", 8), ("TVMA", 9),
    ("TV-MA", 9), ("NC17", 10), ("NC-17", 10)]

/-- An ASCII character that every locale raises in the same way. The letter `i` is none: a
Turkish locale puts a dot on it. -/
def plain (c : Char) : Bool := c.toNat < 128 && c ≠ 'i'

/-- The locale of the database, as `upper` uses it. The letters of other scripts are not
raised to anything that a rating is written with: neither `I` nor a letter with a mark or
from another script, nor two letters in a row for a ligature, occur in the name of one. -/
structure Locale where
  upper : Char → List Char
  upper_plain : ∀ c, plain c = true → upper c = [c.toUpper]
  upper_other : ∀ c, plain c = false → ' ' ∉ upper c ∧ ':' ∉ upper c ∧ ∀ entry ∈ ratingAliases, ¬ upper c <:+: entry.1.toList

/-- `btrim(text, characters)`. -/
def btrim (text characters : List Char) : List Char :=
  (text.dropWhile characters.contains).rdropWhile characters.contains

/-- `split_part(text, delimiter, 1)`. -/
def splitPart (text : List Char) (delimiter : Char) : List Char := text.takeWhile (· ≠ delimiter)

/-- `CASE ... WHEN name THEN rank ... ELSE NULL END`. -/
def caseRank (name : List Char) : Option Nat := (ratingAliases.find? fun entry => entry.1 = String.ofList name).map (·.2)

/-- The rank of a rating in the query; `none` is `NULL`. -/
def queryRank (locale : Locale) (contentRating : Option (List Char)) : Option Nat :=
  contentRating.bind fun text =>
    caseRank (splitPart (splitPart ((btrim text trimmedSpaces).flatMap locale.upper) ' ') ':')

/-- `push_library_scope`. -/
def libraryScope (scope : ProfileScope) (libraryId : Uuid) : Bool :=
  (scope.hasAllLibraryAccess || scope.userLibraryIds.contains libraryId) &&
    (!isKids scope || scope.libraryIds.contains libraryId)

/-- The bound of the query, below every rank where the rating of the profile has none. -/
def queryBound (scope : ProfileScope) : Int := (contentRatingRank scope.maxContentRating).elim (-1) fun rank => rank

/-- `allowed_media` of `scoped_media_query`. A comparison with `NULL` is not true. -/
def allowedMedia (locale : Locale) (s : Store) (scope : ProfileScope) : List Uuid :=
  s.mediaItems.select fun _ item =>
    (s.libraries.find item.libraryId).any (fun library => library.deletedAt.isNone) &&
      libraryScope scope item.libraryId &&
      (!isKids scope || (queryRank locale item.contentRating).any fun rank => (rank : Int) ≤ queryBound scope)

/-! ## Characters -/

theorem trimmedSpaces_contains (c : Char) : trimmedSpaces.contains c = isWhitespace c := by
  rw [Bool.eq_iff_iff, List.contains_iff_mem]
  have listed : c ∈ trimmedSpaces ↔ c.toNat ∈ trimmedSpaces.map Char.toNat := by
    rw [List.mem_map]
    exact ⟨fun member => ⟨c, member, rfl⟩, fun ⟨d, member, same⟩ => Char.toNat_inj.mp same ▸ member⟩
  have numbers : trimmedSpaces.map Char.toNat =
      [32, 9, 10, 13, 11, 12, 0x85, 0xA0, 0x1680, 0x2000, 0x2001, 0x2002, 0x2003, 0x2004, 0x2005, 0x2006, 0x2007, 0x2008,
        0x2009, 0x200A, 0x2028, 0x2029, 0x202F, 0x205F, 0x3000] := by
    decide
  rw [listed, numbers]
  simp only [List.mem_cons, List.not_mem_nil, or_false, isWhitespace, Bool.or_eq_true, Bool.and_eq_true, decide_eq_true_eq]
  omega

theorem btrim_eq_trim (text : List Char) : btrim text trimmedSpaces = trim text := by
  have same : trimmedSpaces.contains = isWhitespace := funext trimmedSpaces_contains
  unfold btrim trim trimEnd
  rw [same]

def smallLetters : List Char := "abcdefghijklmnopqrstuvwxyz".toList

theorem small_or_fixed (c : Char) : c ∈ smallLetters ∨ c.toUpper = c := by
  unfold Char.toUpper
  split
  · rename_i bounds
    left
    have listed : c.toNat ∈ smallLetters.map Char.toNat := by
      have numbers : smallLetters.map Char.toNat = List.range' 97 26 := by decide
      have low : 97 ≤ c.toNat := bounds.1
      have high : c.toNat ≤ 122 := bounds.2
      rw [numbers, List.mem_range'_1]
      omega
    obtain ⟨d, member, same⟩ := List.mem_map.mp listed
    exact Char.toNat_inj.mp same ▸ member
  · exact .inr rfl

theorem toUpper_toUpper (c : Char) : c.toUpper.toUpper = c.toUpper := by
  rcases small_or_fixed c with small | fixed
  · have each : ∀ c ∈ smallLetters, c.toUpper.toUpper = c.toUpper := List.all_iff_forall_prop.mp (by decide)
    exact each c small
  · rw [fixed, fixed]

theorem isWhitespace_toUpper (c : Char) : isWhitespace c.toUpper = isWhitespace c := by
  rcases small_or_fixed c with small | fixed
  · have each : ∀ c ∈ smallLetters, isWhitespace c.toUpper = isWhitespace c := List.all_iff_forall_prop.mp (by decide)
    exact each c small
  · rw [fixed]

/-- The end of the first piece. -/
def separates (c : Char) : Bool := c = ' ' || c = ':'

theorem separates_toUpper (c : Char) : separates c.toUpper = separates c := by
  rcases small_or_fixed c with small | fixed
  · have each : ∀ c ∈ smallLetters, separates c.toUpper = separates c := List.all_iff_forall_prop.mp (by decide)
    exact each c small
  · rw [fixed]

theorem plain_of_separates (separator : separates c = true) : plain c = true := by
  unfold separates at separator
  rcases (Bool.or_eq_true _ _).mp separator with space | colon
  · rw [of_decide_eq_true space]
    decide
  · rw [of_decide_eq_true colon]
    decide

/-- A rating is written with characters that are raised alike everywhere, and none of them
is white space. -/
theorem plain_of_alias (listed : entry ∈ ratingAliases) {c : Char}
    (member : c.toUpper ∈ entry.1.toList) : plain c = true ∧ isWhitespace c = false := by
  have each : ∀ entry ∈ ratingAliases,
      (entry.1.toList.all fun c => c ≠ 'I' ∧ plain c = true ∧ isWhitespace c = false) = true := by decide +kernel
  obtain ⟨other, raised, visible⟩ := List.all_iff_forall_prop.mp (each entry listed) _ member
  rw [isWhitespace_toUpper] at visible
  refine ⟨?_, visible⟩
  rcases small_or_fixed c with small | fixed
  · have letters : ∀ c ∈ smallLetters, c.toUpper ≠ 'I' → plain c = true :=
      List.all_iff_forall_prop.mp (by decide)
    exact letters c small other
  · rw [fixed] at raised
    exact raised

/-! ## Pieces -/

theorem firstPiece_eq (text : List Char) : firstPiece text = text.takeWhile fun c => !separates c := by
  have same : (fun c : Char => (c ≠ ' ' && c ≠ ':' : Bool)) = fun c => !separates c := by
    funext c
    simp [separates]
  unfold firstPiece
  rw [same]

/-- The two splits of the query end the text where the one split does. -/
theorem splitPart_splitPart (text : List Char) : splitPart (splitPart text ' ') ':' = firstPiece text := by
  unfold splitPart firstPiece
  rw [List.takeWhile_takeWhile]
  congr 1
  funext c
  simp [and_comm]

theorem firstPiece_toAsciiUppercase (text : List Char) :
    firstPiece (toAsciiUppercase text) = toAsciiUppercase (firstPiece text) := by
  rw [firstPiece_eq, firstPiece_eq]
  unfold toAsciiUppercase
  rw [List.takeWhile_map]
  congr 2
  funext c
  simp [separates_toUpper]

theorem firstPiece_upper (locale : Locale) (text : List Char) :
    firstPiece (text.flatMap locale.upper) = (firstPiece text).flatMap locale.upper := by
  rw [firstPiece_eq, firstPiece_eq]
  induction text with
  | nil => rfl
  | cons c _ ih =>
    rw [List.flatMap_cons]
    cases separator : separates c with
    | true =>
      rw [locale.upper_plain c (plain_of_separates separator)]
      simp [separator, separates_toUpper]
    | false =>
      have inside : ∀ d ∈ locale.upper c, (!separates d) = true := by
        intro d member
        cases ordinary : plain c with
        | true =>
          rw [locale.upper_plain c ordinary, List.mem_singleton] at member
          rw [member, separates_toUpper, separator]
          rfl
        | false =>
          obtain ⟨space, colon, -⟩ := locale.upper_other c ordinary
          have noSpace : d ≠ ' ' := fun same => space (same ▸ member)
          have noColon : d ≠ ':' := fun same => colon (same ▸ member)
          simp [separates, noSpace, noColon]
      rw [List.takeWhile_append_of_pos inside, ih]
      simp [separator]

/-! ## Ranks -/

theorem caseRank_eq_none (unlisted : ∀ entry ∈ ratingAliases, entry.1.toList ≠ name) :
    caseRank name = none := by
  unfold caseRank
  rw [Option.map_eq_none_iff, List.find?_eq_none]
  intro entry listed same
  refine unlisted entry listed ?_
  rw [of_decide_eq_true same, String.toList_ofList]

/-- The names of ratings are read alike in every locale. -/
theorem caseRank_upper (locale : Locale) (name : List Char) :
    caseRank (name.flatMap locale.upper) = caseRank (toAsciiUppercase name) := by
  by_cases ordinary : ∀ c ∈ name, plain c = true
  · have same : name.flatMap locale.upper = toAsciiUppercase name := by
      unfold toAsciiUppercase
      rw [← List.flatMap_singleton' (name.map Char.toUpper), List.flatMap_map]
      exact List.flatMap_congr fun c member => locale.upper_plain c (ordinary c member)
    rw [same]
  · obtain ⟨c, member, foreign⟩ := not_forall₂.mp ordinary
    have foreign : plain c = false := by simpa using foreign
    have raised : caseRank (toAsciiUppercase name) = none := by
      refine caseRank_eq_none fun entry listed same => ?_
      have inside : c.toUpper ∈ entry.1.toList := by
        rw [same]
        exact List.mem_map_of_mem member
      rw [(plain_of_alias listed inside).1] at foreign
      cases foreign
    have localised : caseRank (name.flatMap locale.upper) = none := by
      refine caseRank_eq_none fun entry listed same => ?_
      obtain ⟨front, back, rfl⟩ := List.append_of_mem member
      refine (locale.upper_other c foreign).2.2 entry listed ⟨front.flatMap locale.upper, back.flatMap locale.upper, ?_⟩
      rw [same]
      simp
    rw [raised, localised]

/-- The two tables of names are the same. -/
theorem rank_canonical (value : List Char) :
    ((canonicalContentRating value).toOption.bind fun rating => contentRatings.findIdx? (· = rating)) =
      caseRank (toAsciiUppercase (trim value)) := by
  unfold canonicalContentRating caseRank
  generalize String.ofList (toAsciiUppercase (trim value)) = name
  dsimp only
  split
  case h_21 =>
    have unlisted : ratingAliases.find? (fun entry => entry.1 = name) = none := by
      rw [List.find?_eq_none]
      simp only [ratingAliases, List.mem_cons, List.not_mem_nil, or_false, decide_eq_true_eq]
      rintro entry listed rfl
      rcases listed with rfl | rfl | rfl | rfl | rfl | rfl | rfl | rfl | rfl | rfl | rfl | rfl | rfl | rfl | rfl | rfl |
        rfl | rfl | rfl | rfl <;> contradiction
    rw [unlisted]
    rfl
  all_goals decide +kernel

theorem trim_toAsciiUppercase (text : List Char) : trim (toAsciiUppercase text) = toAsciiUppercase (trim text) := by
  have same : isWhitespace ∘ Char.toUpper = isWhitespace := funext isWhitespace_toUpper
  unfold trim trimEnd toAsciiUppercase List.rdropWhile
  rw [List.dropWhile_map, same, ← List.map_reverse, List.dropWhile_map, same, List.map_reverse]

theorem toAsciiUppercase_twice (text : List Char) : toAsciiUppercase (toAsciiUppercase text) = toAsciiUppercase text := by
  unfold toAsciiUppercase
  rw [List.map_map]
  exact List.map_congr_left fun c _ => toUpper_toUpper c

/-- The check trims the first piece once more. -/
theorem contentRatingRank_eq (text : List Char) :
    contentRatingRank text = caseRank (toAsciiUppercase (trim (firstPiece (trim text)))) := by
  unfold contentRatingRank
  rw [rank_canonical, firstPiece_toAsciiUppercase, trim_toAsciiUppercase, toAsciiUppercase_twice]

theorem queryRank_eq (locale : Locale) (text : List Char) :
    queryRank locale (some text) = caseRank (toAsciiUppercase (firstPiece (trim text))) := by
  unfold queryRank
  rw [Option.bind_some, btrim_eq_trim, splitPart_splitPart, firstPiece_upper, caseRank_upper]

theorem head_trim (shape : trim text = c :: rest) : isWhitespace c = false := by
  have starts : trim text <+: text.dropWhile isWhitespace := List.rdropWhile_prefix _ _
  rw [shape] at starts
  obtain ⟨back, whole⟩ := starts
  have head := List.head?_dropWhile_not isWhitespace text
  rw [← whole] at head
  simpa using head

/-- The first piece of a trimmed text starts where the text does. -/
theorem trim_firstPiece (text : List Char) : trim (firstPiece (trim text)) = trimEnd (firstPiece (trim text)) := by
  have begun : (firstPiece (trim text)).dropWhile isWhitespace = firstPiece (trim text) := by
    cases shape : trim text with
    | nil => rfl
    | cons =>
      rw [firstPiece_eq, List.takeWhile_cons]
      split
      · exact List.dropWhile_cons_of_neg (by simp [head_trim shape])
      · rfl
  exact congrArg trimEnd begun

/-- The first piece of the rating ends in white space of another kind. -/
def blankEnd (rating : List Char) : Bool := (firstPiece (trim rating)).getLast?.any isWhitespace

theorem queryRank_of_blankEnd (blank : blankEnd text = true) : queryRank locale (some text) = none := by
  rw [queryRank_eq]
  obtain ⟨c, last, white⟩ := (Option.any_eq_true _ _).mp blank
  refine caseRank_eq_none fun entry listed same => ?_
  have inside : c.toUpper ∈ entry.1.toList := by
    rw [same]
    exact List.mem_map_of_mem (List.mem_of_getLast? last)
  rw [(plain_of_alias listed inside).2] at white
  cases white

theorem queryRank_of_not_blankEnd (blank : blankEnd text = false) :
    queryRank locale (some text) = contentRatingRank text := by
  have whole : trimEnd (firstPiece (trim text)) = firstPiece (trim text) := by
    refine List.rdropWhile_eq_self_iff.mpr fun filled => ?_
    unfold blankEnd at blank
    rw [List.getLast?_eq_some_getLast filled, Option.any_some] at blank
    simp [blank]
  rw [queryRank_eq, contentRatingRank_eq, trim_firstPiece, whole]

/-! ## Agreement -/

/-- The library of an item is there, and open to the user and to the profile. -/
def libraryOpen (s : Store) (scope : ProfileScope) (item : MediaItem) : Bool :=
  (s.libraries.find item.libraryId).any (fun library => library.deletedAt.isNone) && libraryScope scope item.libraryId

/-- The rank of a rating is not above that of the profile. -/
def withinMaximum (scope : ProfileScope) (rank : Option Nat) : Bool :=
  rank.any fun actualRank => (contentRatingRank scope.maxContentRating).any (actualRank ≤ ·)

theorem withinMaximum_eq (scope : ProfileScope) (rank : Option Nat) :
    (rank.any fun rank => (rank : Int) ≤ queryBound scope) = withinMaximum scope rank := by
  cases rank with
  | none => rfl
  | some rank =>
    unfold withinMaximum queryBound
    cases contentRatingRank scope.maxContentRating with
    | none =>
      have above : ¬ (rank : Int) ≤ -1 := by omega
      simp [above]
    | some => simp

/-- A check that only profiles of kids must pass. -/
theorem standard_or {b : Bool} {p : Prop} : b = false ∨ p ↔ (b = true → p) := by
  cases b <;> simp

theorem mem_allowedMedia {id : Uuid} :
    id ∈ allowedMedia locale s scope ↔ ∃ item, s.mediaItems.find id = some item ∧ libraryOpen s scope item = true ∧
      (isKids scope = true → withinMaximum scope (queryRank locale item.contentRating) = true) := by
  unfold allowedMedia
  rw [Table.mem_select]
  simp only [withinMaximum_eq, Bool.and_eq_true, Bool.or_eq_true, Bool.not_eq_true', libraryOpen, standard_or]

theorem isMediaAllowed_eq (scope : ProfileScope) (libraryId : Uuid) (rating : Option (List Char)) :
    isMediaAllowed scope libraryId rating =
      (libraryScope scope libraryId && (!isKids scope || withinMaximum scope (rating.bind contentRatingRank))) := by
  unfold isMediaAllowed libraryScope withinMaximum
  cases scope.hasAllLibraryAccess || scope.userLibraryIds.contains libraryId with
  | false => rfl
  | true =>
    cases isKids scope with
    | false => rfl
    | true =>
      cases scope.libraryIds.contains libraryId with
      | false => rfl
      | true =>
        cases rating.bind contentRatingRank with
        | none => rfl
        | some => cases contentRatingRank scope.maxContentRating <;> rfl

theorem assertMediaAccess_yields {id : Uuid} :
    (∃ u s', Yields (assertMediaAccessOnConnection scope id) s u s') ↔
      ∃ item, s.mediaItems.find id = some item ∧ libraryOpen s scope item = true ∧
        (isKids scope = true → withinMaximum scope (item.contentRating.bind contentRatingRank) = true) := by
  unfold assertMediaAccessOnConnection libraryOpen
  simp only [yields_get_bind, yields_demand_bind, yields_ensure, isMediaAllowed_eq, Option.filter_eq_some_iff,
    Bool.and_eq_true, Bool.or_eq_true, Bool.not_eq_true', standard_or]
  constructor
  · rintro ⟨_, s', item, ⟨found, live⟩, ⟨visible, kids⟩, -⟩
    exact ⟨item, found, ⟨live, visible⟩, kids⟩
  · rintro ⟨item, found, ⟨live, visible⟩, kids⟩
    exact ⟨(), s, item, ⟨found, live⟩, ⟨visible, kids⟩, rfl⟩

/-- The rating that the query does not read: a name within the maximum, followed by white
space other than a space before the first space or colon. -/
def misread (scope : ProfileScope) (rating : List Char) : Bool :=
  isKids scope && blankEnd rating && withinMaximum scope (contentRatingRank rating)

/-- The query lists an item exactly when the check lets it be played, unless the item is
in a library open to a kids profile and the query misreads its rating. -/
theorem allowed_iff_asserted (locale : Locale) (s : Store) (scope : ProfileScope) (id : Uuid) :
    (id ∈ allowedMedia locale s scope ↔ ∃ u s', Yields (assertMediaAccessOnConnection scope id) s u s') ↔
      ¬ ∃ item rating, s.mediaItems.find id = some item ∧ item.contentRating = some rating ∧
        libraryOpen s scope item = true ∧ misread scope rating = true := by
  rw [mem_allowedMedia, assertMediaAccess_yields]
  constructor
  · rintro agree ⟨item, rating, found, rated, opened, misread⟩
    obtain ⟨⟨kid, blank⟩, within⟩ := (Bool.and_eq_true _ _).mp misread |>.imp_left (Bool.and_eq_true _ _).mp
    obtain ⟨same, there, -, listed⟩ := agree.mpr ⟨item, found, opened, fun _ => by rw [rated]; exact within⟩
    cases found.symm.trans there
    have none := listed kid
    rw [rated, queryRank_of_blankEnd blank] at none
    cases none
  · intro readable
    -- outside that case the two ranks are the same, or neither is within the maximum
    have same (item : MediaItem) (found : s.mediaItems.find id = some item) (opened : libraryOpen s scope item = true)
        (kid : isKids scope = true) : withinMaximum scope (queryRank locale item.contentRating) =
          withinMaximum scope (item.contentRating.bind contentRatingRank) := by
      cases rated : item.contentRating with
      | none => rfl
      | some rating =>
        rw [Option.bind_some]
        cases blank : blankEnd rating with
        | false => rw [queryRank_of_not_blankEnd blank]
        | true =>
          rw [queryRank_of_blankEnd blank]
          cases within : withinMaximum scope (contentRatingRank rating) with
          | false => rfl
          | true => exact (readable ⟨item, rating, found, rated, opened, by simp [misread, kid, blank, within]⟩).elim
    constructor
    · rintro ⟨item, found, opened, listed⟩
      exact ⟨item, found, opened, fun kid => same item found opened kid ▸ listed kid⟩
    · rintro ⟨item, found, opened, allowed⟩
      exact ⟨item, found, opened, fun kid => (same item found opened kid).symm ▸ allowed kid⟩

/-! ## A tab before the annotation -/

/-- The locale `C`: only ASCII letters are raised. -/
def posix : Locale where
  upper c := [c.toUpper]
  upper_plain _ _ := rfl
  upper_other c foreign := by
    have single {d : Char} (separator : separates d = true) : d ∉ [c.toUpper] := by
      intro member
      rw [List.mem_singleton] at member
      rw [member, separates_toUpper] at separator
      rw [plain_of_separates separator] at foreign
      cases foreign
    refine ⟨single (by decide), single (by decide), fun entry listed inside => ?_⟩
    rw [(plain_of_alias listed (inside.subset (List.mem_singleton_self _))).1] at foreign
    cases foreign

def kidsScope : ProfileScope := ⟨"kids", "PG".toList, [7], [], true⟩

/-- A film rated `PG`, with a tab and a space before the reason. -/
def annotated : Store where
  libraries := Table.empty.put 7 ⟨none⟩
  mediaItems := Table.empty.put 1 ⟨7, some "PG\t (violence)".toList⟩

theorem tab_hides_playable_item :
    ¬ (1 ∈ allowedMedia posix annotated kidsScope ↔
      ∃ u s', Yields (assertMediaAccessOnConnection kidsScope 1) annotated u s') := by
  have playable : ∃ u s', Yields (assertMediaAccessOnConnection kidsScope 1) annotated u s' := ⟨(), annotated, rfl⟩
  intro agree
  exact absurd (agree.mpr playable) (by decide +kernel)

end Duskcue.MediaAccess
