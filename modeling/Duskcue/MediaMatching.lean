import Duskcue.Decimals
import Mathlib.Data.List.Nodup

/-! The `.media-match` file of a folder: which season and episode the names in it stand for. Its
overrides are kept in a hash map, whose order is not that of the file. -/
namespace Duskcue.MediaMatching
open Text Decimals

structure EpisodeOverride where
  season : Option Nat
  episode : Nat
  episodeEnd : Option Nat

/-- A hash map of overrides, in the order in which it is walked. -/
structure EpisodeOverrides where
  entries : List (List Char × EpisodeOverride)
  distinct : (entries.map Prod.fst).Nodup

structure MediaMatchData where
  tmdbId : Option Int
  imdbId : Option (List Char)
  tvdbId : Option Int
  title : Option (List Char)
  year : Option Nat
  season : Option Nat
  edition : Option (List Char)
  pattern : Option (List Char)
  episodeOverrides : EpisodeOverrides

/-- A group of a regular expression. -/
inductive Group where
  | name (name : List Char)
  | get (index : Nat)

namespace EpisodeOverrides

def empty : EpisodeOverrides := ⟨[], List.nodup_nil⟩

/-- `insert`, with the new entry anywhere. -/
def insert (overrides : EpisodeOverrides) (key : List Char) (value : EpisodeOverride) : EpisodeOverrides where
  entries := (key, value) :: overrides.entries.filter fun entry => entry.1 ≠ key
  distinct := by
    refine List.nodup_cons.mpr ⟨fun member => ?_, ?_⟩
    · obtain ⟨entry, kept, same⟩ := List.mem_map.mp member
      exact of_decide_eq_true (List.mem_filter.mp kept).2 same
    · exact overrides.distinct.sublist (List.filter_sublist.map Prod.fst)

/-- `extend`. -/
def extend (overrides other : EpisodeOverrides) : EpisodeOverrides :=
  other.entries.foldl (fun merged entry => merged.insert entry.1 entry.2) overrides

end EpisodeOverrides

section Matching
-- `Regex::new` with `captures`, `str::to_lowercase` and `str::to_uppercase`.
variable (regex : List Char → Option (List Char → Option (Group → Option (List Char))))
  (toLowercase toUppercase : List Char → List Char)

/-- The characters that are escaped in a pattern. -/
def special : List Char := ['.', '\\', '+', '|', '^', '$', '\x7b', '\x7d', '(', ')', '|', '[', ']']

/-- The group of a token. -/
def tokenGroup (token : List Char) : Option (List Char) :=
  if token = "s".toList ∨ token = "season".toList then some "(?P<season>\\d\x7b1,2\x7d)".toList
  else if token = "e".toList ∨ token = "ep".toList ∨ token = "episode".toList then
    some "(?P<episode>\\d\x7b1,3\x7d)".toList
  else if token = "sp".toList ∨ token = "special".toList then some "(?P<special>\\d\x7b1,3\x7d)".toList
  else none

/-- The loop of `pattern_to_regex`, with the characters of a token still to be skipped. -/
def patternBody : Nat → List Char → Option (List Char)
  | _, [] => some []
  | skip + 1, _ :: rest => patternBody skip rest
  | 0, c :: rest =>
    if c = '\x7b' then do
      let (token, _) ← splitOnce ['\x7d'] rest
      let group ← tokenGroup (trim token)
      return group ++ (← patternBody (token.length + 1) rest)
    else if c = '*' then (patternBody 0 rest).map ('.' :: '*' :: ·)
    else if c = '?' then (patternBody 0 rest).map ('.' :: ·)
    else if c ∈ special then (patternBody 0 rest).map ('\\' :: c :: ·)
    else (patternBody 0 rest).map (c :: ·)

/-- `pattern_to_regex`. -/
def patternToRegex (pattern : List Char) : Option (List Char) :=
  (patternBody 0 pattern).map fun body => '^' :: (body ++ ['$'])

/-- `match_pattern`: a season, an episode and the last episode of a range. -/
def matchPattern (pattern filename : List Char) (defaultSeason : Nat) : Option (Nat × Nat × Option Nat) := do
  let regexStr ← patternToRegex pattern
  let re ← regex regexStr
  let caps ← re filename
  let season := ((caps (.name "season".toList)).bind (parseBelow (2 ^ 32))).getD defaultSeason
  match caps (.name "episode".toList), caps (.name "special".toList) with
  | some text, _ =>
    let episode ← parseBelow (2 ^ 32) text
    return (season, episode, none)
  | none, some text =>
    let episode ← parseBelow (2 ^ 32) text
    return (0, episode, none)
  | none, none => none

/-- The condition of the loop of `resolve_episode_override`. -/
def Matches (filename key : List Char) : Prop := toLowercase filename = toLowercase key ∨ key <:+ filename

instance (filename key : List Char) : Decidable (Matches toLowercase filename key) :=
  inferInstanceAs (Decidable (_ ∨ _))

/-- The answer of an override. -/
def EpisodeOverride.answer (override : EpisodeOverride) (defaultSeason : Nat) : Nat × Nat × Option Nat :=
  (override.season.getD defaultSeason, override.episode, override.episodeEnd)

/-- `resolve_episode_override`. -/
def resolveEpisodeOverride (filename : List Char) (overrides : EpisodeOverrides) (pattern : Option (List Char))
    (defaultSeason : Nat) : Option (Nat × Nat × Option Nat) :=
  match pattern.bind fun pattern => matchPattern regex pattern filename defaultSeason with
  | some result => some result
  | none => overrides.entries.findSome? fun (key, override) =>
    if Matches toLowercase filename key then some (override.answer defaultSeason) else none

/-- `cascade_media_match`. -/
def cascadeMediaMatch : Option MediaMatchData → Option MediaMatchData → Option MediaMatchData
  | some s, some se => some
    { tmdbId := se.tmdbId.or s.tmdbId
      imdbId := se.imdbId.or s.imdbId
      tvdbId := se.tvdbId.or s.tvdbId
      title := se.title.or s.title
      year := se.year.or s.year
      season := se.season.or s.season
      edition := se.edition.or s.edition
      pattern := se.pattern.or s.pattern
      episodeOverrides := s.episodeOverrides.extend se.episodeOverrides }
  | some s, none => some s
  | none, some se => some se
  | none, none => none

/-- `parse_episode_ref`. -/
def parseEpisodeRef (epRef : List Char) : Option (Option Nat × Nat × Option Nat) := do
  let upper := toUppercase epRef
  match stripPrefix "SP".toList upper with
  | some rest =>
    let ep ← parseBelow (2 ^ 32) (trim rest)
    return (some 0, ep, none)
  | none =>
    let sxxexxRe ← regex "^S(\\d\x7b1,2\x7d)E(\\d\x7b1,3\x7d)(?:-E?(\\d\x7b1,3\x7d))?$".toList
    match sxxexxRe upper with
    | some caps =>
      let season ← (caps (.get 1)).bind (parseBelow (2 ^ 32))
      let episode ← (caps (.get 2)).bind (parseBelow (2 ^ 32))
      return (some season, episode, (caps (.get 3)).bind (parseBelow (2 ^ 32)))
    | none =>
      let exxRe ← regex "^(?:E)?(\\d\x7b1,3\x7d)(?:-E?(\\d\x7b1,3\x7d))?$".toList
      let caps ← exxRe upper
      let episode ← (caps (.get 1)).bind (parseBelow (2 ^ 32))
      return (none, episode, (caps (.get 2)).bind (parseBelow (2 ^ 32)))

/-- `parse_episode_override`. -/
def parseEpisodeOverride (value : List Char) : Option (List Char × EpisodeOverride) := do
  let (epRef, filename) ← splitOnce [':'] value
  let filename := trim filename
  if filename = [] then none
  else
    let (season, episode, episodeEnd) ← parseEpisodeRef regex toUppercase (trim epRef)
    return (filename, ⟨season, episode, episodeEnd⟩)

/-- What a line gives a name for. -/
def MediaMatchData.set (data : MediaMatchData) (key value : List Char) : MediaMatchData :=
  if key ∈ ["tmdb".toList, "tmdbid".toList] then { data with tmdbId := parseI64 value }
  else if key ∈ ["imdb".toList, "imdbid".toList] then { data with imdbId := some value }
  else if key ∈ ["tvdb".toList, "tvdbid".toList] then { data with tvdbId := parseI64 value }
  else if key ∈ ["title".toList, "show".toList] then { data with title := some value }
  else if key = "year".toList then { data with year := parseBelow (2 ^ 16) value }
  else if key = "season".toList then { data with season := parseBelow (2 ^ 32) value }
  else if key = "edition".toList then { data with edition := some value }
  else if key ∈ ["pattern".toList, "pt".toList] then { data with pattern := some value }
  else if key ∈ ["ep".toList, "episode".toList] then
    match parseEpisodeOverride regex toUppercase value with
    | some (filename, override) => { data with episodeOverrides := data.episodeOverrides.insert filename override }
    | none => data
  else data

/-- A line of the file. -/
def MediaMatchData.read (data : MediaMatchData) (line : List Char) : MediaMatchData :=
  let line := trim line
  if line = [] ∨ line.head? = some '#' then data
  else match splitOnce [':'] line with
    | none => data
    | some (key, value) =>
      let value := trim value
      if value = [] then data else data.set regex toUppercase (toLowercase (trim key)) value

/-- `parse_media_match_file`, of the content that is read. -/
def parseMediaMatchFile (content : Option (List Char)) : Option MediaMatchData :=
  content.map fun content => (lines content).foldl (MediaMatchData.read regex toLowercase toUppercase)
    { tmdbId := none, imdbId := none, tvdbId := none, title := none, year := none, season := none, edition := none
      pattern := none, episodeOverrides := .empty }

end Matching

/-! ## The overrides of two files -/

/-! ## The first hit of a collection without an order -/

section Hits
variable {α β : Type} {hit : α → Option β} {xs ys : List α}

/-- All hits come to the same. -/
def Agree (hit : α → Option β) (xs : List α) : Prop :=
  ∀ x ∈ xs, ∀ y ∈ xs, ∀ a b, hit x = some a → hit y = some b → a = b

theorem findSome?_of_agree (agree : Agree hit xs) (order : ys.Perm xs) : ys.findSome? hit = xs.findSome? hit := by
  cases found : xs.findSome? hit with
  | none =>
    rw [List.findSome?_eq_none_iff] at found ⊢
    exact fun x member => found x (order.subset member)
  | some a =>
    obtain ⟨x, member, first⟩ := List.exists_of_findSome?_eq_some found
    have reached : (ys.findSome? hit).isSome := List.findSome?_isSome_iff.mpr
      ⟨x, order.symm.subset member, by rw [first]; rfl⟩
    obtain ⟨b, other⟩ := Option.isSome_iff_exists.mp reached
    obtain ⟨y, within, second⟩ := List.exists_of_findSome?_eq_some other
    rw [other, agree y (order.subset within) x member b a second first]

/-- Any hit is the first one in some order. -/
theorem exists_first (member : x ∈ xs) (found : hit x = some a) :
    ∃ ys : List α, ys.Perm xs ∧ ys.findSome? hit = some a := by
  obtain ⟨before, after, rfl⟩ := List.append_of_mem member
  exact ⟨x :: (before ++ after), List.perm_middle.symm, by rw [List.findSome?_cons, found]⟩

theorem agree_iff : (∀ ys : List α, ys.Perm xs → ys.findSome? hit = xs.findSome? hit) ↔ Agree hit xs := by
  constructor
  · intro same x member y within a b first second
    obtain ⟨front, order, one⟩ := exists_first member first
    obtain ⟨other, reorder, two⟩ := exists_first within second
    rw [same front order] at one
    rw [same other reorder, one] at two
    exact Option.some.inj two
  · exact fun agree ys order => findSome?_of_agree agree order

end Hits

/-! ## The override of a name -/

section Resolution
variable (regex : List Char → Option (List Char → Option (Group → Option (List Char))))
    (toLowercase : List Char → List Char)
  (filename : List Char) (overrides : EpisodeOverrides) (pattern : Option (List Char)) (defaultSeason : Nat)

/-- What the pattern of a file says of a name. -/
def patternResult : Option (Nat × Nat × Option Nat) :=
  pattern.bind fun pattern => matchPattern regex pattern filename defaultSeason

/-- The answer is the same in every order of the map, and of an equal key where there is one. -/
structure Settled : Prop where
  order : ∀ order : EpisodeOverrides, order.entries.Perm overrides.entries →
    resolveEpisodeOverride regex toLowercase filename order pattern defaultSeason =
      resolveEpisodeOverride regex toLowercase filename overrides pattern defaultSeason
  equal : ∀ order : EpisodeOverrides, order.entries.Perm overrides.entries →
    patternResult regex filename pattern defaultSeason = none →
    ∀ entry ∈ overrides.entries, toLowercase filename = toLowercase entry.1 →
      ∃ chosen ∈ overrides.entries, toLowercase filename = toLowercase chosen.1 ∧
        resolveEpisodeOverride regex toLowercase filename order pattern defaultSeason =
          some (chosen.2.answer defaultSeason)

/-- The overrides that a name can be answered with are one. -/
def Unambiguous : Prop := ∀ first ∈ overrides.entries, ∀ second ∈ overrides.entries,
  Matches toLowercase filename first.1 → Matches toLowercase filename second.1 →
  first.2.answer defaultSeason = second.2.answer defaultSeason

/-- The answer of an entry to a name that it matches. -/
def hit (entry : List Char × EpisodeOverride) : Option (Nat × Nat × Option Nat) :=
  if Matches toLowercase filename entry.1 then some (entry.2.answer defaultSeason) else none

variable {regex toLowercase filename overrides pattern defaultSeason}

theorem resolve_pattern
    (matched : patternResult regex filename pattern defaultSeason = some result) (order : EpisodeOverrides) :
    resolveEpisodeOverride regex toLowercase filename order pattern defaultSeason = some result := by
  unfold resolveEpisodeOverride
  rw [show pattern.bind _ = some result from matched]

theorem resolve_hit (unmatched : patternResult regex filename pattern defaultSeason = none) (order : EpisodeOverrides) :
    resolveEpisodeOverride regex toLowercase filename order pattern defaultSeason =
      order.entries.findSome? (hit toLowercase filename defaultSeason) := by
  unfold resolveEpisodeOverride
  rw [show pattern.bind _ = none from unmatched]
  rfl

theorem hit_eq_some {entry : List Char × EpisodeOverride} {answer : Nat × Nat × Option Nat} :
    hit toLowercase filename defaultSeason entry = some answer ↔
      Matches toLowercase filename entry.1 ∧ entry.2.answer defaultSeason = answer := by
  unfold hit
  split
  · rename_i matching
    rw [Option.some.injEq, and_iff_right matching]
  · rename_i apart
    exact iff_of_false nofun fun both => apart both.1

theorem agree_iff_unambiguous : Agree (hit toLowercase filename defaultSeason) overrides.entries ↔
    Unambiguous toLowercase filename overrides defaultSeason := by
  constructor
  · intro agree first member second within one two
    exact agree first member second within _ _ (hit_eq_some.mpr ⟨one, rfl⟩) (hit_eq_some.mpr ⟨two, rfl⟩)
  · intro unambiguous first member second within a b one two
    obtain ⟨matching, rfl⟩ := hit_eq_some.mp one
    obtain ⟨alike, rfl⟩ := hit_eq_some.mp two
    exact unambiguous first member second within matching alike

/-- An order of the entries is one of the map. -/
def EpisodeOverrides.reorder (overrides : EpisodeOverrides) {entries : List (List Char × EpisodeOverride)}
    (order : entries.Perm overrides.entries) : EpisodeOverrides :=
  ⟨entries, (order.map Prod.fst).nodup_iff.mpr overrides.distinct⟩

theorem ordered_iff (unmatched : patternResult regex filename pattern defaultSeason = none) :
    (∀ order : EpisodeOverrides, order.entries.Perm overrides.entries →
      resolveEpisodeOverride regex toLowercase filename order pattern defaultSeason =
        resolveEpisodeOverride regex toLowercase filename overrides pattern defaultSeason) ↔
    Unambiguous toLowercase filename overrides defaultSeason := by
  rw [← agree_iff_unambiguous, ← agree_iff]
  constructor
  · intro same entries order
    have one := same (overrides.reorder order) order
    rwa [resolve_hit unmatched, resolve_hit unmatched] at one
  · intro same order perm
    rw [resolve_hit unmatched, resolve_hit unmatched]
    exact same order.entries perm

/-- Where the hits come to the same, an equal key's override is the answer in every order. -/
theorem equal_of_unambiguous (unmatched : patternResult regex filename pattern defaultSeason = none)
    (unambiguous : Unambiguous toLowercase filename overrides defaultSeason) {order : EpisodeOverrides}
    (perm : order.entries.Perm overrides.entries) (member : entry ∈ overrides.entries)
    (equal : toLowercase filename = toLowercase entry.1) :
    resolveEpisodeOverride regex toLowercase filename order pattern defaultSeason =
      some (entry.2.answer defaultSeason) := by
  obtain ⟨entries, front, one⟩ := exists_first member
    ((@hit_eq_some toLowercase filename defaultSeason _ _).mpr ⟨.inl equal, rfl⟩)
  have same := (ordered_iff unmatched).mpr unambiguous
  rw [same order perm, ← same (overrides.reorder front) front, resolve_hit unmatched]
  exact one

end Resolution

/-- The answer is settled exactly where the pattern gives it, or where all the keys that match
the name give the same. -/
theorem settled_iff (regex : List Char → Option (List Char → Option (Group → Option (List Char))))
    (toLowercase : List Char → List Char) (filename : List Char) (overrides : EpisodeOverrides)
    (pattern : Option (List Char)) (defaultSeason : Nat) :
    Settled regex toLowercase filename overrides pattern defaultSeason ↔
      (∃ result, patternResult regex filename pattern defaultSeason = some result) ∨
        Unambiguous toLowercase filename overrides defaultSeason := by
  cases matched : patternResult regex filename pattern defaultSeason with
  | some result =>
    refine iff_of_true ⟨fun order _ => ?_, fun _ _ unmatched => ?_⟩ (.inl ⟨result, rfl⟩)
    · rw [resolve_pattern matched, resolve_pattern matched]
    · rw [matched] at unmatched
      cases unmatched
  | none =>
    constructor
    · exact fun settled => .inr ((ordered_iff matched).mp settled.order)
    · rintro (⟨result, found⟩ | unambiguous)
      · cases found
      · exact ⟨(ordered_iff matched).mpr unambiguous, fun order perm _ entry member equal =>
          ⟨entry, member, equal, equal_of_unambiguous matched unambiguous perm member equal⟩⟩

/-- The first and the eleventh episode. -/
def sampleOverrides : EpisodeOverrides where
  entries := [("1.mkv".toList, ⟨none, 1, none⟩), ("11.mkv".toList, ⟨none, 11, none⟩)]
  distinct := by decide

theorem suffix_first : ¬ ∀ (regex : List Char → Option (List Char → Option (Group → Option (List Char))))
    (toLowercase : List Char → List Char) (filename : List Char) (overrides : EpisodeOverrides)
    (pattern : Option (List Char)) (defaultSeason : Nat),
    Settled regex toLowercase filename overrides pattern defaultSeason := by
  intro all
  have settled := all (fun _ => none) (List.map Char.toLower) "11.mkv".toList sampleOverrides none 1
  have unambiguous := (ordered_iff rfl).mp settled.order
  have same := unambiguous _ List.mem_cons_self _ (List.mem_cons_of_mem _ List.mem_cons_self)
    (.inr (by decide)) (.inl rfl)
  exact absurd same (by decide)

end Duskcue.MediaMatching
