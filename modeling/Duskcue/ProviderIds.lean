import Duskcue.LibraryNames

/-! The ids a folder or a file is given for the providers of metadata, and the tags they are written in. -/
namespace Duskcue.MediaMatching
open Text Decimals Regex LibraryNames

inductive Provider
  | tmdb
  | imdb
  | tvdb
deriving DecidableEq

/-- An id as a provider gives it: a number or a name. -/
inductive ProviderId
  | number (number : Int)
  | name (name : List Char)

/-- The id that a text writes for a provider. -/
def Provider.read (text : List Char) : Provider → Option ProviderId
  | .imdb => some (.name text)
  | .tmdb | .tvdb => (parseI64 text).map .number

structure ResolvedIds where
  tmdbId : Option Int
  imdbId : Option (List Char)
  tvdbId : Option Int
deriving DecidableEq

namespace ResolvedIds

/-- `ResolvedIds::default`. -/
def empty : ResolvedIds := ⟨none, none, none⟩

/-- Field by field, the ones given first. -/
def or (first second : ResolvedIds) : ResolvedIds where
  tmdbId := first.tmdbId.or second.tmdbId
  imdbId := first.imdbId.or second.imdbId
  tvdbId := first.tvdbId.or second.tvdbId

/-- What is written for a provider takes the place of what was. -/
def set (ids : ResolvedIds) (text : List Char) : Provider → ResolvedIds
  | .tmdb => { ids with tmdbId := parseI64 text }
  | .imdb => { ids with imdbId := some text }
  | .tvdb => { ids with tvdbId := parseI64 text }

/-- The id of a provider. -/
def id (ids : ResolvedIds) : Provider → Option ProviderId
  | .tmdb => ids.tmdbId.map .number
  | .imdb => ids.imdbId.map .name
  | .tvdb => ids.tvdbId.map .number

/-- At least one id. -/
def Yields (ids : ResolvedIds) : Prop := ids.tmdbId.isSome ∨ ids.imdbId.isSome ∨ ids.tvdbId.isSome

instance (ids : ResolvedIds) : Decidable ids.Yields := inferInstanceAs (Decidable (_ ∨ _))

/-- Each id is written for its provider. -/
def WrittenIn (ids : ResolvedIds) (written : Provider → List Char → Prop) : Prop :=
  ∀ provider id, ids.id provider = some id → ∃ text, written provider text ∧ provider.read text = some id

end ResolvedIds

/-! ## Tags -/

section Tags
variable (decimal : Char → Bool)

/-- `\d+`. -/
def number : Regex GroupKey := many decimal 1 none

/-- `tt\d+`. -/
def imdbNumber : Regex GroupKey := seq (lit "tt".toList) (number decimal)

/-- One of the choices of a tag: what is written before the id, and the id. -/
def choice (label separator : Regex GroupKey) (key : Nat) (id : Regex GroupKey) : Regex GroupKey :=
  seq label (seq separator (group (.get key) id))

/-- `\\x7b(?:(tmdb)-(\d+)|(imdb)-(tt\d+)|(tvdb)-(\d+))\\x7d`. -/
def curlyTagExpression : Regex GroupKey :=
  seq (lit ['\x7b']) (seq (alt (choice (group (.get 1) (lit "tmdb".toList)) (lit ['-']) 2 (number decimal))
    (alt (choice (group (.get 3) (lit "imdb".toList)) (lit ['-']) 4 (imdbNumber decimal))
      (choice (group (.get 5) (lit "tvdb".toList)) (lit ['-']) 6 (number decimal)))) (lit ['\x7d']))

/-- `\[(?:(?:tmdbid)=(\d+)|(?:imdbid)-(tt\d+)|(?:tvdbid)=(\d+))\]`. -/
def bracketTagExpression : Regex GroupKey :=
  seq (lit ['[']) (seq (alt (choice (lit "tmdbid".toList) (lit ['=']) 1 (number decimal))
    (alt (choice (lit "imdbid".toList) (lit ['-']) 2 (imdbNumber decimal))
      (choice (lit "tvdbid".toList) (lit ['=']) 3 (number decimal)))) (lit [']']))

end Tags

def curlyTagText : List Char := "\\\x7b(?:(tmdb)-(\\d+)|(imdb)-(tt\\d+)|(tvdb)-(\\d+))\\\x7d".toList

def bracketTagText : List Char := "\\[(?:(?:tmdbid)=(\\d+)|(?:imdbid)-(tt\\d+)|(?:tvdbid)=(\\d+))\\]".toList

/-- What a tag gives, by the groups of the three ids. -/
def readTag (tmdb imdb tvdb : Nat) (ids : ResolvedIds) (caps : GroupKey → Option (List Char)) : ResolvedIds :=
  match caps (.get tmdb), caps (.get imdb), caps (.get tvdb) with
  | some id, _, _ => ids.set id .tmdb
  | none, some id, _ => ids.set id .imdb
  | none, none, some id => ids.set id .tvdb
  | none, none, none => ids

/-- `parse_provider_id_tags`. The outer `none` is a panic. -/
def parseProviderIdTags (regex : List Char → Option (Compiled GroupKey)) (name : List Char) :
    Option (Option ResolvedIds) := do
  let curlyTagRe ← regex curlyTagText
  let bracketTagRe ← regex bracketTagText
  let curlyTags := curlyTagRe.capturesIter name
  let bracketTags := bracketTagRe.capturesIter name
  let curly := curlyTags.foldl (readTag 2 4 6) .empty
  let bracket := bracketTags.foldl (readTag 1 2 3) .empty
  return if curlyTags = [] ∧ bracketTags = [] then none else some (curly.or bracket)

/-! ## Where ids are written -/

namespace ResolvedIds
variable {ids : ResolvedIds} {written also : Provider → List Char → Prop} {text : List Char}
  {provider : Provider}

theorem id_or (first second : ResolvedIds) (provider : Provider) :
    (first.or second).id provider = (first.id provider).or (second.id provider) := by
  cases provider <;> exact Option.map_or

theorem id_set (ids : ResolvedIds) (text : List Char) (provider other : Provider) :
    (ids.set text provider).id other = if provider = other then provider.read text else ids.id other := by
  cases provider <;> cases other <;> rfl

@[simp] theorem or_empty (ids : ResolvedIds) : ids.or empty = ids := by
  unfold ResolvedIds.or ResolvedIds.empty
  simp

theorem or_assoc (first second third : ResolvedIds) : (first.or second).or third = first.or (second.or third) := by
  simp only [ResolvedIds.or, Option.or_assoc]

theorem not_yields_iff : ¬ ids.Yields ↔ ids = empty := by
  obtain ⟨tmdb, imdb, tvdb⟩ := ids
  cases tmdb <;> cases imdb <;> cases tvdb <;> simp [empty, Yields]

theorem writtenIn_empty : empty.WrittenIn written := by
  intro provider id has
  cases provider <;> cases has

theorem WrittenIn.mono (held : ids.WrittenIn written) (weaker : ∀ provider text, written provider text → also provider text) :
    ids.WrittenIn also := by
  intro provider id has
  obtain ⟨text, there, reads⟩ := held provider id has
  exact ⟨text, weaker _ _ there, reads⟩

theorem WrittenIn.set (held : ids.WrittenIn written) (there : written provider text) :
    (ids.set text provider).WrittenIn written := by
  intro other id has
  rw [id_set] at has
  split at has
  · rename_i same
    exact ⟨text, same ▸ there, same ▸ has⟩
  · exact held other id has

end ResolvedIds

/-! ## What tags write -/

section Written
variable {decimal : Char → Bool} {regex : List Char → Option (Compiled GroupKey)} {total key : Nat}
  {rest after name : List Char} {groups : List (GroupKey × List Char)}

/-- An id between what a tag has before it and what it has behind it. -/
def Tagged (name : List Char) (opening closing id : List Char) : Prop := opening ++ id ++ closing <:+: name

def curlyOpening : Provider → List Char
  | .tmdb => "\x7btmdb-".toList
  | .imdb => "\x7bimdb-".toList
  | .tvdb => "\x7btvdb-".toList

def bracketOpening : Provider → List Char
  | .tmdb => "[tmdbid=".toList
  | .imdb => "[imdbid-".toList
  | .tvdb => "[tvdbid=".toList

/-- The ids of the tags in curly brackets, read one after the other. -/
def curlyIds (regex : List Char → Option (Compiled GroupKey)) (name : List Char) : ResolvedIds :=
  (((regex curlyTagText).map fun re => re.capturesIter name).getD []).foldl (readTag 2 4 6) .empty

/-- Those of the tags in square brackets. -/
def bracketIds (regex : List Char → Option (Compiled GroupKey)) (name : List Char) : ResolvedIds :=
  (((regex bracketTagText).map fun re => re.capturesIter name).getD []).foldl (readTag 1 2 3) .empty

theorem choice_sound {label separator idExpression : Regex GroupKey}
    (labelled : ∀ {rest after groups}, (after, groups) ∈ label.walk total rest → groups = labels ∧ rest = before ++ after)
    (separated : ∀ {rest after groups}, (after, groups) ∈ separator.walk total rest → groups = [] ∧ rest = between ++ after)
    (plain : ∀ {rest after groups}, (after, groups) ∈ idExpression.walk total rest → groups = [])
    (led : (after, groups) ∈ (choice label separator key idExpression).walk total rest) :
    ∃ id, groups = labels ++ [(.get key, id)] ∧ rest = before ++ (between ++ (id ++ after)) := by
  unfold choice at led
  obtain ⟨_, _, _, first, others, rfl⟩ := mem_seq.mp led
  obtain ⟨rfl, rfl⟩ := labelled first
  obtain ⟨_, _, _, second, third, rfl⟩ := mem_seq.mp others
  obtain ⟨rfl, rfl⟩ := separated second
  obtain ⟨more, id, inside, rfl, rfl⟩ := mem_group.mp third
  obtain rfl := plain inside
  exact ⟨id, rfl, rfl⟩

theorem number_sound (led : (after, groups) ∈ (number decimal).walk total rest) : groups = [] := (mem_many.mp led).1

theorem imdbNumber_sound (led : (after, groups) ∈ (imdbNumber decimal).walk total rest) : groups = [] := by
  unfold imdbNumber at led
  obtain ⟨_, _, _, first, second, rfl⟩ := mem_seq.mp led
  rw [(mem_lit.mp first).1, number_sound second]
  rfl

theorem label_sound (led : (after, groups) ∈ (group (.get key) (lit text)).walk total rest) :
    groups = [(.get key, text)] ∧ rest = text ++ after := by
  obtain ⟨more, found, inside, same, rfl⟩ := mem_group.mp led
  obtain ⟨rfl, whole⟩ := mem_lit.mp inside
  obtain rfl := List.append_cancel_right (same.symm.trans whole)
  exact ⟨rfl, same⟩

theorem curlyTag_sound (led : (after, groups) ∈ (curlyTagExpression decimal).walk total rest) :
    ∃ provider id, rest = curlyOpening provider ++ (id ++ '\x7d' :: after) ∧
      ∀ ids, readTag 2 4 6 ids (groups.lookup ·) = ids.set id provider := by
  unfold curlyTagExpression at led
  obtain ⟨_, _, _, opening, others, rfl⟩ := mem_seq.mp led
  obtain ⟨rfl, rfl⟩ := mem_lit.mp opening
  obtain ⟨_, _, _, chosen, closing, rfl⟩ := mem_seq.mp others
  obtain ⟨rfl, rfl⟩ := mem_lit.mp closing
  rcases mem_alt.mp chosen with tmdb | chosen
  · obtain ⟨id, rfl, rfl⟩ := choice_sound label_sound mem_lit.mp number_sound tmdb
    exact ⟨.tmdb, id, rfl, fun ids => rfl⟩
  rcases mem_alt.mp chosen with imdb | tvdb
  · obtain ⟨id, rfl, rfl⟩ := choice_sound label_sound mem_lit.mp imdbNumber_sound imdb
    exact ⟨.imdb, id, rfl, fun ids => rfl⟩
  · obtain ⟨id, rfl, rfl⟩ := choice_sound label_sound mem_lit.mp number_sound tvdb
    exact ⟨.tvdb, id, rfl, fun ids => rfl⟩

theorem bracketTag_sound (led : (after, groups) ∈ (bracketTagExpression decimal).walk total rest) :
    ∃ provider id, rest = bracketOpening provider ++ (id ++ ']' :: after) ∧
      ∀ ids, readTag 1 2 3 ids (groups.lookup ·) = ids.set id provider := by
  unfold bracketTagExpression at led
  obtain ⟨_, _, _, opening, others, rfl⟩ := mem_seq.mp led
  obtain ⟨rfl, rfl⟩ := mem_lit.mp opening
  obtain ⟨_, _, _, chosen, closing, rfl⟩ := mem_seq.mp others
  obtain ⟨rfl, rfl⟩ := mem_lit.mp closing
  rcases mem_alt.mp chosen with tmdb | chosen
  · obtain ⟨id, rfl, rfl⟩ := choice_sound mem_lit.mp mem_lit.mp number_sound tmdb
    exact ⟨.tmdb, id, rfl, fun ids => rfl⟩
  rcases mem_alt.mp chosen with imdb | tvdb
  · obtain ⟨id, rfl, rfl⟩ := choice_sound mem_lit.mp mem_lit.mp imdbNumber_sound imdb
    exact ⟨.imdb, id, rfl, fun ids => rfl⟩
  · obtain ⟨id, rfl, rfl⟩ := choice_sound mem_lit.mp mem_lit.mp number_sound tvdb
    exact ⟨.tvdb, id, rfl, fun ids => rfl⟩

/-- The expressions of the tags, compiled. -/
structure TagsCompile (regex : List Char → Option (Compiled GroupKey)) (decimal : Char → Bool) : Prop where
  curly : regex curlyTagText = some (curlyTagExpression decimal).compiled
  bracket : regex bracketTagText = some (bracketTagExpression decimal).compiled

/-- The tags of one kind, read one after the other. -/
theorem writtenIn_tags {tags : List (GroupKey → Option (List Char))}
    (ids : ResolvedIds) (held : ids.WrittenIn written) (each : ∀ caps ∈ tags, ∃ provider id, written provider id ∧
      ∀ ids : ResolvedIds, readTag tmdb imdb tvdb ids caps = ids.set id provider) :
    (tags.foldl (readTag tmdb imdb tvdb) ids).WrittenIn written := by
  induction tags generalizing ids with
  | nil => exact held
  | cons caps _ ih =>
    obtain ⟨provider, id, there, sets⟩ := each caps List.mem_cons_self
    rw [List.foldl_cons, sets]
    exact ih _ (held.set there) fun later member => each later (List.mem_cons_of_mem _ member)

theorem curlyIds_written (compile : TagsCompile regex decimal) (name : List Char) :
    (curlyIds regex name).WrittenIn fun provider => Tagged name (curlyOpening provider) ['\x7d'] := by
  rw [curlyIds, compile.curly]
  refine writtenIn_tags _ ResolvedIds.writtenIn_empty fun caps member => ?_
  obtain ⟨rest, after, groups, ends, led, rfl⟩ := mem_capturesIter member
  obtain ⟨provider, id, rfl, sets⟩ := curlyTag_sound led
  exact ⟨provider, id, .trans ⟨[], after, by simp⟩ ends.isInfix, sets⟩

theorem bracketIds_written (compile : TagsCompile regex decimal) (name : List Char) :
    (bracketIds regex name).WrittenIn fun provider => Tagged name (bracketOpening provider) [']'] := by
  rw [bracketIds, compile.bracket]
  refine writtenIn_tags _ ResolvedIds.writtenIn_empty fun caps member => ?_
  obtain ⟨rest, after, groups, ends, led, rfl⟩ := mem_capturesIter member
  obtain ⟨provider, id, rfl, sets⟩ := bracketTag_sound led
  exact ⟨provider, id, .trans ⟨[], after, by simp⟩ ends.isInfix, sets⟩

theorem parseProviderIdTags_plain (compile : TagsCompile regex decimal) (curly : '\x7b' ∉ name) (bracket : '[' ∉ name) :
    parseProviderIdTags regex name = some none := by
  have noCurly : (curlyTagExpression decimal).capturesIter name = [] := by
    refine List.eq_nil_iff_forall_not_mem.mpr fun caps member => ?_
    obtain ⟨rest, after, groups, ends, led, -⟩ := mem_capturesIter member
    obtain ⟨provider, id, rfl, -⟩ := curlyTag_sound led
    exact curly (ends.subset (by cases provider <;> exact List.mem_cons_self))
  have noBracket : (bracketTagExpression decimal).capturesIter name = [] := by
    refine List.eq_nil_iff_forall_not_mem.mpr fun caps member => ?_
    obtain ⟨rest, after, groups, ends, led, -⟩ := mem_capturesIter member
    obtain ⟨provider, id, rfl, -⟩ := bracketTag_sound led
    exact bracket (ends.subset (by cases provider <;> exact List.mem_cons_self))
  unfold parseProviderIdTags
  simp only [compile.curly, compile.bracket, Option.bind_eq_bind, Option.bind_some, compiled, noCurly, noBracket]
  rfl

end Written

end Duskcue.MediaMatching
