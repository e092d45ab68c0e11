import Duskcue.MediaNames

/-! A movie that a library scan comes upon: the item it is given, with the title and the year of its folder
and the ids that are found for it. -/
namespace Duskcue.LibraryNames
open Text Decimals MediaMatching NfoParser Regex

structure MediaItem where
  title : List Char
  sortTitle : List Char
  /-- In days since the first of January 1970. -/
  premiereDate : Option Int
  matchState : List Char
  identificationSource : Option (List Char)
  ids : ResolvedIds

inductive MovieOutcome
  | updated
  | created (item : MediaItem)

/-- `to_timestamp(seconds)::date`, in the session's time zone UTC. -/
def timestampDate (seconds : Nat) : Int := (seconds / 86400 : Nat)

section Scan
variable {Folder : Type} [DecidableEq Folder] (regex : List Char → Option (Compiled GroupKey))
  (toLowercase toUppercase : List Char → List Char) (readEvents : List Char → List XmlEvent) (folders : Folders Folder)

/-- `generate_sort_title`. -/
def generateSortTitle (title : List Char) : List Char :=
  let lower := toLowercase title
  match ["the ".toList, "a ".toList, "an ".toList].find? (· <+: lower) with
  | some article => title.drop article.length ++ ", ".toList ++ title.take (article.length - 1)
  | none => title

/-- `identify_and_create_movie`, where the statements succeed. `none` is a panic. -/
def identifyAndCreateMovie (existing : Bool) (parent : Folder) (file : FilePath) : Option MovieOutcome :=
  if existing then some .updated
  else do
    let ident ← resolveIdentification regex toLowercase toUppercase readEvents folders parent none file.fileStem
    let parsed ← parseMediaName regex file (folders.fileName parent)
    let title := ((parsed.map (·.title)).or ident.title).getD (file.fileStem.getD "Unknown".toList)
    let year := (parsed.bind (·.year)).or ident.year
    return .created
      { title, sortTitle := generateSortTitle toLowercase title
        premiereDate := year.map timestampDate
        matchState := ident.matchState, identificationSource := ident.identificationSource, ids := ident.ids }

end Scan

/-! ## Folders with a title, a year and tags -/

/-- An id as its provider's tags write it. -/
def ValidId (id : List Char) : Provider → Prop
  | .imdb => ∃ digits, id = "tt".toList ++ digits ∧ digits ≠ [] ∧ ∀ c ∈ digits, c.isDigit = true
  | .tmdb | .tvdb => id ≠ [] ∧ (∀ c ∈ id, c.isDigit = true) ∧ (parseI64 id).isSome

structure Tag where
  provider : Provider
  square : Bool
  id : List Char
  valid : ValidId id provider

def Tag.text (tag : Tag) : List Char :=
  if tag.square then bracketOpening tag.provider ++ tag.id ++ [']'] else curlyOpening tag.provider ++ tag.id ++ ['\x7d']

/-- The tags, each behind so many spaces. -/
def tagsText (tags : List (Nat × Tag)) : List Char := tags.flatMap fun (gap, tag) => List.replicate gap ' ' ++ tag.text

/-- The ids of the tags. -/
def tagIds (tags : List (Nat × Tag)) : ResolvedIds :=
  tags.foldl (fun ids tag => ids.set tag.2.id tag.2.provider) .empty

/-- The title, the year in brackets, and the tags. -/
def folderName (title : Title) (year : Nat) (tags : List (Nat × Tag)) : List Char :=
  title.text ++ ' ' :: '(' :: (padded 4 year ++ ')' :: tagsText tags)

/-- The days from the first of January 1970 to that of a year. -/
def yearStart (year : Int) : Int :=
  365 * (year - 1970) + ((year - 1) / 4 - (year - 1) / 100 + (year - 1) / 400) - (1969 / 4 - 1969 / 100 + 1969 / 400)

/-- A day of the year. -/
def InYear (year : Int) (date : Int) : Prop := yearStart year ≤ date ∧ date < yearStart (year + 1)

/-- The item has the title, and its premiere is in the year. -/
def MediaItem.Named (item : MediaItem) (title : List Char) (year : Nat) : Prop :=
  item.title = title ∧ ∃ date, item.premiereDate = some date ∧ InYear year date

section Titles
variable {title : Title} {tags : List (Nat × Tag)} {year : Nat}

theorem padded_four (few : 1900 ≤ year ∧ year ≤ 2100) : FourDigits (padded 4 year) where
  four := by
    have most := length_padded_le (n := year) (by decide : 0 < 4) le_rfl (by omega)
    have least : 4 ≤ (padded 4 year).length := by
      rw [padded, List.length_append, List.length_replicate]
      omega
    omega
  digits _ := isDigit_of_mem_padded

/-- Every year is a few thousand seconds: the premiere is on the first of January 1970. -/
theorem inYear_iff (few : 1900 ≤ year ∧ year ≤ 2100) : InYear year (timestampDate year) ↔ year = 1970 := by
  have first : timestampDate year = 0 := by
    unfold timestampDate
    omega
  have leaps (y : Int) (low : 1899 ≤ y) (high : y ≤ 2101) : 4 * (y / 4) ≤ y ∧ y ≤ 4 * (y / 4) + 3 ∧ 18 ≤ y / 100 ∧
      y / 100 ≤ 21 ∧ 4 ≤ y / 400 ∧ y / 400 ≤ 5 := by omega
  have before := leaps (year - 1) (by omega) (by omega)
  have within := leaps (year + 1 - 1) (by omega) (by omega)
  rw [first]
  unfold InYear yearStart
  rcases lt_trichotomy year 1970 with early | rfl | late
  · refine iff_of_false (fun both => ?_) early.ne
    omega
  · decide
  · refine iff_of_false (fun both => ?_) late.ne'
    omega

/-- Tags begin with a bracket behind their spaces. -/
theorem tagsText_shape (filled : tags ≠ []) : ∃ gap c rest, tagsText tags = gap ++ c :: rest ∧
    (∀ d ∈ gap, isWhitespace d = true) ∧ (c = '\x7b' ∨ c = '[') := by
  obtain ⟨⟨gap, tag⟩, tags, rfl⟩ := List.exists_cons_of_ne_nil filled
  have opening : ∃ c rest, tag.text = c :: rest ∧ (c = '\x7b' ∨ c = '[') := by
    unfold Tag.text
    split <;> cases tag.provider
    all_goals first | exact ⟨'[', _, rfl, .inr rfl⟩ | exact ⟨'\x7b', _, rfl, .inl rfl⟩
  obtain ⟨c, rest, shape, bracket⟩ := opening
  refine ⟨List.replicate gap ' ', c, rest ++ tagsText tags, ?_, fun d member => ?_, bracket⟩
  · show (List.replicate gap ' ' ++ tag.text) ++ tagsText tags = _
    rw [shape, List.append_assoc, List.cons_append]
  · rw [List.eq_of_mem_replicate member]
    decide

end Titles

section Movies
variable {Folder : Type} [DecidableEq Folder] {regex : List Char → Option (Compiled GroupKey)} {decimal : Char → Bool}
  {toLowercase toUppercase : List Char → List Char} {readEvents : List Char → List XmlEvent} {folders : Folders Folder}
  {title : Title} {tags : List (Nat × Tag)} {year : Nat} {folder : Folder} {file : FilePath} {stem : List Char}

/-- Nothing but the folder's name gives an id: no file of the folder, and no tag of the movie's file. -/
def NoOtherIds (regex : List Char → Option (Compiled GroupKey)) (toLowercase toUppercase : List Char → List Char)
    (readEvents : List Char → List XmlEvent) (folders : Folders Folder) (folder : Folder) (stem : List Char) : Prop :=
  ¬ (mediaMatchSource regex toLowercase toUppercase folders folder none).ids.Yields ∧
  ¬ (nfoSource readEvents folders folder).ids.Yields ∧ ¬ ((tagsOf regex stem).getD .empty).Yields

section
variable (compile : NamesCompile regex decimal)
include compile

/-- A new file of a folder is given an item, with what is found for it. -/
theorem created_of_parsed (named : file.fileStem = some stem)
    (read : parseMediaName regex file (folders.fileName folder) = some (some parsed)) :
    ∃ item ident, identifyAndCreateMovie regex toLowercase toUppercase readEvents folders false folder file =
        some (.created item) ∧
      resolveIdentification regex toLowercase toUppercase readEvents folders folder none (some stem) = some ident ∧
      item.title = parsed.title ∧ item.premiereDate = (parsed.year.or ident.year).map timestampDate ∧
      item.ids = ident.ids := by
  obtain ⟨ident, resolved, -⟩ :=
    @resolve_cases Folder regex decimal toLowercase toUppercase readEvents folders folder none (some stem) _ compile.tags
  unfold identifyAndCreateMovie
  simp only [named, resolved, read, Bool.false_eq_true, if_false, Option.bind_eq_bind, Option.bind_some]
  exact ⟨_, ident, rfl, rfl, rfl, rfl, rfl⟩

/-- Without other ids an item has those of the folder's name, and otherwise it does not. -/
theorem ids_empty_iff (plain : tagsOf regex ((folders.fileName folder).getD []) = none)
    (resolved : resolveIdentification regex toLowercase toUppercase readEvents folders folder
      none (some stem) = some ident) :
    ident.ids = .empty ↔ NoOtherIds regex toLowercase toUppercase readEvents folders folder stem := by
  have tagged : (tagSource regex folders folder (some stem)).ids = (tagsOf regex stem).getD .empty := by
    rw [tagSource_ids compile.tags, plain, Option.bind_some]
    cases tagsOf regex stem <;> rfl
  have each : (∀ source ∈ sources regex toLowercase toUppercase readEvents folders folder none (some stem),
      ¬ source.ids.Yields) ↔ NoOtherIds regex toLowercase toUppercase readEvents folders folder stem := by
    unfold sources NoOtherIds
    rw [List.forall_mem_cons, List.forall_mem_cons, List.forall_mem_singleton, tagged]
  obtain ⟨other, again, ⟨before, source, after, shape, _, yields, same, -⟩ | ⟨none', same, -⟩⟩ :=
    @resolve_cases Folder regex decimal toLowercase toUppercase readEvents folders folder none (some stem) _ compile.tags
  all_goals
    cases resolved.symm.trans again
    rw [← each]
  · refine iff_of_false (fun empty => ?_) fun none' => ?_
    · rw [← same, empty] at yields
      exact ResolvedIds.not_yields_iff.mpr rfl yields
    · exact none' source (shape ▸ List.mem_append_right _ List.mem_cons_self) yields
  · exact iff_of_true same none'

/-- The item of a folder with a title and a year in brackets. -/
theorem bracketed_iff (of : Decimal decimal) (few : 1900 ≤ year ∧ year ≤ 2100)
    (named : file.fileStem = some stem) (name : folders.fileName folder = some (folderName title year tags)) :
    (∃ item, identifyAndCreateMovie regex toLowercase toUppercase readEvents folders false folder file =
        some (.created item) ∧ item.Named title.text year ∧ item.ids = tagIds tags) ↔
      tags = [] ∧ year = 1970 ∧ NoOtherIds regex toLowercase toUppercase readEvents folders folder stem := by
  by_cases bare : tags = []
  · subst bare
    have shape : folderName title year [] = title.text ++ ' ' :: '(' :: (padded 4 year ++ ')' :: ([] ++ [])) := rfl
    obtain ⟨parsed, read, titled, dated⟩ := parseMediaName_title compile of title (padded_four few) named
      [] [] nofun nofun
    rw [← shape, ← name] at read
    obtain ⟨item, ident, created, resolved, same, premiere, ids⟩ := created_of_parsed compile named read
    have unopened {c : Char} (other : c ≠ ' ' ∧ plainChar c = false) (apart : c ≠ '(' ∧ c ≠ ')') :
        c ∉ folderName title year [] := by
      intro member
      simp only [shape, List.mem_append, List.mem_cons, List.not_mem_nil, or_false] at member
      rcases member with within | rfl | rfl | digit | rfl
      · exact title.not_mem_text other within
      · exact other.1 rfl
      · exact apart.1 rfl
      · rw [digit_plain (isDigit_of_mem_padded digit)] at other
        cases other.2
      · exact apart.2 rfl
    have plain : tagsOf regex ((folders.fileName folder).getD []) = none := by
      unfold tagsOf
      rw [name, Option.getD_some, parseProviderIdTags_plain compile.tags (unopened (by decide) (by decide))
        (unopened (by decide) (by decide))]
      rfl
    have title' : item.title = title.text := by
      rw [same, titled, List.append_nil]
      exact title.trimmed_text.2
    rw [dated, ofDigitChars_padded, Option.some_or, Option.map_some] at premiere
    constructor
    · rintro ⟨item', created', ⟨-, date, premiere', inYear⟩, ids'⟩
      rw [created] at created'
      obtain rfl := MovieOutcome.created.inj (Option.some.inj created')
      cases premiere.symm.trans premiere'
      exact ⟨rfl, (inYear_iff few).mp inYear, (ids_empty_iff compile plain resolved).mp (ids.symm.trans ids')⟩
    · rintro ⟨-, inYear, none'⟩
      exact ⟨item, created, ⟨title', _, premiere, (inYear_iff few).mpr inYear⟩,
        ids.trans ((ids_empty_iff compile plain resolved).mpr none')⟩
  · refine iff_of_false ?_ fun held => bare held.1
    obtain ⟨gap, c, rest, shape, blanks, bracket⟩ := tagsText_shape bare
    have visible : isWhitespace c = false ∧ c ≠ ' ' ∧ plainChar c = false := by
      rcases bracket with rfl | rfl <;> decide
    obtain ⟨parsed, read, titled, -⟩ := parseMediaName_title compile of title (padded_four few) named gap
      (c :: rest) blanks (by rintro _ ⟨⟩; exact visible.1)
    rw [← shape] at read
    rw [show title.text ++ ' ' :: '(' :: (padded 4 year ++ ')' :: tagsText tags) = folderName title year tags from rfl,
      ← name] at read
    obtain ⟨item, ident, created, -, same, -⟩ := created_of_parsed compile named read
    rintro ⟨item', created', ⟨titled', -⟩, -⟩
    rw [created] at created'
    obtain rfl := MovieOutcome.created.inj (Option.some.inj created')
    refine title.not_mem_text visible.2 ?_
    rw [← titled', same, titled]
    exact mem_trim visible.1 (by simp)

/-- The item of a folder with dots never has the title. -/
theorem dotted_unnamed (few : 1900 ≤ year ∧ year ≤ 2100)
    (named : file.fileStem = some stem) (name : folders.fileName folder = some (title.dotted (padded 4 year))) :
    ¬ ∃ item, identifyAndCreateMovie regex toLowercase toUppercase readEvents folders false folder file =
        some (.created item) ∧ item.Named title.text year := by
  obtain ⟨parsed, read, other⟩ := parseMediaName_dotted compile title (padded_four few) named
  rw [← name] at read
  obtain ⟨item, ident, created, -, same, -⟩ := created_of_parsed compile named read
  rintro ⟨item', created', titled, -⟩
  rw [created] at created'
  obtain rfl := MovieOutcome.created.inj (Option.some.inj created')
  exact other (same.symm.trans titled)

end

end Movies

/-- A folder `t (y)` with tags gives a movie its title, year and ids where there are no tags, the year is
1970 and no id is found elsewhere, and a folder with dots never does. -/
theorem movie_named_iff {Folder : Type} [DecidableEq Folder] (regex : List Char → Option (Compiled GroupKey))
    (decimal : Char → Bool) (of : Decimal decimal) (compile : NamesCompile regex decimal)
    (toLowercase toUppercase : List Char → List Char) (readEvents : List Char → List XmlEvent) (folders : Folders Folder)
    (title : Title) (year : Nat) (few : 1900 ≤ year ∧ year ≤ 2100) (tags : List (Nat × Tag))
    (_ : (tags.map fun tag => tag.2.provider).Nodup) (bracketed dotted : Folder)
    (bracketedName : folders.fileName bracketed = some (folderName title year tags))
    (dottedName : folders.fileName dotted = some (title.dotted (padded 4 year)))
    (stem : List Char) (fileName : Option (List Char)) :
    ((∃ item, identifyAndCreateMovie regex toLowercase toUppercase readEvents folders false bracketed
          ⟨some stem, fileName⟩ = some (.created item) ∧ item.Named title.text year ∧ item.ids = tagIds tags) ↔
        tags = [] ∧ year = 1970 ∧ NoOtherIds regex toLowercase toUppercase readEvents folders bracketed stem) ∧
      ¬ ∃ item, identifyAndCreateMovie regex toLowercase toUppercase readEvents folders false dotted
          ⟨some stem, fileName⟩ = some (.created item) ∧ item.Named title.text year :=
  ⟨bracketed_iff compile of few rfl bracketedName, dotted_unnamed compile few rfl dottedName⟩

/-- The expressions of the names alone, with the digits of ASCII for `\d`. -/
def asciiNames (text : List Char) : Option (Compiled GroupKey) :=
  [(markerText, markerExpression Char.isDigit), (crossText, crossExpression Char.isDigit),
    (yearText, yearExpression Char.isDigit), (standaloneText, standaloneExpression Char.isDigit),
    (parenthesizedText, parenthesizedExpression Char.isDigit), (curlyText, curlyExpression), (squareText, squareExpression),
    (curlyTagText, curlyTagExpression Char.isDigit), (bracketTagText, bracketTagExpression Char.isDigit)].findSome?
    fun row => if row.1 = text then some row.2.compiled else none

theorem asciiNames_compile : NamesCompile asciiNames Char.isDigit where
  tags := ⟨rfl, rfl⟩
  marker := rfl
  cross := rfl
  year := rfl
  standalone := rfl
  parenthesized := rfl
  curly := rfl
  square := rfl

/-- A title of one word. -/
def apollo : Title where
  words := ["Apollo".toList]
  filled := by decide
  plain := by
    rintro word member
    obtain rfl := List.mem_singleton.mp member
    exact ⟨by decide, by decide⟩

/-- Two folders with this title and a year, in brackets and behind a dot. -/
def twoFolders (year : Nat) : Folders Bool where
  fileName bracketed := some (if bracketed then folderName apollo year [] else apollo.dotted (padded 4 year))
  fileExists _ _ := false
  readToString _ _ := none

/-- `Apollo (1970)`. -/
theorem apollo_1970 : ∃ item, identifyAndCreateMovie asciiNames id id (fun _ => []) (twoFolders 1970) false true
    ⟨some "Apollo".toList, some "Apollo.mkv".toList⟩ = some (.created item) ∧ item.Named apollo.text 1970 ∧
    item.ids = tagIds [] := by
  refine (movie_named_iff asciiNames Char.isDigit decimal_isDigit asciiNames_compile id id (fun _ => []) (twoFolders 1970)
    apollo 1970 (by decide) [] List.nodup_nil true false rfl rfl "Apollo".toList (some "Apollo.mkv".toList)).1.mpr
      ⟨rfl, rfl, ?_, ?_, ?_⟩
  · exact ResolvedIds.not_yields_iff.mpr rfl
  · exact ResolvedIds.not_yields_iff.mpr rfl
  · have bare : tagsOf asciiNames "Apollo".toList = none := by
      rw [tagsOf, parseProviderIdTags_plain asciiNames_compile.tags (by decide) (by decide)]
      rfl
    rw [bare]
    exact ResolvedIds.not_yields_iff.mpr rfl

/-- The premiere of `Apollo (1999)` is in 1970. -/
theorem premiere_misdated : ¬ ∀ (Folder : Type) [DecidableEq Folder] (regex : List Char → Option (Compiled GroupKey))
    (decimal : Char → Bool) (_ : Decimal decimal) (_ : NamesCompile regex decimal)
    (toLowercase toUppercase : List Char → List Char) (readEvents : List Char → List XmlEvent) (folders : Folders Folder)
    (title : Title) (year : Nat) (_ : 1900 ≤ year ∧ year ≤ 2100) (tags : List (Nat × Tag))
    (_ : (tags.map fun tag => tag.2.provider).Nodup) (bracketed dotted : Folder)
    (_ : folders.fileName bracketed = some (folderName title year tags))
    (_ : folders.fileName dotted = some (title.dotted (padded 4 year))) (stem : List Char)
    (fileName : Option (List Char)),
    (∃ item, identifyAndCreateMovie regex toLowercase toUppercase readEvents folders false bracketed
        ⟨some stem, fileName⟩ = some (.created item) ∧ item.Named title.text year ∧ item.ids = tagIds tags) ∧
      ∃ item, identifyAndCreateMovie regex toLowercase toUppercase readEvents folders false dotted
        ⟨some stem, fileName⟩ = some (.created item) ∧ item.Named title.text year := by
  intro all
  have named := (all Bool asciiNames Char.isDigit decimal_isDigit asciiNames_compile id id (fun _ => []) (twoFolders 1999)
    apollo 1999 (by decide) [] List.nodup_nil true false rfl rfl "Apollo".toList (some "Apollo.mkv".toList)).1
  have year := ((bracketed_iff asciiNames_compile decimal_isDigit (by decide) rfl rfl).mp named).2.1
  exact absurd year (by decide)

end Duskcue.LibraryNames
