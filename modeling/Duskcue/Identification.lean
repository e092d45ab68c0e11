import Duskcue.NfoFiles

/-! How the ids of an item are found: in the `.media-match` files of its folders, in its `.nfo` files, or
in the tags of its names. -/
namespace Duskcue.MediaMatching
open Text Decimals Regex LibraryNames NfoParser

structure IdentificationResult where
  ids : ResolvedIds
  identificationSource : Option (List Char)
  matchState : List Char
  title : Option (List Char)
  year : Option Nat
  season : Option Nat
  edition : Option (List Char)
  episodeOverrides : EpisodeOverrides
  pattern : Option (List Char)

/-- A result that knows nothing but the ids. -/
def IdentificationResult.bare (ids : ResolvedIds) (source state : List Char) : IdentificationResult where
  ids := ids
  identificationSource := some source
  matchState := state
  title := none
  year := none
  season := none
  edition := none
  episodeOverrides := .empty
  pattern := none

def MediaMatchData.ids (data : MediaMatchData) : ResolvedIds := ⟨data.tmdbId, data.imdbId, data.tvdbId⟩

/-- What lies under folders: their own names, and the files in them. -/
structure Folders (Folder : Type) where
  /-- `file_name().and_then(to_str)` -/
  fileName : Folder → Option (List Char)
  fileExists : Folder → List Char → Bool
  readToString : Folder → List Char → Option (List Char)

section Resolve
variable {Folder : Type} [DecidableEq Folder] (regex : List Char → Option (Compiled GroupKey))
  (toLowercase toUppercase : List Char → List Char) (readEvents : List Char → List XmlEvent) (folders : Folders Folder)

/-- `parse_media_match_file` of a folder. -/
def mediaMatchOf (folder : Folder) : Option MediaMatchData :=
  parseMediaMatchFile (fun text => (regex text).map Compiled.captures) toLowercase toUppercase
    (folders.readToString folder ".media-match".toList)

/-- What the tags of a folder's name and of a file's name come to. -/
def mergeTags : Option ResolvedIds → Option ResolvedIds → Option ResolvedIds
  | some f, some fi => some (f.or fi)
  | some f, none => some f
  | none, some fi => some fi
  | none, none => none

/-- `resolve_identification`. `none` is a panic. -/
def resolveIdentification (itemFolder : Folder) (seasonFolder : Option Folder) (filename : Option (List Char)) :
    Option IdentificationResult :=
  let seriesMatch := mediaMatchOf regex toLowercase toUppercase folders itemFolder
  let seasonMatch := (seasonFolder.filter fun sf => sf ≠ itemFolder).bind
    (mediaMatchOf regex toLowercase toUppercase folders)
  match (cascadeMediaMatch seriesMatch seasonMatch).filter fun data => data.ids.Yields with
  | some data => some
    { ids := data.ids, identificationSource := some "media_match".toList, matchState := "confirmed".toList
      title := data.title, year := data.year, season := data.season, edition := data.edition
      episodeOverrides := data.episodeOverrides, pattern := data.pattern }
  | none =>
    match (parseNfo readEvents (folders.fileExists itemFolder) (folders.readToString itemFolder)).filter
        fun nfo => nfo.ids.Yields with
    | some nfo => some
      { ids := nfo.ids, identificationSource := some "nfo".toList, matchState := "confirmed".toList
        title := nfo.title, year := nfo.year, season := none, edition := none
        episodeOverrides := .empty, pattern := none }
    | none => do
      let folderIds ← parseProviderIdTags regex ((folders.fileName itemFolder).getD [])
      let fileIds ← (filename.map (parseProviderIdTags regex)).getD (some none)
      return match mergeTags folderIds fileIds with
        | some ids => .bare ids "provider_id_tag".toList "confirmed".toList
        | none => .bare .empty "filename_parse".toList "auto_matched".toList

end Resolve

/-! ## The ids of a `.media-match` file -/

/-- The keys of a provider. -/
def providerKeys : Provider → List (List Char)
  | .tmdb => ["tmdb".toList, "tmdbid".toList]
  | .imdb => ["imdb".toList, "imdbid".toList]
  | .tvdb => ["tvdb".toList, "tvdbid".toList]

/-- A value behind a key of the provider. -/
def MediaMatchWritten (toLowercase : List Char → List Char) (content : List Char) (provider : Provider)
    (id : List Char) : Prop :=
  ∃ line ∈ lines content, ∃ key value, splitOnce [':'] (trim line) = some (key, value) ∧
    toLowercase (trim key) ∈ providerKeys provider ∧ trim value = id

section MediaMatchIds
variable {captures : List Char → Option (List Char → Option (GroupKey → Option (List Char)))}
  {toLowercase toUppercase : List Char → List Char} {data : MediaMatchData} {key value line content : List Char}

theorem ids_ite {p : Prop} [Decidable p] {first second : MediaMatchData} (left : first.ids = ids)
    (right : second.ids = ids) : (if p then first else second).ids = ids := by
  split
  · exact left
  · exact right

/-- A line changes the ids only where its key is one of a provider. -/
theorem ids_set_data : (data.set captures toUppercase key value).ids = data.ids ∨ ∃ provider,
    key ∈ providerKeys provider ∧ (data.set captures toUppercase key value).ids = data.ids.set value provider := by
  unfold MediaMatchData.set
  by_cases tmdb : key ∈ ["tmdb".toList, "tmdbid".toList]
  · exact .inr ⟨.tmdb, tmdb, by rw [if_pos tmdb]; rfl⟩
  rw [if_neg tmdb]
  by_cases imdb : key ∈ ["imdb".toList, "imdbid".toList]
  · exact .inr ⟨.imdb, imdb, by rw [if_pos imdb]; rfl⟩
  rw [if_neg imdb]
  by_cases tvdb : key ∈ ["tvdb".toList, "tvdbid".toList]
  · exact .inr ⟨.tvdb, tvdb, by rw [if_pos tvdb]; rfl⟩
  rw [if_neg tvdb]
  refine .inl (ids_ite rfl (ids_ite rfl (ids_ite rfl (ids_ite rfl (ids_ite rfl (ids_ite ?_ rfl))))))
  cases parseEpisodeOverride captures toUppercase value <;> rfl

theorem read_written (held : data.ids.WrittenIn (MediaMatchWritten toLowercase content)) (member : line ∈ lines content) :
    (data.read captures toLowercase toUppercase line).ids.WrittenIn (MediaMatchWritten toLowercase content) := by
  unfold MediaMatchData.read
  dsimp only
  split
  · exact held
  split
  · exact held
  rename_i key value parts
  split
  · exact held
  rcases @ids_set_data captures toUppercase data (toLowercase (trim key)) (trim value) with same | ⟨provider, known, sets⟩
  · rw [same]
    exact held
  · rw [sets]
    exact held.set ⟨line, member, key, value, parts, known, rfl⟩

theorem parseMediaMatchFile_written {content : Option (List Char)}
    (parsed : parseMediaMatchFile captures toLowercase toUppercase content = some data) :
    ∃ text, content = some text ∧ data.ids.WrittenIn (MediaMatchWritten toLowercase text) := by
  obtain ⟨text, rfl, rfl⟩ := Option.map_eq_some_iff.mp parsed
  refine ⟨text, rfl, ?_⟩
  exact List.foldlRecOn (motive := fun data : MediaMatchData => data.ids.WrittenIn (MediaMatchWritten toLowercase text))
    (lines text) _ ResolvedIds.writtenIn_empty fun _ kept _ member => read_written kept member

end MediaMatchIds

/-! ## The sources -/

/-- A part of a source: the ids it gives, and what is written in it. -/
structure Part where
  ids : ResolvedIds
  written : Provider → List Char → Prop

/-- A source of ids, by its parts: what an earlier one gives for a provider is taken. -/
structure Source where
  parts : List Part

def Source.ids (source : Source) : ResolvedIds := source.parts.foldr (fun part ids => part.ids.or ids) .empty

/-- The id is given by the first part that has one for the provider, and is written there. -/
def Source.Gives (source : Source) (provider : Provider) (id : ProviderId) : Prop :=
  ∃ before part after, source.parts = before ++ part :: after ∧
    (∀ earlier ∈ before, earlier.ids.id provider = none) ∧ part.ids.id provider = some id ∧
    ∃ text, part.written provider text ∧ provider.read text = some id

/-- A result is settled by its sources: it is confirmed where it has an id, it has one where some source
gives one, and its ids are those of the first that does, each from the first part of it. -/
structure SettledBy (sources : List Source) (result : IdentificationResult) : Prop where
  confirmed : result.matchState = "confirmed".toList ↔ result.ids.Yields
  resolved : result.ids.Yields ↔ ∃ source ∈ sources, source.ids.Yields
  first : result.ids.Yields → ∃ before source after, sources = before ++ source :: after ∧
    (∀ earlier ∈ before, ¬ earlier.ids.Yields) ∧
    ∀ provider id, result.ids.id provider = some id ↔ source.Gives provider id

section Sources
variable {Folder : Type} [DecidableEq Folder] (regex : List Char → Option (Compiled GroupKey))
  (toLowercase toUppercase : List Char → List Char) (readEvents : List Char → List XmlEvent) (folders : Folders Folder)
  (itemFolder : Folder) (seasonFolder : Option Folder) (filename : Option (List Char))

/-- The ids of a folder's `.media-match` file. -/
def mediaMatchIds (folder : Folder) : ResolvedIds :=
  ((mediaMatchOf regex toLowercase toUppercase folders folder).map MediaMatchData.ids).getD .empty

/-- The season's folder, where it is another. -/
def ownSeason : Option Folder := seasonFolder.filter fun sf => sf ≠ itemFolder

/-- The `.media-match` files: the season's before the series'. -/
def mediaMatchSource : Source where
  parts := ((ownSeason itemFolder seasonFolder).toList ++ [itemFolder]).map fun folder =>
    { ids := mediaMatchIds regex toLowercase toUppercase folders folder
      written := fun provider id => ∃ content, folders.readToString folder ".media-match".toList = some content ∧
        MediaMatchWritten toLowercase content provider id }

/-- The `.nfo` files. -/
def nfoSource : Source where
  parts :=
    [{ ids := ((parseNfo readEvents (folders.fileExists itemFolder) (folders.readToString itemFolder)).map
          NfoData.ids).getD .empty
       written := fun provider id => ∃ name ∈ ["movie.nfo".toList, "tvshow.nfo".toList], ∃ content,
        folders.readToString itemFolder name = some content ∧ NfoWritten readEvents content provider id }]

/-- The tags of a name, where it has some. -/
def tagsOf (name : List Char) : Option ResolvedIds := (parseProviderIdTags regex name).join

/-- The tags of a name: those in curly brackets before those in square ones. -/
def tagParts (name : List Char) : List Part :=
  [⟨curlyIds regex name, fun provider => Tagged name (curlyOpening provider) ['\x7d']⟩,
    ⟨bracketIds regex name, fun provider => Tagged name (bracketOpening provider) [']']⟩]

/-- The tags: the folder's before the file's. -/
def tagSource : Source where
  parts := tagParts regex ((folders.fileName itemFolder).getD []) ++ filename.toList.flatMap (tagParts regex)

/-- The sources, the ones that are asked first before the others. -/
def sources : List Source :=
  [mediaMatchSource regex toLowercase toUppercase folders itemFolder seasonFolder, nfoSource readEvents folders itemFolder,
    tagSource regex folders itemFolder filename]

/-- There are tags, and no source gives an id. -/
def OnlyBareTags : Prop :=
  (∀ source ∈ sources regex toLowercase toUppercase readEvents folders itemFolder seasonFolder filename,
    ¬ source.ids.Yields) ∧
  ((tagsOf regex ((folders.fileName itemFolder).getD [])).isSome ∨ (filename.bind (tagsOf regex)).isSome)

end Sources

section Settle
variable {Folder : Type} {regex : List Char → Option (Compiled GroupKey)} {decimal : Char → Bool}
  {toLowercase toUppercase : List Char → List Char} {readEvents : List Char → List XmlEvent} {folders : Folders Folder}
  {itemFolder : Folder} {seasonFolder : Option Folder} {filename : Option (List Char)} {written : Provider → List Char → Prop}

theorem ids_cascade (series season : Option MediaMatchData) :
    ((cascadeMediaMatch series season).map MediaMatchData.ids).getD .empty =
      ((season.map MediaMatchData.ids).getD .empty).or ((series.map MediaMatchData.ids).getD .empty) := by
  cases series <;> cases season
  · rfl
  · exact (ResolvedIds.or_empty _).symm
  · rfl
  · rfl

theorem ids_mergeTags (folder file : Option ResolvedIds) :
    (mergeTags folder file).getD .empty = (folder.getD .empty).or (file.getD .empty) := by
  cases folder <;> cases file
  · rfl
  · rfl
  · exact (ResolvedIds.or_empty _).symm
  · rfl

theorem Source.gives_iff {source : Source} (written : ∀ part ∈ source.parts, part.ids.WrittenIn part.written)
    (provider : Provider) (id : ProviderId) : source.ids.id provider = some id ↔ source.Gives provider id := by
  obtain ⟨parts⟩ := source
  unfold Source.ids Source.Gives
  induction parts with
  | nil =>
    refine iff_of_false (by cases provider <;> nofun) ?_
    rintro ⟨_, _, _, shape, _⟩
    exact absurd shape.symm (by simp)
  | cons part rest ih =>
    obtain ⟨own, written⟩ := List.forall_mem_cons.mp written
    rw [List.foldr_cons, ResolvedIds.id_or, Option.or_eq_some_iff, ih written]
    constructor
    · rintro (given | ⟨none, before, later, after, rfl, earlier, rest⟩)
      · exact ⟨[], part, rest, rfl, nofun, given, own provider id given⟩
      · exact ⟨part :: before, later, after, rfl, List.forall_mem_cons.mpr ⟨none, earlier⟩, rest⟩
    · rintro ⟨before, found, after, shape, earlier, given, there⟩
      cases before with
      | nil =>
        obtain ⟨rfl, -⟩ := List.cons.inj shape
        exact .inl given
      | cons first before =>
        obtain ⟨rfl, rfl⟩ := List.cons.inj shape
        obtain ⟨none, earlier⟩ := List.forall_mem_cons.mp earlier
        exact .inr ⟨none, before, found, after, rfl, earlier, given, there⟩

theorem nfoSource_ids : (nfoSource readEvents folders itemFolder).ids =
    ((parseNfo readEvents (folders.fileExists itemFolder) (folders.readToString itemFolder)).map NfoData.ids).getD .empty :=
  ResolvedIds.or_empty _

theorem tagsOf_eq (compile : TagsCompile regex decimal) (name : List Char) :
    (tagsOf regex name).getD .empty = (curlyIds regex name).or (bracketIds regex name) := by
  unfold tagsOf parseProviderIdTags curlyIds bracketIds
  simp only [compile.curly, compile.bracket, Option.bind_eq_bind, Option.bind_some, Option.map_some, Option.getD_some]
  split
  · rename_i none
    rw [none.1, none.2]
    rfl
  · rfl

theorem tagSource_ids (compile : TagsCompile regex decimal) : (tagSource regex folders itemFolder filename).ids =
    (mergeTags (tagsOf regex ((folders.fileName itemFolder).getD [])) (filename.bind (tagsOf regex))).getD .empty := by
  rw [ids_mergeTags, tagsOf_eq compile, ResolvedIds.or_assoc]
  cases filename with
  | none => rfl
  | some name =>
    rw [Option.bind_some, tagsOf_eq compile]
    exact congrArg _ (congrArg _ (congrArg _ (ResolvedIds.or_empty _)))

variable [DecidableEq Folder]

theorem sources_written (compile : TagsCompile regex decimal) : ∀ source ∈
    sources regex toLowercase toUppercase readEvents folders itemFolder seasonFolder filename,
      ∀ part ∈ source.parts, part.ids.WrittenIn part.written := by
  have tagged (name : List Char) : ∀ part ∈ tagParts regex name, part.ids.WrittenIn part.written :=
    List.forall_mem_cons.mpr ⟨curlyIds_written compile name, List.forall_mem_singleton.mpr (bracketIds_written compile name)⟩
  refine List.forall_mem_cons.mpr ⟨fun part member => ?_, List.forall_mem_cons.mpr ⟨?_, ?_⟩⟩
  · obtain ⟨folder, -, rfl⟩ := List.mem_map.mp member
    unfold mediaMatchIds
    cases read : mediaMatchOf regex toLowercase toUppercase folders folder with
    | none => exact ResolvedIds.writtenIn_empty
    | some =>
      obtain ⟨content, there, ids⟩ := parseMediaMatchFile_written read
      exact ids.mono fun provider id written => ⟨content, there, written⟩
  · refine List.forall_mem_singleton.mpr ?_
    cases read : parseNfo readEvents (folders.fileExists itemFolder) (folders.readToString itemFolder) with
    | none => exact ResolvedIds.writtenIn_empty
    | some =>
      obtain ⟨-, name, known, content, there, ids⟩ := parseNfo_written read
      exact ids.mono fun provider id written => ⟨name, known, content, there, written⟩
  · refine List.forall_mem_singleton.mpr fun part member => ?_
    rcases List.mem_append.mp member with folder | file
    · exact tagged _ part folder
    · obtain ⟨name, -, own⟩ := List.mem_flatMap.mp file
      exact tagged name part own

/-- The tags of a name are read without a panic. -/
theorem parseProviderIdTags_tagsOf (compile : TagsCompile regex decimal) (name : List Char) :
    parseProviderIdTags regex name = some (tagsOf regex name) := by
  unfold tagsOf parseProviderIdTags
  simp only [compile.curly, compile.bracket, Option.bind_eq_bind, Option.bind_some]
  rfl

theorem filter_yields {α : Type} (ids : α → ResolvedIds) (found : Option α) :
    (∃ data, found.filter (fun data => (ids data).Yields) = some data ∧
      (ids data).Yields ∧ ids data = (found.map ids).getD .empty) ∨
    found.filter (fun data => (ids data).Yields) = none ∧ ¬ ((found.map ids).getD .empty).Yields := by
  cases found with
  | none => exact .inr ⟨rfl, ResolvedIds.not_yields_iff.mpr rfl⟩
  | some data =>
    by_cases yields : (ids data).Yields
    · exact .inl ⟨data, by simp [yields], yields, rfl⟩
    · exact .inr ⟨by simp [yields], yields⟩

theorem mediaMatchSource_ids : (mediaMatchSource regex toLowercase toUppercase folders itemFolder seasonFolder).ids =
    ((cascadeMediaMatch (mediaMatchOf regex toLowercase toUppercase folders itemFolder)
      ((ownSeason itemFolder seasonFolder).bind (mediaMatchOf regex toLowercase toUppercase folders))).map
      MediaMatchData.ids).getD .empty := by
  rw [ids_cascade]
  unfold mediaMatchSource
  cases ownSeason itemFolder seasonFolder
  · exact ResolvedIds.or_empty _
  · exact congrArg _ (ResolvedIds.or_empty _)

/-- How the search ends: at the first source that gives an id, or without one. -/
theorem resolve_cases (compile : TagsCompile regex decimal) :
    ∃ result, resolveIdentification regex toLowercase toUppercase readEvents folders itemFolder seasonFolder filename =
        some result ∧
      ((∃ before source after, sources regex toLowercase toUppercase readEvents folders itemFolder seasonFolder filename =
          before ++ source :: after ∧ (∀ earlier ∈ before, ¬ earlier.ids.Yields) ∧ source.ids.Yields ∧
          result.ids = source.ids ∧ result.matchState = "confirmed".toList) ∨
        (∀ source ∈ sources regex toLowercase toUppercase readEvents folders itemFolder seasonFolder filename,
          ¬ source.ids.Yields) ∧ result.ids = .empty ∧
          (result.matchState = "confirmed".toList ↔
            (tagsOf regex ((folders.fileName itemFolder).getD [])).isSome ∨ (filename.bind (tagsOf regex)).isSome)) := by
  have fileTags : (filename.map (parseProviderIdTags regex)).getD (some none) = some (filename.bind (tagsOf regex)) := by
    cases filename with
    | none => rfl
    | some filename => exact parseProviderIdTags_tagsOf compile filename
  unfold resolveIdentification
  rcases filter_yields MediaMatchData.ids (cascadeMediaMatch (mediaMatchOf regex toLowercase toUppercase folders itemFolder)
    ((ownSeason itemFolder seasonFolder).bind (mediaMatchOf regex toLowercase toUppercase folders)))
    with ⟨data, first, yields, same⟩ | ⟨nothing, unmatched⟩
  · rw [← mediaMatchSource_ids] at same
    simp only [show seasonFolder.filter _ = ownSeason itemFolder seasonFolder from rfl, first]
    exact ⟨_, rfl, .inl ⟨[], _, _, rfl, nofun, same ▸ yields, same, rfl⟩⟩
  rw [← mediaMatchSource_ids] at unmatched
  simp only [show seasonFolder.filter _ = ownSeason itemFolder seasonFolder from rfl, nothing]
  rcases filter_yields NfoData.ids (parseNfo readEvents (folders.fileExists itemFolder) (folders.readToString itemFolder))
    with ⟨data, first, yields, same⟩ | ⟨absent, unnoted⟩
  · rw [← nfoSource_ids] at same
    simp only [first]
    refine ⟨_, rfl, .inl ⟨[mediaMatchSource regex toLowercase toUppercase folders itemFolder seasonFolder],
      nfoSource readEvents folders itemFolder, _, rfl, ?_, same ▸ yields, same, rfl⟩⟩
    exact List.forall_mem_singleton.mpr unmatched
  rw [← nfoSource_ids] at unnoted
  simp only [absent, parseProviderIdTags_tagsOf compile, fileTags, Option.bind_eq_bind, Option.bind_some]
  refine ⟨_, rfl, ?_⟩
  have early : ∀ source ∈ [mediaMatchSource regex toLowercase toUppercase folders itemFolder seasonFolder,
      nfoSource readEvents folders itemFolder], ¬ source.ids.Yields :=
    List.forall_mem_cons.mpr ⟨unmatched, List.forall_mem_singleton.mpr unnoted⟩
  have tagged : (tagSource regex folders itemFolder filename).ids = _ := tagSource_ids compile
  by_cases yields : (tagSource regex folders itemFolder filename).ids.Yields
  · refine .inl ⟨_, tagSource regex folders itemFolder filename, [], rfl, early, yields, ?_⟩
    rw [tagged] at yields ⊢
    cases merged : mergeTags (tagsOf regex ((folders.fileName itemFolder).getD [])) (filename.bind (tagsOf regex)) with
    | none =>
      rw [merged] at yields
      exact absurd yields (ResolvedIds.not_yields_iff.mpr rfl)
    | some => exact ⟨rfl, rfl⟩
  · refine .inr ⟨?_, ?_⟩
    · exact List.forall_mem_cons.mpr ⟨unmatched, List.forall_mem_cons.mpr ⟨unnoted, List.forall_mem_singleton.mpr yields⟩⟩
    · rw [tagged] at yields
      cases folderTags : tagsOf regex ((folders.fileName itemFolder).getD []) <;>
        cases named : filename.bind (tagsOf regex) <;> rw [folderTags, named] at yields
      · exact ⟨rfl, iff_of_false (by decide) (by simp)⟩
      · exact ⟨ResolvedIds.not_yields_iff.mp yields, iff_of_true rfl (by simp)⟩
      · exact ⟨ResolvedIds.not_yields_iff.mp yields, iff_of_true rfl (by simp)⟩
      · exact ⟨ResolvedIds.not_yields_iff.mp yields, iff_of_true rfl (by simp)⟩

end Settle

/-- An item is confirmed with an id of the first source that gives one, or with none: where the only ids
are in tags, and none of them can be read. -/
theorem identification_settled_iff {Folder : Type} [DecidableEq Folder] (regex : List Char → Option (Compiled GroupKey))
    (decimal : Char → Bool) (compile : TagsCompile regex decimal) (toLowercase toUppercase : List Char → List Char)
    (readEvents : List Char → List XmlEvent) (folders : Folders Folder) (itemFolder : Folder)
    (seasonFolder : Option Folder) (filename : Option (List Char)) :
    (∃ result, resolveIdentification regex toLowercase toUppercase readEvents folders itemFolder seasonFolder filename =
        some result ∧
      SettledBy (sources regex toLowercase toUppercase readEvents folders itemFolder seasonFolder filename) result) ↔
    ¬ OnlyBareTags regex toLowercase toUppercase readEvents folders itemFolder seasonFolder filename := by
  obtain ⟨result, resolved, ⟨before, source, after, shape, none', yields, same, confirmed⟩ | ⟨none', same, confirmed⟩⟩ :=
    @resolve_cases Folder regex decimal toLowercase toUppercase readEvents folders itemFolder seasonFolder filename _ compile
  · have member : source ∈ sources regex toLowercase toUppercase readEvents folders itemFolder seasonFolder filename := by
      rw [shape]
      exact List.mem_append_right _ List.mem_cons_self
    have gives := Source.gives_iff (sources_written compile source member)
    rw [← same] at gives yields
    refine iff_of_true ⟨result, resolved, ⟨iff_of_true confirmed yields, iff_of_true yields ⟨source, member, same ▸ yields⟩,
      fun _ => ⟨before, source, after, shape, none', gives⟩⟩⟩ fun bare => ?_
    exact bare.1 source member (same ▸ yields)
  · have bare : ¬ result.ids.Yields := ResolvedIds.not_yields_iff.mpr same
    constructor
    · rintro ⟨other, again, settled⟩ ⟨-, tags⟩
      cases resolved.symm.trans again
      exact bare (settled.confirmed.mp (confirmed.mpr tags))
    · intro some'
      refine ⟨result, resolved, ?_, iff_of_false bare ?_, fun yields => absurd yields bare⟩
      · exact iff_of_false (fun state => some' ⟨none', confirmed.mp state⟩) bare
      · rintro ⟨source, member, yields⟩
        exact none' source member yields

/-- The expressions of the tags alone, with the digits of ASCII for `\d`. -/
def asciiTags (text : List Char) : Option (Compiled GroupKey) :=
  if text = curlyTagText then some (curlyTagExpression Char.isDigit).compiled
  else if text = bracketTagText then some (bracketTagExpression Char.isDigit).compiled
  else none

theorem asciiTags_compile : TagsCompile asciiTags Char.isDigit where
  curly := if_pos rfl
  bracket := (if_neg (by decide +kernel)).trans (if_pos rfl)

/-- A folder of this name that holds no file of ours. -/
def named (name : List Char) : Folders Unit where
  fileName _ := some name
  fileExists _ _ := false
  readToString _ _ := none

/-- A tag of each kind: the one in curly brackets counts. -/
def matrix : List Char := "The Matrix (1999) [tmdbid=604] \x7btmdb-603\x7d [imdbid-tt0133093]".toList

theorem matrix_settled : ∃ result, resolveIdentification asciiTags id id (fun _ => []) (named matrix) () none none =
      some result ∧ result.ids = ⟨some 603, some "tt0133093".toList, none⟩ ∧
    SettledBy (sources asciiTags id id (fun _ => []) (named matrix) () none none) result := by
  have ids : (resolveIdentification asciiTags id id (fun _ => []) (named matrix) () none none).map
      IdentificationResult.ids = some ⟨some 603, some "tt0133093".toList, none⟩ := by decide +kernel
  obtain ⟨result, resolved, settled⟩ := (identification_settled_iff asciiTags Char.isDigit asciiTags_compile id id
    (fun _ => []) (named matrix) () none none).mpr fun bare =>
      bare.1 _ (List.mem_cons_of_mem _ (List.mem_cons_of_mem _ List.mem_cons_self)) (by decide +kernel)
  rw [resolved] at ids
  exact ⟨result, resolved, Option.some.inj ids, settled⟩

/-- A number of a tag that no id can hold: the item is confirmed, and has none. -/
theorem bare_tag_confirmed : ¬ ∀ (Folder : Type) [DecidableEq Folder] (regex : List Char → Option (Compiled GroupKey))
    (decimal : Char → Bool) (_ : TagsCompile regex decimal) (toLowercase toUppercase : List Char → List Char)
    (readEvents : List Char → List XmlEvent) (folders : Folders Folder) (itemFolder : Folder)
    (seasonFolder : Option Folder) (filename : Option (List Char)),
    ∃ result, resolveIdentification regex toLowercase toUppercase readEvents folders itemFolder seasonFolder filename =
        some result ∧
      SettledBy (sources regex toLowercase toUppercase readEvents folders itemFolder seasonFolder filename) result := by
  intro all
  obtain ⟨result, resolved, settled⟩ := all Unit asciiTags Char.isDigit asciiTags_compile id id (fun _ => [])
    (named "Movie (1999) \x7btmdb-99999999999999999999\x7d".toList) () none none
  have answer : (resolveIdentification asciiTags id id (fun _ => [])
      (named "Movie (1999) \x7btmdb-99999999999999999999\x7d".toList) () none none).map
        (fun result => (result.matchState, result.ids)) = some ("confirmed".toList, .empty) := by decide +kernel
  rw [resolved] at answer
  obtain ⟨state, ids⟩ := Prod.mk.inj (Option.some.inj answer)
  exact ResolvedIds.not_yields_iff.mpr ids (settled.confirmed.mp state)

end Duskcue.MediaMatching
