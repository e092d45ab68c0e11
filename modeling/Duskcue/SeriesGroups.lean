import Duskcue.MediaNames
import Duskcue.Table

/-! How a library scan groups the files of episodes: by the title of their series' folder and the
folder itself. -/
namespace Duskcue.LibraryNames
open Text Decimals MediaMatching NfoParser Regex

/-! ## Paths -/

/-- A name in a path, as a directory lists it. -/
@[ext] structure Name where
  text : List Char
  filled : text ≠ []
  whole : '/' ∉ text
  plain : text ≠ ['.'] ∧ text ≠ ['.', '.']
  deriving DecidableEq

/-- An absolute path, from its root. -/
abbrev PathBuf := List Name

namespace PathBuf

/-- `to_string_lossy`, of names in Unicode. -/
def toStringLossy (path : PathBuf) : List Char := '/' :: ['/'].intercalate (path.map Name.text)

def parent (path : PathBuf) : Option PathBuf := if path = [] then none else some path.dropLast

def fileName (path : PathBuf) : Option (List Char) := path.getLast?.map Name.text

/-- What is before the last dot, where that is something. -/
def stem (name : List Char) : List Char :=
  let before := (name.rdropWhile (· ≠ '.')).dropLast
  if before = [] then name else before

def fileStem (path : PathBuf) : Option (List Char) := path.fileName.map stem

def file (path : PathBuf) : FilePath := ⟨path.fileStem, path.fileName⟩

theorem toStringLossy_injective : Function.Injective toStringLossy := by
  have root {path : PathBuf} (empty : ['/'].intercalate (path.map Name.text) = []) : path = [] := by
    cases path with
    | nil => rfl
    | cons name path =>
      refine (name.filled ?_).elim
      cases path with
      | nil => simpa using empty
      | cons =>
        rw [List.map_cons, List.map_cons, List.intercalate_cons_cons, List.append_assoc, List.append_eq_nil_iff] at empty
        exact empty.1
  have split {path : PathBuf} (filled : path ≠ []) :
      (['/'].intercalate (path.map Name.text)).splitOn '/' = path.map Name.text :=
    List.splitOn_intercalate '/' (List.forall_mem_map.mpr fun name _ => name.whole) (by simpa using filled)
  intro path other same
  have names := (List.cons.inj same).2
  by_cases empty : path = []
  · subst empty
    exact (root names.symm).symm
  by_cases empty' : other = []
  · subst empty'
    exact root names
  refine List.map_injective_iff.mpr (fun _ _ => Name.ext) ?_
  rw [← split empty, ← split empty', names]

end PathBuf

section Expressions
variable (decimal : Char → Bool)

/-- A word in any case. -/
def anyCase : List (List Char) → Regex GroupKey
  | [] => empty
  | letters :: more => seq (one letters.contains) (anyCase more)

/-- `(?i)^season\s*\d+$`. -/
def seasonExpression : Regex GroupKey :=
  seq start (seq (anyCase [['s', 'S', 'ſ'], ['e', 'E'], ['a', 'A'], ['s', 'S', 'ſ'], ['o', 'O'], ['n', 'N']])
    (seq spaces (seq (many decimal 1 none) finish)))

/-- `(?i)^specials$`. -/
def specialsExpression : Regex GroupKey :=
  seq start (seq (anyCase [['s', 'S', 'ſ'], ['p', 'P'], ['e', 'E'], ['c', 'C'], ['i', 'I'], ['a', 'A'], ['l', 'L'],
    ['s', 'S', 'ſ']]) finish)

end Expressions

def seasonText : List Char := "(?i)^season\\s*\\d+$".toList
def specialsText : List Char := "(?i)^specials$".toList

/-! ## Grouping -/

structure SeriesKey where
  title : List Char
  year : Option Nat
  folder : PathBuf
  deriving DecidableEq

structure EpisodeInfo where
  file : PathBuf
  season : Nat
  episode : Nat
  episodeEnd : Option Nat
  deriving DecidableEq

/-- A group of episodes, with the key that the first of them has given it. -/
structure SeriesGroup where
  key : SeriesKey
  episodes : List EpisodeInfo
  deriving DecidableEq

/-- What a grouping has come to. -/
structure Grouping where
  groups : Table (List Char) SeriesGroup
  mediaMatchCache : Table PathBuf (Option MediaMatchData)

/-- What lies under the folders of a scan. -/
structure Disk where
  fileExists : PathBuf → List Char → Bool
  readToString : PathBuf → List Char → Option (List Char)

def Disk.folders (disk : Disk) : Folders PathBuf := ⟨PathBuf.fileName, disk.fileExists, disk.readToString⟩

/-- The order in which hash maps of overrides are walked. -/
structure HashOrder where
  walk : EpisodeOverrides → EpisodeOverrides
  perm : ∀ overrides, (walk overrides).entries.Perm overrides.entries

section Grouping
variable (regex : List Char → Option (Compiled GroupKey)) (toLowercase toUppercase : List Char → List Char)
  (order : HashOrder) (disk : Disk) (scanPath : PathBuf)

/-- `find_series_folder`. `none` is a panic. -/
def findSeriesFolder (current : PathBuf) : Option PathBuf :=
  if current = scanPath then some current
  else do
    let seasonRe ← regex seasonText
    let specialsRe ← regex specialsText
    let folderName := current.fileName.getD []
    return if seasonRe.isMatch folderName || specialsRe.isMatch folderName then current.parent.getD current else current

/-- The series' folder of a file. -/
def seriesFolderOf (path : PathBuf) : Option PathBuf := findSeriesFolder regex scanPath (path.parent.getD scanPath)

/-- `parse_media_match_file` of a folder, as the cache keeps it. -/
def cachedMatch (folder : PathBuf) : Option MediaMatchData :=
  (mediaMatchOf regex toLowercase toUppercase disk.folders folder).map fun mm =>
    { mm with episodeOverrides := order.walk mm.episodeOverrides }

/-- The season, the episode and the last episode of a file, where there are any. The outer `none` is a panic. -/
def episodeNumbers (cached : Option MediaMatchData) (path seriesFolder : PathBuf) :
    Option (Option (Option Nat × Option Nat × Option Nat)) :=
  let override := cached.bind fun mm => resolveEpisodeOverride (fun text => (regex text).map Compiled.captures) toLowercase
    (path.fileName.getD []) mm.episodeOverrides mm.pattern (mm.season.getD 1)
  match override with
  | some (season, episode, episodeEnd) => some (some (some season, some episode, episodeEnd))
  | none => do
    match ← parseMediaName regex path.file seriesFolder.fileName with
    | some p => return some (p.season, p.episode, p.episodeEnd)
    | none =>
      let parsedEp ← parseSxxexxFilename regex path.fileName
      return parsedEp.map fun (s, e, ee) => (some s, some e, ee)

/-- The key of a file's group, and the text that stands for it. -/
def seriesKey (path seriesFolder : PathBuf) : Option (List Char × SeriesKey) := do
  let seriesName := seriesFolder.fileName.getD "Unknown".toList
  let parsed ← parseMediaName regex path.file seriesFolder.fileName
  let title ← (parsed.map fun p => some p.title).getD (cleanSeriesName regex seriesName)
  let year := (parsed.bind (·.year)).or (parseYearFromName regex seriesName)
  return (title ++ '-' :: seriesFolder.toStringLossy, { title, year, folder := seriesFolder })

/-- A turn of the loop of `group_episodes_by_series`. -/
def groupEpisode (grouping : Grouping) (path : PathBuf) : Option Grouping := do
  let seriesFolder ← seriesFolderOf regex scanPath path
  let cached := (grouping.mediaMatchCache.find seriesFolder).getD
    (cachedMatch regex toLowercase toUppercase order disk seriesFolder)
  let mediaMatchCache := grouping.mediaMatchCache.put seriesFolder cached
  match ← episodeNumbers regex toLowercase cached path seriesFolder with
  | some (some season, some episode, episodeEnd) =>
    let (key, seriesKey) ← seriesKey regex path seriesFolder
    let group := (grouping.groups.find key).getD ⟨seriesKey, []⟩
    let episodes := group.episodes ++ [⟨path, season, episode, episodeEnd⟩]
    return ⟨grouping.groups.put key { group with episodes }, mediaMatchCache⟩
  | _ => return ⟨grouping.groups, mediaMatchCache⟩

/-- `group_episodes_by_series`. -/
def groupEpisodesBySeries (probed : List PathBuf) : Option (Table (List Char) SeriesGroup) :=
  (probed.foldlM (groupEpisode regex toLowercase toUppercase order disk scanPath) ⟨.empty, .empty⟩).map Grouping.groups

end Grouping

/-- The expressions of the names and of the seasons' folders, compiled. -/
structure SeriesCompile (regex : List Char → Option (Compiled GroupKey)) (decimal : Char → Bool) : Prop where
  names : NamesCompile regex decimal
  season : regex seasonText = some (seasonExpression decimal).compiled
  specials : regex specialsText = some specialsExpression.compiled

/-! ## The titles of folders -/

section Titles
variable {regex : List Char → Option (Compiled GroupKey)} {decimal : Char → Bool} {name title : List Char} {c : Char}
  {path seriesFolder : PathBuf} {parsed : ParsedMediaName}

theorem replace_whole {r : Regex GroupKey} (whole : c ∉ name) : c ∉ r.compiled.replace name [] :=
  fun member => whole (replace_subset r [] name member)

theorem splitWhitespace_whole (whole : c ∉ name) : ∀ word ∈ splitWhitespace name, c ∉ word := by
  have pieces : ∀ word ∈ name.splitOnP isWhitespace, word ⊆ name := by
    clear whole
    induction name with
    | nil => simp
    | cons d name ih =>
      intro word member
      rw [List.splitOnP_cons_eq_if_modifyHead] at member
      split at member
      · rcases List.mem_cons.mp member with rfl | later
        · exact List.nil_subset _
        · exact List.subset_cons_of_subset _ (ih word later)
      · obtain ⟨first, rest, shape⟩ := List.exists_cons_of_ne_nil (List.splitOnP_ne_nil isWhitespace name)
        rw [shape] at ih member
        rcases List.mem_cons.mp member with rfl | later
        · exact List.cons_subset_cons _ (ih first List.mem_cons_self)
        · exact List.subset_cons_of_subset _ (ih word (List.mem_cons_of_mem _ later))
  intro word member within
  exact whole (pieces word (List.mem_filter.mp member).1 within)

section
variable (compile : NamesCompile regex decimal)
include compile

/-- A title is cut out of its folder's name, with spaces for dots. -/
theorem cleanSeriesName_whole (other : c ≠ ' ') (whole : c ∉ name)
    (cleaned : cleanSeriesName regex name = some title) : c ∉ title := by
  unfold cleanSeriesName at cleaned
  simp only [compile.curly, compile.square, compile.parenthesized, Option.bind_eq_bind, Option.bind_some] at cleaned
  cases cleaned
  have bare := replace_whole (r := parenthesizedExpression decimal)
    (replace_whole (r := squareExpression) (replace_whole (r := curlyExpression) whole))
  intro member
  rcases Title.mem_intercalate member with between | ⟨word, known, within⟩
  · exact other (List.mem_singleton.mp between)
  · refine splitWhitespace_whole (fun turned => ?_) word known within
    obtain ⟨d, there, same⟩ := List.mem_map.mp turned
    unfold dotToSpace at same
    split at same
    · exact other same.symm
    · exact bare (same ▸ trim_subset _ there)

/-- What is read of a file with its folder's name: the year of the name, and a title that is cut out of it. -/
theorem parseMediaName_whole (read : parseMediaName regex file parentName = some (some parsed)) :
    parsed.year = parseYearFromName regex (parentName.getD []) ∧ ∀ c ≠ ' ', c ∉ parentName.getD [] → c ∉ parsed.title := by
  obtain ⟨marker, marked⟩ := parseSxxexx_some compile file.fileName
  unfold parseMediaName at read
  cases named : file.fileStem with
  | none =>
    rw [named] at read
    cases read
  | some =>
    simp only [named, compile.parenthesized, Option.map_some, marked, Option.bind_eq_bind] at read
    split at read
    · obtain rfl := Option.some.inj (Option.some.inj read)
      exact ⟨rfl, fun c _ whole member => replace_whole whole (trim_subset _ member)⟩
    · cases cleaned : cleanSeriesName regex (parentName.getD []) with
      | none =>
        rw [cleaned] at read
        cases read
      | some =>
        rw [cleaned] at read
        obtain rfl := Option.some.inj (Option.some.inj read)
        exact ⟨rfl, fun c other whole => cleanSeriesName_whole compile other whole cleaned⟩

theorem parseYear_absent (round : '(' ∉ name)
    (undigited : ∀ c ∈ name, decimal c = false) : parseYearFromName regex name = none := by
  have bracketed : (yearExpression decimal).compiled.captures name = none :=
    captures_eq_none (search_absent round fun led => by
      obtain ⟨tail, rfl⟩ := yearExpression_starts led
      exact List.mem_cons_self)
  have standalone : (standaloneExpression decimal).compiled.captures name = none := by
    refine captures_eq_none (search_eq_none fun u v same => walk_eq_nil fun after groups led => ?_)
    obtain ⟨middle, _, _, opened, counting, -⟩ := mem_seq.mp led
    obtain ⟨_, _, _, counted, -, -⟩ := mem_seq.mp counting
    obtain ⟨year, -, rfl, digits, four, -⟩ := mem_group_many.mp counted
    obtain ⟨d, year, rfl⟩ := List.exists_cons_of_length_pos (by omega : 0 < year.length)
    have later : d ∈ v := (suffix_of_mem opened).subset (List.mem_append_left _ List.mem_cons_self)
    have digit := digits d List.mem_cons_self
    rw [undigited d (same ▸ List.mem_append_right u later)] at digit
    cases digit
  unfold parseYearFromName
  simp only [compile.year, compile.standalone, Option.bind_eq_bind, Option.bind_some, bracketed, standalone,
    Option.bind_none]

theorem parseYear_unknown (of : Decimal decimal) : parseYearFromName regex "Unknown".toList = none :=
  parseYear_absent compile (by decide) fun c member =>
    of.other ((by decide : ∀ c ∈ "Unknown".toList, c.toNat < 128 ∧ c.isDigit = false) c member)

end

end Titles

/-- The year of a folder's name. -/
def folderYear (regex : List Char → Option (Compiled GroupKey)) (folder : PathBuf) : Option Nat :=
  folder.fileName.bind (parseYearFromName regex)

/-- A group belongs to a folder: its key is made of the folder, and its files are those of the folder. -/
structure SeriesGroup.OfFolder (regex : List Char → Option (Compiled GroupKey)) (scanPath : PathBuf) (text : List Char)
    (group : SeriesGroup) : Prop where
  text_eq : text = group.key.title ++ '-' :: group.key.folder.toStringLossy
  whole : '/' ∉ group.key.title
  year : group.key.year = folderYear regex group.key.folder
  files : ∀ episode ∈ group.episodes, seriesFolderOf regex scanPath episode.file = some group.key.folder

section Keys
variable {regex : List Char → Option (Compiled GroupKey)} {decimal : Char → Bool} {toLowercase toUppercase : List Char → List Char}
  {order : HashOrder} {disk : Disk} {scanPath path seriesFolder : PathBuf} {text : List Char} {key : SeriesKey}
  {grouping next : Grouping} {group : SeriesGroup}

theorem fileName_whole (seriesFolder : PathBuf) (named : seriesFolder.fileName = some name) : '/' ∉ name := by
  obtain ⟨last, -, rfl⟩ := Option.map_eq_some_iff.mp named
  exact last.whole

/-- A group's key has its folder's year, and its text has the title in front of the folder. -/
theorem seriesKey_of_folder (compile : NamesCompile regex decimal) (of : Decimal decimal)
    (keyed : seriesKey regex path seriesFolder = some (text, key)) :
    key.folder = seriesFolder ∧ key.year = folderYear regex seriesFolder ∧ '/' ∉ key.title ∧
      text = key.title ++ '-' :: seriesFolder.toStringLossy := by
  have wholeName : '/' ∉ seriesFolder.fileName.getD [] := by
    cases named : seriesFolder.fileName with
    | none => exact List.not_mem_nil
    | some => exact fileName_whole seriesFolder named
  have wholeSeries : '/' ∉ seriesFolder.fileName.getD "Unknown".toList := by
    cases named : seriesFolder.fileName with
    | none => decide
    | some => exact fileName_whole seriesFolder named
  have named : parseYearFromName regex (seriesFolder.fileName.getD "Unknown".toList) = folderYear regex seriesFolder := by
    unfold folderYear
    cases seriesFolder.fileName with
    | none => exact parseYear_unknown compile of
    | some => rfl
  have bare : parseYearFromName regex (seriesFolder.fileName.getD []) = folderYear regex seriesFolder := by
    unfold folderYear
    cases seriesFolder.fileName with
    | none => exact parseYear_absent compile List.not_mem_nil nofun
    | some => rfl
  unfold seriesKey at keyed
  obtain ⟨parsed, read, keyed⟩ := Option.bind_eq_some_iff.mp keyed
  obtain ⟨title, titled, keyed⟩ := Option.bind_eq_some_iff.mp keyed
  cases keyed
  cases parsed with
  | none => exact ⟨rfl, named, cleanSeriesName_whole compile (by decide) wholeSeries titled, rfl⟩
  | some parsed =>
    cases titled
    obtain ⟨year, whole⟩ := parseMediaName_whole compile read
    refine ⟨rfl, ?_, whole '/' (by decide) wholeName, rfl⟩
    show parsed.year.or _ = _
    rw [year, bare, named, Option.or_self]

theorem key_injective {folder folder' : PathBuf} (whole : '/' ∉ title) (whole' : '/' ∉ title')
    (same : title ++ '-' :: folder.toStringLossy = title' ++ '-' :: folder'.toStringLossy) :
    title = title' ∧ folder = folder' := by
  have absent {title : List Char} (whole : '/' ∉ title) : '/' ∉ title ++ ['-'] := by simpa using whole
  have shape (title : List Char) (folder : PathBuf) : title ++ '-' :: folder.toStringLossy =
      (title ++ ['-']) ++ '/' :: ['/'].intercalate (folder.map Name.text) := by
    rw [List.append_assoc]
    rfl
  rw [shape, shape] at same
  have titles := before_eq (absent whole) (absent whole') same
  rw [titles] at same
  refine ⟨(List.append_inj' titles rfl).1, PathBuf.toStringLossy_injective (List.append_cancel_left same)⟩

theorem groupEpisode_ofFolder (compile : NamesCompile regex decimal) (of : Decimal decimal)
    (held : ∀ text group, grouping.groups.find text = some group → group.OfFolder regex scanPath text)
    (grouped : groupEpisode regex toLowercase toUppercase order disk scanPath grouping path = some next) :
    ∀ text group, next.groups.find text = some group → group.OfFolder regex scanPath text := by
  unfold groupEpisode at grouped
  obtain ⟨seriesFolder, there, grouped⟩ := Option.bind_eq_some_iff.mp grouped
  obtain ⟨numbers, -, grouped⟩ := Option.bind_eq_some_iff.mp grouped
  split at grouped
  · rename_i season episode episodeEnd
    obtain ⟨⟨key, own⟩, keyed, grouped⟩ := Option.bind_eq_some_iff.mp grouped
    cases grouped
    obtain ⟨folder, year, whole, text⟩ := seriesKey_of_folder compile of keyed
    subst folder
    refine Table.forall_put ?_ held
    cases known : grouping.groups.find key with
    | none =>
      refine ⟨text, whole, year, fun episode member => ?_⟩
      obtain rfl := List.mem_singleton.mp member
      exact there
    | some group =>
      obtain ⟨text', whole', year', files⟩ := held key group known
      have same := (key_injective whole whole' (text.symm.trans text')).2
      refine ⟨text', whole', year', fun episode member => ?_⟩
      rcases List.mem_append.mp member with earlier | last
      · exact files episode earlier
      · obtain rfl := List.mem_singleton.mp last
        exact there.trans (congrArg some same)
  · cases grouped
    exact held

theorem foldlM_ofFolder (compile : NamesCompile regex decimal) (of : Decimal decimal) {probed : List PathBuf}
    (held : ∀ text group, grouping.groups.find text = some group → group.OfFolder regex scanPath text)
    (grouped : probed.foldlM (groupEpisode regex toLowercase toUppercase order disk scanPath) grouping = some next) :
    ∀ text group, next.groups.find text = some group → group.OfFolder regex scanPath text := by
  induction probed generalizing grouping with
  | nil =>
    cases grouped
    exact held
  | cons _ _ ih =>
    obtain ⟨middle, first, later⟩ := Option.bind_eq_some_iff.mp grouped
    exact ih (groupEpisode_ofFolder compile of held first) later

theorem groups_ofFolder (compile : NamesCompile regex decimal) (of : Decimal decimal)
    (grouped : groupEpisodesBySeries regex toLowercase toUppercase order disk scanPath probed = some groups)
    (found : groups.find text = some group) : group.OfFolder regex scanPath text := by
  obtain ⟨last, folded, rfl⟩ := Option.map_eq_some_iff.mp grouped
  exact foldlM_ofFolder compile of (by simp) folded text group found

end Keys

end Duskcue.LibraryNames
