import Duskcue.Table
import Duskcue.Text

/-! The library scanner. A scan goes through the enabled paths of a library one
after another: it lists the files under a path, compares them with the rows of
the whole library, probes those that are new or changed, writes the probed ones
back and marks the rows whose files were not listed. What the file system, the
prober, the names of the files and the metadata providers answer is the
surroundings of a scan. -/
namespace Duskcue.Scanner

/-- Row ids; `uuidv7()` draws one that no row of the table has. -/
abbrev Id := Nat

/-- A path as `to_string_lossy` gives it. -/
abbrev Path := List Char

inductive MediaType where
  | movies
  | tvshows

inductive ItemType where
  | movie
  | series
  | season
  | episode
  deriving DecidableEq

structure Library where
  mediaType : MediaType
  deleted : Bool

structure LibraryPath where
  libraryId : Id
  path : Path
  scanEnabled : Bool

structure MediaItem where
  libraryId : Id
  type : ItemType
  title : List Char

structure Season where
  seriesId : Id
  seasonNumber : UInt32

structure Episode where
  seriesId : Id
  seasonId : Id
  episodeNumber : UInt32

/-- A row of `media_files`; the times are microseconds. -/
structure MediaFile where
  mediaItemId : Id
  filePath : Path
  fileSize : Int
  fileModifiedAt : Option Int
  isHealthy : Bool
  deriving DecidableEq

/-- The tables a scan reads and writes. A file's item is always there. -/
structure Store where
  libraries : Table Id Library
  libraryPaths : List LibraryPath
  items : Table Id MediaItem
  series : List Id
  seasons : Table Id Season
  episodes : Table Id Episode
  files : Table Id MediaFile
  referenced : ∀ id file, files.find id = some file → (items.find file.mediaItemId).isSome = true

/-- A listed file; the time is nanoseconds since 1970, if it can be read. -/
structure DiscoveredFile where
  path : Path
  size : UInt64
  mtime : Option Int

structure SeriesKey where
  title : List Char
  folder : Path

/-! ## Files and their times -/

def mediaVideoExtensions : List String :=
  ["mkv", "mp4", "avi", "ts", "m2ts", "wmv", "flv", "webm", "mov", "mpg", "mpeg", "m4v", "3gp",
    "ogv", "iso", "img"]

/-- `char::to_lowercase`, as far as its result can be a letter or digit of ASCII: the Kelvin
sign is the one other character that becomes one. -/
def lowercase (c : Char) : Char := if c = '\u212a' then 'k' else c.toLower

/-- `Path::extension`: what follows the last dot of the name, unless the dot opens it. -/
def extension (path : Path) : Option (List Char) :=
  let name := path.rtakeWhile (· ≠ '/')
  let ending := name.rtakeWhile (· ≠ '.')
  let stem := name.take (name.length - ending.length - 1)
  if name = ['.', '.'] ∨ ending.length = name.length ∨ stem = [] then none else some ending

def isMediaVideoFile (path : Path) : Bool :=
  (extension path).any fun ending => mediaVideoExtensions.any fun known => known.toList = ending.map lowercase

/-- `timestampMicros` of a time in nanoseconds. -/
def timestampMicros (time : Int) : Int := time / 1000

/-- The beginning of the year 2000 in microseconds. -/
def postgresEpoch : Int := 946684800000000

/-- A bound time: whole microseconds, counted from the year 2000 and rounded towards it. -/
def boundMicros (time : Int) : Int := postgresEpoch + (time - 1000 * postgresEpoch).tdiv 1000

/-- `size as i64`. -/
def boundSize (size : UInt64) : Int := size.toBitVec.toInt

/-- `i64::try_from(size).ok()`. -/
def checkedSize (size : UInt64) : Option Int := if size.toNat < 2 ^ 63 then some size.toNat else none

/-! ## The surroundings of a scan -/

/-- What a scan meets outside the database. `discover` is the listing of a path when its turn
comes, `probe` what probing one of its files gives then, `accepts` whether the columns hold
the probed values. `series` and `numbers` are what `.media-match` and the names say of an
episode, `arrange` the order in which a hash map gives its groups. Enrichment rewrites what is
known about items, not which library they are in nor which files they have. -/
structure Surroundings (Probe : Type) where
  existsPath : Path → Bool
  discover : Path → List DiscoveredFile
  probe : Path → Path → Option Probe
  accepts : Probe → Bool
  title : Path → Path → List Char
  series : Path → Path → SeriesKey
  numbers : Path → Path → Option (UInt32 × UInt32)
  episodeTitle : Path → List Char
  arrange : {α : Type} → List α → List α
  arranged : ∀ {α : Type} (groups : List α), (arrange groups).Perm groups
  enrich : Id → Store → Store
  enrichFiles : ∀ library store, (enrich library store).files = store.files
  enrichItems : ∀ library store id, ((enrich library store).items.find id).map MediaItem.libraryId =
    (store.items.find id).map MediaItem.libraryId

/-! ## The difference to the rows -/

structure DiffResult where
  newFiles : List DiscoveredFile
  modifiedFiles : List DiscoveredFile
  unchangedCount : Nat
  deletedPaths : List Path

def inLibrary (store : Store) (libraryId : Id) (file : MediaFile) : Bool :=
  (store.items.find file.mediaItemId).any fun item => item.libraryId = libraryId

/-- The rows joined with the items of the library. -/
def knownFiles (store : Store) (libraryId : Id) : List MediaFile :=
  store.files.records.filter (inLibrary store libraryId)

/-- The entry of a path in the map of known files: of several rows the last one stays. -/
def previous (known : List MediaFile) (path : Path) : Option MediaFile :=
  known.reverse.find? fun file => file.filePath = path

def timeChanged (file : DiscoveredFile) (row : MediaFile) : Bool :=
  match file.mtime, row.fileModifiedAt with
  | some current, some recorded => timestampMicros current ≠ recorded
  | _, _ => true

/-- Whether a file that has a row is probed again. -/
def changed (full : Bool) (file : DiscoveredFile) (row : MediaFile) : Bool :=
  full || (some row.fileSize ≠ checkedSize file.size) || timeChanged file row

def diffFile (known : List MediaFile) (full : Bool) (result : DiffResult) (file : DiscoveredFile) : DiffResult :=
  if isMediaVideoFile file.path then
    match previous known file.path with
    | none => { result with newFiles := result.newFiles ++ [file] }
    | some row =>
      if changed full file row then { result with modifiedFiles := result.modifiedFiles ++ [file] }
      else { result with unchangedCount := result.unchangedCount + 1 }
  else result

def diff (known : List MediaFile) (discovered : List DiscoveredFile) (full : Bool) : DiffResult :=
  let present := discovered.map DiscoveredFile.path
  let result := discovered.foldl (diffFile known full) ⟨[], [], 0, []⟩
  { result with deletedPaths := (known.map MediaFile.filePath).dedup.filter fun path => path ∉ present }

def filesToProbe (result : DiffResult) : List DiscoveredFile := result.newFiles ++ result.modifiedFiles

def phase2Diff (store : Store) (libraryId : Id) (discovered : List DiscoveredFile) (full : Bool) : DiffResult :=
  diff (knownFiles store libraryId) discovered full

variable {Probe : Type} (env : Surroundings Probe)

def phase3Probe (scanPath : Path) (files : List DiscoveredFile) : List (DiscoveredFile × Probe) :=
  (files.filter fun file => isMediaVideoFile file.path).filterMap fun file =>
    (env.probe scanPath file.path).map fun probe => (file, probe)

/-! ## Statements -/

/-- `INSERT INTO media_items`. -/
def insertItem (store : Store) (item : MediaItem) : Store where
  libraries := store.libraries
  libraryPaths := store.libraryPaths
  items := store.items.put store.items.unused item
  series := store.series
  seasons := store.seasons
  episodes := store.episodes
  files := store.files
  referenced id file found := by
    have held := store.referenced id file found
    rw [Table.find_put]
    split
    · rfl
    · exact held

/-- `INSERT INTO media_files` for an item that is there; a new row is healthy. -/
def insertMediaFile (store : Store) (mediaItemId : Id) (file : DiscoveredFile) : Store :=
  if held : (store.items.find mediaItemId).isSome = true then
    { store with
      files := store.files.put store.files.unused
        { mediaItemId := mediaItemId
          filePath := file.path
          fileSize := boundSize file.size
          fileModifiedAt := file.mtime.map boundMicros
          isHealthy := true }
      referenced := by
        intro id row found
        rw [Table.find_put] at found
        split at found
        · cases found
          exact held
        · exact store.referenced id row found }
  else store

/-- `UPDATE media_files`, row by row; a row keeps its item. -/
def amendFiles (store : Store) (change : MediaFile → MediaFile)
    (kept : ∀ row, (change row).mediaItemId = row.mediaItemId) : Store where
  libraries := store.libraries
  libraryPaths := store.libraryPaths
  items := store.items
  series := store.series
  seasons := store.seasons
  episodes := store.episodes
  files := store.files.amend fun _ => change
  referenced id row found := by
    rw [Table.find_amend] at found
    obtain ⟨old, held, rfl⟩ := Option.map_eq_some_iff.mp found
    rw [kept]
    exact store.referenced id old held

/-- What `updateMediaFile` sets in the rows of its path. -/
def rewritten (file : DiscoveredFile) (row : MediaFile) : MediaFile :=
  if row.filePath = file.path then
    { row with
      fileSize := boundSize file.size
      fileModifiedAt := (file.mtime.map boundMicros) <|> row.fileModifiedAt
      isHealthy := true }
  else row

theorem rewritten_item (file : DiscoveredFile) (row : MediaFile) :
    (rewritten file row).mediaItemId = row.mediaItemId := by
  unfold rewritten
  split <;> rfl

def updateMediaFile (store : Store) (file : DiscoveredFile) : Store :=
  amendFiles store (rewritten file) (rewritten_item file)

/-- `SELECT id FROM media_files WHERE file_path = $1`. -/
def existing (store : Store) (path : Path) : Bool := store.files.holds fun _ row => row.filePath = path

/-! ## Identification -/

/-- The files are written one by one; a refused one leaves no trace. -/
def identifyAndCreateMovie (libraryId : Id) (scanPath : Path) (store : Store)
    (probed : DiscoveredFile × Probe) : Store :=
  if env.accepts probed.2 then
    if existing store probed.1.path then updateMediaFile store probed.1
    else
      insertMediaFile (insertItem store ⟨libraryId, .movie, env.title scanPath probed.1.path⟩)
        store.items.unused probed.1
  else store

structure EpisodeInfo (Probe : Type) where
  file : DiscoveredFile
  probe : Probe
  season : UInt32
  episode : UInt32

/-- A file joins the group of its series, or opens one. -/
def joinGroup (key : SeriesKey) (info : EpisodeInfo Probe) :
    List (SeriesKey × List (EpisodeInfo Probe)) → List (SeriesKey × List (EpisodeInfo Probe))
  | [] => [(key, [info])]
  | (first, infos) :: rest =>
    if first.title ++ '-' :: first.folder = key.title ++ '-' :: key.folder then (first, infos ++ [info]) :: rest
    else (first, infos) :: joinGroup key info rest

/-- A file without season and episode belongs to no group. -/
def groupEpisodesBySeries (scanPath : Path) (probed : List (DiscoveredFile × Probe)) :
    List (SeriesKey × List (EpisodeInfo Probe)) :=
  probed.foldl (fun groups entry =>
    match env.numbers scanPath entry.1.path with
    | none => groups
    | some (season, episode) =>
      joinGroup (env.series scanPath entry.1.path) ⟨entry.1, entry.2, season, episode⟩ groups) []

def findExistingSeries (store : Store) (libraryId : Id) (title : List Char) : Option Id :=
  (store.items.select fun id item =>
    item.libraryId = libraryId && item.title = title && item.type = .series && id ∈ store.series).head?

/-- The series of a title, created where the library has none. -/
def ensureSeries (store : Store) (libraryId : Id) (title : List Char) : Store × Id :=
  match findExistingSeries store libraryId title with
  | some id => (store, id)
  | none =>
    let id := store.items.unused
    ({ insertItem store ⟨libraryId, .series, title⟩ with series := id :: store.series }, id)

/-- `format!("Season {:02}", season_number)`. -/
def seasonTitle (number : UInt32) : List Char :=
  "Season ".toList ++ (if number.toNat < 10 then ['0'] else []) ++ (toString number.toNat).toList

def ensureSeason (store : Store) (seriesId : Id) (seasonNumber : UInt32) (libraryId : Id) : Store × Id :=
  match (store.seasons.select fun _ season =>
      season.seriesId = seriesId && season.seasonNumber = seasonNumber).head? with
  | some id => (store, id)
  | none =>
    let id := store.items.unused
    ({ insertItem store ⟨libraryId, .season, seasonTitle seasonNumber⟩ with
        seasons := store.seasons.put id ⟨seriesId, seasonNumber⟩ }, id)

/-- The season of an episode, from the cache or the database. -/
def cachedSeason (store : Store) (cache : List (UInt32 × Id)) (seriesId : Id) (season : UInt32)
    (libraryId : Id) : (Store × List (UInt32 × Id)) × Id :=
  match cache.lookup season with
  | some id => ((store, cache), id)
  | none =>
    let found := ensureSeason store seriesId season libraryId
    ((found.1, (season, found.2) :: cache), found.2)

/-- `UNIQUE(season_id, episode_number)`. -/
def episodeTaken (store : Store) (seasonId : Id) (episodeNumber : UInt32) : Bool :=
  store.episodes.holds fun _ episode => episode.seasonId = seasonId && episode.episodeNumber = episodeNumber

def createEpisode (store : Store) (libraryId seriesId seasonId : Id) (info : EpisodeInfo Probe) : Store :=
  let id := store.items.unused
  insertMediaFile
    { insertItem store ⟨libraryId, .episode, env.episodeTitle info.file.path⟩ with
      episodes := store.episodes.put id ⟨seriesId, seasonId, info.episode⟩ } id info.file

/-- One episode: what is stored afterwards, and whether no statement was refused. The season
stays even when the episode behind it is refused. -/
def identifyEpisode (libraryId seriesId : Id) (store : Store) (cache : List (UInt32 × Id))
    (info : EpisodeInfo Probe) : (Store × List (UInt32 × Id)) × Bool :=
  let found := cachedSeason store cache seriesId info.season libraryId
  let seasoned := found.1.1
  if existing seasoned info.file.path then
    if env.accepts info.probe then ((updateMediaFile seasoned info.file, found.1.2), true)
    else (found.1, false)
  else if env.accepts info.probe && !episodeTaken seasoned found.2 info.episode then
    ((createEpisode env seasoned libraryId seriesId found.2 info, found.1.2), true)
  else (found.1, false)

/-- The episodes of a group, up to the first refused statement. -/
def identifyEpisodes (libraryId seriesId : Id) :
    Store → List (UInt32 × Id) → List (EpisodeInfo Probe) → Store
  | store, _, [] => store
  | store, cache, info :: rest =>
    let outcome := identifyEpisode env libraryId seriesId store cache info
    if outcome.2 then identifyEpisodes libraryId seriesId outcome.1.1 outcome.1.2 rest else outcome.1.1

def identifyAndCreateSeries (libraryId : Id) (store : Store)
    (group : SeriesKey × List (EpisodeInfo Probe)) : Store :=
  let found := ensureSeries store libraryId group.1.title
  identifyEpisodes env libraryId found.2 found.1 [] group.2

def phase4Identify (libraryId : Id) (mediaType : MediaType) (scanPath : Path) (store : Store)
    (probed : List (DiscoveredFile × Probe)) : Store :=
  match mediaType with
  | .movies => probed.foldl (identifyAndCreateMovie env libraryId scanPath) store
  | .tvshows =>
    (env.arrange (groupEpisodesBySeries env scanPath probed)).foldl
      (identifyAndCreateSeries env libraryId) store

/-! ## A scan -/

def unhealthy (path : Path) (row : MediaFile) : MediaFile :=
  if row.filePath = path then { row with isHealthy := false } else row

theorem unhealthy_item (path : Path) (row : MediaFile) : (unhealthy path row).mediaItemId = row.mediaItemId := by
  unfold unhealthy
  split <;> rfl

def phase6Cleanup (store : Store) (deletedPaths : List Path) : Store :=
  deletedPaths.foldl (fun store path => amendFiles store (unhealthy path) (unhealthy_item path)) store

structure ScanResult where
  filesDiscovered : Nat
  filesNew : Nat
  filesModified : Nat
  filesUnchanged : Nat
  filesDeleted : Nat

def scanPathPipeline (libraryId : Id) (mediaType : MediaType) (full : Bool) (store : Store)
    (scanPath : Path) : Store × ScanResult :=
  let discovered := env.discover scanPath
  let difference := phase2Diff store libraryId discovered full
  let probed := phase3Probe env scanPath (filesToProbe difference)
  let identified := phase4Identify env libraryId mediaType scanPath store probed
  let enriched := env.enrich libraryId identified
  (phase6Cleanup enriched difference.deletedPaths,
    { filesDiscovered := discovered.length
      filesNew := difference.newFiles.length
      filesModified := difference.modifiedFiles.length
      filesUnchanged := difference.unchangedCount
      filesDeleted := difference.deletedPaths.length })

inductive ScannerError where
  | libraryNotFound (libraryId : Id)
  | noScanPaths (libraryId : Id)

def loadLibrary (store : Store) (libraryId : Id) : Option Library :=
  (store.libraries.find libraryId).filter fun library => !library.deleted

def loadScanPaths (store : Store) (libraryId : Id) : List Path :=
  (store.libraryPaths.filter fun entry => entry.libraryId = libraryId && entry.scanEnabled).map LibraryPath.path

/-- The store after the scan of one path; a path that does not exist is skipped. -/
def scanPath (libraryId : Id) (mediaType : MediaType) (full : Bool) (store : Store) (path : Path) : Store :=
  if env.existsPath path then (scanPathPipeline env libraryId mediaType full store path).1 else store

/-- What is left in the store, and the error or the reports of the paths. -/
def scanLibrary (libraryId : Id) (full : Bool) (store : Store) : Store × Except ScannerError (List ScanResult) :=
  match loadLibrary store libraryId with
  | none => (store, .error (.libraryNotFound libraryId))
  | some library =>
    match loadScanPaths store libraryId with
    | [] => (store, .error (.noScanPaths libraryId))
    | paths =>
      let outcome := paths.foldl (fun (state : Store × List ScanResult) path =>
        (scanPath env libraryId library.mediaType full state.1 path,
          if env.existsPath path then
            state.2 ++ [(scanPathPipeline env libraryId library.mediaType full state.1 path).2]
          else state.2)) (store, [])
      (outcome.1, .ok outcome.2)

end Duskcue.Scanner
