import Duskcue.Document
import Duskcue.RankedRows
import Duskcue.Text
import Mathlib.Data.List.ProdSigma

/-! The builders of dynamic collections (server/src/services/collections.rs): the rows each of them
has the database number, the candidates that `grouped_results` makes of the rows, and the one
that `select_candidate` takes. The library content is what the schema lets the tables hold. What
the database decides by itself is a `Postgres`: the collation, the folding of
`ILIKE`, how a JSON value reads as text, and the way rows come that an order leaves tied. -/
namespace Duskcue.Collections

abbrev Uuid := Nat

/-! ## What the tables hold -/

inductive MediaType
  | movie
  | series
  | season
  | episode
  deriving DecidableEq

inductive MatchState
  | unmatched
  | autoMatched
  | confirmed
  | manual
  deriving DecidableEq

inductive CreditType
  | cast
  | crew
  deriving DecidableEq

structure Date where
  year : Int
  month : Nat
  day : Nat

/-- A row of `media_items`. The `REAL` of the rating enters by its place in the order of the type. -/
structure MediaItem (ν : Type) where
  id : Uuid
  libraryId : Uuid
  type : MediaType
  sortTitle : List Char
  premiereDate : Option Date
  runtimeSeconds : Option Int
  tmdbId : Option Int
  ratingAverage : Option Int
  metadata : Json ν
  matchState : MatchState

structure Genre where
  id : Uuid
  name : List Char

structure MediaGenre where
  mediaItemId : Uuid
  genreId : Uuid

structure Person where
  id : Uuid
  name : List Char
  sortName : List Char

structure MediaCredit where
  id : Uuid
  mediaItemId : Uuid
  personId : Uuid
  creditType : CreditType
  role : Option (List Char)
  department : Option (List Char)

structure MediaFile where
  mediaItemId : Uuid
  fileSize : Int
  videoResolution : Option (List Char)
  audioCodec : Option (List Char)
  isHealthy : Bool

/-- The content of a library, with the keys that migration 20260530030000 makes unique. A credit
without a role is alike to none. -/
structure MediaLibrary (ν : Type) where
  mediaItems : List (MediaItem ν)
  genres : List Genre
  mediaGenres : List MediaGenre
  people : List Person
  mediaCredits : List MediaCredit
  mediaFiles : List MediaFile
  item_ids : (mediaItems.map (·.id)).Nodup
  genre_names : (genres.map (·.name)).Nodup
  genre_ids : (genres.map (·.id)).Nodup
  media_genres_pkey : (mediaGenres.map fun mg => (mg.mediaItemId, mg.genreId)).Nodup
  person_ids : (people.map (·.id)).Nodup
  credit_ids : (mediaCredits.map (·.id)).Nodup
  credit_roles : (mediaCredits.filterMap fun mc =>
    mc.role.map fun role => (mc.mediaItemId, mc.personId, mc.creditType, role)).Nodup

/-! ## The rows of a builder -/

/-- What a window numbers its rows within. -/
inductive Partition
  | text (value : List Char)
  | decade (value : Int)
  | person (id : Uuid)
  deriving DecidableEq

/-- A joined row. `credit` is the credit that put it there, if one did. -/
structure Joined (ν : Type) where
  partition : Partition
  credit : Option Uuid
  keyName : List Char
  item : MediaItem ν

/-- What the database decides. -/
structure Postgres (ν : Type) where
  collate : List Char → List Char → Ordering
  transitive : Std.TransCmp collate
  lower : List Char → List Char
  render : Json ν → List Char
  files : Arrangement MediaFile
  people : Arrangement (Person × Nat)
  joined : Arrangement (Joined ν)
  rows : Arrangement (Joined ν × Nat)
  chosen : Arrangement (MediaItem ν)

/-- A row as the builder reads it, with where it is from. -/
structure SourceRow where
  partition : Partition
  credit : Option Uuid
  keyName : Option (List Char)
  mediaItemId : Uuid
  sourceRank : Nat

inductive CollectionBuilderError
  | invalidConfig (message : String)
  | externalUnavailable (message : String)
  | externalRateLimited
  | database
  deriving DecidableEq

section
variable {ν : Type}

/-- `DESC NULLS LAST`. -/
def descending : Option Int → Option Int → Ordering
  | some a, some b => compare b a
  | some _, none => .lt
  | none, some _ => .gt
  | none, none => .eq

/-- `ASC NULLS LAST`. -/
def ascending : Option Date → Option Date → Ordering
  | some a, some b => (compare a.year b.year).then ((compare a.month b.month).then (compare a.day b.day))
  | some _, none => .lt
  | none, some _ => .gt
  | none, none => .eq

/-- `ORDER BY mi.rating_average DESC NULLS LAST, mi.sort_title ASC`. -/
abbrev byRating (db : Postgres ν) : Joined ν → Joined ν → Prop :=
  NoLater (compareLex (through (·.item.ratingAverage) descending) (through (·.item.sortTitle) db.collate))

/-- `ORDER BY mi.premiere_date ASC NULLS LAST, mi.sort_title ASC`. -/
abbrev byPremiere (db : Postgres ν) : Joined ν → Joined ν → Prop :=
  NoLater (compareLex (through (·.item.premiereDate) ascending) (through (·.item.sortTitle) db.collate))

/-- `ORDER BY key_name, source_rank`. -/
abbrev byKey (db : Postgres ν) : Joined ν × Nat → Joined ν × Nat → Prop :=
  NoLater (compareLex (through (·.1.keyName) db.collate) (through (·.2) compare))

/-- `ORDER BY appearances DESC, p.sort_name ASC`. -/
abbrev byAppearances (db : Postgres ν) : Person × Nat → Person × Nat → Prop :=
  NoLater (compareLex (through (·.2) fun a b => compare b a) (through (·.1.sortName) db.collate))

/-- `ROW_NUMBER() OVER (PARTITION BY ... ORDER BY window)::int`, then `ORDER BY key_name, source_rank`. -/
def windowed (db : Postgres ν) (window : Joined ν → Joined ν → Prop) [DecidableRel window] (joined : List (Joined ν)) :
    Except CollectionBuilderError (List SourceRow) :=
  let rows := db.rows.orderBy (byKey db) (rowNumbers Joined.partition (db.joined.orderBy window joined))
  -- the cast to an `int` fails where the number is out of its range
  if rows.all fun row => row.2 < 2 ^ 31 then
    .ok (rows.map fun row => ⟨row.1.partition, row.1.credit, some row.1.keyName, row.1.item.id, row.2⟩)
  else .error .database

variable (library : MediaLibrary ν) (libraryId : Option Uuid)

/-- `mi.type IN ('movie', 'series') AND mi.match_state = 'confirmed' AND ($1 IS NULL OR mi.library_id = $1)`. -/
def listed : List (MediaItem ν) :=
  library.mediaItems.filter fun mi =>
    (mi.type = .movie || mi.type = .series) && mi.matchState = .confirmed && libraryId.all (mi.libraryId = ·)

def genreRows : List (Joined ν) :=
  (((listed library libraryId ×ˢ library.mediaGenres) ×ˢ library.genres).filter fun row =>
    row.1.2.mediaItemId = row.1.1.id && row.2.id = row.1.2.genreId).map
    fun row => ⟨.text row.2.name, none, row.2.name, row.1.1⟩

/-- `(EXTRACT(YEAR FROM mi.premiere_date)::int / 10) * 10`. -/
def decadeOf (date : Date) : Int := date.year.tdiv 10 * 10

def decadeRows : List (Joined ν) :=
  (listed library libraryId).filterMap fun mi =>
    mi.premiereDate.map fun date => ⟨.decade (decadeOf date), none, (toString (decadeOf date)).toList, mi⟩

/-- `mc.credit_type = 'cast'`. -/
def actorCredit (mc : MediaCredit) : Bool := mc.creditType = .cast

/-- `mc.credit_type = 'crew' AND (mc.department = 'Directing' OR mc.role ILIKE '%director%')`. -/
def directorCredit (db : Postgres ν) (mc : MediaCredit) : Bool :=
  mc.creditType = .crew && (mc.department = some "Directing".toList ||
    mc.role.any fun role => db.lower "director".toList <:+: db.lower role)

/-- The `WITH top_people` of a query. -/
def topPeople (db : Postgres ν) (credited : MediaCredit → Bool) (minimumAppearances topN : Nat) : List Person :=
  let appearances (p : Person) := ((listed library libraryId).filter fun mi =>
    library.mediaCredits.any fun mc => mc.personId = p.id && mc.mediaItemId = mi.id && credited mc).length
  let counted := (library.people.map fun p => (p, appearances p)).filter fun p => minimumAppearances ≤ p.2
  ((db.people.orderBy (byAppearances db) counted).take topN).map Prod.fst

def personRows (db : Postgres ν) (credited : MediaCredit → Bool) (minimumAppearances topN : Nat) : List (Joined ν) :=
  (((topPeople library libraryId db credited minimumAppearances topN ×ˢ library.mediaCredits) ×ˢ
    listed library libraryId).filter fun row =>
      row.1.2.personId = row.1.1.id && row.2.id = row.1.2.mediaItemId && credited row.1.2).map
    fun row => ⟨.person row.1.1.id, some row.1.2.id, row.1.1.name, row.2⟩

/-- What `->>` reads. -/
def jsonText (db : Postgres ν) : Json ν → Option (List Char)
  | .null => none
  | .text value => some value.toList
  | value => some (db.render value)

/-- `COALESCE(mi.metadata #>> '\x7bbelongs_to_collection,name\x7d', ...)`. -/
def franchiseOf (db : Postgres ν) (metadata : Json ν) : Option (List Char) :=
  let field (value : Option (Json ν)) (key : String) := value.bind (·.get key)
  (field (field (some metadata) "belongs_to_collection") "name").bind (jsonText db) <|>
    (field (field (some metadata) "tmdb_collection") "name").bind (jsonText db) <|>
      (field (some metadata) "collection_name").bind (jsonText db) <|>
        (field (some metadata) "franchise").bind (jsonText db)

def franchiseRows (db : Postgres ν) : List (Joined ν) :=
  (listed library libraryId).filterMap fun mi =>
    (franchiseOf db mi.metadata).map fun name => ⟨.text name, none, name, mi⟩

/-- The lateral join: what the largest healthy file with such a value has. -/
def largestFile (db : Postgres ν) (read : MediaFile → Option (List Char)) (mi : MediaItem ν) : Option (List Char) :=
  ((db.files.orderBy (NoLater (through (·.fileSize) fun a b => compare b a))
    (library.mediaFiles.filter fun f => f.mediaItemId = mi.id && f.isHealthy && (read f).isSome)).head?).bind read

def fileRows (db : Postgres ν) (read : MediaFile → Option (List Char)) : List (Joined ν) :=
  (listed library libraryId).filterMap fun mi =>
    (largestFile library db read mi).map fun value => ⟨.text value, none, value, mi⟩

end

/-! ## The configuration -/

structure BuilderConfig (ν : Type) where
  builderType : String
  builderData : Json ν
  limit : Nat
  minimumItems : Nat
  titleFormat : Option (List Char)
  includes : List (List Char)
  excludes : List (List Char)
  keyNameOverride : List (List Char × List Char)
  removePrefix : List (List Char)
  removeSuffix : List (List Char)
  selectedKey : Option (List Char)

section
variable {ν : Type}

/-- `Value::as_u64`. -/
def asU64 : Json ν → Option Nat
  | .integer value => if 0 ≤ value ∧ value < 2 ^ 64 then some value.toNat else none
  | _ => none

/-- `str::to_ascii_lowercase`. -/
def toAsciiLowercase (text : List Char) : List Char := text.map Char.toLower

/-- `str::eq_ignore_ascii_case`. -/
def eqIgnoreAsciiCase (a b : List Char) : Bool := toAsciiLowercase a = toAsciiLowercase b

def normalizeKey (value : List Char) : List Char := toAsciiLowercase (Text.trim value)

def stringVec : Option (Json ν) → List (List Char)
  | some (.list values) => values.filterMap fun v => v.asStr.map String.toList
  | some (.text value) => [value.toList]
  | _ => []

def stringSet (value : Option (Json ν)) : List (List Char) := (stringVec value).map normalizeKey

def stringMap : Option (Json ν) → List (List Char × List Char)
  | some (.object fields) => fields.filterMap fun field => field.2.asStr.map fun s => (field.1.toList, s.toList)
  | _ => []

/-- `and_then(as_u64).unwrap_or(default).clamp(1, most)`. -/
def clamped (value : Option (Json ν)) (default most : Nat) : Nat := max 1 (min ((value.bind asU64).getD default) most)

def BuilderConfig.fromValue (value : Json ν) : Except CollectionBuilderError (BuilderConfig ν) :=
  match (value.get "builder_type").bind (·.asStr) with
  | none => .error (.invalidConfig "builder_type is required")
  | some builderType =>
    let builderData := (value.get "builder_data").getD (.object [])
    .ok {
      builderType
      builderData
      limit := clamped (value.get "limit" <|> builderData.get "limit") 100 500
      minimumItems := clamped (value.get "minimum_items" <|> builderData.get "minimum_items") 1 500
      titleFormat := ((value.get "title_format").bind (·.asStr)).map String.toList
      includes := stringSet (value.get "include")
      excludes := stringSet (value.get "exclude")
      keyNameOverride := stringMap (value.get "key_name_override")
      removePrefix := stringVec (value.get "remove_prefix")
      removeSuffix := stringVec (value.get "remove_suffix")
      selectedKey := ((value.get "key" <|> builderData.get "key").bind (·.asStr)).map String.toList }

namespace BuilderConfig

variable (config : BuilderConfig ν)

def includesKey (key : List Char) : Bool :=
  let normalized := normalizeKey key
  (config.includes.isEmpty || config.includes.contains normalized) && !config.excludes.contains normalized

def cutPrefix (value cut : List Char) : List Char :=
  let trimmed := value.dropWhile Text.isWhitespace
  if toAsciiLowercase cut <+: toAsciiLowercase trimmed then (trimmed.drop cut.length).dropWhile Text.isWhitespace
  else value

def cutSuffix (value cut : List Char) : List Char :=
  let trimmed := Text.trimEnd value
  if toAsciiLowercase cut <:+ toAsciiLowercase trimmed then Text.trimEnd (trimmed.take (trimmed.length - cut.length))
  else value

def displayKey (key : List Char) : List Char :=
  (config.keyNameOverride.lookup key).getD
    (config.removeSuffix.foldl cutSuffix (config.removePrefix.foldl cutPrefix key))

end BuilderConfig

def formatTitle (format keyName libraryType : List Char) (limit : Nat) : List Char :=
  Text.replace "<<limit>>".toList (toString limit).toList
    (Text.replace "<<library_type>>".toList libraryType (Text.replace "<<key_name>>".toList keyName format))

def defaultTitleFormat (builderType : String) : List Char :=
  if builderType = "decade" then "<<key_name>>s".toList else "<<key_name>>".toList

/-! ## Candidates -/

structure CollectionBuilderItem where
  mediaItemId : Uuid
  sourceRank : Int
  deriving DecidableEq

structure CollectionBuilderResult where
  key : List Char
  name : List Char
  items : List CollectionBuilderItem
  missingExternalIds : List String
  deriving DecidableEq

/-- The groups so far, in the order their keys came in. -/
abbrev Groups := List (List Char × List CollectionBuilderItem)

/-- The key a row is grouped under. -/
def keyOf (config : BuilderConfig ν) (row : SourceRow) : Option (List Char) :=
  row.keyName.bind fun name =>
    let key := Text.trim name
    if key.isEmpty || !config.includesKey key then none else some key

/-- One round of the loop of `grouped_results`. -/
def addRow (config : BuilderConfig ν) (grouped : Groups) (row : SourceRow) : Groups :=
  match keyOf config row with
  | none => grouped
  | some key =>
    let grouped := if grouped.any (·.1 = key) then grouped else grouped ++ [(key, [])]
    grouped.map fun group =>
      if group.1 = key ∧ group.2.length < config.limit then (group.1, group.2 ++ [⟨row.mediaItemId, row.sourceRank⟩])
      else group

def groupedResults (rows : List SourceRow) (config : BuilderConfig ν) (defaultFormat : List Char) :
    List CollectionBuilderResult :=
  (rows.foldl (addRow config) []).filterMap fun group =>
    if group.2.length < config.minimumItems then none
    else some {
      key := group.1
      name := formatTitle (config.titleFormat.getD defaultFormat) (config.displayKey group.1) "item".toList config.limit
      items := group.2
      missingExternalIds := [] }

section
variable (db : Postgres ν) (library : MediaLibrary ν) (libraryId : Option Uuid) (config : BuilderConfig ν)

/-- The rows of a query of people, with the bounds that `builder_data` gives. -/
def peopleRows (credited : MediaCredit → Bool) (appearances : Nat) : List (Joined ν) :=
  let topN := clamped (config.builderData.get "top_n") 25 100
  let minimumAppearances := clamped (config.builderData.get "minimum_appearances") appearances 100
  personRows library libraryId db credited minimumAppearances topN

/-- The builders that ask the library. -/
inductive LocalBuilder
  | genre
  | decade
  | actor
  | director
  | franchise
  | resolution
  | audioCodec

/-- The rows that the builder asks the database for. -/
def LocalBuilder.rows : LocalBuilder → Except CollectionBuilderError (List SourceRow)
  | genre => windowed db (byRating db) (genreRows library libraryId)
  | decade => windowed db (byRating db) (decadeRows library libraryId)
  | actor => windowed db (byRating db) (peopleRows db library libraryId config actorCredit 3)
  | director => windowed db (byRating db) (peopleRows db library libraryId config (directorCredit db) 2)
  | franchise => windowed db (byPremiere db) (franchiseRows library libraryId db)
  | resolution => windowed db (byRating db) (fileRows library libraryId db (·.videoResolution))
  | audioCodec => windowed db (byRating db) (fileRows library libraryId db (·.audioCodec))

/-- A builder groups its rows, under titles of its own. -/
def build (builder : LocalBuilder) (builderType : String) :
    Except CollectionBuilderError (List CollectionBuilderResult) :=
  (builder.rows db library libraryId config).map fun rows =>
    groupedResults rows config (defaultTitleFormat builderType)

def buildGenre := build db library libraryId config .genre "genre"
def buildDecade := build db library libraryId config .decade "decade"
def buildActor := build db library libraryId config .actor "actor"
def buildDirector := build db library libraryId config .director "director"
def buildFranchise := build db library libraryId config .franchise "franchise"
def buildResolution := build db library libraryId config .resolution "resolution"
def buildAudioCodec := build db library libraryId config .audioCodec "audio_codec"

/-! ## Charts from outside -/

inductive TmdbChart
  | popular
  | topRated
  | trending
  | nowPlaying
  | upcoming
  deriving DecidableEq

inductive MetadataError
  | rateLimited
  | database
  | other (text : String)

structure TmdbChartItem where
  tmdbId : Nat
  mediaType : String

/-- The client, with what a request comes to. -/
structure TmdbClient where
  fetchChartItems : TmdbChart → List String → Nat → String → Option String → Except MetadataError (List TmdbChartItem)

def mapMetadataError : MetadataError → CollectionBuilderError
  | .rateLimited => .externalRateLimited
  | .database => .database
  | .other text => .externalUnavailable text

def tmdbChartFromBuilder : String → Except CollectionBuilderError TmdbChart
  | "tmdb_popular" => .ok .popular
  | "tmdb_top_rated" => .ok .topRated
  | "tmdb_trending" => .ok .trending
  | "tmdb_now_playing" => .ok .nowPlaying
  | "tmdb_upcoming" => .ok .upcoming
  | builderType => .error (.invalidConfig ("unsupported TMDB builder_type: " ++ builderType))

def tmdbDefaultName : String → String
  | "tmdb_popular" => "TMDb Popular"
  | "tmdb_top_rated" => "TMDb Top Rated"
  | "tmdb_trending" => "Trending on TMDb"
  | "tmdb_now_playing" => "Now Playing"
  | "tmdb_upcoming" => "Upcoming"
  | _ => "TMDb Collection"

def tmdbMediaTypes (chart : TmdbChart) : List String :=
  if chart = .nowPlaying ∨ chart = .upcoming then ["movie"]
  else
    match (config.builderData.get "media_type").bind (·.asStr) with
    | some "movie" | some "movies" => ["movie"]
    | some "tv" | some "series" | some "shows" => ["tv"]
    | _ => ["movie", "tv"]

/-- `tmdb_id as i64`. -/
def tmdbKey (item : TmdbChartItem) : Int := (item.tmdbId : Int).bmod (2 ^ 64)

/-- The rows of media that the chart names. -/
def matchedRows (chartItems : List TmdbChartItem) : List (MediaItem ν) :=
  db.chosen.arrange (library.mediaItems.filter fun mi =>
    mi.matchState = .confirmed && libraryId.all (mi.libraryId = ·) && mi.tmdbId.any fun tmdbId =>
      (mi.type = .movie && chartItems.any fun i => i.mediaType = "movie" && tmdbKey i = tmdbId) ||
        (mi.type = .series && chartItems.any fun i => i.mediaType = "tv" && tmdbKey i = tmdbId))

/-- What the lookup holds under the key: of rows with one key, the last is left. -/
def lookupItem (rows : List (MediaItem ν)) (item : TmdbChartItem) : Option Uuid :=
  (rows.reverse.find? fun mi =>
    (if mi.type = .series then "tv" else "movie") = item.mediaType && mi.tmdbId.any fun tmdbId =>
      (tmdbId % 2 ^ 64).toNat = item.tmdbId).map (·.id)

/-- The items of the library and the names of the missing ones, in the order of the chart. -/
def matchTmdbItems (chartItems : List TmdbChartItem) : List Uuid × List String :=
  let rows := matchedRows db library libraryId chartItems
  chartItems.foldl (fun (matched, missing) item =>
    match lookupItem rows item with
    | some id => (if matched.contains id then matched else matched ++ [id], missing)
    | none => (matched, missing ++ [item.mediaType ++ ":" ++ toString item.tmdbId])) ([], [])

def buildTmdbChart (client : Option TmdbClient) : Except CollectionBuilderError (List CollectionBuilderResult) := do
  let client ← (match client with
    | some client => .ok client
    | none => .error (.externalUnavailable "TMDB is not configured") : Except CollectionBuilderError TmdbClient)
  let chart ← tmdbChartFromBuilder config.builderType
  let timeWindow := ((config.builderData.get "time_window").bind (·.asStr)).getD "day"
  let region := (config.builderData.get "region").bind (·.asStr)
  let chartItems ← (client.fetchChartItems chart (tmdbMediaTypes config chart) config.limit timeWindow region).mapError
    mapMetadataError
  let (matched, missing) := matchTmdbItems db library libraryId chartItems
  let items := (matched.take config.limit).mapIdx fun idx id => (⟨id, idx + 1⟩ : CollectionBuilderItem)
  if items.length < config.minimumItems then .ok []
  else
    let key := config.builderType.toList
    let name := (config.titleFormat.map fun f => formatTitle f key "item".toList config.limit).getD
      (tmdbDefaultName config.builderType).toList
    .ok [{ key, name, items, missingExternalIds := missing }]

/-! ## The selection -/

/-- What the selection reads of the collection. -/
structure DynamicCollectionRow (ν : Type) where
  id : Uuid
  libraryId : Option Uuid
  name : List Char
  dynamicConfig : Json ν
  syncMode : String

/-- `idx as i32` of the items that come first, in their order. -/
def dedupeItems (items : List CollectionBuilderItem) : List CollectionBuilderItem :=
  let kept := items.foldl (fun kept i => if kept.any (·.mediaItemId = i.mediaItemId) then kept else kept ++ [i]) []
  kept.mapIdx fun idx item => { item with sourceRank := ((idx + 1 : Nat) : Int).bmod (2 ^ 32) }

def selectCandidate (collection : DynamicCollectionRow ν) (candidates : List CollectionBuilderResult) :
    CollectionBuilderResult :=
  if candidates.isEmpty then
    { key := config.selectedKey.getD config.builderType.toList
      name := collection.name
      items := []
      missingExternalIds := [] }
  else
    match config.selectedKey.bind fun selected => candidates.find? fun c => eqIgnoreAsciiCase c.key selected with
    | some candidate => candidate
    | none =>
      match candidates.find? fun c =>
          eqIgnoreAsciiCase c.name collection.name || eqIgnoreAsciiCase c.key collection.name with
      | some candidate => candidate
      | none =>
        match candidates with
        | [candidate] => candidate
        | candidates =>
          { key := config.builderType.toList
            name := collection.name
            items := (dedupeItems (candidates.flatMap (·.items))).take config.limit
            missingExternalIds := [] }

end
end
end Duskcue.Collections
