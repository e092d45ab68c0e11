import Mathlib.Algebra.Order.Ring.Int
import Duskcue.CollectionBuilders
import Duskcue.Statements

/-! The syncing of dynamic collections (server/src/services/collections.rs), statement by
statement: no transaction holds them together, so what is deleted or inserted
stays when a later statement fails. A run has what it meets outside of the catalog in its
`World`, and a budget of statements the database takes before it fails. -/
namespace Duskcue.Collections

variable {ν : Type}

structure LastSync where
  builderType : String
  builderKey : List Char
  added : Nat
  removed : Nat
  missing : Nat
  totalMatched : Nat

/-- A row of `collections`. -/
structure Collection (ν : Type) where
  libraryId : Option Uuid
  name : List Char
  isDynamic : Bool
  isEnabled : Bool
  dynamicConfig : Json ν
  syncMode : String
  sortOrder : Int
  itemCount : Int
  totalDurationSeconds : Int
  lastSyncResult : Option LastSync

/-- A row of `collection_items`. -/
structure CollectionItem where
  position : Int
  isMissing : Bool
  missingReason : Option String

/-- The collections, and the items of each of them. -/
structure Catalog (ν : Type) where
  collections : Table Uuid (Collection ν)
  items : Table (Uuid × Uuid) CollectionItem

structure World (ν : Type) where
  db : Postgres ν
  library : MediaLibrary ν
  tmdbClient : Option TmdbClient
  targets : Arrangement (Uuid × Collection ν)

/-- The statements, by what they are for. -/
inductive Query
  | targets
  | collection
  | source
  | members
  | delete
  | insert
  | count
  | duration
  | record

structure CollectionSyncResult where
  collectionId : Uuid
  builderType : String
  added : Nat
  removed : Nat
  totalMatched : Nat
  missing : Nat

abbrev Request (ν α : Type) := Statements (Catalog ν) Query CollectionBuilderError α

/-- A statement that asks for what is outside of the catalog. -/
def query {α : Type} (label : Query) : Except CollectionBuilderError α → Request ν α
  | .ok value => .send label .ok fun _ => .done value
  | .error error => .send label (fun _ => .error error) fun _ => .fail error

/-- The configuration, or the error in it. -/
def settle {α : Type} : Except CollectionBuilderError α → Request ν α
  | .ok value => .done value
  | .error error => .fail error

/-- What the row becomes, or the error where there is none. -/
def dynamicRow (collectionId : Uuid) : Option (Collection ν) → Request ν (DynamicCollectionRow ν)
  | some row => .done ⟨collectionId, row.libraryId, row.name, row.dynamicConfig, row.syncMode⟩
  | none => .fail (.invalidConfig ("collection " ++ toString collectionId ++ " is not a dynamic collection"))

def loadDynamicCollection (collectionId : Uuid) : Request ν (DynamicCollectionRow ν) := do
  let row ← .read .collection fun s => (s.collections.find collectionId).filter (·.isDynamic)
  dynamicRow collectionId row

def buildCandidates (w : World ν) (libraryId : Option Uuid) (config : BuilderConfig ν) (includeExternal : Bool) :
    Request ν (List CollectionBuilderResult) :=
  match config.builderType with
  | "genre" => query .source (buildGenre w.db w.library libraryId config)
  | "decade" => query .source (buildDecade w.db w.library libraryId config)
  | "actor" => query .source (buildActor w.db w.library libraryId config)
  | "director" => query .source (buildDirector w.db w.library libraryId config)
  | "franchise" => query .source (buildFranchise w.db w.library libraryId config)
  | "resolution" => query .source (buildResolution w.db w.library libraryId config)
  | "audio_codec" => query .source (buildAudioCodec w.db w.library libraryId config)
  | "tmdb_popular" | "tmdb_top_rated" | "tmdb_trending" | "tmdb_now_playing" | "tmdb_upcoming" =>
    if includeExternal then query .source (buildTmdbChart w.db w.library libraryId config w.tmdbClient) else .done []
  | other => .fail (.invalidConfig ("builder_type " ++ other ++ " is not implemented in Phase 12 Task 6"))

/-- `item.source_rank * 1000`, in an `i32`. -/
def positionOf (item : CollectionBuilderItem) : Int := (item.sourceRank * 1000).bmod (2 ^ 32)

/-- The `DELETE` of the sync mode. -/
def deleteOthers (collectionId : Uuid) (items : List CollectionBuilderItem) (s : Catalog ν) : Catalog ν :=
  if items.isEmpty then { s with items := s.items.discard fun key _ => key.1 = collectionId }
  else
    { s with items := s.items.discard fun key _ =>
        key.1 = collectionId && !(items.map (·.mediaItemId)).contains key.2 }

/-- Only the sync mode deletes. -/
def deleteStep (collection : DynamicCollectionRow ν) (items : List CollectionBuilderItem) : Request ν Unit :=
  if collection.syncMode = "sync" then .write .delete fun s => .ok (deleteOthers collection.id items s) else .done ()

/-- `INSERT ... ON CONFLICT DO UPDATE`. -/
def insertItem (collectionId : Uuid) (item : CollectionBuilderItem) (s : Catalog ν) : Catalog ν :=
  { s with items := s.items.put (collectionId, item.mediaItemId) ⟨positionOf item, false, none⟩ }

def insertItems (collectionId : Uuid) : List CollectionBuilderItem → Request ν Unit
  | [] => .done ()
  | item :: items => do
    .write .insert fun s => .ok (insertItem collectionId item s)
    insertItems collectionId items

def countCollectionItems (collectionId : Uuid) : Request ν Nat :=
  .read .count fun s => s.items.count fun key _ => key.1 = collectionId

/-- `COALESCE(SUM(mi.runtime_seconds), 0)::int`, over the items the library has. -/
def durationOf (library : MediaLibrary ν) (collectionId : Uuid) (s : Catalog ν) : Int :=
  ((s.items.select fun key _ => key.1 = collectionId).map fun key =>
    (((library.mediaItems.find? (·.id = key.2)).bind (·.runtimeSeconds)).getD 0)).sum

def totalCollectionDuration (library : MediaLibrary ν) (collectionId : Uuid) : Request ν Int := do
  let total ← .read .duration (durationOf library collectionId)
  if -2 ^ 31 ≤ total ∧ total < 2 ^ 31 then return total else .fail .database

/-- What the `UPDATE` makes of the row. -/
def Collection.synced (itemCount totalDurationSeconds : Int) (last : LastSync) (row : Collection ν) : Collection ν :=
  { row with itemCount, totalDurationSeconds, lastSyncResult := some last }

/-- The `UPDATE` of the collection. -/
def recordSync (collectionId : Uuid) (itemCount duration : Int) (last : LastSync) (s : Catalog ν) : Catalog ν :=
  match s.collections.find collectionId with
  | none => s
  | some row => { s with collections := s.collections.put collectionId (row.synced itemCount duration last) }

/-- What is left to do once the items are in. -/
def recordResult (library : MediaLibrary ν) (collection : DynamicCollectionRow ν) (config : BuilderConfig ν)
    (result : CollectionBuilderResult) (added removed : Nat) : Request ν CollectionSyncResult := do
  let afterCount ← countCollectionItems collection.id
  let totalDurationSeconds ← totalCollectionDuration library collection.id
  let missing := result.missingExternalIds.length
  let totalMatched := result.items.length
  .write .record fun s => .ok (recordSync collection.id ((afterCount : Int).bmod (2 ^ 32)) totalDurationSeconds
    ⟨config.builderType, result.key, added, removed, missing, totalMatched⟩ s)
  return ⟨collection.id, config.builderType, added, removed, totalMatched, missing⟩

def persistCollectionItems (library : MediaLibrary ν) (collection : DynamicCollectionRow ν) (config : BuilderConfig ν)
    (result : CollectionBuilderResult) : Request ν CollectionSyncResult := do
  let beforeIds ← .read .members fun s =>
    (s.items.select fun key row => key.1 = collection.id && !row.isMissing).map Prod.snd
  let desired := (result.items.map (·.mediaItemId)).toFinset
  let added := (desired \ beforeIds.toFinset).card
  let removed := if collection.syncMode = "sync" then (beforeIds.toFinset \ desired).card else 0
  deleteStep collection result.items
  insertItems collection.id result.items
  recordResult library collection config result added removed

def syncDynamicCollection (w : World ν) (includeExternal : Bool) (collectionId : Uuid) :
    Request ν CollectionSyncResult := do
  let collection ← loadDynamicCollection collectionId
  let config ← settle (BuilderConfig.fromValue collection.dynamicConfig)
  let candidates ← buildCandidates w collection.libraryId config includeExternal
  persistCollectionItems w.library collection config (selectCandidate config collection candidates)

/-- The ids to sync, `ORDER BY sort_order, name`. -/
def targetIds (w : World ν) (libraryId : Option Uuid) (s : Catalog ν) : List Uuid :=
  let rows := (s.collections.rows.entries.map fun entry => (entry.1, entry.2)).filter fun row =>
    row.2.isDynamic && row.2.isEnabled && libraryId.all (row.2.libraryId = some ·)
  (w.targets.orderBy (NoLater (compareLex (through (·.2.sortOrder) compare) (through (·.2.name) w.db.collate)))
    rows).map Prod.fst

/-- The loop stops at the first error. -/
def syncEach (w : World ν) (includeExternal : Bool) : List Uuid → Request ν (List CollectionSyncResult)
  | [] => .done []
  | id :: ids => do
    let result ← syncDynamicCollection w includeExternal id
    let results ← syncEach w includeExternal ids
    return result :: results

def syncDynamicCollections (w : World ν) (libraryId : Option Uuid) (includeExternal : Bool) :
    Request ν (List CollectionSyncResult) := do
  let ids ← .read .targets (targetIds w libraryId)
  syncEach w includeExternal ids

/-! ## Runs -/

inductive Target
  | one (collectionId : Uuid)
  | all (libraryId : Option Uuid)

/-- A run, with the number of statements the database takes. -/
structure SyncRun (ν : Type) where
  world : World ν
  includeExternal : Bool
  target : Target
  budget : Nat

def SyncRun.perform (run : SyncRun ν) (s : Catalog ν) : Catalog ν :=
  match run.target with
  | .one id => ((syncDynamicCollection run.world run.includeExternal id).run run.budget s).store
  | .all libraryId => ((syncDynamicCollections run.world libraryId run.includeExternal).run run.budget s).store

/-- The items that are in the collection. -/
def Catalog.members (s : Catalog ν) (collectionId : Uuid) : Finset Uuid :=
  ((s.items.select fun key _ => key.1 = collectionId).map Prod.snd).toFinset

end Duskcue.Collections
