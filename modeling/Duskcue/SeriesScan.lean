import Duskcue.MovieScan
import Duskcue.SeriesGroups
import Duskcue.Statements

/-! How the groups of a library scan are given their series: an item of the library with their title, or a
new one. A request for a group may end anywhere, and the scan goes on with the next one. -/
namespace Duskcue.LibraryNames
open Text Decimals MediaMatching NfoParser Regex

/-- A row of `media_items`, with its row of `series`, `seasons` or `episodes`. -/
inductive ItemRow (Library Item : Type)
  | series (library : Library) (item : MediaItem)
  | season (library : Library) (title : List Char) (series : Item) (seasonNumber : Int)
  | episode (library : Library) (series season : Item) (episodeNumber : Option Int)
  | other

structure MediaStore (Library Item : Type) where
  items : Table Item (ItemRow Library Item)
  /-- The rows of `media_files`: a path, and the item that it belongs to. -/
  files : List (PathBuf × Item)

/-- A row that `fetch_optional` comes to first. -/
structure RowChoice (Item : Type) where
  pick : List Item → Option Item
  mem : ∀ rows row, pick rows = some row → row ∈ rows
  found : ∀ rows, pick rows = none → rows = []

/-- The ids that new rows are given. -/
structure NewIds (Item : Type) where
  series : Item
  season : Nat → Item
  episode : PathBuf → Item

inductive ScanQuery
  | findSeries | insertSeries | findSeason | insertSeason | findFile | updateMediaFile | insertEpisode

inductive ScannerError
  | database | panicked

/-- `as i32`. -/
def toI32 (n : Nat) : Int := Int.bmod n (2 ^ 32)

section Tables
variable {Library Item : Type} [DecidableEq Item]

namespace MediaStore
variable (s : MediaStore Library Item)

/-- The series of a library with a title. -/
def titled [DecidableEq Library] (library : Library) (title : List Char) : List Item :=
  s.items.select fun _ row => match row with
    | .series library' item => library' = library && item.title = title
    | _ => false

def seasons (series : Item) (seasonNumber : Int) : List Item :=
  s.items.select fun _ row => match row with
    | .season _ _ series' number => series' = series && number = seasonNumber
    | _ => false

def episodes (season : Item) (episodeNumber : Int) : List Item :=
  s.items.select fun _ row => match row with
    | .episode _ _ season' number => season' = season && number = some episodeNumber
    | _ => false

def isSeason (season : Item) : Bool :=
  match s.items.find season with
  | some (.season ..) => true
  | _ => false

/-- A path that has a row. -/
def Known (path : PathBuf) : Prop := path ∈ s.files.map Prod.fst

instance (path : PathBuf) : Decidable (s.Known path) := inferInstanceAs (Decidable (_ ∈ _))

def insertSeries (id : Item) (library : Library) (item : MediaItem) : Except ScannerError (MediaStore Library Item) :=
  if (s.items.find id).isSome then .error .database
  else .ok { s with items := s.items.put id (.series library item) }

def insertSeason (id : Item) (library : Library) (title : List Char) (series : Item) (seasonNumber : Int) :
    Except ScannerError (MediaStore Library Item) :=
  if (s.items.find id).isSome ∨ s.items.find series = none ∨ s.seasons series seasonNumber ≠ [] then .error .database
  else .ok { s with items := s.items.put id (.season library title series seasonNumber) }

def insertEpisode (id : Item) (library : Library) (series season : Item) (episodeNumber : Int) (path : PathBuf) :
    Except ScannerError (MediaStore Library Item) :=
  if (s.items.find id).isSome ∨ s.items.find series = none ∨ s.isSeason season = false ∨
      s.episodes season episodeNumber ≠ [] ∨ (path, id) ∈ s.files then .error .database
  else .ok
    { items := s.items.put id (.episode library series season (some episodeNumber)), files := s.files ++ [(path, id)] }

end MediaStore

abbrev ScanRequest (Library Item α : Type) := Statements (MediaStore Library Item) ScanQuery ScannerError α

section Requests
variable [DecidableEq Library] (choice : RowChoice Item) (newIds : NewIds Item) (library : Library)

/-- `find_existing_series`. -/
def findExistingSeries (title : List Char) : ScanRequest Library Item (Option Item) :=
  Statements.read .findSeries fun s => choice.pick (s.titled library title)

/-- `ensure_season`. -/
def ensureSeason (seriesId : Item) (seasonNumber : Nat) : ScanRequest Library Item Item := do
  let existing ← Statements.read .findSeason fun s => choice.pick (s.seasons seriesId (toI32 seasonNumber))
  match existing with
  | some id => return id
  | none =>
    let seasonTitle := "Season ".toList ++ padded 2 seasonNumber
    Statements.write .insertSeason fun s =>
      s.insertSeason (newIds.season seasonNumber) library seasonTitle seriesId (toI32 seasonNumber)
    return newIds.season seasonNumber

/-- How far the episodes of a group have come. -/
structure SeriesProgress (Item : Type) where
  seasonCache : Table Nat Item
  itemsCreated : Nat

/-- The season of an episode. -/
def seasonOf (seriesItemId : Item) (progress : SeriesProgress Item) (season : Nat) :
    ScanRequest Library Item (Item × SeriesProgress Item) :=
  match progress.seasonCache.find season with
  | some id => return (id, progress)
  | none => do
    let id ← ensureSeason choice newIds library seriesItemId season
    return (id, ⟨progress.seasonCache.put season id, progress.itemsCreated + 1⟩)

/-- A turn of the loop of `identify_and_create_series`. -/
def addEpisode (seriesItemId : Item) (progress : SeriesProgress Item) (epInfo : EpisodeInfo) :
    ScanRequest Library Item (SeriesProgress Item) := do
  let (seasonId, progress) ← seasonOf choice newIds library seriesItemId progress epInfo.season
  let existing ← Statements.read .findFile fun s => decide (s.Known epInfo.file)
  if existing then
    Statements.write .updateMediaFile .ok
    return progress
  else
    Statements.write .insertEpisode fun s =>
      s.insertEpisode (newIds.episode epInfo.file) library seriesItemId seasonId (toI32 epInfo.episode) epInfo.file
    return { progress with itemsCreated := progress.itemsCreated + 1 }

/-- The series of a group, and how many items were created for it. -/
def seriesOf (item : MediaItem) : ScanRequest Library Item (Item × Nat) := do
  let existing ← findExistingSeries choice library item.title
  match existing with
  | some id => return (id, 0)
  | none =>
    Statements.write .insertSeries fun s => s.insertSeries newIds.series library item
    return (newIds.series, 1)

variable (regex : List Char → Option (Compiled GroupKey)) (toLowercase toUppercase : List Char → List Char)
  (readEvents : List Char → List XmlEvent) (disk : Disk)

/-- `identify_and_create_series`. -/
def identifyAndCreateSeries (group : SeriesGroup) : ScanRequest Library Item Nat :=
  match resolveIdentification regex toLowercase toUppercase readEvents disk.folders group.key.folder none none with
  | none => .fail .panicked
  | some ident => do
    let (seriesItemId, created) ← seriesOf choice newIds library
      { title := group.key.title, sortTitle := generateSortTitle toLowercase group.key.title
        premiereDate := group.key.year.map timestampDate
        matchState := ident.matchState, identificationSource := ident.identificationSource, ids := ident.ids }
    let progress ← group.episodes.foldlM (addEpisode choice newIds library seriesItemId) ⟨.empty, created⟩
    return progress.itemsCreated

/-- The groups of a scan, in turn: each is led somewhere, to its end or not. -/
inductive ScanRun : MediaStore Library Item → List (MediaStore Library Item × SeriesGroup × MediaStore Library Item) → Prop
  | done (s : MediaStore Library Item) : ScanRun s []
  | group {s next : MediaStore Library Item} {group : SeriesGroup} {labels : List ScanQuery}
    {outcome : Except (Ending ScannerError) Nat}
    {steps : List (MediaStore Library Item × SeriesGroup × MediaStore Library Item)}
    (choice : RowChoice Item) (newIds : NewIds Item)
    (led : Statements.Leads (identifyAndCreateSeries choice newIds library regex toLowercase toUppercase readEvents disk group)
      s labels outcome next) (rest : ScanRun next steps) : ScanRun s ((s, group, next) :: steps)

end Requests

/-! ## Files under their series -/

namespace MediaStore

/-- The foreign keys of `media_files` and of `episodes`. -/
structure Linked (s : MediaStore Library Item) : Prop where
  files : ∀ path id, (path, id) ∈ s.files → s.items.find id ≠ none
  episodes : ∀ id library series season number,
    s.items.find id = some (.episode library series season number) → s.items.find series ≠ none

/-- A file of an episode of the series. -/
def Under (s : MediaStore Library Item) (series : Item) (path : PathBuf) : Prop :=
  ∃ id library season number, (path, id) ∈ s.files ∧ s.items.find id = some (.episode library series season number)

/-- From one store to another at most unknown files of these paths are attached, to this series. -/
structure Attaches (series : Item) (paths : List PathBuf) (a b : MediaStore Library Item) : Prop where
  linked : b.Linked
  known : ∀ path, a.Known path → b.Known path
  under : ∀ other path, b.Under other path → a.Under other path ∨ other = series ∧ path ∈ paths ∧ ¬ a.Known path

variable {a b c : MediaStore Library Item} {series id season : Item} {paths : List PathBuf} {path : PathBuf}
  {library : Library} {title : List Char} {number : Int}

theorem Attaches.refl (linked : a.Linked) : Attaches series paths a a := ⟨linked, fun _ => id, fun _ _ => .inl⟩

theorem Attaches.trans (first : Attaches series paths a b) (second : Attaches series paths b c) :
    Attaches series paths a c where
  linked := second.linked
  known path held := second.known path (first.known path held)
  under other path within := by
    rcases second.under other path within with earlier | ⟨same, member, unknown⟩
    · exact first.under other path earlier
    · exact .inr ⟨same, member, fun held => unknown (first.known path held)⟩

theorem find_put_ne_none (row : ItemRow Library Item) (held : a.items.find series ≠ none) :
    (a.items.put id row).find series ≠ none := by
  rw [Table.find_put]
  split
  · exact Option.some_ne_none _
  · exact held

/-- A new row that is not an episode attaches nothing. -/
theorem attaches_put (linked : a.Linked) (unused : a.items.find id = none)
    (plain : ∀ library series season number, row ≠ .episode library series season number) :
    Attaches series paths a { a with items := a.items.put id row } where
  linked :=
    { files := fun path held member => find_put_ne_none row (linked.files path held member)
      episodes := fun held library' series' season' number' found => by
        rw [Table.find_put] at found
        split at found
        · exact absurd (Option.some.inj found) (plain _ _ _ _)
        · exact find_put_ne_none row (linked.episodes _ _ _ _ _ found) }
  known _ held := held
  under other path := by
    rintro ⟨held, library', season', number', member, found⟩
    dsimp only at member found
    rw [Table.find_put_ne (by rintro rfl; exact linked.files _ _ member unused)] at found
    exact .inl ⟨held, library', season', number', member, found⟩

theorem insertSeries_attaches (linked : a.Linked) (inserted : a.insertSeries id library item = .ok b) :
    a.items.find id = none ∧ Attaches series paths a b := by
  unfold insertSeries at inserted
  split at inserted
  · cases inserted
  · rename_i unused
    cases inserted
    have unused := Option.not_isSome_iff_eq_none.mp unused
    exact ⟨unused, attaches_put linked unused nofun⟩

theorem insertSeason_attaches (linked : a.Linked)
    (inserted : a.insertSeason id library title other number = .ok b) : Attaches series paths a b := by
  unfold insertSeason at inserted
  split at inserted
  · cases inserted
  · rename_i allowed
    cases inserted
    rw [not_or] at allowed
    exact attaches_put linked (Option.not_isSome_iff_eq_none.mp allowed.1) nofun

theorem insertEpisode_attaches (linked : a.Linked) (member : path ∈ paths) (unknown : ¬ a.Known path)
    (inserted : a.insertEpisode id library series season number path = .ok b) : Attaches series paths a b := by
  unfold insertEpisode at inserted
  split at inserted
  · cases inserted
  rename_i allowed
  cases inserted
  simp only [not_or] at allowed
  obtain ⟨used, there, -⟩ := allowed
  have unused := Option.not_isSome_iff_eq_none.mp used
  refine ⟨⟨fun other held file => ?_, fun held library' series' season' number' found => ?_⟩, fun other held => ?_, ?_⟩
  · rcases List.mem_append.mp file with earlier | new
    · exact find_put_ne_none _ (linked.files other held earlier)
    · cases List.mem_singleton.mp new
      rw [Table.find_put_self]
      exact Option.some_ne_none _
  · rw [Table.find_put] at found
    split at found
    · cases found
      exact find_put_ne_none _ there
    · exact find_put_ne_none _ (linked.episodes _ _ _ _ _ found)
  · unfold Known at held ⊢
    rw [List.map_append]
    exact List.mem_append_left _ held
  · rintro other file ⟨held, library', season', number', within, found⟩
    rcases List.mem_append.mp within with earlier | new
    · rw [Table.find_put_ne (by rintro rfl; exact linked.files _ _ earlier unused)] at found
      exact .inl ⟨held, library', season', number', earlier, found⟩
    · cases List.mem_singleton.mp new
      rw [Table.find_put_self] at found
      cases found
      exact .inr ⟨rfl, member, unknown⟩

end MediaStore

section Requests
open MediaStore Statements

variable {choice : RowChoice Item} {newIds : NewIds Item} {library : Library} {a b : MediaStore Library Item}
  {series : Item} {paths : List PathBuf} {labels : List ScanQuery} {progress : SeriesProgress Item} {epInfo : EpisodeInfo}

theorem ensureSeason_attaches (linked : a.Linked)
    (led : Leads (ensureSeason choice newIds library series seasonNumber) a labels outcome b) :
    Attaches series paths a b := by
  rcases led.bind_read with ⟨rfl, -⟩ | ⟨later, continued⟩
  · exact .refl linked
  split at continued
  · obtain ⟨-, rfl⟩ := leads_done continued
    exact .refl linked
  · rcases continued.bind_write with ⟨rfl, -⟩ | ⟨middle, last, inserted, ended⟩
    · exact .refl linked
    · obtain ⟨-, rfl⟩ := leads_done ended
      exact insertSeason_attaches linked inserted

theorem seasonOf_attaches
    (linked : a.Linked) (led : Leads (seasonOf choice newIds library series progress seasonNumber) a labels outcome b) :
    Attaches series paths a b := by
  unfold seasonOf at led
  split at led
  · obtain ⟨-, rfl⟩ := leads_done led
    exact .refl linked
  · rw [bind_eq] at led
    rcases led.bind with ⟨ending, rfl, ensured⟩ | ⟨id, first, middle, later, ensured, ended, rfl⟩
    · exact ensureSeason_attaches linked ensured
    · obtain ⟨-, rfl⟩ := leads_done ended
      exact ensureSeason_attaches linked ensured

theorem addEpisode_attaches (linked : a.Linked)
    (member : epInfo.file ∈ paths) (led : Leads (addEpisode choice newIds library series progress epInfo) a labels outcome b) :
    Attaches series paths a b := by
  unfold addEpisode at led
  rw [bind_eq] at led
  rcases led.bind with ⟨ending, rfl, ensured⟩ | ⟨⟨seasonId, progress⟩, first, middle, later, ensured, continued, rfl⟩
  · exact seasonOf_attaches linked ensured
  have housed : Attaches series paths a middle := seasonOf_attaches linked ensured
  refine housed.trans ?_
  rcases continued.bind_read with ⟨rfl, -⟩ | ⟨others, found⟩
  · exact .refl housed.linked
  split at found
  · rcases found.bind_write with ⟨rfl, -⟩ | ⟨last, rest, kept, ended⟩
    · exact .refl housed.linked
    · cases kept
      obtain ⟨-, rfl⟩ := leads_done ended
      exact .refl housed.linked
  · rename_i absent
    rcases found.bind_write with ⟨rfl, -⟩ | ⟨last, rest, inserted, ended⟩
    · exact .refl housed.linked
    · obtain ⟨-, rfl⟩ := leads_done ended
      exact insertEpisode_attaches housed.linked member (fun known => absent (decide_eq_true known)) inserted

theorem addEpisodes_attaches {episodes : List EpisodeInfo}
    (linked : a.Linked) (members : ∀ epInfo ∈ episodes, epInfo.file ∈ paths)
    (led : Leads (episodes.foldlM (addEpisode choice newIds library series) progress) a labels outcome b) :
    Attaches series paths a b := by
  induction episodes generalizing a progress labels with
  | nil =>
    obtain ⟨-, rfl⟩ := leads_done led
    exact .refl linked
  | cons _ _ ih =>
    rw [List.forall_mem_cons] at members
    rw [List.foldlM_cons, bind_eq] at led
    rcases led.bind with ⟨ending, rfl, ended⟩ | ⟨value, first, middle, later, added, continued, rfl⟩
    · exact addEpisode_attaches linked members.1 ended
    · have here : Attaches series paths a middle := addEpisode_attaches linked members.1 added
      exact here.trans (ih here.linked members.2 continued)

/-- The series of a group is one with its title or an unused one, and no file is attached to it yet. -/
theorem seriesOf_cases [DecidableEq Library] {item : MediaItem} {outcome : Except (Ending ScannerError) (Item × Nat)}
    (linked : a.Linked) (led : Leads (seriesOf choice newIds library item) a labels outcome b) :
    Attaches series paths a b ∧ ∀ found, outcome = .ok found →
      found.1 ∈ a.titled library item.title ∨ a.items.find found.1 = none := by
  rcases led.bind_read with ⟨rfl, ending, rfl⟩ | ⟨later, continued⟩
  · exact ⟨.refl linked, nofun⟩
  split at continued
  · rename_i id existing
    cases continued with
    | cut => exact ⟨.refl linked, nofun⟩
    | done =>
      refine ⟨.refl linked, ?_⟩
      rintro _ ⟨⟩
      exact .inl (choice.mem _ _ existing)
  · rcases continued.bind_write with ⟨rfl, ending, rfl⟩ | ⟨middle, last, inserted, ended⟩
    · exact ⟨.refl linked, nofun⟩
    · obtain ⟨unused, attaches⟩ := insertSeries_attaches linked inserted
      cases ended with
      | cut => exact ⟨attaches, nofun⟩
      | done =>
        refine ⟨attaches, ?_⟩
        rintro _ ⟨⟩
        exact .inr unused

end Requests

/-! ## Series of their own -/

/-- What a folder identifies: the year of its name, and the ids that are resolved for it. -/
structure SeriesIdentity where
  year : Option Nat
  ids : Option ResolvedIds

section Identity
variable (regex : List Char → Option (Compiled GroupKey)) (toLowercase toUppercase : List Char → List Char)
  (readEvents : List Char → List XmlEvent) (disk : Disk) (scanPath : PathBuf)

def folderIdentity (folder : PathBuf) : SeriesIdentity where
  year := folderYear regex folder
  ids := (resolveIdentification regex toLowercase toUppercase readEvents disk.folders folder none none).map (·.ids)

/-- What the series' folder of a file identifies. -/
def fileIdentity (path : PathBuf) : Option SeriesIdentity :=
  (seriesFolderOf regex scanPath path).map (folderIdentity regex toLowercase toUppercase readEvents disk)

/-- Files that have come under one series since the start, or to one, are those of folders that identify the same. -/
def Separated (start s : MediaStore Library Item) : Prop :=
  ∀ series p q, s.Under series p → s.Under series q →
    fileIdentity regex toLowercase toUppercase readEvents disk scanPath p =
        fileIdentity regex toLowercase toUppercase readEvents disk scanPath q ∨
      (start.Under series p ∧ start.Under series q)

/-- The files under the series with a group's title are those of folders that identify what the group's does,
where the group has a new file. -/
def Agrees [DecidableEq Library] (library : Library) (s : MediaStore Library Item) (group : SeriesGroup) : Prop :=
  (∃ epInfo ∈ group.episodes, ¬ s.Known epInfo.file) →
    ∀ series ∈ s.titled library group.key.title, ∀ path, s.Under series path →
      fileIdentity regex toLowercase toUppercase readEvents disk scanPath path =
        some (folderIdentity regex toLowercase toUppercase readEvents disk group.key.folder)

end Identity

section Separation
open MediaStore Statements

variable [DecidableEq Library] {regex : List Char → Option (Compiled GroupKey)} {decimal : Char → Bool}
  {toLowercase toUppercase : List Char → List Char} {readEvents : List Char → List XmlEvent} {disk : Disk}
  {scanPath : PathBuf} {library : Library} {choice : RowChoice Item} {newIds : NewIds Item}
  {start s after : MediaStore Library Item} {group : SeriesGroup} {labels : List ScanQuery}

/-- A request attaches files of its group only, to one series: one with the title of the group, or an unused one. -/
theorem identify_attaches {outcome : Except (Ending ScannerError) Nat} (linked : s.Linked)
    (led : Leads (identifyAndCreateSeries choice newIds library regex toLowercase toUppercase readEvents disk group) s labels
      outcome after) :
    Attaches newIds.series [] s after ∨ ∃ series, Attaches series (group.episodes.map EpisodeInfo.file) s after ∧
      (series ∈ s.titled library group.key.title ∨ s.items.find series = none) := by
  unfold identifyAndCreateSeries at led
  split at led
  · cases led with
    | cut | fail => exact .inl (.refl linked)
  rw [bind_eq] at led
  rcases led.bind with ⟨ending, rfl, ended⟩ | ⟨⟨series, created⟩, first, middle, later, found, continued, rfl⟩
  · exact .inl (seriesOf_cases linked ended).1
  obtain ⟨housed, which⟩ := @seriesOf_cases _ _ _ _ _ _ _ _ series (group.episodes.map EpisodeInfo.file) _ _ _ _ linked found
  refine .inr ⟨series, housed.trans ?_, which _ rfl⟩
  rcases continued.bind with ⟨ending, rfl, ended⟩ | ⟨progress, second, last, fourth, added, ended, rfl⟩
  · exact addEpisodes_attaches housed.linked (fun epInfo => List.mem_map_of_mem) ended
  · obtain ⟨-, rfl⟩ := leads_done ended
    exact addEpisodes_attaches housed.linked (fun epInfo => List.mem_map_of_mem) added

/-- A request for a group that agrees with the series of its title keeps them separated. -/
theorem identify_separated (ofFolder : group.OfFolder regex scanPath text) (linked : s.Linked)
    (separated : Separated regex toLowercase toUppercase readEvents disk scanPath start s)
    (agrees : Agrees regex toLowercase toUppercase readEvents disk scanPath library s group)
    (led : Leads (identifyAndCreateSeries choice newIds library regex toLowercase toUppercase readEvents disk group) s labels
      outcome after) :
    after.Linked ∧ Separated regex toLowercase toUppercase readEvents disk scanPath start after := by
  rcases identify_attaches linked led with none' | ⟨series, attaches, which⟩
  · refine ⟨none'.linked, fun other p q first second => ?_⟩
    have under {path : PathBuf} (within : after.Under other path) : s.Under other path :=
      (none'.under other path within).resolve_right fun new => List.not_mem_nil new.2.1
    exact separated other p q (under first) (under second)
  refine ⟨attaches.linked, fun other p q first second => ?_⟩
  have own {path : PathBuf} (member : path ∈ group.episodes.map EpisodeInfo.file) :
      fileIdentity regex toLowercase toUppercase readEvents disk scanPath path =
        some (folderIdentity regex toLowercase toUppercase readEvents disk group.key.folder) := by
    obtain ⟨epInfo, known, rfl⟩ := List.mem_map.mp member
    exact congrArg (Option.map _) (ofFolder.files epInfo known)
  -- A file that was there already is of the same identity as one that is new.
  have earlier {old new : PathBuf} (within : s.Under series old) (member : new ∈ group.episodes.map EpisodeInfo.file)
      (unknown : ¬ s.Known new) : fileIdentity regex toLowercase toUppercase readEvents disk scanPath old =
        fileIdentity regex toLowercase toUppercase readEvents disk scanPath new := by
    rw [own member]
    rcases which with titled | unused
    · obtain ⟨epInfo, known, rfl⟩ := List.mem_map.mp member
      exact agrees ⟨epInfo, known, unknown⟩ series titled old within
    · obtain ⟨id, library', season, number, -, found⟩ := within
      exact absurd unused (linked.episodes _ _ _ _ _ found)
  rcases attaches.under other p first with before | ⟨rfl, member, unknown⟩
  · rcases attaches.under other q second with before' | ⟨rfl, member, unknown⟩
    · exact separated other p q before before'
    · exact .inl (earlier before member unknown)
  · rcases attaches.under other q second with before' | ⟨-, member', -⟩
    · exact .inl (earlier before' member unknown).symm
    · exact .inl ((own member).trans (own member').symm)

theorem scan_separated {groups : Table (List Char) SeriesGroup}
    (ofFolder : ∀ text group, groups.find text = some group → group.OfFolder regex scanPath text) (linked : s.Linked)
    (separated : Separated regex toLowercase toUppercase readEvents disk scanPath start s)
    (scan : ScanRun library regex toLowercase toUppercase readEvents disk s steps)
    (members : ∀ step ∈ steps, step.2.1 ∈ groups.records)
    (agrees : ∀ step ∈ steps, Agrees regex toLowercase toUppercase readEvents disk scanPath library step.1 step.2.1) :
    ∀ step ∈ steps, Separated regex toLowercase toUppercase readEvents disk scanPath start step.2.2 := by
  induction scan with
  | done => nofun
  | group _ _ led _ ih =>
    rw [List.forall_mem_cons] at members agrees ⊢
    obtain ⟨text, found⟩ := Table.mem_records.mp members.1
    obtain ⟨linked', separated'⟩ := identify_separated (ofFolder _ _ found) linked separated agrees.1 led
    exact ⟨separated', ih linked' separated' members.2 agrees.2⟩

end Separation

end Tables

/-- Wherever a scan is led, two files are attached to one series only if their folders identify the same, where
in each step the files under the series of the group's title are of such folders. -/
theorem series_separated {Library Item : Type} [DecidableEq Library] [DecidableEq Item]
    (regex : List Char → Option (Compiled GroupKey)) (decimal : Char → Bool) (of : Decimal decimal)
    (compile : SeriesCompile regex decimal) (toLowercase toUppercase : List Char → List Char)
    (readEvents : List Char → List XmlEvent) (order : HashOrder) (disk : Disk) (scanPath : PathBuf) (probed : List PathBuf)
    (groups : Table (List Char) SeriesGroup)
    (grouped : groupEpisodesBySeries regex toLowercase toUppercase order disk scanPath probed = some groups)
    (library : Library) (start : MediaStore Library Item) (linked : start.Linked)
    (steps : List (MediaStore Library Item × SeriesGroup × MediaStore Library Item))
    (scan : ScanRun library regex toLowercase toUppercase readEvents disk start steps)
    (some' : (steps.map fun step => step.2.1).Subperm groups.records)
    (agrees : ∀ step ∈ steps, Agrees regex toLowercase toUppercase readEvents disk scanPath library step.1 step.2.1) :
    ∀ step ∈ steps, Separated regex toLowercase toUppercase readEvents disk scanPath start step.2.2 := by
  refine scan_separated (fun text group => groups_ofFolder compile.names of grouped) linked
    (fun _ _ _ first second => .inr ⟨first, second⟩) scan (fun step member => ?_) agrees
  exact some'.subset (List.mem_map_of_mem member)

/-- More expressions do not change those that are compiled already. -/
theorem NamesCompile.or (compile : NamesCompile regex decimal) (more : List Char → Option (Compiled GroupKey)) :
    NamesCompile (fun text => (regex text).or (more text)) decimal where
  tags := ⟨congrArg (Option.or · _) compile.tags.curly, congrArg (Option.or · _) compile.tags.bracket⟩
  marker := congrArg (Option.or · _) compile.marker
  cross := congrArg (Option.or · _) compile.cross
  year := congrArg (Option.or · _) compile.year
  standalone := congrArg (Option.or · _) compile.standalone
  parenthesized := congrArg (Option.or · _) compile.parenthesized
  curly := congrArg (Option.or · _) compile.curly
  square := congrArg (Option.or · _) compile.square

/-- The expressions of the names and of the seasons' folders, with the digits of ASCII for `\d`. -/
def asciiSeries (text : List Char) : Option (Compiled GroupKey) :=
  (asciiNames text).or (if text = seasonText then some (seasonExpression Char.isDigit).compiled
    else if text = specialsText then some specialsExpression.compiled else none)

theorem asciiSeries_compile : SeriesCompile asciiSeries Char.isDigit where
  names := asciiNames_compile.or _
  season := rfl
  specials := rfl

def tv : Name := ⟨"tv".toList, by decide, by decide, by decide⟩

/-- Two series of one title. -/
def firstOffice : PathBuf := [tv, ⟨"The Office (2001)".toList, by decide, by decide, by decide⟩]
def secondOffice : PathBuf := [tv, ⟨"The Office (2005)".toList, by decide, by decide, by decide⟩]

def pilot : Name := ⟨"Office S01E01.mkv".toList, by decide, by decide, by decide⟩
def diversityDay : Name := ⟨"Office S01E02.mkv".toList, by decide, by decide, by decide⟩

def emptyDisk : Disk := ⟨fun _ _ => false, fun _ _ => none⟩

def sameOrder : HashOrder := ⟨id, fun _ => .rfl⟩

def firstRow : RowChoice Nat where
  pick := List.head?
  mem _ _ := List.mem_of_head?
  found _ := List.head?_eq_none_iff.mp

def newRows : NewIds Nat := ⟨3, fun _ => 4, fun _ => 5⟩

/-- The first episode of a folder under its series. -/
def office (folder : PathBuf) : MediaStore Unit Nat where
  items := ((Table.empty.put 0 (.series () ⟨"The Office".toList, "Office, The".toList, none, [], none, .empty⟩)).put 1
    (.season () "Season 01".toList 0 1)).put 2 (.episode () 0 1 (some 1))
  files := [(folder ++ [pilot], 2)]

/-- A new episode of the second folder. -/
def secondGroup : SeriesGroup :=
  ⟨⟨"The Office".toList, some 2005, secondOffice⟩, [⟨secondOffice ++ [diversityDay], 1, 2, none⟩]⟩

def secondRequest : ScanRequest Unit Nat Nat :=
  identifyAndCreateSeries firstRow newRows () asciiSeries id id (fun _ => []) emptyDisk secondGroup

/-- The store behind the scan of the new episode. -/
def officeAfter (folder : PathBuf) : MediaStore Unit Nat := (secondRequest.run 9 (office folder)).store

theorem office_grouped : ∃ groups, groupEpisodesBySeries asciiSeries id id sameOrder emptyDisk [tv]
    [secondOffice ++ [diversityDay]] = some groups ∧ groups.records = [secondGroup] :=
  Option.map_eq_some_iff.mp (by decide +kernel)

theorem office_scanned (folder : PathBuf) : ScanRun () asciiSeries id id (fun _ => []) emptyDisk (office folder)
    [(office folder, secondGroup, officeAfter folder)] :=
  .group firstRow newRows (Statements.leads_run 9 secondRequest (office folder)) (.done _)

theorem office_linked (folder : PathBuf) : (office folder).Linked where
  files path id member := by
    cases List.mem_singleton.mp member
    exact Option.some_ne_none _
  episodes id library series season number found := by
    have rows : ∀ key row, (office folder).items.find key = some row →
        ∀ library' series' season' number', row = .episode library' series' season' number' → series' = 0 :=
      Table.forall_put (by rintro _ _ _ _ ⟨⟩; rfl) (Table.forall_put nofun (Table.forall_put nofun (by simp)))
    rw [rows id _ found _ _ _ _ rfl]
    exact Option.some_ne_none _

theorem office_under (within : (office folder).Under series path) : path = folder ++ [pilot] := by
  obtain ⟨id, library, season, number, member, -⟩ := within
  cases List.mem_singleton.mp member
  rfl

/-- Both episodes are under one series then. -/
theorem office_attached : (officeAfter firstOffice).Under 0 (firstOffice ++ [pilot]) ∧
    (officeAfter firstOffice).Under 0 (secondOffice ++ [diversityDay]) := by
  have after : officeAfter firstOffice =
      { items := (office firstOffice).items.put 5 (.episode () 0 1 (some 2))
        files := [(firstOffice ++ [pilot], 2), (secondOffice ++ [diversityDay], 5)] } := rfl
  rw [after]
  exact ⟨⟨2, (), 1, some 1, List.mem_cons_self, rfl⟩, ⟨5, (), 1, some 2, List.mem_cons_of_mem _ List.mem_cons_self, rfl⟩⟩

/-- A new episode of the series' own folder. -/
theorem second_separated : Separated asciiSeries id id (fun _ => []) emptyDisk [tv] (office secondOffice)
    (officeAfter secondOffice) := by
  obtain ⟨groups, grouped, records⟩ := office_grouped
  have order : [secondGroup].Subperm groups.records := records ▸ .refl _
  have agrees : ∀ step ∈ [(office secondOffice, secondGroup, officeAfter secondOffice)],
      Agrees asciiSeries id id (fun _ => []) emptyDisk [tv] () step.1 step.2.1 := by
    rintro _ member
    cases List.mem_singleton.mp member
    intro _ series _ path within
    obtain rfl := office_under within
    have there : seriesFolderOf asciiSeries [tv] (secondOffice ++ [pilot]) = some secondOffice := by decide +kernel
    exact congrArg (Option.map _) there
  have separated := series_separated asciiSeries Char.isDigit decimal_isDigit asciiSeries_compile id id (fun _ => []) sameOrder
    emptyDisk [tv] [secondOffice ++ [diversityDay]] groups grouped () (office secondOffice) (office_linked _) _
    (office_scanned _) order agrees (office secondOffice, secondGroup, officeAfter secondOffice) (List.mem_singleton_self _)
  exact separated

/-- A new episode of 2005 is attached to the series of 2001. -/
theorem office_confused : ¬ ∀ {Library Item : Type} [DecidableEq Library] [DecidableEq Item]
    (regex : List Char → Option (Compiled GroupKey)) (decimal : Char → Bool) (_ : Decimal decimal)
    (_ : SeriesCompile regex decimal) (toLowercase toUppercase : List Char → List Char)
    (readEvents : List Char → List XmlEvent) (order : HashOrder) (disk : Disk) (scanPath : PathBuf) (probed : List PathBuf)
    (groups : Table (List Char) SeriesGroup)
    (_ : groupEpisodesBySeries regex toLowercase toUppercase order disk scanPath probed = some groups)
    (library : Library) (start : MediaStore Library Item) (_ : start.Linked)
    (steps : List (MediaStore Library Item × SeriesGroup × MediaStore Library Item))
    (_ : ScanRun library regex toLowercase toUppercase readEvents disk start steps)
    (_ : (steps.map fun step => step.2.1).Subperm groups.records),
    ∀ step ∈ steps, Separated regex toLowercase toUppercase readEvents disk scanPath start step.2.2 := by
  intro all
  obtain ⟨groups, grouped, records⟩ := office_grouped
  have order : [secondGroup].Subperm groups.records := records ▸ .refl _
  have separated := all asciiSeries Char.isDigit decimal_isDigit asciiSeries_compile id id (fun _ => []) sameOrder emptyDisk
    [tv] [secondOffice ++ [diversityDay]] groups grouped () (office firstOffice) (office_linked _) _ (office_scanned _) order
    (office firstOffice, secondGroup, officeAfter firstOffice) (List.mem_singleton_self _)
  dsimp only at separated
  rcases separated 0 _ _ office_attached.1 office_attached.2 with same | ⟨-, known⟩
  · have first : seriesFolderOf asciiSeries [tv] (firstOffice ++ [pilot]) = some firstOffice := by decide +kernel
    have second : seriesFolderOf asciiSeries [tv] (secondOffice ++ [diversityDay]) = some secondOffice := by decide +kernel
    unfold fileIdentity at same
    rw [first, second] at same
    have years := congrArg SeriesIdentity.year (Option.some.inj same)
    exact absurd years (by decide +kernel : folderYear asciiSeries firstOffice ≠ folderYear asciiSeries secondOffice)
  · exact absurd (office_under known) (by decide +kernel)

end Duskcue.LibraryNames
