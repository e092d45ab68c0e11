import Duskcue.LibraryScan

/-! The health of a library's files. A path that is scanned clears the health of
every row of the library whose file it does not list, also where another path
holds the file, and only a file that is written again gets its health back. So a
scan leaves health and listings in agreement exactly when no row that is healthy
or written meets a path that lacks its file, and every row of a listed file was
healthy before or is written. -/
namespace Duskcue.Scanner

variable {id : Id}

variable {Probe : Type} (env : Surroundings Probe) {library : Id} {mediaType : MediaType} {full : Bool}
  {before middle after store : Store} {paths more : List Path}

/-! ## What identification writes -/

/-- Rows of the paths are written or inserted, and nothing else about the rows changes. -/
structure Wrote (library : Id) (paths : List Path) (before after : Store) : Prop where
  items : ∀ id item, before.items.find id = some item →
    ∃ item', after.items.find id = some item' ∧ item'.libraryId = item.libraryId
  kept : ∀ id row, before.files.find id = some row → ∃ row', after.files.find id = some row' ∧
    row'.mediaItemId = row.mediaItemId ∧ row'.filePath = row.filePath ∧
    row'.isHealthy = (row.isHealthy || decide (row.filePath ∈ paths))
  fresh : ∀ id row, before.files.find id = none → after.files.find id = some row →
    row.filePath ∈ paths ∧ row.isHealthy = true ∧ inLibrary after library row = true ∧
    existing before row.filePath = false
  inserted : ∀ path ∈ paths, existing after path = true

theorem existing_iff :
    existing store path = true ↔ ∃ id row, store.files.find id = some row ∧ row.filePath = path := by
  unfold existing
  rw [Table.holds_iff]
  simp only [decide_eq_true_eq]

namespace Wrote

theorem existing_kept (wrote : Wrote library paths before after)
    (held : existing before path = true) : existing after path = true := by
  obtain ⟨id, row, found, same⟩ := existing_iff.mp held
  obtain ⟨row', found', -, path', -⟩ := wrote.kept id row found
  exact existing_iff.mpr ⟨id, row', found', path'.trans same⟩

theorem library_kept (wrote : Wrote library paths before after) (library' : Id) {row row' : MediaFile}
    (found : before.files.find id = some row) (same : row'.mediaItemId = row.mediaItemId) :
    inLibrary after library' row' = inLibrary before library' row := by
  obtain ⟨item, held⟩ := Option.isSome_iff_exists.mp (before.referenced id row found)
  obtain ⟨item', held', library'⟩ := wrote.items _ _ held
  unfold inLibrary
  rw [same, held, held']
  simp [library']

theorem refl (same : after.files = before.files)
    (items : ∀ id item, before.items.find id = some item →
      ∃ item', after.items.find id = some item' ∧ item'.libraryId = item.libraryId) :
    Wrote library [] before after where
  items := items
  kept id row found := ⟨row, by rw [same, found], rfl, rfl, by simp⟩
  fresh id row absent found := by
    rw [same, absent] at found
    cases found
  inserted path member := by cases member

theorem trans (first : Wrote library paths before middle) (second : Wrote library more middle after) :
    Wrote library (paths ++ more) before after where
  items id item held := by
    obtain ⟨item', held', same⟩ := first.items id item held
    obtain ⟨item'', held'', same'⟩ := second.items id item' held'
    exact ⟨item'', held'', same'.trans same⟩
  kept id row found := by
    obtain ⟨row', found', item', path', health'⟩ := first.kept id row found
    obtain ⟨row'', found'', item'', path'', health''⟩ := second.kept id row' found'
    refine ⟨row'', found'', item''.trans item', path''.trans path', ?_⟩
    rw [health'', health', path']
    by_cases one : row.filePath ∈ paths <;> by_cases two : row.filePath ∈ more <;> simp [one, two]
  fresh id row absent found := by
    cases halfway : middle.files.find id with
    | none =>
      obtain ⟨member, healthy, inside, unheld⟩ := second.fresh id row halfway found
      refine ⟨List.mem_append_right _ member, healthy, inside, ?_⟩
      cases held : existing before row.filePath with
      | false => rfl
      | true => cases unheld.symm.trans (first.existing_kept held)
    | some row' =>
      obtain ⟨member, healthy, inside, unheld⟩ := first.fresh id row' absent halfway
      obtain ⟨row'', found'', item'', path'', health''⟩ := second.kept id row' halfway
      cases found''.symm.trans found
      refine ⟨?_, ?_, ?_, ?_⟩
      · rw [path'']
        exact List.mem_append_left _ member
      · rw [health'', healthy, Bool.true_or]
      · rw [second.library_kept library halfway item'']
        exact inside
      · rw [path'']
        exact unheld
  inserted path member := by
    rcases List.mem_append.mp member with member | member
    · exact second.existing_kept (first.inserted path member)
    · exact second.inserted path member

end Wrote

theorem insert_item_items (store : Store) (item : MediaItem) (id : Id) (old : MediaItem)
    (held : store.items.find id = some old) :
    ∃ item', (insertItem store item).items.find id = some item' ∧ item'.libraryId = old.libraryId := by
  have other : id ≠ store.items.unused := by
    rintro rfl
    cases (Table.find_unused store.items).symm.trans held
  exact ⟨old, (Table.find_put_ne other).trans held, rfl⟩

theorem insert_media_file_wrote (held : store.items.find id = some item)
    (inside : item.libraryId = library) {file : DiscoveredFile} (absent : existing store file.path = false) :
    Wrote library [file.path] store (insertMediaFile store id file) := by
  have someItem : (store.items.find id).isSome = true := by rw [held]; rfl
  have files : (insertMediaFile store id file).files = store.files.put store.files.unused
      ⟨id, file.path, boundSize file.size, file.mtime.map boundMicros, true⟩ := by
    rw [insertMediaFile, dif_pos someItem]
  have items : (insertMediaFile store id file).items = store.items := by
    rw [insertMediaFile, dif_pos someItem]
  constructor
  · intro key old found
    exact ⟨old, by rw [items, found], rfl⟩
  · intro key row found
    have other : key ≠ store.files.unused := by
      rintro rfl
      cases (Table.find_unused store.files).symm.trans found
    refine ⟨row, by rw [files, Table.find_put_ne other, found], rfl, rfl, ?_⟩
    have apart : row.filePath ≠ file.path := by
      intro same
      cases absent.symm.trans (existing_iff.mpr ⟨key, row, found, same⟩)
    simp [apart]
  · intro key row unheld found
    rw [files, Table.find_put] at found
    split at found
    · cases found
      refine ⟨by simp, rfl, ?_, absent⟩
      unfold inLibrary
      rw [items, held]
      simp [inside]
    · cases unheld.symm.trans found
  · intro path member
    cases List.mem_singleton.mp member
    rw [existing_iff]
    exact ⟨store.files.unused, _, by rw [files, Table.find_put_self], rfl⟩

theorem rewritten_path (file : DiscoveredFile) (row : MediaFile) :
    (rewritten file row).filePath = row.filePath := by
  unfold rewritten
  split <;> rfl

theorem rewritten_healthy (file : DiscoveredFile) (row : MediaFile) :
    (rewritten file row).isHealthy = (row.isHealthy || decide (row.filePath ∈ [file.path])) := by
  unfold rewritten
  split
  · rename_i same
    simp [same]
  · rename_i other
    simp [other]

theorem update_media_file_wrote {file : DiscoveredFile} (held : existing store file.path = true) :
    Wrote library [file.path] store (updateMediaFile store file) := by
  have files (id : Id) : (updateMediaFile store file).files.find id =
      (store.files.find id).map (rewritten file) := Table.find_amend _ _ _
  constructor
  · intro id item found
    exact ⟨item, found, rfl⟩
  · intro id row found
    exact ⟨rewritten file row, by rw [files, found]; rfl, rewritten_item file row, rewritten_path file row,
      rewritten_healthy file row⟩
  · intro id row absent found
    rw [files, absent] at found
    cases found
  · intro path member
    cases List.mem_singleton.mp member
    obtain ⟨id, row, found, same⟩ := existing_iff.mp held
    exact existing_iff.mpr ⟨id, rewritten file row, by rw [files, found]; rfl, (rewritten_path file row).trans same⟩

/-- What becomes of a probed movie file. -/
def moviePaths (probed : DiscoveredFile × Probe) : List Path :=
  if env.accepts probed.2 then [probed.1.path] else []

theorem identify_movie_wrote (scanPath : Path) (store : Store) (probed : DiscoveredFile × Probe) :
    Wrote library (moviePaths env probed) store
      (identifyAndCreateMovie env library scanPath store probed) := by
  unfold identifyAndCreateMovie moviePaths
  by_cases fits : env.accepts probed.2 = true
  · rw [if_pos fits, if_pos fits]
    split
    · rename_i held
      exact update_media_file_wrote held
    · rename_i absent
      have absent : existing store probed.1.path = false := by simpa using absent
      have created : Wrote library [] store
          (insertItem store ⟨library, .movie, env.title scanPath probed.1.path⟩) :=
        Wrote.refl rfl (insert_item_items store _)
      have absent : existing (insertItem store ⟨library, .movie, env.title scanPath probed.1.path⟩)
          probed.1.path = false := absent
      exact created.trans (insert_media_file_wrote (Table.find_put_self _ _ _) rfl absent)
  · rw [if_neg fits, if_neg fits]
    exact Wrote.refl rfl fun id item found => ⟨item, found, rfl⟩

theorem ensure_series_wrote (store : Store) (title : List Char) :
    Wrote library [] store (ensureSeries store library title).1 := by
  unfold ensureSeries
  split
  · exact Wrote.refl rfl fun id item found => ⟨item, found, rfl⟩
  · exact Wrote.refl rfl (insert_item_items store ⟨library, .series, title⟩)

theorem ensure_season_wrote (store : Store) (seriesId : Id) (number : UInt32) :
    Wrote library [] store (ensureSeason store seriesId number library).1 := by
  unfold ensureSeason
  split
  · exact Wrote.refl rfl fun id item found => ⟨item, found, rfl⟩
  · exact Wrote.refl rfl (insert_item_items store ⟨library, .season, seasonTitle number⟩)

theorem cached_season_wrote (store : Store) (cache : List (UInt32 × Id)) (seriesId : Id) (number : UInt32) :
    Wrote library [] store (cachedSeason store cache seriesId number library).1.1 := by
  unfold cachedSeason
  split
  · exact Wrote.refl rfl fun id item found => ⟨item, found, rfl⟩
  · exact ensure_season_wrote store seriesId number

theorem create_episode_wrote {info : EpisodeInfo Probe} (absent : existing store info.file.path = false)
    (seriesId seasonId : Id) :
    Wrote library [info.file.path] store (createEpisode env store library seriesId seasonId info) := by
  let numbered : Store :=
    { insertItem store ⟨library, .episode, env.episodeTitle info.file.path⟩ with
      episodes := store.episodes.put store.items.unused ⟨seriesId, seasonId, info.episode⟩ }
  have created : Wrote library [] store numbered :=
    Wrote.refl rfl (insert_item_items store ⟨library, .episode, env.episodeTitle info.file.path⟩)
  have absent : existing numbered info.file.path = false := absent
  exact created.trans (insert_media_file_wrote (Table.find_put_self _ _ _) rfl absent)

theorem identify_episode_wrote (seriesId : Id) (store : Store) (cache : List (UInt32 × Id))
    (info : EpisodeInfo Probe) :
    Wrote library (if (identifyEpisode env library seriesId store cache info).2 then [info.file.path] else [])
      store (identifyEpisode env library seriesId store cache info).1.1 := by
  have seasoned : Wrote library [] store (cachedSeason store cache seriesId info.season library).1.1 :=
    cached_season_wrote store cache seriesId info.season
  unfold identifyEpisode
  simp only
  split
  · rename_i held
    split
    · exact seasoned.trans (update_media_file_wrote held)
    · exact seasoned
  · rename_i absent
    have absent : existing (cachedSeason store cache seriesId info.season library).1.1 info.file.path = false := by
      simpa using absent
    split
    · exact seasoned.trans (create_episode_wrote env absent seriesId _)
    · exact seasoned

/-- The episodes of a group that are written. -/
def reached (library seriesId : Id) : Store → List (UInt32 × Id) → List (EpisodeInfo Probe) → List Path
  | _, _, [] => []
  | store, cache, info :: rest =>
    let outcome := identifyEpisode env library seriesId store cache info
    if outcome.2 then info.file.path :: reached library seriesId outcome.1.1 outcome.1.2 rest else []

theorem identify_episodes_wrote (seriesId : Id) (infos : List (EpisodeInfo Probe)) (store : Store)
    (cache : List (UInt32 × Id)) :
    Wrote library (reached env library seriesId store cache infos) store
      (identifyEpisodes env library seriesId store cache infos) := by
  induction infos generalizing store cache with
  | nil => exact Wrote.refl rfl fun id item found => ⟨item, found, rfl⟩
  | cons info _ ih =>
    have first : Wrote library _ store (identifyEpisode env library seriesId store cache info).1.1 :=
      identify_episode_wrote env seriesId store cache info
    unfold reached identifyEpisodes
    simp only
    by_cases fine : (identifyEpisode env library seriesId store cache info).2 = true
    · rw [if_pos fine] at first ⊢
      rw [if_pos fine]
      exact first.trans (ih _ _)
    · rw [if_neg fine] at first ⊢
      rw [if_neg fine]
      exact first

/-- The files of the groups that are written, group after group. -/
def reachedSeries (library : Id) : Store → List (SeriesKey × List (EpisodeInfo Probe)) → List Path
  | _, [] => []
  | store, group :: rest =>
    let found := ensureSeries store library group.1.title
    reached env library found.2 found.1 [] group.2 ++
      reachedSeries library (identifyAndCreateSeries env library store group) rest

theorem identify_series_wrote (groups : List (SeriesKey × List (EpisodeInfo Probe))) (store : Store) :
    Wrote library (reachedSeries env library store groups) store
      (groups.foldl (identifyAndCreateSeries env library) store) := by
  induction groups generalizing store with
  | nil => exact Wrote.refl rfl fun id item found => ⟨item, found, rfl⟩
  | cons group _ ih =>
    have found : Wrote library [] store (ensureSeries store library group.1.title).1 :=
      ensure_series_wrote store group.1.title
    exact (found.trans (identify_episodes_wrote env _ group.2 _ [])).trans (ih _)

theorem identify_movies_wrote (scanPath : Path) (probed : List (DiscoveredFile × Probe)) (store : Store) :
    Wrote library (probed.flatMap (moviePaths env)) store
      (probed.foldl (identifyAndCreateMovie env library scanPath) store) := by
  induction probed generalizing store with
  | nil => exact Wrote.refl rfl fun id item found => ⟨item, found, rfl⟩
  | cons first _ ih =>
    rw [List.flatMap_cons]
    exact (identify_movie_wrote env scanPath store first).trans (ih _)

/-- The paths of the probed files that identification writes, read off the store before. -/
def identified (library : Id) (mediaType : MediaType) (scanPath : Path) (store : Store)
    (probed : List (DiscoveredFile × Probe)) : List Path :=
  match mediaType with
  | .movies => probed.flatMap (moviePaths env)
  | .tvshows => reachedSeries env library store (env.arrange (groupEpisodesBySeries env scanPath probed))

theorem phase4_identify_wrote (scanPath : Path) (store : Store) (probed : List (DiscoveredFile × Probe)) :
    Wrote library (identified env library mediaType scanPath store probed) store
      (phase4Identify env library mediaType scanPath store probed) := by
  cases mediaType with
  | movies => exact identify_movies_wrote env scanPath probed store
  | tvshows => exact identify_series_wrote env _ store

/-! ## Only listed files are written -/

theorem reached_subset (member : path ∈ reached env library seriesId store cache infos) :
    ∃ info ∈ infos, info.file.path = path := by
  induction infos generalizing store cache with
  | nil => cases member
  | cons info _ ih =>
    unfold reached at member
    simp only at member
    split at member
    · rcases List.mem_cons.mp member with rfl | member
      · exact ⟨info, List.mem_cons_self, rfl⟩
      · obtain ⟨other, inside, same⟩ := ih member
        exact ⟨other, List.mem_cons_of_mem _ inside, same⟩
    · cases member

theorem reached_series_subset (member : path ∈ reachedSeries env library store groups) :
    ∃ group ∈ groups, ∃ info ∈ group.2, info.file.path = path := by
  induction groups generalizing store with
  | nil => cases member
  | cons group _ ih =>
    unfold reachedSeries at member
    rcases List.mem_append.mp member with member | member
    · exact ⟨group, List.mem_cons_self, reached_subset env member⟩
    · obtain ⟨other, inside, found⟩ := ih member
      exact ⟨other, List.mem_cons_of_mem _ inside, found⟩

theorem join_group_members (member : group ∈ joinGroup key info groups) (inside : one ∈ group.2) :
    one = info ∨ ∃ old ∈ groups, one ∈ old.2 := by
  induction groups with
  | nil =>
    cases List.mem_singleton.mp member
    exact Or.inl (List.mem_singleton.mp inside)
  | cons first _ ih =>
    unfold joinGroup at member
    split at member
    · rcases List.mem_cons.mp member with rfl | member
      · rcases List.mem_append.mp inside with inside | inside
        · exact Or.inr ⟨first, List.mem_cons_self, inside⟩
        · exact Or.inl (List.mem_singleton.mp inside)
      · exact Or.inr ⟨group, List.mem_cons_of_mem _ member, inside⟩
    · rcases List.mem_cons.mp member with rfl | member
      · exact Or.inr ⟨first, List.mem_cons_self, inside⟩
      · rcases ih member with same | ⟨old, held, inside⟩
        · exact Or.inl same
        · exact Or.inr ⟨old, List.mem_cons_of_mem _ held, inside⟩

theorem group_episodes_append (scanPath : Path) (front : List (DiscoveredFile × Probe)) (last : DiscoveredFile × Probe) :
    groupEpisodesBySeries env scanPath (front ++ [last]) =
      match env.numbers scanPath last.1.path with
      | none => groupEpisodesBySeries env scanPath front
      | some (season, episode) =>
        joinGroup (env.series scanPath last.1.path) ⟨last.1, last.2, season, episode⟩
          (groupEpisodesBySeries env scanPath front) := by
  unfold groupEpisodesBySeries
  rw [List.foldl_append]
  rfl

theorem group_episodes_members {scanPath : Path} (member : group ∈ groupEpisodesBySeries env scanPath probed)
    (inside : info ∈ group.2) : ∃ entry ∈ probed, entry.1 = info.file := by
  induction probed using List.reverseRecOn generalizing group with
  | nil => cases member
  | append_singleton front last ih =>
    rw [group_episodes_append] at member
    have earlier : ∀ old ∈ groupEpisodesBySeries env scanPath front, info ∈ old.2 →
        ∃ entry ∈ front ++ [last], entry.1 = info.file := by
      intro old held inside
      obtain ⟨entry, found, same⟩ := ih held inside
      exact ⟨entry, List.mem_append_left _ found, same⟩
    split at member
    · exact earlier group member inside
    · rcases join_group_members member inside with rfl | ⟨old, held, inside⟩
      · exact ⟨last, by simp, rfl⟩
      · exact earlier old held inside

theorem identified_subset {path scanPath : Path}
    (member : path ∈ identified env library mediaType scanPath store probed) :
    ∃ entry ∈ probed, entry.1.path = path := by
  cases mediaType with
  | movies =>
    obtain ⟨entry, inside, written⟩ := List.mem_flatMap.mp member
    unfold moviePaths at written
    split at written
    · exact ⟨entry, inside, (List.mem_singleton.mp written).symm⟩
    · cases written
  | tvshows =>
    obtain ⟨group, held, info, inside, same⟩ := reached_series_subset env member
    have held := (env.arranged _).subset held
    obtain ⟨entry, found, file⟩ := group_episodes_members env held inside
    exact ⟨entry, found, by rw [file, same]⟩

/-- The files a path lists. -/
def listed (path : Path) : List Path := (env.discover path).map DiscoveredFile.path

/-- The files that are written when a path is scanned, read off the store before. -/
def written (library : Id) (mediaType : MediaType) (full : Bool) (store : Store) (path : Path) : List Path :=
  identified env library mediaType path store
    (phase3Probe env path (filesToProbe (phase2Diff store library (env.discover path) full)))

/-- A video file is probed when no row has it, or when it differs from its row. -/
def needsProbe (known : List MediaFile) (full : Bool) (file : DiscoveredFile) : Bool :=
  isMediaVideoFile file.path && (previous known file.path).all (changed full file)

theorem diff_file_probes (known : List MediaFile) (full : Bool) (start : DiffResult) (first file : DiscoveredFile) :
    file ∈ filesToProbe (diffFile known full start first) ↔
      file ∈ filesToProbe start ∨ (file = first ∧ needsProbe known full first = true) := by
  unfold diffFile filesToProbe needsProbe
  by_cases video : isMediaVideoFile first.path = true
  · cases found : previous known first.path with
    | none =>
      simp only [video, if_true, List.mem_append, List.mem_singleton, Option.all_none, Bool.and_self, and_true]
      tauto
    | some row =>
      by_cases differs : changed full first row = true
      · simp only [video, differs, if_true, List.mem_append, List.mem_singleton, Option.all_some, Bool.and_self, and_true]
        tauto
      · simp [video, differs]
  · simp [video]

theorem mem_files_to_probe (known : List MediaFile) (full : Bool) (discovered : List DiscoveredFile)
    (file : DiscoveredFile) :
    file ∈ filesToProbe (diff known discovered full) ↔ file ∈ discovered ∧ needsProbe known full file = true := by
  have folded (start : DiffResult) : file ∈ filesToProbe (discovered.foldl (diffFile known full) start) ↔
      file ∈ filesToProbe start ∨ (file ∈ discovered ∧ needsProbe known full file = true) := by
    induction discovered generalizing start with
    | nil => simp
    | cons _ _ ih =>
      rw [List.foldl_cons, ih, diff_file_probes, List.mem_cons]
      constructor
      · rintro ((before | ⟨rfl, needed⟩) | ⟨inside, needed⟩)
        · exact Or.inl before
        · exact Or.inr ⟨Or.inl rfl, needed⟩
        · exact Or.inr ⟨Or.inr inside, needed⟩
      · rintro (before | ⟨rfl | inside, needed⟩)
        · exact Or.inl (Or.inl before)
        · exact Or.inl (Or.inr ⟨rfl, needed⟩)
        · exact Or.inr ⟨inside, needed⟩
  have empty : file ∉ filesToProbe ⟨[], [], 0, []⟩ := by simp [filesToProbe]
  have all := folded ⟨[], [], 0, []⟩
  simp only [empty, false_or] at all
  exact all

theorem mem_phase3_probe :
    entry ∈ phase3Probe env path files ↔ entry.1 ∈ files ∧ isMediaVideoFile entry.1.path = true ∧
      env.probe path entry.1.path = some entry.2 := by
  unfold phase3Probe
  rw [List.mem_filterMap]
  constructor
  · rintro ⟨file, member, same⟩
    obtain ⟨probe, found, rfl⟩ := Option.map_eq_some_iff.mp same
    obtain ⟨inside, video⟩ := List.mem_filter.mp member
    exact ⟨inside, video, found⟩
  · rintro ⟨inside, video, found⟩
    exact ⟨entry.1, List.mem_filter.mpr ⟨inside, video⟩, Option.map_eq_some_iff.mpr ⟨entry.2, found, rfl⟩⟩

theorem written_listed (member : file ∈ written env library mediaType full store path) :
    file ∈ listed env path := by
  obtain ⟨entry, probed, rfl⟩ := identified_subset env member
  obtain ⟨chosen, -, -⟩ := (mem_phase3_probe env).mp probed
  exact List.mem_map_of_mem ((mem_files_to_probe _ _ _ _).mp chosen).1

/-! ## One path -/

/-- A row behind the clean-up. -/
def cleaned (deleted : List Path) (row : MediaFile) : MediaFile :=
  { row with isHealthy := row.isHealthy && !decide (row.filePath ∈ deleted) }

theorem phase6_cleanup_find (deleted : List Path) (store : Store) (id : Id) :
    (phase6Cleanup store deleted).files.find id = (store.files.find id).map (cleaned deleted) := by
  induction deleted generalizing store with
  | nil =>
    cases found : store.files.find id with
    | none => exact found
    | some row =>
      have same : (phase6Cleanup store []).files.find id = some row := found
      rw [same]
      simp [cleaned]
  | cons path rest ih =>
    have first : phase6Cleanup store (path :: rest) =
        phase6Cleanup (amendFiles store (unhealthy path) (unhealthy_item path)) rest := rfl
    have amended : (amendFiles store (unhealthy path) (unhealthy_item path)).files.find id =
        (store.files.find id).map (unhealthy path) := Table.find_amend _ _ _
    rw [first, ih, amended, Option.map_map]
    congr 1
    funext row
    unfold unhealthy cleaned
    simp only [Function.comp_apply]
    by_cases same : row.filePath = path
    · simp [same]
    · simp [same]

theorem phase6_cleanup_items (deleted : List Path) (store : Store) :
    (phase6Cleanup store deleted).items = store.items := by
  induction deleted generalizing store with
  | nil => rfl
  | cons _ _ ih => exact ih _

/-- A row of the library is deleted when its file is not listed. -/
theorem deleted_iff (path : Path) (full : Bool) (found : store.files.find id = some row)
    (inside : inLibrary store library row = true) :
    row.filePath ∈ (phase2Diff store library (env.discover path) full).deletedPaths ↔
      row.filePath ∉ listed env path := by
  have known : row ∈ knownFiles store library :=
    List.mem_filter.mpr ⟨Table.mem_records.mpr ⟨id, found⟩, inside⟩
  have paths : row.filePath ∈ (knownFiles store library).map MediaFile.filePath := List.mem_map_of_mem known
  unfold phase2Diff diff listed
  simp only [List.mem_filter, List.mem_dedup, decide_eq_true_eq]
  exact ⟨fun both => both.2, fun missing => ⟨paths, missing⟩⟩

/-- What scanning a path does to the rows of a library. -/
structure Scanned (library : Id) (listing marked : List Path) (before after : Store) : Prop where
  kept : ∀ id row, before.files.find id = some row → ∃ row', after.files.find id = some row' ∧
    row'.filePath = row.filePath ∧ inLibrary after library row' = inLibrary before library row ∧
    (inLibrary before library row = true → row'.isHealthy =
      (decide (row.filePath ∈ listing) && (row.isHealthy || decide (row.filePath ∈ marked))))
  fresh : ∀ id row, before.files.find id = none → after.files.find id = some row →
    row.filePath ∈ marked ∧ row.isHealthy = true ∧ inLibrary after library row = true ∧
    existing before row.filePath = false
  inserted : ∀ path ∈ marked, existing after path = true
  within : ∀ path ∈ marked, path ∈ listing

theorem enrich_wrote (store : Store) : Wrote library [] store (env.enrich library store) := by
  refine Wrote.refl (env.enrichFiles library store) fun id item found => ?_
  have same := env.enrichItems library store id
  rw [found] at same
  obtain ⟨item', held, library'⟩ := Option.map_eq_some_iff.mp same
  exact ⟨item', held, library'⟩

/-- The store before the clean-up. -/
theorem enriched_wrote (path : Path) (store : Store) :
    Wrote library (written env library mediaType full store path) store
      (env.enrich library (phase4Identify env library mediaType path store
        (phase3Probe env path (filesToProbe (phase2Diff store library (env.discover path) full))))) := by
  have first : Wrote library (written env library mediaType full store path) store _ :=
    phase4_identify_wrote env path store _
  have both := first.trans (enrich_wrote env _)
  rw [List.append_nil] at both
  exact both

theorem scan_path_scanned (present : env.existsPath path = true) (store : Store) :
    Scanned library (listed env path) (written env library mediaType full store path) store
      (scanPath env library mediaType full store path) := by
  have wrote : Wrote library (written env library mediaType full store path) store _ :=
    enriched_wrote env path store
  rw [scanPath, if_pos present]
  unfold scanPathPipeline
  constructor
  · intro id row found
    obtain ⟨row', found', item', path', health'⟩ := wrote.kept id row found
    have library' := wrote.library_kept library found item'
    have found' := congrArg (Option.map (cleaned (phase2Diff store library (env.discover path) full).deletedPaths)) found'
    rw [← phase6_cleanup_find] at found'
    refine ⟨_, found', path', ?_, fun inside => ?_⟩
    · unfold inLibrary
      rw [phase6_cleanup_items]
      exact library'
    · have cleared := deleted_iff env path full found inside
      simp only [cleaned, health', path']
      by_cases here : row.filePath ∈ listed env path
      · have stays : row.filePath ∉ (phase2Diff store library (env.discover path) full).deletedPaths :=
          fun gone => cleared.mp gone here
        simp [here, stays]
      · simp [here, cleared.mpr here]
  · intro id row absent found
    rw [phase6_cleanup_find] at found
    obtain ⟨row', found', rfl⟩ := Option.map_eq_some_iff.mp found
    obtain ⟨member, healthy, inside, unheld⟩ := wrote.fresh id row' absent found'
    have stays : row'.filePath ∉ (phase2Diff store library (env.discover path) full).deletedPaths := by
      intro gone
      have missing := (List.mem_filter.mp gone).2
      simp only [decide_eq_true_eq] at missing
      exact missing (written_listed env member)
    refine ⟨member, by simp [cleaned, healthy, stays], ?_, unheld⟩
    unfold inLibrary
    rw [phase6_cleanup_items]
    exact inside
  · intro file member
    obtain ⟨id, row, found, same⟩ := existing_iff.mp (wrote.inserted file member)
    have found := congrArg (Option.map (cleaned (phase2Diff store library (env.discover path) full).deletedPaths)) found
    rw [← phase6_cleanup_find] at found
    exact existing_iff.mpr ⟨id, _, found, same⟩
  · intro file member
    exact written_listed env member

/-! ## The paths of a library -/

/-- The store after the scans of some paths. -/
def scanPaths (library : Id) (mediaType : MediaType) (full : Bool) (store : Store) (paths : List Path) : Store :=
  paths.foldl (scanPath env library mediaType full) store

theorem scan_paths_append (front : List Path) (path : Path) :
    scanPaths env library mediaType full store (front ++ [path]) =
      scanPath env library mediaType full (scanPaths env library mediaType full store front) path := by
  unfold scanPaths
  rw [List.foldl_append]
  rfl

/-- The file is found under one of the paths. -/
def Discovered (paths : List Path) (file : Path) : Prop := ∃ path ∈ paths, file ∈ listed env path

/-- Exactly the rows whose files were found are healthy. -/
def HealthAsListed (library : Id) (paths : List Path) (store : Store) : Prop :=
  ∀ id row, store.files.find id = some row → inLibrary store library row = true →
    (row.isHealthy = true ↔ Discovered env paths row.filePath)

/-- Scanning a path leaves the health of files alone that only other paths have. -/
def PathsApart (library : Id) (mediaType : MediaType) (full : Bool) (store : Store) (paths : List Path) : Prop :=
  ∀ earlier path later, paths = earlier ++ path :: later → ∀ id row row',
    (scanPaths env library mediaType full store earlier).files.find id = some row →
    inLibrary (scanPaths env library mediaType full store earlier) library row = true →
    row.filePath ∉ listed env path → Discovered env paths row.filePath →
    (scanPath env library mediaType full (scanPaths env library mediaType full store earlier) path).files.find id =
      some row' → row'.isHealthy = row.isHealthy

/-- The library has a row of the file, or nobody has. -/
def Claimable (library : Id) (store : Store) (file : Path) : Prop :=
  (∃ id row, store.files.find id = some row ∧ inLibrary store library row = true ∧ row.filePath = file) ∨
    existing store file = false

/-- A file is written while one of the paths is scanned. -/
def WrittenUnder (library : Id) (mediaType : MediaType) (full : Bool) (store : Store) (paths : List Path)
    (file : Path) : Prop :=
  ∃ earlier path later, paths = earlier ++ path :: later ∧
    file ∈ written env library mediaType full (scanPaths env library mediaType full store earlier) path

/-- No row that is healthy or written meets a path without its file, and every row of a file
that is found was healthy or is written. -/
structure Unharmed (library : Id) (mediaType : MediaType) (full : Bool) (store : Store) (paths : List Path) :
    Prop where
  /-- Without a path nothing is marked. -/
  scans : paths = [] → ∀ id row, store.files.find id = some row → inLibrary store library row = true →
    row.isHealthy = false
  whole : ∀ id row, store.files.find id = some row → inLibrary store library row = true →
    Discovered env paths row.filePath → row.isHealthy = true → ∀ path ∈ paths, row.filePath ∈ listed env path
  marked : ∀ id row, store.files.find id = some row → inLibrary store library row = true →
    Discovered env paths row.filePath → row.isHealthy = true ∨
      WrittenUnder env library mediaType full store paths row.filePath
  onward : ∀ earlier path later, paths = earlier ++ path :: later →
    ∀ file ∈ written env library mediaType full (scanPaths env library mediaType full store earlier) path,
      Claimable library (scanPaths env library mediaType full store earlier) file →
      ∀ behind ∈ later, file ∈ listed env behind

section
variable {listing marked : List Path} (scanned : Scanned library listing marked before after)
include scanned

theorem Scanned.existing_kept (held : existing before file = true) : existing after file = true := by
  obtain ⟨id, row, found, same⟩ := existing_iff.mp held
  obtain ⟨row', found', path', -⟩ := scanned.kept id row found
  exact existing_iff.mpr ⟨id, row', found', path'.trans same⟩

/-- A row of the library comes from the store before or was inserted. -/
theorem Scanned.origin (found : after.files.find id = some row') (inside : inLibrary after library row' = true) :
    (∃ row, before.files.find id = some row ∧ inLibrary before library row = true ∧
      row'.filePath = row.filePath ∧ row'.isHealthy =
        (decide (row.filePath ∈ listing) && (row.isHealthy || decide (row.filePath ∈ marked)))) ∨
    (before.files.find id = none ∧ row'.filePath ∈ marked ∧ row'.isHealthy = true ∧
      existing before row'.filePath = false) := by
  cases held : before.files.find id with
  | none =>
    obtain ⟨member, healthy, -, unheld⟩ := scanned.fresh id row' held found
    exact Or.inr ⟨rfl, member, healthy, unheld⟩
  | some row =>
    obtain ⟨new, found', path', library', health'⟩ := scanned.kept id row held
    cases found'.symm.trans found
    rw [inside] at library'
    exact Or.inl ⟨row, rfl, library'.symm, path', health' library'.symm⟩

/-- What the library can have later it could have before. -/
theorem Scanned.claimable (later : Claimable library after file) : Claimable library before file := by
  rcases later with ⟨id, row', found, inside, rfl⟩ | unheld
  · rcases scanned.origin found inside with ⟨row, held, inside, path', -⟩ | ⟨-, -, -, unheld⟩
    · exact Or.inl ⟨id, row, held, inside, path'.symm⟩
    · exact Or.inr unheld
  · right
    cases held : existing before file with
    | false => rfl
    | true => cases unheld.symm.trans (scanned.existing_kept held)

theorem Scanned.written_healthy (member : file ∈ marked) (mine : Claimable library before file) :
    ∃ id row, after.files.find id = some row ∧ inLibrary after library row = true ∧ row.filePath = file ∧
      row.isHealthy = true := by
  rcases mine with ⟨id, row, found, inside, rfl⟩ | unheld
  · obtain ⟨row', found', path', library', health'⟩ := scanned.kept id row found
    refine ⟨id, row', found', library'.trans inside, path', ?_⟩
    rw [health' inside]
    simp [member, scanned.within _ member]
  · obtain ⟨id, row, found, rfl⟩ := existing_iff.mp (scanned.inserted file member)
    cases held : before.files.find id with
    | none =>
      obtain ⟨-, healthy, inside, -⟩ := scanned.fresh id row held found
      exact ⟨id, row, found, inside, rfl, healthy⟩
    | some old =>
      obtain ⟨row', found', path', -⟩ := scanned.kept id old held
      cases found'.symm.trans found
      cases unheld.symm.trans (existing_iff.mpr ⟨id, old, held, path'.symm⟩)

end

section
variable {env} (present : ∀ path ∈ paths, env.existsPath path = true) {earlier later : List Path}
include present

theorem scanned_at (split : paths = earlier ++ path :: later) :
    Scanned library (listed env path)
      (written env library mediaType full (scanPaths env library mediaType full store earlier) path)
      (scanPaths env library mediaType full store earlier)
      (scanPaths env library mediaType full store (earlier ++ [path])) := by
  rw [scan_paths_append]
  apply scan_path_scanned
  apply present
  simp [split]

theorem claimable_before {middle : List Path} (split : paths = (earlier ++ middle) ++ later)
    (mine : Claimable library (scanPaths env library mediaType full store (earlier ++ middle)) file) :
    Claimable library (scanPaths env library mediaType full store earlier) file := by
  induction middle using List.reverseRecOn generalizing later with
  | nil => simpa using mine
  | append_singleton front last ih =>
    have split' : paths = (earlier ++ front) ++ last :: later := by simpa using split
    rw [← List.append_assoc] at mine
    exact ih split' ((scanned_at present split').claimable mine)

/-- Rows stay, and stay in their library. -/
theorem row_kept (split : paths = earlier ++ later) (found : store.files.find id = some row) :
    ∃ row', (scanPaths env library mediaType full store earlier).files.find id = some row' ∧
      inLibrary (scanPaths env library mediaType full store earlier) library row' =
        inLibrary store library row ∧
      row'.filePath = row.filePath := by
  induction earlier using List.reverseRecOn generalizing later with
  | nil => exact ⟨row, found, rfl, rfl⟩
  | append_singleton front last ih =>
    have split' : paths = front ++ last :: later := by simpa using split
    obtain ⟨row', found', inside', path'⟩ := ih split'
    obtain ⟨row'', found'', path'', library'', -⟩ := (scanned_at present split').kept id row' found'
    exact ⟨row'', found'', library''.trans inside', path''.trans path'⟩

omit present in
theorem WrittenUnder.append (under : WrittenUnder env library mediaType full store earlier file)
    (more : List Path) : WrittenUnder env library mediaType full store (earlier ++ more) file := by
  obtain ⟨front, path, back, rfl, member⟩ := under
  exact ⟨front, path, back ++ more, by simp, member⟩

omit present in
theorem WrittenUnder.last
    (member : file ∈ written env library mediaType full (scanPaths env library mediaType full store earlier) path) :
    WrittenUnder env library mediaType full store (earlier ++ [path]) file :=
  ⟨earlier, path, [], rfl, member⟩

/-- A row was there before the scan or was inserted, and health comes from before the scan or
from writing. -/
theorem row_origin (split : paths = earlier ++ later)
    (found : (scanPaths env library mediaType full store earlier).files.find id = some row)
    (inside : inLibrary (scanPaths env library mediaType full store earlier) library row = true) :
    (∃ old, store.files.find id = some old ∧ inLibrary store library old = true ∧ old.filePath = row.filePath ∧
      (row.isHealthy = true → old.isHealthy = true ∨
        WrittenUnder env library mediaType full store earlier row.filePath)) ∨
    (store.files.find id = none ∧ WrittenUnder env library mediaType full store earlier row.filePath) := by
  induction earlier using List.reverseRecOn generalizing row later with
  | nil => exact Or.inl ⟨row, found, inside, rfl, Or.inl⟩
  | append_singleton front last ih =>
    have split' : paths = front ++ last :: later := by simpa using split
    rcases (scanned_at present split').origin found inside with
      ⟨middle, held, inside', path', health'⟩ | ⟨absent, member, _, _⟩
    · rcases ih split' held inside' with ⟨old, first, inside'', path'', source⟩ | ⟨none, under⟩
      · refine Or.inl ⟨old, first, inside'', path''.trans path'.symm, fun healthy => ?_⟩
        rw [healthy] at health'
        have now : middle.filePath ∈ listed env last ∧ (middle.isHealthy = true ∨ middle.filePath ∈ written env
            library mediaType full (scanPaths env library mediaType full store front) last) := by
          simpa using health'.symm
        rw [path']
        rcases now.2 with before | member
        · exact (source before).imp_right fun under => under.append [last]
        · exact Or.inr (WrittenUnder.last member)
      · rw [path']
        exact Or.inr ⟨none, under.append [last]⟩
    · cases first : store.files.find id with
      | none => exact Or.inr ⟨rfl, WrittenUnder.last member⟩
      | some =>
        obtain ⟨row', found', -⟩ : ∃ row',
          (scanPaths env library mediaType full store front).files.find id = some row' ∧ _ ∧ _ :=
            row_kept present split' first
        cases absent.symm.trans found'

/-- Under the condition a file that was written is listed from there on. -/
theorem listed_behind (unharmed : Unharmed env library mediaType full store paths)
    (split : paths = earlier ++ path :: later) (under : WrittenUnder env library mediaType full store earlier file)
    (mine : Claimable library (scanPaths env library mediaType full store earlier) file) :
    file ∈ listed env path := by
  obtain ⟨front, first, back, rfl, member⟩ := under
  have before : Claimable library (scanPaths env library mediaType full store front) file :=
    claimable_before present split mine
  exact unharmed.onward front first (back ++ path :: later) (by simp [split]) file member before path (by simp)

theorem healthy_of_source (unharmed : Unharmed env library mediaType full store paths)
    (split : paths = earlier ++ later)
    (found : (scanPaths env library mediaType full store earlier).files.find id = some row)
    (inside : inLibrary (scanPaths env library mediaType full store earlier) library row = true)
    (discovered : Discovered env paths row.filePath)
    (source : (∃ old, store.files.find id = some old ∧ old.isHealthy = true) ∨
      WrittenUnder env library mediaType full store earlier row.filePath) : row.isHealthy = true := by
  induction earlier using List.reverseRecOn generalizing row later with
  | nil =>
    rcases source with ⟨old, first, healthy⟩ | ⟨front, path, back, none, -⟩
    · cases first.symm.trans found
      exact healthy
    · simp at none
  | append_singleton front last ih =>
    have split' : paths = front ++ last :: later := by simpa using split
    have scanned : Scanned library (listed env last)
        (written env library mediaType full (scanPaths env library mediaType full store front) last) _ _ :=
      scanned_at present split'
    rcases scanned.origin found inside with ⟨middle, held, inside', path', health'⟩ | ⟨-, -, healthy, -⟩
    · rw [health']
      rw [path'] at source discovered
      rcases source with ⟨old, first, healthy⟩ | ⟨front', path, back, cut, member⟩
      · -- healthy from the start: every path lists the file
        obtain ⟨row', found', library', same⟩ : ∃ row',
          (scanPaths env library mediaType full store front).files.find id = some row' ∧ _ ∧ _ :=
            row_kept present split' first
        cases found'.symm.trans held
        have mine : inLibrary store library old = true := library'.symm.trans inside'
        have here : middle.filePath ∈ listed env last := by
          rw [same] at discovered ⊢
          exact unharmed.whole id old first mine discovered healthy last (by simp [split'])
        have before := ih split' held inside' discovered (Or.inl ⟨old, first, healthy⟩)
        simp [here, before]
      · rcases List.eq_nil_or_concat back with rfl | ⟨back', x, rfl⟩
        · -- written under this very path
          obtain ⟨rfl, same⟩ := List.append_inj' cut rfl
          cases same
          have here := written_listed env member
          simp [here, member]
        · -- written under an earlier one: this path lists the file
          have cut : front ++ [last] = (front' ++ path :: back') ++ [x] := by simpa using cut
          obtain ⟨rfl, same⟩ := List.append_inj' cut rfl
          cases same
          have under : WrittenUnder env library mediaType full store (front' ++ path :: back') middle.filePath :=
            ⟨front', path, back', rfl, member⟩
          have before := ih split' held inside' discovered (Or.inr under)
          have here := listed_behind present unharmed split' under (Or.inl ⟨id, middle, held, inside', rfl⟩)
          simp [here, before]
    · exact healthy

/-- A healthy row of a file that is found is listed from there on, if the paths are apart. -/
theorem listed_onward (apart : PathsApart env library mediaType full store paths) (split : paths = earlier ++ later)
    (found : (scanPaths env library mediaType full store earlier).files.find id = some row)
    (inside : inLibrary (scanPaths env library mediaType full store earlier) library row = true)
    (discovered : Discovered env paths row.filePath) (healthy : row.isHealthy = true) :
    ∀ path ∈ later, row.filePath ∈ listed env path := by
  induction later generalizing earlier row with
  | nil => simp
  | cons next rest ih =>
    obtain ⟨row', found', path', library', health'⟩ := (scanned_at present split).kept id row found
    have here : row.filePath ∈ listed env next := by
      by_contra missing
      have same := apart earlier next rest split id row row' found inside missing discovered
        (by rw [← scan_paths_append]; exact found')
      rw [health' inside, healthy] at same
      simp [missing] at same
    have still : row'.isHealthy = true := by
      rw [health' inside]
      simp [here, healthy]
    have onward := ih (by simpa using split) found' (library'.trans inside) (by rw [path']; exact discovered) still
    intro path member
    rcases List.mem_cons.mp member with rfl | member
    · exact here
    · rw [← path']
      exact onward path member

theorem unharmed_of_lawful (asListed : HealthAsListed env library paths (scanPaths env library mediaType full store paths))
    (apart : PathsApart env library mediaType full store paths) :
    Unharmed env library mediaType full store paths := by
  have whole : paths = paths ++ [] := (List.append_nil paths).symm
  constructor
  · rintro rfl id row found inside
    cases healthy : row.isHealthy with
    | false => rfl
    | true =>
      obtain ⟨path, member, -⟩ := (asListed id row found inside).mp healthy
      cases member
  · intro id row found inside discovered healthy
    have begins : paths = [] ++ paths := rfl
    exact listed_onward present apart begins found inside discovered healthy
  · intro id row found inside discovered
    obtain ⟨row', found', library', path'⟩ : ∃ row',
      (scanPaths env library mediaType full store paths).files.find id = some row' ∧ _ ∧ _ :=
        row_kept present whole found
    have inside' := library'.trans inside
    have healthy : row'.isHealthy = true := (asListed id row' found' inside').mpr (by rw [path']; exact discovered)
    rcases row_origin present whole found' inside' with ⟨old, first, -, -, source⟩ | ⟨none, _⟩
    · cases first.symm.trans found
      rw [← path']
      exact source healthy
    · cases none.symm.trans found
  · intro earlier path later split file member mine
    have scanned : Scanned library (listed env path)
        (written env library mediaType full (scanPaths env library mediaType full store earlier) path) _ _ :=
      scanned_at present split
    obtain ⟨id, row, found, inside, rfl, healthy⟩ := scanned.written_healthy member mine
    have discovered : Discovered env paths row.filePath := ⟨path, by simp [split], written_listed env member⟩
    exact listed_onward present apart (by simpa using split) found inside discovered healthy

theorem apart_of_unharmed (unharmed : Unharmed env library mediaType full store paths) :
    PathsApart env library mediaType full store paths := by
  intro earlier path later split id row row' found inside missing discovered found'
  rw [← scan_paths_append] at found'
  obtain ⟨new, held, -, -, health⟩ := (scanned_at present split).kept id row found
  cases held.symm.trans found'
  rw [health inside]
  -- such a row cannot be healthy: it would have to be listed here
  cases healthy : row.isHealthy with
  | false =>
    simp [missing]
  | true =>
    exfalso
    have mine : Claimable library (scanPaths env library mediaType full store earlier) row.filePath :=
      Or.inl ⟨id, row, found, inside, rfl⟩
    rcases row_origin present split found inside with ⟨old, first, inside', same, source⟩ | ⟨-, under⟩
    · rcases source healthy with before | under
      · rw [← same] at missing discovered
        exact missing (unharmed.whole id old first inside' discovered before path (by simp [split]))
      · exact missing (listed_behind present unharmed split under mine)
    · exact missing (listed_behind present unharmed split under mine)

/-- Behind any path the rows of files that no path has are not healthy. -/
theorem undiscovered_unhealthy (split : paths = earlier ++ path :: later)
    (found : (scanPaths env library mediaType full store (earlier ++ [path])).files.find id = some row)
    (inside : inLibrary (scanPaths env library mediaType full store (earlier ++ [path])) library row = true)
    (nowhere : ¬ Discovered env paths row.filePath) : row.isHealthy = false := by
  have missing : row.filePath ∉ listed env path := fun here => nowhere ⟨path, by simp [split], here⟩
  rcases (scanned_at present split).origin found inside with ⟨old, -, -, same, health⟩ | ⟨-, member, -, -⟩
  · rw [same] at missing
    rw [health]
    simp [missing]
  · exact absurd (written_listed env member) missing

theorem lawful_of_unharmed (unharmed : Unharmed env library mediaType full store paths) :
    HealthAsListed env library paths (scanPaths env library mediaType full store paths) := by
  have whole : paths = paths ++ [] := (List.append_nil paths).symm
  intro id row found inside
  constructor
  · intro healthy
    by_contra nowhere
    rcases List.eq_nil_or_concat paths with rfl | ⟨front, last, split⟩
    · have never := unharmed.scans rfl id row found inside
      cases never.symm.trans healthy
    · have split : paths = front ++ [last] := by simpa using split
      have found : (scanPaths env library mediaType full store (front ++ [last])).files.find id = some row := by
        rw [← split]
        exact found
      have inside : inLibrary (scanPaths env library mediaType full store (front ++ [last])) library row = true := by
        rw [← split]
        exact inside
      have never := undiscovered_unhealthy present split found inside nowhere
      cases never.symm.trans healthy
  · intro discovered
    apply healthy_of_source present unharmed whole found inside discovered
    rcases row_origin present whole found inside with ⟨old, first, inside', same, -⟩ | ⟨-, under⟩
    · rw [← same] at discovered ⊢
      exact (unharmed.marked id old first inside' discovered).imp_left fun healthy => ⟨old, first, healthy⟩
    · exact Or.inr under

end

/-! ## A scan of the library -/

theorem scan_library_store (found : loadLibrary store libraryId = some row) :
    (scanLibrary env libraryId full store).1 =
      scanPaths env libraryId row.mediaType full store (loadScanPaths store libraryId) := by
  have folded (paths : List Path) (state : Store × List ScanResult) :
      (paths.foldl (fun (state : Store × List ScanResult) path =>
        (scanPath env libraryId row.mediaType full state.1 path,
          if env.existsPath path then
            state.2 ++ [(scanPathPipeline env libraryId row.mediaType full state.1 path).2]
          else state.2)) state).1 = scanPaths env libraryId row.mediaType full state.1 paths := by
    induction paths generalizing state with
    | nil => rfl
    | cons _ _ ih => exact ih _
  unfold scanLibrary
  rw [found]
  simp only
  cases paths : loadScanPaths store libraryId with
  | nil => rfl
  | cons path rest => exact folded (path :: rest) (store, [])

/-- A scan of paths that all exist leaves exactly the rows of found files healthy, and no path
touches the health of a file that only others have, if and only if no healthy or written row
meets a path without its file, and the rows of found files were healthy or are written. -/
theorem scan_library_health_iff (libraryId : Id) (full : Bool) (store : Store) (row : Library)
    (found : loadLibrary store libraryId = some row)
    (present : ∀ path ∈ loadScanPaths store libraryId, env.existsPath path = true) :
    (HealthAsListed env libraryId (loadScanPaths store libraryId) (scanLibrary env libraryId full store).1 ∧
      PathsApart env libraryId row.mediaType full store (loadScanPaths store libraryId)) ↔
    Unharmed env libraryId row.mediaType full store (loadScanPaths store libraryId) := by
  rw [scan_library_store env found]
  constructor
  · rintro ⟨asListed, apart⟩
    exact unharmed_of_lawful present asListed apart
  · intro unharmed
    exact ⟨lawful_of_unharmed present unharmed, apart_of_unharmed present unharmed⟩

/-! ## A film and two paths -/

def filmFile : DiscoveredFile := ⟨"/a/Heat/heat.mkv".toList, 10, some 1000⟩

/-- The film lies under the first path, the second one is empty. -/
def disks : Surroundings Unit where
  existsPath _ := true
  discover path := if path = "/a".toList then [filmFile] else []
  probe _ _ := some ()
  accepts _ := true
  title _ _ := "Heat".toList
  series _ _ := ⟨[], []⟩
  numbers _ _ := none
  episodeTitle _ := []
  arrange groups := groups
  arranged groups := List.Perm.refl groups
  enrich _ store := store
  enrichFiles _ _ := rfl
  enrichItems _ _ _ := rfl

/-- A library of films with the given paths and the film as its one row. -/
def shelf (paths : List String) : Store :=
  let empty : Store :=
    { libraries := Table.empty.put 1 ⟨.movies, false⟩
      libraryPaths := paths.map fun path => ⟨1, path.toList, true⟩
      items := Table.empty
      series := []
      seasons := Table.empty
      episodes := Table.empty
      files := Table.empty
      referenced := by
        intro id file found
        cases found }
  insertMediaFile (insertItem empty ⟨1, .movie, "Heat".toList⟩) 1 filmFile

theorem shelf_healthy {paths : List String}
    (found : (shelf paths).files.find id = some row) : row.isHealthy = true := by
  have files : (shelf paths).files = Table.empty.put 1
      ⟨1, filmFile.path, boundSize filmFile.size, filmFile.mtime.map boundMicros, true⟩ := rfl
  rw [files, Table.find_put] at found
  split at found
  · cases found
    rfl
  · cases found

/-- With the first path alone the film stays healthy. -/
theorem one_path_health :
    HealthAsListed disks 1 ["/a".toList] (scanLibrary disks 1 false (shelf ["/a"])).1 ∧
      PathsApart disks 1 .movies false (shelf ["/a"]) ["/a".toList] := by
  refine (scan_library_health_iff disks 1 false (shelf ["/a"]) ⟨.movies, false⟩ rfl fun _ _ => rfl).mpr ?_
  have paths : loadScanPaths (shelf ["/a"]) 1 = ["/a".toList] := rfl
  rw [paths]
  constructor
  · intro none
    cases none
  · rintro id row found inside ⟨path, member, here⟩ healthy other member'
    rw [List.mem_singleton.mp member', ← List.mem_singleton.mp member]
    exact here
  · intro id row found inside discovered
    exact Or.inl (shelf_healthy found)
  · intro earlier path later split file member mine behind member'
    have lengths := congrArg List.length split
    simp only [List.length_append, List.length_cons, List.length_nil] at lengths
    have none : later = [] := List.length_eq_zero_iff.mp (by omega)
    rw [none] at member'
    cases member'

/-- The second path clears the health of the film that the first path has just listed. -/
theorem other_path_clears_health :
    loadLibrary (shelf ["/a", "/b"]) 1 = some ⟨.movies, false⟩ ∧
    loadScanPaths (shelf ["/a", "/b"]) 1 = ["/a".toList, "/b".toList] ∧
    (∀ path, disks.existsPath path = true) ∧ (∀ path file, (disks.probe path file).isSome = true) ∧
    ¬ HealthAsListed disks 1 ["/a".toList, "/b".toList] (scanLibrary disks 1 false (shelf ["/a", "/b"])).1 ∧
    ¬ PathsApart disks 1 .movies false (shelf ["/a", "/b"]) ["/a".toList, "/b".toList] := by
  have discovered : Discovered disks ["/a".toList, "/b".toList] filmFile.path :=
    ⟨"/a".toList, List.mem_cons_self, by decide +kernel⟩
  have cleared : (scanLibrary disks 1 false (shelf ["/a", "/b"])).1.files.find 1 =
      some ⟨1, filmFile.path, 10, some 1, false⟩ := by decide +kernel
  have first : (scanPaths disks 1 .movies false (shelf ["/a", "/b"]) ["/a".toList]).files.find 1 =
      some ⟨1, filmFile.path, 10, some 1, true⟩ := by decide +kernel
  have second : (scanPath disks 1 .movies false
      (scanPaths disks 1 .movies false (shelf ["/a", "/b"]) ["/a".toList]) "/b".toList).files.find 1 =
      some ⟨1, filmFile.path, 10, some 1, false⟩ := by decide +kernel
  refine ⟨rfl, rfl, fun _ => rfl, fun _ _ => rfl, fun asListed => ?_, fun apart => ?_⟩
  · have healthy := (asListed 1 _ cleared (by decide +kernel)).mpr discovered
    cases healthy
  · have same := apart ["/a".toList] "/b".toList [] rfl 1 _ _ first (by decide +kernel) (by decide +kernel) discovered second
    cases same

end Duskcue.Scanner
