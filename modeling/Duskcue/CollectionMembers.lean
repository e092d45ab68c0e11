import Duskcue.CollectionSync
import Duskcue.Trace

/-! What a sync leaves in its collection. It lets the other collections be, and of its own it
changes the members as far as the database takes its statements. -/
namespace Duskcue.Collections
open Statements

variable {ν : Type} {s s' s'' : Catalog ν} {id c x : Uuid}

/-! ## What a sync lets be -/

/-- The row without what a sync writes to it. -/
def Collection.settings (row : Collection ν) : Collection ν :=
  { row with itemCount := 0, totalDurationSeconds := 0, lastSyncResult := none }

theorem settings_synced (row : Collection ν) (itemCount duration : Int) (last : LastSync) :
    (row.synced itemCount duration last).settings = row.settings := rfl

structure Keeps (id : Uuid) (s s' : Catalog ν) : Prop where
  settings : ∀ k, (s'.collections.find k).map Collection.settings = (s.collections.find k).map Collection.settings
  items : ∀ k, k ≠ id → ∀ x, s'.items.find (k, x) = s.items.find (k, x)

theorem Keeps.refl (s : Catalog ν) : Keeps id s s := ⟨fun _ => rfl, fun _ _ _ => rfl⟩

theorem Keeps.trans (first : Keeps id s s') (second : Keeps id s' s'') : Keeps id s s'' where
  settings k := (second.settings k).trans (first.settings k)
  items k other x := (second.items k other x).trans (first.items k other x)

theorem keeps_insertItem (item : CollectionBuilderItem) (s : Catalog ν) : Keeps id s (insertItem id item s) where
  settings _ := rfl
  items _ other _ := Table.find_put_ne fun same => other (congrArg Prod.fst same)

theorem keeps_deleteOthers (items : List CollectionBuilderItem) (s : Catalog ν) : Keeps id s (deleteOthers id items s) := by
  unfold deleteOthers
  split
  all_goals
    refine ⟨fun _ => rfl, fun k other x => ?_⟩
    ext row
    simp [Table.find_discard, other]

theorem keeps_recordSync (itemCount duration : Int) (last : LastSync) (s : Catalog ν) :
    Keeps id s (recordSync id itemCount duration last s) := by
  unfold recordSync
  cases found : s.collections.find id with
  | none => exact .refl s
  | some =>
    refine ⟨fun k => ?_, fun _ _ _ => rfl⟩
    by_cases same : k = id
    · rw [same, Table.find_put_self, found, Option.map_some, Option.map_some, settings_synced]
    · simp only [Table.find_put_ne same]

/-- What every statement of a sync is held to. -/
def Kept (id : Uuid) (_ : Query) (effect : Catalog ν → Except CollectionBuilderError (Catalog ν)) : Prop :=
  ∀ s s', effect s = .ok s' → Keeps id s s'

theorem kept_ok : Kept id label (.ok : Catalog ν → _) := by
  rintro s s' same
  cases same
  exact .refl s

theorem kept_write {f : Catalog ν → Catalog ν} (keeps : ∀ s, Keeps id s (f s)) :
    Kept id label fun s => .ok (f s) := by
  rintro s s' same
  cases same
  exact keeps s

section
variable {α : Type}

theorem each_query (label : Query) (answer : Except CollectionBuilderError α) :
    (query label answer : Request ν α).Each (Kept id) := by
  cases answer with
  | ok => exact ⟨kept_ok, fun _ => trivial⟩
  | error => exact ⟨nofun, fun _ => trivial⟩

theorem each_settle (answer : Except CollectionBuilderError α) : (settle answer : Request ν α).Each (Kept id) := by
  cases answer <;> trivial

end

theorem each_buildCandidates (w : World ν) (libraryId : Option Uuid) (config : BuilderConfig ν) (includeExternal : Bool) :
    (buildCandidates w libraryId config includeExternal).Each (Kept id) := by
  unfold buildCandidates
  split
  any_goals exact each_query _ _
  any_goals split
  any_goals exact each_query _ _
  all_goals trivial

theorem each_insertItems (items : List CollectionBuilderItem) : (insertItems id items : Request ν Unit).Each (Kept id) := by
  induction items with
  | nil => trivial
  | cons item _ ih => exact (each_write (kept_write (keeps_insertItem item))).bind fun _ => ih

theorem each_recordResult (library : MediaLibrary ν) (collection : DynamicCollectionRow ν) (config : BuilderConfig ν)
    (result : CollectionBuilderResult) (added removed : Nat) (reads : ∀ label, P label .ok)
    (records : ∀ itemCount duration last, P .record fun s => .ok (recordSync collection.id itemCount duration last s)) :
    (recordResult library collection config result added removed).Each P := by
  refine (each_read (reads _)).bind fun afterCount => Each.bind ?_ fun duration =>
    (each_write (records _ _ _)).bind fun _ => trivial
  refine (each_read (reads _)).bind fun total => ?_
  split <;> trivial

theorem each_persistCollectionItems (library : MediaLibrary ν) (collection : DynamicCollectionRow ν)
    (config : BuilderConfig ν) (result : CollectionBuilderResult) :
    (persistCollectionItems library collection config result).Each (Kept collection.id) := by
  refine (each_read kept_ok).bind fun beforeIds => Each.bind ?_ fun _ => (each_insertItems _).bind fun _ =>
    each_recordResult _ _ _ _ _ _ (fun _ => kept_ok) fun _ _ _ => kept_write (keeps_recordSync _ _ _)
  unfold deleteStep
  split
  · exact each_write (kept_write (keeps_deleteOthers _))
  · trivial

/-- What a sync goes on with once it has its collection. -/
theorem each_loadDynamicCollection {α : Type} {next : DynamicCollectionRow ν → Request ν α}
    (rest : ∀ collection, collection.id = k → (next collection).Each (Kept id)) :
    ((loadDynamicCollection k).bind next).Each (Kept id) := by
  refine ⟨kept_ok, fun s => ?_⟩
  change ((dynamicRow k ((s.collections.find k).filter (·.isDynamic))).bind next).Each (Kept id)
  cases (s.collections.find k).filter (·.isDynamic) with
  | none => trivial
  | some => exact rest _ rfl

theorem each_syncDynamicCollection (w : World ν) (includeExternal : Bool) (id : Uuid) :
    (syncDynamicCollection w includeExternal id).Each (Kept id) := by
  refine each_loadDynamicCollection fun collection own => ?_
  subst own
  exact (each_settle _).bind fun config => (each_buildCandidates w _ config includeExternal).bind fun candidates =>
    each_persistCollectionItems _ _ _ _

theorem keeps_syncDynamicCollection (w : World ν) (includeExternal : Bool) (id : Uuid) (budget : Nat) (s : Catalog ν) :
    Keeps id s ((syncDynamicCollection w includeExternal id).run budget s).store :=
  (leads_run budget _ s).each (R := fun _ => Keeps id) (each_syncDynamicCollection w includeExternal id) .refl
    fun kept taken rest => (kept _ _ taken).trans rest

/-! ## What a sync does to its members -/

theorem mem_members : x ∈ s.members c ↔ ∃ row, s.items.find (c, x) = some row := by
  simp only [Catalog.members, List.mem_toFinset, List.mem_map, Table.mem_select, decide_eq_true_eq]
  constructor
  · rintro ⟨⟨k, x⟩, ⟨row, found, rfl⟩, rfl⟩
    exact ⟨row, found⟩
  · rintro ⟨row, found⟩
    exact ⟨(c, x), ⟨row, found, rfl⟩, rfl⟩

theorem members_congr (same : ∀ x, s'.items.find (c, x) = s.items.find (c, x)) : s'.members c = s.members c := by
  ext x
  rw [mem_members, mem_members, same]

/-- The media of the items. -/
def mediaOf (items : List CollectionBuilderItem) : Finset Uuid := (items.map (·.mediaItemId)).toFinset

theorem mem_mediaOf : x ∈ mediaOf items ↔ ∃ item ∈ items, item.mediaItemId = x := by
  simp [mediaOf]

theorem members_insertItem (item : CollectionBuilderItem) (s : Catalog ν) :
    (insertItem c item s).members c = insert item.mediaItemId (s.members c) := by
  ext x
  rw [Finset.mem_insert, mem_members, mem_members]
  by_cases same : x = item.mediaItemId
  · simp [insertItem, same]
  · simp [insertItem, Table.find_put, same]

theorem members_deleteOthers (items : List CollectionBuilderItem) (s : Catalog ν) :
    (deleteOthers c items s).members c = s.members c ∩ mediaOf items := by
  ext x
  rw [Finset.mem_inter, mem_members, mem_members, mem_mediaOf]
  unfold deleteOthers
  cases items with
  | nil => simp [Table.find_discard]
  | cons item items =>
    have turn : (¬x = item.mediaItemId → ∃ i ∈ items, i.mediaItemId = x) ↔
        item.mediaItemId = x ∨ ∃ i ∈ items, i.mediaItemId = x := by
      rw [← or_iff_not_imp_left, eq_comm]
    simp [Table.find_discard, turn]

theorem members_insertItems (items : List CollectionBuilderItem) (budget : Nat) (s : Catalog ν) :
    (((insertItems c items).run budget s).store).members c = s.members c ∪ mediaOf (items.take budget) := by
  induction items generalizing budget s with
  | nil =>
    cases budget <;> exact (Finset.union_empty _).symm
  | cons item items ih =>
    cases budget with
    | zero => exact (Finset.union_empty _).symm
    | succ budget =>
      have next : ((insertItems c (item :: items)).run (budget + 1) s).store =
          ((insertItems c items).run budget (insertItem c item s)).store := rfl
      rw [next, ih, members_insertItem, List.take_succ_cons]
      simp [mediaOf]

/-- The statements behind the inserts let the items be. -/
theorem items_recordResult
    (led : Leads (recordResult library collection config result added removed) s labels outcome s') :
    s'.items = s.items := by
  have each : (recordResult library collection config result added removed).Each
      fun _ effect => ∀ s s', effect s = .ok s' → s'.items = s.items := by
    refine each_recordResult _ _ _ _ _ _ ?_ ?_
    · rintro _ s s' same
      cases same
      rfl
    · rintro itemCount duration last s s' same
      cases same
      unfold recordSync
      split <;> rfl
  exact led.each (R := fun _ (s s' : Catalog ν) => s'.items = s.items) each (fun _ => rfl)
    fun kept taken rest => rest.trans (kept _ _ taken)

/-- The members after a persist that gets so many of its statements: the first of them reads, the
second deletes, and each of the others inserts. -/
def persisted (items : List CollectionBuilderItem) (budget : Nat) (before : Finset Uuid) : Finset Uuid :=
  if budget ≤ 1 then before else before ∩ mediaOf items ∪ mediaOf (items.take (budget - 2))

theorem members_persistCollectionItems (library : MediaLibrary ν) (collection : DynamicCollectionRow ν)
    (config : BuilderConfig ν) (result : CollectionBuilderResult) (sync : collection.syncMode = "sync") (budget : Nat)
    (s : Catalog ν) :
    ((persistCollectionItems library collection config result).run budget s).store.members collection.id =
      persisted result.items budget (s.members collection.id) := by
  have deletes : deleteStep collection result.items =
      (.write .delete fun s => .ok (deleteOthers collection.id result.items s) : Request ν Unit) := if_pos sync
  simp only [persistCollectionItems, deletes]
  rcases budget with - | - | budget
  · rfl
  · rfl
  · change (((insertItems collection.id result.items).bind fun _ => recordResult library collection config result _ _).run
      budget (deleteOthers collection.id result.items s)).store.members collection.id = _
    have whole : persisted result.items (budget + 2) (s.members collection.id) =
        s.members collection.id ∩ mediaOf result.items ∪ mediaOf (result.items.take budget) := by
      simp [persisted]
    rw [whole, ← members_deleteOthers, ← members_insertItems, run_bind]
    split
    · rfl
    · exact members_congr fun x => by rw [items_recordResult (leads_run _ _ _)]

/-! ## What a sync selects -/

/-- The builders whose source is outside. -/
def chartBuilder (builderType : String) : Bool :=
  ["tmdb_popular", "tmdb_top_rated", "tmdb_trending", "tmdb_now_playing", "tmdb_upcoming"].contains builderType

/-- What the source of a builder answers. -/
def answer (w : World ν) (libraryId : Option Uuid) (config : BuilderConfig ν) :
    Except CollectionBuilderError (List CollectionBuilderResult) :=
  match config.builderType with
  | "genre" => buildGenre w.db w.library libraryId config
  | "decade" => buildDecade w.db w.library libraryId config
  | "actor" => buildActor w.db w.library libraryId config
  | "director" => buildDirector w.db w.library libraryId config
  | "franchise" => buildFranchise w.db w.library libraryId config
  | "resolution" => buildResolution w.db w.library libraryId config
  | "audio_codec" => buildAudioCodec w.db w.library libraryId config
  | "tmdb_popular" | "tmdb_top_rated" | "tmdb_trending" | "tmdb_now_playing" | "tmdb_upcoming" =>
    buildTmdbChart w.db w.library libraryId config w.tmdbClient
  | other => .error (.invalidConfig ("builder_type " ++ other ++ " is not implemented in Phase 12 Task 6"))

/-- The run leaves the source of the collection out. -/
def skips (includeExternal : Bool) (collection : DynamicCollectionRow ν) : Bool :=
  match BuilderConfig.fromValue collection.dynamicConfig with
  | .ok config => chartBuilder config.builderType && !includeExternal
  | .error _ => false

/-- The items that the source selects, where it is consulted and answers. -/
def selection (w : World ν) (includeExternal : Bool) (collection : DynamicCollectionRow ν) :
    Option (List CollectionBuilderItem) :=
  match BuilderConfig.fromValue collection.dynamicConfig with
  | .ok config =>
    if chartBuilder config.builderType && !includeExternal then none
    else
      match answer w collection.libraryId config with
      | .ok candidates => some (selectCandidate config collection candidates).items
      | .error _ => none
  | .error _ => none

theorem buildCandidates_skip {config : BuilderConfig ν} (external : chartBuilder config.builderType = true)
    (w : World ν) (libraryId : Option Uuid) : buildCandidates w libraryId config false = .done [] := by
  simp only [chartBuilder, List.contains_eq_mem, List.mem_cons, List.not_mem_nil, or_false, decide_eq_true_eq]
    at external
  rcases external with named | named | named | named | named
  all_goals simp [buildCandidates, named]

/-- A source that is asked answers in one statement; a type nobody knows is an error without one. -/
theorem buildCandidates_ask {config : BuilderConfig ν}
    (asked : (chartBuilder config.builderType && !includeExternal) = false) (w : World ν) (libraryId : Option Uuid) :
    buildCandidates w libraryId config includeExternal = query .source (answer w libraryId config) ∨
      ∃ error, buildCandidates w libraryId config includeExternal = .fail error ∧
        answer w libraryId config = .error error := by
  unfold buildCandidates
  split
  case h_13 =>
    refine .inr ⟨_, rfl, ?_⟩
    unfold answer
    split
    any_goals contradiction
    rfl
  case' h_8 named | h_9 named | h_10 named | h_11 named | h_12 named =>
    have external : includeExternal = true := by simpa [named, chartBuilder] using asked
    subst external
  all_goals
    rename_i named
    unfold answer
    rw [named]
    exact .inl rfl

/-- What a sync reads of the collection, if it is a dynamic one. -/
def Catalog.seen (s : Catalog ν) (c : Uuid) : Option (DynamicCollectionRow ν) :=
  ((s.collections.find c).filter (·.isDynamic)).map fun row =>
    ⟨c, row.libraryId, row.name, row.dynamicConfig, row.syncMode⟩

theorem Keeps.seen (keeps : Keeps id s s') (c : Uuid) : s'.seen c = s.seen c := by
  have read (s : Catalog ν) : s.seen c = (((s.collections.find c).map Collection.settings).filter (·.isDynamic)).map
      fun row => ⟨c, row.libraryId, row.name, row.dynamicConfig, row.syncMode⟩ := by
    unfold Catalog.seen
    cases s.collections.find c with
    | none => rfl
    | some row =>
      rw [Option.map_some, Option.filter_some, Option.filter_some]
      cases dynamic : row.isDynamic with
      | false | true => simp [Collection.settings, dynamic]
  rw [read s', read s, keeps.settings c]

theorem Keeps.members (keeps : Keeps id s s') (other : c ≠ id) : s'.members c = s.members c :=
  members_congr fun x => keeps.items c other x

/-- The members after a sync of the collection that gets so many statements. -/
def synced (w : World ν) (includeExternal : Bool) (collection : DynamicCollectionRow ν) (budget : Nat)
    (before : Finset Uuid) : Finset Uuid :=
  if skips includeExternal collection then persisted [] (budget - 1) before
  else (selection w includeExternal collection).elim before fun items => persisted items (budget - 2) before

section
variable {w : World ν} {includeExternal : Bool} {collection : DynamicCollectionRow ν}

theorem run_loaded {α : Type} {next : DynamicCollectionRow ν → Request ν α} (seen : s.seen c = some collection)
    (budget : Nat) : (((loadDynamicCollection c).bind next).run (budget + 1) s).store =
      ((next collection).run budget s).store := by
  unfold Catalog.seen at seen
  change ((((dynamicRow c ((s.collections.find c).filter (·.isDynamic))).bind next).run budget s)).store = _
  cases found : (s.collections.find c).filter (·.isDynamic) with
  | none => rw [found] at seen; cases seen
  | some =>
    rw [found] at seen
    cases seen
    rfl

/-- The members after the part of a sync that has its collection. -/
theorem members_loaded (config : BuilderConfig ν) (sync : collection.syncMode = "sync") (budget : Nat) :
    (((buildCandidates w collection.libraryId config includeExternal).bind fun candidates =>
      persistCollectionItems w.library collection config (selectCandidate config collection candidates)).run
        budget s).store.members collection.id =
      if chartBuilder config.builderType && !includeExternal then persisted [] budget (s.members collection.id)
      else
        match answer w collection.libraryId config with
        | .ok candidates =>
          persisted (selectCandidate config collection candidates).items (budget - 1) (s.members collection.id)
        | .error _ => s.members collection.id := by
  cases skipped : chartBuilder config.builderType && !includeExternal with
  | true =>
    obtain ⟨external, inside⟩ := Bool.and_eq_true_iff.mp skipped
    obtain rfl : includeExternal = false := by simpa using inside
    rw [buildCandidates_skip external, done_bind, members_persistCollectionItems w.library collection config _ sync]
    rfl
  | false =>
    rcases buildCandidates_ask skipped w collection.libraryId with asked | ⟨error, asked, unanswered⟩
    · rw [asked]
      cases answer w collection.libraryId config with
      | error => cases budget <;> rfl
      | ok =>
        cases budget with
        | zero => rfl
        | succ budget => exact members_persistCollectionItems w.library collection config _ sync budget s
    · rw [asked, unanswered]
      cases budget <;> rfl

theorem members_syncDynamicCollection (seen : s.seen c = some collection) (sync : collection.syncMode = "sync")
    (budget : Nat) : (((syncDynamicCollection w includeExternal c).run budget s).store).members c =
      synced w includeExternal collection budget (s.members c) := by
  have own : collection.id = c := by
    unfold Catalog.seen at seen
    obtain ⟨row, -, rfl⟩ := Option.map_eq_some_iff.mp seen
    rfl
  subst own
  cases budget with
  | zero =>
    unfold synced
    split
    · rfl
    · cases selection w includeExternal collection <;> rfl
  | succ budget =>
    rw [syncDynamicCollection, bind_eq, run_loaded seen]
    unfold synced skips selection
    cases BuilderConfig.fromValue collection.dynamicConfig with
    | error => cases budget <;> rfl
    | ok config =>
      refine (members_loaded config sync budget).trans ?_
      dsimp only
      by_cases skipped : (chartBuilder config.builderType && !includeExternal) = true
      · rw [if_pos skipped, if_pos skipped, Nat.add_sub_cancel]
      · rw [if_neg skipped, if_neg skipped, if_neg skipped]
        cases answer w collection.libraryId config <;> rfl

/-! ## Where a run comes to the collection -/

/-- The statements that are left when the loop comes to the collection. -/
def reachedIn (w : World ν) (includeExternal : Bool) (c : Uuid) : List Uuid → Nat → Catalog ν → Option Nat
  | [], _, _ => none
  | id :: ids, budget, s =>
    if id = c then some budget
    else
      let execution := (syncDynamicCollection w includeExternal id).run budget s
      match execution.outcome with
      | .error _ => none
      | .ok _ => reachedIn w includeExternal c ids (budget - execution.sent.length) execution.store

theorem run_map {α β : Type} (request : Request ν α) (f : α → β) (budget : Nat) (s : Catalog ν) :
    ((request.bind fun value => .done (f value)).run budget s).store = (request.run budget s).store := by
  rw [run_bind]
  cases (request.run budget s).outcome with
  | error => rfl
  | ok => cases budget - (request.run budget s).sent.length <;> rfl

theorem run_syncEach (id : Uuid) (ids : List Uuid) (budget : Nat) (s : Catalog ν) :
    ((syncEach w includeExternal (id :: ids)).run budget s).store =
      let execution := (syncDynamicCollection w includeExternal id).run budget s
      match execution.outcome with
      | .error _ => execution.store
      | .ok _ => ((syncEach w includeExternal ids).run (budget - execution.sent.length) execution.store).store := by
  rw [syncEach, bind_eq, run_bind]
  dsimp only
  cases ((syncDynamicCollection w includeExternal id).run budget s).outcome with
  | error => rfl
  | ok => exact run_map _ _ _ _

/-- What every sync of the loop keeps, the loop keeps. -/
theorem syncEach_induction {β : Type} {f : Catalog ν → β}
    (kept : ∀ id ∈ ids, ∀ budget s, f ((syncDynamicCollection w includeExternal id).run budget s).store = f s)
    (budget : Nat) (s : Catalog ν) : f ((syncEach w includeExternal ids).run budget s).store = f s := by
  induction ids generalizing budget s with
  | nil => cases budget <;> rfl
  | cons id _ ih =>
    have own := kept id List.mem_cons_self budget s
    rw [run_syncEach]
    dsimp only
    split
    · exact own
    · exact (ih (fun k member => kept k (List.mem_cons_of_mem id member)) _ _).trans own

theorem members_syncEach {ids : List Uuid} (distinct : ids.Nodup) (seen : s.seen c = some collection)
    (sync : collection.syncMode = "sync") (budget : Nat) :
    ((syncEach w includeExternal ids).run budget s).store.members c =
      (reachedIn w includeExternal c ids budget s).elim (s.members c) fun budget =>
        synced w includeExternal collection budget (s.members c) := by
  induction ids generalizing budget s with
  | nil => cases budget <;> rfl
  | cons id _ ih =>
    obtain ⟨first, rest⟩ := List.nodup_cons.mp distinct
    rw [run_syncEach, reachedIn]
    dsimp only
    by_cases same : id = c
    · subst same
      rw [if_pos rfl, Option.elim_some, ← members_syncDynamicCollection seen sync]
      split
      · rfl
      · refine syncEach_induction (f := (·.members id)) (fun k member budget s => ?_) _ _
        exact (keeps_syncDynamicCollection _ _ k budget s).members fun same => first (same ▸ member)
    · have keeps := keeps_syncDynamicCollection w includeExternal id budget s
      rw [if_neg same]
      cases ((syncDynamicCollection w includeExternal id).run budget s).outcome with
      | error => exact keeps.members (Ne.symm same)
      | ok =>
        rw [← keeps.members (Ne.symm same)]
        exact ih rest ((keeps.seen c).trans seen) _

end

theorem targetIds_nodup (w : World ν) (libraryId : Option Uuid) (s : Catalog ν) : (targetIds w libraryId s).Nodup := by
  have keys : (s.collections.rows.entries.map Sigma.fst).Nodup := s.collections.rows.nodupKeys
  unfold targetIds
  refine (Arrangement.orderBy_perm.map Prod.fst).nodup_iff.mpr ?_
  refine List.Nodup.sublist (List.filter_sublist.map Prod.fst) ?_
  rw [List.map_map]
  exact keys

/-- The statements that are left when the run comes to the collection, if it does. -/
def SyncRun.reached (run : SyncRun ν) (c : Uuid) (s : Catalog ν) : Option Nat :=
  match run.target with
  | .one id => if id = c then some run.budget else none
  | .all libraryId =>
    match run.budget with
    | 0 => none
    | budget + 1 => reachedIn run.world run.includeExternal c (targetIds run.world libraryId s) budget s

theorem members_perform (seen : s.seen c = some collection) (sync : collection.syncMode = "sync") (run : SyncRun ν) :
    (run.perform s).members c = (run.reached c s).elim (s.members c) fun budget =>
      synced run.world run.includeExternal collection budget (s.members c) := by
  unfold SyncRun.perform SyncRun.reached
  cases run.target with
  | one id =>
    dsimp only
    by_cases same : id = c
    · subst same
      rw [if_pos rfl, Option.elim_some, ← members_syncDynamicCollection seen sync]
    · rw [if_neg same, Option.elim_none]
      exact (keeps_syncDynamicCollection _ _ _ _ _).members (Ne.symm same)
  | all libraryId =>
    cases run.budget with
    | zero => rfl
    | succ budget => exact members_syncEach (targetIds_nodup run.world libraryId s) seen sync budget

/-- A run lets every collection be what it is. -/
theorem seen_perform (run : SyncRun ν) (s : Catalog ν) (c : Uuid) : (run.perform s).seen c = s.seen c := by
  unfold SyncRun.perform
  cases run.target with
  | one => exact (keeps_syncDynamicCollection _ _ _ _ _).seen c
  | all =>
    cases run.budget with
    | zero => rfl
    | succ budget =>
      exact syncEach_induction (f := (·.seen c)) (fun k _ budget s =>
        (keeps_syncDynamicCollection _ _ k budget s).seen c) budget s

/-! ## The members and the source -/

/-- The members a run has to leave: those its source selects, if it consults the source, and
otherwise those of before. -/
def SyncRun.consulted (run : SyncRun ν) (c : Uuid) (s : Catalog ν) (expected : Finset Uuid) : Finset Uuid :=
  match run.reached c s with
  | none => expected
  | some budget =>
    -- the second statement of a sync is the one its source answers
    if budget < 2 then expected
    else ((s.seen c).bind (selection run.world run.includeExternal)).elim expected mediaOf

/-- The catalog, and what the source of the collection selected when it was last consulted. -/
def follow (c : Uuid) (state : Catalog ν × Finset Uuid) (run : SyncRun ν) : Catalog ν × Finset Uuid :=
  (run.perform state.1, run.consulted c state.1 state.2)

/-- What is left undone of a persist that gets so many statements would change no member. -/
structure Complete (items : List CollectionBuilderItem) (budget : Nat) (before : Finset Uuid) : Prop where
  deleted : budget ≤ 1 → before = mediaOf items
  inserted : 2 ≤ budget → ∀ item ∈ items.drop (budget - 2),
    item.mediaItemId ∈ before ∨ item.mediaItemId ∈ mediaOf (items.take (budget - 2))

/-- A run that leaves the source of the collection out does not come to its `DELETE` while the
collection has members, and one whose source answers leaves nothing to do. -/
structure Undisturbed (c : Uuid) (s : Catalog ν) (run : SyncRun ν) : Prop where
  skipped : ∀ budget collection, run.reached c s = some budget → s.seen c = some collection →
    skips run.includeExternal collection = true → budget ≤ 2 ∨ s.members c = ∅
  finished : ∀ budget collection items, run.reached c s = some budget → s.seen c = some collection →
    selection run.world run.includeExternal collection = some items → 2 ≤ budget →
    Complete items (budget - 2) (s.members c)

theorem persisted_nil (budget : Nat) (before : Finset Uuid) :
    persisted [] budget before = before ↔ budget ≤ 1 ∨ before = ∅ := by
  unfold persisted
  by_cases few : budget ≤ 1
  · simp [few]
  · simp [few, mediaOf, eq_comm]

theorem persisted_eq_iff (items : List CollectionBuilderItem) (budget : Nat) (before : Finset Uuid) :
    persisted items budget before = mediaOf items ↔ Complete items budget before := by
  unfold persisted
  by_cases few : budget ≤ 1
  · rw [if_pos few]
    exact ⟨fun same => ⟨fun _ => same, fun many => by omega⟩, fun complete => complete.deleted few⟩
  · rw [if_neg few]
    have split : mediaOf items = mediaOf (items.take (budget - 2)) ∪ mediaOf (items.drop (budget - 2)) := by
      rw [mediaOf, mediaOf, mediaOf, ← List.toFinset_append, ← List.map_append, List.take_append_drop]
    constructor
    · refine fun same => ⟨fun short => (few short).elim, fun _ item member => ?_⟩
      have held : item.mediaItemId ∈ mediaOf items := mem_mediaOf.mpr ⟨item, List.mem_of_mem_drop member, rfl⟩
      rw [← same, Finset.mem_union, Finset.mem_inter] at held
      exact held.imp_left And.left
    · intro complete
      ext x
      rw [Finset.mem_union, Finset.mem_inter]
      constructor
      · rintro (both | taken)
        · exact both.2
        · rw [split]
          exact Finset.mem_union_left _ taken
      · intro held
        have member := held
        rw [split, Finset.mem_union] at member
        rcases member with taken | dropped
        · exact .inr taken
        · obtain ⟨item, within, rfl⟩ := mem_mediaOf.mp dropped
          exact (complete.inserted (by omega) item within).imp_left fun before => ⟨before, held⟩

/-- A collection that the claim on syncing is about: a dynamic one, in sync mode. -/
def Managed (s : Catalog ν) (c : Uuid) : Prop := ∃ collection, s.seen c = some collection ∧ collection.syncMode = "sync"

theorem selection_of_skips
    (skipped : skips includeExternal collection = true) : selection w includeExternal collection = none := by
  unfold skips at skipped
  unfold selection
  cases named : BuilderConfig.fromValue collection.dynamicConfig with
  | error => rfl
  | ok =>
    rw [named] at skipped
    exact if_pos skipped

theorem members_follow_iff {state : Catalog ν × Finset Uuid} (managed : Managed state.1 c)
    (holds : state.1.members c = state.2) (run : SyncRun ν) :
    (follow c state run).1.members c = (follow c state run).2 ↔ Undisturbed c state.1 run := by
  obtain ⟨collection, seen, sync⟩ := managed
  obtain ⟨s, expected⟩ := state
  dsimp only at seen holds ⊢
  subst holds
  simp only [follow, SyncRun.consulted, members_perform seen sync]
  cases reached : run.reached c s with
  | none => exact ⟨fun _ => ⟨by simp [reached], by simp [reached]⟩, fun _ => rfl⟩
  | some budget =>
    have shape : Undisturbed c s run ↔ (skips run.includeExternal collection = true → budget ≤ 2 ∨ s.members c = ∅) ∧
        ∀ items, selection run.world run.includeExternal collection = some items → 2 ≤ budget →
          Complete items (budget - 2) (s.members c) := by
      constructor
      · rintro ⟨skipped, finished⟩
        exact ⟨skipped budget collection reached seen, fun items => finished budget collection items reached seen⟩
      · rintro ⟨skipped, finished⟩
        constructor
        · intro other row came read
          cases reached.symm.trans came
          cases seen.symm.trans read
          exact skipped
        · intro other row items came read
          cases reached.symm.trans came
          cases seen.symm.trans read
          exact finished items
    rw [shape, seen, Option.bind_some, Option.elim_some, synced]
    dsimp only
    cases skipped : skips run.includeExternal collection with
    | true =>
      rw [selection_of_skips skipped, if_pos rfl, Option.elim_none, ite_self, persisted_nil]
      have enough : budget - 1 ≤ 1 ↔ budget ≤ 2 := by omega
      simp [enough]
    | false =>
      rw [if_neg Bool.false_ne_true]
      cases selected : selection run.world run.includeExternal collection with
      | none => simp
      | some =>
        by_cases few : budget < 2
        · have none : budget - 2 ≤ 1 := by omega
          simp [few, persisted, none]
        · rw [Option.elim_some, Option.elim_some, if_neg few, persisted_eq_iff]
          have enough : 2 ≤ budget := by omega
          simp [enough]

/-- After every run of any sequence, each dynamic collection in sync mode holds what its source
selected when it was last consulted, exactly where no run disturbs it. -/
theorem faithful_iff (start : Catalog ν) (runs : List (SyncRun ν)) :
    (∀ c, Managed start c → ∀ earlier later, runs = earlier ++ later →
      (earlier.foldl (follow c) (start, start.members c)).1.members c =
        (earlier.foldl (follow c) (start, start.members c)).2) ↔
      ∀ c, Managed start c →
        Throughout (follow c) (fun state run => Undisturbed c state.1 run) (start, start.members c) runs := by
  refine forall_congr' fun c => forall_congr' fun managed => ?_
  have keeps (state : Catalog ν × Finset Uuid) (run : SyncRun ν) (managed : Managed state.1 c) :
      Managed (follow c state run).1 c := by
    obtain ⟨collection, seen, sync⟩ := managed
    exact ⟨collection, (seen_perform run state.1 c).trans seen, sync⟩
  have exactly (state : Catalog ν × Finset Uuid) (run : SyncRun ν) (managed : Managed state.1 c)
      (holds : state.1.members c = state.2) :
      (follow c state run).1.members c = (follow c state run).2 ↔ Undisturbed c state.1 run :=
    members_follow_iff managed holds run
  exact @throughout_iff _ _ (follow c) _ (fun state => Managed state.1 c) (fun state => state.1.members c = state.2)
    keeps exactly _ managed rfl runs

/-! ## A run that leaves the chart out -/

/-- A database that gives tied rows as they are stored. -/
def storedPostgres : Postgres ν where
  collate := compareOn List.length
  transitive := inferInstance
  lower := toAsciiLowercase
  render _ := []
  files := .stored
  people := .stored
  joined := .stored
  rows := .stored
  chosen := .stored

/-- One film, which the chart names. -/
def chartWorld : World Nat where
  db := storedPostgres
  library := {
    mediaItems := [⟨7, 1, .movie, "The Matrix".toList, none, none, some 603, none, .object [], .confirmed⟩]
    genres := []
    mediaGenres := []
    people := []
    mediaCredits := []
    mediaFiles := []
    item_ids := by decide
    genre_names := by decide
    genre_ids := by decide
    media_genres_pkey := by decide
    person_ids := by decide
    credit_ids := by decide
    credit_roles := by decide }
  tmdbClient := some ⟨fun _ _ _ _ _ => .ok [⟨603, "movie"⟩]⟩
  targets := .stored

/-- A collection of the chart, without members as yet. -/
def chartCatalog : Catalog Nat where
  collections := Table.empty.put 3 ⟨some 1, "Popular".toList, true, true,
    .object [("builder_type", .text "tmdb_popular")], "sync", 0, 0, 0, none⟩
  items := .empty

def chartRun (includeExternal : Bool) : SyncRun Nat := ⟨chartWorld, includeExternal, .one 3, 100⟩

/-- The film that a first run put there is gone after a run that does not ask for the chart. -/
theorem skipped_chart_empties : ¬ (∀ c, Managed chartCatalog c → ∀ earlier later,
    [chartRun true, chartRun false] = earlier ++ later →
      (earlier.foldl (follow c) (chartCatalog, chartCatalog.members c)).1.members c =
        (earlier.foldl (follow c) (chartCatalog, chartCatalog.members c)).2) := by
  intro always
  have managed : Managed chartCatalog 3 := ⟨_, rfl, rfl⟩
  have same := always 3 managed [chartRun true, chartRun false] [] rfl
  have gone : ([chartRun true, chartRun false].foldl (follow 3) (chartCatalog, chartCatalog.members 3)).1.members 3 = ∅ := by
    decide +kernel
  have selected : ([chartRun true, chartRun false].foldl (follow 3) (chartCatalog, chartCatalog.members 3)).2 = {7} := by
    decide +kernel
  rw [gone, selected] at same
  exact absurd same (by decide)

end Duskcue.Collections
