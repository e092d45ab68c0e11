import Duskcue.CollectionCandidates
import Duskcue.CollectionMembers

/-! From the candidates to the rows of a collection. The selection keeps candidates proper, and a
sync leaves the rows of what it selected, at ascending positions. -/
namespace Duskcue.Collections
open Statements

variable {ν : Type} {config : BuilderConfig ν} {collection : DynamicCollectionRow ν}

/-! ## The configuration -/

theorem clamped_le (value : Option (Json ν)) (default most : Nat) : clamped value default most ≤ max 1 most :=
  max_le_max_left 1 (min_le_right _ _)

theorem fromValue_limit (parsed : BuilderConfig.fromValue value = .ok config) : config.limit ≤ 500 := by
  unfold BuilderConfig.fromValue at parsed
  split at parsed
  · cases parsed
  · cases parsed
    exact clamped_le _ _ _

/-! ## The selection -/

/-- The items that come first, each of another medium. -/
def firstItems (items : List CollectionBuilderItem) : List CollectionBuilderItem :=
  items.foldl (fun kept i => if kept.any (·.mediaItemId = i.mediaItemId) then kept else kept ++ [i]) []

theorem firstItems_spec (items : List CollectionBuilderItem) :
    ((firstItems items).map (·.mediaItemId)).Nodup ∧ mediaOf (firstItems items) = mediaOf items := by
  induction items using List.reverseRecOn with
  | nil => exact ⟨.nil, rfl⟩
  | append_singleton items item ih =>
    have step : firstItems (items ++ [item]) =
        if (firstItems items).any (·.mediaItemId = item.mediaItemId) then firstItems items
        else firstItems items ++ [item] := by
      rw [firstItems, List.foldl_append]
      rfl
    have split : mediaOf (items ++ [item]) = insert item.mediaItemId (mediaOf items) := by
      ext x
      simp [mediaOf]
    have known : (firstItems items).any (·.mediaItemId = item.mediaItemId) = true ↔
        item.mediaItemId ∈ mediaOf items := by
      rw [← ih.2, mem_mediaOf]
      simp
    rw [step, split]
    by_cases held : item.mediaItemId ∈ mediaOf items
    · rw [if_pos (known.mpr held), Finset.insert_eq_of_mem held]
      exact ih
    · rw [if_neg fun found => held (known.mp found)]
      constructor
      · rw [List.map_append, List.map_singleton, List.nodup_append]
        refine ⟨ih.1, List.nodup_singleton _, fun x member y single same => ?_⟩
        obtain rfl := List.mem_singleton.mp single
        rw [← ih.2, mediaOf, List.mem_toFinset] at held
        exact held (same ▸ member)
      · rw [← ih.2]
        ext x
        simp [mediaOf]

theorem dedupeItems_media (items : List CollectionBuilderItem) :
    (dedupeItems items).map (·.mediaItemId) = (firstItems items).map (·.mediaItemId) := by
  change ((firstItems items).mapIdx _).map _ = _
  refine List.ext_getElem (by simp) fun i bound bound' => ?_
  simp

theorem dedupeItems_rank (items : List CollectionBuilderItem) (bound : i < (dedupeItems items).length)
    (small : i < 500) : (dedupeItems items)[i].sourceRank = (i : Int) + 1 := by
  have rank : (dedupeItems items)[i].sourceRank = ((i + 1 : Nat) : Int).bmod (2 ^ 32) := by
    simp [dedupeItems]
  rw [rank, Int.bmod_eq_of_le (by omega) (by omega)]
  omega

theorem selectCandidate_cases (collection : DynamicCollectionRow ν) (some : candidates ≠ []) :
    selectCandidate config collection candidates ∈ candidates ∨
      (selectCandidate config collection candidates).items =
        (dedupeItems (candidates.flatMap (·.items))).take config.limit := by
  unfold selectCandidate
  rw [if_neg (by simpa using some)]
  split
  · rename_i candidate found
    obtain ⟨key, -, found⟩ := Option.bind_eq_some_iff.mp found
    exact .inl (List.mem_of_find?_eq_some found)
  · split
    · rename_i candidate found
      exact .inl (List.mem_of_find?_eq_some found)
    · split
      · exact .inl List.mem_cons_self
      · exact .inr rfl

theorem combined_proper {candidates : List CollectionBuilderResult} (some : candidates ≠ []) (small : config.limit ≤ 500)
    (proper : ∀ candidate ∈ candidates, Proper config candidate.items) :
    Proper config ((dedupeItems (candidates.flatMap (·.items))).take config.limit) := by
  obtain ⟨distinct, media⟩ := firstItems_spec (candidates.flatMap (·.items))
  rw [← dedupeItems_media] at distinct
  have taken : (((dedupeItems (candidates.flatMap (·.items))).take config.limit).map (·.mediaItemId)).Nodup :=
    distinct.sublist ((List.take_sublist _ _).map _)
  refine ⟨taken, ?_, List.length_take_le _ _, ?_⟩
  · rw [List.pairwise_map, List.pairwise_iff_getElem]
    intro i j boundI boundJ less
    have short : j < config.limit := Nat.lt_of_lt_of_le boundJ (List.length_take_le _ _)
    simp only [List.getElem_take]
    rw [dedupeItems_rank _ _ (by omega), dedupeItems_rank _ _ (by omega)]
    omega
  · obtain ⟨first, rest, rfl⟩ := List.exists_cons_of_ne_nil some
    have own := proper first List.mem_cons_self
    have enough := own.enough
    rw [own.distinct.dedup, List.length_map] at enough
    have within : (first.items.map (·.mediaItemId)) ⊆ (dedupeItems ((first :: rest).flatMap (·.items))).map (·.mediaItemId) := by
      intro x member
      have held : x ∈ mediaOf ((first :: rest).flatMap (·.items)) := by
        rw [mediaOf, List.mem_toFinset, List.flatMap_cons, List.map_append]
        exact List.mem_append_left _ member
      rw [← media, mediaOf, List.mem_toFinset, ← dedupeItems_media] at held
      exact held
    have count := (List.subperm_of_subset own.distinct within).length_le
    rw [List.length_map, List.length_map] at count
    rw [taken.dedup, List.length_map, List.length_take]
    have bounded := own.bounded
    omega

/-- The ranks that a position can be made of. -/
def Ranked (items : List CollectionBuilderItem) : Prop := ∀ item ∈ items, 1 ≤ item.sourceRank ∧ item.sourceRank ≤ 500

theorem ranked_keptRows (answered : Answered rows) (small : config.limit ≤ 500) (key : List Char) :
    Ranked ((keptRows config rows key).map SourceRow.toItem) := by
  intro item member
  obtain ⟨row, within, rfl⟩ := List.mem_map.mp member
  obtain ⟨first, last⟩ := (numbered_keptRows answered key).le_length within
  have short : (keptRows config rows key).length ≤ config.limit := keptRows_length
  simp only [SourceRow.toItem]
  omega

theorem ranked_combined (items : List CollectionBuilderItem) (small : config.limit ≤ 500) :
    Ranked ((dedupeItems items).take config.limit) := by
  intro item member
  obtain ⟨i, bound, rfl⟩ := List.mem_iff_getElem.mp member
  have short : i < config.limit := Nat.lt_of_lt_of_le bound (List.length_take_le _ _)
  rw [List.getElem_take, dedupeItems_rank _ _ (by omega)]
  omega

/-! ## The rows -/

/-- The rows of the collection are the items, at ascending positions. -/
structure Holds (s : Catalog ν) (c : Uuid) (items : List CollectionBuilderItem) : Prop where
  rows : ∀ x row, s.items.find (c, x) = some row ↔
    ∃ item ∈ items, item.mediaItemId = x ∧ row = ⟨positionOf item, false, none⟩
  positions : (items.map positionOf).Pairwise (· < ·)

section
variable {s s' : Catalog ν} {c x : Uuid} {items : List CollectionBuilderItem}

theorem positionOf_eq {item : CollectionBuilderItem} (low : 1 ≤ item.sourceRank) (high : item.sourceRank ≤ 500) :
    positionOf item = item.sourceRank * 1000 := by
  unfold positionOf
  rw [Int.bmod_eq_of_le (by omega) (by omega)]

theorem positions_ascending (ascending : (items.map (·.sourceRank)).Pairwise (· < ·)) (ranked : Ranked items) :
    (items.map positionOf).Pairwise (· < ·) := by
  rw [List.pairwise_map] at ascending ⊢
  refine ascending.imp_of_mem fun {a b} memberA memberB less => ?_
  obtain ⟨lowA, highA⟩ := ranked a memberA
  obtain ⟨lowB, highB⟩ := ranked b memberB
  rw [positionOf_eq lowA highA, positionOf_eq lowB highB]
  omega

theorem leads_insertItems (led : Leads (insertItems c items) s labels (.ok ()) s') :
    s' = items.foldl (fun s item => insertItem c item s) s := by
  induction items generalizing s labels with
  | nil => exact (leads_done led).2
  | cons _ _ ih =>
    obtain ⟨_, first, middle, later, written, rest, -⟩ := Leads.bind_ok led
    obtain ⟨-, taken⟩ := leads_write written
    cases taken
    exact ih rest

theorem find_inserted (distinct : (items.map (·.mediaItemId)).Nodup) (s : Catalog ν) (row : CollectionItem) :
    (items.foldl (fun s item => insertItem c item s) s).items.find (c, x) = some row ↔
      (∃ item ∈ items, item.mediaItemId = x ∧ row = ⟨positionOf item, false, none⟩) ∨
        x ∉ mediaOf items ∧ s.items.find (c, x) = some row := by
  induction items generalizing s with
  | nil => simp [mediaOf]
  | cons item items ih =>
    obtain ⟨absent, rest⟩ := List.nodup_cons.mp distinct
    have split : x ∈ mediaOf (item :: items) ↔ x = item.mediaItemId ∨ x ∈ mediaOf items := by simp [mediaOf]
    rw [List.foldl_cons, ih rest, split, insertItem, Table.find_put]
    by_cases same : x = item.mediaItemId
    · subst same
      have off : item.mediaItemId ∉ mediaOf items := by simpa [mediaOf] using absent
      have none : ¬ ∃ other ∈ items, other.mediaItemId = item.mediaItemId ∧ row = ⟨positionOf other, false, none⟩ := by
        rintro ⟨other, member, own, -⟩
        exact off (mem_mediaOf.mpr ⟨other, member, own⟩)
      simp only [List.mem_cons, exists_eq_or_imp, none, if_true, off, or_false, not_true, not_false_iff,
        false_and, true_and, false_or, Option.some.injEq]
      exact eq_comm
    · simp [same, Ne.symm same]

theorem find_deleteOthers :
    (deleteOthers c items s).items.find (c, x) = some row ↔ s.items.find (c, x) = some row ∧ x ∈ mediaOf items := by
  unfold deleteOthers
  cases items with
  | nil => simp [Table.find_discard, mediaOf]
  | cons => simp [Table.find_discard, mediaOf, or_iff_not_imp_left]

/-- A persist in sync mode that succeeds leaves the items, and nothing else. -/
theorem persist_holds {result : CollectionBuilderResult} (sync : collection.syncMode = "sync")
    (distinct : (result.items.map (·.mediaItemId)).Nodup)
    (ascending : (result.items.map (·.sourceRank)).Pairwise (· < ·)) (ranked : Ranked result.items)
    (led : Leads (persistCollectionItems library collection config result) s labels (.ok value) s') :
    Holds s' collection.id result.items := by
  refine ⟨fun x row => ?_, positions_ascending ascending ranked⟩
  obtain ⟨before, _, middle, _, asked, deleting, -⟩ := Leads.bind_ok led
  obtain ⟨-, -, rfl⟩ := leads_read asked
  dsimp only at deleting
  obtain ⟨_, _, deleted, _, sent, inserting, -⟩ := Leads.bind_ok deleting
  rw [deleteStep, if_pos sync] at sent
  obtain ⟨-, taken⟩ := leads_write sent
  cases taken
  obtain ⟨_, _, inserted, _, sent, recording, -⟩ := Leads.bind_ok inserting
  obtain rfl := leads_insertItems sent
  have same := items_recordResult recording
  rw [same, find_inserted distinct, find_deleteOthers]
  constructor
  · rintro (new | ⟨off, -, held⟩)
    · exact new
    · exact (off held).elim
  · exact .inl

end

/-! ## From the library to the rows -/

section
variable {db : Postgres ν} {library : MediaLibrary ν} {libraryId : Option Uuid}

/-- The builder under its name. -/
def LocalBuilder.build (db : Postgres ν) (library : MediaLibrary ν) (libraryId : Option Uuid) (config : BuilderConfig ν) :
    LocalBuilder → Except CollectionBuilderError (List CollectionBuilderResult)
  | genre => buildGenre db library libraryId config
  | decade => buildDecade db library libraryId config
  | actor => buildActor db library libraryId config
  | director => buildDirector db library libraryId config
  | franchise => buildFranchise db library libraryId config
  | resolution => buildResolution db library libraryId config
  | audioCodec => buildAudioCodec db library libraryId config

theorem build_eq (db : Postgres ν) (library : MediaLibrary ν) (libraryId : Option Uuid) (config : BuilderConfig ν)
    (builder : LocalBuilder) : ∃ format, builder.build db library libraryId config =
    (builder.rows db library libraryId config).map fun rows => groupedResults rows config format := by
  cases builder <;> exact ⟨_, rfl⟩

/-- The candidates of a builder are proper, as is what is selected where there are any; and a sync
that persists one of them, or the selection, leaves its items as the rows. -/
structure Orderly (library : MediaLibrary ν) (collection : DynamicCollectionRow ν) (config : BuilderConfig ν)
    (candidates : List CollectionBuilderResult) : Prop where
  proper : ∀ candidate ∈ candidates, Proper config candidate.items
  selected : candidates ≠ [] → Proper config (selectCandidate config collection candidates).items
  persisted : collection.syncMode = "sync" → ∀ result ∈ selectCandidate config collection candidates :: candidates,
    ∀ s labels value s', Leads (persistCollectionItems library collection config result) s labels (.ok value) s' →
      Holds s' collection.id result.items

theorem orderly_of_undivided (answered : Answered rows) (small : config.limit ≤ 500)
    (undivided : Undivided config rows) (format : List Char) :
    Orderly library collection config (groupedResults rows config format) := by
  have proper := (candidates_proper_iff answered format).mpr undivided
  have ranked : ∀ candidate ∈ groupedResults rows config format, Ranked candidate.items := by
    intro candidate member
    obtain ⟨key, -, -, rfl⟩ := mem_groupedResults.mp member
    exact ranked_keptRows answered small key
  have selected (some : groupedResults rows config format ≠ []) :
      Proper config (selectCandidate config collection (groupedResults rows config format)).items ∧
        Ranked (selectCandidate config collection (groupedResults rows config format)).items := by
    rcases selectCandidate_cases collection some with member | combined
    · exact ⟨proper _ member, ranked _ member⟩
    · rw [combined]
      exact ⟨combined_proper some small proper, ranked_combined _ small⟩
  refine ⟨proper, fun some => (selected some).1, fun sync result member s labels value s' led => ?_⟩
  rcases List.mem_cons.mp member with rfl | member
  · by_cases some : groupedResults rows config format = []
    · rw [some] at led ⊢
      exact persist_holds sync .nil .nil nofun led
    · obtain ⟨own, ranks⟩ := selected some
      exact persist_holds sync own.distinct own.ascending ranks led
  · have own := proper result member
    exact persist_holds sync own.distinct own.ascending (ranked result member) led

/-- For every library content and configuration, candidates, selection and rows are in order exactly
where no rows that are kept under one key are divided. -/
theorem orderly_iff (db : Postgres ν) (library : MediaLibrary ν) (libraryId : Option Uuid) (value : Json ν)
    (builder : LocalBuilder) (collection : DynamicCollectionRow ν) :
    (∀ config candidates, BuilderConfig.fromValue value = .ok config →
      builder.build db library libraryId config = .ok candidates → Orderly library collection config candidates) ↔
      ∀ config rows, BuilderConfig.fromValue value = .ok config →
        builder.rows db library libraryId config = .ok rows → Undivided config rows := by
  constructor
  · intro orderly config rows parsed answered
    obtain ⟨format, built⟩ := build_eq db library libraryId config builder
    rw [answered] at built
    exact (candidates_proper_iff (rows_answered answered) format).mp (orderly config _ parsed built).proper
  · intro undivided config candidates parsed built
    obtain ⟨format, same⟩ := build_eq db library libraryId config builder
    cases answered : builder.rows db library libraryId config with
    | error error =>
      rw [same, answered] at built
      cases built
    | ok rows =>
      rw [same, answered] at built
      cases built
      exact orderly_of_undivided (rows_answered answered) (fromValue_limit parsed)
        (undivided config rows parsed answered) format

end

/-! ## An actor with two roles -/

theorem no_names : ([] : List (List Char)).Nodup := List.nodup_nil

theorem no_pairs : ([] : List (Uuid × Uuid)).Nodup := List.nodup_nil

/-- One film, in which one person is credited for two roles. -/
def twinLibrary : MediaLibrary Nat where
  mediaItems := [⟨7, 1, .movie, "Twins".toList, none, none, none, none, .object [], .confirmed⟩]
  genres := []
  mediaGenres := []
  people := [⟨4, "Ana".toList, "Ana".toList⟩]
  mediaCredits := [⟨20, 7, 4, .cast, some "Ida".toList, none⟩, ⟨21, 7, 4, .cast, some "Eva".toList, none⟩]
  mediaFiles := []
  item_ids := by decide
  genre_names := no_names
  genre_ids := List.nodup_nil
  media_genres_pkey := no_pairs
  person_ids := by decide
  credit_ids := by decide
  credit_roles := by decide

def actorConfig : Json Nat :=
  .object [("builder_type", .text "actor"), ("builder_data", .object [("minimum_appearances", .integer 1)])]

/-- The one candidate lists the film for each role. -/
def twinCandidate : CollectionBuilderResult := ⟨"Ana".toList, "Ana".toList, [⟨7, 1⟩, ⟨7, 2⟩], []⟩

theorem twin_roles_repeat : ¬ (∀ config candidates, BuilderConfig.fromValue actorConfig = .ok config →
    LocalBuilder.actor.build storedPostgres twinLibrary none config = .ok candidates →
      Orderly twinLibrary ⟨3, none, "Actors".toList, actorConfig, "sync"⟩ config candidates) := by
  intro always
  have built : (BuilderConfig.fromValue actorConfig).bind (LocalBuilder.actor.build storedPostgres twinLibrary none) =
      .ok [twinCandidate] := by decide +kernel
  cases parsed : BuilderConfig.fromValue actorConfig with
  | error error =>
    rw [parsed] at built
    cases built
  | ok config =>
    rw [parsed] at built
    dsimp only [Except.bind] at built
    have proper := (always config [twinCandidate] parsed built).proper twinCandidate List.mem_cons_self
    exact absurd proper.distinct (by decide)

end Duskcue.Collections
