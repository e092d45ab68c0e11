import Duskcue.CollectionBuilders

/-! What candidates list. The rows of a builder are numbered within their parts, and no two of
them are of one part, item and credit; `grouped_results` keeps the first rows of each key.
So a candidate lists distinct items with ascending ranks exactly where the rows it keeps
are of one part and no two are credits for one item. -/
namespace Duskcue.Collections

variable {ν : Type} {rows : List SourceRow} {db : Postgres ν} {library : MediaLibrary ν} {libraryId : Option Uuid}
  {config : BuilderConfig ν}

/-! ## The rows -/

/-- Where a row is from. -/
def Joined.origin (row : Joined ν) : Partition × Uuid × Option Uuid := (row.partition, row.item.id, row.credit)

/-- The rows that a builder joins: a part has one key, and an origin one row. -/
structure Sound (joined : List (Joined ν)) : Prop where
  keyed : ∀ a ∈ joined, ∀ b ∈ joined, a.partition = b.partition → a.keyName = b.keyName
  distinct : (joined.map Joined.origin).Nodup

theorem listed_nodup (library : MediaLibrary ν) (libraryId : Option Uuid) :
    ((listed library libraryId).map (·.id)).Nodup :=
  library.item_ids.sublist (List.filter_sublist.map _)

theorem sound_genre : Sound (genreRows library libraryId) where
  keyed := by
    intro a memberA b memberB same
    obtain ⟨rowA, -, rfl⟩ := List.mem_map.mp memberA
    obtain ⟨rowB, -, rfl⟩ := List.mem_map.mp memberB
    exact Partition.text.inj same
  distinct := by
    rw [genreRows, List.map_map]
    have pairs : (((listed library libraryId) ×ˢ library.mediaGenres) ×ˢ library.genres).Nodup :=
      (((listed_nodup library libraryId).of_map _).product (library.media_genres_pkey.of_map _)).product (library.genre_ids.of_map _)
    refine List.Nodup.map_on ?_ (pairs.filter _)
    rintro ⟨⟨mi, mg⟩, g⟩ first ⟨⟨mi', mg'⟩, g'⟩ second same
    simp only [List.mem_filter, List.mem_product, Bool.and_eq_true, decide_eq_true_eq] at first second
    obtain ⟨⟨⟨there, joinedMg⟩, joinedG⟩, item, genre⟩ := first
    obtain ⟨⟨⟨there', joinedMg'⟩, joinedG'⟩, item', genre'⟩ := second
    simp only [Function.comp_apply, Joined.origin, Prod.mk.injEq, Partition.text.injEq, and_true] at same
    obtain rfl := List.inj_on_of_nodup_map (listed_nodup library libraryId) there there' same.2
    obtain rfl := List.inj_on_of_nodup_map library.genre_names joinedG joinedG' same.1
    have pair : (mg.mediaItemId, mg.genreId) = (mg'.mediaItemId, mg'.genreId) := by
      rw [item, item', ← genre, ← genre']
    obtain rfl := List.inj_on_of_nodup_map library.media_genres_pkey joinedMg joinedMg' pair
    rfl

/-- A builder that makes at most one row of an item. -/
theorem sound_of_items (own : ∀ mi row, rowOf mi = some row → row.item = mi)
    (keyed : ∀ mi mi' row row', rowOf mi = some row → rowOf mi' = some row' → row.partition = row'.partition →
      row.keyName = row'.keyName) : Sound ((listed library libraryId).filterMap rowOf) where
  keyed := by
    intro a memberA b memberB same
    obtain ⟨mi, -, rowA⟩ := List.mem_filterMap.mp memberA
    obtain ⟨mi', -, rowB⟩ := List.mem_filterMap.mp memberB
    exact keyed mi mi' a b rowA rowB same
  distinct := by
    have items : (((listed library libraryId).filterMap rowOf).map (·.item.id)).Nodup := by
      refine List.Nodup.sublist ?_ (listed_nodup library libraryId)
      induction listed library libraryId with
      | nil => exact .slnil
      | cons mi _ ih =>
        cases made : rowOf mi with
        | none => simpa [made] using ih.cons mi.id
        | some row => simpa [made, own mi row made] using ih
    refine List.Nodup.of_map (fun origin => origin.2.1) ?_
    rw [List.map_map]
    exact items

theorem sound_decade : Sound (decadeRows library libraryId) := by
  refine sound_of_items (fun mi row made => ?_) fun mi mi' row row' made made' same => ?_
  · obtain ⟨date, -, rfl⟩ := Option.map_eq_some_iff.mp made
    rfl
  · obtain ⟨date, -, rfl⟩ := Option.map_eq_some_iff.mp made
    obtain ⟨date', -, rfl⟩ := Option.map_eq_some_iff.mp made'
    rw [Partition.decade.inj same]

theorem sound_text (read : MediaItem ν → Option (List Char)) :
    Sound ((listed library libraryId).filterMap fun mi => (read mi).map fun text => ⟨.text text, none, text, mi⟩) := by
  refine sound_of_items (fun mi row made => ?_) fun mi mi' row row' made made' same => ?_
  · obtain ⟨text, -, rfl⟩ := Option.map_eq_some_iff.mp made
    rfl
  · obtain ⟨text, -, rfl⟩ := Option.map_eq_some_iff.mp made
    obtain ⟨text', -, rfl⟩ := Option.map_eq_some_iff.mp made'
    exact Partition.text.inj same

theorem topPeople_nodup (credited : MediaCredit → Bool) (minimum topN : Nat) :
    ((topPeople library libraryId db credited minimum topN).map (·.id)).Nodup := by
  unfold topPeople
  dsimp only
  rw [List.map_map]
  refine List.Nodup.sublist ((List.take_sublist _ _).map _) ?_
  refine (Arrangement.orderBy_perm.map _).nodup_iff.mpr ?_
  refine List.Nodup.sublist (List.filter_sublist.map _) ?_
  rw [List.map_map]
  exact library.person_ids

theorem sound_people (credited : MediaCredit → Bool) (minimum topN : Nat) :
    Sound (personRows library libraryId db credited minimum topN) where
  keyed := by
    intro a memberA b memberB same
    obtain ⟨⟨⟨tp, mc⟩, mi⟩, first, rfl⟩ := List.mem_map.mp memberA
    obtain ⟨⟨⟨tp', mc'⟩, mi'⟩, second, rfl⟩ := List.mem_map.mp memberB
    simp only [List.mem_filter, List.mem_product] at first second
    rw [List.inj_on_of_nodup_map (topPeople_nodup credited minimum topN) first.1.1.1 second.1.1.1
      (Partition.person.inj same)]
  distinct := by
    rw [personRows, List.map_map]
    have people : ((topPeople library libraryId db credited minimum topN).map (·.id)).Nodup := topPeople_nodup _ _ _
    have triples := ((people.of_map _).product (library.credit_ids.of_map _)).product
      ((listed_nodup library libraryId).of_map _)
    refine List.Nodup.map_on ?_ (triples.filter _)
    rintro ⟨⟨tp, mc⟩, mi⟩ first ⟨⟨tp', mc'⟩, mi'⟩ second same
    simp only [List.mem_filter, List.mem_product] at first second
    simp only [Function.comp_apply, Joined.origin, Prod.mk.injEq, Partition.person.injEq, Option.some.injEq] at same
    obtain ⟨person, item, credit⟩ := same
    obtain rfl := List.inj_on_of_nodup_map (topPeople_nodup credited minimum topN) first.1.1.1 second.1.1.1 person
    obtain rfl := List.inj_on_of_nodup_map library.credit_ids first.1.1.2 second.1.1.2 credit
    obtain rfl := List.inj_on_of_nodup_map (listed_nodup library libraryId) first.1.2 second.1.2 item
    rfl

/-- What a database answers a builder: numbered rows, each of an origin of its own. -/
structure Answered (rows : List SourceRow) : Prop where
  numbered : Numbered SourceRow.partition SourceRow.sourceRank rows
  keyed : ∀ a ∈ rows, ∀ b ∈ rows, a.partition = b.partition → a.keyName = b.keyName
  distinct : (rows.map fun row => (row.partition, row.mediaItemId, row.credit)).Nodup

theorem numbered_joined [DecidableRel window] {row : Joined ν × Nat}
    (member : row ∈ rowNumbers Joined.partition (db.joined.orderBy window joined)) : row.1 ∈ joined := by
  have there := List.mem_map_of_mem (f := Prod.fst) member
  rw [rowNumbers_fst, Arrangement.mem_orderBy] at there
  exact there

/-- Every row is one that was joined, with a number. -/
theorem windowed_joined [DecidableRel window] (answered : windowed db window joined = .ok rows) :
    ∀ row ∈ rows, ∃ old ∈ joined, ∃ rank, row = ⟨old.partition, old.credit, some old.keyName, old.item.id, rank⟩ := by
  unfold windowed at answered
  dsimp only at answered
  split at answered
  case isFalse => cases answered
  cases answered
  intro row member
  obtain ⟨old, there, rfl⟩ := List.mem_map.mp member
  exact ⟨old.1, numbered_joined (Arrangement.mem_orderBy.mp there), old.2, rfl⟩

theorem windowed_answered [DecidableRel window]
    (sound : Sound joined) (answered : windowed db window joined = .ok rows) : Answered rows := by
  have joinedRows := windowed_joined answered
  have := db.transitive
  unfold windowed at answered
  dsimp only at answered
  split at answered
  case isFalse => cases answered
  cases answered
  constructor
  · have numbered : Numbered (fun row : Joined ν × Nat => row.1.partition) Prod.snd
        (rowNumbers Joined.partition (db.joined.orderBy window joined)) := rowNumbers_numbered _
    refine Numbered.map (numbered.orderBy db.rows fun a memberA b memberB same related => ?_)
    have key := sound.keyed a.1 (numbered_joined memberA) b.1 (numbered_joined memberB) same
    simpa [NoLater, compareLex, through, key, Std.ReflCmp.compare_self, Nat.isLE_compare] using related
  · intro a memberA b memberB same
    obtain ⟨rowA, there, _, rfl⟩ := joinedRows a memberA
    obtain ⟨rowB, there', _, rfl⟩ := joinedRows b memberB
    exact congrArg some (sound.keyed rowA there rowB there' same)
  · rw [List.map_map]
    refine (Arrangement.orderBy_perm.map _).nodup_iff.mpr ?_
    have ordered : (db.joined.orderBy window joined).Perm joined := Arrangement.orderBy_perm
    have origins := ordered.map Joined.origin
    have firsts : (rowNumbers Joined.partition (db.joined.orderBy window joined)).map Prod.fst = _ := rowNumbers_fst _
    have numbered := congrArg (List.map Joined.origin) firsts
    rw [List.map_map] at numbered
    exact Eq.mpr (congrArg List.Nodup numbered) (origins.nodup_iff.mpr sound.distinct)

theorem rows_answered {builder : LocalBuilder}
    (answered : builder.rows db library libraryId config = .ok rows) : Answered rows := by
  cases builder with
  | genre => exact windowed_answered sound_genre answered
  | decade => exact windowed_answered sound_decade answered
  | actor | director => exact windowed_answered (sound_people _ _ _) answered
  | franchise => exact windowed_answered (sound_text fun mi => franchiseOf db mi.metadata) answered
  | resolution | audioCodec => exact windowed_answered (sound_text fun mi => largestFile library db _ mi) answered

/-! ## The groups -/

/-- The rows that are kept under a key. -/
def keptRows (config : BuilderConfig ν) (rows : List SourceRow) (key : List Char) : List SourceRow :=
  (rows.filter fun row => keyOf config row = some key).take config.limit

theorem of_mem_keptRows (kept : row ∈ keptRows config rows key) : row ∈ rows ∧ keyOf config row = some key := by
  simpa using List.mem_filter.mp (List.mem_of_mem_take kept)

/-- The item of a row. -/
def SourceRow.toItem (row : SourceRow) : CollectionBuilderItem := ⟨row.mediaItemId, row.sourceRank⟩

/-- The keys in the order they come in. -/
def keysOf (config : BuilderConfig ν) (rows : List SourceRow) : List (List Char) :=
  rows.foldl (fun keys row =>
    match keyOf config row with
    | none => keys
    | some key => if key ∈ keys then keys else keys ++ [key]) []

theorem mem_keysOf : key ∈ keysOf config rows ↔ ∃ row ∈ rows, keyOf config row = some key := by
  induction rows using List.reverseRecOn with
  | nil => simp [keysOf]
  | append_singleton rows row ih =>
    have before : rows.foldl (fun keys row =>
        match keyOf config row with
        | none => keys
        | some key => if key ∈ keys then keys else keys ++ [key]) [] = keysOf config rows := rfl
    rw [keysOf, List.foldl_append, List.foldl_cons, List.foldl_nil, before]
    cases named : keyOf config row with
    | none => simp [ih, named, or_and_right, exists_or]
    | some =>
      dsimp only
      split
      · rename_i held
        constructor
        · intro member
          obtain ⟨first, within, same⟩ := ih.mp member
          exact ⟨first, List.mem_append_left _ within, same⟩
        · rintro ⟨last, within, same⟩
          rcases List.mem_append.mp within with earlier | now
          · exact ih.mpr ⟨last, earlier, same⟩
          · obtain rfl := List.mem_singleton.mp now
            rw [named, Option.some.injEq] at same
            exact same ▸ held
      · simp [ih, named, or_and_right, exists_or, eq_comm]

theorem keptRows_concat (rows : List SourceRow) (row : SourceRow) (key : List Char) :
    keptRows config (rows ++ [row]) key =
      if keyOf config row = some key ∧ (keptRows config rows key).length < config.limit then
        keptRows config rows key ++ [row]
      else keptRows config rows key := by
  unfold keptRows
  rw [List.filter_append, List.length_take]
  by_cases named : keyOf config row = some key
  · by_cases room : (rows.filter fun row => keyOf config row = some key).length < config.limit
    · have one : ([row].take (config.limit - (rows.filter fun row => keyOf config row = some key).length)) = [row] :=
        List.take_of_length_le (Nat.sub_pos_of_lt room)
      simp [named, room, List.take_append, one]
    · simp [named, room, List.take_append, Nat.sub_eq_zero_of_le (Nat.le_of_not_lt room)]
  · simp [named]

theorem groups_eq (rows : List SourceRow) :
    rows.foldl (addRow config) [] =
      (keysOf config rows).map fun key => (key, (keptRows config rows key).map SourceRow.toItem) := by
  induction rows using List.reverseRecOn with
  | nil => rfl
  | append_singleton rows row ih =>
    rw [List.foldl_append, List.foldl_cons, List.foldl_nil, ih, addRow]
    have keys : keysOf config (rows ++ [row]) =
        match keyOf config row with
        | none => keysOf config rows
        | some key => if key ∈ keysOf config rows then keysOf config rows else keysOf config rows ++ [key] := by
      rw [keysOf, List.foldl_append]
      rfl
    rw [keys]
    cases named : keyOf config row with
    | none => simp only [keptRows_concat, named, reduceCtorEq, false_and, if_false]
    | some key =>
      have held : ((keysOf config rows).map fun key => (key, (keptRows config rows key).map SourceRow.toItem)).any
          (·.1 = key) = true ↔ key ∈ keysOf config rows := by simp
      have extended : (if ((keysOf config rows).map fun key => (key, (keptRows config rows key).map SourceRow.toItem)).any
            (·.1 = key) = true then
          (keysOf config rows).map fun key => (key, (keptRows config rows key).map SourceRow.toItem)
          else ((keysOf config rows).map fun key => (key, (keptRows config rows key).map SourceRow.toItem)) ++ [(key, [])]) =
          (if key ∈ keysOf config rows then keysOf config rows else keysOf config rows ++ [key]).map
            fun key => (key, (keptRows config rows key).map SourceRow.toItem) := by
        by_cases known : key ∈ keysOf config rows
        · rw [if_pos (held.mpr known), if_pos known]
        · have none : keptRows config rows key = [] := by
            unfold keptRows
            rw [List.filter_eq_nil_iff.mpr, List.take_nil]
            intro other within same
            exact known (mem_keysOf.mpr ⟨other, within, of_decide_eq_true same⟩)
          rw [if_neg fun there => known (held.mp there), if_neg known, List.map_append, List.map_singleton, none]
          rfl
      dsimp only
      rw [extended, List.map_map]
      refine List.map_congr_left fun other _ => ?_
      rw [Function.comp_apply, keptRows_concat, named]
      dsimp only
      by_cases same : other = key
      · subst same
        by_cases room : (keptRows config rows other).length < config.limit
        · simp [room, SourceRow.toItem]
        · simp [room]
      · simp [same, Ne.symm same]

/-- A candidate for each key under which enough rows are kept. -/
theorem mem_groupedResults :
    candidate ∈ groupedResults rows config format ↔ ∃ key ∈ keysOf config rows,
      config.minimumItems ≤ (keptRows config rows key).length ∧
        candidate = ⟨key, formatTitle (config.titleFormat.getD format) (config.displayKey key) "item".toList config.limit,
          (keptRows config rows key).map SourceRow.toItem, []⟩ := by
  unfold groupedResults
  rw [groups_eq, List.filterMap_map, List.mem_filterMap]
  refine exists_congr fun key => and_congr_right fun _ => ?_
  rw [Function.comp_apply, List.length_map, Option.ite_none_left_eq_some, Nat.not_lt, Option.some.injEq]
  exact and_congr_right fun _ => eq_comm

/-! ## What a candidate lists -/

/-- What is asked of the items of a candidate. -/
structure Proper (config : BuilderConfig ν) (items : List CollectionBuilderItem) : Prop where
  distinct : (items.map (·.mediaItemId)).Nodup
  ascending : (items.map (·.sourceRank)).Pairwise (· < ·)
  bounded : items.length ≤ config.limit
  enough : config.minimumItems ≤ (items.map (·.mediaItemId)).dedup.length

/-- Under every key that gets a candidate, the rows that are kept are of one genre, person,
decade or text, and no two of them are two credits for one item. -/
def Undivided (config : BuilderConfig ν) (rows : List SourceRow) : Prop :=
  ∀ key, config.minimumItems ≤ (keptRows config rows key).length →
    ∀ a ∈ keptRows config rows key, ∀ b ∈ keptRows config rows key,
      a.partition = b.partition ∧ (a.mediaItemId = b.mediaItemId → a.credit = b.credit)

section
variable {key : List Char}

theorem numbered_keptRows (answered : Answered rows) (key : List Char) :
    Numbered SourceRow.partition SourceRow.sourceRank (keptRows config rows key) := by
  refine (answered.numbered.filter fun a memberA b memberB same => ?_).take config.limit
  rw [keyOf, keyOf, answered.keyed a memberA b memberB same]

theorem origins_keptRows (config : BuilderConfig ν) (answered : Answered rows) (key : List Char) :
    ((keptRows config rows key).map fun row => (row.partition, row.mediaItemId, row.credit)).Nodup :=
  answered.distinct.sublist (((List.take_sublist _ _).trans List.filter_sublist).map _)

theorem keptRows_length : (keptRows config rows key).length ≤ config.limit := List.length_take_le _ _

theorem proper_keptRows_iff (answered : Answered rows)
    (enough : config.minimumItems ≤ (keptRows config rows key).length) :
    Proper config ((keptRows config rows key).map SourceRow.toItem) ↔
      ∀ a ∈ keptRows config rows key, ∀ b ∈ keptRows config rows key,
        a.partition = b.partition ∧ (a.mediaItemId = b.mediaItemId → a.credit = b.credit) := by
  have ranks : (((keptRows config rows key).map SourceRow.toItem).map (·.sourceRank)).Pairwise (· < ·) ↔
      ∀ a ∈ keptRows config rows key, ∀ b ∈ keptRows config rows key, a.partition = b.partition := by
    rw [← (numbered_keptRows answered key).ascending_iff, List.map_map, List.pairwise_map, List.pairwise_map]
    simp [SourceRow.toItem]
  have items : ((keptRows config rows key).map SourceRow.toItem).map (·.mediaItemId) =
      (keptRows config rows key).map (·.mediaItemId) := by
    rw [List.map_map]
    rfl
  have origins := origins_keptRows config answered key
  constructor
  · intro proper a memberA b memberB
    refine ⟨ranks.mp proper.ascending a memberA b memberB, fun same => ?_⟩
    have distinct := proper.distinct
    rw [items] at distinct
    rw [List.inj_on_of_nodup_map distinct memberA memberB same]
  · intro undivided
    have distinct : ((keptRows config rows key).map (·.mediaItemId)).Nodup := by
      refine (origins.of_map _).map_on fun a memberA b memberB same => ?_
      obtain ⟨part, credit⟩ := undivided a memberA b memberB
      exact List.inj_on_of_nodup_map origins memberA memberB (by rw [part, same, credit same])
    refine ⟨items ▸ distinct, ranks.mpr fun a memberA b memberB => (undivided a memberA b memberB).1, ?_, ?_⟩
    · rw [List.length_map]
      exact keptRows_length
    · rw [items, distinct.dedup, List.length_map]
      exact enough

theorem candidates_proper_iff (answered : Answered rows) (format : List Char) :
    (∀ candidate ∈ groupedResults rows config format, Proper config candidate.items) ↔ Undivided config rows := by
  constructor
  · intro proper key enough a memberA
    have known : key ∈ keysOf config rows := mem_keysOf.mpr ⟨a, of_mem_keptRows memberA⟩
    exact (proper_keptRows_iff answered enough).mp (proper _ (mem_groupedResults.mpr ⟨key, known, enough, rfl⟩)) a memberA
  · intro undivided candidate member
    obtain ⟨key, -, enough, rfl⟩ := mem_groupedResults.mp member
    exact (proper_keptRows_iff answered enough).mpr (undivided key enough)

end

/-! ## Credits, people and names -/

/-- A row of people, by the credit it is for and the person credited. -/
theorem mem_personRows {row : Joined ν} (member : row ∈ personRows library libraryId db credited minimum topN) :
    ∃ credit ∈ library.mediaCredits, ∃ person ∈ library.people, credited credit = true ∧ credit.personId = person.id ∧
      credit.mediaItemId = row.item.id ∧ row = ⟨.person person.id, some credit.id, person.name, row.item⟩ := by
  obtain ⟨⟨⟨tp, mc⟩, mi⟩, there, rfl⟩ := List.mem_map.mp member
  simp only [List.mem_filter, List.mem_product, Bool.and_eq_true, decide_eq_true_eq] at there
  obtain ⟨⟨⟨top, joinedMc⟩, -⟩, ⟨person, item⟩, fits⟩ := there
  obtain ⟨counted, within, rfl⟩ := List.mem_map.mp top
  have counts := (List.mem_filter.mp (Arrangement.mem_orderBy.mp (List.mem_of_mem_take within))).1
  obtain ⟨tp, known, rfl⟩ := List.mem_map.mp counts
  exact ⟨mc, joinedMc, tp, known, fits, person, item.symm, rfl⟩

section
variable {window : Joined ν → Joined ν → Prop} [DecidableRel window]
  (answered : windowed db window (personRows library libraryId db credited minimum topN) = .ok rows)
include answered

theorem person_of_row (member : row ∈ rows) : ∃ credit ∈ library.mediaCredits, ∃ person ∈ library.people,
    credited credit = true ∧ credit.personId = person.id ∧ row.partition = .person person.id ∧
      row.credit = some credit.id ∧ row.keyName = some person.name ∧ row.mediaItemId = credit.mediaItemId := by
  obtain ⟨old, joined, _, rfl⟩ := windowed_joined answered row member
  obtain ⟨c, credit, p, person, fits, of, item, eq⟩ := mem_personRows joined
  rw [eq]
  exact ⟨c, credit, p, person, fits, of, rfl, rfl, rfl, item.symm⟩

/-- Rows of people are undivided where the credits they are kept for are of one person, and no two
of them for one item. -/
theorem undivided_people_iff : Undivided config rows ↔ ∀ key, config.minimumItems ≤ (keptRows config rows key).length →
    ∀ c ∈ library.mediaCredits, ∀ d ∈ library.mediaCredits, some c.id ∈ (keptRows config rows key).map (·.credit) →
      some d.id ∈ (keptRows config rows key).map (·.credit) →
        c.personId = d.personId ∧ (c.mediaItemId = d.mediaItemId → c = d) := by
  refine forall_congr' fun key => imp_congr_right fun _ => ⟨fun undivided c credit d credit' kept kept' => ?_,
    fun single a memberA b memberB => ?_⟩
  · obtain ⟨a, memberA, forA⟩ := List.mem_map.mp kept
    obtain ⟨b, memberB, forB⟩ := List.mem_map.mp kept'
    obtain ⟨c', known, p, -, -, of, part, id, -, item⟩ :=
      person_of_row answered (of_mem_keptRows memberA).1
    obtain ⟨d', known', q, -, -, of', part', id', -, item'⟩ :=
      person_of_row answered (of_mem_keptRows memberB).1
    obtain rfl := List.inj_on_of_nodup_map library.credit_ids known credit (Option.some.inj (id.symm.trans forA))
    obtain rfl := List.inj_on_of_nodup_map library.credit_ids known' credit' (Option.some.inj (id'.symm.trans forB))
    obtain ⟨same, once⟩ := undivided a memberA b memberB
    rw [part, part', Partition.person.injEq] at same
    rw [item, item', forA, forB, Option.some.injEq] at once
    exact ⟨by rw [of, of', same], fun same => List.inj_on_of_nodup_map library.credit_ids credit credit' (once same)⟩
  · obtain ⟨c, credit, p, -, -, of, part, id, -, item⟩ :=
      person_of_row answered (of_mem_keptRows memberA).1
    obtain ⟨d, credit', q, -, -, of', part', id', -, item'⟩ :=
      person_of_row answered (of_mem_keptRows memberB).1
    obtain ⟨same, once⟩ := single c credit d credit' (id ▸ List.mem_map_of_mem memberA) (id' ▸ List.mem_map_of_mem memberB)
    rw [part, part', item, item', id, id', ← of, ← of', same]
    exact ⟨rfl, fun sameItem => by rw [once sameItem]⟩

/-- So they are where no two people have names that are one when they are trimmed, and none has
two of the credits for one item. -/
theorem undivided_of_names
    (names : ∀ p ∈ library.people, ∀ q ∈ library.people, Text.trim p.name = Text.trim q.name → p.id = q.id)
    (once : ∀ c ∈ library.mediaCredits, ∀ d ∈ library.mediaCredits, credited c = true → credited d = true →
      c.personId = d.personId → c.mediaItemId = d.mediaItemId → c.id = d.id) : Undivided config rows := by
  intro key _ a memberA b memberB
  obtain ⟨memberA, namedA⟩ := of_mem_keptRows memberA
  obtain ⟨memberB, namedB⟩ := of_mem_keptRows memberB
  obtain ⟨c, credit, p, person, fits, of, part, id, named, item⟩ := person_of_row answered memberA
  obtain ⟨d, credit', q, person', fits', of', part', id', named', item'⟩ := person_of_row answered memberB
  rw [keyOf, named, Option.bind_some, Option.ite_none_left_eq_some] at namedA
  rw [keyOf, named', Option.bind_some, Option.ite_none_left_eq_some] at namedB
  have same := names p person q person' (Option.some.inj (namedA.2.trans namedB.2.symm))
  rw [part, part', item, item', id, id', same]
  exact ⟨rfl, fun sameItem => congrArg some (once c credit d credit' fits fits' (by rw [of, of', same]) sameItem)⟩

end

end Duskcue.Collections
