import Duskcue.Fingerprints

/-! Segments that recur in the episodes of a season. Each pair of episodes is compared
once, in the order of the list, and the match of a pair is noted under both its items. -/
namespace Duskcue.Segments
open Playback (Uuid)

variable {α : Type} {items : List α}

section
variable {φ : Type} (env : Similarities φ) (thresholds : ChromaprintThresholds)

/-- The shortest run of an intro, and the longest. -/
def minRun : Nat := durationToSubfps (DurationThresholds.forType .intro).minMs thresholds.subfpPeriodMs

def maxRun : Nat := durationToSubfps (DurationThresholds.forType .intro).maxTvMs thresholds.subfpPeriodMs

/-- The pairs of the two loops, in their order. -/
def pairs {α : Type} : List α → List (α × α)
  | [] => []
  | a :: rest => rest.map (fun b => (a, b)) ++ pairs rest

/-- `usize::saturating_add(1)`. -/
def saturatingSucc (n : Nat) : Nat := min (n + 1) 18446744073709551615

/-- The entry of an item keeps its most similar match and counts the others. -/
def note (matches_ : Table Uuid (RecurringMatch φ)) (match_ : RecurringMatch φ) : Table Uuid (RecurringMatch φ) :=
  match matches_.find match_.mediaItemId with
  | some existing =>
    let existing := if env.gt match_.similarity existing.similarity then match_ else existing
    matches_.put match_.mediaItemId
      { existing with matchingEpisodes := max (saturatingSucc existing.matchingEpisodes) 2 }
  | none => matches_.put match_.mediaItemId match_

def comparePair (matches_ : Table Uuid (RecurringMatch φ)) (pair : FingerprintWithContext × FingerprintWithContext) :
    Table Uuid (RecurringMatch φ) :=
  let (a, b) := pair
  if a.fingerprint.length < minRun thresholds ∨ b.fingerprint.length < minRun thresholds then matches_
  else match bestPairMatch env a b thresholds (minRun thresholds) (maxRun thresholds) with
    | none => matches_
    | some match_ =>
      note env (note env matches_ { match_ with mediaItemId := a.mediaItemId })
        { match_ with mediaItemId := b.mediaItemId }

/-- The matches, in no particular order. -/
def findRecurringSegments (fingerprints : List FingerprintWithContext) : List (RecurringMatch φ) :=
  if fingerprints.length < 2 then []
  else ((pairs fingerprints).foldl (comparePair env thresholds) Table.empty).records

end

/-! ## Which items are noted -/

section
variable {φ : Type} {env : Similarities φ} {thresholds : ChromaprintThresholds} {α : Type} {x y : α} {items : List α}

theorem mem_pairs : (x, y) ∈ pairs items ↔ List.Sublist [x, y] items := by
  induction items with
  | nil => simp [pairs]
  | cons a rest ih =>
    rw [pairs, List.mem_append, List.mem_map, ih]
    constructor
    · rintro (⟨b, member, same⟩ | later)
      · cases same
        exact List.Sublist.cons_cons _ (List.singleton_sublist.mpr member)
      · exact later.cons _
    · intro inside
      cases inside with
      | cons _ later => exact .inr later
      | cons_cons _ rest => exact .inl ⟨y, List.singleton_sublist.mp rest, rfl⟩

/-- The pair has a match. -/
def Matched (env : Similarities φ) (thresholds : ChromaprintThresholds)
    (pair : FingerprintWithContext × FingerprintWithContext) : Prop :=
  (bestPairMatch env pair.1 pair.2 thresholds (minRun thresholds) (maxRun thresholds)).isSome = true

/-- The match is that of a pair, noted under one of its items. -/
def NotedFrom (env : Similarities φ) (thresholds : ChromaprintThresholds)
    (examined : List (FingerprintWithContext × FingerprintWithContext)) (match_ : RecurringMatch φ) : Prop :=
  ∃ pair ∈ examined, ∃ found, bestPairMatch env pair.1 pair.2 thresholds (minRun thresholds) (maxRun thresholds) =
      some found ∧ (match_.mediaItemId = pair.1.mediaItemId ∨ match_.mediaItemId = pair.2.mediaItemId) ∧
    match_.startMs = found.startMs ∧ match_.endMs = found.endMs

/-- Two matches of one item over one interval. -/
structure SameSpan (match_ other : RecurringMatch φ) : Prop where
  item : match_.mediaItemId = other.mediaItemId
  start : match_.startMs = other.startMs
  stop : match_.endMs = other.endMs

theorem note_self (env : Similarities φ) (matches_ : Table Uuid (RecurringMatch φ)) (match_ : RecurringMatch φ) :
    ∃ kept, (note env matches_ match_).find match_.mediaItemId = some kept ∧
      (SameSpan kept match_ ∨ ∃ existing, matches_.find match_.mediaItemId = some existing ∧
        SameSpan kept existing) := by
  unfold note
  cases found : matches_.find match_.mediaItemId with
  | none => exact ⟨match_, Table.find_put_self .., .inl ⟨rfl, rfl, rfl⟩⟩
  | some existing =>
    refine ⟨_, Table.find_put_self .., ?_⟩
    cases env.gt match_.similarity existing.similarity
    · exact .inr ⟨existing, rfl, rfl, rfl, rfl⟩
    · exact .inl ⟨rfl, rfl, rfl⟩

theorem note_other {id : Uuid} {match_ : RecurringMatch φ}
    (other : id ≠ match_.mediaItemId) : (note env matches_ match_).find id = matches_.find id := by
  unfold note
  split <;> exact Table.find_put_ne other

/-- What the entries are after some pairs: each is under its own item and from one of the
pairs, and the items of every pair that matches have one. -/
structure Noted (env : Similarities φ) (thresholds : ChromaprintThresholds)
    (examined : List (FingerprintWithContext × FingerprintWithContext)) (matches_ : Table Uuid (RecurringMatch φ)) :
    Prop where
  keyed : ∀ id match_, matches_.find id = some match_ → match_.mediaItemId = id
  origin : ∀ id match_, matches_.find id = some match_ → NotedFrom env thresholds examined match_
  all : ∀ pair ∈ examined, Matched env thresholds pair →
    (matches_.find pair.1.mediaItemId).isSome = true ∧ (matches_.find pair.2.mediaItemId).isSome = true

variable {examined : List (FingerprintWithContext × FingerprintWithContext)}
  {pair : FingerprintWithContext × FingerprintWithContext} {matches_ : Table Uuid (RecurringMatch φ)}

theorem NotedFrom.congr (noted : NotedFrom env thresholds examined other)
    (same : SameSpan match_ other) : NotedFrom env thresholds examined match_ := by
  obtain ⟨pair, member, found, is, item, start, stop⟩ := noted
  exact ⟨pair, member, found, is, by rw [same.item]; exact item, same.start.trans start, same.stop.trans stop⟩

theorem NotedFrom.mono (noted : NotedFrom env thresholds examined match_) :
    NotedFrom env thresholds (examined ++ [pair]) match_ := by
  obtain ⟨other, member, rest⟩ := noted
  exact ⟨other, List.mem_append_left _ member, rest⟩

/-- One more entry, from the last of the pairs. -/
theorem note_noted (keyed : ∀ id m, matches_.find id = some m → m.mediaItemId = id)
    (origin : ∀ id m, matches_.find id = some m → NotedFrom env thresholds examined m)
    (noted : NotedFrom env thresholds examined match_) :
    (∀ id m, (note env matches_ match_).find id = some m → m.mediaItemId = id) ∧
      (∀ id m, (note env matches_ match_).find id = some m → NotedFrom env thresholds examined m) ∧
      ((note env matches_ match_).find match_.mediaItemId).isSome = true ∧
      ∀ id, (matches_.find id).isSome = true → ((note env matches_ match_).find id).isSome = true := by
  obtain ⟨kept, found, span⟩ := note_self env matches_ match_
  have own : kept.mediaItemId = match_.mediaItemId ∧ NotedFrom env thresholds examined kept := by
    rcases span with same | ⟨existing, held, same⟩
    · exact ⟨same.item, noted.congr same⟩
    · exact ⟨same.item.trans (keyed _ _ held), (origin _ _ held).congr same⟩
  refine ⟨fun id m held => ?_, fun id m held => ?_, by rw [found]; rfl, fun id held => ?_⟩
  all_goals by_cases same : id = match_.mediaItemId
  · subst same
    cases found.symm.trans held
    exact own.1
  · rw [note_other same] at held
    exact keyed id m held
  · subst same
    cases found.symm.trans held
    exact own.2
  · rw [note_other same] at held
    exact origin id m held
  · subst same
    rw [found]
    rfl
  · rw [note_other same]
    exact held

/-- Both fingerprints of a pair that matches hold a run. -/
theorem Matched.length (matched : Matched env thresholds pair) :
    minRun thresholds ≤ pair.1.fingerprint.length ∧ minRun thresholds ≤ pair.2.fingerprint.length := by
  cases held : bestRun env pair.1 pair.2 thresholds (minRun thresholds) (maxRun thresholds) with
  | none =>
    rw [Matched, bestPairMatch_none held] at matched
    cases matched
  | some best =>
    obtain ⟨⟨searched, _, long⟩, _⟩ := bestRun_some held
    refine ⟨by omega, ?_⟩
    obtain ⟨k, run⟩ := LongRuns.exists_run (minRun thresholds) (maxRun thresholds)
      (marks pair.1 pair.2 thresholds best.offset)
    by_cases empty : minRun thresholds = 0
    · omega
    · unfold runLenAt at long
      obtain ⟨_, _, y, _, there, _⟩ := run_marks.mp run (minRun thresholds - 1) (by omega)
      obtain ⟨within, _⟩ := List.getElem?_eq_some_iff.mp there
      omega

theorem Noted.compare (noted : Noted env thresholds examined matches_)
    (pair : FingerprintWithContext × FingerprintWithContext) :
      Noted env thresholds (examined ++ [pair]) (comparePair env thresholds matches_ pair) := by
  obtain ⟨a, b⟩ := pair
  have earlier : ∀ id m, matches_.find id = some m → NotedFrom env thresholds (examined ++ [(a, b)]) m :=
    fun id m held => (noted.origin id m held).mono
  cases found : bestPairMatch env a b thresholds (minRun thresholds) (maxRun thresholds) with
  | none =>
    have same : comparePair env thresholds matches_ (a, b) = matches_ := by
      simp only [comparePair, found, ite_self]
    rw [same]
    refine ⟨noted.keyed, earlier, fun pair member matched => ?_⟩
    rcases List.mem_append.mp member with member | last
    · exact noted.all pair member matched
    · obtain rfl := List.mem_singleton.mp last
      rw [Matched, found] at matched
      cases matched
  | some match_ =>
    have matched : Matched env thresholds (a, b) := by
      rw [Matched, found]
      rfl
    obtain ⟨left, right⟩ : minRun thresholds ≤ a.fingerprint.length ∧ minRun thresholds ≤ b.fingerprint.length :=
      matched.length
    have stepped : comparePair env thresholds matches_ (a, b) =
        note env (note env matches_ { match_ with mediaItemId := a.mediaItemId })
          { match_ with mediaItemId := b.mediaItemId } := by
      simp only [comparePair, found]
      exact if_neg (by omega)
    have last : (a, b) ∈ examined ++ [(a, b)] := by simp
    have fromFirst : NotedFrom env thresholds (examined ++ [(a, b)]) { match_ with mediaItemId := a.mediaItemId } :=
      ⟨_, last, match_, found, .inl rfl, rfl, rfl⟩
    have fromSecond : NotedFrom env thresholds (examined ++ [(a, b)]) { match_ with mediaItemId := b.mediaItemId } :=
      ⟨_, last, match_, found, .inr rfl, rfl, rfl⟩
    obtain ⟨keyed, origin, first, kept⟩ := note_noted noted.keyed earlier fromFirst
    obtain ⟨keyed, origin, second, kept'⟩ := note_noted keyed origin fromSecond
    rw [stepped]
    refine ⟨keyed, origin, fun pair member matched => ?_⟩
    rcases List.mem_append.mp member with member | last
    · obtain ⟨left, right⟩ := noted.all pair member matched
      exact ⟨kept' _ (kept _ left), kept' _ (kept _ right)⟩
    · obtain rfl := List.mem_singleton.mp last
      exact ⟨kept' _ first, second⟩

theorem noted_foldl (rest : List (FingerprintWithContext × FingerprintWithContext))
    (noted : Noted env thresholds examined matches_) :
    Noted env thresholds (examined ++ rest) (rest.foldl (comparePair env thresholds) matches_) := by
  induction rest generalizing examined matches_ with
  | nil => rwa [List.append_nil]
  | cons pair _ ih =>
    have all := ih (noted.compare pair)
    rwa [List.append_assoc, List.singleton_append] at all

variable {fingerprints : List FingerprintWithContext}

theorem noted_all (thresholds : ChromaprintThresholds) (env : Similarities φ)
    (examined : List (FingerprintWithContext × FingerprintWithContext)) :
    Noted env thresholds examined (examined.foldl (comparePair env thresholds) Table.empty) := by
  have start : Noted env thresholds [] Table.empty :=
    ⟨nofun, nofun, nofun⟩
  exact noted_foldl examined start

/-- Every match returned is noted for an item of some pair. -/
theorem notedFrom_of_mem (member : match_ ∈ findRecurringSegments env thresholds fingerprints) :
    NotedFrom env thresholds (pairs fingerprints) match_ := by
  unfold findRecurringSegments at member
  split at member
  · cases member
  · obtain ⟨id, held⟩ := Table.mem_records.mp member
    exact (noted_all thresholds env _).origin id match_ held

/-- The items with a match. -/
def reported (env : Similarities φ) (thresholds : ChromaprintThresholds) (fingerprints : List FingerprintWithContext) :
    List Uuid :=
  (findRecurringSegments env thresholds fingerprints).map RecurringMatch.mediaItemId

theorem mem_reported {id : Uuid} : id ∈ reported env thresholds fingerprints ↔
    ∃ pair ∈ pairs fingerprints, Matched env thresholds pair ∧
      (id = pair.1.mediaItemId ∨ id = pair.2.mediaItemId) := by
  have noted := noted_all thresholds env (pairs fingerprints)
  rw [reported, List.mem_map]
  constructor
  · rintro ⟨match_, member, rfl⟩
    obtain ⟨pair, inside, found, is, item, _⟩ := notedFrom_of_mem member
    exact ⟨pair, inside, Option.isSome_of_eq_some is, item⟩
  · rintro ⟨pair, inside, matched, item⟩
    have two : ¬ fingerprints.length < 2 := by
      have size := (mem_pairs.mp inside).length_le
      simp only [List.length_cons, List.length_nil] at size
      omega
    have entry : (((pairs fingerprints).foldl (comparePair env thresholds) Table.empty).find id).isSome = true := by
      obtain ⟨left, right⟩ := noted.all pair inside matched
      rcases item with rfl | rfl
      · exact left
      · exact right
    obtain ⟨match_, held⟩ := Option.isSome_iff_exists.mp entry
    refine ⟨match_, ?_, noted.keyed id match_ held⟩
    rw [findRecurringSegments, if_neg two]
    exact Table.mem_records.mpr ⟨id, held⟩

end

/-! ## Which pairs match -/

/-- The alignment of the pair that is kept has a first run of fifteen seconds. -/
def PairFound {φ : Type} (env : Similarities φ) (thresholds : ChromaprintThresholds) (a b : FingerprintWithContext) :
    Prop :=
  ∃ offset k l, KeptAt env a b thresholds (minRun thresholds) (maxRun thresholds) offset ∧
    FirstRun a b thresholds (minRun thresholds) offset k l ∧ minRun thresholds ≤ l ∧
    15000 ≤ l * thresholds.subfpPeriodMs

section
variable {φ : Type} {env : Similarities φ} {thresholds : ChromaprintThresholds} {a b : FingerprintWithContext}
  {offset k l least : Nat}

theorem FirstRun.shorten (first : FirstRun a b thresholds least offset k l) (le : l' ≤ l) :
    FirstRun a b thresholds least offset k l' :=
  ⟨fun j less => first.1 j (by omega), first.2⟩

theorem durationToSubfps_eq (positive : 0 < period) (low : 0 ≤ ms) (high : ms ≤ 2147483647)
    (fits : period ≤ 2147483647) : (durationToSubfps ms period : Int) = ms / period := by
  rw [durationToSubfps, if_neg (by omega), Int.natCast_ediv, asUsize_of_nonneg low (by omega),
    asUsize_of_nonneg (by omega) (by omega)]

/-- A run as long as the search lets it become lasts fifteen seconds. -/
theorem maxRun_lasts (positive : 0 < thresholds.subfpPeriodMs) :
    minRun thresholds ≤ maxRun thresholds ∧
      15000 ≤ (max (maxRun thresholds) 1 : Nat) * thresholds.subfpPeriodMs := by
  have fits := fits32_iff.mp thresholds.periodFits
  have shortest : (minRun thresholds : Int) = 15000 / thresholds.subfpPeriodMs :=
    durationToSubfps_eq positive (by decide) (by decide) fits.2
  have longest : (maxRun thresholds : Int) = 120000 / thresholds.subfpPeriodMs :=
    durationToSubfps_eq positive (by decide) (by decide) fits.2
  have order : (15000 : Int) / thresholds.subfpPeriodMs ≤ 120000 / thresholds.subfpPeriodMs :=
    Int.ediv_le_ediv positive (by decide)
  refine ⟨by omega, ?_⟩
  by_cases coarse : 15000 ≤ thresholds.subfpPeriodMs
  · have one : thresholds.subfpPeriodMs ≤ (max (maxRun thresholds) 1 : Nat) * thresholds.subfpPeriodMs :=
      le_mul_of_one_le_left (by omega) (by omega)
    omega
  · have whole := Int.emod_add_mul_ediv 120000 thresholds.subfpPeriodMs
    have part := Int.emod_lt_of_pos 120000 positive
    have grown : (120000 : Int) / thresholds.subfpPeriodMs * thresholds.subfpPeriodMs ≤
        (max (maxRun thresholds) 1 : Nat) * thresholds.subfpPeriodMs :=
      Int.mul_le_mul_of_nonneg_right (by omega) (by omega)
    rw [Int.mul_comm] at whole
    omega

theorem scan_zero_one (marks : List Bool) : LongRuns.scan 0 0 0 marks = LongRuns.scan 0 1 0 marks := by
  cases marks with
  | nil => rfl
  | cons mark => cases mark <;> rfl

theorem runLenAt_max (positive : 0 < thresholds.subfpPeriodMs) :
    runLenAt a b thresholds (minRun thresholds) (maxRun thresholds) offset =
      runLenAt a b thresholds (minRun thresholds) (max (maxRun thresholds) 1) offset := by
  by_cases none : maxRun thresholds = 0
  · have order := (maxRun_lasts positive).1
    have first : minRun thresholds = 0 := by omega
    rw [runLenAt, runLenAt, none, first]
    exact scan_zero_one _
  · rw [Nat.max_eq_left (by omega)]

/-- Which pairs match, told from the two fingerprints. -/
theorem matched_iff : Matched env thresholds (a, b) ↔ PairFound env thresholds a b := by
  unfold Matched
  constructor
  · intro matched
    cases held : bestRun env a b thresholds (minRun thresholds) (maxRun thresholds) with
    | none =>
      rw [bestPairMatch_none held] at matched
      cases matched
    | some best =>
      rw [bestPairMatch_eq held] at matched
      by_cases lasts : 15000 ≤ (best.runLen : Int) * thresholds.subfpPeriodMs
      · obtain ⟨⟨_, _, long⟩, length⟩ := bestRun_some held
        have most : runLenAt a b thresholds (minRun thresholds) (maxRun thresholds) best.offset ≤
            max (maxRun thresholds) 1 := LongRuns.scan_le (.inr rfl)
        rw [runLenAt_max (period_pos lasts)] at long length most
        obtain ⟨k, first⟩ := (firstRun_iff (length ▸ long) (positive_of_lasting lasts) (length ▸ most)).mpr
          ⟨length.le, long⟩
        exact ⟨best.offset, k, best.runLen, (bestRun_eq_some.mp held).1, first, length ▸ long, lasts⟩
      · rw [if_neg lasts] at matched
        cases matched
  · rintro ⟨offset, k, l, kept, first, long, lasts⟩
    have positive := period_pos lasts
    obtain ⟨order, most⟩ := maxRun_lasts positive
    -- The scan may stop before the run ends, but not before fifteen seconds.
    have lasts' : 15000 ≤ (min l (max (maxRun thresholds) 1) : Nat) * thresholds.subfpPeriodMs := by
      rcases Nat.le_total l (max (maxRun thresholds) 1) with short | full
      · rwa [Nat.min_eq_left short]
      · rwa [Nat.min_eq_right full]
    have longer := ((firstRun_iff (by omega) (positive_of_lasting lasts') (Nat.min_le_right _ _)).mp
      ⟨k, first.shorten (Nat.min_le_left _ _)⟩).1
    rw [← runLenAt_max positive, ← bestAt_runLen] at longer
    rw [bestPairMatch_eq kept.bestRun,
      if_pos (lasts'.trans (Int.mul_le_mul_of_nonneg_right (Int.ofNat_le.mpr longer) positive.le))]
    rfl

end

/-! ## The order of the episodes -/

/-- Whatever order the episodes are in, the same items have a match. -/
def OrderIndependent {φ : Type} (env : Similarities φ) (thresholds : ChromaprintThresholds)
    (fingerprints : List FingerprintWithContext) : Prop :=
  ∀ fingerprints' : List FingerprintWithContext, fingerprints'.Perm fingerprints →
    ∀ id, id ∈ reported env thresholds fingerprints' ↔ id ∈ reported env thresholds fingerprints

/-- Every episode that is found with another in one order of the two is found with some
episode in both. -/
def FoundBothWays {φ : Type} (env : Similarities φ) (thresholds : ChromaprintThresholds)
    (fingerprints : List FingerprintWithContext) : Prop :=
  ∀ x ∈ fingerprints,
    (∃ y ∈ fingerprints, y ≠ x ∧ (PairFound env thresholds x y ∨ PairFound env thresholds y x)) →
    ∃ y ∈ fingerprints, y ≠ x ∧ PairFound env thresholds x y ∧ PairFound env thresholds y x

section
variable {φ : Type} {env : Similarities φ} {thresholds : ChromaprintThresholds} {x y : FingerprintWithContext}
  {fingerprints fingerprints' : List FingerprintWithContext}

/-- An episode is reported when a pair it is part of is found in the order of the list. -/
theorem mem_reported_iff (distinct : (fingerprints.map FingerprintWithContext.mediaItemId).Nodup)
    (member : x ∈ fingerprints) : x.mediaItemId ∈ reported env thresholds fingerprints ↔
      ∃ y ∈ fingerprints, (List.Sublist [x, y] fingerprints ∧ PairFound env thresholds x y) ∨
        (List.Sublist [y, x] fingerprints ∧ PairFound env thresholds y x) := by
  have same : ∀ {z}, z ∈ fingerprints → x.mediaItemId = z.mediaItemId → x = z :=
    fun inside ids => List.inj_on_of_nodup_map distinct member inside ids
  rw [mem_reported]
  constructor
  · rintro ⟨⟨a, b⟩, inside, matched, item⟩
    have sub := mem_pairs.mp inside
    have first : a ∈ fingerprints := sub.subset (by simp)
    have second : b ∈ fingerprints := sub.subset (by simp)
    have found := matched_iff.mp matched
    rcases item with item | item
    · cases same first item
      exact ⟨b, second, .inl ⟨sub, found⟩⟩
    · cases same second item
      exact ⟨a, first, .inr ⟨sub, found⟩⟩
  · rintro ⟨y, _, ⟨sub, found⟩ | ⟨sub, found⟩⟩
    · exact ⟨(x, y), mem_pairs.mpr sub, matched_iff.mpr found, .inl rfl⟩
    · exact ⟨(y, x), mem_pairs.mpr sub, matched_iff.mpr found, .inr rfl⟩

theorem sublist_or {x y : α} (first : x ∈ items) (second : y ∈ items) (other : y ≠ x) :
    List.Sublist [x, y] items ∨ List.Sublist [y, x] items := by
  induction items with
  | nil => cases first
  | cons z _ ih =>
    rcases List.mem_cons.mp first with rfl | held
    · have later := (List.mem_cons.mp second).resolve_left other
      exact .inl (List.Sublist.cons_cons _ (List.singleton_sublist.mpr later))
    · rcases List.mem_cons.mp second with rfl | second
      · exact .inr (List.Sublist.cons_cons _ (List.singleton_sublist.mpr held))
      · exact (ih held second).imp (List.Sublist.cons _) (List.Sublist.cons _)

theorem sublist_not_both {x y : α} (distinct : items.Nodup)
    (order : List.Sublist [x, y] items) (reverse : List.Sublist [y, x] items) : False := by
  induction items with
  | nil => cases order
  | cons z _ ih =>
    obtain ⟨fresh, distinct⟩ := List.nodup_cons.mp distinct
    cases order with
    | cons _ order =>
      cases reverse with
      | cons _ reverse => exact ih distinct order reverse
      | cons_cons => exact fresh (order.subset (by simp))
    | cons_cons _ order =>
      cases reverse with
      | cons _ reverse => exact fresh (reverse.subset (by simp))
      | cons_cons => exact fresh (List.singleton_sublist.mp order)

theorem ne_of_sublist (distinct : fingerprints.Nodup) (order : List.Sublist [x, y] fingerprints) : y ≠ x := by
  rintro rfl
  exact sublist_not_both distinct order order

/-- One order may put the episodes that find `x` behind it, and all others ahead. -/
theorem adverse_order (distinct : (fingerprints.map FingerprintWithContext.mediaItemId).Nodup)
    (member : x ∈ fingerprints)
    (independent : OrderIndependent env thresholds fingerprints)
    (noted : x.mediaItemId ∈ reported env thresholds fingerprints) :
    ∃ y ∈ fingerprints, y ≠ x ∧ PairFound env thresholds x y ∧ PairFound env thresholds y x := by
  classical
  let others := fingerprints.erase x
  let front := others.filter fun z => !decide (PairFound env thresholds z x)
  let back := others.filter fun z => decide (PairFound env thresholds z x)
  have arranged : (front ++ x :: back).Perm fingerprints := by
    refine (List.perm_middle.trans (List.Perm.cons x ?_)).trans (List.perm_cons_erase member).symm
    exact List.perm_append_comm.trans (List.filter_append_perm _ others)
  have distinct' := (arranged.map FingerprintWithContext.mediaItemId).nodup_iff.mpr distinct
  have inside : x ∈ front ++ x :: back := by simp
  obtain ⟨y, there, found⟩ := (mem_reported_iff distinct' inside).mp ((independent _ arranged _).mpr noted)
  have unique := distinct'.of_map
  have ahead : ∀ {z}, z ∈ front → List.Sublist [z, x] (front ++ x :: back) := fun held =>
    (List.singleton_sublist.mpr held).append (List.singleton_sublist.mpr List.mem_cons_self)
  have behind : ∀ {z}, z ∈ back → List.Sublist [x, z] (front ++ x :: back) := fun held =>
    (List.Sublist.cons_cons x (List.singleton_sublist.mpr held)).trans (List.sublist_append_right _ _)
  rcases found with ⟨order, found⟩ | ⟨order, found⟩
  · have other := ne_of_sublist unique order
    have held : y ∈ back := by
      rcases List.mem_append.mp there with early | late
      · exact absurd (ahead early) fun reverse => sublist_not_both unique order reverse
      · exact (List.mem_cons.mp late).resolve_left other
    exact ⟨y, arranged.mem_iff.mp there, other, found, of_decide_eq_true (List.mem_filter.mp held).2⟩
  · have other := (ne_of_sublist unique order).symm
    have held : y ∈ front := by
      rcases List.mem_append.mp there with early | late
      · exact early
      · exact absurd (behind ((List.mem_cons.mp late).resolve_left other)) fun reverse =>
          sublist_not_both unique reverse order
    have missed := (List.mem_filter.mp held).2
    simp [found] at missed

/-- Some order puts two episodes side by side. -/
theorem favourable_order (member : x ∈ fingerprints) (second : y ∈ fingerprints) (other : y ≠ x) :
    ∃ rest, (x :: y :: rest).Perm fingerprints := by
  refine ⟨(fingerprints.erase x).erase y, ?_⟩
  have held : y ∈ fingerprints.erase x := (List.mem_erase_of_ne other).mpr second
  exact ((List.perm_cons_erase held).symm.cons x).trans (List.perm_cons_erase member).symm

end

/-- The items that are reported depend on the order of the episodes unless every match in
one order has a match in both. -/
theorem order_independent_iff {φ : Type} (env : Similarities φ) (thresholds : ChromaprintThresholds)
    (fingerprints : List FingerprintWithContext)
    (distinct : (fingerprints.map FingerprintWithContext.mediaItemId).Nodup) :
    OrderIndependent env thresholds fingerprints ↔ FoundBothWays env thresholds fingerprints := by
  constructor
  · rintro independent x member ⟨y, second, other, found⟩
    refine adverse_order distinct member independent ?_
    rcases found with found | found
    · obtain ⟨rest, arranged⟩ := favourable_order member second other
      have distinct' := (arranged.map FingerprintWithContext.mediaItemId).nodup_iff.mpr distinct
      exact (independent _ arranged _).mp
        ((mem_reported_iff distinct' (by simp)).mpr ⟨y, by simp, .inl ⟨by simp, found⟩⟩)
    · obtain ⟨rest, arranged⟩ := favourable_order second member other.symm
      have distinct' := (arranged.map FingerprintWithContext.mediaItemId).nodup_iff.mpr distinct
      exact (independent _ arranged _).mp
        ((mem_reported_iff distinct' (by simp)).mpr ⟨y, by simp, .inr ⟨by simp, found⟩⟩)
  · intro both
    have transfer : ∀ {one two : List FingerprintWithContext}, one.Perm fingerprints → two.Perm fingerprints →
        ∀ id, id ∈ reported env thresholds one → id ∈ reported env thresholds two := by
      intro one two first second id noted
      have distinctOne := (first.map FingerprintWithContext.mediaItemId).nodup_iff.mpr distinct
      have distinctTwo := (second.map FingerprintWithContext.mediaItemId).nodup_iff.mpr distinct
      obtain ⟨⟨a, b⟩, inside, _, item⟩ := mem_reported.mp noted
      have order := mem_pairs.mp inside
      obtain ⟨x, member, rfl⟩ : ∃ x ∈ one, id = x.mediaItemId := by
        rcases item with rfl | rfl
        · exact ⟨a, order.subset (by simp), rfl⟩
        · exact ⟨b, order.subset (by simp), rfl⟩
      obtain ⟨y, there, found⟩ := (mem_reported_iff distinctOne member).mp noted
      have other : y ≠ x := by
        rcases found with ⟨order, _⟩ | ⟨order, _⟩
        · exact ne_of_sublist distinctOne.of_map order
        · exact (ne_of_sublist distinctOne.of_map order).symm
      obtain ⟨z, partner, different, forth, back⟩ := both x (first.mem_iff.mp member)
        ⟨y, first.mem_iff.mp there, other, found.imp And.right And.right⟩
      have here : x ∈ two := second.mem_iff.mpr (first.mem_iff.mp member)
      have there : z ∈ two := second.mem_iff.mpr partner
      refine (mem_reported_iff distinctTwo here).mpr ⟨z, there, ?_⟩
      exact (sublist_or here there different).imp (fun order => ⟨order, forth⟩) fun order => ⟨order, back⟩
    exact fun fingerprints' arranged id =>
      ⟨transfer arranged (List.Perm.refl _) id, transfer (List.Perm.refl _) arranged id⟩

/-! ## What a match says of its item -/

/-- Another episode of the list agrees with the item of the match, at some shift, wherever
the match says so. -/
def Recurs {φ : Type} (thresholds : ChromaprintThresholds) (fingerprints : List FingerprintWithContext)
    (match_ : RecurringMatch φ) : Prop :=
  ∃ (i j : Nat) (item other : FingerprintWithContext), i ≠ j ∧ fingerprints[i]? = some item ∧
    fingerprints[j]? = some other ∧ item.mediaItemId = match_.mediaItemId ∧
    ∃ shift : Int, ∀ (n : Nat) x, item.fingerprint[n]? = some x → match_.startMs ≤ n * thresholds.subfpPeriodMs →
      n * thresholds.subfpPeriodMs < match_.endMs →
      ∃ (m : Nat) (y : BitVec 32), (m : Int) = n + shift ∧ other.fingerprint[m]? = some y ∧
        thresholds.minBitAgreement ≤ bitAgreement x y

/-- The run that is kept starts with both fingerprints: no other alignment displaces it. -/
structure Together {φ : Type} (env : Similarities φ) (thresholds : ChromaprintThresholds)
    (a b : FingerprintWithContext) : Prop where
  start : ∃ l, minRun thresholds ≤ l ∧ 0 < l ∧ AgreeingRun a b thresholds 0 0 l
  best : ∀ offset, offset ≠ 0 → FoundAt a b thresholds (minRun thresholds) (maxRun thresholds) offset →
    ¬ Displaces env a b thresholds (minRun thresholds) (maxRun thresholds) offset 0

section
variable {φ : Type} {env : Similarities φ} {thresholds : ChromaprintThresholds} {a b : FingerprintWithContext}
  {fingerprints : List FingerprintWithContext}

theorem exists_indices (order : List.Sublist [x, y] items) :
    ∃ i j : Nat, i < j ∧ items[i]? = some x ∧ items[j]? = some y := by
  induction items with
  | nil => cases order
  | cons z _ ih =>
    cases order with
    | cons _ order =>
      obtain ⟨i, j, less, first, second⟩ := ih order
      exact ⟨i + 1, j + 1, by omega, by simpa using first, by simpa using second⟩
    | cons_cons _ order =>
      obtain ⟨j, second⟩ := List.mem_iff_getElem?.mp (List.singleton_sublist.mp order)
      exact ⟨0, j + 1, by omega, rfl, by simpa using second⟩

theorem bitAgreement_comm (x y : BitVec 32) : bitAgreement x y = bitAgreement y x := by
  rw [bitAgreement, bitAgreement, BitVec.xor_comm]

theorem Together.kept (together : Together env thresholds a b) {best : Best φ} (positive : 0 < thresholds.subfpPeriodMs)
    (held : bestRun env a b thresholds (minRun thresholds) (maxRun thresholds) = some best) :
    best.offset = 0 ∧ AgreeingRun a b thresholds 0 0 best.runLen := by
  obtain ⟨l, long, some_, agreeing⟩ := together.start
  obtain ⟨⟨searched, _, _⟩, length⟩ := bestRun_some held
  have first : FirstRun a b thresholds (minRun thresholds) 0 0 l := ⟨agreeing, fun _ _ _ _ => Nat.zero_le _⟩
  have order := (maxRun_lasts positive).1
  have reached : minRun thresholds ≤ runLenAt a b thresholds (minRun thresholds) (maxRun thresholds) 0 := by
    rw [runLenAt_max positive]
    exact ((firstRun_iff (by omega) (by omega) (Nat.min_le_right l (max (maxRun thresholds) 1))).mp
      ⟨0, first.shorten (Nat.min_le_left _ _)⟩).2
  have kept : KeptAt env a b thresholds (minRun thresholds) (maxRun thresholds) 0 :=
    LongRuns.last_of_first ⟨by omega, Nat.zero_le _, reached⟩ (fun _ before => by omega)
      fun later after => together.best later after.ne'
  have offset := (bestRun_eq_some.mp held).1.unique kept
  refine ⟨offset, ?_⟩
  rw [length, offset]
  exact run_marks.mp (LongRuns.run_from_start (run_marks.mpr agreeing) long some_)

end

/-- Where every pair that matches starts together, each match is a recurrence. -/
theorem matches_recur {φ : Type} (env : Similarities φ) (thresholds : ChromaprintThresholds)
    (fingerprints : List FingerprintWithContext)
    (together : ∀ pair ∈ pairs fingerprints,
      PairFound env thresholds pair.1 pair.2 → Together env thresholds pair.1 pair.2) :
    ∀ match_ ∈ findRecurringSegments env thresholds fingerprints, Recurs thresholds fingerprints match_ := by
  intro match_ member
  obtain ⟨⟨a, b⟩, inside, found, is, item, start, stop⟩ := notedFrom_of_mem member
  have matched : PairFound env thresholds a b := matched_iff.mp (Option.isSome_of_eq_some is)
  have positive : 0 < thresholds.subfpPeriodMs := by
    obtain ⟨_, _, _, _, _, _, lasts⟩ := matched
    exact period_pos lasts
  cases held : bestRun env a b thresholds (minRun thresholds) (maxRun thresholds) with
  | none => cases (bestPairMatch_none held).symm.trans is
  | some best =>
    obtain ⟨first, agreeing⟩ := (together (a, b) inside matched).kept positive held
    rw [bestPairMatch_eq held] at is
    split at is
    · cases is
      rw [first, Nat.zero_add] at stop
      have within : ∀ n : Nat, n * thresholds.subfpPeriodMs < match_.endMs → n < best.runLen := by
        intro n before
        rw [stop] at before
        exact_mod_cast lt_of_mul_lt_mul_right before positive.le
      obtain ⟨i, j, less, here, there⟩ := exists_indices (mem_pairs.mp inside)
      rcases item with item | item
      · refine ⟨i, j, a, b, by omega, here, there, item.symm, 0, fun n x at_ _ before => ?_⟩
        obtain ⟨_, x', y, first, second, agree⟩ := agreeing n (within n before)
        simp only [Nat.zero_add] at first second
        cases at_.symm.trans first
        exact ⟨n, y, by simp, second, agree⟩
      · refine ⟨j, i, b, a, by omega, there, here, item.symm, 0, fun n y at_ _ before => ?_⟩
        obtain ⟨_, x, y', first, second, agree⟩ := agreeing n (within n before)
        simp only [Nat.zero_add] at first second
        cases at_.symm.trans second
        exact ⟨n, x, by simp, first, bitAgreement_comm x y ▸ agree⟩
    · cases is

/-! ## A theme at two places -/

namespace Sample

/-- A tone that silence does not agree with. -/
def tone : BitVec 32 := 0xFFFFFFFF

/-- Sixteen bits of it agree with silence, and sixteen with the tone. -/
def mixed : BitVec 32 := 0xFFFF0000

/-- As many sub-fingerprints, told by their positions. -/
def sound (size : Nat) (at_ : Nat → BitVec 32) : List (BitVec 32) := (List.range size).map at_

/-- Silence with a tone in its middle, and another sound behind it. -/
def early : FingerprintWithContext :=
  episode 1 (sound 1402 fun n => if n = 700 then tone else if n = 1401 then mixed else 0)

/-- The same after a hundred sub-fingerprints of a third sound. -/
def late : FingerprintWithContext :=
  episode 2 (sound 1501 fun n => if n < 100 then ~~~mixed else if n = 800 then tone else 0)

theorem sound_getElem {at_ : Nat → BitVec 32} : (sound size at_)[n]? = some x ↔ n < size ∧ at_ n = x := by
  rw [sound, List.getElem?_map, Option.map_eq_some_iff]
  constructor
  · rintro ⟨m, found, rfl⟩
    obtain ⟨within, rfl⟩ := List.getElem?_eq_some_iff.mp found
    rw [List.getElem_range]
    exact ⟨by simpa using within, rfl⟩
  · rintro ⟨within, rfl⟩
    exact ⟨n, List.getElem?_range within, rfl⟩

/-- Silence agrees with silence, and the tone with the tone. -/
theorem agreement (first : early.fingerprint[n]? = some x) (second : late.fingerprint[m]? = some y)
    (agree : 30 ≤ bitAgreement x y) : n < 1401 ∧ 100 ≤ m ∧ (n = 700 ↔ m = 800) := by
  simp only [early, late, episode, sound_getElem] at first second
  obtain ⟨_, rfl⟩ := first
  obtain ⟨_, rfl⟩ := second
  split at agree <;> split at agree
  all_goals try split at agree
  all_goals try split at agree
  all_goals first | exact absurd agree (by decide) | omega

/-- A run of fifteen seconds brings the tones together. -/
theorem aligned (long : 1363 ≤ l) (agreeing : ∀ j < l, ∃ x y, early.fingerprint[n + j]? = some x ∧
    late.fingerprint[m + j]? = some y ∧ 30 ≤ bitAgreement x y) : m = n + 100 := by
  obtain ⟨_, _, first, second, agree⟩ := agreeing (l - 1) (by omega)
  have stop := agreement first second agree
  obtain ⟨_, _, first, second, agree⟩ := agreeing (700 - n) (by omega)
  have middle := agreement first second agree
  omega

theorem early_getElem (less : n < 1402) :
    early.fingerprint[n]? = some (if n = 700 then tone else if n = 1401 then mixed else 0) := by
  rw [early, episode, sound_getElem]
  exact ⟨less, rfl⟩

theorem late_getElem (less : n < 1501) :
    late.fingerprint[n]? = some (if n < 100 then ~~~mixed else if n = 800 then tone else 0) := by
  rw [late, episode, sound_getElem]
  exact ⟨less, rfl⟩

theorem window : windowEndSubfp late early {} = 32727 := by decide

theorem least : minRun {} = 1363 := by decide

/-- With the later theme first, the whole theme is at its offset. -/
theorem late_early : AgreeingRun late early {} 100 0 1401 := by
  intro j less
  refine ⟨by rw [window]; omega, _, _, late_getElem (by omega), early_getElem (by omega), ?_⟩
  rw [if_neg (by omega)]
  by_cases middle : j = 700
  · subst middle
    decide
  · rw [if_neg (by omega), if_neg (by omega), if_neg (by omega)]
    decide

theorem late_early_length : 1401 ≤ runLenAt late early {} (minRun {}) (maxRun {}) 100 ∧
    minRun {} ≤ runLenAt late early {} (minRun {}) (maxRun {}) 100 :=
  (firstRun_iff (by decide) (by decide) (by decide)).mp ⟨0, late_early, fun _ _ _ _ => Nat.zero_le _⟩

theorem late_early_found_iff : FoundAt late early {} (minRun {}) (maxRun {}) offset ↔ offset = 100 := by
  constructor
  · rintro ⟨_, _, long⟩
    obtain ⟨k, run⟩ := LongRuns.exists_run (minRun {}) (maxRun {}) (marks late early {} offset)
    have agreeing := run_marks.mp run
    unfold runLenAt at long
    rw [least] at long
    have same := aligned (n := k) (m := offset + k) long fun j less => by
      obtain ⟨_, x, y, first, second, agree⟩ := agreeing j (least ▸ less)
      exact ⟨y, x, second, Nat.add_assoc offset k j ▸ first, bitAgreement_comm x y ▸ agree⟩
    omega
  · rintro rfl
    have size : late.fingerprint.length = 1501 := by simp [late, episode, sound]
    refine ⟨by rw [size, least]; decide, by decide, ?_⟩
    exact late_early_length.2

/-- It is the only alignment with a run, and is kept. -/
theorem late_early_kept : KeptAt similarities late early {} (minRun {}) (maxRun {}) 100 :=
  LongRuns.last_of_first (late_early_found_iff.mpr rfl)
    (fun _ before found => before.ne (late_early_found_iff.mp found))
    fun _ after found => absurd (late_early_found_iff.mp found) after.ne'

theorem late_early_found : PairFound similarities {} late early :=
  ⟨100, 0, 1401, late_early_kept, ⟨late_early, fun _ _ _ _ => Nat.zero_le _⟩, by decide, by decide⟩

/-- With the earlier theme first, no offset brings the themes together. -/
theorem early_late_missed : ¬ PairFound similarities {} early late := by
  rintro ⟨offset, k, l, _, ⟨agreeing, _⟩, long, _⟩
  rw [least] at long
  have same := aligned (n := offset + k) (m := k) long fun j less => by
    obtain ⟨_, x, y, first, second, agree⟩ := agreeing j less
    exact ⟨x, y, Nat.add_assoc offset k j ▸ first, second, agree⟩
  omega

theorem early_reported : early.mediaItemId ∈ reported similarities {} [late, early] :=
  mem_reported.mpr ⟨(late, early), by simp [pairs], matched_iff.mpr late_early_found, .inr rfl⟩

end Sample

/-- An intro is found in both episodes or in none, as the one or the other comes first. -/
theorem theme_depends_on_order : ¬ OrderIndependent Sample.similarities {} [Sample.early, Sample.late] := by
  intro independent
  have noted := (independent [Sample.late, Sample.early] (List.Perm.swap _ _ _) _).mp Sample.early_reported
  obtain ⟨pair, inside, matched, _⟩ := mem_reported.mp noted
  obtain rfl : pair = (Sample.early, Sample.late) := by simpa [pairs] using inside
  exact Sample.early_late_missed (matched_iff.mp matched)

/-- The interval of the later theme is given for the earlier one, which agrees with nothing
at its end. -/
theorem theme_copied_to_other_item :
    ¬ ∀ match_ ∈ findRecurringSegments Sample.similarities {} [Sample.late, Sample.early],
    Recurs {} [Sample.late, Sample.early] match_ := by
  intro recur
  obtain ⟨match_, member, own⟩ := List.mem_map.mp Sample.early_reported
  obtain ⟨pair, inside, found, is, _, start, stop⟩ := notedFrom_of_mem member
  obtain rfl : pair = (Sample.late, Sample.early) := by simpa [pairs] using inside
  have long := Sample.late_early_length.1
  rw [bestPairMatch_eq Sample.late_early_kept.bestRun, bestAt_runLen] at is
  split at is
  · cases is
    obtain ⟨i, j, item, other, apart, here, there, item_, shift, agrees⟩ := recur match_ member
    obtain ⟨rfl, rfl⟩ : item = Sample.early ∧ other = Sample.late := by
      rw [own] at item_
      match i, j with
      | 0, _ =>
        cases here
        cases (by decide : Sample.late.mediaItemId ≠ Sample.early.mediaItemId) item_
      | 1, 0 =>
        cases here
        cases there
        exact ⟨rfl, rfl⟩
      | 1, 1 => exact absurd rfl apart
      | 1, _ + 2 => cases there
      | _ + 2, _ => cases here
    have after : match_.startMs ≤ (1401 : Nat) * (11 : Int) := by
      rw [start]
      exact (by decide : (100 : Int) * 11 ≤ 1401 * 11)
    have before : (1401 : Nat) * (11 : Int) < match_.endMs := by
      rw [stop]
      exact Int.mul_lt_mul_of_pos_right (Int.ofNat_lt.mpr (by simp only [bestAt]; omega)) (by decide)
    obtain ⟨m, y, _, second, agree⟩ := agrees 1401 _ (Sample.early_getElem (by decide)) after before
    have inside := Sample.agreement (Sample.early_getElem (by decide)) second agree
    omega
  · cases is

namespace Sample

/-- Two episodes of two sub-fingerprints, each of fifteen seconds. -/
def coarse : ChromaprintThresholds := { subfpPeriodMs := 15000 }

def alike (id : Nat) : FingerprintWithContext := episode id [0, 0]

/-- Only the first offset is searched. -/
theorem alike_together : Together similarities coarse (alike 1) (alike 2) where
  start := ⟨1, by decide, by decide, fun j less => by
    obtain rfl : j = 0 := by omega
    exact ⟨by decide, 0, 0, rfl, rfl, by decide⟩⟩
  best := fun offset later found => by
    have searched : offset + 1 < 2 := found.1
    omega

/-- The whole of the second episode. -/
def repeated : RecurringMatch Unit where
  mediaItemId := (alike 2).mediaItemId
  segmentType := .intro
  startMs := 0
  endMs := 30000
  matchingEpisodes := 2
  similarity := ()

theorem repeated_found : repeated ∈ findRecurringSegments similarities coarse [alike 1, alike 2] := by
  have first : (findRecurringSegments similarities coarse [alike 1, alike 2]).head? = some repeated := by decide +kernel
  exact List.mem_of_mem_head? first

/-- Its sound agrees with that of the others nowhere. -/
def strange : FingerprintWithContext := episode 3 [mixed, mixed]

/-- The two that are alike are found whichever comes first, and the third with none. -/
theorem alike_both_ways : FoundBothWays similarities coarse [alike 1, strange, alike 2] := by
  unfold FoundBothWays
  simp only [← matched_iff, Matched]
  decide +kernel

end Sample

theorem alike_episodes_recur : Recurs Sample.coarse [Sample.alike 1, Sample.alike 2] Sample.repeated :=
  matches_recur Sample.similarities Sample.coarse [Sample.alike 1, Sample.alike 2]
    (fun pair inside _ => by
      obtain rfl : pair = (Sample.alike 1, Sample.alike 2) := by simpa [pairs] using inside
      exact Sample.alike_together)
    Sample.repeated Sample.repeated_found

/-- In every order of the three, the same two are reported. -/
theorem theme_both_ways :
    OrderIndependent Sample.similarities Sample.coarse [Sample.alike 1, Sample.strange, Sample.alike 2] ∧
      reported Sample.similarities Sample.coarse [Sample.alike 1, Sample.strange, Sample.alike 2] =
        [(Sample.alike 2).mediaItemId, (Sample.alike 1).mediaItemId] :=
  ⟨(order_independent_iff Sample.similarities Sample.coarse [Sample.alike 1, Sample.strange, Sample.alike 2]
    (by decide)).mpr Sample.alike_both_ways, by decide +kernel⟩

end Duskcue.Segments
