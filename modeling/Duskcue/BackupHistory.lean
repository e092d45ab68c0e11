import Duskcue.BackupRetention

/-! Dumps and cleanups in turn: what becomes of a month. -/
namespace Duskcue.Backup
open Text

variable {listing taken : List DirEntry}

variable {chrono : Chrono} {config : BackupConfig}

/-! ## Histories -/

/-- A directory behind cleanups at times that do not go back, with dumps in between, and all dumps that were ever in
it. A dump may have any name. -/
inductive History (chrono : Chrono) (config : BackupConfig) : Int → List DirEntry → List DirEntry → Prop
  | start (clock : Int) (directory : List DirEntry) : History chrono config clock directory directory
  | dump {clock : Int} {directory taken : List DirEntry} (history : History chrono config clock directory taken)
      (entry : DirEntry) : History chrono config clock (entry :: directory) (entry :: taken)
  | cleanup {clock now : Int} {directory taken listing : List DirEntry} {cleanup : Cleanup}
      (history : History chrono config clock directory taken) (listed : listing.Perm directory) (later : clock ≤ now)
      (answered : cleanupPgDumps chrono config listing now = .ok cleanup) :
      History chrono config now (listing.filter (·.path ∉ cleanup.removed)) taken

theorem Distinct.subperm (distinct : Distinct chrono taken)
    (within : listing.Subperm taken) : Distinct chrono listing := by
  obtain ⟨part, same, sub⟩ := within
  exact (same.filterMap _).nodup_iff.mp (List.Nodup.sublist (sub.filterMap _) distinct)

theorem History.subperm (history : History chrono config clock directory taken) : directory.Subperm taken := by
  induction history with
  | start => exact List.Subperm.refl _
  | dump _ entry ih => exact List.subperm_cons entry |>.mpr ih
  | cleanup _ listed _ _ ih => exact (List.filter_sublist.subperm.trans listed.subperm).trans ih

theorem exact_of_ok (distinct : Distinct chrono listing)
    (answered : cleanupPgDumps chrono config listing now = .ok cleanup) : Exact chrono config listing now cleanup := by
  have enabled : config.pgDumpEnabled = true := by
    cases enabled : config.pgDumpEnabled with
    | true => rfl
    | false =>
      unfold cleanupPgDumps at answered
      rw [enabled] at answered
      cases answered
  by_cases representable : Representable config now
  · obtain ⟨found, same, exact'⟩ := cleanupPgDumps_exact enabled representable distinct
    cases answered.symm.trans same
    exact exact'
  · cases answered.symm.trans (cleanupPgDumps_panics enabled representable)

/-- Of the files of a month between the cutoffs the newest is not deleted. -/
theorem newest_survives (distinct : Distinct chrono listing)
    (answered : cleanupPgDumps chrono config listing now = .ok cleanup)
    (member : entry ∈ listing) (stamped : chrono.stamp entry.path = some t) (recent : monthlyCutoff config now ≤ t) :
    ∃ other ∈ listing.filter (·.path ∉ cleanup.removed), ∃ t', chrono.stamp other.path = some t' ∧
      chrono.monthOf t' = chrono.monthOf t ∧ t ≤ t' ∧ (t < dailyCutoff config now → t' < dailyCutoff config now) := by
  have exact' := exact_of_ok distinct answered
  have rivals {u : Int} : u ∈ (listing.filterMap fun entry => chrono.stamp entry.path).toFinset.filter (fun u =>
      chrono.monthOf u = chrono.monthOf t ∧ t ≤ u ∧ (t < dailyCutoff config now → u < dailyCutoff config now)) ↔
      (∃ other ∈ listing, chrono.stamp other.path = some u) ∧ chrono.monthOf u = chrono.monthOf t ∧ t ≤ u ∧
        (t < dailyCutoff config now → u < dailyCutoff config now) := by
    rw [Finset.mem_filter, List.mem_toFinset, List.mem_filterMap]
  obtain ⟨greatest, found, bound⟩ := Finset.exists_max_image _ id
    ⟨t, rivals.mpr ⟨⟨entry, member, stamped⟩, rfl, le_refl t, id⟩⟩
  obtain ⟨⟨other, there, stampedOther⟩, month, later, young⟩ := rivals.mp found
  refine ⟨other, List.mem_filter.mpr ⟨there, ?_⟩, greatest, stampedOther, month, later, young⟩
  rw [decide_eq_true_eq, exact'.deletes]
  rintro ⟨-, own, stampedOwn, old, expired | ⟨rival, thereRival, u, stampedRival, between, monthRival, newer⟩⟩
  · cases stampedOther.symm.trans stampedOwn
    exact Int.not_lt.mpr (Int.le_trans recent later) expired
  · cases stampedOther.symm.trans stampedOwn
    have less : u ≤ greatest := bound u (rivals.mpr ⟨⟨rival, thereRival, stampedRival⟩, monthRival.trans month,
      Int.le_trans later (Int.le_of_lt newer), fun _ => between.2⟩)
    exact Int.not_lt.mpr less newer

theorem monthlyCutoff_mono (later : clock ≤ now) : monthlyCutoff config clock ≤ monthlyCutoff config now :=
  Int.sub_le_sub_right later _

theorem dailyCutoff_mono (later : clock ≤ now) : dailyCutoff config clock ≤ dailyCutoff config now :=
  Int.sub_le_sub_right later _

/-- A dump is still there, or a newer one of its month, until it is older than the monthly cutoff. -/
theorem History.kept (history : History chrono config clock directory taken)
    (distinct : Distinct chrono taken) (member : entry ∈ taken)
    (stamped : chrono.stamp entry.path = some t) : t < monthlyCutoff config clock ∨
      ∃ other ∈ directory, ∃ t', chrono.stamp other.path = some t' ∧ chrono.monthOf t' = chrono.monthOf t ∧ t ≤ t' := by
  induction history with
  | start => exact .inr ⟨entry, member, t, stamped, rfl, Int.le_refl t⟩
  | @dump _ _ _ _ _ ih =>
    rcases List.mem_cons.mp member with rfl | before
    · exact .inr ⟨entry, List.mem_cons_self, t, stamped, rfl, Int.le_refl t⟩
    · rcases ih (distinct.subperm (List.sublist_cons_self _ _).subperm) before with expired | ⟨other, there, rest⟩
      · exact .inl expired
      · exact .inr ⟨other, List.mem_cons_of_mem _ there, rest⟩
  | @cleanup _ now _ _ _ _ history listed later answered ih =>
    rcases ih distinct member with expired | ⟨other, there, t', stampedOther, month, newer⟩
    · exact .inl (Int.lt_of_lt_of_le expired (monthlyCutoff_mono later))
    by_cases expired : t' < monthlyCutoff config now
    · exact .inl (Int.lt_of_le_of_lt newer expired)
    have known := distinct.subperm (listed.subperm.trans history.subperm)
    obtain ⟨last, kept, u, stampedLast, monthLast, least, -⟩ := newest_survives known answered (listed.mem_iff.mpr there)
      stampedOther (Int.not_lt.mp expired)
    exact .inr ⟨last, kept, u, stampedLast, monthLast.trans month, Int.le_trans newer least⟩

/-- Files of one timestamp are one file. -/
theorem Distinct.single (distinct : Distinct chrono listing)
    (member : last ∈ listing) (same : ∀ entry ∈ listing, chrono.stamp entry.path = some t) : listing = [last] := by
  have apart := List.pairwise_filterMap.mp distinct
  match listing with
  | [only] => rw [List.mem_singleton.mp member]
  | a :: b :: rest =>
    exact absurd rfl ((List.pairwise_cons.mp apart).1 b List.mem_cons_self t (same a List.mem_cons_self) t
      (same b (List.mem_cons_of_mem _ List.mem_cons_self)))

/-- Behind a cleanup a month that lies between the cutoffs has one dump, the newest that was ever taken in it. -/
theorem History.month {directory : List DirEntry} {cleanup : Cleanup}
    (history : History chrono config clock directory taken) (distinct : Distinct chrono taken)
    (listed : listing.Perm directory) (later : clock ≤ now)
    (answered : cleanupPgDumps chrono config listing now = .ok cleanup) {month : Int × Nat}
    (whole : ∀ t, chrono.monthOf t = month → Between (dailyCutoff config now) (monthlyCutoff config now) t)
    (member : entry ∈ taken) (stamped : chrono.stamp entry.path = some t) (of : chrono.monthOf t = month) :
    ∃ last t', (listing.filter (·.path ∉ cleanup.removed)).filter
        (fun entry => (chrono.stamp entry.path).any (chrono.monthOf · = month)) = [last] ∧
      chrono.stamp last.path = some t' ∧
      ∀ other ∈ taken, ∀ u, chrono.stamp other.path = some u → chrono.monthOf u = month → u ≤ t' := by
  have after := history.cleanup listed later answered
  have known := distinct.subperm (listed.subperm.trans history.subperm)
  have exact' := exact_of_ok known answered
  have survives {other : DirEntry} {u : Int} (there : other ∈ taken) (stampedOther : chrono.stamp other.path = some u)
      (ofOther : chrono.monthOf u = month) : ∃ last ∈ listing.filter (·.path ∉ cleanup.removed), ∃ t',
        chrono.stamp last.path = some t' ∧ chrono.monthOf t' = month ∧ u ≤ t' := by
    rcases after.kept distinct there stampedOther with expired | ⟨last, kept, t', stampedLast, same, newer⟩
    · exact absurd expired (Int.not_lt.mpr (whole u ofOther).1)
    · exact ⟨last, kept, t', stampedLast, same.trans ofOther, newer⟩
  -- Two survivors of the month have one timestamp, as the older one would have been deleted.
  have le {a b : DirEntry} {ta tb : Int} (keptA : a ∈ listing.filter (·.path ∉ cleanup.removed))
      (keptB : b ∈ listing.filter (·.path ∉ cleanup.removed)) (stampedA : chrono.stamp a.path = some ta)
      (stampedB : chrono.stamp b.path = some tb) (ofA : chrono.monthOf ta = month) (ofB : chrono.monthOf tb = month) :
      tb ≤ ta := by
    by_contra newer
    obtain ⟨thereA, unremoved⟩ := List.mem_filter.mp keptA
    rw [decide_eq_true_eq, exact'.deletes] at unremoved
    exact unremoved ⟨⟨a, thereA, rfl⟩, ta, stampedA, (whole ta ofA).2,
      .inr ⟨b, List.mem_of_mem_filter keptB, tb, stampedB,
      whole tb ofB, ofB.trans ofA.symm, Int.not_le.mp newer⟩⟩
  obtain ⟨last, kept, t', stampedLast, ofLast, -⟩ := survives member stamped of
  refine ⟨last, t', ?_, stampedLast, ?_⟩
  · have survivors : Distinct chrono ((listing.filter (·.path ∉ cleanup.removed)).filter
        fun entry => (chrono.stamp entry.path).any (chrono.monthOf · = month)) :=
      known.subperm (List.filter_sublist.trans List.filter_sublist).subperm
    refine survivors.single (t := t') (List.mem_filter.mpr ⟨kept, ?_⟩) ?_
    · rw [stampedLast, Option.any_some, decide_eq_true_eq]
      exact ofLast
    · intro rival among
      obtain ⟨keptRival, ofRival⟩ := List.mem_filter.mp among
      obtain ⟨u, stampedRival, ofRival⟩ := (Option.any_eq_true _ _).mp ofRival
      have ofRival := of_decide_eq_true ofRival
      rw [stampedRival, Int.le_antisymm (le kept keptRival stampedLast stampedRival ofLast ofRival)
        (le keptRival kept stampedRival stampedLast ofRival ofLast)]
  · intro other there u stampedOther ofOther
    obtain ⟨rival, keptRival, v, stampedRival, ofRival, newer⟩ := survives there stampedOther ofOther
    exact Int.le_trans newer (le kept keptRival stampedLast stampedRival ofLast ofRival)

theorem Deletes.later (later : clock ≤ now) (deletes : Deletes chrono config listing clock path) :
    Deletes chrono config listing now path := by
  obtain ⟨t, stamped, old, rest⟩ := deletes
  have daily : dailyCutoff config clock ≤ dailyCutoff config now := dailyCutoff_mono later
  have monthly : monthlyCutoff config clock ≤ monthlyCutoff config now := monthlyCutoff_mono later
  refine ⟨t, stamped, lt_of_lt_of_le old daily, ?_⟩
  by_cases expired : t < monthlyCutoff config now
  · exact .inl expired
  rcases rest with gone | ⟨other, there, t', stampedOther, between, month, newer⟩
  · exact absurd (lt_of_lt_of_le gone monthly) expired
  · exact .inr ⟨other, there, t', stampedOther, ⟨(not_lt.mp expired).trans newer.le, lt_of_lt_of_le between.2 daily⟩,
      month, newer⟩

/-- Two cleanups, one behind the other, delete what the later one deletes alone. -/
theorem cleanups_compose (distinct : Distinct chrono listing) (later : clock ≤ now)
    (first : cleanupPgDumps chrono config listing clock = .ok cleaned)
    (second : cleanupPgDumps chrono config (listing.filter (·.path ∉ cleaned.removed)) now = .ok next)
    (alone : cleanupPgDumps chrono config listing now = .ok once) (path : FileName) :
    path ∈ once.removed ↔ path ∈ cleaned.removed ∨ path ∈ next.removed := by
  have left := distinct.subperm (List.filter_sublist (p := fun e => e.path ∉ cleaned.removed)).subperm
  rw [(exact_of_ok distinct alone).deletes, (exact_of_ok left second).deletes]
  constructor
  · rintro ⟨⟨entry, member, rfl⟩, t, stamped, old, due⟩
    refine or_iff_not_imp_left.mpr fun kept => ⟨⟨entry, List.mem_filter.mpr ⟨member, by simpa using kept⟩, rfl⟩,
      t, stamped, old, due.imp_right ?_⟩
    rintro ⟨other, there, t', stampedOther, between, month, newer⟩
    have recent := (monthlyCutoff_mono later).trans between.1
    by_cases young : t' < dailyCutoff config clock
    · obtain ⟨last, there, u, stampedLast, monthLast, least, below⟩ :=
        newest_survives distinct first there stampedOther recent
      exact ⟨last, there, u, stampedLast, ⟨between.1.trans least, lt_of_lt_of_le (below young) (dailyCutoff_mono later)⟩,
        monthLast.trans month, lt_of_lt_of_le newer least⟩
    · refine ⟨other, List.mem_filter.mpr ⟨there, ?_⟩, t', stampedOther, between, month, newer⟩
      rw [decide_eq_true_eq, (exact_of_ok distinct first).deletes]
      rintro ⟨-, own, stampedOwn, old, -⟩
      cases stampedOther.symm.trans stampedOwn
      exact young old
  · rintro (gone | ⟨⟨entry, member, rfl⟩, t, stamped, old, due⟩)
    · obtain ⟨there, deletes⟩ := ((exact_of_ok distinct first).deletes path).mp gone
      exact ⟨there, deletes.later later⟩
    · refine ⟨⟨entry, List.mem_of_mem_filter member, rfl⟩, t, stamped, old, due.imp_right ?_⟩
      rintro ⟨other, there, rest⟩
      exact ⟨other, List.mem_of_mem_filter there, rest⟩

/-! ## Names -/

/-- What `chrono` documents of the text of an instant behind the epoch: it has four digits for a year up to 9999 and
more with a sign behind, it has no underscore, and it is read again. -/
structure Chrono.Documented (chrono : Chrono) : Prop where
  plain : ∀ now, '_' ∉ chrono.format now
  width : ∀ now, 0 ≤ now → (byteLength (chrono.format now) = 16 ↔ chrono.year now ≤ 9999)
  reads : ∀ now, 0 ≤ now → chrono.year now ≤ 9999 → (chrono.parseFromStr (chrono.format now)).isSome = true

theorem rtakeWhile_stamp (plain : '_' ∉ stamp) : (front ++ '_' :: stamp).rtakeWhile (· ≠ '_') = stamp := by
  rw [List.rtakeWhile, List.reverse_append, List.reverse_cons, List.append_assoc, List.takeWhile_append_of_pos]
  · simp
  · intro c member
    simp only [ne_eq, decide_eq_true_eq]
    rintro rfl
    exact plain (List.mem_reverse.mp member)

/-- The name of a dump has a timestamp as long as the year has four digits. -/
theorem filename_stamped_iff (documented : chrono.Documented) (label : Option (List Char)) (epoch : 0 ≤ now) :
    (chrono.parseDumpTimestamp (pgDumpFilename chrono label now)).isSome = true ↔ chrono.year now ≤ 9999 := by
  unfold Chrono.parseDumpTimestamp pgDumpFilename
  dsimp only
  generalize ((label.map sanitizeLabel).filter (· ≠ [])).getD "manual".toList = text
  have shape : "duskcue_".toList ++ text ++ "_".toList ++ chrono.format now ++ ".dump".toList =
      ("duskcue_".toList ++ text) ++ '_' :: chrono.format now ++ ".dump".toList := by
    simp
  rw [shape, stripSuffix_eq_some.mpr rfl, Option.bind_some, rtakeWhile_stamp (documented.plain now)]
  split
  · rename_i sized
    have four := (documented.width now epoch).mp sized
    exact ⟨fun _ => four, documented.reads now epoch⟩
  · rename_i sized
    exact ⟨nofun, fun four => absurd ((documented.width now epoch).mpr four) sized⟩

/-- Exactly where the cutoffs are instants that `chrono` can represent, a cleanup deletes the files that are due and no
others. Behind any history of dumps and cleanups a month between the cutoffs has one dump, the newest ever taken in it.
And a new dump's name has a timestamp exactly in the years of four digits. -/
theorem dumps_retained (chrono : Chrono) (documented : chrono.Documented) (config : BackupConfig)
    (enabled : config.pgDumpEnabled = true) :
    (∀ listing now, Distinct chrono listing →
      ((∃ cleanup, cleanupPgDumps chrono config listing now = .ok cleanup ∧ Exact chrono config listing now cleanup) ↔
        Representable config now)) ∧
    (∀ {clock now : Int} {directory taken listing : List DirEntry} {cleanup : Cleanup},
      History chrono config clock directory taken → Distinct chrono taken → listing.Perm directory → clock ≤ now →
      cleanupPgDumps chrono config listing now = .ok cleanup → ∀ month : Int × Nat,
        (∀ t, chrono.monthOf t = month → Between (dailyCutoff config now) (monthlyCutoff config now) t) →
        (∃ entry ∈ taken, ∃ t, chrono.stamp entry.path = some t ∧ chrono.monthOf t = month) →
        ∃ last t', (listing.filter (·.path ∉ cleanup.removed)).filter
            (fun entry => (chrono.stamp entry.path).any (chrono.monthOf · = month)) = [last] ∧
          chrono.stamp last.path = some t' ∧
          ∀ other ∈ taken, ∀ u, chrono.stamp other.path = some u → chrono.monthOf u = month → u ≤ t') ∧
    ∀ label now, 0 ≤ now →
      ((chrono.parseDumpTimestamp (pgDumpFilename chrono label now)).isSome = true ↔ chrono.year now ≤ 9999) := by
  refine ⟨fun listing now distinct => ?_, fun history distinct listed later answered month whole ever => ?_,
    fun label now epoch => filename_stamped_iff documented label epoch⟩
  · refine ⟨fun ⟨cleanup, answered, _⟩ => ?_, fun representable => cleanupPgDumps_exact enabled representable distinct⟩
    by_contra panics
    cases answered.symm.trans (cleanupPgDumps_panics enabled panics)
  · obtain ⟨entry, member, t, stamped, of⟩ := ever
    exact history.month distinct listed later answered whole member stamped of

def juneStamp : List Char := "20260627T030405Z".toList

/-- `chrono` around June 2026, for the stamps of two dumps. -/
def june : Chrono where
  year _ := 2026
  month t := if t < 1780272000000000000 then 5 else if t < 1782864000000000000 then 6 else 7
  format _ := juneStamp
  parseFromStr text :=
    if text = juneStamp then some 1782529445000000000
    else if text = "20260613T030405Z".toList then some 1781319845000000000 else none

theorem june_documented : june.Documented where
  plain _ := (by decide +kernel : '_' ∉ juneStamp)
  width _ _ := ⟨fun _ => (by decide : (2026 : Int) ≤ 9999), fun _ => (by decide +kernel : byteLength juneStamp = 16)⟩
  reads _ _ _ := (by decide +kernel : (june.parseFromStr juneStamp).isSome = true)

def newer : DirEntry := ⟨.unicode "duskcue_manual_20260627T030405Z.dump".toList, none⟩

def older : DirEntry := ⟨.unicode "duskcue_manual_20260613T030405Z.dump".toList, none⟩

/-- Two dumps of June, and a name without a timestamp. -/
def juneDumps : List DirEntry := [newer, ⟨.unicode "before_update.dump".toList, none⟩, older]

/-- Cleanups of them: in July nothing is old, in August and in September the older dump goes,
and a year later, with what August left or without, whatever is there. -/
theorem june_cleanups : Distinct june juneDumps ∧
    cleanupPgDumps june {} juneDumps 1783000000000000000 = .ok ⟨0, 2, 1, []⟩ ∧
    cleanupPgDumps june {} juneDumps 1786000000000000000 = .ok ⟨1, 1, 1, [older.path]⟩ ∧
    cleanupPgDumps june {} juneDumps 1788220800000000000 = .ok ⟨1, 1, 1, [older.path]⟩ ∧
    cleanupPgDumps june {} (juneDumps.filter (·.path ∉ [older.path])) 1817089445000000000 =
      .ok ⟨1, 0, 1, [newer.path]⟩ ∧
    cleanupPgDumps june {} juneDumps 1817089445000000000 = .ok ⟨2, 0, 1, [newer.path, older.path]⟩ := by
  unfold Distinct
  decide +kernel

theorem june_between (of : june.monthOf t = (2026, 6)) :
    Between (dailyCutoff {} 1788220800000000000) (monthlyCutoff {} 1788220800000000000) t := by
  have month : june.month t = 6 := congrArg Prod.snd of
  simp only [june] at month
  have daily : dailyCutoff {} 1788220800000000000 = 1785628800000000000 := by decide
  have monthly : monthlyCutoff {} 1788220800000000000 = 1756080000000000000 := by decide
  rw [Between, daily, monthly]
  split at month
  · cases month
  · split at month
    · omega
    · cases month

/-- The newer dump is taken behind the older one, a cleanup in July deletes nothing, and one
in September the older one. -/
theorem june_retained : Exact june {} juneDumps 1788220800000000000 ⟨1, 1, 1, [older.path]⟩ ∧
    ∃ last t', (juneDumps.filter (·.path ∉ [older.path])).filter
        (fun entry => (june.stamp entry.path).any (june.monthOf · = (2026, 6))) = [last] ∧
      june.stamp last.path = some t' ∧
      ∀ other ∈ juneDumps, ∀ u, june.stamp other.path = some u → june.monthOf u = (2026, 6) → u ≤ t' := by
  obtain ⟨exact', history, -⟩ := dumps_retained june june_documented {} rfl
  obtain ⟨distinct, july, -, september, -⟩ := june_cleanups
  constructor
  · obtain ⟨cleanup, answered, same⟩ := (exact' juneDumps 1788220800000000000 distinct).mpr (by
      unfold Representable
      decide)
    cases september.symm.trans answered
    exact same
  · have taken : History june {} 1783000000000000000 juneDumps juneDumps :=
      ((History.start 1782000000000000000 juneDumps.tail).dump newer).cleanup (List.Perm.refl _) (by decide) july
    exact history taken distinct (List.Perm.refl _) (by decide) september (2026, 6) (fun t => june_between)
      ⟨newer, List.mem_cons_self, 1782529445000000000, by decide +kernel, rfl⟩

/-- The older dump goes in August, and the newer one the summer after. -/
theorem june_cleaned_twice : ∃ cleaned next once,
    cleanupPgDumps june {} juneDumps 1786000000000000000 = .ok cleaned ∧
      cleanupPgDumps june {} (juneDumps.filter (·.path ∉ cleaned.removed)) 1817089445000000000 = .ok next ∧
      cleanupPgDumps june {} juneDumps 1817089445000000000 = .ok once ∧
      (cleaned.removed, next.removed, once.removed) = ([older.path], [newer.path], [newer.path, older.path]) ∧
      ∀ path, path ∈ once.removed ↔ path ∈ cleaned.removed ∨ path ∈ next.removed := by
  obtain ⟨distinct, -, first, -, second, alone⟩ := june_cleanups
  exact ⟨_, _, _, first, second, alone, rfl, cleanups_compose distinct (by decide) first second alone⟩

/-- A retention of so many days is subtracted from the clock without a check. -/
theorem long_retention_panics : ¬ ∀ (chrono : Chrono), chrono.Documented → ∀ config : BackupConfig,
    config.pgDumpEnabled = true → ∀ listing now, Distinct chrono listing → ∃ cleanup,
      cleanupPgDumps chrono config listing now = .ok cleanup ∧ Exact chrono config listing now cleanup := by
  intro all
  obtain ⟨cleanup, answered, -⟩ := all june june_documented { pgDumpRetentionDaily := 4294967295 } rfl juneDumps
    1782529445000000000 june_cleanups.1
  have panics : ¬Representable { pgDumpRetentionDaily := 4294967295 } 1782529445000000000 := by
    unfold Representable
    decide
  cases answered.symm.trans (cleanupPgDumps_panics rfl panics)

end Duskcue.Backup
