import Mathlib.Data.Finset.Max
import Duskcue.Table
import Duskcue.Text

/-! The retention of database dumps. An instant is a number of nanoseconds since 1970; what `chrono` makes of it is a
parameter. A panic is an error of its own. -/
namespace Duskcue.Backup
open Text

/-- What `chrono` knows of an instant: its year and month, its `%Y%m%dT%H%M%SZ` text and how that is read. -/
structure Chrono where
  year : Int → Int
  month : Int → Nat
  format : Int → List Char
  parseFromStr : List Char → Option Int

/-- The file names of a directory. -/
inductive FileName
  | unicode (text : List Char)
  /-- A name with the extension `dump` that is not Unicode. -/
  | other (id : Nat)
  deriving DecidableEq

structure DirEntry where
  path : FileName
  modified : Option Int

structure BackupConfig where
  pgDumpEnabled : Bool := true
  pgDumpRetentionDaily : UInt32 := 30
  pgDumpRetentionMonthly : UInt32 := 12

inductive BackupError
  | pgDumpDisabled
  | panicked
  deriving DecidableEq

/-- Nanoseconds of a day. -/
def day : Int := 86400000000000

/-- The least instant, `DateTime::<Utc>::MIN_UTC`. -/
def minUtc : Int := -8334601228800000000000

/-- The most days that a `TimeDelta` holds. -/
def maxDays : Int := 106751991167

/-- `now - Duration::days(days)`. -/
def daysBefore (now days : Int) : Except BackupError Int :=
  if days > maxDays then .error .panicked
  else if now - days * day < minUtc then .error .panicked
  else .ok (now - days * day)

namespace FileName

/-- `path.extension() == Some("dump")`. A name that is nothing but the extension has none. -/
def isDump : FileName → Bool
  | unicode text => (stripSuffix ".dump".toList text).any (· ≠ [])
  | other _ => true

end FileName

namespace Chrono
variable (chrono : Chrono)

/-- `parse_dump_timestamp`. -/
def parseDumpTimestamp (filename : List Char) : Option Int :=
  (stripSuffix ".dump".toList filename).bind fun front =>
    let stamp := front.rtakeWhile (· ≠ '_')
    if byteLength stamp = 16 then chrono.parseFromStr stamp else none

/-- The timestamp in a file's name. -/
def stamp : FileName → Option Int
  | .unicode filename => chrono.parseDumpTimestamp filename
  | .other _ => none

def monthOf (timestamp : Int) : Int × Nat := (chrono.year timestamp, chrono.month timestamp)

end Chrono

/-- The variables of the loop over the files. -/
structure Pass where
  retained : Nat := 0
  unknownRetained : Nat := 0
  monthlyKeep : Table (Int × Nat) Nat := .empty
  deleteFlags : Nat → Bool := fun _ => false

def Pass.flag (pass : Pass) (idx : Nat) : Pass := { pass with deleteFlags := Function.update pass.deleteFlags idx true }

/-- A turn of the loop. -/
def visit (chrono : Chrono) (files : List (FileName × Int)) (daily monthly : Int) (pass : Pass)
    (entry : (FileName × Int) × Nat) : Pass :=
  let ((path, timestamp), idx) := entry
  if (chrono.stamp path).isNone then { pass with unknownRetained := pass.unknownRetained + 1 }
  else if timestamp ≥ daily then { pass with retained := pass.retained + 1 }
  else if timestamp < monthly then pass.flag idx
  else
    let key := chrono.monthOf timestamp
    match pass.monthlyKeep.find key with
    | some existing =>
      if (files[existing]?).any (·.2 < timestamp) then
        { pass.flag existing with monthlyKeep := pass.monthlyKeep.put key idx }
      else pass.flag idx
    | none => { pass with monthlyKeep := pass.monthlyKeep.put key idx, retained := pass.retained + 1 }

/-- The loop over the files. -/
def pass (chrono : Chrono) (files : List (FileName × Int)) (daily monthly : Int) : Pass :=
  files.zipIdx.foldl (visit chrono files daily monthly) {}

/-- The numbers that a cleanup answers, and the files that it removed. -/
structure Cleanup where
  deleted : Nat
  retained : Nat
  unknownRetained : Nat
  removed : List FileName
  deriving DecidableEq

/-- The dumps of a directory, each with its time. -/
def dumps (chrono : Chrono) (listing : List DirEntry) (now : Int) : List (FileName × Int) :=
  (listing.filter (·.path.isDump)).map fun entry =>
    (entry.path, (chrono.stamp entry.path).getD (entry.modified.getD now))

/-- `cleanup_pg_dumps`, where the directory is listed in this order and every file can be removed. -/
def cleanupPgDumps (chrono : Chrono) (config : BackupConfig) (listing : List DirEntry) (now : Int) :
    Except BackupError Cleanup := do
  if !config.pgDumpEnabled then throw .pgDumpDisabled
  let files := dumps chrono listing now
  let daily ← daysBefore now config.pgDumpRetentionDaily.toNat
  let monthly ← daysBefore now (config.pgDumpRetentionMonthly.toNat * 31)
  let pass := pass chrono files daily monthly
  let removed := (files.zipIdx.filter fun entry => pass.deleteFlags entry.2).map fun entry => entry.1.1
  return { deleted := removed.length, retained := pass.retained, unknownRetained := pass.unknownRetained, removed }

/-- `sanitize_label`. -/
def sanitizeLabel (label : List Char) : List Char :=
  (label.filterMap fun c =>
    if c.isAlphanum then some c.toLower else if c = '-' ∨ c = '_' then some c else none).take 64

/-- `pg_dump_filename`. -/
def pgDumpFilename (chrono : Chrono) (label : Option (List Char)) (now : Int) : List Char :=
  let label := ((label.map sanitizeLabel).filter (· ≠ [])).getD "manual".toList
  "duskcue_".toList ++ label ++ "_".toList ++ chrono.format now ++ ".dump".toList

/-! ## One pass -/

section
variable (chrono : Chrono) (files : List (FileName × Int)) (daily monthly : Int)

/-- The timestamp of the file at a place, where its name has one. -/
def Dated (j : Nat) (t : Int) : Prop := ∃ file, files[j]? = some file ∧ (chrono.stamp file.1).isSome = true ∧ file.2 = t

/-- The time of which a month keeps one dump. -/
def Between (t : Int) : Prop := monthly ≤ t ∧ t < daily

/-- A later dump of the same month is among the first files. -/
def Beaten (i : Nat) (t : Int) : Prop :=
  ∃ k t', k < i ∧ Dated chrono files k t' ∧ Between daily monthly t' ∧ chrono.monthOf t' = chrono.monthOf t ∧ t < t'

def Due (i : Nat) (t : Int) : Prop := t < daily ∧ (t < monthly ∨ Beaten chrono files daily monthly i t)

/-- What holds when so many files have been visited. -/
structure Visited (i : Nat) (pass : Pass) : Prop where
  flagged : ∀ j, pass.deleteFlags j = true ↔ ∃ t, j < i ∧ Dated chrono files j t ∧ Due chrono files daily monthly i t
  keeps : ∀ key j, pass.monthlyKeep.find key = some j → ∃ t, j < i ∧ Dated chrono files j t ∧ Between daily monthly t ∧
    chrono.monthOf t = key ∧ ¬Beaten chrono files daily monthly i t
  lacks : ∀ key, pass.monthlyKeep.find key = none → ∀ k t, k < i → Dated chrono files k t → Between daily monthly t →
    chrono.monthOf t ≠ key
  counted : pass.retained + pass.unknownRetained + (List.range i).countP pass.deleteFlags = i

end

variable {chrono : Chrono} {files : List (FileName × Int)} {daily monthly : Int} {pass : Pass} {i : Nat}

theorem Dated.unique (first : Dated chrono files j t) (second : Dated chrono files j t') : t = t' := by
  obtain ⟨file, here, -, rfl⟩ := first
  obtain ⟨other, there, -, rfl⟩ := second
  rw [Option.some.inj (here.symm.trans there)]

theorem Beaten.mono (beaten : Beaten chrono files daily monthly i t) :
    Beaten chrono files daily monthly (i + 1) t := by
  obtain ⟨k, t', before, rest⟩ := beaten
  exact ⟨k, t', Nat.lt_succ_of_lt before, rest⟩

theorem beaten_succ : Beaten chrono files daily monthly (i + 1) t ↔ Beaten chrono files daily monthly i t ∨
    ∃ t', Dated chrono files i t' ∧ Between daily monthly t' ∧ chrono.monthOf t' = chrono.monthOf t ∧ t < t' := by
  constructor
  · rintro ⟨k, t', before, dated, rest⟩
    rcases Nat.lt_succ_iff_lt_or_eq.mp before with before | rfl
    · exact .inl ⟨k, t', before, dated, rest⟩
    · exact .inr ⟨t', dated, rest⟩
  · rintro (beaten | ⟨t', dated, rest⟩)
    · exact beaten.mono
    · exact ⟨i, t', Nat.lt_succ_self i, dated, rest⟩

/-- A file that is not between the cutoffs beats nothing. -/
theorem beaten_quiet (quiet : ∀ t, Dated chrono files i t → ¬Between daily monthly t) :
    Beaten chrono files daily monthly (i + 1) t ↔ Beaten chrono files daily monthly i t := by
  rw [beaten_succ, or_iff_left]
  rintro ⟨t', dated, between, -⟩
  exact quiet t' dated between

theorem countP_later (later : i ≤ j) :
    (List.range i).countP (Function.update flags j true) = (List.range i).countP flags := by
  refine List.countP_congr fun k member => ?_
  rw [Function.update_of_ne (by have := List.mem_range.mp member; omega)]

theorem countP_update (within : j < i) (unflagged : flags j = false) :
    (List.range i).countP (Function.update flags j true) = (List.range i).countP flags + 1 := by
  induction i with
  | zero => omega
  | succ i ih =>
    rw [List.range_succ, List.countP_append, List.countP_append, List.countP_singleton, List.countP_singleton]
    by_cases last : j = i
    · subst last
      rw [countP_later (Nat.le_refl j), Function.update_self, unflagged]
      rfl
    · rw [ih (by omega), Function.update_of_ne (Ne.symm last)]
      omega

@[simp] theorem flag_self (pass : Pass) (j : Nat) : (pass.flag j).deleteFlags j = true := Function.update_self ..

theorem flag_other (other : k ≠ j) : (pass.flag j).deleteFlags k = pass.deleteFlags k :=
  Function.update_of_ne other ..

/-- Files that are due behind one more file that is the newest of its month: those that were, and the one it
replaces. -/
theorem due_wins (dated : Dated chrono files i t)
    (due : Due chrono files daily monthly (i + 1) t') : Due chrono files daily monthly i t' ∨
      (Between daily monthly t' ∧ chrono.monthOf t' = chrono.monthOf t ∧ t' < t) := by
  obtain ⟨old, expired | beaten⟩ := due
  · exact .inl ⟨old, .inl expired⟩
  rcases beaten_succ.mp beaten with beaten | ⟨later, datedLater, -, month, less⟩
  · exact .inl ⟨old, .inr beaten⟩
  cases dated.unique datedLater
  by_cases expired : t' < monthly
  · exact .inl ⟨old, .inl expired⟩
  · exact .inr ⟨⟨Int.not_lt.mp expired, old⟩, month.symm, less⟩

section
variable (visited : Visited chrono files daily monthly i pass)
include visited

theorem Visited.unflagged (later : i ≤ j) : pass.deleteFlags j = false := by
  rw [Bool.eq_false_iff, ne_eq, visited.flagged]
  rintro ⟨t, before, -⟩
  omega

/-- What a file that is not between the cutoffs leaves of the months. -/
theorem Visited.months (quiet : ∀ t, Dated chrono files i t → ¬Between daily monthly t) :
    (∀ key j, pass.monthlyKeep.find key = some j → ∃ t, j < i + 1 ∧ Dated chrono files j t ∧ Between daily monthly t ∧
      chrono.monthOf t = key ∧ ¬Beaten chrono files daily monthly (i + 1) t) ∧
    ∀ key, pass.monthlyKeep.find key = none → ∀ k t, k < i + 1 → Dated chrono files k t → Between daily monthly t →
      chrono.monthOf t ≠ key := by
  constructor
  · intro key j found
    obtain ⟨t, before, dated, between, month, unbeaten⟩ := visited.keeps key j found
    exact ⟨t, Nat.lt_succ_of_lt before, dated, between, month, (beaten_quiet quiet).not.mpr unbeaten⟩
  · intro key missing k t before dated between
    rcases Nat.lt_succ_iff_lt_or_eq.mp before with before | rfl
    · exact visited.lacks key missing k t before dated between
    · exact absurd between (quiet t dated)

/-- A file without a timestamp, or one that is young. -/
theorem Visited.retain (young : ∀ t, Dated chrono files i t → daily ≤ t) {next : Pass}
    (flags : next.deleteFlags = pass.deleteFlags) (months : next.monthlyKeep = pass.monthlyKeep)
    (counts : next.retained + next.unknownRetained = pass.retained + pass.unknownRetained + 1) :
    Visited chrono files daily monthly (i + 1) next where
  flagged j := by
    have quiet : ∀ t, Dated chrono files i t → ¬Between daily monthly t :=
      fun t dated between => Int.not_lt.mpr (young t dated) between.2
    rw [flags, visited.flagged]
    refine exists_congr fun t => ?_
    rw [Due, Due, beaten_quiet quiet]
    constructor
    · rintro ⟨before, rest⟩
      exact ⟨Nat.lt_succ_of_lt before, rest⟩
    · rintro ⟨before, dated, due, rest⟩
      rcases Nat.lt_succ_iff_lt_or_eq.mp before with before | rfl
      · exact ⟨before, dated, due, rest⟩
      · exact absurd due (Int.not_lt.mpr (young t dated))
  keeps := months ▸ (visited.months fun t dated between => Int.not_lt.mpr (young t dated) between.2).1
  lacks := months ▸ (visited.months fun t dated between => Int.not_lt.mpr (young t dated) between.2).2
  counted := by
    have counted := visited.counted
    rw [flags, List.range_succ, List.countP_append, List.countP_singleton, visited.unflagged (Nat.le_refl i)]
    simp only [Bool.false_eq_true, if_false]
    omega

theorem Visited.counted_flag :
    (pass.flag i).retained + (pass.flag i).unknownRetained + (List.range (i + 1)).countP (pass.flag i).deleteFlags =
      i + 1 := by
  have counted := visited.counted
  have before : (List.range i).countP (pass.flag i).deleteFlags = (List.range i).countP pass.deleteFlags :=
    countP_later (Nat.le_refl i)
  rw [List.range_succ, List.countP_append, List.countP_singleton, flag_self, before]
  simp only [Pass.flag, if_true]
  omega

/-- A file older than the monthly cutoff. -/
theorem Visited.expire {t : Int} (dated : Dated chrono files i t) (old : t < daily) (expired : t < monthly) :
    Visited chrono files daily monthly (i + 1) (pass.flag i) := by
  have quiet : ∀ t', Dated chrono files i t' → ¬Between daily monthly t' := by
    intro t' dated' between
    cases dated.unique dated'
    exact Int.not_lt.mpr between.1 expired
  obtain ⟨keeps, lacks⟩ := visited.months quiet
  refine ⟨fun j => ?_, keeps, lacks, visited.counted_flag⟩
  by_cases own : j = i
  · subst own
    rw [flag_self]
    exact ⟨fun _ => ⟨t, Nat.lt_succ_self j, dated, old, .inl expired⟩, fun _ => rfl⟩
  · rw [flag_other own, visited.flagged]
    refine exists_congr fun t => ?_
    rw [Due, Due, beaten_quiet quiet]
    refine and_congr_left fun _ => ?_
    omega

section
variable (dated : Dated chrono files i t) (between : Between daily monthly t)
include dated between

/-- A file of a month of which a newer one was found. -/
theorem Visited.lose (beaten : Beaten chrono files daily monthly i t)
    (known : pass.monthlyKeep.find (chrono.monthOf t) ≠ none) :
    Visited chrono files daily monthly (i + 1) (pass.flag i) := by
  have same {t' : Int} : Beaten chrono files daily monthly (i + 1) t' ↔ Beaten chrono files daily monthly i t' := by
    rw [beaten_succ, or_iff_left_of_imp]
    rintro ⟨later, dated', -, month, less⟩
    cases dated.unique dated'
    obtain ⟨k, newest, before, datedNewest, betweenNewest, monthNewest, lessNewest⟩ := beaten
    exact ⟨k, newest, before, datedNewest, betweenNewest, monthNewest.trans month, Int.lt_trans less lessNewest⟩
  refine ⟨fun j => ?_, fun key j found => ?_, fun key missing k t' before dated' between' => ?_, visited.counted_flag⟩
  · by_cases own : j = i
    · subst own
      rw [flag_self]
      exact ⟨fun _ => ⟨t, Nat.lt_succ_self j, dated, between.2, .inr (same.mpr beaten)⟩, fun _ => rfl⟩
    · rw [flag_other own, visited.flagged]
      refine exists_congr fun t => ?_
      rw [Due, Due, same]
      refine and_congr_left fun _ => ?_
      omega
  · obtain ⟨t', before, rest, between', month, unbeaten⟩ := visited.keeps key j found
    exact ⟨t', Nat.lt_succ_of_lt before, rest, between', month, same.not.mpr unbeaten⟩
  · rcases Nat.lt_succ_iff_lt_or_eq.mp before with before | rfl
    · exact visited.lacks key missing k t' before dated' between'
    · cases dated.unique dated'
      rintro rfl
      exact known missing

/-- The months behind a file that is the newest of its month so far. -/
theorem Visited.wins (newest : ∀ k t', k < i → Dated chrono files k t' → Between daily monthly t' →
      chrono.monthOf t' = chrono.monthOf t → t' < t) :
    ¬Beaten chrono files daily monthly (i + 1) t ∧
    (∀ key j, (pass.monthlyKeep.put (chrono.monthOf t) i).find key = some j → ∃ t, j < i + 1 ∧ Dated chrono files j t ∧
      Between daily monthly t ∧ chrono.monthOf t = key ∧ ¬Beaten chrono files daily monthly (i + 1) t) ∧
    ∀ key, (pass.monthlyKeep.put (chrono.monthOf t) i).find key = none → ∀ k t, k < i + 1 → Dated chrono files k t →
      Between daily monthly t → chrono.monthOf t ≠ key := by
  have unbeaten : ¬Beaten chrono files daily monthly (i + 1) t := by
    rintro ⟨k, t', before, dated', between', month, less⟩
    rcases Nat.lt_succ_iff_lt_or_eq.mp before with before | rfl
    · exact Int.lt_asymm less (newest k t' before dated' between' month)
    · cases dated.unique dated'
      exact Int.lt_irrefl _ less
  refine ⟨unbeaten, fun key j found => ?_, fun key missing k t' before dated' between' => ?_⟩
  · by_cases own : key = chrono.monthOf t
    · cases own
      rw [Table.find_put_self] at found
      cases found
      exact ⟨t, Nat.lt_succ_self i, dated, between, rfl, unbeaten⟩
    · rw [Table.find_put_ne own] at found
      obtain ⟨t', before, dated', between', month, unbeaten'⟩ := visited.keeps key j found
      refine ⟨t', Nat.lt_succ_of_lt before, dated', between', month, ?_⟩
      rw [beaten_succ]
      rintro (beaten | ⟨later, datedLater, -, monthLater, -⟩)
      · exact unbeaten' beaten
      · cases dated.unique datedLater
        exact own (month.symm.trans monthLater.symm)
  · by_cases own : key = chrono.monthOf t
    · cases own
      rw [Table.find_put_self] at missing
      cases missing
    · rw [Table.find_put_ne own] at missing
      rcases Nat.lt_succ_iff_lt_or_eq.mp before with before | rfl
      · exact visited.lacks key missing k t' before dated' between'
      · cases dated.unique dated'
        exact Ne.symm own

theorem Visited.first (missing : pass.monthlyKeep.find (chrono.monthOf t) = none) :
    Visited chrono files daily monthly (i + 1)
      { pass with monthlyKeep := pass.monthlyKeep.put (chrono.monthOf t) i, retained := pass.retained + 1 } := by
  obtain ⟨unbeaten, keeps, lacks⟩ := visited.wins dated between fun k t' before dated' between' month =>
    absurd month (visited.lacks _ missing k t' before dated' between')
  refine ⟨fun j => ?_, keeps, lacks, ?_⟩
  · rw [visited.flagged]
    constructor
    · rintro ⟨t', before, dated', old, due⟩
      exact ⟨t', Nat.lt_succ_of_lt before, dated', old, due.imp_right Beaten.mono⟩
    · rintro ⟨t', before, dated', due⟩
      rcases Nat.lt_succ_iff_lt_or_eq.mp before with before | rfl
      · rcases due_wins dated due with due | ⟨between', month, -⟩
        · exact ⟨t', before, dated', due⟩
        · exact absurd month (visited.lacks _ missing j t' before dated' between')
      · cases dated.unique dated'
        obtain ⟨-, expired | beaten⟩ := due
        · exact absurd expired (Int.not_lt.mpr between.1)
        · exact absurd beaten unbeaten
  · have counted := visited.counted
    rw [List.range_succ, List.countP_append, List.countP_singleton, visited.unflagged (Nat.le_refl i)]
    simp only [Bool.false_eq_true, if_false]
    omega

/-- A newer file of a month of which one was found. -/
theorem Visited.replace (found : pass.monthlyKeep.find (chrono.monthOf t) = some existing)
    (there : Dated chrono files existing t₀) (newer : t₀ < t)
    (distinct : ∀ j k t, Dated chrono files j t → Dated chrono files k t → j = k) :
    Visited chrono files daily monthly (i + 1)
      { pass.flag existing with monthlyKeep := pass.monthlyKeep.put (chrono.monthOf t) i } := by
  obtain ⟨t₁, before, there', betweenThere, monthThere, unbeatenThere⟩ := visited.keeps _ existing found
  cases there.unique there'
  have greatest : ∀ k t', k < i → Dated chrono files k t' → Between daily monthly t' →
      chrono.monthOf t' = chrono.monthOf t → t' ≤ t₀ := by
    intro k t' beforeK dated' between' month
    by_contra more
    exact unbeatenThere ⟨k, t', beforeK, dated', between', month.trans monthThere.symm, Int.not_le.mp more⟩
  obtain ⟨unbeaten, keeps, lacks⟩ := visited.wins dated between fun k t' beforeK dated' between' month =>
    Int.lt_of_le_of_lt (greatest k t' beforeK dated' between' month) newer
  have unflagged : pass.deleteFlags existing = false := by
    rw [Bool.eq_false_iff, ne_eq, visited.flagged]
    rintro ⟨t', -, dated', -, due⟩
    cases there.unique dated'
    exact due.elim (Int.not_lt.mpr betweenThere.1) unbeatenThere
  refine ⟨fun j => ?_, keeps, lacks, ?_⟩
  · by_cases own : j = existing
    · subst own
      rw [flag_self]
      exact ⟨fun _ => ⟨t₀, Nat.lt_succ_of_lt before, there, betweenThere.2,
        .inr ⟨i, t, Nat.lt_succ_self i, dated, between,
        monthThere.symm, newer⟩⟩, fun _ => rfl⟩
    · rw [flag_other own, visited.flagged]
      constructor
      · rintro ⟨t', before, dated', old, due⟩
        exact ⟨t', Nat.lt_succ_of_lt before, dated', old, due.imp_right Beaten.mono⟩
      · rintro ⟨t', beforeJ, dated', due⟩
        rcases Nat.lt_succ_iff_lt_or_eq.mp beforeJ with beforeJ | rfl
        · rcases due_wins dated due with due | ⟨between', month, -⟩
          · exact ⟨t', beforeJ, dated', due⟩
          · have less : t' < t₀ := by
              refine Int.lt_iff_le_and_ne.mpr ⟨greatest j t' beforeJ dated' between' month, ?_⟩
              rintro rfl
              exact own (distinct j existing t' dated' there)
            exact ⟨t', beforeJ, dated', between'.2, .inr ⟨existing, t₀, before, there, betweenThere,
              monthThere.trans month.symm, less⟩⟩
        · cases dated.unique dated'
          obtain ⟨-, expired | beaten⟩ := due
          · exact absurd expired (Int.not_lt.mpr between.1)
          · exact absurd beaten unbeaten
  · have counted := visited.counted
    have last : (pass.flag existing).deleteFlags i = false :=
      (flag_other (Nat.ne_of_gt before)).trans (visited.unflagged (Nat.le_refl i))
    have more : (List.range i).countP (pass.flag existing).deleteFlags = (List.range i).countP pass.deleteFlags + 1 :=
      countP_update before unflagged
    rw [List.range_succ, List.countP_append, List.countP_singleton, last, more]
    simp only [Pass.flag, Bool.false_eq_true, if_false]
    omega

end

/-- A turn of the loop. -/
theorem Visited.visit (here : files[i]? = some file)
    (distinct : ∀ j k t, Dated chrono files j t → Dated chrono files k t → j = k) :
    Visited chrono files daily monthly (i + 1) (visit chrono files daily monthly pass (file, i)) := by
  obtain ⟨path, timestamp⟩ := file
  unfold Backup.visit
  dsimp only
  split
  · rename_i unknown
    refine visited.retain ?_ rfl rfl (by dsimp only; omega)
    rintro t ⟨file, there, known, -⟩
    cases here.symm.trans there
    rw [Option.isNone_iff_eq_none] at unknown
    rw [unknown] at known
    cases known
  rename_i known
  have dated : Dated chrono files i timestamp := ⟨_, here, Option.isSome_iff_ne_none.mpr (by simpa using known), rfl⟩
  split
  · rename_i young
    refine visited.retain ?_ rfl rfl (by dsimp only; omega)
    intro t dated'
    cases dated.unique dated'
    exact young
  rename_i old
  have old : timestamp < daily := Int.not_le.mp old
  split
  · rename_i expired
    exact visited.expire dated old expired
  rename_i recent
  have between : Between daily monthly timestamp := ⟨Int.not_lt.mp recent, old⟩
  cases found : pass.monthlyKeep.find (chrono.monthOf timestamp) with
  | none => exact visited.first dated between found
  | some existing =>
    obtain ⟨t₀, before, there, betweenThere, month, -⟩ := visited.keeps _ existing found
    have compared : (files[existing]?).any (·.2 < timestamp) = decide (t₀ < timestamp) := by
      obtain ⟨other, place, -, rfl⟩ := there
      rw [place]
      rfl
    dsimp only
    rw [compared]
    split
    · rename_i newer
      exact visited.replace dated between found there (of_decide_eq_true newer) distinct
    · rename_i later
      refine visited.lose dated between ⟨existing, t₀, before, there, betweenThere, month, ?_⟩ (by rw [found]; nofun)
      refine Int.lt_iff_le_and_ne.mpr ⟨Int.not_lt.mp fun newer => later (decide_eq_true newer), ?_⟩
      rintro rfl
      exact absurd (distinct i existing timestamp dated there) (Nat.ne_of_gt before)

end

/-- The whole loop. -/
theorem pass_visited (distinct : ∀ j k t, Dated chrono files j t → Dated chrono files k t → j = k) :
    Visited chrono files daily monthly files.length (Backup.pass chrono files daily monthly) := by
  have visited (front : List (FileName × Int)) (starts : front <+: files) :
    Visited chrono files daily monthly front.length
      (front.zipIdx.foldl (visit chrono files daily monthly) {}) := by
    induction front using List.reverseRecOn with
    | nil =>
      refine ⟨fun j => ?_, nofun, fun _ _ k t before => absurd before (Nat.not_lt_zero k), rfl⟩
      exact ⟨nofun, fun ⟨_, before, _⟩ => absurd before (Nat.not_lt_zero j)⟩
    | append_singleton _ file ih =>
      obtain ⟨back, rfl⟩ := starts
      rw [List.zipIdx_append, List.foldl_append, List.length_append, Nat.zero_add, List.zipIdx_singleton,
        List.foldl_cons,
        List.foldl_nil]
      refine (ih ⟨file :: back, by simp⟩).visit ?_ distinct
      simp
  exact visited files (List.prefix_refl files)

/-! ## Cleanups -/

section
variable (chrono : Chrono) (config : BackupConfig)

def dailyCutoff (now : Int) : Int := now - config.pgDumpRetentionDaily.toNat * day

def monthlyCutoff (now : Int) : Int := now - config.pgDumpRetentionMonthly.toNat * 31 * day

/-- `chrono` can represent the cutoffs. -/
def Representable (now : Int) : Prop :=
  ((config.pgDumpRetentionDaily.toNat : Int) ≤ maxDays ∧ minUtc ≤ dailyCutoff config now) ∧
    (config.pgDumpRetentionMonthly.toNat : Int) * 31 ≤ maxDays ∧ minUtc ≤ monthlyCutoff config now

/-- The timestamps in the names of a directory are distinct. -/
def Distinct (listing : List DirEntry) : Prop := (listing.filterMap fun entry => chrono.stamp entry.path).Nodup

/-- The files that a cleanup is to delete: those with a timestamp older than the daily cutoff that are older than the
monthly one too, or not the newest of their month among the files between the two. -/
def Deletes (listing : List DirEntry) (now : Int) (path : FileName) : Prop :=
  ∃ t, chrono.stamp path = some t ∧ t < dailyCutoff config now ∧ (t < monthlyCutoff config now ∨
    ∃ other ∈ listing, ∃ t', chrono.stamp other.path = some t' ∧
      Between (dailyCutoff config now) (monthlyCutoff config now) t' ∧ chrono.monthOf t' = chrono.monthOf t ∧ t < t')

/-- A cleanup has deleted just those, and counted every dump once. -/
structure Exact (listing : List DirEntry) (now : Int) (cleanup : Cleanup) : Prop where
  deletes : ∀ path, path ∈ cleanup.removed ↔
    (∃ entry ∈ listing, entry.path = path) ∧ Deletes chrono config listing now path
  counts : cleanup.deleted = cleanup.removed.length ∧
    cleanup.deleted + cleanup.retained + cleanup.unknownRetained = (listing.filter (·.path.isDump)).length

end

variable {config : BackupConfig} {listing : List DirEntry} {now : Int}

theorem daysBefore_ok : daysBefore now days = .ok (now - days * day) ↔
    days ≤ maxDays ∧ minUtc ≤ now - days * day := by
  unfold daysBefore
  split
  · simp_all
  split
  · simp_all
  · simp_all

theorem daysBefore_cases (now days : Int) : daysBefore now days = .ok (now - days * day) ∨
    daysBefore now days = .error .panicked := by
  unfold daysBefore
  split
  · exact .inr rfl
  split
  · exact .inr rfl
  · exact .inl rfl

theorem isDump_of_stamp (stamped : chrono.stamp path = some t) : path.isDump = true := by
  cases path with
  | other => rfl
  | unicode =>
    obtain ⟨front, suffix, sized⟩ := Option.bind_eq_some_iff.mp stamped
    rw [FileName.isDump, suffix]
    rw [Option.any_some, decide_eq_true_eq]
    rintro rfl
    simp [byteLength] at sized

theorem dated_dumps : Dated chrono (dumps chrono listing now) j t ↔
    ∃ entry, (listing.filter (·.path.isDump))[j]? = some entry ∧ chrono.stamp entry.path = some t := by
  unfold Dated dumps
  constructor
  · rintro ⟨file, here, known, rfl⟩
    rw [List.getElem?_map] at here
    obtain ⟨entry, place, rfl⟩ := Option.map_eq_some_iff.mp here
    obtain ⟨t, stamped⟩ := Option.isSome_iff_exists.mp known
    exact ⟨entry, place, by rw [stamped]; rfl⟩
  · rintro ⟨entry, place, stamped⟩
    refine ⟨_, by rw [List.getElem?_map, place]; rfl, ?_, ?_⟩
    · exact Option.isSome_iff_exists.mpr ⟨t, stamped⟩
    · exact congrArg (Option.getD · _) stamped

/-- A file with a timestamp is one of the dumps. -/
theorem place_of_stamp (member : entry ∈ listing) (stamped : chrono.stamp entry.path = some t) :
    ∃ j : Nat, (listing.filter (·.path.isDump))[j]? = some entry :=
  List.mem_iff_getElem?.mp (List.mem_filter_of_mem member (isDump_of_stamp stamped))

theorem Distinct.dated (distinct : Distinct chrono listing) (j k : Nat) (t : Int)
    (first : Dated chrono (dumps chrono listing now) j t) (second : Dated chrono (dumps chrono listing now) k t) :
      j = k := by
  obtain ⟨entry, place, stamped⟩ := dated_dumps.mp first
  obtain ⟨other, place', stamped'⟩ := dated_dumps.mp second
  have whole : ((listing.filter (·.path.isDump)).filterMap fun entry => chrono.stamp entry.path).Nodup :=
    distinct.sublist (List.filter_sublist.filterMap _)
  have apart := List.pairwise_iff_getElem.mp (List.pairwise_filterMap.mp whole)
  obtain ⟨within, rfl⟩ := List.getElem?_eq_some_iff.mp place
  obtain ⟨within', rfl⟩ := List.getElem?_eq_some_iff.mp place'
  rcases Nat.lt_trichotomy j k with less | same | more
  · exact absurd rfl (apart j k within within' less t stamped t stamped')
  · exact same
  · exact absurd rfl (apart k j within' within more t stamped' t stamped)

/-- What is due at the end of the loop is what is to be deleted. -/
theorem due_iff : Due chrono (dumps chrono listing now) (dailyCutoff config now) (monthlyCutoff config now)
    (dumps chrono listing now).length t ↔ t < dailyCutoff config now ∧ (t < monthlyCutoff config now ∨
      ∃ other ∈ listing, ∃ t', chrono.stamp other.path = some t' ∧
        Between (dailyCutoff config now) (monthlyCutoff config now) t' ∧ chrono.monthOf t' = chrono.monthOf t ∧
          t < t') := by
  refine and_congr_right fun _ => or_congr_right ?_
  constructor
  · rintro ⟨k, t', -, dated, rest⟩
    obtain ⟨other, place, stamped⟩ := dated_dumps.mp dated
    exact ⟨other, List.mem_of_mem_filter (List.mem_of_getElem? place), t', stamped, rest⟩
  · rintro ⟨other, member, t', stamped, rest⟩
    obtain ⟨k, place⟩ := place_of_stamp member stamped
    refine ⟨k, t', ?_, dated_dumps.mpr ⟨other, place, stamped⟩, rest⟩
    obtain ⟨within, -⟩ := List.getElem?_eq_some_iff.mp place
    rw [dumps, List.length_map]
    exact within

/-- The answer of a cleanup with representable cutoffs. -/
theorem cleanupPgDumps_ok (enabled : config.pgDumpEnabled = true) (representable : Representable config now) :
    ∃ cleanup, cleanupPgDumps chrono config listing now = .ok cleanup ∧
      cleanup.removed = (((dumps chrono listing now).zipIdx.filter fun entry =>
        (Backup.pass chrono (dumps chrono listing now)
        (dailyCutoff config now) (monthlyCutoff config now)).deleteFlags entry.2).map fun entry => entry.1.1) ∧
      cleanup.deleted = cleanup.removed.length ∧
      cleanup.retained = (Backup.pass chrono (dumps chrono listing now) (dailyCutoff config now)
        (monthlyCutoff config now)).retained ∧
      cleanup.unknownRetained = (Backup.pass chrono (dumps chrono listing now) (dailyCutoff config now)
        (monthlyCutoff config now)).unknownRetained := by
  have daily := daysBefore_ok.mpr representable.1
  have monthly := daysBefore_ok.mpr representable.2
  unfold cleanupPgDumps
  rw [enabled, daily, monthly]
  exact ⟨_, rfl, rfl, rfl, rfl, rfl⟩

theorem cleanupPgDumps_panics (enabled : config.pgDumpEnabled = true) (panics : ¬Representable config now) :
    cleanupPgDumps chrono config listing now = .error .panicked := by
  unfold cleanupPgDumps
  rw [enabled]
  rcases daysBefore_cases now config.pgDumpRetentionDaily.toNat with daily | daily
  · rcases daysBefore_cases now (config.pgDumpRetentionMonthly.toNat * 31) with monthly | monthly
    · exact absurd ⟨daysBefore_ok.mp daily, daysBefore_ok.mp monthly⟩ panics
    · rw [daily, monthly]
      rfl
  · rw [daily]
    rfl

theorem length_flagged (files : List (FileName × Int)) (flags : Nat → Bool) :
    (files.zipIdx.filter fun entry => flags entry.2).length = (List.range files.length).countP flags := by
  rw [← List.countP_eq_length_filter, List.range_eq_range', ← List.zipIdx_map_snd, List.countP_map]
  rfl

/-- A cleanup with representable cutoffs deletes what is to be deleted. -/
theorem cleanupPgDumps_exact (enabled : config.pgDumpEnabled = true) (representable : Representable config now)
    (distinct : Distinct chrono listing) :
    ∃ cleanup, cleanupPgDumps chrono config listing now = .ok cleanup ∧ Exact chrono config listing now cleanup := by
  obtain ⟨cleanup, answered, removed, deleted, retained, unknown⟩ :
      ∃ cleanup, cleanupPgDumps chrono config listing now = .ok cleanup ∧ _ := cleanupPgDumps_ok enabled representable
  have visited : Visited chrono (dumps chrono listing now) (dailyCutoff config now) (monthlyCutoff config now) _ _ :=
    pass_visited distinct.dated
  refine ⟨cleanup, answered, ?_, deleted, ?_⟩
  · intro path
    rw [removed, List.mem_map]
    constructor
    · rintro ⟨⟨⟨path, timestamp⟩, j⟩, member, rfl⟩
      obtain ⟨place, flagged⟩ := List.mem_filter.mp member
      obtain ⟨t, -, dated, due⟩ := (visited.flagged j).mp flagged
      obtain ⟨entry, there, stamped⟩ := dated_dumps.mp dated
      have here := List.mem_zipIdx_iff_getElem?.mp place
      rw [dumps, List.getElem?_map, there] at here
      cases here
      exact ⟨⟨entry, List.mem_of_mem_filter (List.mem_of_getElem? there), rfl⟩, t, stamped, due_iff.mp due⟩
    · rintro ⟨⟨entry, member, rfl⟩, t, stamped, due⟩
      obtain ⟨j, place⟩ := place_of_stamp member stamped
      have dated : Dated chrono (dumps chrono listing now) _ _ := dated_dumps.mpr ⟨entry, place, stamped⟩
      have within : j < (dumps chrono listing now).length := by
        rw [dumps, List.length_map]
        exact (List.getElem?_eq_some_iff.mp place).1
      have flagged := (visited.flagged j).mpr ⟨t, within, dated, due_iff.mpr due⟩
      refine ⟨((entry.path, (chrono.stamp entry.path).getD (entry.modified.getD now)), j),
        List.mem_filter.mpr ⟨List.mem_zipIdx_iff_getElem?.mpr ?_, flagged⟩, rfl⟩
      rw [dumps, List.getElem?_map, place]
      rfl
  · have counted := visited.counted
    rw [deleted, removed, List.length_map, length_flagged, retained, unknown]
    rw [dumps, List.length_map] at counted ⊢
    dsimp only [dumps] at *
    omega

end Duskcue.Backup
