import Duskcue.LongRuns
import Duskcue.PlaybackSchema
import Duskcue.SegmentWindows

/-! The audio two episodes share. One fingerprint is slid along the other; at each offset
the row of sub-fingerprints that agree is scanned for a run, and the best run of all
offsets becomes the match of the pair. -/
namespace Duskcue.Segments
open Playback (Uuid)

structure FingerprintWithContext where
  mediaItemId : Uuid
  runtimeMs : Int
  fingerprint : List (BitVec 32)
  deriving DecidableEq

/-- The period is an `i32`. -/
structure ChromaprintThresholds where
  minBitAgreement : Nat := 30
  subfpPeriodMs : Int := 11
  periodFits : fits32 subfpPeriodMs = true := by decide

/-- The operations on `f32`. -/
structure Similarities (φ : Type) where
  zero : φ
  /-- `runSumBits / (runLen * 32)`. -/
  average : Nat → Nat → φ
  max : φ → φ → φ
  gt : φ → φ → Bool

structure RecurringMatch (φ : Type) where
  mediaItemId : Uuid
  segmentType : SegmentType
  startMs : Int
  endMs : Int
  matchingEpisodes : Nat
  similarity : φ
  deriving DecidableEq

/-! ## Positions and times -/

/-- `as usize`. -/
def asUsize (n : Int) : Nat := (n % 18446744073709551616).toNat

def durationToSubfps (durationMs subfpPeriodMs : Int) : Nat :=
  if subfpPeriodMs ≤ 0 then 0 else asUsize durationMs / asUsize subfpPeriodMs

def msToSubfp (ms subfpPeriodMs : Int) : Nat := durationToSubfps ms subfpPeriodMs

def subfpToMs (subfp : Nat) (subfpPeriodMs : Int) : Int := wrapped32 (wrapped32 subfp * subfpPeriodMs)

def countOnes (x : BitVec 32) : Nat := (List.range 32).countP fun i => x.getLsbD i

def bitAgreement (a b : BitVec 32) : Nat := 32 - countOnes (a ^^^ b)

/-- The last sub-fingerprint of the search window. -/
def windowEndSubfp (a b : FingerprintWithContext) (thresholds : ChromaprintThresholds) : Nat :=
  let windowA := introSearchWindowMs a.runtimeMs false
  let windowB := introSearchWindowMs b.runtimeMs false
  msToSubfp (min windowA.endMs windowB.endMs) thresholds.subfpPeriodMs

/-! ## One offset -/

structure RunState (φ : Type) where
  runLen : Nat
  runSumBits : Nat
  runBestSimilarity : φ

section
variable {φ : Type} (env : Similarities φ) (minBitAgreement minRun maxRun windowEnd : Nat)

/-- The loop over one alignment, from sub-fingerprint `idxA` of the first fingerprint. -/
def scanRun (idxA : Nat) : List (BitVec 32 × BitVec 32) → RunState φ → RunState φ
  | [], run => run
  | (a, b) :: rest, run =>
    if windowEnd < idxA then run
    else
      let agreement := bitAgreement a b
      if minBitAgreement ≤ agreement then
        let runLen := run.runLen + 1
        let runSumBits := run.runSumBits + agreement
        let run := ⟨runLen, runSumBits, env.max run.runBestSimilarity (env.average runSumBits runLen)⟩
        if maxRun ≤ runLen then run else scanRun (idxA + 1) rest run
      else if minRun ≤ run.runLen then run
      else
        let run := { run with runLen := 0, runSumBits := 0 }
        if maxRun ≤ 0 then run else scanRun (idxA + 1) rest run

/-- The run of an offset. -/
def runAt (fpA fpB : List (BitVec 32)) (offset : Nat) : RunState φ :=
  scanRun env minBitAgreement minRun maxRun windowEnd offset ((fpA.drop offset).zip fpB) ⟨0, 0, env.zero⟩

/-! ## All offsets -/

structure Best (φ : Type) where
  offset : Nat
  runLen : Nat
  similarity : φ

/-- The tuple that is kept is read as a length, an offset and a similarity, so that the length
of the run is compared with the kept offset. -/
def better (runLen : Nat) (similarity : φ) : Option (Best φ) → Bool
  | none => true
  | some prev => prev.offset < runLen || (prev.offset = runLen && env.gt similarity prev.similarity)

def slide (fpA fpB : List (BitVec 32)) : List Nat → Option (Best φ) → Option (Best φ)
  | [], best => best
  | offset :: rest, best =>
    if windowEnd < offset then best
    else
      let run := runAt env minBitAgreement minRun maxRun windowEnd fpA fpB offset
      let best :=
        if minRun ≤ run.runLen then
          if better env run.runLen run.runBestSimilarity best then some ⟨offset, run.runLen, run.runBestSimilarity⟩
          else best
        else best
      slide fpA fpB rest best

end

section
variable {φ : Type} (env : Similarities φ) (a b : FingerprintWithContext) (thresholds : ChromaprintThresholds)
  (minRun maxRun : Nat)

/-- The loop over the offsets. -/
def bestRun : Option (Best φ) :=
  slide env thresholds.minBitAgreement minRun maxRun (windowEndSubfp a b thresholds) a.fingerprint b.fingerprint
    (List.range (a.fingerprint.length - minRun)) none

def bestPairMatch : Option (RecurringMatch φ) := do
  let best ← bestRun env a b thresholds minRun maxRun
  let windowEnd := windowEndSubfp a b thresholds
  let startSubfp := min best.offset windowEnd
  let endSubfp := min (best.offset + best.runLen) (windowEnd + 1)
  if endSubfp ≤ startSubfp then none
  else
    let startMs := subfpToMs startSubfp thresholds.subfpPeriodMs
    let endMs := subfpToMs endSubfp thresholds.subfpPeriodMs
    if endMs - startMs < (DurationThresholds.forType .intro).minMs then none
    else some ⟨0, .intro, startMs, endMs, 2, best.similarity⟩

end

/-! ## What an alignment shows -/

section
variable (a b : FingerprintWithContext) (thresholds : ChromaprintThresholds)

/-- With the second fingerprint moved by the offset, its sub-fingerprint `k` agrees. -/
def Agrees (offset k : Nat) : Prop :=
  ∃ x y, a.fingerprint[offset + k]? = some x ∧ b.fingerprint[k]? = some y ∧
    thresholds.minBitAgreement ≤ bitAgreement x y

/-- A run of the alignment: `l` sub-fingerprints of the search window that agree. -/
def AgreeingRun (offset k l : Nat) : Prop :=
  ∀ j < l, offset + (k + j) ≤ windowEndSubfp a b thresholds ∧ Agrees a b thresholds offset (k + j)

/-- The lengths, up to the longest there may be, of the runs of all alignments in the window. -/
def RunLength (minRun maxRun n : Nat) : Prop :=
  ∃ offset k l, offset + minRun ≤ a.fingerprint.length ∧ offset ≤ windowEndSubfp a b thresholds ∧
    AgreeingRun a b thresholds offset k l ∧ minRun ≤ l ∧ n = min l maxRun

/-- The marks the scan of an offset goes over. -/
def marks (offset : Nat) : List Bool :=
  (((a.fingerprint.drop offset).zip b.fingerprint).map fun pair =>
    decide (thresholds.minBitAgreement ≤ bitAgreement pair.1 pair.2)).take
      (windowEndSubfp a b thresholds + 1 - offset)

end

section
variable {φ : Type} {env : Similarities φ} {a b : FingerprintWithContext} {thresholds : ChromaprintThresholds}
  {minRun maxRun offset k l : Nat}

theorem marks_getElem : (marks a b thresholds offset)[k]? = some true ↔
    offset + k ≤ windowEndSubfp a b thresholds ∧ Agrees a b thresholds offset k := by
  unfold marks Agrees
  rw [List.getElem?_take]
  by_cases within : k < windowEndSubfp a b thresholds + 1 - offset
  · rw [if_pos within, List.getElem?_map, Option.map_eq_some_iff]
    simp only [List.getElem?_zip_eq_some, List.getElem?_drop, decide_eq_true_eq, Prod.exists, and_assoc]
    exact ⟨fun found => ⟨by omega, found⟩, And.right⟩
  · rw [if_neg within]
    constructor
    · rintro ⟨⟩
    · rintro ⟨inside, _⟩
      omega

theorem run_marks : LongRuns.Run (marks a b thresholds offset) k l ↔ AgreeingRun a b thresholds offset k l := by
  unfold LongRuns.Run AgreeingRun
  simp only [marks_getElem]

theorem scanRun_runLen {pairs : List (BitVec 32 × BitVec 32)} {run : RunState φ} :
    (scanRun env minBitAgreement minRun maxRun windowEnd idxA pairs run).runLen =
      LongRuns.scan minRun maxRun run.runLen ((pairs.map fun pair =>
        decide (minBitAgreement ≤ bitAgreement pair.1 pair.2)).take (windowEnd + 1 - idxA)) := by
  induction pairs generalizing idxA run with
  | nil =>
    rw [scanRun, List.map_nil, List.take_nil, LongRuns.scan]
  | cons pair _ ih =>
    obtain ⟨x, y⟩ := pair
    rw [scanRun]
    by_cases past : windowEnd < idxA
    · rw [if_pos past, show windowEnd + 1 - idxA = 0 by omega, List.take_zero, LongRuns.scan]
    · rw [if_neg past, List.map_cons, show windowEnd + 1 - idxA = windowEnd + 1 - (idxA + 1) + 1 by omega,
        List.take_succ_cons]
      by_cases agrees : minBitAgreement ≤ bitAgreement x y
      · simp only [if_pos agrees, decide_eq_true agrees, LongRuns.scan]
        split
        · rfl
        · exact ih
      · simp only [if_neg agrees, decide_eq_false agrees, LongRuns.scan]
        split
        · rfl
        · split
          · rfl
          · exact ih

theorem runAt_runLen : (runAt env thresholds.minBitAgreement minRun maxRun (windowEndSubfp a b thresholds) a.fingerprint
    b.fingerprint offset).runLen = LongRuns.scan minRun maxRun 0 (marks a b thresholds offset) :=
  scanRun_runLen

/-! ## The best run -/

/-- The length of the run the scan of an offset stops at. -/
def runLenAt (a b : FingerprintWithContext) (thresholds : ChromaprintThresholds) (minRun maxRun offset : Nat) : Nat :=
  LongRuns.scan minRun maxRun 0 (marks a b thresholds offset)

/-- An offset the search comes to whose scan finds a run. -/
def FoundAt (a b : FingerprintWithContext) (thresholds : ChromaprintThresholds) (minRun maxRun offset : Nat) : Prop :=
  offset + minRun < a.fingerprint.length ∧ offset ≤ windowEndSubfp a b thresholds ∧
    minRun ≤ runLenAt a b thresholds minRun maxRun offset

/-- What is kept for an offset. -/
def bestAt (env : Similarities φ) (a b : FingerprintWithContext) (thresholds : ChromaprintThresholds)
    (minRun maxRun offset : Nat) : Best φ :=
  let run := runAt env thresholds.minBitAgreement minRun maxRun (windowEndSubfp a b thresholds) a.fingerprint
    b.fingerprint offset
  ⟨offset, run.runLen, run.runBestSimilarity⟩

theorem bestAt_runLen : (bestAt env a b thresholds minRun maxRun offset).runLen =
    runLenAt a b thresholds minRun maxRun offset :=
  runAt_runLen

/-- The run of an offset is longer than another offset's number, or as long as it says and
more similar than the other's run. -/
def Displaces (env : Similarities φ) (a b : FingerprintWithContext) (thresholds : ChromaprintThresholds)
    (minRun maxRun offset other : Nat) : Prop :=
  other < runLenAt a b thresholds minRun maxRun offset ∨ other = runLenAt a b thresholds minRun maxRun offset ∧
    env.gt (bestAt env a b thresholds minRun maxRun offset).similarity
      (bestAt env a b thresholds minRun maxRun other).similarity = true

/-- The last of the offsets that are found and displace each such offset before them. -/
def KeptAt (env : Similarities φ) (a b : FingerprintWithContext) (thresholds : ChromaprintThresholds)
    (minRun maxRun : Nat) : Nat → Prop :=
  LongRuns.Last (FoundAt a b thresholds minRun maxRun) (Displaces env a b thresholds minRun maxRun)

/-- What the loop has once it has met the offsets below a bound. -/
structure Upto (env : Similarities φ) (a b : FingerprintWithContext) (thresholds : ChromaprintThresholds)
    (minRun maxRun bound : Nat) (best : Option (Best φ)) : Prop where
  held : LongRuns.Held (FoundAt a b thresholds minRun maxRun) (Displaces env a b thresholds minRun maxRun) bound
    (best.map Best.offset)
  is : ∀ kept, best = some kept → kept = bestAt env a b thresholds minRun maxRun kept.offset

/-- The comparison decides whether the next offset is taken. -/
theorem Upto.taken_iff (upto : Upto env a b thresholds minRun maxRun offset best) :
    LongRuns.Taken (FoundAt a b thresholds minRun maxRun) (Displaces env a b thresholds minRun maxRun) offset ↔
      FoundAt a b thresholds minRun maxRun offset ∧ better env (bestAt env a b thresholds minRun maxRun offset).runLen
        (bestAt env a b thresholds minRun maxRun offset).similarity best = true := by
  rw [upto.held.taken_iff fun other earlier before displaces => .inl (by
    rcases displaces with more | ⟨same, _⟩ <;> omega)]
  refine and_congr_right fun _ => ?_
  cases best with
  | none => exact ⟨fun _ => rfl, nofun⟩
  | some kept =>
    simp only [Option.map_some, Option.some.injEq, forall_eq', better, Displaces, ← upto.is kept rfl, Bool.or_eq_true,
      Bool.and_eq_true, decide_eq_true_eq]
    rw [bestAt_runLen]

theorem slide_upto (searched : offset + count + minRun ≤ a.fingerprint.length)
    (upto : Upto env a b thresholds minRun maxRun offset best) :
    Upto env a b thresholds minRun maxRun (offset + count)
      (slide env thresholds.minBitAgreement minRun maxRun (windowEndSubfp a b thresholds) a.fingerprint
        b.fingerprint (List.range' offset count) best) := by
  induction count generalizing offset best with
  | zero => exact upto
  | succ count ih =>
    have taken := upto.taken_iff
    rw [List.range'_succ, slide]
    by_cases past : windowEndSubfp a b thresholds < offset
    · rw [if_pos past]
      refine ⟨upto.held.skip (by omega) fun later after _ is => ?_, upto.is⟩
      have inside := is.found.2.1
      omega
    · rw [if_neg past, show offset + (count + 1) = offset + 1 + count by omega]
      refine ih (by omega) ?_
      have skipped : ¬ LongRuns.Taken (FoundAt a b thresholds minRun maxRun)
          (Displaces env a b thresholds minRun maxRun) offset → Upto env a b thresholds minRun maxRun (offset + 1) best :=
        fun none => ⟨upto.held.skip (by omega) fun later after before => by
          rwa [show later = offset by omega], upto.is⟩
      have length : (runAt env thresholds.minBitAgreement minRun maxRun (windowEndSubfp a b thresholds) a.fingerprint
        b.fingerprint offset).runLen = runLenAt a b thresholds minRun maxRun offset := runAt_runLen
      by_cases found : minRun ≤ runLenAt a b thresholds minRun maxRun offset
      · rw [if_pos (length ▸ found)]
        split
        · rename_i beats
          exact ⟨.take (taken.mpr ⟨⟨by omega, by omega, found⟩, beats⟩), fun kept same => by cases same; rfl⟩
        · rename_i keeps
          exact skipped fun is => keeps (taken.mp is).2
      · rw [if_neg (length ▸ found)]
        exact skipped fun is => found (taken.mp is).1.2.2

theorem bestRun_upto (env : Similarities φ) (a b : FingerprintWithContext) (thresholds : ChromaprintThresholds)
    (minRun maxRun : Nat) : Upto env a b thresholds minRun maxRun (a.fingerprint.length - minRun)
      (bestRun env a b thresholds minRun maxRun) := by
  have start : Upto env a b thresholds minRun maxRun 0 none := ⟨(fun _ before => by omega), nofun⟩
  rw [bestRun, List.range_eq_range']
  by_cases searched : minRun ≤ a.fingerprint.length
  · simpa using slide_upto (by omega) start
  · rw [show a.fingerprint.length - minRun = 0 by omega]
    exact start

/-- The best run is the one that is kept. -/
theorem bestRun_eq_some : bestRun env a b thresholds minRun maxRun = some best ↔
    KeptAt env a b thresholds minRun maxRun best.offset ∧
      best = bestAt env a b thresholds minRun maxRun best.offset := by
  have upto := bestRun_upto env a b thresholds minRun maxRun
  have searched : ∀ {later}, LongRuns.Taken (FoundAt a b thresholds minRun maxRun)
      (Displaces env a b thresholds minRun maxRun) later → later < a.fingerprint.length - minRun := by
    intro later taken
    have within := taken.found.1
    omega
  have kept : ∀ best, bestRun env a b thresholds minRun maxRun = some best →
      KeptAt env a b thresholds minRun maxRun best.offset := by
    intro best held
    rw [held] at upto
    exact ⟨upto.held.2.1, fun later after taken => upto.held.2.2 later after (searched taken) taken⟩
  refine ⟨fun held => ⟨kept best held, upto.is best held⟩, fun ⟨last, is⟩ => ?_⟩
  cases held : bestRun env a b thresholds minRun maxRun with
  | none =>
    rw [held] at upto
    exact absurd last.1 (upto.held _ (searched last.1))
  | some other =>
    have same := (upto.is other held).trans (congrArg _ ((kept other held).unique last))
    rw [same, ← is]

theorem KeptAt.bestRun (kept : KeptAt env a b thresholds minRun maxRun offset) :
    bestRun env a b thresholds minRun maxRun = some (bestAt env a b thresholds minRun maxRun offset) :=
  bestRun_eq_some.mpr ⟨kept, rfl⟩

theorem KeptAt.found (kept : KeptAt env a b thresholds minRun maxRun offset) :
    FoundAt a b thresholds minRun maxRun offset :=
  kept.1.found

theorem bestRun_some (held : bestRun env a b thresholds minRun maxRun = some best) :
    FoundAt a b thresholds minRun maxRun best.offset ∧
      best.runLen = runLenAt a b thresholds minRun maxRun best.offset := by
  obtain ⟨kept, is⟩ := bestRun_eq_some.mp held
  exact ⟨kept.found, (congrArg Best.runLen is).trans bestAt_runLen⟩

/-! ## The match of a pair -/

theorem windowEnd_bounds :
    0 ≤ min (introSearchWindowMs a.runtimeMs false).endMs (introSearchWindowMs b.runtimeMs false).endMs ∧
    min (introSearchWindowMs a.runtimeMs false).endMs (introSearchWindowMs b.runtimeMs false).endMs ≤ 600000 := by
  simp only [introSearchWindowMs, Bool.false_eq_true, if_false]
  omega

theorem asUsize_of_nonneg (nonneg : 0 ≤ n) (fits : n < 18446744073709551616) : (asUsize n : Int) = n := by
  rw [asUsize, Int.emod_eq_of_lt nonneg fits, Int.toNat_of_nonneg nonneg]

/-- The window ends within ten minutes. -/
theorem windowEndSubfp_mul_le (a b : FingerprintWithContext) (thresholds : ChromaprintThresholds) :
    windowEndSubfp a b thresholds * thresholds.subfpPeriodMs ≤ 600000 := by
  obtain ⟨low, high⟩ := windowEnd_bounds (a := a) (b := b)
  have period := fits32_iff.mp thresholds.periodFits
  unfold windowEndSubfp msToSubfp durationToSubfps
  dsimp only
  generalize min (introSearchWindowMs a.runtimeMs false).endMs (introSearchWindowMs b.runtimeMs false).endMs = ms
    at low high ⊢
  by_cases none : thresholds.subfpPeriodMs ≤ 0
  · rw [if_pos none]
    simp
  · rw [if_neg none, Int.natCast_ediv, asUsize_of_nonneg low (by omega), asUsize_of_nonneg (by omega) (by omega)]
    exact (Int.ediv_mul_le ms (by omega)).trans high

theorem windowEndSubfp_of_no_period (none : thresholds.subfpPeriodMs ≤ 0) : windowEndSubfp a b thresholds = 0 := by
  simp only [windowEndSubfp, msToSubfp, durationToSubfps, if_pos none]

/-- Up to the end of the window, the time of a sub-fingerprint fits. -/
theorem subfpToMs_eq (inside : subfp ≤ windowEndSubfp a b thresholds + 1) :
    subfpToMs subfp thresholds.subfpPeriodMs = subfp * thresholds.subfpPeriodMs := by
  have period := fits32_iff.mp thresholds.periodFits
  have window := windowEndSubfp_mul_le a b thresholds
  have fits : fits32 (subfp : Int) = true ∧ fits32 (subfp * thresholds.subfpPeriodMs) = true := by
    by_cases none : thresholds.subfpPeriodMs ≤ 0
    · rw [windowEndSubfp_of_no_period none] at inside
      obtain rfl | rfl : subfp = 0 ∨ subfp = 1 := by omega
      · exact ⟨by decide, by simp [fits32]⟩
      · exact ⟨by decide, by simpa using thresholds.periodFits⟩
    · have grown : (subfp : Int) * thresholds.subfpPeriodMs ≤
          (windowEndSubfp a b thresholds + 1 : Nat) * thresholds.subfpPeriodMs :=
        Int.mul_le_mul_of_nonneg_right (by exact_mod_cast inside) (by omega)
      have positive : 0 ≤ (subfp : Int) * thresholds.subfpPeriodMs := Int.mul_nonneg (by omega) (by omega)
      have unit : (subfp : Int) ≤ subfp * thresholds.subfpPeriodMs := le_mul_of_one_le_right (by omega) (by omega)
      have small : (windowEndSubfp a b thresholds + 1 : Nat) * thresholds.subfpPeriodMs ≤ 2147483647 := by
        rw [Int.natCast_add, Int.add_mul]
        by_cases first : windowEndSubfp a b thresholds = 0
        · simp only [first]
          omega
        · have long : thresholds.subfpPeriodMs ≤ windowEndSubfp a b thresholds * thresholds.subfpPeriodMs :=
            le_mul_of_one_le_left (by omega) (by omega)
          omega
      exact ⟨fits32_iff.mpr (by omega), fits32_iff.mpr (by omega)⟩
  rw [subfpToMs, wrapped32_of_fits fits.1, wrapped32_of_fits fits.2]

theorem runLenAt_le (inside : offset ≤ windowEndSubfp a b thresholds) :
    offset + runLenAt a b thresholds minRun maxRun offset ≤ windowEndSubfp a b thresholds + 1 := by
  obtain ⟨k, held⟩ := LongRuns.exists_run minRun maxRun (marks a b thresholds offset)
  by_cases empty : runLenAt a b thresholds minRun maxRun offset = 0
  · omega
  · have bound := held.bound (Nat.pos_of_ne_zero empty)
    have length : (marks a b thresholds offset).length ≤ windowEndSubfp a b thresholds + 1 - offset :=
      List.length_take_le _ _
    unfold runLenAt
    omega

/-- The best run becomes a match if it lasts fifteen seconds. -/
theorem bestPairMatch_eq (held : bestRun env a b thresholds minRun maxRun = some best) :
    bestPairMatch env a b thresholds minRun maxRun =
      if 15000 ≤ best.runLen * thresholds.subfpPeriodMs then
        some ⟨0, .intro, best.offset * thresholds.subfpPeriodMs,
          (best.offset + best.runLen : Nat) * thresholds.subfpPeriodMs, 2, best.similarity⟩
      else none := by
  obtain ⟨⟨_, inside, _⟩, length⟩ := bestRun_some held
  have upto : best.offset + best.runLen ≤ windowEndSubfp a b thresholds + 1 := length ▸ runLenAt_le inside
  have duration : ((best.offset + best.runLen : Nat) : Int) * thresholds.subfpPeriodMs -
      best.offset * thresholds.subfpPeriodMs = best.runLen * thresholds.subfpPeriodMs := by
    rw [Int.natCast_add, Int.add_mul]
    omega
  have start := subfpToMs_eq (show best.offset ≤ windowEndSubfp a b thresholds + 1 by omega)
  rw [bestPairMatch, held]
  simp only [Option.bind_eq_bind, Option.bind_some, Nat.min_eq_left inside, Nat.min_eq_left upto, start,
    subfpToMs_eq upto, duration, DurationThresholds.forType]
  by_cases empty : best.runLen = 0
  · rw [if_pos (by omega), empty, if_neg (by simp)]
  · rw [if_neg (by omega)]
    by_cases long : 15000 ≤ (best.runLen : Int) * thresholds.subfpPeriodMs
    · rw [if_pos long, if_neg (by omega)]
    · rw [if_neg long, if_pos (by omega)]

theorem bestPairMatch_none (nothing : bestRun env a b thresholds minRun maxRun = none) :
    bestPairMatch env a b thresholds minRun maxRun = none := by
  rw [bestPairMatch, nothing]
  rfl

end

/-- The run comes before every other run of its alignment that is long enough. -/
def FirstRun (a b : FingerprintWithContext) (thresholds : ChromaprintThresholds) (minRun offset k l : Nat) : Prop :=
  AgreeingRun a b thresholds offset k l ∧
    ∀ k' l', minRun ≤ l' → AgreeingRun a b thresholds offset k' l' → k ≤ k' + l'

/-- For every run there is one at least as long that the search sees: the first of the
alignment that is kept, and that lasts fifteen seconds. -/
def Seen {φ : Type} (env : Similarities φ) (a b : FingerprintWithContext) (thresholds : ChromaprintThresholds)
    (minRun maxRun : Nat) : Prop :=
  ∀ n, RunLength a b thresholds minRun maxRun n → ∃ offset k l, KeptAt env a b thresholds minRun maxRun offset ∧
    FirstRun a b thresholds minRun offset k l ∧ n ≤ l ∧ minRun ≤ l ∧ l ≤ maxRun ∧
    15000 ≤ l * thresholds.subfpPeriodMs

section
variable {φ : Type} {env : Similarities φ} {a b : FingerprintWithContext} {thresholds : ChromaprintThresholds}
  {minRun maxRun offset k l : Nat}

theorem firstRun_marks : FirstRun a b thresholds minRun offset k l ↔
    LongRuns.Run (marks a b thresholds offset) k l ∧ LongRuns.First minRun (marks a b thresholds offset) k := by
  simp only [FirstRun, LongRuns.First, run_marks]

theorem firstRun_iff (long : minRun ≤ l) (positive : 0 < l) (bounded : l ≤ maxRun) :
    (∃ k, FirstRun a b thresholds minRun offset k l) ↔
      l ≤ runLenAt a b thresholds minRun maxRun offset ∧ minRun ≤ runLenAt a b thresholds minRun maxRun offset := by
  simp only [firstRun_marks]
  exact LongRuns.first_run_iff long positive bounded

/-- The scan of an offset finds a run of the alignment. -/
theorem FoundAt.runLength (found : FoundAt a b thresholds minRun maxRun offset) :
    RunLength a b thresholds minRun maxRun (min (runLenAt a b thresholds minRun maxRun offset) maxRun) := by
  obtain ⟨searched, inside, long⟩ := found
  obtain ⟨k, held⟩ := LongRuns.exists_run minRun maxRun (marks a b thresholds offset)
  exact ⟨offset, k, _, searched.le, inside, run_marks.mp held, long, rfl⟩

theorem positive_of_lasting (lasts : 15000 ≤ (l : Int) * thresholds.subfpPeriodMs) : 0 < l := by
  refine Nat.pos_of_ne_zero fun empty => ?_
  rw [empty] at lasts
  simp at lasts

theorem period_pos (lasts : 15000 ≤ (l : Int) * thresholds.subfpPeriodMs) : 0 < thresholds.subfpPeriodMs := by
  by_contra none
  have negative : (l : Int) * thresholds.subfpPeriodMs ≤ 0 := Int.mul_nonpos_of_nonneg_of_nonpos (by omega) (by omega)
  omega

end

namespace Sample

def episode (id : Nat) (fingerprint : List (BitVec 32)) : FingerprintWithContext := ⟨id, 1440000, fingerprint⟩

/-- No similarity is greater than another. -/
def similarities : Similarities Unit := ⟨(), fun _ _ => (), fun _ _ => (), fun _ _ => false⟩

end Sample

end Duskcue.Segments
