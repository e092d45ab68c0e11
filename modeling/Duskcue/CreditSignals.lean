import Duskcue.Clusters
import Duskcue.SegmentWindows

/-! Credits found by their black frames and their silence. Black frames close to each other
make a run; a run and a silence that overlap are one segment, and what is found by one
method alone is kept with less confidence. -/
namespace Duskcue.Segments

inductive SegmentSource
  | chapter | chromaprint | blackframe | silence | combined

structure BlackframeEvent where
  timeMs : Int

structure SilenceEvent where
  startMs : Int
  endMs : Int
  durationMs : Int

structure SafetyConfig where
  introEndPaddingMs : Int := 2000
  creditsEndPaddingMs : Int := 0

structure Metadata where
  methods : List String
  runtimeMs : Int
  window : SearchWindow

/-- The confidence is in tenths. -/
structure DetectedSegment where
  segmentType : SegmentType
  startMs : Int
  endMs : Int
  skipToMs : Int
  source : SegmentSource
  confidence : Nat
  metadata : Metadata

/-! ## Runs of black frames -/

def gapToleranceMs : Int := 2000

/-- Adds the run that has ended, unless it is too short. -/
def closeRun (minDurationMs runStart runEnd : Int) (runs : List (Int × Int)) : List (Int × Int) :=
  if minDurationMs ≤ wrapped32 (runEnd - runStart) then runs ++ [(runStart, runEnd)] else runs

def clusterLoop (minDurationMs runStart runEnd : Int) (runs : List (Int × Int)) :
    List BlackframeEvent → List (Int × Int)
  | [] => closeRun minDurationMs runStart runEnd runs
  | e :: rest =>
    if wrapped32 (e.timeMs - runEnd) ≤ gapToleranceMs then clusterLoop minDurationMs runStart e.timeMs runs rest
    else clusterLoop minDurationMs e.timeMs e.timeMs (closeRun minDurationMs runStart runEnd runs) rest

/-- `sort_by_key`, which is stable. -/
def sortByTime (events : List BlackframeEvent) : List BlackframeEvent :=
  events.insertionSort fun a b => a.timeMs ≤ b.timeMs

def clusterBlackframes (events : List BlackframeEvent) (minDurationMs : Int) : List (Int × Int) :=
  match sortByTime events with
  | [] => []
  | first :: rest => clusterLoop minDurationMs first.timeMs first.timeMs [] rest

def clusterSilence (events : List SilenceEvent) (minDurationMs : Int) : List (Int × Int) :=
  (events.filter fun e => minDurationMs ≤ e.durationMs).map fun e => (e.startMs, e.endMs)

def intervalsOverlap (a b : Int × Int) : Bool := a.1 ≤ b.2 && b.1 ≤ a.2

/-! ## Segments -/

def applySafetyPadding (seg : DetectedSegment) (safety : SafetyConfig) : DetectedSegment :=
  match seg.segmentType with
  | .intro => { seg with skipToMs := max (wrapped32 (seg.endMs - safety.introEndPaddingMs)) seg.startMs }
  | .credits => { seg with skipToMs := min (wrapped32 (seg.endMs + safety.creditsEndPaddingMs)) seg.endMs }
  | .recap | .preview | .outro => { seg with skipToMs := seg.endMs }

section
variable (searchWindow : SearchWindow) (runtimeMs : Int) (safety : SafetyConfig)

def blackframeSegment (silWindow : List (Int × Int)) (bf : Int × Int) : DetectedSegment :=
  let agrees := silWindow.any fun s => intervalsOverlap bf s
  let (confidence, source, methods) :=
    if agrees then (8, .combined, ["blackframe", "silence"]) else (5, .blackframe, ["blackframe"])
  applySafetyPadding
    { segmentType := .credits, startMs := bf.1, endMs := bf.2, skipToMs := bf.2, source, confidence
      metadata := { methods, runtimeMs, window := searchWindow } } safety

def silenceSegment (s : Int × Int) : DetectedSegment :=
  applySafetyPadding
    { segmentType := .credits, startMs := s.1, endMs := s.2, skipToMs := s.2, source := .silence, confidence := 5
      metadata := { methods := ["silence"], runtimeMs, window := searchWindow } } safety

def combineCreditsSignals (blackframes : List BlackframeEvent) (silence : List SilenceEvent) : List DetectedSegment :=
  let creditsThresholds := DurationThresholds.forType .credits
  let bfWindow := clusterBlackframes blackframes creditsThresholds.minMs
  let silWindow := clusterSilence silence creditsThresholds.minMs
  bfWindow.map (blackframeSegment searchWindow runtimeMs safety silWindow) ++
    (silWindow.filter fun s => !bfWindow.any fun b => intervalsOverlap b s).map
      (silenceSegment searchWindow runtimeMs safety)

end

/-! ## The runs that are found -/

/-- The times of the frames, in order. -/
def times (events : List BlackframeEvent) : List Int := (sortByTime events).map BlackframeEvent.timeMs

/-- Two frames of which the second is no later than the tolerance. -/
def near (t u : Int) : Prop := u - t ≤ gapToleranceMs

instance : DecidableRel near := fun t u => inferInstanceAs (Decidable (u - t ≤ gapToleranceMs))

theorem near_nearness : Clusters.Nearness near where
  refl a := by simp [near, gapToleranceMs]
  within := by
    intro a b c d left _ right close
    unfold near at close ⊢
    omega

/-- A longest run of frames with no gap beyond the tolerance. -/
def IsRun (events : List BlackframeEvent) (run : Int × Int) : Prop :=
  Clusters.IsRun near (events.map BlackframeEvent.timeMs).toFinset run.1 run.2

/-- Frames of a search window, which starts at 0 or later. -/
def Framed (events : List BlackframeEvent) : Prop := ∀ e ∈ events, 0 ≤ e.timeMs ∧ e.timeMs ≤ 2147483647

section
variable {events events' : List BlackframeEvent} {minDurationMs : Int}

theorem times_perm : (times events).Perm (events.map BlackframeEvent.timeMs) :=
  (List.perm_insertionSort _ _).map _

theorem times_sorted : (times events).Pairwise (· ≤ ·) := by
  have total : Std.Total fun a b : BlackframeEvent => a.timeMs ≤ b.timeMs := ⟨fun a b => le_total _ _⟩
  have trans : IsTrans BlackframeEvent fun a b => a.timeMs ≤ b.timeMs := ⟨fun a b c => le_trans⟩
  exact List.pairwise_map.mpr (List.pairwise_insertionSort _ _)

/-- The order in which frames are given does not matter. -/
theorem times_congr (same : events'.Perm events) : times events' = times events :=
  (times_perm.trans ((same.map _).trans times_perm.symm)).eq_of_pairwise (fun _ _ _ _ => le_antisymm)
    times_sorted times_sorted

theorem mem_runs_times : run ∈ Clusters.runs near (times events) ↔ IsRun events run := by
  rw [Clusters.mem_runs near_nearness times_sorted, IsRun, List.toFinset_eq_of_perm _ _ times_perm]

theorem closeRun_eq (nonneg : 0 ≤ s) (ordered : s ≤ e) (fits : e ≤ 2147483647) :
    closeRun minDurationMs s e acc = acc ++ [(s, e)].filter fun run => minDurationMs ≤ run.2 - run.1 := by
  rw [closeRun, wrapped32_of_fits (fits32_iff.mpr (by omega))]
  split <;> simp_all

/-- The loop finds the runs of the frames that are left. -/
theorem clusterLoop_eq {rest : List BlackframeEvent} (nonneg : 0 ≤ s) (ordered : s ≤ e)
    (sorted : (e :: rest.map BlackframeEvent.timeMs).Pairwise (· ≤ ·))
    (fits : ∀ t ∈ e :: rest.map BlackframeEvent.timeMs, t ≤ 2147483647) :
    clusterLoop minDurationMs s e acc rest = acc ++
      (Clusters.walk near s e (rest.map BlackframeEvent.timeMs)).filter fun run => minDurationMs ≤ run.2 - run.1 := by
  induction rest generalizing s e acc with
  | nil => exact closeRun_eq nonneg ordered (fits e List.mem_cons_self)
  | cons first _ ih =>
    rw [List.map_cons] at sorted fits ⊢
    obtain ⟨later, sorted⟩ := List.pairwise_cons.mp sorted
    obtain ⟨last, fits⟩ := List.forall_mem_cons.mp fits
    have beyond : e ≤ first.timeMs := later _ List.mem_cons_self
    have bound := fits _ List.mem_cons_self
    rw [clusterLoop, wrapped32_of_fits (fits32_iff.mpr (by omega)), Clusters.walk]
    by_cases joined : first.timeMs - e ≤ gapToleranceMs
    · rw [if_pos joined, if_pos (show near e first.timeMs from joined)]
      exact ih nonneg (ordered.trans beyond) sorted fits
    · rw [if_neg joined, if_neg (show ¬ near e first.timeMs from joined), closeRun_eq nonneg ordered last,
        ih (by omega) le_rfl sorted fits, List.append_assoc, ← List.filter_append]
      rfl

theorem clusterBlackframes_eq (framed : Framed events) : clusterBlackframes events minDurationMs =
    (Clusters.runs near (times events)).filter fun run => minDurationMs ≤ run.2 - run.1 := by
  have sorted : (times events).Pairwise (· ≤ ·) := times_sorted
  have bounds : ∀ t ∈ times events, 0 ≤ t ∧ t ≤ 2147483647 := by
    intro t member
    obtain ⟨e, inside, rfl⟩ := List.mem_map.mp (times_perm.mem_iff.mp member)
    exact framed e inside
  rw [clusterBlackframes]
  unfold times at sorted bounds ⊢
  cases given : sortByTime events with
  | nil => rfl
  | cons first rest =>
    rw [given, List.map_cons] at sorted bounds
    exact clusterLoop_eq (bounds _ List.mem_cons_self).1 le_rfl sorted fun t member => (bounds t member).2

end

/-- What the clustering is for: each longest run of frames that lasts long enough, in
order and apart from the next, whatever order the frames come in. -/
def FindsRuns (events : List BlackframeEvent) (minDurationMs : Int) : Prop :=
  ∃ runs,
    (∀ events' : List BlackframeEvent, events'.Perm events → clusterBlackframes events' minDurationMs = runs) ∧
    runs.Pairwise (fun run later => run.2 < later.1) ∧
    ∀ run, run ∈ runs ↔ IsRun events run ∧ minDurationMs ≤ run.2 - run.1

theorem clusters_found (events : List BlackframeEvent) (minDurationMs : Int) (framed : Framed events) :
    FindsRuns events minDurationMs := by
  refine ⟨(Clusters.runs near (times events)).filter fun run => minDurationMs ≤ run.2 - run.1, ?_, ?_, ?_⟩
  · intro events' same
    rw [clusterBlackframes_eq fun e member => framed e (same.mem_iff.mp member), times_congr same]
  · exact (Clusters.runs_separate near_nearness times_sorted).sublist List.filter_sublist
  · intro run
    rw [List.mem_filter, mem_runs_times, decide_eq_true_eq]

namespace Sample

/-- Frames a second apart, from the given time. -/
def frames (start : Int) (count : Nat) : List BlackframeEvent :=
  (List.range count).map fun (i : Nat) => ⟨start + i * 1000⟩

theorem frames_framed (start : Int) (count : Nat) (first : 0 ≤ start) (last : start + count * 1000 ≤ 2147483647) :
    Framed (frames start count) := by
  intro e member
  obtain ⟨i, inside, rfl⟩ := List.mem_map.mp member
  have less := List.mem_range.mp inside
  simp only
  omega

end Sample

/-- Two cards, of which the later is given first. -/
theorem two_cards_found : FindsRuns (Sample.frames 100000 20 ++ Sample.frames 60000 20) 15000 ∧
    clusterBlackframes (Sample.frames 100000 20 ++ Sample.frames 60000 20) 15000 =
      [(60000, 79000), (100000, 119000)] :=
  ⟨clusters_found _ _ fun e member => (List.mem_append.mp member).elim
    (Sample.frames_framed 100000 20 (by decide) (by decide) e)
    (Sample.frames_framed 60000 20 (by decide) (by decide) e), by decide +kernel⟩

/-! ## What a segment covers -/

/-- A run of black frames that counts as credits. -/
def BlackRun (events : List BlackframeEvent) (run : Int × Int) : Prop :=
  IsRun events run ∧ 15000 ≤ run.2 - run.1

/-- A silence that counts as credits. -/
def Quiet (silence : List SilenceEvent) (interval : Int × Int) : Prop :=
  ∃ e ∈ silence, 15000 ≤ e.durationMs ∧ interval = (e.startMs, e.endMs)

/-- The milliseconds of an interval. -/
def extent (interval : Int × Int) : Set Int := {t | interval.1 ≤ t ∧ t ≤ interval.2}

/-- A run and the silences that overlap it, as far as the window goes. -/
def documented (silence : List SilenceEvent) (window : SearchWindow) (run : Int × Int) : Set Int :=
  (extent run ∪ {t | ∃ s, Quiet silence s ∧ intervalsOverlap run s = true ∧ t ∈ extent s}) ∩
    extent (window.startMs, window.endMs)

/-- The segments lie in the window, and one found by both methods covers what both found. -/
structure Documented (events : List BlackframeEvent) (silence : List SilenceEvent) (window : SearchWindow)
    (segments : List DetectedSegment) : Prop where
  inside : ∀ seg ∈ segments, window.startMs ≤ seg.startMs ∧ seg.startMs ≤ seg.endMs ∧ seg.endMs ≤ window.endMs
  union : ∀ seg ∈ segments, seg.source = .combined → ∃ run, BlackRun events run ∧
    (∃ s, Quiet silence s ∧ intervalsOverlap run s = true) ∧
    extent (seg.startMs, seg.endMs) = documented silence window run

/-- No silence is joined with a run. -/
def Alone (events : List BlackframeEvent) (s : Int × Int) : Prop :=
  ∀ run, BlackRun events run → intervalsOverlap run s = false

/-- Runs, and silences that stand alone, lie in the window, and in the window no silence
reaches beyond a run it overlaps. -/
structure Contained (events : List BlackframeEvent) (silence : List SilenceEvent) (window : SearchWindow) : Prop where
  runs : ∀ run, BlackRun events run → window.startMs ≤ run.1 ∧ run.2 ≤ window.endMs
  silences : ∀ s, Quiet silence s → Alone events s → window.startMs ≤ s.1 ∧ s.1 ≤ s.2 ∧ s.2 ≤ window.endMs
  covered : ∀ run s, BlackRun events run → Quiet silence s → intervalsOverlap run s = true →
    extent s ∩ extent (window.startMs, window.endMs) ⊆ extent run

section
variable {events : List BlackframeEvent} {silence : List SilenceEvent} {window : SearchWindow} {runtimeMs : Int}
  {safety : SafetyConfig} {seg seg' : DetectedSegment} {segments : List DetectedSegment} {run s : Int × Int}

theorem mem_clusterSilence : s ∈ clusterSilence silence 15000 ↔ Quiet silence s := by
  simp only [clusterSilence, List.mem_map, List.mem_filter, decide_eq_true_eq, Quiet, and_assoc]
  exact exists_congr fun e => and_congr_right fun _ => and_congr_right fun _ => eq_comm

theorem any_overlap_silence : (clusterSilence silence 15000).any (fun s => intervalsOverlap run s) = true ↔
    ∃ s, Quiet silence s ∧ intervalsOverlap run s = true := by
  simp only [List.any_eq_true, mem_clusterSilence]

theorem blackframeSegment_eq : (blackframeSegment window runtimeMs safety silWindow run).startMs = run.1 ∧
    (blackframeSegment window runtimeMs safety silWindow run).endMs = run.2 ∧
    (blackframeSegment window runtimeMs safety silWindow run).source =
      if silWindow.any fun s => intervalsOverlap run s then .combined else .blackframe := by
  unfold blackframeSegment
  cases silWindow.any fun s => intervalsOverlap run s
  all_goals exact ⟨rfl, rfl, rfl⟩

/-- Each run makes a segment, and so does each silence that stands alone. -/
structure Made (events : List BlackframeEvent) (silence : List SilenceEvent) (segments : List DetectedSegment) :
    Prop where
  source : ∀ seg ∈ segments,
    (∃ run, BlackRun events run ∧ seg.startMs = run.1 ∧ seg.endMs = run.2 ∧
      (seg.source = .combined ↔ ∃ s, Quiet silence s ∧ intervalsOverlap run s = true)) ∨
    ∃ s, Quiet silence s ∧ Alone events s ∧ seg.startMs = s.1 ∧ seg.endMs = s.2 ∧ seg.source = .silence
  runs : ∀ run, BlackRun events run → ∃ seg ∈ segments, seg.startMs = run.1 ∧ seg.endMs = run.2 ∧
    (seg.source = .combined ↔ ∃ s, Quiet silence s ∧ intervalsOverlap run s = true)
  silences : ∀ s, Quiet silence s → Alone events s → ∃ seg ∈ segments, seg.startMs = s.1 ∧ seg.endMs = s.2

theorem mem_longRuns : run ∈ ((Clusters.runs near (times events)).filter fun run => 15000 ≤ run.2 - run.1) ↔
    BlackRun events run := by
  rw [List.mem_filter, mem_runs_times, decide_eq_true_eq, BlackRun]

theorem mem_alone {bfWindow : List (Int × Int)} (runs : ∀ run, run ∈ bfWindow ↔ BlackRun events run) :
    s ∈ ((clusterSilence silence 15000).filter fun s => !bfWindow.any fun b => intervalsOverlap b s) ↔
      Quiet silence s ∧ Alone events s := by
  simp only [List.mem_filter, mem_clusterSilence, Bool.not_eq_true', List.any_eq_false, runs, Alone,
    Bool.not_eq_true]

theorem combineCreditsSignals_made (framed : Framed events) :
    Made events silence (combineCreditsSignals window runtimeMs safety events silence) := by
  have combined : ∀ run, ((blackframeSegment window runtimeMs safety (clusterSilence silence 15000) run).source =
      .combined ↔ ∃ s, Quiet silence s ∧ intervalsOverlap run s = true) := by
    intro run
    rw [blackframeSegment_eq.2.2, ← any_overlap_silence]
    split <;> simp_all
  have runs : ∀ run, run ∈ clusterBlackframes events 15000 ↔ BlackRun events run := fun run => by
    rw [clusterBlackframes_eq framed, mem_longRuns]
  refine ⟨fun seg member => ?_, fun run long => ?_, fun s quiet alone => ?_⟩
  · rcases List.mem_append.mp member with member | member
    · obtain ⟨run, long, rfl⟩ := List.mem_map.mp member
      exact .inl ⟨run, (runs run).mp long, blackframeSegment_eq.1, blackframeSegment_eq.2.1, combined run⟩
    · obtain ⟨s, held, rfl⟩ := List.mem_map.mp member
      obtain ⟨quiet, alone⟩ := (mem_alone runs).mp held
      exact .inr ⟨s, quiet, alone, rfl, rfl, rfl⟩
  · exact ⟨_, List.mem_append_left _ (List.mem_map_of_mem ((runs run).mpr long)), blackframeSegment_eq.1,
      blackframeSegment_eq.2.1, combined run⟩
  · exact ⟨_, List.mem_append_right _ (List.mem_map_of_mem ((mem_alone runs).mpr ⟨quiet, alone⟩)), rfl, rfl⟩

/-- A run in the window is part of what should be covered for it. -/
theorem extent_subset_documented (contained : window.startMs ≤ run.1 ∧ run.2 ≤ window.endMs) :
    extent run ⊆ documented silence window run := fun _ member =>
  ⟨.inl member, contained.1.trans member.1, member.2.trans contained.2⟩

theorem Documented.contained (documents : Documented events silence window segments)
    (made : Made events silence segments) : Contained events silence window := by
  have inWindow : ∀ run, BlackRun events run → window.startMs ≤ run.1 ∧ run.2 ≤ window.endMs := by
    intro run long
    obtain ⟨seg, member, start, stop, _⟩ := made.runs run long
    obtain ⟨left, _, right⟩ := documents.inside seg member
    exact ⟨start ▸ left, stop ▸ right⟩
  refine ⟨inWindow, fun s quiet alone => ?_, fun run s long quiet overlap t within => ?_⟩
  · obtain ⟨seg, member, start, stop⟩ := made.silences s quiet alone
    exact start ▸ stop ▸ documents.inside seg member
  · obtain ⟨seg, member, start, stop, combined⟩ := made.runs run long
    obtain ⟨run', long', _, covers⟩ := documents.union seg member (combined.mpr ⟨s, quiet, overlap⟩)
    rw [start, stop] at covers
    -- The segment covers the run it documents, so it is the segment of that run.
    have meets := covers.symm.subset (extent_subset_documented (inWindow run' long') ⟨le_rfl, long'.1.ordered⟩)
    obtain ⟨first, last⟩ := long'.1.unique long.1 (meets.1.trans long'.1.ordered) meets.2
    rw [covers, show run' = run from Prod.ext first last]
    exact ⟨.inr ⟨s, quiet, overlap, within.1⟩, within.2⟩

theorem Contained.documented (contained : Contained events silence window) (made : Made events silence segments) :
    Documented events silence window segments := by
  constructor
  · intro seg member
    rcases made.source seg member with ⟨run, long, start, stop, _⟩ | ⟨s, quiet, alone, start, stop, _⟩
    · rw [start, stop]
      exact ⟨(contained.runs run long).1, long.1.ordered, (contained.runs run long).2⟩
    · rw [start, stop]
      exact contained.silences s quiet alone
  · intro seg member source
    rcases made.source seg member with ⟨run, long, start, stop, combined⟩ | ⟨_, _, _, _, _, other⟩
    · refine ⟨run, long, combined.mp source, ?_⟩
      rw [start, stop]
      refine Set.Subset.antisymm (extent_subset_documented (contained.runs run long)) ?_
      rintro t ⟨ours | ⟨s, quiet, overlap, theirs⟩, within⟩
      · exact ours
      · exact contained.covered run s long quiet overlap ⟨theirs, within⟩
    · cases source.symm.trans other

end

/-- What is combined is documented just where runs and lone silences lie in the window and
no silence reaches beyond the run it is joined with. -/
theorem combined_documented_iff (blackframes : List BlackframeEvent) (silence : List SilenceEvent)
    (searchWindow : SearchWindow) (runtimeMs : Int) (safety : SafetyConfig) (framed : Framed blackframes) :
    Documented blackframes silence searchWindow
      (combineCreditsSignals searchWindow runtimeMs safety blackframes silence) ↔
    Contained blackframes silence searchWindow :=
  ⟨fun documents => documents.contained (combineCreditsSignals_made framed),
    fun contained => contained.documented (combineCreditsSignals_made framed)⟩

namespace Sample

/-- Twenty frames from the first minute on. -/
def card : List BlackframeEvent := frames 60000 20

theorem card_framed : Framed card := frames_framed 60000 20 (by decide) (by decide)

theorem card_run : BlackRun card run ↔ run = (60000, 79000) := by
  have runs : ((Clusters.runs near (times card)).filter fun run => 15000 ≤ run.2 - run.1) = [(60000, 79000)] := by
    decide +kernel
  rw [← mem_longRuns, runs, List.mem_singleton]

end Sample

/-- A silence within the card. -/
theorem silence_in_run_combined : Documented Sample.card [⟨61000, 78000, 17000⟩] ⟨0, 120000⟩
    (combineCreditsSignals ⟨0, 120000⟩ 120000 {} Sample.card [⟨61000, 78000, 17000⟩]) := by
  refine (combined_documented_iff Sample.card [⟨61000, 78000, 17000⟩] ⟨0, 120000⟩ 120000 {} Sample.card_framed).mpr ?_
  refine ⟨fun run long => ?_, fun s quiet _ => ?_, fun run s long quiet _ t within => ?_⟩
  · obtain rfl := Sample.card_run.mp long
    decide
  · obtain ⟨_, member, _, rfl⟩ := quiet
    obtain rfl := List.mem_singleton.mp member
    decide
  · obtain rfl := Sample.card_run.mp long
    obtain ⟨_, member, _, rfl⟩ := quiet
    obtain rfl := List.mem_singleton.mp member
    obtain ⟨⟨first, last⟩, _⟩ := within
    simp only at first last
    exact ⟨by simp only; omega, by simp only; omega⟩

/-- A silence of twenty seconds from the start of the card. -/
theorem silence_past_run_dropped : ¬ Documented Sample.card [⟨60000, 80000, 20000⟩] ⟨0, 120000⟩
    (combineCreditsSignals ⟨0, 120000⟩ 120000 {} Sample.card [⟨60000, 80000, 20000⟩]) := by
  intro documents
  have contained := documents.contained (combineCreditsSignals_made Sample.card_framed)
  have within := contained.covered (60000, 79000) (60000, 80000) (Sample.card_run.mpr rfl)
    ⟨_, List.mem_singleton_self _, by decide, rfl⟩ rfl
      ⟨⟨(by decide : (60000 : Int) ≤ 80000), le_rfl⟩, by decide, by decide⟩
  exact absurd within.2 (by decide)

end Duskcue.Segments
