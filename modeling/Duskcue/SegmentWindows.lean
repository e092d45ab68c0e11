import Duskcue.Bounded32

/-! Kinds of segments, their durations, and the part of a recording each is searched in.
Times are milliseconds in signed 32-bit integers; a window whose products overflow is none. -/
namespace Duskcue.Segments

inductive SegmentType
  | intro | credits | recap | preview | outro
  deriving DecidableEq

structure SearchWindow where
  startMs : Int
  endMs : Int
  deriving DecidableEq

structure DurationThresholds where
  minMs : Int
  maxTvMs : Int
  maxMovieMs : Int

def DurationThresholds.forType : SegmentType → DurationThresholds
  | .intro => ⟨15000, 120000, 120000⟩
  | .credits => ⟨15000, 300000, 900000⟩
  | .recap => ⟨15000, 120000, 120000⟩
  | .preview => ⟨15000, 120000, 120000⟩
  | .outro => ⟨15000, 120000, 300000⟩

/-! ## Search windows -/

/-- The division rounds towards zero and never overflows. -/
def introSearchWindowMs (runtimeMs : Int) (isMovie : Bool) : SearchWindow :=
  let cap := 10 * 60000
  let endMs := if isMovie then cap else min (runtimeMs.tdiv 4) cap
  ⟨0, max endMs 0⟩

def creditsSearchWindowMs (runtimeMs : Int) (isMovie : Bool) : Option SearchWindow := do
  let startMs ←
    if isMovie then checked32 (runtimeMs - runtimeMs.tdiv 5)
    else do
      let product ← checked32 (runtimeMs * 3)
      checked32 (runtimeMs - product.tdiv 10)
  some ⟨max startMs 0, runtimeMs⟩

def recapSearchWindowMs (runtimeMs : Int) : Option SearchWindow := do
  let product ← checked32 (runtimeMs * 15)
  some ⟨0, product.tdiv 100⟩

/-- The window lies inside a recording. -/
structure SearchWindow.Within (window : SearchWindow) (runtimeMs : Int) : Prop where
  start : 0 ≤ window.startMs
  ordered : window.startMs ≤ window.endMs
  stop : window.endMs ≤ runtimeMs

/-- Every window of a recording is computed and lies inside it. -/
structure Windowed (runtimeMs : Int) : Prop where
  intro : ∀ isMovie, (introSearchWindowMs runtimeMs isMovie).Within runtimeMs
  credits : ∀ isMovie, ∃ window, creditsSearchWindowMs runtimeMs isMovie = some window ∧ window.Within runtimeMs
  recap : ∃ window, recapSearchWindowMs runtimeMs = some window ∧ window.Within runtimeMs

section
variable {runtimeMs : Int} (nonneg : 0 ≤ runtimeMs)
include nonneg

theorem introSearchWindowMs_within : (introSearchWindowMs runtimeMs false).Within runtimeMs := by
  have quarter : runtimeMs.tdiv 4 = runtimeMs / 4 := Int.tdiv_eq_ediv_of_nonneg nonneg
  unfold introSearchWindowMs
  rw [quarter]
  constructor
  · exact le_rfl
  · exact le_max_right _ _
  · simp only [Bool.false_eq_true, if_false]
    omega

theorem creditsSearchWindowMs_movie (fits : runtimeMs ≤ 2147483647) :
    ∃ window, creditsSearchWindowMs runtimeMs true = some window ∧ window.Within runtimeMs := by
  have fifth : runtimeMs.tdiv 5 = runtimeMs / 5 := Int.tdiv_eq_ediv_of_nonneg nonneg
  have start : checked32 (runtimeMs - runtimeMs.tdiv 5) = some (runtimeMs - runtimeMs / 5) := by
    rw [fifth]
    exact checked32_of_fits (fits32_iff.mpr (by omega))
  refine ⟨⟨max (runtimeMs - runtimeMs / 5) 0, runtimeMs⟩, ?_, le_max_right _ _, ?_, le_rfl⟩
  · rw [creditsSearchWindowMs, if_pos rfl, start]
    rfl
  · simp only
    omega

theorem creditsSearchWindowMs_tv (fits : fits32 (runtimeMs * 3) = true) :
    ∃ window, creditsSearchWindowMs runtimeMs false = some window ∧ window.Within runtimeMs := by
  have bounds := fits32_iff.mp fits
  have tenth : (runtimeMs * 3).tdiv 10 = runtimeMs * 3 / 10 := Int.tdiv_eq_ediv_of_nonneg (by omega)
  have start : checked32 (runtimeMs - runtimeMs * 3 / 10) = some (runtimeMs - runtimeMs * 3 / 10) :=
    checked32_of_fits (fits32_iff.mpr (by omega))
  refine ⟨⟨max (runtimeMs - runtimeMs * 3 / 10) 0, runtimeMs⟩, ?_, le_max_right _ _, ?_, le_rfl⟩
  · rw [creditsSearchWindowMs, if_neg (by decide), checked32_of_fits fits, Option.bind_eq_bind, Option.bind_some,
      tenth, start]
    rfl
  · simp only
    omega

theorem recapSearchWindowMs_within (fits : fits32 (runtimeMs * 15) = true) :
    ∃ window, recapSearchWindowMs runtimeMs = some window ∧ window.Within runtimeMs := by
  have hundredth : (runtimeMs * 15).tdiv 100 = runtimeMs * 15 / 100 := Int.tdiv_eq_ediv_of_nonneg (by omega)
  refine ⟨⟨0, runtimeMs * 15 / 100⟩, ?_, le_rfl, ?_, ?_⟩
  · rw [recapSearchWindowMs, checked32_of_fits fits, Option.bind_eq_bind, Option.bind_some, hundredth]
  · simp only
    omega
  · simp only
    omega

end

/-- The windows of a recording, each where its products fit. The intro of a movie is
searched in the first ten minutes, however long the movie is. -/
theorem search_windows_within (runtimeMs : Int) (nonneg : 0 ≤ runtimeMs) (fits : runtimeMs ≤ 2147483647) :
    (introSearchWindowMs runtimeMs false).Within runtimeMs ∧
      introSearchWindowMs runtimeMs true = ⟨0, 600000⟩ ∧
      (∃ window, creditsSearchWindowMs runtimeMs true = some window ∧ window.Within runtimeMs) ∧
      (fits32 (runtimeMs * 3) = true →
        ∃ window, creditsSearchWindowMs runtimeMs false = some window ∧ window.Within runtimeMs) ∧
      (fits32 (runtimeMs * 15) = true →
        ∃ window, recapSearchWindowMs runtimeMs = some window ∧ window.Within runtimeMs) :=
  ⟨introSearchWindowMs_within nonneg, rfl, creditsSearchWindowMs_movie nonneg fits,
    creditsSearchWindowMs_tv nonneg, recapSearchWindowMs_within nonneg⟩

/-- The windows of an hour. -/
theorem hour_windows_within : (introSearchWindowMs 3600000 false).Within 3600000 ∧
    (∃ window, recapSearchWindowMs 3600000 = some window ∧ window.Within 3600000) :=
  have windows := search_windows_within 3600000 (by decide) (by decide)
  ⟨windows.1, windows.2.2.2.2 (by decide)⟩

/-- A movie of five minutes. -/
theorem short_movie_window_ends_late : ¬ Windowed 300000 := fun windowed =>
  absurd (windowed.intro true).stop (by decide)

end Duskcue.Segments
