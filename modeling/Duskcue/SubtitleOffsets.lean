import Duskcue.AssSubtitles
import Duskcue.Bounded32

/-! Subtitles moved in time. A timing line is written anew from the two times that are
read from it, so what else stands in it is lost, and what follows the second time is read
as a part of it. -/
namespace Duskcue.Subtitles
open Text Decimals AssSubtitles

/-! ## The offset -/

/-- `ms_to_timecode`. -/
def msToTimecode (ms : Nat) (separator : Char) : List Char :=
  padded 2 (ms / 3600000) ++ ':' :: (padded 2 (ms % 3600000 / 60000) ++ ':' :: (padded 2 (ms % 60000 / 1000) ++
    separator :: padded 3 (ms % 1000)))

/-- `(ms as i64 + offset_ms as i64).max(0) as u64`. -/
def shiftMs (ms : Nat) (offsetMs : Int) : Nat :=
  (((ms : Int).bmod (2 ^ 64) + offsetMs).bmod (2 ^ 64)).toNat

/-- `apply_offset_to_timecode_line`. -/
def applyOffsetToTimecodeLine (line : List Char) (separator : Char) (offsetMs : Int) : List Char :=
  match split "-->".toList line with
  | [first, second] =>
    let startMs := parseTimecodeToMs (trim first) separator
    let endMs := parseTimecodeToMs (trim second) separator
    msToTimecode (shiftMs startMs offsetMs) separator ++ " --> ".toList ++
      msToTimecode (shiftMs endMs offsetMs) separator
  | _ => line

/-- `apply_offset`. -/
def applyOffset (content format : List Char) (offsetMs : Int) : List Char :=
  let separator := if format = "vtt".toList then '.' else ','
  ['\n'].intercalate ((lines content).map fun line =>
    if "-->".toList <:+: line then applyOffsetToTimecodeLine line separator offsetMs else line)

/-! ## Documents -/

/-- A time as it is written; WebVTT may leave its hours out. -/
structure Stamp where
  time : Time
  short : Bool
  withoutHours : short = true → time.hours = 0

def Stamp.written (mark : Char) (stamp : Stamp) : List Char :=
  if stamp.short then
    padded 2 stamp.time.minutes ++ ':' :: (padded 2 stamp.time.seconds ++ mark :: padded 3 stamp.time.millis)
  else stamp.time.written mark

def Stamp.ms (stamp : Stamp) : Nat := milliseconds stamp.time

/-- Spaces and tabs. -/
def Blank (gap : List Char) : Prop := gap ≠ [] ∧ ∀ c ∈ gap, c = ' ' ∨ c = '\t'

/-- A timing line: two times, the white space at the arrow between them, and the settings of
the cue, each of which is a name and a value with a colon between them. -/
structure Timing where
  start : Stamp
  stop : Stamp
  before : List Char
  after : List Char
  settings : List Char
  spaced : Blank before ∧ Blank after
  apart : settings = [] ∨ ∃ c rest, settings = c :: rest ∧ (c = ' ' ∨ c = '\t') ∧ ':' ∈ rest
  ended : '\n' ∉ settings ∧ '\r' ∉ settings ∧ ¬ "-->".toList <:+: settings

def Timing.text (mark : Char) (timing : Timing) : List Char :=
  timing.start.written mark ++ timing.before ++ "-->".toList ++ timing.after ++ timing.stop.written mark ++
    timing.settings

/-- A line of a document: the times of a cue, or anything else. -/
inductive Row where
  | timing (line : Timing)
  | plain (line : List Char) (single : '\n' ∉ line ∧ '\r' ∉ line)

def Row.text (mark : Char) : Row → List Char
  | .timing line => line.text mark
  | .plain line _ => line

/-- The time of so many milliseconds. -/
def timeOf (ms : Nat) : Time where
  hours := ms / 3600000
  minutes := ms % 3600000 / 60000
  seconds := ms % 60000 / 1000
  millis := ms % 1000
  minutes_lt := by omega
  seconds_lt := by omega
  millis_lt := by omega

/-- A time with its hours. -/
def Stamp.long (ms : Nat) : Stamp := ⟨timeOf ms, false, by simp⟩

/-- The time moved, but not in front of the beginning. -/
def Stamp.shift (offset : Int) (stamp : Stamp) : Stamp := .long (stamp.ms + offset).toNat

/-- A row with its times moved, and with nothing else changed. -/
def Row.shift (offset : Int) : Row → Row
  | .timing line => .timing { line with start := line.start.shift offset, stop := line.stop.shift offset }
  | .plain line single => .plain line single

/-- The times of a row. -/
def Row.stamps : Row → List Stamp
  | .timing line => [line.start, line.stop]
  | .plain _ _ => []

/-- Single spaces at the arrow and no settings; and no arrow in another line, unless there
are several. -/
def Row.Kept : Row → Prop
  | .timing line => line.before = [' '] ∧ line.after = [' '] ∧ line.settings = []
  | .plain line _ => (split "-->".toList line).length ≠ 2

/-! ## Times -/

variable {mark : Char} {stamp : Stamp} {ms : Nat} {offset : Int}

theorem msToTimecode_eq (ms : Nat) (separator : Char) : msToTimecode ms separator = (timeOf ms).written separator := rfl

theorem milliseconds_timeOf (ms : Nat) : milliseconds (timeOf ms) = ms := by
  unfold milliseconds timeOf
  simp only
  omega

theorem shiftMs_eq (small : ms < 2 ^ 62) (fits : fits32 offset = true) : shiftMs ms offset = (ms + offset).toNat := by
  have bounds := fits32_iff.mp fits
  unfold shiftMs
  rw [Int.bmod_eq_of_le (n := (ms : Int)) (by omega) (by omega), Int.bmod_eq_of_le (by omega) (by omega)]

theorem shiftMs_lt (ms : Nat) (offset : Int) : shiftMs ms offset < 2 ^ 63 := by
  unfold shiftMs
  have upper := @Int.bmod_lt ((ms : Int).bmod (2 ^ 64) + offset) (2 ^ 64) (by decide)
  omega

theorem shiftMs_one (small : ms < 2 ^ 63) : shiftMs ms 1 ≠ ms := by
  unfold shiftMs
  rw [Int.bmod_eq_of_le (n := (ms : Int)) (by omega) (by omega)]
  by_cases last : ms + 1 < 2 ^ 63
  · rw [Int.bmod_eq_of_le (by omega) (by omega)]
    omega
  · rw [show (ms : Int) + 1 = 2 ^ 63 by omega]
    simp only [show Int.bmod (2 ^ 63) (2 ^ 64) = -2 ^ 63 by decide]
    omega

theorem parse_msToTimecode (digit : mark.isDigit = false) (colon : mark ≠ ':') (small : ms < 2 ^ 64) :
    parseTimecodeToMs (msToTimecode ms mark) mark = ms := by
  have read := @parseTimecodeToMs_written (timeOf ms) mark digit colon (by rwa [milliseconds_timeOf])
  rwa [milliseconds_timeOf] at read

theorem Stamp.trimmed_written (stamp : Stamp) (mark : Char) : Trimmed (stamp.written mark) := by
  unfold Stamp.written
  split
  · have ends := @trimmed_time 2 3 stamp.time.minutes stamp.time.millis
      (':' :: (padded 2 stamp.time.seconds ++ [mark]))
    simpa using ends
  · exact AssSubtitles.trimmed_written _ _

theorem Stamp.not_mem_written (stamp : Stamp) {c : Char} (other : c.isDigit = false) (colon : c ≠ ':')
    (apart : c ≠ mark) :
    c ∉ stamp.written mark := by
  unfold Stamp.written
  split
  · simp only [List.mem_append, List.mem_cons, not_or]
    exact ⟨not_mem_padded other, colon, not_mem_padded other, apart, not_mem_padded other⟩
  · exact stamp.time.not_mem_written other colon apart

/-- A time is read with or without its hours. -/
theorem parse_stamp (digit : mark.isDigit = false) (colon : mark ≠ ':') (small : stamp.ms < 2 ^ 64) :
    parseTimecodeToMs (stamp.written mark) mark = stamp.ms := by
  by_cases short : stamp.short = true
  · have none := stamp.withoutHours short
    have minutes := stamp.time.minutes_lt
    have seconds := stamp.time.seconds_lt
    have millis := stamp.time.millis_lt
    have last : ':' ∉ padded 2 stamp.time.seconds ++ mark :: padded 3 stamp.time.millis := by
      simp only [List.mem_append, List.mem_cons, not_or]
      exact ⟨not_colon, colon.symm, not_colon⟩
    have parts : (stamp.written mark).splitOn ':' =
        [padded 2 stamp.time.minutes, padded 2 stamp.time.seconds ++ mark :: padded 3 stamp.time.millis] := by
      rw [Stamp.written, if_pos short, List.splitOn_append_cons_self_of_not_mem not_colon,
        List.splitOn_eq_singleton last]
    have pair : splitOnce [mark] (padded 2 stamp.time.seconds ++ mark :: padded 3 stamp.time.millis) =
        some (padded 2 stamp.time.seconds, padded 3 stamp.time.millis) :=
      splitOnce_char.mpr ⟨rfl, not_mem_padded digit⟩
    unfold parseTimecodeToMs
    rw [(stamp.trimmed_written mark).2, parts]
    simp only [pair, Option.getD_some]
    rw [parse_padded (by omega), parse_padded (by omega), parse_padded (by omega)]
    simp only [Option.getD_some]
    rw [Stamp.ms, milliseconds, none]
    exact Nat.mod_eq_of_lt (by omega)
  · rw [Stamp.written, if_neg short]
    exact parseTimecodeToMs_written digit colon small

theorem Stamp.shift_ms (offset : Int) (stamp : Stamp) : (stamp.shift offset).ms = (stamp.ms + offset).toNat :=
  milliseconds_timeOf _

/-! ## Timing lines -/

theorem Blank.isWhitespace (blank : Blank gap) : ∀ c ∈ gap, isWhitespace c = true := by
  intro c member
  rcases blank.2 c member with rfl | rfl <;> decide

theorem Blank.not_mem (blank : Blank gap) (space : c ≠ ' ') (tab : c ≠ '\t') : c ∉ gap := by
  intro member
  rcases blank.2 c member with same | same
  · exact space same
  · exact tab same

theorem Timing.single_arrow (line : Timing) (other : mark ≠ '-') :
    split "-->".toList (line.text mark) =
      [line.start.written mark ++ line.before, line.after ++ line.stop.written mark ++ line.settings] := by
  have first : '-' ∉ line.start.written mark ++ line.before := by
    rw [List.mem_append, not_or]
    exact ⟨line.start.not_mem_written (by decide) (by decide) other.symm, line.spaced.1.not_mem (by decide) (by decide)⟩
  have middle : '-' ∉ line.after ++ line.stop.written mark := by
    rw [List.mem_append, not_or]
    exact ⟨line.spaced.2.not_mem (by decide) (by decide), line.stop.not_mem_written (by decide) (by decide) other.symm⟩
  have rest : ¬ "-->".toList <:+: line.after ++ line.stop.written mark ++ line.settings := by
    intro within
    rcases line.apart with none | ⟨c, rest, shape, blank, -⟩
    · rw [none, List.append_nil] at within
      exact middle (within.subset (by simp))
    · have outside : c ∉ "-->".toList := by rcases blank with rfl | rfl <;> simp
      rw [shape] at within
      rcases infix_append_cons outside within with left | right
      · exact middle (left.subset (by simp))
      · exact line.ended.2.2 (by rw [shape]; exact List.infix_cons right)
  have shape : line.text mark = (line.start.written mark ++ line.before) ++
      '-' :: (['-', '>'] ++ (line.after ++ line.stop.written mark ++ line.settings)) := by
    simp [Timing.text]
  rw [shape]
  exact (split_row first _).trans (congrArg _ (split_plain rest))

theorem trim_start (line : Timing) : trim (line.start.written mark ++ line.before) = line.start.written mark :=
  trim_padded [] (line.start.trimmed_written mark) (by simp) line.spaced.1.isWhitespace

theorem trim_stop (line : Timing) (bare : line.settings = []) :
    trim (line.after ++ line.stop.written mark ++ line.settings) = line.stop.written mark := by
  rw [bare]
  exact trim_padded line.after (line.stop.trimmed_written mark) line.spaced.2.isWhitespace (by simp)

theorem colons (colon : mark ≠ ':') (ms : Nat) : (msToTimecode ms mark).count ':' = 2 := by
  have absent (width n : Nat) : (padded width n).count ':' = 0 := List.count_eq_zero.mpr (not_mem_padded (by decide))
  simp [msToTimecode, absent, colon]

theorem shifted_timing (line : Timing) (mark : Char) (offset : Int) : ((Row.timing line).shift offset).text mark =
    msToTimecode (line.start.ms + offset).toNat mark ++ line.before ++ "-->".toList ++ line.after ++
      msToTimecode (line.stop.ms + offset).toNat mark ++ line.settings := rfl

/-- The arrow of two lines that are the same. -/
theorem opened {first first' second second' : List Char}
    (same : first ++ " --> ".toList ++ second = first' ++ ' ' :: ('-' :: '-' :: '>' :: ' ' :: second')) :
    (first ++ [' ']) ++ '-' :: ('-' :: '>' :: ' ' :: second) = (first' ++ [' ']) ++
      '-' :: ('-' :: '>' :: ' ' :: second') := by
  simpa using same

/-- The timing line that rewriting one leaves. -/
def Timing.plainest (startMs endMs : Nat) : Timing where
  start := .long startMs
  stop := .long endMs
  before := [' ']
  after := [' ']
  settings := []
  spaced := by simp [Blank]
  apart := .inl rfl
  ended := by simp

theorem Timing.start_plainest (startMs endMs : Nat) : (Timing.plainest startMs endMs).start.ms = startMs :=
  milliseconds_timeOf startMs

theorem Timing.text_plainest (startMs endMs : Nat) (mark : Char) : (Timing.plainest startMs endMs).text mark =
    msToTimecode startMs mark ++ ' ' :: ('-' :: '-' :: '>' :: ' ' :: msToTimecode endMs mark) := by
  have first : (Timing.plainest startMs endMs).start.written mark = msToTimecode startMs mark := rfl
  have second : (Timing.plainest startMs endMs).stop.written mark = msToTimecode endMs mark := rfl
  rw [Timing.text, first, second]
  simp [Timing.plainest]

/-- The parts of two lines from the first time on. -/
theorem cut
    (same : front ++ " --> ".toList ++ back = front ++ before ++ "-->".toList ++ after ++ stop ++ settings) :
    [' '] ++ '-' :: '-' :: '>' :: ' ' :: back = before ++ '-' :: '-' :: '>' :: (after ++ stop ++ settings) := by
  simpa using same

theorem Timing.contains_arrow (line : Timing) (mark : Char) : "-->".toList <:+: (Row.timing line).text mark :=
  ⟨line.start.written mark ++ line.before, line.after ++ line.stop.written mark ++ line.settings,
    by simp [Row.text, Timing.text]⟩

section
variable (digit : mark.isDigit = false) (colon : mark ≠ ':') (other : mark ≠ '-')
include digit colon other

theorem rewritten_timing {line : Timing} (small : line.start.ms < 2 ^ 64) :
    applyOffsetToTimecodeLine (line.text mark) mark offset =
      msToTimecode (shiftMs line.start.ms offset) mark ++ " --> ".toList ++
        msToTimecode (shiftMs (parseTimecodeToMs
          (trim (line.after ++ line.stop.written mark ++ line.settings)) mark) offset)
          mark := by
  unfold applyOffsetToTimecodeLine
  rw [line.single_arrow other]
  simp only [trim_start]
  rw [parse_stamp digit colon small]

/-- Only a timing line in its plainest form keeps all but its times. -/
theorem timing_kept_iff {line : Timing} (fits : fits32 offset = true)
    (small : line.start.ms < 2 ^ 62 ∧ line.stop.ms < 2 ^ 62) :
    applyOffsetToTimecodeLine (line.text mark) mark offset = ((Row.timing line).shift offset).text mark ↔
      (Row.timing line).Kept := by
  rw [rewritten_timing digit colon other (by omega), shiftMs_eq small.1 fits, shifted_timing]
  constructor
  · intro same
    have gap := before_eq (c := '-') (by simp) (line.spaced.1.not_mem (by decide) (by decide)) (cut same)
    have rest := cut same
    rw [gap, List.append_cancel_left_eq, List.cons.injEq, List.cons.injEq, List.cons.injEq] at rest
    have rest := rest.2.2.2
    have counted := congrArg (List.count ':') rest
    have blank : line.after.count ':' = 0 := List.count_eq_zero.mpr (line.spaced.2.not_mem (by decide) (by decide))
    simp only [List.count_append, List.count_cons, colons colon, blank] at counted
    have bare : line.settings = [] := by
      rcases line.apart with bare | ⟨c, rest, shape, -, named⟩
      · exact bare
      · have positive := List.count_pos_iff.mpr named
        rw [shape, List.count_cons] at counted
        simp at counted
        omega
    refine ⟨gap.symm, ?_, bare⟩
    rw [trim_stop line bare, parse_stamp digit colon (by omega), shiftMs_eq small.2 fits, bare, List.append_nil] at rest
    exact (List.append_cancel_right (show [' '] ++ _ = _ from rest)).symm
  · rintro ⟨before, after, bare⟩
    rw [trim_stop line bare, parse_stamp digit colon (by omega), shiftMs_eq small.2 fits, before, after, bare]
    simp

/-- A millisecond later a timing line is another one. -/
theorem rewritten_moves (small : startMs < 2 ^ 63)
    (shape : line = msToTimecode startMs mark ++ " --> ".toList ++ msToTimecode endMs mark) :
    applyOffsetToTimecodeLine line mark 1 ≠ line := by
  intro same
  have text : line = (Timing.plainest startMs endMs).text mark := by simp [shape, Timing.text_plainest]
  have moved := same
  rw [text, rewritten_timing digit colon other (by rw [Timing.start_plainest]; omega), Timing.start_plainest,
    Timing.text_plainest] at moved
  have absent (ms : Nat) : '-' ∉ msToTimecode ms mark ++ [' '] := by
    rw [List.mem_append, not_or, msToTimecode_eq]
    exact ⟨(timeOf ms).not_mem_written (by decide) (by decide) other.symm, by simp⟩
  have first := List.append_cancel_right (before_eq (absent _) (absent _) (opened moved))
  have times := congrArg (parseTimecodeToMs · mark) first
  simp only [parse_msToTimecode digit colon (show startMs < 2 ^ 64 by omega),
    parse_msToTimecode digit colon (Nat.lt_trans (shiftMs_lt startMs 1) (by decide))] at times
  exact shiftMs_one small times

theorem plain_kept_iff (line : List Char) :
    (∀ offset, fits32 offset = true → applyOffsetToTimecodeLine line mark offset = line) ↔
      (split "-->".toList line).length ≠ 2 := by
  constructor
  · intro unchanged pair
    obtain ⟨first, second, parts⟩ := List.length_eq_two.mp pair
    have same := unchanged 1 (by decide)
    have written : applyOffsetToTimecodeLine line mark 1 =
        msToTimecode (shiftMs (parseTimecodeToMs (trim first) mark) 1) mark ++ " --> ".toList ++
          msToTimecode (shiftMs (parseTimecodeToMs (trim second) mark) 1) mark := by
      unfold applyOffsetToTimecodeLine
      rw [parts]
    exact rewritten_moves digit colon other (shiftMs_lt _ _) (same.symm.trans written) same
  · intro several offset _
    unfold applyOffsetToTimecodeLine
    split
    · rename_i parts
      rw [parts] at several
      simp at several
    · rfl

/-- What becomes of one line of a document. -/
theorem row_kept {row : Row} (kept : row.Kept) (small : ∀ stamp ∈ row.stamps, stamp.ms < 2 ^ 62)
    (fits : fits32 offset = true) :
    (if "-->".toList <:+: row.text mark then applyOffsetToTimecodeLine (row.text mark) mark offset else row.text mark) =
      (row.shift offset).text mark := by
  cases row with
  | timing line =>
    rw [if_pos (line.contains_arrow mark)]
    exact (timing_kept_iff digit colon other fits
      ⟨small _ (by simp [Row.stamps]), small _ (by simp [Row.stamps])⟩).mpr kept
  | plain line =>
    split
    · exact (plain_kept_iff digit colon other line).mpr kept offset fits
    · rfl

theorem kept_of_shifted {row : Row} (small : ∀ stamp ∈ row.stamps, stamp.ms < 2 ^ 62)
    (shifted : ∀ offset, fits32 offset = true →
      (if "-->".toList <:+: row.text mark then applyOffsetToTimecodeLine (row.text mark) mark offset
        else row.text mark) =
        (row.shift offset).text mark) :
    row.Kept := by
  cases row with
  | timing line =>
    have same := shifted 0 (by decide)
    rw [if_pos (line.contains_arrow mark)] at same
    exact (timing_kept_iff digit colon other (by decide)
      ⟨small _ (by simp [Row.stamps]), small _ (by simp [Row.stamps])⟩).mp same
  | plain line single =>
    by_cases arrow : "-->".toList <:+: line
    · refine (plain_kept_iff digit colon other line).mp fun offset fits => ?_
      have same := shifted offset fits
      rwa [show (Row.plain line single).text mark = line from rfl, if_pos arrow] at same
    · rw [Row.Kept, split_plain arrow]
      simp

end

/-! ## Documents moved in time -/

/-- The mark in front of the milliseconds. -/
def markOf (format : List Char) : Char := if format = "vtt".toList then '.' else ','

/-- The lines of a document with its times moved. -/
def shifted (format : List Char) (rows : List Row) (offset : Int) : List Char :=
  ['\n'].intercalate (rows.map fun row => (row.shift offset).text (markOf format))

/-- No time is moved in front of the beginning. -/
def Unclamped (rows : List Row) (offset : Int) : Prop := ∀ row ∈ rows, ∀ stamp ∈ row.stamps, 0 ≤ stamp.ms + offset

/-- Two offsets, one after the other, are as good as their sum. -/
def Composes (same : List Char → List Char → Prop) (content format : List Char) (rows : List Row) : Prop :=
  ∀ a b, fits32 a = true → fits32 b = true → fits32 (a + b) = true → Unclamped rows a → Unclamped rows (a + b) →
    same (applyOffset (applyOffset content format a) format b) (applyOffset content format (a + b))

/-- The same text up to a line terminator at its end. -/
def SameLines (text text' : List Char) : Prop := text' = text ∨ text' = text ++ ['\n']

/-- A blank row ends the document, and is not all of it. -/
def EndsBlank (mark : Char) (rows : List Row) : Prop :=
  ∃ front last, rows = front ++ [last] ∧ front ≠ [] ∧ last.text mark = []

variable {content format : List Char} {rows : List Row}

theorem mark_plain (format : List Char) : (markOf format).isDigit = false ∧ markOf format ≠ ':' ∧ markOf format ≠ '-' ∧
    markOf format ≠ '\n' ∧ markOf format ≠ '\r' := by
  unfold markOf
  split <;> decide

theorem applyOffset_eq (content format : List Char) (offset : Int) : applyOffset content format offset =
    ['\n'].intercalate ((lines content).map fun line =>
      if "-->".toList <:+: line then applyOffsetToTimecodeLine line (markOf format) offset else line) := rfl

theorem not_mem_msToTimecode {c : Char} (other : c.isDigit = false) (colon : c ≠ ':') (apart : c ≠ mark) (ms : Nat) :
    c ∉ msToTimecode ms mark :=
  (timeOf ms).not_mem_written other colon apart

theorem Row.single (row : Row) (terminator : c = '\n' ∨ c = '\r') (apart : c ≠ mark) : c ∉ row.text mark := by
  cases row with
  | timing line =>
    have other : c.isDigit = false ∧ c ≠ ':' ∧ c ≠ ' ' ∧ c ≠ '\t' ∧ c ≠ '-' ∧ c ≠ '>' := by
      rcases terminator with rfl | rfl <;> decide
    have ended : c ∉ line.settings := by
      rcases terminator with rfl | rfl
      · exact line.ended.1
      · exact line.ended.2.1
    obtain ⟨digit, colon, space, tab, dash, tip⟩ := other
    simp only [Row.text, Timing.text, List.mem_append, not_or]
    exact ⟨⟨⟨⟨⟨line.start.not_mem_written digit colon apart, line.spaced.1.not_mem space tab⟩, by simp [dash, tip]⟩,
      line.spaced.2.not_mem space tab⟩, line.stop.not_mem_written digit colon apart⟩, ended⟩
  | plain _ single =>
    rcases terminator with rfl | rfl
    · exact single.1
    · exact single.2

theorem not_mem_rewritten (single : '\n' ∉ line) (apart : '\n' ≠ mark) :
    '\n' ∉ applyOffsetToTimecodeLine line mark offset := by
  unfold applyOffsetToTimecodeLine
  split
  · simp only [List.mem_append, not_or]
    exact ⟨⟨not_mem_msToTimecode (by decide) (by decide) apart _, by simp⟩,
      not_mem_msToTimecode (by decide) (by decide) apart _⟩
  · exact single

theorem intercalate_injective (plain : ∀ piece ∈ pieces, '\n' ∉ piece)
    (plain' : ∀ piece ∈ pieces', '\n' ∉ piece) (long : pieces.length = pieces'.length)
    (same : ['\n'].intercalate pieces = ['\n'].intercalate pieces') : pieces = pieces' := by
  by_cases none : pieces = []
  · rw [none] at long ⊢
    exact (List.length_eq_zero_iff.mp long.symm).symm
  · have some : pieces' ≠ [] := by
      rintro rfl
      exact none (List.length_eq_zero_iff.mp long)
    have split := congrArg (List.splitOn '\n') same
    rwa [List.splitOn_intercalate _ plain none, List.splitOn_intercalate _ plain' some] at split

theorem Row.text_shift_nil (row : Row) : (row.shift offset).text mark = [] ↔ row.text mark = [] := by
  cases row with
  | timing => simp [Row.shift, Row.text, Timing.text]
  | plain => rfl

theorem Row.shift_shift {a b : Int} {row : Row} (inside : ∀ stamp ∈ row.stamps, 0 ≤ stamp.ms + a) :
    (row.shift a).shift b = row.shift (a + b) := by
  cases row with
  | timing =>
    have twice {stamp : Stamp} (inside : 0 ≤ stamp.ms + a) : (stamp.shift a).shift b = stamp.shift (a + b) := by
      have sum : ((stamp.shift a).ms + b : Int) = stamp.ms + (a + b) := by
        rw [Stamp.shift_ms, Int.toNat_of_nonneg inside, Int.add_assoc]
      exact congrArg (fun ms : Int => Stamp.long ms.toNat) sum
    simp only [Row.stamps, List.mem_cons, List.not_mem_nil, or_false, forall_eq_or_imp, forall_eq] at inside
    simp only [Row.shift, twice inside.1, twice inside.2]
  | plain => rfl

theorem Row.kept_shift {row : Row} : (row.shift offset).Kept ↔ row.Kept := by
  cases row <;> rfl

theorem Row.stamps_shift (row : Row) : (row.shift offset).stamps = row.stamps.map (Stamp.shift offset) := by
  cases row <;> rfl

section
variable (document : lines content = rows.map (Row.text (markOf format)))
include document

/-- The offset moves the times and leaves the rest alone in those documents only whose rows
are all kept. -/
theorem applyOffset_shifts_iff (small : ∀ row ∈ rows, ∀ stamp ∈ row.stamps, stamp.ms < 2 ^ 62) :
    (∀ offset, fits32 offset = true → applyOffset content format offset = shifted format rows offset) ↔
      ∀ row ∈ rows, row.Kept := by
  obtain ⟨digit, colon, other, feed, -⟩ := mark_plain format
  constructor
  · intro moved row member
    apply kept_of_shifted digit colon other (small row member)
    intro offset fits
    have pieces := moved offset fits
    rw [applyOffset_eq, document, List.map_map, shifted] at pieces
    have same := intercalate_injective ?_ ?_ (by simp) pieces
    · exact List.map_inj_left.mp same row member
    · intro piece member
      obtain ⟨row, _, rfl⟩ := List.mem_map.mp member
      simp only [Function.comp_apply]
      split
      · exact not_mem_rewritten (row.single (.inl rfl) feed.symm) feed.symm
      · exact row.single (.inl rfl) feed.symm
    · intro piece member
      obtain ⟨row, _, rfl⟩ := List.mem_map.mp member
      exact (row.shift offset).single (.inl rfl) feed.symm
  · intro kept offset fits
    rw [applyOffset_eq, document, List.map_map, shifted]
    congr 1
    apply List.map_congr_left
    intro row member
    exact row_kept digit colon other (kept row member) (small row member) fits

end

theorem lines_shifted (front : List Row) (last : Row) : lines (shifted format (front ++ [last]) offset) =
    ((if last.text (markOf format) = [] then front else front ++ [last]).map (Row.shift offset)).map
      (Row.text (markOf format)) := by
  obtain ⟨-, -, -, feed, ret⟩ := mark_plain format
  have plain : ∀ row ∈ (front.map (Row.shift offset)).map (Row.text (markOf format)), '\n' ∉ row ∧ chomp row = row := by
    intro text member
    obtain ⟨row, _, rfl⟩ := List.mem_map.mp member
    exact ⟨row.single (.inl rfl) feed.symm, chomp_eq_self (row.single (.inr rfl) ret.symm)⟩
  have shape : shifted format (front ++ [last]) offset =
      ['\n'].intercalate ((front.map (Row.shift offset)).map (Row.text (markOf format)) ++
        [(last.shift offset).text (markOf format)]) := by
    rw [List.map_map, shifted, List.map_append]
    rfl
  rw [shape, lines_rows plain ((last.shift offset).single (.inl rfl) feed.symm)]
  by_cases blank : last.text (markOf format) = []
  · rw [if_pos (last.text_shift_nil.mpr blank), if_pos blank]
  · rw [if_neg (mt last.text_shift_nil.mp blank), if_neg blank, List.map_append, List.map_append]
    rfl

/-- A document moved twice, up to a blank row at its end. -/
theorem shifted_twice {a b : Int} (kept : ∀ row ∈ front ++ [last], row.Kept)
    (small : ∀ row ∈ front ++ [last], ∀ stamp ∈ row.stamps, stamp.ms < 2 ^ 32)
    (fits : fits32 a = true ∧ fits32 b = true) (inside : Unclamped (front ++ [last]) a) :
    applyOffset (shifted format (front ++ [last]) a) format b =
      shifted format (if last.text (markOf format) = [] then front else front ++ [last]) (a + b) := by
  have within : ∀ row ∈ (if last.text (markOf format) = [] then front else front ++ [last]), row ∈ front ++ [last] := by
    split
    · exact fun row => List.mem_append_left _
    · exact fun row => id
  rw [(applyOffset_shifts_iff (lines_shifted front last) ?_).mpr ?_ b fits.2, shifted, shifted, List.map_map]
  · congr 1
    apply List.map_congr_left
    intro row member
    rw [Function.comp_apply, Row.shift_shift (inside row (within row member))]
  · intro row member stamp stamped
    obtain ⟨row, origin, rfl⟩ := List.mem_map.mp member
    rw [Row.stamps_shift] at stamped
    obtain ⟨stamp, known, rfl⟩ := List.mem_map.mp stamped
    have bound := small row (within row origin) stamp known
    have moved := fits32_iff.mp fits.1
    rw [Stamp.shift_ms]
    omega
  · intro row member
    obtain ⟨row, origin, rfl⟩ := List.mem_map.mp member
    exact Row.kept_shift.mpr (kept row (within row origin))

theorem shifted_blank {last : Row} (filled : front ≠ []) (blank : last.text (markOf format) = []) :
    shifted format (front ++ [last]) offset = shifted format front offset ++ ['\n'] := by
  rw [shifted, List.map_append, List.map_singleton, last.text_shift_nil.mpr blank, intercalate_concat, List.append_nil]
  obtain ⟨first, final, rfl⟩ := front.eq_nil_or_concat.resolve_left filled
  rw [shifted, List.concat_eq_append, List.map_append, List.map_singleton, intercalate_concat]
  simp

section
variable (document : lines content = rows.map (Row.text (markOf format)))
  (small : ∀ row ∈ rows, ∀ stamp ∈ row.stamps, stamp.ms < 2 ^ 32) (kept : ∀ row ∈ rows, row.Kept)
include document small kept

theorem composed (fits : fits32 a = true ∧ fits32 b = true ∧ fits32 (a + b) = true) (inside : Unclamped rows a) :
    (EndsBlank (markOf format) rows ∧ applyOffset content format (a + b) =
      applyOffset (applyOffset content format a) format b ++ ['\n']) ∨
    (¬ EndsBlank (markOf format) rows ∧ applyOffset content format (a + b) =
      applyOffset (applyOffset content format a) format b) := by
  have moved := (applyOffset_shifts_iff document fun row member stamp stamped =>
    Nat.lt_trans (small row member stamp stamped) (by decide)).mpr kept
  rw [moved a fits.1, moved (a + b) fits.2.2]
  rcases rows.eq_nil_or_concat with rfl | ⟨front, last, rfl⟩
  · right
    exact ⟨by simp [EndsBlank], rfl⟩
  · rw [List.concat_eq_append] at *
    rw [shifted_twice kept small ⟨fits.1, fits.2.1⟩ inside]
    by_cases blank : last.text (markOf format) = []
    · rw [if_pos blank]
      by_cases filled : front = []
      · right
        subst filled
        refine ⟨?_, ?_⟩
        · rintro ⟨front, final, shape, filled, -⟩
          exact filled (List.append_inj' shape rfl).1.symm
        · simp [shifted, last.text_shift_nil.mpr blank]
      · left
        exact ⟨⟨front, last, rfl, filled, blank⟩, shifted_blank filled blank⟩
    · right
      rw [if_neg blank]
      refine ⟨?_, rfl⟩
      rintro ⟨first, final, shape, -, empty⟩
      rw [(List.cons.inj (List.append_inj' shape rfl).2).1] at blank
      exact blank empty

end

/-- Moving a document in time changes nothing but its times, and can be done in two steps,
only if every timing line is in its plainest form and no other line is taken for one. In
two steps a blank row at the end gets lost. -/
theorem applyOffset_law_iff (document : lines content = rows.map (Row.text (markOf format)))
    (small : ∀ row ∈ rows, ∀ stamp ∈ row.stamps, stamp.ms < 2 ^ 32) :
    (((∀ offset, fits32 offset = true → applyOffset content format offset = shifted format rows offset) ∧
        Composes SameLines content format rows) ↔ ∀ row ∈ rows, row.Kept) ∧
    (((∀ offset, fits32 offset = true → applyOffset content format offset = shifted format rows offset) ∧
        Composes (fun text text' => text = text') content format rows) ↔
      (∀ row ∈ rows, row.Kept) ∧ ¬ EndsBlank (markOf format) rows) := by
  have moves := applyOffset_shifts_iff document fun row member stamp stamped =>
    Nat.lt_trans (small row member stamp stamped) (by decide)
  refine ⟨⟨fun law => moves.mp law.1, fun kept => ⟨moves.mpr kept, ?_⟩⟩, fun law => ⟨moves.mp law.1, ?_⟩,
    fun ⟨kept, filled⟩ => ⟨moves.mpr kept, ?_⟩⟩
  · intro a b fitsA fitsB fits inside _
    rcases composed document small kept ⟨fitsA, fitsB, fits⟩ inside with ⟨-, same⟩ | ⟨-, same⟩
    · exact .inr same
    · exact .inl same
  · intro blank
    have still : Unclamped rows 0 := fun row _ stamp _ => by omega
    have twice := law.2 0 0 (by decide) (by decide) (by decide) still still
    rcases composed document small (moves.mp law.1) (a := 0) (b := 0) (by decide) still with ⟨-, same⟩ | ⟨other, -⟩
    · rw [← twice] at same
      simp at same
    · exact other blank
  · intro a b fitsA fitsB fits inside _
    rcases composed document small kept ⟨fitsA, fitsB, fits⟩ inside with ⟨blank, -⟩ | ⟨-, same⟩
    · exact (filled blank).elim
    · exact same.symm

/-- A cue of four seconds with its text on the left. -/
def Sample.placed : Timing where
  start := .long 1000
  stop := .long 4000
  before := [' ']
  after := [' ']
  settings := " align:start".toList
  spaced := by simp [Blank]
  apart := .inr ⟨' ', "align:start".toList, by simp, .inl rfl, by simp⟩
  ended := by decide +kernel

def Sample.webVtt (line : Timing) : List Row := [.plain "WEBVTT".toList (by simp), .plain [] (by simp), .timing line,
  .plain "Hello".toList (by simp)]

/-- The settings are lost, and with them the end of the cue. -/
theorem settings_lost :
    lines "WEBVTT\n\n00:00:01.000 --> 00:00:04.000 align:start\nHello".toList =
      (Sample.webVtt Sample.placed).map (Row.text (markOf "vtt".toList)) ∧
    shifted "vtt".toList (Sample.webVtt Sample.placed) 1500 =
      "WEBVTT\n\n00:00:02.500 --> 00:00:05.500 align:start\nHello".toList ∧
    applyOffset "WEBVTT\n\n00:00:01.000 --> 00:00:04.000 align:start\nHello".toList "vtt".toList 1500 =
      "WEBVTT\n\n00:00:02.500 --> 00:00:01.500\nHello".toList ∧
    applyOffset "WEBVTT\n\n00:00:01.000 --> 00:00:04.000 align:start\nHello".toList "vtt".toList 1500 ≠
      shifted "vtt".toList (Sample.webVtt Sample.placed) 1500 := by
  decide +kernel

theorem greeting_moves :
    (∀ offset, fits32 offset = true →
      applyOffset "WEBVTT\n\n00:00:01.000 --> 00:00:04.000\nHello".toList "vtt".toList offset =
        shifted "vtt".toList (Sample.webVtt (.plainest 1000 4000)) offset) ∧
    Composes (fun text text' => text = text') "WEBVTT\n\n00:00:01.000 --> 00:00:04.000\nHello".toList "vtt".toList
      (Sample.webVtt (.plainest 1000 4000)) := by
  refine (applyOffset_law_iff (by decide +kernel) ?_).2.mpr ⟨?_, ?_⟩
  · simp [Sample.webVtt, Row.stamps, Timing.plainest, Stamp.long, Stamp.ms, milliseconds_timeOf]
  · intro row member
    simp only [Sample.webVtt, List.mem_cons, List.not_mem_nil, or_false] at member
    rcases member with rfl | rfl | rfl | rfl
    · exact (by decide +kernel : (split "-->".toList "WEBVTT".toList).length ≠ 2)
    · exact (by decide +kernel : (split "-->".toList []).length ≠ 2)
    · exact ⟨rfl, rfl, rfl⟩
    · exact (by decide +kernel : (split "-->".toList "Hello".toList).length ≠ 2)
  · rintro ⟨front, last, shape, -, blank⟩
    have final := congrArg List.getLast? shape
    simp [Sample.webVtt] at final
    rw [← final] at blank
    simp [Row.text] at blank

end Duskcue.Subtitles
