import Duskcue.Decimals
import Duskcue.SpriteHeight

/-! Storyboards: sheets of thumbnails, and an index that shows for each time a cell of a sheet. The
height that is read back from the first sheet is that of all its rows together, so the index
is right for sheets of one row. -/
namespace Duskcue.Storyboards
open Text Decimals

structure GenerationConfig where
  width : Nat
  intervalSeconds : Nat
  quality : Nat
  keyframeOnly : Bool
  spriteColumns : Nat
  spriteRows : Nat

/-- A number as it is written. -/
def decimal (n : Nat) : List Char := padded 0 n

/-- `validate`, with the text of the first violation. -/
def GenerationConfig.validate (config : GenerationConfig) : Except (List Char) Unit :=
  if ¬(config.width = 160 ∨ config.width = 320 ∨ config.width = 640) then
    .error ("storyboard width must be 160, 320, or 640 (got ".toList ++ decimal config.width ++ [')'])
  else if ¬(2 ≤ config.intervalSeconds ∧ config.intervalSeconds ≤ 120) then
    .error ("storyboard interval must be 2-120 seconds (got ".toList ++ decimal config.intervalSeconds ++ [')'])
  else if ¬(50 ≤ config.quality ∧ config.quality ≤ 100) then
    .error ("storyboard quality must be 50-100 (got ".toList ++ decimal config.quality ++ [')'])
  else if ¬(1 ≤ config.spriteColumns ∧ config.spriteColumns ≤ 20) ∨
      ¬(1 ≤ config.spriteRows ∧ config.spriteRows ≤ 40) then
    .error ("sprite columns/rows must be 1-20 by 1-40 (got ".toList ++ decimal config.spriteColumns ++ 'x' ::
      decimal config.spriteRows ++ [')'])
  else .ok ()

structure SpriteLayout where
  totalThumbnails : Nat
  fullSheets : Nat
  lastSheetThumbnails : Nat
  totalSheets : Nat
  thumbnailsPerSheet : Nat

/-- `compute_sprite_layout`. -/
def computeSpriteLayout (duration intervalSeconds columns rows : Nat) : SpriteLayout :=
  let interval := max intervalSeconds 1
  let perSheet := max (min (columns * rows) (2 ^ 32 - 1)) 1
  let total := if duration = 0 then 1 else (duration + interval - 1) / interval
  { totalThumbnails := total
    fullSheets := total / perSheet
    lastSheetThumbnails := total % perSheet
    totalSheets := max (total / perSheet + if 0 < total % perSheet then 1 else 0) 1
    thumbnailsPerSheet := perSheet }

def SpriteLayout.thumbnailsInSheet (layout : SpriteLayout) (index : Nat) : Nat :=
  if layout.lastSheetThumbnails = 0 ∨ index < layout.fullSheets then layout.thumbnailsPerSheet
  else layout.lastSheetThumbnails

/-- `format_timecode_secs`. -/
def formatTimecodeSecs (totalSecs : Nat) : List Char :=
  let millis := totalSecs * 1000
  padded 2 (millis / 3600000) ++ ':' :: (padded 2 (millis % 3600000 / 60000) ++ ':' ::
    (padded 2 (millis % 60000 / 1000) ++ '.' :: padded 3 (millis % 1000)))

/-- A part of a sheet, in pixels. -/
structure Region where
  x : Nat
  y : Nat
  width : Nat
  height : Nat

/-- A cue of the index. -/
structure Cue where
  startSecs : Nat
  endSecs : Nat
  sheet : Nat
  region : Region

/-- The cue of a thumbnail in `build_webvtt_index`. -/
def SpriteLayout.cue (layout : SpriteLayout) (intervalSeconds duration width height columns i : Nat) : Cue :=
  let interval := max intervalSeconds 1
  let columns := max columns 1
  let perSheet := max layout.thumbnailsPerSheet 1
  { startSecs := i * interval
    endSecs := if i + 1 = layout.totalThumbnails then max duration ((i + 1) * interval) else (i + 1) * interval
    sheet := i / perSheet
    region := ⟨i % perSheet % columns * width, i % perSheet / columns * height, width, height⟩ }

def SpriteLayout.cues (layout : SpriteLayout) (intervalSeconds duration width height columns : Nat) : List Cue :=
  (List.range layout.totalThumbnails).map (layout.cue intervalSeconds duration width height columns)

/-- The text of a cue. -/
def Cue.text (spriteUrlFor : Nat → List Char) (cue : Cue) : List Char :=
  formatTimecodeSecs cue.startSecs ++ " --> ".toList ++ formatTimecodeSecs cue.endSecs ++ '\n' ::
    (spriteUrlFor cue.sheet ++ "#xywh=".toList ++ decimal cue.region.x ++ ',' :: decimal cue.region.y ++ ',' ::
      decimal cue.region.width ++ ',' :: decimal cue.region.height ++ ['\n', '\n'])

/-- `build_webvtt_index`. -/
def buildWebvttIndex (layout : SpriteLayout) (intervalSeconds duration width height columns : Nat)
    (spriteUrlFor : Nat → List Char) : List Char :=
  "WEBVTT\n\n".toList ++ (layout.cues intervalSeconds duration width height columns).flatMap (Cue.text spriteUrlFor)

/-- `validate_sprite_filename`. -/
def validateSpriteFilename (name : List Char) : Except (List Char) Nat :=
  if name = [] then .error "empty sprite filename".toList
  else if '/' ∈ name ∨ '\\' ∈ name then .error ("sprite filename contains path separator: ".toList ++ name)
  else if ['.', '.'] <:+: name then .error ("sprite filename contains parent reference: ".toList ++ name)
  else match stripSuffix ".webp".toList name with
    | none => .error ("sprite filename must end in .webp: ".toList ++ name)
    | some stem =>
      match stripPrefix "sprite_".toList stem with
      | none => .error ("sprite filename must start with 'sprite_': ".toList ++ name)
      | some number =>
        if number = [] ∨ 4 < byteLength number then .error ("sprite number must be 1-4 digits: ".toList ++ name)
        else if ¬(number.all Char.isDigit) = true then .error ("sprite number must be ASCII digits: ".toList ++ name)
        else match parseBelow (2 ^ 32) number with
          | none => .error ("sprite number out of range: ".toList ++ name)
          | some n => if n = 0 then .error ("sprite number must be 1-based: ".toList ++ name) else .ok n

/-- `sprite_filename`. -/
def spriteFilename (sheetIndex : Nat) : List Char :=
  "sprite_".toList ++ padded 3 (sheetIndex + 1) ++ ".webp".toList

inductive StoryboardPipelineError where
  | invalidConfig (message : List Char)
  | ffmpegSpawn (message : List Char)
  | ffmpegFailed (code : Option Int) (stderr : List Char)
  | emptyOutput (sheet : Nat)
  | io (message : List Char)

/-- The arguments of FFmpeg that decide what it extracts and how it writes it. -/
structure Extraction where
  skipNonKeyframes : Bool
  startSecs : Nat
  windowSecs : Nat
  filter : List Char
  quality : Nat

/-- The arguments of `invoke_ffmpeg_for_sheet`. -/
def GenerationConfig.extraction (config : GenerationConfig) (startSecs windowSecs : Nat) : Extraction where
  skipNonKeyframes := config.keyframeOnly
  startSecs := startSecs
  windowSecs := windowSecs
  filter := "fps=1/".toList ++ decimal config.intervalSeconds ++ ",scale=".toList ++ decimal config.width ++
    ":trunc(ow/a/2)*2,tile=".toList ++ decimal config.spriteColumns ++ 'x' :: decimal config.spriteRows
  quality := config.quality

/-- A file that was written for a sheet, with the window that it was asked for. -/
structure SpriteFile where
  name : List Char
  startSecs : Nat
  windowSecs : Nat
  bytes : List UInt8

/-- The result, with the text of `index.vtt`. -/
structure GenerationResult where
  spriteFiles : List SpriteFile
  totalThumbnails : Nat
  height : Nat
  totalSizeBytes : Nat
  index : List Char

section Generation
variable (ffmpeg : Extraction → Except StoryboardPipelineError (List UInt8))

/-- `invoke_ffmpeg_for_sheet`, with the bytes that it leaves in the file. -/
def invokeFfmpegForSheet (config : GenerationConfig) (startSecs windowSecs : Nat) :
    Except StoryboardPipelineError (List UInt8) := do
  let bytes ← ffmpeg (config.extraction startSecs windowSecs)
  if bytes = [] then throw (.emptyOutput 0)
  return bytes

/-- The file of a sheet; its window is computed in 32 bits. -/
def sheetFile (layout : SpriteLayout) (config : GenerationConfig) (sheetIndex : Nat) :
    Except StoryboardPipelineError SpriteFile := do
  let startSecs := sheetIndex * layout.thumbnailsPerSheet * config.intervalSeconds % 2 ^ 32
  let windowSecs := layout.thumbnailsInSheet sheetIndex * config.intervalSeconds % 2 ^ 32
  let bytes ← invokeFfmpegForSheet ffmpeg config startSecs windowSecs
  return ⟨spriteFilename sheetIndex, startSecs, windowSecs, bytes⟩

/-- The height after one more sheet: the first that is not zero. A panic of the reader is none. -/
def realisedHeight (height : Option Nat) (file : SpriteFile) : Option Nat :=
  height.bind fun height => if height = 0 then inspectSpriteHeight file.bytes else some height

/-- `generate_storyboard`; the outer option is none where the height's reader panics. -/
def generateStoryboard (duration : Nat) (config : GenerationConfig) :
    Option (Except StoryboardPipelineError GenerationResult) :=
  match config.validate with
  | .error message => some (.error (.invalidConfig message))
  | .ok () =>
    let layout := computeSpriteLayout duration config.intervalSeconds config.spriteColumns config.spriteRows
    match (List.range layout.totalSheets).mapM (sheetFile ffmpeg layout config) with
    | .error error => some (.error error)
    | .ok files => do
      let height ← files.foldl realisedHeight (some 0)
      if files = [] then return .error (.emptyOutput 0)
      return .ok
        { spriteFiles := files
          totalThumbnails := layout.totalThumbnails
          height
          totalSizeBytes := (files.map fun file => file.bytes.length).sum
          index := buildWebvttIndex layout config.intervalSeconds duration config.width height config.spriteColumns
            spriteFilename }

end Generation

section Layout
variable {config : GenerationConfig} {duration : Nat}

/-- The layout that `generate_storyboard` computes. -/
def GenerationConfig.layout (config : GenerationConfig) (duration : Nat) : SpriteLayout :=
  computeSpriteLayout duration config.intervalSeconds config.spriteColumns config.spriteRows

/-- The ranges of a valid configuration. -/
structure GenerationConfig.Valid (config : GenerationConfig) : Prop where
  width : 0 < config.width
  interval : 2 ≤ config.intervalSeconds ∧ config.intervalSeconds ≤ 120
  columns : 1 ≤ config.spriteColumns ∧ config.spriteColumns ≤ 20
  rows : 1 ≤ config.spriteRows ∧ config.spriteRows ≤ 40

theorem valid_of_validate (valid : config.validate = .ok ()) : config.Valid := by
  unfold GenerationConfig.validate at valid
  split at valid
  · cases valid
  rename_i width
  split at valid
  · cases valid
  rename_i interval
  split at valid
  · cases valid
  split at valid
  · cases valid
  rename_i grid
  have wide : 0 < config.width := by omega
  exact ⟨wide, not_not.mp interval, not_not.mp (not_or.mp grid).1, not_not.mp (not_or.mp grid).2⟩

theorem perSheet_eq (valid : config.Valid) (duration : Nat) :
    (config.layout duration).thumbnailsPerSheet = config.spriteColumns * config.spriteRows := by
  have few : config.spriteColumns * config.spriteRows ≤ 20 * 40 := Nat.mul_le_mul valid.columns.2 valid.rows.2
  have some : 1 * 1 ≤ config.spriteColumns * config.spriteRows := Nat.mul_le_mul valid.columns.1 valid.rows.1
  simp only [GenerationConfig.layout, computeSpriteLayout]
  omega

/-- The thumbnails are those of the intervals that begin before the end, and at least one. -/
theorem total_bounds (valid : config.Valid) (duration : Nat) : 1 ≤ (config.layout duration).totalThumbnails ∧
    duration ≤ (config.layout duration).totalThumbnails * config.intervalSeconds ∧
    ((config.layout duration).totalThumbnails - 1) * config.intervalSeconds ≤ duration := by
  have positive : 0 < config.intervalSeconds := by have := valid.interval; omega
  have interval : max config.intervalSeconds 1 = config.intervalSeconds := by omega
  simp only [GenerationConfig.layout, computeSpriteLayout, interval]
  split
  · rename_i zero
    subst zero
    simp
  · rename_i some
    have upper := Nat.div_mul_le_self (duration + config.intervalSeconds - 1) config.intervalSeconds
    have lower := Nat.lt_div_mul_add positive (a := duration + config.intervalSeconds - 1)
    have one := Nat.div_pos (show config.intervalSeconds ≤ duration + config.intervalSeconds - 1 by omega) positive
    refine ⟨one, by omega, ?_⟩
    rw [Nat.sub_mul]
    omega

/-- There are no more thumbnails than the intervals that the duration takes. -/
theorem total_le_iff (valid : config.Valid) (some : 0 < n) :
    (config.layout duration).totalThumbnails ≤ n ↔ duration ≤ n * config.intervalSeconds := by
  have positive : 0 < config.intervalSeconds := by have := valid.interval; omega
  have interval : max config.intervalSeconds 1 = config.intervalSeconds := by omega
  simp only [GenerationConfig.layout, computeSpriteLayout, interval]
  split
  · rename_i zero
    exact iff_of_true some (zero ▸ Nat.zero_le _)
  · rw [Nat.div_le_iff_le_mul_add_pred positive, Nat.mul_comm n]
    omega

theorem perSheet_pos (config : GenerationConfig) (duration : Nat) :
    0 < (config.layout duration).thumbnailsPerSheet := by
  simp only [GenerationConfig.layout, computeSpriteLayout]
  omega

theorem lt_totalSheets_iff (valid : config.Valid) :
    sheet < (config.layout duration).totalSheets ↔
      sheet * (config.layout duration).thumbnailsPerSheet < (config.layout duration).totalThumbnails := by
  have sheets : (config.layout duration).totalSheets =
      max ((config.layout duration).totalThumbnails / (config.layout duration).thumbnailsPerSheet +
        if 0 < (config.layout duration).totalThumbnails % (config.layout duration).thumbnailsPerSheet then 1
        else 0) 1 := rfl
  have some := (total_bounds valid duration).1
  have positive := perSheet_pos config duration
  rw [sheets]
  generalize (config.layout duration).totalThumbnails = total at some
  generalize (config.layout duration).thumbnailsPerSheet = per at positive
  have whole := Nat.div_add_mod total per
  split
  · rename_i partly
    have ceiling : max (total / per + 1) 1 = total / per + 1 := Nat.max_eq_left (Nat.le_add_left 1 _)
    rw [ceiling, Nat.lt_succ_iff, Nat.le_div_iff_mul_le positive]
    constructor
    · intro within
      rcases Nat.lt_or_eq_of_le within with less | same
      · exact less
      · rw [← same, Nat.mul_mod_left] at partly
        omega
    · exact Nat.le_of_lt
  · rename_i full
    have filled : per * (total / per) = total := by omega
    have one : 0 < total / per := Nat.div_pos (Nat.le_of_dvd some ⟨total / per, filled.symm⟩) positive
    have ceiling : max (total / per + 0) 1 = total / per := Nat.max_eq_left one
    rw [ceiling]
    conv_rhs => rw [← filled, Nat.mul_comm per]
    exact (Nat.mul_lt_mul_right positive).symm

/-- Where a thumbnail falls on its sheet, within the sheet's window. -/
theorem place_lt (shown : i < (config.layout duration).totalThumbnails) :
    i % (config.layout duration).thumbnailsPerSheet <
      (config.layout duration).thumbnailsInSheet (i / (config.layout duration).thumbnailsPerSheet) := by
  have positive := perSheet_pos config duration
  have last : (config.layout duration).lastSheetThumbnails =
      (config.layout duration).totalThumbnails % (config.layout duration).thumbnailsPerSheet := rfl
  have full : (config.layout duration).fullSheets =
      (config.layout duration).totalThumbnails / (config.layout duration).thumbnailsPerSheet := rfl
  unfold SpriteLayout.thumbnailsInSheet
  rw [last, full]
  generalize (config.layout duration).totalThumbnails = total at shown
  generalize (config.layout duration).thumbnailsPerSheet = per at positive
  split
  · exact Nat.mod_lt i positive
  · rename_i rest
    have sheet : i / per = total / per := by
      have upper := Nat.div_le_div_right (c := per) (Nat.le_of_lt shown)
      omega
    have whole := Nat.div_add_mod total per
    have place := Nat.div_add_mod i per
    rw [sheet] at place
    omega

/-- The window of a sheet begins with its first thumbnail, and nothing overflows. -/
theorem window_exact (valid : config.Valid) (fits : duration < 2 ^ 32)
    (written : sheet < (config.layout duration).totalSheets) :
    sheet * (config.layout duration).thumbnailsPerSheet * config.intervalSeconds % 2 ^ 32 =
        sheet * (config.layout duration).thumbnailsPerSheet * config.intervalSeconds ∧
      (config.layout duration).thumbnailsInSheet sheet * config.intervalSeconds % 2 ^ 32 =
        (config.layout duration).thumbnailsInSheet sheet * config.intervalSeconds := by
  have first := (lt_totalSheets_iff valid).mp written
  obtain ⟨-, -, ending⟩ := total_bounds valid duration
  have start : sheet * (config.layout duration).thumbnailsPerSheet * config.intervalSeconds ≤ duration :=
    le_trans (Nat.mul_le_mul_right _ (Nat.le_sub_one_of_lt first)) ending
  have few : (config.layout duration).thumbnailsInSheet sheet ≤ (config.layout duration).thumbnailsPerSheet := by
    unfold SpriteLayout.thumbnailsInSheet
    split
    · exact le_rfl
    · exact Nat.le_of_lt (Nat.mod_lt _ (perSheet_pos config duration))
  have grid : (config.layout duration).thumbnailsPerSheet ≤ 20 * 40 :=
    perSheet_eq valid duration ▸ Nat.mul_le_mul valid.columns.2 valid.rows.2
  have window := Nat.mul_le_mul (few.trans grid) valid.interval.2
  exact ⟨Nat.mod_eq_of_lt (by omega), Nat.mod_eq_of_lt (by omega)⟩

end Layout

section Names

theorem padded_length_le (some : 0 < width) (most : width ≤ 4) : (padded width n).length ≤ 4 ↔ n < 10 ^ 4 := by
  rw [padded, List.length_append, List.length_replicate, ← Nat.length_toDigits_le_iff (by decide : 1 < 10) (by decide)]
  omega

theorem byteLength_digits (digits : ∀ c ∈ text, c.isDigit = true) : byteLength text = text.length := by
  induction text with
  | nil => rfl
  | cons c _ ih =>
    have later := ih fun d member => digits d (List.mem_cons_of_mem c member)
    have one := utf8Size_of_isDigit (digits c List.mem_cons_self)
    simp only [byteLength, List.map_cons, List.sum_cons, List.length_cons, one] at later ⊢
    omega

/-- The name of a sheet has one dot and no separator. -/
theorem spriteFilename_plain (sheet : Nat) :
    spriteFilename sheet ≠ [] ∧ ¬('/' ∈ spriteFilename sheet ∨ '\\' ∈ spriteFilename sheet) ∧
    ¬['.', '.'] <:+: spriteFilename sheet := by
  have absent (c : Char) (other : c.isDigit = false) : c ∉ padded 3 (sheet + 1) := not_mem_padded other
  refine ⟨?_, ?_, fun within => ?_⟩
  · unfold spriteFilename
    intro empty
    cases List.append_eq_nil_iff.mp (List.append_eq_nil_iff.mp empty).1 |>.1
  · unfold spriteFilename
    simp only [List.mem_append]
    rintro (((head | digits) | last) | ((head | digits) | last))
    · exact absurd head (by decide)
    · exact absent '/' (by decide) digits
    · exact absurd last (by decide)
    · exact absurd head (by decide)
    · exact absent '\\' (by decide) digits
    · exact absurd last (by decide)
  · have twice := within.sublist.count_le '.'
    unfold spriteFilename at twice
    rw [List.count_append, List.count_append, List.count_eq_zero_of_not_mem (absent '.' (by decide))] at twice
    exact absurd twice (by decide)

/-- What is left of a name to its checks is its number. -/
theorem validate_spriteFilename_eq (sheet : Nat) : validateSpriteFilename (spriteFilename sheet) =
    if padded 3 (sheet + 1) = [] ∨ 4 < byteLength (padded 3 (sheet + 1)) then
      .error ("sprite number must be 1-4 digits: ".toList ++ spriteFilename sheet)
    else if ¬((padded 3 (sheet + 1)).all Char.isDigit) = true then
      .error ("sprite number must be ASCII digits: ".toList ++ spriteFilename sheet)
    else match parseBelow (2 ^ 32) (padded 3 (sheet + 1)) with
      | none => .error ("sprite number out of range: ".toList ++ spriteFilename sheet)
      | some n =>
        if n = 0 then .error ("sprite number must be 1-based: ".toList ++ spriteFilename sheet) else .ok n := by
  obtain ⟨filled, bare, single⟩ := spriteFilename_plain sheet
  have last : stripSuffix ".webp".toList (spriteFilename sheet) = some ("sprite_".toList ++ padded 3 (sheet + 1)) :=
    stripSuffix_eq_some.mpr rfl
  have head : stripPrefix "sprite_".toList ("sprite_".toList ++ padded 3 (sheet + 1)) = some (padded 3 (sheet + 1)) :=
    stripPrefix_eq_some.mpr rfl
  unfold validateSpriteFilename
  rw [if_neg filled, if_neg bare, if_neg single, last]
  simp only [head]

/-- The names of the first 9999 sheets are accepted. -/
theorem validate_spriteFilename (fits : sheet + 1 < 2 ^ 32) :
    validateSpriteFilename (spriteFilename sheet) =
      if sheet + 1 ≤ 9999 then .ok (sheet + 1)
      else .error ("sprite number must be 1-4 digits: ".toList ++ spriteFilename sheet) := by
  have digits : ∀ c ∈ padded 3 (sheet + 1), c.isDigit = true := fun c member => isDigit_of_mem_padded member
  have size := padded_length_le (n := sheet + 1) (show 0 < 3 by decide) (by decide)
  rw [validate_spriteFilename_eq, byteLength_digits digits]
  by_cases short : sheet + 1 ≤ 9999
  · have few : (padded 3 (sheet + 1)).length ≤ 4 := size.mpr (by omega)
    rw [if_pos short, if_neg (not_or.mpr ⟨padded_ne_nil 3 _, by omega⟩),
      if_neg (not_not.mpr (List.all_eq_true.mpr digits)), parse_padded fits]
    exact if_neg (Nat.succ_ne_zero sheet)
  · have many : 4 < (padded 3 (sheet + 1)).length := Nat.lt_of_not_le (mt size.mp (by omega))
    rw [if_neg short, if_pos (.inr many)]

end Names

/-! ## The index -/

/-- The cell that FFmpeg's tile filter fills with the k-th frame, for thumbnails of a height. -/
def GenerationConfig.cell (config : GenerationConfig) (thumbnailHeight k : Nat) : Region :=
  ⟨k % config.spriteColumns * config.width, k / config.spriteColumns * thumbnailHeight, config.width, thumbnailHeight⟩

/-- The sheets of a layout are lossy images of the whole grid. -/
def Tiles (ffmpeg : Extraction → Except StoryboardPipelineError (List UInt8)) (config : GenerationConfig)
    (duration thumbnailHeight : Nat) : Prop :=
  let layout := config.layout duration
  ∀ sheet < layout.totalSheets, ∃ image : WebpFile,
    (∃ tag horizontal vertical, image.frame = .lossy tag horizontal vertical) ∧
    image.width = config.spriteColumns * config.width ∧ image.height = config.spriteRows * thumbnailHeight ∧
    ffmpeg (config.extraction (sheet * layout.thumbnailsPerSheet * config.intervalSeconds)
      (layout.thumbnailsInSheet sheet * config.intervalSeconds)) = .ok image.bytes

/-- The cues of an index that shows each frame where FFmpeg puts it, without a gap. -/
structure Faithful (config : GenerationConfig) (duration thumbnailHeight : Nat) (result : GenerationResult)
    (cues : List Cue) : Prop where
  count : cues.length = result.totalThumbnails
  first : ∃ cue, cues.head? = some cue ∧ cue.startSecs = 0
  contiguous : ∀ (i : Nat) (a b : Cue), cues[i]? = some a → cues[i + 1]? = some b → a.endSecs = b.startSecs
  covers : ∃ cue, cues.getLast? = some cue ∧ duration ≤ cue.endSecs
  shows : ∀ (i : Nat) (cue : Cue), cues[i]? = some cue →
    ∃ file ∈ result.spriteFiles, file.name = spriteFilename cue.sheet ∧
    ∃ k, file.startSecs + k * config.intervalSeconds = i * config.intervalSeconds ∧
      k * config.intervalSeconds < file.windowSecs ∧ cue.region = config.cell thumbnailHeight k
  inside : ∀ cue ∈ cues, cue.region.x + cue.region.width ≤ config.spriteColumns * config.width ∧
    cue.region.y + cue.region.height ≤ config.spriteRows * thumbnailHeight
  apart : ∀ (i j : Nat) (a b : Cue), cues[i]? = some a → cues[j]? = some b →
    spriteFilename a.sheet = spriteFilename b.sheet → a.region = b.region → i = j
  named : ∀ cue ∈ cues, ∃ n, validateSpriteFilename (spriteFilename cue.sheet) = .ok n

section Index
variable {ffmpeg : Extraction → Except StoryboardPipelineError (List UInt8)} {config : GenerationConfig}
  {duration thumbnailHeight : Nat}

/-- Where each call succeeds, all of them do. -/
theorem mapM_ok {ε α β : Type} {f : α → Except ε β} {holds : α → β → Prop} {items : List α}
    (each : ∀ x ∈ items, ∃ y, f x = .ok y ∧ holds x y) :
    ∃ results, items.mapM f = .ok results ∧ List.Forall₂ holds items results := by
  induction items with
  | nil => exact ⟨[], rfl, .nil⟩
  | cons x items ih =>
    obtain ⟨y, made, fine⟩ := each x List.mem_cons_self
    obtain ⟨results, rest, all⟩ := ih fun x member => each x (List.mem_cons_of_mem _ member)
    refine ⟨y :: results, ?_, .cons fine all⟩
    rw [List.mapM_cons, made]
    show (items.mapM f >>= fun results => pure (y :: results)) = _
    rw [rest]
    rfl

theorem realisedHeight_stays (some : height ≠ 0) (files : List SpriteFile) :
    files.foldl realisedHeight (Option.some height) = Option.some height := by
  induction files with
  | nil => rfl
  | cons file _ ih =>
    have same : realisedHeight (Option.some height) file = Option.some height := if_neg some
    rw [List.foldl_cons, same, ih]

/-- A file of a sheet. -/
structure OfSheet (config : GenerationConfig) (duration thumbnailHeight sheet : Nat) (file : SpriteFile) : Prop where
  name : file.name = spriteFilename sheet
  start : file.startSecs = sheet * (config.layout duration).thumbnailsPerSheet * config.intervalSeconds
  window : file.windowSecs = (config.layout duration).thumbnailsInSheet sheet * config.intervalSeconds
  height : inspectSpriteHeight file.bytes = some (config.spriteRows * thumbnailHeight)
  grid : 0 < config.spriteRows * thumbnailHeight

theorem sheetFile_ok (valid : config.Valid) (fits : duration < 2 ^ 32)
    (tiles : Tiles ffmpeg config duration thumbnailHeight) (within : sheet < (config.layout duration).totalSheets) :
    ∃ file, sheetFile ffmpeg (config.layout duration) config sheet = .ok file ∧
      OfSheet config duration thumbnailHeight sheet file := by
  obtain ⟨image, ⟨tag, horizontal, vertical, lossy⟩, -, tall, wrote⟩ := tiles sheet within
  obtain ⟨start, window⟩ := window_exact valid fits within
  have height := tall ▸ lossy_read lossy
  refine ⟨⟨spriteFilename sheet, _, _, image.bytes⟩, ?_, ⟨rfl, rfl, rfl, height, tall ▸ image.heightFits.1⟩⟩
  have filled : image.bytes ≠ [] := by simp [WebpFile.bytes, riff]
  unfold sheetFile invokeFfmpegForSheet
  simp only [start, window, wrote, bind, Except.bind, if_neg filled]
  rfl

theorem totalSheets_pos (config : GenerationConfig) (duration : Nat) : 0 < (config.layout duration).totalSheets := by
  simp only [GenerationConfig.layout, computeSpriteLayout]
  omega

/-- What `generate_storyboard` leaves: a file for each sheet, and an index with the height of the
whole sheet. -/
structure Generated (config : GenerationConfig) (duration thumbnailHeight : Nat)
    (result : GenerationResult) : Prop where
  files : ∀ sheet < (config.layout duration).totalSheets, ∃ file ∈ result.spriteFiles,
    OfSheet config duration thumbnailHeight sheet file
  total : result.totalThumbnails = (config.layout duration).totalThumbnails
  height : result.height = config.spriteRows * thumbnailHeight
  index : result.index = buildWebvttIndex (config.layout duration) config.intervalSeconds duration config.width
    result.height config.spriteColumns spriteFilename

theorem generated (valid : config.validate = .ok ()) (fits : duration < 2 ^ 32)
    (tiles : Tiles ffmpeg config duration thumbnailHeight) :
    ∃ result, generateStoryboard ffmpeg duration config = some (.ok result) ∧
      Generated config duration thumbnailHeight result := by
  obtain ⟨files, made, each⟩ := mapM_ok fun sheet (member : sheet ∈ List.range (config.layout duration).totalSheets) =>
    sheetFile_ok (valid_of_validate valid) fits tiles (List.mem_range.mp member)
  have ofSheet : ∀ sheet < (config.layout duration).totalSheets, ∃ file ∈ files,
      OfSheet config duration thumbnailHeight sheet file :=
    fun sheet within => exists_of_forall₂ each (List.mem_range.mpr within)
  obtain ⟨last, sheets⟩ := Nat.exists_eq_succ_of_ne_zero (Nat.ne_of_gt (totalSheets_pos config duration))
  rw [sheets, List.range_succ_eq_map] at each
  obtain _ | @⟨_, first, _, rest, head, -⟩ := each
  have heights : (first :: rest).foldl realisedHeight (some 0) = some (config.spriteRows * thumbnailHeight) := by
    have once : realisedHeight (some 0) first = some (config.spriteRows * thumbnailHeight) := by
      rw [← head.height]
      rfl
    rw [List.foldl_cons, once, realisedHeight_stays (Nat.ne_of_gt head.grid)]
  have result : generateStoryboard ffmpeg duration config = some (.ok
      { spriteFiles := first :: rest
        totalThumbnails := (config.layout duration).totalThumbnails
        height := config.spriteRows * thumbnailHeight
        totalSizeBytes := ((first :: rest).map fun file => file.bytes.length).sum
        index := buildWebvttIndex (config.layout duration) config.intervalSeconds duration config.width
          (config.spriteRows * thumbnailHeight) config.spriteColumns spriteFilename }) := by
    unfold generateStoryboard
    rw [valid]
    unfold GenerationConfig.layout at made heights
    simp only [made, heights]
    rfl
  exact ⟨_, result, ⟨ofSheet, rfl, rfl, rfl⟩⟩

/-- The cues of the index that is written. -/
def GenerationConfig.cues (config : GenerationConfig) (duration : Nat) (result : GenerationResult) : List Cue :=
  (config.layout duration).cues config.intervalSeconds duration config.width result.height config.spriteColumns

variable {result : GenerationResult}

theorem cue_at (found : (config.cues duration result)[i]? = some cue) :
    i < (config.layout duration).totalThumbnails ∧ cue = (config.layout duration).cue config.intervalSeconds duration
      config.width result.height config.spriteColumns i := by
  rw [GenerationConfig.cues, SpriteLayout.cues, List.getElem?_map, Option.map_eq_some_iff] at found
  obtain ⟨j, inside, rfl⟩ := found
  obtain ⟨within, rfl⟩ := List.getElem?_eq_some_iff.mp inside
  rw [List.getElem_range]
  rw [List.length_range] at within
  exact ⟨within, rfl⟩

theorem cue_at_of_lt (within : i < (config.layout duration).totalThumbnails) :
    (config.cues duration result)[i]? = some ((config.layout duration).cue config.intervalSeconds duration
      config.width result.height config.spriteColumns i) := by
  rw [GenerationConfig.cues, SpriteLayout.cues, List.getElem?_map, List.getElem?_range within]
  rfl

theorem cue_eq (valid : config.Valid) (height i : Nat) :
    (config.layout duration).cue config.intervalSeconds duration config.width height config.spriteColumns i =
      { startSecs := i * config.intervalSeconds
        endSecs := if i + 1 = (config.layout duration).totalThumbnails then max duration
          ((i + 1) * config.intervalSeconds)
          else (i + 1) * config.intervalSeconds
        sheet := i / (config.layout duration).thumbnailsPerSheet
        region := config.cell height (i % (config.layout duration).thumbnailsPerSheet) } := by
  have interval : max config.intervalSeconds 1 = config.intervalSeconds := by have := valid.interval; omega
  have columns : max config.spriteColumns 1 = config.spriteColumns := by have := valid.columns; omega
  have perSheet : max (config.layout duration).thumbnailsPerSheet 1 = (config.layout duration).thumbnailsPerSheet := by
    have := perSheet_pos config duration
    omega
  simp only [SpriteLayout.cue, interval, columns, perSheet, GenerationConfig.cell]

theorem cues_length (config : GenerationConfig) (duration : Nat) (result : GenerationResult) :
    (config.cues duration result).length = (config.layout duration).totalThumbnails := by
  rw [GenerationConfig.cues, SpriteLayout.cues, List.length_map, List.length_range]

section
variable (valid : config.Valid)
include valid

/-- Each cue ends where the next one begins. -/
theorem cues_contiguous (before : (config.cues duration result)[i]? = some a)
    (after : (config.cues duration result)[i + 1]? = some b) : a.endSecs = b.startSecs := by
  obtain ⟨-, rfl⟩ := cue_at before
  obtain ⟨within, rfl⟩ := cue_at after
  rw [cue_eq valid, cue_eq valid]
  exact if_neg (Nat.ne_of_lt within)

theorem cues_first : ∃ cue, (config.cues duration result).head? = some cue ∧ cue.startSecs = 0 := by
  refine ⟨_, List.head?_eq_getElem? ▸ cue_at_of_lt (total_bounds valid duration).1, ?_⟩
  rw [cue_eq valid]
  exact Nat.zero_mul _

theorem cues_cover : ∃ cue, (config.cues duration result).getLast? = some cue ∧ duration ≤ cue.endSecs := by
  have one := (total_bounds valid duration).1
  have last : (config.layout duration).totalThumbnails - 1 < (config.layout duration).totalThumbnails := by omega
  refine ⟨_, by rw [List.getLast?_eq_getElem?, cues_length]; exact cue_at_of_lt last, ?_⟩
  rw [cue_eq valid]
  show duration ≤ if _ then _ else _
  rw [if_pos (Nat.sub_add_cancel one)]
  exact Nat.le_max_left _ _

theorem cue_sheet (shown : i < (config.layout duration).totalThumbnails) :
    i / (config.layout duration).thumbnailsPerSheet < (config.layout duration).totalSheets :=
  (lt_totalSheets_iff valid).mpr (Nat.lt_of_le_of_lt (Nat.div_mul_le_self _ _) shown)

/-- The index is faithful for one row, as long as the numbers of the sheets have four digits. -/
theorem faithful_of (made : Generated config duration thumbnailHeight result)
    (row : config.spriteRows = 1)
    (short : duration ≤ 9999 * config.spriteColumns * config.intervalSeconds) :
    Faithful config duration thumbnailHeight result (config.cues duration result) := by
  have perSheet := perSheet_eq valid duration
  rw [row, Nat.mul_one] at perSheet
  have height : result.height = thumbnailHeight := by rw [made.height, row, Nat.one_mul]
  have columns : 0 < config.spriteColumns := valid.columns.1
  have numbered {i : Nat} (shown : i < (config.layout duration).totalThumbnails) :
      validateSpriteFilename (spriteFilename (i / config.spriteColumns)) = .ok (i / config.spriteColumns + 1) := by
    have total := (total_le_iff valid (by omega)).mpr short
    have few : i / config.spriteColumns + 1 ≤ 9999 :=
      (Nat.div_lt_iff_lt_mul columns).mpr (Nat.lt_of_lt_of_le shown total)
    rw [validate_spriteFilename (by omega), if_pos few]
  exact {
    count := (cues_length config duration result).trans made.total.symm
    first := cues_first valid
    contiguous := fun i a b => cues_contiguous valid
    covers := cues_cover valid
    shows := by
      intro i cue found
      obtain ⟨shown, rfl⟩ := cue_at found
      obtain ⟨file, member, ofSheet⟩ := made.files _ (cue_sheet valid shown)
      rw [cue_eq valid]
      refine ⟨file, member, ofSheet.name, i % (config.layout duration).thumbnailsPerSheet, ?_, ?_, ?_⟩
      · rw [ofSheet.start, ← Nat.add_mul, Nat.div_add_mod']
      · rw [ofSheet.window]
        exact Nat.mul_lt_mul_of_pos_right (place_lt shown) (by have := valid.interval; omega)
      · rw [height]
    inside := by
      intro cue member
      obtain ⟨i, found⟩ := List.getElem?_of_mem member
      obtain ⟨-, rfl⟩ := cue_at found
      rw [cue_eq valid, perSheet, height, row]
      have column := Nat.mul_le_mul_right config.width (Nat.succ_le_of_lt (Nat.mod_lt i columns))
      rw [Nat.succ_mul] at column
      simp [GenerationConfig.cell, Nat.div_eq_of_lt (Nat.mod_lt i columns), column]
    apart := by
      intro i j a b first second same region
      obtain ⟨shownI, rfl⟩ := cue_at first
      obtain ⟨shownJ, rfl⟩ := cue_at second
      rw [cue_eq valid, cue_eq valid, perSheet] at same region
      have sheet : i / config.spriteColumns = j / config.spriteColumns := by
        have accepted := (numbered shownI).symm.trans (same ▸ numbered shownJ)
        exact Nat.succ.inj (Except.ok.inj accepted)
      have column : i % config.spriteColumns = j % config.spriteColumns := by
        have x := Nat.eq_of_mul_eq_mul_right valid.width (congrArg Region.x region)
        rwa [Nat.mod_mod, Nat.mod_mod] at x
      rw [← Nat.div_add_mod i config.spriteColumns, sheet, column, Nat.div_add_mod]
    named := by
      intro cue member
      obtain ⟨i, found⟩ := List.getElem?_of_mem member
      obtain ⟨shown, rfl⟩ := cue_at found
      rw [cue_eq valid, perSheet]
      exact ⟨_, numbered shown⟩ }

/-- The first region tells the number of rows, the last name the number of sheets. -/
theorem of_faithful (made : Generated config duration thumbnailHeight result)
    (faithful : Faithful config duration thumbnailHeight result (config.cues duration result)) :
    config.spriteRows = 1 ∧ duration ≤ 9999 * config.spriteColumns * config.intervalSeconds := by
  have one := (total_bounds valid duration).1
  have row : config.spriteRows = 1 := by
    obtain ⟨file, -, -, k, -, -, region⟩ := faithful.shows 0 _ (cue_at_of_lt one)
    obtain ⟨_, -, sheet⟩ := made.files 0 (totalSheets_pos config duration)
    rw [cue_eq valid, made.height] at region
    have height : config.spriteRows * thumbnailHeight = 1 * thumbnailHeight :=
      (congrArg Region.height region).trans (Nat.one_mul _).symm
    exact Nat.eq_of_mul_eq_mul_right (Nat.pos_of_mul_pos_left sheet.grid) height
  refine ⟨row, ?_⟩
  have perSheet := perSheet_eq valid duration
  rw [row, Nat.mul_one] at perSheet
  have columns : 0 < config.spriteColumns := valid.columns.1
  rw [← total_le_iff valid (by omega)]
  by_contra many
  have shown : 9999 * config.spriteColumns < (config.layout duration).totalThumbnails := Nat.lt_of_not_le many
  obtain ⟨n, accepted⟩ := faithful.named _ (List.mem_of_getElem? (cue_at_of_lt shown))
  rw [cue_eq valid, perSheet] at accepted
  simp only [Nat.mul_div_cancel _ columns] at accepted
  rw [validate_spriteFilename (by decide), if_neg (by decide)] at accepted
  cases accepted

end

end Index

/-- A storyboard is generated for every valid configuration, and its index is right for sheets of
one row whose numbers have four digits. -/
theorem index_faithful_iff (ffmpeg : Extraction → Except StoryboardPipelineError (List UInt8))
    (config : GenerationConfig)
    (duration thumbnailHeight : Nat) (valid : config.validate = .ok ()) (fits : duration < 2 ^ 32)
    (tiles : Tiles ffmpeg config duration thumbnailHeight) :
    ∃ result, generateStoryboard ffmpeg duration config = some (.ok result) ∧
      result.index = "WEBVTT\n\n".toList ++ (config.cues duration result).flatMap (Cue.text spriteFilename) ∧
      (Faithful config duration thumbnailHeight result (config.cues duration result) ↔
        config.spriteRows = 1 ∧ duration ≤ 9999 * config.spriteColumns * config.intervalSeconds) := by
  obtain ⟨result, returned, made⟩ := generated valid fits tiles
  have ranges := valid_of_validate valid
  exact ⟨result, returned, made.index, of_faithful ranges made,
    fun ⟨row, short⟩ => faithful_of ranges made row short⟩

/-- Ten thumbnails of 320 by 180 pixels in a row. -/
def sampleConfig : GenerationConfig where
  width := 320
  intervalSeconds := 10
  quality := 75
  keyframeOnly := true
  spriteColumns := 10
  spriteRows := 1

def sampleImage : WebpFile where
  width := 3200
  height := 180
  frame := .lossy 8 0 0
  data := [0, 0]
  widthFits := by decide
  heightFits := by decide

theorem sample_storyboard : ∃ result,
    generateStoryboard (fun _ => .ok sampleImage.bytes) 30 sampleConfig = some (.ok result) ∧
    result.index = "WEBVTT\n\n".toList ++ (sampleConfig.cues 30 result).flatMap (Cue.text spriteFilename) ∧
    (Faithful sampleConfig 30 180 result (sampleConfig.cues 30 result) ↔
      sampleConfig.spriteRows = 1 ∧ 30 ≤ 9999 * sampleConfig.spriteColumns * sampleConfig.intervalSeconds) :=
  index_faithful_iff _ sampleConfig 30 180 rfl (by decide)
    fun _ _ => ⟨sampleImage, ⟨8, 0, 0, rfl⟩, rfl, rfl, rfl⟩

/-- The configuration that is the default, with 10 by 20 thumbnails on a sheet. -/
def defaultConfig : GenerationConfig := { sampleConfig with spriteRows := 20 }

def defaultImage : WebpFile := { sampleImage with height := 3600, heightFits := by decide }

theorem grid_unfaithful : ¬ ∀ (ffmpeg : Extraction → Except StoryboardPipelineError (List UInt8))
    (config : GenerationConfig)
    (duration thumbnailHeight : Nat), config.validate = .ok () → duration < 2 ^ 32 →
    Tiles ffmpeg config duration thumbnailHeight →
    ∃ result, generateStoryboard ffmpeg duration config = some (.ok result) ∧
      Faithful config duration thumbnailHeight result (config.cues duration result) := by
  intro all
  have tiles : Tiles (fun _ => .ok defaultImage.bytes) defaultConfig 30 180 :=
    fun _ _ => ⟨defaultImage, ⟨8, 0, 0, rfl⟩, rfl, rfl, rfl⟩
  obtain ⟨result, returned, faithful⟩ := all _ defaultConfig 30 180 rfl (by decide) tiles
  obtain ⟨same, again, made⟩ := generated rfl (by decide) tiles
  rw [returned, Option.some.injEq, Except.ok.injEq] at again
  have row := (of_faithful (valid_of_validate rfl) (again ▸ made) faithful).1
  exact absurd row (by decide)

end Duskcue.Storyboards
