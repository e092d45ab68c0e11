import Duskcue.Subtitles

/-! Subtitles between SRT and ASS. The writer puts the text last in a line of fields with
commas between them, and the reader takes the field at the text's place: it ends at the
first comma of the text. -/
namespace Duskcue.AssSubtitles
open Text Decimals Subtitles

/-! ## Times -/

/-- `parse_timecode_to_ms`, at `u64`. -/
def parseTimecodeToMs (tc : List Char) (separator : Char) : Nat :=
  let number (text : List Char) := (parseBelow (2 ^ 64) text).getD 0
  let total (h m : Nat) (sMs : List Char) :=
    let (sStr, msStr) := (splitOnce [separator] sMs).getD (sMs, "0".toList)
    (h * 3600000 + m * 60000 + number sStr * 1000 + number msStr) % 2 ^ 64
  match (trim tc).splitOn ':' with
  | [h, m, sMs] => total (number h) (number m) sMs
  | [m, sMs] => total 0 (number m) sMs
  | _ => 0

/-- `srt_timestamp_to_ass`. -/
def srtTimestampToAss (ts : List Char) : List Char :=
  let ms := parseTimecodeToMs (trim ts) ','
  let h := ms / 3600000
  let m := ms % 3600000 / 60000
  let s := ms % 60000 / 1000
  let cs := ms % 1000 / 10
  Nat.toDigits 10 h ++ ':' :: (padded 2 m ++ ':' :: (padded 2 s ++ '.' :: padded 2 cs))

/-- `ass_timestamp_to_srt`, at `u32`. -/
def assTimestampToSrt (ts : List Char) : List Char :=
  let number (text : List Char) := (parseBelow (2 ^ 32) text).getD 0
  match (trim ts).splitOn ':' with
  | [h, m, secAndCs] =>
    let (secStr, csStr) := (splitOnce ['.'] secAndCs).getD (secAndCs, "0".toList)
    let ms := number csStr * 10 % 2 ^ 32
    padded 2 (number h) ++ ':' :: (padded 2 (number m) ++ ':' :: (padded 2 (number secStr) ++ ',' :: padded 3 ms))
  | _ => "00:00:00,000".toList

/-! ## The writer -/

/-- The sections in front of the cues. -/
def assHeader : List Char :=
  "[Script Info]\n".toList ++ "ScriptType: v4.00+\n".toList ++ "WrapStyle: 0\n\n".toList ++
  "[V4+ Styles]\n".toList ++
  "Format: Name, Fontname, Fontsize, ".toList ++ "PrimaryColour, BackColour, OutlineColour, ".toList ++
  "Bold, Italic, Underline, StrikeOut, ".toList ++ "ScaleX, ScaleY, Spacing, Angle, ".toList ++
  "BorderStyle, Outline, Shadow, ".toList ++ "Alignment, MarginL, MarginR, ".toList ++ "MarginV, Encoding\n".toList ++
  "Style: Default,Arial,20,".toList ++ "&H00FFFFFF,&H000000FF,&H00000000,".toList ++ "0,0,0,0,100,100,0,0,".toList ++
  "1,2,2,2,10,10,10,1\n\n".toList ++
  "[Events]\n".toList ++
  "Format: Layer, Start, End, Style, Name, ".toList ++ "MarginL, MarginR, MarginV, ".toList ++ "Effect, Text\n".toList

/-- `split_srt_timecode`. -/
def splitSrtTimecode (line : List Char) : Option (List Char × List Char) :=
  match split "-->".toList line with
  | [start, stop] => some (trim start, trim stop)
  | _ => none

def dialogueRow (startAss endAss text : List Char) : List Char :=
  "Dialogue: 0,".toList ++ startAss ++ ",".toList ++ endAss ++ ",Default,,0,0,0,,".toList ++ text

/-- What is written for a block. -/
def dialogueOf (block : List Char) : List Char :=
  let block := trim block
  if block.isEmpty then []
  else
    match timed block with
    | none => []
    | some (timecode, textLines) =>
      match splitSrtTimecode timecode with
      | none => []
      | some (startSrt, endSrt) =>
        let text := "\\N".toList.intercalate textLines
        dialogueRow (srtTimestampToAss startSrt) (srtTimestampToAss endSrt) text ++ ['\n']

/-- `srt_to_ass`. -/
def srtToAss (srt : List Char) : List Char := assHeader ++ (split paragraph srt).flatMap dialogueOf

/-! ## The reader -/

/-- `strip_ass_override_tags`: what stands in braces is left out. -/
def stripAssOverrideTags : Bool → List Char → List Char
  | _, [] => []
  | inTag, ch :: rest =>
    if ch = '\x7b' then stripAssOverrideTags true rest
    else if ch = '\x7d' then stripAssOverrideTags false rest
    else if inTag then stripAssOverrideTags inTag rest
    else ch :: stripAssOverrideTags inTag rest

def cleanText (text : List Char) : List Char :=
  let text := replace "\\N".toList "\n".toList text
  let text := replace "\\n".toList "\n".toList text
  let text := replace "\\h".toList " ".toList text
  stripAssOverrideTags false text

structure AssReader where
  inEvents : Bool
  startIdx : Nat
  endIdx : Nat
  textIdx : Nat
  cueNum : Nat
  output : List Char
  deriving DecidableEq

/-- Where a field named by the format stands. -/
def readField (reader : AssReader) (field : List Char × Nat) : AssReader :=
  let name := field.1.map Char.toLower
  if name = "start".toList then { reader with startIdx := field.2 }
  else if name = "end".toList then { reader with endIdx := field.2 }
  else if name = "text".toList then { reader with textIdx := field.2 }
  else reader

def readFormat (reader : AssReader) (formatSpec : List Char) : AssReader :=
  (((formatSpec.splitOn ',').map trim).zipIdx).foldl readField reader

def readDialogue (reader : AssReader) (dialogue : List Char) : AssReader :=
  let fields := dialogue.splitOn ','
  if fields.length ≤ max (max reader.textIdx reader.startIdx) reader.endIdx then reader
  else
    let start := trim (fields.getD reader.startIdx [])
    let stop := trim (fields.getD reader.endIdx [])
    let text := trim (fields.getD reader.textIdx [])
    { reader with
      output := reader.output ++ (Nat.toDigits 10 reader.cueNum ++ ['\n'] ++ assTimestampToSrt start ++ " --> ".toList ++
        assTimestampToSrt stop ++ ['\n'] ++ cleanText text ++ "\n\n".toList)
      cueNum := nextNumber reader.cueNum }

def readLine (reader : AssReader) (line : List Char) : AssReader :=
  let line := trim line
  if line.head? = some '[' ∧ line.getLast? = some ']' then
    { reader with inEvents := decide (line.map Char.toLower = "[events]".toList) }
  else if reader.inEvents = false then reader
  else
    match stripPrefix "Format:".toList line with
    | some formatSpec => readFormat reader formatSpec
    | none =>
      match stripPrefix "Dialogue:".toList line with
      | some dialogue => readDialogue reader dialogue
      | none => reader

/-- `ass_to_srt`. -/
def assToSrt (ass : List Char) : List Char :=
  ((lines ass).foldl readLine ⟨false, 1, 2, 9, 1, []⟩).output

/-! ## Times there and back -/

variable {time : Time} {c : Char}

/-- The time in whole centiseconds. -/
def floored (time : Time) : Time where
  hours := time.hours
  minutes := time.minutes
  seconds := time.seconds
  millis := time.millis / 10 * 10
  minutes_lt := time.minutes_lt
  seconds_lt := time.seconds_lt
  millis_lt := Nat.lt_of_le_of_lt (Nat.div_mul_le_self _ _) time.millis_lt

/-- How the ASS file writes a time. -/
def assTime (time : Time) : List Char :=
  padded 0 time.hours ++
    ':' :: (padded 2 time.minutes ++ ':' :: (padded 2 time.seconds ++ '.' :: padded 2 (time.millis / 10)))

theorem not_colon : ':' ∉ padded width n := not_mem_padded (by decide)

/-- Numbers between colons and a mark are taken apart again. -/
theorem split_time {widthH widthM widthS widthMs h m s ms : Nat} (mark : Char) (digit : mark.isDigit = false)
    (colon : mark ≠ ':') :
    (padded widthH h ++ ':' :: (padded widthM m ++ ':' :: (padded widthS s ++ mark :: padded widthMs ms))).splitOn ':' =
        [padded widthH h, padded widthM m, padded widthS s ++ mark :: padded widthMs ms] ∧
      splitOnce [mark] (padded widthS s ++ mark :: padded widthMs ms) = some (padded widthS s, padded widthMs ms) := by
  have last : ':' ∉ padded widthS s ++ mark :: padded widthMs ms := by
    simp only [List.mem_append, List.mem_cons, not_or]
    exact ⟨not_colon, colon.symm, not_colon⟩
  constructor
  · rw [List.splitOn_append_cons_self_of_not_mem not_colon, List.splitOn_append_cons_self_of_not_mem not_colon,
      List.splitOn_eq_singleton last]
  · exact splitOnce_char.mpr ⟨rfl, not_mem_padded digit⟩

theorem trimmed_time {widthH widthMs h ms : Nat} (middle : List Char) :
    Trimmed (padded widthH h ++ middle ++ padded widthMs ms) :=
  (trimmed_digits (padded_ne_nil _ _) fun _ => isDigit_of_mem_padded).around
    (trimmed_digits (padded_ne_nil _ _) fun _ => isDigit_of_mem_padded) middle

theorem trimmed_written (time : Time) (mark : Char) : Trimmed (time.written mark) := by
  have ends := @trimmed_time 2 3 time.hours time.millis
    (':' :: (padded 2 time.minutes ++ ':' :: (padded 2 time.seconds ++ [mark])))
  simpa [Time.written] using ends

theorem trimmed_assTime (time : Time) : Trimmed (assTime time) := by
  have ends := @trimmed_time 0 2 time.hours (time.millis / 10)
    (':' :: (padded 2 time.minutes ++ ':' :: (padded 2 time.seconds ++ ['.'])))
  simpa [assTime] using ends

/-- The milliseconds of a time. -/
def milliseconds (time : Time) : Nat :=
  time.hours * 3600000 + time.minutes * 60000 + time.seconds * 1000 + time.millis

/-- Written hours, minutes, seconds and milliseconds are read back, where they fit. -/
theorem parseTimecodeToMs_written {mark : Char} (digit : mark.isDigit = false) (colon : mark ≠ ':')
    (fits : milliseconds time < 2 ^ 64) : parseTimecodeToMs (time.written mark) mark = milliseconds time := by
  obtain ⟨parts, pair⟩ := @split_time 2 2 2 3 time.hours time.minutes time.seconds time.millis mark digit colon
  have minutes := time.minutes_lt
  have seconds := time.seconds_lt
  have millis := time.millis_lt
  have total : time.hours * 3600000 + time.minutes * 60000 + time.seconds * 1000 + time.millis < 2 ^ 64 := fits
  unfold parseTimecodeToMs
  rw [(trimmed_written time mark).2, Time.written, parts]
  simp only [pair, Option.getD_some]
  rw [parse_padded (by omega), parse_padded (by omega), parse_padded (by omega), parse_padded (by omega)]
  simp only [Option.getD_some]
  exact Nat.mod_eq_of_lt total

theorem srtTimestampToAss_written (hours : time.hours < 2 ^ 32) :
    srtTimestampToAss (time.written ',') = assTime time := by
  have minutes := time.minutes_lt
  have seconds := time.seconds_lt
  have millis := time.millis_lt
  have fits : milliseconds time < 2 ^ 64 := by
    unfold milliseconds
    omega
  unfold srtTimestampToAss assTime
  rw [(trimmed_written time ',').2, parseTimecodeToMs_written (by decide) (by decide) fits, padded_zero, milliseconds]
  have h : (time.hours * 3600000 + time.minutes * 60000 + time.seconds * 1000 + time.millis) / 3600000 =
      time.hours := by omega
  have m : (time.hours * 3600000 + time.minutes * 60000 + time.seconds * 1000 + time.millis) % 3600000 / 60000 =
      time.minutes := by omega
  have s : (time.hours * 3600000 + time.minutes * 60000 + time.seconds * 1000 + time.millis) % 60000 / 1000 =
      time.seconds := by omega
  have cs : (time.hours * 3600000 + time.minutes * 60000 + time.seconds * 1000 + time.millis) % 1000 / 10 =
      time.millis / 10 := by omega
  simp only [h, m, s, cs]

theorem assTimestampToSrt_assTime (hours : time.hours < 2 ^ 32) :
    assTimestampToSrt (assTime time) = (floored time).written ',' := by
  obtain ⟨parts, pair⟩ :=
    @split_time 0 2 2 2 time.hours time.minutes time.seconds (time.millis / 10) '.' (by decide) (by decide)
  have minutes := time.minutes_lt
  have seconds := time.seconds_lt
  have millis := time.millis_lt
  unfold assTimestampToSrt
  rw [(trimmed_assTime time).2, assTime, parts]
  simp only [pair, Option.getD_some]
  rw [parse_padded hours, parse_padded (by omega), parse_padded (by omega), parse_padded (by omega)]
  simp only [Option.getD_some]
  rw [Nat.mod_eq_of_lt (by omega)]
  rfl

/-! ## A cue as a dialogue line -/

variable {cue : Cue} {cues : List Cue}

/-- The text in one line. -/
def assText (cue : Cue) : List Char := "\\N".toList.intercalate cue.text

theorem splitSrtTimecode_timing (cue : Cue) :
    splitSrtTimecode (cue.timing ',') = some (cue.start.written ',', cue.stop.written ',') := by
  have before : '-' ∉ cue.start.written ',' ++ [' '] := by
    simp [cue.start.not_mem_written]
  have after : '-' ∉ ' ' :: cue.stop.written ',' := by
    simp [cue.stop.not_mem_written]
  have shape : cue.timing ',' =
      (cue.start.written ',' ++ [' ']) ++ '-' :: (['-', '>'] ++ ' ' :: cue.stop.written ',') := by
    simp [Cue.timing]
  have parts : split "-->".toList (cue.timing ',') = [cue.start.written ',' ++ [' '], ' ' :: cue.stop.written ','] := by
    rw [shape]
    exact (split_row before _).trans (congrArg _ (split_absent after))
  have space : [' '].all isWhitespace = true := by decide
  have start : trim (cue.start.written ',' ++ [' ']) = cue.start.written ',' :=
    trim_padded [] (trimmed_written _ _) (by simp) (List.all_eq_true.mp space)
  have stop : trim (' ' :: cue.stop.written ',') = cue.stop.written ',' := by
    have padded := @trim_padded _ [' '] [] (trimmed_written cue.stop ',') (List.all_eq_true.mp space) (by simp)
    simpa using padded
  unfold splitSrtTimecode
  rw [parts]
  simp only [start, stop]

theorem dialogueOf_block (hours : cue.start.hours < 2 ^ 32 ∧ cue.stop.hours < 2 ^ 32) :
    dialogueOf (['\n'].intercalate (cue.rows ',')) =
      dialogueRow (assTime cue.start) (assTime cue.stop) (assText cue) ++ ['\n'] := by
  obtain ⟨trimmed, read⟩ := @Cue.block_timed ',' cue (by decide)
  unfold dialogueOf
  simp only [trimmed.2, List.isEmpty_eq_false_iff.mpr trimmed.1, read, splitSrtTimecode_timing,
    srtTimestampToAss_written hours.1, srtTimestampToAss_written hours.2]
  rfl

theorem srtToAss_srt (hours : ∀ cue ∈ cues, cue.start.hours < 2 ^ 32 ∧ cue.stop.hours < 2 ^ 32) :
    srtToAss (srt .lf cues) =
      assHeader ++ cues.flatMap fun cue =>
        dialogueRow (assTime cue.start) (assTime cue.stop) (assText cue) ++ ['\n'] := by
  have ending : dialogueOf [] = [] := by decide
  unfold srtToAss srt
  rw [document_blocks (by decide), List.flatMap_append, List.flatMap_map, List.flatMap_singleton, ending,
    List.append_nil]
  congr 1
  apply List.flatMap_congr
  intro cue member
  exact dialogueOf_block (hours cue member)

/-! ## Reading a dialogue line -/

theorem comma_not_mem_assTime (time : Time) : ',' ∉ assTime time := by
  simp only [assTime, List.mem_append, List.mem_cons, not_or]
  have absent {width n : Nat} : ',' ∉ padded width n := not_mem_padded (by decide)
  exact ⟨absent, by decide, absent, by decide, absent, by decide, absent⟩

theorem dialogue_fields (start : ',' ∉ startAss) (stop : ',' ∉ endAss) (text : List Char) :
    (" 0,".toList ++ startAss ++ ",".toList ++ endAss ++ ",Default,,0,0,0,,".toList ++ text).splitOn ',' =
      [" 0".toList, startAss, endAss, "Default".toList, [], ['0'], ['0'], ['0'], []] ++ text.splitOn ',' := by
  have shape : " 0,".toList ++ startAss ++ ",".toList ++ endAss ++ ",Default,,0,0,0,,".toList ++ text =
      " 0".toList ++ ',' :: (startAss ++ ',' :: (endAss ++ ',' :: ("Default".toList ++ ',' :: ([] ++ ',' ::
        (['0'] ++ ',' :: (['0'] ++ ',' :: (['0'] ++ ',' :: ([] ++ ',' :: text)))))))) := by simp
  rw [shape, List.splitOn_append_cons_self_of_not_mem (by simp), List.splitOn_append_cons_self_of_not_mem start,
    List.splitOn_append_cons_self_of_not_mem stop]
  iterate 6 rw [List.splitOn_append_cons_self_of_not_mem (by simp)]
  rfl

/-- What the reader takes for the text: the field up to the first comma. -/
def readText (text : List Char) : List Char := trim ((text.splitOn ',').headD [])

theorem dialogueRow_eq (startAss endAss text : List Char) : dialogueRow startAss endAss text =
    "Dialogue: 0,".toList ++ startAss ++ ",".toList ++ endAss ++ ",Default,,0,0,0,,".toList ++ text := by
  unfold dialogueRow
  rfl

theorem dialogue_trimmed (startAss endAss : List Char) (trimmed : Trimmed text) :
    Trimmed (dialogueRow startAss endAss text) := by
  have first : Trimmed "D".toList := by decide
  have whole := first.around trimmed
    ("ialogue: 0,".toList ++ startAss ++ ",".toList ++ endAss ++ ",Default,,0,0,0,,".toList)
  have shape : "D".toList ++
      ("ialogue: 0,".toList ++ startAss ++ ",".toList ++ endAss ++ ",Default,,0,0,0,,".toList) ++ text =
        dialogueRow startAss endAss text := by simp [dialogueRow_eq]
  rwa [shape] at whole

theorem dialogue_single (start : '\n' ∉ startAss) (stop : '\n' ∉ endAss)
    (line : '\n' ∉ text) : '\n' ∉ dialogueRow startAss endAss text := by
  simp only [dialogueRow_eq, List.mem_append, not_or]
  refine ⟨⟨⟨⟨⟨?_, start⟩, ?_⟩, stop⟩, ?_⟩, line⟩ <;> simp

theorem readLine_dialogue (start : ',' ∉ startAss) (stop : ',' ∉ endAss)
    (trimmed : Trimmed text) (cueNum : Nat) (output : List Char) :
    readLine ⟨true, 1, 2, 9, cueNum, output⟩ (dialogueRow startAss endAss text) =
      ⟨true, 1, 2, 9, nextNumber cueNum, output ++
        (Nat.toDigits 10 cueNum ++ ['\n'] ++ assTimestampToSrt (trim startAss) ++ " --> ".toList ++
          assTimestampToSrt (trim endAss) ++ ['\n'] ++ cleanText (readText text) ++ "\n\n".toList)⟩ := by
  have head : (dialogueRow startAss endAss text).head? = some 'D' := by simp [dialogueRow_eq]
  have format : stripPrefix "Format:".toList (dialogueRow startAss endAss text) = none := by
    simp [stripPrefix, dialogueRow_eq]
  have fields : stripPrefix "Dialogue:".toList (dialogueRow startAss endAss text) =
      some (" 0,".toList ++ startAss ++ ",".toList ++ endAss ++ ",Default,,0,0,0,,".toList ++ text) :=
    stripPrefix_eq_some.mpr (by simp [dialogueRow_eq])
  obtain ⟨field, more, texts⟩ := List.exists_cons_of_ne_nil (List.splitOn_ne_nil ',' text)
  unfold readLine
  simp only [(dialogue_trimmed startAss endAss trimmed).2, head, format, fields]
  rw [if_neg (by simp), if_neg (by simp), readDialogue, dialogue_fields start stop, texts, readText, texts]
  simp

/-! ## A document there and back -/

/-- What is read back for a cue. -/
def readCue (cueNum : Nat) (cue : Cue) : List Char :=
  Nat.toDigits 10 cueNum ++ ['\n'] ++ (floored cue.start).written ',' ++ " --> ".toList ++
    (floored cue.stop).written ',' ++ ['\n'] ++ cleanText (readText (assText cue)) ++ "\n\n".toList

def readCues : Nat → List Cue → List Char
  | _, [] => []
  | cueNum, cue :: cues => readCue cueNum cue ++ readCues (nextNumber cueNum) cues

theorem trimmed_assText (cue : Cue) : Trimmed (assText cue) :=
  trimmed_intercalate _ cue.spoken fun line member => (cue.plain line member).1

theorem not_mem_intercalate {separator : List Char} (apart : c ∉ separator)
    (plain : ∀ row ∈ rows, c ∉ row) : c ∉ separator.intercalate rows := by
  induction rows with
  | nil => simp
  | cons row rows ih =>
    have first := plain row (by simp)
    have later := ih fun row member => plain row (by simp [member])
    cases rows with
    | nil => simpa using first
    | cons =>
      rw [List.intercalate_cons_cons]
      simp only [List.mem_append, not_or]
      exact ⟨⟨first, apart⟩, later⟩

theorem newline_not_mem_assTime (time : Time) : '\n' ∉ assTime time := by
  simp only [assTime, List.mem_append, List.mem_cons, not_or]
  have absent {width n : Nat} : '\n' ∉ padded width n := not_mem_padded (by decide)
  exact ⟨absent, by decide, absent, by decide, absent, by decide, absent⟩

theorem read_dialogues (hours : ∀ cue ∈ cues, cue.start.hours < 2 ^ 32 ∧ cue.stop.hours < 2 ^ 32) (cueNum : Nat)
    (output : List Char) :
    ((lines (cues.flatMap fun cue => dialogueRow (assTime cue.start) (assTime cue.stop) (assText cue) ++ ['\n'])).foldl
      readLine ⟨true, 1, 2, 9, cueNum, output⟩).output = output ++ readCues cueNum cues := by
  induction cues generalizing cueNum output with
  | nil => simp [lines_nil, readCues]
  | cons cue _ ih =>
    have bounds := hours cue (by simp)
    have trimmed := dialogue_trimmed (assTime cue.start) (assTime cue.stop) (trimmed_assText cue)
    have line : '\n' ∉ assText cue :=
      not_mem_intercalate (show '\n' ∉ "\\N".toList by simp) fun line member => (cue.plain line member).2
    have single := dialogue_single (newline_not_mem_assTime cue.start) (newline_not_mem_assTime cue.stop) line
    have read := readLine_dialogue (comma_not_mem_assTime cue.start) (comma_not_mem_assTime cue.stop)
      (trimmed_assText cue) cueNum output
    rw [(trimmed_assTime _).2, (trimmed_assTime _).2, assTimestampToSrt_assTime bounds.1,
      assTimestampToSrt_assTime bounds.2, ← readCue] at read
    rw [List.flatMap_cons, List.append_assoc, List.singleton_append, lines_line single, chomp_trimmed trimmed.2,
      List.foldl_cons, read, ih fun cue member => hours cue (by simp [member]), readCues, List.append_assoc]

/-- The header ends a line, and leaves the reader among the events, with the fields where it looks first. -/
theorem header_ended : ∃ front, assHeader = front ++ ['\n'] := by
  have final : "Effect, Text\n".toList = "Effect, Text".toList ++ ['\n'] := by decide
  unfold assHeader
  rw [final, ← List.append_assoc]
  exact ⟨_, rfl⟩

theorem header_read : (lines assHeader).foldl readLine ⟨false, 1, 2, 9, 1, []⟩ = ⟨true, 1, 2, 9, 1, []⟩ := by
  decide +kernel

theorem assToSrt_srt (hours : ∀ cue ∈ cues, cue.start.hours < 2 ^ 32 ∧ cue.stop.hours < 2 ^ 32) :
    assToSrt (srtToAss (srt .lf cues)) = readCues 1 cues := by
  obtain ⟨front, ended⟩ := header_ended
  have read := header_read
  rw [srtToAss_srt hours, assToSrt]
  rw [ended] at read ⊢
  rw [List.append_assoc, List.singleton_append, lines_append, List.foldl_append, read, read_dialogues hours,
    List.nil_append]

/-! ## The text -/

theorem stripAssOverrideTags_bare (bare : '\x7b' ∉ text ∧ '\x7d' ∉ text) :
    stripAssOverrideTags false text = text := by
  induction text with
  | nil => rfl
  | cons _ _ ih =>
    simp only [List.mem_cons, not_or] at bare
    rw [stripAssOverrideTags, if_neg (fun same => bare.1.1 same.symm), if_neg (fun same => bare.2.1 same.symm),
      if_neg (by simp), ih ⟨bare.1.2, bare.2.2⟩]

theorem stripAssOverrideTags_subset (inTag : Bool) (text : List Char) : stripAssOverrideTags inTag text ⊆ text := by
  induction text generalizing inTag with
  | nil => simp [stripAssOverrideTags]
  | cons _ _ ih =>
    rw [stripAssOverrideTags]
    split
    · exact List.subset_cons_of_subset _ (ih _)
    split
    · exact List.subset_cons_of_subset _ (ih _)
    split
    · exact List.subset_cons_of_subset _ (ih _)
    · exact List.cons_subset_cons _ (ih _)

theorem comma_not_mem_readText (text : List Char) : ',' ∉ cleanText (readText text) := by
  have field : ',' ∉ readText text := by
    intro member
    obtain ⟨first, more, shape⟩ := List.exists_cons_of_ne_nil (List.splitOn_ne_nil ',' text)
    have within := trim_subset _ member
    rw [shape, List.headD_cons] at within
    have among : first ∈ text.splitOn ',' := by simp [shape]
    exact not_mem_of_mem_splitOn among within
  have broken : ',' ∉ replace "\\N".toList "\n".toList (readText text) :=
    not_mem_replace (by simp) (by simp) (by simp) field
  have small : ',' ∉ replace "\\n".toList "\n".toList (replace "\\N".toList "\n".toList (readText text)) :=
    not_mem_replace (by simp) (by simp) (by simp) broken
  have hard : ',' ∉ replace "\\h".toList " ".toList
      (replace "\\n".toList "\n".toList (replace "\\N".toList "\n".toList (readText text))) :=
    not_mem_replace (by simp) (by simp) (by simp) small
  intro member
  exact hard (stripAssOverrideTags_subset _ _ member)

/-- Text without commas, braces and backslashes comes back line for line. -/
theorem cleanText_assText (commas : ∀ line ∈ cue.text, ',' ∉ line)
    (bare : ∀ line ∈ cue.text, '\x7b' ∉ line ∧ '\x7d' ∉ line ∧ '\\' ∉ line) :
    cleanText (readText (assText cue)) = ['\n'].intercalate cue.text := by
  have comma : ',' ∉ assText cue := not_mem_intercalate (by simp) commas
  have whole : readText (assText cue) = assText cue := by
    rw [readText, List.splitOn_eq_singleton comma, List.headD_cons, (trimmed_assText cue).2]
  have joined : replace "\\N".toList "\n".toList (assText cue) = ['\n'].intercalate cue.text :=
    replace_intercalate fun line member => (bare line member).2.2
  have backslash : '\\' ∉ ['\n'].intercalate cue.text :=
    not_mem_intercalate (by simp) fun line member => (bare line member).2.2
  have small : replace "\\n".toList "\n".toList (['\n'].intercalate cue.text) = ['\n'].intercalate cue.text :=
    replace_absent backslash _
  have hard : replace "\\h".toList " ".toList (['\n'].intercalate cue.text) = ['\n'].intercalate cue.text :=
    replace_absent backslash _
  rw [whole, cleanText]
  simp only [joined, small, hard]
  apply stripAssOverrideTags_bare
  exact ⟨not_mem_intercalate (by simp) fun line member => (bare line member).1,
    not_mem_intercalate (by simp) fun line member => (bare line member).2.1⟩

/-- The cue with its times in whole centiseconds. -/
def flooredCue (cueNum : Nat) (cue : Cue) : Cue :=
  { cue.withNumber cueNum with start := floored cue.start, stop := floored cue.stop }

def flooredCues : Nat → List Cue → List Cue
  | _, [] => []
  | cueNum, cue :: cues => flooredCue cueNum cue :: flooredCues (nextNumber cueNum) cues

theorem flooredCues_shown (cueNum : Nat) (cues : List Cue) : (flooredCues cueNum cues).map Cue.shown =
    cues.map fun cue => (floored cue.start, floored cue.stop, cue.text) := by
  induction cues generalizing cueNum with
  | nil => rfl
  | cons _ _ ih =>
    rw [flooredCues, List.map_cons, List.map_cons, ih]
    rfl

theorem ended_rows (nonempty : rows ≠ []) : rows.flatMap (· ++ ['\n']) = ['\n'].intercalate rows ++ ['\n'] := by
  obtain ⟨front, last, rfl⟩ := (List.eq_nil_or_concat' rows).resolve_left nonempty
  rw [intercalate_concat]
  simp

theorem readCue_eq (commas : ∀ line ∈ cue.text, ',' ∉ line)
    (bare : ∀ line ∈ cue.text, '\x7b' ∉ line ∧ '\x7d' ∉ line ∧ '\\' ∉ line) (cueNum : Nat) :
    readCue cueNum cue = document .lf ',' [flooredCue cueNum cue] := by
  have rows := ended_rows cue.spoken
  have shape : document .lf ',' [flooredCue cueNum cue] = Nat.toDigits 10 cueNum ++ ['\n'] ++
      (floored cue.start).written ',' ++ " --> ".toList ++ (floored cue.stop).written ',' ++ ['\n'] ++
        cue.text.flatMap (· ++ ['\n']) ++ ['\n'] := by
    simp [document, LineEnding.chars, Cue.rows, Cue.timing, flooredCue, Cue.withNumber]
  rw [shape, rows, readCue, cleanText_assText commas bare]
  simp

theorem readCues_eq (commas : ∀ cue ∈ cues, ∀ line ∈ cue.text, ',' ∉ line)
    (bare : ∀ cue ∈ cues, ∀ line ∈ cue.text, '\x7b' ∉ line ∧ '\x7d' ∉ line ∧ '\\' ∉ line) (cueNum : Nat) :
    readCues cueNum cues = srt .lf (flooredCues cueNum cues) := by
  induction cues generalizing cueNum with
  | nil => rfl
  | cons cue _ ih =>
    have later := ih (fun cue member => commas cue (by simp [member])) (fun cue member => bare cue (by simp [member]))
    rw [readCues, readCue_eq (commas cue (by simp)) (bare cue (by simp)), later]
    simp [srt, document, flooredCues]

theorem count_readCues (cueNum : Nat) (cues : List Cue) : (readCues cueNum cues).count ',' = 2 * cues.length := by
  induction cues generalizing cueNum with
  | nil => rfl
  | cons cue _ ih =>
    have digits : (Nat.toDigits 10 cueNum).count ',' = 0 :=
      List.count_eq_zero.mpr fun member =>
        absurd (Nat.isDigit_of_mem_toDigits (by decide) (by decide) member) (by decide)
    have text := List.count_eq_zero.mpr (comma_not_mem_readText (assText cue))
    have time (time : Time) : (time.written ',').count ',' = 1 := by
      simp [Time.written, count_padded]
    have rest := ih (nextNumber cueNum)
    rw [readCues, List.count_append, rest, readCue]
    simp only [List.count_append, digits, text, time]
    rw [show ['\n'].count ',' = 0 by decide, show " --> ".toList.count ',' = 0 by decide,
      show "\n\n".toList.count ',' = 0 by decide, List.length_cons]
    omega

/-- What comes back as the same text had no commas. -/
theorem commas_of_shown {again : List Cue} (hours : ∀ cue ∈ cues, cue.start.hours < 2 ^ 32 ∧ cue.stop.hours < 2 ^ 32)
    (same : again.map Cue.shown = cues.map fun cue => (floored cue.start, floored cue.stop, cue.text))
    (shape : assToSrt (srtToAss (srt .lf cues)) = srt .lf again) : ∀ cue ∈ cues, ∀ line ∈ cue.text, ',' ∉ line := by
  rw [assToSrt_srt hours] at shape
  have counted := congrArg (List.count ',') shape
  have length : again.length = cues.length := by
    simpa using congrArg List.length same
  have texts : again.map Cue.text = cues.map Cue.text := by
    simpa [Cue.shown, Function.comp_def] using congrArg (List.map fun shown => shown.2.2) same
  rw [count_readCues, srt, count_document ',' 2 Cue.count_timing_comma, length, spokenCommas_text texts] at counted
  exact spokenCommas_eq_zero.mp (by omega)

/-- The cues come back, with their times in whole centiseconds, where no text has a comma. -/
theorem ass_round_trip_iff (hours : ∀ cue ∈ cues, cue.start.hours < 2 ^ 32 ∧ cue.stop.hours < 2 ^ 32)
    (bare : ∀ cue ∈ cues, ∀ line ∈ cue.text, '\x7b' ∉ line ∧ '\x7d' ∉ line ∧ '\\' ∉ line) :
    (∃ again, again.map Cue.shown = (cues.map fun cue => (floored cue.start, floored cue.stop, cue.text)) ∧
        assToSrt (srtToAss (srt .lf cues)) = srt .lf again) ↔
      ∀ cue ∈ cues, ∀ line ∈ cue.text, ',' ∉ line := by
  constructor
  · rintro ⟨again, same, shape⟩
    exact commas_of_shown hours same shape
  · intro commas
    refine ⟨flooredCues 1 cues, flooredCues_shown 1 cues, ?_⟩
    rw [assToSrt_srt hours, readCues_eq commas bare 1]

theorem answer_comes_back : ∃ again, again.map Cue.shown =
      ([answer].map fun cue => (floored cue.start, floored cue.stop, cue.text)) ∧
    assToSrt (srtToAss (srt .lf [answer])) = srt .lf again :=
  (ass_round_trip_iff (by simp [answer]) (by simp [answer])).mpr (by simp [answer])

/-- Of the text with a comma only the first word comes back. -/
theorem greeting_cut : ¬ ∃ again, again.map Cue.shown =
      ([greeting].map fun cue => (floored cue.start, floored cue.stop, cue.text)) ∧
    assToSrt (srtToAss (srt .lf [greeting])) = srt .lf again := by
  rintro ⟨again, same, shape⟩
  have commas := commas_of_shown (by simp [greeting]) same shape
  exact commas greeting (by simp) "Hello, you.".toList (by simp [greeting]) (by simp)

end Duskcue.AssSubtitles
