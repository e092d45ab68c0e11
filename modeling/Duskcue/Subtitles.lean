import Duskcue.Decimals

/-! Subtitles between SRT and WebVTT. A document is read as blocks between blank lines,
which are sought as two line feeds: where lines end in a carriage return and a line feed
there is no blank line, and the document is one block. -/
namespace Duskcue.Subtitles
open Text Decimals

/-! ## Documents -/

/-- `hh:mm:ss` and milliseconds. -/
structure Time where
  hours : Nat
  minutes : Nat
  seconds : Nat
  millis : Nat
  minutes_lt : minutes < 60
  seconds_lt : seconds < 60
  millis_lt : millis < 1000

def Time.written (mark : Char) (time : Time) : List Char :=
  padded 2 time.hours ++
    ':' :: (padded 2 time.minutes ++ ':' :: (padded 2 time.seconds ++ mark :: padded 3 time.millis))

/-- A number, the times, and lines of text: none blank, and none with white space around it. -/
structure Cue where
  number : List Char
  start : Time
  stop : Time
  text : List (List Char)
  numbered : number ≠ [] ∧ number.all Char.isDigit = true
  spoken : text ≠ []
  plain : ∀ line ∈ text, Trimmed line ∧ '\n' ∉ line

def Cue.timing (mark : Char) (cue : Cue) : List Char :=
  cue.start.written mark ++ " --> ".toList ++ cue.stop.written mark

def Cue.rows (mark : Char) (cue : Cue) : List (List Char) := cue.number :: cue.timing mark :: cue.text

inductive LineEnding where
  | lf
  | crlf

def LineEnding.chars : LineEnding → List Char
  | .lf => ['\n']
  | .crlf => ['\r', '\n']

/-- The rows of each cue, and a blank line behind them. -/
def document (ending : LineEnding) (mark : Char) (cues : List Cue) : List Char :=
  (cues.flatMap fun cue => cue.rows mark ++ [[]]).flatMap (· ++ ending.chars)

def srt (ending : LineEnding) (cues : List Cue) : List Char := document ending ',' cues

def webvtt (cues : List Cue) : List Char := "WEBVTT\n\n".toList ++ document .lf '.' cues

/-- What is seen of a cue: not its number. -/
def Cue.shown (cue : Cue) : Time × Time × List (List Char) := (cue.start, cue.stop, cue.text)

/-! ## The converters -/

/-- The timecode line, and the lines behind it. -/
def timed (block : List Char) : Option (List Char × List (List Char)) :=
  let rows := lines block
  (rows.findIdx? fun row => decide ("-->".toList <:+: row)).map fun idx => (rows.getD idx [], rows.drop (idx + 1))

/-- `cue_num += 1`, at `u32`. -/
def nextNumber (cueNum : Nat) : Nat := (cueNum + 1) % 2 ^ 32

def cueOutput (cueNum : Nat) (timecode : List Char) (textLines : List (List Char)) : List Char :=
  Nat.toDigits 10 cueNum ++ ['\n'] ++ timecode ++ ['\n'] ++ textLines.flatMap (· ++ ['\n']) ++ ['\n']

/-- The loop of both converters: which blocks it skips, and which mark it puts for which. -/
def convert (skipped : List Char → Bool) (old new : Char) : Nat → List (List Char) → List Char
  | _, [] => []
  | cueNum, block :: blocks =>
    let block := trim block
    if block.isEmpty || skipped block then convert skipped old new cueNum blocks
    else
      match timed block with
      | none => convert skipped old new cueNum blocks
      | some (timecode, textLines) =>
        cueOutput cueNum (replace [old] [new] timecode) textLines ++
          convert skipped old new (nextNumber cueNum) blocks

/-- `srt_to_webvtt`. -/
def srtToWebvtt (srt : List Char) : List Char :=
  "WEBVTT\n\n".toList ++ convert (fun _ => false) ',' '.' 1 (split paragraph srt)

/-- `vtt_to_srt`. -/
def vttToSrt (vtt : List Char) : List Char :=
  convert (fun block => decide ("WEBVTT".toList <+: block) || decide ("NOTE".toList <+: block)) '.' ',' 1
    (split paragraph vtt)

/-! ## Cues -/

variable {mark old new c : Char} {cue : Cue} {cues : List Cue}

theorem Time.not_mem_written (time : Time) (other : c.isDigit = false) (colon : c ≠ ':') (apart : c ≠ mark) :
    c ∉ time.written mark := by
  simp only [Time.written, List.mem_append, List.mem_cons, not_or]
  exact ⟨not_mem_padded other, colon, not_mem_padded other, colon, not_mem_padded other, apart, not_mem_padded other⟩

theorem Time.replaced (time : Time) (other : old.isDigit = false) (colon : old ≠ ':') :
    replace [old] [new] (time.written old) = time.written new := by
  have kept {width n : Nat} : replace [old] [new] (padded width n) = padded width n :=
    replace_char_absent (not_mem_padded other) new
  have between (text : List Char) : replace [old] [new] (':' :: text) = ':' :: replace [old] [new] text := by
    have step := replace_char_append old new [':'] text
    rw [replace_char_absent (show old ∉ [':'] by simpa using colon)] at step
    exact step
  simp only [Time.written, replace_char_append, kept, between, replace_char_found]

theorem Cue.timing_replaced (cue : Cue) (other : old.isDigit = false) (apart : old ≠ ':' ∧ old ∉ " --> ".toList) :
    replace [old] [new] (cue.timing old) = cue.timing new := by
  simp only [Cue.timing, replace_char_append, Time.replaced _ other apart.1, replace_char_absent apart.2]

theorem Cue.digits (cue : Cue) : ∀ c ∈ cue.number, c.isDigit = true := List.all_eq_true.mp cue.numbered.2

theorem Cue.not_mem_number (cue : Cue) (other : c.isDigit = false) : c ∉ cue.number := by
  intro member
  rw [cue.digits c member] at other
  cases other

theorem Cue.not_mem_timing (cue : Cue) (other : c.isDigit = false) (colon : c ≠ ':') (apart : c ≠ mark)
    (outside : c ∉ " --> ".toList) : c ∉ cue.timing mark := by
  simp only [Cue.timing, List.mem_append, not_or]
  exact ⟨⟨Time.not_mem_written _ other colon apart, outside⟩, Time.not_mem_written _ other colon apart⟩

theorem Cue.trimmed_number (cue : Cue) : Trimmed cue.number := trimmed_digits cue.numbered.1 cue.digits

/-! ## A block that is a cue -/

theorem timed_rows
    (read : lines block = number :: timing :: text) (apart : '-' ∉ number) (arrow : "-->".toList <:+: timing) :
    timed block = some (timing, text) := by
  have first : ¬ "-->".toList <:+: number := fun within => apart (within.subset (by simp))
  unfold timed
  generalize "-->".toList = pattern at *
  simp [read, List.findIdx?_cons, first, arrow]

theorem Cue.arrow_timing (cue : Cue) (mark : Char) : "-->".toList <:+: cue.timing mark :=
  ⟨cue.start.written mark ++ [' '], ' ' :: cue.stop.written mark, by simp [Cue.timing]⟩

theorem Cue.row_plain (cue : Cue) (different : mark ≠ '\n') : ∀ row ∈ cue.rows mark, row ≠ [] ∧ '\n' ∉ row := by
  intro row member
  rcases List.mem_cons.mp member with rfl | member
  · exact ⟨cue.numbered.1, cue.not_mem_number (by decide)⟩
  · rcases List.mem_cons.mp member with rfl | member
    · refine ⟨?_, cue.not_mem_timing (by decide) (by decide) different.symm (by simp)⟩
      simp [Cue.timing]
    · exact ⟨(cue.plain row member).1.1, (cue.plain row member).2⟩

/-- The rows in front of the last one, which is trimmed. -/
theorem Cue.last_row (cue : Cue) (mark : Char) : ∃ front last, cue.text = front ++ [last] ∧
    cue.rows mark = (cue.number :: cue.timing mark :: front) ++ [last] ∧ Trimmed last := by
  obtain ⟨front, last, shape⟩ := (List.eq_nil_or_concat cue.text).resolve_left cue.spoken
  rw [List.concat_eq_append] at shape
  exact ⟨front, last, shape, by simp [Cue.rows, shape], (cue.plain last (by simp [shape])).1⟩

/-- Rows from a number to a line of text are trimmed and read back, with either line ending. -/
theorem block_read (ending : LineEnding) (starts : Trimmed number)
    (ends : Trimmed last) (plain : ∀ row ∈ number :: rows, '\n' ∉ row ∧ chomp row = row) (final : '\n' ∉ last) :
    Trimmed (ending.chars.intercalate (number :: rows ++ [last])) ∧
      lines (ending.chars.intercalate (number :: rows ++ [last])) = number :: rows ++ [last] := by
  rw [intercalate_concat]
  constructor
  · rw [List.flatMap_cons, List.append_assoc number]
    exact starts.around ends _
  · cases ending with
    | lf => exact lines_joined [] (by simp) (by simpa using plain) final ends.1
    | crlf =>
      refine lines_joined ['\r'] (by simp) ?_ final ends.1
      intro row member
      exact ⟨(plain row member).1, chomp_returned row⟩

theorem Cue.chomp_row (cue : Cue) (mark : Char) (different : mark ≠ '\r') : ∀ row ∈ cue.rows mark, chomp row = row := by
  intro row member
  rcases List.mem_cons.mp member with rfl | member
  · exact chomp_trimmed cue.trimmed_number.2
  · rcases List.mem_cons.mp member with rfl | member
    · exact chomp_eq_self (cue.not_mem_timing (by decide) (by decide) different.symm (by simp))
    · exact chomp_trimmed (cue.plain row member).1.2

theorem Cue.block_timed (cue : Cue) (different : mark ≠ '\n' ∧ mark ≠ '\r') :
    Trimmed (['\n'].intercalate (cue.rows mark)) ∧
      timed (['\n'].intercalate (cue.rows mark)) = some (cue.timing mark, cue.text) := by
  obtain ⟨front, last, shape, rows, ends⟩ := cue.last_row mark
  have plain : ∀ row ∈ cue.number :: cue.timing mark :: front, '\n' ∉ row ∧ chomp row = row := by
    intro row member
    have among : row ∈ cue.rows mark := by
      rw [rows]
      exact List.mem_append_left _ member
    exact ⟨(cue.row_plain different.1 row among).2, cue.chomp_row mark different.2 row among⟩
  have final : '\n' ∉ last := (cue.plain last (by simp [shape])).2
  obtain ⟨trimmed, read⟩ := block_read .lf cue.trimmed_number ends plain final
  rw [← rows] at trimmed read
  exact ⟨trimmed, timed_rows read (cue.not_mem_number (by decide)) (cue.arrow_timing mark)⟩

/-! ## Documents with line feeds -/

/-- The cue under another number. -/
def Cue.withNumber (cue : Cue) (cueNum : Nat) : Cue where
  number := Nat.toDigits 10 cueNum
  start := cue.start
  stop := cue.stop
  text := cue.text
  numbered := ⟨Nat.toDigits_ne_nil, List.all_eq_true.mpr fun _ => Nat.isDigit_of_mem_toDigits (by decide) (by decide)⟩
  spoken := cue.spoken
  plain := cue.plain

def renumbered : Nat → List Cue → List Cue
  | _, [] => []
  | cueNum, cue :: cues => cue.withNumber cueNum :: renumbered (nextNumber cueNum) cues

theorem renumbered_shown (cueNum : Nat) (cues : List Cue) :
    (renumbered cueNum cues).map Cue.shown = cues.map Cue.shown := by
  induction cues generalizing cueNum with
  | nil => rfl
  | cons _ _ ih =>
    rw [renumbered, List.map_cons, List.map_cons, ih]
    rfl

theorem document_cons (ending : LineEnding) (mark : Char) (cue : Cue) (cues : List Cue) :
    document ending mark (cue :: cues) =
      (cue.rows mark).flatMap (· ++ ending.chars) ++ ending.chars ++ document ending mark cues := by
  simp [document]

theorem cueOutput_eq (cueNum : Nat) (cue : Cue) (mark : Char) :
    cueOutput cueNum (cue.timing mark) cue.text = document .lf mark [cue.withNumber cueNum] := by
  simp [cueOutput, document, Cue.rows, Cue.withNumber, Cue.timing, LineEnding.chars]

section
variable {skipped : List Char → Bool} (kept : ∀ c text, c.isDigit = true → skipped (c :: text) = false)
  (other : old.isDigit = false) (apart : old ≠ ':' ∧ old ∉ " --> ".toList) (different : old ≠ '\n' ∧ old ≠ '\r')
include kept other apart different

/-- A cue's block is written out under the next number. -/
theorem convert_block (cueNum : Nat) (cue : Cue) (blocks : List (List Char)) :
    convert skipped old new cueNum (['\n'].intercalate (cue.rows old) :: blocks) =
      document .lf new [cue.withNumber cueNum] ++ convert skipped old new (nextNumber cueNum) blocks := by
  obtain ⟨trimmed, read⟩ := cue.block_timed different
  have visible : skipped (['\n'].intercalate (cue.rows old)) = false := by
    obtain ⟨c, number, shape⟩ := List.exists_cons_of_ne_nil cue.numbered.1
    have digit := cue.digits c (by simp [shape])
    rw [Cue.rows, shape, List.intercalate_cons_cons]
    exact kept c _ digit
  have filled : (['\n'].intercalate (cue.rows old)).isEmpty = false := by
    rw [List.isEmpty_eq_false_iff]
    exact trimmed.1
  rw [convert]
  simp only [trimmed.2, filled, visible, read]
  rw [cue.timing_replaced other apart, cueOutput_eq]
  rfl

omit kept other apart in
theorem document_blocks (cues : List Cue) :
    split paragraph (document .lf old cues) = (cues.map fun cue => ['\n'].intercalate (cue.rows old)) ++ [[]] := by
  induction cues with
  | nil => rfl
  | cons cue cues ih =>
    have separated := split_paragraph (List.cons_ne_nil _ _) (cue.row_plain different.1) (document .lf old cues)
    rw [← Cue.rows] at separated
    rw [document_cons]
    simp only [LineEnding.chars, List.append_assoc, List.singleton_append]
    rw [separated, ih]
    rfl

/-- The cues of a document come out in their order, with the other mark. -/
theorem convert_document (cueNum : Nat) (cues : List Cue) :
    convert skipped old new cueNum (split paragraph (document .lf old cues)) =
      document .lf new (renumbered cueNum cues) := by
  rw [document_blocks different]
  induction cues generalizing cueNum with
  | nil => simp [document, convert, renumbered, trim, trimEnd]
  | cons _ _ ih =>
    rw [List.map_cons, List.cons_append, convert_block kept other apart different, ih, renumbered]
    simp [document]

end

/-- A document with line feeds is converted cue by cue. -/
theorem converted_lf (cues : List Cue) : srtToWebvtt (srt .lf cues) = webvtt (renumbered 1 cues) := by
  unfold srtToWebvtt srt webvtt
  rw [convert_document (by simp) (by decide) (by decide) (by decide)]

/-- There and back, the same cues are shown with the same times and the same lines. -/
theorem webvtt_round_trip (cues : List Cue) :
    ∃ again, again.map Cue.shown = cues.map Cue.shown ∧ vttToSrt (srtToWebvtt (srt .lf cues)) = srt .lf again := by
  refine ⟨renumbered 1 (renumbered 1 cues), by simp only [renumbered_shown], ?_⟩
  rw [converted_lf]
  have header : split paragraph (webvtt (renumbered 1 cues)) =
      "WEBVTT".toList :: split paragraph (document .lf '.' (renumbered 1 cues)) :=
    split_row (show '\n' ∉ "WEBVTT".toList by simp) _
  have skipped : trim "WEBVTT".toList = "WEBVTT".toList := by decide
  unfold vttToSrt srt
  rw [header, convert]
  simp only [skipped]
  rw [if_pos (by decide), convert_document _ (by decide) (by decide) (by decide)]
  intro c text digit
  have notW : c ≠ 'W' := by
    rintro rfl
    cases digit
  have notN : c ≠ 'N' := by
    rintro rfl
    cases digit
  simp [List.cons_prefix_cons, notW.symm, notN.symm]

/-! ## Documents with carriage returns -/

/-- The rows of a document go from the first number to the last line of text, before a blank row. -/
theorem document_rows (cue : Cue) (more : List Cue) (mark : Char) : ∃ front last,
    ((cue :: more).flatMap fun cue => cue.rows mark ++ [[]]) =
        (cue.number :: cue.timing mark :: front) ++ [last] ++ [[]] ∧
      Trimmed last ∧ '\n' ∉ last := by
  induction more generalizing cue with
  | nil =>
    obtain ⟨front, last, shape, rows, ends⟩ := cue.last_row mark
    refine ⟨front, last, ?_, ends, (cue.plain last (by simp [shape])).2⟩
    simp [rows]
  | cons next _ ih =>
    obtain ⟨front, last, rows, ends, final⟩ := ih next
    refine ⟨cue.text ++ [] :: next.number :: next.timing mark :: front, last, ?_, ends, final⟩
    rw [List.flatMap_cons, rows]
    simp [Cue.rows]

theorem document_row_plain (different : mark ≠ '\n' ∧ mark ≠ '\r')
    (member : row ∈ cues.flatMap fun cue => cue.rows mark ++ [[]]) : '\n' ∉ row ∧ chomp row = row := by
  obtain ⟨cue, -, member⟩ := List.mem_flatMap.mp member
  rcases List.mem_append.mp member with member | blank
  · exact ⟨(cue.row_plain different.1 row member).2, cue.chomp_row mark different.2 row member⟩
  · rw [List.mem_singleton.mp blank]
    exact ⟨by simp, chomp_eq_self (by simp)⟩

/-- All rows behind the first times are taken for the text of the first cue. -/
theorem converted_crlf (cue : Cue) (more : List Cue) : ∃ text,
    ((cue :: more).flatMap fun cue => cue.rows ',' ++ [[]]) = cue.number :: cue.timing ',' :: text ++ [[]] ∧
      srtToWebvtt (srt .crlf (cue :: more)) = "WEBVTT\n\n".toList ++ cueOutput 1 (cue.timing '.') text := by
  obtain ⟨front, last, rows, ends, final⟩ := document_rows cue more ','
  have plain : ∀ row ∈ (cue :: more).flatMap fun cue => cue.rows ',' ++ [[]], '\n' ∉ row ∧ chomp row = row :=
    fun row member => document_row_plain (by decide) member
  have starts : ∀ row ∈ cue.number :: cue.timing ',' :: front, '\n' ∉ row ∧ chomp row = row := by
    intro row member
    apply plain
    rw [rows]
    simp only [List.mem_append]
    exact .inl (.inl member)
  obtain ⟨trimmed, read⟩ := block_read .crlf cue.trimmed_number ends starts final
  have whole : document .crlf ',' (cue :: more) =
      LineEnding.crlf.chars.intercalate (cue.number :: cue.timing ',' :: front ++ [last]) ++
        ['\r', '\n', '\r', '\n'] := by
    rw [document, rows, intercalate_concat]
    simp [LineEnding.chars]
  have taken : trim (document .crlf ',' (cue :: more)) =
      LineEnding.crlf.chars.intercalate (cue.number :: cue.timing ',' :: front ++ [last]) := by
    rw [whole]
    have blank : ['\r', '\n', '\r', '\n'].all isWhitespace = true := by decide
    exact trim_padded [] trimmed (by simp) (List.all_eq_true.mp blank)
  have single : split paragraph (document .crlf ',' (cue :: more)) = [document .crlf ',' (cue :: more)] :=
    split_returned fun row member => (plain row member).1
  refine ⟨front ++ [last], by simp [rows], ?_⟩
  unfold srtToWebvtt srt
  rw [single, convert]
  simp only [taken]
  rw [timed_rows read (cue.not_mem_number (by decide)) (cue.arrow_timing ',')]
  have filled := List.isEmpty_eq_false_iff.mpr trimmed.1
  simp only [filled, Bool.or_false, convert, List.append_nil]
  rw [cue.timing_replaced (by decide) (by decide)]
  rfl

/-- The commas in the text of the cues. -/
def spokenCommas (cues : List Cue) : Nat := (cues.map fun cue => (cue.text.map (List.count ',')).sum).sum

theorem count_rows (rows : List (List Char)) :
    (rows.flatMap (· ++ ['\n'])).count ',' = (rows.map (List.count ',')).sum := by
  rw [List.count_flatMap]
  congr 1
  apply List.map_congr_left
  intro row _
  simp

theorem spokenCommas_text {again : List Cue} (same : again.map Cue.text = cues.map Cue.text) :
    spokenCommas again = spokenCommas cues := by
  have through (cues : List Cue) :
      spokenCommas cues = ((cues.map Cue.text).map fun text => (text.map (List.count ',')).sum).sum := by
    simp [spokenCommas, Function.comp_def]
  rw [through, same, ← through]

theorem spokenCommas_eq_zero : spokenCommas cues = 0 ↔ ∀ cue ∈ cues, ∀ line ∈ cue.text, ',' ∉ line := by
  simp [spokenCommas, List.sum_eq_zero_iff_forall_eq_nat, List.count_eq_zero]

theorem Cue.count_number (cue : Cue) : cue.number.count ',' = 0 :=
  List.count_eq_zero.mpr (cue.not_mem_number (by decide))

theorem Cue.count_timing_dot (cue : Cue) : (cue.timing '.').count ',' = 0 :=
  List.count_eq_zero.mpr (cue.not_mem_timing (by decide) (by decide) (by decide) (by simp))

theorem count_padded (width n : Nat) : (padded width n).count ',' = 0 :=
  List.count_eq_zero.mpr (not_mem_padded (by decide))

theorem Cue.count_timing_comma (cue : Cue) : (cue.timing ',').count ',' = 2 := by
  simp [Cue.timing, Time.written, count_padded]

/-- A document has the commas of its text, and two in each timing line that uses them. -/
theorem count_document (mark : Char) (commas : Nat) (timing : ∀ cue : Cue, (cue.timing mark).count ',' = commas)
    (cues : List Cue) : (document .lf mark cues).count ',' = spokenCommas cues + commas * cues.length := by
  induction cues with
  | nil => rfl
  | cons cue _ ih =>
    rw [document_cons, List.count_append, List.count_append, ih, LineEnding.chars, count_rows]
    simp only [Cue.rows, spokenCommas, List.map_cons, List.sum_cons, cue.count_number, timing, List.length_cons]
    rw [show ['\n'].count ',' = 0 by decide, Nat.mul_add_one]
    omega

/-- With carriage returns the same cues come out only of one: the timing lines behind the
first keep their commas. -/
theorem crlf_single {more again : List Cue} (same : again.map Cue.shown = (cue :: more).map Cue.shown)
    (shape : srtToWebvtt (srt .crlf (cue :: more)) = webvtt again) : more = [] := by
  obtain ⟨text, rows, output⟩ := converted_crlf cue more
  rw [output] at shape
  have texts : again.map Cue.text = (cue :: more).map Cue.text := by
    simpa [Cue.shown, Function.comp_def] using congrArg (List.map fun shown => shown.2.2) same
  have counted := congrArg (List.count ',') (List.append_cancel_left shape)
  rw [count_document '.' 0 Cue.count_timing_dot, spokenCommas_text texts, Nat.zero_mul] at counted
  have digits : (Nat.toDigits 10 1).count ',' = 0 := by decide
  have ended : ['\n'].count ',' = 0 := by decide
  simp only [cueOutput, List.count_append, digits, ended, cue.count_timing_dot, count_rows] at counted
  have total := count_document ',' 2 Cue.count_timing_comma (cue :: more)
  rw [document, rows, LineEnding.chars, count_rows] at total
  simp only [List.map_append, List.map_cons, List.sum_append, List.sum_cons, cue.count_number,
    cue.count_timing_comma, List.map_nil, List.sum_nil, List.count_nil, List.length_cons] at total
  exact List.length_eq_zero_iff.mp (by omega)

theorem crlf_one (cue : Cue) : srtToWebvtt (srt .crlf [cue]) = webvtt [cue.withNumber 1] := by
  obtain ⟨text, rows, output⟩ := converted_crlf cue []
  have same : text = cue.text := by
    simpa [Cue.rows] using rows.symm
  rw [output, same]
  exact congrArg ("WEBVTT\n\n".toList ++ ·) (cueOutput_eq 1 cue '.')

/-- The same cues are shown where lines end in line feeds, and where there is no second cue. -/
theorem converted_iff (ending : LineEnding) (cues : List Cue) :
    (∃ again, again.map Cue.shown = cues.map Cue.shown ∧ srtToWebvtt (srt ending cues) = webvtt again) ↔
      ending = .lf ∨ cues.length ≤ 1 := by
  match ending, cues with
  | .lf, cues =>
    simp only [true_or, iff_true]
    exact ⟨renumbered 1 cues, renumbered_shown 1 cues, converted_lf cues⟩
  | .crlf, [] =>
    refine iff_of_true ⟨[], rfl, ?_⟩ (.inr (Nat.zero_le 1))
    decide
  | .crlf, cue :: more =>
    constructor
    · rintro ⟨again, same, shape⟩
      rw [crlf_single same shape]
      exact .inr (Nat.le_refl 1)
    · intro few
      have single : (cue :: more).length ≤ 1 := few.resolve_left LineEnding.noConfusion
      have none : more = [] := by
        rw [List.length_cons] at single
        exact List.length_eq_zero_iff.mp (by omega)
      rw [none]
      exact ⟨[cue.withNumber 1], rfl, crlf_one cue⟩

def greeting : Cue where
  number := ['1']
  start := ⟨0, 0, 1, 0, by decide, by decide, by decide⟩
  stop := ⟨0, 0, 2, 500, by decide, by decide, by decide⟩
  text := ["Hello, you.".toList]
  numbered := by decide
  spoken := by decide
  plain := by simp +decide

def answer : Cue where
  number := ['2']
  start := ⟨0, 0, 3, 0, by decide, by decide, by decide⟩
  stop := ⟨0, 0, 4, 0, by decide, by decide, by decide⟩
  text := ["Good day.".toList]
  numbered := by decide
  spoken := by decide
  plain := by simp +decide

/-- With carriage returns the second cue is shown as text of the first. -/
theorem second_cue_swallowed :
    ¬ ∃ again, again.map Cue.shown = [greeting, answer].map Cue.shown ∧
      srtToWebvtt (srt .crlf [greeting, answer]) = webvtt again := by
  rintro ⟨again, same, shape⟩
  exact List.cons_ne_nil _ _ (crlf_single same shape)

end Duskcue.Subtitles
