import Mathlib.Data.List.Basic

/-! The parser of an event stream in the web client. It takes text as it comes, cut anywhere; `interpret`
reads a whole stream line by line, as the WHATWG standard has it. -/
namespace Duskcue.EventFraming

/-- A string of UTF-16 code units. -/
abbrev JsString := List UInt16

def lineFeed : UInt16 := 0x0A
def carriageReturn : UInt16 := 0x0D
def colon : UInt16 := 0x3A
def space : UInt16 := 0x20
def byteOrderMark : UInt16 := 0xFEFF

/-- The code units of an ASCII text. -/
def ascii (text : String) : JsString := text.toList.map fun c => UInt16.ofNat c.toNat

inductive Call
  | onEvent (type data lastEventId : JsString)
  | onId (id : JsString)
  | onRetry (retry : JsString)
  deriving DecidableEq

/-- The variables of a parser, with the calls that it has made. -/
structure Parser where
  line : JsString := []
  data : JsString := []
  type : JsString := []
  id : JsString := []
  skipLf : Bool := false
  first : Bool := true
  frameChars : Nat := 0
  disposed : Bool := false
  calls : List Call := []

/-- `/^[0-9]+$/`. -/
def isDecimal (content : JsString) : Bool := content ≠ [] && content.all fun c => 0x30 ≤ c && c ≤ 0x39

/-- The text of a string's iteration: a surrogate pair is one character. -/
def characters : JsString → List JsString
  | [] => []
  | [c] => [[c]]
  | c :: d :: rest =>
    if (0xD800 ≤ c ∧ c ≤ 0xDBFF) ∧ 0xDC00 ≤ d ∧ d ≤ 0xDFFF then [c, d] :: characters rest
    else [c] :: characters (d :: rest)

namespace Parser
variable (disposes : List Call → Bool) (maxFrameChars : Nat)

/-- `dispose`. -/
def dispose (p : Parser) : Parser := { p with disposed := true, line := [], data := [], type := [], id := [] }

/-- A callback may dispose of the parser. -/
def call (p : Parser) (c : Call) : Parser :=
  let p := { p with calls := p.calls ++ [c] }
  if disposes p.calls then p.dispose else p

/-- `processLine`. -/
def processLine (p : Parser) : Parser :=
  let value := p.line
  let p := { p with line := [] }
  if value = [] then
    let event := if p.data ≠ [] then
        some (Call.onEvent (if p.type ≠ [] then p.type else ascii "message") p.data.dropLast p.id)
      else none
    let p := { p with data := [], type := [], frameChars := 0 }
    let p := p.call disposes (.onId p.id)
    event.elim p (p.call disposes)
  else if value.head? = some colon then p
  else
    let index := value.findIdx? (· = colon)
    let field := index.elim value value.take
    let content := index.elim [] fun index => value.drop (index + 1)
    let content := if content.head? = some space then content.drop 1 else content
    if field = ascii "data" then { p with data := p.data ++ content ++ [lineFeed] }
    else if field = ascii "event" then { p with type := content }
    else if field = ascii "id" ∧ 0 ∉ content then { p with id := content }
    else if field = ascii "retry" ∧ isDecimal content then p.call disposes (.onRetry content)
    else p

/-- A turn of the loop of `push`. `none` is a throw. -/
def step (p : Parser) (character : JsString) : Option Parser :=
  let bom := p.first && character = [byteOrderMark]
  let p := { p with first := false }
  if bom then some p
  else
    let lf := p.skipLf && character = [lineFeed]
    let p := { p with skipLf := false }
    if lf then some p
    else if character = [carriageReturn] ∨ character = [lineFeed] then
      some { p.processLine disposes with skipLf := character = [carriageReturn] }
    else
      let frameChars := p.frameChars + character.length
      if frameChars > maxFrameChars then none else some { p with frameChars, line := p.line ++ character }

/-- The loop of `push`. An error has the calls that were made before the throw. -/
def consume (p : Parser) : List JsString → Except (List Call) Parser
  | [] => .ok p
  | character :: rest =>
    if p.disposed then .ok p
    else match p.step disposes maxFrameChars character with
      | none => .error p.calls
      | some p => p.consume rest

def push (p : Parser) (text : JsString) : Except (List Call) Parser :=
    p.consume disposes maxFrameChars (characters text)

end Parser

/-! ## The standard -/

/-- What the interpretation of a stream holds: its buffers, and what came of them. -/
structure Stream where
  data : JsString := []
  eventType : JsString := []
  lastEventId : JsString := []
  calls : List Call := []

/-- The lines of a text, and behind them what is left of an unfinished one. A line ends with CR LF, LF or CR. -/
def pieces : JsString → List JsString
  | [] => [[]]
  | [c] => if c = carriageReturn ∨ c = lineFeed then [[], []] else [[c]]
  | c :: d :: rest =>
    if c = carriageReturn ∧ d = lineFeed then [] :: pieces rest
    else if c = carriageReturn ∨ c = lineFeed then [] :: pieces (d :: rest)
    else (pieces (d :: rest)).modifyHead (c :: ·)

namespace Stream

/-- The event of the buffers. -/
def dispatch (s : Stream) : Stream where
  lastEventId := s.lastEventId
  calls := s.calls ++ .onId s.lastEventId ::
    if s.data = [] then []
    else [.onEvent (if s.eventType = [] then ascii "message" else s.eventType) s.data.dropLast s.lastEventId]

/-- A field with its value. -/
def processField (s : Stream) (field value : JsString) : Stream :=
  if field = ascii "event" then { s with eventType := value }
  else if field = ascii "data" then { s with data := s.data ++ value ++ [lineFeed] }
  else if field = ascii "id" then if 0 ∈ value then s else { s with lastEventId := value }
  else if field = ascii "retry" then
    if isDecimal value then { s with calls := s.calls ++ [.onRetry value] } else s
  else s

/-- The value behind a field's colon: one space in front does not count. -/
def valueOf : JsString → JsString
  | [] => []
  | c :: value => if c = space then value else c :: value

def processLine (s : Stream) (line : JsString) : Stream :=
  if line = [] then s.dispatch
  else if line.head? = some colon then s
  else s.processField (line.takeWhile (· ≠ colon)) (valueOf ((line.dropWhile (· ≠ colon)).drop 1))

end Stream

/-- A text without the mark in front of it. -/
def unmarked (text : JsString) : JsString := if text.head? = some byteOrderMark then text.drop 1 else text

/-- What a stream is read as, up to the end of its last line. -/
def interpret (text : JsString) : List Call := ((pieces (unmarked text)).dropLast.foldl Stream.processLine {}).calls

/-- No frame, from a blank line to the next, has more characters, with so many used. -/
def FramesFit (maxFrameChars : Nat) : Nat → List JsString → Prop
  | used, [] => used ≤ maxFrameChars
  | used, line :: lines =>
    used ≤ maxFrameChars ∧ FramesFit maxFrameChars (if line = [] then 0 else used + line.length) lines

instance decidableFramesFit (maxFrameChars : Nat) : ∀ used lines, Decidable (FramesFit maxFrameChars used lines)
  | used, [] => inferInstanceAs (Decidable (used ≤ maxFrameChars))
  | used, line :: lines =>
    have := decidableFramesFit maxFrameChars (if line = [] then 0 else used + line.length) lines
    inferInstanceAs (Decidable (_ ∧ _))

/-! ## Cuts -/

namespace Parser
variable {disposes : List Call → Bool} {maxFrameChars : Nat} {p : Parser}

/-- A character that ends no line and is no mark. -/
def Plain (character : JsString) : Prop :=
  character ≠ [byteOrderMark] ∧ character ≠ [lineFeed] ∧ character ≠ [carriageReturn]

theorem step_plain (plain : Plain character) : p.step disposes maxFrameChars character =
    if p.frameChars + character.length > maxFrameChars then none
    else some { p with first := false, skipLf := false, frameChars := p.frameChars + character.length
                       line := p.line ++ character } := by
  obtain ⟨mark, feed, back⟩ := plain
  simp [step, mark, feed, back]

theorem consume_disposed (disposed : p.disposed = true) (rest : List JsString) :
    p.consume disposes maxFrameChars rest = .ok p := by
  cases rest with
  | nil => rfl
  | cons => exact if_pos disposed

theorem consume_cons (live : p.disposed = false) (character : JsString) (rest : List JsString) :
    p.consume disposes maxFrameChars (character :: rest) =
      (p.step disposes maxFrameChars character).elim (.error p.calls)
      (·.consume disposes maxFrameChars rest) := by
  rw [consume, live, if_neg Bool.false_ne_true]
  cases p.step disposes maxFrameChars character <;> rfl

/-- A character of a line, within the frame's limit. -/
theorem consume_plain (live : p.disposed = false) (plain : Plain character) (rest : List JsString) :
    p.consume disposes maxFrameChars (character :: rest) =
      if p.frameChars + character.length > maxFrameChars then .error p.calls
      else consume disposes maxFrameChars { p with
        first := false, skipLf := false, frameChars := p.frameChars + character.length
        line := p.line ++ character } rest := by
  rw [consume_cons live, step_plain plain]
  split <;> rfl

/-- One half of a surrogate pair after the other is as good as the pair. -/
theorem consume_pair (pair : (0xD800 ≤ c ∧ c ≤ 0xDBFF) ∧ 0xDC00 ≤ d ∧ d ≤ 0xDFFF) :
    p.consume disposes maxFrameChars ([c, d] :: rest) = p.consume disposes maxFrameChars ([c] :: [d] :: rest) := by
  cases live : p.disposed with
  | true => rw [consume_disposed live, consume_disposed live]
  | false =>
    have ordinary {e : UInt16} (low : 0xD800 ≤ e) (high : e ≤ 0xDFFF) : Plain [e] := by
      simp only [Plain, ne_eq, List.cons.injEq, and_true]
      refine ⟨?_, ?_, ?_⟩ <;> rintro rfl
      · exact absurd high (by decide)
      all_goals exact absurd low (by decide)
    have first : Plain [c] := ordinary pair.1.1 (UInt16.le_trans pair.1.2 (by decide))
    have second : Plain [d] := ordinary (UInt16.le_trans (by decide) pair.2.1) pair.2.2
    have both : Plain [c, d] := ⟨by simp, by simp, by simp⟩
    rw [consume_plain live first, consume_plain live both]
    by_cases far : p.frameChars + [c].length > maxFrameChars
    · rw [if_pos far, if_pos (by simp only [List.length_cons, List.length_nil] at *; omega)]
    rw [if_neg far, consume_plain (by exact live) second]
    simp only [List.append_assoc, List.singleton_append, List.length_cons, List.length_nil, Nat.add_assoc]

/-- Characters are taken code unit by code unit. -/
theorem consume_characters (text : JsString) : p.consume disposes maxFrameChars (characters text) =
    p.consume disposes maxFrameChars (text.map fun c => [c]) := by
  have shared {character : JsString} {a b : List JsString} (same : ∀ q : Parser,
      q.consume disposes maxFrameChars a = q.consume disposes maxFrameChars b) (q : Parser) :
      q.consume disposes maxFrameChars (character :: a) = q.consume disposes maxFrameChars (character :: b) := by
    cases live : q.disposed with
    | true => rw [consume_disposed live, consume_disposed live]
    | false =>
      rw [consume_cons live, consume_cons live]
      cases q.step disposes maxFrameChars character with
      | none => rfl
      | some next => exact same next
  induction text using characters.induct generalizing p with
  | case1 => rfl
  | case2 => rfl
  | case3 c d _ pair ih =>
    rw [characters, if_pos pair, consume_pair pair]
    exact shared (shared fun q => ih) p
  | case4 c d _ single ih =>
    rw [characters, if_neg single]
    exact shared (fun q => ih) p

theorem consume_append (a b : List JsString) : p.consume disposes maxFrameChars (a ++ b) =
    (p.consume disposes maxFrameChars a).bind fun q => q.consume disposes maxFrameChars b := by
  induction a generalizing p with
  | nil => rfl
  | cons character a ih =>
    cases live : p.disposed with
    | true =>
      rw [consume_disposed live, consume_disposed live]
      exact (consume_disposed live b).symm
    | false =>
      rw [List.cons_append, consume_cons live, consume_cons live]
      cases p.step disposes maxFrameChars character with
      | none => rfl
      | some => exact ih

/-- However a text is cut, the parser is led to the same. -/
theorem push_flatten (chunks : List JsString) : chunks.foldlM (push disposes maxFrameChars) p =
    push disposes maxFrameChars p chunks.flatten := by
  induction chunks generalizing p with
  | nil => rfl
  | cons chunk _ ih =>
    rw [List.foldlM_cons, List.flatten_cons, push, push, consume_characters, consume_characters, List.map_append,
      consume_append]
    cases p.consume disposes maxFrameChars (chunk.map fun c => [c]) with
    | error => rfl
    | ok => exact ih.trans (consume_characters _)

/-! ## Lines -/

/-- Callbacks that do not dispose of the parser. -/
def silent (_ : List Call) : Bool := false

def stream (p : Parser) : Stream := ⟨p.data, p.type, p.id, p.calls⟩

theorem call_silent (p : Parser) (c : Call) : p.call silent c = { p with calls := p.calls ++ [c] } := rfl

theorem field_of_line (line : JsString) (index : Option Nat) (found : line.findIdx? (· = colon) = index) :
    index.elim line line.take = line.takeWhile (· ≠ colon) ∧
      index.elim [] (fun index => line.drop (index + 1)) = (line.dropWhile (· ≠ colon)).drop 1 := by
  subst found
  induction line with
  | nil => exact ⟨rfl, rfl⟩
  | cons c line ih =>
    by_cases here : c = colon
    · simp [List.findIdx?_cons, here]
    · cases found : line.findIdx? (· = colon) with
      | none | some =>
        rw [found] at ih
        simpa [List.findIdx?_cons, here, found] using ih

/-- A line does to the buffers and the calls what the standard says, and ends a frame where it is blank. -/
theorem processLine_silent (p : Parser) : p.processLine silent =
    { p with
      line := [], data := (p.stream.processLine p.line).data, type := (p.stream.processLine p.line).eventType
      id := (p.stream.processLine p.line).lastEventId, calls := (p.stream.processLine p.line).calls
      frameChars := if p.line = [] then 0 else p.frameChars } := by
  obtain ⟨line, data, type, id, skipLf, first, frameChars, disposed, calls⟩ := p
  unfold processLine Stream.processLine
  by_cases blank : line = []
  · subst blank
    by_cases empty : data = []
    · simp [empty, call_silent, stream, Stream.dispatch]
    · by_cases typed : type = [] <;> simp [empty, typed, call_silent, stream, Stream.dispatch]
  by_cases comment : line.head? = some colon
  · simp [blank, comment, stream]
  obtain ⟨field, content⟩ := field_of_line line _ rfl
  have value : Stream.valueOf ((line.dropWhile (· ≠ colon)).drop 1) =
      if ((line.dropWhile (· ≠ colon)).drop 1).head? = some space then ((line.dropWhile (· ≠ colon)).drop 1).drop 1
      else (line.dropWhile (· ≠ colon)).drop 1 := by
    cases (line.dropWhile (· ≠ colon)).drop 1 with
    | nil => rfl
    | cons c => by_cases blank : c = space <;> simp [Stream.valueOf, blank]
  simp only [blank, comment, if_false, field, content, ← value, Stream.processField]
  generalize line.takeWhile (· ≠ colon) = name
  generalize Stream.valueOf ((line.dropWhile (· ≠ colon)).drop 1) = text
  have apart : ascii "data" ≠ ascii "event" ∧ ascii "id" ≠ ascii "event" ∧ ascii "id" ≠ ascii "data" ∧
      ascii "retry" ≠ ascii "event" ∧ ascii "retry" ≠ ascii "data" ∧ ascii "retry" ≠ ascii "id" := by decide
  obtain ⟨dataEvent, idEvent, idData, retryEvent, retryData, retryId⟩ := apart
  by_cases data' : name = ascii "data"
  · subst data'
    simp [dataEvent, stream]
  by_cases event' : name = ascii "event"
  · subst event'
    simp [dataEvent.symm, stream]
  by_cases id' : name = ascii "id"
  · subst id'
    by_cases null : 0 ∈ text <;> simp [idEvent, idData, retryId.symm, null, stream]
  by_cases retry' : name = ascii "retry"
  · subst retry'
    by_cases decimal : isDecimal text <;> simp [retryEvent, retryData, retryId, decimal, stream, call_silent]
  · simp [data', event', id', retry', stream]

theorem stream_processLine (p : Parser) : (p.processLine silent).stream = p.stream.processLine p.line := by
  rw [processLine_silent]
  rfl

/-- Behind the end of a line: the next line is empty, and the frame goes on unless the line was blank. -/
theorem processLine_ends (live : p.disposed = false) (started : p.first = false)
    (counted : p.frameChars = used + p.line.length) :
    (p.processLine silent).disposed = false ∧ (p.processLine silent).first = false ∧ (p.processLine silent).line = [] ∧
      (p.processLine silent).frameChars = if p.line = [] then 0 else used + p.line.length := by
  rw [processLine_silent, ← counted]
  exact ⟨live, started, rfl, rfl⟩

/-- Where no line feed comes next, it does not matter whether one would be skipped. -/
theorem consume_skipped (live : p.disposed = false) (started : p.first = false)
    (other : c ≠ lineFeed) (rest : List JsString) :
      consume disposes maxFrameChars { p with skipLf := skip } ([c] :: rest) =
      consume disposes maxFrameChars { p with skipLf := false } ([c] :: rest) := by
  have same : step disposes maxFrameChars { p with skipLf := skip } [c] =
      step disposes maxFrameChars { p with skipLf := false } [c] := by
    simp [step, started, other]
  rw [consume_cons (by exact live), consume_cons (by exact live), same]

theorem consume_feed (live : p.disposed = false) (started : p.first = false) (rest : List JsString) :
    consume disposes maxFrameChars { p with skipLf := true } ([lineFeed] :: rest) =
      consume disposes maxFrameChars { p with skipLf := false } rest := by
  have stepped : step disposes maxFrameChars { p with skipLf := true } [lineFeed] =
      some { p with skipLf := false } := by
    simp [step, started]
  rw [consume_cons (by exact live), stepped]
  rfl

theorem consume_end (live : p.disposed = false) (started : p.first = false) (unskipped : p.skipLf = false)
    (ends : c = carriageReturn ∨ c = lineFeed) (rest : List JsString) :
    p.consume silent maxFrameChars ([c] :: rest) =
      consume silent maxFrameChars { p.processLine silent with skipLf := [c] = [carriageReturn] } rest := by
  have own : ({ p with first := false, skipLf := false } : Parser) = p := by
    cases p
    cases started
    cases unskipped
    rfl
  have stepped : p.step silent maxFrameChars [c] =
      some { p.processLine silent with skipLf := [c] = [carriageReturn] } := by
    have ends' : [c] = [carriageReturn] ∨ [c] = [lineFeed] := by simpa using ends
    simp only [step, started, unskipped, Bool.false_and, Bool.false_eq_true, if_false, if_pos ends', own]
  rw [consume_cons live, stepped]
  rfl

end Parser

theorem FramesFit.first (filled : line ≠ [])
    (fit : FramesFit maxFrameChars used (line :: lines)) : used + line.length ≤ maxFrameChars := by
  obtain ⟨-, rest⟩ := fit
  rw [if_neg filled] at rest
  cases lines with
  | nil => exact rest
  | cons => exact rest.1

theorem pieces_ne_nil (text : JsString) : pieces text ≠ [] := by
  induction text using pieces.induct with
  | case1 => exact List.cons_ne_nil _ _
  | case2 _ ends | case4 _ _ _ ends => rw [pieces, if_pos ends]; exact List.cons_ne_nil _ _
  | case3 c other => rw [pieces, if_neg other]; exact List.cons_ne_nil _ _
  | case5 c d _ other ends => rw [pieces, if_neg other, if_pos ends]; exact List.cons_ne_nil _ _
  | case6 c d _ other plain ih =>
    rw [pieces, if_neg other, if_neg plain]
    obtain ⟨line, lines, shape⟩ := List.exists_cons_of_ne_nil ih
    rw [shape]
    exact List.cons_ne_nil _ _

/-- A character of a line behind the first of the text is put to the line, within the limit. -/
theorem Parser.consume_letter {p : Parser} (live : p.disposed = false) (started : p.first = false)
    (letter : ¬(c = carriageReturn ∨ c = lineFeed)) (within : p.frameChars + 1 ≤ maxFrameChars)
    (rest : List JsString) : p.consume silent maxFrameChars ([c] :: rest) =
      consume silent maxFrameChars { p with
        skipLf := false, frameChars := p.frameChars + 1, line := p.line ++ [c] } rest := by
  have stepped : p.step silent maxFrameChars [c] =
      some { p with skipLf := false, frameChars := p.frameChars + 1, line := p.line ++ [c] } := by
    obtain ⟨back, feed⟩ := not_or.mp letter
    simp [step, started, back, feed, Nat.not_lt.mpr within]
  rw [consume_cons live, stepped]
  rfl

theorem Parser.reads_behind {p : Parser} (live : p.disposed = false)
    (started : p.first = false) (counted : p.frameChars = used + p.line.length)
    (fit : FramesFit maxFrameChars used (p.line :: pieces text))
    (reads : ∀ {p : Parser} {used : Nat}, p.disposed = false → p.first = false → p.skipLf = false →
      p.frameChars = used + p.line.length → FramesFit maxFrameChars used ((pieces text).modifyHead (p.line ++ ·)) →
      ∃ q, p.consume silent maxFrameChars (text.map fun c => [c]) = .ok q ∧
        q.calls = (((pieces text).modifyHead (p.line ++ ·)).dropLast.foldl Stream.processLine p.stream).calls) :
    ∃ q, consume silent maxFrameChars { p.processLine silent with skipLf := false } (text.map fun c => [c]) = .ok q ∧
      q.calls = ((p.line :: pieces text).dropLast.foldl Stream.processLine p.stream).calls := by
  obtain ⟨lives, starts, emptied, frame⟩ := processLine_ends live started counted
  have whole : (pieces text).modifyHead ((p.processLine silent).line ++ ·) = pieces text := by
    rw [emptied]
    exact congrFun List.modifyHead_id _
  have counted' : (p.processLine silent).frameChars =
      (if p.line = [] then 0 else used + p.line.length) + (p.processLine silent).line.length := by
    rw [frame, emptied]
    rfl
  have fit' : FramesFit maxFrameChars (if p.line = [] then 0 else used + p.line.length)
      ((pieces text).modifyHead ((p.processLine silent).line ++ ·)) := by
    rw [whole]
    exact fit.2
  obtain ⟨q, consumed, calls⟩ := @reads { p.processLine silent with skipLf := false } _ lives starts rfl counted' fit'
  refine ⟨q, consumed, calls.trans ?_⟩
  rw [whole, List.dropLast_cons_of_ne_nil (pieces_ne_nil text), List.foldl_cons, ← p.stream_processLine]
  rfl

/-- From the middle of a line on, a parser makes the calls of the lines that follow. -/
theorem consume_reads {maxFrameChars : Nat} (text : JsString) {p : Parser} {used : Nat} (live : p.disposed = false)
    (started : p.first = false) (unskipped : p.skipLf = false) (counted : p.frameChars = used + p.line.length)
    (fit : FramesFit maxFrameChars used ((pieces text).modifyHead (p.line ++ ·))) :
    ∃ q, p.consume Parser.silent maxFrameChars (text.map fun c => [c]) = .ok q ∧
      q.calls = (((pieces text).modifyHead (p.line ++ ·)).dropLast.foldl Stream.processLine p.stream).calls := by
  induction text using pieces.induct generalizing p used with
  | case1 => exact ⟨p, rfl, rfl⟩
  | case2 c ends =>
    rw [pieces, if_pos ends]
    refine ⟨_, Parser.consume_end live started unskipped ends [], ?_⟩
    rw [List.modifyHead_cons, List.append_nil]
    exact congrArg Stream.calls p.stream_processLine
  | case3 c other =>
    rw [pieces, if_neg other] at fit ⊢
    have within := fit.first (List.append_ne_nil_of_right_ne_nil _ (List.cons_ne_nil _ _))
    rw [List.length_append, ← Nat.add_assoc, ← counted] at within
    exact ⟨_, Parser.consume_letter live started other within [], rfl⟩
  | case4 c d _ ends ih =>
    obtain ⟨rfl, rfl⟩ := ends
    rw [pieces, if_pos ⟨rfl, rfl⟩, List.modifyHead_cons, List.append_nil] at fit ⊢
    obtain ⟨q, consumed, calls⟩ := Parser.reads_behind live started counted fit ih
    obtain ⟨lives, starts, -, -⟩ := Parser.processLine_ends live started counted
    exact ⟨q, (Parser.consume_end live started unskipped (.inl rfl) _).trans
      ((Parser.consume_feed lives starts _).trans consumed), calls⟩
  | case5 c d _ other ends ih =>
    rw [pieces, if_neg other, if_pos ends, List.modifyHead_cons, List.append_nil] at fit ⊢
    obtain ⟨q, consumed, calls⟩ := Parser.reads_behind live started counted fit ih
    refine ⟨q, (Parser.consume_end live started unskipped ends _).trans ?_, calls⟩
    obtain ⟨lives, starts, -, -⟩ := Parser.processLine_ends live started counted
    rcases ends with rfl | rfl
    · have other : d ≠ lineFeed := fun feed => other ⟨rfl, feed⟩
      exact (Parser.consume_skipped lives starts other _).trans consumed
    · exact consumed
  | case6 c d rest other plain ih =>
    rw [pieces, if_neg other, if_neg plain, List.modifyHead_modifyHead] at fit ⊢
    have joined : ((p.line ++ ·) ∘ (c :: ·) : JsString → JsString) = ((p.line ++ [c]) ++ ·) := by
      funext line
      exact List.append_cons _ _ _
    rw [joined] at fit ⊢
    obtain ⟨line, lines, shape⟩ := List.exists_cons_of_ne_nil (pieces_ne_nil (d :: rest))
    have within : p.frameChars + 1 ≤ maxFrameChars := by
      rw [shape] at fit
      have within := fit.first (by simp)
      simp only [List.length_append, List.length_cons, List.length_nil] at within
      omega
    have read := @ih { p with skipLf := false, frameChars := p.frameChars + 1, line := p.line ++ [c] } used
      live started rfl (by simp [counted, Nat.add_assoc]) fit
    rw [List.map_cons, Parser.consume_letter live started plain within]
    exact read

namespace Parser
variable {disposes : List Call → Bool} {maxFrameChars : Nat} {p q : Parser}

/-- A mark in front of a text is skipped. -/
theorem push_start (c : UInt16) (text : JsString) : push disposes maxFrameChars {} (c :: text) =
    consume disposes maxFrameChars { first := false }
      ((if c = byteOrderMark then text else c :: text).map fun c => [c]) := by
  rw [push, consume_characters, List.map_cons, consume_cons rfl]
  by_cases mark : c = byteOrderMark
  · rw [if_pos mark]
    simp [step, mark]
  · rw [if_neg mark, List.map_cons, consume_cons rfl]
    have stepped : step disposes maxFrameChars {} [c] = step disposes maxFrameChars { first := false } [c] := by
      simp [step, mark]
    rw [stepped]

theorem push_reads (text : JsString)
    (fit : FramesFit maxFrameChars 0 (pieces (unmarked text))) :
    ∃ q, push silent maxFrameChars {} text = .ok q ∧ q.calls = interpret text := by
  cases text with
  | nil => exact ⟨{}, rfl, rfl⟩
  | cons c text =>
    have stripped : unmarked (c :: text) = if c = byteOrderMark then text else c :: text := by
      simp only [unmarked, List.head?_cons, Option.some.injEq, List.drop_succ_cons, List.drop_zero]
    have whole (lines : List JsString) : lines.modifyHead (([] : JsString) ++ ·) = lines :=
      congrFun List.modifyHead_id lines
    rw [stripped] at fit
    obtain ⟨q, consumed, calls⟩ := @consume_reads maxFrameChars (if c = byteOrderMark then text else c :: text)
      { first := false } 0 rfl rfl rfl rfl (by
        rw [whole]
        exact fit)
    rw [whole] at calls
    rw [interpret, stripped]
    exact ⟨q, (push_start c text).trans consumed, calls⟩

/-! ## Callbacks that dispose -/

/-- The same parser, or one that was disposed of behind the same calls. -/
def Cut (p q : Parser) : Prop := p = q ∨ p.disposed = true ∧ p.calls = q.calls

theorem Cut.call (cut : Cut p q) (c : Call) : Cut (p.call disposes c) (q.call silent c) := by
  rw [call_silent]
  unfold Parser.call
  obtain rfl | ⟨gone, same⟩ := cut
  · dsimp only
    split
    · exact .inr ⟨rfl, rfl⟩
    · exact .inl rfl
  · dsimp only
    split
    · exact .inr ⟨rfl, congrArg (· ++ [c]) same⟩
    · exact .inr ⟨gone, congrArg (· ++ [c]) same⟩

theorem Cut.ite {c : Prop} [Decidable c] (yes : Cut a b) (no : Cut p q) :
    Cut (if c then a else p) (if c then b else q) := by
  split
  · exact yes
  · exact no

theorem processLine_cut (p : Parser) : Cut (p.processLine disposes) (p.processLine silent) := by
  have same (p : Parser) : Cut p p := .inl rfl
  unfold processLine
  refine Cut.ite ?_ (.ite (same _) (.ite (same _) (.ite (same _) (.ite (same _) (.ite ((same _).call _) (same _))))))
  cases (if p.data ≠ [] then
    some (Call.onEvent (if p.type ≠ [] then p.type else ascii "message") p.data.dropLast p.id) else none) with
  | none => exact (same _).call _
  | some event => exact ((same _).call _).call event

/-- A turn fails with one kind of callbacks where it does with the other, and else differs by a disposal. -/
theorem step_cut (p : Parser) (character : JsString) :
    (p.step disposes maxFrameChars character = none ∧ p.step silent maxFrameChars character = none) ∨
      ∃ a b, p.step disposes maxFrameChars character = some a ∧ p.step silent maxFrameChars character = some b ∧
        Cut a b := by
  unfold step
  dsimp only
  split
  · exact .inr ⟨_, _, rfl, rfl, .inl rfl⟩
  split
  · exact .inr ⟨_, _, rfl, rfl, .inl rfl⟩
  split
  · refine .inr ⟨_, _, rfl, rfl, ?_⟩
    have cut : Cut (processLine disposes { p with first := false, skipLf := false }) _ := processLine_cut _
    obtain same | ⟨gone, calls⟩ := cut
    · exact .inl (by rw [same])
    · exact .inr ⟨gone, calls⟩
  split
  · exact .inl ⟨rfl, rfl⟩
  · exact .inr ⟨_, _, rfl, rfl, .inl rfl⟩

theorem processLine_calls (p : Parser) : p.calls <+: (p.processLine silent).calls := by
  rw [processLine_silent]
  dsimp only
  unfold Stream.processLine Stream.dispatch Stream.processField
  split
  · exact List.prefix_append _ _
  split
  · exact List.prefix_rfl
  split
  · exact List.prefix_rfl
  split
  · exact List.prefix_rfl
  split
  · split <;> exact List.prefix_rfl
  split
  · split
    · exact List.prefix_append _ _
    · exact List.prefix_rfl
  · exact List.prefix_rfl

theorem step_calls (stepped : p.step silent maxFrameChars character = some q) : p.calls <+: q.calls := by
  unfold step at stepped
  dsimp only at stepped
  split at stepped
  · cases stepped
    exact List.prefix_rfl
  split at stepped
  · cases stepped
    exact List.prefix_rfl
  split at stepped
  · cases stepped
    exact processLine_calls { p with first := false, skipLf := false }
  split at stepped
  · cases stepped
  · cases stepped
    exact List.prefix_rfl

theorem consume_calls (consumed : p.consume silent maxFrameChars rest = .ok q) : p.calls <+: q.calls := by
  induction rest generalizing p with
  | nil =>
    cases consumed
    exact List.prefix_rfl
  | cons character _ ih =>
    cases live : p.disposed with
    | true =>
      rw [consume_disposed live] at consumed
      cases consumed
      exact List.prefix_rfl
    | false =>
      rw [consume_cons live] at consumed
      cases stepped : p.step silent maxFrameChars character with
      | none =>
        rw [stepped] at consumed
        cases consumed
      | some =>
        rw [stepped] at consumed
        exact (step_calls stepped).trans (ih consumed)

/-- Callbacks that dispose of the parser only end the calls earlier. -/
theorem consume_cut (consumed : p.consume silent maxFrameChars rest = .ok r) :
    ∃ q, p.consume disposes maxFrameChars rest = .ok q ∧ q.calls <+: r.calls ∧ (q.disposed = false → q = r) := by
  induction rest generalizing p with
  | nil =>
    cases consumed
    exact ⟨_, rfl, List.prefix_rfl, fun _ => rfl⟩
  | cons character rest ih =>
    cases live : p.disposed with
    | true =>
      rw [consume_disposed live] at consumed
      cases consumed
      exact ⟨_, consume_disposed live _, List.prefix_rfl, fun _ => rfl⟩
    | false =>
      rw [consume_cons live] at consumed ⊢
      obtain ⟨-, fails⟩ | ⟨a, b, stepped, silently, cut⟩ :
          (p.step disposes maxFrameChars character = none ∧ _) ∨ ∃ a b, p.step disposes maxFrameChars character = some a ∧ _ :=
        step_cut p character
      · rw [fails] at consumed
        cases consumed
      rw [silently] at consumed
      rw [stepped]
      obtain rfl | ⟨gone, calls⟩ := cut
      · exact ih consumed
      · refine ⟨a, consume_disposed gone rest, ?_, ?_⟩
        · rw [calls]
          exact consume_calls consumed
        · intro live
          exact absurd (live.symm.trans gone) Bool.false_ne_true

end Parser

/-- However a text is cut, the calls are those for the whole text. While every frame fits they are those of the
standard, unless a callback has disposed of the parser, behind which there are none. -/
theorem push_interprets (disposes : List Call → Bool) (maxFrameChars : Nat) (chunks : List JsString) :
    chunks.foldlM (Parser.push disposes maxFrameChars) {} = Parser.push disposes maxFrameChars {} chunks.flatten ∧
      (FramesFit maxFrameChars 0 (pieces (unmarked chunks.flatten)) →
        ∃ q, chunks.foldlM (Parser.push disposes maxFrameChars) {} = .ok q ∧
          q.calls <+: interpret chunks.flatten ∧ (q.disposed = false → q.calls = interpret chunks.flatten)) := by
  refine ⟨Parser.push_flatten chunks, ?_⟩
  intro fit
  obtain ⟨r, read, calls⟩ := Parser.push_reads chunks.flatten fit
  obtain ⟨q, pushed, cut, whole⟩ : ∃ q, Parser.consume disposes maxFrameChars _ _ = .ok q ∧ _ := Parser.consume_cut read
  refine ⟨q, (Parser.push_flatten chunks).trans pushed, calls ▸ cut, ?_⟩
  intro live
  rw [whole live, calls]

/-- A text that was cut inside a line's end and inside a name. -/
theorem cut_text_interprets : ∃ q,
    [ascii "da", ascii "ta: one\r", ascii "\ndata:two\n\nid"].foldlM (Parser.push Parser.silent 100) {} = .ok q ∧
      (q.disposed = false → q.calls = [.onId [], .onEvent (ascii "message") (ascii "one\ntwo") []]) := by
  obtain ⟨q, pushed, -, calls⟩ := (push_interprets Parser.silent 100
    [ascii "da", ascii "ta: one\r", ascii "\ndata:two\n\nid"]).2 (by decide +kernel)
  refine ⟨q, pushed, ?_⟩
  intro live
  rw [calls live]
  decide +kernel

end Duskcue.EventFraming
