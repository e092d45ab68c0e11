import Duskcue.HlsManifest
import Mathlib.Algebra.Field.Rat

/-! The playlist a starting transcode has to publish before its session is announced
ready. `parse` reads the whole text; a text that may still grow gives no
references yet. -/
namespace Duskcue.Hls
open Text

inductive Publication
  | vod | event
  deriving DecidableEq

/-- `readiness_playlist::References`. -/
structure StartupReferences where
  initialization : List Char
  segment : List Char
  publication : Publication
  ended : Bool
  deriving DecidableEq

/-! ## Numbers -/

def decimalValue (digits : List Char) : Nat :=
  digits.foldl (fun value digit => 10 * value + (digit.toNat - '0'.toNat)) 0

/-- `str::parse::<u64>`. -/
def parseU64 (text : List Char) : Option Nat :=
  let digits := (stripPrefix ['+'] text).getD text
  if digits ≠ [] ∧ digits.all Char.isDigit ∧ decimalValue digits < 2 ^ 64 then some (decimalValue digits) else none

/-- The sign in front of a number, and what follows. -/
def splitSign : List Char → Bool × List Char
  | '-' :: rest => (true, rest)
  | '+' :: rest => (false, rest)
  | text => (false, text)

/-- The exponent at the end of a number: nothing, or a letter and an integer. -/
def parseExponent : List Char → Option Int
  | [] => some 0
  | e :: rest =>
    let (negative, digits) := splitSign rest
    if (e = 'e' ∨ e = 'E') ∧ digits ≠ [] ∧ digits.all Char.isDigit then
      some (if negative then -(decimalValue digits : Int) else decimalValue digits)
    else none

/-- `Digit+ | Digit+ '.' Digit* | Digit* '.' Digit+`, with the exponent: the exact value. -/
def parseNumber (text : List Char) : Option ℚ :=
  let whole := text.takeWhile Char.isDigit
  let rest := text.dropWhile Char.isDigit
  let fraction := if rest.head? = some '.' then rest.tail.takeWhile Char.isDigit else []
  let ending := if rest.head? = some '.' then rest.tail.dropWhile Char.isDigit else rest
  if whole = [] ∧ fraction = [] then none
  else (parseExponent ending).map fun exponent =>
    (decimalValue (whole ++ fraction) : ℚ) * 10 ^ (exponent - (fraction.length : Int))

/-- `str::parse::<f64>` gives a finite value above zero. The value is rounded to the
nearest double, ties to even: up to half the least subnormal that is zero, and from half a
step beyond the greatest double on it is infinite. `inf`, `infinity` and `nan` are no
finite values. -/
def parsesPositive (text : List Char) : Bool :=
  let (negative, number) := splitSign text
  !negative && (parseNumber number).any fun value =>
    decide (((2 : ℚ) ^ 1075)⁻¹ < value) && decide (value < 2 ^ 1024 - 2 ^ 970)

/-! ## Lines -/

/-- `segment_name`. -/
def segmentName (filename : List Char) : Bool :=
  byteLength filename ≤ 64 && (segmentNumber filename).any fun number => !number.isEmpty && number.all Char.isDigit

structure Startup where
  initialization : Option (List Char) := none
  firstSegment : Option (List Char) := none
  publication : Option Publication := none
  targetDuration : Bool := false
  segmentPending : Bool := false
  ended : Bool := false

def publicationType (value : List Char) : Option Publication :=
  if value = "VOD".toList then some .vod else if value = "EVENT".toList then some .event else none

def invalid {α : Type} (message : String) : Except PlaybackError α := .error (.ffmpegFailed message)

def startupPublication (state : Startup) (value : List Char) : Except PlaybackError (Option Startup) :=
  match publicationType value with
  | none => invalid "unsupported HLS startup playlist type"
  | some value =>
    if state.publication.isSome then invalid "duplicate HLS startup playlist type"
    else .ok (some { state with publication := some value })

def startupDuration (state : Startup) (value : List Char) : Except PlaybackError (Option Startup) :=
  if !(parseU64 value).any (fun duration => 0 < duration && duration ≤ 86400) || state.targetDuration then
    invalid "invalid HLS startup target duration"
  else .ok (some { state with targetDuration := true })

def startupMap (state : Startup) (line : List Char) : Except PlaybackError (Option Startup) :=
  match ((stripPrefix "#EXT-X-MAP:URI=\"".toList line).bind (stripSuffix ['"'])).filter (· = "init.mp4".toList) with
  | none => invalid "unowned or unsupported HLS initialization reference"
  | some filename =>
    if state.initialization.isSome then invalid "duplicate HLS startup initialization reference"
    else .ok (some { state with initialization := some filename })

def startupInf (state : Startup) (value : List Char) : Except PlaybackError (Option Startup) :=
  let duration := (splitOnce [','] value).map Prod.fst
  if state.ended || state.segmentPending || !duration.any parsesPositive then
    invalid "invalid HLS startup segment duration"
  else .ok (some { state with segmentPending := true })

def startupSegment (state : Startup) (line : List Char) : Except PlaybackError (Option Startup) :=
  if !state.segmentPending || state.ended || !segmentName line then
    invalid "unowned or invalid HLS startup segment reference"
  else .ok (some { state with
    segmentPending := false, firstSegment := if state.firstSegment.isNone then some line else state.firstSegment })

/-- One line behind the header. `none` is the early `return Ok(None)`. -/
def startupLine (state : Startup) (line : List Char) : Except PlaybackError (Option Startup) :=
  if 1024 < byteLength line then invalid "oversized HLS startup playlist line"
  else match stripPrefix "#EXT-X-PLAYLIST-TYPE:".toList line with
    | some value => startupPublication state value
    | none => match stripPrefix "#EXT-X-TARGETDURATION:".toList line with
      | some value => startupDuration state value
      | none =>
        if "#EXT-X-MAP:".toList <+: line then startupMap state line
        else match stripPrefix "#EXTINF:".toList line with
          | some value => startupInf state value
          | none =>
            if line = "#EXT-X-ENDLIST".toList then
              if state.ended || state.segmentPending then .ok none else .ok (some { state with ended := true })
            else if "URI=".toList <:+: line ∨ "#EXT-X-STREAM-INF:".toList <+: line ∨
                "#EXT-X-BYTERANGE:".toList <+: line then
              invalid "unsupported HLS startup resource reference"
            else if line.head? ≠ some '#' then startupSegment state line
            else .ok (some state)

def startupLines : Startup → List (List Char) → Except PlaybackError (Option Startup)
  | state, [] => .ok (some state)
  | state, line :: rest => do
    match ← startupLine state line with
    | none => .ok none
    | some state => startupLines state rest

/-- What is known behind the last line. -/
def Startup.references (state : Startup) : Option StartupReferences :=
  if state.segmentPending || !state.targetDuration then none
  else match state.initialization, state.firstSegment, state.publication with
    | some initialization, some segment, some publication =>
      if publication = .vod ∧ !state.ended then none
      else some ⟨initialization, segment, publication, state.ended⟩
    | _, _, _ => none

def parse (content : List Char) : Except PlaybackError (Option StartupReferences) :=
  if content.getLast? ≠ some '\n' ∧ content.getLast? ≠ some '\r' then .ok none
  else match ((lines content).map trim).filter (· ≠ []) with
    | [] => invalid "invalid HLS startup playlist header"
    | header :: rest =>
      if header ≠ "#EXTM3U".toList then invalid "invalid HLS startup playlist header"
      else do
        match ← startupLines {} rest with
        | none => .ok none
        | some state => .ok state.references

end Duskcue.Hls
