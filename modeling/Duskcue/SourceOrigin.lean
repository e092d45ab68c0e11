import Duskcue.ReadinessMp4

/-! Where a copied source starts. The initialization file names its two tracks with their
time scales, and the first `moof` the time at which each of them starts; the origin is the
earlier of the two. The files are written by another program, so every size and number
in them is taken as it comes: an operation that would panic or overflow is a fault of
its own here, apart from the failure that the server reports. -/
namespace Duskcue.SourceOrigin
open BoxFormat ReadinessMp4

/-- What stops the server: the failure it reports, or a panic. -/
inductive Fault
  | failure | panic

abbrev Checked (α : Type) := Except Fault α

/-! ## Operations that can panic -/

/-- The result of an operation on numbers of so many bits. -/
def fit (bits n : Nat) : Checked Nat := if n < 2 ^ bits then .ok n else .error .panic

/-- `&bytes[a..b]`. -/
def slice (bytes : List UInt8) (a b : Nat) : Checked (List UInt8) :=
  if a ≤ b ∧ b ≤ bytes.length then .ok ((bytes.drop a).take (b - a)) else .error .panic

def divide (a b : Nat) : Checked Nat := if b = 0 then .error .panic else .ok (a / b)

/-- `bytes.get(a..b).ok_or_else(failure)`. -/
def get (bytes : List UInt8) (a b : Nat) : Checked (List UInt8) :=
  if a ≤ b ∧ b ≤ bytes.length then .ok ((bytes.drop a).take (b - a)) else .error .failure

/-- Stop unless the condition holds. -/
def require (condition : Bool) : Checked Unit := if condition then .ok () else .error .failure

/-! ## Numbers -/

def number (bytes : List UInt8) (offset : Nat) : Checked Nat := do
  let end_ ← fit 64 (offset + 4)
  let word ← get bytes offset end_
  pure (bigEndian word)

def long (bytes : List UInt8) (offset : Nat) : Checked Nat := do
  let end_ ← fit 64 (offset + 8)
  let word ← get bytes offset end_
  pure (bigEndian word)

def versionedNumber (bytes : List UInt8) : Checked Nat :=
  match bytes.head? with
  | some 0 => number bytes 12
  | some 1 => number bytes 20
  | _ => .error .failure

/-! ## Boxes -/

/-- The size of a box and of its header. -/
def boxSize (bytes : List UInt8) : Checked (Nat × Nat) := do
  let small ← number bytes 0
  if small = 1 then do
    let size ← long bytes 8
    pure (size, 16)
  else pure (small, 8)

/-- The loop of `atoms`, with the number of boxes that may still follow. -/
def atomsFrom : Nat → List UInt8 → Checked (List Atom)
  | _, [] => .ok []
  | 0, _ :: _ => .error .failure
  | left + 1, bytes => do
    require (8 ≤ bytes.length)
    let found ← boxSize bytes
    require (found.2 ≤ found.1 && found.1 ≤ bytes.length)
    let kind ← slice bytes 4 8
    let payload ← slice bytes found.2 found.1
    let rest ← slice bytes found.1 bytes.length
    let others ← atomsFrom left rest
    pure (⟨kind, payload⟩ :: others)

def atoms (bytes : List UInt8) : Checked (List Atom) := atomsFrom 256 bytes

def unique (atoms : List Atom) (kind : List UInt8) : Checked (List UInt8) :=
  match atoms.filter (·.kind = kind) with
  | [atom] => .ok atom.payload
  | _ => .error .failure

def trak : List UInt8 := [0x74, 0x72, 0x61, 0x6b]
def edts : List UInt8 := [0x65, 0x64, 0x74, 0x73]
def elst : List UInt8 := [0x65, 0x6c, 0x73, 0x74]
def tkhd : List UInt8 := [0x74, 0x6b, 0x68, 0x64]
def mdia : List UInt8 := [0x6d, 0x64, 0x69, 0x61]
def mdhd : List UInt8 := [0x6d, 0x64, 0x68, 0x64]
def hdlr : List UInt8 := [0x68, 0x64, 0x6c, 0x72]
def vide : List UInt8 := [0x76, 0x69, 0x64, 0x65]
def soun : List UInt8 := [0x73, 0x6f, 0x75, 0x6e]
def traf : List UInt8 := [0x74, 0x72, 0x61, 0x66]
def tfhd : List UInt8 := [0x74, 0x66, 0x68, 0x64]
def tfdt : List UInt8 := [0x74, 0x66, 0x64, 0x74]
def trun : List UInt8 := [0x74, 0x72, 0x75, 0x6e]

/-! ## Tracks -/

structure Track where
  id : Nat
  scale : Nat
  handler : List UInt8

/-- No list of edits may shift the track. -/
def unedited : List Atom → Checked Unit
  | [] => .ok ()
  | edits :: rest => do
    let inner ← atoms edits.payload
    require !(inner.any (·.kind = elst))
    unedited rest

def readTrack (payload : List UInt8) : Checked Track := do
  let boxes ← atoms payload
  unedited (boxes.filter (·.kind = edts))
  let header ← unique boxes tkhd
  let id ← versionedNumber header
  let inner ← unique boxes mdia
  let media ← atoms inner
  let timing ← unique media mdhd
  let scale ← versionedNumber timing
  let reference ← unique media hdlr
  let handler ← get reference 8 12
  pure { id, scale, handler }

/-- One track after those that are known; both maps of the source are in the one list. -/
def addTrack (known : List Track) (atom : Atom) : Checked (List Track) := do
  require (known.length < 2)
  let track ← readTrack atom.payload
  require (track.id ≠ 0 && 1 ≤ track.scale && track.scale ≤ 1000000000 &&
    (track.handler = vide || track.handler = soun) && !known.any (·.id = track.id) &&
    !known.any (·.handler = track.handler))
  pure (known ++ [track])

def tracks (initialization : List UInt8) : Checked (List Track) := do
  let root ← atoms initialization
  let inner ← unique root moov
  let movie ← atoms inner
  let known ← (movie.filter (·.kind = trak)).foldlM addTrack []
  require (known.length = 2)
  pure known

/-! ## Fragments -/

/-- The length of a `tfhd` box with these flags. -/
def headerLength (flags : Nat) : List (Nat × Nat) → Nat → Checked Nat
  | [], length => .ok length
  | (flag, bytes) :: rest, length => do
    let length ← (if flags &&& flag ≠ 0 then fit 64 (length + bytes) else .ok length)
    headerLength flags rest length

def trackId (bytes : List UInt8) : Checked Nat := do
  let flags ← number bytes 0
  require (flags >>> 24 = 0 && flags &&& (0xffffffff ^^^ 0x0003003b) = 0)
  let length ← headerLength flags [(1, 8), (2, 4), (8, 4), (16, 4), (32, 4)] 8
  require (length = bytes.length)
  number bytes 4

def decodeTime (bytes : List UInt8) : Checked Nat := do
  let first ← number bytes 0
  require (first &&& 0x00ffffff = 0)
  match bytes.head? with
  | some 0 => if bytes.length = 8 then number bytes 4 else .error .failure
  | some 1 => if bytes.length = 12 then long bytes 4 else .error .failure
  | _ => .error .failure

/-- The length of a `trun` box with these flags and so many samples. -/
def runLength (flags count : Nat) : Checked Nat := do
  let fields := ([0x100, 0x200, 0x400, 0x800].filter fun flag => flags &&& flag ≠ 0).length
  let perSample ← fit 64 (fields * 4)
  let offset ← fit 64 (8 + if flags &&& 1 ≠ 0 then 4 else 0)
  let head ← fit 64 (offset + if flags &&& 4 ≠ 0 then 4 else 0)
  let samples ← (if count * perSample < 2 ^ 64 then .ok (count * perSample) else .error .failure)
  fit 64 (head + samples)

def samples (bytes : List UInt8) : Checked Unit := do
  let flags ← number bytes 0
  let count ← number bytes 4
  require (flags >>> 24 ≤ 1 && flags &&& 0x00ffffff &&& (0xffffffff ^^^ 0x00000f05) = 0 && 1 ≤ count && count ≤ 65536)
  let expected ← runLength flags count
  require (expected = bytes.length)

def eachSamples : List Atom → Checked Unit
  | [] => .ok ()
  | run :: rest => do
    samples run.payload
    eachSamples rest

/-- A track in the fragment, with the time at which it starts. -/
structure Start where
  id : Nat
  time : Nat
  scale : Nat

/-- `time * 1000 / scale`, in 128 bits. -/
def milliseconds (time scale : Nat) : Checked Nat := do
  let product ← fit 128 (time * 1000)
  divide product scale

def i32Max : Nat := 2 ^ 31 - 1

def addStart (known : List Track) (found : List Start) (fragment : Atom) : Checked (List Start) := do
  require (found.length < 2)
  let records ← atoms fragment.payload
  let header ← unique records tfhd
  let id ← trackId header
  match known.find? (·.id = id) with
  | none => .error .failure
  | some track => do
    let timing ← unique records tfdt
    let time ← decodeTime timing
    let start ← milliseconds time track.scale
    require (start ≤ i32Max)
    let runs := records.filter (·.kind = trun)
    require (!runs.isEmpty && !found.any (·.id = id))
    eachSamples runs
    pure (found ++ [{ id, time, scale := track.scale }])

/-- The milliseconds of every track. -/
def eachMilliseconds : List Start → Checked (List Nat)
  | [] => .ok []
  | start :: rest => do
    let own ← milliseconds start.time start.scale
    let others ← eachMilliseconds rest
    pure (own :: others)

def initLimit : Nat := 512 * 1024

def origin (initialization moof : List UInt8) (requestedMs : Int) : Checked Int := do
  require (initialization.length ≤ initLimit && moof.length ≤ moofLimit && 0 ≤ requestedMs)
  let known ← tracks initialization
  let boxes ← atoms moof
  let found ← (boxes.filter (·.kind = traf)).foldlM (addStart known) []
  require (found.length = known.length)
  let times ← eachMilliseconds found
  match times.min? with
  | none => .error .failure
  | some earliest => do
    require (earliest < 2 ^ 63)
    require ((earliest : Int) ≤ requestedMs && earliest ≤ i32Max)
    pure earliest

end Duskcue.SourceOrigin
