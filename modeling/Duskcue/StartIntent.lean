import Duskcue.JsonOrder
import Duskcue.PlaybackSchema

/-! The intent of a start command: a selection that a client writes as JSON is completed
with its defaults, read, checked, put in one order and hashed. A repeated command is
recognised by that hash, so it must not depend on the order in which a client writes
members, and must tell any two different selections apart. -/
namespace Duskcue.StartIntent
open Playback (Uuid Time)

variable {ν η : Type}

/-- What the libraries do: the texts of identifiers and of instants, the bytes of a value
and their digest. -/
structure Formats (ν η : Type) where
  uuid : String → Option Uuid
  time : String → Option Time
  toVec : Json ν → Option (List UInt8)
  digest : List UInt8 → η

/-- A `serde_json::Value`: an object does not repeat a key. The order of its members is
that of the map that holds it. -/
structure Value (ν : Type) where
  json : Json ν
  distinct : json.Distinct

def bodyLimit : Nat := 32768
def protocol : String := "duskcue-vod-command/2"

structure StartRequest (ν : Type) where
  protocol : String
  requestId : Uuid
  selection : Value ν

/-- `Uuid::get_version_num`. -/
def version (id : Uuid) : Nat := (id >>> 76).toNat % 16

/-! ## Reading a selection -/

/-- `Value::as_u64`. -/
def asU64 : Json ν → Option Nat
  | .integer n => if 0 ≤ n ∧ n < 2 ^ 64 then some n.toNat else none
  | _ => none

def asU8 : Json ν → Option Nat
  | .integer n => if 0 ≤ n ∧ n < 2 ^ 8 then some n.toNat else none
  | _ => none

/-- `Value::as_array`. -/
def asArray : Json ν → Option (List (Json ν))
  | .list items => some items
  | _ => none

section
variable {α : Type} (read : Json ν → Option α)

def nullable (value : Json ν) : Option (Option α) :=
  match value with
  | .null => some none
  | value => (read value).map some

/-- An optional field of a structure. -/
def optional (fields : List (String × Json ν)) (key : String) : Option (Option α) :=
  match fields.lookup key with
  | none => some none
  | some value => nullable read value

def required (fields : List (String × Json ν)) (key : String) : Option α := (fields.lookup key).bind read

end

structure CapabilityObservation where
  candidateId : String
  status : String
  supported : Option Bool
  smooth : Option Bool
  powerEfficient : Option Bool
  deliverySupported : Option Bool

/-- A structure is read by the names of its fields, or from a list in their order. -/
def CapabilityObservation.read : Json ν → Option CapabilityObservation
  | .object fields => do
    let candidateId ← required Json.asStr fields "candidate_id"
    let status ← required Json.asStr fields "status"
    let supported ← optional Json.asBool fields "supported"
    let smooth ← optional Json.asBool fields "smooth"
    let powerEfficient ← optional Json.asBool fields "power_efficient"
    let deliverySupported ← optional Json.asBool fields "delivery_supported"
    pure { candidateId, status, supported, smooth, powerEfficient, deliverySupported }
  | .list [candidate, state, support, smoothness, efficiency, delivery] => do
    let candidateId ← candidate.asStr
    let status ← state.asStr
    let supported ← nullable Json.asBool support
    let smooth ← nullable Json.asBool smoothness
    let powerEfficient ← nullable Json.asBool efficiency
    let deliverySupported ← nullable Json.asBool delivery
    pure { candidateId, status, supported, smooth, powerEfficient, deliverySupported }
  | _ => none

def CapabilityObservation.valid (observation : CapabilityObservation) : Bool :=
  observation.candidateId.length ≤ 32 && observation.status.length ≤ 16

structure SourceCapabilities where
  version : Nat
  sourceRevision : String
  observations : List CapabilityObservation

def SourceCapabilities.read (value : Json ν) : Option SourceCapabilities :=
  if (value.get "version").bind asU64 ≠ some 1 then some { version := 0, sourceRevision := "", observations := [] }
  else if ((value.get "observations").bind asArray).any (3 < ·.length) ||
      ((value.get "source_revision").bind Json.asStr).any (64 < ·.utf8ByteSize) then none
  else do
    let sourceRevision ← (value.get "source_revision").bind Json.asStr
    let items ← (value.get "observations").bind asArray
    let observations ← items.mapM CapabilityObservation.read
    pure { version := 1, sourceRevision, observations }

def SourceCapabilities.valid (capabilities : SourceCapabilities) : Bool :=
  capabilities.sourceRevision.length ≤ 64 && capabilities.observations.all (·.valid)

/-- `StartPlaybackRequest`. -/
structure Selection (ν : Type) where
  mediaItemId : Option Uuid
  mediaFileId : Option Uuid
  audioStreamIndex : Option Int
  subtitleStreamIndex : Option Int
  maxStreamingBitrate : Option Nat
  forceTranscode : Option Bool
  forceHls : Option Bool
  directRecoveryProtocol : Option Nat
  deviceProfile : Option (Json ν)
  sourceCapabilities : Option SourceCapabilities
  qualityMode : Option String
  playbackMode : Option String
  ambientChannelId : Option Uuid
  ambientChannelUpdatedAt : Option Time

def readUuid (formats : Formats ν η) (value : Json ν) : Option Uuid := value.asStr.bind formats.uuid

def readTime (formats : Formats ν η) (value : Json ν) : Option Time := value.asStr.bind formats.time

/-- `serde_json::from_value`. -/
def Selection.read (formats : Formats ν η) (fields : List (String × Json ν)) : Option (Selection ν) := do
  let mediaItemId ← optional (readUuid formats) fields "media_item_id"
  let mediaFileId ← optional (readUuid formats) fields "media_file_id"
  let audioStreamIndex ← optional Json.asI32 fields "audio_stream_index"
  let subtitleStreamIndex ← optional Json.asI32 fields "subtitle_stream_index"
  let maxStreamingBitrate ← optional asU64 fields "max_streaming_bitrate"
  let forceTranscode ← optional Json.asBool fields "force_transcode"
  let forceHls ← optional Json.asBool fields "force_hls"
  let directRecoveryProtocol ← optional asU8 fields "direct_recovery_protocol"
  let deviceProfile ← optional some fields "device_profile"
  let sourceCapabilities ← optional SourceCapabilities.read fields "source_capabilities"
  let qualityMode ← optional Json.asStr fields "quality_mode"
  let playbackMode ← optional Json.asStr fields "playback_mode"
  let ambientChannelId ← optional (readUuid formats) fields "ambient_channel_id"
  let ambientChannelUpdatedAt ← optional (readTime formats) fields "ambient_channel_updated_at"
  pure { mediaItemId, mediaFileId, audioStreamIndex, subtitleStreamIndex, maxStreamingBitrate, forceTranscode, forceHls,
         directRecoveryProtocol, deviceProfile, sourceCapabilities, qualityMode, playbackMode, ambientChannelId,
         ambientChannelUpdatedAt }

/-- `Validate::validate`. -/
def Selection.validate (selection : Selection ν) : Bool :=
  selection.mediaItemId.isSome && selection.sourceCapabilities.all (·.valid)

/-- The checks of `intent` on what was read. -/
def Selection.admissible (selection : Selection ν) : Bool :=
  !(selection.mediaItemId.isNone ||
    selection.audioStreamIndex.any (· < 0) ||
    selection.subtitleStreamIndex.any (· < 0) ||
    selection.maxStreamingBitrate.any (fun n => n = 0 || 2 ^ 32 - 1 < n) ||
    selection.directRecoveryProtocol.any (1 < ·) ||
    selection.qualityMode.any (fun mode => !(["auto", "maximum", "manual"].contains mode)) ||
    selection.sourceCapabilities.any (·.version ≠ 1))

/-! ## Defaults -/

def selectionFields : List String :=
  ["media_item_id", "media_file_id", "audio_stream_index", "subtitle_stream_index", "max_streaming_bitrate",
   "force_transcode", "force_hls", "direct_recovery_protocol", "device_profile", "source_capabilities", "quality_mode",
   "playback_mode", "ambient_channel_id", "ambient_channel_updated_at"]

/-- `Map::insert`. A new member goes last here. -/
def put (key : String) (value : Json ν) : List (String × Json ν) → List (String × Json ν)
  | [] => [(key, value)]
  | (k, v) :: rest => if k = key then (key, value) :: rest else (k, v) :: put key value rest

/-- `entry(key).or_insert(Value::Null)`. -/
def orInsert (fields : List (String × Json ν)) (key : String) : List (String × Json ν) :=
  if (fields.lookup key).isSome then fields else put key .null fields

/-- One value of a field in place of another. -/
def substitute (key : String) (applies : Json ν → Bool) (value : Json ν) (fields : List (String × Json ν)) :
    List (String × Json ν) :=
  if (fields.lookup key).any applies then put key value fields else fields

def isZero : Json ν → Bool
  | .integer n => n = 0
  | _ => false

def withDefaults (fields : List (String × Json ν)) : List (String × Json ν) :=
  let complete := selectionFields.foldl orInsert fields
  let flagged := ["force_transcode", "force_hls"].foldl
    (fun fields key => substitute key Json.isNull (.bool false) fields) complete
  let moded := substitute "playback_mode" Json.isNull (.text "interactive") flagged
  substitute "direct_recovery_protocol" isZero .null moded

/-- The members of the selection as `intent` completes them. -/
def normalised : Json ν → Option (List (String × Json ν))
  | .object fields =>
    if fields.any (fun field => !selectionFields.contains field.1) then none else some (withDefaults fields)
  | _ => none

/-! ## One order -/

mutual
/-- The canonical form, with the number of values visited so far. -/
def canonical (value : Json ν) (depth nodes : Nat) : Option (Json ν × Nat) :=
  if 16 < depth ∨ 4096 < nodes + 1 then none
  else
    match value with
    | .object fields => do
      let (ordered, nodes) ← canonicalMembers fields (depth + 1) (nodes + 1) []
      pure (.object ordered, nodes)
    | .list items => do
      let (items, nodes) ← canonicalItems items (depth + 1) (nodes + 1)
      pure (.list items, nodes)
    | value => some (value, nodes + 1)

def canonicalMembers (fields : List (String × Json ν)) (depth nodes : Nat) (ordered : List (String × Json ν)) :
    Option (List (String × Json ν) × Nat) :=
  match fields with
  | [] => some (ordered, nodes)
  | (key, value) :: rest => do
    let (value, nodes) ← canonical value depth nodes
    canonicalMembers rest depth nodes (Entries.insert key value ordered)

def canonicalItems (items : List (Json ν)) (depth nodes : Nat) : Option (List (Json ν) × Nat) :=
  match items with
  | [] => some ([], nodes)
  | item :: rest => do
    let (item, nodes) ← canonical item depth nodes
    let (rest, nodes) ← canonicalItems rest depth nodes
    pure (item :: rest, nodes)
end

structure Intent (ν η : Type) where
  id : Uuid
  selection : Selection ν
  hash : η

/-- What `intent` makes of the completed members: `none` is `CommandError::Invalid`, as
everywhere here. -/
def digested (formats : Formats ν η) (fields : List (String × Json ν)) : Option (Selection ν × η) := do
  let selection ← Selection.read formats fields
  guard (selection.validate && selection.admissible)
  let (ordered, _) ← canonical (.object fields) 0 0
  let bytes ← formats.toVec (.list [.text protocol, ordered])
  guard (bytes.length ≤ bodyLimit)
  pure (selection, formats.digest bytes)

/-- The request names this protocol, and its identifier is of version 7. -/
def StartRequest.addressed (request : StartRequest ν) : Bool :=
  request.protocol = StartIntent.protocol && version request.requestId = 7

/-- `StartRequest::intent`. -/
def StartRequest.intent (formats : Formats ν η) (request : StartRequest ν) : Option (Intent ν η) := do
  guard request.addressed
  let fields ← normalised request.selection.json
  let (selection, hash) ← digested formats fields
  pure { id := request.requestId, selection, hash }

end Duskcue.StartIntent
