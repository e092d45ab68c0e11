import Duskcue.PlaybackSchema
import Duskcue.Text

/-! The playlists of a transcode session. FFmpeg writes a master or a media playlist
with names relative to the session's directory; `normalize_manifest` binds every
name to a route of the server, and `rendition_playlist` finds the file behind
such a route again. A text is the list of its characters, a path the text of
it. -/
namespace Duskcue.Hls
open Playback (Uuid)
open Text

inductive PlaybackError
  | sessionNotFound
  | ffmpegFailed (message : String)
  deriving DecidableEq

/-- `vod_lifecycle::PLAYLIST`, in bytes. -/
def playlistLimit : Nat := 1024 * 1024

def hexDigit (n : Nat) : Char := "0123456789abcdef".toList.getD n '0'

/-- The digits `first`, `first + 1`, ... of an identifier, from the left. -/
def hexDigits (id : Uuid) (first count : Nat) : List Char :=
  (List.range' first count).map fun i => hexDigit (id.extractLsb' (4 * (31 - i)) 4).toNat

/-- `Display` of a `Uuid`. -/
def display (id : Uuid) : List Char :=
  hexDigits id 0 8 ++ '-' :: hexDigits id 8 4 ++ '-' :: hexDigits id 12 4 ++ '-' :: hexDigits id 16 4 ++
    '-' :: hexDigits id 20 12

/-- `Path::join`. -/
def joinPath (directory path : List Char) : List Char :=
  if path.head? = some '/' then path
  else if directory = [] ∨ directory.getLast? = some '/' then directory ++ path
  else directory ++ '/' :: path

/-- Where the routes of a session start. -/
def transcodeBase (session : Uuid) : List Char :=
  "/api/v1/transcode/".toList ++ display session ++ ['/']

/-- Where the routes of an output of a viewer start. -/
def outputBase (viewer output : Uuid) : List Char :=
  "/api/v1/playback-commands/".toList ++ display viewer ++ "/outputs/".toList ++ display output ++ "/hls/".toList

/-! ## Names -/

def validateRendition (name : List Char) : Except PlaybackError Unit :=
  if name.isEmpty || 64 < byteLength name || !name.all fun c => c.isAlphanum || c = '_' || c = '-' then
    .error .sessionNotFound
  else .ok ()

/-- The number of a segment's file name. -/
def segmentNumber (name : List Char) : Option (List Char) :=
  (stripPrefix "seg_".toList name).bind (stripSuffix ".m4s".toList)

def validateSegmentFilename (name : List Char) : Except PlaybackError Unit :=
  if name = "init.mp4".toList then .ok ()
  else if 64 < byteLength name || !(segmentNumber name).any fun number => !number.isEmpty && number.all Char.isDigit then
    .error .sessionNotFound
  else .ok ()

def isMaster (content : List Char) : Bool :=
  (lines content).any fun line => decide ("#EXT-X-STREAM-INF:".toList <+: line)

/-- The rendition a variant's URI names, in one of its three spellings. -/
def variantName (uri : List Char) : Option (List Char) :=
  match uri.splitOn '/' with
  | [file] => stripSuffix "_index.m3u8".toList file
  | [rendition, file] =>
    if file = "index.m3u8".toList ∨ file = rendition ++ "_index.m3u8".toList then some rendition else none
  | _ => none

def variantReference (uri : List Char) : Except PlaybackError (List Char × List Char) :=
  match variantName uri with
  | none => .error .sessionNotFound
  | some rendition => do
    validateRendition rendition
    .ok (rendition, uri)

/-! ## The file behind a route -/

/-- The lines that name a resource. -/
def references (content : List Char) : List (List Char) :=
  ((lines content).map trim).filter fun line => !line.isEmpty && line.head? ≠ some '#'

/-- One line of the loop of `rendition_playlist`. -/
def selectVariant (directory requested : List Char) (selected : Option (List Char)) (line : List Char) :
    Except PlaybackError (Option (List Char)) := do
  let (rendition, path) ← variantReference line
  if rendition = requested then
    if selected.isSome then .error .sessionNotFound else .ok (some (joinPath directory path))
  else .ok selected

def renditionPlaylist (content directory manifest sessionRendition requested : List Char) :
    Except PlaybackError (List Char) := do
  validateRendition requested
  if isMaster content then
    match ← (references content).foldlM (selectVariant directory requested) none with
    | none => .error .sessionNotFound
    | some path => .ok path
  else if requested = sessionRendition then .ok manifest
  else .error .sessionNotFound

/-! ## Binding names to routes -/

def publicVariant (uri : List Char) (session : Uuid) : Except PlaybackError (List Char) := do
  let (rendition, _) ← variantReference uri
  .ok (transcodeBase session ++ rendition ++ "/index.m3u8".toList)

def publicSegment (filename : List Char) (session : Uuid) (rendition : List Char) :
    Except PlaybackError (List Char) := do
  validateSegmentFilename filename
  .ok (transcodeBase session ++ rendition ++ '/' :: filename)

/-- A tag with a `URI=`: the initialization of a media playlist, or refused. -/
def normalizeTag (session : Uuid) (rendition : List Char) (master : Bool) (line : List Char) :
    Except PlaybackError (List Char) :=
  if master = true ∨ ¬ "#EXT-X-MAP:".toList <+: line then .error .sessionNotFound
  else match splitOnce "URI=\"".toList line with
    | none => .error .sessionNotFound
    | some (before, remaining) =>
      if before.getLast? ≠ some ':' ∧ before.getLast? ≠ some ',' then .error .sessionNotFound
      else match splitOnce ['"'] remaining with
        | none => .error .sessionNotFound
        | some (uri, suffix) =>
          if "URI=".toList <:+: suffix then .error .sessionNotFound
          else do
            let normalized ← publicSegment uri session rendition
            .ok (before ++ "URI=\"".toList ++ normalized ++ '"' :: suffix)

/-- A trimmed line and the variants seen with it. -/
def normalizeLine (session : Uuid) (rendition : List Char) (master : Bool) (variants : List (List Char))
    (line : List Char) : Except PlaybackError (List Char × List (List Char)) :=
  if line.head? = some '#' ∧ "URI=".toList <:+: line then do
    let emitted ← normalizeTag session rendition master line
    .ok (emitted, variants)
  else if line ≠ [] ∧ line.head? ≠ some '#' then
    if master then do
      let (variant, _) ← variantReference line
      if variant ∈ variants then .error .sessionNotFound
      else do
        let emitted ← publicVariant line session
        .ok (emitted, variant :: variants)
    else do
      let emitted ← publicSegment line session rendition
      .ok (emitted, variants)
  else .ok (line, variants)

/-- The loop of `normalize_manifest`. -/
def normalizeLines (session : Uuid) (rendition : List Char) (master : Bool) :
    List (List Char) → List (List Char) → Nat → Except PlaybackError (List (List Char))
  | _, [], _ => .ok []
  | variants, line :: rest, bytes => do
    let (emitted, variants) ← normalizeLine session rendition master variants (trim line)
    if playlistLimit < bytes + byteLength emitted + 1 then .error .sessionNotFound
    else do
      let others ← normalizeLines session rendition master variants rest (bytes + byteLength emitted + 1)
      .ok (emitted :: others)

def normalizeManifest (content : List Char) (session : Uuid) (rendition : List Char) :
    Except PlaybackError (List Char) := do
  validateRendition rendition
  if ((lines content).find? fun line => !(trim line).isEmpty) ≠ some "#EXTM3U".toList then .error .sessionNotFound
  else do
    let result ← normalizeLines session rendition (isMaster content) [] (lines content) 0
    .ok (['\n'].intercalate result ++ ['\n'])

def normalizeScoped (content : List Char) (session : Uuid) (rendition : List Char) (scope : Option (Uuid × Uuid)) :
    Except PlaybackError (List Char) := do
  let content ← normalizeManifest content session rendition
  .ok (match scope with
    | some (viewer, output) => replace (transcodeBase session) (outputBase viewer output) content
    | none => content)

/-! ## Master playlists of the server's own -/

structure TranscodeRendition where
  name : List Char
  width : UInt32
  height : UInt32
  videoBitrate : UInt32
  audioBitrate : UInt32

def TranscodeRendition.streamInf (rendition : TranscodeRendition) : List Char :=
  "#EXT-X-STREAM-INF:BANDWIDTH=".toList ++
    Nat.toDigits 10 (min (rendition.videoBitrate.toNat + rendition.audioBitrate.toNat) (2 ^ 32 - 1)) ++
    ",RESOLUTION=".toList ++ Nat.toDigits 10 rendition.width.toNat ++ 'x' :: Nat.toDigits 10 rendition.height.toNat ++
    ",CODECS=\"avc1.64001f,mp4a.40.2\"".toList

def masterLines (renditions : List TranscodeRendition) : List (List Char) :=
  ["#EXTM3U".toList, "#EXT-X-VERSION:7".toList, "#EXT-X-INDEPENDENT-SEGMENTS".toList] ++
    renditions.flatMap fun rendition => [rendition.streamInf, rendition.name ++ "/index.m3u8".toList]

def generateMasterManifest (renditions : List TranscodeRendition) : List Char :=
  ['\n'].intercalate (masterLines renditions) ++ ['\n']

end Duskcue.Hls
