import Duskcue.Document
import Duskcue.Text

/-! The decision how a file is delivered to a device: as it is, in another container, or
encoded. The checks of the video overwrite one decision in a fixed order and leave a
reason each; the target of an encoding is computed from the same limits once more. -/
namespace Duskcue.DecisionEngine

inductive StreamDecision
  | directPlay | directStream | transcode
  deriving DecidableEq

inductive VideoDecision
  | directPlay | remux | transcode | toneMap
  deriving DecidableEq

inductive AudioDecision
  | passthrough | downmix | transcode
  deriving DecidableEq

inductive SubtitleDecision
  | passthrough | convert | burnIn
  deriving DecidableEq

structure DecisionReason where
  factor : String
  result : String
  detail : String

structure PlaybackDecision where
  overall : StreamDecision
  video : VideoDecision
  audio : AudioDecision
  subtitle : SubtitleDecision
  targetVideoCodec : Option String
  targetAudioCodec : Option String
  targetResolution : Option (Nat × Nat)
  targetBitrateBps : Option Nat
  targetAudioChannels : Option Nat
  requiresToneMapping : Bool
  requiresDvStrip : Bool
  subtitleBurnInRequired : Bool
  decisionReasons : List DecisionReason

/-- The columns of a media file that a decision reads; `ν` stands for the fractions in
`additional_streams`. -/
structure MediaFileInfo (ν : Type) where
  containerFormat : String
  videoCodec : String
  videoBitDepth : Nat
  videoResolution : Nat × Nat
  videoBitrateBps : Nat
  videoDynamicRange : String
  audioCodec : String
  audioChannels : Nat
  audioBitrateBps : Nat
  subtitleFormat : Option String
  additionalStreams : Option (Json ν)

structure DeviceCapabilities where
  videoCodecs : Finset String
  audioCodecs : Finset String
  containers : Finset String
  subtitleFormats : Finset String
  maxResolution : Nat × Nat
  maxAudioChannels : Nat
  hdrFormats : Finset String
  maxBitrateBps : Nat
  supportsDolbyVision : Bool
  allowClientSideDvFallback : Bool
  maxVideoBitDepth : Nat

structure NetworkConditions where
  estimatedThroughputBps : Option Nat

inductive QualityMode
  | auto | maximum | manual
  deriving DecidableEq

/-- `scaled` is `(t as f64 * throughput_safety_factor) as u64`, and `toLowercase` that of a
`str`, beyond ASCII. -/
structure DecisionEngineConfig where
  defaultVideoCodec : String
  defaultAudioCodec : String
  scaled : Nat → Nat
  allowClientSideDvFallback : Bool
  audioPassthroughEnabled : Bool
  subtitleBurnInPolicy : String
  qualityMode : QualityMode
  manualMaxResolution : Option (Nat × Nat)
  toLowercase : String → String

def u64Max : Nat := 2 ^ 64 - 1

/-- `trim().to_ascii_lowercase()`. -/
def normalized (text : String) : String := .ofList ((Text.trim text.toList).map Char.toLower)

/-- `split(',')`. -/
def pieces (text : String) : List String := (text.toList.splitOn ',').map .ofList

/-- `starts_with`. -/
def startsWith (text head : String) : Bool := head.toList.isPrefixOf text.toList

/-! ## Compatibility -/

def codecAliases : List (String × List String) :=
  [("h264", ["h264", "avc", "avc1"]), ("hevc", ["hevc", "h265", "hvc1", "hev1"]), ("av1", ["av1", "av01"]),
   ("vp9", ["vp9", "vp09"]), ("mpeg2video", ["mpeg2video", "mpeg2"]), ("mpeg4", ["mpeg4", "mp4v"]),
   ("vc1", ["vc1", "vc-1"]), ("vp8", ["vp8"]), ("aac", ["aac"]), ("ac3", ["ac3", "ac-3"]),
   ("eac3", ["eac3", "e-ac-3", "dd+", "dolby_digital_plus"]), ("truehd", ["truehd", "thd", "thd+atmos"]),
   ("dts", ["dts"]), ("dts_hd_ma", ["dts-hd_ma", "dts_hd_ma"]), ("dts_hd_hra", ["dts-hd_hra", "dts_hd_hra"]),
   ("flac", ["flac"]), ("opus", ["opus"]), ("vorbis", ["vorbis"]), ("pcm", ["pcm", "lpcm"]), ("alac", ["alac"]),
   ("mp3", ["mp3"])]

def canonicalCodec (codec : String) : String :=
  ((codecAliases.find? fun entry => entry.2.contains (normalized codec)).map (·.1)).getD (normalized codec)

def knownIdentifier (identifier : String) : Bool :=
  !(["", "unknown", "none", "n/a", "und", "unspecified"].contains identifier) && !identifier.toList.contains ','

def codecSupported (codec : String) (supported : Finset String) : Bool :=
  knownIdentifier (canonicalCodec codec) && decide (∃ s ∈ supported, canonicalCodec codec = canonicalCodec s)

def canonicalContainer (container : String) : String :=
  match normalized container with
  | "mkv" => "matroska"
  | "quicktime" => "mov"
  | "ts" | "m2ts" | "mts" => "mpegts"
  | "mpg" | "mpegps" | "mpeg-ps" => "mpeg"
  | other => other

def containerSupported (container : String) (supported : Finset String) : Bool :=
  (pieces container).all fun source => knownIdentifier (canonicalContainer source) &&
    decide (∃ formats ∈ supported, (pieces formats).any fun format =>
      canonicalContainer source = canonicalContainer format)

def canonicalHdr (format : String) : String :=
  match normalized format with
  | "hdr10+" => "hdr10_plus"
  | value => value

def hdrSupported (dynamicRange : String) (supported : Finset String) : Bool :=
  canonicalHdr dynamicRange = "sdr" || decide (∃ format ∈ supported, canonicalHdr format = canonicalHdr dynamicRange)

/-! ## Dolby Vision -/

variable {ν : Type}

/-- `Value::as_u64`. -/
def asU64 : Json ν → Option Nat
  | .integer value => if 0 ≤ value ∧ value ≤ u64Max then some value.toNat else none
  | _ => none

def dolbyVision (media : MediaFileInfo ν) : Option (Json ν) := media.additionalStreams.bind (·.get "dolby_vision")

def extractDvProfile (media : MediaFileInfo ν) : Option Nat :=
  (((dolbyVision media).bind (·.get "profile")).bind asU64).map (· % 2 ^ 32)

def dvBaseDynamicRange (media : MediaFileInfo ν) : Option String :=
  match ((dolbyVision media).bind (·.get "compatibility_mode")).bind Json.asStr with
  | some "hdr10" => some "hdr10"
  | some "hlg" => some "hlg"
  | some "sdr" => some "sdr"
  | _ =>
    match normalized media.videoDynamicRange with
    | "dolby_vision_p8.1" => some "hdr10"
    | "dolby_vision_p8.4" => some "hlg"
    | _ => if extractDvProfile media = some 7 then some "hdr10" else none

def needsDvStrip (media : MediaFileInfo ν) (device : DeviceCapabilities) : Bool :=
  (extractDvProfile media).any fun profile => (profile = 7 || profile = 8) && !device.supportsDolbyVision

def isHdrContent (dynamicRange : String) : Bool :=
  ["hdr10", "hdr10_plus", "hdr10+", "hlg"].contains (normalized dynamicRange) ||
    startsWith (normalized dynamicRange) "dolby_vision"

/-! ## Limits -/

def bitrateLimit (network : NetworkConditions) (config : DecisionEngineConfig) : Option Nat :=
  if config.qualityMode = .maximum then none
  else network.estimatedThroughputBps.map config.scaled

def maxResolutionForBitrate (bitrateBps : Nat) : Nat × Nat :=
  if bitrateBps ≥ 5000000 then (1920, 1080)
  else if bitrateBps ≥ 2000000 then (1280, 720)
  else (854, 480)

def normalizeResolution (w h : Nat) : Nat × Nat :=
  ([(3840, 2160), (1920, 1080), (1280, 720), (854, 480)].find? fun rung => rung.1 ≤ w && rung.2 ≤ h).getD
    (w / 2 * 2, h / 2 * 2)

/-- The limit of the manual quality mode. -/
def manualLimit (config : DecisionEngineConfig) : Option (Nat × Nat) :=
  if config.qualityMode = .manual then config.manualMaxResolution else none

/-- The bitrate of both streams. -/
def effectiveBitrate (media : MediaFileInfo ν) : Nat := min (media.videoBitrateBps + media.audioBitrateBps) u64Max

/-! ## Video -/

/-- What is decided so far, and why. -/
abbrev Verdict (α : Type) := α × List DecisionReason

/-- A check that leaves a reason where it applies, and turns the decision. -/
def check (applies : Bool) (reason : DecisionReason) (turn : VideoDecision → VideoDecision)
    (sofar : Verdict VideoDecision) : Verdict VideoDecision :=
  if applies then (turn sofar.1, sofar.2 ++ [reason]) else sofar

/-- `Transcode`, but a tone map stays one. -/
def VideoDecision.encoded (decision : VideoDecision) : VideoDecision :=
  if decision = .toneMap then .toneMap else .transcode

def evaluateDynamicRange (media : MediaFileInfo ν) (device : DeviceCapabilities) (config : DecisionEngineConfig) :
    Verdict VideoDecision :=
  let dynamicRange := normalized media.videoDynamicRange
  let dvProfile := extractDvProfile media
  if dvProfile.isSome || startsWith dynamicRange "dolby_vision" then
    if device.supportsDolbyVision then (.directPlay, [])
    else match dvProfile.filter (fun profile => profile = 7 || profile = 8),
        (dvBaseDynamicRange media).filter (hdrSupported · device.hdrFormats) with
      | some profile, some baseRange =>
        if config.allowClientSideDvFallback && device.allowClientSideDvFallback then
          (.directPlay, [⟨"dolby_vision", "direct_play",
            s!"DV Profile {profile} with supported {baseRange} base, client-side fallback allowed"⟩])
        else
          (.remux, [⟨"dolby_vision", "remux",
            s!"DV Profile {profile} stripping to supported {baseRange} base layer"⟩])
      | _, _ =>
        (.toneMap, [⟨"dolby_vision", "tone_map",
          "Dolby Vision is unsupported and no supported fallback base is known"⟩])
  else if dynamicRange ≠ "sdr" ∧ ¬ isHdrContent dynamicRange then
    (.transcode, [⟨"dynamic_range", "transcode", "source video dynamic range is unknown"⟩])
  else if isHdrContent dynamicRange && !hdrSupported dynamicRange device.hdrFormats then
    (.toneMap, [⟨"hdr", "tone_map", s!"source HDR format '{dynamicRange}' is not supported"⟩])
  else (.directPlay, [])

/-- The decision of the range takes over where it asks for more. -/
def withDynamicRange (range sofar : Verdict VideoDecision) : Verdict VideoDecision :=
  (if range.1 = .toneMap then .toneMap
   else if range.1 = .transcode ∨ sofar.1 = .directPlay ∧ range.1 = .remux then range.1
   else sofar.1, sofar.2 ++ range.2)

/-- The checks that may ask for an encoding. -/
def evaluateLimits (media : MediaFileInfo ν) (device : DeviceCapabilities) (network : NetworkConditions)
    (config : DecisionEngineConfig) : Verdict VideoDecision :=
  let source := media.videoResolution
  let max := device.maxResolution
  let bitrate := effectiveBitrate media
  let limit := bitrateLimit network config
  let manual := manualLimit config
  (.directPlay, [])
    |> check (!codecSupported media.videoCodec device.videoCodecs)
      ⟨"video_codec", "transcode", s!"codec '{media.videoCodec}' not in device supported list"⟩ (fun _ => .transcode)
    |> check (media.videoBitDepth = 0)
      ⟨"bit_depth", "transcode", "source video bit depth is unknown"⟩ (fun _ => .transcode)
    |> check (media.videoBitDepth ≠ 0 && media.videoBitDepth > device.maxVideoBitDepth && device.maxVideoBitDepth > 0)
      ⟨"bit_depth", "transcode",
        s!"source {media.videoBitDepth}-bit exceeds device max {device.maxVideoBitDepth}-bit"⟩ (fun _ => .transcode)
    |> check (source.1 > max.1 || source.2 > max.2)
      ⟨"resolution", "transcode", s!"source {source.1}x{source.2} exceeds device max {max.1}x{max.2}"⟩ (fun _ => .transcode)
    |> withDynamicRange (evaluateDynamicRange media device config)
    |> check (device.maxBitrateBps > 0 && bitrate > device.maxBitrateBps)
      ⟨"device_bitrate", "transcode", s!"source {bitrate} bps exceeds device limit {device.maxBitrateBps} bps"⟩
      VideoDecision.encoded
    |> check (limit.any fun limit => bitrate > limit)
      ⟨"bitrate", "transcode", s!"source {bitrate} bps exceeds network limit {limit.getD 0} bps"⟩
      VideoDecision.encoded
    |> check (manual.any fun max => source.1 > max.1 || source.2 > max.2)
      ⟨"quality_mode", "transcode",
        s!"manual quality mode limits to {(manual.getD max).1}x{(manual.getD max).2}, source is {source.1}x{source.2}"⟩
      VideoDecision.encoded

def evaluateVideo (media : MediaFileInfo ν) (device : DeviceCapabilities) (network : NetworkConditions)
    (config : DecisionEngineConfig) : Verdict VideoDecision :=
  let decision := (evaluateLimits media device network config).1
  let reasons := (evaluateLimits media device network config).2
  if decision = .transcode ∨ decision = .toneMap then (decision, reasons)
  else if !containerSupported media.containerFormat device.containers then
    (.remux, reasons ++ [⟨"container", "remux",
      s!"container '{media.containerFormat}' not supported, remuxing video stream copy"⟩])
  else if decision = .remux then (decision, reasons)
  else (.directPlay, reasons ++ [⟨"video", "direct_play", "all video checks passed"⟩])

/-! ## Audio and subtitles -/

def evaluateAudio (media : MediaFileInfo ν) (device : DeviceCapabilities) (config : DecisionEngineConfig) :
    Verdict AudioDecision :=
  if !config.audioPassthroughEnabled then
    (.transcode, [⟨"audio_passthrough", "transcode", "audio passthrough disabled in config"⟩])
  else if !codecSupported media.audioCodec device.audioCodecs then
    (.transcode, [⟨"audio_codec", "transcode", s!"audio codec '{media.audioCodec}' not in device supported list"⟩])
  else if media.audioChannels > device.maxAudioChannels then
    (.downmix, [⟨"audio_channels", "downmix",
      s!"source {media.audioChannels}ch exceeds device max {device.maxAudioChannels}ch"⟩])
  else (.passthrough, [⟨"audio", "passthrough", "audio codec and channels supported"⟩])

def textSubtitleFormats : List String := ["srt", "webvtt", "ass", "ssa"]

def imageSubtitleFormats : List String := ["pgs", "vobsub", "dvd_subtitle"]

def evaluateSubtitle (media : MediaFileInfo ν) (device : DeviceCapabilities) (config : DecisionEngineConfig) :
    Verdict SubtitleDecision :=
  match media.subtitleFormat with
  | none => (.passthrough, [])
  | some subFmt =>
    let fmtLower := config.toLowercase subFmt
    if textSubtitleFormats.contains fmtLower then
      if (fmtLower = "ass" ∨ fmtLower = "ssa") ∧ "ass" ∉ device.subtitleFormats ∧ "ssa" ∉ device.subtitleFormats then
        (.convert, [⟨"subtitle", "convert", "ASS/SSA subtitles not supported, converting to SRT"⟩])
      else (.passthrough, [⟨"subtitle", "passthrough", s!"text subtitle '{fmtLower}' supported"⟩])
    else if imageSubtitleFormats.contains fmtLower then
      if fmtLower ∈ device.subtitleFormats then
        (.passthrough, [⟨"subtitle", "passthrough", s!"image subtitle '{fmtLower}' natively supported"⟩])
      else if config.subtitleBurnInPolicy ≠ "last_resort" then
        (.burnIn, [⟨"subtitle", "burn_in", s!"image subtitle '{fmtLower}' not supported, burn-in policy allows it"⟩])
      else
        (.burnIn, [⟨"subtitle", "burn_in",
          s!"image subtitle '{fmtLower}' not supported and no text alternative available"⟩])
    else (.passthrough, [⟨"subtitle", "passthrough", s!"subtitle format '{fmtLower}' treated as passthrough"⟩])

/-! ## Targets -/

def selectTargetVideoCodec (media : MediaFileInfo ν) (device : DeviceCapabilities) (config : DecisionEngineConfig)
    (decision : VideoDecision) : String :=
  if decision ≠ .toneMap ∧ codecSupported "hevc" device.videoCodecs ∧
      (media.videoResolution.2 > 1080 ∨ media.videoBitDepth ≥ 10) then "hevc"
  else config.defaultVideoCodec

def selectTargetAudioCodec (media : MediaFileInfo ν) (device : DeviceCapabilities) (config : DecisionEngineConfig) :
    String :=
  if codecSupported "opus" device.audioCodecs then "opus"
  else if media.audioChannels > 2 && codecSupported "eac3" device.audioCodecs then "eac3"
  else if media.audioChannels > 2 && codecSupported "ac3" device.audioCodecs then "ac3"
  else config.defaultAudioCodec

/-- The componentwise minimum. -/
def within (size limit : Nat × Nat) : Nat × Nat := (min size.1 limit.1, min size.2 limit.2)

/-- The size of an encoding, within every limit but not yet normalized. -/
def clampedResolution (media : MediaFileInfo ν) (device : DeviceCapabilities) (network : NetworkConditions)
    (config : DecisionEngineConfig) : Nat × Nat :=
  let target := within media.videoResolution device.maxResolution
  let target := (bitrateLimit network config).elim target fun limit => within target (maxResolutionForBitrate limit)
  (manualLimit config).elim target (within target)

def computeTargetResolution (media : MediaFileInfo ν) (device : DeviceCapabilities) (network : NetworkConditions)
    (config : DecisionEngineConfig) : VideoDecision → Option (Nat × Nat)
  | .directPlay | .remux => none
  | .transcode | .toneMap =>
    let target := clampedResolution media device network config
    some (normalizeResolution target.1 target.2)

structure TranscodeRendition where
  name : String
  width : Nat
  height : Nat
  videoBitrate : Nat
  audioBitrate : Nat
  audioChannels : Nat

def defaultLadder : List TranscodeRendition :=
  [⟨"480p", 854, 480, 1500000, 128000, 2⟩, ⟨"720p", 1280, 720, 3000000, 160000, 2⟩,
   ⟨"1080p", 1920, 1080, 6000000, 256000, 6⟩, ⟨"1080p-hq", 1920, 1080, 10000000, 320000, 6⟩]

def smartLadder (sourceWidth sourceHeight : Nat) (maxBitrate : Option Nat) (maxResolution : Option (Nat × Nat)) :
    List TranscodeRendition :=
  let rungs := defaultLadder.filter fun r => r.width ≤ sourceWidth && r.height ≤ sourceHeight &&
    maxBitrate.all (r.videoBitrate ≤ ·) && maxResolution.all fun max => r.width ≤ max.1 && r.height ≤ max.2
  if rungs.isEmpty then
    let limit := maxResolution.getD (sourceWidth, sourceHeight)
    [⟨"source", max (min sourceWidth limit.1) 2 / 2 * 2, max (min sourceHeight limit.2) 2 / 2 * 2,
      min (maxBitrate.getD 1500000) 1500000, 128000, 2⟩]
  else rungs

/-- The smaller of the two bitrate limits; a device without one has 0. -/
def smallerLimit (network : Option Nat) (device : Nat) : Option Nat :=
  match network with
  | some limit => if device > 0 then some (min limit device) else some limit
  | none => if device > 0 then some device else none

def computeTargetBitrate (media : MediaFileInfo ν) (device : DeviceCapabilities) (network : NetworkConditions)
    (config : DecisionEngineConfig) (targetResolution : Option (Nat × Nat)) : Option Nat := do
  let limit ← smallerLimit (bitrateLimit network config) device.maxBitrateBps
  let res := targetResolution.getD media.videoResolution
  let rung ← (smartLadder res.1 res.2 (some limit) none).getLast?
  pure (min rung.videoBitrate limit)

/-! ## The decision -/

def computeOverallDecision (video : VideoDecision) (audio : AudioDecision) (subtitleBurnIn : Bool) : StreamDecision :=
  if video = .directPlay ∧ audio = .passthrough ∧ ¬ subtitleBurnIn then .directPlay
  else if video = .remux ∧ audio = .passthrough ∧ ¬ subtitleBurnIn then .directStream
  else .transcode

def decide (media : MediaFileInfo ν) (device : DeviceCapabilities) (network : NetworkConditions)
    (config : DecisionEngineConfig) : PlaybackDecision :=
  let video := evaluateVideo media device network config
  let audio := evaluateAudio media device config
  let subtitle := evaluateSubtitle media device config
  let targetResolution := computeTargetResolution media device network config video.1
  let burnIn := subtitle.1 = .burnIn
  { overall := computeOverallDecision video.1 audio.1 burnIn
    video := video.1
    audio := audio.1
    subtitle := subtitle.1
    targetVideoCodec :=
      if video.1 = .directPlay ∨ video.1 = .remux then none
      else some (selectTargetVideoCodec media device config video.1)
    targetAudioCodec :=
      if audio.1 = .passthrough then none else some (selectTargetAudioCodec media device config)
    targetResolution
    targetBitrateBps := computeTargetBitrate media device network config targetResolution
    targetAudioChannels :=
      if audio.1 = .passthrough then none else some (min device.maxAudioChannels media.audioChannels)
    requiresToneMapping := video.1 = .toneMap
    requiresDvStrip := video.1 = .remux && needsDvStrip media device
    subtitleBurnInRequired := burnIn
    decisionReasons := video.2 ++ audio.2 ++ subtitle.2 }

/-! ## The plan of the streams -/

inductive StreamAction
  | copy | encode
  deriving DecidableEq

inductive PlanError
  | unsupportedHdrConversion
  deriving DecidableEq

structure StreamPlan where
  video : StreamAction
  audio : StreamAction
  deriving DecidableEq

def copyVideo : Finset String := {"h264", "hevc", "av1", "vp9"}

def copyAudio : Finset String := {"aac", "ac3", "eac3", "mp3", "flac", "opus"}

def knownHdr (media : MediaFileInfo ν) : Bool :=
  let range := normalized media.videoDynamicRange
  ["hdr10", "hdr10_plus", "hdr10+", "hlg"].contains range || startsWith range "dolby_vision" ||
    (dolbyVision media).any fun
      | .object _ => true
      | _ => false

/-- `StreamPlan::compile`. -/
def StreamPlan.compile (decision : PlaybackDecision) (media : MediaFileInfo ν) (forceVideo : Bool) :
    Except PlanError StreamPlan :=
  if decision.requiresToneMapping || decision.requiresDvStrip then .error .unsupportedHdrConversion
  else
    let video := !forceVideo && !decision.subtitleBurnInRequired &&
      (decision.video = .directPlay || decision.video = .remux) && codecSupported media.videoCodec copyVideo
    let audio := decision.audio = .passthrough && codecSupported media.audioCodec copyAudio
    if !video && knownHdr media then .error .unsupportedHdrConversion
    else .ok { video := if video then .copy else .encode, audio := if audio then .copy else .encode }

end Duskcue.DecisionEngine
