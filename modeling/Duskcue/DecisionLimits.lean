import Duskcue.DecisionEngine

/-! What the decision engine promises. The checks of the video together say one thing: the
file is copied exactly where every limit admits it and its dynamic range can be shown,
and its container then decides between playing it and remuxing it. From this follow
that no copied file exceeds a limit, that a device that can do more is never answered
worse, and what becomes of a file whose container alone is taken away. -/
namespace Duskcue.DecisionEngine

variable {ν : Type} {media : MediaFileInfo ν} {device : DeviceCapabilities} {network : NetworkConditions}
  {config : DecisionEngineConfig}

/-! ## The checks of the video -/

def VideoDecision.Encodes (decision : VideoDecision) : Prop := decision = .transcode ∨ decision = .toneMap

/-- Every limit admits a copy of the video. -/
structure Clear (media : MediaFileInfo ν) (device : DeviceCapabilities) (network : NetworkConditions)
    (config : DecisionEngineConfig) : Prop where
  codec : codecSupported media.videoCodec device.videoCodecs = true
  known : media.videoBitDepth ≠ 0
  depth : device.maxVideoBitDepth = 0 ∨ media.videoBitDepth ≤ device.maxVideoBitDepth
  resolution : media.videoResolution.1 ≤ device.maxResolution.1 ∧ media.videoResolution.2 ≤ device.maxResolution.2
  deviceBitrate : device.maxBitrateBps = 0 ∨ effectiveBitrate media ≤ device.maxBitrateBps
  bitrate : ∀ limit, bitrateLimit network config = some limit → effectiveBitrate media ≤ limit
  manual : ∀ max, manualLimit config = some max →
    media.videoResolution.1 ≤ max.1 ∧ media.videoResolution.2 ≤ max.2

section
variable {applies : Bool} {reason : DecisionReason} {turn : VideoDecision → VideoDecision}
  {range sofar : Verdict VideoDecision}

theorem check_of_false (passed : applies = false) : check applies reason turn sofar = sofar := by
  simp [check, passed]

/-- Where nothing is encoded after a check, it did not apply and nothing was before. -/
theorem check_plain (turns : ∀ decision, (turn decision).Encodes)
    (plain : ¬ (check applies reason turn sofar).1.Encodes) : applies = false ∧ ¬ sofar.1.Encodes := by
  unfold check at plain
  split at plain
  · exact (plain (turns _)).elim
  · rename_i passed
    exact ⟨by simpa using passed, plain⟩

theorem withDynamicRange_encodes (encodes : sofar.1.Encodes) : (withDynamicRange range sofar).1.Encodes := by
  unfold withDynamicRange
  rcases range with ⟨_ | _ | _ | _, reasons⟩ <;> rcases encodes with same | same <;>
    simp [same, VideoDecision.Encodes]

theorem withDynamicRange_directPlay (playing : sofar.1 = .directPlay) : (withDynamicRange range sofar).1 = range.1 := by
  unfold withDynamicRange
  rcases range with ⟨_ | _ | _ | _, reasons⟩ <;> simp [playing]

end

theorem transcode_encodes : VideoDecision.transcode.Encodes := .inl rfl

theorem encoded_encodes (decision : VideoDecision) : decision.encoded.Encodes := by
  unfold VideoDecision.encoded
  split
  · exact .inr rfl
  · exact .inl rfl

/-- Within every limit only the dynamic range decides. -/
theorem evaluateLimits_clear (clear : Clear media device network config) :
    (evaluateLimits media device network config).1 = (evaluateDynamicRange media device config).1 := by
  have codec : (!codecSupported media.videoCodec device.videoCodecs) = false := by simp [clear.codec]
  have known : (media.videoBitDepth = 0 : Bool) = false := by simp [clear.known]
  have depth : (media.videoBitDepth ≠ 0 && media.videoBitDepth > device.maxVideoBitDepth &&
      device.maxVideoBitDepth > 0) = false := by
    have := clear.depth
    simp
    omega
  have resolution : (media.videoResolution.1 > device.maxResolution.1 ||
      media.videoResolution.2 > device.maxResolution.2) = false := by
    simpa using clear.resolution
  have deviceBitrate : (device.maxBitrateBps > 0 && effectiveBitrate media > device.maxBitrateBps) = false := by
    have := clear.deviceBitrate
    simp
    omega
  have bitrate : ((bitrateLimit network config).any fun limit => effectiveBitrate media > limit) = false := by
    cases limited : bitrateLimit network config with
    | none => rfl
    | some limit => simpa using clear.bitrate limit limited
  have manual : ((manualLimit config).any fun max => media.videoResolution.1 > max.1 ||
      media.videoResolution.2 > max.2) = false := by
    cases limited : manualLimit config with
    | none => rfl
    | some max => simpa using clear.manual max limited
  unfold evaluateLimits
  dsimp only
  rw [check_of_false manual, check_of_false bitrate, check_of_false deviceBitrate]
  apply withDynamicRange_directPlay
  rw [check_of_false resolution, check_of_false depth, check_of_false known, check_of_false codec]

theorem evaluateLimits_unclear (unclear : ¬ Clear media device network config) :
    (evaluateLimits media device network config).1.Encodes := by
  by_contra plain
  unfold evaluateLimits at plain
  dsimp only at plain
  obtain ⟨manual, plain⟩ := check_plain encoded_encodes plain
  obtain ⟨bitrate, plain⟩ := check_plain encoded_encodes plain
  obtain ⟨deviceBitrate, plain⟩ := check_plain encoded_encodes plain
  have plain := mt withDynamicRange_encodes plain
  obtain ⟨resolution, plain⟩ := check_plain (fun _ => transcode_encodes) plain
  obtain ⟨depth, plain⟩ := check_plain (fun _ => transcode_encodes) plain
  obtain ⟨known, plain⟩ := check_plain (fun _ => transcode_encodes) plain
  obtain ⟨codec, -⟩ := check_plain (fun _ => transcode_encodes) plain
  refine unclear ⟨by simpa using codec, by simpa using known, ?_, by simpa using resolution, ?_, ?_, ?_⟩
  · simp at depth known
    omega
  · simp at deviceBitrate
    omega
  · intro limit limited
    simpa [limited] using bitrate
  · intro max limited
    simpa [limited] using manual

theorem evaluateVideo_unclear (unclear : ¬ Clear media device network config) :
    (evaluateVideo media device network config).1.Encodes := by
  have encodes := evaluateLimits_unclear unclear
  unfold evaluateVideo
  dsimp only
  split
  · exact encodes
  · rename_i plain
    exact (plain encodes).elim

/-- Within every limit the dynamic range and the container decide. -/
theorem evaluateVideo_clear (clear : Clear media device network config) :
    (evaluateVideo media device network config).1 =
      if (evaluateDynamicRange media device config).1 = .directPlay ∧
        containerSupported media.containerFormat device.containers = false then .remux
      else (evaluateDynamicRange media device config).1 := by
  unfold evaluateVideo
  dsimp only
  rw [evaluateLimits_clear clear]
  cases (evaluateDynamicRange media device config).1 <;>
    cases containerSupported media.containerFormat device.containers <;> rfl

theorem evaluateVideo_directPlay : (evaluateVideo media device network config).1 = .directPlay ↔
    Clear media device network config ∧ (evaluateDynamicRange media device config).1 = .directPlay ∧
      containerSupported media.containerFormat device.containers = true := by
  by_cases clear : Clear media device network config
  · rw [evaluateVideo_clear clear]
    cases (evaluateDynamicRange media device config).1 <;>
      cases containerSupported media.containerFormat device.containers <;> simp [clear]
  · rcases evaluateVideo_unclear clear with same | same <;> simp [same, clear]

/-- The video is remuxed where its container or its Dolby Vision layer is all that is in the way. -/
theorem evaluateVideo_remux : (evaluateVideo media device network config).1 = .remux ↔
    Clear media device network config ∧ ((evaluateDynamicRange media device config).1 = .remux ∨
      (evaluateDynamicRange media device config).1 = .directPlay ∧
        containerSupported media.containerFormat device.containers = false) := by
  by_cases clear : Clear media device network config
  · rw [evaluateVideo_clear clear]
    cases (evaluateDynamicRange media device config).1 <;>
      cases containerSupported media.containerFormat device.containers <;> simp [clear]
  · rcases evaluateVideo_unclear clear with same | same <;> simp [same, clear]

/-! ## Files and devices -/

namespace Sample

/-- An SDR film in an MKV file. -/
def film : MediaFileInfo Unit where
  containerFormat := "matroska"
  videoCodec := "h264"
  videoBitDepth := 8
  videoResolution := (1920, 1080)
  videoBitrateBps := 8000000
  videoDynamicRange := "sdr"
  audioCodec := "aac"
  audioChannels := 2
  audioBitrateBps := 192000
  subtitleFormat := none
  additionalStreams := none

/-- The same in Dolby Vision, over a base layer in HDR10. -/
def dolbyFilm : MediaFileInfo Unit :=
  { film with
    videoCodec := "hevc"
    videoBitDepth := 10
    videoDynamicRange := "dolby_vision_p7"
    additionalStreams := some (.object [("dolby_vision", .object
      [("profile", .integer 7), ("level", .integer 6), ("compatibility_mode", .text "hdr10")])]) }

/-- A bitrate that no sum can exceed, once it is saturated. -/
def heavyFilm : MediaFileInfo Unit := { film with videoBitrateBps := u64Max, audioBitrateBps := 1 }

def television : DeviceCapabilities where
  videoCodecs := {"h264", "hevc"}
  audioCodecs := {"aac"}
  containers := {"mp4", "mkv"}
  subtitleFormats := {"srt", "webvtt"}
  maxResolution := (1920, 1080)
  maxAudioChannels := 2
  hdrFormats := {"hdr10"}
  maxBitrateBps := 20000000
  supportsDolbyVision := false
  allowClientSideDvFallback := true
  maxVideoBitDepth := 10

/-- No measurement yet. -/
def unmeasured : NetworkConditions := ⟨none⟩

/-- The defaults of the server; the safety factor is 0.8. -/
def settings : DecisionEngineConfig where
  defaultVideoCodec := "h264"
  defaultAudioCodec := "aac"
  scaled := fun t => t * 4 / 5
  allowClientSideDvFallback := true
  audioPassthroughEnabled := true
  subtitleBurnInPolicy := "last_resort"
  qualityMode := .auto
  manualMaxResolution := none
  toLowercase := fun text => .ofList (text.toList.map Char.toLower)

end Sample

/-! ## Limits -/

/-- The size of an encoding is within every limit. -/
structure Fits (media : MediaFileInfo ν) (device : DeviceCapabilities) (network : NetworkConditions)
    (config : DecisionEngineConfig) (size : Nat × Nat) : Prop where
  source : size ≤ media.videoResolution
  device : size ≤ device.maxResolution
  network : ∀ limit, bitrateLimit network config = some limit → size ≤ maxResolutionForBitrate limit
  manual : ∀ max, manualLimit config = some max → size ≤ max

theorem within_le (size limit : Nat × Nat) : within size limit ≤ size ∧ within size limit ≤ limit :=
  ⟨⟨Nat.min_le_left .., Nat.min_le_left ..⟩, ⟨Nat.min_le_right .., Nat.min_le_right ..⟩⟩

/-- The size to encode is within every limit. -/
theorem clampedResolution_fits : Fits media device network config (clampedResolution media device network config) := by
  obtain ⟨source, size⟩ := within_le media.videoResolution device.maxResolution
  unfold clampedResolution
  cases limited : bitrateLimit network config with
  | none =>
    cases chosen : manualLimit config with
    | none => exact ⟨source, size, by simp [limited], by simp [chosen]⟩
    | some max =>
      obtain ⟨smaller, most⟩ := within_le (within media.videoResolution device.maxResolution) max
      refine ⟨smaller.trans source, smaller.trans size, by simp [limited], ?_⟩
      rintro _ same
      cases chosen.symm.trans same
      exact most
  | some limit =>
    obtain ⟨smaller, rate⟩ := within_le (within media.videoResolution device.maxResolution) (maxResolutionForBitrate limit)
    have network : ∀ other, bitrateLimit network config = some other →
        within (within media.videoResolution device.maxResolution) (maxResolutionForBitrate limit) ≤
          maxResolutionForBitrate other := by
      rintro _ same
      cases limited.symm.trans same
      exact rate
    cases chosen : manualLimit config with
    | none => exact ⟨smaller.trans source, smaller.trans size, network, by simp [chosen]⟩
    | some max =>
      obtain ⟨least, most⟩ := within_le
        (within (within media.videoResolution device.maxResolution) (maxResolutionForBitrate limit)) max
      refine ⟨least.trans (smaller.trans source), least.trans (smaller.trans size),
        fun other same => least.trans (network other same), ?_⟩
      rintro _ same
      cases chosen.symm.trans same
      exact most

/-- A size is normalized to a rung below it, or to the next even one. -/
theorem normalizeResolution_cases (w h : Nat) :
    (∃ rung ∈ [(3840, 2160), (1920, 1080), (1280, 720), (854, 480)], rung ≤ (w, h) ∧ normalizeResolution w h = rung) ∨
      normalizeResolution w h = (w / 2 * 2, h / 2 * 2) := by
  unfold normalizeResolution
  cases found : [(3840, 2160), (1920, 1080), (1280, 720), (854, 480)].find? fun rung => rung.1 ≤ w && rung.2 ≤ h with
  | none => exact .inr rfl
  | some rung =>
    have fits := List.find?_some found
    simp only [Bool.and_eq_true, decide_eq_true_eq] at fits
    exact .inl ⟨rung, List.mem_of_find?_eq_some found, fits, rfl⟩

/-- A normalized size is even and no larger, and it is not empty where two pixels fit. -/
theorem normalizeResolution_spec (w h : Nat) : normalizeResolution w h ≤ (w, h) ∧
    2 ∣ (normalizeResolution w h).1 ∧ 2 ∣ (normalizeResolution w h).2 ∧
    (2 ≤ w → 2 ≤ h → 0 < (normalizeResolution w h).1 ∧ 0 < (normalizeResolution w h).2) := by
  rcases normalizeResolution_cases w h with ⟨rung, member, fits, same⟩ | same
  · have even : ∀ rung ∈ [(3840, 2160), (1920, 1080), (1280, 720), (854, 480)],
        2 ∣ rung.1 ∧ 2 ∣ rung.2 ∧ 0 < rung.1 ∧ 0 < rung.2 := by decide
    rw [same]
    obtain ⟨wide, high, filled⟩ := even rung member
    exact ⟨fits, wide, high, fun _ _ => filled⟩
  · rw [same]
    refine ⟨⟨?_, ?_⟩, ?_, ?_, ?_⟩
    · exact Nat.div_mul_le_self w 2
    · exact Nat.div_mul_le_self h 2
    · exact Nat.dvd_mul_left 2 _
    · exact Nat.dvd_mul_left 2 _
    · intro wide high
      dsimp only
      omega

theorem clampedResolution_two (source : (2, 2) ≤ media.videoResolution) (size : (2, 2) ≤ device.maxResolution)
    (manual : ∀ max, manualLimit config = some max → (2, 2) ≤ max) :
    (2, 2) ≤ clampedResolution media device network config := by
  have both : ∀ {a b : Nat × Nat}, (2, 2) ≤ a → (2, 2) ≤ b → (2, 2) ≤ within a b := fun left right =>
    ⟨Nat.le_min.mpr ⟨left.1, right.1⟩, Nat.le_min.mpr ⟨left.2, right.2⟩⟩
  have rate : ∀ limit, (2, 2) ≤ maxResolutionForBitrate limit := by
    intro limit
    unfold maxResolutionForBitrate
    split
    · exact ⟨by decide, by decide⟩
    · split <;> exact ⟨by decide, by decide⟩
  unfold clampedResolution
  cases bitrateLimit network config with
  | none =>
    cases chosen : manualLimit config with
    | none => exact both source size
    | some max => exact both (both source size) (manual max chosen)
  | some limit =>
    cases chosen : manualLimit config with
    | none => exact both (both source size) (rate limit)
    | some max => exact both (both (both source size) (rate limit)) (manual max chosen)

theorem smallerLimit_le (found : smallerLimit limits deviceLimit = some rate) :
    (deviceLimit = 0 ∨ rate ≤ deviceLimit) ∧ ∀ limit, limits = some limit → rate ≤ limit := by
  unfold smallerLimit at found
  split at found
  · split at found
    · cases found
      exact ⟨.inr (Nat.min_le_right ..), by rintro _ ⟨⟩; exact Nat.min_le_left ..⟩
    · cases found
      exact ⟨.inl (by omega), by rintro _ ⟨⟩; exact Nat.le_refl _⟩
  · split at found
    · cases found
      exact ⟨.inr (Nat.le_refl _), by rintro _ ⟨⟩⟩
    · cases found

/-- The bitrate of an encoding is within both limits. -/
theorem computeTargetBitrate_le (computed : computeTargetBitrate media device network config size = some rate) :
    (device.maxBitrateBps = 0 ∨ rate ≤ device.maxBitrateBps) ∧
      ∀ limit, bitrateLimit network config = some limit → rate ≤ limit := by
  unfold computeTargetBitrate at computed
  obtain ⟨smaller, found, computed⟩ := Option.bind_eq_some_iff.mp computed
  obtain ⟨rung, -, computed⟩ := Option.bind_eq_some_iff.mp computed
  cases computed
  obtain ⟨ofDevice, ofNetwork⟩ := smallerLimit_le found
  have least : min rung.videoBitrate smaller ≤ smaller := Nat.min_le_right ..
  exact ⟨ofDevice.imp_right least.trans, fun limit limited => least.trans (ofNetwork limit limited)⟩

/-- A saturated sum is within a limit only where the sum is, or the limit is the largest number. -/
theorem le_of_effectiveBitrate (bounded : effectiveBitrate media ≤ limit) :
    media.videoBitrateBps + media.audioBitrateBps ≤ limit ∨ u64Max ≤ limit := by
  unfold effectiveBitrate at bounded
  omega

/-- A copied video is within every limit, and so are the size and the bitrate of an
encoded one. A bitrate is compared as a saturated sum. -/
theorem decide_within_limits (media : MediaFileInfo ν) (device : DeviceCapabilities) (network : NetworkConditions)
    (config : DecisionEngineConfig) :
    let decision := decide media device network config
    let bitrate := media.videoBitrateBps + media.audioBitrateBps
    (decision.video = .directPlay ∨ decision.video = .remux →
      media.videoResolution ≤ device.maxResolution ∧
      (∀ max, manualLimit config = some max → media.videoResolution ≤ max) ∧
      (device.maxVideoBitDepth = 0 ∨ media.videoBitDepth ≤ device.maxVideoBitDepth) ∧
      (device.maxBitrateBps = 0 ∨ bitrate ≤ device.maxBitrateBps ∨ u64Max ≤ device.maxBitrateBps) ∧
      ∀ limit, bitrateLimit network config = some limit → bitrate ≤ limit ∨ u64Max ≤ limit) ∧
    (decision.video = .transcode ∨ decision.video = .toneMap → ∃ size, decision.targetResolution = some size ∧
      Fits media device network config size ∧ 2 ∣ size.1 ∧ 2 ∣ size.2 ∧
      ((2, 2) ≤ media.videoResolution → (2, 2) ≤ device.maxResolution →
        (∀ max, manualLimit config = some max → (2, 2) ≤ max) → 0 < size.1 ∧ 0 < size.2)) ∧
    ∀ rate, decision.targetBitrateBps = some rate →
      (device.maxBitrateBps = 0 ∨ rate ≤ device.maxBitrateBps) ∧
      ∀ limit, bitrateLimit network config = some limit → rate ≤ limit := by
  intro decision bitrate
  refine ⟨?_, ?_, fun rate computed => computeTargetBitrate_le computed⟩
  · intro copied
    have clear : Clear media device network config := by
      rcases copied with played | remuxed
      · exact (evaluateVideo_directPlay.mp played).1
      · exact (evaluateVideo_remux.mp remuxed).1
    exact ⟨clear.resolution, clear.manual, clear.depth, clear.deviceBitrate.imp_right le_of_effectiveBitrate,
      fun limit limited => le_of_effectiveBitrate (clear.bitrate limit limited)⟩
  · intro encoded
    let target := clampedResolution media device network config
    have fits : Fits media device network config target := clampedResolution_fits
    obtain ⟨smaller, wide, high, filled⟩ := normalizeResolution_spec target.1 target.2
    refine ⟨normalizeResolution target.1 target.2, ?_, ?_, wide, high, ?_⟩
    · change computeTargetResolution media device network config (evaluateVideo media device network config).1 = _
      rcases encoded with same | same <;>
        rw [show (evaluateVideo media device network config).1 = _ from same] <;> rfl
    · exact ⟨smaller.trans fits.source, smaller.trans fits.device,
        fun limit limited => smaller.trans (fits.network limit limited),
        fun max chosen => smaller.trans (fits.manual max chosen)⟩
    · intro source size manual
      obtain ⟨left, right⟩ : (2, 2) ≤ target := clampedResolution_two source size manual
      exact filled left right

/-- The largest limit admits a sum that is larger still. -/
theorem largest_limit_exceeded :
    let device := { Sample.television with maxBitrateBps := u64Max }
    (decide Sample.heavyFilm device Sample.unmeasured Sample.settings).video = .directPlay ∧
      device.maxBitrateBps < Sample.heavyFilm.videoBitrateBps + Sample.heavyFilm.audioBitrateBps := by
  decide +kernel

/-! ## Devices that can do more -/

/-- A limit of which 0 means that there is none. -/
def Loosens (limit looser : Nat) : Prop := looser = 0 ∨ limit ≠ 0 ∧ limit ≤ looser

/-- `stronger` supports everything that `weaker` does. -/
structure Extends (weaker stronger : DeviceCapabilities) : Prop where
  videoCodecs : weaker.videoCodecs ⊆ stronger.videoCodecs
  audioCodecs : weaker.audioCodecs ⊆ stronger.audioCodecs
  containers : weaker.containers ⊆ stronger.containers
  subtitleFormats : weaker.subtitleFormats ⊆ stronger.subtitleFormats
  maxResolution : weaker.maxResolution ≤ stronger.maxResolution
  maxAudioChannels : weaker.maxAudioChannels ≤ stronger.maxAudioChannels
  hdrFormats : weaker.hdrFormats ⊆ stronger.hdrFormats
  maxBitrateBps : Loosens weaker.maxBitrateBps stronger.maxBitrateBps
  supportsDolbyVision : weaker.supportsDolbyVision = true → stronger.supportsDolbyVision = true
  allowClientSideDvFallback : weaker.allowClientSideDvFallback = true → stronger.allowClientSideDvFallback = true
  maxVideoBitDepth : Loosens weaker.maxVideoBitDepth stronger.maxVideoBitDepth

theorem Loosens.le (loosens : Loosens limit looser) (bounded : limit = 0 ∨ value ≤ limit) :
    looser = 0 ∨ value ≤ looser := by
  unfold Loosens at loosens
  omega

section
variable {supported more : Finset String} {weaker stronger : DeviceCapabilities}

theorem codecSupported_mono (included : supported ⊆ more) (known : codecSupported codec supported = true) :
    codecSupported codec more = true := by
  simp only [codecSupported, Bool.and_eq_true, decide_eq_true_eq] at known ⊢
  obtain ⟨named, s, member, same⟩ := known
  exact ⟨named, s, included member, same⟩

theorem containerSupported_mono (included : supported ⊆ more)
    (known : containerSupported container supported = true) : containerSupported container more = true := by
  simp only [containerSupported, List.all_eq_true, Bool.and_eq_true, decide_eq_true_eq] at known ⊢
  intro source member
  obtain ⟨named, formats, held, same⟩ := known source member
  exact ⟨named, formats, included held, same⟩

theorem hdrSupported_mono (included : supported ⊆ more)
    (known : hdrSupported dynamicRange supported = true) : hdrSupported dynamicRange more = true := by
  simp only [hdrSupported, Bool.or_eq_true, decide_eq_true_eq] at known ⊢
  rcases known with sdr | ⟨format, member, same⟩
  · exact .inl sdr
  · exact .inr ⟨format, included member, same⟩

theorem Clear.extend (extended : Extends weaker stronger) (clear : Clear media weaker network config) :
    Clear media stronger network config where
  codec := codecSupported_mono extended.videoCodecs clear.codec
  known := clear.known
  depth := extended.maxVideoBitDepth.le clear.depth
  resolution := ⟨clear.resolution.1.trans extended.maxResolution.1, clear.resolution.2.trans extended.maxResolution.2⟩
  deviceBitrate := extended.maxBitrateBps.le clear.deviceBitrate
  bitrate := clear.bitrate
  manual := clear.manual

/-- A base layer that the device can show instead of Dolby Vision. -/
def BaseShown (media : MediaFileInfo ν) (device : DeviceCapabilities) : Prop :=
  (extractDvProfile media = some 7 ∨ extractDvProfile media = some 8) ∧
    ∃ base, dvBaseDynamicRange media = some base ∧ hdrSupported base device.hdrFormats = true

/-- The file is in Dolby Vision. -/
def InDolbyVision (media : MediaFileInfo ν) : Prop :=
  (extractDvProfile media).isSome = true ∨ startsWith (normalized media.videoDynamicRange) "dolby_vision" = true

/-- A range without Dolby Vision that the device can show. -/
def RangeShown (media : MediaFileInfo ν) (device : DeviceCapabilities) : Prop :=
  let range := normalized media.videoDynamicRange
  (range = "sdr" ∨ isHdrContent range = true) ∧ (isHdrContent range = true → hdrSupported range device.hdrFormats = true)

theorem baseShown_iff : BaseShown media device ↔
    ∃ profile base, (extractDvProfile media).filter (fun profile => profile = 7 || profile = 8) = some profile ∧
      (dvBaseDynamicRange media).filter (hdrSupported · device.hdrFormats) = some base := by
  unfold BaseShown
  simp only [Option.filter_eq_some_iff, Bool.or_eq_true, decide_eq_true_eq]
  constructor
  · rintro ⟨seven | eight, base, known, shown⟩
    · exact ⟨7, base, ⟨seven, .inl rfl⟩, known, shown⟩
    · exact ⟨8, base, ⟨eight, .inr rfl⟩, known, shown⟩
  · rintro ⟨profile, base, ⟨found, rfl | rfl⟩, known, shown⟩
    · exact ⟨.inl found, base, known, shown⟩
    · exact ⟨.inr found, base, known, shown⟩

/-- What Dolby Vision comes to on a device without it. -/
theorem evaluateDynamicRange_dolby (config : DecisionEngineConfig) (dolby : InDolbyVision media) (unsupported : device.supportsDolbyVision = false) :
    BaseShown media device ∧ (evaluateDynamicRange media device config).1 =
        (if config.allowClientSideDvFallback && device.allowClientSideDvFallback then .directPlay else .remux) ∨
      ¬ BaseShown media device ∧ (evaluateDynamicRange media device config).1 = .toneMap := by
  have applies : ((extractDvProfile media).isSome || startsWith (normalized media.videoDynamicRange) "dolby_vision") = true := by
    simpa [InDolbyVision] using dolby
  unfold evaluateDynamicRange
  dsimp only
  rw [if_pos applies, if_neg (by simp [unsupported]), baseShown_iff]
  split
  · rename_i profile base found known
    exact .inl ⟨⟨profile, base, found, known⟩, by split <;> rfl⟩
  · rename_i missing
    refine .inr ⟨?_, rfl⟩
    rintro ⟨profile, base, found, known⟩
    exact missing profile base found known

theorem evaluateDynamicRange_native (config : DecisionEngineConfig) (dolby : InDolbyVision media) (supported : device.supportsDolbyVision = true) :
    (evaluateDynamicRange media device config).1 = .directPlay := by
  have applies : ((extractDvProfile media).isSome || startsWith (normalized media.videoDynamicRange) "dolby_vision") = true := by
    simpa [InDolbyVision] using dolby
  unfold evaluateDynamicRange
  dsimp only
  rw [if_pos applies, if_pos supported]

/-- A range without Dolby Vision is shown, or the video is encoded. -/
theorem evaluateDynamicRange_plain (config : DecisionEngineConfig) (plain : ¬ InDolbyVision media) :
    RangeShown media device ∧ (evaluateDynamicRange media device config).1 = .directPlay ∨
      ¬ RangeShown media device ∧ (evaluateDynamicRange media device config).1.Encodes := by
  have passes : ¬ ((extractDvProfile media).isSome || startsWith (normalized media.videoDynamicRange) "dolby_vision") = true := by
    simpa [InDolbyVision] using plain
  unfold evaluateDynamicRange RangeShown
  dsimp only
  rw [if_neg passes]
  split
  · rename_i unknown
    refine .inr ⟨?_, .inl rfl⟩
    rintro ⟨known, -⟩
    exact known.elim unknown.1 unknown.2
  · rename_i known
    have known : normalized media.videoDynamicRange = "sdr" ∨ isHdrContent (normalized media.videoDynamicRange) = true := by
      by_contra unknown
      exact known (not_or.mp unknown)
    split
    · rename_i unshown
      simp only [Bool.and_eq_true, Bool.not_eq_true'] at unshown
      refine .inr ⟨?_, .inr rfl⟩
      rintro ⟨-, shown⟩
      cases unshown.2.symm.trans (shown unshown.1)
    · rename_i shown
      refine .inl ⟨⟨known, fun hdr => ?_⟩, rfl⟩
      simpa [hdr] using shown

/-- More that can be shown never makes the range worse. -/
theorem evaluateDynamicRange_extend (media : MediaFileInfo ν) (config : DecisionEngineConfig) (extended : Extends weaker stronger) :
    ((evaluateDynamicRange media weaker config).1 = .directPlay →
      (evaluateDynamicRange media stronger config).1 = .directPlay) ∧
    ((evaluateDynamicRange media weaker config).1 = .remux →
      (evaluateDynamicRange media stronger config).1 = .directPlay ∨
        (evaluateDynamicRange media stronger config).1 = .remux) := by
  by_cases dolby : InDolbyVision media
  · cases native : stronger.supportsDolbyVision with
    | true =>
      have plays : (evaluateDynamicRange media stronger config).1 = .directPlay := evaluateDynamicRange_native config dolby native
      exact ⟨fun _ => plays, fun _ => .inl plays⟩
    | false =>
      have unsupported : weaker.supportsDolbyVision = false := by
        cases supported : weaker.supportsDolbyVision with
        | false => rfl
        | true => cases native.symm.trans (extended.supportsDolbyVision supported)
      have shows : BaseShown media weaker → BaseShown media stronger := by
        rintro ⟨profile, base, known, shown⟩
        exact ⟨profile, base, known, hdrSupported_mono extended.hdrFormats shown⟩
      rcases evaluateDynamicRange_dolby config dolby unsupported with ⟨shown, weak⟩ | ⟨-, weak⟩
      · rcases evaluateDynamicRange_dolby config dolby native with ⟨-, strong⟩ | ⟨unshown, -⟩
        · rw [weak, strong]
          have fallback := extended.allowClientSideDvFallback
          cases config.allowClientSideDvFallback <;> cases weakly : weaker.allowClientSideDvFallback <;>
            cases strongly : stronger.allowClientSideDvFallback <;> simp_all
        · exact (unshown (shows shown)).elim
      · rw [weak]
        exact ⟨by rintro ⟨⟩, by rintro ⟨⟩⟩
  · rcases evaluateDynamicRange_plain config dolby with ⟨⟨known, shown⟩, -⟩ | ⟨-, weak⟩
    · have shows : RangeShown media stronger :=
        ⟨known, fun hdr => hdrSupported_mono extended.hdrFormats (shown hdr)⟩
      rcases evaluateDynamicRange_plain config dolby with ⟨-, plays⟩ | ⟨unshown, -⟩
      · exact ⟨fun _ => plays, fun _ => .inl plays⟩
      · exact (unshown shows).elim
    · rcases weak with same | same <;> rw [same] <;> exact ⟨by rintro ⟨⟩, by rintro ⟨⟩⟩

theorem evaluateVideo_extend (media : MediaFileInfo ν) (network : NetworkConditions) (config : DecisionEngineConfig)
    (extended : Extends weaker stronger) :
    ((evaluateVideo media weaker network config).1 = .directPlay →
      (evaluateVideo media stronger network config).1 = .directPlay) ∧
    ((evaluateVideo media weaker network config).1 = .remux →
      (evaluateVideo media stronger network config).1 = .directPlay ∨
        (evaluateVideo media stronger network config).1 = .remux) := by
  obtain ⟨plays, strips⟩ := evaluateDynamicRange_extend media config extended
  constructor
  · intro played
    obtain ⟨clear, range, container⟩ := evaluateVideo_directPlay.mp played
    exact evaluateVideo_directPlay.mpr ⟨clear.extend extended, plays range,
      containerSupported_mono extended.containers container⟩
  · intro remuxed
    obtain ⟨clear, reason⟩ := evaluateVideo_remux.mp remuxed
    have range : (evaluateDynamicRange media stronger config).1 = .directPlay ∨
        (evaluateDynamicRange media stronger config).1 = .remux := by
      rcases reason with stripped | ⟨played, -⟩
      · exact strips stripped
      · exact .inl (plays played)
    rcases range with played | stripped
    · cases container : containerSupported media.containerFormat stronger.containers with
      | true => exact .inl (evaluateVideo_directPlay.mpr ⟨clear.extend extended, played, container⟩)
      | false => exact .inr (evaluateVideo_remux.mpr ⟨clear.extend extended, .inr ⟨played, container⟩⟩)
    · exact .inr (evaluateVideo_remux.mpr ⟨clear.extend extended, .inl stripped⟩)

theorem evaluateAudio_passthrough : (evaluateAudio media device config).1 = .passthrough ↔
    config.audioPassthroughEnabled = true ∧ codecSupported media.audioCodec device.audioCodecs = true ∧
      media.audioChannels ≤ device.maxAudioChannels := by
  unfold evaluateAudio
  cases config.audioPassthroughEnabled <;> cases codecSupported media.audioCodec device.audioCodecs <;>
    by_cases many : media.audioChannels > device.maxAudioChannels <;> simp [many]
  exact Nat.not_lt.mp many

/-- Only an image format that the device lacks is burnt in. -/
theorem evaluateSubtitle_burnIn : (evaluateSubtitle media device config).1 = .burnIn ↔
    ∃ format, media.subtitleFormat = some format ∧ config.toLowercase format ∉ textSubtitleFormats ∧
      config.toLowercase format ∈ imageSubtitleFormats ∧ config.toLowercase format ∉ device.subtitleFormats := by
  unfold evaluateSubtitle
  cases media.subtitleFormat with
  | none => simp
  | some format =>
    dsimp only
    simp only [Option.some.injEq, exists_eq_left']
    split
    · rename_i text
      have text : config.toLowercase format ∈ textSubtitleFormats := by simpa using text
      split <;> simp [text]
    · rename_i text
      have text : config.toLowercase format ∉ textSubtitleFormats := by simpa using text
      split
      · rename_i image
        have image : config.toLowercase format ∈ imageSubtitleFormats := by simpa using image
        split
        · rename_i native
          simp [native]
        · rename_i lacks
          split <;> simp [text, image, lacks]
      · rename_i image
        have image : config.toLowercase format ∉ imageSubtitleFormats := by simpa using image
        simp [image]

/-- What is delivered without an encoding. -/
def Untouched (media : MediaFileInfo ν) (device : DeviceCapabilities) (config : DecisionEngineConfig) : Prop :=
  (evaluateAudio media device config).1 = .passthrough ∧ (evaluateSubtitle media device config).1 ≠ .burnIn

theorem Untouched.extend (extended : Extends weaker stronger) (untouched : Untouched media weaker config) :
    Untouched media stronger config := by
  obtain ⟨audio, subtitle⟩ := untouched
  obtain ⟨enabled, codec, channels⟩ := evaluateAudio_passthrough.mp audio
  constructor
  · exact evaluateAudio_passthrough.mpr ⟨enabled, codecSupported_mono extended.audioCodecs codec,
      channels.trans extended.maxAudioChannels⟩
  · intro burnt
    obtain ⟨format, named, text, image, lacks⟩ := evaluateSubtitle_burnIn.mp burnt
    exact subtitle (evaluateSubtitle_burnIn.mpr ⟨format, named, text, image,
      fun member => lacks (extended.subtitleFormats member)⟩)

end

theorem overall_directPlay : (decide media device network config).overall = .directPlay ↔
    (evaluateVideo media device network config).1 = .directPlay ∧ Untouched media device config := by
  unfold decide computeOverallDecision Untouched
  simp only [decide_eq_true_eq]
  split
  · rename_i played
    simp [played]
  · rename_i other
    split <;> simp_all

theorem overall_directStream : (decide media device network config).overall = .directStream ↔
    (evaluateVideo media device network config).1 = .remux ∧ Untouched media device config := by
  unfold decide computeOverallDecision Untouched
  simp only [decide_eq_true_eq]
  split
  · rename_i played
    simp [played]
  · split <;> simp_all

/-- The order from the file as it is to an encoding. -/
def StreamDecision.cost : StreamDecision → Nat
  | .directPlay => 0
  | .directStream => 1
  | .transcode => 2

/-- A device that supports more is never answered worse. -/
theorem decide_extend (media : MediaFileInfo ν) (network : NetworkConditions) (config : DecisionEngineConfig)
    (weaker stronger : DeviceCapabilities) (extended : Extends weaker stronger) :
    (decide media stronger network config).overall.cost ≤ (decide media weaker network config).overall.cost := by
  obtain ⟨plays, remuxes⟩ := evaluateVideo_extend media network config extended
  cases outcome : (decide media weaker network config).overall with
  | directPlay =>
    obtain ⟨video, untouched⟩ := overall_directPlay.mp outcome
    rw [overall_directPlay.mpr ⟨plays video, untouched.extend extended⟩]
  | directStream =>
    obtain ⟨video, untouched⟩ := overall_directStream.mp outcome
    rcases remuxes video with played | remuxed
    · rw [overall_directPlay.mpr ⟨played, untouched.extend extended⟩]
      decide
    · rw [overall_directStream.mpr ⟨remuxed, untouched.extend extended⟩]
  | transcode => cases (decide media stronger network config).overall <;> decide

/-- A television with Dolby Vision and without a limit of the bitrate is not answered worse. -/
theorem dolby_television_not_worse :
    (decide Sample.dolbyFilm { Sample.television with supportsDolbyVision := true, maxBitrateBps := 0 }
        Sample.unmeasured Sample.settings).overall.cost ≤
      (decide Sample.dolbyFilm Sample.television Sample.unmeasured Sample.settings).overall.cost :=
  decide_extend Sample.dolbyFilm Sample.unmeasured Sample.settings Sample.television
    { Sample.television with supportsDolbyVision := true, maxBitrateBps := 0 }
    ⟨Finset.Subset.refl _, Finset.Subset.refl _, Finset.Subset.refl _, Finset.Subset.refl _, le_refl _, le_refl _,
      Finset.Subset.refl _, .inl rfl, fun _ => rfl, fun same => same, .inr ⟨by decide, le_refl _⟩⟩

/-! ## A container taken away -/

/-- Both streams are copied as they are, into another container. -/
structure CopiedUnchanged (media : MediaFileInfo ν) (decision : PlaybackDecision) : Prop where
  overall : decision.overall = .directStream
  video : decision.video = .remux
  audio : decision.audio = .passthrough
  strip : decision.requiresDvStrip = false
  toneMap : decision.requiresToneMapping = false
  burnIn : decision.subtitleBurnInRequired = false
  plan : codecSupported media.videoCodec copyVideo = true → codecSupported media.audioCodec copyAudio = true →
    StreamPlan.compile decision media false = .ok ⟨.copy, .copy⟩

theorem StreamPlan.compile_copies {decision : PlaybackDecision} (video : decision.video = .remux)
    (audio : decision.audio = .passthrough) (strip : decision.requiresDvStrip = false)
    (toneMap : decision.requiresToneMapping = false) (burnIn : decision.subtitleBurnInRequired = false)
    (copiesVideo : codecSupported media.videoCodec copyVideo = true)
    (copiesAudio : codecSupported media.audioCodec copyAudio = true) :
    StreamPlan.compile decision media false = .ok ⟨.copy, .copy⟩ := by
  simp [StreamPlan.compile, video, audio, strip, toneMap, burnIn, copiesVideo, copiesAudio]

theorem needsDvStrip_iff : needsDvStrip media device = true ↔
    (extractDvProfile media = some 7 ∨ extractDvProfile media = some 8) ∧ device.supportsDolbyVision = false := by
  unfold needsDvStrip
  cases extractDvProfile media <;> simp

/-- A file that is played as it is is copied unchanged once its container alone is not
supported, except for a Dolby Vision layer that the client was trusted with: that one
is stripped. -/
theorem container_taken_away (media : MediaFileInfo ν) (device : DeviceCapabilities) (network : NetworkConditions)
    (config : DecisionEngineConfig) (containers : Finset String)
    (played : (decide media device network config).overall = .directPlay)
    (unsupported : containerSupported media.containerFormat containers = false) :
    CopiedUnchanged media (decide media { device with containers } network config) ↔
      ¬ ((extractDvProfile media = some 7 ∨ extractDvProfile media = some 8) ∧ device.supportsDolbyVision = false) := by
  obtain ⟨video, audio, subtitle⟩ := overall_directPlay.mp played
  obtain ⟨clear, range, -⟩ := evaluateVideo_directPlay.mp video
  -- none of the checks but the last reads the containers
  have clear : Clear media { device with containers } network config := ⟨clear.codec, clear.known, clear.depth,
    clear.resolution, clear.deviceBitrate, clear.bitrate, clear.manual⟩
  have remuxed : (evaluateVideo media { device with containers } network config).1 = .remux :=
    evaluateVideo_remux.mpr ⟨clear, .inr ⟨range, unsupported⟩⟩
  have untouched : Untouched media { device with containers } config := ⟨audio, subtitle⟩
  have strip : (decide media { device with containers } network config).requiresDvStrip = needsDvStrip media device := by
    unfold decide
    simp only [remuxed]
    rfl
  constructor
  · rintro copied needed
    cases copied.strip.symm.trans (strip.trans (needsDvStrip_iff.mpr needed))
  · intro unneeded
    have plain : needsDvStrip media device = false := by
      simpa only [← needsDvStrip_iff, Bool.not_eq_true] using unneeded
    have toneMap : (decide media { device with containers } network config).requiresToneMapping = false := by
      unfold decide
      simp only [remuxed]
      rfl
    have burnIn : (decide media { device with containers } network config).subtitleBurnInRequired = false :=
      decide_eq_false untouched.2
    exact ⟨overall_directStream.mpr ⟨remuxed, untouched⟩, remuxed, audio, strip.trans plain, toneMap, burnIn,
      StreamPlan.compile_copies remuxed audio (strip.trans plain) toneMap burnIn⟩

/-- The film is copied into another container for a television that plays only MP4. -/
theorem film_copied_unchanged :
    CopiedUnchanged Sample.film (decide Sample.film { Sample.television with containers := {"mp4"} } Sample.unmeasured
      Sample.settings) :=
  (container_taken_away Sample.film Sample.television Sample.unmeasured Sample.settings {"mp4"}
    (by decide +kernel) (by decide +kernel)).mpr (by decide +kernel)

/-- A Dolby Vision film that plays as it is is stripped, and then not planned at all, once
its container is not supported. -/
theorem dolby_film_stripped :
    let decision := decide Sample.dolbyFilm { Sample.television with containers := {"mp4"} } Sample.unmeasured
      Sample.settings
    (decide Sample.dolbyFilm Sample.television Sample.unmeasured Sample.settings).overall = .directPlay ∧
      containerSupported Sample.dolbyFilm.containerFormat {"mp4"} = false ∧ decision.overall = .directStream ∧
      decision.requiresDvStrip = true ∧
      StreamPlan.compile decision Sample.dolbyFilm false = .error .unsupportedHdrConversion ∧
      ¬ CopiedUnchanged Sample.dolbyFilm decision := by
  intro decision
  have stripped : decision.requiresDvStrip = true := by decide +kernel
  refine ⟨by decide +kernel, by decide +kernel, by decide +kernel, stripped, by decide +kernel, ?_⟩
  intro copied
  cases copied.strip.symm.trans stripped

end Duskcue.DecisionEngine
