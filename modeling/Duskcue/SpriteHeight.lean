import Mathlib.Data.Nat.Bitwise

/-! The height that is read from the header of a sprite sheet. The lossy layout is read as it is
written; the lossless one a byte too late, and without its upper bits. -/
namespace Duskcue.Storyboards

/-- `fallback_height_from_filename`. -/
def fallbackHeight : Nat := 180

/-- `&bytes[start..stop]`; none is a panic, as for an index. -/
def slice (bytes : List UInt8) (start stop : Nat) : Option (List UInt8) :=
  if stop ≤ bytes.length then some ((bytes.take stop).drop start) else none

/-- `u16::from_le_bytes` of two bytes in a row. -/
def u16At (bytes : List UInt8) (index : Nat) : Option Nat := do
  let low ← bytes[index]?
  let high ← bytes[index + 1]?
  return low.toNat + 256 * high.toNat

/-- The lossy branch of `inspect_sprite_height`. -/
def lossyHeight (bytes : List UInt8) : Option Nat := do
  let width := (← u16At bytes 26) &&& 0x3FFF
  let height := (← u16At bytes 28) &&& 0x3FFF
  return if width = 0 ∨ height = 0 then fallbackHeight else height

/-- The lossless branch. -/
def losslessHeight (bytes : List UInt8) : Option Nat := do
  if bytes.length < 25 then return fallbackHeight
  if (← bytes[21]?) ≠ 0x2F then return fallbackHeight
  let b0 := (← bytes[22]?).toNat
  let b1 := (← bytes[23]?).toNat
  let b2 := (← bytes[24]?).toNat
  let width := 1 + (b0 ||| ((b1 &&& 0x3F) <<< 8))
  let height := 1 + (((b1 >>> 6) &&& 0x03) ||| (b2 <<< 2))
  return if width = 0 ∨ height = 0 then fallbackHeight else height

def riff : List UInt8 := [0x52, 0x49, 0x46, 0x46]
def webp : List UInt8 := [0x57, 0x45, 0x42, 0x50]
def vp8 : List UInt8 := [0x56, 0x50, 0x38, 0x20]
def vp8l : List UInt8 := [0x56, 0x50, 0x38, 0x4C]

/-- `inspect_sprite_height`. -/
def inspectSpriteHeight (bytes : List UInt8) : Option Nat := do
  if bytes.length < 30 then return fallbackHeight
  if (← slice bytes 0 4) ≠ riff then return fallbackHeight
  if (← slice bytes 8 12) ≠ webp then return fallbackHeight
  let fourcc ← slice bytes 12 16
  if fourcc = vp8 then lossyHeight bytes
  else if fourcc = vp8l then losslessHeight bytes
  else return fallbackHeight

/-! ## Simple files -/

/-- The lowest bytes of a number, the lowest first. -/
def littleEndian : Nat → Nat → List UInt8
  | 0, _ => []
  | count + 1, n => UInt8.ofNat n :: littleEndian count (n / 256)

/-- The header of an image: a key frame with its tag and the two scales, or a lossless image
with or without alpha. -/
inductive Frame where
  | lossy (tag horizontal vertical : Nat)
  | lossless (alpha : Bool)

/-- A simple WebP file. -/
structure WebpFile where
  width : Nat
  height : Nat
  frame : Frame
  data : List UInt8
  widthFits : 0 < width ∧ width < 2 ^ 14
  heightFits : 0 < height ∧ height < 2 ^ 14

def WebpFile.payload (file : WebpFile) : List UInt8 :=
  match file.frame with
  | .lossy tag horizontal vertical =>
    littleEndian 3 (2 * tag) ++ [0x9D, 0x01, 0x2A] ++ littleEndian 2 (file.width + 2 ^ 14 * horizontal) ++
      littleEndian 2 (file.height + 2 ^ 14 * vertical) ++ file.data
  | .lossless alpha =>
    0x2F :: littleEndian 4 ((file.width - 1) + 2 ^ 14 * (file.height - 1) + 2 ^ 28 * alpha.toNat) ++ file.data

def Frame.fourcc : Frame → List UInt8
  | .lossy .. => vp8
  | .lossless _ => vp8l

def WebpFile.bytes (file : WebpFile) : List UInt8 :=
  let length := file.payload.length
  riff ++ littleEndian 4 (12 + length + length % 2) ++ webp ++ file.frame.fourcc ++
    (littleEndian 4 length ++ (file.payload ++ List.replicate (length % 2) 0))

section Reading
variable {bytes : List UInt8}

theorem slice_isSome (start : Nat) (inside : stop ≤ bytes.length) : (slice bytes start stop).isSome := by
  rw [slice, if_pos inside]
  rfl

theorem byte_isSome (inside : index < bytes.length) : ∃ b, bytes[index]? = some b :=
  ⟨bytes[index], List.getElem?_eq_getElem inside⟩

theorem lossy_total (long : 30 ≤ bytes.length) : (lossyHeight bytes).isSome := by
  obtain ⟨a, first⟩ := byte_isSome (show 26 < bytes.length by omega)
  obtain ⟨b, second⟩ := byte_isSome (show 27 < bytes.length by omega)
  obtain ⟨c, third⟩ := byte_isSome (show 28 < bytes.length by omega)
  obtain ⟨d, fourth⟩ := byte_isSome (show 29 < bytes.length by omega)
  simp [lossyHeight, u16At, first, second, third, fourth]

theorem lossless_total : (losslessHeight bytes).isSome := by
  by_cases short : bytes.length < 25
  · simp [losslessHeight, short]
  · obtain ⟨a, first⟩ := byte_isSome (show 21 < bytes.length by omega)
    obtain ⟨b, second⟩ := byte_isSome (show 22 < bytes.length by omega)
    obtain ⟨c, third⟩ := byte_isSome (show 23 < bytes.length by omega)
    obtain ⟨d, fourth⟩ := byte_isSome (show 24 < bytes.length by omega)
    by_cases signature : a = 0x2F <;> simp [losslessHeight, short, first, second, third, fourth, signature]

/-- No byte string is read out of its bounds. -/
theorem inspect_total (bytes : List UInt8) : (inspectSpriteHeight bytes).isSome := by
  by_cases short : bytes.length < 30
  · simp [inspectSpriteHeight, short]
  · obtain ⟨a, first⟩ := Option.isSome_iff_exists.mp (slice_isSome 0 (show 4 ≤ bytes.length by omega))
    obtain ⟨b, second⟩ := Option.isSome_iff_exists.mp (slice_isSome 8 (show 12 ≤ bytes.length by omega))
    obtain ⟨c, third⟩ := Option.isSome_iff_exists.mp (slice_isSome 12 (show 16 ≤ bytes.length by omega))
    have lossy := lossy_total (show 30 ≤ bytes.length by omega)
    have lossless : (losslessHeight bytes).isSome := lossless_total
    simp only [inspectSpriteHeight, short, first, second, third, if_false, Option.bind_eq_bind, Option.bind_some,
      Option.pure_def]
    split
    · rfl
    · split
      · rfl
      · split
        · exact lossy
        · split
          · exact lossless
          · rfl

/-- What the reader makes of a file behind its two signatures. -/
theorem inspect_file {sizes chunk tail : List UInt8} (four : sizes.length = 4) (known : chunk = vp8 ∨ chunk = vp8l)
    (whole : bytes = riff ++ sizes ++ webp ++ chunk ++ tail) :
    inspectSpriteHeight bytes = if bytes.length < 30 then some fallbackHeight
      else if chunk = vp8 then lossyHeight bytes else losslessHeight bytes := by
  match sizes, four with
  | [a, b, c, d], _ =>
    have first : (bytes.take 4).drop 0 = riff := by rw [whole]; rfl
    have second : (bytes.take 12).drop 8 = webp := by rw [whole]; rfl
    have third : (bytes.take 16).drop 12 = chunk := by
      rcases known with rfl | rfl <;> rw [whole] <;> rfl
    unfold inspectSpriteHeight
    by_cases short : bytes.length < 30
    · simp [short]
    · have inside {stop : Nat} (early : stop ≤ 30) : stop ≤ bytes.length := by omega
      simp only [short, if_false, slice, @inside 4 (by omega), @inside 12 (by omega),
        @inside 16 (by omega), if_true, first, second, third, Option.bind_eq_bind, Option.bind_some]
      rcases known with rfl | rfl
      · simp
      · simp [vp8, vp8l]

end Reading

section Files
variable {file : WebpFile}

theorem u16At_littleEndian (front rest : List UInt8) (n : Nat) :
    u16At (front ++ (littleEndian 2 n ++ rest)) front.length = some (n % 2 ^ 16) := by
  have value : n % 256 + 256 * (n / 256 % 256) = n % 2 ^ 16 := by omega
  simp [u16At, littleEndian, value]

/-- A packed dimension behind which two bits of scale stand. -/
theorem masked (fits : size < 2 ^ 14) : (size + 2 ^ 14 * scale) % 2 ^ 16 &&& 0x3FFF = size := by
  have mask := Nat.and_two_pow_sub_one_eq_mod ((size + 2 ^ 14 * scale) % 2 ^ 16) 14
  rw [show 0x3FFF = 2 ^ 14 - 1 from rfl, mask]
  omega

theorem inspect_frame (file : WebpFile) :
    inspectSpriteHeight file.bytes = if file.bytes.length < 30 then some fallbackHeight
      else if file.frame.fourcc = vp8 then lossyHeight file.bytes else losslessHeight file.bytes :=
  inspect_file rfl (by cases file.frame <;> simp [Frame.fourcc]) rfl

theorem lossy_read (frame : file.frame = .lossy tag horizontal vertical) :
    inspectSpriteHeight file.bytes = some file.height := by
  obtain ⟨sizes, length, pad, foursizes, fourlength, shape⟩ : ∃ sizes length pad : List UInt8, sizes.length = 4 ∧
      length.length = 4 ∧ file.bytes = riff ++ sizes ++ webp ++ vp8 ++ (length ++ (file.payload ++ pad)) :=
    ⟨_, _, _, rfl, rfl, by rw [WebpFile.bytes, frame]; rfl⟩
  have wide : file.bytes = (riff ++ sizes ++ webp ++ vp8 ++ length ++ littleEndian 3 (2 * tag) ++ [0x9D, 0x01, 0x2A]) ++
      (littleEndian 2 (file.width + 2 ^ 14 * horizontal) ++
        (littleEndian 2 (file.height + 2 ^ 14 * vertical) ++ (file.data ++ pad))) := by
    rw [shape, WebpFile.payload, frame]
    simp only [List.append_assoc]
  have high : file.bytes = (riff ++ sizes ++ webp ++ vp8 ++ length ++ littleEndian 3 (2 * tag) ++ [0x9D, 0x01, 0x2A] ++
      littleEndian 2 (file.width + 2 ^ 14 * horizontal)) ++
        (littleEndian 2 (file.height + 2 ^ 14 * vertical) ++ (file.data ++ pad)) := by
    rw [wide]
    simp only [List.append_assoc]
  have long : ¬file.bytes.length < 30 := by
    rw [wide]
    simp [riff, webp, vp8, littleEndian, foursizes, fourlength]
    omega
  have width : u16At file.bytes 26 = some ((file.width + 2 ^ 14 * horizontal) % 2 ^ 16) := by
    rw [wide]
    convert u16At_littleEndian _ _ _ using 2
    simp [riff, webp, vp8, littleEndian, foursizes, fourlength]
  have height : u16At file.bytes 28 = some ((file.height + 2 ^ 14 * vertical) % 2 ^ 16) := by
    rw [high]
    convert u16At_littleEndian _ _ _ using 2
    simp [riff, webp, vp8, littleEndian, foursizes, fourlength]
  rw [inspect_frame, if_neg long, if_pos (by rw [frame]; rfl), lossyHeight, width, height]
  simp only [Option.bind_eq_bind, Option.bind_some, masked file.widthFits.2, masked file.heightFits.2]
  rw [if_neg (by have := file.widthFits; have := file.heightFits; omega)]
  rfl

/-- The dimensions and the alpha bit of a lossless image, in one number. -/
def packed (width height : Nat) (alpha : Bool) : Nat := (width - 1) + 2 ^ 14 * (height - 1) + 2 ^ 28 * alpha.toNat

theorem packed_low (width height : Nat) (alpha : Bool) :
    packed width height alpha % 256 = (width - 1) % 256 := by
  unfold packed
  omega

/-- The bits that the reader takes from the third and fourth byte. -/
theorem packed_high (widthFits : 0 < width ∧ width < 2 ^ 14) (heightFits : 0 < height ∧ height < 2 ^ 14) :
    ((packed width height alpha / 65536 % 256) >>> 6 &&& 0x03) |||
      ((packed width height alpha / 16777216 % 256) <<< 2) =
      (height - 1) / 256 + 64 * alpha.toNat := by
  have bit : alpha.toNat ≤ 1 := Bool.toNat_le alpha
  have low (n : Nat) : n >>> 6 &&& 0x03 = n / 64 % 4 := by
    rw [show 0x03 = 2 ^ 2 - 1 from rfl, Nat.and_two_pow_sub_one_eq_mod, Nat.shiftRight_eq_div_pow]
  have small : packed width height alpha / 65536 % 256 / 64 % 4 < 2 ^ 2 := Nat.mod_lt _ (by decide)
  rw [low, Nat.or_comm, ← Nat.shiftLeft_add_eq_or_of_lt small, Nat.shiftLeft_eq]
  unfold packed
  omega

theorem lossless_read (frame : file.frame = .lossless alpha) :
    inspectSpriteHeight file.bytes =
      some (if file.bytes.length < 30 ∨ (file.width - 1) % 256 ≠ 0x2F then fallbackHeight
        else 1 + ((file.height - 1) / 256 + 64 * alpha.toNat)) := by
  have fourcc : file.frame.fourcc = vp8l := by rw [frame]; rfl
  rw [inspect_frame, if_neg (by rw [fourcc]; decide : ¬file.frame.fourcc = vp8)]
  by_cases short : file.bytes.length < 30
  · rw [if_pos short, if_pos (.inl short)]
  · rw [if_neg short]
    obtain ⟨front, rest, length, shape⟩ : ∃ front rest : List UInt8, front.length = 21 ∧
        file.bytes = front ++ (littleEndian 4 (packed file.width file.height alpha) ++ rest) := by
      refine ⟨riff ++ littleEndian 4 (12 + file.payload.length + file.payload.length % 2) ++ webp ++ vp8l ++
        littleEndian 4 file.payload.length ++ [0x2F],
        file.data ++ List.replicate (file.payload.length % 2) 0, by simp [riff, webp, vp8l, littleEndian], ?_⟩
      have content : file.payload = 0x2F :: (littleEndian 4 (packed file.width file.height alpha) ++ file.data) := by
        rw [WebpFile.payload, frame]
        rfl
      rw [WebpFile.bytes, fourcc]
      simp [content]
    have byte (offset : Nat) : file.bytes[21 + offset]? =
        (littleEndian 4 (packed file.width file.height alpha) ++ rest)[offset]? := by
      rw [shape, List.getElem?_append_right (by omega), length, Nat.add_sub_cancel_left]
    have first := byte 0
    have second := byte 1
    have third := byte 2
    have fourth := byte 3
    simp only [littleEndian, List.cons_append, List.getElem?_cons_zero, List.getElem?_cons_succ, Nat.div_div_eq_div_mul,
      Nat.reduceAdd, Nat.reduceMul] at first second third fourth
    simp only [losslessHeight, show ¬file.bytes.length < 25 by omega, if_false, first, second, third, fourth,
      Option.bind_eq_bind, Option.bind_some, Option.pure_def]
    have signed : UInt8.ofNat (packed file.width file.height alpha) = 0x2F ↔ (file.width - 1) % 256 = 0x2F := by
      rw [← UInt8.toNat_inj, UInt8.toNat_ofNat', ← packed_low file.width file.height alpha]
      rfl
    by_cases signature : (file.width - 1) % 256 = 0x2F
    · rw [if_neg (not_not.mpr (signed.mpr signature)), if_neg (by omega : ¬(_ ∨ _))]
      simp only [UInt8.toNat_ofNat', Nat.reducePow, packed_high file.widthFits file.heightFits]
      rw [if_neg (by omega)]
    · rw [if_pos (mt signed.mp signature), if_pos (.inr signature)]

/-- The files whose height is read as it is written: the lossy ones, and of the lossless ones
those of the height that the reader comes to. -/
def WebpFile.Readable (file : WebpFile) : Prop :=
  match file.frame with
  | .lossy .. => True
  | .lossless alpha =>
    if file.bytes.length < 30 ∨ (file.width - 1) % 256 ≠ 0x2F then file.height = 180
    else file.height = if alpha then 65 else 1

/-- Nothing is read out of bounds, and the height is right for the readable files. -/
theorem inspect_height_iff (bytes : List UInt8) (file : WebpFile) : (inspectSpriteHeight bytes).isSome ∧
    (inspectSpriteHeight file.bytes = some file.height ↔ file.Readable) := by
  refine ⟨inspect_total bytes, ?_⟩
  have heightFits := file.heightFits
  unfold WebpFile.Readable
  split
  · rename_i frame
    simp [lossy_read frame]
  · rename_i alpha frame
    rw [lossless_read frame, Option.some.injEq]
    split
    · exact eq_comm
    · cases alpha <;> simp only [Bool.toNat_false, Bool.toNat_true, Bool.false_eq_true, if_true, if_false] <;> omega

end Files

/-- A lossless image of 320 by 240 pixels. -/
def losslessSample : WebpFile where
  width := 320
  height := 240
  frame := .lossless false
  data := List.replicate 15 0
  widthFits := by decide
  heightFits := by decide

theorem lossless_misread : ¬ ∀ file : WebpFile, inspectSpriteHeight file.bytes = some file.height := by
  intro all
  have read : inspectSpriteHeight losslessSample.bytes = some 180 := by decide
  have claimed : some 180 = some 240 := read.symm.trans (all losslessSample)
  cases claimed

end Duskcue.Storyboards
