import Duskcue.Text
import Duskcue.Transaction

/-! Byte ranges of a `Range` header. `parse` reads the header as the server does; `ByteRange`
is the grammar of a single range, with the bytes it stands for. -/
namespace Duskcue.Playback
open Text

variable {range : ByteRange}

inductive RangeError
  | invalidByteRange (message : String)
  deriving DecidableEq

structure RangeSpec where
  start : UInt64
  end_ : UInt64
  total : UInt64
  deriving DecidableEq

namespace RangeSpec

def invalid : RangeError := .invalidByteRange "expected a satisfiable single byte range"

/-- The value of decimal digits. -/
def decimal (digits : List Char) : Nat := digits.foldl (fun n c => 10 * n + (c.toNat - '0'.toNat)) 0

/-- `str::parse::<u64>`, of digits only. -/
def parseDigits (digits : List Char) : Option UInt64 :=
  if decimal digits < 2 ^ 64 then some (.ofNat (decimal digits)) else none

def number (value : List Char) : Except RangeError UInt64 :=
  if value.isEmpty || !value.all Char.isDigit then .error invalid
  else (parseDigits value).elim (.error invalid) .ok

/-- `u64::saturating_sub`. -/
def saturatingSub (a b : UInt64) : UInt64 := if b ≤ a then a - b else 0

/-- The first and the last byte of a range of a file that is not empty. -/
def bounds (size : UInt64) (first last : List Char) : Except RangeError (UInt64 × UInt64) :=
  if first.isEmpty then do
    let suffix ← number last
    if suffix = 0 then .error invalid else .ok (saturatingSub size suffix, size - 1)
  else do
    let start ← number first
    let end_ ← (if last.isEmpty then .ok (size - 1) else number last)
    if start ≥ size ∨ start > end_ then .error invalid else .ok (start, min end_ (size - 1))

/-- `RangeSpec::parse`. -/
def parse (header : Option (List Char)) (size : UInt64) : Except RangeError (Option RangeSpec) :=
  match header with
  | none => .ok none
  | some header =>
    if byteLength header > 128 then .error invalid
    else match splitOnce ['='] header with
      | none => .error invalid
      | some (unit, spec) =>
        if unit.map Char.toLower ≠ "bytes".toList then .ok none
        else if size = 0 then .error invalid
        else match splitOnce ['-'] spec with
          | none => .error invalid
          | some (first, last) => do
            let found ← bounds size first last
            .ok (some { start := found.1, end_ := found.2, total := size })

def contentLength (range : RangeSpec) : UInt64 := range.end_ - range.start + 1

def contentRangeHeader (range : RangeSpec) : String :=
  s!"bytes {range.start}-{range.end_}/{range.total}"

end RangeSpec

/-! ## The grammar of a single range -/

/-- The digits of a number that fits into 64 bits. -/
structure Numeral (text : List Char) (value : Nat) : Prop where
  nonempty : text ≠ []
  digits : ∀ c ∈ text, c.isDigit = true
  reads : RangeSpec.decimal text = value
  fits : value < 2 ^ 64

inductive ByteRange
  | span (first last : Nat)
  | rest (first : Nat)
  | suffix (length : Nat)

namespace ByteRange

/-- How a range is written after the unit. -/
def Spelled (spec : List Char) : ByteRange → Prop
  | .span first last => ∃ a b, spec = a ++ '-' :: b ∧ Numeral a first ∧ Numeral b last
  | .rest first => ∃ a, spec = a ++ ['-'] ∧ Numeral a first
  | .suffix length => ∃ b, spec = '-' :: b ∧ Numeral b length

/-- Some byte of a file of this size is in the range. -/
def Satisfiable (size : Nat) : ByteRange → Prop
  | .span first last => first ≤ last ∧ first < size
  | .rest first => first < size
  | .suffix length => 0 < length ∧ 0 < size

/-- The first and the last byte of the range in a file of this size. -/
def assigned (size : Nat) : ByteRange → Nat × Nat
  | .span first last => (first, min last (size - 1))
  | .rest first => (first, size - 1)
  | .suffix length => (size - length, size - 1)

theorem assigned_within (satisfiable : range.Satisfiable size) :
    (range.assigned size).1 ≤ (range.assigned size).2 ∧ (range.assigned size).2 < size := by
  cases range <;> simp only [Satisfiable, assigned] at * <;> omega

end ByteRange

/-- The header asks for one range of bytes. -/
def Requests (header : List Char) (range : ByteRange) : Prop :=
  byteLength header ≤ 128 ∧ ∃ unit spec, header = unit ++ '=' :: spec ∧
    unit.map Char.toLower = "bytes".toList ∧ range.Spelled spec

/-- The header names a unit that is not bytes. -/
def NamesOtherUnit (header : List Char) : Prop :=
  byteLength header ≤ 128 ∧ ∃ unit spec, header = unit ++ '=' :: spec ∧ '=' ∉ unit ∧
    unit.map Char.toLower ≠ "bytes".toList

namespace RangeSpec

theorem toNat_sub_one {size : UInt64} (filled : size ≠ 0) : (size - 1).toNat = size.toNat - 1 := by
  have positive : 0 < size.toNat := Nat.pos_of_ne_zero fun zero => filled (UInt64.toNat_inj.mp zero)
  rw [UInt64.toNat_sub_of_le]
  · rfl
  · rw [UInt64.le_iff_toNat_le]
    exact positive

theorem toNat_saturatingSub (a b : UInt64) : (saturatingSub a b).toNat = a.toNat - b.toNat := by
  unfold saturatingSub
  split
  · rename_i fits
    exact UInt64.toNat_sub_of_le _ _ fits
  · rename_i past
    rw [UInt64.le_iff_toNat_le] at past
    simp only [UInt64.toNat_zero]
    omega

theorem toNat_min (a b : UInt64) : (min a b).toNat = min a.toNat b.toNat := by
  rw [UInt64.min_def]
  split
  · rename_i below
    exact (Nat.min_eq_left (UInt64.le_iff_toNat_le.mp below)).symm
  · rename_i above
    rw [UInt64.le_iff_toNat_le] at above
    omega

theorem number_eq_ok : number text = .ok n ↔ Numeral text n.toNat := by
  unfold number parseDigits
  constructor
  · intro read
    split at read
    · cases read
    · rename_i digits
      simp only [Bool.or_eq_true, List.isEmpty_iff, Bool.not_eq_true', List.all_eq_false, not_or, not_exists,
        not_and, Bool.not_eq_true, Bool.not_eq_false] at digits
      split at read
      · rename_i fits
        cases read
        refine ⟨digits.1, digits.2, ?_, ?_⟩
        · rw [UInt64.toNat_ofNat_of_lt' fits]
        · rw [UInt64.toNat_ofNat_of_lt' fits]
          exact fits
      · cases read
  · rintro ⟨nonempty, digits, reads, fits⟩
    have plain : (text.isEmpty || !text.all Char.isDigit) = false := by
      simpa [nonempty] using digits
    rw [plain, reads, if_pos fits]
    simp

theorem number_numeral (numeral : Numeral text n) : ∃ value, number text = .ok value ∧ value.toNat = n := by
  have same : (UInt64.ofNat n).toNat = n := UInt64.toNat_ofNat_of_lt' numeral.fits
  exact ⟨.ofNat n, number_eq_ok.mpr (same.symm ▸ numeral), same⟩

theorem numeral_plain (numeral : Numeral text n) : '-' ∉ text := by
  intro member
  exact absurd (numeral.digits _ member) (by decide)

section
variable {size : UInt64} {first last : List Char}

theorem toNat_pos (filled : size ≠ 0) : 0 < size.toNat :=
  Nat.pos_of_ne_zero fun zero => filled (UInt64.toNat_inj.mp zero)

theorem assigned_of_bounds {found : UInt64 × UInt64} (filled : size ≠ 0)
    (ran : bounds size first last = .ok found) :
    ∃ range : ByteRange, range.Spelled (first ++ '-' :: last) ∧ range.Satisfiable size.toNat ∧
      range.assigned size.toNat = (found.1.toNat, found.2.toNat) := by
  unfold bounds at ran
  split at ran
  · rename_i empty
    obtain rfl := List.isEmpty_iff.mp empty
    obtain ⟨suffix, read, ran⟩ := bind_ok ran
    split at ran
    · cases ran
    · rename_i some
      cases ran
      refine ⟨.suffix suffix.toNat, ⟨last, rfl, number_eq_ok.mp read⟩, ⟨toNat_pos some, toNat_pos filled⟩, ?_⟩
      simp only [ByteRange.assigned, toNat_saturatingSub, toNat_sub_one filled]
  · obtain ⟨start, read, ran⟩ := bind_ok ran
    obtain ⟨end_, reached, ran⟩ := bind_ok ran
    split at ran
    · cases ran
    · rename_i within
      simp only [ge_iff_le, gt_iff_lt, not_or, UInt64.lt_iff_toNat_lt, UInt64.le_iff_toNat_le, Nat.not_le,
        Nat.not_lt] at within
      obtain ⟨below, ordered⟩ := within
      cases ran
      split at reached
      · rename_i open_
        obtain rfl := List.isEmpty_iff.mp open_
        cases reached
        refine ⟨.rest start.toNat, ⟨first, rfl, number_eq_ok.mp read⟩, below, ?_⟩
        simp only [ByteRange.assigned, toNat_min, toNat_sub_one filled, Nat.min_self]
      · refine ⟨.span start.toNat end_.toNat, ⟨first, last, rfl, number_eq_ok.mp read, number_eq_ok.mp reached⟩,
          ⟨ordered, below⟩, ?_⟩
        simp only [ByteRange.assigned, toNat_min, toNat_sub_one filled]

/-- A satisfiable range has bounds, and `first` is what stands before the first dash. -/
theorem bounds_of_spelled (filled : size ≠ 0) (plain : '-' ∉ first)
    (spelled : range.Spelled (first ++ '-' :: last)) (satisfiable : range.Satisfiable size.toNat) :
    ∃ found, bounds size first last = .ok found := by
  unfold bounds
  cases range with
  | suffix =>
    obtain ⟨b, shape, numeral⟩ := spelled
    obtain rfl : first = [] := before_eq plain (by simp) (show first ++ '-' :: last = [] ++ '-' :: b from shape)
    obtain rfl : last = b := by simpa using shape
    obtain ⟨suffix, read, rfl⟩ := number_numeral numeral
    have some : suffix ≠ 0 := by
      rintro rfl
      exact absurd satisfiable.1 (by decide)
    rw [if_pos List.isEmpty_nil, read]
    exact ⟨_, if_neg some⟩
  | rest =>
    obtain ⟨x, shape, numeral⟩ := spelled
    obtain rfl : first = x := before_eq plain (numeral_plain numeral) shape
    obtain rfl : last = [] := by simpa using shape
    obtain ⟨start, read, rfl⟩ := number_numeral numeral
    have within : ¬ (start ≥ size ∨ start > size - 1) := by
      simp only [ByteRange.Satisfiable] at satisfiable
      simp only [ge_iff_le, gt_iff_lt, UInt64.lt_iff_toNat_lt, UInt64.le_iff_toNat_le, toNat_sub_one filled]
      omega
    rw [if_neg (by simpa using numeral.nonempty), read]
    exact ⟨_, if_neg within⟩
  | span =>
    obtain ⟨x, y, shape, numeral, reached⟩ := spelled
    obtain rfl : first = x := before_eq plain (numeral_plain numeral) shape
    obtain rfl : last = y := by simpa using shape
    obtain ⟨start, read, rfl⟩ := number_numeral numeral
    obtain ⟨end_, readEnd, rfl⟩ := number_numeral reached
    have within : ¬ (start ≥ size ∨ start > end_) := by
      simp only [ByteRange.Satisfiable] at satisfiable
      simp only [ge_iff_le, gt_iff_lt, UInt64.lt_iff_toNat_lt, UInt64.le_iff_toNat_le]
      omega
    rw [if_neg (by simpa using numeral.nonempty), read, if_neg (by simpa using reached.nonempty), readEnd]
    exact ⟨_, if_neg within⟩

/-- The form of a spelled range starts before the first dash. -/
theorem spelled_dash (spelled : range.Spelled spec) :
    ∃ first last, spec = first ++ '-' :: last ∧ '-' ∉ first := by
  cases range with
  | suffix =>
    obtain ⟨b, rfl, -⟩ := spelled
    exact ⟨[], b, rfl, by simp⟩
  | rest =>
    obtain ⟨x, rfl, numeral⟩ := spelled
    exact ⟨x, [], rfl, numeral_plain numeral⟩
  | span =>
    obtain ⟨x, y, rfl, numeral, -⟩ := spelled
    exact ⟨x, y, rfl, numeral_plain numeral⟩

/-- The form of a range shows in what stands on the two sides of the dash. -/
theorem spelled_form (plain : '-' ∉ first) (spelled : range.Spelled (first ++ '-' :: last)) :
    range = if first = [] then .suffix (decimal last)
      else if last = [] then .rest (decimal first) else .span (decimal first) (decimal last) := by
  cases range with
  | suffix =>
    obtain ⟨b, shape, numeral⟩ := spelled
    obtain rfl : first = [] := before_eq plain (by simp) (show first ++ '-' :: last = [] ++ '-' :: b from shape)
    obtain rfl : last = b := by simpa using shape
    rw [if_pos rfl, numeral.reads]
  | rest =>
    obtain ⟨x, shape, numeral⟩ := spelled
    obtain rfl : first = x := before_eq plain (numeral_plain numeral) shape
    obtain rfl : last = [] := by simpa using shape
    rw [if_neg numeral.nonempty, if_pos rfl, numeral.reads]
  | span =>
    obtain ⟨x, y, shape, numeral, reached⟩ := spelled
    obtain rfl : first = x := before_eq plain (numeral_plain numeral) shape
    obtain rfl : last = y := by simpa using shape
    rw [if_neg numeral.nonempty, if_neg reached.nonempty, numeral.reads, reached.reads]

end

/-! ## What a header is answered -/

section
variable {header : Option (List Char)} {size : UInt64}

theorem bytes_plain {unit : List Char} (bytes : unit.map Char.toLower = "bytes".toList) : '=' ∉ unit := by
  intro member
  have lowered : Char.toLower '=' ∈ unit.map Char.toLower := List.mem_map_of_mem member
  rw [bytes] at lowered
  exact absurd lowered (by decide)

theorem parse_some (ran : parse header size = .ok (some spec)) :
    ∃ text range, header = some text ∧ Requests text range ∧ range.Satisfiable size.toNat ∧
      range.assigned size.toNat = (spec.start.toNat, spec.end_.toNat) ∧ spec.total = size := by
  unfold parse at ran
  split at ran
  · cases ran
  · rename_i text
    split at ran
    · cases ran
    · rename_i short
      split at ran
      · cases ran
      · rename_i unit rest split_
        obtain ⟨rfl, -⟩ := splitOnce_char.mp split_
        split at ran
        · cases ran
        · rename_i bytes
          split at ran
          · cases ran
          · rename_i filled
            split at ran
            · cases ran
            · rename_i first last split_
              obtain ⟨rfl, -⟩ := splitOnce_char.mp split_
              obtain ⟨found, bounded, ran⟩ := bind_ok ran
              obtain ⟨range, spelled, satisfiable, assigned⟩ := assigned_of_bounds filled bounded
              cases ran
              exact ⟨_, range, rfl, ⟨by omega, unit, _, rfl, by simpa using bytes, spelled⟩, satisfiable, assigned, rfl⟩

theorem parse_of_requests (requests : Requests text range)
    (satisfiable : range.Satisfiable size.toNat) : ∃ spec, parse (some text) size = .ok (some spec) := by
  obtain ⟨short, unit, rest, rfl, bytes, spelled⟩ := requests
  obtain ⟨first, last, rfl, plain⟩ := spelled_dash spelled
  have filled : size ≠ 0 := by
    rintro rfl
    exact absurd (ByteRange.assigned_within satisfiable).2 (by simp)
  obtain ⟨found, bounded⟩ := bounds_of_spelled filled plain spelled satisfiable
  refine ⟨⟨found.1, found.2, size⟩, ?_⟩
  simp only [parse, if_neg (Nat.not_lt.mpr short), splitOnce_char.mpr ⟨rfl, bytes_plain bytes⟩, bytes,
    splitOnce_char.mpr ⟨rfl, plain⟩, if_neg filled, bounded, ne_eq, not_true_eq_false, ↓reduceIte]
  rfl

theorem parse_none : parse header size = .ok none ↔ header = none ∨ ∃ text, header = some text ∧ NamesOtherUnit text := by
  constructor
  · intro ran
    unfold parse at ran
    split at ran
    · exact .inl rfl
    · rename_i text
      split at ran
      · cases ran
      · rename_i short
        split at ran
        · cases ran
        · rename_i unit rest split_
          split at ran
          · rename_i other
            obtain ⟨shape, plain⟩ := splitOnce_char.mp split_
            exact .inr ⟨text, rfl, by omega, unit, rest, shape, plain, other⟩
          · split at ran
            · cases ran
            · split at ran
              · cases ran
              · obtain ⟨found, -, ran⟩ := bind_ok ran
                cases ran
  · rintro (rfl | ⟨text, rfl, short, unit, rest, shape, plain, other⟩)
    · rfl
    · simp only [parse, if_neg (Nat.not_lt.mpr short), splitOnce_char.mpr ⟨shape, plain⟩, if_pos other]

theorem number_error (ran : number text = .error error) : error = invalid := by
  unfold number at ran
  split at ran
  · exact (Except.error.inj ran).symm
  · cases read : parseDigits text with
    | none =>
      rw [read] at ran
      exact (Except.error.inj ran).symm
    | some =>
      rw [read] at ran
      cases ran

theorem bounds_error (ran : bounds size first last = .error error) : error = invalid := by
  unfold bounds at ran
  split at ran
  · rcases bind_error ran with failed | ⟨suffix, -, ran⟩
    · exact number_error failed
    · split at ran <;> cases ran
      rfl
  · rcases bind_error ran with failed | ⟨start, -, ran⟩
    · exact number_error failed
    · rcases bind_error ran with failed | ⟨end_, -, ran⟩
      · split at failed
        · cases failed
        · exact number_error failed
      · split at ran <;> cases ran
        rfl

/-- A header that is refused is refused with the one message. -/
theorem parse_error (ran : parse header size = .error error) : error = invalid := by
  unfold parse at ran
  split at ran
  · cases ran
  · split at ran
    · exact (Except.error.inj ran).symm
    · split at ran
      · exact (Except.error.inj ran).symm
      · split at ran
        · cases ran
        · split at ran
          · exact (Except.error.inj ran).symm
          · split at ran
            · exact (Except.error.inj ran).symm
            · rcases bind_error ran with failed | ⟨found, -, ran⟩
              · exact bounds_error failed
              · cases ran

/-- A header asks for one range only. -/
theorem requests_unique (requests : Requests text range) (requests' : Requests text other) : range = other := by
  obtain ⟨-, unit, rest, rfl, bytes, spelled⟩ := requests
  obtain ⟨-, unit', rest', shape, bytes', spelled'⟩ := requests'
  obtain rfl := before_eq (bytes_plain bytes) (bytes_plain bytes') shape
  obtain rfl : rest = rest' := by simpa using shape
  obtain ⟨first, last, rfl, plain⟩ := spelled_dash spelled
  rw [spelled_form plain spelled, spelled_form plain spelled']

/-- The length of a range of a file does not overflow. -/
theorem toNat_contentLength {spec : RangeSpec} (ordered : spec.start.toNat ≤ spec.end_.toNat)
    (within : spec.end_.toNat < size.toNat) :
    spec.contentLength.toNat = spec.end_.toNat - spec.start.toNat + 1 := by
  have bound := size.toNat_lt
  rw [contentLength, UInt64.toNat_add, UInt64.toNat_sub_of_le _ _ (UInt64.le_iff_toNat_le.mpr ordered)]
  simp only [UInt64.toNat_one]
  exact Nat.mod_eq_of_lt (by omega)

end

/-- A header is answered with a range exactly where it asks for a satisfiable one, and then
with the bytes that are assigned to it; with none exactly where there is no header, or one
of another unit; and refused everywhere else. -/
theorem parse_header (header : Option (List Char)) (size : UInt64) :
    ((∃ spec, parse header size = .ok (some spec)) ↔
      ∃ text range, header = some text ∧ Requests text range ∧ range.Satisfiable size.toNat) ∧
    (∀ spec, parse header size = .ok (some spec) →
      (∀ text range, header = some text → Requests text range →
        range.assigned size.toNat = (spec.start.toNat, spec.end_.toNat)) ∧ spec.total = size ∧
      spec.start ≤ spec.end_ ∧ spec.end_ < size ∧
      spec.contentLength.toNat = spec.end_.toNat - spec.start.toNat + 1) ∧
    (parse header size = .ok none ↔ header = none ∨ ∃ text, header = some text ∧ NamesOtherUnit text) ∧
    (parse header size = .error invalid ↔ ∃ text, header = some text ∧ ¬ NamesOtherUnit text ∧
      ∀ range, Requests text range → ¬ range.Satisfiable size.toNat) ∧
    (size = 0 → ∀ unit spec, header = some (unit ++ '=' :: spec) →
      unit.map Char.toLower = "bytes".toList → parse header size = .error invalid) := by
  have refused : parse header size = .error invalid ↔ (¬ ∃ spec, parse header size = .ok (some spec)) ∧
      parse header size ≠ .ok none := by
    cases ran : parse header size with
    | error error => simp [parse_error ran]
    | ok found => cases found <;> simp
  have answered : (∃ spec, parse header size = .ok (some spec)) ↔
      ∃ text range, header = some text ∧ Requests text range ∧ range.Satisfiable size.toNat := by
    constructor
    · rintro ⟨spec, ran⟩
      obtain ⟨text, range, rfl, requests, satisfiable, -⟩ := parse_some ran
      exact ⟨text, range, rfl, requests, satisfiable⟩
    · rintro ⟨text, range, rfl, requests, satisfiable⟩
      exact parse_of_requests requests satisfiable
  refine ⟨answered, ?_, parse_none, ?_, ?_⟩
  · intro spec ran
    obtain ⟨text, range, rfl, requests, satisfiable, assigned, total⟩ := parse_some ran
    obtain ⟨ordered, within⟩ := ByteRange.assigned_within satisfiable
    rw [assigned] at ordered within
    refine ⟨?_, total, UInt64.le_iff_toNat_le.mpr ordered, UInt64.lt_iff_toNat_lt.mpr within, ?_⟩
    · intro text' other same requests'
      cases same
      rw [requests_unique requests' requests, assigned]
    · exact toNat_contentLength ordered within
  · rw [refused, answered, ne_eq, parse_none]
    cases header <;> simp [and_comm]
  · rintro rfl unit spec rfl bytes
    rw [refused, answered, ne_eq, parse_none]
    refine ⟨?_, ?_⟩
    · rintro ⟨text, range, -, -, satisfiable⟩
      exact absurd (ByteRange.assigned_within satisfiable).2 (by simp)
    · rintro (none | ⟨text, same, -, unit', spec', shape, plain, other⟩)
      · cases none
      · cases same
        obtain rfl := before_eq (bytes_plain bytes) plain shape
        exact other bytes

end RangeSpec

end Duskcue.Playback
