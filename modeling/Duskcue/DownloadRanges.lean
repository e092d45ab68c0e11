import Duskcue.Decimals
import Duskcue.RangeSpec

/-! Byte ranges of a download package's files. The reader of downloads takes a header apart in another way than
that of playback, and a number may have a sign there. -/
namespace Duskcue.Downloads
open Text Decimals Playback

inductive DownloadRangeError
  | invalidByteRange (message : List Char)
  deriving DecidableEq

structure DownloadRangeSpec where
  start : UInt64
  end_ : UInt64
  total : UInt64
  deriving DecidableEq

namespace DownloadRangeSpec

/-- `str::parse::<u64>`, with what is said where it fails. -/
def number (invalid : String) (text : List Char) : Except DownloadRangeError UInt64 :=
  match parseBelow (2 ^ 64) text with
  | some n => .ok (.ofNat n)
  | none => .error (.invalidByteRange (invalid.toList ++ text))

/-- The first and the last byte that are asked for. -/
def bounds (fileSize : UInt64) (bytesSpec : List Char) : Except DownloadRangeError (UInt64 × UInt64) :=
  match stripSuffix ['-'] bytesSpec with
  | some rest => do
    let start ← number "invalid start byte: " rest
    .ok (start, fileSize - 1)
  | none =>
    match stripPrefix ['-'] bytesSpec with
    | some rest => do
      let suffixLen ← number "invalid suffix length: " rest
      .ok (RangeSpec.saturatingSub fileSize suffixLen, fileSize - 1)
    | none =>
      match bytesSpec.splitOn '-' with
      | [first, last] => do
        let start ← number "invalid start: " first
        let end_ ← (if last.isEmpty then .ok (fileSize - 1) else number "invalid end: " last)
        .ok (start, end_)
      | _ => .error (.invalidByteRange ("invalid range format: ".toList ++ bytesSpec))

/-- The message of a range that is not in the file. -/
def outOfBounds (start end_ fileSize : UInt64) : List Char :=
  (s!"range {start}-{end_} out of bounds for file size {fileSize}").toList

/-- `DownloadRangeSpec::parse`. -/
def parse (header : Option (List Char)) (fileSize : UInt64) : Except DownloadRangeError (Option DownloadRangeSpec) :=
  match header with
  | none => .ok none
  | some header =>
    if fileSize = 0 then .error (.invalidByteRange "cannot range over an empty package file".toList)
    else match stripPrefix "bytes=".toList header with
      | none => .error (.invalidByteRange "expected bytes= prefix".toList)
      | some bytesSpec =>
        if ',' ∈ bytesSpec then .error (.invalidByteRange "multiple byte ranges are not supported".toList)
        else do
          let found ← bounds fileSize bytesSpec
          if found.1 > found.2 ∨ found.1 ≥ fileSize then
            .error (.invalidByteRange (outOfBounds found.1 found.2 fileSize))
          else .ok (some { start := found.1, end_ := min found.2 (fileSize - 1), total := fileSize })

end DownloadRangeSpec

/-! ## Numbers with a sign -/

/-- The digits of a number that fits into 64 bits, with a plus sign or without. -/
def SignedNumeral (text : List Char) (value : Nat) : Prop :=
  ∃ digits, (text = digits ∨ text = '+' :: digits) ∧ Numeral digits value

/-- How a range is written after the unit where its numbers may have a sign. -/
def SignedSpelled (spec : List Char) : ByteRange → Prop
  | .span first last => ∃ a b, spec = a ++ '-' :: b ∧ SignedNumeral a first ∧ SignedNumeral b last
  | .rest first => ∃ a, spec = a ++ ['-'] ∧ SignedNumeral a first
  | .suffix length => ∃ b, spec = '-' :: b ∧ SignedNumeral b length

section Numerals
variable {text : List Char} {n : Nat}

theorem numeral_unsigned (numeral : Numeral text n) : '+' ∉ text :=
  fun member => absurd (numeral.digits _ member) (by decide)

theorem SignedNumeral.plain (signed : SignedNumeral text n) : text ≠ [] ∧ '-' ∉ text ∧ ',' ∉ text := by
  obtain ⟨digits, shape, numeral⟩ := signed
  have absent {c : Char} (other : c.isDigit = false) : c ∉ digits := fun member => by
    rw [numeral.digits c member] at other
    cases other
  rcases shape with rfl | rfl
  · exact ⟨numeral.nonempty, absent (by decide), absent (by decide)⟩
  · refine ⟨List.cons_ne_nil _ _, ?_, ?_⟩
    · simpa using absent (c := '-') (by decide)
    · simpa using absent (c := ',') (by decide)

theorem SignedNumeral.unsigned (signed : SignedNumeral text n) (bare : '+' ∉ text) : Numeral text n := by
  obtain ⟨digits, rfl | rfl, numeral⟩ := signed
  · exact numeral
  · exact absurd List.mem_cons_self bare

theorem parse_signed : parseBelow (2 ^ 64) text = some n ↔ SignedNumeral text n := by
  have read {digits : List Char} (stripped : (stripPrefix ['+'] text).getD text = digits) :
      parseBelow (2 ^ 64) text = some n ↔ Numeral digits n := by
    unfold parseBelow
    simp only [stripped]
    constructor
    · intro parsed
      split at parsed
      · rename_i held
        cases parsed
        exact ⟨held.1, List.all_eq_true.mp held.2.1, rfl, held.2.2⟩
      · cases parsed
    · rintro ⟨nonempty, digits', reads, fits⟩
      have reads' : Nat.ofDigitChars 10 digits 0 = n := reads
      rw [if_pos ⟨nonempty, List.all_eq_true.mpr digits', reads' ▸ fits⟩, reads']
  cases stripped : stripPrefix ['+'] text with
  | none =>
    have bare : ∀ digits, text ≠ '+' :: digits := by
      rintro digits rfl
      rw [stripPrefix_eq_some.mpr (show '+' :: digits = ['+'] ++ digits from rfl)] at stripped
      cases stripped
    rw [read (congrArg (Option.getD · _) stripped)]
    constructor
    · exact fun numeral => ⟨text, .inl rfl, numeral⟩
    · rintro ⟨digits, rfl | signed, numeral⟩
      · exact numeral
      · exact absurd signed (bare digits)
  | some digits =>
    obtain rfl := stripPrefix_eq_some.mp stripped
    rw [read (congrArg (Option.getD · _) stripped)]
    constructor
    · exact fun numeral => ⟨digits, .inr rfl, numeral⟩
    · rintro ⟨digits', rfl | signed, numeral⟩
      · exact absurd List.mem_cons_self (numeral_unsigned numeral)
      · obtain rfl := (List.cons.inj signed).2
        exact numeral

theorem number_eq_ok : DownloadRangeSpec.number invalid text = .ok value ↔ SignedNumeral text value.toNat := by
  unfold DownloadRangeSpec.number
  cases parsed : parseBelow (2 ^ 64) text with
  | none =>
    refine iff_of_false (by simp) fun signed => ?_
    rw [parse_signed.mpr signed] at parsed
    cases parsed
  | some n =>
    have signed := parse_signed.mp parsed
    have fits : n < 2 ^ 64 := by
      obtain ⟨_, _, numeral⟩ := signed
      exact numeral.fits
    have same : (UInt64.ofNat n).toNat = n := UInt64.toNat_ofNat_of_lt' fits
    constructor
    · rintro ⟨⟩
      rw [same]
      exact signed
    · intro other
      have values : n = value.toNat := Option.some.inj (parsed.symm.trans (parse_signed.mpr other))
      subst values
      exact congrArg Except.ok UInt64.ofNat_toNat

end Numerals

/-! ## Ranges -/

section Ranges
variable {size : UInt64} {spec header : List Char} {range : ByteRange}

/-- The first and the last byte as they are asked for. -/
def requested (size : Nat) : ByteRange → Nat × Nat
  | .span first last => (first, last)
  | .rest first => (first, size - 1)
  | .suffix length => (size - length, size - 1)

theorem requested_satisfiable (filled : 0 < size.toNat) :
    range.Satisfiable size.toNat ↔
      (requested size.toNat range).1 ≤ (requested size.toNat range).2 ∧ (requested size.toNat range).1 < size.toNat := by
  cases range <;> simp only [ByteRange.Satisfiable, requested] <;> omega

theorem requested_assigned (satisfiable : range.Satisfiable size.toNat) : range.assigned size.toNat =
    ((requested size.toNat range).1, min (requested size.toNat range).2 (size.toNat - 1)) := by
  cases range <;> simp only [ByteRange.assigned, requested, Nat.min_self]

theorem spelled_of_bounds (filled : size ≠ 0) (ran : DownloadRangeSpec.bounds size spec = .ok found) :
    ∃ range, SignedSpelled spec range ∧ requested size.toNat range = (found.1.toNat, found.2.toNat) := by
  unfold DownloadRangeSpec.bounds at ran
  split at ran
  · rename_i rest cut
    obtain rfl := stripSuffix_eq_some.mp cut
    obtain ⟨start, read, ran⟩ := bind_ok ran
    cases ran
    refine ⟨.rest start.toNat, ⟨rest, rfl, number_eq_ok.mp read⟩, ?_⟩
    simp only [requested, RangeSpec.toNat_sub_one filled]
  split at ran
  · rename_i rest cut
    obtain rfl := stripPrefix_eq_some.mp cut
    obtain ⟨suffix, read, ran⟩ := bind_ok ran
    cases ran
    refine ⟨.suffix suffix.toNat, ⟨rest, rfl, number_eq_ok.mp read⟩, ?_⟩
    simp only [requested, RangeSpec.toNat_saturatingSub, RangeSpec.toNat_sub_one filled]
  split at ran
  · rename_i first last parts
    have shape : spec = first ++ '-' :: last := by
      have joined : ['-'].intercalate (spec.splitOn '-') = spec := List.intercalate_splitOn '-'
      rw [← joined, parts]
      simp
    obtain ⟨start, read, ran⟩ := bind_ok ran
    obtain ⟨end_, reached, ran⟩ := bind_ok ran
    cases ran
    split at reached
    · rename_i open_
      obtain rfl := List.isEmpty_iff.mp open_
      cases reached
      refine ⟨.rest start.toNat, ⟨first, shape, number_eq_ok.mp read⟩, ?_⟩
      simp only [requested, RangeSpec.toNat_sub_one filled]
    · exact ⟨.span start.toNat end_.toNat, ⟨first, last, shape, number_eq_ok.mp read, number_eq_ok.mp reached⟩, rfl⟩
  · cases ran

theorem signed_numeral (invalid : String) (signed : SignedNumeral text n) :
    ∃ value, DownloadRangeSpec.number invalid text = .ok value ∧ value.toNat = n := by
  obtain ⟨digits, shape, numeral⟩ := signed
  have same : (UInt64.ofNat n).toNat = n := UInt64.toNat_ofNat_of_lt' numeral.fits
  exact ⟨.ofNat n, number_eq_ok.mpr (same.symm ▸ ⟨digits, shape, numeral⟩), same⟩

theorem bounds_of_signed (filled : size ≠ 0) (spelled : SignedSpelled spec range) :
    ∃ found, DownloadRangeSpec.bounds size spec = .ok found ∧
      requested size.toNat range = (found.1.toNat, found.2.toNat) := by
  have ends {a b c : List Char} (plain : '-' ∉ b) (filled : b ≠ []) (same : a ++ b = c ++ ['-']) : False := by
    obtain ⟨front, last, rfl⟩ := List.eq_nil_or_concat b |>.resolve_left filled
    rw [List.concat_eq_append, ← List.append_assoc] at same
    obtain rfl : last = '-' := by simpa using (List.append_inj' same rfl).2
    exact plain (by simp)
  have starts {a b c : List Char} (plain : '-' ∉ a) (filled : a ≠ []) (same : a ++ b = ['-'] ++ c) : False := by
    obtain ⟨first, rest, rfl⟩ := List.exists_cons_of_ne_nil filled
    obtain rfl := (List.cons.inj same).1
    exact plain List.mem_cons_self
  unfold DownloadRangeSpec.bounds
  cases range with
  | rest =>
    obtain ⟨a, rfl, numeral⟩ := spelled
    obtain ⟨start, read, rfl⟩ := signed_numeral "invalid start byte: " numeral
    rw [stripSuffix_eq_some.mpr rfl]
    dsimp only
    rw [read]
    exact ⟨_, rfl, by simp only [requested, RangeSpec.toNat_sub_one filled]⟩
  | suffix length =>
    obtain ⟨b, rfl, numeral⟩ := spelled
    obtain ⟨nonempty, plain, -⟩ := numeral.plain
    obtain ⟨suffix, read, rfl⟩ := signed_numeral "invalid suffix length: " numeral
    have open' : stripSuffix ['-'] ('-' :: b) = none := by
      rw [Option.eq_none_iff_forall_ne_some]
      intro rest cut
      exact ends (a := ['-']) plain nonempty (stripSuffix_eq_some.mp cut)
    rw [open', stripPrefix_eq_some.mpr (show '-' :: b = ['-'] ++ b from rfl)]
    dsimp only
    rw [read]
    exact ⟨_, rfl, by simp only [requested, RangeSpec.toNat_saturatingSub, RangeSpec.toNat_sub_one filled]⟩
  | span =>
    obtain ⟨a, b, rfl, numeral, reached⟩ := spelled
    obtain ⟨nonempty, plain, -⟩ := numeral.plain
    obtain ⟨nonempty', plain', -⟩ := reached.plain
    obtain ⟨start, read, rfl⟩ := signed_numeral "invalid start: " numeral
    obtain ⟨end_, readEnd, rfl⟩ := signed_numeral "invalid end: " reached
    have open' : stripSuffix ['-'] (a ++ '-' :: b) = none := by
      rw [Option.eq_none_iff_forall_ne_some]
      intro rest cut
      exact ends (a := a ++ ['-']) plain' nonempty' (by simpa using stripSuffix_eq_some.mp cut)
    have closed : stripPrefix ['-'] (a ++ '-' :: b) = none := by
      rw [Option.eq_none_iff_forall_ne_some]
      intro rest cut
      exact starts plain nonempty (stripPrefix_eq_some.mp cut)
    have parts : (a ++ '-' :: b).splitOn '-' = [a, b] := by
      have joined : (['-'].intercalate [a, b]).splitOn '-' = [a, b] :=
        List.splitOn_intercalate '-' (by simp [plain, plain']) (by simp)
      simpa using joined
    rw [open', closed]
    dsimp only
    rw [parts]
    dsimp only
    rw [read, if_neg (by simpa using nonempty'), readEnd]
    exact ⟨_, rfl, rfl⟩

theorem SignedSpelled.single (spelled : SignedSpelled spec range) : ',' ∉ spec := by
  cases range with
  | rest =>
    obtain ⟨a, rfl, numeral⟩ := spelled
    simpa using numeral.plain.2.2
  | suffix =>
    obtain ⟨b, rfl, numeral⟩ := spelled
    simpa using numeral.plain.2.2
  | span =>
    obtain ⟨a, b, rfl, numeral, reached⟩ := spelled
    simpa using ⟨numeral.plain.2.2, reached.plain.2.2⟩

theorem signed_of_spelled (spelled : range.Spelled spec) : SignedSpelled spec range ∧ '+' ∉ spec := by
  have signed {text : List Char} {n : Nat} (numeral : Numeral text n) : SignedNumeral text n := ⟨text, .inl rfl, numeral⟩
  cases range with
  | rest =>
    obtain ⟨a, rfl, numeral⟩ := spelled
    exact ⟨⟨a, rfl, signed numeral⟩, by simpa using numeral_unsigned numeral⟩
  | suffix =>
    obtain ⟨b, rfl, numeral⟩ := spelled
    exact ⟨⟨b, rfl, signed numeral⟩, by simpa using numeral_unsigned numeral⟩
  | span =>
    obtain ⟨a, b, rfl, numeral, reached⟩ := spelled
    exact ⟨⟨a, b, rfl, signed numeral, signed reached⟩, by simpa using ⟨numeral_unsigned numeral, numeral_unsigned reached⟩⟩

theorem SignedSpelled.unsigned (spelled : SignedSpelled spec range) (bare : '+' ∉ spec) : range.Spelled spec := by
  cases range with
  | rest =>
    obtain ⟨a, rfl, numeral⟩ := spelled
    exact ⟨a, rfl, numeral.unsigned (by simpa using bare)⟩
  | suffix =>
    obtain ⟨b, rfl, numeral⟩ := spelled
    exact ⟨b, rfl, numeral.unsigned (by simpa using bare)⟩
  | span =>
    obtain ⟨a, b, rfl, numeral, reached⟩ := spelled
    have both : '+' ∉ a ∧ '+' ∉ b := by simpa using bare
    exact ⟨a, b, rfl, numeral.unsigned both.1, reached.unsigned both.2⟩

/-- What is found is assigned to a satisfiable range. -/
theorem parse_prefixed (ran : DownloadRangeSpec.parse (some ("bytes=".toList ++ spec)) size = .ok found) :
    ∃ range answer, found = some answer ∧ SignedSpelled spec range ∧ range.Satisfiable size.toNat ∧
      range.assigned size.toNat = (answer.start.toNat, answer.end_.toNat) ∧ answer.total = size := by
  simp only [DownloadRangeSpec.parse, stripPrefix_eq_some.mpr rfl] at ran
  split at ran
  · cases ran
  rename_i filled
  split at ran
  · cases ran
  obtain ⟨bounds, bounded, ran⟩ := bind_ok ran
  obtain ⟨range, spelled, asked⟩ := spelled_of_bounds filled bounded
  split at ran
  · cases ran
  rename_i within
  cases ran
  simp only [ge_iff_le, gt_iff_lt, not_or, UInt64.lt_iff_toNat_lt, UInt64.le_iff_toNat_le, Nat.not_lt, Nat.not_le] at within
  have satisfiable : range.Satisfiable size.toNat := by
    rw [requested_satisfiable (RangeSpec.toNat_pos filled), asked]
    exact within
  refine ⟨range, _, rfl, spelled, satisfiable, ?_, rfl⟩
  rw [requested_assigned satisfiable, asked]
  simp only [RangeSpec.toNat_min, RangeSpec.toNat_sub_one filled]

theorem parse_of_signed (spelled : SignedSpelled spec range) (satisfiable : range.Satisfiable size.toNat) :
    ∃ found, DownloadRangeSpec.parse (some ("bytes=".toList ++ spec)) size = .ok found := by
  have filled : size ≠ 0 := by
    rintro rfl
    exact absurd (ByteRange.assigned_within satisfiable).2 (by simp)
  obtain ⟨bounds, bounded, asked⟩ := bounds_of_signed filled spelled
  have within := (requested_satisfiable (RangeSpec.toNat_pos filled)).mp satisfiable
  rw [asked] at within
  have inside : ¬ (bounds.1 > bounds.2 ∨ bounds.1 ≥ size) := by
    simp only [ge_iff_le, gt_iff_lt, not_or, UInt64.lt_iff_toNat_lt, UInt64.le_iff_toNat_le, Nat.not_lt, Nat.not_le]
    exact within
  simp only [DownloadRangeSpec.parse, stripPrefix_eq_some.mpr rfl, if_neg filled, if_neg spelled.single, bounded]
  exact ⟨_, if_neg inside⟩

theorem requests_iff (short : byteLength ("bytes=".toList ++ spec) ≤ 128) :
    Requests ("bytes=".toList ++ spec) range ↔ range.Spelled spec := by
  have shape : "bytes=".toList ++ spec = "bytes".toList ++ '=' :: spec := rfl
  have bytes : "bytes".toList.map Char.toLower = "bytes".toList := by decide
  constructor
  · rintro ⟨-, unit, rest, same, unit', spelled⟩
    rw [shape] at same
    obtain rfl := before_eq (RangeSpec.bytes_plain bytes) (RangeSpec.bytes_plain unit') same
    obtain rfl : spec = rest := by simpa using same
    exact spelled
  · exact fun spelled => ⟨short, "bytes".toList, spec, shape, bytes, spelled⟩

end Ranges

/-- Both readers fail, or both find the same range in the file. -/
def ReadAlike (header : List Char) (size : UInt64) : Prop :=
  (∃ error error', DownloadRangeSpec.parse (some header) size = .error error ∧
    RangeSpec.parse (some header) size = .error error') ∨
  ∃ start end_ total, DownloadRangeSpec.parse (some header) size = .ok (some ⟨start, end_, total⟩) ∧
    RangeSpec.parse (some header) size = .ok (some ⟨start, end_, total⟩) ∧ start ≤ end_ ∧ end_ < size

/-- Playback finds a range in a header of bytes, or refuses it. -/
theorem playback_prefixed (short : byteLength ("bytes=".toList ++ spec) ≤ 128)
    (ran : RangeSpec.parse (some ("bytes=".toList ++ spec)) size = .ok found) :
    ∃ range : ByteRange, range.Spelled spec ∧ range.Satisfiable size.toNat := by
  cases found with
  | none =>
    rcases RangeSpec.parse_none.mp ran with none' | ⟨text, same, -, unit, rest, shape, plain, other⟩
    · cases none'
    · cases same
      have bytes : "bytes".toList.map Char.toLower = "bytes".toList := by decide
      obtain rfl := before_eq (RangeSpec.bytes_plain bytes) plain
        (show "bytes".toList ++ '=' :: spec = unit ++ '=' :: rest from shape)
      exact absurd bytes other
  | some found =>
    obtain ⟨text, range, same, requests, satisfiable⟩ := (RangeSpec.parse_header _ size).1.mp ⟨found, ran⟩
    cases same
    exact ⟨range, (requests_iff short).mp requests, satisfiable⟩

/-- The readers of downloads and of playback read a header of bytes alike unless it asks for a satisfiable range
with a plus sign in it. -/
theorem read_alike_iff (header : List Char) (short : byteLength header ≤ 128) (starts : "bytes=".toList <+: header)
    (size : UInt64) : ReadAlike header size ↔
      ¬ ∃ range, SignedSpelled (header.drop 6) range ∧ range.Satisfiable size.toNat ∧ '+' ∈ header.drop 6 := by
  obtain ⟨spec, rfl⟩ := starts
  have rest : ("bytes=".toList ++ spec).drop 6 = spec := rfl
  rw [rest]
  constructor
  · rintro alike ⟨range, spelled, satisfiable, signed⟩
    obtain ⟨found, ran⟩ := parse_of_signed spelled satisfiable
    rcases alike with ⟨error, error', failed, -⟩ | ⟨start, end_, total, -, ran', -⟩
    · rw [ran] at failed
      cases failed
    · obtain ⟨other, plain, -⟩ := playback_prefixed short ran'
      exact (signed_of_spelled plain).2 signed
  · intro unsigned
    cases ran : DownloadRangeSpec.parse (some ("bytes=".toList ++ spec)) size with
    | error error =>
      refine .inl ⟨error, ?_⟩
      cases ran' : RangeSpec.parse (some ("bytes=".toList ++ spec)) size with
      | error error' => exact ⟨error', ran, rfl⟩
      | ok found' =>
        obtain ⟨range, plain, satisfiable⟩ := playback_prefixed short ran'
        obtain ⟨found, ran''⟩ := parse_of_signed (signed_of_spelled plain).1 satisfiable
        rw [ran] at ran''
        cases ran''
    | ok found =>
      obtain ⟨range, answer, rfl, spelled, satisfiable, assigned, total⟩ := parse_prefixed ran
      have bare : '+' ∉ spec := fun signed => unsigned ⟨range, spelled, satisfiable, signed⟩
      have requests := (requests_iff short).mpr (spelled.unsigned bare)
      obtain ⟨found', ran'⟩ := RangeSpec.parse_of_requests requests satisfiable
      obtain ⟨ends, total', ordered, within, -⟩ := (RangeSpec.parse_header _ size).2.1 found' ran'
      have same := assigned.symm.trans (ends _ range rfl requests)
      have starts : answer.start = found'.start := UInt64.toNat_inj.mp (congrArg Prod.fst same)
      have stops : answer.end_ = found'.end_ := UInt64.toNat_inj.mp (congrArg Prod.snd same)
      refine .inr ⟨found'.start, found'.end_, found'.total, ?_, ran', ordered, within⟩
      rw [ran, ← starts, ← stops, total', ← total]

/-- `bytes=10-19` of a hundred bytes. -/
theorem read_alike_span : ReadAlike "bytes=10-19".toList 100 := by
  refine (read_alike_iff "bytes=10-19".toList (by decide) (by decide) 100).mpr ?_
  rintro ⟨range, -, -, signed⟩
  exact absurd signed (by decide)

/-- `bytes=+1-` is a range for downloads only. -/
theorem signed_start : ¬ ∀ (header : List Char) (_ : byteLength header ≤ 128) (_ : "bytes=".toList <+: header)
    (size : UInt64), ReadAlike header size := by
  intro all
  rcases all "bytes=+1-".toList (by decide) (by decide) 10 with ⟨error, error', failed, -⟩ | ⟨start, end_, total, -, ran, -⟩
  · have found : DownloadRangeSpec.parse (some "bytes=+1-".toList) 10 = .ok (some ⟨1, 9, 10⟩) := by decide +kernel
    rw [found] at failed
    cases failed
  · have refused : RangeSpec.parse (some "bytes=+1-".toList) 10 = .error RangeSpec.invalid := by decide +kernel
    rw [refused] at ran
    cases ran

end Duskcue.Downloads
