import Duskcue.BoxFormat
import Duskcue.Transaction

/-! Whether a file of the encoder is complete. `complete` walks over the boxes of an
initialization file or of a fragment, by the sizes in their headers; `readMoof` walks over a
fragment once more, for the payload of its first `moof`. Both read a file that may
still grow, and compare its metadata at the end. -/
namespace Duskcue.ReadinessMp4
open BoxFormat

inductive Asset
  | initialization | fragment
  deriving DecidableEq

inductive PlaybackError
  | ffmpegFailed (message : String)
  deriving DecidableEq

/-- A file that was opened: what it holds, and whether its metadata are the same afterwards. -/
structure OpenFile where
  content : List UInt8
  stable : Bool

/-- `read_exact` at a position; short where the file ends before. -/
def readExact (content : List UInt8) (offset count : Nat) : Option (List UInt8) :=
  if offset + count ≤ content.length then some ((content.drop offset).take count) else none

/-- `u64::checked_add`. -/
def checkedAdd (a b : Nat) : Option Nat := if a + b < 2 ^ 64 then some (a + b) else none

def ftyp : List UInt8 := [0x66, 0x74, 0x79, 0x70]
def moov : List UInt8 := [0x6d, 0x6f, 0x6f, 0x76]
def moof : List UInt8 := [0x6d, 0x6f, 0x6f, 0x66]
def mdat : List UInt8 := [0x6d, 0x64, 0x61, 0x74]

/-- The boxes seen so far. -/
structure Seen where
  fileType : Bool
  movie : Bool
  fragment : Bool
  media : Bool

/-- The size of a box and of its header, as the header tells them. -/
def sizes (content : List UInt8) (offset : Nat) (first : List UInt8) : Option (Nat × Nat) :=
  let size := bigEndian (first.take 4)
  if size = 1 then
    if content.length - offset < 16 then none
    else (readExact content (offset + 8) 8).map fun wide => (bigEndian wide, 16)
  else some (size, 8)

/-- The box ends beyond the file, or not at a number at all. -/
def overruns (content : List UInt8) (offset size : Nat) : Bool :=
  (checkedAdd offset size).all fun end_ => end_ > content.length

/-- What one box adds; none where it is not expected here. -/
def Seen.add (seen : Seen) (asset : Asset) (kind : List UInt8) (size headerSize : Nat) : Option Seen :=
  if kind = ftyp then
    if asset ≠ .initialization ∨ seen.fileType ∨ seen.movie ∨ size < headerSize + 8 then none
    else some { seen with fileType := true }
  else if kind = moov then
    if asset ≠ .initialization ∨ !seen.fileType ∨ seen.movie ∨ size ≤ headerSize then none
    else some { seen with movie := true }
  else if kind = moof then
    if asset ≠ .fragment ∨ (seen.fragment ∧ !seen.media) ∨ size ≤ headerSize then none
    else some { seen with fragment := true, media := false }
  else if kind = mdat then
    if asset ≠ .fragment ∨ !seen.fragment ∨ size ≤ headerSize then none
    else some { seen with media := true }
  else some seen

/-- The loop of `complete`, with the number of boxes that may still follow. None is `Ok(false)`. -/
def scan (content : List UInt8) (asset : Asset) : Nat → Nat → Seen → Option Seen
  | 0, offset, seen => if offset < content.length then none else some seen
  | left + 1, offset, seen =>
    if offset < content.length then
      if content.length - offset < 8 then none
      else
        match readExact content offset 8 with
        | none => none
        | some first =>
          match sizes content offset first with
          | none => none
          | some (size, headerSize) =>
            if size < headerSize ∨ overruns content offset size then none
            else
              match seen.add asset ((first.drop 4).take 4) size headerSize with
              | none => none
              | some seen => scan content asset left (offset + size) seen
    else some seen

def Asset.limit : Asset → Nat
  | .initialization => 16 * 1024 * 1024
  | .fragment => 512 * 1024 * 1024

/-- The boxes that an asset has to have. -/
def Seen.all (seen : Seen) : Asset → Bool
  | .initialization => seen.fileType && seen.movie
  | .fragment => seen.fragment && seen.media

def complete (file : Option OpenFile) (asset : Asset) : Except PlaybackError Bool :=
  match file with
  | none => .ok false
  | some file =>
    if file.content.length = 0 then .ok false
    else if file.content.length > asset.limit then .error (.ffmpegFailed "oversized HLS startup asset")
    else
      match scan file.content asset 256 0 ⟨false, false, false, false⟩ with
      | none => .ok false
      | some seen => .ok (file.stable && seen.all asset)

/-! ## The first `moof` -/

def failure : PlaybackError := .ffmpegFailed "source-copy HLS timestamp origin is unavailable"

def moofLimit : Nat := 512 * 1024 - 4096
def fragmentLimit : Nat := 512 * 1024 * 1024

/-- The size of a box and of its header; here the end of the file shows in the read only. -/
def wideSizes (content : List UInt8) (offset : Nat) (first : List UInt8) : Option (Nat × Nat) :=
  let small := bigEndian (first.take 4)
  if small = 1 then (readExact content (offset + 8) 8).map fun wide => (bigEndian wide, 16) else some (small, 8)

/-- The loop of `read_moof`. -/
def findMoof (file : OpenFile) : Nat → Nat → Option (List UInt8)
  | 0, _ => none
  | left + 1, offset =>
    if file.content.length - offset < 8 then none
    else do
      let first ← readExact file.content offset 8
      let found ← wideSizes file.content offset first
      if found.1 < found.2 ∨ overruns file.content offset found.1 then none
      else if (first.drop 4).take 4 = moof then
        if found.1 - found.2 > moofLimit then none
        else do
          let bytes ← readExact file.content (offset + found.2) (found.1 - found.2)
          if file.stable then some bytes else none
      else findMoof file left (offset + found.1)

def readMoof (file : Option OpenFile) : Except PlaybackError (List UInt8) :=
  match file with
  | none => .error failure
  | some file =>
    if file.content.length = 0 ∨ file.content.length > fragmentLimit then .error failure
    else (findMoof file 256 0).elim (.error failure) .ok

/-! ## Reading at a position -/

section
variable {content : List UInt8} {offset count : Nat}

theorem readExact_drop (within : count ≤ (content.drop offset).length) (inside : offset ≤ content.length) :
    readExact content offset count = some ((content.drop offset).take count) := by
  rw [List.length_drop] at within
  unfold readExact
  rw [if_pos (by omega)]

theorem readExact_short (short : (content.drop offset).length < count) : readExact content offset count = none := by
  rw [List.length_drop] at short
  unfold readExact
  rw [if_neg (by omega)]

theorem sizes_eq_header (inside : offset ≤ content.length) (long : 8 ≤ (content.drop offset).length) :
    sizes content offset ((content.drop offset).take 8) = header (content.drop offset) := by
  have length := @List.length_drop _ offset content
  have first : ((content.drop offset).take 8).take 4 = (content.drop offset).take 4 := List.take_take
  unfold sizes header
  rw [first, if_neg (Nat.not_lt.mpr long)]
  dsimp only
  split
  · rw [length]
    split
    · rfl
    · rename_i wide
      rw [readExact_drop (by rw [List.length_drop]; omega) (by omega), List.drop_drop]
      rfl
  · rfl

theorem wideSizes_eq_header (inside : offset ≤ content.length) (long : 8 ≤ (content.drop offset).length) :
    wideSizes content offset ((content.drop offset).take 8) = header (content.drop offset) := by
  have length := @List.length_drop _ offset content
  have first : ((content.drop offset).take 8).take 4 = (content.drop offset).take 4 := List.take_take
  unfold wideSizes header
  rw [first, if_neg (Nat.not_lt.mpr long)]
  dsimp only
  split
  · split
    · rw [readExact_short (by rw [List.length_drop]; omega)]
      rfl
    · rename_i wide
      rw [readExact_drop (by rw [List.length_drop]; omega) (by omega), List.drop_drop]
      rfl
  · rfl

theorem overruns_eq (bounded : content.length < 2 ^ 64) (inside : offset ≤ content.length) (size : Nat) :
    overruns content offset size = true ↔ (content.drop offset).length < size := by
  rw [List.length_drop]
  unfold overruns checkedAdd
  split
  · simp
    omega
  · simp
    omega

end

/-! ## The boxes of the file -/

/-- What one box adds, by its payload. -/
def Seen.see (asset : Asset) (seen : Seen) (atom : Atom) : Option Seen :=
  seen.add asset atom.kind (8 + atom.payload.length) 8

theorem Seen.add_payload (seen : Seen) (asset : Asset) (kind : List UInt8)
    (large : headerSize ≤ size) : seen.add asset kind size headerSize = seen.add asset kind (8 + (size - headerSize)) 8 := by
  have enough : size < headerSize + 8 ↔ 8 + (size - headerSize) < 8 + 8 := by omega
  have empty : size ≤ headerSize ↔ 8 + (size - headerSize) ≤ 8 := by omega
  unfold Seen.add
  simp only [enough, empty]

section
variable {content : List UInt8} {asset : Asset}

theorem readBox_position (bounded : content.length < 2 ^ 64)
    (inside : offset ≤ content.length) (read : readBox (content.drop offset) = some (atom, rest)) :
    ∃ size head, 8 ≤ (content.drop offset).length ∧ header (content.drop offset) = some (size, head) ∧ head ≤ size ∧
      overruns content offset size = false ∧ atom.kind = (((content.drop offset).take 8).drop 4).take 4 ∧
      size - head = atom.payload.length ∧ rest = content.drop (offset + size) ∧ offset + size ≤ content.length ∧
      readExact content (offset + head) (size - head) = some atom.payload := by
  unfold readBox at read
  split at read
  · cases read
  · rename_i size head found
    split at read
    · cases read
    · rename_i covered
      cases read
      have length : (content.drop offset).length = content.length - offset := List.length_drop
      have long : 8 ≤ (content.drop offset).length := by
        rcases header_cases found with ⟨-, long, -⟩ | ⟨-, long, -⟩ <;> omega
      have kind : (((content.drop offset).take 8).drop 4).take 4 = ((content.drop offset).drop 4).take 4 := by
        rw [List.drop_take, List.take_take]
        rfl
      have payload : ((content.drop offset).take size).drop head = (content.drop (offset + head)).take (size - head) := by
        rw [List.drop_take, List.drop_drop]
      have fits : ¬ overruns content offset size = true := by
        rw [overruns_eq bounded inside]
        omega
      refine ⟨size, head, long, found, by omega, by simpa using fits, ?_, ?_, ?_, by omega, ?_⟩
      · exact kind.symm
      · simp
        omega
      · rw [List.drop_drop]
      · rw [readExact_drop (by rw [List.length_drop]; omega) (by omega), payload]

/-- Without a box at a position there is nothing to scan on with. -/
theorem readBox_missing (bounded : content.length < 2 ^ 64) (inside : offset ≤ content.length)
    (unread : readBox (content.drop offset) = none) :
    header (content.drop offset) = none ∨ ∃ size head, header (content.drop offset) = some (size, head) ∧
      (size < head ∨ overruns content offset size = true) := by
  unfold readBox at unread
  split at unread
  · rename_i found
    exact .inl found
  · rename_i size head found
    split at unread
    · rename_i uncovered
      exact .inr ⟨size, head, found, uncovered.imp_right (overruns_eq bounded inside size).mpr⟩
    · cases unread

theorem readBoxes_end (n : Nat) (ended : content.length ≤ offset) :
    readBoxes n (content.drop offset) = some [] := by
  rw [List.drop_eq_nil_of_le ended]
  cases n <;> rfl

/-- The scan sees the boxes of the file one after the other. -/
theorem scan_eq (bounded : content.length < 2 ^ 64) (left : Nat) (inside : offset ≤ content.length)
    (seen : Seen) : scan content asset left offset seen =
      (readBoxes left (content.drop offset)).bind fun atoms => atoms.foldlM (Seen.see asset) seen := by
  induction left generalizing offset seen with
  | zero =>
    unfold scan
    split
    · rename_i before
      rw [List.drop_eq_getElem_cons before]
      rfl
    · rw [readBoxes_end 0 (by omega)]
      rfl
  | succ left ih =>
    unfold scan
    split
    · rename_i before
      have filled : content.drop offset ≠ [] := by simpa using before
      have length : (content.drop offset).length = content.length - offset := List.length_drop
      rw [readBoxes_succ filled]
      cases read : readBox (content.drop offset) with
      | none =>
        split
        · rfl
        · rename_i long
          rw [readExact_drop (by omega) inside]
          dsimp only
          rw [sizes_eq_header inside (by omega)]
          rcases readBox_missing bounded inside read with none | ⟨size, head, found, unfit⟩
          · rw [none]
            rfl
          · rw [found]
            dsimp only
            rw [if_pos unfit]
            rfl
      | some found =>
        obtain ⟨atom, rest⟩ := found
        obtain ⟨size, head, long, found, large, fits, kind, payload, rfl, within, -⟩ :=
          readBox_position bounded inside read
        rw [if_neg (by omega), readExact_drop long inside]
        dsimp only
        rw [sizes_eq_header inside long, found]
        dsimp only
        rw [if_neg (by simp [fits]; omega), ← kind, Seen.add_payload seen asset atom.kind large, payload]
        change (match Seen.see asset seen atom with
          | none => none
          | some seen => scan content asset left (offset + size) seen) = _
        rw [Option.bind_some]
        cases marked : Seen.see asset seen atom with
        | none => cases readBoxes left (content.drop (offset + size)) <;> simp [List.foldlM_cons, marked]
        | some after =>
          dsimp only
          rw [ih within after]
          cases readBoxes left (content.drop (offset + size)) <;> simp [List.foldlM_cons, marked]
    · rw [readBoxes_end _ (by omega)]
      rfl

end

/-! ## Complete files -/

/-- The kinds that are not passed over. -/
def Known (atom : Atom) : Prop := atom.kind = ftyp ∨ atom.kind = moov ∨ atom.kind = moof ∨ atom.kind = mdat

instance (atom : Atom) : Decidable (Known atom) := inferInstanceAs (Decidable (_ ∨ _))

/-- One `ftyp`, then one `moov`. -/
def Initialization (atoms : List Atom) : Prop :=
  ∃ fileType movie, atoms = [fileType, movie] ∧ (fileType.kind = ftyp ∧ 8 ≤ fileType.payload.length) ∧
    movie.kind = moov ∧ movie.payload ≠ []

/-- Media data that is not empty. -/
def Media (atom : Atom) : Prop := atom.kind = mdat ∧ atom.payload ≠ []

/-- One `moof` and the media data that belong to it. -/
structure Group where
  head : Atom
  media : List Atom

structure Group.Valid (group : Group) : Prop where
  named : group.head.kind = moof
  filled : group.head.payload ≠ []
  some : group.media ≠ []
  media : ∀ atom ∈ group.media, Media atom

def Group.atoms (group : Group) : List Atom := group.head :: group.media

/-- One or more groups. -/
def Fragment (atoms : List Atom) : Prop :=
  ∃ groups : List Group, groups ≠ [] ∧ (∀ group ∈ groups, group.Valid) ∧ atoms = groups.flatMap Group.atoms

/-- The bytes are boxes throughout, and those of the known kinds are in order. -/
def Complete (asset : Asset) (content : List UInt8) : Prop :=
  ∃ atoms, Boxes content atoms ∧ atoms.length ≤ 256 ∧
    match asset with
    | .initialization => Initialization (atoms.filter Known)
    | .fragment => Fragment (atoms.filter Known)

section
variable {asset : Asset} {seen : Seen} {atom : Atom} {atoms : List Atom}

theorem Seen.see_unknown (unknown : ¬ Known atom) : seen.see asset atom = some seen := by
  unfold Known at unknown
  unfold Seen.see Seen.add
  simp only [not_or] at unknown
  rw [if_neg unknown.1, if_neg unknown.2.1, if_neg unknown.2.2.1, if_neg unknown.2.2.2]

/-- Boxes of other kinds are passed over. -/
theorem foldlM_known (atoms : List Atom) (seen : Seen) :
    atoms.foldlM (Seen.see asset) seen = (atoms.filter Known).foldlM (Seen.see asset) seen := by
  induction atoms generalizing seen with
  | nil => rfl
  | cons atom _ ih =>
    by_cases known : Known atom
    · rw [List.filter_cons_of_pos (by simpa using known), List.foldlM_cons, List.foldlM_cons]
      congr 1
      funext after
      exact ih after
    · rw [List.filter_cons_of_neg (by simpa using known), List.foldlM_cons, Seen.see_unknown known]
      exact ih seen

theorem payload_filled : 8 + atom.payload.length ≤ 8 ↔ atom.payload = [] := by
  rw [← List.length_eq_zero_iff]
  omega

theorem kinds_differ : ftyp ≠ moov ∧ ftyp ≠ moof ∧ ftyp ≠ mdat ∧ moov ≠ ftyp ∧ moov ≠ moof ∧ moov ≠ mdat ∧
    moof ≠ ftyp ∧ moof ≠ moov ∧ moof ≠ mdat ∧ mdat ≠ ftyp ∧ mdat ≠ moov ∧ mdat ≠ moof := by decide

/-- What a known box of an initialization file adds. -/
theorem see_initialization (known : Known atom) : seen.see .initialization atom = some after ↔
    (atom.kind = ftyp ∧ 8 ≤ atom.payload.length ∧ seen.fileType = false ∧ seen.movie = false ∧
      after = { seen with fileType := true }) ∨
    (atom.kind = moov ∧ atom.payload ≠ [] ∧ seen.fileType = true ∧ seen.movie = false ∧
      after = { seen with movie := true }) := by
  unfold Seen.see Seen.add
  rcases known with named | named | named | named <;> rw [named] <;>
    simp only [kinds_differ, ne_eq, reduceCtorEq, not_true_eq_false, not_false_eq_true, true_or, false_or, ↓reduceIte,
      Option.ite_none_left_eq_some, Option.some.injEq, not_or, payload_filled, false_and, true_and, or_false, eq_comm (a := after),
      Bool.not_eq_true, Bool.not_eq_false, Bool.not_eq_true', Nat.not_lt]
  · constructor
    · rintro ⟨⟨unseen, before, long⟩, same⟩
      exact ⟨by omega, unseen, before, same⟩
    · rintro ⟨long, unseen, before, same⟩
      exact ⟨⟨unseen, before, by omega⟩, same⟩
  · constructor
    · rintro ⟨⟨typed, before, filled⟩, same⟩
      exact ⟨filled, typed, before, same⟩
    · rintro ⟨filled, typed, before, same⟩
      exact ⟨⟨typed, before, filled⟩, same⟩

theorem see_fragment (known : Known atom) : seen.see .fragment atom = some after ↔
    (atom.kind = moof ∧ atom.payload ≠ [] ∧ (seen.fragment = false ∨ seen.media = true) ∧
      after = { seen with fragment := true, media := false }) ∨
    (Media atom ∧ seen.fragment = true ∧ after = { seen with media := true }) := by
  unfold Seen.see Seen.add Media
  rcases known with named | named | named | named <;> rw [named] <;>
    simp only [kinds_differ, ne_eq, reduceCtorEq, not_true_eq_false, not_false_eq_true, true_or, false_or, ↓reduceIte,
      Option.ite_none_left_eq_some, Option.some.injEq, not_or, payload_filled, false_and, true_and, or_false, eq_comm (a := after),
      Bool.not_eq_true, Bool.not_eq_false, Bool.not_eq_true', not_and_or]
  · constructor
    · rintro ⟨⟨expected, filled⟩, same⟩
      exact ⟨filled, expected, same⟩
    · rintro ⟨filled, expected, same⟩
      exact ⟨⟨expected, filled⟩, same⟩
  · constructor
    · rintro ⟨⟨begun, filled⟩, same⟩
      exact ⟨filled, begun, same⟩
    · rintro ⟨filled, begun, same⟩
      exact ⟨⟨begun, filled⟩, same⟩

/-- The boxes are accepted from here on: each is expected where it comes, and at the end
none is missing. -/
def Accepted (asset : Asset) (seen : Seen) (atoms : List Atom) : Prop :=
  ∃ after, atoms.foldlM (Seen.see asset) seen = some after ∧ after.all asset = true

theorem accepted_nil : Accepted asset seen [] ↔ seen.all asset = true := by
  constructor
  · rintro ⟨after, same, all⟩
    cases same
    exact all
  · exact fun all => ⟨seen, rfl, all⟩

theorem accepted_cons : Accepted asset seen (atom :: atoms) ↔
    ∃ after, seen.see asset atom = some after ∧ Accepted asset after atoms := by
  unfold Accepted
  rw [List.foldlM_cons]
  constructor
  · rintro ⟨last, ran, all⟩
    obtain ⟨after, seen, ran⟩ := Option.bind_eq_some_iff.mp ran
    exact ⟨after, seen, last, ran, all⟩
  · rintro ⟨after, seen, last, ran, all⟩
    exact ⟨last, Option.bind_eq_some_iff.mpr ⟨after, seen, ran⟩, all⟩

theorem accepted_initialization (known : ∀ atom ∈ atoms, Known atom) :
    Accepted .initialization ⟨false, false, false, false⟩ atoms ↔ Initialization atoms := by
  constructor
  · intro accepted
    cases atoms with
    | nil => cases accepted_nil.mp accepted
    | cons fileType rest =>
      obtain ⟨after, marked, accepted⟩ := accepted_cons.mp accepted
      obtain ⟨named, long, -, -, rfl⟩ | ⟨-, -, typed, -⟩ := (see_initialization (known _ (by simp))).mp marked
      · cases rest with
        | nil => cases accepted_nil.mp accepted
        | cons movie rest =>
          obtain ⟨after, marked, accepted⟩ := accepted_cons.mp accepted
          obtain ⟨-, -, untyped, -⟩ | ⟨moved, filled, -, -, rfl⟩ := (see_initialization (known _ (by simp))).mp marked
          · cases untyped
          · cases rest with
            | nil => exact ⟨fileType, movie, rfl, ⟨named, long⟩, moved, filled⟩
            | cons =>
              obtain ⟨after, marked, -⟩ := accepted_cons.mp accepted
              obtain ⟨-, -, -, before, -⟩ | ⟨-, -, -, before, -⟩ := (see_initialization (known _ (by simp))).mp marked <;>
                cases before
      · cases typed
  · rintro ⟨fileType, movie, rfl, ⟨named, long⟩, moved, filled⟩
    refine accepted_cons.mpr ⟨_, (see_initialization (known _ (by simp))).mpr (.inl ⟨named, long, rfl, rfl, rfl⟩), ?_⟩
    refine accepted_cons.mpr ⟨_, (see_initialization (known _ (by simp))).mpr (.inr ⟨moved, filled, rfl, rfl, rfl⟩), ?_⟩
    exact accepted_nil.mpr rfl

/-- Media data, and groups after them. -/
def Continues (datas : List Atom) (groups : List Group) (atoms : List Atom) : Prop :=
  (∀ atom ∈ datas, Media atom) ∧ (∀ group ∈ groups, group.Valid) ∧ atoms = datas ++ groups.flatMap Group.atoms

theorem Continues.media (media : Media atom)
    (continues : Continues datas groups atoms) : Continues (atom :: datas) groups (atom :: atoms) := by
  obtain ⟨datas_, groups_, rfl⟩ := continues
  exact ⟨List.forall_mem_cons.mpr ⟨media, datas_⟩, groups_, rfl⟩

theorem Continues.group {datas : List Atom} {groups : List Group} (named : atom.kind = moof)
    (filled : atom.payload ≠ []) (some : datas ≠ []) (continues : Continues datas groups atoms) :
    Continues [] (⟨atom, datas⟩ :: groups) (atom :: atoms) := by
  obtain ⟨datas_, groups_, rfl⟩ := continues
  refine ⟨by simp, List.forall_mem_cons.mpr ⟨⟨named, filled, some, datas_⟩, groups_⟩, ?_⟩
  rw [List.flatMap_cons]
  rfl

/-- The first box is media data, or it begins a group. -/
theorem Continues.first (continues : Continues datas groups (atom :: atoms)) :
    (Media atom ∧ ∃ rest, datas = atom :: rest ∧ Continues rest groups atoms) ∨
      (datas = [] ∧ atom.kind = moof ∧ atom.payload ≠ [] ∧ ∃ media rest, media ≠ [] ∧ Continues media rest atoms) := by
  obtain ⟨datas_, groups_, shape⟩ := continues
  cases datas with
  | cons _ datas =>
    obtain ⟨rfl, rfl⟩ := List.cons.inj shape
    obtain ⟨media, datas_⟩ := List.forall_mem_cons.mp datas_
    exact .inl ⟨media, datas, rfl, datas_, groups_, rfl⟩
  | nil =>
    cases groups with
    | nil => cases shape
    | cons group groups =>
      rw [List.flatMap_cons] at shape
      obtain ⟨rfl, rfl⟩ := List.cons.inj shape
      obtain ⟨valid, groups_⟩ := List.forall_mem_cons.mp groups_
      exact .inr ⟨rfl, valid.named, valid.filled, group.media, groups, valid.some, valid.media, groups_, rfl⟩

/-- What is left after a `moof`, and after media data. -/
theorem accepted_rest (known : ∀ atom ∈ atoms, Known atom) :
    (Accepted .fragment ⟨false, false, true, true⟩ atoms ↔ ∃ datas groups, Continues datas groups atoms) ∧
      (Accepted .fragment ⟨false, false, true, false⟩ atoms ↔
        ∃ datas groups, datas ≠ [] ∧ Continues datas groups atoms) := by
  induction atoms with
  | nil =>
    constructor
    · exact ⟨fun _ => ⟨[], [], by simp, by simp, rfl⟩, fun _ => accepted_nil.mpr rfl⟩
    · constructor
      · intro accepted
        cases accepted_nil.mp accepted
      · rintro ⟨datas, groups, filled, -, -, shape⟩
        exact (filled (List.append_eq_nil_iff.mp shape.symm).1).elim
  | cons atom _ ih =>
    obtain ⟨afterMedia, afterMoof⟩ := ih fun other member => known other (List.mem_cons_of_mem _ member)
    have own := known atom List.mem_cons_self
    constructor
    · constructor
      · intro accepted
        obtain ⟨after, marked, accepted⟩ := accepted_cons.mp accepted
        obtain ⟨named, filled, -, rfl⟩ | ⟨media, -, rfl⟩ := (see_fragment own).mp marked
        · obtain ⟨datas, groups, some, continues⟩ := afterMoof.mp accepted
          exact ⟨[], _, continues.group named filled some⟩
        · obtain ⟨datas, groups, continues⟩ := afterMedia.mp accepted
          exact ⟨_, groups, continues.media media⟩
      · rintro ⟨datas, groups, continues⟩
        rcases continues.first with ⟨media, rest, -, continues⟩ | ⟨-, named, filled, datas, groups, some, continues⟩
        · exact accepted_cons.mpr ⟨_, (see_fragment own).mpr (.inr ⟨media, rfl, rfl⟩), afterMedia.mpr ⟨_, _, continues⟩⟩
        · exact accepted_cons.mpr ⟨_, (see_fragment own).mpr (.inl ⟨named, filled, .inr rfl, rfl⟩),
            afterMoof.mpr ⟨datas, groups, some, continues⟩⟩
    · constructor
      · intro accepted
        obtain ⟨after, marked, accepted⟩ := accepted_cons.mp accepted
        obtain ⟨-, -, expected, -⟩ | ⟨media, -, rfl⟩ := (see_fragment own).mp marked
        · cases expected with
          | inl unseen => cases unseen
          | inr seen => cases seen
        · obtain ⟨datas, groups, continues⟩ := afterMedia.mp accepted
          exact ⟨_, groups, List.cons_ne_nil _ _, continues.media media⟩
      · rintro ⟨datas, groups, some, continues⟩
        rcases continues.first with ⟨media, rest, -, continues⟩ | ⟨none, -⟩
        · exact accepted_cons.mpr ⟨_, (see_fragment own).mpr (.inr ⟨media, rfl, rfl⟩), afterMedia.mpr ⟨_, _, continues⟩⟩
        · exact (some none).elim

theorem accepted_fragment (known : ∀ atom ∈ atoms, Known atom) :
    Accepted .fragment ⟨false, false, false, false⟩ atoms ↔ Fragment atoms := by
  cases atoms with
  | nil =>
    constructor
    · intro accepted
      cases accepted_nil.mp accepted
    · rintro ⟨groups, some, -, shape⟩
      cases groups with
      | nil => exact (some rfl).elim
      | cons =>
        rw [List.flatMap_cons] at shape
        cases shape
  | cons atom atoms =>
    have own := known atom List.mem_cons_self
    obtain ⟨-, afterMoof⟩ := accepted_rest fun other member => known other (List.mem_cons_of_mem _ member)
    constructor
    · intro accepted
      obtain ⟨after, marked, accepted⟩ := accepted_cons.mp accepted
      obtain ⟨named, filled, -, rfl⟩ | ⟨-, seen, -⟩ := (see_fragment own).mp marked
      · obtain ⟨datas, groups, some, continues⟩ := afterMoof.mp accepted
        obtain ⟨-, valid, shape⟩ := continues.group named filled some
        exact ⟨_, by simp, valid, shape⟩
      · cases seen
    · rintro ⟨groups, -, valid, shape⟩
      have continues : Continues [] groups (atom :: atoms) := ⟨by simp, valid, shape⟩
      rcases continues.first with ⟨-, rest, none, -⟩ | ⟨-, named, filled, datas, groups, some, continues⟩
      · cases none
      · exact accepted_cons.mpr ⟨_, (see_fragment own).mpr (.inl ⟨named, filled, .inl rfl, rfl⟩),
          afterMoof.mpr ⟨datas, groups, some, continues⟩⟩

end

/-! ## The answers -/

section
variable {content : List UInt8} {asset : Asset}

theorem limit_bounded (within : content.length ≤ asset.limit) : content.length < 2 ^ 64 := by
  have limit : asset.limit < 2 ^ 64 := by cases asset <;> decide
  omega

theorem scan_complete (within : content.length ≤ asset.limit) :
    (∃ seen, scan content asset 256 0 ⟨false, false, false, false⟩ = some seen ∧ seen.all asset = true) ↔
      Complete asset content := by
  have known : ∀ atoms : List Atom, ∀ atom ∈ atoms.filter Known, Known atom := by simp
  rw [scan_eq (limit_bounded within) 256 (Nat.zero_le _), List.drop_zero]
  unfold Complete
  constructor
  · rintro ⟨seen, ran, all⟩
    obtain ⟨atoms, read, ran⟩ := Option.bind_eq_some_iff.mp ran
    obtain ⟨boxes, few⟩ := readBoxes_eq_some.mp read
    rw [foldlM_known] at ran
    refine ⟨atoms, boxes, few, ?_⟩
    cases asset with
    | initialization => exact (accepted_initialization (known atoms)).mp ⟨seen, ran, all⟩
    | fragment => exact (accepted_fragment (known atoms)).mp ⟨seen, ran, all⟩
  · rintro ⟨atoms, boxes, few, ordered⟩
    have accepted : Accepted asset ⟨false, false, false, false⟩ (atoms.filter Known) := by
      cases asset with
      | initialization => exact (accepted_initialization (known atoms)).mpr ordered
      | fragment => exact (accepted_fragment (known atoms)).mpr ordered
    obtain ⟨seen, ran, all⟩ := accepted
    rw [← foldlM_known] at ran
    exact ⟨seen, Option.bind_eq_some_iff.mpr ⟨atoms, readBoxes_eq_some.mpr ⟨boxes, few⟩, ran⟩, all⟩

/-- The first `moof` among the boxes is found by its position. -/
theorem findMoof_eq (bounded : content.length < 2 ^ 64) (left : Nat) (inside : offset ≤ content.length)
    (read : readBoxes left (content.drop offset) = some atoms)
    (found : atoms.find? (·.kind = moof) = some first) (small : first.payload.length ≤ moofLimit) :
    findMoof ⟨content, true⟩ left offset = some first.payload := by
  induction left generalizing offset atoms with
  | zero =>
    obtain ⟨-, few⟩ := readBoxes_eq_some.mp read
    obtain rfl := List.length_eq_zero_iff.mp (Nat.le_zero.mp few)
    cases found
  | succ left ih =>
    have length : (content.drop offset).length = content.length - offset := List.length_drop
    have filled : content.drop offset ≠ [] := by
      intro empty
      rw [empty] at read
      cases read
      cases found
    rw [readBoxes_succ filled] at read
    obtain ⟨⟨atom, rest⟩, box, read⟩ := Option.bind_eq_some_iff.mp read
    obtain ⟨tail, later, rfl⟩ := Option.map_eq_some_iff.mp read
    obtain ⟨size, head, long, sized, large, fits, kind, payload, rfl, within, whole⟩ :=
      readBox_position bounded inside box
    unfold findMoof
    dsimp only
    rw [if_neg (by omega), readExact_drop long inside]
    simp only [Option.bind_eq_bind, Option.bind_some]
    rw [wideSizes_eq_header inside long, sized, Option.bind_some, if_neg (by simp [fits]; omega), ← kind]
    dsimp only
    split
    · rename_i named
      rw [List.find?_cons_of_pos (by simpa using named)] at found
      obtain rfl : atom = first := Option.some.inj found
      rw [if_neg (by omega), whole]
      rfl
    · rename_i other
      rw [List.find?_cons_of_neg (by simpa using other)] at found
      exact ih within later found

/-- A file that is not empty, not too large and not written to is answered: it is complete
exactly where its bytes are boxes in the right order. The first `moof` of a complete
fragment is then read as it is, if it is not too large. -/
theorem complete_spec (content : List UInt8) (asset : Asset) (filled : content ≠ [])
    (within : content.length ≤ asset.limit) :
    (complete (some ⟨content, true⟩) asset = .ok true ↔ Complete asset content) ∧
    (complete (some ⟨content, true⟩) asset = .ok false ↔ ¬ Complete asset content) ∧
    (asset = .fragment → complete (some ⟨content, true⟩) asset = .ok true → ∀ atoms first, Boxes content atoms →
      atoms.find? (·.kind = moof) = some first → first.payload.length ≤ moofLimit →
      readMoof (some ⟨content, true⟩) = .ok first.payload) := by
  have some_ : content.length ≠ 0 := by simpa using filled
  have ran : (complete (some ⟨content, true⟩) asset = .ok true ↔ Complete asset content) ∧
      (complete (some ⟨content, true⟩) asset = .ok false ↔ ¬ Complete asset content) := by
    rw [← scan_complete within]
    unfold complete
    dsimp only
    rw [if_neg some_, if_neg (Nat.not_lt.mpr within)]
    cases scan content asset 256 0 ⟨false, false, false, false⟩ <;> simp
  refine ⟨ran.1, ran.2, ?_⟩
  rintro rfl accepted atoms first boxes found small
  obtain ⟨others, boxes', few, -⟩ := ran.1.mp accepted
  obtain rfl := boxes.unique boxes'
  have read : readBoxes 256 (content.drop 0) = some atoms := readBoxes_eq_some.mpr ⟨boxes, few⟩
  have smaller : ¬ (content.length = 0 ∨ content.length > fragmentLimit) :=
    not_or.mpr ⟨some_, Nat.not_lt.mpr (Nat.le_trans within (by decide))⟩
  unfold readMoof
  dsimp only
  rw [if_neg smaller, findMoof_eq (limit_bounded within) 256 (Nat.zero_le _) read found small]
  rfl

namespace Sample

/-- A fragment of a `styp` box, a `moof` of one byte and an `mdat` of one byte. -/
def fragment : List UInt8 :=
  [0, 0, 0, 8, 0x73, 0x74, 0x79, 0x70, 0, 0, 0, 9, 0x6d, 0x6f, 0x6f, 0x66, 7,
   0, 0, 0, 1, 0x6d, 0x64, 0x61, 0x74, 0, 0, 0, 0, 0, 0, 0, 17, 5]

def atoms : List Atom := [⟨[0x73, 0x74, 0x79, 0x70], []⟩, ⟨moof, [7]⟩, ⟨mdat, [5]⟩]

theorem fragment_boxes : Boxes fragment atoms := by
  have read : readBoxes 3 fragment = some atoms := by decide +kernel
  exact (readBoxes_eq_some.mp read).1

end Sample

/-- The fragment is complete, and its `moof` is read. -/
theorem fragment_complete : Complete .fragment Sample.fragment ∧
    readMoof (some ⟨Sample.fragment, true⟩) = .ok [7] := by
  have filled : Sample.fragment ≠ [] := by decide
  have within : Sample.fragment.length ≤ Asset.fragment.limit := by decide
  have accepted : complete (some ⟨Sample.fragment, true⟩) .fragment = .ok true := by decide +kernel
  obtain ⟨answered, -, read⟩ := complete_spec Sample.fragment .fragment filled within
  exact ⟨answered.mp accepted, read rfl accepted Sample.atoms ⟨moof, [7]⟩ Sample.fragment_boxes (by decide +kernel)
    (by decide)⟩

end

end Duskcue.ReadinessMp4
