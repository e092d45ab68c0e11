import Duskcue.SourceOrigin
import Mathlib.Data.List.Basic

/-! The origin of a copied source is computed without a panic, whatever the files hold,
and where there is one the files describe two tracks that start in the fragment. Each
operation is first shown not to panic and, where it succeeds, to have read what the
format says; the loops over the tracks follow by induction. -/
namespace Duskcue.SourceOrigin
open BoxFormat ReadinessMp4

/-! ## What does not panic -/

/-- A computation that does not panic. -/
def Safe {α : Type} (run : Checked α) : Prop := run ≠ .error .panic

section
variable {α β : Type} {run : Checked α} {next : α → Checked β}

theorem Safe.ok (a : α) : Safe (.ok a) := by
  unfold Safe
  simp

theorem Safe.failure : Safe (.error .failure : Checked α) := by
  unfold Safe
  simp

theorem Safe.bind (safe : Safe run) (then_ : ∀ a, run = .ok a → Safe (next a)) : Safe (run >>= next) := by
  cases run with
  | error fault =>
    cases fault with
    | failure => exact .failure
    | panic => exact (safe rfl).elim
  | ok a => exact then_ a rfl

theorem Safe.require (condition : Bool) : Safe (require condition) := by
  unfold SourceOrigin.require
  split
  · exact .ok ()
  · exact .failure

theorem Safe.get (bytes : List UInt8) (a b : Nat) : Safe (get bytes a b) := by
  unfold SourceOrigin.get
  split
  · exact .ok _
  · exact .failure

theorem Safe.fit (fits : n < 2 ^ bits) : Safe (fit bits n) := by
  unfold SourceOrigin.fit
  rw [if_pos fits]
  exact .ok n

theorem Safe.foldlM (each : ∀ b a, Safe (step b a)) (list : List α) (b : β) : Safe (list.foldlM step b) := by
  induction list generalizing b with
  | nil => exact .ok b
  | cons a _ ih =>
    rw [List.foldlM_cons]
    exact .bind (each b a) fun after _ => ih after

theorem fit_ok : fit bits n = .ok m ↔ n < 2 ^ bits ∧ m = n := by
  unfold fit
  split
  · rename_i fits
    simp [fits, eq_comm]
  · rename_i past
    simp [past]

theorem require_ok : require condition = .ok u ↔ condition = true := by
  unfold require
  split <;> simp_all

end

section
variable {bytes : List UInt8} {offset n : Nat}

theorem get_ok :
    get bytes a b = .ok word ↔ (a ≤ b ∧ b ≤ bytes.length) ∧ word = (bytes.drop a).take (b - a) := by
  unfold get
  split
  · rename_i inside
    simp [inside, eq_comm]
  · rename_i outside
    simp [outside]

/-- The word at a position near the front. -/
theorem number_eq (near : offset + 4 < 2 ^ 64) : number bytes offset =
    if offset + 4 ≤ bytes.length then .ok (bigEndian ((bytes.drop offset).take 4)) else .error .failure := by
  unfold number fit get
  rw [if_pos near]
  by_cases inside : offset + 4 ≤ bytes.length
  · simp [inside, bind, Except.bind, pure, Except.pure]
  · simp [inside, bind, Except.bind]

theorem long_eq (near : offset + 8 < 2 ^ 64) : long bytes offset =
    if offset + 8 ≤ bytes.length then .ok (bigEndian ((bytes.drop offset).take 8)) else .error .failure := by
  unfold long fit get
  rw [if_pos near]
  by_cases inside : offset + 8 ≤ bytes.length
  · simp [inside, bind, Except.bind, pure, Except.pure]
  · simp [inside, bind, Except.bind]

theorem Safe.number (near : offset + 4 < 2 ^ 64) : Safe (number bytes offset) := by
  rw [number_eq near]
  split
  · exact .ok _
  · exact .failure

theorem Safe.long (near : offset + 8 < 2 ^ 64) : Safe (long bytes offset) := by
  rw [long_eq near]
  split
  · exact .ok _
  · exact .failure

theorem number_lt (near : offset + 4 < 2 ^ 64) (read : number bytes offset = .ok n) : n < 2 ^ 32 := by
  rw [number_eq near] at read
  split at read
  · rename_i inside
    cases read
    have small := bigEndian_lt ((bytes.drop offset).take 4)
    have length : ((bytes.drop offset).take 4).length = 4 := by simp; omega
    rw [length] at small
    omega
  · cases read

theorem long_lt (near : offset + 8 < 2 ^ 64) (read : long bytes offset = .ok n) : n < 2 ^ 64 := by
  rw [long_eq near] at read
  split at read
  · rename_i inside
    cases read
    have small := bigEndian_lt ((bytes.drop offset).take 8)
    have length : ((bytes.drop offset).take 8).length = 8 := by simp; omega
    rw [length] at small
    omega
  · cases read

/-! ## The walker -/

theorem slice_eq (bytes : List UInt8) (ordered : a ≤ b) (inside : b ≤ bytes.length) :
    slice bytes a b = .ok ((bytes.drop a).take (b - a)) := by
  unfold slice
  rw [if_pos ⟨ordered, inside⟩]

theorem boxSize_eq (filled : 8 ≤ bytes.length) : boxSize bytes = (header bytes).elim (.error .failure) .ok := by
  unfold boxSize header
  rw [number_eq (by decide), if_pos (by omega), if_neg (by omega), List.drop_zero]
  simp only [bind, Except.bind]
  split
  · rw [long_eq (by decide)]
    by_cases wide : 8 + 8 ≤ bytes.length
    · rw [if_pos wide, if_neg (by omega)]
      rfl
    · rw [if_neg wide, if_pos (by omega)]
      rfl
  · rfl

/-- The walker reads the boxes that the bytes are made of, and fails everywhere else. -/
theorem atomsFrom_eq (left : Nat) (bytes : List UInt8) :
    atomsFrom left bytes = (readBoxes left bytes).elim (.error .failure) .ok := by
  induction left generalizing bytes with
  | zero => cases bytes <;> rfl
  | succ left ih =>
    cases bytes with
    | nil => rfl
    | cons first rest =>
      rw [atomsFrom, readBoxes_succ (by simp)]
      · generalize first :: rest = bytes
        unfold readBox
        by_cases filled : 8 ≤ bytes.length
        · rw [boxSize_eq filled]
          cases sized : header bytes with
          | none => simp [require, filled, bind, Except.bind]
          | some found =>
            obtain ⟨size, head⟩ := found
            by_cases covered : size < head ∨ bytes.length < size
            · have refused : (head ≤ size && size ≤ bytes.length) = false := by
                simp
                omega
              simp [require, filled, bind, Except.bind, covered, refused]
            · have accepted : (head ≤ size && size ≤ bytes.length) = true := by
                simp
                omega
              have kind := slice_eq bytes (show 4 ≤ 8 by decide) filled
              have payload := slice_eq bytes (show head ≤ size by omega) (by omega)
              have rest := slice_eq bytes (show size ≤ bytes.length by omega) (Nat.le_refl _)
              have whole : (bytes.drop size).take (bytes.length - size) = bytes.drop size :=
                List.take_of_length_le (by simp)
              rw [whole] at rest
              simp only [require, filled, decide_true, ↓reduceIte, bind, Except.bind, Option.elim_some, accepted, kind,
                payload, rest, covered, ih, Option.bind_some]
              cases readBoxes left (bytes.drop size) with
              | none => rfl
              | some =>
                simp only [Option.elim_some, Option.map_some]
                rw [List.drop_take]
                rfl
        · have short : header bytes = none := by
            unfold header
            rw [if_pos (by omega)]
          simp [require, filled, bind, Except.bind, short]
      · simp

/-- The bytes are at most 256 boxes. -/
def Holds (bytes : List UInt8) (found : List Atom) : Prop := Boxes bytes found ∧ found.length ≤ 256

theorem atoms_ok : atoms bytes = .ok found ↔ Holds bytes found := by
  unfold atoms Holds
  rw [atomsFrom_eq, ← readBoxes_eq_some]
  cases readBoxes 256 bytes <;> simp

theorem Safe.atoms (bytes : List UInt8) : Safe (atoms bytes) := by
  unfold SourceOrigin.atoms
  rw [atomsFrom_eq]
  cases readBoxes 256 bytes with
  | none => exact .failure
  | some found => exact .ok found

/-- There is one box of the kind, with this payload. -/
def Sole (boxes : List Atom) (kind payload : List UInt8) : Prop :=
  ∃ atom, boxes.filter (·.kind = kind) = [atom] ∧ atom.payload = payload

theorem unique_ok : unique boxes kind = .ok payload ↔ Sole boxes kind payload := by
  unfold unique Sole
  split
  · rename_i atom only
    simp [only]
  · rename_i other
    constructor
    · rintro ⟨⟩
    · rintro ⟨atom, only, -⟩
      exact (other atom only).elim

theorem Safe.unique (boxes : List Atom) (kind : List UInt8) : Safe (unique boxes kind) := by
  unfold SourceOrigin.unique
  split
  · exact .ok _
  · exact .failure

/-! ## What the files say -/

/-- The word at a position. -/
def Word (bytes : List UInt8) (offset n : Nat) : Prop :=
  offset + 4 ≤ bytes.length ∧ n = bigEndian ((bytes.drop offset).take 4)

theorem number_ok (near : offset + 4 < 2 ^ 64) (read : number bytes offset = .ok n) : Word bytes offset n := by
  rw [number_eq near] at read
  split at read
  · rename_i inside
    cases read
    exact ⟨inside, rfl⟩
  · cases read

/-- The number after the times of a box, which are longer in version 1. -/
def Versioned (bytes : List UInt8) (n : Nat) : Prop :=
  bytes.head? = some 0 ∧ Word bytes 12 n ∨ bytes.head? = some 1 ∧ Word bytes 20 n

theorem versionedNumber_ok (read : versionedNumber bytes = .ok n) : Versioned bytes n := by
  unfold versionedNumber at read
  split at read
  · rename_i version
    exact .inl ⟨version, number_ok (by decide) read⟩
  · rename_i version
    exact .inr ⟨version, number_ok (by decide) read⟩
  · cases read

theorem Safe.versionedNumber (bytes : List UInt8) : Safe (versionedNumber bytes) := by
  unfold SourceOrigin.versionedNumber
  split
  · exact .number (by decide)
  · exact .number (by decide)
  · exact .failure

/-- The payload of a `trak` box describes the track. -/
structure IsTrack (payload : List UInt8) (track : Track) : Prop where
  header : ∃ boxes header, Holds payload boxes ∧ Sole boxes tkhd header ∧ Versioned header track.id
  timing : ∃ boxes inner media timing, Holds payload boxes ∧ Sole boxes mdia inner ∧ Holds inner media ∧
    Sole media mdhd timing ∧ Versioned timing track.scale
  handler : ∃ boxes inner media reference, Holds payload boxes ∧ Sole boxes mdia inner ∧ Holds inner media ∧
    Sole media hdlr reference ∧ 12 ≤ reference.length ∧ track.handler = (reference.drop 8).take 4

theorem readTrack_ok (read : readTrack payload = .ok track) : IsTrack payload track := by
  unfold readTrack at read
  obtain ⟨boxes, boxed, read⟩ := bind_ok read
  obtain ⟨-, -, read⟩ := bind_ok read
  obtain ⟨header, headed, read⟩ := bind_ok read
  obtain ⟨id, identified, read⟩ := bind_ok read
  obtain ⟨inner, nested, read⟩ := bind_ok read
  obtain ⟨media, opened, read⟩ := bind_ok read
  obtain ⟨timing, timed, read⟩ := bind_ok read
  obtain ⟨scale, scaled, read⟩ := bind_ok read
  obtain ⟨reference, referred, read⟩ := bind_ok read
  obtain ⟨handler, handled, read⟩ := bind_ok read
  cases read
  have boxed := atoms_ok.mp boxed
  have nested := unique_ok.mp nested
  have opened := atoms_ok.mp opened
  obtain ⟨⟨-, inside⟩, rfl⟩ := get_ok.mp handled
  exact ⟨⟨boxes, header, boxed, unique_ok.mp headed, versionedNumber_ok identified⟩,
    ⟨boxes, inner, media, timing, boxed, nested, opened, unique_ok.mp timed, versionedNumber_ok scaled⟩,
    ⟨boxes, inner, media, reference, boxed, nested, opened, unique_ok.mp referred, inside, rfl⟩⟩

theorem Safe.unedited (edits : List Atom) : Safe (unedited edits) := by
  induction edits with
  | nil => exact .ok ()
  | cons _ _ ih => exact .bind (.atoms _) fun _ _ => .bind (.require _) fun _ _ => ih

theorem Safe.readTrack (payload : List UInt8) : Safe (readTrack payload) := by
  unfold SourceOrigin.readTrack
  refine .bind (.atoms _) fun _ _ => .bind (.unedited _) fun _ _ => .bind (.unique _ _) fun _ _ =>
    .bind (.versionedNumber _) fun _ _ => .bind (.unique _ _) fun _ _ => .bind (.atoms _) fun _ _ =>
    .bind (.unique _ _) fun _ _ => .bind (.versionedNumber _) fun _ _ => .bind (.unique _ _) fun _ _ =>
    .bind (.get _ _ _) fun _ _ => .ok _

end

/-! ## Tracks -/

/-- Tracks that can be told apart: by their identifiers, which are not zero, and by what
handles them. -/
structure Distinct (known : List Track) : Prop where
  ids : known.Pairwise fun a b => a.id ≠ b.id
  handlers : known.Pairwise fun a b => a.handler ≠ b.handler
  each : ∀ track ∈ known, track.id ≠ 0 ∧ 0 < track.scale ∧ (track.handler = vide ∨ track.handler = soun)

theorem addTrack_ok (read : addTrack known atom = .ok after)
    (distinct : Distinct known) : ∃ track, after = known ++ [track] ∧ IsTrack atom.payload track ∧ Distinct after := by
  unfold addTrack at read
  obtain ⟨-, -, read⟩ := bind_ok read
  obtain ⟨track, described, read⟩ := bind_ok read
  obtain ⟨_, checked, read⟩ := bind_ok read
  cases read
  have checked := require_ok.mp checked
  simp only [Bool.and_eq_true, decide_eq_true_eq, Bool.or_eq_true, Bool.not_eq_true', List.any_eq_false, ne_eq] at checked
  obtain ⟨⟨⟨⟨⟨nonzero, positive⟩, -⟩, handled⟩, newId⟩, newHandler⟩ := checked
  refine ⟨track, rfl, readTrack_ok described, ?_, ?_, ?_⟩
  · refine List.pairwise_append.mpr ⟨distinct.ids, List.pairwise_singleton _ _, ?_⟩
    intro other member _ only
    rw [List.mem_singleton.mp only]
    exact newId other member
  · refine List.pairwise_append.mpr ⟨distinct.handlers, List.pairwise_singleton _ _, ?_⟩
    intro other member _ only
    rw [List.mem_singleton.mp only]
    exact newHandler other member
  · intro other member
    rcases List.mem_append.mp member with member | only
    · exact distinct.each other member
    · rw [List.mem_singleton.mp only]
      exact ⟨nonzero, positive, handled⟩

/-- A reader that adds one row for a box adds as many as there are boxes, in order. -/
theorem foldlM_adds {α β : Type} {f : List β → α → Checked (List β)} {good : List β → Prop} {describes : α → β → Prop}
    (adds : ∀ {known box after}, f known box = .ok after → good known →
      ∃ row, after = known ++ [row] ∧ describes box row ∧ good after)
    {boxes : List α} {known after : List β} (read : boxes.foldlM f known = .ok after) (kept : good known) :
    ∃ added, after = known ++ added ∧ List.Forall₂ describes boxes added ∧ good after := by
  induction boxes generalizing known with
  | nil =>
    cases read
    exact ⟨[], by simp, .nil, kept⟩
  | cons _ _ ih =>
    rw [List.foldlM_cons] at read
    obtain ⟨middle, first, read⟩ := bind_ok read
    obtain ⟨row, rfl, described, kept⟩ := adds first kept
    obtain ⟨added, rfl, rest, kept⟩ := ih read kept
    exact ⟨row :: added, by simp, .cons described rest, kept⟩

/-- The initialization file describes these tracks. -/
def Describes (initialization : List UInt8) (known : List Track) : Prop :=
  ∃ root inner movie, Holds initialization root ∧ Sole root moov inner ∧ Holds inner movie ∧
    List.Forall₂ (fun atom track => IsTrack atom.payload track) (movie.filter (·.kind = trak)) known

theorem tracks_ok (read : tracks initialization = .ok known) :
    Describes initialization known ∧ Distinct known ∧ known.length = 2 := by
  unfold tracks at read
  obtain ⟨root, boxed, read⟩ := bind_ok read
  obtain ⟨inner, nested, read⟩ := bind_ok read
  obtain ⟨movie, opened, read⟩ := bind_ok read
  obtain ⟨found, each, read⟩ := bind_ok read
  obtain ⟨_, two, read⟩ := bind_ok read
  cases read
  have two := require_ok.mp two
  obtain ⟨added, same, described, distinct⟩ := foldlM_adds addTrack_ok each ⟨.nil, .nil, by simp⟩
  rw [List.nil_append] at same
  subst same
  exact ⟨⟨root, inner, movie, atoms_ok.mp boxed, unique_ok.mp nested, atoms_ok.mp opened, described⟩, distinct,
    by simpa using two⟩

theorem Safe.addTrack (known : List Track) (atom : Atom) : Safe (addTrack known atom) := by
  unfold SourceOrigin.addTrack
  exact .bind (.require _) fun _ _ => .bind (.readTrack _) fun _ _ => .bind (.require _) fun _ _ => .ok _

theorem Safe.tracks (initialization : List UInt8) : Safe (tracks initialization) := by
  unfold SourceOrigin.tracks
  exact .bind (.atoms _) fun _ _ => .bind (.unique _ _) fun _ _ => .bind (.atoms _) fun _ _ =>
    .bind (.foldlM .addTrack _ _) fun _ _ => .bind (.require _) fun _ _ => .ok _

/-! ## Fragments -/

/-- The time at which a track starts, in one word or in two. -/
def DecodeTime (bytes : List UInt8) (time : Nat) : Prop :=
  bytes.head? = some 0 ∧ bytes.length = 8 ∧ time = bigEndian ((bytes.drop 4).take 4) ∨
    bytes.head? = some 1 ∧ bytes.length = 12 ∧ time = bigEndian ((bytes.drop 4).take 8)

section
variable {bytes : List UInt8} {time : Nat}

theorem decodeTime_ok (read : decodeTime bytes = .ok time) : DecodeTime bytes time ∧ time < 2 ^ 64 := by
  unfold decodeTime at read
  obtain ⟨first, -, read⟩ := bind_ok read
  obtain ⟨_, -, read⟩ := bind_ok read
  split at read
  · rename_i version
    split at read
    · rename_i length
      have small := number_lt (by decide) read
      exact ⟨.inl ⟨version, length, (number_ok (by decide) read).2⟩, by omega⟩
    · cases read
  · rename_i version
    split at read
    · rename_i length
      have small := long_lt (by decide) read
      rw [long_eq (by decide), if_pos (by omega)] at read
      cases read
      exact ⟨.inr ⟨version, length, rfl⟩, small⟩
    · cases read
  · cases read

theorem Safe.decodeTime (bytes : List UInt8) : Safe (decodeTime bytes) := by
  unfold SourceOrigin.decodeTime
  refine .bind (.number (by decide)) fun _ _ => .bind (.require _) fun _ _ => ?_
  split
  · split
    · exact .number (by decide)
    · exact .failure
  · split
    · exact .long (by decide)
    · exact .failure
  · exact .failure

/-- The lengths of the optional fields do not add up to an overflow. -/
theorem Safe.headerLength (flags : Nat) (fields : List (Nat × Nat)) (length : Nat)
    (small : length + (fields.map (·.2)).sum < 2 ^ 64) : Safe (headerLength flags fields length) := by
  induction fields generalizing length with
  | nil => exact .ok length
  | cons field _ ih =>
    obtain ⟨flag, bytes⟩ := field
    simp only [List.map_cons, List.sum_cons] at small
    unfold SourceOrigin.headerLength
    split
    · refine .bind (.fit (by omega)) fun longer added => ih longer ?_
      obtain rfl := (fit_ok.mp added).2
      omega
    · exact .bind (.ok length) fun same kept => by cases kept; exact ih length (by omega)

theorem Safe.trackId (bytes : List UInt8) : Safe (trackId bytes) := by
  unfold SourceOrigin.trackId
  exact .bind (.number (by decide)) fun _ _ => .bind (.require _) fun _ _ =>
    .bind (.headerLength _ _ _ (by decide)) fun _ _ => .bind (.require _) fun _ _ => .number (by decide)

theorem trackId_ok {id : Nat} (read : trackId bytes = .ok id) : Word bytes 4 id := by
  unfold trackId at read
  obtain ⟨flags, -, read⟩ := bind_ok read
  obtain ⟨_, -, read⟩ := bind_ok read
  obtain ⟨length, -, read⟩ := bind_ok read
  obtain ⟨_, -, read⟩ := bind_ok read
  exact number_ok (by decide) read

theorem Safe.runLength (few : count ≤ 65536) : Safe (runLength flags count) := by
  have four : ([0x100, 0x200, 0x400, 0x800].filter fun flag => flags &&& flag ≠ 0).length ≤ 4 :=
    List.length_filter_le _ _
  unfold SourceOrigin.runLength
  dsimp only
  generalize ([0x100, 0x200, 0x400, 0x800].filter fun flag => flags &&& flag ≠ 0).length = fields at *
  have head : (if flags &&& 1 ≠ 0 then 4 else 0) ≤ 4 ∧ (if flags &&& 4 ≠ 0 then 4 else 0) ≤ 4 := by
    constructor <;> split <;> decide
  refine .bind (.fit (by omega)) fun perSample each => ?_
  obtain rfl := (fit_ok.mp each).2
  refine .bind (.fit (by omega)) fun offset first => ?_
  obtain rfl := (fit_ok.mp first).2
  refine .bind (.fit (by omega)) fun start second => ?_
  obtain rfl := (fit_ok.mp second).2
  have small : count * (fields * 4) ≤ 65536 * 16 := Nat.mul_le_mul few (by omega)
  rw [if_pos (by omega)]
  refine .bind (.ok _) fun samples counted => ?_
  cases counted
  exact .fit (by omega)

theorem Safe.samples (bytes : List UInt8) : Safe (samples bytes) := by
  unfold SourceOrigin.samples
  refine .bind (.number (by decide)) fun flags _ => .bind (.number (by decide)) fun count _ => ?_
  refine .bind (.require _) fun _ checked => ?_
  have checked := require_ok.mp checked
  simp only [Bool.and_eq_true, decide_eq_true_eq] at checked
  exact .bind (.runLength checked.2) fun _ _ => .require _

theorem Safe.eachSamples (runs : List Atom) : Safe (eachSamples runs) := by
  induction runs with
  | nil => exact .ok ()
  | cons _ _ ih => exact .bind (.samples _) fun _ _ => ih

theorem milliseconds_eq (small : time < 2 ^ 64) (positive : 0 < scale) :
    milliseconds time scale = .ok (time * 1000 / scale) := by
  unfold milliseconds fit divide
  rw [if_pos (by omega)]
  simp only [bind, Except.bind]
  rw [if_neg (by omega)]

end

/-- The payload of a `traf` box starts a track at a time. -/
def IsStart (payload : List UInt8) (start : Start) : Prop :=
  ∃ records header timing, Holds payload records ∧ Sole records tfhd header ∧ Word header 4 start.id ∧
    Sole records tfdt timing ∧ DecodeTime timing start.time

/-- Starts of known tracks, each of them once. -/
structure Started (known : List Track) (found : List Start) : Prop where
  ids : found.Pairwise fun a b => a.id ≠ b.id
  each : ∀ start ∈ found, start.time < 2 ^ 64 ∧ ∃ track ∈ known, track.id = start.id ∧ track.scale = start.scale

section
variable {known : List Track} {found after : List Start} {atom : Atom}

theorem addStart_ok (read : addStart known found atom = .ok after) (started : Started known found) :
    ∃ start, after = found ++ [start] ∧ IsStart atom.payload start ∧ Started known after := by
  unfold addStart at read
  obtain ⟨_, -, read⟩ := bind_ok read
  obtain ⟨records, boxed, read⟩ := bind_ok read
  obtain ⟨header, headed, read⟩ := bind_ok read
  obtain ⟨id, identified, read⟩ := bind_ok read
  split at read
  · cases read
  · rename_i track listed
    obtain ⟨timing, timed, read⟩ := bind_ok read
    obtain ⟨time, decoded, read⟩ := bind_ok read
    obtain ⟨start, -, read⟩ := bind_ok read
    obtain ⟨_, -, read⟩ := bind_ok read
    obtain ⟨_, checked, read⟩ := bind_ok read
    obtain ⟨_, -, read⟩ := bind_ok read
    cases read
    have checked := require_ok.mp checked
    simp only [Bool.and_eq_true, Bool.not_eq_true', List.any_eq_false, decide_eq_true_eq] at checked
    obtain ⟨decoded, small⟩ := decodeTime_ok decoded
    have member := List.mem_of_find?_eq_some listed
    have same : track.id = id := by simpa using List.find?_some listed
    refine ⟨⟨id, time, track.scale⟩, rfl,
      ⟨records, header, timing, atoms_ok.mp boxed, unique_ok.mp headed, trackId_ok identified, unique_ok.mp timed, decoded⟩,
      ?_, ?_⟩
    · refine List.pairwise_append.mpr ⟨started.ids, List.pairwise_singleton _ _, ?_⟩
      intro other member _ only
      rw [List.mem_singleton.mp only]
      exact checked.2 other member
    · intro other present
      rcases List.mem_append.mp present with present | only
      · exact started.each other present
      · rw [List.mem_singleton.mp only]
        exact ⟨small, track, member, same, rfl⟩

theorem addStarts_ok {boxes : List Atom} (read : boxes.foldlM (addStart known) found = .ok after)
    (started : Started known found) : ∃ added, after = found ++ added ∧
      List.Forall₂ (fun atom start => IsStart atom.payload start) boxes added ∧ Started known after :=
  foldlM_adds addStart_ok read started

theorem Safe.addStart (distinct : Distinct known) (found : List Start) (atom : Atom) :
    Safe (addStart known found atom) := by
  unfold SourceOrigin.addStart
  refine .bind (.require _) fun _ _ => .bind (.atoms _) fun records _ => .bind (.unique _ _) fun header _ =>
    .bind (.trackId _) fun id _ => ?_
  split
  · exact .failure
  · rename_i track listed
    have positive := (distinct.each track (List.mem_of_find?_eq_some listed)).2.1
    refine .bind (.unique _ _) fun timing _ => .bind (.decodeTime _) fun time decoded => ?_
    rw [milliseconds_eq (decodeTime_ok decoded).2 positive]
    exact .bind (.ok _) fun _ _ => .bind (.require _) fun _ _ => .bind (.require _) fun _ _ =>
      .bind (.eachSamples _) fun _ _ => .ok _

theorem eachMilliseconds_eq (starts : List Start) (started : ∀ start ∈ starts, start.time < 2 ^ 64 ∧ 0 < start.scale) :
    eachMilliseconds starts = .ok (starts.map fun start => start.time * 1000 / start.scale) := by
  induction starts with
  | nil => rfl
  | cons _ _ ih =>
    obtain ⟨⟨small, positive⟩, others⟩ := List.forall_mem_cons.mp started
    unfold eachMilliseconds
    rw [milliseconds_eq small positive, ih others]
    rfl

end

/-! ## The origin -/

section
variable {known : List Track} {found : List Start}

theorem Started.positive (started : Started known found) (distinct : Distinct known) :
    ∀ start ∈ found, start.time < 2 ^ 64 ∧ 0 < start.scale := by
  intro start member
  obtain ⟨small, track, listed, -, same⟩ := started.each start member
  exact ⟨small, same ▸ (distinct.each track listed).2.1⟩

theorem Distinct.video_audio (distinct : Distinct known) (two : known.length = 2) :
    ∃ video audio, known.Perm [video, audio] ∧ video.handler = vide ∧ audio.handler = soun ∧ video.id ≠ audio.id ∧
      video.id ≠ 0 ∧ audio.id ≠ 0 ∧ 0 < video.scale ∧ 0 < audio.scale := by
  obtain ⟨a, b, rfl⟩ := List.length_eq_two.mp two
  obtain ⟨idA, scaleA, handlerA⟩ := distinct.each a (by simp)
  obtain ⟨idB, scaleB, handlerB⟩ := distinct.each b (by simp)
  have ids : a.id ≠ b.id := by simpa using distinct.ids
  have handlers : a.handler ≠ b.handler := by simpa using distinct.handlers
  rcases handlerA with videoA | audioA <;> rcases handlerB with videoB | audioB
  · exact (handlers (videoA.trans videoB.symm)).elim
  · exact ⟨a, b, .refl _, videoA, audioB, ids, idA, idB, scaleA, scaleB⟩
  · exact ⟨b, a, .swap .., videoB, audioA, ids.symm, idB, idA, scaleB, scaleA⟩
  · exact (handlers (audioA.trans audioB.symm)).elim

theorem Started.both (started : Started [video, audio] found) (apart : video.id ≠ audio.id)
    (two : found.length = 2) : ∃ videoTime audioTime,
      found.Perm [⟨video.id, videoTime, video.scale⟩, ⟨audio.id, audioTime, audio.scale⟩] := by
  obtain ⟨a, b, rfl⟩ := List.length_eq_two.mp two
  have ids : a.id ≠ b.id := by simpa using started.ids
  obtain ⟨-, trackA, listedA, idA, scaleA⟩ := started.each a (by simp)
  obtain ⟨-, trackB, listedB, idB, scaleB⟩ := started.each b (by simp)
  obtain ⟨_, timeA, _⟩ := a
  obtain ⟨_, timeB, _⟩ := b
  dsimp only at *
  subst idA scaleA idB scaleB
  simp only [List.mem_cons, List.not_mem_nil, or_false] at listedA listedB
  rcases listedA with rfl | rfl <;> rcases listedB with rfl | rfl
  · exact (ids rfl).elim
  · exact ⟨timeA, timeB, .refl _⟩
  · exact ⟨timeB, timeA, .swap ..⟩
  · exact (ids rfl).elim

theorem Started.of_perm (started : Started known found) (same : known.Perm others) : Started others found := by
  refine ⟨started.ids, fun start member => ?_⟩
  obtain ⟨small, track, listed, rest⟩ := started.each start member
  exact ⟨small, track, same.mem_iff.mp listed, rest⟩

end

/-- The walker answers with boxes exactly where the bytes are at most 256 of them, and it
does not panic. Neither does the origin. Where there is an origin, the initialization file
describes a video and an audio track, the fragment starts each of them once, and the
origin is the earlier start, not later than what was asked for. -/
theorem origin_spec (initialization moof : List UInt8) (requestedMs : Int) :
    (∀ bytes found, atoms bytes = .ok found ↔ Boxes bytes found ∧ found.length ≤ 256) ∧
    (∀ bytes, atoms bytes ≠ .error .panic) ∧
    origin initialization moof requestedMs ≠ .error .panic ∧
    ∀ v, origin initialization moof requestedMs = .ok v →
      ∃ video audio : Track, ∃ videoTime audioTime : Nat,
        (∃ known, known.Perm [video, audio] ∧ Describes initialization known) ∧
        video.handler = vide ∧ audio.handler = soun ∧ video.id ≠ audio.id ∧ video.id ≠ 0 ∧ audio.id ≠ 0 ∧
        0 < video.scale ∧ 0 < audio.scale ∧
        (∃ boxes starts, Holds moof boxes ∧
          List.Forall₂ (fun atom start => IsStart atom.payload start) (boxes.filter (·.kind = traf)) starts ∧
          starts.Perm [⟨video.id, videoTime, video.scale⟩, ⟨audio.id, audioTime, audio.scale⟩]) ∧
        v = min (videoTime * 1000 / video.scale) (audioTime * 1000 / audio.scale) ∧
        0 ≤ v ∧ v ≤ requestedMs ∧ v ≤ i32Max := by
  refine ⟨fun bytes found => atoms_ok, fun bytes => Safe.atoms bytes, ?_, ?_⟩
  · change Safe _
    unfold origin
    refine .bind (.require _) fun _ _ => .bind (.tracks _) fun known described => ?_
    obtain ⟨-, distinct, -⟩ := tracks_ok described
    refine .bind (.atoms _) fun boxes _ => .bind (.foldlM (.addStart distinct) _ _) fun found each => ?_
    obtain ⟨added, -, -, started⟩ := addStarts_ok each ⟨.nil, by simp⟩
    refine .bind (.require _) fun _ _ => ?_
    rw [eachMilliseconds_eq found (started.positive distinct)]
    refine .bind (.ok _) fun times _ => ?_
    split
    · exact .failure
    · exact .bind (.require _) fun _ _ => .bind (.require _) fun _ _ => .ok _
  · intro v read
    unfold origin at read
    obtain ⟨_, -, read⟩ := bind_ok read
    obtain ⟨known, described, read⟩ := bind_ok read
    obtain ⟨described, distinct, two⟩ := tracks_ok described
    obtain ⟨boxes, boxed, read⟩ := bind_ok read
    obtain ⟨found, each, read⟩ := bind_ok read
    obtain ⟨added, same, begun, started⟩ := addStarts_ok each ⟨.nil, by simp⟩
    rw [List.nil_append] at same
    subst same
    obtain ⟨_, both, read⟩ := bind_ok read
    have both : found.length = known.length := by simpa using require_ok.mp both
    obtain ⟨video, audio, tracks, handled, heard, apart, idVideo, idAudio, scaleVideo, scaleAudio⟩ :=
      distinct.video_audio two
    obtain ⟨videoTime, audioTime, starts⟩ := (started.of_perm tracks).both apart (both.trans two)
    rw [eachMilliseconds_eq found (started.positive distinct)] at read
    obtain ⟨times, listed, read⟩ := bind_ok read
    cases listed
    split at read
    · cases read
    · rename_i earliest minimal
      obtain ⟨_, -, read⟩ := bind_ok read
      obtain ⟨_, bounded, read⟩ := bind_ok read
      cases read
      have bounded := require_ok.mp bounded
      simp only [Bool.and_eq_true, decide_eq_true_eq] at bounded
      have least : earliest = min (videoTime * 1000 / video.scale) (audioTime * 1000 / audio.scale) := by
        have member := fun t => (starts.map fun start => start.time * 1000 / start.scale).mem_iff (a := t)
        obtain ⟨inside, below⟩ := List.min?_eq_some_iff.mp minimal
        have videoLater := below _ ((member _).mpr (List.mem_cons_self ..))
        have audioLater := below _ ((member _).mpr (List.mem_cons_of_mem _ (List.mem_cons_self ..)))
        have chosen := (member _).mp inside
        simp only [List.map_cons, List.map_nil, List.mem_cons, List.not_mem_nil, or_false] at chosen
        simp only at videoLater audioLater
        omega
      refine ⟨video, audio, videoTime, audioTime, ⟨known, tracks, described⟩, handled, heard, apart, idVideo, idAudio,
        scaleVideo, scaleAudio, ⟨boxes, found, atoms_ok.mp boxed, begun, starts⟩, ?_, Int.natCast_nonneg _, bounded.1, ?_⟩
      · rw [least]
      · exact Int.ofNat_le.mpr bounded.2

end Duskcue.SourceOrigin
