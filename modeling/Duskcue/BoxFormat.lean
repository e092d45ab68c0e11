import Mathlib.Algebra.Order.Ring.Nat
import Mathlib.Data.List.Induction

/-! Files made of boxes: a size, a kind of four bytes and a payload. A size of one word
counts the whole box; a word of one says that the size follows in two words. `Box` and
`Boxes` say what the bytes of a box and of a sequence of boxes are; `readBox` takes one
box off the front, and `readBoxes` all of them, up to a number. -/
namespace Duskcue.BoxFormat

/-- A number in big-endian order. -/
def bigEndian (bytes : List UInt8) : Nat := bytes.foldl (fun n byte => 256 * n + byte.toNat) 0

structure Atom where
  kind : List UInt8
  payload : List UInt8
  deriving DecidableEq

/-- The bytes of one box. -/
inductive Box : List UInt8 → Atom → Prop
  | compact {size kind payload : List UInt8} (word : size.length = 4) (named : kind.length = 4)
      (counts : bigEndian size = 8 + payload.length) : Box (size ++ kind ++ payload) ⟨kind, payload⟩
  | large {size kind wide payload : List UInt8} (word : size.length = 4) (named : kind.length = 4)
      (escape : bigEndian size = 1) (words : wide.length = 8) (counts : bigEndian wide = 16 + payload.length) :
    Box (size ++ kind ++ wide ++ payload) ⟨kind, payload⟩

/-- The bytes of a sequence of boxes. -/
inductive Boxes : List UInt8 → List Atom → Prop
  | nil : Boxes [] []
  | cons {bytes rest : List UInt8} {atom : Atom} {atoms : List Atom} (box : Box bytes atom) (boxes : Boxes rest atoms) :
    Boxes (bytes ++ rest) (atom :: atoms)

/-- The size in the header of a box, and the length of the header. -/
def header (bytes : List UInt8) : Option (Nat × Nat) :=
  if bytes.length < 8 then none
  else if bigEndian (bytes.take 4) = 1 then
    if bytes.length < 16 then none else some (bigEndian ((bytes.drop 8).take 8), 16)
  else some (bigEndian (bytes.take 4), 8)

/-- The box at the front, and what follows it. -/
def readBox (bytes : List UInt8) : Option (Atom × List UInt8) :=
  match header bytes with
  | none => none
  | some (size, head) =>
    if size < head ∨ bytes.length < size then none
    else some (⟨(bytes.drop 4).take 4, (bytes.take size).drop head⟩, bytes.drop size)

/-- All boxes, if there are at most so many. -/
def readBoxes : Nat → List UInt8 → Option (List Atom)
  | _, [] => some []
  | 0, _ :: _ => none
  | n + 1, bytes =>
    match readBox bytes with
    | none => none
    | some (atom, rest) => (readBoxes n rest).map (atom :: ·)

variable {bytes rest : List UInt8} {atom : Atom} {atoms : List Atom} {size head n : Nat}

theorem bigEndian_concat (byte : UInt8) : bigEndian (bytes ++ [byte]) = 256 * bigEndian bytes + byte.toNat := by
  simp [bigEndian]

theorem bigEndian_lt (bytes : List UInt8) : bigEndian bytes < 256 ^ bytes.length := by
  induction bytes using List.reverseRecOn with
  | nil => decide
  | append_singleton _ byte =>
    have small := byte.toNat_lt
    rw [bigEndian_concat, List.length_append, List.length_singleton, Nat.pow_succ]
    omega

theorem Box.length_le (box : Box bytes atom) : 8 ≤ bytes.length := by
  cases box with
  | compact | large => simp; omega

theorem header_cases (read : header bytes = some (size, head)) :
    (head = 8 ∧ 8 ≤ bytes.length ∧ size = bigEndian (bytes.take 4) ∧ size ≠ 1) ∨
      (head = 16 ∧ 16 ≤ bytes.length ∧ bigEndian (bytes.take 4) = 1 ∧ size = bigEndian ((bytes.drop 8).take 8)) := by
  unfold header at read
  split at read
  · cases read
  · split at read
    · split at read
      · cases read
      · rename_i escape short
        cases read
        exact .inr ⟨rfl, by omega, escape, rfl⟩
    · rename_i plain
      cases read
      exact .inl ⟨rfl, by omega, rfl, plain⟩

/-- The first eight bytes, as the size and the kind. -/
theorem take_header (bytes : List UInt8) (size : Nat) (counted : 8 ≤ size) :
    bytes.take size = bytes.take 4 ++ (bytes.drop 4).take 4 ++ (bytes.take size).drop 8 := by
  have front : (bytes.take size).take 8 = bytes.take 4 ++ (bytes.drop 4).take 4 := by
    rw [List.take_take, Nat.min_eq_left counted, show 8 = 4 + 4 by rfl, List.take_add]
  rw [← front, List.take_append_drop]

theorem take_wide_header (bytes : List UInt8) (size : Nat) (counted : 16 ≤ size) :
    bytes.take size =
      bytes.take 4 ++ (bytes.drop 4).take 4 ++ (bytes.drop 8).take 8 ++ (bytes.take size).drop 16 := by
  have front : (bytes.take size).take 16 = bytes.take 4 ++ (bytes.drop 4).take 4 ++ (bytes.drop 8).take 8 := by
    rw [List.take_take, Nat.min_eq_left counted, show 16 = 8 + 8 by rfl, List.take_add, show 8 = 4 + 4 by rfl,
      List.take_add]
  rw [← front, List.take_append_drop]

theorem Box.of_take (read : header bytes = some (size, head)) (large : head ≤ size) (covered : size ≤ bytes.length) :
    Box (bytes.take size) ⟨(bytes.drop 4).take 4, (bytes.take size).drop head⟩ := by
  rcases header_cases read with ⟨rfl, long, counted, -⟩ | ⟨rfl, long, escape, counted⟩
  · have shape := take_header bytes size large
    have length : ((bytes.take size).drop 8).length = size - 8 := by simp [Nat.min_eq_left covered]
    generalize (bytes.take size).drop 8 = payload at shape length ⊢
    rw [shape]
    exact .compact (by simp; omega) (by simp; omega) (by omega)
  · have shape := take_wide_header bytes size large
    have length : ((bytes.take size).drop 16).length = size - 16 := by simp [Nat.min_eq_left covered]
    generalize (bytes.take size).drop 16 = payload at shape length ⊢
    rw [shape]
    exact .large (by simp; omega) (by simp; omega) escape (by simp; omega) (by omega)

theorem Box.readBox (box : Box bytes atom) (rest : List UInt8) : readBox (bytes ++ rest) = some (atom, rest) := by
  have covered : ∀ {whole : List UInt8} {count : Nat}, whole.length = count →
      ¬ (whole ++ rest).length < count := by
    intro whole count counted
    simp
    omega
  cases box with
  | @compact size kind payload word named counts =>
    have length : (size ++ kind ++ payload).length = 8 + payload.length := by simp; omega
    have first : (size ++ kind ++ payload ++ rest).take 4 = size := by simp [word]
    have second : ((size ++ kind ++ payload ++ rest).drop 4).take 4 = kind := by simp [word, named]
    have found : header (size ++ kind ++ payload ++ rest) = some (8 + payload.length, 8) := by
      unfold header
      rw [first, counts, if_neg (by simp; omega), if_neg (by omega)]
    have third : (size ++ kind ++ payload).drop 8 = payload := List.drop_left' (by simp; omega)
    unfold BoxFormat.readBox
    rw [found]
    dsimp only
    rw [if_neg (by have := covered length; omega), second, List.take_left' length, third, List.drop_left' length]
  | @large size kind wide payload word named escape words counts =>
    have length : (size ++ kind ++ wide ++ payload).length = 16 + payload.length := by simp; omega
    have first : (size ++ kind ++ wide ++ payload ++ rest).take 4 = size := by simp [word]
    have second : ((size ++ kind ++ wide ++ payload ++ rest).drop 4).take 4 = kind := by simp [word, named]
    have third : ((size ++ kind ++ wide ++ payload ++ rest).drop 8).take 8 = wide := by
      rw [show size ++ kind ++ wide ++ payload ++ rest = (size ++ kind) ++ (wide ++ (payload ++ rest)) by simp,
        List.drop_left' (by simp; omega), List.take_left' words]
    have found : header (size ++ kind ++ wide ++ payload ++ rest) = some (16 + payload.length, 16) := by
      unfold header
      rw [first, escape, if_neg (by simp; omega), if_pos rfl, third, counts, if_neg (by simp; omega)]
    have fourth : (size ++ kind ++ wide ++ payload).drop 16 = payload := List.drop_left' (by simp; omega)
    unfold BoxFormat.readBox
    rw [found]
    dsimp only
    rw [if_neg (by have := covered length; omega), second, List.take_left' length, fourth, List.drop_left' length]

theorem readBox_eq_some : readBox bytes = some (atom, rest) ↔ ∃ front, Box front atom ∧ bytes = front ++ rest := by
  constructor
  · intro read
    unfold readBox at read
    split at read
    · cases read
    · rename_i size head found
      split at read
      · cases read
      · rename_i covered
        cases read
        exact ⟨bytes.take size, .of_take found (by omega) (by omega), (List.take_append_drop size bytes).symm⟩
  · rintro ⟨front, box, rfl⟩
    exact box.readBox rest

theorem boxes_nil_iff : Boxes [] atoms ↔ atoms = [] := by
  constructor
  · intro boxes
    generalize empty : ([] : List UInt8) = bytes at boxes
    cases boxes with
    | nil => rfl
    | cons box =>
      have := box.length_le
      have := congrArg List.length empty
      simp at this
      omega
  · rintro rfl
    exact .nil

theorem boxes_cons_iff : Boxes bytes (atom :: tail) ↔
    ∃ front rest, bytes = front ++ rest ∧ Box front atom ∧ Boxes rest tail := by
  constructor
  · intro boxes
    cases boxes with
    | cons box boxes => exact ⟨_, _, rfl, box, boxes⟩
  · rintro ⟨front, rest, rfl, box, boxes⟩
    exact .cons box boxes

theorem readBoxes_succ (filled : bytes ≠ []) :
    readBoxes (n + 1) bytes = (readBox bytes).bind fun found => (readBoxes n found.2).map (found.1 :: ·) := by
  cases bytes with
  | nil => exact (filled rfl).elim
  | cons first bytes =>
    rw [readBoxes]
    · cases readBox (first :: bytes) <;> rfl
    · simp

theorem readBoxes_eq_some : readBoxes n bytes = some atoms ↔ Boxes bytes atoms ∧ atoms.length ≤ n := by
  induction n generalizing bytes atoms with
  | zero =>
    cases bytes with
    | nil => simp [readBoxes, boxes_nil_iff, eq_comm]
    | cons first bytes =>
      simp only [readBoxes, Nat.le_zero, List.length_eq_zero_iff, false_iff, not_and, reduceCtorEq]
      rintro boxes rfl
      generalize shape : first :: bytes = whole at boxes
      cases boxes
      cases shape
  | succ n ih =>
    cases bytes with
    | nil =>
      simp only [readBoxes, boxes_nil_iff, Option.some.injEq]
      constructor
      · rintro rfl
        exact ⟨rfl, Nat.zero_le _⟩
      · rintro ⟨rfl, -⟩
        rfl
    | cons first bytes =>
      rw [readBoxes_succ (by simp)]
      constructor
      · intro read
        obtain ⟨⟨atom, rest⟩, found, read⟩ := Option.bind_eq_some_iff.mp read
        obtain ⟨tail, later, rfl⟩ := Option.map_eq_some_iff.mp read
        obtain ⟨front, box, shape⟩ := readBox_eq_some.mp found
        obtain ⟨boxes, few⟩ := ih.mp later
        exact ⟨shape ▸ .cons box boxes, Nat.succ_le_succ few⟩
      · rintro ⟨boxes, few⟩
        cases atoms with
        | nil =>
          generalize shape : first :: bytes = whole at boxes
          cases boxes
          cases shape
        | cons _ tail =>
          obtain ⟨front, rest, shape, box, boxes⟩ := boxes_cons_iff.mp boxes
          rw [shape, box.readBox rest]
          exact Option.map_eq_some_iff.mpr ⟨tail, ih.mpr ⟨boxes, Nat.le_of_succ_le_succ few⟩, rfl⟩

theorem Boxes.unique (boxes : Boxes bytes atoms) (boxes' : Boxes bytes others) : atoms = others := by
  have read : readBoxes (max atoms.length others.length) bytes = some atoms :=
    readBoxes_eq_some.mpr ⟨boxes, Nat.le_max_left ..⟩
  have read' : readBoxes (max atoms.length others.length) bytes = some others :=
    readBoxes_eq_some.mpr ⟨boxes', Nat.le_max_right ..⟩
  exact Option.some.inj (read.symm.trans read')

end Duskcue.BoxFormat
