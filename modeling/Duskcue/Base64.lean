import Mathlib.Data.List.Basic

/-! Bytes written in groups of six bits, with one character for each. -/
namespace Duskcue.Base64

/-- The groups of six bits, the last filled up with zeros. -/
def sextets : List UInt8 → List Nat
  | a :: b :: c :: rest => [a.toNat / 4, a.toNat % 4 * 16 + b.toNat / 16, b.toNat % 16 * 4 + c.toNat / 64,
    c.toNat % 64] ++
      sextets rest
  | [a, b] => [a.toNat / 4, a.toNat % 4 * 16 + b.toNat / 16, b.toNat % 16 * 4]
  | [a] => [a.toNat / 4, a.toNat % 4 * 16]
  | [] => []

/-- The bytes of groups of six bits. -/
def bytes : List Nat → List UInt8
  | w :: x :: y :: z :: rest =>
    [UInt8.ofNat (w * 4 + x / 16), UInt8.ofNat (x % 16 * 16 + y / 4), UInt8.ofNat (y % 4 * 64 + z)] ++ bytes rest
  | [w, x, y] => [UInt8.ofNat (w * 4 + x / 16), UInt8.ofNat (x % 16 * 16 + y / 4)]
  | [w, x] => [UInt8.ofNat (w * 4 + x / 16)]
  | _ => []

/-- One character for each group of six bits. -/
def encode (alphabet : List Char) (input : List UInt8) : List Char := (sextets input).map fun n => alphabet[n]?.getD '='

/-- The text filled up to whole groups of four characters. -/
def encodePadded (alphabet : List Char) (input : List UInt8) : List Char :=
  encode alphabet input ++ List.replicate (2 * input.length % 3) '='

def decode (alphabet text : List Char) : List UInt8 := bytes ((text.filter (· ≠ '=')).map (alphabet.idxOf ·))

theorem toNat_ofNat_eq {a : UInt8} (same : n = a.toNat) : UInt8.ofNat n = a := by
  rw [same, UInt8.ofNat_toNat]

theorem bytes_sextets (input : List UInt8) : bytes (sextets input) = input := by
  induction input using sextets.induct with
  | case1 a b c _ ih =>
    have b' := b.toNat_lt
    have c' := c.toNat_lt
    have first : UInt8.ofNat (a.toNat / 4 * 4 + (a.toNat % 4 * 16 + b.toNat / 16) / 16) = a := toNat_ofNat_eq (by omega)
    have second : UInt8.ofNat ((a.toNat % 4 * 16 + b.toNat / 16) % 16 * 16 + (b.toNat % 16 * 4 + c.toNat / 64) / 4) =
      b :=
      toNat_ofNat_eq (by omega)
    have third : UInt8.ofNat ((b.toNat % 16 * 4 + c.toNat / 64) % 4 * 64 + c.toNat % 64) = c :=
      toNat_ofNat_eq (by omega)
    simp only [sextets, List.cons_append, List.nil_append, bytes, first, second, third, ih]
  | case2 a b =>
    have b' := b.toNat_lt
    have first : UInt8.ofNat (a.toNat / 4 * 4 + (a.toNat % 4 * 16 + b.toNat / 16) / 16) = a := toNat_ofNat_eq (by omega)
    have second : UInt8.ofNat ((a.toNat % 4 * 16 + b.toNat / 16) % 16 * 16 + b.toNat % 16 * 4 / 4) = b :=
      toNat_ofNat_eq (by omega)
    simp only [sextets, bytes, first, second]
  | case3 a =>
    have first : UInt8.ofNat (a.toNat / 4 * 4 + a.toNat % 4 * 16 / 16) = a := toNat_ofNat_eq (by omega)
    simp only [sextets, bytes, first]
  | case4 => rfl

theorem sextet_lt : ∀ n ∈ sextets input, n < 64 := by
  induction input using sextets.induct with
  | case1 a b c _ ih =>
    have a' := a.toNat_lt
    have b' := b.toNat_lt
    have c' := c.toNat_lt
    intro n member
    simp only [sextets, List.cons_append, List.nil_append, List.mem_cons] at member
    rcases member with rfl | rfl | rfl | rfl | later
    · omega
    · omega
    · omega
    · omega
    · exact ih n later
  | case2 a b =>
    have a' := a.toNat_lt
    have b' := b.toNat_lt
    intro n member
    simp only [sextets, List.mem_cons, List.not_mem_nil, or_false] at member
    omega
  | case3 a =>
    have a' := a.toNat_lt
    intro n member
    simp only [sextets, List.mem_cons, List.not_mem_nil, or_false] at member
    omega
  | case4 => simp [sextets]

theorem length_sextets (input : List UInt8) : (sextets input).length = (4 * input.length + 2) / 3 := by
  induction input using sextets.induct with
  | case1 a b c _ ih =>
    simp only [sextets, List.cons_append, List.nil_append, List.length_cons, ih]
    omega
  | case2 | case3 => simp [sextets]
  | case4 => rfl

theorem length_encode (alphabet : List Char) (input : List UInt8) :
    (encode alphabet input).length = (4 * input.length + 2) / 3 := by
  rw [encode, List.length_map, length_sextets]

theorem length_encodePadded (alphabet : List Char) (input : List UInt8) :
    (encodePadded alphabet input).length = 4 * ((input.length + 2) / 3) := by
  rw [encodePadded, List.length_append, length_encode, List.length_replicate]
  have parts := Nat.div_add_mod input.length 3
  have rest := Nat.mod_lt input.length (show 0 < 3 by decide)
  generalize input.length / 3 = groups at parts
  rcases (by omega : input.length % 3 = 0 ∨ input.length % 3 = 1 ∨ input.length % 3 = 2) with none | one | two <;> omega

section
variable {alphabet : List Char} (whole : alphabet.length = 64)
include whole

theorem mem_alphabet (member : c ∈ encode alphabet input) : c ∈ alphabet := by
  obtain ⟨n, known, rfl⟩ := List.mem_map.mp member
  have small := sextet_lt n known
  rw [List.getElem?_eq_getElem (by omega), Option.getD_some]
  exact List.getElem_mem _

variable (plain : '=' ∉ alphabet) (distinct : alphabet.Nodup)
include plain distinct

theorem decode_encode (input : List UInt8) (padding : Nat) :
    decode alphabet (encode alphabet input ++ List.replicate padding '=') = input := by
  have kept : (encode alphabet input ++ List.replicate padding '=').filter (· ≠ '=') = encode alphabet input := by
    have filled : (encode alphabet input).filter (· ≠ '=') = encode alphabet input := by
      rw [List.filter_eq_self]
      intro c member
      have known := mem_alphabet whole member
      rw [decide_eq_true_eq]
      rintro rfl
      exact plain known
    rw [List.filter_append, filled, List.filter_eq_nil_iff.mpr, List.append_nil]
    intro c member
    simp [List.eq_of_mem_replicate member]
  have back : (encode alphabet input).map (alphabet.idxOf ·) = sextets input := by
    rw [encode, List.map_map]
    conv => rhs; rw [← List.map_id (sextets input)]
    apply List.map_congr_left
    intro n known
    have small := sextet_lt n known
    rw [Function.comp_apply, List.getElem?_eq_getElem (by omega), Option.getD_some]
    exact distinct.idxOf_getElem n (by omega)
  rw [decode, kept, back, bytes_sextets]

theorem encode_injective : Function.Injective (encode alphabet) := by
  intro a b same
  have left := decode_encode whole plain distinct a 0
  rw [same, decode_encode whole plain distinct b 0] at left
  exact left.symm

end

end Duskcue.Base64
