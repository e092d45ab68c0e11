import Mathlib.Algebra.Order.BigOperators.Group.List
import Mathlib.Algebra.Order.Ring.Nat
import Mathlib.Data.Finset.Card
import Mathlib.Data.List.AList

/-! Keyed tables. A table is a finite list of rows with pairwise distinct keys,
so a primary key cannot be held twice. The lemmas say what an insertion, an
overwrite and a deletion do to the row under a key and to the number of rows a
predicate selects; they name no particular schema. -/
namespace Duskcue

/-- Rows of type `ρ` under distinct keys of type `κ`. -/
structure Table (κ ρ : Type) where
  rows : AList fun _ : κ => ρ

namespace Table

variable {κ ρ : Type}

/-- A table without rows. -/
def empty : Table κ ρ := ⟨∅⟩

/-- `SELECT count(*) ... WHERE p`. -/
def count (t : Table κ ρ) (p : κ → ρ → Bool) : Nat :=
  t.rows.entries.countP fun entry => p entry.1 entry.2

/-- `SELECT sum(w) ...`. -/
def total (t : Table κ ρ) (w : κ → ρ → Nat) : Nat :=
  (t.rows.entries.map fun entry => w entry.1 entry.2).sum

/-- `EXISTS(SELECT 1 ... WHERE p)`. -/
def holds (t : Table κ ρ) (p : κ → ρ → Bool) : Bool :=
  t.rows.entries.any fun entry => p entry.1 entry.2

/-- `SELECT key ... WHERE p`, in storage order. -/
def select (t : Table κ ρ) (p : κ → ρ → Bool) : List κ :=
  (t.rows.entries.filter fun entry => p entry.1 entry.2).map Sigma.fst

/-- `SELECT * ...`, in storage order. -/
def records (t : Table κ ρ) : List ρ := t.rows.entries.map Sigma.snd

/-- Delete every row `p` selects. -/
def discard (t : Table κ ρ) (p : κ → ρ → Bool) : Table κ ρ where
  rows.entries := t.rows.entries.filter fun entry => !p entry.1 entry.2
  rows.nodupKeys := t.rows.nodupKeys.sublist List.filter_sublist

/-- Rewrite every row: `UPDATE ... SET` without a key. -/
def amend (t : Table κ ρ) (f : κ → ρ → ρ) : Table κ ρ where
  rows.entries := t.rows.entries.map fun entry => ⟨entry.1, f entry.1 entry.2⟩
  rows.nodupKeys := by
    have kept := t.rows.nodupKeys
    simp only [List.NodupKeys, List.keys, List.map_map] at kept ⊢
    exact kept

@[simp] theorem count_empty : (empty : Table κ ρ).count p = 0 := rfl

theorem count_eq_total (t : Table κ ρ) (p : κ → ρ → Bool) : t.count p = t.total fun k r => (p k r).toNat := by
  simp only [count, total]
  induction t.rows.entries with
  | nil => rfl
  | cons entry _ ih =>
    rw [List.countP_cons, List.map_cons, List.sum_cons, ih, Nat.add_comm]
    cases p entry.1 entry.2 <;> rfl

theorem total_zero (t : Table κ ρ) : (t.total fun _ _ => 0) = 0 := by
  simp [total]

theorem total_amend (t : Table κ ρ) (f : κ → ρ → ρ) (w : κ → ρ → Nat) :
    (t.amend f).total w = t.total fun k r => w k (f k r) := by
  simp [total, amend, Function.comp_def]

theorem total_discard_le (t : Table κ ρ) (p : κ → ρ → Bool) (w : κ → ρ → Nat) :
    (t.discard p).total w ≤ t.total w :=
  (List.Sublist.map _ List.filter_sublist).sum_le_sum fun _ _ => Nat.zero_le _

theorem select_nodup (t : Table κ ρ) (p : κ → ρ → Bool) : (t.select p).Nodup :=
  List.Nodup.sublist (List.filter_sublist.map Sigma.fst) t.rows.nodupKeys

variable [DecidableEq κ]

/-- The row under a key. -/
def find (t : Table κ ρ) (k : κ) : Option ρ := t.rows.lookup k

/-- Write the row under a key, replacing the one already there. -/
def put (t : Table κ ρ) (k : κ) (r : ρ) : Table κ ρ := ⟨t.rows.insert k r⟩

/-- Delete the row under a key. -/
def remove (t : Table κ ρ) (k : κ) : Table κ ρ := ⟨t.rows.erase k⟩

variable {t : Table κ ρ} {p q : κ → ρ → Bool} {k key : κ} {r old : ρ}

@[simp, grind =] theorem find_empty : (empty : Table κ ρ).find k = none := rfl

@[grind =] theorem find_put (t : Table κ ρ) (k key : κ) (r : ρ) :
    (t.put k r).find key = if key = k then some r else t.find key := by
  by_cases same : key = k
  · subst same
    simp [find, put]
  · simp [find, put, AList.lookup_insert_ne same, same]

@[simp] theorem find_put_self (t : Table κ ρ) (k : κ) (r : ρ) : (t.put k r).find k = some r := by
  simp [find_put]

theorem find_put_ne (other : key ≠ k) : (t.put k r).find key = t.find key := by
  simp [find_put, other]

@[grind =] theorem find_remove (t : Table κ ρ) (k key : κ) :
    (t.remove k).find key = if key = k then none else t.find key := by
  by_cases same : key = k
  · subst same
    simp [find, remove]
  · simp [find, remove, AList.lookup_erase_ne same, same]

theorem put_put (t : Table κ ρ) (k : κ) (r r' : ρ) : (t.put k r).put k r' = t.put k r' := by
  simp [put]

theorem remove_put (t : Table κ ρ) (k : κ) (r : ρ) : (t.put k r).remove k = t.remove k := by
  have rows : (t.rows.insert k r).erase k = t.rows.erase k :=
    AList.ext (List.kerase_cons_eq rfl)
  simp [remove, put, rows]

private theorem mem_entries :
    (⟨k, r⟩ : Sigma fun _ : κ => ρ) ∈ t.rows.entries ↔ t.find k = some r :=
  AList.mem_lookup_iff.symm

theorem holds_iff : t.holds p = true ↔ ∃ k r, t.find k = some r ∧ p k r = true := by
  simp only [holds, List.any_eq_true]
  constructor
  · rintro ⟨⟨k, r⟩, member, chosen⟩
    exact ⟨k, r, mem_entries.mp member, chosen⟩
  · rintro ⟨k, r, found, chosen⟩
    exact ⟨⟨k, r⟩, mem_entries.mpr found, chosen⟩

/-- What holds of the row put, and of every row before, holds of every row after. -/
theorem forall_put {P : κ → ρ → Prop} (own : P k r) (others : ∀ key row, t.find key = some row → P key row)
    (key : κ) (row : ρ) (found : (t.put k r).find key = some row) : P key row := by
  rw [find_put] at found
  split at found
  · rename_i same
    cases found
    exact same ▸ own
  · exact others key row found

theorem find_of_remove (found : (t.remove k).find key = some r) : t.find key = some r := by
  rw [find_remove] at found
  split at found
  · cases found
  · exact found

theorem holds_eq_false : t.holds p = false ↔ ∀ k r, t.find k = some r → p k r = false := by
  rw [← Bool.not_eq_true, holds_iff]
  simp only [not_exists, not_and, Bool.not_eq_true]

theorem mem_select : k ∈ t.select p ↔ ∃ r, t.find k = some r ∧ p k r = true := by
  simp only [select, List.mem_map, List.mem_filter]
  constructor
  · rintro ⟨⟨k, r⟩, ⟨member, chosen⟩, rfl⟩
    exact ⟨r, mem_entries.mp member, chosen⟩
  · rintro ⟨r, found, chosen⟩
    exact ⟨⟨k, r⟩, ⟨mem_entries.mpr found, chosen⟩, rfl⟩

theorem mem_records : r ∈ t.records ↔ ∃ k, t.find k = some r := by
  simp only [records, List.mem_map]
  constructor
  · rintro ⟨⟨k, row⟩, member, rfl⟩
    exact ⟨k, mem_entries.mp member⟩
  · rintro ⟨k, found⟩
    exact ⟨⟨k, r⟩, mem_entries.mpr found, rfl⟩

@[grind =] theorem find_discard : (t.discard p).find k = some r ↔ t.find k = some r ∧ p k r = false := by
  rw [← mem_entries, ← mem_entries]
  simp [discard]

theorem find_amend (t : Table κ ρ) (f : κ → ρ → ρ) (k : κ) : (t.amend f).find k = (t.find k).map (f k) := by
  ext r
  rw [← mem_entries, Option.map_eq_some_iff]
  simp only [amend, List.mem_map]
  constructor
  · rintro ⟨⟨key, old⟩, member, same⟩
    cases same
    exact ⟨old, mem_entries.mp member, rfl⟩
  · rintro ⟨old, found, rfl⟩
    exact ⟨⟨k, old⟩, mem_entries.mpr found, rfl⟩

/-- A row that may or may not be written. -/
@[grind =] theorem find_elim_put (t : Table κ ρ) (k key : κ) (row : Option ρ) :
    (row.elim t (t.put k)).find key = if key = k then row <|> t.find k else t.find key := by
  cases row with
  | none =>
    by_cases same : key = k <;> simp [same]
  | some => simp [find_put]

/-! ## Sums and counts -/

section
variable {w v : κ → ρ → Nat}

theorem remove_of_absent (absent : t.find k = none) : t.remove k = t := by
  have rows : t.rows.erase k = t.rows :=
    AList.ext (List.kerase_of_notMem_keys (AList.lookup_eq_none.mp absent))
  simp [remove, rows]

/-- A written row weighs in once, beside the rows under every other key. -/
theorem total_put (t : Table κ ρ) (k : κ) (r : ρ) (w : κ → ρ → Nat) :
    (t.put k r).total w = (t.remove k).total w + w k r := by
  have entries : (t.put k r).rows.entries = ⟨k, r⟩ :: (t.remove k).rows.entries := rfl
  simp only [total, entries, List.map_cons, List.sum_cons]
  omega

theorem total_split (found : t.find k = some old) : t.total w = (t.remove k).total w + w k old := by
  obtain ⟨value, front, back, absent, shape, rest⟩ :=
    List.exists_of_kerase (List.mem_map_of_mem (f := Sigma.fst) (mem_entries.mpr found))
  have same : value = old := by
    have member : (⟨k, value⟩ : Sigma fun _ : κ => ρ) ∈ t.rows.entries := by simp [shape]
    rw [mem_entries, found] at member
    exact (Option.some.inj member).symm
  subst same
  have erased : (t.remove k).rows.entries = front ++ back := rest
  simp only [total, erased, shape, List.map_append, List.map_cons, List.sum_append, List.sum_cons]
  omega

theorem total_remove_le (t : Table κ ρ) (k : κ) (w : κ → ρ → Nat) : (t.remove k).total w ≤ t.total w := by
  cases found : t.find k with
  | none => rw [remove_of_absent found]
  | some =>
    rw [total_split found]
    exact Nat.le_add_right _ _

theorem total_mono (le : ∀ k r, t.find k = some r → w k r ≤ v k r) : t.total w ≤ t.total v := by
  apply List.sum_le_sum
  rintro ⟨k, r⟩ member
  exact le k r (mem_entries.mp member)

end

/-- A row under a key is counted once, beside the rows under every other key. -/
theorem count_split (found : t.find k = some old) : t.count p = (t.remove k).count p + (p k old).toNat := by
  simp only [count_eq_total, total_split found]

private theorem count_put (t : Table κ ρ) (k : κ) (r : ρ) (p : κ → ρ → Bool) :
    (t.put k r).count p = (t.remove k).count p + (p k r).toNat := by
  simp only [count_eq_total, total_put]

theorem count_put_new (absent : t.find k = none) : (t.put k r).count p = t.count p + (p k r).toNat := by
  rw [count_put, remove_of_absent absent]

theorem count_overwrite (found : t.find k = some old) :
    (t.put k r).count p + (p k old).toNat = t.count p + (p k r).toNat := by
  rw [count_put, count_split found]
  omega

theorem count_put_le (found : t.find k = some old) (le : p k r = true → p k old = true) :
    (t.put k r).count p ≤ t.count p := by
  have overwritten := count_overwrite (r := r) (p := p) found
  have fewer : (p k r).toNat ≤ (p k old).toNat := by
    cases chosen : p k r with
    | false => exact Nat.zero_le _
    | true => simp [le chosen]
  omega

theorem count_remove_le (t : Table κ ρ) (k : κ) (p : κ → ρ → Bool) : (t.remove k).count p ≤ t.count p := by
  simp only [count_eq_total]
  exact total_remove_le ..

theorem count_mono (le : ∀ k r, t.find k = some r → p k r = true → q k r = true) : t.count p ≤ t.count q := by
  apply List.countP_mono_left
  rintro ⟨k, r⟩ member chosen
  exact le k r (mem_entries.mp member) chosen

theorem count_congr (same : ∀ k r, t.find k = some r → p k r = q k r) : t.count p = t.count q :=
  le_antisymm (count_mono fun k r found chosen => same k r found ▸ chosen)
    (count_mono fun k r found chosen => (same k r found).symm ▸ chosen)

theorem count_differ_at (found : t.find k = some old)
    (same : ∀ key r, key ≠ k → t.find key = some r → p key r = q key r) :
    t.count p + (q k old).toNat = t.count q + (p k old).toNat := by
  have rest : (t.remove k).count p = (t.remove k).count q := by
    apply count_congr
    intro key r held
    rw [find_remove] at held
    split at held
    · cases held
    · rename_i other
      exact same key r other held
  rw [count_split found, count_split (p := q) found, rest]
  omega

/-- Leaving one key out of the count lowers it by one at most. -/
theorem count_le_except (t : Table κ ρ) (k : κ) (p : κ → ρ → Bool) :
    t.count p ≤ t.count (fun key r => decide (key ≠ k) && p key r) + 1 := by
  cases found : t.find k with
  | none =>
    refine Nat.le_add_right_of_le (count_mono fun key r held chosen => ?_)
    have other : key ≠ k := by
      rintro rfl
      cases found.symm.trans held
    simp [other, chosen]
  | some old =>
    have differ := count_differ_at (p := p) (q := fun key r => decide (key ≠ k) && p key r) found
      fun key r other _ => by simp [other]
    have one : (p k old).toNat ≤ 1 := Bool.toNat_le _
    omega

theorem count_eq_zero (none : ∀ k r, t.find k = some r → p k r = false) : t.count p = 0 := by
  rw [count, List.countP_eq_zero]
  rintro ⟨k, r⟩ member
  simp [none k r (mem_entries.mp member)]

/-! ## Unused keys -/

/-- A number that is the key of no row. -/
def unused (t : Table Nat ρ) : Nat := t.rows.keys.foldr max 0 + 1

theorem find_unused (t : Table Nat ρ) : t.find t.unused = none := by
  have below : ∀ keys : List Nat, ∀ key ∈ keys, key ≤ keys.foldr max 0 := by
    intro keys
    induction keys with
    | nil => simp
    | cons _ _ ih =>
      intro key member
      rw [List.foldr_cons]
      rcases List.mem_cons.mp member with rfl | member
      · exact le_max_left _ _
      · exact (ih key member).trans (le_max_right _ _)
  apply AList.lookup_eq_none.mpr
  intro member
  have bound := below t.rows.keys t.unused member
  unfold unused at bound
  omega

/-! ## Key sets -/

/-- The keys of the rows `p` selects. -/
def keys (t : Table κ ρ) (p : κ → ρ → Bool) : Finset κ := (t.select p).toFinset

@[simp] theorem keys_empty : (empty : Table κ ρ).keys p = ∅ := rfl

@[grind =] theorem mem_keys : k ∈ t.keys p ↔ ∃ r, t.find k = some r ∧ p k r = true := by
  rw [keys, List.mem_toFinset, mem_select]

end Table
end Duskcue
