import Mathlib.Data.Finset.Sort

/-! The `k` largest members of a finite set. Once a member is not among them, no
larger set has it among its own, so the `k` largest of a growing set can be kept by
keeping nothing else. -/
namespace Duskcue

variable {α : Type} [LinearOrder α] {k : Nat} {a x : α} {A B s : Finset α}

/-- The members that fewer than `k` are larger than. -/
def largest (k : Nat) (A : Finset α) : Finset α := A.filter fun x => (A.filter (x < ·)).card < k

theorem mem_largest : x ∈ largest k A ↔ x ∈ A ∧ (A.filter (x < ·)).card < k := Finset.mem_filter

theorem largest_subset : largest k A ⊆ A := Finset.filter_subset _ _

@[simp] theorem largest_empty : largest k (∅ : Finset α) = ∅ := rfl

theorem largest_of_card_le (few : A.card ≤ k) : largest k A = A := by
  refine Finset.filter_true_of_mem fun x member => ?_
  have fewer : A.filter (x < ·) ⊂ A :=
    Finset.filter_ssubset.mpr ⟨x, member, lt_irrefl x⟩
  exact lt_of_lt_of_le (Finset.card_lt_card fewer) few

/-- A member below all others is among the `k` largest of fewer than `k` others only. -/
theorem largest_insert_least (below : ∀ y ∈ s, a < y) :
    largest k (insert a s) = if s.card < k then insert a s else largest k s := by
  have new : a ∉ s := fun member => lt_irrefl a (below a member)
  split
  case isTrue few =>
    apply largest_of_card_le
    rw [Finset.card_insert_of_notMem new]
    omega
  case isFalse many =>
    have least : (insert a s).filter (a < ·) = s := by
      rw [Finset.filter_insert, if_neg (lt_irrefl a)]
      exact Finset.filter_true_of_mem below
    ext x
    rw [mem_largest, mem_largest, Finset.mem_insert]
    constructor
    · rintro ⟨rfl | member, few⟩
      · rw [least] at few
        exact absurd few many
      · rw [Finset.filter_insert, if_neg (below x member).asymm] at few
        exact ⟨member, few⟩
    · rintro ⟨member, few⟩
      rw [Finset.filter_insert, if_neg (below x member).asymm]
      exact ⟨.inr member, few⟩

theorem card_largest (k : Nat) (A : Finset α) : (largest k A).card = min k A.card := by
  induction A using Finset.induction_on_min with
  | empty => simp
  | insert a s below ih =>
    have new : a ∉ s := fun member => lt_irrefl a (below a member)
    rw [largest_insert_least below, Finset.card_insert_of_notMem new]
    split
    · rw [Finset.card_insert_of_notMem new]
      omega
    · rw [ih]
      omega

/-- A member that is not among the `k` largest has `k` of them above it. -/
theorem le_card_above (member : x ∈ A) (out : x ∉ largest k A) : k ≤ ((largest k A).filter (x < ·)).card := by
  have above : (largest k A).filter (x < ·) = largest k (A.filter (x < ·)) := by
    ext y
    rw [Finset.mem_filter, mem_largest, mem_largest, Finset.mem_filter, Finset.filter_filter]
    constructor
    · rintro ⟨⟨there, few⟩, higher⟩
      refine ⟨⟨there, higher⟩, lt_of_le_of_lt (Finset.card_le_card ?_) few⟩
      exact Finset.monotone_filter_right A fun z _ both => both.2
    · rintro ⟨⟨there, higher⟩, few⟩
      refine ⟨⟨there, lt_of_le_of_lt (Finset.card_le_card ?_) few⟩, higher⟩
      exact Finset.monotone_filter_right A fun z _ larger => ⟨higher.trans larger, larger⟩
  have many : k ≤ (A.filter (x < ·)).card := by
    by_contra few
    exact out (mem_largest.mpr ⟨member, not_le.mp few⟩)
  rw [above, card_largest]
  omega

theorem largest_union : largest k (largest k A ∪ B) = largest k (A ∪ B) := by
  have above (x : α) : ((largest k A ∪ B).filter (x < ·)).card < k ↔ ((A ∪ B).filter (x < ·)).card < k := by
    constructor
    · intro few
      by_contra many
      by_cases whole : ∀ y ∈ A, x < y → y ∈ largest k A
      · apply many
        refine lt_of_le_of_lt (Finset.card_le_card fun y => ?_) few
        simp only [Finset.mem_filter, Finset.mem_union]
        rintro ⟨inA | inB, higher⟩
        · exact ⟨.inl (whole y inA higher), higher⟩
        · exact ⟨.inr inB, higher⟩
      · push Not at whole
        obtain ⟨y, member, higher, out⟩ := whole
        have enough : k ≤ ((largest k A ∪ B).filter (x < ·)).card := by
          refine (le_card_above member out).trans (Finset.card_le_card fun z => ?_)
          simp only [Finset.mem_filter, Finset.mem_union]
          exact fun ⟨there, larger⟩ => ⟨.inl there, higher.trans larger⟩
        exact absurd few (not_lt.mpr enough)
    · refine fun few => lt_of_le_of_lt (Finset.card_le_card ?_) few
      exact Finset.filter_subset_filter _ (Finset.union_subset_union_left largest_subset)
  ext x
  rw [mem_largest, mem_largest, above, Finset.mem_union, Finset.mem_union]
  constructor
  · rintro ⟨inA | inB, few⟩
    · exact ⟨.inl (largest_subset inA), few⟩
    · exact ⟨.inr inB, few⟩
  · rintro ⟨inA | inB, few⟩
    · refine ⟨.inl (mem_largest.mpr ⟨inA, lt_of_le_of_lt (Finset.card_le_card ?_) few⟩), few⟩
      exact Finset.filter_subset_filter _ Finset.subset_union_left
    · exact ⟨.inr inB, few⟩

theorem largest_largest : largest k (largest k A) = largest k A := by
  simpa using largest_union (k := k) (A := A) (B := ∅)

/-- The members in ascending order, by a sort that evaluates. -/
def ascending (A : Finset α) : List α :=
  Quot.liftOn A.val (List.insertionSort (· ≤ ·)) fun _ _ same =>
    ((List.perm_insertionSort _ _).trans (same.trans (List.perm_insertionSort _ _).symm)).eq_of_pairwise'
      (List.pairwise_insertionSort _ _) (List.pairwise_insertionSort _ _)

theorem ascending_eq_sort (A : Finset α) : ascending A = A.sort := by
  obtain ⟨members, distinct⟩ := A
  induction members using Quotient.inductionOn with
  | h members => exact (List.mergeSort_eq_insertionSort (· ≤ ·) members).symm

/-- The end of the members in ascending order. -/
theorem toFinset_drop_sort (k : Nat) (A : Finset α) : (A.sort.drop (A.card - k)).toFinset = largest k A := by
  induction A using Finset.induction_on_min with
  | empty => simp
  | insert a s below ih =>
    have new : a ∉ s := fun member => lt_irrefl a (below a member)
    rw [Finset.sort_insert (· ≤ ·) (fun y there => (below y there).le) new, largest_insert_least below,
      Finset.card_insert_of_notMem new]
    split
    case isTrue few =>
      rw [Nat.sub_eq_zero_of_le few, List.drop_zero, List.toFinset_cons, Finset.sort_toFinset]
    case isFalse many =>
      rw [Nat.succ_sub (not_lt.mp many), List.drop_succ_cons, ih]

end Duskcue
