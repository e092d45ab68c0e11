import Duskcue.Document
import Mathlib.Data.String.Basic

/-! JSON values up to the order of the members of their objects. `Reordered` is that
equality, and `sorted` the one form every value has under it: each object by key, at
every depth. Two values with distinct keys are reorderings of each other exactly when
their sorted forms are equal. -/
namespace Duskcue

/-! ## Entries by key -/

namespace Entries

variable {α β : Type}

/-- The keys of a list of entries are distinct. -/
def Distinct (entries : List (String × α)) : Prop := (entries.map (·.1)).Nodup

instance (entries : List (String × α)) : Decidable (Distinct entries) :=
  inferInstanceAs (Decidable (entries.map (·.1)).Nodup)

/-- `BTreeMap::insert`. -/
def insert (key : String) (value : α) : List (String × α) → List (String × α)
  | [] => [(key, value)]
  | (k, v) :: rest =>
    if key < k then (key, value) :: (k, v) :: rest
    else if key = k then (key, value) :: rest
    else (k, v) :: insert key value rest

/-- The entries inserted one after the other. -/
def collect (ordered entries : List (String × α)) : List (String × α) :=
  entries.foldl (fun held entry => insert entry.1 entry.2 held) ordered

def Ascending (entries : List (String × α)) : Prop := entries.Pairwise fun a b => a.1 < b.1

theorem Distinct.of_perm (distinct : Distinct entries) (same : entries.Perm others) : Distinct others :=
  (same.map _).nodup_iff.mp distinct

theorem insert_perm {entries : List (String × α)} (new : key ∉ entries.map (·.1)) :
    (insert key value entries).Perm ((key, value) :: entries) := by
  induction entries with
  | nil => exact .refl _
  | cons entry _ ih =>
    obtain ⟨k, v⟩ := entry
    simp only [List.map_cons, List.mem_cons, not_or] at new
    unfold insert
    split
    · exact .refl _
    · rw [if_neg new.1]
      exact ((ih new.2).cons _).trans (.swap ..)

theorem mem_keys_insert {value : α}
    (member : k ∈ (insert key value entries).map (·.1)) : k = key ∨ k ∈ entries.map (·.1) := by
  induction entries with
  | nil => simpa [insert] using member
  | cons entry _ ih =>
    obtain ⟨k', v⟩ := entry
    unfold insert at member
    split at member
    · simpa using member
    · split at member
      · simp only [List.map_cons, List.mem_cons] at member ⊢
        exact member.imp_right .inr
      · simp only [List.map_cons, List.mem_cons] at member ⊢
        rcases member with here | later
        · exact .inr (.inl here)
        · exact (ih later).imp_right .inr

theorem insert_ascending {value : α} (ascending : Ascending entries) :
    Ascending (insert key value entries) := by
  induction entries with
  | nil => exact List.pairwise_singleton ..
  | cons entry rest ih =>
    obtain ⟨k, v⟩ := entry
    obtain ⟨first, others⟩ := List.pairwise_cons.mp ascending
    unfold insert
    split
    · rename_i less
      refine List.pairwise_cons.mpr ⟨fun entry member => ?_, ascending⟩
      rcases List.mem_cons.mp member with rfl | later
      · exact less
      · exact less.trans (first entry later)
    · rename_i notLess
      split
      · rename_i same
        subst same
        exact List.pairwise_cons.mpr ⟨first, others⟩
      · rename_i apart
        refine List.pairwise_cons.mpr ⟨fun entry member => ?_, ih others⟩
        have key_lt : k < key := lt_of_le_of_ne (not_lt.mp notLess) (Ne.symm apart)
        rcases mem_keys_insert (List.mem_map_of_mem member) with same | older
        · exact same ▸ key_lt
        · obtain ⟨old, listed, same⟩ := List.mem_map.mp older
          exact same ▸ first old listed

theorem collect_ascending (ascending : Ascending ordered) (entries : List (String × α)) :
    Ascending (collect ordered entries) := by
  induction entries generalizing ordered with
  | nil => exact ascending
  | cons _ _ ih => exact ih (insert_ascending ascending)

theorem collect_perm {ordered entries : List (String × α)} (distinct : Distinct (ordered ++ entries)) :
    (collect ordered entries).Perm (ordered ++ entries) := by
  induction entries generalizing ordered with
  | nil => simp [collect]
  | cons entry rest ih =>
    have moved : (ordered ++ entry :: rest).Perm ((entry :: ordered) ++ rest) := List.perm_middle
    have apart := distinct.of_perm moved
    have new : entry.1 ∉ ordered.map (·.1) := by
      simp only [Distinct, List.cons_append, List.map_cons, List.map_append, List.nodup_cons, List.mem_append,
        not_or] at apart
      exact apart.1.1
    have placed : (insert entry.1 entry.2 ordered).Perm (entry :: ordered) := insert_perm new
    exact (ih (apart.of_perm (placed.symm.append_right rest))).trans ((placed.append_right rest).trans moved.symm)

/-- Entries in ascending order are determined by what they hold. -/
theorem Ascending.eq_of_perm (ascending : Ascending entries)
    (ordered : Ascending others) (same : entries.Perm others) : entries = others := by
  refine List.Perm.eq_of_pairwise ?_ ascending ordered same
  intro a b _ _ less more
  exact absurd (lt_trans less more) (lt_irrefl _)

theorem collect_nil_perm (distinct : Distinct entries) : (collect [] entries).Perm entries :=
  @collect_perm _ [] entries distinct

theorem collect_congr (distinct : Distinct entries) (same : entries.Perm others) :
    collect [] entries = collect [] others := by
  refine (collect_ascending .nil _).eq_of_perm (collect_ascending .nil _) ?_
  exact (collect_nil_perm distinct).trans (same.trans (collect_nil_perm (distinct.of_perm same)).symm)

theorem lookup_cons_eq (k key : String) (value : α) (rest : List (String × α)) :
    ((key, value) :: rest).lookup k = if k = key then some value else rest.lookup k := by
  rw [List.lookup_cons]
  by_cases same : k = key
  · subst same
    simp
  · rw [beq_false_of_ne same, if_neg same]

theorem lookup_insert (key : String) (value : α) (entries : List (String × α)) :
    (insert key value entries).lookup key = some value := by
  induction entries with
  | nil => simp [insert]
  | cons entry rest ih =>
    obtain ⟨k, v⟩ := entry
    unfold insert
    split
    · rw [lookup_cons_eq, if_pos rfl]
    · split
      · rw [lookup_cons_eq, if_pos rfl]
      · rename_i apart
        rw [lookup_cons_eq, if_neg apart, ih]

theorem mem_keys_iff {entries : List (String × α)} : key ∈ entries.map (·.1) ↔ (entries.lookup key).isSome := by
  rw [List.lookup_isSome_iff, List.mem_map]
  simp only [beq_iff_eq]
  exact exists_congr fun entry => and_congr_right fun _ => eq_comm

theorem lookup_eq_some_iff (distinct : Distinct entries) :
    entries.lookup key = some value ↔ (key, value) ∈ entries := by
  induction entries with
  | nil => simp
  | cons entry rest ih =>
    obtain ⟨k, v⟩ := entry
    simp only [Distinct, List.map_cons, List.nodup_cons] at distinct
    rw [lookup_cons_eq, List.mem_cons, Prod.mk.injEq]
    by_cases same : key = k
    · subst same
      have absent : (key, value) ∉ rest := fun member => distinct.1 (List.mem_map_of_mem member)
      simp [absent, eq_comm]
    · rw [if_neg same, ih distinct.2]
      simp [same]

theorem lookup_perm (distinct : Distinct entries) (same : entries.Perm others)
    (key : String) : entries.lookup key = others.lookup key := by
  refine Option.ext fun value => ?_
  rw [lookup_eq_some_iff distinct, lookup_eq_some_iff (distinct.of_perm same), same.mem_iff]

/-- Entries with distinct keys are determined, up to their order, by what they hold under each key. -/
theorem perm_of_lookup (distinct : Distinct entries) (apart : Distinct others)
    (same : ∀ key, entries.lookup key = others.lookup key) : entries.Perm others := by
  refine (List.perm_ext_iff_of_nodup distinct.of_map apart.of_map).mpr fun entry => ?_
  obtain ⟨key, value⟩ := entry
  rw [← lookup_eq_some_iff distinct, ← lookup_eq_some_iff apart, same]

theorem lookup_map (change : α → β) (entries : List (String × α)) (key : String) :
    (entries.map fun entry => (entry.1, change entry.2)).lookup key = (entries.lookup key).map change := by
  induction entries with
  | nil => rfl
  | cons entry _ ih =>
    rw [List.map_cons, List.lookup_cons, List.lookup_cons, ih]
    cases key == entry.1 <;> rfl

theorem distinct_map (change : α → β) {entries : List (String × α)} :
    Distinct (entries.map fun entry => (entry.1, change entry.2)) ↔ Distinct entries := by
  unfold Distinct
  rw [List.map_map]
  rfl

end Entries

namespace Json

variable {ν : Type}

/-! ## Values -/

/-- Induction over a value, with a hypothesis for each item and for each member. -/
@[elab_as_elim]
theorem induct {motive : Json ν → Prop} (value : Json ν) (null : motive .null) (bool : ∀ b, motive (.bool b))
    (integer : ∀ n, motive (.integer n)) (fraction : ∀ x, motive (.fraction x)) (text : ∀ s, motive (.text s))
    (list : ∀ items, (∀ item ∈ items, motive item) → motive (.list items))
    (object : ∀ fields, (∀ field ∈ fields, motive field.2) → motive (.object fields)) : motive value := by
  refine @Json.rec ν motive (fun items => ∀ item ∈ items, motive item) (fun fields => ∀ field ∈ fields, motive field.2)
    (fun field => motive field.2) null bool integer fraction text list object ?_ ?_ ?_ ?_ ?_ value
  · simp
  · intro item rest first others
    exact List.forall_mem_cons.mpr ⟨first, others⟩
  · simp
  · intro field rest first others
    exact List.forall_mem_cons.mpr ⟨first, others⟩
  · exact fun _ _ value => value

/-- No object repeats a key. -/
inductive Distinct : Json ν → Prop
  | null : Distinct .null
  | bool (b : Bool) : Distinct (.bool b)
  | integer (n : Int) : Distinct (.integer n)
  | fraction (x : ν) : Distinct (.fraction x)
  | text (s : String) : Distinct (.text s)
  | list (each : ∀ item ∈ items, Distinct item) : Distinct (.list items)
  | object (keys : Entries.Distinct fields)
      (each : ∀ field ∈ fields, Distinct field.2) : Distinct (.object fields)

/-- Equal up to the order of the members of an object, at every depth. -/
inductive Reordered : Json ν → Json ν → Prop
  | refl (a : Json ν) : Reordered a a
  | symm (same : Reordered a b) : Reordered b a
  | trans (first : Reordered a b) (second : Reordered b c) : Reordered a c
  | members (same : fields.Perm others) :
      Reordered (.object fields) (.object others)
  | member {a b : Json ν} (before after : List (String × Json ν)) (key : String) (same : Reordered a b) :
      Reordered (.object (before ++ (key, a) :: after)) (.object (before ++ (key, b) :: after))
  | item {a b : Json ν} (before after : List (Json ν)) (same : Reordered a b) :
      Reordered (.list (before ++ a :: after)) (.list (before ++ b :: after))

mutual
/-- Every object by key. -/
def sorted : Json ν → Json ν
  | .object fields => .object (Entries.collect [] (sortedMembers fields))
  | .list items => .list (sortedItems items)
  | value => value

def sortedItems : List (Json ν) → List (Json ν)
  | [] => []
  | item :: rest => sorted item :: sortedItems rest

def sortedMembers : List (String × Json ν) → List (String × Json ν)
  | [] => []
  | (key, value) :: rest => (key, sorted value) :: sortedMembers rest
end

mutual
/-- The number of values in a value, itself among them. -/
def size : Json ν → Nat
  | .object fields => sizeMembers fields + 1
  | .list items => sizeItems items + 1
  | _ => 1

def sizeItems : List (Json ν) → Nat
  | [] => 0
  | item :: rest => size item + sizeItems rest

def sizeMembers : List (String × Json ν) → Nat
  | [] => 0
  | (_, value) :: rest => size value + sizeMembers rest
end

mutual
/-- How far below the value the values inside it are. -/
def height : Json ν → Nat
  | .object fields => heightMembers fields
  | .list items => heightItems items
  | _ => 0

def heightItems : List (Json ν) → Nat
  | [] => 0
  | item :: rest => max (height item + 1) (heightItems rest)

def heightMembers : List (String × Json ν) → Nat
  | [] => 0
  | (_, value) :: rest => max (height value + 1) (heightMembers rest)
end

theorem sortedItems_eq (items : List (Json ν)) : sortedItems items = items.map sorted := by
  induction items with
  | nil => simp only [sortedItems, List.map_nil]
  | cons _ _ ih => simp only [sortedItems, ih, List.map_cons]

theorem sortedMembers_eq (fields : List (String × Json ν)) :
    sortedMembers fields = fields.map fun field => (field.1, sorted field.2) := by
  induction fields with
  | nil => simp only [sortedMembers, List.map_nil]
  | cons _ _ ih => simp only [sortedMembers, ih, List.map_cons]

theorem sorted_list (items : List (Json ν)) : sorted (.list items) = .list (items.map sorted) := by
  rw [sorted, sortedItems_eq]

theorem sorted_object (fields : List (String × Json ν)) :
    sorted (.object fields) = .object (Entries.collect [] (fields.map fun field => (field.1, sorted field.2))) := by
  rw [sorted, sortedMembers_eq]

theorem sizeItems_eq (items : List (Json ν)) : sizeItems items = (items.map size).sum := by
  induction items with
  | nil => simp only [sizeItems, List.map_nil, List.sum_nil]
  | cons _ _ ih => simp only [sizeItems, ih, List.map_cons, List.sum_cons]

theorem sizeMembers_eq (fields : List (String × Json ν)) :
    sizeMembers fields = (fields.map fun field => size field.2).sum := by
  induction fields with
  | nil => simp only [sizeMembers, List.map_nil, List.sum_nil]
  | cons _ _ ih => simp only [sizeMembers, ih, List.map_cons, List.sum_cons]

theorem heightItems_le : heightItems items ≤ depth ↔ ∀ item ∈ items, height item + 1 ≤ depth := by
  induction items with
  | nil => simp [heightItems]
  | cons _ _ ih => rw [heightItems, Nat.max_le, ih, List.forall_mem_cons]

theorem heightMembers_le : heightMembers fields ≤ depth ↔ ∀ field ∈ fields, height field.2 + 1 ≤ depth := by
  induction fields with
  | nil => simp [heightMembers]
  | cons _ _ ih => rw [heightMembers, Nat.max_le, ih, List.forall_mem_cons]

/-! ## What an order does not change -/

section
variable {a b : Json ν}

theorem Reordered.size_eq (same : Reordered a b) : size a = size b := by
  induction same with
  | refl => rfl
  | symm _ ih => exact ih.symm
  | trans _ _ ih₁ ih₂ => exact ih₁.trans ih₂
  | members same =>
    rw [size, size, sizeMembers_eq, sizeMembers_eq, (same.map _).sum_eq]
  | member _ _ _ _ ih =>
    rw [size, size, sizeMembers_eq, sizeMembers_eq]
    simp only [List.map_append, List.map_cons, ih]
  | item _ _ _ ih =>
    rw [size, size, sizeItems_eq, sizeItems_eq]
    simp only [List.map_append, List.map_cons, ih]

theorem Reordered.height_eq (same : Reordered a b) : height a = height b := by
  induction same with
  | refl => rfl
  | symm _ ih => exact ih.symm
  | trans _ _ ih₁ ih₂ => exact ih₁.trans ih₂
  | members same =>
    refine eq_of_forall_ge_iff fun depth => ?_
    rw [height, height, heightMembers_le, heightMembers_le]
    simp only [same.mem_iff]
  | member _ _ _ _ ih =>
    refine eq_of_forall_ge_iff fun depth => ?_
    rw [height, height, heightMembers_le, heightMembers_le]
    simp only [List.forall_mem_append, List.forall_mem_cons, ih]
  | item _ _ _ ih =>
    refine eq_of_forall_ge_iff fun depth => ?_
    rw [height, height, heightItems_le, heightItems_le]
    simp only [List.forall_mem_append, List.forall_mem_cons, ih]

theorem distinct_list : Distinct (.list items) ↔ ∀ item ∈ items, Distinct item := by
  constructor
  · intro distinct
    cases distinct
    assumption
  · exact .list

theorem distinct_object :
    Distinct (.object fields) ↔ Entries.Distinct fields ∧ ∀ field ∈ fields, Distinct field.2 := by
  constructor
  · intro distinct
    cases distinct
    constructor <;> assumption
  · rintro ⟨keys, each⟩
    exact .object keys each

theorem Reordered.distinct_iff (same : Reordered a b) : Distinct a ↔ Distinct b := by
  induction same with
  | refl => rfl
  | symm _ ih => exact ih.symm
  | trans _ _ ih₁ ih₂ => exact ih₁.trans ih₂
  | members same =>
    rw [distinct_object, distinct_object]
    refine and_congr ⟨fun keys => keys.of_perm same, fun keys => keys.of_perm same.symm⟩ ?_
    simp only [same.mem_iff]
  | member _ _ _ _ ih =>
    rw [distinct_object, distinct_object]
    simp only [Entries.Distinct, List.map_append, List.map_cons, List.forall_mem_append, List.forall_mem_cons, ih]
  | item _ _ _ ih =>
    rw [distinct_list, distinct_list]
    simp only [List.forall_mem_append, List.forall_mem_cons, ih]

theorem Reordered.sorted_eq (same : Reordered a b) (distinct : Distinct a) : sorted a = sorted b := by
  induction same with
  | refl => rfl
  | symm same ih => exact (ih (same.distinct_iff.mpr distinct)).symm
  | trans first _ ih₁ ih₂ => exact (ih₁ distinct).trans (ih₂ (first.distinct_iff.mp distinct))
  | members same =>
    obtain ⟨keys, -⟩ := distinct_object.mp distinct
    rw [sorted_object, sorted_object, Entries.collect_congr ((Entries.distinct_map _).mpr keys) (same.map _)]
  | @member a b _ _ key _ ih =>
    have own : Distinct a := (distinct_object.mp distinct).2 (key, a) (by simp)
    rw [sorted_object, sorted_object]
    simp only [List.map_append, List.map_cons, ih own]
  | @item a b _ _ _ ih =>
    have own : Distinct a := distinct_list.mp distinct a (by simp)
    rw [sorted_list, sorted_list]
    simp only [List.map_append, List.map_cons, ih own]

end

/-! ## The sorted form -/

/-- Each member may change to a reordering of itself, those before the first one staying. -/
theorem Reordered.each_member (change : Json ν → Json ν) (before fields : List (String × Json ν))
    (each : ∀ field ∈ fields, Reordered field.2 (change field.2)) :
    Reordered (.object (before ++ fields)) (.object (before ++ fields.map fun field => (field.1, change field.2))) := by
  induction fields generalizing before with
  | nil => exact .refl _
  | cons field rest ih =>
    obtain ⟨first, others⟩ := List.forall_mem_cons.mp each
    have own := Reordered.member before rest field.1 first
    have later := ih (before ++ [(field.1, change field.2)]) others
    rw [List.append_assoc, List.append_assoc] at later
    exact own.trans later

theorem Reordered.each_item (change : Json ν → Json ν) (before items : List (Json ν))
    (each : ∀ item ∈ items, Reordered item (change item)) :
    Reordered (.list (before ++ items)) (.list (before ++ items.map change)) := by
  induction items generalizing before with
  | nil => exact .refl _
  | cons item rest ih =>
    obtain ⟨first, others⟩ := List.forall_mem_cons.mp each
    have own := Reordered.item before rest first
    have later := ih (before ++ [change item]) others
    rw [List.append_assoc, List.append_assoc] at later
    exact own.trans later

theorem reordered_sorted {value : Json ν} (distinct : Distinct value) : Reordered value (sorted value) := by
  induction value using induct with
  | null | bool | integer | fraction | text =>
    rw [sorted]
    · exact .refl _
    all_goals simp
  | list items ih =>
    rw [sorted_list]
    have each := distinct_list.mp distinct
    exact Reordered.each_item sorted [] items fun item member => ih item member (each item member)
  | object fields ih =>
    rw [sorted_object]
    obtain ⟨keys, each⟩ := distinct_object.mp distinct
    have changed := Reordered.each_member sorted [] fields fun field member => ih field member (each field member)
    exact changed.trans (.members (Entries.collect_nil_perm ((Entries.distinct_map _).mpr keys)).symm)

theorem sorted_sorted (distinct : Distinct value) : sorted (sorted value) = sorted value :=
  ((reordered_sorted distinct).sorted_eq distinct).symm

theorem lookup_sorted {fields : List (String × Json ν)} (keys : Entries.Distinct fields) (key : String) :
    (Entries.collect [] (fields.map fun field => (field.1, sorted field.2))).lookup key =
      (fields.lookup key).map sorted := by
  have apart := (Entries.distinct_map (@sorted ν)).mpr keys
  rw [← Entries.lookup_perm apart (Entries.collect_nil_perm apart).symm, Entries.lookup_map]

/-- Two objects have one sorted form when they hold, under each key, values that do. -/
theorem sorted_object_eq {fields others : List (String × Json ν)} (keys : Entries.Distinct fields)
    (apart : Entries.Distinct others) :
    sorted (.object fields) = sorted (.object others) ↔
      ∀ key, (fields.lookup key).map sorted = (others.lookup key).map sorted := by
  rw [sorted_object, sorted_object, Json.object.injEq]
  constructor
  · intro same key
    rw [← lookup_sorted keys, same, lookup_sorted apart]
  · intro same
    refine Entries.collect_congr ((Entries.distinct_map _).mpr keys) ?_
    refine Entries.perm_of_lookup ((Entries.distinct_map _).mpr keys) ((Entries.distinct_map _).mpr apart) fun key => ?_
    rw [Entries.lookup_map, Entries.lookup_map, same]

theorem eq_object_of_sorted (same : sorted value = .object fields) : ∃ others, value = .object others := by
  cases value with
  | object others => exact ⟨others, rfl⟩
  | null | bool | integer | fraction | text | list =>
    simp only [sorted, reduceCtorEq] at same

/-- Two values are reorderings of each other exactly when they have one sorted form. -/
theorem reordered_iff (left : Distinct a) (right : Distinct b) : Reordered a b ↔ sorted a = sorted b := by
  constructor
  · exact fun same => same.sorted_eq left
  · intro same
    have own := reordered_sorted left
    rw [same] at own
    exact own.trans (reordered_sorted right).symm

end Json

end Duskcue
