import Duskcue.StartIntent

/-! The hash of an intent identifies its selection. The canonical form is the sorted form,
where the limits allow one; a selection is read alike in every order; and the defaults are
a function of what the selection holds under each field. -/
namespace Duskcue.StartIntent
open Json (Distinct Reordered sorted size height)

variable {ν η : Type}

/-! ## The canonical form -/

/-- What `canonical` answers for a value. -/
def Canonical (value : Json ν) : Prop :=
  ∀ depth nodes, canonical value depth nodes =
    if depth + height value ≤ 16 ∧ nodes + size value ≤ 4096 then some (sorted value, nodes + size value) else none

theorem canonicalItems_eq (each : ∀ item ∈ items, Canonical item) (low : depth ≤ 16) (few : nodes ≤ 4096) :
    canonicalItems items (depth + 1) nodes =
      if depth + Json.heightItems items ≤ 16 ∧ nodes + Json.sizeItems items ≤ 4096 then
        some (Json.sortedItems items, nodes + Json.sizeItems items) else none := by
  induction items generalizing nodes with
  | nil => simp [canonicalItems, Json.heightItems, Json.sizeItems, Json.sortedItems, low, few]
  | cons item rest ih =>
    obtain ⟨own, others⟩ := List.forall_mem_cons.mp each
    rw [canonicalItems, own, Json.heightItems, Json.sizeItems, Json.sortedItems]
    by_cases first : depth + 1 + height item ≤ 16 ∧ nodes + size item ≤ 4096
    · rw [if_pos first]
      simp only [Option.bind_eq_bind, Option.bind_some, ih others first.2]
      by_cases last : depth + Json.heightItems rest ≤ 16 ∧ nodes + size item + Json.sizeItems rest ≤ 4096
      · rw [if_pos last, if_pos (by omega)]
        simp [Nat.add_assoc]
      · rw [if_neg last, if_neg (by omega)]
        rfl
    · rw [if_neg first, if_neg (by omega)]
      rfl

theorem canonicalMembers_eq (each : ∀ field ∈ fields, Canonical field.2)
    (low : depth ≤ 16) (few : nodes ≤ 4096) (ordered : List (String × Json ν)) :
    canonicalMembers fields (depth + 1) nodes ordered =
      if depth + Json.heightMembers fields ≤ 16 ∧ nodes + Json.sizeMembers fields ≤ 4096 then
        some (Entries.collect ordered (Json.sortedMembers fields), nodes + Json.sizeMembers fields) else none := by
  induction fields generalizing nodes ordered with
  | nil => simp [canonicalMembers, Json.heightMembers, Json.sizeMembers, Json.sortedMembers, Entries.collect, low, few]
  | cons field rest ih =>
    obtain ⟨key, value⟩ := field
    obtain ⟨own, others⟩ := List.forall_mem_cons.mp each
    rw [canonicalMembers, own, Json.heightMembers, Json.sizeMembers, Json.sortedMembers]
    by_cases first : depth + 1 + height value ≤ 16 ∧ nodes + size value ≤ 4096
    · rw [if_pos first]
      simp only [Option.bind_eq_bind, Option.bind_some, ih others first.2]
      by_cases last : depth + Json.heightMembers rest ≤ 16 ∧ nodes + size value + Json.sizeMembers rest ≤ 4096
      · rw [if_pos last, if_pos (by omega)]
        simp [Entries.collect, Nat.add_assoc]
      · rw [if_neg last, if_neg (by omega)]
    · rw [if_neg first, if_neg (by omega)]
      rfl

theorem canonical_scalar (own : ∀ depth nodes, canonical value depth nodes =
      if 16 < depth ∨ 4096 < nodes + 1 then none else some (value, nodes + 1))
    (flat : height value = 0) (one : size value = 1) (same : sorted value = value) : Canonical value := by
  intro depth nodes
  rw [own, flat, one, same]
  split
  · rw [if_neg (by omega)]
  · rw [if_pos (by omega)]

/-- The counter and the depth allow the sorted form or refuse the value, in whatever
order its members come. -/
theorem canonical_eq (value : Json ν) : Canonical value := by
  induction value using Json.induct with
  | null | bool | integer | fraction | text =>
    refine canonical_scalar ?_ ?_ ?_ ?_
    · intro depth nodes
      rw [canonical]
      all_goals simp
    · rw [height]
      all_goals simp
    · rw [size]
      all_goals simp
    · rw [sorted]
      all_goals simp
  | list items ih =>
    intro depth nodes
    rw [canonical, sorted, height, size]
    by_cases stopped : 16 < depth ∨ 4096 < nodes + 1
    · rw [if_pos stopped, if_neg (by omega)]
    · rw [if_neg stopped]
      simp only [canonicalItems_eq ih (Nat.le_of_not_lt fun high => stopped (.inl high))
        (Nat.le_of_not_lt fun many => stopped (.inr many))]
      by_cases allowed : depth + Json.heightItems items ≤ 16 ∧ nodes + 1 + Json.sizeItems items ≤ 4096
      · rw [if_pos allowed, if_pos (by omega)]
        simp [Nat.add_assoc, Nat.add_comm 1]
      · rw [if_neg allowed, if_neg (by omega)]
        rfl
  | object fields ih =>
    intro depth nodes
    rw [canonical, sorted, height, size]
    by_cases stopped : 16 < depth ∨ 4096 < nodes + 1
    · rw [if_pos stopped, if_neg (by omega)]
    · rw [if_neg stopped]
      simp only [canonicalMembers_eq ih (Nat.le_of_not_lt fun high => stopped (.inl high))
        (Nat.le_of_not_lt fun many => stopped (.inr many))]
      by_cases allowed : depth + Json.heightMembers fields ≤ 16 ∧ nodes + 1 + Json.sizeMembers fields ≤ 4096
      · rw [if_pos allowed, if_pos (by omega)]
        simp [Nat.add_assoc, Nat.add_comm 1]
      · rw [if_neg allowed, if_neg (by omega)]
        rfl

/-! ## Reading in any order -/

/-- The members of a sorted object. -/
def ordered (fields : List (String × Json ν)) : List (String × Json ν) :=
  Entries.collect [] (fields.map fun field => (field.1, sorted field.2))

/-- A reader that does not see in which order members come. -/
def Blind {α : Type} (read : Json ν → Option α) : Prop :=
  ∀ value, Distinct value → read (sorted value) = read value

theorem Blind.asStr : Blind (@Json.asStr ν) := by
  intro value _
  cases value <;> simp only [sorted, Json.asStr]

theorem Blind.asBool : Blind (@Json.asBool ν) := by
  intro value _
  cases value <;> simp only [sorted, Json.asBool]

theorem Blind.asI32 : Blind (@Json.asI32 ν) := by
  intro value _
  cases value <;> simp only [sorted, Json.asI32]

theorem Blind.asU64 : Blind (@StartIntent.asU64 ν) := by
  intro value _
  cases value <;> simp only [sorted, StartIntent.asU64]

theorem Blind.asU8 : Blind (@StartIntent.asU8 ν) := by
  intro value _
  cases value <;> simp only [sorted, StartIntent.asU8]

theorem Blind.readUuid (formats : Formats ν η) : Blind (StartIntent.readUuid formats) := by
  intro value distinct
  rw [StartIntent.readUuid, StartIntent.readUuid, Blind.asStr value distinct]

theorem Blind.readTime (formats : Formats ν η) : Blind (StartIntent.readTime formats) := by
  intro value distinct
  rw [StartIntent.readTime, StartIntent.readTime, Blind.asStr value distinct]

theorem isNull_sorted (value : Json ν) : (sorted value).isNull = value.isNull := by
  cases value <;> simp only [sorted, Json.isNull]

theorem isZero_sorted (value : Json ν) : isZero (sorted value) = isZero value := by
  cases value <;> simp only [sorted, isZero]

section
variable {α : Type} {read : Json ν → Option α} {fields : List (String × Json ν)}

theorem nullable_eq (value : Json ν) :
    nullable read value = if value.isNull then some none else (read value).map some := by
  cases value <;> rfl

theorem Blind.nullable (blind : Blind read) : Blind (StartIntent.nullable read) := by
  intro value distinct
  rw [nullable_eq, nullable_eq, isNull_sorted, blind value distinct]

theorem lookup_distinct (distinct : Distinct (.object fields))
    (found : fields.lookup key = some value) : Distinct value := by
  obtain ⟨keys, each⟩ := Json.distinct_object.mp distinct
  exact each _ ((Entries.lookup_eq_some_iff keys).mp found)

theorem lookup_ordered (distinct : Distinct (.object fields)) (key : String) :
    (ordered fields).lookup key = (fields.lookup key).map sorted :=
  Json.lookup_sorted (Json.distinct_object.mp distinct).1 key

theorem optional_ordered (blind : Blind read) (distinct : Distinct (.object fields)) (key : String) :
    optional read (ordered fields) key = optional read fields key := by
  unfold optional
  rw [lookup_ordered distinct]
  cases found : fields.lookup key with
  | none => rfl
  | some value => exact blind.nullable value (lookup_distinct distinct found)

theorem required_ordered (blind : Blind read) (distinct : Distinct (.object fields)) (key : String) :
    required read (ordered fields) key = required read fields key := by
  unfold required
  rw [lookup_ordered distinct]
  cases found : fields.lookup key with
  | none => rfl
  | some value => exact blind value (lookup_distinct distinct found)

theorem profile_ordered (distinct : Distinct (.object fields)) (key : String) :
    optional some (ordered fields) key = (optional some fields key).map (Option.map sorted) := by
  unfold optional
  rw [lookup_ordered distinct]
  cases fields.lookup key with
  | none => rfl
  | some value =>
    rw [Option.map_some]
    simp only [nullable_eq, isNull_sorted]
    cases value.isNull <;> rfl

end

theorem Blind.observation : Blind (@CapabilityObservation.read ν) := by
  intro value distinct
  cases value with
  | null | bool | integer | fraction | text => simp only [sorted]
  | list items =>
    rw [Json.sorted_list]
    have each := Json.distinct_list.mp distinct
    -- only a list of six items is read at all
    rcases items with _ | ⟨a, _ | ⟨b, _ | ⟨c, _ | ⟨d, _ | ⟨e, _ | ⟨f, _ | ⟨g, rest⟩⟩⟩⟩⟩⟩⟩
    case cons.cons.cons.cons.cons.cons.nil =>
      simp only [List.forall_mem_cons] at each
      obtain ⟨da, db, dc, dd, de, df, -⟩ := each
      simp only [List.map_cons, List.map_nil, CapabilityObservation.read, Blind.asStr a da, Blind.asStr b db,
        Blind.asBool.nullable c dc, Blind.asBool.nullable d dd, Blind.asBool.nullable e de,
        Blind.asBool.nullable f df]
    all_goals rfl
  | object fields =>
    rw [Json.sorted_object]
    change CapabilityObservation.read (.object (ordered fields)) = _
    simp only [CapabilityObservation.read, required_ordered .asStr distinct, optional_ordered .asBool distinct]

theorem get_sorted (distinct : Distinct value) (key : String) :
    (sorted value).get key = (value.get key).map sorted := by
  cases value with
  | object =>
    rw [Json.sorted_object]
    exact lookup_ordered distinct key
  | null | bool | integer | fraction | text | list => simp only [sorted, Json.get, Option.map_none]

theorem get_distinct (distinct : Distinct value) (held : value.get key = some found) : Distinct found := by
  cases value with
  | object => exact lookup_distinct distinct held
  | null | bool | integer | fraction | text | list => cases held

theorem get_blind {α : Type} {read : Json ν → Option α} (blind : Blind read) (distinct : Distinct value)
    (key : String) : ((sorted value).get key).bind read = (value.get key).bind read := by
  rw [get_sorted distinct]
  cases held : value.get key with
  | none => rfl
  | some found => exact blind found (get_distinct distinct held)

theorem asArray_sorted (value : Json ν) : asArray (sorted value) = (asArray value).map (List.map sorted) := by
  cases value with
  | list => rw [Json.sorted_list]; rfl
  | null | bool | integer | fraction | text | object => simp only [sorted, asArray, Option.map_none]

theorem get_array (distinct : Distinct value) (key : String) :
    ((sorted value).get key).bind asArray = ((value.get key).bind asArray).map (List.map sorted) := by
  rw [get_sorted distinct]
  cases value.get key with
  | none => rfl
  | some found => exact asArray_sorted found

theorem mapM_blind {α : Type} {read : Json ν → Option α} (blind : Blind read) {items : List (Json ν)}
    (each : ∀ item ∈ items, Distinct item) : (items.map sorted).mapM read = items.mapM read := by
  induction items with
  | nil => rfl
  | cons item _ ih =>
    obtain ⟨own, others⟩ := List.forall_mem_cons.mp each
    simp only [List.map_cons, List.mapM_cons, blind item own, ih others]

theorem Blind.capabilities : Blind (@SourceCapabilities.read ν) := by
  intro value distinct
  unfold SourceCapabilities.read
  simp only [get_blind .asU64 distinct, get_blind .asStr distinct, get_array distinct]
  cases listed : (value.get "observations").bind asArray with
  | none => rfl
  | some items =>
    have each : ∀ item ∈ items, Distinct item := by
      obtain ⟨found, held, array⟩ := Option.bind_eq_some_iff.mp listed
      cases found <;> cases array
      exact Json.distinct_list.mp (get_distinct distinct held)
    simp only [Option.map_some, Option.any_some, List.length_map, Option.bind_eq_bind, Option.bind_some,
      mapM_blind .observation each]

section
variable {α β γ : Type} {x : Option α}

theorem map_bind_congr {g : α → Option β} (same : ∀ a, f a = (g a).map change) :
    (x >>= f) = (x >>= g).map change := by
  cases x with
  | none => rfl
  | some a => exact same a

theorem map_bind_map {δ : Type} {own : α → δ} {f : δ → Option γ} {g : α → Option β}
    (same : ∀ a, f (own a) = (g a).map change) : (x.map own >>= f) = (x >>= g).map change := by
  cases x with
  | none => rfl
  | some a => exact same a

end

/-- The selection with its profile in order. -/
def Selection.inOrder (selection : Selection ν) : Selection ν :=
  { selection with deviceProfile := selection.deviceProfile.map sorted }

theorem Selection.read_ordered (formats : Formats ν η) {fields : List (String × Json ν)}
    (distinct : Distinct (.object fields)) :
    Selection.read formats (ordered fields) = (Selection.read formats fields).map Selection.inOrder := by
  unfold Selection.read
  simp only [optional_ordered (.readUuid formats) distinct, optional_ordered .asI32 distinct,
    optional_ordered .asU64 distinct, optional_ordered .asBool distinct, optional_ordered .asU8 distinct,
    optional_ordered .capabilities distinct, optional_ordered .asStr distinct,
    optional_ordered (.readTime formats) distinct, profile_ordered distinct]
  iterate 8 refine map_bind_congr fun _ => ?_
  refine map_bind_map fun _ => ?_
  iterate 5 refine map_bind_congr fun _ => ?_
  rfl

/-! ## The hash -/

/-- A selection that passes the checks. -/
def Selection.passes (selection : Selection ν) : Bool := selection.validate && selection.admissible

theorem Selection.passes_inOrder (selection : Selection ν) : selection.inOrder.passes = selection.passes := rfl

/-- The bytes of an ordered selection, where they are few enough, in one digest. -/
def hashed (formats : Formats ν η) (value : Json ν) : Option η :=
  (formats.toVec (.list [.text protocol, value])).bind fun bytes =>
    if bytes.length ≤ bodyLimit then some (formats.digest bytes) else none

theorem guard_bind {α : Type} {p : Prop} [Decidable p] {f : Unit → Option α} :
    (guard p >>= f) = if p then f () else none := by
  by_cases holds : p
  · simp [guard, holds]
  · simp [guard, holds]

/-- The hash of the completed members, as a function of their sorted form. -/
theorem digested_hash (formats : Formats ν η) (fields : List (String × Json ν)) :
    (digested formats fields).map (·.2) =
      if (Selection.read formats fields).any Selection.passes ∧ height (.object fields) ≤ 16 ∧
        size (.object fields) ≤ 4096 then hashed formats (sorted (.object fields)) else none := by
  unfold digested hashed
  simp only [guard_bind]
  cases Selection.read formats fields with
  | none => simp
  | some selection =>
    change Option.map _ (if selection.passes = true then _ else none) = _
    by_cases passed : selection.passes = true
    · rw [if_pos passed, canonical_eq (.object fields) 0 0]
      simp only [Nat.zero_add, Option.any_some, passed, true_and]
      by_cases small : height (.object fields) ≤ 16 ∧ size (.object fields) ≤ 4096
      · rw [if_pos small, if_pos small]
        simp only [Option.bind_eq_bind, Option.bind_some]
        cases formats.toVec (.list [.text protocol, sorted (.object fields)]) with
        | none => rfl
        | some =>
          simp only [Option.bind_some]
          split <;> rfl
      · rw [if_neg small, if_neg small]
        rfl
    · rw [if_neg passed]
      simp [passed]

theorem passes_of_sorted (formats : Formats ν η)
    (distinct : Distinct (.object fields)) (apart : Distinct (.object others))
    (same : sorted (.object fields) = sorted (.object others)) :
    (Selection.read formats fields).any Selection.passes = (Selection.read formats others).any Selection.passes := by
  have forms : ordered fields = ordered others := by
    rw [Json.sorted_object, Json.sorted_object, Json.object.injEq] at same
    exact same
  have left := Selection.read_ordered formats distinct
  rw [forms, Selection.read_ordered formats apart] at left
  have passing := congrArg (Option.any Selection.passes) left
  simp only [Option.any_map, Selection.passes_inOrder] at passing
  exact passing.symm

theorem digested_of_sorted (formats : Formats ν η)
    (distinct : Distinct (.object fields)) (apart : Distinct (.object others))
    (same : sorted (.object fields) = sorted (.object others)) :
    (digested formats fields).map (·.2) = (digested formats others).map (·.2) := by
  have reordered := (Json.reordered_iff distinct apart).mpr same
  rw [digested_hash, digested_hash, passes_of_sorted formats distinct apart same, reordered.height_eq,
    reordered.size_eq, same]

/-! ## Defaults, field by field -/

section
variable {fields : List (String × Json ν)}

theorem lookup_put (key : String) (value : Json ν) (fields : List (String × Json ν)) (k : String) :
    (put key value fields).lookup k = if k = key then some value else fields.lookup k := by
  induction fields with
  | nil => exact Entries.lookup_cons_eq k key value []
  | cons field rest ih =>
    obtain ⟨k', v⟩ := field
    unfold put
    split
    · rename_i here
      subst here
      rw [Entries.lookup_cons_eq, Entries.lookup_cons_eq]
      by_cases same : k = k'
      · rw [if_pos same, if_pos same]
      · simp only [if_neg same]
    · rename_i other
      rw [Entries.lookup_cons_eq, Entries.lookup_cons_eq, ih]
      by_cases same : k = k'
      · subst same
        rw [if_pos rfl, if_neg other, if_pos rfl]
      · rw [if_neg same, if_neg same]

theorem put_distinct (keys : Entries.Distinct fields) : Entries.Distinct (put key value fields) := by
  induction fields with
  | nil => exact List.nodup_singleton _
  | cons field rest ih =>
    obtain ⟨k, v⟩ := field
    obtain ⟨first, others⟩ := List.nodup_cons.mp keys
    unfold put
    split
    · rename_i here
      subst here
      exact List.nodup_cons.mpr ⟨first, others⟩
    · rename_i other
      refine List.nodup_cons.mpr ⟨?_, ih others⟩
      rw [Entries.mem_keys_iff] at first ⊢
      rw [lookup_put, if_neg other]
      exact first

theorem lookup_orInsert (fields : List (String × Json ν)) (key k : String) :
    (orInsert fields key).lookup k =
      if k = key then some ((fields.lookup k).getD .null) else fields.lookup k := by
  unfold orInsert
  by_cases same : k = key
  · subst same
    cases held : fields.lookup k with
    | none => simp [lookup_put]
    | some => simp [held]
  · rw [if_neg same]
    split
    · rfl
    · rw [lookup_put, if_neg same]

theorem lookup_complete (keys : List String) (fields : List (String × Json ν)) (k : String) :
    (keys.foldl orInsert fields).lookup k =
      if k ∈ keys then some ((fields.lookup k).getD .null) else fields.lookup k := by
  induction keys generalizing fields with
  | nil => simp
  | cons key _ ih =>
    rw [List.foldl_cons, ih, lookup_orInsert]
    by_cases same : k = key
    · simp [same]
    · simp [same]

theorem lookup_substitute (key : String) (applies : Json ν → Bool) (value : Json ν) (fields : List (String × Json ν))
    (k : String) : (substitute key applies value fields).lookup k =
      (fields.lookup k).map fun held => if k = key ∧ applies held then value else held := by
  unfold substitute
  by_cases same : k = key
  · subst same
    cases held : fields.lookup k with
    | none => simp [held]
    | some own =>
      by_cases applied : applies own
      · simp [applied, lookup_put]
      · simp [applied, held]
  · have other : (fun held : Json ν => if k = key ∧ applies held then value else held) = id := by
      funext held
      simp [same]
    rw [other, Option.map_id, id]
    split
    · rw [lookup_put, if_neg same]
    · rfl

theorem orInsert_distinct (keys : Entries.Distinct fields) : Entries.Distinct (orInsert fields key) := by
  unfold orInsert
  split
  · exact keys
  · exact put_distinct keys

theorem complete_distinct (names : List String) (keys : Entries.Distinct fields) :
    Entries.Distinct (names.foldl orInsert fields) := by
  induction names generalizing fields with
  | nil => exact keys
  | cons _ _ ih => exact ih (orInsert_distinct keys)

theorem substitute_distinct (keys : Entries.Distinct fields) :
    Entries.Distinct (substitute key applies value fields) := by
  unfold substitute
  split
  · exact put_distinct keys
  · exact keys

/-- What the defaults make of a field. -/
def filled (k : String) (value : Json ν) : Json ν :=
  let transcode := if k = "force_transcode" ∧ value.isNull then .bool false else value
  let hls := if k = "force_hls" ∧ transcode.isNull then .bool false else transcode
  let mode := if k = "playback_mode" ∧ hls.isNull then .text "interactive" else hls
  if k = "direct_recovery_protocol" ∧ isZero mode then .null else mode

theorem lookup_withDefaults (fields : List (String × Json ν)) (k : String) :
    (withDefaults fields).lookup k =
      (if k ∈ selectionFields then some ((fields.lookup k).getD .null) else fields.lookup k).map (filled k) := by
  rw [← lookup_complete]
  unfold withDefaults
  generalize selectionFields.foldl orInsert fields = complete
  simp only [List.foldl_cons, List.foldl_nil, lookup_substitute, Option.map_map]
  rfl

theorem withDefaults_distinct (keys : Entries.Distinct fields) : Entries.Distinct (withDefaults fields) := by
  have named := complete_distinct selectionFields keys
  unfold withDefaults
  generalize selectionFields.foldl orInsert fields = complete at named ⊢
  simp only [List.foldl_cons, List.foldl_nil]
  exact substitute_distinct (substitute_distinct (substitute_distinct (substitute_distinct named)))

theorem sorted_replace {applies : Json ν → Bool} (blind : ∀ value, applies (sorted value) = applies value)
    (fixed : sorted literal = literal) (p : Prop) [Decidable p] (value : Json ν) :
    sorted (if p ∧ applies value then literal else value) =
      if p ∧ applies (sorted value) then literal else sorted value := by
  rw [blind]
  split
  · exact fixed
  · rfl

theorem filled_sorted (k : String) (value : Json ν) : sorted (filled k value) = filled k (sorted value) := by
  have flag : sorted (.bool false) = (.bool false : Json ν) := by simp only [sorted]
  have mode : sorted (.text "interactive") = (.text "interactive" : Json ν) := by simp only [sorted]
  have null : sorted .null = (.null : Json ν) := by simp only [sorted]
  unfold filled
  dsimp only
  rw [sorted_replace isZero_sorted null, sorted_replace isNull_sorted mode, sorted_replace isNull_sorted flag,
    sorted_replace isNull_sorted flag]

theorem filled_distinct (k : String) {value : Json ν} (distinct : Distinct value) : Distinct (filled k value) := by
  have choose : ∀ (p : Prop) [Decidable p] (a b : Json ν), Distinct a → Distinct b → Distinct (if p then a else b) := by
    intro p _ a b left right
    split
    · exact left
    · exact right
  exact choose _ _ _ .null (choose _ _ _ (.text _) (choose _ _ _ (.bool _) (choose _ _ _ (.bool _) distinct)))

theorem withDefaults_object (distinct : Distinct (.object fields)) : Distinct (.object (withDefaults fields)) := by
  have keys := withDefaults_distinct (Json.distinct_object.mp distinct).1
  refine .object keys fun field member => ?_
  have found := (Entries.lookup_eq_some_iff keys).mpr (show (field.1, field.2) ∈ withDefaults fields from member)
  rw [lookup_withDefaults] at found
  obtain ⟨value, held, made⟩ := Option.map_eq_some_iff.mp found
  refine made ▸ filled_distinct _ ?_
  cases own : fields.lookup field.1 with
  | none =>
    rw [own] at held
    split at held
    · cases held
      exact .null
    · cases held
  | some =>
    have apart := lookup_distinct distinct own
    rw [own] at held
    split at held
    · cases held
      exact apart
    · cases held
      exact apart

end

/-! ## Alike selections -/

/-- A default of the protocol, under a field. -/
inductive Default : String → Json ν → Json ν → Prop
  | forceTranscode : Default "force_transcode" .null (.bool false)
  | forceHls : Default "force_hls" .null (.bool false)
  | playbackMode : Default "playback_mode" .null (.text "interactive")
  | directRecovery : Default "direct_recovery_protocol" (.integer 0) .null

/-- Selections that are equal up to the order of members at every depth, up to absent
fields being null and up to the defaults. -/
inductive Alike : Json ν → Json ν → Prop
  | reordered (same : Reordered a b) : Alike a b
  | absent {fields : List (String × Json ν)} {key : String} (known : key ∈ selectionFields)
      (missing : fields.lookup key = none) : Alike (.object fields) (.object (fields ++ [(key, .null)]))
  | default {key : String} {a b : Json ν} (before after : List (String × Json ν)) (default : Default key a b) :
      Alike (.object (before ++ (key, a) :: after)) (.object (before ++ (key, b) :: after))
  | symm (alike : Alike a b) : Alike b a
  | trans (first : Alike a b) (second : Alike b c) : Alike a c

/-- The hash of a selection. -/
def outcome (formats : Formats ν η) (selection : Json ν) : Option η :=
  (normalised selection).bind fun fields => (digested formats fields).map (·.2)

section
variable {fields others : List (String × Json ν)}

theorem any_unknown_iff : fields.any (fun field => !selectionFields.contains field.1) = true ↔
    ∃ k, k ∉ selectionFields ∧ (fields.lookup k).isSome := by
  rw [List.any_eq_true]
  simp only [← Entries.mem_keys_iff, List.mem_map, Bool.not_eq_true', List.contains_eq_mem, decide_eq_false_iff_not]
  constructor
  · rintro ⟨field, member, unknown⟩
    exact ⟨field.1, unknown, field, member, rfl⟩
  · rintro ⟨k, unknown, field, member, rfl⟩
    exact ⟨field, member, unknown⟩

theorem normalised_object (fields : List (String × Json ν)) : normalised (.object fields) =
    if fields.any (fun field => !selectionFields.contains field.1) then none else some (withDefaults fields) := rfl

/-- Selections with the same known fields, holding alike what the defaults leave, have one
hash. -/
theorem outcome_congr (formats : Formats ν η) (distinct : Distinct (.object fields)) (apart : Distinct (.object others))
    (known : ∀ k, k ∉ selectionFields → (fields.lookup k).isSome = (others.lookup k).isSome)
    (alike : ∀ k ∈ selectionFields, sorted (filled k ((fields.lookup k).getD .null)) =
      sorted (filled k ((others.lookup k).getD .null))) :
    outcome formats (.object fields) = outcome formats (.object others) := by
  have unknown : fields.any (fun field => !selectionFields.contains field.1) =
      others.any (fun field => !selectionFields.contains field.1) := by
    rw [Bool.eq_iff_iff, any_unknown_iff, any_unknown_iff]
    exact exists_congr fun k => and_congr_right fun absent => by rw [known k absent]
  unfold outcome
  rw [normalised_object, normalised_object, unknown]
  by_cases strange : others.any (fun field => !selectionFields.contains field.1) = true
  · rw [if_pos strange, if_pos strange]
  · rw [if_neg strange, if_neg strange, Option.bind_some, Option.bind_some]
    refine digested_of_sorted formats (withDefaults_object distinct) (withDefaults_object apart) ?_
    refine (Json.sorted_object_eq (Json.distinct_object.mp (withDefaults_object distinct)).1
      (Json.distinct_object.mp (withDefaults_object apart)).1).mpr fun k => ?_
    rw [lookup_withDefaults, lookup_withDefaults]
    by_cases listed : k ∈ selectionFields
    · simp only [if_pos listed, Option.map_some, alike k listed]
    · have none' : ∀ held : List (String × Json ν), held.any (fun field => !selectionFields.contains field.1) ≠ true →
          held.lookup k = none := by
        intro held usual
        cases found : held.lookup k with
        | none => rfl
        | some => exact absurd (any_unknown_iff.mpr ⟨k, listed, by simp [found]⟩) usual
      rw [if_neg listed, if_neg listed, none' others strange, none' fields (unknown ▸ strange)]

end

theorem Default.filled_eq (default : Default key a b) : filled key a = filled key b := by
  cases default <;> rfl

theorem Default.distinct (default : Default key a b) : Distinct a ∧ Distinct b := by
  cases default <;> constructor <;> constructor

theorem Alike.distinct_iff (alike : Alike a b) : Distinct a ↔ Distinct b := by
  induction alike with
  | reordered same => exact same.distinct_iff
  | @absent fields key _ missing =>
    have new : key ∉ fields.map (·.1) := by
      rw [Entries.mem_keys_iff, missing]
      simp
    rw [Json.distinct_object, Json.distinct_object]
    refine and_congr ?_ ?_
    · simp only [Entries.Distinct, List.map_append, List.map_cons, List.map_nil]
      rw [List.nodup_append_comm, List.singleton_append, List.nodup_cons]
      exact ⟨fun keys => ⟨new, keys⟩, And.right⟩
    · rw [List.forall_mem_append]
      refine ⟨fun each => ⟨each, ?_⟩, And.left⟩
      simpa using Distinct.null
  | default _ _ default =>
    obtain ⟨left, right⟩ := default.distinct
    rw [Json.distinct_object, Json.distinct_object]
    simp only [Entries.Distinct, List.map_append, List.map_cons, List.forall_mem_append, List.forall_mem_cons, left,
      right]
  | symm _ ih => exact ih.symm
  | trans _ _ ih₁ ih₂ => exact ih₁.trans ih₂

theorem outcome_reordered (formats : Formats ν η) (same : Reordered a b) (distinct : Distinct a) :
    outcome formats a = outcome formats b := by
  have apart := same.distinct_iff.mp distinct
  have forms := same.sorted_eq distinct
  cases a with
  | object =>
    rw [Json.sorted_object] at forms
    obtain ⟨others, rfl⟩ := Json.eq_object_of_sorted forms.symm
    rw [← Json.sorted_object, Json.sorted_object_eq (Json.distinct_object.mp distinct).1
      (Json.distinct_object.mp apart).1] at forms
    refine outcome_congr formats distinct apart (fun k _ => ?_) fun k _ => ?_
    · have held := congrArg Option.isSome (forms k)
      simpa only [Option.isSome_map] using held
    · rw [filled_sorted, filled_sorted]
      have null : (sorted .null : Json ν) = .null := by simp only [sorted]
      have push : ∀ found : Option (Json ν), sorted (found.getD .null) = (found.map sorted).getD .null := by
        intro found
        cases found with
        | none => exact null
        | some => rfl
      rw [push, push, forms k]
  | null | bool x | integer n | fraction x | text s | list items =>
    cases b with
    | object fields =>
      obtain ⟨others, found⟩ := Json.eq_object_of_sorted (forms.trans (Json.sorted_object fields))
      cases found
    | null | bool | integer | fraction | text | list => rfl

theorem Alike.outcome_eq (formats : Formats ν η) (alike : Alike a b) (distinct : Distinct a) :
    outcome formats a = outcome formats b := by
  induction alike with
  | reordered same => exact outcome_reordered formats same distinct
  | @absent _ key known missing =>
    have apart := (Alike.absent known missing).distinct_iff.mp distinct
    refine outcome_congr formats distinct apart (fun k unknown => ?_) fun k _ => ?_
    · have other : k ≠ key := fun same => unknown (same ▸ known)
      rw [List.lookup_append, Entries.lookup_cons_eq, if_neg other]
      simp
    · rw [List.lookup_append, Entries.lookup_cons_eq]
      by_cases same : k = key
      · subst same
        simp [missing]
      · simp [same]
  | @default key a b before after default =>
    have apart := (Alike.default before after default).distinct_iff.mp distinct
    refine outcome_congr formats distinct apart (fun k _ => ?_) fun k _ => ?_
    · simp only [List.lookup_append, Entries.lookup_cons_eq]
      cases before.lookup k with
      | some => rfl
      | none =>
        by_cases same : k = key
        · simp [same]
        · simp [same]
    · simp only [List.lookup_append, Entries.lookup_cons_eq]
      cases before.lookup k with
      | some => rfl
      | none =>
        by_cases same : k = key
        · subst same
          simp [default.filled_eq]
        · simp [same]
  | symm alike ih => exact (ih (alike.distinct_iff.mpr distinct)).symm
  | trans first _ ih₁ ih₂ => exact (ih₁ distinct).trans (ih₂ (first.distinct_iff.mp distinct))

/-! ## Identity -/

/-- The bytes tell ordered values apart, and the digest tells bytes apart. -/
structure Faithful (formats : Formats ν η) : Prop where
  toVec : ∀ a b bytes, sorted a = a → sorted b = b → formats.toVec a = some bytes → formats.toVec b = some bytes → a = b
  digest : Function.Injective formats.digest

section
variable {formats : Formats ν η}

theorem intent_hash (request : StartRequest ν) : (request.intent formats).map (·.hash) =
    if request.addressed then outcome formats request.selection.json else none := by
  unfold StartRequest.intent outcome
  rw [guard_bind]
  split
  · cases normalised request.selection.json with
    | none => rfl
    | some fields =>
      simp only [Option.bind_eq_bind, Option.bind_some]
      cases digested formats fields <;> rfl
  · rfl

theorem normalised_distinct (distinct : Distinct selection)
    (form : normalised selection = some fields) : Distinct (.object fields) := by
  cases selection with
  | object =>
    rw [normalised_object] at form
    split at form
    · cases form
    · rw [← Option.some.inj form]
      exact withDefaults_object distinct
  | null | bool | integer | fraction | text | list => cases form

theorem accepted_hash {request : StartRequest ν}
    (accepted : request.intent formats = some intent) (form : normalised request.selection.json = some fields) :
    (digested formats fields).map (·.2) = some intent.hash ∧ Distinct (.object fields) := by
  have hash := @intent_hash ν η formats request
  rw [accepted] at hash
  split at hash
  · unfold outcome at hash
    rw [form] at hash
    exact ⟨hash.symm, normalised_distinct request.selection.distinct form⟩
  · cases hash

theorem Faithful.sorted_eq (faithful : Faithful formats) {hash : η}
    (distinct : Distinct (.object fields)) (apart : Distinct (.object others))
    (left : (digested formats fields).map (·.2) = some hash) (right : (digested formats others).map (·.2) = some hash) :
    sorted (.object fields) = sorted (.object others) := by
  rw [digested_hash] at left right
  split at left
  · split at right
    · obtain ⟨bytes, own, digest⟩ := Option.bind_eq_some_iff.mp left
      obtain ⟨bytes', own', digest'⟩ := Option.bind_eq_some_iff.mp right
      split at digest
      · split at digest'
        · cases faithful.digest ((Option.some.inj digest).trans (Option.some.inj digest').symm)
          have fixed : ∀ value : Json ν, Distinct value →
              sorted (.list [.text protocol, sorted value]) = .list [.text protocol, sorted value] := by
            intro value held
            have text : sorted (.text protocol) = (.text protocol : Json ν) := by simp only [sorted]
            rw [Json.sorted_list, List.map_cons, List.map_cons, List.map_nil, Json.sorted_sorted held, text]
          have same := faithful.toVec _ _ bytes (fixed _ distinct) (fixed _ apart) own own'
          simpa using same
        · cases digest'
      · cases digest
    · cases right
  · cases left

end

/-- Requests with alike selections are both refused, or have one hash; accepted requests
whose completed selections are not reorderings of each other have different hashes. -/
theorem intent_identity (formats : Formats ν η) (faithful : Faithful formats) :
    (∀ a b : StartRequest ν, a.addressed = b.addressed → Alike a.selection.json b.selection.json →
      (a.intent formats).map (·.hash) = (b.intent formats).map (·.hash)) ∧
    ∀ (a b : StartRequest ν) (left right : Intent ν η) (own other : List (String × Json ν)),
      a.intent formats = some left → b.intent formats = some right →
      normalised a.selection.json = some own → normalised b.selection.json = some other →
      ¬ Reordered (.object own) (.object other) → left.hash ≠ right.hash := by
  constructor
  · intro a b address alike
    rw [intent_hash, intent_hash, address, alike.outcome_eq formats a.selection.distinct]
  · intro a b left right own other first second ownForm otherForm differ same
    obtain ⟨ownHash, ownDistinct⟩ := accepted_hash first ownForm
    obtain ⟨otherHash, otherDistinct⟩ := accepted_hash second otherForm
    rw [same] at ownHash
    have forms := faithful.sorted_eq ownDistinct otherDistinct ownHash otherHash
    exact differ ((Json.reordered_iff ownDistinct otherDistinct).mpr forms)

/-! ## A film, started three times -/

namespace Sample

def film : String := "01907f8e-1111-7222-8333-444455556666"

/-- The completed selection of the film, in order. -/
def complete (hls : Bool) : Json Unit :=
  .object [("ambient_channel_id", .null), ("ambient_channel_updated_at", .null), ("audio_stream_index", .null),
    ("device_profile", .null), ("direct_recovery_protocol", .null), ("force_hls", .bool hls),
    ("force_transcode", .bool false), ("max_streaming_bitrate", .null), ("media_file_id", .null),
    ("media_item_id", .text film), ("playback_mode", .text "interactive"), ("quality_mode", .null),
    ("source_capabilities", .null), ("subtitle_stream_index", .null)]

/-- The text of the completed selection. -/
def text (hls : Bool) : String :=
  "[\"duskcue-vod-command/2\",\x7b\"ambient_channel_id\":null,\"ambient_channel_updated_at\":null," ++
  "\"audio_stream_index\":null,\"device_profile\":null,\"direct_recovery_protocol\":null,\"force_hls\":" ++
  (if hls then "true" else "false") ++ ",\"force_transcode\":false,\"max_streaming_bitrate\":null," ++
  "\"media_file_id\":null,\"media_item_id\":\"01907f8e-1111-7222-8333-444455556666\"," ++
  "\"playback_mode\":\"interactive\",\"quality_mode\":null,\"source_capabilities\":null," ++
  "\"subtitle_stream_index\":null\x7d]"

def bytes (hls : Bool) : List UInt8 := (text hls).toUTF8.data.toList

/-- The digests of the two texts; other bytes stand for themselves. -/
def digest (held : List UInt8) : BitVec 256 ⊕ List UInt8 :=
  if held = bytes false then .inl 0xf369554bca52edfeeac5e54979f883a3f02d88152b3fbe833edd3c95387c5000
  else if held = bytes true then .inl 0x90703bd1e74eb9bd8a03b8e7bf807bdb944ef34e44f02d773101597a856e6a59
  else .inr held

open Classical in
/-- The libraries on the two selections. -/
noncomputable def formats : Formats Unit (BitVec 256 ⊕ List UInt8) where
  uuid text := if text = film then some 0x01907f8e111172228333444455556666 else none
  time _ := none
  toVec value :=
    if value = .list [.text protocol, complete false] then some (bytes false)
    else if value = .list [.text protocol, complete true] then some (bytes true) else none
  digest := digest

theorem bytes_differ : bytes false ≠ bytes true := by decide +kernel

theorem complete_differ : complete false ≠ complete true := by
  simp [complete]

theorem faithful : Faithful formats where
  toVec a b held _ _ left right := by
    simp only [formats] at left right
    split at left
    · rename_i first
      split at right
      · rename_i second
        exact first.trans second.symm
      · split at right
        · exact absurd ((Option.some.inj left).trans (Option.some.inj right).symm) bytes_differ
        · cases right
    · split at left
      · rename_i first
        split at right
        · exact absurd ((Option.some.inj right).trans (Option.some.inj left).symm) bytes_differ
        · split at right
          · rename_i second
            exact first.trans second.symm
          · cases right
      · cases left
  digest a b same := by
    simp only [formats, digest] at same
    repeat' split at same
    all_goals simp_all

def request (fields : List (String × Json Unit)) (distinct : (Json.object fields).Distinct) : StartRequest Unit where
  protocol := protocol
  requestId := 0x01907f8e999979998999999999999999
  selection := ⟨.object fields, distinct⟩

theorem version_seven : version 0x01907f8e999979998999999999999999 = 7 := by decide

/-- The film by its identifier alone. -/
def short : StartRequest Unit := request [("media_item_id", .text film)] <| by
  refine .object (by decide) fun field member => ?_
  rcases List.mem_singleton.mp member with rfl
  exact .text _

/-- The film with two defaults spelled out. -/
def long : StartRequest Unit :=
  request [("playback_mode", .text "interactive"), ("media_item_id", .text film), ("force_hls", .bool false)] <| by
    refine .object (by decide) fun field member => ?_
    simp only [List.mem_cons, List.not_mem_nil, or_false] at member
    rcases member with rfl | rfl | rfl <;> constructor

/-- The film through HLS. -/
def forced : StartRequest Unit := request [("media_item_id", .text film), ("force_hls", .bool true)] <| by
  refine .object (by decide) fun field member => ?_
  simp only [List.mem_cons, List.not_mem_nil, or_false] at member
  rcases member with rfl | rfl <;> constructor

theorem short_alike_long : Alike short.selection.json long.selection.json := by
  have flagged : Alike short.selection.json (.object [("media_item_id", .text film), ("force_hls", .bool false)]) :=
    .trans (.absent (by decide) rfl) (.default [("media_item_id", .text film)] [] .forceHls)
  have moded : Alike (.object [("media_item_id", .text film), ("force_hls", .bool false)])
      (.object [("media_item_id", .text film), ("force_hls", .bool false), ("playback_mode", .text "interactive")]) :=
    .trans (.absent (by decide) rfl)
      (.default [("media_item_id", .text film), ("force_hls", .bool false)] [] (@Default.playbackMode Unit))
  have moved : ([("media_item_id", .text film), ("force_hls", .bool false), ("playback_mode", .text "interactive")] :
      List (String × Json Unit)).Perm
      [("playback_mode", .text "interactive"), ("media_item_id", .text film), ("force_hls", .bool false)] :=
    List.perm_append_singleton _ [_, _]
  exact (flagged.trans moded).trans (.reordered (.members moved))

theorem hashed_complete (through : Bool) : hashed formats (complete through) = some (digest (bytes through)) := by
  have short : (bytes through).length ≤ bodyLimit := by
    cases through <;> decide +kernel
  have written : formats.toVec (.list [.text protocol, complete through]) = some (bytes through) := by
    cases through
    · exact if_pos rfl
    · exact (if_neg fun same => complete_differ (by simpa using same.symm)).trans (if_pos rfl)
  have own : formats.digest = digest := rfl
  unfold hashed
  simp only [written, Option.bind_some, if_pos short, own]

/-- A request whose completed selection is this one is accepted. -/
theorem accepted {fields : List (String × Json Unit)} {distinct : (Json.object fields).Distinct} {through : Bool}
    (known : fields.any (fun field => !selectionFields.contains field.1) = false)
    (order : sorted (.object (withDefaults fields)) = complete through)
    (passes : (Selection.read formats (withDefaults fields)).any Selection.passes = true)
    (low : height (.object (withDefaults fields)) ≤ 16) (few : size (.object (withDefaults fields)) ≤ 4096) :
    ∃ intent, (request fields distinct).intent formats = some intent ∧
      normalised (request fields distinct).selection.json = some (withDefaults fields) := by
  have form : normalised (.object fields) = some (withDefaults fields) := by
    rw [normalised_object, known]
    rfl
  have hash : ((request fields distinct).intent formats).map (·.hash) = some (digest (bytes through)) := by
    have address : (request fields distinct).addressed = true := by
      unfold StartRequest.addressed
      rw [show version (request fields distinct).requestId = 7 from version_seven]
      rfl
    rw [intent_hash, if_pos address]
    change outcome formats (.object fields) = _
    unfold outcome
    rw [form, Option.bind_some, digested_hash, if_pos ⟨passes, low, few⟩, order, hashed_complete]
  obtain ⟨intent, found, -⟩ := Option.map_eq_some_iff.mp hash
  exact ⟨intent, found, form⟩

end Sample

/-- The film has one hash however its defaults are written, and another through HLS. -/
theorem film_recognised :
    (Sample.short.intent Sample.formats).map (·.hash) = (Sample.long.intent Sample.formats).map (·.hash) ∧
    ∃ left right, Sample.short.intent Sample.formats = some left ∧ Sample.forced.intent Sample.formats = some right ∧
      left.hash ≠ right.hash := by
  obtain ⟨alike, apart⟩ := intent_identity Sample.formats Sample.faithful
  obtain ⟨left, first, own⟩ := @Sample.accepted _ Sample.short.selection.distinct false (by decide) rfl
    (by decide +kernel) (by decide +kernel) (by decide +kernel)
  obtain ⟨right, second, other⟩ := @Sample.accepted _ Sample.forced.selection.distinct true (by decide) rfl
    (by decide +kernel) (by decide +kernel) (by decide +kernel)
  refine ⟨alike _ _ rfl Sample.short_alike_long, left, right, first, second, ?_⟩
  refine apart _ _ left right _ _ first second own other fun same => ?_
  have forms := same.sorted_eq (normalised_distinct Sample.short.selection.distinct own)
  exact Sample.complete_differ forms

end Duskcue.StartIntent
