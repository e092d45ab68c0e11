import Mathlib.Data.List.DropRight

/-! The entity tags of a conditional request. The scanner of the joined header values takes
the lists of the grammar, and a version is current if it is among their strong tags. -/
namespace Duskcue.Preconditions

/-- The bytes of header values: tabs, spaces, visible characters and those beyond ASCII. -/
def Legal (bytes : List UInt8) : Prop := ∀ b ∈ bytes, b = 9 ∨ 32 ≤ b ∧ b ≠ 127

instance (bytes : List UInt8) : Decidable (Legal bytes) := List.decidableBAll _ bytes

structure HeaderValue where
  bytes : List UInt8
  allowed : Legal bytes

/-- The two headers of a `HeaderMap`. -/
structure Headers where
  ifMatch : List HeaderValue
  ifNoneMatch : List HeaderValue

inductive AssignmentError where
  | invalidRequest
  | conditionRequired
  | stale

inductive Condition where
  | create
  | tags (strong : List (List UInt8))
  deriving DecidableEq

/-- `is_ascii_whitespace`. -/
def isSpace (b : UInt8) : Bool := b = 32 || b = 9 || b = 10 || b = 12 || b = 13

/-- `trim_ascii_start`. -/
def trimStart (bytes : List UInt8) : List UInt8 := bytes.dropWhile isSpace

/-- `trim_ascii`. -/
def trim (bytes : List UInt8) : List UInt8 := (trimStart bytes).rdropWhile isSpace

theorem trimStart_length (bytes : List UInt8) : (trimStart bytes).length ≤ bytes.length :=
  (List.dropWhile_suffix isSpace).length_le

/-- The values joined by commas, as far as they fit. -/
def join : List UInt8 → List HeaderValue → Except AssignmentError (List UInt8)
  | bytes, [] => .ok bytes
  | bytes, value :: values =>
    if 1024 < bytes.length + value.bytes.length + (if bytes = [] then 0 else 1) then .error .invalidRequest
    else join ((if bytes = [] then bytes else bytes ++ [44]) ++ value.bytes) values

/-- A quoted text at the front, and what follows it. -/
def quoted : List UInt8 → Option (List UInt8 × List UInt8)
  | 34 :: rest =>
    match rest.dropWhile (· ≠ 34) with
    | [] => none
    | _ :: after => some (rest.takeWhile (· ≠ 34), after)
  | _ => none

theorem quoted_eq_some :
    quoted bytes = some (text, after) ↔ bytes = 34 :: (text ++ 34 :: after) ∧ 34 ∉ text := by
  constructor
  · intro found
    unfold quoted at found
    split at found
    · rename_i rest
      have parts := List.takeWhile_append_dropWhile (p := (· ≠ 34)) (l := rest)
      split at found
      · cases found
      · rename_i b later left
        simp only [Option.some.injEq, Prod.mk.injEq] at found
        obtain ⟨rfl, rfl⟩ := found
        have quote := List.head?_dropWhile_not (· ≠ 34) rest
        rw [left] at quote parts
        rw [show b = 34 by simpa using quote] at parts
        exact ⟨congrArg _ parts.symm, fun member => by simpa using List.mem_takeWhile_imp member⟩
    · cases found
  · rintro ⟨rfl, absent⟩
    have plain : ∀ c ∈ text, decide (c ≠ 34) = true :=
      fun c member => decide_eq_true fun quote => absent (quote ▸ member)
    simp only [quoted, List.dropWhile_append_of_pos plain, List.takeWhile_append_of_pos plain]
    simp

theorem quoted_length (found : quoted bytes = some (text, after)) : after.length < bytes.length := by
  rw [(quoted_eq_some.mp found).1]
  simp only [List.length_cons, List.length_append]
  omega

/-- Whether the tag in front is weak. -/
def isWeak (bytes : List UInt8) : Bool := [87, 47].isPrefixOf bytes

/-- The tag in front without its `W/`. -/
def unmarked (bytes : List UInt8) : List UInt8 := if isWeak bytes then bytes.drop 2 else bytes

theorem unmarked_length (bytes : List UInt8) : (unmarked bytes).length ≤ bytes.length := by
  unfold unmarked
  split
  · exact List.length_drop ▸ Nat.sub_le _ _
  · exact le_rfl

/-- The loop of `condition`. -/
def scan (strong : List (List UInt8)) (parsed : Bool) (rest : List UInt8) :
    Except AssignmentError (List (List UInt8) × Bool) :=
  if rest = [] then .ok (strong, parsed)
  else match _start : trimStart rest with
    | 44 :: more => scan strong parsed more
    | start =>
      match _found : quoted (unmarked start) with
      | none => .error .invalidRequest
      | some (text, after) =>
        if text.any (fun b => b < 0x21 || b = 0x7f) then .error .invalidRequest
        else
          let strong := if isWeak start then strong else strong ++ [34 :: (text ++ [34])]
          match _rest : trimStart after with
          | [] => .ok (strong, true)
          | b :: more => if b ≠ 44 then .error .invalidRequest else scan strong true more
termination_by rest.length
decreasing_by
  · have shorter := trimStart_length rest
    rw [_start, List.length_cons] at shorter
    omega
  · have shorter := trimStart_length rest
    have tag := quoted_length _found
    have trimmed := trimStart_length after
    have dropped := unmarked_length start
    rw [_rest, List.length_cons] at trimmed
    rw [_start] at shorter
    omega

/-- `condition`. -/
def condition (headers : Headers) (create : Bool) : Except AssignmentError Condition := do
  let required := if create then headers.ifNoneMatch else headers.ifMatch
  let other := if create then headers.ifMatch else headers.ifNoneMatch
  if other ≠ [] then throw .invalidRequest
  let bytes ← join [] required
  if bytes = [] then throw .conditionRequired
  let bytes := trim bytes
  if create then if bytes = [42] then return .create else throw .invalidRequest
  if bytes = [42] then throw .conditionRequired
  let (strong, parsed) ← scan [] false bytes
  if !parsed then throw .invalidRequest
  return .tags strong

/-- `check`. -/
def Condition.check (condition : Condition) (current : Option (List UInt8)) : Except AssignmentError Unit :=
  match condition, current with
  | .create, none => .ok ()
  | .tags strong, some current => if strong.any (· = current) then .ok () else .error .stale
  | _, _ => .error .stale

/-- Spaces and tabs. -/
def Blank (bytes : List UInt8) : Prop := ∀ b ∈ bytes, b = 32 ∨ b = 9

instance (bytes : List UInt8) : Decidable (Blank bytes) := List.decidableBAll _ bytes

/-- The characters of a tag. -/
def Etagc (text : List UInt8) : Prop := ∀ c ∈ text, c = 0x21 ∨ 0x23 ≤ c ∧ c ≠ 0x7f

instance (text : List UInt8) : Decidable (Etagc text) := List.decidableBAll _ text

/-- An entity tag of the grammar. -/
structure EntityTag where
  weak : Bool
  text : List UInt8
  etagc : Etagc text

def EntityTag.opaqueTag (tag : EntityTag) : List UInt8 := 34 :: (tag.text ++ [34])

def EntityTag.bytes (tag : EntityTag) : List UInt8 := (if tag.weak then [87, 47] else []) ++ tag.opaqueTag

/-- One element of a list; it may be empty. -/
structure Element where
  before : List UInt8
  tag : Option EntityTag
  after : List UInt8
  blankBefore : Blank before
  blankAfter : Blank after

def Element.bytes (element : Element) : List UInt8 :=
  element.before ++ element.tag.elim [] EntityTag.bytes ++ element.after

/-- The list grammar: which tags a value spells. -/
inductive Spells : List UInt8 → List EntityTag → Prop
  | last (element : Element) : Spells element.bytes element.tag.toList
  | more (element : Element) {value : List UInt8} {tags : List EntityTag} (rest : Spells value tags) :
    Spells (element.bytes ++ 44 :: value) (element.tag.toList ++ tags)

section Grammar
variable {bytes value : List UInt8} {tags : List EntityTag}

theorem blank_space (blank : Blank bytes) : ∀ b ∈ bytes, isSpace b := by
  intro b member
  rcases blank b member with rfl | rfl <;> rfl

theorem trimStart_blank (blank : Blank bytes) (value : List UInt8) :
    trimStart (bytes ++ value) = trimStart value :=
  List.dropWhile_append_of_pos (blank_space blank)

theorem tag_front (tag : EntityTag) : ∃ b rest, tag.bytes = b :: rest ∧ isSpace b = false := by
  unfold EntityTag.bytes EntityTag.opaqueTag
  cases tag.weak
  · exact ⟨34, _, rfl, rfl⟩
  · exact ⟨87, _, rfl, rfl⟩

theorem trimStart_tag (tag : EntityTag) (value : List UInt8) : trimStart (tag.bytes ++ value) = tag.bytes ++ value := by
  obtain ⟨b, rest, shape, solid⟩ := tag_front tag
  rw [shape]
  simp [trimStart, solid]

theorem trimStart_comma (value : List UInt8) : trimStart (44 :: value) = 44 :: value := by
  rw [trimStart, List.dropWhile_cons_of_neg (by decide)]

/-- Blanks in front of a list belong to its first element. -/
theorem spells_blank (blank : Blank bytes) (spelled : Spells value tags) : Spells (bytes ++ value) tags := by
  have wider (element : Element) : Blank (bytes ++ element.before) := fun b member =>
    (List.mem_append.mp member).elim (blank b) (element.blankBefore b)
  cases spelled with
  | last element =>
    have moved := Spells.last ⟨bytes ++ element.before, element.tag, element.after, wider element, element.blankAfter⟩
    simpa only [Element.bytes, List.append_assoc] using moved
  | more element rest =>
    have moved := Spells.more ⟨bytes ++ element.before, element.tag, element.after, wider element,
      element.blankAfter⟩ rest
    simpa only [Element.bytes, List.append_assoc] using moved

theorem spells_after (blank : Blank bytes) (spelled : Spells value tags) : Spells (value ++ bytes) tags := by
  induction spelled with
  | last element =>
    have wider : Blank (element.after ++ bytes) := fun b member =>
      (List.mem_append.mp member).elim (element.blankAfter b) (blank b)
    have moved := Spells.last ⟨element.before, element.tag, element.after ++ bytes, element.blankBefore, wider⟩
    simpa only [Element.bytes, List.append_assoc] using moved
  | more element _ ih => simpa only [List.append_assoc, List.cons_append] using Spells.more element ih

theorem spells_trimStart (spelled : Spells value tags) : Spells (trimStart value) tags := by
  have empty : Blank [] := fun _ member => nomatch member
  cases spelled with
  | last element =>
    obtain ⟨before, tag, after, blankBefore, blankAfter⟩ := element
    simp only [Element.bytes, List.append_assoc]
    rw [trimStart_blank blankBefore]
    cases tag with
    | none =>
      have gone := trimStart_blank blankAfter []
      rw [List.append_nil] at gone
      show Spells (trimStart after) []
      rw [gone]
      exact Spells.last ⟨[], none, [], empty, empty⟩
    | some tag =>
      show Spells (trimStart (tag.bytes ++ after)) _
      rw [trimStart_tag]
      exact Spells.last ⟨[], some tag, after, empty, blankAfter⟩
  | more element rest =>
    obtain ⟨before, tag, after, blankBefore, blankAfter⟩ := element
    simp only [Element.bytes, List.append_assoc]
    rw [trimStart_blank blankBefore]
    cases tag with
    | none =>
      show Spells (trimStart (after ++ 44 :: _)) _
      rw [trimStart_blank blankAfter, trimStart_comma]
      exact Spells.more ⟨[], none, [], empty, empty⟩ rest
    | some tag =>
      show Spells (trimStart (tag.bytes ++ (after ++ 44 :: _))) _
      rw [trimStart_tag]
      have kept := Spells.more ⟨[], some tag, after, empty, blankAfter⟩ rest
      simpa only [Element.bytes, List.append_assoc, List.nil_append, Option.elim] using kept

theorem element_comma (element : Element) {rest : List UInt8} (shape : element.bytes ++ rest = 44 :: value) :
    element.bytes = [] ∧ element.tag = none := by
  obtain ⟨before, tag, after, blankBefore, blankAfter⟩ := element
  simp only [Element.bytes, List.append_assoc] at shape ⊢
  cases before with
  | cons =>
    obtain ⟨rfl, -⟩ := List.cons.inj shape
    rcases blankBefore 44 (by simp) with comma | comma <;> cases comma
  | nil =>
    cases tag with
    | some tag =>
      obtain ⟨b, text, front, _⟩ := tag_front tag
      cases tag with
      | mk weak =>
        cases weak <;> cases (List.cons.inj shape).1
    | none =>
      cases after with
      | nil => exact ⟨rfl, rfl⟩
      | cons =>
        obtain ⟨rfl, -⟩ := List.cons.inj shape
        rcases blankAfter 44 (by simp) with comma | comma <;> cases comma

theorem spells_comma : Spells (44 :: value) tags ↔ Spells value tags := by
  constructor
  · intro spelled
    generalize shape : 44 :: value = whole at spelled
    cases spelled with
    | last element =>
      have front := (@element_comma _ element [] (by rw [List.append_nil, ← shape])).1
      rw [front] at shape
      cases shape
    | more element rest =>
      obtain ⟨front, untagged⟩ := element_comma element shape.symm
      rw [front, List.nil_append, List.cons.injEq] at shape
      rw [untagged, shape.2]
      exact rest
  · intro spelled
    have empty : Blank [] := fun _ member => nomatch member
    exact Spells.more ⟨[], none, [], empty, empty⟩ spelled

end Grammar

section Scan
variable {strong : List (List UInt8)} {parsed : Bool} {rest after : List UInt8}

/-- What a tag leaves for the comparison. -/
def EntityTag.kept (tag : EntityTag) : List (List UInt8) := if tag.weak then [] else [tag.opaqueTag]

theorem scan_nil : scan strong parsed [] = .ok (strong, parsed) := by
  rw [scan, if_pos rfl]

theorem scan_comma (comma : trimStart rest = 44 :: more) :
    scan strong parsed rest = scan strong parsed more := by
  have some : rest ≠ [] := by
    rintro rfl
    cases comma
  rw [scan, if_neg some]
  split
  · rename_i found
    rw [comma] at found
    rw [(List.cons.inj found).2]
  · rename_i other
    exact absurd comma (other more)

theorem isWeak_tag (tag : EntityTag) : isWeak (tag.bytes ++ after) = tag.weak := by
  obtain ⟨weak, text, etagc⟩ := tag
  cases weak <;> simp [isWeak, EntityTag.bytes, EntityTag.opaqueTag, List.isPrefixOf]

theorem unmarked_tag (tag : EntityTag) : unmarked (tag.bytes ++ after) = tag.opaqueTag ++ after := by
  rw [unmarked, isWeak_tag]
  obtain ⟨weak, text, etagc⟩ := tag
  cases weak <;> simp [EntityTag.bytes]

theorem quoted_tag (tag : EntityTag) : quoted (tag.opaqueTag ++ after) = some (tag.text, after) := by
  refine quoted_eq_some.mpr ⟨by simp [EntityTag.opaqueTag], fun quote => ?_⟩
  rcases tag.etagc 34 quote with wrong | ⟨low, -⟩
  · cases wrong
  · exact absurd low (by decide)

/-- The characters that the loop lets through are the grammar's. -/
theorem legal_text (whole : 34 ∉ text) : text.any (fun b => b < 0x21 || b = 0x7f) = false ↔ Etagc text := by
  simp only [Etagc, List.any_eq_false, Bool.or_eq_true, decide_eq_true_eq, not_or, UInt8.not_lt]
  refine forall₂_congr fun c member => ?_
  have plain : c ≠ 34 := fun quote => whole (quote ▸ member)
  have value : c.toNat ≠ 34 := fun same => plain (UInt8.toNat_inj.mp same)
  simp only [UInt8.le_iff_toNat_le, ← UInt8.toNat_inj, ne_eq]
  show 33 ≤ c.toNat ∧ _ ↔ c.toNat = 33 ∨ 35 ≤ c.toNat ∧ _
  constructor
  · rintro ⟨low, other⟩
    by_cases first : c.toNat = 33
    · exact .inl first
    · exact .inr ⟨by omega, other⟩
  · rintro (first | ⟨low, other⟩)
    · rw [first]
      decide
    · exact ⟨by omega, other⟩

theorem scan_tag (tag : EntityTag) (front : trimStart rest = tag.bytes ++ after) :
    scan strong parsed rest = match trimStart after with
      | [] => .ok (strong ++ tag.kept, true)
      | b :: more => if b ≠ 44 then .error .invalidRequest else scan (strong ++ tag.kept) true more := by
  have some : rest ≠ [] := by
    rintro rfl
    obtain ⟨b, text, shape, -⟩ := tag_front tag
    rw [shape] at front
    cases front
  rw [scan, if_neg some]
  split
  · rename_i more comma
    obtain ⟨text, left⟩ : ∃ text, tag.bytes ++ after = 44 :: text := ⟨more, front.symm.trans comma⟩
    obtain ⟨weak, text, etagc⟩ := tag
    cases weak <;> cases (List.cons.inj left).1
  · have found : quoted (unmarked (trimStart rest)) = Option.some (tag.text, after) := by
      rw [front, unmarked_tag, quoted_tag]
    split
    · rename_i missing
      rw [found] at missing
      cases missing
    · rename_i text later again
      rw [found] at again
      cases again
      have whole := (quoted_eq_some.mp (@quoted_tag after tag)).2
      rw [if_neg (by rw [(legal_text whole).mpr tag.etagc]; exact Bool.false_ne_true)]
      have kept : (if isWeak (trimStart rest) = true then strong else strong ++ [34 :: (tag.text ++ [34])]) =
          strong ++ tag.kept := by
        rw [front, isWeak_tag, EntityTag.kept, EntityTag.opaqueTag]
        cases tag.weak <;> simp
      rw [kept]
      split <;> rename_i left <;> rw [left]

theorem trimEnd_solid (solid : isSpace b = false) (front rest : List UInt8) :
    (front ++ b :: rest).rdropWhile isSpace = front ++ b :: rest.rdropWhile isSpace := by
  induction rest using List.reverseRecOn with
  | nil =>
    rw [List.rdropWhile_concat_neg _ _ _ (by simp [solid])]
    rfl
  | append_singleton _ c ih =>
    rw [← List.cons_append, ← List.append_assoc]
    by_cases space : isSpace c
    · rw [List.rdropWhile_concat_pos _ _ _ space, List.rdropWhile_concat_pos _ _ _ space, ih]
    · rw [List.rdropWhile_concat_neg _ _ _ space, List.rdropWhile_concat_neg _ _ _ space]
      simp

theorem trimEnd_blank (blank : Blank bytes) : bytes.rdropWhile isSpace = [] :=
  List.rdropWhile_eq_nil_iff.mpr (blank_space blank)

theorem trimEnd_tag (tag : EntityTag) (before : List UInt8) (blank : Blank after) :
    (before ++ tag.bytes ++ after).rdropWhile isSpace = before ++ tag.bytes := by
  have shape : before ++ tag.bytes ++ after =
      (before ++ (if tag.weak then [87, 47] else []) ++ 34 :: tag.text) ++ 34 :: after := by
    simp [EntityTag.bytes, EntityTag.opaqueTag]
  rw [shape, trimEnd_solid (by rfl), trimEnd_blank blank]
  simp [EntityTag.bytes, EntityTag.opaqueTag]

/-- The loop takes every list of the grammar that does not end in blanks. -/
theorem scan_spelled (spelled : Spells value tags) (strong : List (List UInt8)) (parsed : Bool) :
    scan strong parsed (value.rdropWhile isSpace) =
      .ok (strong ++ tags.flatMap EntityTag.kept, parsed || !tags.isEmpty) := by
  induction spelled generalizing strong parsed with
  | last element =>
    obtain ⟨before, tag, after, blankBefore, blankAfter⟩ := element
    cases tag with
    | none =>
      have blank : Blank (before ++ [] ++ after) := fun b member => by
        rw [List.append_nil] at member
        exact (List.mem_append.mp member).elim (blankBefore b) (blankAfter b)
      show scan strong parsed ((before ++ [] ++ after).rdropWhile isSpace) = _
      rw [trimEnd_blank blank, scan_nil]
      simp
    | some tag =>
      show scan strong parsed ((before ++ tag.bytes ++ after).rdropWhile isSpace) = _
      have front : trimStart (before ++ tag.bytes) = tag.bytes ++ [] := by
        rw [trimStart_blank blankBefore]
        simpa only [List.append_nil] using trimStart_tag tag []
      rw [trimEnd_tag tag before blankAfter, scan_tag tag front]
      simp [trimStart]
  | more element rest ih =>
    rename_i value tags
    obtain ⟨before, tag, after, blankBefore, blankAfter⟩ := element
    rw [trimEnd_solid (by rfl)]
    cases tag with
    | none =>
      have comma : trimStart (before ++ [] ++ after ++ 44 :: value.rdropWhile isSpace) =
          44 :: value.rdropWhile isSpace := by
        rw [List.append_nil, List.append_assoc, trimStart_blank blankBefore, trimStart_blank blankAfter,
          trimStart_comma]
      exact (scan_comma comma).trans (ih strong parsed)
    | some tag =>
      have front : trimStart (before ++ tag.bytes ++ after ++ 44 :: value.rdropWhile isSpace) =
          tag.bytes ++ (after ++ 44 :: value.rdropWhile isSpace) := by
        rw [List.append_assoc, List.append_assoc, trimStart_blank blankBefore, trimStart_tag]
      refine (scan_tag tag front).trans ?_
      rw [trimStart_blank blankAfter, trimStart_comma]
      show scan (strong ++ tag.kept) true (value.rdropWhile isSpace) = _
      rw [ih]
      simp

/-- Header values have no other white space than the grammar's. -/
theorem blank_legal (legal : Legal bytes) (spaces : ∀ b ∈ bytes, isSpace b) : Blank bytes := by
  intro b member
  have space := spaces b member
  simp only [isSpace, Bool.or_eq_true, decide_eq_true_eq] at space
  rcases space with (((rfl | rfl) | rfl) | rfl) | rfl
  · exact .inl rfl
  · exact .inr rfl
  all_goals
    rcases legal _ member with other | ⟨low, -⟩
    · cases other
    · exact absurd low (by decide)

theorem trimStart_legal (legal : Legal bytes) : ∃ blank, Blank blank ∧ bytes = blank ++ trimStart bytes := by
  refine ⟨bytes.takeWhile isSpace, blank_legal (fun b member => legal b ?_) fun b member => ?_,
    List.takeWhile_append_dropWhile.symm⟩
  · exact (List.takeWhile_prefix isSpace).subset member
  · exact List.mem_takeWhile_imp member

theorem legal_after (legal : Legal (front ++ bytes)) : Legal bytes :=
  fun b member => legal b (List.mem_append_right front member)

theorem legal_tail (legal : Legal (b :: bytes)) : Legal bytes :=
  fun c member => legal c (List.mem_cons_of_mem b member)

theorem front_tag (found : quoted (unmarked start) = some (text, after))
    (fine : ¬text.any (fun b => b < 0x21 || b = 0x7f) = true) : ∃ tag : EntityTag, start = tag.bytes ++ after := by
  obtain ⟨shape, whole⟩ := quoted_eq_some.mp found
  have etagc := (legal_text whole).mp (Bool.eq_false_iff.mpr fine)
  unfold unmarked at shape
  split at shape
  · rename_i weak
    obtain ⟨rest, rfl⟩ := List.isPrefixOf_iff_prefix.mp weak
    refine ⟨⟨true, text, etagc⟩, ?_⟩
    have dropped : List.drop 2 ([87, 47] ++ rest) = rest := rfl
    rw [dropped] at shape
    simp [shape, EntityTag.bytes, EntityTag.opaqueTag]
  · refine ⟨⟨false, text, etagc⟩, ?_⟩
    simp [shape, EntityTag.bytes, EntityTag.opaqueTag]

/-- What the loop accepts is a list of the grammar. -/
theorem scan_spells (legal : Legal rest)
    (done : scan strong parsed rest = .ok result) : ∃ tags, Spells rest tags := by
  have empty : Blank [] := fun _ member => nomatch member
  fun_induction scan strong parsed rest with
  | case1 => exact ⟨_, Spells.last ⟨[], none, [], empty, empty⟩⟩
  | case2 _ _ _ _ _ comma ih =>
    obtain ⟨blank, isBlank, shape⟩ := trimStart_legal legal
    rw [comma] at shape
    rw [shape] at legal ⊢
    obtain ⟨tags, later⟩ := ih (legal_tail (legal_after legal)) done
    exact ⟨tags, spells_blank isBlank (spells_comma.mpr later)⟩
  | case5 _ _ _ _ _ _ fine last _ found =>
    obtain ⟨blank, isBlank, shape⟩ := trimStart_legal legal
    obtain ⟨tag, front⟩ := front_tag found fine
    rw [front] at shape
    rw [shape] at legal ⊢
    obtain ⟨behind, isBehind, tail⟩ := trimStart_legal (legal_after (legal_after legal))
    rw [last, List.append_nil] at tail
    refine ⟨[tag], spells_blank isBlank ?_⟩
    rw [tail]
    exact Spells.last ⟨[], Option.some tag, behind, empty, isBehind⟩
  | case7 _ _ _ _ _ _ fine b _ next comma _ found _ ih =>
    obtain ⟨blank, isBlank, shape⟩ := trimStart_legal legal
    obtain ⟨tag, front⟩ := front_tag found fine
    rw [front] at shape
    rw [shape] at legal ⊢
    obtain ⟨behind, isBehind, tail⟩ := trimStart_legal (legal_after (legal_after legal))
    rw [next, not_not.mp comma] at tail
    rw [tail] at legal ⊢
    have lawful := legal_after (legal_after (legal_after legal))
    obtain ⟨tags, later⟩ := ih (legal_tail lawful) done
    refine ⟨tag :: tags, spells_blank isBlank ?_⟩
    have joined := Spells.more ⟨[], Option.some tag, behind, empty, isBehind⟩ later
    simp only [Element.bytes, List.append_assoc] at joined
    exact joined
  | case3 | case4 | case6 => cases done

end Scan

/-- The field value of the grammar: the values joined by commas. -/
def fieldValue (values : List HeaderValue) : List UInt8 := [44].intercalate (values.map HeaderValue.bytes)

section Join
variable {bytes : List UInt8} {values : List HeaderValue}

/-- The values after the first, each behind its comma. -/
def others (values : List HeaderValue) : List UInt8 := values.flatMap fun value => 44 :: value.bytes

theorem join_more (some : bytes ≠ []) (short : (bytes ++ others values).length ≤ 1024) :
    join bytes values = .ok (bytes ++ others values) := by
  induction values generalizing bytes with
  | nil => simp [join, others]
  | cons value values ih =>
    simp only [others, List.flatMap_cons, List.length_append, List.length_cons] at short
    have longer : bytes ++ [44] ++ value.bytes ≠ [] := by simp
    have room : (bytes ++ [44] ++ value.bytes ++ others values).length ≤ 1024 := by
      simp only [others, List.length_append, List.length_cons, List.length_nil]
      omega
    rw [join, if_neg some, if_neg some, if_neg (by omega), ih longer room]
    simp [others]

theorem fieldValue_cons (value : HeaderValue) (values : List HeaderValue) :
    fieldValue (value :: values) = value.bytes ++ others values := by
  induction values generalizing value with
  | nil => simp [fieldValue, others]
  | cons next _ ih =>
    have later := ih next
    simp only [fieldValue, List.map_cons, List.intercalate_cons_cons] at later ⊢
    rw [later]
    simp [others]

/-- The code leaves out the commas of empty values in front, which are empty elements. -/
theorem join_fits (short : (fieldValue values).length ≤ 1024) :
    ∃ bytes, join [] values = .ok bytes ∧ Legal bytes ∧
      ∀ tags, Spells bytes tags ↔ Spells (fieldValue values) tags := by
  induction values with
  | nil => exact ⟨[], rfl, (fun _ member => nomatch member), fun tags => Iff.rfl⟩
  | cons value values ih =>
    rw [fieldValue_cons] at short ⊢
    have room : ¬1024 < ([] : List UInt8).length + value.bytes.length + (if ([] : List UInt8) = [] then 0 else 1) := by
      simp only [List.length_append] at short
      simp
      omega
    rw [join, if_neg room, if_pos rfl, List.nil_append]
    by_cases blank : value.bytes = []
    · rw [blank] at short ⊢
      cases values with
      | nil => exact ⟨[], rfl, (fun _ member => nomatch member), fun tags => Iff.rfl⟩
      | cons =>
        rw [fieldValue_cons] at ih
        simp only [others, List.flatMap_cons, List.nil_append, List.cons_append, List.length_cons] at short ih ⊢
        obtain ⟨bytes, joined, legal, same⟩ := ih (by omega)
        exact ⟨bytes, joined, legal, fun tags => (same tags).trans spells_comma.symm⟩
    · refine ⟨_, join_more blank short, fun b member => ?_, fun tags => Iff.rfl⟩
      rcases List.mem_append.mp member with first | later
      · exact value.allowed b first
      · obtain ⟨next, -, inside⟩ := List.mem_flatMap.mp later
        rcases List.mem_cons.mp inside with rfl | inside
        · decide
        · exact next.allowed b inside

end Join

section Condition
variable {headers : Headers} {tags : List EntityTag}

theorem trim_legal (legal : Legal bytes) :
    ∃ before after, Blank before ∧ Blank after ∧ bytes = before ++ (trim bytes ++ after) := by
  obtain ⟨before, isBlank, shape⟩ := trimStart_legal legal
  refine ⟨before, (trimStart bytes).rtakeWhile isSpace, isBlank, blank_legal (fun b member => ?_) ?_, ?_⟩
  · exact legal b (shape ▸ List.mem_append_right before ((List.rtakeWhile_suffix isSpace _).subset member))
  · exact fun b member => List.mem_rtakeWhile_imp member
  · rw [trim, List.rdropWhile_append_rtakeWhile, ← shape]

theorem spells_trim (legal : Legal bytes) (spelled : Spells (trim bytes) tags) : Spells bytes tags := by
  obtain ⟨before, after, isBefore, isAfter, shape⟩ := trim_legal legal
  rw [shape]
  exact spells_blank isBefore (spells_after isAfter spelled)

/-- The loop over the trimmed value of a list. -/
theorem scan_trim (spelled : Spells bytes tags) :
    scan [] false (trim bytes) = .ok (tags.flatMap EntityTag.kept, !tags.isEmpty) :=
  scan_spelled (spells_trimStart spelled) [] false

theorem star_unread : scan [] false [42] = .error .invalidRequest := by
  rw [scan]
  rfl

theorem star_unspelled : ¬Spells [42] tags := by
  intro spelled
  have read := scan_spelled spelled [] false
  rw [show List.rdropWhile isSpace [42] = [42] by rfl, star_unread] at read
  cases read

/-- A tag that is compared is a strong one of the list. -/
theorem check_kept :
    (Condition.tags (tags.flatMap EntityTag.kept)).check (some current) = .ok () ↔
    ∃ tag ∈ tags, tag.weak = false ∧ tag.bytes = current := by
  have compared : (tags.flatMap EntityTag.kept).any (· = current) = true ↔
      ∃ tag ∈ tags, tag.weak = false ∧ tag.bytes = current := by
    simp only [List.any_eq_true, List.mem_flatMap, decide_eq_true_eq]
    constructor
    · rintro ⟨kept, ⟨tag, member, inside⟩, rfl⟩
      refine ⟨tag, member, ?_⟩
      unfold EntityTag.kept at inside
      split at inside
      · cases inside
      · rename_i strong
        rw [List.mem_singleton.mp inside]
        simp [EntityTag.bytes, Bool.eq_false_iff.mpr strong]
    · rintro ⟨tag, member, strong, rfl⟩
      refine ⟨tag.bytes, ⟨tag, member, ?_⟩, rfl⟩
      simp [EntityTag.kept, EntityTag.bytes, strong]
  simp only [Condition.check]
  rw [← compared]
  split <;> simp [*]

theorem check_weak {tag : EntityTag} (weak : tag.weak = true) :
    (Condition.tags (tags.flatMap EntityTag.kept)).check (some tag.bytes) = .error .stale := by
  have missed : ¬(Condition.tags (tags.flatMap EntityTag.kept)).check (some tag.bytes) = .ok () := by
    rw [check_kept]
    rintro ⟨other, -, strong, same⟩
    simp [EntityTag.bytes, EntityTag.opaqueTag, weak, strong] at same
  simp only [Condition.check] at missed ⊢
  split at missed
  · exact absurd rfl missed
  · rename_i unlisted
    rw [if_neg unlisted]

/-- Two readings of one value have the same strong tags. -/
theorem kept_unique {others : List EntityTag} (one : Spells value tags)
    (two : Spells value others) : tags.flatMap EntityTag.kept = others.flatMap EntityTag.kept := by
  have read := (scan_spelled one [] false).symm.trans (scan_spelled two [] false)
  simpa using congrArg Prod.fst (Except.ok.inj read)

/-- A list with a tag is kept for its strong tags. -/
theorem condition_list (alone : headers.ifNoneMatch = []) (short : (fieldValue headers.ifMatch).length ≤ 1024)
    (spelled : Spells (fieldValue headers.ifMatch) tags) (some : tags ≠ []) :
    condition headers false = .ok (.tags (tags.flatMap EntityTag.kept)) := by
  obtain ⟨bytes, joined, legal, same⟩ := join_fits short
  have read := scan_trim ((same tags).mpr spelled)
  have parsed : (!tags.isEmpty) = true := by simpa using some
  rw [parsed] at read
  have full : bytes ≠ [] := by
    rintro rfl
    rw [show trim [] = [] by rfl, scan_nil] at read
    exact Bool.false_ne_true (congrArg Prod.snd (Except.ok.inj read))
  have unstarred : trim bytes ≠ [42] := by
    intro star
    rw [star, star_unread] at read
    cases read
  simp [condition, alone, joined, full, unstarred, read, bind, Except.bind, pure, Except.pure]

/-- Only a list with a tag is kept. -/
theorem condition_ok (short : (fieldValue headers.ifMatch).length ≤ 1024)
    (done : condition headers false = .ok result) : ∃ tags, tags ≠ [] ∧ Spells (fieldValue headers.ifMatch) tags := by
  obtain ⟨bytes, joined, legal, same⟩ := join_fits short
  simp only [condition, Bool.false_eq_true, if_false, bind, Except.bind, pure, Except.pure, throw, throwThe,
    MonadExceptOf.throw, joined] at done
  split at done
  · cases done
  split at done
  · cases done
  split at done
  · cases done
  split at done
  · cases done
  · rename_i read
    split at done
    · cases done
    · rename_i unread
      obtain ⟨before, after, -, -, shape⟩ := trim_legal legal
      have inner : Legal (trim bytes) := fun b member =>
        legal b (by rw [shape]; exact List.mem_append_right _ (List.mem_append_left _ member))
      obtain ⟨tags, spelled⟩ := scan_spells inner read
      have outer := spells_trim legal spelled
      refine ⟨tags, ?_, (same tags).mp outer⟩
      rintro rfl
      rw [scan_trim outer] at read
      cases read
      exact unread rfl

/-- An accepted list is one of the grammar with a tag, and a version is current if it is among
the strong ones. -/
theorem condition_exact (alone : headers.ifNoneMatch = []) (short : (fieldValue headers.ifMatch).length ≤ 1024) :
    ((∃ result, condition headers false = .ok result) ↔
      ∃ tags, tags ≠ [] ∧ Spells (fieldValue headers.ifMatch) tags ∧ fieldValue headers.ifMatch ≠ [42]) ∧
    ∀ result, condition headers false = .ok result → ∀ tags, Spells (fieldValue headers.ifMatch) tags →
      (∀ current, result.check (some current) = .ok () ↔ ∃ tag ∈ tags, tag.weak = false ∧ tag.bytes = current) ∧
      ∀ tag : EntityTag, tag.weak = true → result.check (some tag.bytes) = .error .stale := by
  refine ⟨⟨fun ⟨result, done⟩ => ?_, fun ⟨tags, tagged, spelled, _⟩ => ⟨_, condition_list alone short spelled tagged⟩⟩,
    fun result done tags spelled => ?_⟩
  · obtain ⟨tags, some, spelled⟩ := condition_ok short done
    refine ⟨tags, some, spelled, fun star => ?_⟩
    rw [star] at spelled
    exact star_unspelled spelled
  · obtain ⟨other, some, again⟩ := condition_ok short done
    rw [condition_list alone short again some, kept_unique again spelled] at done
    cases done
    exact ⟨fun current => check_kept, fun tag weak => check_weak weak⟩

end Condition

/-- The bytes of an ASCII text. -/
def ascii (text : String) : List UInt8 := text.toList.map fun c => c.toNat.toUInt8

/-- The headers `"a,b" ,W/"w"` and `, "v1", `. -/
def sample : Headers where
  ifMatch := [⟨ascii "\"a,b\" ,W/\"w\"", by decide⟩, ⟨ascii ", \"v1\", ", by decide⟩]
  ifNoneMatch := []

theorem sample_spells : Spells (fieldValue sample.ifMatch)
    [⟨false, ascii "a,b", by decide⟩, ⟨true, ascii "w", by decide⟩, ⟨false, ascii "v1", by decide⟩] :=
  .more ⟨[], some ⟨false, ascii "a,b", by decide⟩, [32], by decide, by decide⟩ <|
  .more ⟨[], some ⟨true, ascii "w", by decide⟩, [], by decide, by decide⟩ <|
  .more ⟨[], none, [], by decide, by decide⟩ <|
  .more ⟨[32], some ⟨false, ascii "v1", by decide⟩, [], by decide, by decide⟩ <|
  .last ⟨[32], none, [], by decide, by decide⟩

theorem sample_current : ∃ result, condition sample false = .ok result ∧
    result.check (some (ascii "\"v1\"")) = .ok () ∧ result.check (some (ascii "W/\"w\"")) = .error .stale := by
  obtain ⟨accepted, current⟩ := @condition_exact sample rfl (by decide)
  obtain ⟨result, done⟩ := accepted.mpr ⟨_, List.cons_ne_nil _ _, sample_spells, by decide⟩
  obtain ⟨compared, stale⟩ := current result done _ sample_spells
  refine ⟨result, done, (compared _).mpr ⟨⟨false, ascii "v1", by decide⟩, by simp, rfl, rfl⟩, ?_⟩
  exact stale ⟨true, ascii "w", by decide⟩ rfl

end Duskcue.Preconditions
