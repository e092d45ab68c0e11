import Duskcue.HlsManifest

/-! What a normalized playlist refers to. Every emitted line is one of four kinds
(`Bound`); the names bound to routes are made of characters that `replace` does
not confuse with the ones around them, so that the scoped text has the same lines
with the other base. A route of a master leads back to the variant it was
emitted for. -/
namespace Duskcue.Hls
open Playback (Uuid)
open Text

/-! ## The routes -/

/-- `[A-Za-z0-9_-]{1,64}`. -/
def RenditionName (name : List Char) : Prop :=
  1 ≤ name.length ∧ name.length ≤ 64 ∧ ∀ c ∈ name, c.isAlphanum = true ∨ c = '_' ∨ c = '-'

/-- `index.m3u8`, `init.mp4` or `seg_<digits>.m4s`. -/
inductive PublicFile : List Char → Prop
  | index : PublicFile "index.m3u8".toList
  | initialization : PublicFile "init.mp4".toList
  | segment (some : number ≠ []) (decimal : ∀ c ∈ number, c.isDigit = true) :
      PublicFile ("seg_".toList ++ number ++ ".m4s".toList)

def PublicPath (base path : List Char) : Prop :=
  ∃ rendition file, path = base ++ rendition ++ '/' :: file ∧ RenditionName rendition ∧ PublicFile file

def scopeBase (session : Uuid) : Option (Uuid × Uuid) → List Char
  | some (viewer, output) => outputBase viewer output
  | none => transcodeBase session

/-- A line that is neither blank nor a comment. -/
def Reference (line : List Char) : Prop := line ≠ [] ∧ line.head? ≠ some '#'

/-- The line has the attribute `URI="uri"`. -/
def QuotedUri (line uri : List Char) : Prop :=
  ∃ before after, line = before ++ "URI=\"".toList ++ uri ++ '"' :: after ∧ '"' ∉ uri

/-- The route leads back to the variant: the file requested through it is the directory
joined with the variant's URI, which stays in the directory. -/
def Resolves (content base uri emitted : List Char) : Prop :=
  ∃ name, emitted = base ++ name ++ "/index.m3u8".toList ∧ RenditionName name ∧
    (uri.splitOn '/').length ≤ 2 ∧ "..".toList ∉ uri.splitOn '/' ∧
    ∀ directory manifest sessionRendition,
      renditionPlaylist content directory manifest sessionRendition name = .ok (joinPath directory uri)

theorem ok_bind {α β : Type} {x : Except PlaybackError α} {f : α → Except PlaybackError β} {b : β} :
    (x >>= f) = .ok b ↔ ∃ a, x = .ok a ∧ f a = .ok b := by
  cases x with
  | error | ok => simp [bind, Except.bind]

/-! ## Names -/

variable {name uri path line emitted base : List Char} {session : Uuid}

theorem isAlpha_eq (c : Char) : c.isAlpha = (c.isUpper || c.isLower) := rfl

theorem isUpper_eq (c : Char) : c.isUpper = decide (c.val ≥ 'A'.val ∧ c.val ≤ 'Z'.val) := rfl

theorem isLower_eq (c : Char) : c.isLower = (c.val ≥ 'a'.val && c.val ≤ 'z'.val) := rfl

theorem isAlphanum_utf8Size {c : Char} (ascii : c.isAlphanum = true) : c.utf8Size = 1 := by
  rw [Char.utf8Size_eq_one_iff, UInt32.le_iff_toNat_le]
  simp only [Char.isAlphanum, isAlpha_eq, isUpper_eq, isLower_eq, Char.isDigit, Bool.or_eq_true,
    Bool.and_eq_true, decide_eq_true_eq, ge_iff_le, UInt32.le_iff_toNat_le] at ascii
  have upper : 'Z'.val.toNat = 90 := rfl
  have lower : 'z'.val.toNat = 122 := rfl
  have decimal : '9'.val.toNat = 57 := rfl
  have limit : (127 : UInt32).toNat = 127 := rfl
  omega

theorem byteLength_eq (single : ∀ c ∈ name, c.utf8Size = 1) : byteLength name = name.length := by
  unfold byteLength
  induction name with
  | nil => rfl
  | cons c _ ih =>
    rw [List.map_cons, List.sum_cons, ih fun c member => single c (by simp [member]), single c (by simp)]
    simp [Nat.add_comm]

theorem byteLength_letters (letters : ∀ c ∈ name, c.isAlphanum = true ∨ c = '_' ∨ c = '-') :
    byteLength name = name.length := by
  apply byteLength_eq
  intro c member
  rcases letters c member with letter | rfl | rfl
  · exact isAlphanum_utf8Size letter
  · rfl
  · rfl

theorem validateRendition_eq_ok : validateRendition name = .ok () ↔ RenditionName name := by
  have letters : (name.all fun c => c.isAlphanum || c = '_' || c = '-') = true ↔
      ∀ c ∈ name, c.isAlphanum = true ∨ c = '_' ∨ c = '-' := by
    simp [List.all_eq_true, or_assoc]
  unfold validateRendition RenditionName
  constructor
  · intro valid
    split at valid
    · cases valid
    · rename_i fits
      simp only [Bool.or_eq_true, not_or, Bool.not_eq_true', Bool.not_eq_false, decide_eq_true_eq] at fits
      obtain ⟨⟨some, short⟩, valid⟩ := fits
      rw [letters] at valid
      rw [byteLength_letters valid] at short
      have positive : name ≠ [] := by simpa using some
      exact ⟨List.length_pos_iff.mpr positive, by omega, valid⟩
  · rintro ⟨some, short, valid⟩
    have size := byteLength_letters valid
    have positive : name ≠ [] := List.length_pos_iff.mp some
    rw [letters.mpr valid, size]
    simp [positive, Nat.not_lt.mpr short]

theorem validateSegmentFilename_publicFile (valid : validateSegmentFilename name = .ok ()) : PublicFile name := by
  unfold validateSegmentFilename at valid
  split at valid
  · rename_i same
    rw [same]
    exact .initialization
  · split at valid
    · cases valid
    · rename_i fits
      simp only [Bool.or_eq_true, Bool.not_eq_true', not_or, Bool.not_eq_false, Option.any_eq_true] at fits
      obtain ⟨-, number, found, digits⟩ := fits
      obtain ⟨rest, starts, ends⟩ := Option.bind_eq_some_iff.mp found
      rw [stripPrefix_eq_some] at starts
      rw [stripSuffix_eq_some] at ends
      simp only [Bool.and_eq_true, Bool.not_eq_true', List.isEmpty_eq_false_iff, List.all_eq_true] at digits
      rw [starts, ends, ← List.append_assoc]
      exact .segment digits.1 digits.2

theorem variantReference_eq_ok {reference : List Char × List Char} :
    variantReference uri = .ok reference ↔
      ∃ name, variantName uri = some name ∧ RenditionName name ∧ reference = (name, uri) := by
  unfold variantReference
  cases named : variantName uri with
  | none => simp
  | some =>
    simp only [ok_bind, Option.some.injEq, exists_eq_left', Except.ok.injEq]
    constructor
    · rintro ⟨_, valid, rfl⟩
      exact ⟨validateRendition_eq_ok.mp valid, rfl⟩
    · rintro ⟨valid, rfl⟩
      exact ⟨(), validateRendition_eq_ok.mpr valid, rfl⟩

/-- A variant stays in the directory it is joined with. -/
theorem variantName_components (named : variantName uri = some name) (valid : RenditionName name) :
    (uri.splitOn '/').length ≤ 2 ∧ "..".toList ∉ uri.splitOn '/' := by
  have undotted : '.' ∉ name := by
    intro member
    rcases valid.2.2 '.' member with letter | same | same
    · revert letter
      decide
    · revert same
      decide
    · revert same
      decide
  have indexed : ∀ front : List Char, "..".toList ≠ front ++ "_index.m3u8".toList := by
    intro front same
    have length := congrArg List.length same
    rw [List.length_append] at length
    simp at length
  unfold variantName at named
  split at named
  · rename_i file shape
    rw [shape]
    rw [stripSuffix_eq_some] at named
    refine ⟨by simp, ?_⟩
    rw [List.mem_singleton, named]
    exact indexed name
  · rename_i rendition file shape
    split at named
    · rename_i known
      cases named
      rw [shape]
      refine ⟨by simp, ?_⟩
      simp only [List.mem_cons, List.not_mem_nil, or_false, not_or]
      constructor
      · rintro rfl
        exact undotted (by decide)
      · rcases known with rfl | rfl
        · decide
        · exact indexed _
    · cases named
  · cases named

/-! ## Lines -/

variable {rendition : List Char} {master : Bool} {variants variants' : List (List Char)}

/-- What `normalize_manifest` does with a trimmed line that it accepts. -/
inductive Bound (session : Uuid) (rendition : List Char) (master : Bool) (variants : List (List Char)) :
    List Char → List Char → List (List Char) → Prop
  | tag {before uri suffix : List Char} (media : master = false)
      (comment : (before ++ "URI=\"".toList ++ uri ++ '"' :: suffix).head? = some '#')
      (first : ¬ "URI=\"".toList <:+: before) (unquoted : '"' ∉ uri) (last : ¬ "URI=".toList <:+: suffix)
      (valid : validateSegmentFilename uri = .ok ()) :
      Bound session rendition master variants (before ++ "URI=\"".toList ++ uri ++ '"' :: suffix)
        (before ++ "URI=\"".toList ++ (transcodeBase session ++ rendition ++ '/' :: uri) ++ '"' :: suffix) variants
  | variant {line name : List Char} (listed : master = true) (reference : Reference line)
      (named : variantReference line = .ok (name, line)) (fresh : name ∉ variants) :
      Bound session rendition master variants line (transcodeBase session ++ name ++ "/index.m3u8".toList)
        (name :: variants)
  | segment {line : List Char} (media : master = false) (reference : Reference line)
      (valid : validateSegmentFilename line = .ok ()) :
      Bound session rendition master variants line (transcodeBase session ++ rendition ++ '/' :: line) variants
  | other {line : List Char} (plain : ¬ Reference line) (untagged : line.head? = some '#' → ¬ "URI=".toList <:+: line) :
      Bound session rendition master variants line line variants

theorem normalizeTag_bound (comment : line.head? = some '#')
    (normalized : normalizeTag session rendition master line = .ok emitted) :
    Bound session rendition master variants line emitted variants := by
  unfold normalizeTag at normalized
  split at normalized
  · cases normalized
  · rename_i media
    rw [not_or] at media
    split at normalized
    · cases normalized
    · rename_i before remaining found
      obtain ⟨shape, first⟩ := splitOnce_eq_some (by decide) found
      split at normalized
      · cases normalized
      · split at normalized
        · cases normalized
        · rename_i uri suffix quoted
          obtain ⟨rest, closed⟩ := splitOnce_eq_some (by decide) quoted
          split at normalized
          · cases normalized
          · rename_i last
            simp only [publicSegment, ok_bind, Except.ok.injEq] at normalized
            obtain ⟨_, ⟨_, valid, rfl⟩, rfl⟩ := normalized
            have whole : line = before ++ "URI=\"".toList ++ uri ++ '"' :: suffix := by
              rw [shape, rest]
              simp
            rw [List.singleton_infix_iff] at closed
            rw [whole] at comment ⊢
            exact .tag (by simpa using media.1) comment first closed last valid

theorem normalizeLine_bound (normalized : normalizeLine session rendition master variants line = .ok (emitted, variants')) :
    Bound session rendition master variants line emitted variants' := by
  unfold normalizeLine at normalized
  split at normalized
  · rename_i tagged
    simp only [ok_bind, Except.ok.injEq, Prod.mk.injEq] at normalized
    obtain ⟨_, tag, rfl, rfl⟩ := normalized
    exact normalizeTag_bound tagged.1 tag
  · rename_i untagged
    split at normalized
    · rename_i reference
      split at normalized
      · rename_i listed
        simp only [ok_bind] at normalized
        obtain ⟨⟨name, path⟩, named, normalized⟩ := normalized
        obtain ⟨_, -, -, same⟩ := variantReference_eq_ok.mp named
        cases same
        split at normalized
        · cases normalized
        · rename_i fresh
          simp only [publicVariant, named, ok_bind, Except.ok.injEq, Prod.mk.injEq] at normalized
          obtain ⟨_, ⟨_, rfl, rfl⟩, rfl, rfl⟩ := normalized
          exact .variant listed reference named fresh
      · rename_i media
        simp only [publicSegment, ok_bind, Except.ok.injEq, Prod.mk.injEq] at normalized
        obtain ⟨_, ⟨_, valid, rfl⟩, rfl, rfl⟩ := normalized
        exact .segment (by simpa using media) reference valid
    · rename_i plain
      simp only [Except.ok.injEq, Prod.mk.injEq] at normalized
      obtain ⟨rfl, rfl⟩ := normalized
      exact .other plain fun comment within => untagged ⟨comment, within⟩

/-- The lines of a playlist, with the variants seen before each. -/
inductive Normalized (session : Uuid) (rendition : List Char) (master : Bool) :
    List (List Char) → List (List Char) → List (List Char) → Prop
  | nil {variants : List (List Char)} : Normalized session rendition master variants [] []
  | cons {variants variants' rows others : List (List Char)} {line emitted : List Char}
      (first : normalizeLine session rendition master variants (trim line) = .ok (emitted, variants'))
      (rest : Normalized session rendition master variants' rows others) :
      Normalized session rendition master variants (line :: rows) (emitted :: others)

/-- The bytes of lines that each end in a line feed. -/
def lineBytes (rows : List (List Char)) : Nat := (rows.map fun row => byteLength row + 1).sum

theorem normalizeLines_eq_ok {rows emitted : List (List Char)} {bytes : Nat} (below : bytes ≤ playlistLimit) :
    normalizeLines session rendition master variants rows bytes = .ok emitted ↔
      Normalized session rendition master variants rows emitted ∧ bytes + lineBytes emitted ≤ playlistLimit := by
  induction rows generalizing variants bytes emitted with
  | nil =>
    simp only [normalizeLines, Except.ok.injEq]
    constructor
    · rintro rfl
      exact ⟨.nil, by simpa [lineBytes] using below⟩
    · rintro ⟨normalized, -⟩
      cases normalized
      rfl
  | cons line rows ih =>
    simp only [normalizeLines, ok_bind]
    constructor
    · rintro ⟨⟨first, seen⟩, normalized, continued⟩
      split at continued
      · cases continued
      · rename_i fits
        simp only [ok_bind, Except.ok.injEq] at continued
        obtain ⟨others, rest, rfl⟩ := continued
        obtain ⟨rest, total⟩ := (ih (Nat.not_lt.mp fits)).mp rest
        refine ⟨.cons normalized rest, ?_⟩
        simp only [lineBytes, List.map_cons, List.sum_cons] at total ⊢
        omega
    · rintro ⟨normalized, total⟩
      cases normalized with
      | @cons _ seen _ others _ first normalized rest =>
        simp only [lineBytes, List.map_cons, List.sum_cons] at total
        have fits : bytes + byteLength first + 1 ≤ playlistLimit := by omega
        refine ⟨(first, seen), normalized, ?_⟩
        rw [if_neg (Nat.not_lt.mpr fits), ok_bind]
        refine ⟨others, (ih fits).mpr ⟨rest, ?_⟩, rfl⟩
        simp only [lineBytes]
        omega

/-! ## Characters of routes -/

/-- The characters a base is made of. -/
def routeChar (c : Char) : Bool := c.isLower || c.isDigit || c = '/' || c = '-'

/-- The characters a route is made of. -/
def pathChar (c : Char) : Bool := c.isAlphanum || c = '/' || c = '-' || c = '_' || c = '.'

theorem routeChar_pathChar (route : routeChar c = true) : pathChar c = true := by
  simp only [routeChar, pathChar, Char.isAlphanum, isAlpha_eq, Bool.or_eq_true, decide_eq_true_eq] at route ⊢
  rcases route with ((lower | digit) | slash) | dash
  · exact .inl (.inl (.inl (.inl (.inl (.inr lower)))))
  · exact .inl (.inl (.inl (.inl (.inr digit))))
  · exact .inl (.inl (.inl (.inr slash)))
  · exact .inl (.inl (.inr dash))

theorem hexDigit_routeChar (n : Nat) : routeChar (hexDigit n) = true := by
  by_cases small : n < 16
  · have digits : ∀ n < 16, routeChar (hexDigit n) = true := by decide
    exact digits n small
  · have absent : hexDigit n = '0' := by
      unfold hexDigit
      rw [List.getD_eq_getElem?_getD, List.getElem?_eq_none (by simpa using small)]
      rfl
    rw [absent]
    rfl

theorem hexDigits_mem {id : Uuid} (member : c ∈ hexDigits id first count) : routeChar c = true ∧ c ≠ '/' := by
  obtain ⟨i, -, rfl⟩ := List.mem_map.mp member
  refine ⟨hexDigit_routeChar _, ?_⟩
  by_cases small : (id.extractLsb' (4 * (31 - i)) 4).toNat < 16
  · have digits : ∀ n < 16, hexDigit n ≠ '/' := by decide
    exact digits _ small
  · exact (small (BitVec.isLt _)).elim

theorem display_mem {id : Uuid} (member : c ∈ display id) : routeChar c = true ∧ c ≠ '/' := by
  simp only [display, List.mem_append, List.mem_cons] at member
  have dash : routeChar '-' = true ∧ '-' ≠ '/' := by decide
  rcases member with (((digits | rfl | digits) | rfl | digits) | rfl | digits) | rfl | digits
  all_goals first | exact hexDigits_mem digits | exact dash

theorem transcodeBase_mem (member : c ∈ transcodeBase session) : routeChar c = true := by
  have fixed : ∀ c ∈ "/api/v1/transcode/".toList, routeChar c = true := List.all_eq_true.mp (by decide)
  unfold transcodeBase at member
  rcases List.mem_append.mp member with member | last
  · rcases List.mem_append.mp member with first | shown
    · exact fixed c first
    · exact (display_mem shown).1
  · rw [List.mem_singleton.mp last]
    rfl

theorem outputBase_mem (member : c ∈ outputBase viewer output) : routeChar c = true := by
  unfold outputBase at member
  simp only [List.mem_append] at member
  have all : ∀ text ∈ ["/api/v1/playback-commands/".toList, "/outputs/".toList, "/hls/".toList],
      text.all routeChar = true := by decide
  have fixed := fun text member => List.all_eq_true.mp (all text member)
  rcases member with (((first | shown) | second) | shown) | third
  · exact fixed _ (by simp) c first
  · exact (display_mem shown).1
  · exact fixed _ (by simp) c second
  · exact (display_mem shown).1
  · exact fixed _ (by simp) c third

theorem scopeBase_mem (member : c ∈ scopeBase session scope) : routeChar c = true := by
  cases scope with
  | none => exact transcodeBase_mem member
  | some => exact outputBase_mem member

theorem RenditionName.chars (valid : RenditionName name) (member : c ∈ name) : pathChar c = true ∧ c ≠ '/' := by
  rcases valid.2.2 c member with letter | rfl | rfl
  · refine ⟨by simp [pathChar, letter], ?_⟩
    rintro rfl
    revert letter
    decide
  · decide
  · decide

theorem PublicFile.chars (known : PublicFile file) (member : c ∈ file) : pathChar c = true ∧ c ≠ '/' := by
  have all : ∀ text ∈ ["index.m3u8".toList, "init.mp4".toList, "seg_".toList, ".m4s".toList],
      (text.all fun c => pathChar c = true ∧ c ≠ '/') = true := by decide
  have fixed := fun text member => List.all_iff_forall_prop.mp (all text member)
  cases known with
  | index | initialization => exact fixed _ (by simp) c member
  | segment _ decimal =>
    simp only [List.mem_append] at member
    rcases member with (first | digit) | last
    · exact fixed _ (by simp) c first
    · have decimal := decimal c digit
      refine ⟨by simp [pathChar, Char.isAlphanum, decimal], ?_⟩
      rintro rfl
      revert decimal
      decide
    · exact fixed _ (by simp) c last

theorem PublicPath.chars (known : PublicPath base path) (route : ∀ c ∈ base, routeChar c = true)
    (member : c ∈ path) : pathChar c = true := by
  obtain ⟨rendition, file, rfl, valid, known⟩ := known
  simp only [List.mem_append, List.mem_cons] at member
  rcases member with (first | second) | rfl | last
  · exact routeChar_pathChar (route c first)
  · exact (valid.chars second).1
  · rfl
  · exact (known.chars last).1

/-! ## Attributes -/

theorem uri_again (some : d ≠ []) (same : "URI=\"".toList ++ x = d ++ ("URI=\"".toList ++ y)) :
    ∃ d', d = "URI=\"".toList ++ d' ∧ x = d' ++ ("URI=\"".toList ++ y) := by
  rcases List.append_eq_append_iff.mp same with ⟨rest, inside, shape⟩ | ⟨rest, split, shape⟩
  · exact ⟨rest, inside, shape⟩
  · cases rest with
    | nil => exact ⟨[], by simpa using split.symm, shape.symm⟩
    | cons r rest =>
      obtain ⟨d, ds, rfl⟩ := List.exists_cons_of_ne_nil some
      have head : 'U' = r := (List.cons.inj shape).1
      have tail : "RI=\"".toList = ds ++ r :: rest := (List.cons.inj split).2
      have member : 'U' ∈ "RI=\"".toList := by
        rw [tail, head]
        simp
      exact absurd member (by decide)

theorem uri_not_within (plain : ∀ c ∈ uri, c ≠ '"' ∧ c ≠ '=')
    (last : ¬ "URI=".toList <:+: suffix) : uri ++ '"' :: suffix ≠ front ++ ("URI=\"".toList ++ y) := by
  intro same
  rcases List.append_eq_append_iff.mp same with ⟨rest, -, shape⟩ | ⟨rest, split, shape⟩
  · -- The occurrence starts behind the URI, so behind its closing quote.
    cases rest with
    | nil => cases shape
    | cons r rest =>
      have behind : suffix = rest ++ ("URI=\"".toList ++ y) := (List.cons.inj shape).2
      apply last
      rw [behind]
      exact ⟨rest, '"' :: y, by simp⟩
  · -- The occurrence starts in the URI, which would have to contain the equals sign.
    have closed : "URI=".toList ++ '"' :: y = rest ++ '"' :: suffix := shape
    have unquoted : '"' ∉ rest := fun member => (plain _ (by simp [split, member])).1 rfl
    have whole : "URI=".toList = rest := before_eq (by decide) unquoted closed
    have equals : '=' ∈ uri := by
      rw [split, ← whole]
      simp
    exact (plain _ equals).2 rfl

/-- The only attribute of a line that starts with the first `URI="`. -/
theorem QuotedUri.unique (first : ¬ "URI=\"".toList <:+: before)
    (plain : ∀ c ∈ uri, c ≠ '"' ∧ c ≠ '=') (last : ¬ "URI=".toList <:+: suffix)
    (quoted : QuotedUri (before ++ "URI=\"".toList ++ uri ++ '"' :: suffix) found) : found = uri := by
  obtain ⟨front, back, same, closed⟩ := quoted
  simp only [List.append_assoc] at same
  have unquoted : '"' ∉ uri := fun member => (plain _ member).1 rfl
  rcases List.append_eq_append_iff.mp same with ⟨rest, _, shape⟩ | ⟨rest, split, shape⟩
  · by_cases again : rest = []
    · rw [again, List.nil_append, List.append_cancel_left_eq] at shape
      exact (before_eq unquoted closed shape).symm
    · obtain ⟨past, -, later⟩ := uri_again again shape
      exact (uri_not_within plain last later).elim
  · by_cases again : rest = []
    · rw [again, List.nil_append, List.append_cancel_left_eq] at shape
      exact before_eq closed unquoted shape
    · obtain ⟨past, inside, -⟩ := uri_again again shape
      apply (first _).elim
      rw [split, inside]
      exact ⟨front, past, by simp⟩

theorem not_quotedUri (absent : ¬ "URI=".toList <:+: line) (uri : List Char) : ¬ QuotedUri line uri := by
  rintro ⟨front, back, rfl, -⟩
  apply absent
  exact ⟨front, '"' :: uri ++ '"' :: back, by simp⟩

/-! ## The scoped text -/

/-- The second half of `normalize_scoped`. -/
def rebase (session : Uuid) : Option (Uuid × Uuid) → List Char → List Char
  | some (viewer, output), text => replace (transcodeBase session) (outputBase viewer output) text
  | none, text => text

variable {scope : Option (Uuid × Uuid)}

theorem transcodeBase_ne_nil : transcodeBase session ≠ [] :=
  List.append_ne_nil_of_right_ne_nil _ (List.cons_ne_nil _ _)

theorem outputBase_ne_nil : outputBase viewer output ≠ [] :=
  List.append_ne_nil_of_right_ne_nil _ (by decide)

theorem rebase_append_cons (apart : routeChar c = false) (a b : List Char) :
    rebase session scope (a ++ c :: b) = rebase session scope a ++ c :: rebase session scope b := by
  cases scope with
  | none => rfl
  | some =>
    apply replace_append_cons transcodeBase_ne_nil
    intro member
    rw [transcodeBase_mem member] at apart
    cases apart

theorem infix_of_infix_rebase (some : searched ≠ [])
    (apart : ∀ c ∈ searched, routeChar c = false) (within : searched <:+: rebase session scope text) :
    searched <:+: text := by
  cases scope with
  | none => exact within
  | some =>
    refine infix_of_infix_replace ?_ transcodeBase_ne_nil outputBase_ne_nil some text within
    intro c member held
    have other := apart c member
    rw [outputBase_mem held] at other
    cases other

theorem mem_of_mem_rebase (apart : routeChar c = false) (member : c ∈ rebase session scope text) : c ∈ text := by
  rw [← List.singleton_infix_iff] at member ⊢
  refine infix_of_infix_rebase (by simp) ?_ member
  intro x same
  rw [List.mem_singleton.mp same]
  exact apart

theorem rebase_nil : rebase session scope [] = [] := by
  cases scope <;> rfl

theorem rebase_cons (apart : routeChar c = false) (text : List Char) :
    rebase session scope (c :: text) = c :: rebase session scope text := by
  have kept : rebase session scope ([] ++ c :: text) = _ := rebase_append_cons apart [] text
  rw [rebase_nil] at kept
  exact kept

/-- The base of a route is the only place where the old one occurs in it. -/
theorem rebase_path (valid : RenditionName rendition) (known : PublicFile file) :
    rebase session scope (transcodeBase session ++ rendition ++ '/' :: file) =
      scopeBase session scope ++ rendition ++ '/' :: file := by
  cases scope with
  | none => rfl
  | some =>
    simp only [rebase, scopeBase, List.append_assoc]
    rw [replace_match transcodeBase_ne_nil, replace_of_not_infix]
    intro within
    have slashes := within.count_le '/'
    have outside : (rendition ++ '/' :: file).count '/' = 1 := by
      have first : rendition.count '/' = 0 := List.count_eq_zero.mpr fun member => (valid.chars member).2 rfl
      have last : file.count '/' = 0 := List.count_eq_zero.mpr fun member => (known.chars member).2 rfl
      rw [List.count_append, List.count_cons_self, first, last]
    have inside : 2 ≤ (transcodeBase session).count '/' := by
      unfold transcodeBase
      rw [List.count_append, List.count_append]
      have fixed : "/api/v1/transcode/".toList.count '/' = 4 := by decide
      omega
    omega

theorem rebase_intercalate (nonempty : rows ≠ []) :
    rebase session scope (['\n'].intercalate rows ++ ['\n']) =
      ['\n'].intercalate (rows.map (rebase session scope)) ++ ['\n'] := by
  induction rows with
  | nil => exact (nonempty rfl).elim
  | cons _ rows ih =>
    cases rows with
    | nil =>
      rw [List.intercalate_singleton, rebase_append_cons rfl, rebase_nil]
      simp
    | cons =>
      have rest := ih (by simp)
      rw [List.map_cons, List.map_cons, List.intercalate_cons_cons, List.intercalate_cons_cons, ← List.map_cons]
      simp only [List.append_assoc, List.cons_append, List.nil_append]
      rw [rebase_append_cons (show routeChar '\n' = false from rfl), rest]

/-- What may be said of an emitted line, once it has its base. -/
structure Sealed (base line : List Char) : Prop where
  reference : Reference line → PublicPath base line
  quoted : ∀ uri, QuotedUri line uri → PublicPath base uri

theorem PublicPath.sealed (known : PublicPath base line) (route : ∀ c ∈ base, routeChar c = true) :
    Sealed base line := by
  refine ⟨fun _ => known, fun uri quoted => ?_⟩
  refine (not_quotedUri ?_ uri quoted).elim
  intro within
  have equals := known.chars route (within.subset (show '=' ∈ "URI=".toList by decide))
  exact absurd equals (by decide)

theorem not_reference_rebase (plain : ¬ Reference line) : ¬ Reference (rebase session scope line) := by
  cases line with
  | nil =>
    rw [rebase_nil]
    exact plain
  | cons c =>
    have comment : c = '#' := by
      by_contra other
      exact plain ⟨by simp, by simpa using other⟩
    rw [comment, rebase_cons rfl]
    simp [Reference]

theorem Bound.sealed (valid : RenditionName rendition)
    (bound : Bound session rendition master variants line emitted variants') :
    Sealed (scopeBase session scope) (rebase session scope emitted) := by
  have route : ∀ c ∈ scopeBase session scope, routeChar c = true := fun c => scopeBase_mem
  cases bound with
  | @tag before uri suffix _ comment first _ last accepted =>
    have known : PublicPath (scopeBase session scope) (scopeBase session scope ++ rendition ++ '/' :: uri) :=
      ⟨rendition, uri, rfl, valid, validateSegmentFilename_publicFile accepted⟩
    have moved : rebase session scope
        (before ++ "URI=\"".toList ++ (transcodeBase session ++ rendition ++ '/' :: uri) ++ '"' :: suffix) =
        rebase session scope before ++ "URI=\"".toList ++ (scopeBase session scope ++ rendition ++ '/' :: uri) ++
          '"' :: rebase session scope suffix := by
      have quote : ∀ x y : List Char, x ++ "URI=\"".toList ++ y = x ++ 'U' :: 'R' :: 'I' :: '=' :: '"' :: y := by simp
      rw [rebase_append_cons rfl, quote, quote, rebase_append_cons rfl, rebase_cons rfl, rebase_cons rfl, rebase_cons rfl,
        rebase_cons rfl, rebase_path valid (validateSegmentFilename_publicFile accepted)]
    have plain : ¬ Reference
        (before ++ "URI=\"".toList ++ (transcodeBase session ++ rendition ++ '/' :: uri) ++ '"' :: suffix) := by
      rintro ⟨-, other⟩
      apply other
      simpa [List.head?_append] using comment
    refine ⟨fun reference => (not_reference_rebase plain reference).elim, fun found quoted => ?_⟩
    rw [moved] at quoted
    have alone := quoted.unique ?_ ?_ ?_
    · rw [alone]
      exact known
    · intro within
      exact first (infix_of_infix_rebase (by decide) (List.all_iff_forall_prop.mp (by decide)) within)
    · intro c member
      have path := known.chars route member
      constructor
      · rintro rfl
        exact absurd path (by decide)
      · rintro rfl
        exact absurd path (by decide)
    · intro within
      exact last (infix_of_infix_rebase (by decide) (List.all_iff_forall_prop.mp (by decide)) within)
  | variant _ _ named =>
    obtain ⟨_, -, named, same⟩ := variantReference_eq_ok.mp named
    cases same
    have moved : rebase session scope (transcodeBase session ++ _ ++ '/' :: "index.m3u8".toList) = _ :=
      rebase_path named .index
    rw [show "/index.m3u8".toList = '/' :: "index.m3u8".toList from rfl, moved]
    exact PublicPath.sealed ⟨_, _, rfl, named, .index⟩ route
  | segment _ _ accepted =>
    have known := validateSegmentFilename_publicFile accepted
    rw [rebase_path valid known]
    exact PublicPath.sealed ⟨rendition, _, rfl, valid, known⟩ route
  | other plain untagged =>
    refine ⟨fun reference => (not_reference_rebase plain reference).elim, fun uri quoted => ?_⟩
    refine (not_quotedUri ?_ uri quoted).elim
    intro within
    have held := infix_of_infix_rebase (by decide) (List.all_iff_forall_prop.mp (by decide)) within
    have filled : line ≠ [] := by
      rintro rfl
      exact absurd (List.infix_nil.mp held) (by decide)
    by_cases comment : line.head? = some '#'
    · exact untagged comment held
    · exact plain ⟨filled, comment⟩

theorem Reference.of_chomp (reference : Reference (chomp line)) : Reference line := by
  obtain ⟨rest, whole⟩ := chomp_starts line
  obtain ⟨filled, uncommented⟩ := reference
  obtain ⟨c, tail, shape⟩ := List.exists_cons_of_ne_nil filled
  rw [← whole, shape]
  rw [shape] at uncommented
  exact ⟨by simp, by simpa using uncommented⟩

theorem PublicPath.chomp (known : PublicPath base line) (route : ∀ c ∈ base, routeChar c = true) :
    chomp line = line := by
  apply chomp_eq_self
  intro member
  exact absurd (known.chars route member) (by decide)

theorem Sealed.chomp (held : Sealed base line) (route : ∀ c ∈ base, routeChar c = true) : Sealed base (chomp line) := by
  constructor
  · intro reference
    have known := held.reference reference.of_chomp
    rw [known.chomp route]
    exact known
  · rintro uri ⟨before, after, shape, unquoted⟩
    obtain ⟨rest, whole⟩ := chomp_starts line
    refine held.quoted uri ⟨before, after ++ rest, ?_, unquoted⟩
    rw [← whole, shape]
    simp

theorem Bound.newline (valid : RenditionName rendition)
    (bound : Bound session rendition master variants line emitted variants') (single : '\n' ∉ line) : '\n' ∉ emitted := by
  have route : ∀ c ∈ transcodeBase session, routeChar c = true := fun c => transcodeBase_mem
  have lineless : ∀ {path : List Char}, PublicPath (transcodeBase session) path → '\n' ∉ path := by
    intro path known member
    exact absurd (known.chars route member) (by decide)
  cases bound with
  | @tag _ uri _ _ _ _ _ _ accepted =>
    have known := lineless ⟨rendition, uri, rfl, valid, validateSegmentFilename_publicFile accepted⟩
    intro member
    rcases List.mem_append.mp member with member | member
    · rcases List.mem_append.mp member with member | member
      · exact single (List.mem_append_left _ (List.mem_append_left _ member))
      · exact known member
    · exact single (List.mem_append_right _ member)
  | variant _ _ named =>
    obtain ⟨_, -, named, same⟩ := variantReference_eq_ok.mp named
    cases same
    exact lineless ⟨_, _, rfl, named, .index⟩
  | segment _ _ accepted => exact lineless ⟨_, _, rfl, valid, validateSegmentFilename_publicFile accepted⟩
  | other => exact single

end Duskcue.Hls
