import Duskcue.HlsReferences

/-! Where the routes of a playlist lead. The variants a master names are distinct, so
the file requested through a route is the one of the line the route was emitted
for, and the master playlists the server generates are served. -/
namespace Duskcue.Hls
open Playback (Uuid)
open Text

variable {name uri path line emitted base rendition : List Char} {session : Uuid} {scope : Option (Uuid × Uuid)}
  {master : Bool} {variants variants' : List (List Char)}

/-! ## The file behind a route -/

def referencesOf (rows : List (List Char)) : List (List Char) :=
  (rows.map trim).filter fun line => !line.isEmpty && line.head? ≠ some '#'

theorem referencesOf_cons (row : List Char) (rows : List (List Char)) :
    (Reference (trim row) → referencesOf (row :: rows) = trim row :: referencesOf rows) ∧
      (¬ Reference (trim row) → referencesOf (row :: rows) = referencesOf rows) := by
  have chosen : (!(trim row).isEmpty && decide ((trim row).head? ≠ some '#')) = true ↔ Reference (trim row) := by
    simp [Reference]
  constructor
  · intro reference
    rw [referencesOf, List.map_cons, List.filter_cons, if_pos (chosen.mpr reference)]
    rfl
  · intro plain
    rw [referencesOf, List.map_cons, List.filter_cons, if_neg (fun held => plain (chosen.mp held))]
    rfl

theorem selectVariant_other (named : variantReference line = .ok (name, line)) (other : name ≠ requested) :
    selectVariant directory requested selected line = .ok selected := by
  simp [selectVariant, named, bind, Except.bind, other]

variable {rows : List (List Char)}

/-- A variant that was seen before is not met again. -/
theorem Normalized.unseen {emitted : List (List Char)} (normalized : Normalized session rendition true variants rows emitted)
    (seen : name ∈ variants) (directory : List Char) (selected : Option (List Char)) :
    (referencesOf rows).foldlM (selectVariant directory name) selected = .ok selected := by
  generalize listed : true = master at normalized
  induction normalized with
  | nil => rfl
  | @cons _ _ rows _ line _ first _ ih =>
    have bound := normalizeLine_bound first
    generalize trimmed : trim line = text at bound
    cases bound with
    | tag media | segment media => cases media.symm.trans listed.symm
    | @variant _ met _ reference named fresh =>
      rw [← trimmed] at reference named
      have other : met ≠ name := by
        rintro rfl
        exact fresh seen
      rw [(referencesOf_cons line rows).1 reference, List.foldlM_cons, selectVariant_other named other]
      exact ih (List.mem_cons_of_mem _ seen)
    | other plain =>
      rw [← trimmed] at plain
      rw [(referencesOf_cons line rows).2 plain]
      exact ih seen

/-- Each route of a master leads back to the line it was emitted for. -/
theorem Normalized.resolves {emitted : List (List Char)}
    (normalized : Normalized session rendition true variants rows emitted) :
    List.Forall₂ (fun row line =>
      (Reference (trim row) → ∃ name, name ∉ variants ∧ RenditionName name ∧ variantName (trim row) = some name ∧
        line = transcodeBase session ++ name ++ "/index.m3u8".toList ∧
        ∀ directory, (referencesOf rows).foldlM (selectVariant directory name) none =
          .ok (some (joinPath directory (trim row)))) ∧ (¬ Reference (trim row) → ¬ Reference line)) rows emitted := by
  generalize listed : true = master at normalized
  induction normalized with
  | nil => exact .nil
  | @cons _ _ rows _ line _ first rest ih =>
    have bound := normalizeLine_bound first
    generalize trimmed : trim line = text at bound
    cases bound with
    | tag media | segment media => cases media.symm.trans listed.symm
    | @variant _ name _ reference named fresh =>
      rw [← trimmed] at reference named
      obtain ⟨_, shape, valid, same⟩ := variantReference_eq_ok.mp named
      cases same
      have whole := (referencesOf_cons line rows).1 reference
      refine .cons ⟨fun _ => ⟨name, fresh, valid, shape, rfl, fun directory => ?_⟩, fun plain => (plain reference).elim⟩ ?_
      · have chosen : selectVariant directory name none (trim line) = .ok (some (joinPath directory (trim line))) := by
          simp [selectVariant, named, bind, Except.bind]
        rw [whole, List.foldlM_cons, chosen]
        subst listed
        exact rest.unseen (List.mem_cons_self) directory _
      · refine ih.imp fun row route held => ⟨fun reference' => ?_, held.2⟩
        obtain ⟨name', unseen, valid', shape', same, leads⟩ := held.1 reference'
        have other : name ≠ name' := by
          rintro rfl
          exact unseen List.mem_cons_self
        refine ⟨name', fun member => unseen (List.mem_cons_of_mem _ member), valid', shape', same, fun directory => ?_⟩
        rw [whole, List.foldlM_cons, selectVariant_other named other]
        exact leads directory
    | other plain =>
      rw [← trimmed] at plain
      rw [(referencesOf_cons line rows).2 plain]
      refine .cons ⟨fun reference => (plain reference).elim, fun _ => ?_⟩ ih
      rw [← trimmed]
      exact plain

/-! ## Whole playlists -/

theorem Normalized.length {emitted : List (List Char)}
    (normalized : Normalized session rendition master variants rows emitted) : emitted.length = rows.length := by
  induction normalized with
  | nil => rfl
  | cons _ _ ih => simp [ih]

theorem Normalized.bound {emitted : List (List Char)}
    (normalized : Normalized session rendition master variants rows emitted) (member : line ∈ emitted) :
    ∃ row ∈ rows, ∃ variants variants', Bound session rendition master variants (trim row) line variants' := by
  induction normalized with
  | nil => cases member
  | @cons variants variants' _ _ row _ first _ ih =>
    rcases List.mem_cons.mp member with rfl | member
    · exact ⟨row, List.mem_cons_self, variants, variants', normalizeLine_bound first⟩
    · obtain ⟨row, held, bound⟩ := ih member
      exact ⟨row, List.mem_cons_of_mem _ held, bound⟩

/-- The first line that is not blank is the header. -/
def Headed (content : List Char) : Prop :=
  ((lines content).find? fun line => !(trim line).isEmpty) = some "#EXTM3U".toList

theorem normalizeManifest_eq_ok :
    normalizeManifest content session rendition = .ok result ↔
      RenditionName rendition ∧ Headed content ∧
        ∃ emitted, Normalized session rendition (isMaster content) [] (lines content) emitted ∧
          lineBytes emitted ≤ playlistLimit ∧ result = ['\n'].intercalate emitted ++ ['\n'] := by
  have start : ∀ emitted, normalizeLines session rendition (isMaster content) [] (lines content) 0 = .ok emitted ↔
      Normalized session rendition (isMaster content) [] (lines content) emitted ∧ lineBytes emitted ≤ playlistLimit := by
    intro emitted
    rw [normalizeLines_eq_ok (Nat.zero_le _), Nat.zero_add]
  unfold normalizeManifest
  rw [ok_bind]
  constructor
  · rintro ⟨_, valid, continued⟩
    split at continued
    · cases continued
    · rename_i headed
      rw [ok_bind] at continued
      obtain ⟨emitted, normalized, same⟩ := continued
      obtain ⟨normalized, fits⟩ := (start emitted).mp normalized
      cases same
      exact ⟨validateRendition_eq_ok.mp valid, not_not.mp headed, emitted, normalized, fits, rfl⟩
  · rintro ⟨valid, headed, emitted, normalized, fits, rfl⟩
    unfold Headed at headed
    refine ⟨(), validateRendition_eq_ok.mpr valid, ?_⟩
    rw [if_neg (not_not.mpr headed), ok_bind]
    exact ⟨emitted, (start emitted).mpr ⟨normalized, fits⟩, rfl⟩

theorem normalizeScoped_eq_ok :
    normalizeScoped content session rendition scope = .ok result ↔
      ∃ text, normalizeManifest content session rendition = .ok text ∧ result = rebase session scope text := by
  unfold normalizeScoped
  rw [ok_bind]
  cases scope <;> simp [rebase, eq_comm]

variable {content : List Char}

/-- The lines of a normalized text are the emitted ones. -/
theorem lines_rebase (scope : Option (Uuid × Uuid)) {emitted : List (List Char)} (valid : RenditionName rendition)
    (headed : Headed content) (normalized : Normalized session rendition master variants (lines content) emitted) :
    lines (rebase session scope (['\n'].intercalate emitted ++ ['\n'])) =
      emitted.map fun line => chomp (rebase session scope line) := by
  have filled : emitted ≠ [] := by
    rintro rfl
    have empty : lines content = [] := List.length_eq_zero_iff.mp normalized.length.symm
    unfold Headed at headed
    rw [empty] at headed
    cases headed
  rw [rebase_intercalate filled, lines_intercalate (by simpa using filled), List.map_map]
  · rfl
  · intro line member
    obtain ⟨source, emits, rfl⟩ := List.mem_map.mp member
    obtain ⟨row, held, before, after, bound⟩ := normalized.bound emits
    intro newline
    refine bound.newline valid ?_ (mem_of_mem_rebase rfl newline)
    intro within
    exact not_mem_of_mem_lines held (trim_subset row within)

/-! ## Master playlists of the server's own -/

/-- The lines of `masterLines`, bound to the routes of a session. -/
def boundMaster (session : Uuid) (renditions : List TranscodeRendition) : List (List Char) :=
  ["#EXTM3U".toList, "#EXT-X-VERSION:7".toList, "#EXT-X-INDEPENDENT-SEGMENTS".toList] ++
    renditions.flatMap fun rendition =>
      [rendition.streamInf, transcodeBase session ++ rendition.name ++ "/index.m3u8".toList]

/-- The digits of a `BANDWIDTH`, and of the two numbers of a `RESOLUTION`. -/
theorem streamInf_eq (rendition : TranscodeRendition) : ∃ bandwidth width height : List Char,
    (∀ c ∈ bandwidth ++ width ++ height, c.isDigit = true) ∧
      rendition.streamInf = "#EXT-X-STREAM-INF:BANDWIDTH=".toList ++ bandwidth ++ ",RESOLUTION=".toList ++ width ++
        'x' :: height ++ ",CODECS=\"avc1.64001f,mp4a.40.2\"".toList := by
  refine ⟨_, _, _, ?_, rfl⟩
  intro c member
  simp only [List.mem_append] at member
  rcases member with (member | member) | member
  all_goals exact Nat.isDigit_of_mem_toDigits (by decide) (by decide) member

theorem isDigit_unspaced {c : Char} (digit : c.isDigit = true) : isWhitespace c = false ∧ c ≠ 'U' := by
  simp only [Char.isDigit, Bool.and_eq_true, decide_eq_true_eq, ge_iff_le, UInt32.le_iff_toNat_le] at digit
  have low : '0'.val.toNat = 48 := rfl
  have high : '9'.val.toNat = 57 := rfl
  have value : c.toNat = c.val.toNat := rfl
  constructor
  · simp only [isWhitespace, Bool.or_eq_false_iff, Bool.and_eq_false_iff, decide_eq_false_iff_not]
    omega
  · rintro rfl
    exact absurd digit (by decide)

theorem streamInf_untagged (rendition : TranscodeRendition) : ¬ "URI=".toList <:+: rendition.streamInf := by
  obtain ⟨bandwidth, width, height, digits, shape⟩ := streamInf_eq rendition
  have clear : ∀ text : List Char, 'U' ∉ text → ¬ "URI=".toList <:+: text :=
    fun text absent within => absent (within.subset (by decide))
  have split : rendition.streamInf = ("#EXT-X-STREAM-INF:BANDWIDTH=".toList ++ bandwidth ++ ",RESO".toList) ++
      'L' :: (['U'] ++ 'T' :: ("ION=".toList ++ width ++ 'x' :: height ++
        ",CODECS=\"avc1.64001f,mp4a.40.2\"".toList)) := by
    rw [shape]
    simp
  have plain : ∀ c ∈ bandwidth ++ width ++ height, c ≠ 'U' := fun c member => (isDigit_unspaced (digits c member)).2
  -- The only `U` is the one of RESOLUTION, and a T follows it.
  intro within
  rw [split] at within
  rcases infix_append_cons (by decide) within with within | within
  · refine clear _ ?_ within
    intro member
    simp only [List.mem_append] at member
    rcases member with (member | member) | member
    · exact absurd member (by decide)
    · exact plain 'U' (by simp [member]) rfl
    · exact absurd member (by decide)
  · rcases infix_append_cons (by decide) within with within | within
    · exact absurd within (by decide)
    · refine clear _ ?_ within
      intro member
      simp only [List.mem_append, List.mem_cons] at member
      rcases member with ((member | member) | member | member) | member
      · exact absurd member (by decide)
      · exact plain 'U' (by simp [member]) rfl
      · exact absurd member (by decide)
      · exact plain 'U' (by simp [member]) rfl
      · exact absurd member (by decide)

theorem streamInf_unspaced {rendition : TranscodeRendition} (member : c ∈ rendition.streamInf) :
    isWhitespace c = false := by
  obtain ⟨bandwidth, width, height, digits, shape⟩ := streamInf_eq rendition
  have all : ∀ text ∈ ["#EXT-X-STREAM-INF:BANDWIDTH=".toList, ",RESOLUTION=".toList, "x".toList,
      ",CODECS=\"avc1.64001f,mp4a.40.2\"".toList], (text.all fun c => isWhitespace c = false) = true := by decide
  have fixed := fun text member => List.all_iff_forall_prop.mp (all text member)
  have plain : ∀ c ∈ bandwidth ++ width ++ height, isWhitespace c = false :=
    fun c member => (isDigit_unspaced (digits c member)).1
  rw [shape] at member
  simp only [List.mem_append, List.mem_cons] at member
  rcases member with ((((member | member) | member) | member) | rfl | member) | member
  · exact fixed _ (by simp) c member
  · exact plain c (by simp [member])
  · exact fixed _ (by simp) c member
  · exact plain c (by simp [member])
  · rfl
  · exact plain c (by simp [member])
  · exact fixed _ (by simp) c member

theorem pathChar_unspaced (path : pathChar c = true) : isWhitespace c = false := by
  simp only [pathChar, Char.isAlphanum, isAlpha_eq, isUpper_eq, isLower_eq, Char.isDigit, Bool.or_eq_true,
    Bool.and_eq_true, decide_eq_true_eq, ge_iff_le, UInt32.le_iff_toNat_le] at path
  rcases path with (((letter | rfl) | rfl) | rfl) | rfl
  · have lowest : '0'.val.toNat = 48 ∧ 'A'.val.toNat = 65 ∧ 'a'.val.toNat = 97 := ⟨rfl, rfl, rfl⟩
    have highest : '9'.val.toNat = 57 ∧ 'Z'.val.toNat = 90 ∧ 'z'.val.toNat = 122 := ⟨rfl, rfl, rfl⟩
    have value : c.toNat = c.val.toNat := rfl
    simp only [isWhitespace, Bool.or_eq_false_iff, Bool.and_eq_false_iff, decide_eq_false_iff_not]
    omega
  all_goals rfl

variable {renditions : List TranscodeRendition}

theorem masterLines_unspaced (valid : ∀ r ∈ renditions, RenditionName r.name)
    (member : line ∈ masterLines renditions) : ∀ c ∈ line, isWhitespace c = false := by
  have all : ∀ text ∈ ["#EXTM3U".toList, "#EXT-X-VERSION:7".toList, "#EXT-X-INDEPENDENT-SEGMENTS".toList,
      "/index.m3u8".toList], (text.all fun c => isWhitespace c = false) = true := by decide
  have fixed := fun text member => List.all_iff_forall_prop.mp (all text member)
  intro c within
  rcases List.mem_append.mp member with header | variant
  · exact fixed line (List.mem_append_left ["/index.m3u8".toList] header) c within
  · obtain ⟨r, listed, member⟩ := List.mem_flatMap.mp variant
    simp only [List.mem_cons, List.not_mem_nil, or_false] at member
    rcases member with rfl | rfl
    · exact streamInf_unspaced within
    · rcases List.mem_append.mp within with named | index
      · exact pathChar_unspaced ((valid r listed).chars named).1
      · exact fixed _ (by simp) c index

theorem lines_generateMasterManifest (valid : ∀ r ∈ renditions, RenditionName r.name) :
    lines (generateMasterManifest renditions) = masterLines renditions := by
  have unspaced : ∀ line ∈ masterLines renditions, ∀ c ∈ line, isWhitespace c = false :=
    fun line member => masterLines_unspaced valid member
  unfold generateMasterManifest
  rw [lines_intercalate (by simp [masterLines])]
  · calc (masterLines renditions).map chomp = (masterLines renditions).map id := by
          apply List.map_congr_left
          intro line member
          apply chomp_eq_self
          intro within
          exact absurd (unspaced line member _ within) (by decide)
      _ = masterLines renditions := List.map_id _
  · intro line member within
    exact absurd (unspaced line member _ within) (by decide)

theorem normalizeLine_other (plain : ¬ Reference line) (untagged : ¬ "URI=".toList <:+: line) :
    normalizeLine session rendition master variants line = .ok (line, variants) := by
  unfold Reference at plain
  unfold normalizeLine
  rw [if_neg fun tagged => untagged tagged.2, if_neg plain]

theorem normalizeLine_variant (reference : Reference line) (named : variantReference line = .ok (name, line))
    (fresh : name ∉ variants) :
    normalizeLine session rendition true variants line =
      .ok (transcodeBase session ++ name ++ "/index.m3u8".toList, name :: variants) := by
  unfold Reference at reference
  unfold normalizeLine
  rw [if_neg fun tagged => reference.2 tagged.1, if_pos reference, if_pos rfl]
  simp [publicVariant, named, bind, Except.bind, fresh]

theorem variantReference_index (valid : RenditionName name) :
    variantReference (name ++ "/index.m3u8".toList) = .ok (name, name ++ "/index.m3u8".toList) := by
  rw [variantReference_eq_ok]
  refine ⟨name, ?_, valid, rfl⟩
  have parts : (name ++ '/' :: "index.m3u8".toList).splitOn '/' = [name, "index.m3u8".toList] := by
    rw [List.splitOn_append_cons_self_of_not_mem fun member => (valid.chars member).2 rfl,
      List.splitOn_eq_singleton (by decide)]
  unfold variantName
  rw [show name ++ "/index.m3u8".toList = name ++ '/' :: "index.m3u8".toList from rfl, parts]
  simp

theorem RenditionName.reference (valid : RenditionName name) (rest : List Char) : Reference (name ++ rest) := by
  obtain ⟨c, tail, rfl⟩ := List.exists_cons_of_ne_nil (List.length_pos_iff.mp valid.1)
  refine ⟨by simp, ?_⟩
  rintro same
  have letter := (valid.chars (c := c) (by simp)).1
  simp only [List.cons_append, List.head?_cons, Option.some.injEq] at same
  rw [same] at letter
  exact absurd letter (by decide)

theorem normalized_variants (valid : ∀ r ∈ renditions, RenditionName r.name)
    (distinct : (renditions.map (·.name)).Nodup) (fresh : ∀ r ∈ renditions, r.name ∉ variants) :
    Normalized session rendition true variants
      (renditions.flatMap fun r => [r.streamInf, r.name ++ "/index.m3u8".toList])
      (renditions.flatMap fun r => [r.streamInf, transcodeBase session ++ r.name ++ "/index.m3u8".toList]) := by
  induction renditions generalizing variants with
  | nil => exact .nil
  | cons r _ ih =>
    have named := valid r (by simp)
    obtain ⟨first, distinct⟩ := List.nodup_cons.mp distinct
    have unspaced : ∀ line ∈ masterLines [r], ∀ c ∈ line, isWhitespace c = false :=
      fun line member => masterLines_unspaced (by simpa using named) member
    have plain : ¬ Reference r.streamInf := fun reference => reference.2 rfl
    have tag : normalizeLine session rendition true variants (trim r.streamInf) = .ok (r.streamInf, variants) := by
      rw [trim_eq_self (unspaced _ (by simp [masterLines]))]
      exact normalizeLine_other plain (streamInf_untagged r)
    have index : normalizeLine session rendition true variants (trim (r.name ++ "/index.m3u8".toList)) =
        .ok (transcodeBase session ++ r.name ++ "/index.m3u8".toList, r.name :: variants) := by
      rw [trim_eq_self (unspaced _ (by simp [masterLines]))]
      exact normalizeLine_variant (named.reference _) (variantReference_index named) (fresh r (by simp))
    refine .cons tag (.cons index (ih (fun s member => valid s (by simp [member])) distinct fun s member => ?_))
    simp only [List.mem_cons, not_or]
    exact ⟨fun same => first (List.mem_map.mpr ⟨s, member, same⟩), fresh s (by simp [member])⟩

/-- A comment without a `URI=` and without white space is emitted as it is. -/
theorem Normalized.header {emitted : List (List Char)}
    (rest : Normalized session rendition master variants rows emitted) :
    Normalized session rendition master variants
      (["#EXTM3U".toList, "#EXT-X-VERSION:7".toList, "#EXT-X-INDEPENDENT-SEGMENTS".toList] ++ rows)
      (["#EXTM3U".toList, "#EXT-X-VERSION:7".toList, "#EXT-X-INDEPENDENT-SEGMENTS".toList] ++ emitted) := by
  have fixed : ∀ line ∈ ["#EXTM3U".toList, "#EXT-X-VERSION:7".toList, "#EXT-X-INDEPENDENT-SEGMENTS".toList],
      trim line = line ∧ line.head? = some '#' ∧ ¬ "URI=".toList <:+: line := by decide +kernel
  have kept : ∀ line ∈ ["#EXTM3U".toList, "#EXT-X-VERSION:7".toList, "#EXT-X-INDEPENDENT-SEGMENTS".toList],
      normalizeLine session rendition master variants (trim line) = .ok (line, variants) := by
    intro line member
    obtain ⟨trimmed, comment, untagged⟩ := fixed line member
    rw [trimmed]
    exact normalizeLine_other (fun reference => reference.2 comment) untagged
  exact .cons (kept _ (by simp)) (.cons (kept _ (by simp)) (.cons (kept _ (by simp)) rest))

theorem isMaster_generateMasterManifest (valid : ∀ r ∈ renditions, RenditionName r.name) (some : renditions ≠ []) :
    isMaster (generateMasterManifest renditions) = true := by
  obtain ⟨r, renditions, rfl⟩ := List.exists_cons_of_ne_nil some
  unfold isMaster
  rw [lines_generateMasterManifest valid, List.any_eq_true]
  refine ⟨r.streamInf, by simp [masterLines], ?_⟩
  obtain ⟨bandwidth, width, height, -, shape⟩ := streamInf_eq r
  rw [shape, decide_eq_true_eq]
  exact ⟨"BANDWIDTH=".toList ++ bandwidth ++ ",RESOLUTION=".toList ++ width ++ 'x' :: height ++
    ",CODECS=\"avc1.64001f,mp4a.40.2\"".toList, by simp⟩

theorem normalized_master (valid : ∀ r ∈ renditions, RenditionName r.name)
    (distinct : (renditions.map (·.name)).Nodup) :
    Normalized session rendition (isMaster (generateMasterManifest renditions)) []
      (lines (generateMasterManifest renditions)) (boundMaster session renditions) := by
  rw [lines_generateMasterManifest valid]
  refine Normalized.header ?_
  by_cases some : renditions = []
  · rw [some]
    exact .nil
  · rw [isMaster_generateMasterManifest valid some]
    exact normalized_variants valid distinct fun r _ => List.not_mem_nil

theorem headed_generateMasterManifest
    (valid : ∀ r ∈ renditions, RenditionName r.name) : Headed (generateMasterManifest renditions) := by
  unfold Headed
  rw [lines_generateMasterManifest valid]
  have filled : (!(trim "#EXTM3U".toList).isEmpty) = true := by decide +kernel
  simp only [masterLines, List.cons_append, List.find?_cons, filled]

/-! ## What is served -/

theorem renditionPlaylist_master (listed : isMaster content = true) (valid : RenditionName name)
    (selected : (referencesOf (lines content)).foldlM (selectVariant directory name) none = .ok (some path)) :
    renditionPlaylist content directory manifest sessionRendition name = .ok path := by
  unfold renditionPlaylist
  rw [ok_bind]
  refine ⟨(), validateRendition_eq_ok.mpr valid, ?_⟩
  rw [if_pos listed, ok_bind]
  exact ⟨some path, selected, rfl⟩

theorem PublicPath.isReference (known : PublicPath base path) (route : ∀ c ∈ base, routeChar c = true) :
    Reference path := by
  constructor
  · obtain ⟨rendition, file, rfl, -⟩ := known
    simp
  · intro comment
    exact absurd (known.chars route (List.mem_of_head? comment)) (by decide)

/-- The routes emitted for the references of a master lead back to them. -/
theorem Normalized.leads {emitted : List (List Char)} (listed : isMaster content = true)
    (normalized : Normalized session rendition true [] (lines content) emitted) :
    List.Forall₂ (fun row line => (Reference (trim row) ↔ Reference line) ∧
      (Reference (trim row) → Resolves content (scopeBase session scope) (trim row) line)) (lines content)
      (emitted.map fun line => chomp (rebase session scope line)) := by
  rw [List.forall₂_map_right_iff]
  refine normalized.resolves.imp fun row line held => ?_
  have resolves : Reference (trim row) →
      Resolves content (scopeBase session scope) (trim row) (chomp (rebase session scope line)) := by
    intro reference
    obtain ⟨name, -, valid, named, rfl, leads⟩ := held.1 reference
    have moved : rebase session scope (transcodeBase session ++ name ++ "/index.m3u8".toList) =
        scopeBase session scope ++ name ++ "/index.m3u8".toList := rebase_path valid .index
    have known : PublicPath (scopeBase session scope) (scopeBase session scope ++ name ++ "/index.m3u8".toList) :=
      ⟨name, _, rfl, valid, .index⟩
    rw [moved, known.chomp fun c => scopeBase_mem]
    obtain ⟨short, within⟩ := variantName_components named valid
    refine ⟨name, rfl, valid, short, within, fun directory manifest sessionRendition => ?_⟩
    exact renditionPlaylist_master listed valid (leads directory)
  refine ⟨⟨fun reference => ?_, fun reference => ?_⟩, resolves⟩
  · obtain ⟨name, shape, valid, -⟩ := resolves reference
    rw [shape]
    exact PublicPath.isReference ⟨name, _, rfl, valid, .index⟩ fun c => scopeBase_mem
  · by_contra plain
    exact not_reference_rebase (held.2 plain) reference.of_chomp

/-- Every name in a normalized playlist is a route of the session or of the output, the
routes of a master lead back to the variants they were emitted for, and the masters the
server generates are normalized. -/
theorem manifest_references_bound :
    (∀ content session rendition scope result, normalizeScoped content session rendition scope = .ok result →
      (∀ line ∈ lines result, Reference line → PublicPath (scopeBase session scope) line) ∧
      (∀ line ∈ lines result, ∀ uri, QuotedUri line uri → PublicPath (scopeBase session scope) uri) ∧
      (isMaster content = true →
        List.Forall₂ (fun row line => (Reference (trim row) ↔ Reference line) ∧
          (Reference (trim row) → Resolves content (scopeBase session scope) (trim row) line))
          (lines content) (lines result))) ∧
    (∀ session rendition scope (renditions : List TranscodeRendition), RenditionName rendition →
      (∀ r ∈ renditions, RenditionName r.name) → (renditions.map (·.name)).Nodup →
      lineBytes (boundMaster session renditions) ≤ playlistLimit →
      (renditions ≠ [] → isMaster (generateMasterManifest renditions) = true) ∧
      ∃ result, normalizeScoped (generateMasterManifest renditions) session rendition scope = .ok result ∧
        ∀ r ∈ renditions, scopeBase session scope ++ r.name ++ "/index.m3u8".toList ∈ lines result ∧
          ∀ directory manifest sessionRendition,
            renditionPlaylist (generateMasterManifest renditions) directory manifest sessionRendition r.name =
              .ok (joinPath directory (r.name ++ "/index.m3u8".toList))) := by
  constructor
  · intro content session rendition scope result accepted
    obtain ⟨text, manifest, rfl⟩ := normalizeScoped_eq_ok.mp accepted
    obtain ⟨valid, headed, emitted, normalized, -, rfl⟩ := normalizeManifest_eq_ok.mp manifest
    rw [lines_rebase scope valid headed normalized]
    have route : ∀ c ∈ scopeBase session scope, routeChar c = true := fun c => scopeBase_mem
    have sealed : ∀ line ∈ emitted.map fun line => chomp (rebase session scope line),
        Sealed (scopeBase session scope) line := by
      intro line member
      obtain ⟨source, emits, rfl⟩ := List.mem_map.mp member
      obtain ⟨row, -, before, after, bound⟩ := normalized.bound emits
      exact (bound.sealed valid).chomp route
    refine ⟨fun line member => (sealed line member).reference, fun line member => (sealed line member).quoted,
      fun listed => ?_⟩
    rw [listed] at normalized
    exact normalized.leads listed
  · intro session rendition scope renditions valid named distinct fits
    have normalized : Normalized session rendition (isMaster (generateMasterManifest renditions)) []
        (lines (generateMasterManifest renditions)) (boundMaster session renditions) := normalized_master named distinct
    have headed := headed_generateMasterManifest named
    refine ⟨isMaster_generateMasterManifest named, _, normalizeScoped_eq_ok.mpr ⟨_, normalizeManifest_eq_ok.mpr
      ⟨valid, headed, _, normalized, fits, rfl⟩, rfl⟩, fun r member => ?_⟩
    have listed := isMaster_generateMasterManifest named (List.ne_nil_of_mem member)
    rw [lines_rebase scope valid headed normalized]
    rw [listed] at normalized
    have row : r.name ++ "/index.m3u8".toList ∈ lines (generateMasterManifest renditions) := by
      rw [lines_generateMasterManifest named]
      exact List.mem_append_right _ (List.mem_flatMap.mpr ⟨r, member, by simp⟩)
    have trimmed : trim (r.name ++ "/index.m3u8".toList) = r.name ++ "/index.m3u8".toList := by
      rw [lines_generateMasterManifest named] at row
      exact trim_eq_self (masterLines_unspaced named row)
    obtain ⟨line, emits, held, -⟩ := exists_of_forall₂ normalized.resolves row
    rw [trimmed] at held
    obtain ⟨name, -, -, found, rfl, leads⟩ := held ((named r member).reference _)
    obtain ⟨_, shape, -, same⟩ := variantReference_eq_ok.mp (variantReference_index (named r member))
    cases same
    cases shape.symm.trans found
    refine ⟨List.mem_map.mpr ⟨_, emits, ?_⟩, fun directory manifest sessionRendition => ?_⟩
    · have moved : rebase session scope (transcodeBase session ++ r.name ++ "/index.m3u8".toList) =
          scopeBase session scope ++ r.name ++ "/index.m3u8".toList := rebase_path (named r member) .index
      have known : PublicPath (scopeBase session scope) (scopeBase session scope ++ r.name ++ "/index.m3u8".toList) :=
        ⟨r.name, _, rfl, named r member, .index⟩
      rw [moved, known.chomp fun c => scopeBase_mem]
    · exact renditionPlaylist_master listed (named r member) (leads directory)

namespace Sample

def playing : Uuid := Uuid.v7 1 1

def ladder : List TranscodeRendition :=
  [⟨"1080p".toList, 1920, 1080, 8000000, 192000⟩, ⟨"720p".toList, 1280, 720, 3000000, 192000⟩]

end Sample

open Sample in
theorem ladder_master_bound :
    ∃ result, normalizeScoped (generateMasterManifest ladder) playing "auto".toList none = .ok result ∧
      (∀ line ∈ lines result, Reference line → PublicPath (transcodeBase playing) line) ∧
      transcodeBase playing ++ "720p".toList ++ "/index.m3u8".toList ∈ lines result := by
  have valid : ∀ name ∈ ["auto".toList, "1080p".toList, "720p".toList], validateRendition name = .ok () := by
    decide +kernel
  have named : ∀ r ∈ ladder, RenditionName r.name := by
    intro r member
    refine validateRendition_eq_ok.mp (valid _ ?_)
    simp only [ladder, List.mem_cons, List.not_mem_nil, or_false] at member
    rcases member with rfl | rfl
    · simp
    · simp
  obtain ⟨-, result, accepted, routes⟩ := manifest_references_bound.2 playing "auto".toList none ladder
    (validateRendition_eq_ok.mp (valid _ (by simp))) named (by decide +kernel) (by decide +kernel)
  refine ⟨result, accepted, ?_, ?_⟩
  · exact (manifest_references_bound.1 _ playing _ none result accepted).1
  · exact (routes ⟨"720p".toList, 1280, 720, 3000000, 192000⟩ (by simp [ladder])).1

end Duskcue.Hls
