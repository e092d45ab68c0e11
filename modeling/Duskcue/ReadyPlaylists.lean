import Duskcue.HlsRoutes
import Duskcue.ReadinessPlaylist

/-! Ready and servable. `Read` is what the startup parser does with a line it accepts.
Every such line is one that `normalize_manifest` binds, but for a segment title
that contains `URI=`; and of a text whose header line carries white space the
serving path reads no header. -/
namespace Duskcue.Hls
open Playback (Uuid)
open Text

/-- The only initialization the startup parser accepts. -/
def mapLine : List Char := "#EXT-X-MAP:URI=\"init.mp4\"".toList

def isMap (line : List Char) : Bool := decide ("#EXT-X-MAP:".toList <+: line)

def isReference (line : List Char) : Bool := !line.isEmpty && line.head? ≠ some '#'

/-- The lines the startup parser goes on behind. -/
inductive Accepted : List Char → Prop
  | quiet (comment : line.head? = some '#') (untagged : ¬ "URI=".toList <:+: line)
      (other : ¬ "#EXT-X-MAP:".toList <+: line) (single : ¬ "#EXT-X-STREAM-INF:".toList <+: line) : Accepted line
  | map : Accepted mapLine
  | inf (starts : "#EXTINF:".toList <+: line) : Accepted line
  | segment (reference : Reference line) (valid : segmentName line = true) : Accepted line

/-- What the startup parser takes from a line. -/
structure Read (state state' : Startup) (line : List Char) : Prop where
  accepted : Accepted line
  maps : state'.initialization.isSome.toNat = state.initialization.isSome.toNat + (isMap line).toNat
  initialization : ∀ file, state'.initialization = some file → state.initialization = some file ∨ file = "init.mp4".toList
  segments : state'.firstSegment = state.firstSegment.or (if isReference line then some line else none)

variable {line rest content rendition : List Char} {state state' final : Startup} {session : Uuid}

theorem isReference_iff : isReference line = true ↔ Reference line := by
  simp [isReference, Reference]

theorem not_starts {first second : List Char} (starts : first <+: line) (unlike : ¬ first <+: second)
    (unlike' : ¬ second <+: first) : ¬ second <+: line := by
  intro starts'
  rcases List.prefix_or_prefix_of_prefix starts starts' with shorter | shorter
  · exact unlike shorter
  · exact unlike' shorter

theorem head_of_starts (starts : first <+: line) (head : first.head? = some c) : line.head? = some c := by
  obtain ⟨rest, rfl⟩ := starts
  rw [List.head?_append, head]
  rfl

theorem untagged_of_no_equals (absent : '=' ∉ line) : ¬ "URI=".toList <:+: line :=
  fun within => absent (within.subset (by decide))

theorem Read.of_quiet (accepted : Accepted line) (comment : line.head? = some '#') (other : isMap line = false)
    (initialization : state'.initialization = state.initialization)
    (firstSegment : state'.firstSegment = state.firstSegment) : Read state state' line := by
  have plain : isReference line = false := by simp [isReference, comment]
  refine ⟨accepted, by rw [initialization, other]; rfl, fun file held => .inl (initialization ▸ held), ?_⟩
  rw [firstSegment, plain]
  simp

theorem parseU64_chars (parsed : parseU64 value = some n) : ∀ c ∈ value, c = '+' ∨ c.isDigit = true := by
  unfold parseU64 at parsed
  simp only at parsed
  split at parsed
  · rename_i valid
    obtain ⟨-, digits, -⟩ := valid
    rw [List.all_eq_true] at digits
    cases signed : stripPrefix ['+'] value with
    | none =>
      rw [signed] at digits
      exact fun c member => .inr (digits c member)
    | some =>
      rw [signed] at digits
      rw [stripPrefix_eq_some] at signed
      intro c member
      rw [signed] at member
      rcases List.mem_cons.mp member with same | member
      · exact .inl same
      · exact .inr (digits c member)
  · cases parsed

theorem startupPublication_reads (shape : line = "#EXT-X-PLAYLIST-TYPE:".toList ++ rest)
    (read : startupPublication state rest = .ok (some state')) : Read state state' line := by
  unfold startupPublication at read
  split at read
  · cases read
  · rename_i publication known
    split at read
    · cases read
    · cases read
      have listed : line = "#EXT-X-PLAYLIST-TYPE:VOD".toList ∨ line = "#EXT-X-PLAYLIST-TYPE:EVENT".toList := by
        unfold publicationType at known
        split at known
        · rename_i same
          exact .inl (by rw [shape, same]; rfl)
        · split at known
          · rename_i same
            exact .inr (by rw [shape, same]; rfl)
          · cases known
      have facts : line.head? = some '#' ∧ '=' ∉ line ∧ isMap line = false ∧
          ¬ "#EXT-X-STREAM-INF:".toList <+: line := by
        rcases listed with rfl | rfl
        · decide +kernel
        · decide +kernel
      obtain ⟨comment, absent, other, single⟩ := facts
      exact .of_quiet (.quiet comment (untagged_of_no_equals absent) (of_decide_eq_false other) single) comment other rfl rfl

theorem startupDuration_reads (shape : line = "#EXT-X-TARGETDURATION:".toList ++ rest)
    (read : startupDuration state rest = .ok (some state')) : Read state state' line := by
  have starts : "#EXT-X-TARGETDURATION:".toList <+: line := ⟨rest, shape.symm⟩
  have comment := head_of_starts starts rfl
  have other : ¬ "#EXT-X-MAP:".toList <+: line := not_starts starts (by decide) (by decide)
  unfold startupDuration at read
  split at read
  · cases read
  · rename_i valid
    cases read
    simp only [Bool.or_eq_true, not_or, Bool.not_eq_true', Bool.not_eq_false, Option.any_eq_true] at valid
    obtain ⟨⟨n, parsed, -⟩, -⟩ := valid
    have absent : '=' ∉ line := by
      intro member
      rw [shape] at member
      rcases List.mem_append.mp member with member | member
      · exact absurd member (by decide)
      · rcases parseU64_chars parsed _ member with same | digit
        · exact absurd same (by decide)
        · exact absurd digit (by decide)
    refine .of_quiet (.quiet comment (untagged_of_no_equals absent) other ?_) comment (decide_eq_false other) rfl rfl
    exact not_starts starts (by decide) (by decide)

theorem startupMap_reads (read : startupMap state line = .ok (some state')) : Read state state' line := by
  unfold startupMap at read
  split at read
  · cases read
  · rename_i filename found
    split at read
    · cases read
    · rename_i unset
      cases read
      obtain ⟨found, same⟩ := Option.filter_eq_some_iff.mp found
      obtain ⟨value, starts, ends⟩ := Option.bind_eq_some_iff.mp found
      rw [stripPrefix_eq_some] at starts
      rw [stripSuffix_eq_some] at ends
      have file : filename = "init.mp4".toList := of_decide_eq_true same
      have whole : line = mapLine := by
        rw [starts, ends, file]
        rfl
      have first : state.initialization = none := by simpa using unset
      rw [whole]
      refine ⟨.map, ?_, fun held initialized => .inr ?_, ?_⟩
      · rw [first, show isMap mapLine = true by decide +kernel]
        rfl
      · cases initialized
        exact file
      · rw [show isReference mapLine = false by decide +kernel]
        simp

theorem startupInf_reads (shape : line = "#EXTINF:".toList ++ rest)
    (read : startupInf state rest = .ok (some state')) : Read state state' line := by
  have starts : "#EXTINF:".toList <+: line := ⟨rest, shape.symm⟩
  have other : ¬ "#EXT-X-MAP:".toList <+: line := not_starts starts (by decide) (by decide)
  unfold startupInf at read
  simp only at read
  split at read
  · cases read
  · cases read
    exact .of_quiet (.inf starts) (head_of_starts starts rfl) (decide_eq_false other) rfl rfl

theorem startupSegment_reads (reference : Reference line) (other : ¬ "#EXT-X-MAP:".toList <+: line)
    (read : startupSegment state line = .ok (some state')) : Read state state' line := by
  unfold startupSegment at read
  split at read
  · cases read
  · rename_i valid
    simp only [Bool.or_eq_true, not_or, Bool.not_eq_true', Bool.not_eq_false] at valid
    cases read
    refine ⟨.segment reference valid.2, by rw [isMap, decide_eq_false other]; rfl, fun file held => .inl held, ?_⟩
    rw [isReference_iff.mpr reference]
    cases state.firstSegment with
    | none => rfl
    | some => rfl

theorem startupLine_reads (filled : line ≠ []) (read : startupLine state line = .ok (some state')) :
    Read state state' line := by
  unfold startupLine at read
  split at read
  · cases read
  · split at read
    · rename_i value stripped
      exact startupPublication_reads (stripPrefix_eq_some.mp stripped) read
    · split at read
      · rename_i value stripped
        exact startupDuration_reads (stripPrefix_eq_some.mp stripped) read
      · split at read
        · exact startupMap_reads read
        · rename_i other
          split at read
          · rename_i value stripped
            exact startupInf_reads (stripPrefix_eq_some.mp stripped) read
          · split at read
            · rename_i last
              split at read
              · cases read
              · cases read
                rw [last]
                exact .of_quiet (.quiet rfl (by decide) (by decide) (by decide)) rfl (by decide) rfl rfl
            · split at read
              · cases read
              · rename_i plain
                simp only [not_or] at plain
                split at read
                · rename_i uncommented
                  exact startupSegment_reads ⟨filled, uncommented⟩ other read
                · rename_i comment
                  cases read
                  rw [not_not] at comment
                  exact .of_quiet (.quiet comment plain.1 other plain.2.1) comment (decide_eq_false other) rfl rfl

theorem startupLines_read (filled : ∀ line ∈ rows, line ≠ []) (read : startupLines state rows = .ok (some final)) :
    (∀ line ∈ rows, Accepted line) ∧
      final.initialization.isSome.toNat = state.initialization.isSome.toNat + (rows.filter isMap).length ∧
      (∀ file, final.initialization = some file → state.initialization = some file ∨ file = "init.mp4".toList) ∧
      final.firstSegment = state.firstSegment.or (rows.filter isReference).head? := by
  induction rows generalizing state with
  | nil =>
    cases read
    exact ⟨by simp, by simp, fun file held => .inl held, by simp⟩
  | cons line rows ih =>
    unfold startupLines at read
    obtain ⟨next, first, continued⟩ := ok_bind.mp read
    cases next with
    | none => cases continued
    | some =>
      have step := startupLine_reads (filled line (by simp)) first
      obtain ⟨accepted, maps, initialization, segments⟩ := ih (fun line member => filled line (by simp [member])) continued
      refine ⟨?_, ?_, ?_, ?_⟩
      · intro other member
        rcases List.mem_cons.mp member with rfl | member
        · exact step.accepted
        · exact accepted other member
      · rw [maps, step.maps, List.filter_cons]
        cases isMap line with
        | false => simp
        | true =>
          simp only [Bool.toNat_true, if_true, List.length_cons]
          omega
      · intro file held
        rcases initialization file held with held | same
        · exact step.initialization file held
        · exact .inr same
      · rw [segments, step.segments, List.filter_cons]
        cases isReference line with
        | false => simp
        | true => cases state.firstSegment <;> simp

/-- What the startup parser has seen of a text it accepts. -/
structure Published (content : List Char) (refs : StartupReferences) : Prop where
  header : ∃ rows, ((lines content).map trim).filter (· ≠ []) = "#EXTM3U".toList :: rows
  accepted : ∀ row ∈ lines content, trim row = [] ∨ trim row = "#EXTM3U".toList ∨ Accepted (trim row)
  maps : (((lines content).map trim).filter isMap).length = 1
  initialization : refs.initialization = "init.mp4".toList
  segments : (((lines content).map trim).filter isReference).head? = some refs.segment

theorem Startup.references_eq_some (known : state.references = some refs) :
    state.initialization = some refs.initialization ∧ state.firstSegment = some refs.segment := by
  unfold Startup.references at known
  split at known
  · cases known
  · split at known
    · rename_i initialization segment publication first second third
      split at known
      · cases known
      · cases known
        exact ⟨first, second⟩
    · cases known

theorem filter_filled {rows : List (List Char)} (absent : p [] = false) :
    (rows.filter (· ≠ [])).filter p = rows.filter p := by
  rw [List.filter_filter]
  apply List.filter_congr
  intro row _
  by_cases empty : row = []
  · simp [empty, absent]
  · simp [empty]

theorem parse_published (parsed : parse content = .ok (some refs)) : Published content refs := by
  unfold parse at parsed
  split at parsed
  · cases parsed
  · split at parsed
    · cases parsed
    · rename_i header rows shape
      split at parsed
      · cases parsed
      · rename_i headed
        rw [not_not] at headed
        obtain ⟨read, ran, finished⟩ := ok_bind.mp parsed
        cases read with
        | none => cases finished
        | some final =>
          have filled : ∀ line ∈ header :: rows, line ≠ [] := by
            intro line member
            rw [← shape] at member
            simpa using (List.mem_filter.mp member).2
          obtain ⟨accepted, maps, initialization, segments⟩ :=
            startupLines_read (fun line member => filled line (by simp [member])) ran
          have found : final.references = some refs := Except.ok.inj finished
          obtain ⟨mapped, first⟩ := Startup.references_eq_some found
          rw [headed] at shape
          refine ⟨⟨rows, shape⟩, ?_, ?_, ?_, ?_⟩
          · intro row member
            by_cases empty : trim row = []
            · exact .inl empty
            · have listed : trim row ∈ ((lines content).map trim).filter (· ≠ []) :=
                List.mem_filter.mpr ⟨List.mem_map_of_mem member, by simpa using empty⟩
              rw [shape] at listed
              rcases List.mem_cons.mp listed with same | listed
              · exact .inr (.inl same)
              · exact .inr (.inr (accepted _ listed))
          · have single : isMap "#EXTM3U".toList = false := by decide
            rw [← filter_filled (by decide), shape, List.filter_cons, single]
            rw [mapped] at maps
            simpa using maps.symm
          · rcases initialization _ mapped with before | same
            · cases before
            · exact same
          · have plain : isReference "#EXTM3U".toList = false := by decide
            rw [← filter_filled (by decide), shape, List.filter_cons, plain]
            rw [first] at segments
            simpa using segments.symm

/-! ## The serving path -/

/-- A line with its names bound to a route. -/
def boundLine (route line : List Char) : List Char :=
  if isReference line then route ++ line
  else match stripPrefix "#EXT-X-MAP:URI=\"".toList line with
    | some rest => "#EXT-X-MAP:URI=\"".toList ++ route ++ rest
    | none => line

/-- The lines of a playlist, bound to the routes of a rendition. -/
def boundPlaylist (session : Uuid) (rendition content : List Char) : List (List Char) :=
  (lines content).map fun row => boundLine (transcodeBase session ++ rendition ++ ['/']) (trim row)

/-- The segment titles are free of `URI=`. -/
def TitlesPlain (content : List Char) : Prop :=
  ∀ row ∈ lines content, "#EXTINF:".toList <+: trim row → ¬ "URI=".toList <:+: trim row

/-- The serving path lists the initialization and the segments of the text. -/
def Served (content : List Char) (session : Uuid) (rendition : List Char) (refs : StartupReferences) : Prop :=
  ∃ result, normalizeManifest content session rendition = .ok result ∧ isMaster content = false ∧
    (lines result).filter isMap =
      ["#EXT-X-MAP:URI=\"".toList ++ (transcodeBase session ++ rendition ++ '/' :: refs.initialization) ++ ['"']] ∧
    refs.initialization = "init.mp4".toList ∧
    (lines result).filter isReference = (references content).map (transcodeBase session ++ rendition ++ '/' :: ·) ∧
    (references content).head? = some refs.segment

theorem validateSegmentFilename_of_segmentName (valid : segmentName line = true) :
    validateSegmentFilename line = .ok () := by
  unfold segmentName at valid
  rw [Bool.and_eq_true, decide_eq_true_eq] at valid
  unfold validateSegmentFilename
  split
  · rfl
  · rw [if_neg]
    simp only [Bool.or_eq_true, decide_eq_true_eq, Bool.not_eq_true', not_or, Bool.not_eq_false]
    exact ⟨Nat.not_lt.mpr valid.1, valid.2⟩

theorem normalizeLine_map (variants : List (List Char)) :
    normalizeLine session rendition false variants mapLine =
      .ok ("#EXT-X-MAP:URI=\"".toList ++ (transcodeBase session ++ rendition ++ '/' :: "init.mp4".toList) ++ ['"'],
        variants) := by
  have tagged : mapLine.head? = some '#' ∧ "URI=".toList <:+: mapLine := by decide +kernel
  have first : splitOnce "URI=\"".toList mapLine = some ("#EXT-X-MAP:".toList, "init.mp4\"".toList) := by decide +kernel
  have second : splitOnce ['"'] "init.mp4\"".toList = some ("init.mp4".toList, []) := by decide +kernel
  have mapped : "#EXT-X-MAP:".toList <+: mapLine := by decide +kernel
  have known : publicSegment "init.mp4".toList session rendition =
      .ok (transcodeBase session ++ rendition ++ '/' :: "init.mp4".toList) := rfl
  have bound : normalizeTag session rendition false mapLine =
      .ok ("#EXT-X-MAP:".toList ++ "URI=\"".toList ++ (transcodeBase session ++ rendition ++ '/' :: "init.mp4".toList) ++
        ['"']) := by
    unfold normalizeTag
    rw [if_neg (by simpa using mapped), first]
    simp only
    rw [if_neg (by decide), second]
    simp only
    rw [if_neg (by decide), known]
    rfl
  unfold normalizeLine
  rw [if_pos tagged, bound]
  rfl

/-- A line that the serving path emits bound, whatever was seen before it. -/
def Servable (session : Uuid) (rendition line : List Char) : Prop :=
  ∀ variants, normalizeLine session rendition false variants line =
    .ok (boundLine (transcodeBase session ++ rendition ++ ['/']) line, variants)

theorem servable_plain (plain : ¬ Reference line) (untagged : ¬ "URI=".toList <:+: line) :
    Servable session rendition line := by
  intro variants
  have kept : boundLine (transcodeBase session ++ rendition ++ ['/']) line = line := by
    unfold boundLine
    rw [if_neg fun reference => plain (isReference_iff.mp reference)]
    cases stripped : stripPrefix "#EXT-X-MAP:URI=\"".toList line with
    | none => rfl
    | some rest =>
      apply (untagged _).elim
      rw [stripPrefix_eq_some.mp stripped]
      exact ⟨"#EXT-X-MAP:".toList, '"' :: rest, by simp⟩
  rw [kept]
  exact normalizeLine_other plain untagged

theorem boundLine_map (route : List Char) :
    boundLine route mapLine = "#EXT-X-MAP:URI=\"".toList ++ route ++ "init.mp4\"".toList := by
  have stripped : stripPrefix "#EXT-X-MAP:URI=\"".toList mapLine = some "init.mp4\"".toList := by decide +kernel
  unfold boundLine
  rw [if_neg (by decide +kernel), stripped]

theorem Accepted.servable (accepted : Accepted line)
    (plain : "#EXTINF:".toList <+: line → ¬ "URI=".toList <:+: line) : Servable session rendition line := by
  cases accepted with
  | quiet comment untagged => exact servable_plain (fun reference => reference.2 comment) untagged
  | map =>
    intro variants
    rw [normalizeLine_map, boundLine_map]
    simp
  | inf starts =>
    have comment := head_of_starts starts rfl
    exact servable_plain (fun reference => reference.2 comment) (plain starts)
  | segment reference valid =>
    intro variants
    have bound : publicSegment line session rendition = .ok (transcodeBase session ++ rendition ++ '/' :: line) := by
      unfold publicSegment
      rw [validateSegmentFilename_of_segmentName valid]
      rfl
    have kept : boundLine (transcodeBase session ++ rendition ++ ['/']) line =
        transcodeBase session ++ rendition ++ '/' :: line := by
      unfold boundLine
      rw [if_pos (isReference_iff.mpr reference)]
      simp
    unfold Reference at reference
    unfold normalizeLine
    rw [if_neg fun tagged => reference.2 tagged.1, if_pos reference, if_neg (by simp), bound, kept]
    rfl

theorem normalized_servable (each : ∀ row ∈ rows, Servable session rendition (trim row)) :
    Normalized session rendition false variants rows
      (rows.map fun row => boundLine (transcodeBase session ++ rendition ++ ['/']) (trim row)) := by
  induction rows with
  | nil => exact .nil
  | cons row _ ih =>
    exact .cons (each row (by simp) variants) (ih fun row member => each row (by simp [member]))

theorem Published.unlisted (published : Published content refs) : isMaster content = false := by
  unfold isMaster
  rw [List.any_eq_false]
  intro row member
  rw [decide_eq_true_eq]
  intro starts
  have cut : '#' :: ("EXT-X-STREAM-INF".toList ++ [':']) <+: row := starts
  have trimmed : "#EXT-X-STREAM-INF:".toList <+: trim row := starts_trim cut (by decide) (by decide)
  rcases published.accepted row member with empty | header | accepted
  · rw [empty] at trimmed
    exact absurd trimmed (by decide)
  · rw [header] at trimmed
    exact absurd trimmed (by decide)
  · generalize trim row = line at trimmed accepted
    cases accepted with
    | quiet _ _ _ single => exact single trimmed
    | map => exact absurd trimmed (by decide +kernel)
    | inf starts => exact not_starts starts (by decide) (by decide) trimmed
    | segment reference => exact reference.2 (head_of_starts trimmed rfl)

theorem Published.servable (published : Published content refs) (plain : TitlesPlain content) :
    ∀ row ∈ lines content, Servable session rendition (trim row) := by
  intro row member
  rcases published.accepted row member with empty | header | accepted
  · rw [empty]
    exact servable_plain (fun reference => reference.1 rfl) (by decide)
  · rw [header]
    exact servable_plain (fun reference => reference.2 rfl) (by decide)
  · exact accepted.servable (plain row member)

section
variable {route : List Char} (absolute : route.head? = some '/')
include absolute

theorem isReference_boundLine : isReference (boundLine route line) = isReference line := by
  unfold boundLine
  cases reference : isReference line with
  | true =>
    rw [if_pos rfl]
    obtain ⟨c, rest, rfl⟩ := List.exists_cons_of_ne_nil (l := route) (by rintro rfl; cases absolute)
    cases absolute
    rfl
  | false =>
    rw [if_neg (by simp)]
    cases stripped : stripPrefix "#EXT-X-MAP:URI=\"".toList line with
    | none => exact reference
    | some => rfl

theorem isMap_boundLine : isMap (boundLine route line) = isMap line := by
  unfold boundLine
  cases reference : isReference line with
  | true =>
    rw [if_pos rfl]
    have plain := (isReference_iff.mp reference).2
    have other : ¬ "#EXT-X-MAP:".toList <+: line := fun starts => plain (head_of_starts starts rfl)
    have moved : ¬ "#EXT-X-MAP:".toList <+: route ++ line := by
      intro starts
      have comment := head_of_starts starts rfl
      rw [List.head?_append, absolute] at comment
      cases comment
    rw [isMap, isMap, decide_eq_false other, decide_eq_false moved]
  | false =>
    rw [if_neg (by simp)]
    cases stripped : stripPrefix "#EXT-X-MAP:URI=\"".toList line with
    | none => rfl
    | some rest =>
      have shape := stripPrefix_eq_some.mp stripped
      have starts : ∀ tail : List Char, isMap ("#EXT-X-MAP:URI=\"".toList ++ tail) = true := by
        intro tail
        rw [isMap, decide_eq_true_eq]
        exact ⟨"URI=\"".toList ++ tail, by simp⟩
      rw [shape, starts]
      show isMap ("#EXT-X-MAP:URI=\"".toList ++ route ++ rest) = true
      rw [List.append_assoc, starts]

end

theorem transcodeBase_head (session : Uuid) (rest : List Char) : (transcodeBase session ++ rest).head? = some '/' := by
  unfold transcodeBase
  rw [List.append_assoc, List.append_assoc, List.head?_append]
  rfl

theorem Accepted.eq_map (accepted : Accepted line) (mapped : isMap line = true) : line = mapLine := by
  have starts : "#EXT-X-MAP:".toList <+: line := of_decide_eq_true mapped
  cases accepted with
  | quiet _ _ other => exact (other starts).elim
  | map => rfl
  | inf starts' => exact (not_starts starts' (by decide) (by decide) starts).elim
  | segment reference => exact (reference.2 (head_of_starts starts rfl)).elim

theorem Published.eq_map (published : Published content refs)
    (member : row ∈ lines content) (mapped : isMap (trim row) = true) : trim row = mapLine := by
  rcases published.accepted row member with empty | header | accepted
  · rw [empty] at mapped
    exact absurd mapped (by decide)
  · rw [header] at mapped
    exact absurd mapped (by decide)
  · exact accepted.eq_map mapped

theorem Published.chomp (published : Published content refs) (member : row ∈ lines content) (route : List Char) :
    Text.chomp (boundLine route (trim row)) = boundLine route (trim row) := by
  unfold boundLine
  cases reference : isReference (trim row) with
  | true =>
    rw [if_pos rfl]
    exact chomp_append (isReference_iff.mp reference).1 (chomp_trim row)
  | false =>
    rw [if_neg (by simp)]
    cases stripped : stripPrefix "#EXT-X-MAP:URI=\"".toList (trim row) with
    | none => exact chomp_trim row
    | some rest =>
      have shape := stripPrefix_eq_some.mp stripped
      have mapped : isMap (trim row) = true := by
        rw [isMap, decide_eq_true_eq, shape]
        exact ⟨"URI=\"".toList ++ rest, by simp⟩
      rw [published.eq_map member mapped] at shape
      have ending : "init.mp4\"".toList = rest := List.append_cancel_left (show "#EXT-X-MAP:URI=\"".toList ++ _ = _ from shape)
      exact chomp_append (by rw [← ending]; decide) (by rw [← ending]; decide)

theorem Normalized.each {variants rows emitted : List (List Char)}
    (normalized : Normalized session rendition master variants rows emitted) :
    ∀ row ∈ rows, ∃ variants reply, normalizeLine session rendition master variants (trim row) = .ok reply := by
  induction normalized with
  | nil => simp
  | cons first _ ih =>
    intro row member
    rcases List.mem_cons.mp member with rfl | member
    · exact ⟨_, _, first⟩
    · exact ih row member

/-- A title with a `URI=` is refused by the serving path. -/
theorem normalizeLine_inf (starts : "#EXTINF:".toList <+: line) (within : "URI=".toList <:+: line) :
    normalizeLine session rendition master variants line ≠ .ok reply := by
  have other : ¬ "#EXT-X-MAP:".toList <+: line := not_starts starts (by decide) (by decide)
  unfold normalizeLine
  rw [if_pos ⟨head_of_starts starts rfl, within⟩]
  unfold normalizeTag
  rw [if_pos (.inr other)]
  intro accepted
  cases accepted

theorem filter_boundPlaylist
    (kept : ∀ line, p (boundLine (transcodeBase session ++ rendition ++ ['/']) line) = p line) :
    (boundPlaylist session rendition content).filter p =
      (((lines content).map trim).filter p).map (boundLine (transcodeBase session ++ rendition ++ ['/'])) := by
  unfold boundPlaylist
  rw [List.filter_map, List.filter_map, List.map_map]
  congr 1
  apply List.filter_congr
  intro row _
  exact kept (trim row)

/-- A text the startup parser accepts is served exactly if its header line is read as one
and no segment title contains `URI=`. -/
theorem ready_playlist_served_iff (content : List Char) (session : Uuid) (rendition : List Char) (refs : StartupReferences)
    (valid : RenditionName rendition) (ready : parse content = .ok (some refs))
    (fits : lineBytes (boundPlaylist session rendition content) ≤ playlistLimit) :
    Served content session rendition refs ↔ Headed content ∧ TitlesPlain content := by
  have published := parse_published ready
  have unlisted := published.unlisted
  constructor
  · rintro ⟨result, accepted, -⟩
    obtain ⟨-, headed, emitted, normalized, -, -⟩ := normalizeManifest_eq_ok.mp accepted
    refine ⟨headed, fun row member starts within => ?_⟩
    obtain ⟨variants, reply, bound⟩ := normalized.each row member
    exact normalizeLine_inf starts within bound
  · rintro ⟨headed, plain⟩
    have normalized : Normalized session rendition (isMaster content) [] (lines content)
        (boundPlaylist session rendition content) := by
      rw [unlisted]
      exact normalized_servable (published.servable plain)
    have emitted : lines (['\n'].intercalate (boundPlaylist session rendition content) ++ ['\n']) =
        boundPlaylist session rendition content := by
      have read : lines (['\n'].intercalate (boundPlaylist session rendition content) ++ ['\n']) =
          (boundPlaylist session rendition content).map Text.chomp := lines_rebase none valid headed normalized
      rw [read]
      unfold boundPlaylist
      rw [List.map_map]
      apply List.map_congr_left
      intro row member
      exact published.chomp member _
    have absolute : (transcodeBase session ++ rendition ++ ['/']).head? = some '/' := by
      rw [List.append_assoc]
      exact transcodeBase_head _ _
    refine ⟨_, normalizeManifest_eq_ok.mpr ⟨valid, headed, _, normalized, fits, rfl⟩, unlisted, ?_, published.initialization,
      ?_, published.segments⟩
    · rw [emitted, filter_boundPlaylist fun line => isMap_boundLine absolute]
      obtain ⟨only, single⟩ := List.length_eq_one_iff.mp published.maps
      have listed : only ∈ ((lines content).map trim).filter isMap := by simp [single]
      obtain ⟨listed, mapped⟩ := List.mem_filter.mp listed
      obtain ⟨row, member, rfl⟩ := List.mem_map.mp listed
      rw [single, List.map_singleton, published.eq_map member mapped, boundLine_map, published.initialization]
      simp
    · rw [emitted, filter_boundPlaylist fun line => isReference_boundLine absolute]
      apply List.map_congr_left
      intro line member
      unfold boundLine
      rw [if_pos (List.mem_filter.mp member).2]
      simp

namespace Sample

def started : List Char :=
  "#EXTM3U\n#EXT-X-VERSION:7\n#EXT-X-TARGETDURATION:2\n#EXT-X-PLAYLIST-TYPE:EVENT\n".toList ++
    "#EXT-X-MAP:URI=\"init.mp4\"\n#EXTINF:2.000,\nseg_0000.m4s\n".toList

/-- The same playlist with a title for its segment. -/
def titled : List Char :=
  "#EXTM3U\n#EXT-X-TARGETDURATION:2\n#EXT-X-PLAYLIST-TYPE:EVENT\n".toList ++
    "#EXT-X-MAP:URI=\"init.mp4\"\n#EXTINF:2.000,URI=intro\nseg_0000.m4s\n".toList

def ready : StartupReferences := ⟨"init.mp4".toList, "seg_0000.m4s".toList, .event, false⟩

end Sample

open Sample in
theorem started_playlist_served :
    parse started = .ok (some ready) ∧ Served started playing "remux".toList ready := by
  have parsed : parse started = .ok (some ready) := by decide +kernel
  have named : validateRendition "remux".toList = .ok () := by decide +kernel
  refine ⟨parsed, (ready_playlist_served_iff started playing "remux".toList ready (validateRendition_eq_ok.mp named) parsed
    (by decide +kernel)).mpr ⟨?_, ?_⟩⟩
  · show _ = _
    decide +kernel
  · show ∀ row ∈ lines started, "#EXTINF:".toList <+: trim row → ¬ "URI=".toList <:+: trim row
    decide +kernel

open Sample in
/-- The title makes the serving path refuse what the startup parser accepts. -/
theorem titled_playlist_refused :
    ¬ ∀ content session rendition refs, RenditionName rendition → parse content = .ok (some refs) →
      lineBytes (boundPlaylist session rendition content) ≤ playlistLimit → Served content session rendition refs := by
  intro claimed
  have named : validateRendition "remux".toList = .ok () := by decide +kernel
  obtain ⟨result, accepted, -⟩ := claimed titled playing "remux".toList ready (validateRendition_eq_ok.mp named)
    (by decide +kernel) (by decide +kernel)
  have refused : normalizeManifest titled playing "remux".toList = .error .sessionNotFound := by decide +kernel
  cases accepted.symm.trans refused

end Duskcue.Hls
