import Duskcue.Document
import Duskcue.PlaybackSchema

/-! Conditions of overlays and smart collections: a JSON tree of `and` and `or` groups
over leaves that test one field of a media item. Groups and leaves are read from the
document as they are evaluated, so each reading has its own default. -/
namespace Duskcue.Conditions
open Playback (Uuid)

/-- `MediaFilterContext`; `φ` stands for `f64`. -/
structure MediaFilterContext (φ : Type) where
  mediaType : String
  libraryId : Option Uuid
  contentRating : Option String
  criticRating : Option φ
  genres : List String
  videoResolution : Option String
  videoCodec : Option String
  videoDynamicRange : Option String
  audioCodec : Option String
  audioChannels : Option Int
  containerFormat : Option String
  hasDolbyVision : Bool
  hasMultipleVersions : Bool
  edition : Option String
  originalLanguage : Option String
  streamingOn : List String

/-- What is taken from elsewhere: `f64`, the numbers in a text, the text of an identifier
and regular expressions. -/
structure Formats (φ : Type) where
  /-- `as f64`. -/
  ofInt : Int → φ
  /-- `as i64`. -/
  toInt : φ → Int
  lt : φ → φ → Bool
  le : φ → φ → Bool
  /-- `(a - b).abs() < f64::EPSILON`. -/
  near : φ → φ → Bool
  parseF64 : String → Option φ
  parseI64 : String → Option Int
  uuidText : Uuid → String
  /-- `Regex::new`, with `is_match` of what it compiles. -/
  regex : String → Option (String → Bool)

variable {φ : Type}

/-- The members of an object. -/
abbrev Fields (φ : Type) := List (String × Json φ)

/-- `str::eq_ignore_ascii_case`. -/
def eqIgnoreCase (a b : String) : Bool := a.toList.map Char.toLower = b.toList.map Char.toLower

/-- `Value::as_array`. -/
def asArray : Json φ → Option (List (Json φ))
  | .list items => some items
  | _ => none

section
variable (env : Formats φ)

def jsonToF64 : Json φ → Option φ
  | .integer n => some (env.ofInt n)
  | .fraction x => some x
  | .text s => env.parseF64 s
  | _ => none

def jsonToI64 : Json φ → Option Int
  | .integer n => some (((Json.integer n : Json φ).asI64).getD (env.toInt (env.ofInt n)))
  | .fraction x => some (env.toInt x)
  | .text s => env.parseI64 s
  | _ => none

/-! ## Comparisons -/

def textField (field : String) (ctx : MediaFilterContext φ) : Option String :=
  match field with
  | "video_resolution" => ctx.videoResolution
  | "video_codec" => ctx.videoCodec
  | "video_dynamic_range" => ctx.videoDynamicRange
  | "audio_codec" => ctx.audioCodec
  | "container_format" => ctx.containerFormat
  | "content_rating" => ctx.contentRating
  | "media_type" => some ctx.mediaType
  | "original_language" => ctx.originalLanguage
  | "edition" => ctx.edition
  | _ => none

/-- The value of a comparison that has one. -/
def equals (field : String) (value : Json φ) (ctx : MediaFilterContext φ) : Bool :=
  match field with
  | "genre" => value.asStr.any fun v => ctx.genres.any (eqIgnoreCase · v)
  | "streaming_on" => value.asStr.any fun v => ctx.streamingOn.any (eqIgnoreCase · v)
  | "library_id" => value.asStr.any fun target => ctx.libraryId.any (env.uuidText · = target)
  | "has_dolby_vision" => value.asBool.any (· = ctx.hasDolbyVision)
  | "has_multiple_versions" => value.asBool.any (· = ctx.hasMultipleVersions)
  | "audio_channels" => (jsonToI64 env value).any fun target => ctx.audioChannels.any (· = target)
  | "critic_rating" | "critic_rating_above" =>
    (jsonToF64 env value).any fun target => ctx.criticRating.any (env.near · target)
  | _ => (textField field ctx).any fun text => value.asStr.any (eqIgnoreCase text)

def compareEq (field : String) (value : Option (Json φ)) (ctx : MediaFilterContext φ) : Bool :=
  value.any fun value => equals env field value ctx

/-- The two sides of a numeric comparison. -/
def operands (field : String) (value : Json φ) (ctx : MediaFilterContext φ) : Option (φ × φ) :=
  match field with
  | "audio_channels" => do
    let t ← jsonToI64 env value
    let c ← ctx.audioChannels
    pure (env.ofInt c, env.ofInt t)
  | "critic_rating" | "critic_rating_above" => do
    let t ← jsonToF64 env value
    let r ← ctx.criticRating
    pure (r, t)
  | _ => none

def compareNumeric (field op : String) (value : Option (Json φ)) (ctx : MediaFilterContext φ) : Bool :=
  (value.bind (operands env field · ctx)).any fun (ctxNum, target) =>
    match op with
    | "gt" => env.lt target ctxNum
    | "gte" => env.le target ctxNum
    | "lt" => env.lt ctxNum target
    | "lte" => env.le ctxNum target
    | _ => false

def checkExists (field : String) (wantExists : Bool) (ctx : MediaFilterContext φ) : Bool :=
  let present := match field with
    | "video_resolution" => ctx.videoResolution.isSome
    | "video_codec" => ctx.videoCodec.isSome
    | "video_dynamic_range" => ctx.videoDynamicRange.isSome
    | "audio_codec" => ctx.audioCodec.isSome
    | "audio_channels" => ctx.audioChannels.isSome
    | "container_format" => ctx.containerFormat.isSome
    | "content_rating" => ctx.contentRating.isSome
    | "critic_rating" | "critic_rating_above" => ctx.criticRating.isSome
    | "original_language" => ctx.originalLanguage.isSome
    | "edition" => ctx.edition.isSome
    | "media_type" => !ctx.mediaType.isEmpty
    | "library_id" => ctx.libraryId.isSome
    | "genre" => !ctx.genres.isEmpty
    | "streaming_on" => !ctx.streamingOn.isEmpty
    | "has_dolby_vision" => ctx.hasDolbyVision
    | "has_multiple_versions" => ctx.hasMultipleVersions
    | _ => false
  present == wantExists

def matchRegex (field pattern : String) (ctx : MediaFilterContext φ) : Bool :=
  (textField field ctx).any fun text => (env.regex pattern).any (· text)

/-! ## Leaves and groups -/

/-- The text of a member. -/
def Fields.text (obj : Fields φ) (key : String) : Option String := (obj.lookup key).bind Json.asStr

def evaluateLeaf (obj : Fields φ) (ctx : MediaFilterContext φ) : Bool :=
  match obj.text "field", obj.text "op" with
  | some field, some op =>
    match op with
    | "eq" => compareEq env field (obj.lookup "value") ctx
    | "neq" => !compareEq env field (obj.lookup "value") ctx
    | "in" => ((obj.lookup "values").bind asArray).any fun values =>
      values.any fun v => compareEq env field (some v) ctx
    | "gt" | "gte" | "lt" | "lte" => compareNumeric env field op (obj.lookup "value") ctx
    | "exists" => checkExists field (((obj.lookup "value").bind Json.asBool).getD true) ctx
    | "matches" => (obj.text "value").any fun pattern => matchRegex env field pattern ctx
    | _ => false
  | _, _ => false

end

/-- A member is smaller than the object. -/
theorem sizeOf_lookup {obj : Fields φ} (found : obj.lookup key = some value) :
    sizeOf value < sizeOf (Json.object obj) := by
  induction obj with
  | nil => cases found
  | cons entry _ ih =>
    obtain ⟨name, held⟩ := entry
    rw [List.lookup_cons] at found
    split at found
    · cases found
      simp
      omega
    · have below := ih found
      simp only [Json.object.sizeOf_spec, List.cons.sizeOf_spec] at below ⊢
      omega

mutual
def evaluateGroup (env : Formats φ) (group : Json φ) (ctx : MediaFilterContext φ) : Bool :=
  match group with
  | .object obj =>
    match _found : obj.lookup "rules" with
    | some (.list rules) =>
      if rules.isEmpty then true
      else match (Fields.text obj "operator").getD "and" with
        | "and" => rules.attach.all fun r => evaluateNode env r.1 ctx
        | "or" => rules.attach.any fun r => evaluateNode env r.1 ctx
        | _ => rules.attach.all fun r => evaluateNode env r.1 ctx
    | _ => true
  | _ => true
termination_by (sizeOf group, 0)
decreasing_by all_goals
  have member := List.sizeOf_lt_of_mem r.2
  have below := sizeOf_lookup _found
  simp only [Json.list.sizeOf_spec] at below
  exact Prod.Lex.left _ _ (by omega)

def evaluateNode (env : Formats φ) (node : Json φ) (ctx : MediaFilterContext φ) : Bool :=
  match node with
  | .object obj =>
    if (obj.lookup "operator").isSome then evaluateGroup env (.object obj) ctx else evaluateLeaf env obj ctx
  | _ => false
termination_by (sizeOf node, 1)
end

def evaluate (env : Formats φ) (conditions : Json φ) (ctx : MediaFilterContext φ) : Bool :=
  match conditions with
  | .null => true
  | .bool b => b
  | .object [] => true
  | .object obj => evaluateGroup env (.object obj) ctx
  | _ => true

/-! ## Leaves that should not match -/

/-- The kinds of the supported fields. -/
inductive Kind
  | text | member | flag | channels | rating
  deriving DecidableEq

def kind : String → Option Kind
  | "video_resolution" | "video_codec" | "video_dynamic_range" | "audio_codec" | "container_format"
  | "content_rating" | "media_type" | "original_language" | "edition" => some .text
  | "genre" | "streaming_on" | "library_id" => some .member
  | "has_dolby_vision" | "has_multiple_versions" => some .flag
  | "audio_channels" => some .channels
  | "critic_rating" | "critic_rating_above" => some .rating
  | _ => none

section
variable (env : Formats φ)

/-- A value of the type that a field of this kind is compared with. -/
def Kind.takes (k : Kind) (value : Json φ) : Bool :=
  match k with
  | .text | .member => value.asStr.isSome
  | .flag => value.asBool.isSome
  | .channels => (jsonToI64 env value).isSome
  | .rating => (jsonToF64 env value).isSome

def Kind.numeric : Kind → Bool
  | .channels | .rating => true
  | _ => false

/-- The leaf has a value of the right type for its field and its operator. -/
def suits (k : Kind) (op : String) (obj : Fields φ) : Bool :=
  match op with
  | "eq" | "neq" => (obj.lookup "value").any (k.takes env)
  | "in" => ((obj.lookup "values").bind asArray).any fun values => values.any (k.takes env)
  | "gt" | "gte" | "lt" | "lte" => k.numeric && (obj.lookup "value").any (k.takes env)
  | "matches" => k = .text && (obj.text "value").isSome
  | _ => false

/-- The field is not supported, or the value is missing or of the wrong type. Only the
existence of a field is asked for without a value. -/
def Malformed (obj : Fields φ) : Prop :=
  match (obj.text "field").bind kind with
  | none => True
  | some k => obj.text "op" ≠ some "exists" ∧ ((obj.text "op").any fun op => suits env k op obj) = false

end

/-- The leaf asks that a field differs from a value, or that it is absent. -/
def Negates (obj : Fields φ) : Prop :=
  (obj.text "field").isSome = true ∧
    (obj.text "op" = some "neq" ∨ obj.text "op" = some "exists" ∧ (obj.lookup "value").bind Json.asBool = some false)

section
variable {env : Formats φ} {ctx : MediaFilterContext φ} {obj : Fields φ} {field : String}

theorem textField_of_kind (other : kind field ≠ some .text) : textField field ctx = none := by
  unfold kind at other
  unfold textField
  split at other <;> simp_all

theorem any_of_isSome {α : Type} {value : Option α} {p : α → Bool} (none : value.isSome = false) :
    value.any p = false := by
  cases value with
  | none => rfl
  | some => cases none

/-- A value of the wrong type is equal to no field. -/
theorem equals_of_unsuited {value : Json φ} (unsuited : ∀ k, kind field = some k → k.takes env value = false) :
    equals env field value ctx = false := by
  unfold equals
  split
  case h_9 =>
    by_cases text : kind field = some .text
    · have none : value.asStr.isSome = false := unsuited .text text
      simp [any_of_isSome none]
    · rw [textField_of_kind text]
      rfl
  all_goals exact any_of_isSome (unsuited _ rfl)

theorem compareEq_of_unsuited {value : Option (Json φ)}
    (unsuited : ∀ k, kind field = some k → value.any (k.takes env) = false) :
    compareEq env field value ctx = false := by
  cases value with
  | none => rfl
  | some => exact equals_of_unsuited unsuited

theorem operands_of_unsuited (unsuited : ∀ k, kind field = some k → (k.numeric && k.takes env value) = false) :
    operands env field value ctx = none := by
  unfold operands
  split
  · have none : jsonToI64 env value = none := by simpa [Kind.takes, Kind.numeric] using unsuited .channels rfl
    simp [none]
  · have none : jsonToF64 env value = none := by simpa [Kind.takes, Kind.numeric] using unsuited .rating rfl
    simp [none]
  · have none : jsonToF64 env value = none := by simpa [Kind.takes, Kind.numeric] using unsuited .rating rfl
    simp [none]
  · rfl

theorem compareNumeric_of_unsuited {value : Option (Json φ)}
    (unsuited : ∀ k, kind field = some k → (k.numeric && value.any (k.takes env)) = false) :
    compareNumeric env field op value ctx = false := by
  unfold compareNumeric
  cases value with
  | none => rfl
  | some => rw [Option.bind_some, operands_of_unsuited unsuited]; rfl

/-- A field that is not supported is never there. -/
theorem checkExists_of_unsupported (unsupported : kind field = none) : checkExists field want ctx = !want := by
  unfold kind at unsupported
  unfold checkExists
  split at unsupported <;> simp_all

theorem Malformed.unsuited (malformed : Malformed env obj) (named : obj.text "field" = some field)
    (asked : obj.text "op" = some op) (k : Kind) (supported : kind field = some k) :
    op ≠ "exists" ∧ suits env k op obj = false := by
  unfold Malformed at malformed
  rw [named, Option.bind_some, supported, asked] at malformed
  simpa using malformed

theorem evaluateLeaf_of_unsuited {op : String} (named : obj.text "field" = some field)
    (asked : obj.text "op" = some op)
    (unsuited : ∀ k, kind field = some k → op ≠ "exists" ∧ suits env k op obj = false) :
    evaluateLeaf env obj ctx = (op == "neq" || op == "exists" && (obj.lookup "value").bind Json.asBool == some false) := by
  unfold evaluateLeaf
  rw [named, asked]
  simp only
  split
  · rw [compareEq_of_unsuited fun k supported => (unsuited k supported).2]
    rfl
  · rw [compareEq_of_unsuited fun k supported => (unsuited k supported).2]
    rfl
  · cases listed : (obj.lookup "values").bind asArray with
    | none => rfl
    | some values =>
      have none : ∀ v ∈ values, compareEq env field (some v) ctx = false := by
        intro v member
        refine compareEq_of_unsuited fun k supported => ?_
        have unsuited : (((obj.lookup "values").bind asArray).any fun values => values.any (k.takes env)) = false :=
          (unsuited k supported).2
        rw [listed, Option.any_some, List.any_eq_false] at unsuited
        simpa using unsuited v member
      simpa using none
  iterate 4
    rw [compareNumeric_of_unsuited fun k supported => (unsuited k supported).2]
    rfl
  · have unsupported : kind field = none := by
      cases supported : kind field with
      | none => rfl
      | some k => exact absurd rfl (unsuited k supported).1
    rw [checkExists_of_unsupported unsupported]
    rcases (obj.lookup "value").bind Json.asBool with _ | (_ | _) <;> rfl
  · by_cases text : kind field = some .text
    · have none : (obj.text "value").isSome = false := (unsuited .text text).2
      rw [any_of_isSome none]
      rfl
    · cases obj.text "value" with
      | none => rfl
      | some =>
        rw [Option.any_some, matchRegex, textField_of_kind text]
        rfl
  · rename_i neq _ _ _ _ _ exists_ _
    simp_all

/-- A leaf that should not match does match exactly where it negates. -/
theorem evaluateLeaf_malformed (malformed : Malformed env obj) :
    evaluateLeaf env obj ctx = false ↔ ¬ Negates obj := by
  unfold Negates
  cases named : obj.text "field" with
  | none => simp [evaluateLeaf, named]
  | some =>
    cases asked : obj.text "op" with
    | none => simp [evaluateLeaf, named, asked]
    | some =>
      rw [evaluateLeaf_of_unsuited named asked (malformed.unsuited named asked)]
      simp

end

/-! ## Trees -/

/-- A tree of groups that are not empty, over leaves that satisfy `P`. -/
inductive Tree (P : Fields φ → Prop) : Json φ → Prop
  | leaf (plain : obj.lookup "operator" = none) (holds : P obj) : Tree P (.object obj)
  | group {obj : Fields φ} {operator : String} {rules : List (Json φ)}
      (named : obj.lookup "operator" = some (.text operator)) (logical : operator = "and" ∨ operator = "or")
      (listed : obj.lookup "rules" = some (.list rules)) (filled : rules ≠ [])
      (below : ∀ rule ∈ rules, Tree P rule) : Tree P (.object obj)

/-- The root is a group. -/
def Grouped (conditions : Json φ) : Prop := (conditions.get "operator").isSome = true

/-- The tree holds once its leaves that negate do: an `or` with one rule that holds, an
`and` with all. -/
inductive Affirms : Json φ → Prop
  | leaf (plain : obj.lookup "operator" = none) (negates : Negates obj) : Affirms (.object obj)
  | some (named : obj.lookup "operator" = some (.text "or")) (listed : obj.lookup "rules" = some (.list rules))
      (member : rule ∈ rules) (affirms : Affirms rule) : Affirms (.object obj)
  | every (named : obj.lookup "operator" = some (.text "and")) (listed : obj.lookup "rules" = some (.list rules))
      (affirms : ∀ rule ∈ rules, Affirms rule) : Affirms (.object obj)

section
variable {env : Formats φ} {ctx : MediaFilterContext φ} {obj : Fields φ} {rules : List (Json φ)}

theorem evaluateNode_leaf (plain : obj.lookup "operator" = none) :
    evaluateNode env (.object obj) ctx = evaluateLeaf env obj ctx := by
  rw [evaluateNode, plain]
  rfl

theorem evaluateGroup_rules (listed : obj.lookup "rules" = some (.list rules)) (filled : rules ≠ []) :
    evaluateGroup env (.object obj) ctx =
      if (Fields.text obj "operator").getD "and" = "or" then rules.any fun rule => evaluateNode env rule ctx
      else rules.all fun rule => evaluateNode env rule ctx := by
  unfold evaluateGroup
  split
  · rename_i found
    cases found.symm.trans listed
    rw [if_neg (by simpa using filled)]
    split
    · rename_i and_
      rw [and_, if_neg (by decide)]
      simp
    · rename_i or_
      rw [or_, if_pos rfl]
      simp
    · rename_i other
      rw [if_neg other]
      simp
  · rename_i other
    exact absurd listed (other rules)

theorem evaluateNode_group (named : obj.lookup "operator" = some (.text operator))
    (listed : obj.lookup "rules" = some (.list rules)) (filled : rules ≠ []) :
    evaluateNode env (.object obj) ctx =
      if operator = "or" then rules.any fun rule => evaluateNode env rule ctx
      else rules.all fun rule => evaluateNode env rule ctx := by
  rw [evaluateNode, if_pos (by simp [named]), evaluateGroup_rules listed filled]
  simp only [Fields.text, named, Option.bind_some, Json.asStr, Option.getD_some]

/-- A tree of leaves that should not match holds exactly where it is affirmed. -/
theorem evaluateNode_tree (tree : Tree (Malformed env) node) :
    evaluateNode env node ctx = true ↔ Affirms node := by
  induction tree with
  | leaf plain malformed =>
    rw [evaluateNode_leaf plain, ← Bool.not_eq_false, evaluateLeaf_malformed malformed, not_not]
    constructor
    · exact .leaf plain
    · intro affirms
      cases affirms with
      | leaf _ negates => exact negates
      | some named | every named => cases plain.symm.trans named
  | @group _ _ _ named logical listed filled _ ih =>
    rcases logical with rfl | rfl
    · rw [evaluateNode_group named listed filled, if_neg (by decide), List.all_eq_true]
      constructor
      · exact fun all => .every named listed fun rule member => (ih rule member).mp (all rule member)
      · intro affirms rule member
        cases affirms with
        | leaf plain => cases plain.symm.trans named
        | some other => simp [named] at other
        | every _ listed' affirms =>
          cases listed.symm.trans listed'
          exact (ih rule member).mpr (affirms rule member)
    · rw [evaluateNode_group named listed filled, if_pos rfl, List.any_eq_true]
      constructor
      · rintro ⟨rule, member, holds⟩
        exact .some named listed member ((ih rule member).mp holds)
      · intro affirms
        cases affirms with
        | leaf plain => cases plain.symm.trans named
        | every other => simp [named] at other
        | some _ listed' member affirms =>
          cases listed.symm.trans listed'
          exact ⟨_, member, (ih _ member).mpr affirms⟩

theorem evaluate_grouped (grouped : Grouped conditions) :
    evaluate env conditions ctx = evaluateNode env conditions ctx := by
  unfold Grouped Json.get at grouped
  split at grouped
  · rename_i obj
    cases obj with
    | nil => cases grouped
    | cons =>
      rw [evaluateNode, if_pos grouped]
      rfl
  · cases grouped

/-- Where no leaf negates nothing is affirmed. -/
theorem Tree.not_affirms (tree : Tree (fun obj => ¬ Negates obj) node) : ¬ Affirms node := by
  induction tree with
  | leaf plain negates =>
    intro affirms
    cases affirms with
    | leaf _ holds => exact negates holds
    | some named | every named => cases plain.symm.trans named
  | group named _ listed filled _ ih =>
    intro affirms
    cases affirms with
    | leaf plain => cases plain.symm.trans named
    | some _ listed' member affirms =>
      cases listed.symm.trans listed'
      exact ih _ member affirms
    | every _ listed' affirms =>
      cases listed.symm.trans listed'
      obtain ⟨rule, member⟩ := List.exists_mem_of_ne_nil _ filled
      exact ih rule member (affirms rule member)

theorem Tree.mono (tree : Tree P node) (weaker : ∀ obj, P obj → Q obj) : Tree Q node := by
  induction tree with
  | leaf plain holds => exact .leaf plain (weaker _ holds)
  | group named logical listed filled _ ih => exact .group named logical listed filled ih

end

/-- A leaf of an unsupported field, or with a value that is missing or of the wrong type,
is false exactly where it does not negate; a tree of such leaves is false exactly where
those that negate do not make it hold, and so where none of them does. -/
theorem malformed_never_match (env : Formats φ) (ctx : MediaFilterContext φ) :
    (∀ obj, Malformed env obj → (evaluateLeaf env obj ctx = false ↔ ¬ Negates obj)) ∧
    (∀ conditions, Grouped conditions → Tree (Malformed env) conditions →
      (evaluate env conditions ctx = false ↔ ¬ Affirms conditions)) ∧
    (∀ conditions, Grouped conditions → Tree (fun obj => Malformed env obj ∧ ¬ Negates obj) conditions →
      evaluate env conditions ctx = false) := by
  have exact_ : ∀ conditions, Grouped conditions → Tree (Malformed env) conditions →
      (evaluate env conditions ctx = false ↔ ¬ Affirms conditions) := by
    intro conditions grouped tree
    have holds : evaluateNode env conditions ctx = true ↔ Affirms conditions := evaluateNode_tree tree
    rw [evaluate_grouped grouped, ← holds, Bool.not_eq_true]
  refine ⟨fun obj malformed => evaluateLeaf_malformed malformed, exact_, ?_⟩
  intro conditions grouped tree
  rw [exact_ conditions grouped (tree.mono fun obj holds => holds.1)]
  exact (tree.mono fun obj holds => holds.2).not_affirms

/-! ## Two leaves that match -/

namespace Sample

/-- Numbers without rounding; no text is read as one and no pattern compiles. -/
def formats : Formats Rat where
  ofInt := fun n => n
  toInt := fun x => x.num.tdiv x.den
  lt := fun a b => a < b
  le := fun a b => a ≤ b
  near := fun a b => a - b < 1 / 4503599627370496 ∧ b - a < 1 / 4503599627370496
  parseF64 := fun _ => none
  parseI64 := fun _ => none
  uuidText := fun _ => ""
  regex := fun _ => none

/-- `MediaFilterContext::default()`. -/
def context : MediaFilterContext Rat where
  mediaType := ""
  libraryId := none
  contentRating := none
  criticRating := none
  genres := []
  videoResolution := none
  videoCodec := none
  videoDynamicRange := none
  audioCodec := none
  audioChannels := none
  containerFormat := none
  hasDolbyVision := false
  hasMultipleVersions := false
  edition := none
  originalLanguage := none
  streamingOn := []

def differs : Fields Rat := [("field", .text "nonexistent_field"), ("op", .text "neq"), ("value", .text "x")]

def absent : Fields Rat := [("field", .text "nonexistent_field"), ("op", .text "exists"), ("value", .bool false)]

/-- A codec that differs from a number. -/
def mistyped : Fields Rat := [("field", .text "video_codec"), ("op", .text "neq"), ("value", .integer 5)]

def group (leaf : Fields Rat) : Json Rat :=
  .object [("operator", .text "and"), ("rules", .list [.object leaf])]

theorem differs_malformed : Malformed formats differs := by
  have unsupported : (differs.text "field").bind kind = none := by decide +kernel
  unfold Malformed
  rw [unsupported]
  trivial

theorem absent_malformed : Malformed formats absent := by
  have unsupported : (absent.text "field").bind kind = none := by decide +kernel
  unfold Malformed
  rw [unsupported]
  trivial

theorem mistyped_malformed : Malformed formats mistyped := by
  have supported : (mistyped.text "field").bind kind = some .text := by decide +kernel
  unfold Malformed
  rw [supported]
  decide +kernel

theorem group_tree : Tree (Malformed formats) (group differs) := by
  refine .group rfl (.inl rfl) rfl (by simp) fun rule member => ?_
  obtain rfl := List.mem_singleton.mp member
  exact .leaf rfl differs_malformed

theorem group_affirms : Affirms (group differs) := by
  refine .every rfl rfl fun rule member => ?_
  obtain rfl := List.mem_singleton.mp member
  exact .leaf rfl ⟨rfl, .inl rfl⟩

end Sample

/-- An unknown field differs from every value and is absent, and a value of the wrong type
differs from every field: these leaves match, and so do groups of them. -/
theorem unknown_field_matches :
    (Malformed Sample.formats Sample.differs ∧ evaluateLeaf Sample.formats Sample.differs Sample.context = true) ∧
    (Malformed Sample.formats Sample.absent ∧ evaluateLeaf Sample.formats Sample.absent Sample.context = true) ∧
    (Malformed Sample.formats Sample.mistyped ∧ evaluateLeaf Sample.formats Sample.mistyped Sample.context = true) ∧
    Tree (Malformed Sample.formats) (Sample.group Sample.differs) ∧
    evaluate Sample.formats (Sample.group Sample.differs) Sample.context = true := by
  refine ⟨⟨Sample.differs_malformed, by decide +kernel⟩, ⟨Sample.absent_malformed, by decide +kernel⟩,
    ⟨Sample.mistyped_malformed, by decide +kernel⟩, Sample.group_tree, ?_⟩
  have grouped : Grouped (Sample.group Sample.differs) := rfl
  rw [evaluate_grouped grouped]
  exact (evaluateNode_tree Sample.group_tree).mpr Sample.group_affirms

end Duskcue.Conditions
