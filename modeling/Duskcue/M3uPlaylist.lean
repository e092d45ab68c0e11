import Duskcue.Decimals
import Duskcue.ImportLimits
import Mathlib.Data.List.Nodup

/-! A playlist of channels, read line by line. The name of a channel starts at the first
comma outside quotes; what stands before it are the attributes. -/
namespace Duskcue.Imports
open Text Decimals

/-! ## What the reader relies on -/

structure Uuid where
  bytes : List UInt8
  length : bytes.length = 16
  deriving DecidableEq

def hexDigit (nibble : Nat) : Char := ("0123456789abcdef".toList)[nibble]?.getD '0'

def hexBytes (bytes : List UInt8) : List Char :=
    bytes.flatMap fun byte => [hexDigit (byte.toNat / 16), hexDigit (byte.toNat % 16)]

/-- `hyphenated().to_string()`. -/
def Uuid.hyphenated (id : Uuid) : List Char :=
  hexBytes (id.bytes.take 4) ++ '-' :: (hexBytes ((id.bytes.drop 4).take 2) ++
    '-' :: (hexBytes ((id.bytes.drop 6).take 2) ++
    '-' :: (hexBytes ((id.bytes.drop 8).take 2) ++ '-' :: hexBytes (id.bytes.drop 10))))

/-- What is read of a parsed `url::Url`. -/
structure Url where
  scheme : List Char
  host : Option (List Char)
  fragment : Option (List Char)
  username : List Char
  password : Option (List Char)
  path : List Char

structure ChannelMetadata where
  upstreamUuid : Uuid
  name : List Char
  group : Option (List Char)
  number : Option (List Char)
  tvgName : Option (List Char)
  guideKey : Option (List Char)

structure Channel where
  id : Uuid
  key : List UInt8
  guide : Option (List Char)
  metadata : ChannelMetadata
  stream : List Char
  logo : Option (List Char)

/-- The libraries: `url`, `uuid`, `ring` and `serde_json`. -/
structure Libraries where
  parseUrl : List Char → Option Url
  parseUuid : List Char → Option Uuid
  /-- The `n`-th `Uuid::now_v7`. -/
  now : Nat → Uuid
  sha256 : List UInt8 → List UInt8
  json : ChannelMetadata → List Char

/-! ## Attributes -/

abbrev Attributes := List (List Char × List Char)

/-- The first comma outside quotes. -/
def splitComma (quote : Bool) : List Char → Option (List Char × List Char)
  | [] => none
  | c :: rest =>
    let quote := if c = '"' then !quote else quote
    if c = ',' && !quote then some ([], rest)
    else (splitComma quote rest).map fun (head, name) => (c :: head, name)

def keyChar (c : Char) : Bool := c.isAlphanum || c = '-' || c = '_'

def trimStart (text : List Char) : List Char := text.dropWhile isWhitespace

theorem trimStart_length (text : List Char) : (trimStart text).length ≤ text.length :=
  (List.dropWhile_suffix isWhitespace).length_le

/-- The loop of `attributes`. -/
def readAttributes (attrs : Attributes) (rest : List Char) : Except ImportError Attributes :=
  if rest = [] then .ok attrs
  else match _found : splitOnce ['='] rest with
    | none => .error .format
    | some (key, after) =>
      if key = [] || !key.all keyChar then .error .format
      else match _quoted : stripPrefix ['"'] after with
        | none => .error .format
        | some after' =>
          match _closed : splitOnce ['"'] after' with
          | none => .error .format
          | some (value, more) =>
            match text value recordLimit with
            | .error failure => .error failure
            | .ok () =>
              if (attrs.lookup key).isSome || 32 < attrs.length + 1 then .error .format
              else if more ≠ [] && !(more.head?.any isWhitespace) then .error .format
              else readAttributes (attrs ++ [(key, value)]) (trimStart more)
termination_by rest.length
decreasing_by
  have first := congrArg List.length (splitOnce_char.mp _found).1
  have second := congrArg List.length (stripPrefix_eq_some.mp _quoted)
  have third := congrArg List.length (splitOnce_char.mp _closed).1
  have last := trimStart_length more
  simp only [List.length_append, List.length_cons, List.length_nil] at first second third
  omega

/-- `attributes`. -/
def attributes (info : List Char) : Except ImportError (Attributes × List Char) := do
  let some (front, back) := splitComma false info | throw .format
  let name := trim back
  text name recordLimit
  let head := trim front
  let duration := head.takeWhile fun c => !isWhitespace c
  let rest := head.dropWhile fun c => !isWhitespace c
  if (parseI64 duration).isNone then throw .format
  let attrs ← readAttributes [] (trimStart rest)
  return (attrs, name)

/-! ## Lines -/

structure Reading where
  pending : Option (Attributes × List Char)
  channels : List Channel
  seen : List Uuid
  work : Work

/-- The key of a channel. -/
def channelKey (libraries : Libraries) (assignment upstream : Uuid) : List UInt8 :=
  libraries.sha256 ("duskcue-live-channel\x00\x01".toList.map (fun c => UInt8.ofNat c.toNat) ++ assignment.bytes ++
    upstream.bytes)

/-- The upstream identifier at the end of a proxy URL. -/
def upstreamOf (libraries : Libraries) (line : List Char) : Except ImportError Uuid := do
  let some url := libraries.parseUrl line | throw .format
  if !(url.scheme = "http".toList || url.scheme = "https".toList) || url.host.isNone || url.fragment.isSome ||
      url.username ≠ [] || url.password.isSome then throw .format
  let path := (stripSuffix ['/'] url.path).getD url.path
  match (path.splitOn '/').reverse with
  | raw :: parts =>
    let some upstream := libraries.parseUuid raw | throw .format
    if upstream.hyphenated ≠ raw || parts[0]? ≠ some "stream".toList || parts[1]? ≠ some "ts".toList ||
        parts[2]? ≠ some "proxy".toList then throw .format
    return upstream
  | [] => throw .format

/-- The `Channel` of an entry. -/
def channelOf (libraries : Libraries) (assignment id : Uuid) (attrs : Attributes) (name line : List Char)
    (upstream : Uuid) : Channel :=
  let guide := (attrs.lookup "tvg-id".toList).filter (· ≠ [])
  let metadata : ChannelMetadata :=
    { upstreamUuid := upstream, name, group := attrs.lookup "group-title".toList,
      number := attrs.lookup "tvg-chno".toList,
      tvgName := attrs.lookup "tvg-name".toList, guideKey := guide }
  { id, key := channelKey libraries assignment upstream, guide, metadata, stream := line,
    logo := (attrs.lookup "tvg-logo".toList).filter (· ≠ []) }

/-- A line with a URL ends the entry. -/
def readUrl (libraries : Libraries) (assignment : Uuid) (reading : Reading) (line : List Char) :
    Except ImportError Reading := do
  let some (attrs, name) := reading.pending | throw .format
  text line recordLimit
  let upstream ← upstreamOf libraries line
  if upstream ∈ reading.seen then throw .format
  let channel := channelOf libraries assignment (libraries.now reading.channels.length) attrs name line upstream
  channel.guide.elim (.ok ()) fun value => text value 512
  channel.logo.elim (.ok ()) fun value => text value recordLimit
  let payload := libraries.json channel.metadata
  if recordLimit < byteLength payload then throw .limit
  let work ← reading.work.payload (byteLength payload + byteLength line + channel.logo.elim 0 byteLength) 0
  if channelsLimit < reading.channels.length + 1 then throw .limit
  return { pending := none, channels := reading.channels ++ [channel], seen := upstream :: reading.seen, work }

/-- What a line adds, without the white space around it. -/
def readTrimmed (libraries : Libraries) (assignment : Uuid) (reading : Reading) (line : List Char) :
    Except ImportError Reading := do
  if line = [] then return reading
  match stripPrefix "#EXTINF:".toList line with
  | some info =>
    if reading.pending.isSome then throw .format
    let entry ← attributes info
    return { reading with pending := some entry }
  | none =>
    if ['#'] <+: line then
      if "#EXT-X-".toList <+: line ∨ "#EXTM3U".toList <+: line then throw .format
      return reading
    else readUrl libraries assignment reading line

def readLine (libraries : Libraries) (assignment : Uuid) (reading : Reading) (line : List Char) :
    Except ImportError Reading := do
  let work ← reading.work.check
  if 16384 < byteLength line then throw .limit
  text line 16384
  readTrimmed libraries assignment { reading with work } (trim line)

def readLines (libraries : Libraries) (assignment : Uuid) (reading : Reading) :
    List (List Char) → Except ImportError Reading
  | [] => .ok reading
  | line :: rest => do
    let reading ← readLine libraries assignment reading line
    readLines libraries assignment reading rest

/-- The lines of a playlist. -/
def parseText (libraries : Libraries) (content : List Char) (assignment : Uuid) (work : Work) :
    Except ImportError (List Channel × Work) :=
  match lines content with
  | [] => .error .format
  | header :: rest => do
    text header 16384
    if 16384 < byteLength header ∨ ¬ (header = "#EXTM3U".toList ∨ "#EXTM3U ".toList <+: header) then throw .format
    let reading ← readLines libraries assignment ⟨none, [], [], work⟩ rest
    if reading.pending.isSome then throw .format
    return (reading.channels, reading.work)

/-- `parse`. -/
def parse (libraries : Libraries) (bytes : ByteArray) (assignment : Uuid) (work : Work) :
    Except ImportError (List Channel × Work) :=
  if playlistLimit < bytes.size then .error .limit
  else match String.fromUTF8? bytes with
    | none => .error .format
    | some decoded =>
      parseText libraries ((stripPrefix ['\uFEFF'] decoded.toList).getD decoded.toList) assignment work

/-! ## Playlists as they are written -/

/-- A number in decimals. -/
def decimal (n : Int) : List Char := if n < 0 then '-' :: Nat.toDigits 10 n.natAbs else Nat.toDigits 10 n.natAbs

def writtenAttribute (pair : List Char × List Char) : List Char :=
  ' ' :: (pair.1 ++ '=' :: '"' :: (pair.2 ++ ['"']))

structure Entry where
  duration : Int
  attributes : Attributes
  name : List Char
  url : List Char
  upstream : Uuid

def Entry.head (entry : Entry) : List Char := decimal entry.duration ++ entry.attributes.flatMap writtenAttribute

def Entry.info (entry : Entry) : List Char := entry.head ++ ',' :: entry.name

def Entry.guide (entry : Entry) : Option (List Char) := (entry.attributes.lookup "tvg-id".toList).filter (· ≠ [])

def Entry.logo (entry : Entry) : Option (List Char) := (entry.attributes.lookup "tvg-logo".toList).filter (· ≠ [])

def Entry.metadata (entry : Entry) : ChannelMetadata where
  upstreamUuid := entry.upstream
  name := entry.name
  group := entry.attributes.lookup "group-title".toList
  number := entry.attributes.lookup "tvg-chno".toList
  tvgName := entry.attributes.lookup "tvg-name".toList
  guideKey := entry.guide

/-- The channel that an entry describes. -/
def Entry.channel (libraries : Libraries) (assignment id : Uuid) (entry : Entry) : Channel where
  id := id
  key := channelKey libraries assignment entry.upstream
  guide := entry.guide
  metadata := entry.metadata
  stream := entry.url
  logo := entry.logo

/-- One line of legal characters. -/
def Single (row : List Char) : Prop := ∀ c ∈ row, legal c = true ∧ c ≠ '\n' ∧ c ≠ '\r'

/-- The URL of the proxy for one upstream channel. -/
def ProxyUrl (libraries : Libraries) (line : List Char) (upstream : Uuid) : Prop :=
  ∃ url front slash, libraries.parseUrl line = some url ∧ (url.scheme = "http".toList ∨ url.scheme = "https".toList) ∧
    url.host.isSome ∧ url.fragment = none ∧ url.username = [] ∧ url.password = none ∧ (slash = [] ∨ slash = ['/']) ∧
    url.path = front ++ "/proxy/ts/stream/".toList ++ upstream.hyphenated ++ slash

structure Entry.Valid (libraries : Libraries) (entry : Entry) : Prop where
  duration : -2 ^ 63 ≤ entry.duration ∧ entry.duration < 2 ^ 63
  keys : ∀ pair ∈ entry.attributes, pair.1 ≠ [] ∧ pair.1.all keyChar = true
  distinct : (entry.attributes.map Prod.fst).Nodup
  few : entry.attributes.length ≤ 32
  values : ∀ pair ∈ entry.attributes, Single pair.2 ∧ '"' ∉ pair.2 ∧ byteLength pair.2 ≤ recordLimit
  name : Single entry.name ∧ trim entry.name = entry.name ∧ byteLength entry.name ≤ recordLimit
  proxy : ProxyUrl libraries entry.url entry.upstream
  url : Single entry.url ∧ trim entry.url = entry.url ∧ byteLength entry.url ≤ recordLimit
  guide : ∀ value ∈ entry.guide, byteLength value ≤ 512
  line : byteLength ("#EXTINF:".toList ++ entry.info) ≤ 16384
  payload : byteLength (libraries.json entry.metadata) ≤ recordLimit

/-! ## The comma -/

variable {row rest : List Char} {c : Char}

theorem splitComma_plain (quote : '"' ∉ row) (comma : ',' ∉ row) (rest : List Char) :
    splitComma false (row ++ rest) = (splitComma false rest).map fun (head, name) => (row ++ head, name) := by
  induction row with
  | nil => simp
  | cons _ _ ih =>
    rw [List.mem_cons, not_or] at quote comma
    rw [List.cons_append, splitComma]
    simp only [Ne.symm quote.1, Ne.symm comma.1, if_false, ih quote.2 comma.2]
    cases splitComma false rest <;> simp

theorem splitComma_inside (quote : '"' ∉ row) (rest : List Char) :
    splitComma true (row ++ '"' :: rest) =
      (splitComma false rest).map fun (head, name) => (row ++ '"' :: head, name) := by
  induction row with
  | nil => simp [splitComma]
  | cons _ _ ih =>
    rw [List.mem_cons, not_or] at quote
    rw [List.cons_append, splitComma]
    simp only [Ne.symm quote.1, if_false, ih quote.2]
    cases splitComma false rest <;> simp

theorem splitComma_attribute {pair : List Char × List Char} (key : pair.1.all keyChar = true)
    (value : '"' ∉ pair.2) (rest : List Char) : splitComma false (writtenAttribute pair ++ rest) =
      (splitComma false rest).map fun (head, name) => (writtenAttribute pair ++ head, name) := by
  have absent {c : Char} (other : keyChar c = false) : c ∉ pair.1 := by
    intro member
    rw [List.all_eq_true.mp key c member] at other
    cases other
  have quote : '"' ∉ ' ' :: (pair.1 ++ ['=']) := by simp [absent (show keyChar '"' = false by decide)]
  have comma : ',' ∉ ' ' :: (pair.1 ++ ['=']) := by simp [absent (show keyChar ',' = false by decide)]
  have shape (rest : List Char) : writtenAttribute pair ++ rest =
      (' ' :: (pair.1 ++ ['='])) ++ '"' :: (pair.2 ++ '"' :: rest) := by simp [writtenAttribute]
  rw [shape, splitComma_plain quote comma, splitComma]
  simp only [if_true, Bool.not_false, Char.reduceEq, decide_false, Bool.false_and, Bool.false_eq_true, if_false]
  rw [splitComma_inside value]
  cases splitComma false rest <;> simp [writtenAttribute]

theorem splitComma_attributes {attributes : Attributes}
    (keys : ∀ pair ∈ attributes, pair.1.all keyChar = true) (values : ∀ pair ∈ attributes, '"' ∉ pair.2)
    (rest : List Char) : splitComma false (attributes.flatMap writtenAttribute ++ rest) =
      (splitComma false rest).map fun (head, name) => (attributes.flatMap writtenAttribute ++ head, name) := by
  induction attributes with
  | nil => simp
  | cons pair _ ih =>
    rw [List.flatMap_cons, List.append_assoc, splitComma_attribute (keys pair (by simp)) (values pair (by simp)),
      ih (fun other member => keys other (by simp [member])) fun other member => values other (by simp [member])]
    cases splitComma false rest <;> simp

/-! ## The duration -/

theorem keyChar_of_mem_decimal (member : c ∈ decimal n) : keyChar c = true := by
  have digit {digits : Nat} (member : c ∈ Nat.toDigits 10 digits) : keyChar c = true := by
    simp [keyChar, Char.isAlphanum, Nat.isDigit_of_mem_toDigits (by decide) (by decide) member]
  unfold decimal at member
  split at member
  · rcases List.mem_cons.mp member with rfl | member
    · decide
    · exact digit member
  · exact digit member

theorem parseI64_decimal (fits : -2 ^ 63 ≤ n ∧ n < 2 ^ 63) : parseI64 (decimal n) = some n := by
  unfold decimal
  by_cases negative : n < 0
  · rw [if_pos negative, parseI64]
    have digits : (Nat.toDigits 10 n.natAbs).all Char.isDigit = true :=
      List.all_eq_true.mpr fun c member => Nat.isDigit_of_mem_toDigits (by decide) (by decide) member
    rw [Nat.ofDigitChars_ten_toDigits, if_pos ⟨Nat.toDigits_ne_nil, digits, by omega⟩]
    congr 1
    omega
  · rw [if_neg negative]
    have unsigned : ∀ digits, Nat.toDigits 10 n.natAbs ≠ '-' :: digits := by
      intro digits shape
      have digit := Nat.isDigit_of_mem_toDigits (b := 10) (n := n.natAbs) (c := '-') (by decide) (by decide)
        (by simp [shape])
      exact absurd digit (by decide)
    unfold parseI64
    split
    · rename_i digits shape
      exact (unsigned _ shape).elim
    · rw [← padded_zero, parse_padded (by omega), Option.map_some]
      congr 1
      exact Int.natAbs_of_nonneg (by omega)

/-! ## The attributes -/

theorem keyChar_bounds (key : keyChar c = true) : 33 ≤ c.toNat ∧ c.toNat ≤ 126 := by
  unfold keyChar at key
  simp only [Bool.or_eq_true, decide_eq_true_eq] at key
  rcases key with (letter | rfl) | rfl
  · delta Char.isAlphanum Char.isAlpha Char.isUpper Char.isLower Char.isDigit at letter
    simp only [Bool.or_eq_true, Bool.and_eq_true, decide_eq_true_eq] at letter
    rcases letter with (⟨low, high⟩ | ⟨low, high⟩) | ⟨low, high⟩
    · exact ⟨Nat.le_trans (by decide) low, Nat.le_trans high (by decide)⟩
    · exact ⟨Nat.le_trans (by decide) low, Nat.le_trans high (by decide)⟩
    · exact ⟨Nat.le_trans (by decide) low, Nat.le_trans high (by decide)⟩
  · decide
  · decide

theorem keyChar_visible (key : keyChar c = true) : isWhitespace c = false := by
  have bounds := keyChar_bounds key
  unfold isWhitespace
  simp only [Bool.or_eq_false_iff, Bool.and_eq_false_iff, decide_eq_false_iff_not]
  omega

theorem single_of_bounds (bounds : 32 ≤ c.toNat ∧ c.toNat ≤ 126) : legal c = true ∧ c ≠ '\n' ∧ c ≠ '\r' := by
  refine ⟨?_, ?_, ?_⟩
  · unfold legal
    simp only [Bool.or_eq_true, Bool.and_eq_true, decide_eq_true_eq]
    omega
  all_goals
    rintro rfl
    exact absurd bounds.1 (by decide)

theorem not_mem_key {key : List Char} (plain : key.all keyChar = true) (other : keyChar c = false) : c ∉ key := by
  intro member
  rw [List.all_eq_true.mp plain c member] at other
  cases other

theorem attributes_start (attrs : Attributes) :
    attrs.flatMap writtenAttribute = [] ∨ ∃ rest, attrs.flatMap writtenAttribute = ' ' :: rest := by
  cases attrs with
  | nil => exact .inl rfl
  | cons => exact .inr ⟨_, by rw [List.flatMap_cons, writtenAttribute, List.cons_append]⟩

theorem readAttributes_written {done attrs : Attributes}
    (keys : ∀ pair ∈ attrs, pair.1 ≠ [] ∧ pair.1.all keyChar = true)
    (values : ∀ pair ∈ attrs, Single pair.2 ∧ '"' ∉ pair.2 ∧ byteLength pair.2 ≤ recordLimit)
    (distinct : (done.map Prod.fst ++ attrs.map Prod.fst).Nodup) (few : done.length + attrs.length ≤ 32) :
    readAttributes done (trimStart (attrs.flatMap writtenAttribute)) = .ok (done ++ attrs) := by
  induction attrs generalizing done with
  | nil => simp [readAttributes, trimStart]
  | cons pair attrs ih =>
    obtain ⟨key, value⟩ := pair
    obtain ⟨filled, plain⟩ := keys (key, value) (by simp)
    obtain ⟨single, quote, short⟩ := values (key, value) (by simp)
    simp only at filled plain single quote short
    obtain ⟨first, more, shape⟩ := List.exists_cons_of_ne_nil filled
    have visible : isWhitespace first = false :=
      keyChar_visible (List.all_eq_true.mp plain first (by simp [shape]))
    have trimmed : trimStart (((key, value) :: attrs).flatMap writtenAttribute) =
        key ++ '=' :: ('"' :: (value ++ '"' :: attrs.flatMap writtenAttribute)) := by
      rw [List.flatMap_cons, writtenAttribute, List.cons_append, trimStart, List.dropWhile_cons_of_pos (by decide)]
      simp [shape, visible]
    have equals : splitOnce ['='] (key ++ '=' :: ('"' :: (value ++ '"' :: attrs.flatMap writtenAttribute))) =
        some (key, '"' :: (value ++ '"' :: attrs.flatMap writtenAttribute)) :=
      splitOnce_char.mpr ⟨rfl, not_mem_key plain (by decide)⟩
    have closed : splitOnce ['"'] (value ++ '"' :: attrs.flatMap writtenAttribute) =
        some (value, attrs.flatMap writtenAttribute) :=
      splitOnce_char.mpr ⟨rfl, quote⟩
    have opened : stripPrefix ['"'] ('"' :: (value ++ '"' :: attrs.flatMap writtenAttribute)) =
        some (value ++ '"' :: attrs.flatMap writtenAttribute) := stripPrefix_eq_some.mpr rfl
    have fresh : done.lookup key = none := by
      rw [List.lookup_eq_none_iff]
      intro pair member
      rw [bne_iff_ne]
      rintro rfl
      exact (List.nodup_append.mp distinct).2.2 pair.1 (List.mem_map_of_mem member) pair.1 (by simp) rfl
    have blank : (attrs.flatMap writtenAttribute ≠ [] &&
        !((attrs.flatMap writtenAttribute).head?.any isWhitespace)) = false := by
      rcases attributes_start attrs with empty | ⟨rest, starts⟩
      · simp [empty]
      · rw [starts]
        simp [show isWhitespace ' ' = true by decide]
    rw [List.length_cons] at few
    have later := @ih (done ++ [(key, value)]) (fun other member => keys other (by simp [member]))
      (fun other member => values other (by simp [member])) (by simpa using distinct) (by simp; omega)
    rw [trimmed, readAttributes, if_neg (by simp)]
    split
    · rename_i failed
      rw [equals] at failed
      cases failed
    · rename_i found
      rw [equals] at found
      cases found
      rw [if_neg (by simp [filled, plain])]
      split
      · rename_i failed
        rw [opened] at failed
        cases failed
      · rename_i found
        rw [opened] at found
        cases found
        split
        · rename_i failed
          rw [closed] at failed
          cases failed
        · rename_i found
          rw [closed] at found
          cases found
          rw [text_ok.mpr ⟨short, fun c member => (single c member).1⟩]
          simp only
          rw [fresh, if_neg (by simp; omega), blank, if_neg (by simp), later]
          simp

theorem trimmed_decimal (n : Int) : Trimmed (decimal n) := by
  refine trimmed_of_visible ?_ fun c member => keyChar_visible (keyChar_of_mem_decimal member)
  unfold decimal
  split
  · exact List.cons_ne_nil _ _
  · exact Nat.toDigits_ne_nil

theorem trimmed_head (entry : Entry) : Trimmed entry.head := by
  unfold Entry.head
  rcases entry.attributes.eq_nil_or_concat with empty | ⟨front, pair, shape⟩
  · simpa [empty] using trimmed_decimal entry.duration
  · have whole : decimal entry.duration ++ entry.attributes.flatMap writtenAttribute = decimal entry.duration ++
        (front.flatMap writtenAttribute ++ (' ' :: (pair.1 ++ '=' :: '"' :: pair.2))) ++ ['"'] := by
      simp [shape, writtenAttribute]
    rw [whole]
    exact (trimmed_decimal _).around (trimmed_of_visible (by simp)
      (by simp [show isWhitespace '"' = false by decide])) _

theorem attributes_info {entry : Entry} (valid : entry.Valid libraries) :
    attributes entry.info = .ok (entry.attributes, entry.name) := by
  have plain : (decimal entry.duration).all keyChar = true :=
    List.all_eq_true.mpr fun c member => keyChar_of_mem_decimal member
  have split : splitComma false entry.info = some (entry.head, entry.name) := by
    rw [Entry.info, Entry.head, List.append_assoc,
      splitComma_plain (not_mem_key plain (by decide)) (not_mem_key plain (by decide)),
      splitComma_attributes (fun pair member => (valid.keys pair member).2) fun pair member =>
        (valid.values pair member).2.1]
    simp [splitComma]
  have visible : ∀ c ∈ decimal entry.duration, (!isWhitespace c) = true := fun c member => by
    simp [keyChar_visible (keyChar_of_mem_decimal member)]
  have parts : (entry.head.takeWhile fun c => !isWhitespace c) = decimal entry.duration ∧
      (entry.head.dropWhile fun c => !isWhitespace c) = entry.attributes.flatMap writtenAttribute := by
    unfold Entry.head
    rw [List.takeWhile_append_of_pos visible, List.dropWhile_append_of_pos visible]
    rcases attributes_start entry.attributes with empty | ⟨rest, starts⟩
    · simp [empty]
    · simp [starts, show isWhitespace ' ' = true by decide]
  have attrs := @readAttributes_written [] _ valid.keys valid.values (by simpa using valid.distinct)
    (by simpa using valid.few)
  unfold attributes
  simp only [split, valid.name.2.1, text_ok.mpr ⟨valid.name.2.2, fun c member => (valid.name.1 c member).1⟩,
    (trimmed_head entry).2, parts.1, parts.2, parseI64_decimal valid.duration, attrs]
  rfl

/-! ## URLs -/

theorem hexDigit_mem (nibble : Nat) : hexDigit nibble ∈ "0123456789abcdef".toList := by
  unfold hexDigit
  cases found : ("0123456789abcdef".toList)[nibble]? with
  | none => simp
  | some => exact List.mem_of_getElem? found

theorem slash_not_mem_hexBytes (bytes : List UInt8) : '/' ∉ hexBytes bytes := by
  intro member
  obtain ⟨byte, -, digit⟩ := List.mem_flatMap.mp member
  have outside : '/' ∉ "0123456789abcdef".toList := by decide
  simp only [List.mem_cons, List.not_mem_nil, or_false] at digit
  rcases digit with same | same <;> exact outside (same ▸ hexDigit_mem _)

theorem slash_not_mem_hyphenated (id : Uuid) : '/' ∉ id.hyphenated := by
  simp [Uuid.hyphenated, slash_not_mem_hexBytes]

theorem hyphenated_ne_nil (id : Uuid) : id.hyphenated ≠ [] := by
  simp [Uuid.hyphenated]

theorem path_stripped {front slash : List Char} {upstream : Uuid} (ends : slash = [] ∨ slash = ['/']) :
    (stripSuffix ['/'] (front ++ upstream.hyphenated ++ slash)).getD (front ++ upstream.hyphenated ++ slash) =
      front ++ upstream.hyphenated := by
  rcases ends with rfl | rfl
  · rw [List.append_nil]
    cases stripped : stripSuffix ['/'] (front ++ upstream.hyphenated) with
    | none => rfl
    | some =>
      have final := congrArg List.getLast? (stripSuffix_eq_some.mp stripped)
      rw [List.getLast?_append_of_ne_nil _ (hyphenated_ne_nil _), List.getLast?_concat] at final
      exact (slash_not_mem_hyphenated upstream (List.mem_of_getLast? final)).elim
  · rw [stripSuffix_eq_some.mpr rfl, Option.getD_some]

theorem upstreamOf_proxy {libraries : Libraries}
    (uuids : ∀ id, libraries.parseUuid id.hyphenated = some id) (proxy : ProxyUrl libraries line upstream) :
    upstreamOf libraries line = .ok upstream := by
  obtain ⟨url, front, slash, parsed, scheme, host, fragment, username, password, ends, path⟩ := proxy
  have stripped := @path_stripped (front ++ "/proxy/ts/stream/".toList) slash upstream ends
  have parts : ((front ++ "/proxy/ts/stream/".toList ++ upstream.hyphenated).splitOn '/').reverse =
      upstream.hyphenated :: "stream".toList :: "ts".toList :: "proxy".toList :: (front.splitOn '/').reverse := by
    have shape : front ++ "/proxy/ts/stream/".toList ++ upstream.hyphenated =
        front ++ '/' :: ("proxy".toList ++
          '/' :: ("ts".toList ++ '/' :: ("stream".toList ++ '/' :: upstream.hyphenated))) := by
      simp
    rw [shape, List.splitOn_append_cons_self, List.splitOn_append_cons_self, List.splitOn_append_cons_self,
      List.splitOn_append_cons_self, List.splitOn_eq_singleton (slash_not_mem_hyphenated upstream)]
    have names : ("proxy".toList.splitOn '/') = ["proxy".toList] ∧ ("ts".toList.splitOn '/') = ["ts".toList] ∧
        ("stream".toList.splitOn '/') = ["stream".toList] := by decide
    rw [names.1, names.2.1, names.2.2]
    simp
  have allowed : (!(decide (url.scheme = "http".toList) || decide (url.scheme = "https".toList)) || url.host.isNone ||
      url.fragment.isSome || decide (url.username ≠ []) || url.password.isSome) = false := by
    rw [fragment, username, password, Option.isNone_eq_false_iff.mpr host]
    rcases scheme with same | same <;> simp [same]
  unfold upstreamOf
  simp only [parsed, allowed, path, stripped, parts, uuids]
  simp only [List.getElem?_cons_zero, List.getElem?_cons_succ, ne_eq, not_true_eq_false, decide_false, Bool.or_self,
    Bool.false_eq_true, if_false]
  rfl

/-! ## Entries among other lines -/

/-- A blank line or a comment. -/
def Filler (row : List Char) : Prop :=
  Single row ∧ byteLength row ≤ 16384 ∧
    (trim row = [] ∨ ['#'] <+: trim row ∧ ¬ "#EXTINF:".toList <+: trim row ∧ ¬ "#EXT-X-".toList <+: trim row ∧
      ¬ "#EXTM3U".toList <+: trim row)

/-- What an entry takes of the budget. -/
def Entry.cost (libraries : Libraries) (entry : Entry) : Nat :=
  byteLength (libraries.json entry.metadata) + byteLength entry.url + entry.logo.elim 0 byteLength

/-- An entry, behind other lines, and with other lines between its two. -/
structure Block where
  before : List (List Char)
  entry : Entry
  between : List (List Char)

def Block.rows (block : Block) : List (List Char) :=
  block.before ++ ("#EXTINF:".toList ++ block.entry.info) :: (block.between ++ [block.entry.url])

def Work.after (work : Work) (looks plain : Nat) : Work :=
  { work with looks := work.looks + looks, plaintext := work.plaintext + plain }

theorem Work.after_after (work : Work) (looks looks' plain plain' : Nat) :
    (work.after looks plain).after looks' plain' = work.after (looks + looks') (plain + plain') := by
  simp [Work.after, Nat.add_assoc]

theorem trimmed_line {entry : Entry} (valid : entry.Valid libraries) :
    trim ("#EXTINF:".toList ++ entry.info) = "#EXTINF:".toList ++ entry.info := by
  have starts : Trimmed "#EXTINF:".toList := by decide
  by_cases empty : entry.name = []
  · have shape : "#EXTINF:".toList ++ entry.info = "#EXTINF:".toList ++ entry.head ++ [','] := by
      rw [Entry.info, empty, List.append_assoc]
    rw [shape]
    exact (starts.around (trimmed_of_visible (by simp) (by simp [show isWhitespace ',' = false by decide])) _).2
  · have shape : "#EXTINF:".toList ++ entry.info = "#EXTINF:".toList ++ (entry.head ++ [',']) ++ entry.name := by
      rw [Entry.info, List.append_assoc, List.append_assoc, List.singleton_append]
    rw [shape]
    exact (starts.around ⟨empty, valid.name.2.1⟩ _).2

theorem single_line {entry : Entry} (valid : entry.Valid libraries) :
    Single ("#EXTINF:".toList ++ entry.info) := by
  have start : ("#EXTINF:".toList.all fun c => decide (32 ≤ c.toNat) && decide (c.toNat ≤ 126)) = true := by decide
  have visible {c : Char} (bounds : 33 ≤ c.toNat ∧ c.toNat ≤ 126) :=
    single_of_bounds ⟨Nat.le_of_succ_le bounds.1, bounds.2⟩
  intro c member
  simp only [Entry.info, Entry.head, List.mem_append, List.mem_cons, List.mem_flatMap] at member
  rcases member with tag | (number | ⟨pair, known, member⟩) | rfl | name
  · exact single_of_bounds (by simpa using List.all_eq_true.mp start c tag)
  · exact visible (keyChar_bounds (keyChar_of_mem_decimal number))
  · simp only [writtenAttribute, List.mem_append, List.mem_cons, List.not_mem_nil, or_false] at member
    rcases member with rfl | key | rfl | rfl | value | rfl
    · decide
    · exact visible (keyChar_bounds (List.all_eq_true.mp (valid.keys pair known).2 c key))
    · decide
    · decide
    · exact (valid.values pair known).1 c value
    · decide
  · decide
  · exact valid.name.1 c name

section
variable {libraries : Libraries} {assignment : Uuid} {reading : Reading} (inTime : reading.work.InTime)
include inTime

theorem readLine_eq (single : Single row) (short : byteLength row ≤ 16384) : readLine libraries assignment reading row =
    readTrimmed libraries assignment { reading with work := reading.work.after 1 0 } (trim row) := by
  unfold readLine
  rw [reading.work.check_inTime inTime, text_ok.mpr ⟨short, fun c member => (single c member).1⟩]
  show (if _ then _ else _) = _
  rw [if_neg (Nat.not_lt.mpr short)]
  rfl

theorem readLine_filler (filler : Filler row) :
    readLine libraries assignment reading row = .ok { reading with work := reading.work.after 1 0 } := by
  obtain ⟨single, short, kind⟩ := filler
  rw [readLine_eq inTime single short]
  unfold readTrimmed
  rcases kind with blank | ⟨comment, info, tag, header⟩
  · rw [if_pos blank]
    rfl
  · have filled : trim row ≠ [] := by
      intro empty
      simp [empty] at comment
    have other : stripPrefix "#EXTINF:".toList (trim row) = none := by
      cases stripped : stripPrefix "#EXTINF:".toList (trim row) with
      | none => rfl
      | some rest => exact (info ⟨rest, (stripPrefix_eq_some.mp stripped).symm⟩).elim
    rw [if_neg filled, other]
    simp only
    rw [if_pos comment, if_neg (not_or.mpr ⟨tag, header⟩)]
    rfl

theorem readLine_info {entry : Entry} (valid : entry.Valid libraries) (free : reading.pending = none) :
    readLine libraries assignment reading ("#EXTINF:".toList ++ entry.info) =
      .ok { reading with pending := some (entry.attributes, entry.name), work := reading.work.after 1 0 } := by
  rw [readLine_eq inTime (single_line valid) valid.line, trimmed_line valid]
  unfold readTrimmed
  rw [if_neg (by simp), stripPrefix_eq_some.mpr rfl]
  simp only [free, attributes_info valid]
  rfl

/-- What is read once an entry has got its URL. -/
def Reading.with (reading : Reading) (libraries : Libraries) (assignment : Uuid) (entry : Entry) (work : Work) :
    Reading where
  pending := none
  channels := reading.channels ++ [entry.channel libraries assignment (libraries.now reading.channels.length)]
  seen := entry.upstream :: reading.seen
  work := work

theorem readUrl_entry {entry : Entry} (valid : entry.Valid libraries)
    (uuids : ∀ id, libraries.parseUuid id.hyphenated = some id)
    (pending : reading.pending = some (entry.attributes, entry.name)) (fresh : entry.upstream ∉ reading.seen)
    (room : reading.channels.length < channelsLimit)
    (budget : reading.work.plaintext + entry.cost libraries ≤ 96 * mib ∧ reading.work.ciphertext ≤ 144 * mib) :
    readUrl libraries assignment reading entry.url =
      .ok (reading.with libraries assignment entry (reading.work.after 1 (entry.cost libraries))) := by
  have url := text_ok.mpr ⟨valid.url.2.2, fun c member => (valid.url.1 c member).1⟩
  have value {key : String} {value : List Char} (found : entry.attributes.lookup key.toList = some value) :
      Single value ∧ byteLength value ≤ recordLimit := by
    obtain ⟨before, after, shape, -⟩ := List.lookup_eq_some_iff.mp found
    have known := valid.values (key.toList, value) (by simp [shape])
    exact ⟨known.1, known.2.2⟩
  have guide : (entry.guide.elim (.ok ()) fun value => text value 512) = Except.ok () := by
    cases held : entry.guide with
    | none => rfl
    | some id => exact text_ok.mpr ⟨valid.guide id held,
      fun c member => ((value (Option.filter_eq_some_iff.mp held).1).1 c member).1⟩
  have logo : (entry.logo.elim (.ok ()) fun value => text value recordLimit) = Except.ok () := by
    cases held : entry.logo with
    | none => rfl
    | some =>
      have known := value (Option.filter_eq_some_iff.mp held).1
      exact text_ok.mpr ⟨known.2, fun c member => (known.1 c member).1⟩
  have paid : reading.work.payload (entry.cost libraries) 0 = _ := reading.work.payload_inTime inTime budget.1 budget.2
  unfold readUrl
  simp only [pending, url, upstreamOf_proxy uuids valid.proxy]
  have channel : channelOf libraries assignment (libraries.now reading.channels.length) entry.attributes entry.name
      entry.url
      entry.upstream = entry.channel libraries assignment (libraries.now reading.channels.length) := rfl
  show (if _ then _ else _) = _
  rw [if_neg fresh, channel]
  show ((entry.guide.elim (.ok ()) fun value => text value 512) >>= _) = _
  rw [guide]
  show ((entry.logo.elim (.ok ()) fun value => text value recordLimit) >>= _) = _
  rw [logo]
  show (if recordLimit < byteLength (libraries.json entry.metadata) then _ else _) = _
  rw [if_neg (Nat.not_lt.mpr valid.payload)]
  show (reading.work.payload (entry.cost libraries) 0 >>= _) = _
  rw [paid]
  show (if _ then _ else _) = _
  rw [if_neg (by omega)]
  rfl

theorem readLine_url {entry : Entry} (valid : entry.Valid libraries)
    (uuids : ∀ id, libraries.parseUuid id.hyphenated = some id)
    (relative : ∀ line, line = [] ∨ ['#'] <+: line → libraries.parseUrl line = none)
    (pending : reading.pending = some (entry.attributes, entry.name)) (fresh : entry.upstream ∉ reading.seen)
    (room : reading.channels.length < channelsLimit)
    (budget : reading.work.plaintext + entry.cost libraries ≤ 96 * mib ∧ reading.work.ciphertext ≤ 144 * mib) :
    readLine libraries assignment reading entry.url =
      .ok (reading.with libraries assignment entry (reading.work.after 2 (entry.cost libraries))) := by
  obtain ⟨url, -, -, parsed, -⟩ := valid.proxy
  have absolute : ¬ (entry.url = [] ∨ ['#'] <+: entry.url) := by
    intro other
    rw [relative _ other] at parsed
    cases parsed
  obtain ⟨filled, plain⟩ := not_or.mp absolute
  have info : stripPrefix "#EXTINF:".toList entry.url = none := by
    cases stripped : stripPrefix "#EXTINF:".toList entry.url with
    | none => rfl
    | some rest => exact (plain ⟨"EXTINF:".toList ++ rest, (stripPrefix_eq_some.mp stripped).symm⟩).elim
  have short : byteLength entry.url ≤ 16384 := Nat.le_trans valid.url.2.2 (by decide)
  have more := @readUrl_entry libraries assignment { reading with work := reading.work.after 1 0 } inTime _
    valid uuids pending fresh room budget
  rw [readLine_eq inTime valid.url.1 short, valid.url.2.1]
  unfold readTrimmed
  rw [if_neg filled, info]
  simp only
  rw [if_neg plain, more, Work.after_after]
  simp [Reading.with]

theorem readLines_fillers {rows : List (List Char)} (fillers : ∀ row ∈ rows, Filler row) (rest : List (List Char)) :
    readLines libraries assignment reading (rows ++ rest) =
      readLines libraries assignment { reading with work := reading.work.after rows.length 0 } rest := by
  induction rows generalizing reading with
  | nil => rfl
  | cons row rows ih =>
    rw [List.cons_append, readLines, readLine_filler inTime (fillers row (by simp))]
    show readLines libraries assignment { reading with work := reading.work.after 1 0 } (rows ++ rest) = _
    rw [@ih { reading with work := reading.work.after 1 0 } inTime fun row member => fillers row (by simp [member]),
      Work.after_after, List.length_cons, Nat.add_comm]

end

/-- The lines around the entries are fillers. -/
def Block.Valid (libraries : Libraries) (block : Block) : Prop :=
  block.entry.Valid libraries ∧ (∀ row ∈ block.before, Filler row) ∧ ∀ row ∈ block.between, Filler row

/-- The channels of the entries, which get their identifiers from the `n`-th on. -/
def channelsFrom (libraries : Libraries) (assignment : Uuid) : Nat → List Entry → List Channel
  | _, [] => []
  | n, entry :: entries =>
    entry.channel libraries assignment (libraries.now n) :: channelsFrom libraries assignment (n + 1) entries

section
variable {libraries : Libraries} {assignment : Uuid} (uuids : ∀ id, libraries.parseUuid id.hyphenated = some id)
  (relative : ∀ line, line = [] ∨ ['#'] <+: line → libraries.parseUrl line = none)
include uuids relative

theorem readLines_block {reading : Reading} {block : Block} (inTime : reading.work.InTime)
    (valid : block.Valid libraries)
    (free : reading.pending = none) (fresh : block.entry.upstream ∉ reading.seen)
    (room : reading.channels.length < channelsLimit)
    (budget : reading.work.plaintext + block.entry.cost libraries ≤ 96 * mib ∧ reading.work.ciphertext ≤ 144 * mib)
    (rest : List (List Char)) :
    readLines libraries assignment reading (block.rows ++ rest) = readLines libraries assignment
      (reading.with libraries assignment block.entry
        (reading.work.after (block.rows.length + 1) (block.entry.cost libraries)))
      rest := by
  obtain ⟨valid, before, between⟩ := valid
  have shape : block.rows ++ rest = block.before ++ ("#EXTINF:".toList ++ block.entry.info) ::
      (block.between ++ block.entry.url :: rest) := by
    simp [Block.rows]
  rw [shape, readLines_fillers inTime before, readLines]
  rw [@readLine_info libraries assignment { reading with work := reading.work.after block.before.length 0 } inTime _ valid free]
  show readLines libraries assignment _ (block.between ++ block.entry.url :: rest) = _
  rw [readLines_fillers (by exact inTime) between, readLines]
  have last := @readLine_url libraries assignment { reading with
    pending := some (block.entry.attributes, block.entry.name)
    work := ((reading.work.after block.before.length 0).after 1 0).after block.between.length 0 }
    inTime _ valid uuids relative rfl fresh room budget
  rw [last]
  have looks : block.before.length + 1 + block.between.length + 2 = block.rows.length + 1 := by
    simp only [Block.rows, List.length_append, List.length_cons, List.length_nil]
    omega
  simp only [Work.after_after, looks, Nat.zero_add]
  rfl

/-- One entry after the other. -/
theorem readLines_blocks {blocks : List Block} {reading : Reading} (inTime : reading.work.InTime)
    (valid : ∀ block ∈ blocks, block.Valid libraries) (free : reading.pending = none)
    (distinct : (blocks.map fun block => block.entry.upstream).Nodup)
    (fresh : ∀ block ∈ blocks, block.entry.upstream ∉ reading.seen)
    (room : reading.channels.length + blocks.length ≤ channelsLimit)
    (budget : reading.work.plaintext + (blocks.map fun block => block.entry.cost libraries).sum ≤ 96 * mib ∧
      reading.work.ciphertext ≤ 144 * mib) {after : List (List Char)} (fillers : ∀ row ∈ after, Filler row) :
    ∃ final, readLines libraries assignment reading (blocks.flatMap Block.rows ++ after) = .ok final ∧
      final.pending = none ∧ final.channels =
        reading.channels ++ channelsFrom libraries assignment reading.channels.length (blocks.map Block.entry) := by
  induction blocks generalizing reading with
  | nil =>
    have done := @readLines_fillers libraries assignment reading inTime _ fillers []
    rw [List.append_nil] at done
    exact ⟨_, done, free, by simp [channelsFrom]⟩
  | cons block blocks ih =>
    obtain ⟨first, later⟩ := List.nodup_cons.mp distinct
    rw [List.map_cons, List.sum_cons] at budget
    rw [List.length_cons] at room
    rw [List.flatMap_cons, List.append_assoc, readLines_block uuids relative inTime (valid block (by simp)) free
      (fresh block (by simp)) (by omega) ⟨by omega, budget.2⟩]
    let next := reading.with libraries assignment block.entry
      (reading.work.after (block.rows.length + 1) (block.entry.cost libraries))
    have fresh' : ∀ other ∈ blocks, other.entry.upstream ∉ next.seen := by
      intro other member known
      rcases List.mem_cons.mp known with same | known
      · exact first (List.mem_map.mpr ⟨other, member, same⟩)
      · exact fresh other (by simp [member]) known
    have room' : next.channels.length + blocks.length ≤ channelsLimit := by
      simp only [next, Reading.with, List.length_append, List.length_cons, List.length_nil]
      omega
    have budget' : next.work.plaintext + (blocks.map fun block => block.entry.cost libraries).sum ≤ 96 * mib ∧
        next.work.ciphertext ≤ 144 * mib := by
      simp only [next, Reading.with, Work.after]
      exact ⟨by omega, budget.2⟩
    obtain ⟨final, ran, done, channels⟩ :=
      @ih next inTime (fun other member => valid other (by simp [member])) rfl
      later fresh' room' budget'
    refine ⟨final, ran, done, ?_⟩
    rw [channels]
    simp [next, Reading.with, channelsFrom]

end

/-! ## What is read of any playlist -/

section
variable {libraries : Libraries} {assignment : Uuid} {reading reading' : Reading}

/-- The channel stands for the upstream channel of its URL. -/
def Channel.Keyed (libraries : Libraries) (assignment : Uuid) (channel : Channel) : Prop :=
  channel.key = channelKey libraries assignment channel.metadata.upstreamUuid ∧
    upstreamOf libraries channel.stream = .ok channel.metadata.upstreamUuid

/-- Every channel stands for an upstream channel of its own. -/
structure Reading.Sound (libraries : Libraries) (assignment : Uuid) (reading : Reading) : Prop where
  distinct : reading.seen.Nodup
  seen : reading.channels.map (fun channel => channel.metadata.upstreamUuid) = reading.seen.reverse
  keyed : ∀ channel ∈ reading.channels, channel.Keyed libraries assignment

theorem readUrl_sound {line : List Char} (sound : reading.Sound libraries assignment)
    (ran : readUrl libraries assignment reading line = .ok reading') : reading'.Sound libraries assignment := by
  unfold readUrl at ran
  cases pending : reading.pending with
  | none =>
    simp only [pending] at ran
    cases ran
  | some =>
    simp only [pending] at ran
    obtain ⟨-, -, ran⟩ := bind_ok.mp ran
    obtain ⟨upstream, known, ran⟩ := bind_ok.mp ran
    split at ran
    · cases ran
    · rename_i fresh
      obtain ⟨-, -, ran⟩ := bind_ok.mp ran
      obtain ⟨-, -, ran⟩ := bind_ok.mp ran
      split at ran
      · cases ran
      · obtain ⟨work, -, ran⟩ := bind_ok.mp ran
        split at ran
        · cases ran
        · cases ran
          refine ⟨List.nodup_cons.mpr ⟨fresh, sound.distinct⟩, ?_, ?_⟩
          · simp only [List.map_append, sound.seen, List.reverse_cons]
            rfl
          · intro channel member
            rcases List.mem_append.mp member with old | new
            · exact sound.keyed channel old
            · obtain rfl := List.mem_singleton.mp new
              exact ⟨rfl, known⟩

theorem readLine_sound (sound : reading.Sound libraries assignment)
    (ran : readLine libraries assignment reading line = .ok reading') : reading'.Sound libraries assignment := by
  unfold readLine at ran
  obtain ⟨work, -, ran⟩ := bind_ok.mp ran
  split at ran
  · cases ran
  · obtain ⟨-, -, ran⟩ := bind_ok.mp ran
    unfold readTrimmed at ran
    split at ran
    · cases ran
      exact ⟨sound.distinct, sound.seen, sound.keyed⟩
    · split at ran
      · split at ran
        · cases ran
        · obtain ⟨entry, -, ran⟩ := bind_ok.mp ran
          cases ran
          exact ⟨sound.distinct, sound.seen, sound.keyed⟩
      · split at ran
        · split at ran
          · cases ran
          · cases ran
            exact ⟨sound.distinct, sound.seen, sound.keyed⟩
        · exact @readUrl_sound _ _ { reading with work } _ _ ⟨sound.distinct, sound.seen, sound.keyed⟩ ran

theorem readLines_sound {rows : List (List Char)} (sound : reading.Sound libraries assignment)
    (ran : readLines libraries assignment reading rows = .ok reading') : reading'.Sound libraries assignment := by
  induction rows generalizing reading with
  | nil =>
    cases ran
    exact sound
  | cons _ _ ih =>
    obtain ⟨next, step, rest⟩ := bind_ok.mp ran
    exact ih (readLine_sound sound step) rest

theorem channelKey_injective (injective : Function.Injective libraries.sha256) :
    Function.Injective (channelKey libraries assignment) := by
  intro first second same
  have bytes := List.append_cancel_left (injective same)
  cases first
  cases second
  cases bytes
  rfl

theorem parse_sound (injective : Function.Injective libraries.sha256)
    (ran : parse libraries bytes assignment work = .ok (channels, work')) :
    (channels.map Channel.key).Nodup ∧ ∀ channel ∈ channels, channel.Keyed libraries assignment := by
  unfold parse at ran
  split at ran
  · cases ran
  · split at ran
    · cases ran
    · unfold parseText at ran
      split at ran
      · cases ran
      · obtain ⟨-, -, ran⟩ := bind_ok.mp ran
        split at ran
        · cases ran
        · obtain ⟨reading, read, ran⟩ := bind_ok.mp ran
          split at ran
          · cases ran
          · cases ran
            have sound := @readLines_sound _ assignment _ _ _ ⟨List.nodup_nil, rfl, by simp⟩ read
            refine ⟨?_, sound.keyed⟩
            have keys : reading.channels.map Channel.key =
                (reading.channels.map fun channel => channel.metadata.upstreamUuid).map
                  (channelKey libraries assignment) := by
              rw [List.map_map]
              exact List.map_congr_left fun channel member => (sound.keyed channel member).1
            rw [keys, sound.seen]
            exact (List.nodup_reverse.mpr sound.distinct).map (channelKey_injective injective)

end

/-! ## The whole playlist -/

/-- The end of a line, behind a carriage return or not. -/
def ended (returned : Bool) : List Char := if returned then ['\r', '\n'] else ['\n']

/-- The header, the entries, and what comes after them. -/
def playlist (returned : Bool) (blocks : List Block) (after : List (List Char)) : List Char :=
  ("#EXTM3U".toList :: (blocks.flatMap Block.rows ++ after)).flatMap (· ++ ended returned)

theorem playlist_starts (returned : Bool) (blocks : List Block) (after : List (List Char)) :
    ∃ rest, playlist returned blocks after = '#' :: rest :=
  ⟨_, by
    unfold playlist
    rw [List.flatMap_cons, show "#EXTM3U".toList = '#' :: "EXTM3U".toList by decide, List.cons_append,
      List.cons_append]⟩

theorem lines_ended (returned : Bool) (single : ∀ row ∈ rows, '\n' ∉ row ∧ '\r' ∉ row) :
    lines (rows.flatMap (· ++ ended returned)) = rows := by
  induction rows with
  | nil => rfl
  | cons row rows ih =>
    obtain ⟨feed, ret⟩ := single row (by simp)
    have later := ih fun other member => single other (by simp [member])
    cases returned with
    | false =>
      have shape : (row :: rows).flatMap (· ++ ended false) = row ++ '\n' :: rows.flatMap (· ++ ended false) := by
        simp [ended]
      rw [shape, lines_line feed, later, chomp_eq_self ret]
    | true =>
      have shape : (row :: rows).flatMap (· ++ ended true) = (row ++ ['\r']) ++
        '\n' :: rows.flatMap (· ++ ended true) := by
        simp [ended]
      rw [shape, lines_line (by simp [feed]), later, chomp_returned]

theorem fromUTF8_toUTF8 (content : List Char) :
    String.fromUTF8? (String.ofList content).toUTF8 = some (String.ofList content) := by
  unfold String.fromUTF8?
  rw [dif_pos (show (String.ofList content).toUTF8.IsValidUTF8 from (String.ofList content).isValidUTF8)]
  rfl

section
variable {libraries : Libraries} {assignment : Uuid} {blocks : List Block} {after : List (List Char)}

theorem single_rows (valid : ∀ block ∈ blocks, block.Valid libraries) (fillers : ∀ row ∈ after, Filler row) :
    ∀ row ∈ "#EXTM3U".toList :: (blocks.flatMap Block.rows ++ after), '\n' ∉ row ∧ '\r' ∉ row := by
  have plain {row : List Char} (single : Single row) : '\n' ∉ row ∧ '\r' ∉ row :=
    ⟨fun member => (single _ member).2.1 rfl, fun member => (single _ member).2.2 rfl⟩
  intro row member
  rcases List.mem_cons.mp member with rfl | member
  · decide
  · rcases List.mem_append.mp member with member | member
    · obtain ⟨block, known, member⟩ := List.mem_flatMap.mp member
      obtain ⟨entry, before, between⟩ := valid block known
      simp only [Block.rows, List.mem_append, List.mem_cons, List.not_mem_nil, or_false] at member
      rcases member with member | rfl | member | rfl
      · exact plain (before row member).1
      · exact plain (single_line entry)
      · exact plain (between row member).1
      · exact plain entry.url.1
    · exact plain (fillers row member).1

/-- A playlist that was written from entries is read as their channels; whatever is read has
a key of its own for each upstream channel. -/
theorem playlist_read (uuids : ∀ id, libraries.parseUuid id.hyphenated = some id)
    (relative : ∀ line, line = [] ∨ ['#'] <+: line → libraries.parseUrl line = none)
    (injective : Function.Injective libraries.sha256) :
    (∀ returned blocks after assignment work, (∀ block ∈ blocks, block.Valid libraries) → (∀ row ∈ after, Filler row) →
      (blocks.map fun block => block.entry.upstream).Nodup → blocks.length ≤ channelsLimit →
      (String.ofList (playlist returned blocks after)).toUTF8.size ≤ playlistLimit → work.InTime →
      work.plaintext + (blocks.map fun block => block.entry.cost libraries).sum ≤ 96 * mib ∧
        work.ciphertext ≤ 144 * mib →
      (∃ work', parse libraries (String.ofList (playlist returned blocks after)).toUTF8 assignment work =
        .ok (channelsFrom libraries assignment 0 (blocks.map Block.entry), work')) ∧
      ∀ block ∈ blocks, attributes block.entry.info = .ok (block.entry.attributes, block.entry.name)) ∧
    ∀ bytes assignment work channels work', parse libraries bytes assignment work = .ok (channels, work') →
      (channels.map Channel.key).Nodup ∧ ∀ channel ∈ channels, channel.Keyed libraries assignment := by
  refine ⟨?_, fun bytes assignment work channels work' => parse_sound injective⟩
  intro returned blocks after assignment work valid fillers distinct room size inTime budget
  refine ⟨?_, fun block member => attributes_info (valid block member).1⟩
  obtain ⟨final, ran, free, channels⟩ := @readLines_blocks _ assignment uuids
    relative _ ⟨none, [], [], work⟩ inTime valid rfl distinct (by simp) (by simpa using room) budget _ fillers
  have bare : stripPrefix ['\uFEFF'] (playlist returned blocks after) = none := by
    cases stripped : stripPrefix ['\uFEFF'] (playlist returned blocks after) with
    | none => rfl
    | some rest =>
      obtain ⟨text, starts⟩ := playlist_starts returned blocks after
      have first := starts.symm.trans (stripPrefix_eq_some.mp stripped)
      exact absurd (List.cons.inj first).1 (by decide)
  refine ⟨final.work, ?_⟩
  unfold parse
  rw [if_neg (Nat.not_lt.mpr size), fromUTF8_toUTF8]
  simp only [String.toList_ofList, bare, Option.getD_none]
  unfold parseText playlist
  rw [lines_ended returned (single_rows valid fillers)]
  simp only
  rw [show text "#EXTM3U".toList 16384 = .ok () by decide]
  have header : ¬ (16384 < byteLength "#EXTM3U".toList ∨
      ¬ (True ∨ "#EXTM3U ".toList <+: "#EXTM3U".toList)) := by
    rw [not_or, not_not]
    exact ⟨by decide, .inl trivial⟩
  simp only [if_neg header]
  show (readLines libraries assignment ⟨none, [], [], work⟩ (blocks.flatMap Block.rows ++ after) >>= _) = _
  rw [ran]
  show (if _ then _ else _) = _
  rw [free, channels]
  rfl

end

/-! ## An example -/

/-- The value of a hexadecimal digit. -/
def hexValue (c : Char) : Nat := if c.isDigit then c.toNat - 48 else c.toNat - 87

def unhex : List Char → List UInt8
  | a :: b :: rest => UInt8.ofNat (16 * hexValue a + hexValue b) :: unhex rest
  | _ => []

/-- The identifier of a hyphenated form. -/
def unhyphenated (raw : List Char) : Option Uuid :=
  if length : (unhex (raw.filter (· ≠ '-'))).length = 16 then some ⟨_, length⟩ else none

theorem unhex_hexBytes (bytes : List UInt8) : unhex (hexBytes bytes) = bytes := by
  induction bytes with
  | nil => rfl
  | cons byte bytes ih =>
    have digits : ∀ n < 16, hexValue (hexDigit n) = n := by decide
    have high := digits (byte.toNat / 16) (by have := byte.toNat_lt; omega)
    have low := digits (byte.toNat % 16) (by omega)
    have whole : unhex (hexBytes (byte :: bytes)) =
        UInt8.ofNat (16 * hexValue (hexDigit (byte.toNat / 16)) + hexValue (hexDigit (byte.toNat % 16))) ::
          unhex (hexBytes bytes) := rfl
    rw [whole, high, low, ih, Nat.div_add_mod, UInt8.ofNat_toNat]

theorem unhyphenated_hyphenated (id : Uuid) : unhyphenated id.hyphenated = some id := by
  have digits (bytes : List UInt8) : (hexBytes bytes).filter (· ≠ '-') = hexBytes bytes := by
    rw [List.filter_eq_self]
    intro c member
    obtain ⟨byte, -, digit⟩ := List.mem_flatMap.mp member
    have outside : '-' ∉ "0123456789abcdef".toList := by decide
    simp only [List.mem_cons, List.not_mem_nil, or_false] at digit
    rw [decide_eq_true_eq]
    rintro rfl
    rcases digit with same | same <;> exact outside (same ▸ hexDigit_mem _)
  have hexBytes_append (a b : List UInt8) : hexBytes a ++ hexBytes b = hexBytes (a ++ b) := by simp [hexBytes]
  have parts : id.bytes.take 4 ++ ((id.bytes.drop 4).take 2 ++ ((id.bytes.drop 6).take 2 ++ ((id.bytes.drop 8).take 2 ++
      id.bytes.drop 10))) = id.bytes := by
    have drop (n : Nat) : id.bytes.drop (n + 2) = (id.bytes.drop n).drop 2 := by rw [List.drop_drop]
    rw [drop 8, List.take_append_drop, drop 6, List.take_append_drop, drop 4, List.take_append_drop,
      List.take_append_drop]
  have whole : id.hyphenated.filter (· ≠ '-') = hexBytes id.bytes := by
    simp only [Uuid.hyphenated, List.filter_append, List.filter_cons, digits]
    simp only [ne_eq, not_true_eq_false, decide_false, Bool.false_eq_true, if_false, hexBytes_append, parts]
  have bytes : unhex (id.hyphenated.filter (· ≠ '-')) = id.bytes := by rw [whole, unhex_hexBytes]
  unfold unhyphenated
  rw [dif_pos (by rw [bytes, id.length])]
  cases id
  simp only [bytes]

namespace Sample

def upstream : Uuid := ⟨[161, 196, 44, 29, 73, 237, 74, 14, 142, 184, 121, 40, 216, 63, 130, 242], rfl⟩
def assignment : Uuid := ⟨[0, 0, 0, 0, 0, 0, 0, 0, 0, 0, 0, 0, 0, 0, 0, 2], rfl⟩

/-- The input of the hash, and the hash. -/
def hashed : List UInt8 :=
  "duskcue-live-channel\x00\x01".toList.map (fun c => UInt8.ofNat c.toNat) ++ assignment.bytes ++ upstream.bytes
def digest : List UInt8 := [158, 122, 102, 198, 217, 89, 99, 170, 246, 220, 169, 67, 16, 128, 81, 211, 0, 159, 161,
    136, 1, 138,
  216, 95, 28, 74, 45, 198, 70, 55, 56, 42]

def url : List Char := "http://tv.invalid/proxy/ts/stream/".toList ++ upstream.hyphenated

def parsed : Url where
  scheme := "http".toList
  host := some "tv.invalid".toList
  fragment := none
  username := []
  password := none
  path := "/proxy/ts/stream/".toList ++ upstream.hyphenated

def libraries : Libraries where
  parseUrl line := if line = url then some parsed else none
  parseUuid := unhyphenated
  now n := ⟨List.replicate 15 0 ++ [UInt8.ofNat n], rfl⟩
  sha256 bytes := if bytes = hashed then digest else 0 :: bytes
  json _ := "\x7b\"group\":\"News, local\",\"guide_key\":null,\"name\":\"A \\\"b\\\"\",".toList ++
    "\"number\":null,\"tvg_name\":null,\"upstream_uuid\":\"".toList ++ upstream.hyphenated ++ "\"\x7d".toList

def entry : Entry where
  duration := -1
  attributes := [("group-title".toList, "News, local".toList)]
  name := "A \"b\"".toList
  url := url
  upstream := upstream

theorem parseUrl_eq (line : List Char) : libraries.parseUrl line = if line = url then some parsed else none := rfl

end Sample

theorem single_iff :
    Single row ↔ (row.all fun c => legal c && decide (c ≠ '\n') && decide (c ≠ '\r')) = true := by
  simp [Single, and_assoc]

theorem sample_valid : (Block.mk [] Sample.entry [[]]).Valid Sample.libraries := by
  have proxy : ProxyUrl Sample.libraries Sample.url Sample.upstream :=
    ⟨Sample.parsed, [], [], by rw [Sample.parseUrl_eq, if_pos rfl], .inl rfl, rfl, rfl, rfl, rfl, .inl rfl,
      by rw [List.append_nil]; rfl⟩
  refine ⟨⟨by decide, ?_, by decide, by decide, ?_, ⟨single_iff.mpr (by decide), by decide, by decide⟩, proxy,
    ⟨single_iff.mpr (by decide +kernel), by decide +kernel, by decide +kernel⟩, ?_, by decide +kernel,
      by decide +kernel⟩,
    by simp, ?_⟩
  · intro pair member
    obtain rfl := List.mem_singleton.mp member
    exact ⟨by decide, by decide⟩
  · intro pair member
    obtain rfl := List.mem_singleton.mp member
    exact ⟨single_iff.mpr (by decide), by decide, by decide⟩
  · have none : Sample.entry.guide = none := by decide
    simp [none]
  · intro row member
    obtain rfl := List.mem_singleton.mp member
    exact ⟨single_iff.mpr rfl, by decide, .inl rfl⟩

theorem sample_sha_injective : Function.Injective Sample.libraries.sha256 := by
  intro a b same
  have digest : Sample.digest = 158 :: Sample.digest.tail := rfl
  simp only [Sample.libraries] at same
  split at same <;> split at same
  · rename_i left right
    exact left.trans right.symm
  · rw [digest] at same
    exact absurd (List.cons.inj same).1 (by decide)
  · rw [digest] at same
    exact absurd (List.cons.inj same).1 (by decide)
  · exact (List.cons.inj same).2

/-- A name with quotes, an attribute with a comma and a blank line. -/
theorem sample_read : ∃ work', parse Sample.libraries
    (String.ofList (playlist true [⟨[], Sample.entry, [[]]⟩] [])).toUTF8 Sample.assignment
      ⟨fun _ => false, fun _ => false, 0, 0, 0⟩ =
    .ok ([Sample.entry.channel Sample.libraries Sample.assignment (Sample.libraries.now 0)], work') := by
  refine ((@playlist_read Sample.libraries unhyphenated_hyphenated ?_ sample_sha_injective).1 true
    [⟨[], Sample.entry, [[]]⟩] [] Sample.assignment ⟨fun _ => false, fun _ => false, 0, 0, 0⟩ ?_ (by simp) (by simp)
      (by decide)
    (by decide +kernel) (fun n => ⟨rfl, rfl⟩) (by decide +kernel)).1
  · have first : Sample.url.head? = some 'h' := rfl
    intro line other
    rw [Sample.parseUrl_eq, if_neg]
    rintro rfl
    rcases other with empty | ⟨rest, starts⟩
    · rw [empty] at first
      cases first
    · rw [← starts] at first
      exact absurd (Option.some.inj first) (by decide)
  · intro block member
    obtain rfl := List.mem_singleton.mp member
    exact sample_valid

end Duskcue.Imports
