import Duskcue.ProviderIds

/-! The `.nfo` files of a folder: elements of XML, or lines with the addresses of providers. -/
namespace Duskcue.NfoParser
open Text Decimals MediaMatching

structure NfoData where
  tmdbId : Option Int
  imdbId : Option (List Char)
  tvdbId : Option Int
  title : Option (List Char)
  year : Option Nat
  season : Option Nat
  episode : Option Nat

/-- What the reader of XML comes upon: names are local ones, and a text is `none` where it is not decoded. -/
inductive XmlEvent
  | startTag (name : List Char) (attributes : List (List Char × List Char))
  | emptyTag
  | endTag (name : List Char)
  | text (decoded : Option (List Char))
  | other
  | error

structure XmlState where
  data : NfoData
  currentTag : Option (List Char)
  inUniqueid : Bool
  uniqueidType : Option (List Char)
  foundXml : Bool

def NfoData.new : NfoData := ⟨none, none, none, none, none, none, none⟩

def NfoData.ids (data : NfoData) : ResolvedIds := ⟨data.tmdbId, data.imdbId, data.tvdbId⟩

def XmlState.new : XmlState := ⟨.new, none, false, none, false⟩

/-- The text of `uniqueid`, by its type. -/
def NfoData.setUniqueid (data : NfoData) (utype text : List Char) : NfoData :=
  if utype = "tmdb".toList then { data with tmdbId := parseI64 text }
  else if utype = "imdb".toList then { data with imdbId := some text }
  else if utype = "tvdb".toList then { data with tvdbId := parseI64 text }
  else data

/-- The text of another element. -/
def NfoData.setTag (data : NfoData) (tag text : List Char) : NfoData :=
  if tag = "tmdbid".toList then { data with tmdbId := parseI64 text }
  else if tag = "imdbid".toList ∨ tag = "imdb_id".toList then { data with imdbId := some text }
  else if tag = "tvdbid".toList then { data with tvdbId := parseI64 text }
  else if tag = "title".toList then { data with title := some text }
  else if tag = "year".toList then { data with year := parseBelow (2 ^ 16) text }
  else if tag = "season".toList then { data with season := parseBelow (2 ^ 32) text }
  else if tag = "episode".toList then { data with episode := parseBelow (2 ^ 32) text }
  else data

/-- The last attribute `type`. -/
def typeAttribute (attributes : List (List Char × List Char)) : Option (List Char) :=
  attributes.foldl (fun found attr => if attr.1 = "type".toList then some attr.2 else found) none

def XmlState.readText (s : XmlState) (text : List Char) : XmlState :=
  let textTrimmed := trim text
  if textTrimmed = [] then s
  else if s.inUniqueid then
    match s.uniqueidType with
    | some utype => { s with data := s.data.setUniqueid utype textTrimmed }
    | none => s
  else match s.currentTag with
    | some tag => { s with data := s.data.setTag tag textTrimmed }
    | none => s

/-- The body of the loop of `try_parse_xml`. -/
def XmlState.step (s : XmlState) : XmlEvent → XmlState
  | .startTag name attributes =>
    if name = "uniqueid".toList then
      { s with foundXml := true, inUniqueid := true, uniqueidType := typeAttribute attributes, currentTag := some name }
    else { s with foundXml := true, currentTag := some name }
  | .emptyTag => { s with foundXml := true }
  | .endTag name =>
    if name = "uniqueid".toList then { s with inUniqueid := false, uniqueidType := none, currentTag := none }
    else { s with currentTag := none }
  | .text (some text) => s.readText text
  | .text none | .other | .error => s

/-- Where the loop is left: at an error, or behind the element of an item. -/
def XmlEvent.breaks : XmlEvent → Bool
  | .error => true
  | .endTag name => name ∈ ["movie".toList, "tvshow".toList, "episodedetails".toList]
  | _ => false

def XmlState.read (s : XmlState) : List XmlEvent → XmlState
  | [] => s
  | event :: events => if event.breaks then s.step event else (s.step event).read events

/-- `try_parse_xml`. -/
def tryParseXml (events : List XmlEvent) : Bool × NfoData :=
  let s := XmlState.new.read events
  (s.foundXml, s.data)

/-- The digits behind an address in a line. -/
def digitsBehind (address line : List Char) : Option (List Char) := do
  let (_, rest) ← splitOnce address line
  let id := rest.takeWhile Char.isDigit
  if id = [] then none else some id

/-- The name behind an address in a line. -/
def titleBehind (address line : List Char) : Option (List Char) := do
  let (_, rest) ← splitOnce address line
  if "tt".toList <+: rest then
    let id := rest.takeWhile fun c => c.isDigit || c == 't'
    if id.length > 2 then some id else none
  else none

/-- `parse_provider_url`. -/
def parseProviderUrl (line : List Char) : Option (List Char) :=
  (digitsBehind "themoviedb.org/movie/".toList line).or <|
  (digitsBehind "themoviedb.org/tv/".toList line).or <|
  (titleBehind "imdb.com/title/".toList line).or <|
  digitsBehind "thetvdb.com/?tab=series&id=".toList line

/-- A line of `try_parse_urls`. -/
def NfoData.readUrl (data : NfoData) (line : List Char) : NfoData :=
  let line := trim line
  if line = [] then data
  else match parseProviderUrl line with
    | none => data
    | some id =>
      if "tt".toList <+: id then
        if data.imdbId = none then { data with imdbId := some id } else data
      else match parseI64 id with
        | none => data
        | some num =>
          if "themoviedb".toList <:+: line ∧ data.tmdbId = none then { data with tmdbId := some num }
          else if "thetvdb".toList <:+: line ∧ data.tvdbId = none then { data with tvdbId := some num }
          else data

/-- `try_parse_urls`. -/
def tryParseUrls (content : List Char) (data : NfoData) : NfoData := (lines content).foldl NfoData.readUrl data

section Files
-- What quick-xml reads of a text, up to its end.
variable (readEvents : List Char → List XmlEvent)

/-- `parse_nfo_file`, of what `read_to_string` gives. -/
def parseNfoFile (content : Option (List Char)) : Option NfoData := do
  let content ← content
  let (foundXml, data) := tryParseXml (readEvents content)
  let data := if foundXml then data else tryParseUrls content data
  if data.ids.Yields then some data else none

/-- `parse_nfo`, of the files of a folder by their names. -/
def parseNfo (fileExists : List Char → Bool) (readToString : List Char → Option (List Char)) : Option NfoData :=
  ["movie.nfo".toList, "tvshow.nfo".toList].findSome? fun name =>
    if fileExists name then parseNfoFile readEvents (readToString name) else none

end Files

/-! ## Elements -/

/-- The provider of a `uniqueid`, by its type. -/
def uniqueidProvider (utype : List Char) : Option Provider :=
  if utype = "tmdb".toList then some .tmdb
  else if utype = "imdb".toList then some .imdb
  else if utype = "tvdb".toList then some .tvdb
  else none

/-- The provider of another element, by its name. -/
def tagProvider (tag : List Char) : Option Provider :=
  if tag = "tmdbid".toList then some .tmdb
  else if tag = "imdbid".toList ∨ tag = "imdb_id".toList then some .imdb
  else if tag = "tvdbid".toList then some .tvdb
  else none

/-- The provider whose id a text would be. -/
def XmlState.provider (s : XmlState) : Option Provider :=
  if s.inUniqueid then s.uniqueidType.bind uniqueidProvider else s.currentTag.bind tagProvider

/-- A text of an element that stands for the provider. -/
def XmlWritten (events : List XmlEvent) (provider : Provider) (id : List Char) : Prop :=
  ∃ before text after, events = before ++ .text (some text) :: after ∧
    (before.foldl XmlState.step .new).provider = some provider ∧ trim text = id

section Elements
variable {data : NfoData} {s : XmlState} {text : List Char} {past events : List XmlEvent} {event : XmlEvent}

theorem ids_setUniqueid (utype : List Char) : (data.setUniqueid utype text).ids =
    ((uniqueidProvider utype).map (data.ids.set text)).getD data.ids := by
  unfold NfoData.setUniqueid uniqueidProvider
  split_ifs <;> rfl

theorem ids_setTag (tag : List Char) : (data.setTag tag text).ids =
    ((tagProvider tag).map (data.ids.set text)).getD data.ids := by
  unfold NfoData.setTag tagProvider
  split_ifs <;> rfl

/-- A text is an id of the provider in whose element it is, where it is one. -/
theorem ids_readText : (s.readText text).data.ids = s.data.ids ∨
    ∃ provider, s.provider = some provider ∧ (s.readText text).data.ids = s.data.ids.set (trim text) provider := by
  unfold XmlState.readText
  dsimp only
  split
  · exact .inl rfl
  · split
    · rename_i inside
      split
      · rename_i utype typed
        dsimp only
        rw [ids_setUniqueid]
        cases known : uniqueidProvider utype with
        | none => exact .inl rfl
        | some provider => exact .inr ⟨provider, by rw [XmlState.provider, if_pos inside, typed, Option.bind_some, known], rfl⟩
      · exact .inl rfl
    · rename_i outside
      split
      · rename_i tag current
        dsimp only
        rw [ids_setTag]
        cases known : tagProvider tag with
        | none => exact .inl rfl
        | some provider => exact .inr ⟨provider, by rw [XmlState.provider, if_neg outside, current, Option.bind_some, known], rfl⟩
      · exact .inl rfl

theorem ids_step : (s.step event).data.ids = s.data.ids ∨ ∃ text provider, event = .text (some text) ∧
    s.provider = some provider ∧ (s.step event).data.ids = s.data.ids.set (trim text) provider := by
  cases event with
  | text decoded =>
    cases decoded with
    | none => exact .inl rfl
    | some text =>
      rcases @ids_readText s text with same | ⟨provider, known, sets⟩
      · exact .inl same
      · exact .inr ⟨text, provider, rfl, known, sets⟩
  | startTag | endTag =>
    unfold XmlState.step
    dsimp only
    split <;> exact .inl rfl
  | emptyTag | other | error => exact .inl rfl

/-- One event more: what it writes stands behind the ones that were read. -/
theorem written_step (held : (past.foldl XmlState.step .new).data.ids.WrittenIn (XmlWritten (past ++ event :: events))) :
    ((past ++ [event]).foldl XmlState.step .new).data.ids.WrittenIn (XmlWritten (past ++ event :: events)) := by
  rw [List.foldl_append]
  show ((past.foldl XmlState.step .new).step event).data.ids.WrittenIn _
  rcases @ids_step (past.foldl XmlState.step .new) event with same | ⟨text, provider, rfl, known, sets⟩
  · rw [same]
    exact held
  · rw [sets]
    exact held.set ⟨past, text, events, rfl, known, rfl⟩

theorem written_read (held : (past.foldl XmlState.step .new).data.ids.WrittenIn (XmlWritten (past ++ events))) :
    ((past.foldl XmlState.step .new).read events).data.ids.WrittenIn (XmlWritten (past ++ events)) := by
  induction events generalizing past with
  | nil => exact held
  | cons event _ ih =>
    have next := written_step held
    unfold XmlState.read
    split
    · simpa [List.foldl_append] using next
    · have rest := @ih (past ++ [event]) (by simpa using next)
      simpa [List.foldl_append] using rest

/-- The ids of the elements of a file are written there. -/
theorem tryParseXml_written : (tryParseXml events).2.ids.WrittenIn (XmlWritten events) :=
  @written_read [] events ResolvedIds.writtenIn_empty

end Elements

/-! ## Addresses -/

/-- The addresses that a line has before an id. -/
def addresses : Provider → List (List Char)
  | .imdb => ["imdb.com/title/".toList]
  | .tmdb | .tvdb =>
    ["themoviedb.org/movie/".toList, "themoviedb.org/tv/".toList, "thetvdb.com/?tab=series&id=".toList]

/-- What a line that gives an id of the provider speaks of. -/
def mention : Provider → List Char
  | .tmdb => "themoviedb".toList
  | .imdb => "imdb.com/title/".toList
  | .tvdb => "thetvdb".toList

/-- An id behind an address, in a line that speaks of the provider. -/
def UrlWritten (content : List Char) (provider : Provider) (id : List Char) : Prop :=
  ∃ line ∈ lines content, mention provider <:+: trim line ∧ ∃ address ∈ addresses provider, address ++ id <:+: trim line

section Addresses
variable {address line id content : List Char} {data : NfoData} {written : Provider → List Char → Prop}

theorem address_behind (filled : address ≠ [])
    (found : splitOnce address line = some (before, rest)) : address ++ rest.takeWhile accepts <:+: line := by
  obtain ⟨rfl, -⟩ := splitOnce_eq_some filled found
  refine ⟨before, rest.dropWhile accepts, ?_⟩
  rw [List.append_assoc, List.append_assoc, List.takeWhile_append_dropWhile, List.append_assoc]

theorem digitsBehind_sound (filled : address ≠ []) (found : digitsBehind address line = some id) :
    address ++ id <:+: line ∧ id ≠ [] ∧ ∀ c ∈ id, c.isDigit = true := by
  unfold digitsBehind at found
  obtain ⟨⟨before, rest⟩, split, read⟩ := Option.bind_eq_some_iff.mp found
  dsimp only at read
  split at read
  · cases read
  · rename_i some'
    cases read
    exact ⟨address_behind filled split, some', List.all_eq_true.mp List.all_takeWhile⟩

theorem titleBehind_sound (filled : address ≠ []) (found : titleBehind address line = some id) :
    address ++ id <:+: line ∧ "tt".toList <+: id := by
  unfold titleBehind at found
  obtain ⟨⟨before, rest⟩, split, read⟩ := Option.bind_eq_some_iff.mp found
  dsimp only at read
  split at read
  · rename_i titled
    split at read
    · cases read
      refine ⟨address_behind filled split, ?_⟩
      obtain ⟨more, rfl⟩ := titled
      exact ⟨more.takeWhile fun c => c.isDigit || c == 't', rfl⟩
    · cases read
  · cases read

/-- An id is the title of one address, or a number behind another. -/
theorem parseProviderUrl_sound (found : parseProviderUrl line = some id) :
    ((∃ address ∈ addresses .imdb, address ++ id <:+: line) ∧ "tt".toList <+: id) ∨
    ((∃ address ∈ addresses .tmdb, address ++ id <:+: line) ∧ id ≠ [] ∧ ∀ c ∈ id, c.isDigit = true) := by
  unfold parseProviderUrl at found
  rcases Option.or_eq_some_iff.mp found with movie | ⟨-, found⟩
  · obtain ⟨within, digits⟩ := digitsBehind_sound (by decide) movie
    exact .inr ⟨⟨_, by simp [addresses], within⟩, digits⟩
  rcases Option.or_eq_some_iff.mp found with tv | ⟨-, found⟩
  · obtain ⟨within, digits⟩ := digitsBehind_sound (by decide) tv
    exact .inr ⟨⟨_, by simp [addresses], within⟩, digits⟩
  rcases Option.or_eq_some_iff.mp found with title | ⟨-, series⟩
  · obtain ⟨within, titled⟩ := titleBehind_sound (by decide) title
    exact .inl ⟨⟨_, by simp [addresses], within⟩, titled⟩
  · obtain ⟨within, digits⟩ := digitsBehind_sound (by decide) series
    exact .inr ⟨⟨_, by simp [addresses], within⟩, digits⟩

theorem readUrl_written (covers : ∀ provider id, UrlWritten content provider id → written provider id)
    (held : data.ids.WrittenIn written) (member : line ∈ lines content) : (data.readUrl line).ids.WrittenIn written := by
  unfold NfoData.readUrl
  dsimp only
  split
  · exact held
  split
  · exact held
  rename_i id found
  split
  · rename_i title
    split
    · rcases parseProviderUrl_sound found with ⟨⟨address, known, within⟩, -⟩ | ⟨-, -, digits⟩
      · refine @ResolvedIds.WrittenIn.set data.ids _ id .imdb held (covers _ _ ⟨line, member, ?_, address, known, within⟩)
        obtain rfl := List.mem_singleton.mp known
        exact (List.prefix_append _ id).isInfix.trans within
      · obtain ⟨more, rfl⟩ := title
        exact absurd (digits 't' (by simp)) (by decide)
    · exact held
  · rename_i untitled
    split
    · exact held
    · rename_i num parsed
      obtain ⟨number, -⟩ := (parseProviderUrl_sound found).resolve_left fun title => untitled title.2
      split
      · rename_i free
        have sets := @ResolvedIds.WrittenIn.set data.ids _ id .tmdb held (covers _ _ ⟨line, member, free.1, number⟩)
        unfold ResolvedIds.set at sets
        rwa [parsed] at sets
      split
      · rename_i free
        have sets := @ResolvedIds.WrittenIn.set data.ids _ id .tvdb held (covers _ _ ⟨line, member, free.1, number⟩)
        unfold ResolvedIds.set at sets
        rwa [parsed] at sets
      · exact held

theorem tryParseUrls_written (covers : ∀ provider id, UrlWritten content provider id → written provider id)
    (held : data.ids.WrittenIn written) : (tryParseUrls content data).ids.WrittenIn written :=
  List.foldlRecOn (motive := fun data : NfoData => data.ids.WrittenIn written) (lines content) NfoData.readUrl held
    fun _ kept _ member => readUrl_written covers kept member

end Addresses

/-! ## Files -/

section Written
variable {readEvents : List Char → List XmlEvent} {content : List Char} {data : NfoData}

/-- The ids that are written in a file. -/
def NfoWritten (readEvents : List Char → List XmlEvent) (content : List Char) (provider : Provider) (id : List Char) :
    Prop := XmlWritten (readEvents content) provider id ∨ UrlWritten content provider id

theorem parseNfoFile_written {content : Option (List Char)} (parsed : parseNfoFile readEvents content = some data) :
    ∃ text, content = some text ∧ data.ids.Yields ∧ data.ids.WrittenIn (NfoWritten readEvents text) := by
  unfold parseNfoFile at parsed
  obtain ⟨text, rfl, read⟩ := Option.bind_eq_some_iff.mp parsed
  have elements : (tryParseXml (readEvents text)).2.ids.WrittenIn (NfoWritten readEvents text) :=
    tryParseXml_written.mono fun _ _ => .inl
  dsimp only at read
  split at read
  · split at read
    · cases read
      exact ⟨text, rfl, by assumption, elements⟩
    · cases read
  · split at read
    · cases read
      exact ⟨text, rfl, by assumption, tryParseUrls_written (fun _ _ => .inr) elements⟩
    · cases read

/-- What the files of a folder give is at least one id, and each is written in the file it comes from. -/
theorem parseNfo_written {fileExists : List Char → Bool}
    (parsed : parseNfo readEvents fileExists readToString = some data) :
    data.ids.Yields ∧ ∃ name ∈ ["movie.nfo".toList, "tvshow.nfo".toList], ∃ content, readToString name = some content ∧
      data.ids.WrittenIn (NfoWritten readEvents content) := by
  obtain ⟨name, member, found⟩ := List.exists_of_findSome?_eq_some parsed
  split at found
  · obtain ⟨content, read, yields, written⟩ := parseNfoFile_written found
    exact ⟨yields, name, member, content, read, written⟩
  · cases found

end Written

end Duskcue.NfoParser
