import Mathlib.Data.List.Nodup

/-! The pager of a browse view in the web client. Its calls of `load` wait for pages side by side; between two
of their steps the view may call the pager again. A `JSON.stringify` text stands for what a query asks for. -/
namespace Duskcue.CursorPager

/-- How many pages are wanted. `none` is `Infinity`. -/
abbrev Depth := Option Nat

/-- `Math.max(1, depth)`. -/
def Depth.atLeastOne (depth : Depth) : Depth := depth.map (max 1)

/-- `length < depth`. -/
def Depth.exceeds (depth : Depth) (length : Nat) : Bool := depth.all (length < ·)

/-- `pages.slice(0, depth)`. -/
def Depth.slice {α : Type} (depth : Depth) (pages : List α) : List α := depth.elim pages pages.take

/-- What the server answers. The empty cursor is falsy. -/
structure Response (Item Facets : Type) where
  items : List Item
  cursor : Option String
  hasMore : Bool
  facets : Option Facets

def Response.nextCursor {Item Facets : Type} (response : Response Item Facets) : Option String :=
  response.cursor.filter (· ≠ "")

structure Page (Item Facets : Type) where
  items : List Item
  cursor : Option String
  hasMore : Bool
  facets : Option Facets

def Response.page {Item Facets : Type} (response : Response Item Facets) : Page Item Facets where
  items := response.items
  cursor := response.nextCursor
  hasMore := response.hasMore
  facets := response.facets

inductive PageError (Failure : Type)
  | rejected (error : Failure)
  /-- "The next page could not be loaded." -/
  | noNextPage

structure State (Item Facets Failure : Type) where
  items : List Item := []
  cursor : Option String := none
  hasMore : Bool := false
  loadedPages : Nat := 0
  loading : Bool := false
  loadingMore : Bool := false
  error : Option (PageError Failure) := none
  moreError : Option (PageError Failure) := none
  facets : Option Facets := none

structure Request (Query : Type) where
  params : Query
  limit : Nat
  cursor : Option String

/-- Where a call of `load` stands. -/
inductive Stage (Query : Type)
  | looping
  | waiting (request : Request Query)
  | finishing
  | settled

structure Run (Query : Type) where
  aborted : Bool := false
  stage : Stage Query := .looping

/-- What came back for a request, and whether the pager had been called or disposed of since. -/
structure Answer (Query Item Facets : Type) where
  run : Nat
  request : Request Query
  response : Response Item Facets
  superseded : Bool

/-- The variables of a pager, its calls of `load` by number, and the record of what happened. -/
structure Pager (Query Item Facets Failure : Type) where
  state : State Item Facets Failure := {}
  controller : Option Nat := none
  generation : Nat := 0
  signature : Option String := none
  params : Query
  pages : List (Page Item Facets) := []
  requestedDepth : Depth := some 1
  runs : Nat → Option (Run Query) := fun _ => none
  published : List (State Item Facets Failure) := []
  /-- The calls of `load`, with what each asked for. -/
  calls : List (Nat × Query) := []
  answers : List (Answer Query Item Facets) := []

/-- What can happen: a call, or a step of a run of `load`. -/
inductive Move (Query Item Facets Failure : Type)
  | load (query : Query) (depth : Depth)
  | loadAll (query : Query)
  | next
  | retry
  | refresh
  | dispose
  | turn (run : Nat)
  | respond (run : Nat) (response : Response Item Facets)
  /-- A rejected fetch, by an `AbortError` or another error. -/
  | fail (run : Nat) (abort : Bool) (error : Failure)
  | finish (run : Nat)

/-- The run of `load` that a move is a step of. -/
def Move.stepOf {Query Item Facets Failure : Type} : Move Query Item Facets Failure → Option Nat
  | .turn n | .respond n _ | .fail n _ _ | .finish n => some n
  | _ => none

variable {Query Item Facets Failure Id : Type} [DecidableEq Id] (stringify : Query → String) (idOf : Item → Id)
    (pageSize : Nat)

/-- `Map.set` under an item's id: an item that is known keeps its place. -/
def setItem (items : List Item) (item : Item) : List Item :=
  if items.any (idOf · = idOf item) then items.map fun old => if idOf old = idOf item then item else old
  else items ++ [item]

/-- `new Map(items.map((item) => [item.id, item])).values()`. -/
def deduplicate (items : List Item) : List Item := items.foldl (setItem idOf) []

namespace Pager

def publish (p : Pager Query Item Facets Failure) (state : State Item Facets Failure) :
    Pager Query Item Facets Failure :=
  { p with state, published := p.published ++ [state] }

/-- `visible`, put to the state. -/
def visible (p : Pager Query Item Facets Failure) (depth : Depth) : State Item Facets Failure :=
  let selected := depth.slice p.pages
  let last := selected.getLast?
  { p.state with
    items := deduplicate idOf (selected.flatMap Page.items), cursor := last.bind Page.cursor
    hasMore := last.any Page.hasMore, loadedPages := selected.length, facets := p.pages.head?.bind Page.facets }

/-- `controller?.abort()`. -/
def abort (p : Pager Query Item Facets Failure) : Pager Query Item Facets Failure :=
  { p with runs := fun n => if p.controller = some n then (p.runs n).map ({ · with aborted := true }) else p.runs n }

/-- `load` up to its loop. -/
def load (p : Pager Query Item Facets Failure) (query : Query) (depth : Depth) : Pager Query Item Facets Failure :=
  let key := stringify query
  let p := p.abort
  let run := p.generation + 1
  let p := { p with controller := some run, generation := run, requestedDepth := depth.atLeastOne }
  let p := if p.signature ≠ some key then { p with signature := some key, params := query, pages := [] } else p
  let p := p.publish { p.visible idOf p.requestedDepth with
    loading := p.pages.isEmpty, loadingMore := !p.pages.isEmpty && p.requestedDepth.exceeds p.pages.length
    error := none, moreError := none }
  { p with runs := Function.update p.runs run (some {}), calls := p.calls ++ [(run, query)] }

def next (p : Pager Query Item Facets Failure) : Pager Query Item Facets Failure :=
  if !p.state.hasMore || p.state.loading || p.state.loadingMore then p
  else p.load stringify idOf p.params (some (p.state.loadedPages + 1))

def dispose (p : Pager Query Item Facets Failure) : Pager Query Item Facets Failure :=
  { p.abort with generation := p.generation + 1, controller := none }

def setRun (p : Pager Query Item Facets Failure) (n : Nat) (run : Run Query) : Pager Query Item Facets Failure :=
  { p with runs := Function.update p.runs n (some run) }

/-- The condition of the loop, and the request of its body. -/
def turn (p : Pager Query Item Facets Failure) (n : Nat) (run : Run Query) : Pager Query Item Facets Failure :=
  let previous := p.pages.getLast?
  if p.requestedDepth.exceeds p.pages.length && previous.all Page.hasMore then
    p.setRun n { run with stage := .waiting ⟨p.params, pageSize, previous.bind Page.cursor⟩ }
  else p.setRun n { run with stage := .finishing }

/-- The `catch` of an error. -/
def caught (p : Pager Query Item Facets Failure) (n : Nat) (run : Run Query) (abort : Bool)
    (error : PageError Failure) :
    Pager Query Item Facets Failure :=
  let p := p.setRun n { run with stage := .finishing }
  if n ≠ p.generation || run.aborted || abort then p
  else p.publish
    (if p.pages.isEmpty then { p.state with error := some error } else { p.state with moreError := some error })

def record (p : Pager Query Item Facets Failure) (answer : Answer Query Item Facets) :
    Pager Query Item Facets Failure :=
  { p with answers := p.answers ++ [answer] }

/-- `pages.push`, and `visible(requestedDepth)` published. -/
def push (p : Pager Query Item Facets Failure) (page : Page Item Facets) : Pager Query Item Facets Failure :=
  let p := { p with pages := p.pages ++ [page] }
  p.publish (p.visible idOf p.requestedDepth)

/-- The body of the loop behind its request. -/
def respond (p : Pager Query Item Facets Failure) (n : Nat) (run : Run Query) (request : Request Query)
    (response : Response Item Facets) : Pager Query Item Facets Failure :=
  let p := p.record { run := n, request, response, superseded := n ≠ p.generation }
  if n ≠ p.generation || run.aborted then p.setRun n { run with stage := .finishing }
  else if response.hasMore && (response.nextCursor.isNone || p.pages.any (·.cursor = response.nextCursor)) then
    p.caught n run false .noNextPage
  else
    (p.push idOf response.page).setRun n { run with stage := .looping }

/-- The `finally` block. -/
def finish (p : Pager Query Item Facets Failure) (n : Nat) (run : Run Query) : Pager Query Item Facets Failure :=
  let p := if n = p.generation then p.publish { p.state with loading := false, loadingMore := false } else p
  p.setRun n { run with stage := .settled }

/-- A move changes nothing where its run does not stand there. -/
def act (p : Pager Query Item Facets Failure) : Move Query Item Facets Failure → Pager Query Item Facets Failure
  | .load query depth => p.load stringify idOf query depth
  | .loadAll query => p.load stringify idOf query none
  | .next => p.next stringify idOf
  | .retry => p.load stringify idOf p.params p.requestedDepth
  | .refresh => { p with signature := none }.load stringify idOf p.params p.requestedDepth
  | .dispose => p.dispose
  | .turn n => match p.runs n with
    | some { stage := .looping, aborted } => p.turn pageSize n { aborted }
    | _ => p
  | .respond n response => match p.runs n with
    | some { stage := .waiting request, aborted } => p.respond idOf n { aborted } request response
    | _ => p
  | .fail n abort error => match p.runs n with
    | some { stage := .waiting _, aborted } => p.caught n { aborted } abort (.rejected error)
    | _ => p
  | .finish n => match p.runs n with
    | some { stage := .finishing, aborted } => p.finish n { aborted }
    | _ => p

/-- A new pager, behind the moves. -/
def run (empty : Query) (moves : List (Move Query Item Facets Failure)) : Pager Query Item Facets Failure :=
  moves.foldl (act stringify idOf pageSize) { params := empty }

end Pager

/-! ## Items -/

theorem ids_replaced (items : List Item) (item : Item) :
    (items.map fun old => if idOf old = idOf item then item else old).map idOf = items.map idOf := by
  rw [List.map_map]
  refine List.map_congr_left fun old _ => ?_
  by_cases same : idOf old = idOf item
  · simp [same]
  · simp [same]

theorem nodup_setItem {items : List Item} (distinct : (items.map idOf).Nodup) (item : Item) :
    ((setItem idOf items item).map idOf).Nodup := by
  unfold setItem
  split
  · rw [ids_replaced]
    exact distinct
  · rename_i unknown
    rw [List.map_append, List.nodup_append]
    refine ⟨distinct, List.nodup_singleton _, ?_⟩
    rintro _ member _ last rfl
    obtain ⟨old, there, same⟩ := List.mem_map.mp member
    exact unknown (List.any_eq_true.mpr ⟨old, there, by simpa [same] using last⟩)

theorem nodup_deduplicate (items : List Item) : ((deduplicate idOf items).map idOf).Nodup :=
  List.foldlRecOn items (setItem idOf) (motive := fun known => (known.map idOf).Nodup) List.nodup_nil
    fun _ distinct item _ => nodup_setItem idOf distinct item

/-! ## Chains of pages -/

/-- Pages of which each but the first was fetched with the cursor of the page before it. -/
inductive Chain (fetched : Option String → Page Item Facets → Prop) : List (Page Item Facets) → Prop
  | nil : Chain fetched []
  | snoc {pages : List (Page Item Facets)} {page : Page Item Facets} : Chain fetched pages →
      (∀ last, pages.getLast? = some last → last.hasMore = true ∧ last.cursor.isSome = true) →
      fetched (pages.getLast?.bind Page.cursor) page → Chain fetched (pages ++ [page])

namespace Chain
variable {fetched more : Option String → Page Item Facets → Prop} {pages : List (Page Item Facets)}

theorem mono (grows : ∀ cursor page, fetched cursor page → more cursor page) (chain : Chain fetched pages) :
    Chain more pages := by
  induction chain with
  | nil => exact .nil
  | snoc _ links page ih => exact .snoc ih links (grows _ _ page)

/-- The first pages of a chain are one. -/
theorem take (chain : Chain fetched pages) (n : Nat) : Chain fetched (pages.take n) := by
  induction chain with
  | nil =>
    rw [List.take_nil]
    exact .nil
  | @snoc pages _ whole links fetch ih =>
    by_cases within : n ≤ pages.length
    · rw [List.take_append_of_le_length within]
      exact ih
    · rw [List.take_of_length_le (by rw [List.length_append, List.length_singleton]; omega)]
      exact .snoc whole links fetch

theorem slice (chain : Chain fetched pages) (depth : Depth) : Chain fetched (depth.slice pages) := by
  cases depth with
  | none => exact chain
  | some n => exact chain.take n

end Chain

namespace Pager

/-- A page was the answer to a request for the query, made from a call on and not superseded when the answer came. -/
def Fetched (p : Pager Query Item Facets Failure) (since : Nat) (query : Query) (cursor : Option String)
    (page : Page Item Facets) : Prop :=
  ∃ answer ∈ p.answers, answer.superseded = false ∧ since ≤ answer.run ∧
    stringify answer.request.params = stringify query ∧ answer.request.cursor = cursor ∧ page = answer.response.page

/-- The items are those of one chain of as many pages as are counted, fetched for the query of the last call by it and
the calls for the same query in front of it. -/
def Presents (p : Pager Query Item Facets Failure) : Prop :=
  (p.calls = [] ∧ p.state.items = [] ∧ p.state.loadedPages = 0) ∨
    ∃ last query since pages, p.calls.getLast? = some (last, query) ∧
      (∀ call ∈ p.calls, since ≤ call.1 → stringify call.2 = stringify query) ∧
      Chain (p.Fetched stringify since query) pages ∧ pages.length = p.state.loadedPages ∧
      p.state.items = deduplicate idOf (pages.flatMap Page.items)

/-- What holds of a pager whose pages were dropped last at the call `since`. -/
structure Sound (p : Pager Query Item Facets Failure) (since : Nat) : Prop where
  shown : p.state.items = deduplicate idOf ((p.requestedDepth.slice p.pages).flatMap Page.items)
  counted : p.state.loadedPages = (p.requestedDepth.slice p.pages).length
  numbered : ∀ n run, p.runs n = some run → n ≤ p.generation
  called : ∀ call ∈ p.calls, call.1 ≤ p.generation
  since_le : since ≤ p.generation
  latest : p.calls.getLast?.map (stringify ·.2) = p.signature
  signed : ∀ key, p.signature = some key → key = stringify p.params
  unsigned : p.signature = none → p.pages = [] ∧ ∀ n, p.runs n = none
  asked : ∀ call ∈ p.calls, since ≤ call.1 → stringify call.2 = stringify p.params
  chain : Chain (p.Fetched stringify since p.params) p.pages
  linked : ∀ page ∈ p.pages, page.hasMore = true → page.cursor.isSome = true
  waits : ∀ run request, p.runs p.generation = some run → run.stage = .waiting request →
    request.params = p.params ∧ request.cursor = p.pages.getLast?.bind Page.cursor ∧
      ∀ last, p.pages.getLast? = some last → last.hasMore = true
  settles : ∀ run, p.runs p.generation = some run → run.stage = .settled →
    p.state.loading = false ∧ p.state.loadingMore = false

variable {stringify idOf} {p : Pager Query Item Facets Failure} {since : Nat}

theorem abort_runs {run : Run Query} (found : p.abort.runs n = some run) :
    ∃ old, p.runs n = some old ∧ old.stage = run.stage := by
  dsimp only [abort] at found
  split at found
  · obtain ⟨old, there, rfl⟩ := Option.map_eq_some_iff.mp found
    exact ⟨old, there, rfl⟩
  · exact ⟨run, found, rfl⟩

theorem Sound.presents (sound : p.Sound stringify idOf since) : p.Presents stringify idOf := by
  cases called : p.calls.getLast? with
  | none =>
    have none := List.getLast?_eq_none_iff.mp called
    have unsigned := (sound.unsigned (by rw [← sound.latest, called]; rfl)).1
    have nothing : p.requestedDepth.slice p.pages = [] := by
      rw [unsigned]
      cases p.requestedDepth with
      | none => rfl
      | some => exact List.take_nil
    refine .inl ⟨none, ?_, ?_⟩
    · rw [sound.shown, nothing]
      rfl
    · rw [sound.counted, nothing]
      rfl
  | some call =>
    obtain ⟨last, query⟩ := call
    have same : stringify query = stringify p.params := sound.signed _ (by rw [← sound.latest, called]; rfl)
    refine .inr ⟨last, query, since, p.requestedDepth.slice p.pages, called, ?_, ?_, sound.counted.symm, sound.shown⟩
    · intro call member from'
      rw [same]
      exact sound.asked call member from'
    · have chain := sound.chain.slice p.requestedDepth
      unfold Fetched at chain ⊢
      rw [same]
      exact chain

/-- Behind a call the only run that is current is its own, and that one has not begun. -/
theorem begun_current {runs : Nat → Option (Run Query)} {run : Run Query}
    (found : Function.update runs n (some {}) n = some run) : run.stage = .looping := by
  rw [Function.update_self] at found
  cases found
  rfl

theorem begun_numbered (numbered : ∀ n run, p.runs n = some run → n ≤ p.generation) (n : Nat) (run : Run Query)
    (found : Function.update p.abort.runs (p.generation + 1) (some {}) n = some run) : n ≤ p.generation + 1 := by
  by_cases own : n = p.generation + 1
  · exact Nat.le_of_eq own
  · rw [Function.update_of_ne own] at found
    obtain ⟨old, there, -⟩ := abort_runs found
    exact Nat.le_succ_of_le (numbered n old there)

theorem called_snoc {calls : List (Nat × Query)} (called : ∀ call ∈ calls, call.1 ≤ n) (query : Query) :
    ∀ call ∈ calls ++ [(n + 1, query)], call.1 ≤ n + 1 := by
  intro call member
  rcases List.mem_append.mp member with old | new
  · exact Nat.le_succ_of_le (called call old)
  · cases List.mem_singleton.mp new
    exact Nat.le_refl _

/-- A call that asks for another query than the one at hand, or behind a refresh, starts anew. -/
theorem load_fresh {query : Query} (depth : Depth) (numbered : ∀ n run, p.runs n = some run → n ≤ p.generation)
    (called : ∀ call ∈ p.calls, call.1 ≤ p.generation) (other : p.signature ≠ some (stringify query)) :
    (p.load stringify idOf query depth).Sound stringify idOf (p.generation + 1) := by
  have other' : p.abort.signature ≠ some (stringify query) := other
  unfold load
  dsimp only
  rw [if_pos other']
  constructor
  · rfl
  · rfl
  · exact begun_numbered numbered
  · exact called_snoc called query
  · exact Nat.le_refl _
  · exact congrArg _ List.getLast?_concat
  · rintro key ⟨⟩
    rfl
  · rintro ⟨⟩
  · intro call member from'
    rcases List.mem_append.mp member with old | new
    · exact absurd (called call old) (Nat.not_le.mpr from')
    · cases List.mem_singleton.mp new
      rfl
  · exact .nil
  · rintro page ⟨⟩
  · intro run request found waiting
    rw [begun_current found] at waiting
    cases waiting
  · intro run found settled
    rw [begun_current found] at settled
    cases settled

theorem load_again {query : Query} (depth : Depth) (sound : p.Sound stringify idOf since)
    (same : p.signature = some (stringify query)) : (p.load stringify idOf query depth).Sound stringify idOf since := by
  have same' : ¬p.abort.signature ≠ some (stringify query) := not_not.mpr same
  have text : stringify query = stringify p.params := sound.signed _ same
  unfold load
  dsimp only
  rw [if_neg same']
  constructor
  · rfl
  · rfl
  · exact begun_numbered sound.numbered
  · exact called_snoc sound.called query
  · exact Nat.le_succ_of_le sound.since_le
  · exact (congrArg _ List.getLast?_concat).trans same.symm
  · exact sound.signed
  · intro none
    exact absurd (same.symm.trans none) (Option.some_ne_none _)
  · intro call member from'
    rcases List.mem_append.mp member with old | new
    · exact sound.asked call old from'
    · cases List.mem_singleton.mp new
      exact text
  · exact sound.chain
  · exact sound.linked
  · intro run request found waiting
    rw [begun_current found] at waiting
    cases waiting
  · intro run found settled
    rw [begun_current found] at settled
    cases settled

theorem Sound.load (sound : p.Sound stringify idOf since) (query : Query) (depth : Depth) :
    ∃ since, (p.load stringify idOf query depth).Sound stringify idOf since := by
  by_cases same : p.signature = some (stringify query)
  · exact ⟨since, load_again depth sound same⟩
  · exact ⟨_, load_fresh depth sound.numbered sound.called same⟩

theorem Sound.refresh (sound : p.Sound stringify idOf since) :
    ∃ since, ({ p with signature := none }.load stringify idOf p.params p.requestedDepth).Sound stringify idOf since :=
  ⟨_, load_fresh p.requestedDepth sound.numbered sound.called (by simp)⟩

theorem Sound.dispose (sound : p.Sound stringify idOf since) : p.dispose.Sound stringify idOf since :=
  { sound with
    numbered n run found := by
      obtain ⟨old, there, -⟩ := abort_runs found
      exact Nat.le_succ_of_le (sound.numbered n old there)
    called call member := Nat.le_succ_of_le (sound.called call member)
    since_le := Nat.le_succ_of_le sound.since_le
    unsigned none := by
      obtain ⟨pages, runs⟩ := sound.unsigned none
      refine ⟨pages, fun n => ?_⟩
      cases found : p.dispose.runs n with
      | none => rfl
      | some =>
        obtain ⟨old, there, -⟩ := abort_runs found
        exact absurd (there.symm.trans (runs n)) (Option.some_ne_none _)
    waits run _ found _ := by
      obtain ⟨old, there, -⟩ := abort_runs found
      exact absurd (sound.numbered _ old there) (Nat.not_succ_le_self _)
    settles run found _ := by
      obtain ⟨old, there, -⟩ := abort_runs found
      exact absurd (sound.numbered _ old there) (Nat.not_succ_le_self _) }

theorem setRun_self (n : Nat) (run : Run Query) : (p.setRun n run).runs n = some run := Function.update_self ..

theorem setRun_ne (other : m ≠ n) (run : Run Query) : (p.setRun n run).runs m = p.runs m :=
  Function.update_of_ne other ..

/-- What is asked of the current run is asked of the run that was set, or of the one from before. -/
theorem setRun_current {run other : Run Query} (found : (p.setRun n run).runs p.generation = some other) :
    (n = p.generation ∧ other = run) ∨ p.runs p.generation = some other := by
  by_cases own : p.generation = n
  · rw [own, setRun_self] at found
    exact .inl ⟨own.symm, (Option.some.inj found).symm⟩
  · rw [setRun_ne own] at found
    exact .inr found

theorem Fetched.recorded (fetched : p.Fetched stringify since query cursor page) (answer : Answer Query Item Facets) :
    (p.record answer).Fetched stringify since query cursor page := by
  obtain ⟨own, member, rest⟩ := fetched
  exact ⟨own, List.mem_append_left _ member, rest⟩

section
variable (sound : p.Sound stringify idOf since)
include sound

theorem Sound.setRun {run old : Run Query} (known : p.runs n = some old)
    (waits : n = p.generation → ∀ request, run.stage = .waiting request →
      request.params = p.params ∧ request.cursor = p.pages.getLast?.bind Page.cursor ∧
        ∀ last, p.pages.getLast? = some last → last.hasMore = true)
    (settles : n = p.generation → run.stage = .settled → p.state.loading = false ∧ p.state.loadingMore = false) :
    (p.setRun n run).Sound stringify idOf since where
  __ := sound
  unsigned none := absurd (known.symm.trans ((sound.unsigned none).2 n)) (Option.some_ne_none _)
  numbered m other found := by
    by_cases own : m = n
    · exact own ▸ sound.numbered n old known
    · exact sound.numbered m other ((setRun_ne own run).symm.trans found)
  waits other request found waiting := by
    obtain ⟨own, rfl⟩ | old := setRun_current found
    · exact waits own request waiting
    · exact sound.waits other request old waiting
  settles other found settled := by
    obtain ⟨own, rfl⟩ | old := setRun_current found
    · exact settles own settled
    · exact sound.settles other old settled

/-- What is published does not change the items and their pages, and takes no flag back that a run has set to false. -/
theorem Sound.publish {state : State Item Facets Failure}
    (items : state.items = p.state.items) (count : state.loadedPages = p.state.loadedPages)
    (flags : p.state.loading = false ∧ p.state.loadingMore = false → state.loading = false ∧
      state.loadingMore = false) :
    (p.publish state).Sound stringify idOf since where
  __ := sound
  shown := items.trans sound.shown
  counted := count.trans sound.counted
  settles run found settled := flags (sound.settles run found settled)

theorem Sound.turn (known : p.runs n = some old) (run : Run Query) :
    (p.turn pageSize n run).Sound stringify idOf since := by
  unfold Pager.turn
  dsimp only
  split
  · rename_i going
    rw [Bool.and_eq_true] at going
    refine sound.setRun known ?_ (fun _ => nofun)
    rintro - request ⟨⟩
    refine ⟨rfl, rfl, ?_⟩
    intro last previous
    simpa [previous] using going.2
  · exact sound.setRun known (fun _ _ => nofun) (fun _ => nofun)

theorem Sound.caught (known : p.runs n = some old) (run : Run Query)
    (abort : Bool) (error : PageError Failure) : (p.caught n run abort error).Sound stringify idOf since := by
  have moved : (p.setRun n { run with stage := .finishing }).Sound stringify idOf since :=
    sound.setRun known (fun _ _ => nofun) (fun _ => nofun)
  unfold Pager.caught
  dsimp only
  split
  · exact moved
  · split
    · exact moved.publish rfl rfl id
    · exact moved.publish rfl rfl id

theorem Sound.record (answer : Answer Query Item Facets) :
    (p.record answer).Sound stringify idOf since where
  __ := sound
  chain := sound.chain.mono fun _ _ fetched => fetched.recorded answer

/-- A page that was fetched with the cursor of the last one is put behind it. -/
theorem Sound.push {n : Nat} {old : Run Query} (known : p.runs n = some old)
    (own : n = p.generation) {page : Page Item Facets}
    (fetched : p.Fetched stringify since p.params (p.pages.getLast?.bind Page.cursor) page)
    (more : ∀ last, p.pages.getLast? = some last → last.hasMore = true)
    (linked : page.hasMore = true → page.cursor.isSome = true) (aborted : Bool) :
    ((p.push idOf page).setRun n { stage := .looping, aborted }).Sound stringify idOf since :=
  { sound with
    shown := rfl
    counted := rfl
    numbered m other found := by
      by_cases same : m = n
      · exact same ▸ sound.numbered n old known
      · exact sound.numbered m other ((setRun_ne same _).symm.trans found)
    unsigned none := absurd (known.symm.trans ((sound.unsigned none).2 n)) (Option.some_ne_none _)
    chain := .snoc sound.chain
      (fun last previous => ⟨more last previous, sound.linked last (List.mem_of_getLast? previous) (more last previous)⟩)
      fetched
    linked other member := by
      rcases List.mem_append.mp member with before | last
      · exact sound.linked other before
      · exact List.mem_singleton.mp last ▸ linked
    waits other request found waiting := by
      cases own
      cases Option.some.inj ((setRun_self _ _).symm.trans found)
      cases waiting
    settles other found settled := by
      cases own
      cases Option.some.inj ((setRun_self _ _).symm.trans found)
      cases settled }

/-- The answer to a request of the current run carries the chain on. -/
theorem Sound.respond (found : p.runs n = some { stage := .waiting request, aborted }) (response : Response Item Facets) :
    (p.respond idOf n { aborted } request response).Sound stringify idOf since := by
  have recorded := sound.record { run := n, request, response, superseded := n ≠ p.generation }
  unfold Pager.respond
  dsimp only
  split
  · exact recorded.setRun found (fun _ _ => nofun) (fun _ => nofun)
  rename_i current
  simp only [Bool.or_eq_true, decide_eq_true_eq, not_or, not_not] at current
  obtain ⟨own, -⟩ := current
  split
  · exact recorded.caught found _ false .noNextPage
  rename_i fresh
  obtain ⟨params, cursor, more⟩ := sound.waits _ request (own ▸ found) rfl
  refine recorded.push found own ?_ more ?_ aborted
  · refine ⟨_, List.mem_append_right _ (List.mem_singleton_self _), ?_, own ▸ sound.since_le, ?_, cursor, rfl⟩
    · exact decide_eq_false (not_not.mpr own)
    · exact congrArg stringify params
  · intro further
    cases cursor : response.nextCursor with
    | some => exact congrArg Option.isSome cursor
    | none =>
      have further : response.hasMore = true := further
      exact absurd (by rw [further, cursor]; rfl) fresh

theorem Sound.finish (known : p.runs n = some old)
    (run : Run Query) : (p.finish n run).Sound stringify idOf since := by
  unfold Pager.finish
  dsimp only
  split
  · have quiet : (p.publish { p.state with loading := false, loadingMore := false }).Sound stringify idOf since :=
      sound.publish rfl rfl fun _ => ⟨rfl, rfl⟩
    exact quiet.setRun known (fun _ _ => nofun) (fun _ _ => ⟨rfl, rfl⟩)
  · rename_i other
    exact sound.setRun known (fun own => absurd own other) (fun own => absurd own other)

/-- A move keeps the invariant. -/
theorem Sound.act (move : Move Query Item Facets Failure) :
    ∃ since, (p.act stringify idOf pageSize move).Sound stringify idOf since := by
  cases move with
  | load query depth => exact sound.load query depth
  | loadAll query => exact sound.load query none
  | next =>
    dsimp only [Pager.act]
    unfold Pager.next
    split
    · exact ⟨since, sound⟩
    · exact sound.load _ _
  | retry => exact sound.load _ _
  | refresh => exact sound.refresh
  | dispose => exact ⟨since, sound.dispose⟩
  | turn =>
    dsimp only [Pager.act]
    split
    · rename_i found
      exact ⟨since, sound.turn pageSize found _⟩
    · exact ⟨since, sound⟩
  | respond n response =>
    dsimp only [Pager.act]
    split
    · rename_i found
      exact ⟨since, sound.respond found response⟩
    · exact ⟨since, sound⟩
  | fail n abort =>
    dsimp only [Pager.act]
    split
    · rename_i found
      exact ⟨since, sound.caught found _ abort _⟩
    · exact ⟨since, sound⟩
  | finish =>
    dsimp only [Pager.act]
    split
    · rename_i found
      exact ⟨since, sound.finish found _⟩
    · exact ⟨since, sound⟩

end

theorem sound_new (empty : Query) :
    Sound stringify idOf ({ params := empty } : Pager Query Item Facets Failure) 0 where
  shown := rfl
  counted := rfl
  numbered := nofun
  called := nofun
  since_le := Nat.le_refl _
  latest := rfl
  signed := nofun
  unsigned _ := ⟨rfl, fun _ => rfl⟩
  asked := nofun
  chain := .nil
  linked := nofun
  waits := nofun
  settles := nofun

theorem sound_run (empty : Query) (moves : List (Move Query Item Facets Failure)) :
    ∃ since, (run stringify idOf pageSize empty moves).Sound stringify idOf since :=
  List.foldlRecOn moves (act stringify idOf pageSize) (motive := fun p => ∃ since, p.Sound stringify idOf since)
    ⟨0, sound_new empty⟩ fun _ ⟨_, sound⟩ move _ => sound.act pageSize move

/-! ## What a move publishes -/

/-- Nothing was published. -/
def Unpublished (p q : Pager Query Item Facets Failure) : Prop := q.published = p.published ∧ q.state = p.state

/-- One state was published, or none. -/
def Publishes (p q : Pager Query Item Facets Failure) : Prop :=
  Unpublished p q ∨ q.published = p.published ++ [q.state]

theorem turn_unpublished (n : Nat) (run : Run Query) : Unpublished p (p.turn pageSize n run) := by
  unfold Pager.turn
  dsimp only
  split <;> exact ⟨rfl, rfl⟩

theorem load_publishes (query : Query) (depth : Depth) : Publishes p (p.load stringify idOf query depth) := by
  unfold Pager.load
  dsimp only
  split <;> exact .inr rfl

theorem caught_publishes (n : Nat) (run : Run Query) (abort : Bool) (error : PageError Failure) :
    Publishes p (p.caught n run abort error) ∧ (n ≠ p.generation → Unpublished p (p.caught n run abort error)) := by
  unfold Pager.caught
  dsimp only
  split
  · exact ⟨.inl ⟨rfl, rfl⟩, fun _ => ⟨rfl, rfl⟩⟩
  · rename_i current
    refine ⟨.inr rfl, fun other => absurd ?_ current⟩
    exact Bool.or_eq_true_iff.mpr (.inl (Bool.or_eq_true_iff.mpr (.inl (decide_eq_true other))))

theorem respond_publishes (n : Nat) (run : Run Query) (request : Request Query) (response : Response Item Facets) :
    Publishes p (p.respond idOf n run request response) ∧
      (n ≠ p.generation → Unpublished p (p.respond idOf n run request response)) := by
  unfold Pager.respond
  dsimp only
  split
  · exact ⟨.inl ⟨rfl, rfl⟩, fun _ => ⟨rfl, rfl⟩⟩
  rename_i current
  split
  · exact caught_publishes (p := p.record _) n run false .noNextPage
  · refine ⟨.inr rfl, fun other => absurd ?_ current⟩
    exact Bool.or_eq_true_iff.mpr (.inl (decide_eq_true other))

theorem finish_publishes (n : Nat) (run : Run Query) :
    Publishes p (p.finish n run) ∧ (n ≠ p.generation → Unpublished p (p.finish n run)) := by
  unfold Pager.finish
  dsimp only
  split
  · rename_i own
    exact ⟨.inr rfl, fun other => absurd own other⟩
  · exact ⟨.inl ⟨rfl, rfl⟩, fun _ => ⟨rfl, rfl⟩⟩

/-- A move publishes one state or none, and none where it is a step of a run that is not the current one. -/
theorem act_publishes (move : Move Query Item Facets Failure) : Publishes p (p.act stringify idOf pageSize move) ∧
    ∀ n, move.stepOf = some n → n ≠ p.generation → Unpublished p (p.act stringify idOf pageSize move) := by
  have still : Unpublished p p := ⟨rfl, rfl⟩
  cases move with
  | load query depth => exact ⟨load_publishes query depth, nofun⟩
  | loadAll query => exact ⟨load_publishes query none, nofun⟩
  | next =>
    refine ⟨?_, nofun⟩
    dsimp only [Pager.act]
    unfold Pager.next
    split
    · exact .inl still
    · exact load_publishes _ _
  | retry => exact ⟨load_publishes _ _, nofun⟩
  | refresh => exact ⟨load_publishes (p := { p with signature := none }) _ _, nofun⟩
  | dispose => exact ⟨.inl ⟨rfl, rfl⟩, nofun⟩
  | turn n =>
    dsimp only [Pager.act]
    split
    · exact ⟨.inl (turn_unpublished pageSize n _), fun _ _ _ => turn_unpublished pageSize n _⟩
    · exact ⟨.inl still, fun _ _ _ => still⟩
  | respond n response =>
    dsimp only [Pager.act]
    split
    · obtain ⟨publishes, silent⟩ : Publishes p (p.respond idOf n _ _ response) ∧ _ := respond_publishes n _ _ response
      exact ⟨publishes, fun _ own => Option.some.inj own ▸ silent⟩
    · exact ⟨.inl still, fun _ _ _ => still⟩
  | fail n abort error =>
    dsimp only [Pager.act]
    split
    · obtain ⟨publishes, silent⟩ := caught_publishes (p := p) n _ abort (.rejected error)
      exact ⟨publishes, fun _ own => Option.some.inj own ▸ silent⟩
    · exact ⟨.inl still, fun _ _ _ => still⟩
  | finish n =>
    dsimp only [Pager.act]
    split
    · obtain ⟨publishes, silent⟩ := finish_publishes (p := p) n _
      exact ⟨publishes, fun _ own => Option.some.inj own ▸ silent⟩
    · exact ⟨.inl still, fun _ _ _ => still⟩

theorem caught_generation (n : Nat) (run : Run Query) (abort : Bool) (error : PageError Failure) :
    (p.caught n run abort error).generation = p.generation := by
  unfold Pager.caught
  dsimp only
  split <;> rfl

theorem load_generation (query : Query) (depth : Depth) :
    (p.load stringify idOf query depth).generation = p.generation + 1 := by
  unfold Pager.load
  dsimp only
  split <;> rfl

theorem generation_le (move : Move Query Item Facets Failure) :
    p.generation ≤ (p.act stringify idOf pageSize move).generation := by
  have later {query : Query} {depth : Depth} : p.generation ≤ (p.load stringify idOf query depth).generation := by
    rw [load_generation]
    exact Nat.le_succ _
  cases move with
  | load | loadAll | retry => exact later
  | next =>
    dsimp only [Pager.act]
    unfold Pager.next
    split
    · exact Nat.le_refl _
    · exact later
  | refresh =>
    refine Nat.le_trans (Nat.le_succ _) (Nat.le_of_eq ?_)
    exact (load_generation (p := { p with signature := none }) _ _).symm
  | dispose => exact Nat.le_succ _
  | turn =>
    dsimp only [Pager.act]
    split
    · unfold Pager.turn
      dsimp only
      split <;> exact Nat.le_refl _
    · exact Nat.le_refl _
  | respond n =>
    dsimp only [Pager.act]
    split
    · unfold Pager.respond
      dsimp only
      split
      · exact Nat.le_refl _
      split
      · exact Nat.le_of_eq (caught_generation (p := p.record _) n _ false .noNextPage).symm
      · exact Nat.le_refl _
    · exact Nat.le_refl _
  | fail =>
    dsimp only [Pager.act]
    split
    · exact Nat.le_of_eq (caught_generation _ _ _ _).symm
    · exact Nat.le_refl _
  | finish =>
    dsimp only [Pager.act]
    split
    · unfold Pager.finish
      dsimp only
      split <;> exact Nat.le_refl _
    · exact Nat.le_refl _

theorem run_generation_le (moves : List (Move Query Item Facets Failure)) :
    p.generation ≤ (moves.foldl (act stringify idOf pageSize) p).generation :=
  List.foldlRecOn moves (act stringify idOf pageSize) (motive := fun q => p.generation ≤ q.generation) (Nat.le_refl _)
    fun _ grown move _ => Nat.le_trans grown (generation_le pageSize move)

theorem run_published (empty : Query) (moves : List (Move Query Item Facets Failure)) :
    (run stringify idOf pageSize empty moves).state =
      (run stringify idOf pageSize empty moves).published.getLast?.getD {} := by
  refine List.foldlRecOn moves (act stringify idOf pageSize)
    (motive := fun p : Pager Query Item Facets Failure => p.state = p.published.getLast?.getD {}) rfl ?_
  intro p last move _
  have publishes : Publishes p (p.act stringify idOf pageSize move) := (act_publishes pageSize move).1
  obtain ⟨published, state⟩ | published := publishes
  · rw [published, state, last]
  · rw [published, List.getLast?_concat, Option.getD_some]

end Pager

/-- Behind all moves, in whatever order they come: the last published items are those of one chain of pages of the last
query, as many as are counted, each item once; behind a disposal no step of a run from before publishes anything; and once the run of the last
call has settled, undisposed, nothing is shown as loading. -/
theorem pager_consistent (stringify : Query → String) (idOf : Item → Id) (pageSize : Nat) (empty : Query)
    (moves : List (Move Query Item Facets Failure)) :
    ∀ p, Pager.run stringify idOf pageSize empty moves = p →
      p.state = p.published.getLast?.getD {} ∧ p.Presents stringify idOf ∧ (p.state.items.map idOf).Nodup ∧
      (∀ (later : List (Move Query Item Facets Failure)) move n, n ≤ p.generation → Move.stepOf move = some n →
        Pager.Unpublished (later.foldl (Pager.act stringify idOf pageSize) p.dispose)
          ((later.foldl (Pager.act stringify idOf pageSize) p.dispose).act stringify idOf pageSize move)) ∧
      ∀ last query, p.calls.getLast? = some (last, query) → p.generation = last →
        ∀ run, p.runs last = some run → run.stage = .settled → p.state.loading = false ∧
          p.state.loadingMore = false := by
  rintro p rfl
  obtain ⟨since, sound⟩ : ∃ since, (Pager.run stringify idOf pageSize empty moves).Sound stringify idOf since :=
    Pager.sound_run pageSize empty moves
  refine ⟨Pager.run_published pageSize empty moves, sound.presents, ?_, ?_, ?_⟩
  · rw [sound.shown]
    exact nodup_deduplicate idOf _
  · intro later move n old own
    refine (Pager.act_publishes pageSize move).2 n own (Nat.ne_of_lt ?_)
    exact Nat.lt_of_lt_of_le (Nat.lt_succ_of_le old)
      (Pager.run_generation_le (p := Pager.dispose (Pager.run stringify idOf pageSize empty moves)) pageSize later)
  · rintro last query - rfl run found settled
    exact sound.settles run found settled

/-- The moves of a view that changes its query before the first answer comes. -/
def changedQuery : List (Move String Nat Unit Unit) :=
  [.load "films" (some 1), .turn 1, .load "series" (some 1), .turn 2, .respond 1 ⟨[3], none, false, none⟩,
    .respond 2 ⟨[7, 8], some "next", true, none⟩, .turn 2, .finish 1, .finish 2]

/-- The one page that is counted is the answer to the second query, the only one that was not superseded. -/
theorem changed_query_settles : (Pager.run id id 24 "" changedQuery).state.items = [7, 8] ∧
    (Pager.run id id 24 "" changedQuery).state.loading = false ∧
    (Pager.run id id 24 "" changedQuery).state.loadingMore = false := by
  obtain ⟨-, presents, -, -, settles⟩ := pager_consistent id id 24 "" changedQuery _ rfl
  refine ⟨?_, settles 2 "series" rfl rfl { aborted := false, stage := .settled } rfl rfl⟩
  have answered : ∀ answer ∈ (Pager.run id id 24 "" changedQuery).answers, answer.superseded = false →
    answer.response.items = [7, 8] := by decide
  obtain ⟨none, -⟩ | ⟨_, _, _, pages, -, -, chain, count, items⟩ := presents
  · cases none
  have one : pages.length = 1 := count
  cases chain with
  | nil => cases one
  | @snoc before _ _ _ fetched =>
    obtain rfl : before = [] := by simpa using one
    obtain ⟨answer, member, fresh, -, -, -, rfl⟩ := fetched
    rw [items, List.nil_append, List.flatMap_singleton]
    exact congrArg (deduplicate id) (answered answer member fresh)

end Duskcue.CursorPager
