import Duskcue.VodLifecycle

/-! Which responses are registered where. The maps of the gates hold the identifiers of
responses that the registry holds, as long as no response was refused by its viewer after
its generation had taken it: then the identifier stays with the generation. -/
namespace Duskcue.VodLifecycle
open Playback (Uuid)

/-! ## What a move can do to the maps -/

/-- The task is making the content, or its chunks. -/
def Phase.streaming : Phase → Bool
  | .preparing | .seeking .. | .reading .. | .pushing .. | .slicing .. => true
  | _ => false

/-- How far a response has left: nothing, its generation, its viewer, the registry. -/
def Phase.stage : Phase → Nat
  | .leavingViewer => 1
  | .leavingRegistry => 2
  | .leaving | .ended => 3
  | _ => 0

namespace State

/-- The entry of a response, and how far it has left. -/
def ledger (s : State) (id : Uuid) : Option (Entry × Nat) :=
  (s.tasks.find id).map fun response => (response.entry, response.phase.stage)

end State

/-- The maps are as they were, and no response has left further. -/
structure Calm (s t : State) : Prop where
  responses : t.responses = s.responses
  minted : t.minted = s.minted
  queues : ∀ handle, (t.gate handle).queues = (s.gate handle).queues
  ledger : ∀ id, t.ledger id = s.ledger id

section
variable {s t u : State}

theorem Calm.refl (s : State) : Calm s s := ⟨rfl, rfl, fun _ => rfl, fun _ => rfl⟩

theorem Calm.trans (first : Calm s t) (second : Calm t u) : Calm s u where
  responses := second.responses.trans first.responses
  minted := second.minted.trans first.minted
  queues handle := (second.queues handle).trans (first.queues handle)
  ledger id := (second.ledger id).trans (first.ledger id)

theorem gate_setGate (s : State) (handle other : Handle) (gate : Gate) :
    (s.setGate handle gate).gate other = if other = handle then gate else s.gate other := by
  unfold State.gate State.setGate
  rw [Table.find_put]
  split <;> rfl

/-- A gate written back with the same queues. -/
theorem Calm.setGate {gate : Gate} (same : gate.queues = (s.gate handle).queues) :
    Calm s (s.setGate handle gate) where
  responses := rfl
  minted := rfl
  ledger _ := rfl
  queues other := by
    rw [gate_setGate]
    split
    · rename_i here
      rw [here, same]
    · rfl

/-- Responses that change and neither move on nor change their entries. -/
theorem Calm.amend {change : Uuid → Response → Response}
    (kept : ∀ id response, (change id response).entry = response.entry ∧
      (change id response).phase.stage = response.phase.stage) :
    Calm s { s with tasks := s.tasks.amend change } where
  responses := rfl
  minted := rfl
  queues _ := rfl
  ledger id := by
    unfold State.ledger
    rw [Table.find_amend, Option.map_map]
    congr 1
    funext response
    exact Prod.ext (kept id response).1 (kept id response).2

theorem Calm.put {id : Uuid} {response after : Response} (found : s.tasks.find id = some response)
    (entry : after.entry = response.entry) (stage : after.phase.stage = response.phase.stage) :
    Calm s { s with tasks := s.tasks.put id after } where
  responses := rfl
  minted := rfl
  queues _ := rfl
  ledger other := by
    unfold State.ledger
    rw [Table.find_put]
    split
    · rename_i same
      rw [same, found, Option.map_some, Option.map_some, entry, stage]
    · rfl

theorem Calm.cancel (ids : Finset Uuid) : Calm s (s.cancel ids) := by
  refine Calm.amend fun id response => ?_
  split <;> exact ⟨rfl, rfl⟩

theorem Calm.retire (handle : Handle) : Calm s (s.retire handle) := by
  have written : Calm s (s.setGate handle { s.gate handle with retired := true }) := Calm.setGate rfl
  exact written.trans (Calm.cancel _)

theorem Calm.retires (handles : List Handle) : Calm s (handles.foldl State.retire s) := by
  induction handles generalizing s with
  | nil => exact .refl s
  | cons handle _ ih => exact (Calm.retire handle).trans ih

theorem Calm.close : Calm s s.close := by
  have closed : Calm s { s with closed := true } := ⟨rfl, rfl, fun _ => rfl, fun _ => rfl⟩
  refine closed.trans ((Calm.retires _).trans (Calm.amend fun id response => ?_))
  split <;> exact ⟨rfl, rfl⟩

end

namespace Response

/-! ## What a step of a task can do -/

/-- What a step of the task does to a response. -/
inductive Advance (response : Response) : Response → Prop
  | wait : Advance response response
  | prepared (content : Content) (told : Response) (same : told = response ∨ told = response.cancel)
      (at_ : response.phase = .preparing) : Advance response ({ told with content := some content }.start content)
  | interrupt (streaming : response.phase.streaming) : Advance response response.interrupt
  | seek (at_ : response.phase = .seeking data offset length) :
      Advance response { response with phase := .reading data offset length }
  | read {data part : Bytes} {position remaining : Nat} (at_ : response.phase = .reading data position remaining)
      (taken : part = (data.drop position).take part.length) (within : part.length ≤ remaining) (some_ : part ≠ []) :
      Advance response
        { response with phase := .pushing data part (position + part.length) (remaining - part.length) }
  | readAll (at_ : response.phase = .reading data position 0) :
      Advance response { response with phase := .closing }
  | push {data part : Bytes} {position remaining : Nat} (at_ : response.phase = .pushing data part position remaining)
      (live : response.queue.cancelled = false) (room : response.queue.chunks.length < 2) :
      Advance response { response with
        queue := { response.queue with chunks := response.queue.chunks ++ [part] }
        phase := .reading data position remaining }
  | slice {rest : Bytes} (at_ : response.phase = .slicing rest) (live : response.queue.cancelled = false)
      (room : response.queue.chunks.length < 2) :
      Advance response { response with
        queue := { response.queue with chunks := response.queue.chunks ++ [rest.take chunkSize] }
        phase := .slicing (rest.drop chunkSize) }
  | sliced (at_ : response.phase = .slicing []) : Advance response { response with phase := .closing }
  | close (at_ : response.phase = .closing) :
      Advance response { response with queue := response.queue.finish, phase := .draining }
  | drain (at_ : response.phase = .draining) (drained : response.queue.drained) :
      Advance response { response with phase := .leavingGeneration }

section
variable {response : Response}

/-- A part is refused, has to wait, or goes last. -/
theorem offer_cases (response : Response) (part : Bytes) (after : Phase) :
    response.offer part after = response.interrupt ∨ response.offer part after = response ∨
      (response.queue.cancelled = false ∧ response.queue.chunks.length < 2 ∧
        response.offer part after = { response with
          queue := { response.queue with chunks := response.queue.chunks ++ [part] }, phase := after }) := by
  unfold offer Queue.push
  by_cases cancelled : response.queue.cancelled = true
  · rw [if_pos cancelled]
    exact .inl rfl
  · rw [if_neg cancelled]
    by_cases room : response.queue.chunks.length < 2
    · rw [if_pos room]
      exact .inr (.inr ⟨by simpa using cancelled, room, rfl⟩)
    · rw [if_neg room]
      exact .inr (.inl rfl)

theorem Advance.produce (response : Response) (answer : Answer) : Advance response (response.produce answer) := by
  unfold Response.produce
  split
  · rename_i content heard at_
    refine .prepared content _ ?_ at_
    cases heard
    · exact .inr rfl
    · exact .inl rfl
  · rename_i at_
    exact .interrupt (by rw [at_]; rfl)
  · rename_i at_
    exact .interrupt (by rw [at_]; rfl)
  · rename_i data offset length at_
    split
    · exact .interrupt (by rw [at_]; rfl)
    · exact .seek at_
  · rename_i data position _ at_
    exact .readAll at_
  · rename_i at_
    exact .interrupt (by rw [at_]; rfl)
  · rename_i data position remaining length _ at_
    dsimp only
    split
    · exact .interrupt (by rw [at_]; rfl)
    · rename_i goes
      simp only [Bool.or_eq_true, not_or, List.isEmpty_iff] at goes
      refine .read at_ ?_ ?_ goes.2
      · rw [List.length_take, List.take_eq_take_iff, List.length_drop]
        omega
      · rw [List.length_take]
        omega
  · rename_i data part position remaining at_
    obtain refused | waits | ⟨live, room, taken⟩ := offer_cases response part (.reading data position remaining)
    · rw [refused]
      exact .interrupt (by rw [at_]; rfl)
    · rw [waits]
      exact .wait
    · rw [taken]
      exact .push at_ live room
  · rename_i at_
    exact .sliced at_
  · rename_i rest _ at_
    obtain refused | waits | ⟨live, room, taken⟩ :=
      offer_cases response (rest.take chunkSize) (.slicing (rest.drop chunkSize))
    · rw [refused]
      exact .interrupt (by rw [at_]; rfl)
    · rw [waits]
      exact .wait
    · rw [taken]
      exact .slice at_ live room
  · rename_i at_
    exact .close at_
  · rename_i at_
    split
    · rename_i drained
      exact .drain at_ drained
    · exact .wait
  · exact .wait

end

/-- A step of the task before its completion leaves nothing. -/
theorem Advance.kept (advance : Advance response after) :
    after.entry = response.entry ∧ after.phase.stage = response.phase.stage := by
  cases advance with
  | wait => exact ⟨rfl, rfl⟩
  | prepared content told same at_ =>
    have entry : told.entry = response.entry := by
      rcases same with rfl | rfl <;> rfl
    rw [at_, ← entry]
    cases content with
    | file | empty => exact ⟨rfl, rfl⟩
    | bytes =>
      simp only [start]
      split <;> exact ⟨rfl, rfl⟩
  | interrupt streaming =>
    refine ⟨rfl, ?_⟩
    cases shape : response.phase <;> rw [shape] at streaming <;> first | rfl | cases streaming
  | seek at_ | read at_ | readAll at_ | push at_ | slice at_ | sliced at_ | close at_ | drain at_ =>
    rw [at_]
    exact ⟨rfl, rfl⟩

end Response

/-! ## The maps and the responses -/

/-- A response that has left so far is registered with this object. -/
def Entry.Holds (entry : Entry) (stage : Nat) (handle : Handle) : Prop :=
  (entry.generation = some handle ∧ stage = 0) ∨ (entry.viewer = some handle ∧ stage ≤ 1)

/-- What every run keeps: identifiers are not made twice, the registry holds the responses
that have not left it, and an object holds a response only as long as that has not left. -/
structure Kept (s : State) : Prop where
  queued : ∀ handle, ∀ id ∈ (s.gate handle).queues, id ∈ s.minted
  listed : ∀ id held, s.ledger id = some held → id ∈ s.minted
  registered : ∀ id, s.responses.find id = (s.ledger id).bind fun held => if held.2 ≤ 2 then some held.1 else none
  located : ∀ handle, ∀ id ∈ (s.gate handle).queues, ∀ held, s.ledger id = some held → held.1.Holds held.2 handle

/-- Every identifier in the map of an object is that of a response in the registry. -/
def Tracked (s : State) : Prop :=
  ∀ handle, ∀ id ∈ (s.gate handle).queues, (s.responses.find id).isSome

section
variable {s t : State}

theorem Calm.kept (calm : Calm s t) (kept : Kept s) : Kept t where
  queued handle := by
    rw [calm.queues, calm.minted]
    exact kept.queued handle
  listed id held := by
    rw [calm.ledger, calm.minted]
    exact kept.listed id held
  registered id := by
    rw [calm.responses, calm.ledger]
    exact kept.registered id
  located handle id := by
    rw [calm.queues, calm.ledger]
    exact kept.located handle id

theorem Calm.tracked_iff (calm : Calm s t) : Tracked t ↔ Tracked s := by
  unfold Tracked
  simp only [calm.queues, calm.responses]

theorem Kept.responses_none (kept : Kept s) {id : Uuid} (fresh : id ∉ s.minted) : s.responses.find id = none := by
  rw [kept.registered]
  cases held : s.ledger id with
  | none => rfl
  | some held' => exact absurd (kept.listed id held' held) fresh

theorem Kept.not_queued (kept : Kept s) {id : Uuid} (fresh : id ∉ s.minted) (handle : Handle) :
    id ∉ (s.gate handle).queues := fun member => fresh (kept.queued handle id member)

theorem Kept.new : Kept .new where
  queued handle id member := absurd member (by simp [State.gate, State.new, Gate.new])
  listed id held found := by cases found
  registered id := rfl
  located handle id member := absurd member (by simp [State.gate, State.new, Gate.new])

theorem Tracked.new : Tracked .new := fun handle id member => absurd member (by simp [State.gate, State.new, Gate.new])

/-! ## A response that leaves -/

/-- The response has left further, from no object that still holds it. -/
structure Departs (s t : State) (id : Uuid) (entry : Entry) (before after : Nat) : Prop where
  held : s.ledger id = some (entry, before)
  early : before ≤ 2
  minted : t.minted = s.minted
  queues : ∀ handle, ∀ other ∈ (t.gate handle).queues, other ∈ (s.gate handle).queues
  gone : ∀ handle, id ∈ (t.gate handle).queues → entry.Holds after handle
  ledger : ∀ other, t.ledger other = if other = id then some (entry, after) else s.ledger other
  responses : ∀ other, t.responses.find other = if other = id ∧ 2 < after then none else s.responses.find other

theorem Departs.kept {id : Uuid} (departs : Departs s t id entry before after) (kept : Kept s) : Kept t where
  queued handle other member := by
    rw [departs.minted]
    exact kept.queued handle other (departs.queues handle other member)
  listed other held found := by
    rw [departs.minted]
    rw [departs.ledger] at found
    split at found
    · rename_i same
      exact same ▸ kept.listed id _ departs.held
    · exact kept.listed other held found
  registered other := by
    rw [departs.responses, departs.ledger]
    by_cases same : other = id
    · subst same
      rw [if_pos rfl, Option.bind_some]
      by_cases late : 2 < after
      · rw [if_pos ⟨rfl, late⟩, if_neg (Nat.not_le.mpr late)]
      · rw [if_neg (fun both => late both.2), if_pos (Nat.not_lt.mp late), kept.registered, departs.held,
          Option.bind_some, if_pos departs.early]
    · rw [if_neg (fun both => same both.1), if_neg same]
      exact kept.registered other
  located handle other member held found := by
    rw [departs.ledger] at found
    split at found
    · rename_i same
      cases found
      exact departs.gone handle (same ▸ member)
    · exact kept.located handle other (departs.queues handle other member) held found

theorem Departs.tracked {id : Uuid} (departs : Departs s t id entry before after)
    (tracked : Tracked s) : Tracked t := by
  intro handle other member
  rw [departs.responses]
  by_cases late : other = id ∧ 2 < after
  · -- what has left the registry is held by no object
    have holds := departs.gone handle (late.1 ▸ member)
    rcases holds with ⟨-, none'⟩ | ⟨-, low⟩ <;> omega
  · rw [if_neg late]
    exact tracked handle other (departs.queues handle other member)

theorem gate_remove (s : State) (handle other : Handle) (id : Uuid) :
    ((s.remove handle id).gate other).queues =
      if other = handle then (s.gate other).queues.erase id else (s.gate other).queues := by
  unfold State.remove
  rw [gate_setGate]
  split
  · rename_i same
    rw [same]
  · rfl

theorem mem_each_remove {id member : Uuid} :
    member ∈ ((s.each handle (·.remove · id)).gate other).queues ↔
      member ∈ (s.gate other).queues ∧ ¬ (member = id ∧ handle = some other) := by
  cases handle with
  | none => simp [State.each]
  | some =>
    simp only [State.each, gate_remove, Option.some.injEq]
    split
    · rename_i same
      rw [Finset.mem_erase, same]
      simp [and_comm]
    · rename_i differ
      simp [Ne.symm differ]

theorem each_remove_kept {handle : Option Handle} {id : Uuid} :
    (s.each handle (·.remove · id)).tasks = s.tasks ∧ (s.each handle (·.remove · id)).responses = s.responses ∧
      (s.each handle (·.remove · id)).minted = s.minted := by
  cases handle <;> exact ⟨rfl, rfl, rfl⟩

theorem ledger_put {id : Uuid} {response : Response} (written : t.tasks = s.tasks.put id response) (other : Uuid) :
    t.ledger other = if other = id then some (response.entry, response.phase.stage) else s.ledger other := by
  unfold State.ledger
  rw [written, Table.find_put]
  split <;> rfl

/-- A step of a task leaves the maps as they are, or leaves one of them. -/
theorem step_cases (kept : Kept s) (id : Uuid) (answer : Answer) :
    Calm s (s.step id answer) ∨ ∃ entry before after, Departs s (s.step id answer) id entry before after := by
  unfold State.step
  cases found : s.tasks.find id with
  | none => exact .inl (.refl s)
  | some response =>
    have own : s.ledger id = some (response.entry, response.phase.stage) := by
      rw [State.ledger, found, Option.map_some]
    dsimp only
    split
    · rename_i at_
      refine .inr ⟨response.entry, 0, 1, ?_⟩
      obtain ⟨tasks, responses, minted⟩ := @each_remove_kept s response.entry.generation id
      rw [at_] at own
      refine ⟨own, by omega, minted, fun handle other member => (mem_each_remove.mp member).1, ?_, ?_, ?_⟩
      · intro handle member
        obtain ⟨before, left⟩ := mem_each_remove.mp member
        rcases kept.located handle id before _ own with ⟨generation, -⟩ | ⟨viewer, -⟩
        · exact absurd ⟨rfl, generation⟩ left
        · exact .inr ⟨viewer, Nat.le_refl 1⟩
      · exact @ledger_put s _ id { response with phase := .leavingViewer }
          (congrArg (Table.put · id { response with phase := .leavingViewer }) tasks)
      · intro other
        rw [if_neg (by omega)]
        exact congrArg (Table.find · other) responses
    · rename_i at_
      refine .inr ⟨response.entry, 1, 2, ?_⟩
      obtain ⟨tasks, responses, minted⟩ := @each_remove_kept s response.entry.viewer id
      rw [at_] at own
      refine ⟨own, by omega, minted, fun handle other member => (mem_each_remove.mp member).1, ?_, ?_, ?_⟩
      · intro handle member
        obtain ⟨before, left⟩ := mem_each_remove.mp member
        rcases kept.located handle id before _ own with ⟨-, stage⟩ | ⟨viewer, -⟩
        · cases stage
        · exact absurd ⟨rfl, viewer⟩ left
      · exact @ledger_put s _ id { response with phase := .leavingRegistry }
          (congrArg (Table.put · id { response with phase := .leavingRegistry }) tasks)
      · intro other
        rw [if_neg (by omega)]
        exact congrArg (Table.find · other) responses
    · rename_i at_
      rw [at_] at own
      refine .inr ⟨response.entry, 2, 3, own, by omega, rfl, fun handle other member => member, ?_, ?_, ?_⟩
      · intro handle member
        rcases kept.located handle id member _ own with ⟨-, stage⟩ | ⟨-, stage⟩
        · cases stage
        · exact absurd (show 2 ≤ 1 from stage) (by omega)
      · exact @ledger_put s _ id { response with phase := .leaving } rfl
      · intro other
        rw [Table.find_remove]
        by_cases same : other = id
        · rw [if_pos same, if_pos ⟨same, by omega⟩]
        · rw [if_neg same, if_neg fun both => same both.1]
    · rename_i at_
      have ended : Calm s { s with tasks := s.tasks.put id { response with phase := .ended } } :=
        Calm.put found rfl (by rw [at_]; rfl)
      exact .inl (ended.trans ⟨rfl, rfl, fun _ => rfl, fun _ => rfl⟩)
    · have advance := (Response.Advance.produce response answer).kept
      exact .inl (Calm.put found advance.1 advance.2)

/-! ## A response that is admitted -/

/-- The generation takes the response and the viewer refuses it. -/
def halfway (s : State) (generation : Option Uuid) (viewer : Option Handle) : Bool :=
  !s.closed && s.permits ≠ 0 &&
    (generation.bind s.generations.find).any (fun handle => !(s.gate handle).retired) &&
    viewer.any (fun handle => (s.gate handle).retired)

theorem register_eq (s : State) (handle : Handle) (id : Uuid) : s.register handle id =
    if (s.gate handle).retired then .error .sessionNotFound
    else .ok (s.setGate handle { s.gate handle with queues := insert id (s.gate handle).queues }) := rfl

/-- An admitted response is in the registry and with the objects that it names, which were
not retired; a refused one changes nothing, or stays with its generation. -/
inductive Admitted (s : State) (id : Uuid) (generation : Option Uuid) (viewer : Option Handle) :
    Except PlaybackError Unit × State → Prop
  | refused (error : PlaybackError) (whole : halfway s generation viewer = false) :
      Admitted s id generation viewer (.error error, s)
  | left {error : PlaybackError} {handle : Handle} {t : State} (half : halfway s generation viewer = true)
      (gates : ∀ other, t.gate other =
        if other = handle then { s.gate other with queues := insert id (s.gate other).queues } else s.gate other)
      (live : (s.gate handle).retired = false) (tasks : t.tasks = s.tasks) (responses : t.responses = s.responses)
      (minted : t.minted = s.minted) : Admitted s id generation viewer (.error error, t)
  | admitted {entry : Entry} {t : State} (whole : halfway s generation viewer = false)
      (live : ∀ handle, entry.generation = some handle ∨ entry.viewer = some handle → (s.gate handle).retired = false)
      (gates : ∀ other, t.gate other = if entry.generation = some other ∨ entry.viewer = some other then
        { s.gate other with queues := insert id (s.gate other).queues } else s.gate other)
      (tasks : t.tasks = s.tasks.put id ⟨entry, none, .new, .preparing, .new⟩)
      (responses : t.responses = s.responses.put id entry) (minted : t.minted = s.minted) :
      Admitted s id generation viewer (.ok (), t)

/-- The state after a response registered with an optional object. -/
structure Registers (s : State) (handle : Option Handle) (id : Uuid) (t : State) : Prop where
  live : ∀ own, handle = some own → (s.gate own).retired = false
  gates : ∀ other, t.gate other =
    if handle = some other then { s.gate other with queues := insert id (s.gate other).queues } else s.gate other
  tasks : t.tasks = s.tasks
  responses : t.responses = s.responses
  minted : t.minted = s.minted

theorem registerEach_ok {id : Uuid} (ran : s.registerEach handle id = .ok t) : Registers s handle id t := by
  cases handle with
  | none =>
    cases ran
    refine ⟨?_, fun _ => rfl, rfl, rfl, rfl⟩
    intro own found
    cases found
  | some own =>
    simp only [State.registerEach, register_eq] at ran
    split at ran
    · cases ran
    · rename_i live
      cases ran
      refine ⟨?_, ?_, rfl, rfl, rfl⟩
      · intro other same
        cases same
        simpa using live
      · intro other
        rw [gate_setGate]
        by_cases same : other = own
        · rw [if_pos same, if_pos (by rw [same]), same]
        · rw [if_neg same, if_neg fun found => same (Option.some.inj found).symm]

theorem registerEach_error {id : Uuid}
    (ran : s.registerEach handle id = .error error) : handle.any (fun own => (s.gate own).retired) = true := by
  cases handle with
  | none => cases ran
  | some =>
    simp only [State.registerEach, register_eq] at ran
    split at ran
    · rename_i retired
      exact retired
    · cases ran

theorem lookup_ok (ran : s.lookup generation = .ok handle) : generation.bind s.generations.find = handle := by
  cases generation with
  | none =>
    cases ran
    rfl
  | some =>
    simp only [State.lookup] at ran
    split at ran
    · cases ran
    · rename_i own found
      cases ran
      exact found

theorem lookup_error (ran : s.lookup generation = .error error) :
    generation.bind s.generations.find = none := by
  cases generation with
  | none => rfl
  | some =>
    simp only [State.lookup] at ran
    split at ran
    · rename_i absent
      exact absent
    · cases ran

theorem enqueueResponse_admitted (s : State) (id : Uuid) (generation : Option Uuid) (viewer : Option Handle) :
    Admitted s id generation viewer (s.enqueueResponse id generation viewer) := by
  unfold State.enqueueResponse
  split
  · rename_i closed
    exact .refused _ (by simp [halfway, closed])
  · rename_i open_
    split
    · rename_i spent
      exact .refused _ (by simp [halfway, spent])
    · rename_i free
      split
      · rename_i error missing
        exact .refused _ (by simp [halfway, lookup_error missing])
      · rename_i handle named
        have named := lookup_ok named
        split
        · rename_i error barred
          refine .refused _ ?_
          cases handle with
          | none => cases registerEach_error barred
          | some own =>
            have retired : (s.gate own).retired = true := registerEach_error barred
            simp [halfway, named, retired]
        · rename_i middle taken
          have first := registerEach_ok taken
          -- registering does not change which objects are retired
          have same : ∀ other, (middle.gate other).retired = (s.gate other).retired := by
            intro other
            rw [first.gates]
            split <;> rfl
          split
          · rename_i error barred
            have retired := registerEach_error barred
            simp only [same] at retired
            cases handle with
            | none =>
              cases taken
              exact .refused _ (by simp [halfway, named])
            | some own =>
              have live := first.live own rfl
              refine .left ?_ (fun other => ?_) live first.tasks first.responses first.minted
              · simp only [halfway, named, Option.any_some, live, retired]
                simp [open_, free]
              · rw [first.gates]
                simp only [Option.some.injEq, eq_comm]
          · rename_i last taken'
            have second := registerEach_ok taken'
            refine @Admitted.admitted s id generation viewer { generation := handle, viewer } _ ?_ ?_ ?_ ?_ ?_ ?_
            · have live : viewer.any (fun own => (s.gate own).retired) = false := by
                cases viewer with
                | none => rfl
                | some own =>
                  rw [Option.any_some, ← same]
                  exact second.live own rfl
              simp [halfway, live]
            · rintro own (generation' | viewer')
              · exact first.live own generation'
              · rw [← same]
                exact second.live own viewer'
            · intro other
              change last.gate other = _
              rw [second.gates, first.gates]
              by_cases left : handle = some other
              · by_cases right : viewer = some other
                · simp [left, right]
                · simp [left, right]
              · by_cases right : viewer = some other
                · simp [left, right]
                · simp [left, right]
            · rw [second.tasks, first.tasks]
            · rw [second.responses, first.responses]
            · exact second.minted.trans first.minted

theorem Kept.enqueue (kept : Kept s) {id : Uuid} (fresh : id ∉ s.minted)
    (admitted : Admitted s id generation viewer result) : Kept { result.2 with minted := insert id s.minted } := by
  have noLedger : s.ledger id = none := by
    cases held : s.ledger id with
    | none => rfl
    | some held' => exact absurd (kept.listed id held' held) fresh
  cases admitted with
  | refused =>
    refine ⟨fun handle other member => ?_, fun other held found => ?_, kept.registered, kept.located⟩
    · exact Finset.mem_insert_of_mem (kept.queued handle other member)
    · exact Finset.mem_insert_of_mem (kept.listed other held found)
  | @left _ _ t _ gates _ tasks responses =>
    have queues : ∀ handle', ∀ other ∈ (t.gate handle').queues, other = id ∨ other ∈ (s.gate handle').queues := by
      intro handle' other member
      rw [gates] at member
      split at member
      · exact Finset.mem_insert.mp member
      · exact .inr member
    have ledger : ∀ other, t.ledger other = s.ledger other := fun other => by rw [State.ledger, tasks, State.ledger]
    refine ⟨fun handle' other member => ?_, fun other held found => ?_, fun other => ?_, fun handle' other member held found => ?_⟩
    · rcases queues handle' other member with same | before
      · exact same ▸ Finset.mem_insert_self ..
      · exact Finset.mem_insert_of_mem (kept.queued handle' other before)
    · exact Finset.mem_insert_of_mem (kept.listed other held ((ledger other).symm.trans found))
    · change t.responses.find other = _
      rw [responses, kept.registered]
      exact congrArg (Option.bind · _) (ledger other).symm
    · have found := (ledger other).symm.trans found
      rcases queues handle' other member with same | before
      · rw [same, noLedger] at found
        cases found
      · exact kept.located handle' other before held found
  | @admitted entry t whole live gates tasks responses =>
    have queues : ∀ handle, ∀ other ∈ (t.gate handle).queues,
        (other = id ∧ (entry.generation = some handle ∨ entry.viewer = some handle)) ∨
          other ∈ (s.gate handle).queues := by
      intro handle other member
      rw [gates] at member
      split at member
      · rename_i named
        rcases Finset.mem_insert.mp member with same | before
        · exact .inl ⟨same, named⟩
        · exact .inr before
      · exact .inr member
    have ledger : ∀ other, t.ledger other = if other = id then some (entry, 0) else s.ledger other :=
      fun other => ledger_put tasks other
    refine ⟨fun handle other member => ?_, fun other held found => ?_, fun other => ?_, fun handle other member held found => ?_⟩
    · rcases queues handle other member with ⟨same, -⟩ | before
      · exact same ▸ Finset.mem_insert_self ..
      · exact Finset.mem_insert_of_mem (kept.queued handle other before)
    · have found := (ledger other).symm.trans found
      split at found
      · rename_i same
        exact same ▸ Finset.mem_insert_self ..
      · exact Finset.mem_insert_of_mem (kept.listed other held found)
    · change t.responses.find other = (t.ledger other).bind _
      rw [responses, Table.find_put, ledger]
      split
      · rfl
      · exact kept.registered other
    · have found := (ledger other).symm.trans found
      rcases queues handle other member with ⟨same, named⟩ | before
      · rw [if_pos same] at found
        cases found
        rcases named with generation' | viewer'
        · exact .inl ⟨generation', rfl⟩
        · exact .inr ⟨viewer', Nat.zero_le 1⟩
      · have other' : other ≠ id := fun same => kept.not_queued fresh handle (same ▸ before)
        rw [if_neg other'] at found
        exact kept.located handle other before held found

/-- An admission keeps the maps exactly when it is not left halfway. -/
theorem Kept.enqueue_tracked (kept : Kept s) (tracked : Tracked s) {id : Uuid} (fresh : id ∉ s.minted)
    (admitted : Admitted s id generation viewer result) :
    Tracked { result.2 with minted := insert id s.minted } ↔ halfway s generation viewer = false := by
  cases admitted with
  | refused _ whole => exact ⟨fun _ => whole, fun _ => tracked⟩
  | @left _ handle t half gates _ _ responses =>
    rw [half]
    refine ⟨fun after => ?_, nofun⟩
    have own : id ∈ (t.gate handle).queues := by
      rw [gates, if_pos rfl]
      exact Finset.mem_insert_self ..
    have found : (t.responses.find id).isSome = true := after handle id own
    rw [responses, kept.responses_none fresh] at found
    cases found
  | @admitted entry t whole live gates tasks responses =>
    refine ⟨fun _ => whole, fun _ handle other member => ?_⟩
    change (t.responses.find other).isSome = true
    rw [responses, Table.find_put]
    split
    · rfl
    · rename_i differ
      have before : other ∈ (s.gate handle).queues := by
        have member : other ∈ (t.gate handle).queues := member
        rw [gates] at member
        split at member
        · exact (Finset.mem_insert.mp member).resolve_left differ
        · exact member
      exact tracked handle other before

/-! ## Runs -/

theorem Calm.beginGeneration (id : Uuid) (handle : Handle) (cleanup : Bool) :
    Calm s (s.beginGeneration id handle cleanup) := by
  unfold State.beginGeneration
  split
  · exact .refl s
  · rename_i free
    split
    · exact .refl s
    · split
      · exact .refl s
      · have untouched : s.gates.find handle = none := by
          cases found : s.gates.find handle with
          | none => rfl
          | some => simp [found] at free
        have written : Calm s (s.setGate handle { Gate.new with retired := s.closed }) :=
          Calm.setGate (by rw [State.gate, untouched]; rfl)
        exact written.trans ⟨rfl, rfl, fun _ => rfl, fun _ => rfl⟩

theorem Calm.finishGeneration (id : Uuid) : Calm s (s.finishGeneration id) := by
  unfold State.finishGeneration
  split
  · exact ⟨rfl, rfl, fun _ => rfl, fun _ => rfl⟩
  · exact .refl s

theorem Calm.each : Calm s (s.each handle State.retire) := by
  cases handle with
  | none => exact .refl s
  | some own => exact .retire own

theorem Calm.abandon (id : Uuid) : Calm s (s.abandon id) := by
  unfold State.abandon
  split
  · exact .refl s
  · rename_i response found
    split
    · rename_i unfinished
      have stage : response.phase.stage = 0 := by
        cases shape : response.phase <;> rw [shape] at unfinished <;> first | rfl | cases unfinished
      have lost : Calm s { s with tasks := s.tasks.put id { response.cancel with phase := .lost } } :=
        Calm.put found rfl stage.symm
      exact lost.trans (Calm.each.trans Calm.each)
    · exact .refl s

theorem Calm.update {id : Uuid}
    (kept : ∀ response, (change response).entry = response.entry ∧ (change response).phase = response.phase) :
    Calm s (s.update id change) := by
  unfold State.update
  split
  · exact .refl s
  · rename_i response found
    obtain ⟨entry, phase⟩ := kept response
    exact Calm.put found entry (by rw [phase])

theorem poll_kept (response : Response) :
    response.poll.entry = response.entry ∧ response.poll.phase = response.phase := by
  unfold Response.poll
  split
  · exact ⟨rfl, rfl⟩
  · split
    · exact ⟨rfl, rfl⟩
    · split
      · exact ⟨rfl, rfl⟩
      · split <;> exact ⟨rfl, rfl⟩

theorem dropBody_kept (response : Response) :
    response.dropBody.entry = response.entry ∧ response.dropBody.phase = response.phase := by
  unfold Response.dropBody
  split <;> exact ⟨rfl, rfl⟩

/-- The moves that leave no response halfway. -/
def Whole (s : State) : Move → Prop
  | .enqueueResponse id generation viewer => id ∈ s.minted ∨ halfway s generation viewer = false
  | _ => True

/-- Every move keeps what runs keep, and keeps the maps exactly when it leaves no response
halfway. -/
theorem next_kept (kept : Kept s) (move : Move) :
    Kept (next s move) ∧ (Tracked s → (Tracked (next s move) ↔ Whole s move)) := by
  have calmly : ∀ {t : State}, Calm s t → Kept t ∧ (Tracked s → (Tracked t ↔ True)) := fun calm =>
    ⟨calm.kept kept, fun tracked => ⟨fun _ => trivial, fun _ => calm.tracked_iff.mpr tracked⟩⟩
  cases move with
  | beginGeneration id handle cleanup => exact calmly (.beginGeneration id handle cleanup)
  | finishGeneration id => exact calmly (.finishGeneration id)
  | enqueueResponse id generation viewer =>
    unfold next Whole
    dsimp only
    split
    · rename_i known
      exact ⟨kept, fun tracked => ⟨fun _ => .inl known, fun _ => tracked⟩⟩
    · rename_i fresh
      have admitted := enqueueResponse_admitted s id generation viewer
      refine ⟨kept.enqueue fresh admitted, fun tracked => ?_⟩
      rw [kept.enqueue_tracked tracked fresh admitted]
      exact ⟨.inr, fun whole => whole.resolve_left fresh⟩
  | retire handle => exact calmly (.retire handle)
  | close => exact calmly .close
  | step id answer =>
    rcases step_cases kept id answer with calm | ⟨entry, before, after, departs⟩
    · exact calmly calm
    · exact ⟨departs.kept kept, fun tracked => ⟨fun _ => trivial, fun _ => departs.tracked tracked⟩⟩
  | abandon id => exact calmly (.abandon id)
  | poll => exact calmly (.update poll_kept)
  | dropBody => exact calmly (.update dropBody_kept)

theorem run_kept (moves : List Move) : Kept (run moves) := by
  induction moves using List.reverseRecOn with
  | nil => exact Kept.new
  | append_singleton _ move ih =>
    rw [run, List.foldl_append]
    exact (next_kept ih move).1

end

/-- A run keeps every identifier in the maps to a response in the registry exactly when
none of its admissions is left halfway; and an admission that is refused leaves the state
as it was exactly then. -/
theorem maps_tracked (moves : List Move) :
    ((∀ earlier later, moves = earlier ++ later → Tracked (run earlier)) ↔ Throughout next Whole .new moves) ∧
    ∀ id generation viewer error, id ∉ (run moves).minted →
      ((run moves).enqueueResponse id generation viewer).1 = .error error →
      (((run moves).enqueueResponse id generation viewer).2 = run moves ↔
        halfway (run moves) generation viewer = false) := by
  constructor
  · exact throughout_iff (fun s move kept => (next_kept kept move).1)
      (fun s move kept tracked => (next_kept kept move).2 tracked) Kept.new Tracked.new moves
  · intro id generation viewer error fresh refused
    have kept := run_kept moves
    have admitted := enqueueResponse_admitted (run moves) id generation viewer
    generalize (run moves).enqueueResponse id generation viewer = result at admitted refused
    cases admitted with
    | refused error whole => exact ⟨fun _ => whole, fun _ => rfl⟩
    | @left error handle t half gates live tasks responses minted =>
      rw [half]
      refine ⟨fun same => ?_, nofun⟩
      have same : t = run moves := same
      have own : id ∈ (t.gate handle).queues := by
        rw [gates, if_pos rfl]
        exact Finset.mem_insert_self ..
      exact absurd (same ▸ own) (kept.not_queued fresh handle)
    | admitted => cases refused

/-! ## A response that is left halfway -/

namespace Sample

/-- A transcoding session with an output whose viewer is retired, while a segment is
requested. -/
def halted : List Move := [.beginGeneration 7 0 false, .retire 1, .enqueueResponse 9 (some 7) (some 1)]

/-- The same request before the viewer is retired. -/
def served : List Move := [.beginGeneration 7 0 false, .enqueueResponse 9 (some 7) (some 1), .retire 1]

end Sample

/-- The request is refused, and its identifier stays with the generation. -/
theorem halted_left : ¬ Tracked (run Sample.halted) ∧
    ((run (Sample.halted.take 2)).enqueueResponse 9 (some 7) (some 1)).1 = .error .sessionNotFound ∧
    (run Sample.halted).responses.find 9 = none ∧ 9 ∈ ((run Sample.halted).gate 0).queues := by
  have queued : 9 ∈ ((run Sample.halted).gate 0).queues := by decide +kernel
  have absent : (run Sample.halted).responses.find 9 = none := by decide +kernel
  have refused : ((run (Sample.halted.take 2)).enqueueResponse 9 (some 7) (some 1)).1 = .error .sessionNotFound := by
    decide +kernel
  refine ⟨fun tracked => ?_, refused, absent, queued⟩
  have found := tracked 0 9 queued
  rw [absent] at found
  cases found

/-- The request that came first is tracked throughout. -/
theorem served_tracked : ∀ earlier later, Sample.served = earlier ++ later → Tracked (run earlier) :=
  (maps_tracked Sample.served).1.mpr ⟨trivial, .inr (by decide +kernel), trivial, trivial⟩

end Duskcue.VodLifecycle
