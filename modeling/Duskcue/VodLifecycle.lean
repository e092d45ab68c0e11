import Duskcue.PlaybackSchema
import Duskcue.Trace

/-! The responses of the VOD lifecycle. A response is admitted under the registry's lock,
registers with the generation that it reads from and with its viewer, and is then
produced by a task of its own, through a queue of two chunks, to a body that a client
polls. Retirement and shutdown cancel queues from outside. A move is one call that takes
a lock, or one step of a producer. -/
namespace Duskcue.VodLifecycle
open Playback (Uuid)

abbrev Bytes := List UInt8

/-- Which `Generation` object an `Arc` points to. -/
abbrev Handle := Nat

def chunkSize : Nat := 64 * 1024
def playlistLimit : Nat := 1024 * 1024

inductive PlaybackError
  | lifecycleUnavailable | sessionNotFound
  deriving DecidableEq

/-! ## Queues and bodies -/

structure Queue where
  chunks : List Bytes
  done : Bool
  cancelled : Bool
  deriving DecidableEq

namespace Queue

def new : Queue := ⟨[], false, false⟩

def cancel (queue : Queue) : Queue := { queue with cancelled := true, chunks := [] }

def finish (queue : Queue) : Queue := { queue with done := true }

/-- One turn of the loop of `push`: refused, taken, or still waiting for room. -/
inductive Pushed
  | refused | waiting | taken (queue : Queue)

def push (queue : Queue) (bytes : Bytes) : Pushed :=
  if queue.cancelled then .refused
  else if queue.chunks.length < 2 then .taken { queue with chunks := queue.chunks ++ [bytes] }
  else .waiting

/-- The condition `drained` waits for. -/
def drained (queue : Queue) : Bool := queue.cancelled || (queue.done && queue.chunks.isEmpty)

end Queue

inductive End
  | clean | error
  deriving DecidableEq

/-- The body, with what it has yielded so far. -/
structure Output where
  delivered : Bytes
  ended : Option End
  dropped : Bool
  deriving DecidableEq

def Output.new : Output := ⟨[], none, false⟩

/-! ## One response -/

/-- What `prepare` made; a file with the bytes that it holds. -/
inductive Content
  | file (data : Bytes) (offset length : Nat)
  | bytes (data : Bytes)
  | empty
  deriving DecidableEq

/-- Where the task of a response stands. A file is read at a position, with so many bytes
to go; a part that was read waits for room in the queue. -/
inductive Phase
  | preparing
  | seeking (data : Bytes) (offset length : Nat)
  | reading (data : Bytes) (position remaining : Nat)
  | pushing (data part : Bytes) (position remaining : Nat)
  | slicing (rest : Bytes)
  | closing
  | draining
  | leavingGeneration
  | leavingViewer
  | leavingRegistry
  | leaving
  | ended
  | lost
  deriving DecidableEq

/-- Before `Completion::finish`. -/
def Phase.unfinished : Phase → Bool
  | .leavingGeneration | .leavingViewer | .leavingRegistry | .leaving | .ended | .lost => false
  | _ => true

/-- `ResponseEntry`; its queue is that of the response. -/
structure Entry where
  generation : Option Handle
  viewer : Option Handle
  deriving DecidableEq

structure Response where
  entry : Entry
  content : Option Content
  queue : Queue
  phase : Phase
  body : Output
  deriving DecidableEq

/-- What the outside answers a task: the end of `prepare` and whether its caller is still
there, the length of a read, an error, or nothing but the time to go on. -/
inductive Answer
  | prepared (content : Content) (heard : Bool)
  | failed
  | read (length : Nat)
  | go
  deriving DecidableEq

namespace Response

def cancel (response : Response) : Response := { response with queue := response.queue.cancel }

/-- A stream that returns an error. -/
def interrupt (response : Response) : Response := { response.cancel with phase := .closing }

/-- The start of `stream`. -/
def start (response : Response) : Content → Response
  | .file data offset length => { response with phase := .seeking data offset length }
  | .bytes data => if playlistLimit < data.length then response.interrupt else { response with phase := .slicing data }
  | .empty => { response with phase := .closing }

/-- `push`, and the phase after it. -/
def offer (response : Response) (part : Bytes) (after : Phase) : Response :=
  match response.queue.push part with
  | .refused => response.interrupt
  | .waiting => response
  | .taken queue => { response with queue, phase := after }

/-- A step of the task up to `drained`. -/
def produce (response : Response) (answer : Answer) : Response :=
  match response.phase, answer with
  | .preparing, .prepared content heard =>
    let told := if heard then response else response.cancel
    { told with content := some content }.start content
  | .preparing, .failed => response.interrupt
  | .seeking _ _ _, .failed => response.interrupt
  | .seeking data offset length, .go =>
    if response.queue.cancelled then response.interrupt else { response with phase := .reading data offset length }
  | .reading _ _ 0, _ => { response with phase := .closing }
  | .reading _ _ _, .failed => response.interrupt
  | .reading data position remaining, .read length =>
    let part := (data.drop position).take (min length (min remaining chunkSize))
    if response.queue.cancelled || part.isEmpty then response.interrupt
    else { response with phase := .pushing data part (position + part.length) (remaining - part.length) }
  | .pushing data part position remaining, .go => response.offer part (.reading data position remaining)
  | .slicing [], _ => { response with phase := .closing }
  | .slicing rest, .go => response.offer (rest.take chunkSize) (.slicing (rest.drop chunkSize))
  | .closing, _ => { response with queue := response.queue.finish, phase := .draining }
  | .draining, _ => if response.queue.drained then { response with phase := .leavingGeneration } else response
  | _, _ => response

/-- `poll_next`. -/
def poll (response : Response) : Response :=
  if response.body.dropped || response.body.ended.isSome then response
  else if response.queue.cancelled then { response with body := { response.body with ended := some .error } }
  else match response.queue.chunks with
    | bytes :: rest =>
      { response with
        queue := { response.queue with chunks := rest }
        body := { response.body with delivered := response.body.delivered ++ bytes } }
    | [] =>
      if response.queue.done then { response with body := { response.body with ended := some .clean } }
      else response

/-- `Output::drop`. -/
def dropBody (response : Response) : Response :=
  if response.body.dropped then response
  else { response.cancel with body := { response.body with dropped := true } }

end Response

/-! ## The registry and the gates -/

structure Gate where
  retired : Bool
  queues : Finset Uuid

def Gate.new : Gate := ⟨false, ∅⟩

/-- The registry, the permits that are left, the gates of all `Generation` objects, the
responses that were ever admitted, and the identifiers that were ever made. -/
structure State where
  closed : Bool
  generations : Table Uuid Handle
  responses : Table Uuid Entry
  slots : Nat
  permits : Nat
  gates : Table Handle Gate
  tasks : Table Uuid Response
  minted : Finset Uuid

namespace State

/-- `VodLifecycle::new`. -/
def new : State := ⟨false, .empty, .empty, 128, 128, .empty, .empty, ∅⟩

/-- An object that nobody has touched is as it was made. -/
def gate (s : State) (handle : Handle) : Gate := (s.gates.find handle).getD .new

def setGate (s : State) (handle : Handle) (gate : Gate) : State := { s with gates := s.gates.put handle gate }

/-- Cancel the queues with these identifiers. -/
def cancel (s : State) (ids : Finset Uuid) : State :=
  { s with tasks := s.tasks.amend fun id response => if id ∈ ids then response.cancel else response }

/-- `Generation::register`. -/
def register (s : State) (handle : Handle) (id : Uuid) : Except PlaybackError State :=
  let gate := s.gate handle
  if gate.retired then .error .sessionNotFound
  else .ok (s.setGate handle { gate with queues := insert id gate.queues })

/-- `Generation::remove`. -/
def remove (s : State) (handle : Handle) (id : Uuid) : State :=
  let gate := s.gate handle
  s.setGate handle { gate with queues := gate.queues.erase id }

/-- `Generation::retire`. -/
def retire (s : State) (handle : Handle) : State :=
  let gate := s.gate handle
  (s.setGate handle { gate with retired := true }).cancel gate.queues

/-- A call on an optional object. -/
def each (s : State) (handle : Option Handle) (act : State → Handle → State) : State :=
  match handle with
  | none => s
  | some handle => act s handle

/-- `begin_generation`, for a new object. -/
def beginGeneration (s : State) (id : Uuid) (handle : Handle) (cleanup : Bool) : State :=
  if (s.generations.find id).isSome || (s.gates.find handle).isSome then s
  else if s.closed && !cleanup then s
  else if s.slots = 0 then s
  else { s.setGate handle { Gate.new with retired := s.closed } with
    slots := s.slots - 1, generations := s.generations.put id handle }

/-- `finish_generation`. -/
def finishGeneration (s : State) (id : Uuid) : State :=
  if (s.generations.find id).isSome then { s with slots := s.slots + 1, generations := s.generations.remove id } else s

/-- The generation that a request names. -/
def lookup (s : State) (generation : Option Uuid) : Except PlaybackError (Option Handle) :=
  match generation with
  | none => .ok none
  | some id =>
    match s.generations.find id with
    | none => .error .sessionNotFound
    | some handle => .ok (some handle)

/-- `register` with an optional object. -/
def registerEach (s : State) (handle : Option Handle) (id : Uuid) : Except PlaybackError State :=
  match handle with
  | none => .ok s
  | some handle => s.register handle id

/-- `enqueue_response`: its answer, and the state it leaves. Each step ends it with what
was done before, save for the permit, which is dropped. -/
def enqueueResponse (s : State) (id : Uuid) (generation : Option Uuid) (viewer : Option Handle) :
    Except PlaybackError Unit × State :=
  if s.closed then (.error .lifecycleUnavailable, s)
  else if s.permits = 0 then (.error .lifecycleUnavailable, s)
  else match s.lookup generation with
    | .error error => (.error error, s)
    | .ok generation =>
      match s.registerEach generation id with
      | .error error => (.error error, s)
      | .ok registered =>
        match registered.registerEach viewer id with
        | .error error => (.error error, registered)
        | .ok registered =>
          let entry : Entry := { generation, viewer }
          (.ok (), { registered with
            permits := registered.permits - 1
            responses := registered.responses.put id entry
            tasks := registered.tasks.put id ⟨entry, none, .new, .preparing, .new⟩ })

/-- `close`. -/
def close (s : State) : State :=
  let retired := s.generations.records.foldl retire { s with closed := true }
  { retired with tasks := retired.tasks.amend fun id response =>
      if (retired.responses.find id).isSome then response.cancel else response }

/-- A change of one response. -/
def update (s : State) (id : Uuid) (change : Response → Response) : State :=
  match s.tasks.find id with
  | none => s
  | some response => { s with tasks := s.tasks.put id (change response) }

/-- A step of the task of a response. `Completion::finish` leaves the generation, the viewer
and the registry one after the other; the permit goes with the last of the task. -/
def step (s : State) (id : Uuid) (answer : Answer) : State :=
  match s.tasks.find id with
  | none => s
  | some response =>
    let move (s : State) (phase : Phase) : State := { s with tasks := s.tasks.put id { response with phase } }
    match response.phase with
    | .leavingGeneration => move (s.each response.entry.generation (·.remove · id)) .leavingViewer
    | .leavingViewer => move (s.each response.entry.viewer (·.remove · id)) .leavingRegistry
    | .leavingRegistry => move { s with responses := s.responses.remove id } .leaving
    | .leaving => move { s with permits := s.permits + 1 } .ended
    | _ => { s with tasks := s.tasks.put id (response.produce answer) }


/-- `Completion::drop` of a task that ends before its completion. -/
def abandon (s : State) (id : Uuid) : State :=
  match s.tasks.find id with
  | none => s
  | some response =>
    if response.phase.unfinished then
      let lost := { s with tasks := s.tasks.put id { response.cancel with phase := .lost } }
      (lost.each response.entry.generation retire).each response.entry.viewer retire
    else s

end State

inductive Move
  | beginGeneration (id : Uuid) (handle : Handle) (cleanup : Bool)
  | finishGeneration (id : Uuid)
  | enqueueResponse (id : Uuid) (generation : Option Uuid) (viewer : Option Handle)
  | retire (handle : Handle)
  | close
  | step (id : Uuid) (answer : Answer)
  | abandon (id : Uuid)
  | poll (id : Uuid)
  | dropBody (id : Uuid)

/-- A move. `Uuid::now_v7` does not make an identifier twice. -/
def next (s : State) : Move → State
  | .beginGeneration id handle cleanup => s.beginGeneration id handle cleanup
  | .finishGeneration id => s.finishGeneration id
  | .enqueueResponse id generation viewer =>
    if id ∈ s.minted then s
    else { (s.enqueueResponse id generation viewer).2 with minted := insert id s.minted }
  | .retire handle => s.retire handle
  | .close => s.close
  | .step id answer => s.step id answer
  | .abandon id => s.abandon id
  | .poll id => s.update id Response.poll
  | .dropBody id => s.update id Response.dropBody

def run (moves : List Move) : State := moves.foldl next .new

end Duskcue.VodLifecycle
