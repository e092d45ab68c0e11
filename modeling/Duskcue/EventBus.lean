import Duskcue.Channel
import Duskcue.PlaybackSchema

/-! The event bus and one event stream over it. A user's channel is a ring of the
latest events, which a reconnecting client is replayed from, and a broadcast
channel for the live ones. `publish` writes the two one after the other, under
no common lock, and `forwarding::run` reads them one after the other; a move is
one of these accesses, one poll of the forwarding task, or one poll of the
response body. -/
namespace Duskcue.Events
open Playback (Uuid)

/-- `CHANNEL_CAPACITY`. -/
def channelCapacity : Nat := 256

/-- `RING_BUFFER_CAPACITY`. -/
def ringBufferCapacity : Nat := 100

/-- `wire::CHANNEL_DEPTH`. -/
def channelDepth : Nat := 32

structure ServerEvent where
  id : Uuid
  eventType : String
  payload : String
  deriving DecidableEq

/-- The SSE events put on the wire: `wire::retry` and `wire::encode`. -/
inductive Frame
  | retry (milliseconds : Nat)
  | event (eventType data : String) (id : Uuid)
  deriving DecidableEq

def retry : Frame := .retry 5000

def encode (event : ServerEvent) : Frame := .event event.eventType event.payload event.id

/-! ## The bus -/

structure UserChannel where
  sender : Broadcast ServerEvent
  ring : List ServerEvent

def UserChannel.new : UserChannel := ⟨.channel channelCapacity, []⟩

abbrev EventBus := Table Uuid UserChannel

/-- `channel_for`: channels are created on first use and never removed. -/
def channelFor (bus : EventBus) (user : Uuid) : UserChannel := (bus.find user).getD .new

/-- The first half of `publish`, under the ring lock. -/
def pushRing (ring : List ServerEvent) (event : ServerEvent) : List ServerEvent :=
  (if ringBufferCapacity ≤ ring.length then ring.drop 1 else ring) ++ [event]

def publishRing (bus : EventBus) (user : Uuid) (event : ServerEvent) : EventBus :=
  let channel := channelFor bus user
  bus.put user { channel with ring := pushRing channel.ring event }

/-- The second half of `publish`. -/
def publishSend (bus : EventBus) (user : Uuid) (event : ServerEvent) : EventBus :=
  let channel := channelFor bus user
  bus.put user { channel with sender := channel.sender.send event }

/-- The loop of `replay_after`: whether the event was seen, and what follows it. -/
def scanRing (last : Uuid) : List ServerEvent → Bool × List ServerEvent → Bool × List ServerEvent
  | [], found => found
  | event :: ring, (seen, out) =>
    if seen then scanRing last ring (seen, out ++ [event])
    else scanRing last ring (event.id = last, out)

def replayAfter (bus : EventBus) (user last : Uuid) : List ServerEvent :=
  let ring := (channelFor bus user).ring
  let (seen, out) := scanRing last ring (false, [])
  if !seen then ring else out

/-- `matches_filter`. -/
def matchesFilter (eventType : String) (filter : Option (List String)) : Bool :=
  filter.all (·.contains eventType)

/-! ## One stream -/

/-- Where `forwarding::run` stands. A number is the position of its receiver. -/
inductive Task
  | starting
  | replayed (replay : List ServerEvent)
  | retrying (replay : List ServerEvent) (live : Nat)
  | replaying (replay : List ServerEvent) (live : Nat)
  | waiting (live : Nat)
  | sending (event : ServerEvent) (live : Nat)
  | returned

/-- The arguments of `forwarding::run`. -/
structure Connection where
  user : Uuid
  last : Option Uuid
  filter : Option (List String)

/-- The bus, the publishers between their two writes, and one stream. `queue` is
the channel between the task and the body, `body` what the body has yielded. -/
structure State where
  bus : EventBus
  publishing : Table Nat (Uuid × ServerEvent)
  stop : Bool
  closed : Bool
  task : Task
  queue : List Frame
  body : List Frame

inductive Move
  | push (publisher : Nat) (user : Uuid) (event : ServerEvent)
  | send (publisher : Nat)
  | replay
  | subscribe
  | poll
  | pollNext
  | cancel
  | drop
  deriving DecidableEq

/-- `forwarding::send`: it waits while the channel is full. -/
def State.send (s : State) (frame : Frame) (after : Task) : State :=
  if s.stop || s.closed then { s with task := .returned }
  else if s.queue.length < channelDepth then { s with queue := s.queue ++ [frame], task := after }
  else s

/-- One poll of the forwarding task after its subscription. -/
def State.poll (s : State) (c : Connection) : State :=
  match s.task with
  | .retrying replay live => s.send retry (.replaying replay live)
  | .replaying [] live => { s with task := .waiting live }
  | .replaying (event :: replay) live =>
    if s.stop || s.closed then { s with task := .returned }
    else if matchesFilter event.eventType c.filter then s.send (encode event) (.replaying replay live)
    else { s with task := .replaying replay live }
  | .waiting live =>
    if s.stop || s.closed then { s with task := .returned }
    else match (channelFor s.bus c.user).sender.recv live with
      | (.value event, live) =>
        if matchesFilter event.eventType c.filter then { s with task := .sending event live }
        else { s with task := .waiting live }
      | (.lagged _, live) => { s with task := .waiting live }
      | (.empty, _) => s
  | .sending event live => s.send (encode event) (.waiting live)
  | .starting | .replayed _ | .returned => s

/-- `Output::poll_next`: a cancelled body discards its queue and stays at its end. -/
def State.pollNext (s : State) : State :=
  if s.closed then s
  else if s.stop then { s with closed := true, queue := [] }
  else match s.queue with
    | [] => s
    | frame :: queue => { s with queue, body := s.body ++ [frame] }

def next (c : Connection) (s : State) : Move → State
  | .push publisher user event =>
    if (s.publishing.find publisher).isSome then s
    else { s with bus := publishRing s.bus user event
                  publishing := s.publishing.put publisher (user, event) }
  | .send publisher =>
    match s.publishing.find publisher with
    | none => s
    | some (user, event) =>
      { s with bus := publishSend s.bus user event, publishing := s.publishing.remove publisher }
  | .replay =>
    match s.task with
    | .starting =>
      if s.stop || s.closed then { s with task := .returned }
      else { s with task := .replayed (c.last.elim [] (replayAfter s.bus c.user)) }
    | _ => s
  | .subscribe =>
    match s.task with
    | .replayed replay =>
      { s with task := .retrying replay (channelFor s.bus c.user).sender.subscribe }
    | _ => s
  | .poll => s.poll c
  | .pollNext => s.pollNext
  | .cancel => { s with stop := true }
  | .drop => { s with stop := true, closed := true, queue := [] }

def run (c : Connection) (s : State) (moves : List Move) : State := moves.foldl (next c) s

/-- A new bus, and a stream whose task has been spawned. -/
def State.opened : State := ⟨.empty, .empty, false, false, .starting, [], []⟩

end Duskcue.Events
