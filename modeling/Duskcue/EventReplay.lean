import Duskcue.EventBus
import Duskcue.Trace
import Mathlib.Data.List.DropRight

/-! What a reconnecting client is sent. The forwarding task passes on, in order,
the events the ring held behind the client's last one when it was read, and
then the events broadcast since the subscription. `Reconnect` is a run that
reconnects within the ring, and `delivered_in_order` says what reaches the client
in it: each event once and in publish order, as long as no publication overlaps
the gap between the two reads or another publication. -/
namespace Duskcue.Events
open Playback (Uuid)
open scoped List

/-! ## The ring and the broadcast along a run -/

@[simp] theorem channelFor_put (bus : EventBus) (user other : Uuid) (channel : UserChannel) :
    channelFor (bus.put user channel) other = if other = user then channel else channelFor bus other := by
  unfold channelFor
  rw [Table.find_put]
  split <;> rfl

theorem channelFor_publishRing (bus : EventBus) (user other : Uuid) (event : ServerEvent) :
    channelFor (publishRing bus user event) other =
      if other = user then
        { channelFor bus user with ring := pushRing (channelFor bus user).ring event }
      else channelFor bus other := by
  simp [publishRing]

theorem channelFor_publishSend (bus : EventBus) (user other : Uuid) (event : ServerEvent) :
    channelFor (publishSend bus user event) other =
      if other = user then
        { channelFor bus user with sender := (channelFor bus user).sender.send event }
      else channelFor bus other := by
  simp [publishSend]

/-- The events a move puts in the user's ring. -/
def publishes (user : Uuid) (s : State) : Move → List ServerEvent
  | .push publisher owner event =>
    if (s.publishing.find publisher).isNone && owner = user then [event] else []
  | _ => []

/-- The events a move broadcasts to the user. -/
def sends (user : Uuid) (s : State) : Move → List ServerEvent
  | .send publisher =>
    match s.publishing.find publisher with
    | some (owner, event) => if owner = user then [event] else []
    | none => []
  | _ => []

/-- What a run publishes to the connection's user, in ring order. -/
def published (c : Connection) (s : State) (moves : List Move) : List ServerEvent :=
  emitted (next c) (publishes c.user) s moves

/-- What a run broadcasts to the connection's user. -/
def broadcast (c : Connection) (s : State) (moves : List Move) : List ServerEvent :=
  emitted (next c) (sends c.user) s moves

/-- The channel of the connection's user. -/
def State.channel (s : State) (c : Connection) : UserChannel := channelFor s.bus c.user

section
variable {c : Connection} {s : State} {move : Move} {moves : List Move}

theorem poll_bus (s : State) (c : Connection) : (s.poll c).bus = s.bus := by
  unfold State.poll State.send
  repeat' split
  all_goals rfl

theorem pollNext_bus (s : State) : s.pollNext.bus = s.bus := by
  unfold State.pollNext
  repeat' split
  all_goals rfl

/-- Each move writes the ring and the broadcast of the user as it says. -/
theorem channel_next :
    (next c s move).channel c =
      { sender := (sends c.user s move).foldl Broadcast.send (s.channel c).sender
        ring := (publishes c.user s move).foldl pushRing (s.channel c).ring } := by
  unfold State.channel
  cases move with
  | push publisher user =>
    by_cases busy : (s.publishing.find publisher).isSome
    · have taken : s.publishing.find publisher ≠ none := Option.isSome_iff_ne_none.mp busy
      simp [next, publishes, sends, busy, taken]
    · have free : s.publishing.find publisher = none := Option.not_isSome_iff_eq_none.mp busy
      by_cases mine : user = c.user
      · subst mine
        simp [next, publishes, sends, free, channelFor_publishRing]
      · simp [next, publishes, sends, free, mine, channelFor_publishRing, Ne.symm mine]
  | send publisher =>
    cases found : s.publishing.find publisher with
    | none => simp [next, publishes, sends, found]
    | some publication =>
      obtain ⟨user, event⟩ := publication
      by_cases mine : user = c.user
      · subst mine
        simp [next, publishes, sends, found, channelFor_publishSend]
      · simp [next, publishes, sends, found, mine, channelFor_publishSend, Ne.symm mine]
  | replay | subscribe =>
    simp only [next, publishes, sends]
    repeat' split
    all_goals rfl
  | poll => simp [next, publishes, sends, poll_bus]
  | pollNext => simp [next, publishes, sends, pollNext_bus]
  | cancel => rfl
  | drop => rfl

theorem sent_foldl (sender : Broadcast ServerEvent) (events : List ServerEvent) :
    events.foldl Broadcast.send sender = { sender with sent := sender.sent ++ events } := by
  induction events generalizing sender with
  | nil => simp
  | cons _ _ ih => simp [ih, Broadcast.send]

theorem sender_run : ((run c s moves).channel c).sender =
    { (s.channel c).sender with sent := (s.channel c).sender.sent ++ broadcast c s moves } := by
  induction moves generalizing s with
  | nil => simp [run, broadcast, emitted]
  | cons move moves ih =>
    have later : (run c s (move :: moves)).channel c = (run c (next c s move) moves).channel c := rfl
    rw [later, ih, channel_next]
    simp [sent_foldl, broadcast, emitted]

theorem pushRing_rtake (history : List ServerEvent) (event : ServerEvent) :
    pushRing (history.rtake ringBufferCapacity) event = (history ++ [event]).rtake ringBufferCapacity := by
  unfold pushRing List.rtake
  simp only [List.length_drop, List.length_append, List.length_singleton]
  split
  · rename_i full
    rw [List.drop_drop, List.drop_append_of_le_length (by unfold ringBufferCapacity; omega)]
    congr 2
    unfold ringBufferCapacity at full ⊢
    omega
  · rename_i room
    unfold ringBufferCapacity at room ⊢
    rw [show history.length - 100 = 0 by omega, show history.length + 1 - 100 = 0 by omega]
    rfl

theorem ring_run {history : List ServerEvent} (held : (s.channel c).ring = history.rtake ringBufferCapacity) :
    ((run c s moves).channel c).ring = (history ++ published c s moves).rtake ringBufferCapacity := by
  induction moves generalizing s history with
  | nil => simpa [run, published, emitted] using held
  | cons move moves ih =>
    have pushed : ((next c s move).channel c).ring =
        (history ++ publishes c.user s move).rtake ringBufferCapacity := by
      rw [channel_next, held]
      cases move with
      | push =>
        simp only [publishes]
        split
        · simp [pushRing_rtake]
        · simp
      | _ => simp [publishes]
    have later := ih pushed
    rw [List.append_assoc] at later
    exact later

end

/-! ## Replay -/

theorem scanRing_seen (last : Uuid) (ring out : List ServerEvent) :
    scanRing last ring (true, out) = (true, out ++ ring) := by
  induction ring generalizing out with
  | nil => simp [scanRing]
  | cons _ _ ih => simp [scanRing, ih]

theorem scanRing_finds (last : ServerEvent) (front back : List ServerEvent)
    (first : ∀ event ∈ front, event.id ≠ last.id) :
    scanRing last.id (front ++ last :: back) (false, []) = (true, back) := by
  induction front with
  | nil => simp [scanRing, scanRing_seen]
  | cons event _ ih =>
    have other : event.id ≠ last.id := first event (by simp)
    simp only [List.cons_append, scanRing, other, decide_false, Bool.false_eq_true, if_false]
    exact ih fun earlier member => first earlier (by simp [member])

theorem scanRing_misses (last : Uuid) (ring : List ServerEvent) (other : ∀ event ∈ ring, event.id ≠ last) :
    scanRing last ring (false, []) = (false, []) := by
  induction ring with
  | nil => rfl
  | cons _ _ ih =>
    obtain ⟨here, later⟩ := List.forall_mem_cons.mp other
    simpa [scanRing, here] using ih later

/-- Replay after an event the ring still holds gives the events behind it. -/
theorem replayAfter_finds (ring : (channelFor bus user).ring = (front ++ last :: back).rtake ringBufferCapacity)
    (first : ∀ event ∈ front, event.id ≠ last.id) (recent : back.length < ringBufferCapacity) :
    replayAfter bus user last.id = back := by
  have kept : (front ++ last :: back).rtake ringBufferCapacity =
      front.drop ((front ++ last :: back).length - ringBufferCapacity) ++ last :: back := by
    unfold List.rtake
    rw [List.drop_append_of_le_length]
    simp only [List.length_append, List.length_cons]
    omega
  have scanned := scanRing_finds last _ back fun event member =>
    first event (List.mem_of_mem_drop (i := (front ++ last :: back).length - ringBufferCapacity) member)
  rw [← kept, ← ring] at scanned
  simp [replayAfter, scanned]

/-! ## Forwarding -/

/-- The frames of the events the client asked for. -/
def shown (c : Connection) (events : List ServerEvent) : List Frame :=
  (events.filter fun event => matchesFilter event.eventType c.filter).map encode

@[simp] theorem shown_append (c : Connection) (left right : List ServerEvent) :
    shown c (left ++ right) = shown c left ++ shown c right := by
  simp [shown]

theorem shown_cons (c : Connection) (event : ServerEvent) (events : List ServerEvent) :
    shown c (event :: events) =
      (if matchesFilter event.eventType c.filter then [encode event] else []) ++ shown c events := by
  unfold shown
  rw [List.filter_cons]
  split <;> simp

theorem shown_sublist (within : events <+ more) : shown c events <+ shown c more := (within.filter _).map _

/-- What the task has passed on. -/
def State.delivered (s : State) : List Frame := s.body ++ s.queue

/-- What the task has yet to pass on. -/
def State.awaiting (s : State) (c : Connection) : List Frame :=
  match s.task with
  | .retrying replay live => retry :: shown c (replay ++ (s.channel c).sender.unread live)
  | .replaying replay live => shown c (replay ++ (s.channel c).sender.unread live)
  | .waiting live => shown c ((s.channel c).sender.unread live)
  | .sending event live => encode event :: shown c ((s.channel c).sender.unread live)
  | .starting | .replayed _ | .returned => []

/-- The position of the task's receiver. -/
def Task.position : Task → Option Nat
  | .retrying _ live | .replaying _ live | .waiting live | .sending _ live => some live
  | .starting | .replayed _ | .returned => none

/-- The task has its receiver, within the broadcast. -/
def State.Subscribed (s : State) (c : Connection) : Prop :=
  ∃ live, s.task.position = some live ∧ live ≤ (s.channel c).sender.sent.length

/-- How many events the task is behind. -/
def State.lag (s : State) (c : Connection) : Nat :=
  s.task.position.elim 0 (s.channel c).sender.lag

section
variable {c : Connection} {s s' : State} {move : Move} {moves : List Move}

/-- A broadcast reaches a subscribed task behind what it has yet to pass on. -/
theorem awaiting_broadcast (subscribed : s.Subscribed c) (same : s'.task = s.task)
    (sent : (s'.channel c).sender.sent = (s.channel c).sender.sent ++ events) :
    s'.awaiting c = s.awaiting c ++ shown c events := by
  obtain ⟨live, position, within⟩ := subscribed
  have unread : (s'.channel c).sender.unread live = (s.channel c).sender.unread live ++ events := by
    unfold Broadcast.unread
    rw [sent, List.drop_append_of_le_length within]
  unfold State.awaiting
  rw [same]
  cases task : s.task with
  | retrying | replaying | waiting | sending =>
    rw [task] at position
    cases position
    simp [unread]
  | starting | replayed | returned =>
    rw [task] at position
    cases position

/-- A stream that neither the server nor the client has ended. -/
def State.Open (s : State) : Prop := s.stop = false ∧ s.closed = false

theorem State.Open.continues (opened : s.Open) : ¬ (s.stop || s.closed) = true := by
  simp [opened.1, opened.2]

/-- Passing a frame on moves it from what is awaited to what is delivered. -/
theorem send_passes (opened : s.Open) (awaited : s.awaiting c = frame :: rest)
    (behind : ({ s with task := after } : State).awaiting c = rest) :
    (s.send frame after).delivered ++ (s.send frame after).awaiting c = s.delivered ++ s.awaiting c := by
  unfold State.send
  rw [if_neg opened.continues]
  by_cases room : s.queue.length < channelDepth
  · have same : ({ s with queue := s.queue ++ [frame], task := after } : State).awaiting c = rest := behind
    rw [if_pos room, same, awaited]
    simp [State.delivered]
  · rw [if_neg room]

theorem send_subscribed {after : Task} (opened : s.Open) (subscribed : s.Subscribed c)
    (kept : after.position = s.task.position) :
    (s.send frame after).Open ∧ (s.send frame after).Subscribed c := by
  obtain ⟨live, position, within⟩ := subscribed
  unfold State.send
  rw [if_neg opened.continues]
  split
  · exact ⟨opened, live, kept.trans position, within⟩
  · exact ⟨opened, live, position, within⟩

/-- What one poll of the task does: it waits, ends, passes a frame on, or goes on to the next event, past those it
is too late for. -/
inductive Polled (c : Connection) (s : State) : State → Prop
  | idle : Polled c s s
  | ends (ended : ¬ s.Open) : Polled c s { s with task := .returned }
  | sends (stays : after.position = s.task.position) (awaited : s.awaiting c = frame :: rest)
      (behind : ({ s with task := after } : State).awaiting c = rest) : Polled c s (s.send frame after)
  | moves (fewer : ({ s with task := after } : State).awaiting c <+ s.awaiting c)
      (near : s.Subscribed c → s.lag c ≤ (s.channel c).sender.capacity →
        ({ s with task := after } : State).awaiting c = s.awaiting c ∧ ({ s with task := after } : State).Subscribed c) :
      Polled c s { s with task := after }

theorem polled : Polled c s (s.poll c) := by
  have ended (stop : (s.stop || s.closed) = true) : ¬ s.Open := fun opened => opened.continues stop
  -- A move that keeps what is awaited.
  have keeps {after : Task} (same : ({ s with task := after } : State).awaiting c = s.awaiting c)
      (stays : s.Subscribed c → ({ s with task := after } : State).Subscribed c) : Polled c s { s with task := after } :=
    .moves (same ▸ .refl _) fun subscribed _ => ⟨same, stays subscribed⟩
  have stays {after : Task} (position : after.position = s.task.position) (subscribed : s.Subscribed c) :
      ({ s with task := after } : State).Subscribed c := by
    rwa [State.Subscribed, ← position] at subscribed
  unfold State.poll
  cases task : s.task with
  | starting | replayed | returned => exact .idle
  | retrying | sending => exact .sends (by rw [task]; rfl) (by simp only [State.awaiting, task]; rfl) rfl
  | replaying replay =>
    cases replay with
    | nil => exact keeps (by simp [State.awaiting, task, State.channel]) (stays (by rw [task]; rfl))
    | cons =>
      dsimp only
      split
      · exact .ends (ended ‹_›)
      · split
        · exact .sends (by rw [task]; rfl) (by simp [State.awaiting, shown_cons, State.channel, *]) rfl
        · exact keeps (by simp [State.awaiting, shown_cons, State.channel, *]) (stays (by rw [task]; rfl))
  | waiting live =>
    dsimp only
    split
    · exact .ends (ended ‹_›)
    · have held : s.awaiting c = shown c ((channelFor s.bus c.user).sender.unread live) := by
        rw [State.awaiting, task]
        rfl
      by_cases near : (channelFor s.bus c.user).sender.lag live ≤ (channelFor s.bus c.user).sender.capacity
      · rcases Broadcast.recv_cases near with ⟨event, received, inside, first⟩ | received
        · rw [received]
          dsimp only
          split <;> refine keeps ?_ fun _ => ⟨live + 1, rfl, inside⟩ <;>
            simp [State.awaiting, shown_cons, State.channel, *]
        · rw [received]
          exact .idle
      · have received : (channelFor s.bus c.user).sender.recv live = _ := if_pos (Nat.lt_of_not_le near)
        rw [received]
        refine .moves ?_ fun _ within => absurd within (by simpa [State.lag, task, Task.position, State.channel] using near)
        rw [held]
        refine shown_sublist (List.drop_sublist_drop_left _ ?_)
        unfold Broadcast.lag at near
        omega

theorem poll_passes (opened : s.Open) (subscribed : s.Subscribed c)
    (sized : (s.channel c).sender.capacity = channelCapacity) (keeps : s.lag c ≤ channelCapacity) :
    (s.poll c).delivered ++ (s.poll c).awaiting c = s.delivered ++ s.awaiting c ∧
      (s.poll c).Open ∧ (s.poll c).Subscribed c := by
  have polled := polled (c := c) (s := s)
  generalize s.poll c = s' at polled ⊢
  cases polled with
  | idle => exact ⟨rfl, opened, subscribed⟩
  | ends ended => exact absurd opened ended
  | sends stays awaited behind =>
    exact ⟨send_passes opened awaited behind, send_subscribed opened subscribed stays⟩
  | moves _ near =>
    obtain ⟨same, stays⟩ := near subscribed (sized ▸ keeps)
    exact ⟨congrArg (s.delivered ++ ·) same, opened, stays⟩

/-- The response body takes its frames from the queue in order. -/
theorem pollNext_passes (opened : s.Open) :
    s.pollNext.delivered = s.delivered ∧ s.pollNext.Open ∧ s.pollNext.task = s.task := by
  unfold State.pollNext
  rw [if_neg (by simp [opened.2]), if_neg (by simp [opened.1])]
  split
  · exact ⟨rfl, opened, rfl⟩
  · rename_i frame queue shape
    refine ⟨?_, opened, rfl⟩
    simp [State.delivered, shape]

theorem sent_next : ((next c s move).channel c).sender =
    { (s.channel c).sender with sent := (s.channel c).sender.sent ++ sends c.user s move } := by
  rw [channel_next, sent_foldl]

theorem subscribed_next (subscribed : s.Subscribed c) (same : (next c s move).task = s.task) :
    (next c s move).Subscribed c := by
  obtain ⟨live, position, within⟩ := subscribed
  refine ⟨live, by rw [same, position], ?_⟩
  rw [sent_next]
  simp only [List.length_append]
  omega

/-- A move other than a poll of the task leaves it where it stands. -/
theorem task_next (subscribed : s.Subscribed c) (other : move ≠ .poll) : (next c s move).task = s.task := by
  obtain ⟨live, position, -⟩ := subscribed
  cases move with
  | replay | subscribe =>
    cases task : s.task with
    | starting | replayed =>
      rw [task] at position
      cases position
    | _ => simp [next, task]
  | poll => cases other rfl
  | push | send | pollNext =>
    simp only [next, State.pollNext]
    repeat' split
    all_goals rfl
  | cancel | drop => rfl

/-- A move in an open stream keeps what is delivered in front of what is awaited, and
adds behind it what it broadcasts. -/
theorem next_passes (opened : s.Open) (running : (next c s move).stop = false)
    (subscribed : s.Subscribed c) (sized : (s.channel c).sender.capacity = channelCapacity)
    (keeps : s.lag c ≤ channelCapacity) :
    (next c s move).delivered ++ (next c s move).awaiting c =
        s.delivered ++ s.awaiting c ++ shown c (sends c.user s move) ∧
      (next c s move).Open ∧ (next c s move).Subscribed c := by
  by_cases polls : move = .poll
  · subst polls
    obtain ⟨passed, stays, still⟩ := poll_passes opened subscribed sized keeps
    exact ⟨by simpa [next, sends, shown] using passed, stays, still⟩
  · have same := task_next (c := c) subscribed polls
    have awaited := awaiting_broadcast subscribed same (by rw [sent_next])
    have kept : (next c s move).delivered = s.delivered ∧ (next c s move).Open := by
      cases move with
      | push | send | replay | subscribe =>
        simp only [next]
        repeat' split
        all_goals exact ⟨rfl, opened⟩
      | poll => cases polls rfl
      | pollNext => exact ⟨(pollNext_passes opened).1, (pollNext_passes opened).2.1⟩
      | cancel | drop => cases running
    refine ⟨?_, kept.2, subscribed_next subscribed same⟩
    rw [kept.1, awaited, List.append_assoc]

theorem stop_next (stopped : s.stop = true) : (next c s move).stop = true := by
  cases move with
  | cancel | drop => rfl
  | push | send | replay | subscribe | poll | pollNext =>
    simp only [next, State.poll, State.send, State.pollNext]
    repeat' split
    all_goals exact stopped

/-- A stream open at the end of a run was open before. -/
theorem stop_run (running : (run c s moves).stop = false) : s.stop = false := by
  induction moves generalizing s with
  | nil => exact running
  | cons move moves ih =>
    have later : (next c s move).stop = false := ih running
    by_contra stopped
    rw [stop_next (by simpa using stopped)] at later
    cases later

/-- While the stream is open and the task keeps up, the task passes on what it had
before it and what is broadcast, in this order. -/
theorem run_passes (opened : s.Open) (running : (run c s moves).stop = false)
    (subscribed : s.Subscribed c) (sized : (s.channel c).sender.capacity = channelCapacity)
    (keeps : Throughout (next c) (fun s _ => s.lag c ≤ channelCapacity) s moves) :
    (run c s moves).delivered ++ (run c s moves).awaiting c =
      s.delivered ++ s.awaiting c ++ shown c (broadcast c s moves) := by
  induction moves generalizing s with
  | nil => simp [run, broadcast, emitted, shown]
  | cons move moves ih =>
    have going : (next c s move).stop = false := stop_run (show (run c (next c s move) moves).stop = false from running)
    obtain ⟨passed, stays, still⟩ := next_passes opened going subscribed sized keeps.1
    have later := ih stays running still (by rw [sent_next, sized]) keeps.2
    rw [passed] at later
    simpa [run, broadcast, emitted] using later

/-! ## Publications in flight -/

/-- The publications to the user between their two writes, when there is one at most. -/
def State.InFlight (s : State) (c : Connection) (events : List ServerEvent) : Prop :=
  (events = [] ∧ ∀ publisher user event, s.publishing.find publisher = some (user, event) → user ≠ c.user) ∨
    ∃ publisher event, events = [event] ∧ s.publishing.find publisher = some (c.user, event) ∧
      ∀ other event, s.publishing.find other = some (c.user, event) → other = publisher

/-- A push to the user finds no other publication to the user in flight. -/
def Uncontended (c : Connection) (s : State) : Move → Prop
  | .push _ user _ => user = c.user → s.InFlight c []
  | _ => True

theorem InFlight.congr (same : s'.publishing = s.publishing)
    (flight : s.InFlight c events) : s'.InFlight c events := by
  unfold State.InFlight
  rw [same]
  exact flight

theorem publishing_next (silent : ∀ publisher, move ≠ .send publisher)
    (other : ∀ publisher user event, move ≠ .push publisher user event) :
    (next c s move).publishing = s.publishing := by
  cases move with
  | push => cases other _ _ _ rfl
  | send => cases silent _ rfl
  | replay | subscribe | poll | pollNext =>
    simp only [next, State.poll, State.send, State.pollNext]
    repeat' split
    all_goals rfl
  | cancel | drop => rfl

theorem InFlight.pushed (flight : s.InFlight c events) (publisher : Nat)
    (event : ServerEvent) (alone : user = c.user → s.InFlight c []) :
    ∃ later, (next c s (.push publisher user event)).InFlight c later ∧
      events ++ publishes c.user s (.push publisher user event) = later := by
  cases found : s.publishing.find publisher with
  | some => exact ⟨events, by simpa [next, found] using flight, by simp [publishes, found]⟩
  | none =>
    have after : (next c s (.push publisher user event)).publishing =
        s.publishing.put publisher (user, event) := by simp [next, found]
    by_cases mine : user = c.user
    · subst mine
      rcases alone rfl with ⟨-, clear⟩ | ⟨_, _, absurd, -⟩
      · rcases flight with ⟨rfl, -⟩ | ⟨_, _, _, held, -⟩
        · refine ⟨[event], .inr ⟨publisher, event, rfl, ?_, ?_⟩, by simp [publishes, found]⟩
          · rw [after, Table.find_put_self]
          · intro other event held
            by_contra distinct
            rw [after, Table.find_put_ne distinct] at held
            exact clear _ _ _ held rfl
        · cases clear _ _ _ held rfl
      · cases absurd
    · refine ⟨events, ?_, by simp [publishes, mine]⟩
      rcases flight with ⟨rfl, clear⟩ | ⟨holder, first, rfl, held, only⟩
      · refine .inl ⟨rfl, fun other owner event held => ?_⟩
        rw [after, Table.find_put] at held
        split at held
        · cases held
          exact mine
        · exact clear _ _ _ held
      · have apart : holder ≠ publisher := by
          rintro rfl
          cases found.symm.trans held
        refine .inr ⟨holder, first, rfl, ?_, fun other event held => ?_⟩
        · rw [after, Table.find_put_ne apart, held]
        · rw [after, Table.find_put] at held
          split at held
          · cases held
            cases mine rfl
          · exact only _ _ held

theorem InFlight.sent (flight : s.InFlight c events) (publisher : Nat) :
    ∃ later, (next c s (.send publisher)).InFlight c later ∧
      events = sends c.user s (.send publisher) ++ later := by
  cases found : s.publishing.find publisher with
  | none => exact ⟨events, by simpa [next, found] using flight, by simp [sends, found]⟩
  | some publication =>
    obtain ⟨user, event⟩ := publication
    have after : (next c s (.send publisher)).publishing = s.publishing.remove publisher := by
      simp [next, found]
    have kept : ∀ {other : Nat} {entry : Uuid × ServerEvent},
        (next c s (.send publisher)).publishing.find other = some entry →
          other ≠ publisher ∧ s.publishing.find other = some entry := by
      intro other entry held
      rw [after, Table.find_remove] at held
      split at held
      · cases held
      · exact ⟨‹_›, held⟩
    rcases flight with ⟨rfl, clear⟩ | ⟨holder, first, rfl, held, only⟩
    · have foreign := clear _ _ _ found
      exact ⟨[], .inl ⟨rfl, fun other owner event held => clear _ _ _ (kept held).2⟩,
        by simp [sends, found, foreign]⟩
    · by_cases mine : user = c.user
      · subst mine
        have same := only _ _ found
        subst same
        cases found.symm.trans held
        refine ⟨[], .inl ⟨rfl, ?_⟩, by simp [sends, found]⟩
        rintro other owner event held rfl
        exact (kept held).1 (only _ _ (kept held).2)
      · have apart : holder ≠ publisher := by
          rintro rfl
          cases found.symm.trans held
          exact mine rfl
        refine ⟨[first], .inr ⟨holder, first, rfl, ?_, fun other event held => only _ _ (kept held).2⟩,
          by simp [sends, found, mine]⟩
        rw [after, Table.find_remove, if_neg apart, held]

/-- Publications that do not contend are broadcast in the order they are published in. -/
theorem InFlight.next (flight : s.InFlight c events) (alone : Uncontended c s move) :
    ∃ later, (next c s move).InFlight c later ∧
      events ++ publishes c.user s move = sends c.user s move ++ later := by
  cases move with
  | push publisher _ event =>
    obtain ⟨later, flight, shape⟩ := InFlight.pushed flight publisher event alone
    exact ⟨later, flight, by simpa [sends] using shape⟩
  | send publisher =>
    obtain ⟨later, flight, shape⟩ := InFlight.sent flight publisher
    exact ⟨later, flight, by simpa [publishes] using shape⟩
  | replay | subscribe | poll | pollNext | cancel | drop =>
    refine ⟨events, InFlight.congr (publishing_next ?_ ?_) flight, by simp [publishes, sends]⟩
    · simp
    · simp

theorem InFlight.run (flight : s.InFlight c events) (alone : Throughout (Events.next c) (Uncontended c) s moves) :
    ∃ later, (Events.run c s moves).InFlight c later ∧
      events ++ published c s moves = broadcast c s moves ++ later := by
  induction moves generalizing s events with
  | nil => exact ⟨events, flight, by simp [published, broadcast, emitted]⟩
  | cons move moves ih =>
    obtain ⟨middle, held, first⟩ := InFlight.next flight alone.1
    obtain ⟨later, final, rest⟩ := ih held alone.2
    refine ⟨later, final, ?_⟩
    simp only [published, broadcast, emitted] at rest ⊢
    rw [← List.append_assoc, first, List.append_assoc, rest, List.append_assoc]

/-- While nothing is published, nothing gets in flight. -/
theorem InFlight.quiet (flight : s.InFlight c []) (moves : List Move) (silent : published c s moves = []) :
    (Events.run c s moves).InFlight c [] := by
  induction moves generalizing s with
  | nil => exact flight
  | cons move moves ih =>
    obtain ⟨first, rest⟩ := List.append_eq_nil_iff.mp silent
    have alone : Uncontended c s move := by
      cases move with
      | push => exact fun _ => flight
      | _ => trivial
    obtain ⟨later, held, shape⟩ := InFlight.next flight alone
    rw [first, List.nil_append] at shape
    obtain ⟨-, rfl⟩ := List.append_eq_nil_iff.mp shape.symm
    exact ih held rest

/-! ## Reconnecting -/

/-- A task that has yet to read the ring or to subscribe has passed nothing on. -/
structure State.Preparing (s : State) (task : Task) : Prop where
  task : s.task = task
  body : s.body = []
  queue : s.queue = []

/-- The move that ends a preparation. -/
def Task.ends : Task → Move → Prop
  | .starting, .replay | .replayed _, .subscribe => True
  | .starting, _ | .replayed _, _ => False
  | _, _ => True

theorem Preparing.next (preparing : s.Preparing task) (stays : ¬ task.ends move) :
    (next c s move).Preparing task := by
  obtain ⟨rfl, body, queue⟩ := preparing
  cases move with
  | replay | subscribe | poll =>
    cases task : s.task <;> simp only [task, Task.ends, not_true_eq_false] at stays <;>
      exact ⟨by simp [Events.next, State.poll, task], by simp [Events.next, State.poll, task, body],
        by simp [Events.next, State.poll, task, queue]⟩
  | push | send | pollNext =>
    simp only [Events.next, State.pollNext, queue]
    repeat' split
    all_goals first | exact ⟨rfl, body, queue⟩ | exact ⟨rfl, body, rfl⟩
  | cancel => exact ⟨rfl, body, queue⟩
  | drop => exact ⟨rfl, body, rfl⟩

theorem Preparing.run (preparing : s.Preparing task) (stays : ∀ move ∈ moves, ¬ task.ends move) :
    (Events.run c s moves).Preparing task := by
  induction moves generalizing s with
  | nil => exact preparing
  | cons move moves ih =>
    exact ih (Preparing.next preparing (stays move (by simp))) fun later member => stays later (by simp [member])

/-- The body goes only once the stream is stopped. -/
theorem closed_stop (moves : List Move) (held : s.closed = true → s.stop = true) :
    (run c s moves).closed = true → (run c s moves).stop = true := by
  induction moves generalizing s with
  | nil => exact held
  | cons move _ ih =>
    refine ih ?_
    cases move with
    | cancel | drop => exact fun _ => rfl
    | push | send | replay | subscribe | poll | pollNext =>
      simp only [Events.next, State.poll, State.send, State.pollNext]
      repeat' split
      all_goals first | exact held | exact fun _ => ‹_›

/-- A run in which a client reconnects behind an event the ring still holds: the task
reads the ring after `before`, subscribes after `between`, and the stream is still open,
its receiver never having fallen out of the channel, after `after`. -/
structure Reconnect (c : Connection) (before between after : List Move) (front back : List ServerEvent)
    (last : ServerEvent) : Prop where
  named : c.last = some last.id
  unfiltered : c.filter = none
  history : published c .opened before = front ++ last :: back
  fresh : ∀ event ∈ front, event.id ≠ last.id
  recent : back.length < ringBufferCapacity
  unread : Move.replay ∉ before
  unsubscribed : Move.subscribe ∉ between
  running : (run c .opened (before ++ .replay :: between ++ .subscribe :: after)).stop = false
  keeps : Throughout (Events.next c) (fun s _ => s.lag c ≤ channelCapacity)
    (run c .opened (before ++ .replay :: between ++ [.subscribe])) after

theorem run_append (left right : List Move) : run c s (left ++ right) = run c (run c s left) right :=
  List.foldl_append

theorem shown_unfiltered (unfiltered : c.filter = none) (events : List ServerEvent) :
    shown c events = events.map encode := by
  simp [shown, matchesFilter, unfiltered]

section
variable {before between after : List Move} {front back : List ServerEvent} {last : ServerEvent}

/-- Reading the ring: the task holds the events behind the last one. -/
theorem Reconnect.replays (reconnect : Reconnect c before between after front back last) :
    (run c .opened (before ++ .replay :: between)).Preparing (.replayed back) := by
  have begun : (run c .opened before).Preparing .starting := by
    refine Preparing.run ⟨rfl, rfl, rfl⟩ fun move member => ?_
    cases move with
    | replay => cases reconnect.unread member
    | _ => exact id
  have going : (run c .opened before).stop = false := by
    have running := reconnect.running
    rw [List.append_assoc, run_append] at running
    exact stop_run running
  have kept : (run c .opened before).closed = false := by
    by_contra closed
    have stopped := closed_stop (c := c) (s := .opened) before (by simp [State.opened]) (by simpa using closed)
    rw [going] at stopped
    cases stopped
  have ring : ((run c .opened before).channel c).ring = (front ++ last :: back).rtake ringBufferCapacity := by
    have fresh : (State.opened.channel c).ring = ([] : List ServerEvent).rtake ringBufferCapacity := rfl
    rw [ring_run fresh, reconnect.history]
    rfl
  have replay : replayAfter (run c .opened before).bus c.user last.id = back :=
    replayAfter_finds ring reconnect.fresh reconnect.recent
  rw [run_append]
  refine Preparing.run (s := Events.next c (run c .opened before) .replay) ?_ fun move member => ?_
  · refine ⟨?_, ?_, ?_⟩
    · simp [Events.next, begun.task, going, kept, reconnect.named, replay]
    · simp [Events.next, begun.task, going, kept, begun.body]
    · simp [Events.next, begun.task, going, kept, begun.queue]
  · cases move with
    | subscribe => cases reconnect.unsubscribed member
    | _ => exact id

/-- Subscribing: the task has the replay before it, and nothing of the broadcast yet. -/
theorem Reconnect.subscribes (reconnect : Reconnect c before between after front back last) :
    (run c .opened (before ++ .replay :: between ++ [.subscribe])).Open ∧
      (run c .opened (before ++ .replay :: between ++ [.subscribe])).Subscribed c ∧
      (run c .opened (before ++ .replay :: between ++ [.subscribe])).delivered = [] ∧
      (run c .opened (before ++ .replay :: between ++ [.subscribe])).awaiting c = retry :: shown c back := by
  have prepared := reconnect.replays
  have going : (run c .opened (before ++ .replay :: between ++ [.subscribe])).stop = false := by
    have running := reconnect.running
    rw [List.append_cons, run_append] at running
    exact stop_run running
  have kept := closed_stop (c := c) (s := .opened) (before ++ .replay :: between ++ [.subscribe])
    (by simp [State.opened])
  rw [run_append] at going kept ⊢
  generalize run c .opened (before ++ .replay :: between) = s at prepared going kept
  have subscribed : run c s [.subscribe] =
      { s with task := .retrying back (s.channel c).sender.subscribe } := by
    simp [Events.run, Events.next, prepared.task, State.channel]
  refine ⟨⟨going, ?_⟩, ?_, ?_, ?_⟩
  · by_contra closed
    rw [kept (by simpa using closed)] at going
    cases going
  · rw [subscribed]
    exact ⟨_, rfl, Nat.le_refl _⟩
  · simp [subscribed, State.delivered, prepared.body, prepared.queue]
  · rw [subscribed]
    have nothing : (s.channel c).sender.unread (s.channel c).sender.subscribe = [] :=
      Broadcast.unread_subscribe
    simp only [State.awaiting]
    rw [show ({ s with task := .retrying back (s.channel c).sender.subscribe } : State).channel c =
      s.channel c from rfl, nothing, List.append_nil]

/-- A reconnecting client is sent the events the ring held behind its last one, then the
events broadcast since the subscription. When no publication to the user was in flight at
the replay, none began before the subscription and none overlaps another since, these
are the events published behind the last one, once each and in publish order, up to the
one still in flight. -/
theorem delivered_in_order (reconnect : Reconnect c before between after front back last) :
    let start := run c .opened (before ++ .replay :: between ++ [.subscribe])
    let s := run c .opened (before ++ .replay :: between ++ .subscribe :: after)
    s.delivered ++ s.awaiting c = retry :: (back ++ broadcast c start after).map encode ∧
      ((run c .opened before).InFlight c [] → published c (run c .opened before) (.replay :: between) = [] →
        Throughout (Events.next c) (Uncontended c) start after →
        ∃ later, s.InFlight c later ∧
          s.delivered ++ s.awaiting c ++ later.map encode =
            retry :: (back ++ published c start after).map encode) := by
  intro start s
  obtain ⟨opened, subscribed, empty, awaited⟩ := reconnect.subscribes
  have split : s = run c start after := by
    change run c .opened _ = run c (run c .opened _) after
    rw [← run_append, ← List.append_cons]
  have sized : (start.channel c).sender.capacity = channelCapacity := by
    change ((run c .opened _).channel c).sender.capacity = channelCapacity
    rw [sender_run]
    rfl
  have running : (run c start after).stop = false := split ▸ reconnect.running
  have passed := run_passes opened running subscribed sized reconnect.keeps
  rw [empty, awaited, List.nil_append, shown_unfiltered reconnect.unfiltered,
    shown_unfiltered reconnect.unfiltered, ← split] at passed
  have delivered : s.delivered ++ s.awaiting c = retry :: (back ++ broadcast c start after).map encode := by
    rw [passed, List.map_append, List.cons_append]
  refine ⟨delivered, fun still silent alone => ?_⟩
  have flight : start.InFlight c [] := by
    have gap := InFlight.quiet still (.replay :: between ++ [.subscribe]) ?_
    · rw [← run_append, ← List.append_assoc] at gap
      exact gap
    · rw [published, emitted_append]
      rw [published] at silent
      rw [silent]
      rfl
  obtain ⟨later, final, order⟩ := InFlight.run flight alone
  rw [List.nil_append] at order
  refine ⟨later, split ▸ final, ?_⟩
  rw [delivered, order]
  simp

end
end

/-! ## Any run -/

/-- In every run a client is replayed the events behind its last one or, where that is not among the latest, all of
these. -/
theorem replay_recent (c : Connection) (moves : List Move) (last : Uuid) :
    let replay := replayAfter (run c .opened moves).bus c.user last
    (∃ front event, event.id = last ∧ published c .opened moves = front ++ event :: replay ∧
        replay.length < ringBufferCapacity) ∨
      replay = (published c .opened moves).rtake ringBufferCapacity ∧ ∀ event ∈ replay, event.id ≠ last := by
  have ring : (channelFor (run c .opened moves).bus c.user).ring =
      ([] ++ published c .opened moves).rtake ringBufferCapacity := ring_run rfl
  rw [List.nil_append] at ring
  simp only [replayAfter, ring]
  cases found : ((published c .opened moves).rtake ringBufferCapacity).find? (·.id = last) with
  | none =>
    have other := fun event member => of_decide_eq_false (by simpa using List.find?_eq_none.mp found event member)
    rw [scanRing_misses last _ other]
    exact .inr ⟨rfl, other⟩
  | some event =>
    obtain ⟨here, front, back, shape, first⟩ := List.find?_eq_some_iff_append.mp found
    obtain rfl := of_decide_eq_true here
    rw [shape, scanRing_finds event front back (by simpa using first)]
    obtain ⟨older, whole⟩ : (published c .opened moves).rtake ringBufferCapacity <:+ _ := List.drop_suffix _ _
    rw [shape, ← List.append_assoc] at whole
    refine .inl ⟨older ++ front, event, rfl, whole.symm, ?_⟩
    have short := congrArg List.length shape
    simp only [List.rtake, List.length_drop, List.length_append, List.length_cons] at short
    show back.length < _
    omega

section
variable {c : Connection} {s : State} {replay : List ServerEvent}

/-- A frame is passed on in front of the rest, or the task ends. -/
theorem send_sublist (awaited : s.awaiting c = frame :: rest)
    (behind : ({ s with task := after } : State).awaiting c = rest) :
    (s.send frame after).delivered ++ (s.send frame after).awaiting c <+ s.delivered ++ s.awaiting c := by
  by_cases opened : s.Open
  · rw [send_passes opened awaited behind]
  · have ended : s.send frame after = { s with task := .returned } :=
      if_pos (by simpa [State.Open, or_iff_not_imp_left] using opened)
    rw [ended]
    exact (List.nil_sublist _).append_left _

/-- A poll passes on what the task awaits in order, and leaves out what it is too late for. -/
theorem poll_sublist : (s.poll c).delivered ++ (s.poll c).awaiting c <+ s.delivered ++ s.awaiting c := by
  have polled := polled (c := c) (s := s)
  generalize s.poll c = s' at polled ⊢
  cases polled with
  | idle => rfl
  | ends => exact (List.nil_sublist _).append_left _
  | sends _ awaited behind => exact send_sublist awaited behind
  | moves fewer => exact fewer.append_left _

/-- What is passed on and awaited is, in order, among the retry and the events that were replayed and broadcast;
nothing is passed on before the subscription. -/
structure Orderly (c : Connection) (s : State) (replay : List ServerEvent) : Prop where
  order : s.delivered ++ s.awaiting c <+ retry :: shown c (replay ++ (s.channel c).sender.sent)
  early : match s.task with
    | .starting => s.delivered = []
    | .replayed events => s.delivered = [] ∧ events = replay
    | _ => True

/-- A move that leaves the task where it stands adds what it broadcasts. -/
theorem Orderly.kept (orderly : Orderly c s replay) (task : (next c s move).task = s.task)
    (delivered : (next c s move).delivered <+ s.delivered) : Orderly c (next c s move) replay := by
  have awaited : (next c s move).awaiting c <+ s.awaiting c ++ shown c (sends c.user s move) := by
    have unread (live : Nat) : shown c (((next c s move).channel c).sender.unread live) <+
        shown c ((s.channel c).sender.unread live) ++ shown c (sends c.user s move) := by
      rw [sent_next, Broadcast.unread, Broadcast.unread, List.drop_append, ← shown_append]
      exact shown_sublist ((List.drop_sublist _ _).append_left _)
    unfold State.awaiting
    rw [task]
    cases s.task with
    | retrying _ live | replaying _ live | waiting live | sending _ live => simpa using unread live
    | starting | replayed | returned => exact List.nil_sublist _
  constructor
  · refine (delivered.append awaited).trans ?_
    rw [sent_next, ← List.append_assoc, ← List.append_assoc, shown_append]
    exact orderly.order.append_right _
  · have early := orderly.early
    rw [task]
    cases at_ : s.task <;> simp_all

theorem Orderly.next (orderly : Orderly c s replay) (move : Move) :
    Orderly c (next c s move) replay ∨ Orderly c (next c s move) (c.last.elim [] (replayAfter s.bus c.user)) := by
  have early := orderly.early
  cases move with
  | push | send => refine .inl (orderly.kept ?_ ?_) <;> simp only [Events.next] <;> split <;> rfl
  | cancel => exact .inl (orderly.kept rfl (.refl _))
  | drop => exact .inl (orderly.kept rfl ((List.nil_sublist _).append_left _))
  | pollNext =>
    refine .inl (orderly.kept ?_ ?_) <;> simp only [Events.next, State.pollNext] <;> repeat' split
    all_goals first | rfl | simp [State.delivered, *]
  | poll =>
    refine .inl ⟨?_, ?_⟩
    · rw [State.channel, Events.next, poll_bus]
      exact poll_sublist.trans orderly.order
    · simp only [Events.next, State.poll, State.send]
      cases task : s.task <;> rw [task] at early <;> repeat' split
      all_goals simp_all [State.delivered]
  | replay =>
    cases task : s.task with
    | starting =>
      rw [task] at early
      by_cases ended : (s.stop || s.closed) = true <;> refine .inr ⟨?_, ?_⟩ <;>
        simp_all [Events.next, State.awaiting, State.delivered]
    | _ => exact .inl (by simpa [Events.next, task] using orderly)
  | subscribe =>
    cases task : s.task with
    | replayed =>
      rw [task] at early
      obtain ⟨fresh, rfl⟩ := early
      refine .inl ⟨?_, by simp [Events.next, task]⟩
      simp_all [Events.next, State.awaiting, State.delivered, State.channel]
    | _ => exact .inl (by simpa [Events.next, task] using orderly)

/-- In every run, whatever its receiver misses and however it ends, the client gets in order some of the retry, the
events of its replay and the events that are broadcast. -/
theorem body_ordered (c : Connection) (moves : List Move) : ∃ earlier later, moves = earlier ++ later ∧
    (run c .opened moves).body <+ retry ::
      shown c (c.last.elim [] (replayAfter (run c .opened earlier).bus c.user) ++ broadcast c .opened moves) := by
  obtain ⟨earlier, later, same, order, -⟩ : ∃ earlier later, moves = earlier ++ later ∧
      Orderly c (run c .opened moves) (c.last.elim [] (replayAfter (run c .opened earlier).bus c.user)) := by
    induction moves using List.reverseRecOn with
    | nil => exact ⟨[], [], rfl, List.nil_sublist _, rfl⟩
    | append_singleton moves move ih =>
      obtain ⟨earlier, later, rfl, orderly⟩ := ih
      rw [run_append]
      rcases orderly.next move with stays | stays
      · exact ⟨earlier, later ++ [move], List.append_assoc .., stays⟩
      · exact ⟨earlier ++ later, [move], rfl, stays⟩
  refine ⟨earlier, later, same, .trans (List.sublist_append_left _ (run c .opened moves).queue)
    (.trans (List.sublist_append_left _ ((run c .opened moves).awaiting c)) ?_)⟩
  rwa [sender_run, show (State.opened.channel c).sender.sent = [] from rfl, List.nil_append] at order

end

namespace Sample

def user : Uuid := Uuid.v7 1 1

def first : ServerEvent := ⟨Uuid.v7 2 1, "hint", "1"⟩
def second : ServerEvent := ⟨Uuid.v7 3 1, "hint", "2"⟩
def third : ServerEvent := ⟨Uuid.v7 4 1, "hint", "3"⟩

/-- A client that has received the first event. -/
def connection : Connection := ⟨user, some first.id, none⟩

def publish (event : ServerEvent) : List Move := [.push 0 user event, .send 0]

/-- The stream goes on with one more event. -/
def after : List Move := .poll :: publish third ++ [.poll, .poll, .poll, .poll]

/-- The second event is published while the client is away. -/
def away : List Move := publish first ++ publish second ++ .replay :: [] ++ .subscribe :: after

/-- The second event is published between the replay and the subscription. -/
def gap : List Move := publish first ++ .replay :: publish second ++ .subscribe :: after

end Sample

theorem inFlight_empty {s : State} (empty : s.publishing.rows.entries = []) : s.InFlight c [] := by
  refine .inl ⟨rfl, fun publisher user event held => ?_⟩
  have none : s.publishing.find publisher = none := by
    simp [Table.find, AList.lookup, empty]
  cases none.symm.trans held

open Sample in
theorem missed_event_delivered :
    Reconnect connection (publish first ++ publish second) [] after [] [second] first ∧
      ∃ later : List ServerEvent, (run connection .opened away).delivered ++ later.map encode =
        [retry, encode second, encode third] := by
  have reconnect : Reconnect connection (publish first ++ publish second) [] after [] [second] first := by
    refine ⟨rfl, rfl, ?_, ?_, ?_, ?_, ?_, ?_, ?_⟩
    all_goals decide +kernel
  have live : published connection (run connection .opened
      (publish first ++ publish second ++ .replay :: [] ++ [.subscribe])) after = [third] := by
    decide +kernel
  have idle : (run connection .opened away).awaiting connection = [] := by decide +kernel
  have still : (run connection .opened (publish first ++ publish second)).InFlight connection [] :=
    inFlight_empty (by decide +kernel)
  have alone : Throughout (next connection) (Uncontended connection) (run connection .opened
      (publish first ++ publish second ++ .replay :: [] ++ [.subscribe])) after := by
    refine ⟨trivial, fun _ => inFlight_empty ?_, trivial, trivial, trivial, trivial, trivial, trivial⟩
    decide +kernel
  obtain ⟨later, -, delivered⟩ := (delivered_in_order reconnect).2 still (by decide +kernel) alone
  rw [live] at delivered
  refine ⟨reconnect, later, ?_⟩
  rw [← List.append_nil (State.delivered _), ← idle]
  exact delivered

open Sample in
/-- An event published between the replay and the subscription does not reach the client. -/
theorem replay_gap_loses_event :
    Reconnect connection (publish first) (publish second) after [] [] first ∧
      published connection (run connection .opened (publish first)) (.replay :: publish second) = [second] ∧
      (run connection .opened gap).awaiting connection = [] ∧
      (run connection .opened gap).delivered = [retry, encode third] := by
  refine ⟨⟨rfl, rfl, ?_, ?_, ?_, ?_, ?_, ?_, ?_⟩, ?_, ?_, ?_⟩
  all_goals decide +kernel

end Duskcue.Events
