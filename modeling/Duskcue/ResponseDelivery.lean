import Duskcue.ResponseRegistry

/-! What the body of a response yields. As long as the queue is not cancelled, what was
delivered and what waits in the queue is all that was read so far; so a body that ends
cleanly has delivered everything, and one that is cut off ends with an error. -/
namespace Duskcue.VodLifecycle
open Playback (Uuid)

variable {phase : Phase}

/-! ## One response -/

/-- The bytes that a body is to deliver. -/
def Content.target : Content → Bytes
  | .file data offset length => (data.drop offset).take length
  | .bytes data => data
  | .empty => []

/-- How many there are to be. -/
def Content.length : Content → Nat
  | .file _ _ length => length
  | .bytes data => data.length
  | .empty => 0

/-- The content is whole in what was sent. -/
def Content.Sent (content : Content) (sent : Bytes) : Prop :=
  sent = content.target ∧ sent.length = content.length

/-- How the content is split, in this phase, into what was sent and what is still to come. -/
inductive Flow : Content → Phase → Bytes → Prop
  | seeking (data : Bytes) (offset length : Nat) :
      Flow (.file data offset length) (.seeking data offset length) []
  | reading {data : Bytes} {offset length sent : Nat} (remaining : Nat) (whole : sent + remaining = length)
      (long : ((data.drop offset).take sent).length = sent) :
      Flow (.file data offset length) (.reading data (offset + sent) remaining) ((data.drop offset).take sent)
  | pushing {data part : Bytes} {offset length sent : Nat} (remaining : Nat)
      (whole : sent + part.length + remaining = length) (long : ((data.drop offset).take sent).length = sent)
      (next : part = (data.drop (offset + sent)).take part.length) :
      Flow (.file data offset length) (.pushing data part (offset + sent + part.length) remaining)
        ((data.drop offset).take sent)
  | slicing (sent rest : Bytes) : Flow (.bytes (sent ++ rest)) (.slicing rest) sent
  | stopped {content : Content} {phase : Phase} {sent : Bytes} (past : phase.streaming = false)
      (all : content.Sent sent) : Flow content phase sent

theorem Flow.isPrefix (flow : Flow content phase sent) : sent <+: content.target := by
  cases flow with
  | seeking => exact List.nil_prefix
  | reading | pushing =>
    exact List.take_prefix_take_left (by omega)
  | slicing sent rest => exact List.prefix_append sent rest
  | stopped _ all => exact all.1 ▸ List.prefix_rfl

section
variable {content : Content} {sent : Bytes}

theorem Flow.of_seeking (flow : Flow content (.seeking data offset length) sent) :
    content = .file data offset length ∧ sent = [] := by
  cases flow with
  | seeking => exact ⟨rfl, rfl⟩
  | stopped past => cases past

theorem Flow.of_reading (flow : Flow content (.reading data position remaining) sent) :
    ∃ offset length read, content = .file data offset length ∧ position = offset + read ∧ read + remaining = length ∧
      sent = (data.drop offset).take read ∧ sent.length = read := by
  cases flow with
  | @reading _ offset length read _ whole long => exact ⟨offset, length, read, rfl, rfl, whole, rfl, long⟩
  | stopped past => cases past

theorem Flow.of_pushing (flow : Flow content (.pushing data part position remaining) sent) :
    ∃ offset length read, content = .file data offset length ∧ position = offset + read + part.length ∧
      read + part.length + remaining = length ∧ sent = (data.drop offset).take read ∧ sent.length = read ∧
      part = (data.drop (offset + read)).take part.length := by
  cases flow with
  | @pushing _ _ offset length read _ whole long next => exact ⟨offset, length, read, rfl, rfl, whole, rfl, long, next⟩
  | stopped past => cases past

theorem Flow.of_slicing (flow : Flow content (.slicing rest) sent) : content = .bytes (sent ++ rest) := by
  cases flow with
  | slicing => rfl
  | stopped past => cases past

theorem Flow.of_stopped (past : phase.streaming = false) (flow : Flow content phase sent) :
    content.Sent sent := by
  cases flow with
  | seeking | reading | pushing | slicing => cases past
  | stopped _ all => exact all

/-- A part that was read goes on where the sent bytes stop. -/
theorem take_append_part {data part : Bytes} {offset read : Nat}
    (next : part = (data.drop (offset + read)).take part.length) :
    (data.drop offset).take read ++ part = (data.drop offset).take (read + part.length) := by
  rw [List.take_add, List.drop_drop]
  exact congrArg _ next

end

namespace Response

/-- What was delivered and what waits in the queue. -/
def sent (response : Response) : Bytes := response.body.delivered ++ response.queue.chunks.flatten

/-- What holds of a response at all times. -/
structure Sound (response : Response) : Prop where
  room : response.queue.chunks.length ≤ 2
  emptied : response.queue.cancelled = true → response.queue.chunks = []
  unprepared : response.phase = .preparing → response.content = none
  blank : response.content = none →
    response.sent = [] ∧ (response.phase = .preparing ∨ response.queue.cancelled = true)
  inOrder : ∀ content, response.content = some content → response.body.delivered <+: content.target
  flow : ∀ content, response.content = some content → response.queue.cancelled = false →
    Flow content response.phase response.sent
  finished : response.queue.done = true → response.phase.streaming = false
  clean : response.body.ended = some .clean →
    ∃ content, response.content = some content ∧ content.Sent response.body.delivered

theorem Sound.new (entry : Entry) : Sound ⟨entry, none, .new, .preparing, .new⟩ where
  room := by simp [Queue.new]
  emptied _ := rfl
  unprepared _ := rfl
  blank _ := ⟨rfl, .inl rfl⟩
  inOrder content found := by cases found
  flow content found := by cases found
  finished done := by cases done
  clean ended := by cases ended

section
variable {response : Response}

section
variable (sound : Sound response)
include sound

theorem Sound.cancel : Sound response.cancel :=
  { sound with
    room := Nat.zero_le 2
    emptied _ := rfl
    blank absent := by
      obtain ⟨nothing, -⟩ := sound.blank absent
      refine ⟨?_, .inr rfl⟩
      obtain ⟨delivered, -⟩ := List.append_eq_nil_iff.mp nothing
      simp [sent, Response.cancel, Queue.cancel, delivered]
    flow content _ live := by cases live }

/-- A cancelled response may be anywhere. -/
theorem Sound.moved (cancelled : response.queue.cancelled = true)
    (past : phase.streaming = false) (started : phase ≠ .preparing) : Sound { response with phase } :=
  { sound with
    unprepared at_ := absurd at_ started
    blank absent := ⟨(sound.blank absent).1, .inr cancelled⟩
    flow content _ live := by
      have live : response.queue.cancelled = false := live
      rw [cancelled] at live
      cases live
    finished _ := past }

theorem Sound.interrupt : Sound response.interrupt :=
  sound.cancel.moved rfl rfl (by simp)

/-- The phase changes, and what was sent does not. -/
theorem Sound.turn (started : response.phase ≠ .preparing)
    (later : phase ≠ .preparing) (done : response.queue.done = true → phase.streaming = false)
    (flow : ∀ content, response.content = some content → Flow content response.phase response.sent →
      Flow content phase response.sent) : Sound { response with phase } :=
  { sound with
    unprepared at_ := absurd at_ later
    blank absent := ⟨(sound.blank absent).1, .inr ((sound.blank absent).2.resolve_left started)⟩
    flow content found live := flow content found (sound.flow content found live)
    finished := done }

/-- A part goes into the queue. -/
theorem Sound.pushed (started : response.phase.streaming = true)
    (prepared : response.phase ≠ .preparing) (later : phase ≠ .preparing) (live : response.queue.cancelled = false)
    (room : response.queue.chunks.length < 2)
    (flow : ∀ content, response.content = some content → Flow content response.phase response.sent →
      Flow content phase (response.sent ++ part)) :
    Sound { response with queue := { response.queue with chunks := response.queue.chunks ++ [part] }, phase } where
  room := by
    simp only [List.length_append, List.length_cons, List.length_nil]
    omega
  emptied cancelled := by
    have cancelled : response.queue.cancelled = true := cancelled
    rw [live] at cancelled
    cases cancelled
  unprepared at_ := absurd at_ later
  blank absent := by
    rcases (sound.blank absent).2 with at_ | cancelled
    · exact absurd at_ prepared
    · rw [live] at cancelled
      cases cancelled
  inOrder := sound.inOrder
  flow content found _ := by
    have after := flow content found (sound.flow content found live)
    simpa [sent, List.append_assoc] using after
  finished done := by
    have past := sound.finished done
    rw [started] at past
    cases past
  clean := sound.clean

/-- `prepare` returns its content, of which nothing was sent. -/
theorem Sound.prepared (at_ : response.phase = .preparing) (content : Content) :
    Sound ({ response with content := some content }.start content) := by
  have absent := sound.unprepared at_
  obtain ⟨nothing, -⟩ := sound.blank absent
  have delivered : response.body.delivered = [] := (List.append_eq_nil_iff.mp nothing).1
  have begun : response.queue.done = false := by
    cases done : response.queue.done with
    | false => rfl
    | true =>
      have past := sound.finished done
      rw [at_] at past
      cases past
  have open_ : response.body.ended ≠ some .clean := by
    intro ended
    obtain ⟨own, found, -⟩ := sound.clean ended
    rw [absent] at found
    cases found
  have started : ∀ phase : Phase, phase ≠ .preparing → Flow content phase [] →
      Sound { response with content := some content, phase } := by
    intro phase later flow
    refine ⟨sound.room, sound.emptied, fun at_ => absurd at_ later, fun absent => ?_, fun own _ => ?_,
      fun own found _ => ?_, fun done => ?_, fun ended => absurd ended open_⟩
    · cases absent
    · exact delivered ▸ List.nil_prefix
    · cases found
      have whole : sent { response with content := some content, phase } = [] := nothing
      rw [whole]
      exact flow
    · exact absurd (begun.symm.trans done) (by simp)
  cases content with
  | file data offset length => exact started _ (by simp) (.seeking data offset length)
  | bytes data =>
    have sliced := started (.slicing data) (by simp) (.slicing [] data)
    simp only [start]
    split
    · exact sliced.interrupt
    · exact sliced
  | empty => exact started _ (by simp) (.stopped rfl ⟨rfl, rfl⟩)

/-- While the task streams, the queue is not done. -/
theorem Sound.unfinished (streaming : response.phase.streaming = true)
    (done : response.queue.done = true) : phase.streaming = false := by
  have past := sound.finished done
  rw [streaming] at past
  cases past

theorem Sound.advance {after : Response} (advance : Advance response after) : Sound after := by
  cases advance with
  | wait => exact sound
  | prepared content _ same at_ =>
    rcases same with rfl | rfl
    · exact sound.prepared at_ content
    · exact sound.cancel.prepared at_ content
  | interrupt => exact sound.interrupt
  | seek at_ =>
    refine sound.turn (by simp [at_]) (by simp) (sound.unfinished (by rw [at_]; rfl)) fun content found flow => ?_
    rw [at_] at flow
    obtain ⟨rfl, nothing⟩ := flow.of_seeking
    rw [nothing]
    exact .reading _ (Nat.zero_add _) rfl
  | @read _ _ _ _ at_ taken =>
    refine sound.turn (by simp [at_]) (by simp) (sound.unfinished (by rw [at_]; rfl)) fun content found flow => ?_
    rw [at_] at flow
    obtain ⟨offset, length, read, rfl, rfl, whole, sent, long⟩ := flow.of_reading
    rw [sent] at long ⊢
    exact .pushing _ (by omega) long taken
  | readAll at_ =>
    refine sound.turn (by simp [at_]) (by simp) (sound.unfinished (by rw [at_]; rfl)) fun content found flow => ?_
    rw [at_] at flow
    obtain ⟨offset, length, read, rfl, -, whole, sent, long⟩ := flow.of_reading
    refine .stopped rfl ⟨?_, ?_⟩
    · rw [sent, Content.target, ← whole]
      rfl
    · exact long.trans whole
  | @push _ _ _ _ at_ live room =>
    refine sound.pushed (by rw [at_]; rfl) (by simp [at_]) (by simp) live room fun content found flow => ?_
    rw [at_] at flow
    obtain ⟨offset, length, read, rfl, rfl, whole, sent, long, next⟩ := flow.of_pushing
    have after := take_append_part next
    rw [sent, after]
    rw [sent] at long
    have longer := congrArg List.length after
    rw [List.length_append, long] at longer
    rw [Nat.add_assoc]
    exact .reading _ whole longer.symm
  | @slice rest at_ live room =>
    refine sound.pushed (by rw [at_]; rfl) (by simp [at_]) (by simp) live room fun content _ flow => ?_
    rw [at_] at flow
    have split : rest = rest.take chunkSize ++ rest.drop chunkSize := (List.take_append_drop ..).symm
    have whole : content = .bytes ((response.sent ++ rest.take chunkSize) ++ rest.drop chunkSize) := by
      rw [flow.of_slicing, List.append_assoc, ← split]
    rw [whole]
    exact .slicing _ _
  | sliced at_ =>
    refine sound.turn (by simp [at_]) (by simp) (sound.unfinished (by rw [at_]; rfl)) fun content _ flow => ?_
    rw [at_] at flow
    refine .stopped rfl ?_
    rw [flow.of_slicing, List.append_nil]
    exact ⟨rfl, rfl⟩
  | close at_ =>
    have closed : Sound { response with phase := .draining } := sound.turn (by simp [at_]) (by simp) (fun _ => rfl) fun content _ flow =>
      Flow.stopped rfl (flow.of_stopped (by rw [at_]; rfl))
    exact ⟨closed.room, closed.emptied, closed.unprepared, closed.blank, closed.inOrder, closed.flow, fun _ => rfl,
      closed.clean⟩
  | drain at_ =>
    exact sound.turn (by simp [at_]) (by simp) (fun _ => rfl) fun content _ flow =>
      .stopped rfl (flow.of_stopped (by rw [at_]; rfl))

/-- The body takes what is first, or learns that there is no more. -/
theorem Sound.poll : Sound response.poll := by
  unfold Response.poll
  split
  · exact sound
  · rename_i running
    simp only [Bool.or_eq_true, not_or, Bool.not_eq_true, Option.isSome_eq_false_iff, Option.isNone_iff_eq_none] at running
    split
    · refine ⟨sound.room, sound.emptied, sound.unprepared, sound.blank, sound.inOrder, sound.flow, sound.finished, ?_⟩
      intro ended
      cases ended
    · rename_i live
      have live : response.queue.cancelled = false := by simpa using live
      split
      · rename_i bytes rest chunks
        have same : (response.body.delivered ++ bytes) ++ rest.flatten = response.sent := by
          rw [sent, chunks, List.flatten_cons, List.append_assoc]
        refine ⟨?_, ?_, sound.unprepared, ?_, ?_, ?_, sound.finished, ?_⟩
        · have room := sound.room
          rw [chunks, List.length_cons] at room
          exact Nat.le_of_succ_le room
        · intro cancelled
          exact absurd (live.symm.trans cancelled) (by simp)
        · intro absent
          exact ⟨same.trans (sound.blank absent).1, (sound.blank absent).2⟩
        · intro content found
          have whole := (sound.flow content found live).isPrefix
          rw [← same] at whole
          exact (List.prefix_append _ _).trans whole
        · intro content found _
          have flow := sound.flow content found live
          rw [← same] at flow
          exact flow
        · intro ended
          cases running.2.symm.trans ended
      · rename_i chunks
        split
        · rename_i done
          refine ⟨sound.room, sound.emptied, sound.unprepared, sound.blank, sound.inOrder, sound.flow, sound.finished, ?_⟩
          intro _
          have past := sound.finished done
          cases found : response.content with
          | none =>
            rcases (sound.blank found).2 with at_ | cancelled
            · rw [at_] at past
              cases past
            · exact absurd (live.symm.trans cancelled) (by simp)
          | some content =>
            have all := (sound.flow content found live).of_stopped past
            rw [sent, chunks, List.flatten_nil, List.append_nil] at all
            exact ⟨content, rfl, all⟩
        · exact sound

theorem Sound.dropBody : Sound response.dropBody := by
  unfold Response.dropBody
  split
  · exact sound
  · have cancelled := sound.cancel
    exact ⟨cancelled.room, cancelled.emptied, cancelled.unprepared, cancelled.blank, cancelled.inOrder, cancelled.flow,
      cancelled.finished, cancelled.clean⟩

end

end

end Response

/-! ## What moves do to responses -/

/-- What a move does to a response. -/
inductive Turn (response : Response) : Response → Prop
  | advance (advance : response.Advance after) : Turn response after
  | cancel : Turn response response.cancel
  | poll : Turn response response.poll
  | dropBody : Turn response response.dropBody
  | leave {phase : Phase} (past : response.phase.streaming = false) (later : phase.streaming = false) :
      Turn response { response with phase }
  | lose : Turn response { response.cancel with phase := .lost }

abbrev Turns := Relation.ReflTransGen Turn

section
variable {response after : Response}

theorem Turn.sound (turn : Turn response after) (sound : response.Sound) : after.Sound := by
  have started : ∀ {phase : Phase}, phase.streaming = false → phase ≠ .preparing := by
    rintro phase past rfl
    cases past
  cases turn with
  | advance advance => exact sound.advance advance
  | cancel => exact sound.cancel
  | poll => exact sound.poll
  | dropBody => exact sound.dropBody
  | leave past later =>
    exact sound.turn (started past) (started later) (fun _ => later) fun content _ flow =>
      .stopped later (flow.of_stopped past)
  | lose => exact sound.cancel.moved rfl rfl (by simp)

/-- A cancelled queue stays cancelled, and its body yields no more bytes and does not end cleanly. -/
theorem Turn.cancelled (turn : Turn response after) (cancelled : response.queue.cancelled = true) :
    after.queue.cancelled = true ∧ after.body.delivered = response.body.delivered ∧
      (after.body.ended = some .clean → response.body.ended = some .clean) := by
  cases turn with
  | advance advance =>
    cases advance with
    | wait | seek | read | readAll | sliced | close | drain => exact ⟨cancelled, rfl, id⟩
    | interrupt => exact ⟨rfl, rfl, id⟩
    | push _ live | slice _ live =>
      rw [cancelled] at live
      cases live
    | prepared content told same =>
      have told' : told.queue.cancelled = true ∧ told.body = response.body := by
        rcases same with rfl | rfl
        · exact ⟨cancelled, rfl⟩
        · exact ⟨rfl, rfl⟩
      rw [← told'.2]
      cases content with
      | file | empty => exact ⟨told'.1, rfl, id⟩
      | bytes =>
        simp only [Response.start]
        split
        · exact ⟨rfl, rfl, id⟩
        · exact ⟨told'.1, rfl, id⟩
  | cancel | lose => exact ⟨rfl, rfl, id⟩
  | leave => exact ⟨cancelled, rfl, id⟩
  | poll =>
    unfold Response.poll
    rw [if_pos cancelled]
    split
    · exact ⟨cancelled, rfl, id⟩
    · exact ⟨cancelled, rfl, fun ended => by cases ended⟩
  | dropBody =>
    unfold Response.dropBody
    split
    · exact ⟨cancelled, rfl, id⟩
    · exact ⟨rfl, rfl, id⟩

theorem Turns.sound (turns : Turns response after) (sound : response.Sound) : after.Sound := by
  induction turns with
  | refl => exact sound
  | tail _ turn ih => exact turn.sound ih

theorem Turns.cancelled (turns : Turns response after) (cancelled : response.queue.cancelled = true) :
    after.queue.cancelled = true ∧ after.body.delivered = response.body.delivered ∧
      (after.body.ended = some .clean → response.body.ended = some .clean) := by
  induction turns with
  | refl => exact ⟨cancelled, rfl, id⟩
  | tail _ turn ih =>
    obtain ⟨still, same, unclean⟩ := turn.cancelled ih.1
    exact ⟨still, same.trans ih.2.1, ih.2.2 ∘ unclean⟩

end

/-- The same responses, each turned. -/
structure Turned (s t : State) : Prop where
  each : ∀ id response, s.tasks.find id = some response → ∃ after, t.tasks.find id = some after ∧ Turns response after
  none : ∀ id, s.tasks.find id = none → t.tasks.find id = none

section
variable {s t u : State}

theorem Turned.of_eq (same : t.tasks = s.tasks) : Turned s t where
  each _ response found := ⟨response, same ▸ found, .refl⟩
  none _ absent := same ▸ absent

theorem Turned.trans (first : Turned s t) (second : Turned t u) : Turned s u where
  each id response found := by
    obtain ⟨middle, found, earlier⟩ := first.each id response found
    obtain ⟨after, found, later⟩ := second.each id middle found
    exact ⟨after, found, earlier.trans later⟩
  none id absent := second.none id (first.none id absent)

theorem Turned.amend {change : Uuid → Response → Response} (turns : ∀ id response, Turns response (change id response))
    (written : t.tasks = s.tasks.amend change) : Turned s t where
  each id response found := by
    refine ⟨change id response, ?_, turns id response⟩
    rw [written, Table.find_amend, found, Option.map_some]
  none id absent := by rw [written, Table.find_amend, absent, Option.map_none]

theorem Turned.put {id : Uuid} {response after : Response} (found : s.tasks.find id = some response)
    (turn : Turn response after) (written : t.tasks = s.tasks.put id after) : Turned s t where
  each other own held := by
    rw [written, Table.find_put]
    split
    · rename_i same
      rw [same, found] at held
      cases held
      exact ⟨after, rfl, .single turn⟩
    · exact ⟨own, held, .refl⟩
  none other absent := by
    rw [written, Table.find_put]
    split
    · rename_i same
      rw [same, found] at absent
      cases absent
    · exact absent

theorem Turned.cancelWhere (chosen : Uuid → Bool)
    (written : t.tasks = s.tasks.amend fun id response => if chosen id then response.cancel else response) :
    Turned s t := by
  refine Turned.amend (fun id response => ?_) written
  split
  · exact .single .cancel
  · exact .refl

theorem Turned.retire (handle : Handle) : Turned s (s.retire handle) :=
  .cancelWhere (fun id => id ∈ (s.gate handle).queues) (by simp [State.retire, State.cancel, State.setGate])

theorem Turned.step (id : Uuid) (answer : Answer) : Turned s (s.step id answer) := by
  unfold State.step
  split
  · exact .of_eq rfl
  · rename_i response found
    dsimp only
    split
    · rename_i at_
      refine .put found (@Turn.leave response .leavingViewer (by rw [at_]; rfl) rfl) ?_
      exact congrArg (Table.put · id _) (@each_remove_kept s response.entry.generation id).1
    · rename_i at_
      refine .put found (@Turn.leave response .leavingRegistry (by rw [at_]; rfl) rfl) ?_
      exact congrArg (Table.put · id _) (@each_remove_kept s response.entry.viewer id).1
    · rename_i at_
      exact .put found (.leave (by rw [at_]; rfl) rfl) rfl
    · rename_i at_
      exact .put found (.leave (by rw [at_]; rfl) rfl) rfl
    · exact .put found (.advance (.produce response answer)) rfl

theorem Turned.update {id : Uuid} (turn : ∀ response, Turn response (change response)) :
    Turned s (s.update id change) := by
  unfold State.update
  split
  · exact .of_eq rfl
  · rename_i response found
    exact .put found (turn response) rfl

/-! ## What moves do to retired objects -/

/-- Every response that a retired object still holds is cancelled. -/
def Stopped (s : State) : Prop :=
  ∀ handle, (s.gate handle).retired = true → ∀ id ∈ (s.gate handle).queues, ∀ response,
    s.tasks.find id = some response → response.queue.cancelled = true

/-- A retired object stays retired, and no response joins it. -/
structure Guarded (s t : State) : Prop where
  retired : ∀ handle, (s.gate handle).retired = true → (t.gate handle).retired = true
  queues : ∀ handle, (s.gate handle).retired = true → (t.gate handle).queues ⊆ (s.gate handle).queues

theorem Guarded.of_eq (same : ∀ handle, t.gate handle = s.gate handle) : Guarded s t where
  retired handle := by rw [same]; exact id
  queues handle _ := by rw [same]

theorem Guarded.trans (first : Guarded s t) (second : Guarded t u) : Guarded s u where
  retired handle retired := second.retired handle (first.retired handle retired)
  queues handle retired :=
    (second.queues handle (first.retired handle retired)).trans (first.queues handle retired)

theorem Turned.cancelled (turned : Turned s t) {id : Uuid} (found : t.tasks.find id = some after)
    (stopped : ∀ response, s.tasks.find id = some response → response.queue.cancelled = true) :
    after.queue.cancelled = true := by
  cases before : s.tasks.find id with
  | none => cases (turned.none id before).symm.trans found
  | some response =>
    obtain ⟨other, there, turns⟩ := turned.each id response before
    cases found.symm.trans there
    exact (turns.cancelled (stopped response before)).1

theorem Stopped.turned (stopped : Stopped s) (turned : Turned s t)
    (queues : ∀ handle, (t.gate handle).queues ⊆ (s.gate handle).queues)
    (retired : ∀ handle, (t.gate handle).retired = (s.gate handle).retired) : Stopped t := by
  intro handle own id member after found
  rw [retired] at own
  exact turned.cancelled found (stopped handle own id (queues handle member))

theorem gate_retire (s : State) (handle other : Handle) :
    (s.retire handle).gate other =
      if other = handle then { s.gate handle with retired := true } else s.gate other :=
  gate_setGate s handle other _

theorem Guarded.retire (handle : Handle) : Guarded s (s.retire handle) where
  retired other retired := by
    rw [gate_retire]
    split
    · rfl
    · exact retired
  queues other _ := by
    rw [gate_retire]
    split
    · rename_i same
      rw [same]
    · exact Finset.Subset.refl _

theorem Stopped.retire (stopped : Stopped s) (handle : Handle) : Stopped (s.retire handle) := by
  intro other own id member after found
  by_cases same : other = handle
  · -- the object that retires cancels all that it holds
    rw [gate_retire, if_pos same] at member
    have cancelled : (s.retire handle).tasks.find id = (s.tasks.find id).map Response.cancel := by
      have member : id ∈ (s.gate handle).queues := member
      simp only [State.retire, State.cancel, State.setGate, Table.find_amend, if_pos member]
    rw [cancelled] at found
    obtain ⟨response, -, rfl⟩ := Option.map_eq_some_iff.mp found
    rfl
  · rw [gate_retire, if_neg same] at own member
    exact (Turned.retire handle).cancelled found (stopped other own id member)

/-- A move that starts no response: responses turn, and of the objects that are retired none
comes back, gains a response or holds one that goes on. -/
structure Tame (s t : State) : Prop where
  turned : Turned s t
  guarded : Guarded s t
  stopped : Stopped s → Stopped t

/-- Moves that change responses only. -/
theorem Turned.tame (turned : Turned s t) (same : ∀ handle, t.gate handle = s.gate handle) : Tame s t where
  turned := turned
  guarded := .of_eq same
  stopped before := before.turned turned (fun handle => by rw [same]) fun handle => by rw [same]

theorem Tame.refl (s : State) : Tame s s := Turned.tame (.of_eq rfl) fun _ => rfl

theorem Tame.trans (first : Tame s t) (second : Tame t u) : Tame s u where
  turned := first.turned.trans second.turned
  guarded := first.guarded.trans second.guarded
  stopped before := second.stopped (first.stopped before)

theorem Tame.retire (handle : Handle) : Tame s (s.retire handle) :=
  ⟨.retire handle, .retire handle, fun before => before.retire handle⟩

theorem Tame.retires (handles : List Handle) : Tame s (handles.foldl State.retire s) := by
  induction handles generalizing s with
  | nil => exact .refl s
  | cons handle _ ih => exact (Tame.retire handle).trans ih

theorem Tame.close : Tame s s.close := by
  have closed : Tame s { s with closed := true } := Turned.tame (.of_eq rfl) fun _ => rfl
  exact closed.trans ((Tame.retires _).trans
    (Turned.tame (.cancelWhere (fun id => (Table.find _ id).isSome) rfl) fun _ => rfl))

theorem Tame.each : Tame s (s.each handle State.retire) := by
  cases handle with
  | none => exact .refl s
  | some own => exact .retire own

theorem Tame.abandon (id : Uuid) : Tame s (s.abandon id) := by
  unfold State.abandon
  split
  · exact .refl s
  · rename_i response found
    split
    · have lost : Tame s { s with tasks := s.tasks.put id { response.cancel with phase := .lost } } :=
        Turned.tame (.put found .lose rfl) fun _ => rfl
      exact lost.trans (Tame.each.trans Tame.each)
    · exact .refl s

theorem each_remove_retired {id : Uuid} (other : Handle) :
    ((s.each handle (·.remove · id)).gate other).retired = (s.gate other).retired := by
  cases handle with
  | none => rfl
  | some =>
    simp only [State.each, State.remove, gate_setGate]
    split
    · rename_i same
      rw [same]
    · rfl

/-- A step of a task retires nothing, and no response joins an object. -/
theorem step_gates (id : Uuid) (answer : Answer) (handle : Handle) :
    ((s.step id answer).gate handle).retired = (s.gate handle).retired ∧
      ((s.step id answer).gate handle).queues ⊆ (s.gate handle).queues := by
  unfold State.step
  split
  · exact ⟨rfl, Finset.Subset.refl _⟩
  · dsimp only
    split
    · exact ⟨each_remove_retired handle, fun other member => (mem_each_remove.mp member).1⟩
    · exact ⟨each_remove_retired handle, fun other member => (mem_each_remove.mp member).1⟩
    · exact ⟨rfl, Finset.Subset.refl _⟩
    · exact ⟨rfl, Finset.Subset.refl _⟩
    · exact ⟨rfl, Finset.Subset.refl _⟩

theorem gate_update (id : Uuid) (change : Response → Response) (handle : Handle) :
    (s.update id change).gate handle = s.gate handle := by
  unfold State.update
  split <;> rfl

theorem Tame.beginGeneration (id : Uuid) (handle : Handle) (cleanup : Bool) :
    Tame s (s.beginGeneration id handle cleanup) := by
  have calm := @Calm.beginGeneration s id handle cleanup
  have same : (s.beginGeneration id handle cleanup).tasks = s.tasks := by
    unfold State.beginGeneration
    split
    · rfl
    · split
      · rfl
      · split <;> rfl
  have gates : ∀ other, (s.beginGeneration id handle cleanup).gate other = s.gate other ∨
      ((s.gate other).retired = false ∧ ((s.beginGeneration id handle cleanup).gate other).queues = ∅) := by
    intro other
    unfold State.beginGeneration
    split
    · exact .inl rfl
    · rename_i free
      split
      · exact .inl rfl
      · split
        · exact .inl rfl
        · have written := gate_setGate s handle other { Gate.new with retired := s.closed }
          by_cases here : other = handle
          · refine .inr ⟨?_, ?_⟩
            · subst here
              cases found : s.gates.find other with
              | none => rw [State.gate, found]; rfl
              | some => simp [found] at free
            · rw [if_pos here] at written
              exact congrArg Gate.queues written
          · rw [if_neg here] at written
            exact .inl written
  refine ⟨.of_eq same, ⟨fun other retired => ?_, fun other _ => ?_⟩, fun stopped other retired id' member response found => ?_⟩
  · rcases gates other with kept | ⟨live, -⟩
    · rw [kept]
      exact retired
    · rw [live] at retired
      cases retired
  · rw [calm.queues]
  · rcases gates other with kept | ⟨-, empty⟩
    · rw [kept] at retired member
      rw [same] at found
      exact stopped other retired id' member response found
    · rw [empty] at member
      exact absurd member (Finset.notMem_empty _)

/-! ## What cuts a body off -/

/-- A move that cuts a response off: its task fails, or reads nothing where there is more to
read; an object that holds it retires; the registry that holds it closes; its task is lost. -/
inductive Cuts (s : State) (id : Uuid) (response : Response) : Move → Prop
  | prepare (at_ : response.phase = .preparing) : Cuts s id response (.step id .failed)
  | seek (at_ : response.phase = .seeking data offset length) : Cuts s id response (.step id .failed)
  | read (at_ : response.phase = .reading data position remaining) (more : remaining ≠ 0) :
      Cuts s id response (.step id .failed)
  | short (at_ : response.phase = .reading data position remaining) (more : remaining ≠ 0)
      (nothing : (data.drop position).take length = []) : Cuts s id response (.step id (.read length))
  | retire (held : id ∈ (s.gate handle).queues) : Cuts s id response (.retire handle)
  | close (held : (s.responses.find id).isSome = true) : Cuts s id response .close
  | lose (running : response.phase.unfinished = true) : Cuts s id response (.abandon id)

/-- The response is still there, with the same body, and its queue is cancelled under the condition. -/
def Left (s : State) (id : Uuid) (response : Response) (cancelled : Prop) : Prop :=
  ∃ after, s.tasks.find id = some after ∧ after.body = response.body ∧ (cancelled → after.queue.cancelled = true)

section
variable {id : Uuid}

theorem left_retire (found : s.tasks.find id = some response) (handle : Handle) :
    Left (s.retire handle) id response (response.queue.cancelled = true ∨ id ∈ (s.gate handle).queues) := by
  refine ⟨_, (Table.find_amend ..).trans (congrArg _ found), ?_⟩
  split
  · exact ⟨rfl, fun _ => rfl⟩
  · rename_i other
    exact ⟨rfl, fun either => either.resolve_right other⟩

theorem Left.trans (left : Left s id response cancelled)
    (next : ∀ after, s.tasks.find id = some after → Left t id after (after.queue.cancelled = true)) :
    Left t id response cancelled := by
  obtain ⟨middle, found, body, stops⟩ := left
  obtain ⟨after, found', body', stops'⟩ := next middle found
  exact ⟨after, found', body'.trans body, stops' ∘ stops⟩

theorem left_retires (found : s.tasks.find id = some response) (handles : List Handle) :
    Left (handles.foldl State.retire s) id response (response.queue.cancelled = true) := by
  induction handles generalizing s response with
  | nil => exact ⟨response, found, rfl, fun stops => stops⟩
  | cons handle _ ih =>
    obtain ⟨after, found, body, stops⟩ := left_retire found handle
    exact Left.trans ⟨after, found, body, stops ∘ .inl⟩ fun _ found => ih found

theorem left_each (found : s.tasks.find id = some response) (handle : Option Handle) :
    Left (s.each handle State.retire) id response (response.queue.cancelled = true) := by
  cases handle with
  | none => exact ⟨response, found, rfl, fun stops => stops⟩
  | some handle => exact left_retires found [handle]

/-- What is cut off is cancelled. -/
theorem Cuts.left (cuts : Cuts s id response move) (found : s.tasks.find id = some response) :
    Left (next s move) id response True := by
  have stepped : ∀ {answer : Answer}, response.produce answer = response.interrupt → response.phase.streaming = true →
      Left (next s (.step id answer)) id response True := by
    intro answer interrupted streaming
    refine ⟨response.interrupt, ?_, rfl, fun _ => rfl⟩
    simp only [next, State.step, found]
    split <;> simp_all [Phase.streaming, Table.find_put_self]
  cases cuts with
  | prepare at_ | seek at_ | read at_ more => exact stepped (by simp [Response.produce, at_]) (by simp [at_, Phase.streaming])
  | @short data position remaining length at_ more nothing =>
    refine stepped ?_ (by simp [at_, Phase.streaming])
    have part : (data.drop position).take (min length (min remaining chunkSize)) = [] := by
      rw [List.take_eq_nil_iff] at nothing ⊢
      exact nothing.imp_left fun none => by rw [none, Nat.zero_min]
    simp [Response.produce, at_, part]
  | @retire handle held =>
    obtain ⟨after, found, body, stops⟩ := left_retire found handle
    exact ⟨after, found, body, fun _ => stops (.inr held)⟩
  | close held =>
    obtain ⟨after, found, body, -⟩ := left_retires (s := { s with closed := true }) found s.generations.records
    refine ⟨after.cancel, ?_, body, fun _ => rfl⟩
    have kept := (Calm.retires (s := { s with closed := true }) s.generations.records).responses
    simp only [next, State.close, Table.find_amend, found, kept, Option.map_some]
    rw [if_pos held]
  | lose running =>
    have lost : Left { s with tasks := s.tasks.put id { response.cancel with phase := .lost } } id response True :=
      ⟨_, Table.find_put_self .., rfl, fun _ => rfl⟩
    simp only [next, State.abandon, found, if_pos running]
    exact (lost.trans fun _ found => left_each found _).trans fun _ found => left_each found _

end

/-! ## Runs -/

/-- What a move does: responses turn, a new one starts from nothing, and no response joins
an object that is retired. -/
structure Proceeds (s t : State) : Prop where
  turns : ∀ id response, s.tasks.find id = some response →
    ∃ after, t.tasks.find id = some after ∧ Turns response after
  new : ∀ id response, s.tasks.find id = none → t.tasks.find id = some response →
    ∃ entry, response = ⟨entry, none, .new, .preparing, .new⟩
  guarded : Guarded s t
  stopped : Stopped s → Stopped t

theorem Tame.proceeds (tame : Tame s t) : Proceeds s t where
  turns := tame.turned.each
  new id response absent found := by
    rw [tame.turned.none id absent] at found
    cases found
  guarded := tame.guarded
  stopped := tame.stopped

/-- Gates that change only where they are not retired. -/
theorem Guarded.of_live {joined : Handle → Prop} (live : ∀ handle, joined handle → (s.gate handle).retired = false)
    (others : ∀ handle, ¬ joined handle → t.gate handle = s.gate handle) : Guarded s t := by
  have same : ∀ handle, (s.gate handle).retired = true → t.gate handle = s.gate handle := by
    intro handle retired
    by_cases named : joined handle
    · rw [live handle named] at retired
      cases retired
    · exact others handle named
  refine ⟨fun handle retired => ?_, fun handle retired => ?_⟩
  · rw [same handle retired]
    exact retired
  · rw [same handle retired]

theorem Admitted.proceeds (kept : Kept s) {id : Uuid} (fresh : id ∉ s.minted)
    (admitted : Admitted s id generation viewer result) : Proceeds s { result.2 with minted := insert id s.minted } := by
  cases admitted with
  | refused => exact Tame.proceeds (Turned.tame (.of_eq rfl) fun _ => rfl)
  | @left _ handle t _ gates live tasks _ minted =>
    have others : ∀ other, ¬ other = handle → t.gate other = s.gate other := by
      intro other differ
      rw [gates, if_neg differ]
    have guarded : Guarded s { t with minted := insert id s.minted } :=
      @Guarded.of_live s _ (· = handle) (fun other (same : other = handle) => same ▸ live) others
    refine Tame.proceeds ⟨.of_eq tasks, guarded, fun stopped other retired id' member response found => ?_⟩
    have retired : (t.gate other).retired = true := retired
    have member : id' ∈ (t.gate other).queues := member
    have differ : ¬ other = handle := by
      rintro rfl
      rw [gates, if_pos rfl] at retired
      exact absurd (live.symm.trans retired) (by simp)
    rw [others other differ] at retired member
    exact stopped other retired id' member response (tasks ▸ found)
  | @admitted entry t _ live gates tasks =>
    have others : ∀ other, ¬ (entry.generation = some other ∨ entry.viewer = some other) → t.gate other = s.gate other := by
      intro other differ
      rw [gates, if_neg differ]
    have absent : s.tasks.find id = none := by
      cases found : s.tasks.find id with
      | none => rfl
      | some response =>
        have held : s.ledger id = some (response.entry, response.phase.stage) := by
          rw [State.ledger, found, Option.map_some]
        exact absurd (kept.listed id _ held) fresh
    refine ⟨fun other response found => ⟨response, ?_, .refl⟩, fun other response none' found => ?_, ?_, ?_⟩
    · change t.tasks.find other = _
      have differ : other ≠ id := by
        rintro rfl
        rw [absent] at found
        cases found
      rw [tasks, Table.find_put_ne differ]
      exact found
    · have found : t.tasks.find other = some response := found
      rw [tasks, Table.find_put] at found
      split at found
      · exact ⟨entry, (Option.some.inj found).symm⟩
      · rw [none'] at found
        cases found
    · exact Guarded.of_live live others
    · intro stopped other retired id' member response found
      have retired : (t.gate other).retired = true := retired
      have member : id' ∈ (t.gate other).queues := member
      have found : t.tasks.find id' = some response := found
      have differ : ¬ (entry.generation = some other ∨ entry.viewer = some other) := by
        intro named
        rw [gates, if_pos named] at retired
        exact absurd ((live other named).symm.trans retired) (by simp)
      rw [others other differ] at retired member
      have differ' : id' ≠ id := fun same => kept.not_queued fresh other (same ▸ member)
      rw [tasks, Table.find_put_ne differ'] at found
      exact stopped other retired id' member response found

theorem next_proceeds (kept : Kept s) (move : Move) : Proceeds s (next s move) := by
  cases move with
  | beginGeneration id handle cleanup => exact (Tame.beginGeneration id handle cleanup).proceeds
  | finishGeneration =>
    refine (Turned.tame (.of_eq ?_) fun handle => ?_).proceeds
    all_goals
      unfold next State.finishGeneration
      dsimp only
      split <;> rfl
  | enqueueResponse id generation viewer =>
    unfold next
    dsimp only
    split
    · exact (Turned.tame (.of_eq rfl) fun _ => rfl).proceeds
    · rename_i fresh
      exact (enqueueResponse_admitted s id generation viewer).proceeds kept fresh
  | retire handle => exact (Tame.retire handle).proceeds
  | close => exact Tame.close.proceeds
  | step id answer =>
    have gates := fun handle => @step_gates s id answer handle
    refine Tame.proceeds ⟨.step id answer, ⟨fun handle retired => (gates handle).1.trans retired,
      fun handle _ => (gates handle).2⟩, fun stopped => ?_⟩
    exact stopped.turned (.step id answer) (fun handle => (gates handle).2) fun handle => (gates handle).1
  | abandon id => exact (Tame.abandon id).proceeds
  | poll id => exact (Turned.tame (.update fun _ => .poll) (gate_update id _)).proceeds
  | dropBody id => exact (Turned.tame (.update fun _ => .dropBody) (gate_update id _)).proceeds

end

/-- Every response of a run is sound, and every one that a retired object holds is cancelled. -/
theorem run_sound (moves : List Move) :
    (∀ id response, (run moves).tasks.find id = some response → response.Sound) ∧ Stopped (run moves) := by
  induction moves using List.reverseRecOn with
  | nil =>
    refine ⟨fun id response found => ?_, fun handle retired => ?_⟩
    · cases found
    · simp [run, State.gate, State.new, Gate.new] at retired
  | append_singleton moves move ih =>
    have proceeds := next_proceeds (run_kept moves) move
    rw [run, List.foldl_append]
    refine ⟨fun id response found => ?_, proceeds.stopped ih.2⟩
    cases before : (run moves).tasks.find id with
    | none =>
      obtain ⟨entry, rfl⟩ := proceeds.new id response before found
      exact .new entry
    | some own =>
      obtain ⟨after, found', turns⟩ := proceeds.turns id own before
      have same : some response = some after := found.symm.trans found'
      cases same
      exact turns.sound (ih.1 id own before)

theorem run_append (moves later : List Move) :
    Guarded (run moves) (run (moves ++ later)) ∧ ∀ id response, (run moves).tasks.find id = some response →
      ∃ after, (run (moves ++ later)).tasks.find id = some after ∧ Turns response after := by
  induction later using List.reverseRecOn with
  | nil =>
    rw [List.append_nil]
    exact ⟨.of_eq fun _ => rfl, fun id response found => ⟨response, found, .refl⟩⟩
  | append_singleton later move ih =>
    have proceeds := next_proceeds (run_kept (moves ++ later)) move
    have last : run (moves ++ (later ++ [move])) = next (run (moves ++ later)) move := by
      rw [← List.append_assoc, run, List.foldl_append]
      rfl
    rw [last]
    refine ⟨ih.1.trans proceeds.guarded, fun id response found => ?_⟩
    obtain ⟨middle, found, earlier⟩ := ih.2 id response found
    obtain ⟨after, found, later'⟩ := proceeds.turns id middle found
    exact ⟨after, found, earlier.trans later'⟩

/-- A body that was cut off before it ended, and is polled, has ended with an error. -/
theorem Response.poll_cut {response : Response} (cancelled : response.queue.cancelled = true)
    (unclean : response.body.ended ≠ some .clean) (kept : response.body.dropped = false) :
    response.poll.body.ended = some .error := by
  unfold Response.poll
  cases ended : response.body.ended with
  | none => simp [kept, cancelled]
  | some how =>
    cases how with
    | clean => exact absurd ended unclean
    | error => simp [kept, ended]

/-- In every state that a run reaches: what a body delivered is the beginning of its content;
it ends cleanly only with all of it; a task that stopped without cancelling its queue has
sent all of it; a body whose queue is cancelled gets no more bytes and ends, when it is
polled, with an error, and so does one that a move cuts off, whatever follows; a queue
holds two chunks at most. The responses that a retired object holds are cancelled, and none
joins it. -/
theorem delivery_faithful (moves : List Move) :
    (∀ id response, (run moves).tasks.find id = some response →
      response.body.delivered <+: (response.content.elim [] Content.target) ∧
      (response.body.ended = some .clean → ∃ content, response.content = some content ∧
        response.body.delivered = content.target ∧ response.body.delivered.length = content.length) ∧
      (response.phase.streaming = false → response.queue.cancelled = false → ∃ content, response.content = some content ∧
        response.body.delivered ++ response.queue.chunks.flatten = content.target ∧
        (response.body.delivered ++ response.queue.chunks.flatten).length = content.length) ∧
      (response.queue.cancelled = true →
        (response.body.ended = none → response.body.dropped = false → response.poll.body.ended = some .error) ∧
        ∀ later, ∃ after, (run (moves ++ later)).tasks.find id = some after ∧
          after.body.delivered = response.body.delivered) ∧
      (∀ move, Cuts (run moves) id response move → response.body.ended ≠ some .clean → ∀ later, ∃ after,
        (run (moves ++ move :: later)).tasks.find id = some after ∧
          after.body.delivered = response.body.delivered ∧
          (after.body.dropped = false → after.poll.body.ended = some .error)) ∧
      response.queue.chunks.length ≤ 2) ∧
    ∀ handle, ((run moves).gate handle).retired = true →
      (∀ id ∈ ((run moves).gate handle).queues, ∀ response,
        (run moves).tasks.find id = some response → response.queue.cancelled = true) ∧
      (∀ id, (run moves).register handle id = .error .sessionNotFound) ∧
      ∀ later, ((run (moves ++ later)).gate handle).queues ⊆ ((run moves).gate handle).queues := by
  obtain ⟨sounds, stopped⟩ := run_sound moves
  refine ⟨fun id response found => ?_, fun handle retired => ?_⟩
  · have sound := sounds id response found
    refine ⟨?_, fun ended => ?_, fun past live => ?_, fun cancelled => ⟨fun open_ kept => ?_, fun later => ?_⟩,
      fun move cuts unclean later => ?_, sound.room⟩
    · cases held : response.content with
      | none =>
        obtain ⟨nothing, -⟩ := sound.blank held
        rw [(List.append_eq_nil_iff.mp nothing).1]
        exact List.nil_prefix
      | some content => exact sound.inOrder content held
    · obtain ⟨content, held, all⟩ := sound.clean ended
      exact ⟨content, held, all.1, all.2⟩
    · cases held : response.content with
      | none =>
        rcases (sound.blank held).2 with at_ | cancelled
        · rw [at_] at past
          cases past
        · exact absurd (live.symm.trans cancelled) (by simp)
      | some content =>
        have all := (sound.flow content held live).of_stopped past
        exact ⟨content, rfl, all.1, all.2⟩
    · exact Response.poll_cut cancelled (by simp [open_]) kept
    · obtain ⟨after, found', turns⟩ := (run_append moves later).2 id response found
      exact ⟨after, found', (turns.cancelled cancelled).2.1⟩
    · obtain ⟨cut, found', body, stops⟩ := cuts.left found
      have last : run (moves ++ [move]) = next (run moves) move := List.foldl_append ..
      obtain ⟨after, found', turns⟩ := (run_append (moves ++ [move]) later).2 id cut (last ▸ found')
      obtain ⟨cancelled, delivered, clean⟩ := turns.cancelled (stops trivial)
      rw [body] at delivered clean
      rw [List.append_cons]
      exact ⟨after, found', delivered, Response.poll_cut cancelled (unclean ∘ clean)⟩
  · refine ⟨stopped handle retired, fun id => ?_, fun later => (run_append moves later).1.queues handle retired⟩
    rw [register_eq, if_pos retired]

/-- A response reads so many bytes of a file of five, from the second on, and its body is
polled once. -/
def Sample.reading (length : Nat) : List Move := [.beginGeneration 7 0 false, .enqueueResponse 9 (some 7) none,
  .step 9 (.prepared (.file [1, 2, 3, 4, 5] 1 length) true), .step 9 .go, .step 9 (.read 64), .step 9 .go, .poll 9]

/-- The four that are there are delivered. Where there should be eight, the next read, or the
retirement of the generation, ends the body with an error. -/
theorem slice_delivered :
    (run (Sample.reading 4 ++ [.step 9 .go, .step 9 .go, .poll 9])).tasks.find 9 =
      some ⟨⟨some 0, none⟩, some (.file [1, 2, 3, 4, 5] 1 4), ⟨[], true, false⟩, .draining,
        ⟨[2, 3, 4, 5], some .clean, false⟩⟩ ∧
    ∀ move ∈ [Move.step 9 (.read 64), .retire 0], ∀ later, ∃ after,
      (run (Sample.reading 8 ++ move :: later)).tasks.find 9 = some after ∧ after.body.delivered = [2, 3, 4, 5] ∧
        (after.body.dropped = false → after.poll.body.ended = some .error) := by
  refine ⟨by decide +kernel, fun move member => ?_⟩
  have found : (run (Sample.reading 8)).tasks.find 9 = some ⟨⟨some 0, none⟩, some (.file [1, 2, 3, 4, 5] 1 8), .new,
      .reading [1, 2, 3, 4, 5] 5 4, ⟨[2, 3, 4, 5], none, false⟩⟩ := by decide +kernel
  have held : 9 ∈ ((run (Sample.reading 8)).gate 0).queues := by decide +kernel
  have cuts := ((delivery_faithful (Sample.reading 8)).1 9 _ found).2.2.2.2.1 move
  rcases List.mem_pair.mp member with rfl | rfl
  · exact cuts (.short rfl (by decide) rfl) nofun
  · exact cuts (.retire held) nofun

end Duskcue.VodLifecycle
