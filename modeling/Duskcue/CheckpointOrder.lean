import Duskcue.CheckpointReporter
import Mathlib.Data.Int.Order.Basic

/-! What the reports of a checkpoint reporter keep to in any order of calls and answers: one at a
time, in increasing sequence, and none behind a failed one until the server has been read. What a
call has decided may be out of date when its promise goes on. -/
namespace Duskcue.CheckpointReporter

/-! ## The record -/

/-- The sequences sent by reports of an epoch. -/
def sequencesSent (epoch : Nat) (log : List Event) : List Int := log.filterMap fun
  | .sent report _ => if report.epoch = epoch then some report.body.sequence else none
  | _ => none

/-- The sequences read back in an epoch. -/
def readBack (epoch : Nat) (log : List Event) : List Int := log.filterMap fun
  | .reconciled earlier sequence => if earlier = epoch then some sequence else none
  | _ => none

/-- The sequence confirmed last in an epoch. -/
def adopted (epoch : Nat) : List Event → Int
  | [] => 0
  | .answered report :: past => if report.epoch = epoch then report.body.sequence else adopted epoch past
  | .reconciled earlier sequence :: past => if earlier = epoch then sequence else adopted epoch past
  | _ :: past => adopted epoch past

/-- The sequences read back in the epoch of a report since it was made up. -/
def readSince (report : Report) : List Event → List Int
  | [] => []
  | .made other _ :: past => if other = report then [] else readSince report past
  | .reconciled epoch sequence :: past =>
    if epoch = report.epoch then sequence :: readSince report past else readSince report past
  | _ :: past => readSince report past

/-- No report has failed since the last successful `reconcile`. -/
def reconciledSince : List Event → Bool
  | [] => true
  | .failed _ _ :: _ => false
  | .reconciled _ _ :: _ => true
  | _ :: past => reconciledSince past

/-- No report of its own epoch has failed since the last successful `reconcile` or `reset`. -/
def clear : List Event → Bool
  | [] => true
  | .failed report epoch :: past => report.epoch ≠ epoch && clear past
  | .reconciled _ _ :: _ | .reset :: _ => true
  | _ :: past => clear past

/-- A condition on each event and what was before it. -/
def AllAlong (condition : Event → List Event → Prop) : List Event → Prop
  | [] => True
  | event :: past => condition event past ∧ AllAlong condition past

/-- A report is sent for the output that is current, in a sequence above all that were sent or
read back in its epoch, and not behind a failure. What is confirmed does not go back. -/
def Strict : Event → List Event → Prop
  | .sent report current, past =>
    (∀ earlier ∈ sequencesSent report.epoch past, earlier < report.body.sequence) ∧
      (∀ earlier ∈ readBack report.epoch past, earlier < report.body.sequence) ∧ current = true ∧
        reconciledSince past = true
  | .answered report, past => adopted report.epoch past ≤ report.body.sequence
  | .reconciled epoch sequence, past => adopted epoch past ≤ sequence
  | _, _ => True

/-- The same, where the output is current and what was read back is known when the report is made
up, a reset ends a failure, and an answer may be older than what was read since its report was
made up. -/
def Orderly : Event → List Event → Prop
  | .made report current, past =>
    current = true ∧ ∀ earlier ∈ readBack report.epoch past, earlier < report.body.sequence
  | .sent report _, past =>
    .made report true ∈ past ∧ (∀ earlier ∈ sequencesSent report.epoch past, earlier < report.body.sequence) ∧
      clear past = true
  | .answered report, past =>
    adopted report.epoch past ≤ report.body.sequence ∨
      ∃ later ∈ readSince report past, report.body.sequence < later
  | .reconciled epoch sequence, past => adopted epoch past ≤ sequence
  | .failed _ _, _ | .reset, _ => True

instance Strict.decidable : ∀ event past, Decidable (Strict event past)
  | .sent _ _, _ => inferInstanceAs (Decidable (_ ∧ _ ∧ _ ∧ _))
  | .answered _, _ => inferInstanceAs (Decidable (_ ≤ _))
  | .reconciled _ _, _ => inferInstanceAs (Decidable (_ ≤ _))
  | .made _ _, _ | .failed _ _, _ | .reset, _ => .isTrue trivial

instance AllAlong.decidable {condition : Event → List Event → Prop}
    [∀ event past, Decidable (condition event past)] : ∀ log, Decidable (AllAlong condition log)
  | [] => .isTrue trivial
  | event :: past =>
    have : Decidable (AllAlong condition past) := AllAlong.decidable past
    inferInstanceAs (Decidable (condition event past ∧ AllAlong condition past))

/-! ## What a move changes -/

/-- What reports depend on. -/
structure Core where
  sequence : Int
  inFlight : Option Nat
  uncertain : Bool
  confirmed : Option Reply
  epoch : Nat
  pending : List Pending
  log : List Event

def State.core (s : State) : Core := ⟨s.sequence, s.inFlight, s.uncertain, s.confirmed, s.epoch, s.pending, s.log⟩

def advance (pending : List Pending) (id : Nat) (phase : Phase) : List Pending :=
  pending.map fun pending => if pending.report.id = id then { pending with phase } else pending

/-- What a move can do to reports. -/
inductive Change : Core → Core → Prop
  | kept (c : Core) : Change c c
  /-- A flush has used a sequence up without a report. -/
  | skipped (c : Core) {sequence : Int} (more : c.sequence ≤ sequence) : Change c { c with sequence }
  | made (c : Core) {report : Report} (idle : c.inFlight = none) (certain : c.uncertain = false)
      (own : report.epoch = c.epoch) (more : c.sequence < report.body.sequence) :
      Change c { c with
        sequence := report.body.sequence, inFlight := some report.id, pending := ⟨report, .queued⟩ :: c.pending
        log := .made report true :: c.log }
  | sent (c : Core) {report : Report} (current : Bool) (found : ⟨report, .queued⟩ ∈ c.pending) :
      Change c { c with pending := advance c.pending report.id .sent, log := .sent report current :: c.log }
  | ignored (c : Core) {report : Report} (found : ⟨report, .sent⟩ ∈ c.pending) :
      Change c { c with pending := advance c.pending report.id (.settled false) }
  | answered (c : Core) {report : Report} {reply : Reply} (found : ⟨report, .sent⟩ ∈ c.pending)
      (own : report.epoch = c.epoch) (same : reply.sequence = some report.body.sequence) :
      Change c { c with
        pending := advance c.pending report.id (.settled false), confirmed := some reply
        log := .answered report :: c.log }
  | failed (c : Core) {report : Report} (found : ⟨report, .sent⟩ ∈ c.pending) :
      Change c { c with
        pending := advance c.pending report.id .failing, log := .failed report c.epoch :: c.log }
  | caught (c : Core) {report : Report} (found : ⟨report, .failing⟩ ∈ c.pending) :
      Change c { c with
        pending := advance c.pending report.id (.settled true), uncertain := report.epoch = c.epoch || c.uncertain }
  | finalized (c : Core) {report : Report} {failed : Bool} (found : ⟨report, .settled failed⟩ ∈ c.pending) :
      Change c { c with inFlight := none, pending := c.pending.filter (·.report.id ≠ report.id) }
  | reconciled (c : Core) {reply : Reply} {sequence : Int} (same : reply.sequence = some sequence)
      (greater : confirmedSequence c.confirmed ≤ sequence) :
      Change c { c with
        sequence := max c.sequence sequence, confirmed := some reply, uncertain := false
        log := .reconciled c.epoch sequence :: c.log }
  | reset (c : Core) :
      Change c { c with
        epoch := c.epoch + 1, sequence := 0, confirmed := none, uncertain := false, log := .reset :: c.log }

theorem lt_increment (safe : isSafeInteger (increment n) = true) : n < increment n := by
  unfold increment at safe ⊢
  split
  · omega
  · rename_i large
    simp [isSafeInteger, large] at safe

theorem le_increment (n : Int) : n ≤ increment n := by
  unfold increment
  split <;> omega

theorem change_observe (env : Env) (value : Option Observation) (s : State) :
    Change s.core (s.observe env value).1.core := by
  unfold State.observe
  split
  · exact .kept _
  · split
    · exact .kept _
    · split
      · exact .kept _
      · exact .kept _

theorem change_flush (env : Env) (force : Bool) (s : State) : Change s.core (s.flush env force).1.core := by
  unfold State.flush
  split
  · split
    · exact .kept _
    · split
      · exact .kept _
      · exact .kept _
  · rename_i idle
    split
    · exact .kept _
    · rename_i sample found
      split
      · exact .kept _
      · rename_i due
        simp only [Bool.or_eq_true, Bool.not_eq_true', not_or, Bool.not_eq_true, Bool.not_eq_false] at due
        dsimp only
        split
        · exact .skipped _ (le_increment _)
        · rename_i safe
          rw [due.1.2]
          have more : s.sequence < increment s.sequence := lt_increment (by simpa using safe)
          exact @Change.made s.core
            ⟨s.made, s.epoch, ⟨protocol, sample.output, increment s.sequence, sample.position, sample.state⟩⟩
            idle due.1.1 rfl more

theorem mem_of_find {pending : List Pending} {id : Nat}
    (there : pending.find? (·.report.id = id) = some found) : found ∈ pending :=
  List.mem_of_find?_eq_some there

theorem core_setWork (s : State) (id : Nat) (phase : WorkPhase) : (s.setWork id phase).core = s.core := rfl

theorem change_chain (env : Env) (work : Work) (s : State) : Change s.core (s.chain env work).core := by
  unfold State.chain
  split
  rename_i after waits same
  rw [core_setWork]
  split at same
  · obtain rfl : (s.flush env true).1 = after := congrArg Prod.fst same
    exact change_flush env true s
  · obtain rfl : s = after := congrArg Prod.fst same
    exact .kept _

theorem change_answer {s : State} (found : ⟨report, .sent⟩ ∈ s.pending) :
    Change s.core (s.answer report value).core := by
  unfold State.answer
  split
  · exact .ignored s.core found
  · rename_i own
    split
    · exact .failed s.core found
    · rename_i reply same
      have repeated : repeats report.body reply = true := (Option.filter_eq_some_iff.mp same).2
      simp only [repeats, Bool.and_eq_true, decide_eq_true_eq] at repeated
      exact .answered s.core found (not_not.mp own) repeated.1.1.1.2

theorem change_resume (reading : Reading) (s : State) : Change s.core (s.resume reading).core := by
  unfold State.resume
  split
  · exact .kept _
  · exact .kept _

theorem accepted_spec {s : State} {reply : Reply} {sequence : Int}
    (accepted : s.accepted env value = some (reply, sequence)) :
    reply.sequence = some sequence ∧ confirmedSequence s.confirmed ≤ sequence := by
  unfold State.accepted at accepted
  split at accepted
  · cases accepted
  · split at accepted
    · cases accepted
    · rename_i found
      split at accepted
      · rename_i valid
        cases accepted
        simp only [Bool.and_eq_true, decide_eq_true_eq] at valid
        exact ⟨found, valid.1.2⟩
      · cases accepted

theorem change_adopt (env : Env) (reading : Reading) (value : Option Reply) (s : State) :
    Change s.core (s.adopt env reading value).core := by
  unfold State.adopt
  dsimp only
  split
  · exact .kept _
  · split
    · exact .kept _
    · rename_i reply sequence accepted
      obtain ⟨same, greater⟩ := accepted_spec accepted
      exact .reconciled s.core same greater

theorem change_step (s : State) (move : Env × Move) : Change s.core (step s move).core := by
  obtain ⟨env, move⟩ := move
  cases move with
  | observe value => exact change_observe env value s
  | flush force => exact change_flush env force s
  | reconcile | discard => exact .kept _
  | reset => exact .reset s.core
  | dispatch =>
    dsimp only [step]
    split
    · rename_i found
      exact .sent s.core _ (mem_of_find found)
    · exact .kept _
  | answer =>
    dsimp only [step]
    split
    · rename_i found
      exact change_answer (mem_of_find found)
    · exact .kept _
  | fail =>
    dsimp only [step]
    split
    · rename_i found
      exact .failed s.core (mem_of_find found)
    · exact .kept _
  | caught =>
    dsimp only [step]
    split
    · rename_i found
      exact .caught s.core (mem_of_find found)
    · exact .kept _
  | finalize =>
    dsimp only [step]
    split
    · rename_i found
      exact .finalized s.core (mem_of_find found)
    · exact .kept _
  | chain =>
    dsimp only [step]
    split
    · split
      · exact change_chain env _ s
      · exact .kept _
    · exact .kept _
  | finish =>
    dsimp only [step]
    split
    · split
      · split <;> exact .kept _
      · exact .kept _
    · exact .kept _
  | resume =>
    dsimp only [step]
    split
    · split
      · split
        · exact change_resume _ s
        · exact .kept _
      · exact .kept _
    · exact .kept _
  | adopt _ value =>
    dsimp only [step]
    split
    · split
      · exact change_adopt env _ value s
      · exact .kept _
    · exact .kept _
  | unread =>
    dsimp only [step]
    split
    · split
      · exact .kept _
      · exact .kept _
    · exact .kept _

/-! ## What holds throughout -/

/-- The epoch and the sequence an event is about. -/
def Event.mark : Event → Option (Nat × Int)
  | .made report _ | .sent report _ | .answered report => some (report.epoch, report.body.sequence)
  | .reconciled epoch sequence => some (epoch, sequence)
  | .failed _ _ | .reset => none

variable {log : List Event} {epoch : Nat} {n : Int}

theorem mark_of_sequencesSent (sent : n ∈ sequencesSent epoch log) :
    ∃ event ∈ log, event.mark = some (epoch, n) := by
  obtain ⟨event, member, same⟩ := List.mem_filterMap.mp sent
  refine ⟨event, member, ?_⟩
  cases event with
  | sent =>
    dsimp only at same
    split at same
    · rename_i own
      cases same
      rw [← own]
      rfl
    · cases same
  | _ => cases same

theorem mark_of_readBack (read : n ∈ readBack epoch log) : ∃ event ∈ log, event.mark = some (epoch, n) := by
  obtain ⟨event, member, same⟩ := List.mem_filterMap.mp read
  refine ⟨event, member, ?_⟩
  cases event with
  | reconciled =>
    dsimp only at same
    split at same
    · rename_i own
      cases same
      rw [← own]
      rfl
    · cases same
  | _ => cases same

/-- What is confirmed was the sequence of an event. -/
theorem adopted_mark (epoch : Nat) (log : List Event) :
    adopted epoch log = 0 ∨ ∃ event ∈ log, event.mark = some (epoch, adopted epoch log) := by
  have later {event : Event} {past : List Event} {value : Int}
      (known : value = 0 ∨ ∃ event ∈ past, event.mark = some (epoch, value)) :
      value = 0 ∨ ∃ other ∈ event :: past, other.mark = some (epoch, value) :=
    known.imp_right fun ⟨other, member, same⟩ => ⟨other, List.mem_cons_of_mem _ member, same⟩
  induction log with
  | nil => exact .inl rfl
  | cons event past ih =>
    cases event with
    | answered report | reconciled earlier sequence =>
      unfold adopted
      split
      · rename_i own
        exact .inr ⟨_, List.mem_cons_self, by rw [← own]; rfl⟩
      · exact later ih
    | made | sent | failed | reset => exact later ih

/-- What holds of a report whose promise is not settled. -/
structure Standing (c : Core) (pending : Pending) : Prop where
  made : .made pending.report true ∈ c.log
  queued : pending.phase = .queued → c.uncertain = false ∧
    ∀ earlier ∈ sequencesSent pending.report.epoch c.log, earlier < pending.report.body.sequence
  waiting : pending.phase = .queued ∨ pending.phase = .sent → pending.report.epoch = c.epoch →
    adopted pending.report.epoch c.log ≤ pending.report.body.sequence ∨
      ∃ later ∈ readSince pending.report c.log, pending.report.body.sequence < later

/-- What every move keeps. -/
structure Sound (c : Core) : Prop where
  slot : c.pending = [] ∧ c.inFlight = none ∨
    ∃ pending, c.pending = [pending] ∧ c.inFlight = some pending.report.id
  bounded : ∀ event ∈ c.log, ∀ epoch n, event.mark = some (epoch, n) →
    epoch ≤ c.epoch ∧ (epoch = c.epoch → n ≤ c.sequence)
  positive : 0 ≤ c.sequence
  confirmed : confirmedSequence c.confirmed = adopted c.epoch c.log
  standing : ∀ pending ∈ c.pending, Standing c pending
  free : c.uncertain = false →
    (∀ pending ∈ c.pending, pending.phase = .failing → pending.report.epoch ≠ c.epoch) → clear c.log = true
  orderly : AllAlong Orderly c.log

theorem sound_new : Sound ({} : State).core where
  slot := .inl ⟨rfl, rfl⟩
  bounded := by simp [State.core]
  positive := Int.le_refl 0
  confirmed := rfl
  standing := by simp [State.core]
  free _ _ := rfl
  orderly := trivial

theorem advance_single (report : Report) (phase next : Phase) :
    advance [⟨report, phase⟩] report.id next = [⟨report, next⟩] := by simp [advance]

namespace Sound
variable {c : Core} {pending : Pending} {report : Report} {sequence : Int} (sound : Sound c)
include sound

/-- The promise of a report that is under way is the only one. -/
theorem only (found : pending ∈ c.pending) : c.pending = [pending] ∧ c.inFlight = some pending.report.id := by
  obtain ⟨empty, -⟩ | ⟨other, alone, busy⟩ := sound.slot
  · rw [empty] at found
    cases found
  · rw [alone] at found
    obtain rfl := List.mem_singleton.mp found
    exact ⟨alone, busy⟩

theorem idle (idle : c.inFlight = none) : c.pending = [] := by
  obtain ⟨empty, -⟩ | ⟨other, -, busy⟩ := sound.slot
  · exact empty
  · rw [idle] at busy
    cases busy

theorem le_sequence (member : event ∈ c.log) (about : event.mark = some (c.epoch, n)) : n ≤ c.sequence :=
  (sound.bounded event member _ _ about).2 rfl

theorem adopted_le : adopted c.epoch c.log ≤ c.sequence := by
  obtain none | ⟨event, member, about⟩ := adopted_mark c.epoch c.log
  · rw [none]
    exact sound.positive
  · exact sound.le_sequence member about

/-- Nothing has been confirmed in an epoch to come. -/
theorem adopted_succ : adopted (c.epoch + 1) c.log = 0 := by
  obtain none | ⟨event, member, about⟩ := adopted_mark (c.epoch + 1) c.log
  · exact none
  · exact absurd (sound.bounded event member _ _ about).1 (Nat.not_succ_le_self _)

theorem bounded_cons {event : Event} (more : c.sequence ≤ sequence)
    (fits : ∀ epoch n, event.mark = some (epoch, n) → epoch ≤ c.epoch ∧ (epoch = c.epoch → n ≤ sequence)) :
    ∀ other ∈ event :: c.log, ∀ epoch n, other.mark = some (epoch, n) →
      epoch ≤ c.epoch ∧ (epoch = c.epoch → n ≤ sequence) := by
  intro other member epoch n about
  rcases List.mem_cons.mp member with rfl | earlier
  · exact fits epoch n about
  · obtain ⟨old, within⟩ := sound.bounded other earlier epoch n about
    exact ⟨old, fun own => (within own).trans more⟩

/-- An event about a report that has been made up is in bounds as that one is. -/
theorem bounded_again {event : Event} (made : .made report true ∈ c.log)
    (same : event.mark = some (report.epoch, report.body.sequence)) :
    ∀ other ∈ event :: c.log, ∀ epoch n, other.mark = some (epoch, n) →
      epoch ≤ c.epoch ∧ (epoch = c.epoch → n ≤ c.sequence) := by
  refine sound.bounded_cons le_rfl fun epoch n about => ?_
  exact sound.bounded _ made epoch n (same.symm.trans about ▸ rfl)

theorem skipped (more : c.sequence ≤ sequence) : Sound { c with sequence } where
  slot := sound.slot
  bounded event member epoch n about :=
    ⟨(sound.bounded event member epoch n about).1,
      fun own => ((sound.bounded event member epoch n about).2 own).trans more⟩
  positive := sound.positive.trans more
  confirmed := sound.confirmed
  standing pending member :=
    have standing := sound.standing pending member
    ⟨standing.made, standing.queued, standing.waiting⟩
  free := sound.free
  orderly := sound.orderly

theorem made (idle : c.inFlight = none) (certain : c.uncertain = false)
    (own : report.epoch = c.epoch) (more : c.sequence < report.body.sequence) :
    Sound { c with
      sequence := report.body.sequence, inFlight := some report.id, pending := ⟨report, .queued⟩ :: c.pending
      log := .made report true :: c.log } := by
  have empty := sound.idle idle
  have below {n : Int} (about : ∃ event ∈ c.log, event.mark = some (report.epoch, n)) :
      n < report.body.sequence := by
    obtain ⟨event, member, same⟩ := about
    rw [own] at same
    exact (sound.le_sequence member same).trans_lt more
  rw [empty]
  refine
    { sound with
      slot := .inr ⟨_, rfl, rfl⟩
      bounded := sound.bounded_cons more.le ?_
      positive := sound.positive.trans more.le
      standing := ?_
      free := fun _ _ => sound.free certain (by simp [empty])
      orderly := ⟨⟨rfl, fun earlier read => below (mark_of_readBack read)⟩, sound.orderly⟩ }
  · intro epoch n about
    cases about
    exact ⟨own.le, fun _ => le_rfl⟩
  · intro pending member
    obtain rfl := List.mem_singleton.mp member
    refine ⟨List.mem_cons_self, fun _ => ⟨certain, fun earlier sent => ?_⟩, fun _ _ => .inl ?_⟩
    · exact below (mark_of_sequencesSent (by simpa [sequencesSent] using sent))
    · dsimp only [adopted]
      rw [own]
      exact sound.adopted_le.trans more.le

theorem sent (current : Bool) (found : ⟨report, .queued⟩ ∈ c.pending) :
    Sound { c with pending := advance c.pending report.id .sent, log := .sent report current :: c.log } := by
  obtain ⟨alone, busy⟩ := sound.only found
  have standing := sound.standing _ found
  obtain ⟨certain, increasing⟩ := standing.queued rfl
  have free : clear c.log = true := sound.free certain (by simp [alone])
  rw [alone, advance_single]
  exact
    { sound with
      slot := .inr ⟨_, rfl, busy⟩
      bounded := sound.bounded_again standing.made rfl
      standing := List.forall_mem_singleton.mpr
        ⟨List.mem_cons_of_mem _ standing.made, nofun, fun _ => standing.waiting (.inl rfl)⟩
      free := fun _ _ => free
      orderly := ⟨⟨standing.made, increasing, free⟩, sound.orderly⟩ }

theorem ignored (found : ⟨report, .sent⟩ ∈ c.pending) :
    Sound { c with pending := advance c.pending report.id (.settled false) } := by
  obtain ⟨alone, busy⟩ := sound.only found
  have standing := sound.standing _ found
  rw [alone, advance_single]
  exact
    { sound with
      slot := .inr ⟨_, rfl, busy⟩
      standing := List.forall_mem_singleton.mpr ⟨standing.made, nofun, nofun⟩
      free := fun certain _ => sound.free certain (by simp [alone]) }

theorem answered {reply : Reply} (found : ⟨report, .sent⟩ ∈ c.pending)
    (own : report.epoch = c.epoch) (same : reply.sequence = some report.body.sequence) :
    Sound { c with
      pending := advance c.pending report.id (.settled false), confirmed := some reply
      log := .answered report :: c.log } := by
  obtain ⟨alone, busy⟩ := sound.only found
  have standing := sound.standing _ found
  rw [alone, advance_single]
  exact
    { sound with
      slot := .inr ⟨_, rfl, busy⟩
      bounded := sound.bounded_again standing.made rfl
      confirmed := by simp [confirmedSequence, adopted, own, same]
      standing := List.forall_mem_singleton.mpr ⟨List.mem_cons_of_mem _ standing.made, nofun, nofun⟩
      free := fun certain _ => sound.free certain (by simp [alone])
      orderly := ⟨standing.waiting (.inr rfl) own, sound.orderly⟩ }

theorem failed (found : ⟨report, .sent⟩ ∈ c.pending) :
    Sound { c with pending := advance c.pending report.id .failing, log := .failed report c.epoch :: c.log } := by
  obtain ⟨alone, busy⟩ := sound.only found
  have standing := sound.standing _ found
  rw [alone, advance_single]
  refine
    { sound with
      slot := .inr ⟨_, rfl, busy⟩
      bounded := sound.bounded_cons le_rfl nofun
      standing := List.forall_mem_singleton.mpr ⟨List.mem_cons_of_mem _ standing.made, nofun, nofun⟩
      free := fun certain late => ?_
      orderly := ⟨trivial, sound.orderly⟩ }
  have old : report.epoch ≠ c.epoch := late _ List.mem_cons_self rfl
  have free : clear c.log = true := sound.free certain (by simp [alone])
  simp [clear, old, free]

theorem caught (found : ⟨report, .failing⟩ ∈ c.pending) :
    Sound { c with
      pending := advance c.pending report.id (.settled true), uncertain := report.epoch = c.epoch || c.uncertain } := by
  obtain ⟨alone, busy⟩ := sound.only found
  have standing := sound.standing _ found
  rw [alone, advance_single]
  refine
    { sound with
      slot := .inr ⟨_, rfl, busy⟩
      standing := List.forall_mem_singleton.mpr ⟨standing.made, nofun, nofun⟩
      free := fun certain _ => ?_ }
  simp only [Bool.or_eq_false_iff, decide_eq_false_iff_not] at certain
  exact sound.free certain.2 (by simp [alone, certain.1])

theorem finalized {failed : Bool} (found : ⟨report, .settled failed⟩ ∈ c.pending) :
    Sound { c with inFlight := none, pending := c.pending.filter (·.report.id ≠ report.id) } := by
  obtain ⟨alone, -⟩ := sound.only found
  have gone : c.pending.filter (·.report.id ≠ report.id) = [] := by simp [alone]
  rw [gone]
  exact
    { sound with
      slot := .inl ⟨rfl, rfl⟩
      standing := nofun
      free := fun certain _ => sound.free certain (by simp [alone]) }

theorem reconciled {reply : Reply} (same : reply.sequence = some sequence)
    (greater : confirmedSequence c.confirmed ≤ sequence) :
    Sound { c with
      sequence := max c.sequence sequence, confirmed := some reply, uncertain := false
      log := .reconciled c.epoch sequence :: c.log } where
  slot := sound.slot
  bounded := by
    refine sound.bounded_cons (le_max_left _ _) fun epoch n about => ?_
    cases about
    exact ⟨le_rfl, fun _ => le_max_right _ _⟩
  positive := sound.positive.trans (le_max_left _ _)
  confirmed := by simp [confirmedSequence, adopted, same]
  standing pending member := by
    have standing := sound.standing pending member
    refine ⟨List.mem_cons_of_mem _ standing.made, fun queued => ⟨rfl, (standing.queued queued).2⟩,
      fun _ own => ?_⟩
    change pending.report.epoch = c.epoch at own
    -- The report is behind what has been read, or in front of it.
    by_cases within : sequence ≤ pending.report.body.sequence
    · exact .inl (by simpa [adopted, own] using within)
    · exact .inr ⟨sequence, by simp [readSince, own], not_le.mp within⟩
  free _ _ := rfl
  orderly := ⟨sound.confirmed.symm.trans_le greater, sound.orderly⟩

theorem reset : Sound { c with
      epoch := c.epoch + 1, sequence := 0, confirmed := none, uncertain := false, log := .reset :: c.log } where
  slot := sound.slot
  bounded event member epoch n about := by
    rcases List.mem_cons.mp member with rfl | earlier
    · cases about
    · have old := (sound.bounded event earlier epoch n about).1
      exact ⟨old.trans (Nat.le_succ _), fun own => absurd (own ▸ old) (Nat.not_succ_le_self _)⟩
  positive := Int.le_refl 0
  confirmed := sound.adopted_succ.symm
  standing pending member := by
    have standing := sound.standing pending member
    have old : pending.report.epoch ≤ c.epoch := (sound.bounded _ standing.made _ _ rfl).1
    exact ⟨List.mem_cons_of_mem _ standing.made, fun queued => ⟨rfl, (standing.queued queued).2⟩,
      fun _ own => absurd (own ▸ old) (Nat.not_succ_le_self _)⟩
  free _ _ := rfl
  orderly := ⟨trivial, sound.orderly⟩

theorem change (change : Change c after) : Sound after := by
  cases change with
  | kept => exact sound
  | skipped more => exact sound.skipped more
  | made idle certain own more => exact sound.made idle certain own more
  | sent current found => exact sound.sent current found
  | ignored found => exact sound.ignored found
  | answered found own same => exact sound.answered found own same
  | failed found => exact sound.failed found
  | caught found => exact sound.caught found
  | finalized found => exact sound.finalized found
  | reconciled same greater => exact sound.reconciled same greater
  | reset => exact sound.reset

end Sound

theorem sound_run (moves : List (Env × Move)) : Sound (run moves).core :=
  List.foldlRecOn moves step (motive := fun s => Sound s.core) sound_new
    fun s sound move _ => sound.change (change_step s move)

/-- In every state reached at most one report is under way, and all that happened is in order. -/
theorem reporter_orderly (moves : List (Env × Move)) :
    (run moves).pending.length ≤ 1 ∧ AllAlong Orderly (run moves).log := by
  have sound := sound_run moves
  refine ⟨?_, sound.orderly⟩
  obtain ⟨empty, -⟩ | ⟨pending, alone, -⟩ := sound.slot
  · exact (congrArg List.length empty).trans_le (Nat.zero_le 1)
  · exact (congrArg List.length alone).le

/-! ## Runs that are not strict -/

def sampleOutput : List Char := "01920000-0000-7000-8000-000000000001".toList

/-- The output is current. -/
def playing : Env := ⟨fun output => output = sampleOutput, 0⟩

/-- Another output is current. -/
def replaced : Env := ⟨fun output => output ≠ sampleOutput, 0⟩

def sampleObservation : Move := .observe (some ⟨true, sampleOutput, some 1000, "playing".toList⟩)

def reading (sequence : Int) : Reply := ⟨protocol, some sequence, some sampleOutput, some 1000, "playing".toList⟩

/-- A report fails, and a reset lets the next one go out. -/
def failedRun : List (Env × Move) :=
  [sampleObservation, .flush true, .dispatch 0, .fail 0, .caught 0, .finalize 0, .reset, sampleObservation,
    .flush true, .dispatch 1].map (playing, ·)

/-- The output is replaced in the turn of the flush, before `send` is called. -/
def replacedRun : List (Env × Move) :=
  [(playing, sampleObservation), (playing, .flush true), (replaced, .reset), (replaced, .dispatch 0)]

/-- The answer to a `read` is taken up between a flush and its `send`. -/
def passedRun : List (Env × Move) :=
  [.reconcile, sampleObservation, .flush true, .adopt 0 (some (reading 10)), .dispatch 1].map (playing, ·)

/-- The answer to a report comes behind that to a `read`. -/
def overtakenRun : List (Env × Move) :=
  [.reconcile, sampleObservation, .flush true, .dispatch 1, .adopt 0 (some (reading 10)),
    .answer 1 (some (reading 1))].map (playing, ·)

theorem reporter_not_strict :
    ¬ AllAlong Strict (run failedRun).log ∧ ¬ AllAlong Strict (run replacedRun).log ∧
      ¬ AllAlong Strict (run passedRun).log ∧ ¬ AllAlong Strict (run overtakenRun).log := by decide +kernel

end Duskcue.CheckpointReporter
