import Duskcue.OwnerAttempts
import Duskcue.OwnerAuthority

/-! The refusals of a household over whole runs. A series is the refused proofs since
the last proof that was made or lockout that ran out; the counter is its length, and
the fifth refusal of a series locks the household for a quarter of an hour. -/
namespace Duskcue.Household
open Playback (Uuid Time second)
open Transaction Relation

variable {series : List Time} {move : Move}

variable {s s' : Store} {env : Verifiers} {user : Uuid}

/-! ## Series of refusals -/

/-- The state a transaction starts from. -/
def begun (s : Store) (move : Move) : Store := { s with now := s.now + move.wait, pauses := move.pauses }

/-- Who makes an attempt to prove who they are. -/
def Action.prover : Action → Option Scope
  | .password actor .. => some actor
  | .finish actor .. => some actor
  | _ => none

inductive Outcome
  | refused | cleared | other
  deriving DecidableEq

/-- An attempt counts when it gets past the opening; it is refused when it then answers with an
invalid proof. -/
def attempted (opened : Tx Int) (tx : Tx (Except OwnerError Proven)) (s : Store) : Outcome :=
  match opened.run s, (settle tx s).1 with
  | .ok _, .ok (.ok _) => .cleared
  | .ok _, .ok (.error .invalidProof) => .refused
  | .ok _, .error .invalidProof => .refused
  | _, _ => .other

/-- What a transaction means for the series of a household. -/
def outcome (env : Verifiers) (user : Uuid) (s : Store) : Action → Outcome
  | .password actor request slot token =>
    if actor.user = user then attempted (opening env actor) (password env actor request slot token) s else .other
  | .finish actor request slot fresh token elapsed =>
    if actor.user = user then attempted (opening env actor) (finish env actor request slot fresh token elapsed) s
    else .other
  | .start actor request =>
    match (settle (start env actor request) s).1 with
    | .ok (.error _) => if actor.user = user then .refused else .other
    | _ => .other
  | .issueHandoff owner token =>
    match (settle (issueHandoff env owner token) s).1 with
    | .ok _ => if owner = user then .cleared else .other
    | .error _ => .other
  | _ => .other

/-- The lockout of a full series has run out. -/
def ranOut (series : List Time) (now : Time) : Bool :=
  decide (series.length = 5) && series.getLast?.all (· + 15 * minute ≤ now)

def reckon (series : List Time) (now : Time) : Outcome → List Time
  | .refused => if ranOut series now then [now] else series ++ [now]
  | .cleared => []
  | .other => series

/-- The series after a run, oldest refusal first. -/
def seriesAfter (env : Verifiers) (user : Uuid) (s : Store) (series : List Time) : List Move → List Time
  | [] => series
  | move :: moves =>
    seriesAfter env user (next env s move)
      (reckon series (next env s move).now (outcome env user (begun s move) move.action)) moves

/-- A fitting password is not overtaken by the expiry of its session or of its handoff. -/
def Lasting (env : Verifiers) (s : Store) (move : Move) : Prop :=
  match move.action with
  | .password actor request _ _ => Fits env s actor request →
    (∀ row, s.userSessions.find actor.session = some row → (begun s move).now < row.expiresAt →
      horizon (begun s move) < row.expiresAt) ∧
    (request.handoff.isSome = true → ∀ row, s.handoffs.find actor.user = some row →
      (begun s move).now < row.expiresAt → horizon (begun s move) < row.expiresAt)
  | _ => True

/-! ## One transaction -/

/-- The series is what the counter says. -/
structure Counted (s : Store) (user : Uuid) (series : List Time) : Prop where
  attempts : (stateOf s user).failedAttempts = series.length
  most : series.length ≤ 5
  lock : (stateOf s user).lockedUntil = if series.length = 5 then series.getLast?.map (· + 15 * minute) else none

theorem Counted.of_tally (counted : Counted s user series) (same : tally s' user = tally s user) :
    Counted s' user series := by
  obtain ⟨attempts, lock⟩ := Prod.mk.inj same
  exact ⟨attempts.trans counted.attempts, counted.most, lock.trans counted.lock⟩

theorem counted_clear (cleared : tally s user = (0, none)) : Counted s user [] := by
  obtain ⟨attempts, lock⟩ := Prod.mk.inj cleared
  exact ⟨attempts, by simp, by simpa using lock⟩

theorem stateOf_refusal (challenges : Table Nat Challenge) (now : Time) (pauses : List Nat) :
    stateOf (refusal s user challenges now pauses) user = failedOnce now (stateOf s user) := by
  rw [stateOf_put rfl, if_pos rfl]

/-- A refusal counts once: as the first of a series when a lockout has run out. -/
theorem Counted.refuse (counted : Counted s user series)
    (free : (stateOf s user).lockedUntil.all (· ≤ opened) = true) (later : opened ≤ now)
    (challenges : Table Nat Challenge) (pauses : List Nat) :
    Counted (refusal s user challenges now pauses) user (reckon series now .refused) := by
  have attempts := counted.attempts
  have most := counted.most
  have lock := counted.lock
  by_cases full : series.length = 5
  · obtain ⟨last, shape⟩ : ∃ last, series.getLast? = some last := by
      cases shape : series.getLast? with
      | none => simp [List.getLast?_eq_none_iff.mp shape] at full
      | some last => exact ⟨last, rfl⟩
    rw [if_pos full, shape, Option.map_some] at lock
    rw [lock, Option.all_some, decide_eq_true_eq] at free
    have over' : ranOut series now = true := by
      simp [ranOut, full, shape, le_trans free later]
    have expired : (stateOf s user).lockedUntil.any (· ≤ now) = true := by
      simp [lock, le_trans free later]
    simp only [reckon, over', if_true]
    refine ⟨?_, by simp, ?_⟩
    · rw [stateOf_refusal, failedOnce, if_pos expired]
      rfl
    · rw [stateOf_refusal, failedOnce, if_pos expired]
      rfl
  · rw [if_neg full] at lock
    have open' : ranOut series now = false := by simp [ranOut, full]
    simp only [reckon, open', Bool.false_eq_true, if_false]
    refine ⟨?_, by simp; omega, ?_⟩
    · rw [stateOf_refusal, failedOnce, lock, Option.any_none, if_neg (by simp), attempts]
      simp
      omega
    · rw [stateOf_refusal, failedOnce, lock, Option.any_none, if_neg (by simp), attempts]
      by_cases four : series.length = 4
      · simp [four]
      · have below : ¬ (5 : Int) ≤ series.length + 1 := by omega
        simp [four, below]

/-- An attempt of somebody else's leaves the counter alone. -/
theorem settle_kept {tx : Tx Unit} (kept : Within (Kept user) tx) : tally (settle tx s).2 user = tally s user := by
  rcases settle_cases tx s with ⟨u, after, ran, settled⟩ | ⟨error, -, settled⟩
  · rw [settled]
    exact kept_of_within kept ran
  · rw [settled]

theorem settle_discard {α : Type} {tx : Tx α} : (settle (do let _ ← tx) s).2 = (settle tx s).2 := by
  rcases settle_cases tx s with ⟨a, after, ran, settled⟩ | ⟨error, failed, settled⟩
  · rw [settled, settle, run_bind_of_yields ran]
    rfl
  · rw [settled, settle, run_bind_of_error failed]

/-- What an attempt means, from what it does behind the opening. -/
theorem attempted_cases {actor : Scope} {tx : Tx (Except OwnerError Proven)} {rest : Int → Tx (Except OwnerError Proven)}
    {valid : Bool} {challenges : Table Nat Challenge}
    (shape : tx = (do
      ensure valid .invalidRequest
      let revision ← opening env actor
      rest revision))
    (clears : ∀ revision t proven t', Yields (rest revision) t (.ok proven) t' → tally t' actor.user = (0, none))
    (refuses : ∀ revision t error t', Ticked { s with ownerState := housed s actor.user } t →
      Yields (rest revision) t (.error error) t' →
        error = .invalidProof ∧ ∃ now pauses, t.now ≤ now ∧ t' = refusal s actor.user challenges now pauses)
    (spares : ∀ revision t, Yields (opening env actor) s revision t →
      ∀ error, (rest revision).run t = .error error → error ≠ .invalidProof) :
    (attempted (opening env actor) tx s = .cleared ∧ tally (settle tx s).2 actor.user = (0, none)) ∨
      (attempted (opening env actor) tx s = .refused ∧ ∃ opened now pauses, opened ≤ now ∧
        (stateOf s actor.user).lockedUntil.all (· ≤ opened) = true ∧
        (settle tx s).2 = refusal s actor.user challenges now pauses) ∨
      (attempted (opening env actor) tx s = .other ∧ (settle tx s).2 = s) := by
  rcases settle_cases tx s with ⟨reply, after, ran, settled⟩ | ⟨error, failed, settled⟩
  · rw [shape] at ran
    obtain ⟨-, ran⟩ := yields_ensure_bind.mp ran
    obtain ⟨revision, t, entered, rested⟩ := yields_bind.mp ran
    have opened : (opening env actor).run s = .ok (revision, t) := entered
    obtain ⟨now, pauses, later, same, free⟩ := opening_yields entered
    subst same
    unfold attempted
    rw [opened, settled]
    cases reply with
    | ok => exact .inl ⟨rfl, clears _ _ _ _ rested⟩
    | error =>
      obtain ⟨rfl, now', pauses', later', same⟩ := refuses _ _ _ _ ⟨now, pauses, later, rfl⟩ rested
      exact .inr (.inl ⟨rfl, now, now', pauses', later', free, same⟩)
  · refine .inr (.inr ⟨?_, by rw [settled]⟩)
    unfold attempted
    rw [settled]
    cases opened : (opening env actor).run s with
    | error => rfl
    | ok reply =>
      obtain ⟨revision, t⟩ := reply
      have other : error ≠ .invalidProof := by
        rw [shape] at failed
        cases valid with
        | false =>
          cases failed
          simp
        | true =>
          rw [ensure_met rfl, pure_bind, run_bind_of_yields opened] at failed
          exact spares revision t opened error failed
      cases error with
      | invalidProof => exact absurd rfl other
      | _ => rfl

theorem password_cases {actor : Scope} {request : PasswordRequest} {slot : Bool} {token : String}
    (lasts : Fits env s actor request →
      (∀ row, s.userSessions.find actor.session = some row → s.now < row.expiresAt → horizon s < row.expiresAt) ∧
      (request.handoff.isSome = true → ∀ row, s.handoffs.find actor.user = some row →
        s.now < row.expiresAt → horizon s < row.expiresAt)) :
    (attempted (opening env actor) (password env actor request slot token) s = .cleared ∧
        tally (settle (password env actor request slot token) s).2 actor.user = (0, none)) ∨
      (attempted (opening env actor) (password env actor request slot token) s = .refused ∧
        ∃ opened now pauses, opened ≤ now ∧ (stateOf s actor.user).lockedUntil.all (· ≤ opened) = true ∧
        (settle (password env actor request slot token) s).2 = refusal s actor.user s.challenges now pauses) ∨
      (attempted (opening env actor) (password env actor request slot token) s = .other ∧
        (settle (password env actor request slot token) s).2 = s) := by
  refine attempted_cases rfl (fun _ _ _ _ ran => provePassword_clears ran)
    (fun _ _ _ _ ticked ran => provePassword_refuses ticked ran) fun revision t entered error failed => ?_
  obtain ⟨row, found, bound, fresh⟩ := opening_bound entered
  obtain ⟨sessions, time⟩ := seated_of_within (opening_seated actor) entered
  obtain ⟨now, pauses, later, rfl, -⟩ := opening_yields entered
  have spares : Transaction.Spares Invalid (provePassword env actor request slot token)
      { s with ownerState := housed s actor.user, now, pauses } fun _ _ => True := by
    refine provePassword_spares found bound (fun fits => ?_) fun fits presented handoff held before => ?_
    · rw [time]
      exact (lasts fits).1 row found fresh
    · rw [time]
      exact (lasts fits).2 presented handoff held (lt_of_le_of_lt later before)
  exact spares.1 error failed

theorem finish_cases (actor : Scope) (request : PasskeyFinish) (slot : Bool) (fresh : Uuid) (token : String)
    (elapsed : Nat) :
    (attempted (opening env actor) (finish env actor request slot fresh token elapsed) s = .cleared ∧
        tally (settle (finish env actor request slot fresh token elapsed) s).2 actor.user = (0, none)) ∨
      (attempted (opening env actor) (finish env actor request slot fresh token elapsed) s = .refused ∧
        ∃ opened now pauses, opened ≤ now ∧ (stateOf s actor.user).lockedUntil.all (· ≤ opened) = true ∧
        (settle (finish env actor request slot fresh token elapsed) s).2 =
          refusal s actor.user (unpresented s actor request.challengeId) now pauses) ∨
      (attempted (opening env actor) (finish env actor request slot fresh token elapsed) s = .other ∧
        (settle (finish env actor request slot fresh token elapsed) s).2 = s) := by
  have shape : finish env actor request slot fresh token elapsed = (do
      ensure true .invalidRequest
      let revision ← opening env actor
      proveChallenge env actor request slot fresh token elapsed revision) := rfl
  refine attempted_cases shape (fun _ _ _ _ ran => proveChallenge_clears ran)
    (fun _ _ _ _ ticked ran => proveChallenge_refuses ticked ran) fun revision t _ error failed => ?_
  exact proveChallenge_raises actor request slot fresh token elapsed revision t error failed

/-! ## Runs -/

theorem Counted.attempt {actor : Scope} {tx : Tx (Except OwnerError Proven)} (counted : Counted s actor.user series)
    (settled : next env s move = (settle tx (begun s move)).2)
    (means : outcome env actor.user (begun s move) move.action = attempted (opening env actor) tx (begun s move))
    (cases : (attempted (opening env actor) tx (begun s move) = .cleared ∧
        tally (settle tx (begun s move)).2 actor.user = (0, none)) ∨
      (attempted (opening env actor) tx (begun s move) = .refused ∧ ∃ opened now pauses, opened ≤ now ∧
        (stateOf (begun s move) actor.user).lockedUntil.all (· ≤ opened) = true ∧
        (settle tx (begun s move)).2 = refusal (begun s move) actor.user challenges now pauses) ∨
      (attempted (opening env actor) tx (begun s move) = .other ∧ (settle tx (begun s move)).2 = begun s move)) :
    Counted (next env s move) actor.user
      (reckon series (next env s move).now (outcome env actor.user (begun s move) move.action)) := by
  rw [means, settled]
  rcases cases with ⟨answer, cleared⟩ | ⟨answer, opened, now, pauses, later, free, same⟩ | ⟨answer, same⟩
  · rw [answer]
    exact counted_clear cleared
  · rw [answer, same]
    exact Counted.refuse (counted.of_tally rfl) free later challenges pauses
  · rw [answer, same]
    exact counted.of_tally rfl

section
variable (counted : Counted s user series)
include counted

theorem Counted.ceremony (actor : Scope) (request : PasskeyStart) :
    Counted (settle (start env actor request) (begun s move)).2 user
      (reckon series (settle (start env actor request) (begun s move)).2.now
        (outcome env user (begun s move) (.start actor request))) := by
  simp only [outcome]
  rcases settle_cases (start env actor request) (begun s move) with
    ⟨reply, after, ran, settled⟩ | ⟨error, _, settled⟩
  · rw [settled]
    obtain ⟨revision, t, entered, cases⟩ := start_cases ran
    have before : tally t user = tally (begun s move) user := kept_of_within (opening_kept actor) entered
    rcases cases with ⟨⟨value, rfl⟩, kept⟩ | ⟨t', more, refused⟩
    · exact counted.of_tally ((kept user).trans before)
    · by_cases mine : actor.user = user
      · subst mine
        obtain ⟨now, pauses, later, rfl, free⟩ := opening_yields entered
        obtain ⟨rfl, now', pauses', later', rfl⟩ :=
          failed_refuses (s := begun s move) (begun s move).challenges (Ticked.trans ⟨now, pauses, later, rfl⟩ more) refused
        obtain ⟨_, _, later'', rfl⟩ := more
        rw [if_pos rfl]
        exact Counted.refuse (counted.of_tally rfl) free (le_trans later'' later') _ _
      · obtain ⟨_, rfl, -⟩ := failed_yields .refl refused
        rw [if_neg mine]
        obtain ⟨_, _, -, rfl⟩ := more
        exact counted.of_tally ((kept_of_within (failed_kept (Ne.symm mine)) refused).trans before)
  · rw [settled]
    exact counted.of_tally rfl

theorem Counted.handoff (owner : Uuid) (token : String) :
    Counted (settle (issueHandoff env owner token) (begun s move)).2 user
      (reckon series (settle (issueHandoff env owner token) (begun s move)).2.now
        (outcome env user (begun s move) (.issueHandoff owner token))) := by
  simp only [outcome]
  rcases settle_cases (issueHandoff env owner token) (begun s move) with
    ⟨answer, after, ran, settled⟩ | ⟨error, _, settled⟩
  · rw [settled]
    by_cases mine : owner = user
    · subst mine
      rw [if_pos rfl]
      exact counted_clear (issueHandoff_clears ran)
    · rw [if_neg mine]
      have kept : tally after user = tally (begun s move) user :=
        kept_of_within (issueHandoff_kept (Ne.symm mine) token) ran
      exact counted.of_tally kept
  · rw [settled]
    exact counted.of_tally rfl

theorem Counted.next (lasting : Lasting env s move) : Counted (next env s move) user
      (reckon series (next env s move).now (outcome env user (begun s move) move.action)) := by
  obtain ⟨wait, pauses, action⟩ := move
  have aside {action : Action} (kept : Within (Kept user) (perform env action))
      (means : outcome env user (begun s ⟨wait, pauses, action⟩) action = .other) :
      Counted (Household.next env s ⟨wait, pauses, action⟩) user
        (reckon series (Household.next env s ⟨wait, pauses, action⟩).now
          (outcome env user (begun s ⟨wait, pauses, action⟩) action)) := by
    rw [means]
    exact counted.of_tally (settle_kept (s := begun s ⟨wait, pauses, action⟩) kept)
  cases action with
  | password actor =>
    by_cases mine : actor.user = user
    · subst mine
      exact counted.attempt settle_discard (if_pos rfl) (password_cases lasting)
    · refine aside (.bind ?_ fun _ => .pure) (if_neg mine)
      exact .bind .ensure fun _ => .bind (opening_kept actor) fun _ => provePassword_kept (Ne.symm mine) _ _ _
  | finish actor request slot fresh token elapsed =>
    by_cases mine : actor.user = user
    · subst mine
      exact counted.attempt settle_discard (if_pos rfl) (finish_cases actor request slot fresh token elapsed)
    · refine aside (.bind ?_ fun _ => .pure) (if_neg mine)
      exact .bind (opening_kept actor) fun _ => proveChallenge_kept (Ne.symm mine) _ _ _ _ _ _
  | start actor request =>
    show Counted (settle (do let _ ← start env actor request) _).2 user
      (reckon series (settle (do let _ ← start env actor request) _).2.now _)
    rw [settle_discard]
    exact counted.ceremony actor request
  | issueHandoff owner token =>
    show Counted (settle (do let _ ← issueHandoff env owner token) _).2 user
      (reckon series (settle (do let _ ← issueHandoff env owner token) _).2.now _)
    rw [settle_discard]
    exact counted.handoff owner token
  | lock actor => exact aside (lock_kept actor) rfl
  | revokeManagement owner => exact aside (.bind (begin_kept owner) fun _ => invalidate_kept owner) rfl
  | addPasskey actor revision fresh row =>
    exact aside (addPasskey_within clock_kept (fun _ => aside_kept fun _ => rfl) actor revision fresh row begin_kept
      invalidate_kept) rfl
  | deletePasskey actor id => exact aside (deletePasskey_kept actor id) rfl
  | createProfile actor owner fresh standard => exact aside (createProfile_kept actor owner fresh standard) rfl
  | deleteProfile actor owner id => exact aside (deleteProfile_kept actor owner id) rfl
  | openSession =>
    exact aside (.bind .get fun _ => .bind .ensure fun _ => aside_kept fun _ => rfl) rfl
  | closeSession => exact aside (aside_kept fun _ => rfl) rfl
  | selectProfile id profile => exact aside (selectProfile_kept id profile) rfl
  | changeAccount owner active passwordHash => exact aside (changeAccount_kept owner active passwordHash) rfl

theorem run_counted (lasting : ∀ front move back, moves = front ++ move :: back → Lasting env (run env s front) move) :
    Counted (run env s moves) user (seriesAfter env user s series moves) := by
  induction moves generalizing s series with
  | nil => exact counted
  | cons move moves ih =>
    refine ih (counted.next (lasting [] move moves rfl)) fun front later back shape => ?_
    exact lasting (move :: front) later back (by rw [shape, List.cons_append])

end

/-- The attempt ends with one and the same error, whatever a comparison of the password or a
verification of the assertion would say. -/
def Unevaluated (env : Verifiers) (s : Store) (action : Action) : Prop :=
  ∃ error, ∀ other : Verifiers, other.contextDigest = env.contextDigest →
    (perform other action).run s = .error error

theorem opening_congr {other : Verifiers} (same : other.contextDigest = env.contextDigest) (actor : Scope) :
    opening other actor = opening env actor := by
  have contexts (scope : Scope) : readContext other scope = readContext env scope := by
    unfold readContext
    rw [same]
  have checks (scope : Scope) : Household.checkContext other scope = Household.checkContext env scope := by
    unfold Household.checkContext
    simp only [contexts]
  simp only [opening, sessionScope, checks]

/-- An attempt either is over before its proof is looked at, or gets past the opening. -/
theorem unevaluated_or_opened {action : Action} (prover : action.prover = some actor) (s : Store) :
    Unevaluated env s action ∨ ∃ revision t, Yields (opening env actor) s revision t := by
  cases opened : (opening env actor).run s with
  | ok reply => exact .inr ⟨reply.1, reply.2, opened⟩
  | error error =>
    left
    cases action with
    | password _ request =>
      cases prover
      cases valid : request.valid with
      | false =>
        refine ⟨.invalidRequest, fun other _ => ?_⟩
        refine run_bind_of_error ?_
        rw [password, valid]
        rfl
      | true =>
        refine ⟨error, fun other same => ?_⟩
        refine run_bind_of_error ?_
        rw [password, ensure_met valid, pure_bind, opening_congr same]
        exact run_bind_of_error opened
    | finish =>
      cases prover
      refine ⟨error, fun other same => ?_⟩
      refine run_bind_of_error ?_
      rw [finish, opening_congr same]
      exact run_bind_of_error opened
    | _ => cases prover

/-- The challenges an attempt leaves: all but the one it presented. -/
def consumed (s : Store) : Action → Table Nat Challenge
  | .finish actor request .. => unpresented s actor request.challengeId
  | _ => s.challenges

theorem refused_leaves {actor : Scope} (prover : move.action.prover = some actor)
    (lasting : Lasting env s move) (refused : outcome env actor.user (begun s move) move.action = .refused) :
    ∃ now pauses, next env s move = refusal (begun s move) actor.user (consumed s move.action) now pauses := by
  obtain ⟨wait, pauses, action⟩ := move
  cases action with
  | password _ request slot token =>
    cases prover
    have answer : attempted (opening env actor) (password env actor request slot token)
        (begun s ⟨wait, pauses, .password actor request slot token⟩) = .refused := (if_pos rfl).symm.trans refused
    have lasts := @password_cases (begun s ⟨wait, pauses, .password actor request slot token⟩) env actor request slot
      token lasting
    rcases lasts with ⟨cleared, -⟩ | ⟨-, -, now, later, -, -, same⟩ | ⟨other, -⟩
    · cases cleared.symm.trans answer
    · exact ⟨now, later, settle_discard.trans same⟩
    · cases other.symm.trans answer
  | finish _ request slot id token elapsed =>
    cases prover
    have answer : attempted (opening env actor) (finish env actor request slot id token elapsed)
        (begun s ⟨wait, pauses, .finish actor request slot id token elapsed⟩) = .refused :=
      (if_pos rfl).symm.trans refused
    have ends := @finish_cases (begun s ⟨wait, pauses, .finish actor request slot id token elapsed⟩) env actor request
      slot id token elapsed
    rcases ends with ⟨cleared, -⟩ | ⟨-, -, now, later, -, -, same⟩ | ⟨other, -⟩
    · cases cleared.symm.trans answer
    · exact ⟨now, later, settle_discard.trans same⟩
    · cases other.symm.trans answer
  | _ => cases prover

/-- In a run whose password attempts all last, the counter of a household is the length of its
series of refusals, at most five. A full series locks it: no proof is evaluated until a quarter
of an hour after the fifth refusal. And a refused attempt leaves nothing but its count and the
consumption of the challenge it presented. -/
theorem attempts_counted (env : Verifiers) (s : Store) (user : Uuid) (moves : List Move)
    (fresh : tally s user = (0, none))
    (lasting : ∀ front move back, moves = front ++ move :: back → Lasting env (run env s front) move) :
    ((stateOf (run env s moves) user).failedAttempts = (seriesAfter env user s [] moves).length ∧
      (seriesAfter env user s [] moves).length ≤ 5) ∧
    (∀ move actor last, move.action.prover = some actor → actor.user = user →
      (seriesAfter env user s [] moves).length = 5 → (seriesAfter env user s [] moves).getLast? = some last →
      Unevaluated env (begun (run env s moves) move) move.action ∨
        ∃ revision t, Yields (opening env actor) (begun (run env s moves) move) revision t ∧
          last + 15 * minute ≤ t.now) ∧
    ∀ move actor, move.action.prover = some actor → actor.user = user → Lasting env (run env s moves) move →
      outcome env user (begun (run env s moves) move) move.action = .refused →
      ∃ now pauses, next env (run env s moves) move =
        refusal (begun (run env s moves) move) user (consumed (run env s moves) move.action) now pauses := by
  have counted := run_counted (counted_clear fresh) lasting
  refine ⟨⟨counted.attempts, counted.most⟩, ?_, ?_⟩
  · intro move actor last prover mine full shape
    rcases unevaluated_or_opened prover (begun (run env s moves) move) with over' | ⟨revision, t, opened⟩
    · exact .inl over'
    · obtain ⟨now, pauses, -, same, free⟩ := opening_yields opened
      refine .inr ⟨revision, t, opened, ?_⟩
      have lock := counted.lock
      rw [if_pos full, shape, Option.map_some] at lock
      rw [mine] at free
      rw [show stateOf (begun (run env s moves) move) user = stateOf (run env s moves) user from rfl, lock,
        Option.all_some, decide_eq_true_eq] at free
      rw [same]
      exact free
  · intro move actor prover mine lasts refused
    subst mine
    exact refused_leaves prover lasts refused

/-! ## A handoff that runs out under the password, and five wrong guesses -/

/-- The right password, with a handoff that expires while it is compared. -/
def overtaken : Move :=
  ⟨5, [1, 1, 1, 11 * 60 * 1000000], .password (ownerScope 1) ⟨"correct horse battery", some handoffToken⟩ true sessionToken⟩

/-- The attempt is past the opening and answers with an invalid proof, and nothing is counted. -/
theorem overtaken_uncounted :
    tally household ownerId = (0, none) ∧
      outcome digests ownerId (begun (run digests household [⟨1, [], .issueHandoff ownerId handoffToken⟩]) overtaken)
        overtaken.action = .refused ∧
      (stateOf (run digests household [⟨1, [], .issueHandoff ownerId handoffToken⟩, overtaken]) ownerId).failedAttempts =
        0 := by
  decide +kernel

/-- The household with its password as a trusted factor. -/
def guarded : Store :=
  { household with
    ownerState := Table.empty.put ownerId
      ⟨true, 1, some "dd30f5f6e2b3deaf6c6ff20852fee27faa93686bc95fe2f606b1ff00649cabf1", 0, none⟩ }

def guess (word : String) : Move := ⟨10 * 1000000, [], .password (ownerScope 1) ⟨word, none⟩ true sessionToken⟩

theorem guesses_lock :
    (stateOf (run digests guarded (List.replicate 5 (guess "tr0ub4dor"))) ownerId).failedAttempts = 5 ∧
      (Unevaluated digests (begun (run digests guarded (List.replicate 5 (guess "tr0ub4dor"))) (guess "correct horse battery"))
          (guess "correct horse battery").action ∨
        ∃ revision t, Yields (opening digests (ownerScope 1))
          (begun (run digests guarded (List.replicate 5 (guess "tr0ub4dor"))) (guess "correct horse battery")) revision t ∧
          50 * second + 15 * minute ≤ t.now) := by
  have lasting : ∀ front move back, List.replicate 5 (guess "tr0ub4dor") = front ++ move :: back →
      Lasting digests (run digests guarded front) move := by
    intro front move back shape
    have member : move ∈ List.replicate 5 (guess "tr0ub4dor") := by simp [shape]
    obtain rfl := List.eq_of_mem_replicate member
    rintro ⟨account, hash, -, -, fits⟩
    simp [digests] at fits
  have full : (seriesAfter digests ownerId guarded [] (List.replicate 5 (guess "tr0ub4dor"))).length = 5 := by
    decide +kernel
  have last : (seriesAfter digests ownerId guarded [] (List.replicate 5 (guess "tr0ub4dor"))).getLast? =
      some (50 * second) := by
    decide +kernel
  obtain ⟨⟨attempts, -⟩, locks, -⟩ := attempts_counted digests guarded ownerId _ (by decide +kernel) lasting
  exact ⟨attempts.trans (by rw [full]; rfl), locks (guess "correct horse battery") (ownerScope 1) _ rfl rfl full last⟩

end Duskcue.Household
