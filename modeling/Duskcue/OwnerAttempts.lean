import Duskcue.OwnerProofs

/-! How a household counts the proofs it refuses. Only three things touch the counter:
a refusal raises it, a proof or a new handoff of the operator clears it. The fifth
refusal in a row locks the household, and while it is locked no attempt gets as far
as the comparison of a password or the verification of a passkey. -/
namespace Duskcue.Household
open Playback (Uuid Time second)
open Transaction Relation

variable {actor : Scope}

variable {s s' : Store} {env : Verifiers} {user : Uuid} {α : Type}

/-! ## The counter of a household -/

/-- The state `lock_accounts` gives a household that has none. -/
def freshState : OwnerState := ⟨false, 1, none, 0, none⟩

def stateOf (s : Store) (user : Uuid) : OwnerState := (s.ownerState.find user).getD freshState

/-- The refusals counted and the end of the lockout. -/
def tally (s : Store) (user : Uuid) : Int × Option Time :=
  ((stateOf s user).failedAttempts, (stateOf s user).lockedUntil)

/-- The step leaves the counter of the household alone. -/
def Kept (user : Uuid) (s s' : Store) : Prop := tally s' user = tally s user

theorem kept_of_within (within : Within (Kept user) tx) (ran : Yields tx s a s') :
    tally s' user = tally s user := by
  have kept : ∀ t t', Kept user t t' → tally t user = tally s user → tally t' user = tally s user :=
    fun _ _ kept same => kept.trans same
  exact within.preserves kept ran rfl

theorem stateOf_put (same : s'.ownerState = s.ownerState.put owner row) :
    stateOf s' user = if user = owner then row else stateOf s user := by
  unfold stateOf
  rw [same, Table.find_put]
  split <;> rfl

theorem aside_kept (same : ∀ s, (f s).ownerState = s.ownerState) :
    Within (Kept user) (modify f : Tx PUnit) := by
  intro s u s' ran
  rw [yields_modify.mp ran]
  refine .single ?_
  simp only [Kept, tally, stateOf, same]

theorem Ticked.kept (ticked : Ticked s s') : Kept user s s' := by
  obtain ⟨now, pauses, -, rfl⟩ := ticked
  rfl

theorem clock_kept : Within (Kept user) clockTimestamp := by
  intro s now s' ran
  obtain ⟨-, pauses, rfl⟩ := clockTimestamp_yields ran
  exact .single rfl

/-- A new household starts with nothing counted. -/
theorem lockAccount_kept (owner : Uuid) : Within (Kept user) (lockAccount owner) := by
  intro s u s' ran
  rw [lockAccount, yields_modify] at ran
  refine .single ?_
  split at ran
  · rename_i absent
    subst ran
    simp only [Bool.and_eq_true, Option.isNone_iff_eq_none] at absent
    unfold Kept tally
    rw [stateOf_put rfl]
    split
    · rename_i same
      subst same
      simp [stateOf, absent.2, freshState]
    · rfl
  · subst ran
    rfl

theorem updateState_kept (same : user = owner → ∀ state, (change state).failedAttempts = state.failedAttempts ∧
      (change state).lockedUntil = state.lockedUntil) : Within (Kept user) (updateState owner change) := by
  intro s u s' ran
  rw [updateState, yields_modify] at ran
  refine .single ?_
  cases found : s.ownerState.find owner with
  | none =>
    rw [found] at ran
    subst ran
    rfl
  | some row =>
    rw [found] at ran
    subst ran
    unfold Kept tally
    rw [stateOf_put rfl]
    split
    · rename_i here
      obtain ⟨attempts, lock⟩ := same here row
      rw [attempts, lock, here, stateOf, found]
      rfl
    · rfl

theorem begin_kept (owner : Uuid) : Within (Kept user) (begin owner) :=
  .bind (lockAccount_kept owner) fun _ => .bind .get fun _ => .ensure

section
variable (owner : Uuid)

theorem invalidate_kept : Within (Kept user) (invalidate owner) :=
  .bind .get fun _ => .bind .ensure fun _ => .bind (updateState_kept fun _ _ => ⟨rfl, rfl⟩) fun _ =>
    .bind (aside_kept fun _ => rfl) fun _ => aside_kept fun _ => rfl

theorem activate_kept : Within (Kept user) (activate owner) :=
  .bind (invalidate_kept owner) fun _ => updateState_kept fun _ _ => ⟨rfl, rfl⟩

theorem consumeHandoff_kept (id : Nat) : Within (Kept user) (consumeHandoff owner id) :=
  .bind clock_kept fun _ => .bind .get fun _ => .bind .ensure fun _ => aside_kept fun _ => rfl

theorem designatePassword_kept (hash : String) (handoff : Option Nat) :
    Within (Kept user) (designatePassword env owner hash handoff) := by
  cases handoff with
  | none => exact .pure
  | some id =>
    refine .bind (consumeHandoff_kept owner id) fun _ => .bind ?_ fun _ => activate_kept owner
    exact updateState_kept fun _ _ => ⟨rfl, rfl⟩

theorem designatePasskey_kept (handoff : Option Nat) : Within (Kept user) (designatePasskey owner handoff) := by
  cases handoff with
  | none => exact .pure
  | some id => exact .bind (consumeHandoff_kept owner id) fun _ => activate_kept owner

end

theorem renewSession_kept (scope : Scope) (token : String) : Within (Kept user) (renewSession env scope token) :=
  .bind (aside_kept fun _ => rfl) fun _ => .bind (aside_kept fun _ => rfl) fun _ => .bind .get fun _ =>
    .bind .demand fun _ => .bind .ensure fun _ => .bind .ensure fun _ => .bind (aside_kept fun _ => rfl) fun _ => .pure

theorem insertGrant_kept (scope : Scope) (expiresAt : Time) (challenge handoff : Option Nat) :
    Within (Kept user) (insertGrant scope expiresAt challenge handoff) :=
  .bind clock_kept fun _ => .bind .get fun _ => .bind .demand fun _ => .bind .demand fun _ => .bind .ensure fun _ =>
    .bind .ensure fun _ => .bind (aside_kept fun _ => rfl) fun _ => .pure

/-! ## The transactions that are no proof -/

theorem lock_kept (actor : Scope) : Within (Kept user) (lock env actor) :=
  .bind (begin_kept _) fun _ => .bind (sessionScope_within clock_kept _ _) fun _ => .bind (aside_kept fun _ => rfl) fun _ =>
    aside_kept fun _ => rfl

theorem deletePasskey_kept (actor : Scope) (id : Uuid) : Within (Kept user) (deletePasskey env actor id) := by
  refine .bind (begin_kept _) fun _ => .bind (authorize_within clock_kept _ _) fun enabled => .bind ?_ fun _ => .bind .get fun _ =>
    .bind .ensure fun _ => .bind (aside_kept fun _ => rfl) fun _ => ?_
  · exact .ite (fun _ => .bind (allowDelete_within _ _) fun _ => .pure) fun _ => .pure
  · exact .ite (fun _ => invalidate_kept _) fun _ => .pure

theorem createProfile_kept (actor : Option Scope) (owner fresh : Uuid) (standard : Bool) :
    Within (Kept user) (createProfile env actor owner fresh standard) :=
  .bind (begin_kept _) fun _ => .bind (authorize_within clock_kept _ _) fun _ => .bind .get fun _ => .bind .ensure fun _ =>
    aside_kept fun _ => rfl

theorem deleteProfile_kept (actor : Scope) (owner id : Uuid) :
    Within (Kept user) (deleteProfile env actor owner id) :=
  .bind (begin_kept _) fun _ => .bind (authorize_within clock_kept _ _) fun _ => .bind .get fun _ => .bind .demand fun _ =>
    .bind .ensure fun _ => .bind .ensure fun _ => aside_kept fun _ => rfl

theorem selectProfile_kept (id profile : Uuid) : Within (Kept user) (selectProfile id profile) := by
  refine .bind .get fun _ => .bind .demand fun _ => .bind .ensure fun _ => .bind (aside_kept fun _ => rfl) fun _ => ?_
  exact .ite (fun _ => .bind (aside_kept fun _ => rfl) fun _ => aside_kept fun _ => rfl) fun _ => .pure

theorem changeAccount_kept (owner : Uuid) (active : Bool) (passwordHash : Option String) :
    Within (Kept user) (changeAccount owner active passwordHash) := by
  refine .bind .get fun _ => .bind .demand fun _ => .bind (aside_kept fun _ => rfl) fun _ => ?_
  refine .ite (fun _ => .bind (invalidate_kept owner) fun _ => ?_) fun _ => .pure
  exact .ite (fun _ => updateState_kept fun _ _ => ⟨rfl, rfl⟩) fun _ => .pure

/-! ## Up to the first look at a proof -/

/-- The states of the households once the one of the account is made sure of. -/
def housed (s : Store) (user : Uuid) : Table Uuid OwnerState :=
  if (s.ownerState.find user).isNone then s.ownerState.put user freshState else s.ownerState

theorem find_housed (s : Store) (user : Uuid) : (housed s user).find user = some (stateOf s user) := by
  unfold housed stateOf
  cases found : s.ownerState.find user <;> simp [found]

theorem put_housed (s : Store) (user : Uuid) (row : OwnerState) :
    (housed s user).put user row = s.ownerState.put user row := by
  unfold housed
  split
  · exact Table.put_put _ _ _ _
  · rfl

theorem begin_housed (ran : Yields (begin user) s u s') : s' = { s with ownerState := housed s user } := by
  unfold begin at ran
  obtain ⟨_, locked, first, ran⟩ := yields_bind.mp ran
  simp only [yields_get_bind, yields_ensure] at ran
  obtain ⟨active, rfl⟩ := ran
  rw [lockAccount, yields_modify] at first
  subst first
  have there : (s.users.find user).isSome = true := by
    split at active <;> exact Option.isSome_of_any active
  unfold housed
  cases s.ownerState.find user <;> simp [there, freshState]

/-- An attempt that gets past the opening: the household is not locked, and the session holds. -/
theorem opening_yields (ran : Yields (opening env actor) s revision s') :
    ∃ now pauses, s.now ≤ now ∧ s' = { s with ownerState := housed s actor.user, now, pauses } ∧
      (stateOf s actor.user).lockedUntil.all (· ≤ now) = true := by
  unfold opening at ran
  obtain ⟨_, s₁, begun, ran⟩ := yields_bind.mp ran
  obtain ⟨_, s₂, checked, ran⟩ := yields_bind.mp ran
  have first := begin_housed begun
  subst first
  obtain ⟨⟨now, pauses, later, rfl⟩, -⟩ := sessionScope_yields checked
  unfold available at ran
  obtain ⟨now', s₃, looked, ran⟩ := yields_bind.mp ran
  obtain ⟨later', pauses', rfl⟩ := clockTimestamp_yields looked
  simp only [fetchState, yields_bind, yields_get, yields_demand, yields_ensure, yields_pure] at ran
  obtain ⟨state, _, ⟨_, _, ⟨rfl, rfl⟩, found, rfl⟩, _, _, ⟨free, rfl⟩, -, rfl⟩ := ran
  have same : state = stateOf s actor.user := Option.some.inj (found.symm.trans (find_housed s actor.user))
  exact ⟨now', pauses', le_trans later later', rfl, same ▸ free⟩

/-! ## Refusals -/

/-- All that a refused attempt leaves: one more refusal counted, and the challenges without
the one it presented. -/
def refusal (s : Store) (user : Uuid) (challenges : Table Nat Challenge) (now : Time) (pauses : List Nat) : Store :=
  { s with now, pauses, challenges, ownerState := s.ownerState.put user (failedOnce now (stateOf s user)) }

theorem failed_refuses (challenges : Table Nat Challenge)
    (ticked : Ticked { s with ownerState := housed s actor.user, challenges } t)
    (ran : Yields (failed actor) t reply s') :
    reply = .error .invalidProof ∧
      ∃ now pauses, t.now ≤ now ∧ s' = refusal s actor.user challenges now pauses := by
  obtain ⟨now, pauses, -, rfl⟩ := ticked
  unfold failed at ran
  obtain ⟨now', looked, first, ran⟩ := yields_bind.mp ran
  obtain ⟨later, pauses', rfl⟩ := clockTimestamp_yields first
  simp only [updateState, yields_modify_bind, yields_pure, find_housed, Option.map_some, Option.elim_some] at ran
  obtain ⟨rfl, rfl⟩ := ran
  exact ⟨rfl, now', pauses', later, by rw [refusal, put_housed]⟩

theorem provePassword_refuses (ticked : Ticked { s with ownerState := housed s actor.user } t)
    (ran : Yields (provePassword env actor request slot token) t (.error error) s') :
    error = .invalidProof ∧ ∃ now pauses, t.now ≤ now ∧ s' = refusal s actor.user s.challenges now pauses := by
  obtain ⟨t', more, refused | ⟨_, _, _, _, ⟨⟩, -⟩⟩ := provePassword_cases ran
  obtain ⟨same, now, pauses, later, shape⟩ := failed_refuses s.challenges (ticked.trans more) refused
  obtain ⟨_, _, later', rfl⟩ := more
  exact ⟨Except.error.inj same, now, pauses, le_trans later' later, shape⟩

/-- An answer to a challenge that is refused behind the opening: the challenge stays consumed. -/
theorem proveChallenge_refuses (ticked : Ticked { s with ownerState := housed s actor.user } t)
    (ran : Yields (proveChallenge env actor request slot fresh token elapsed revision) t (.error error) s') :
    error = .invalidProof ∧ ∃ now pauses, t.now ≤ now ∧
      s' = refusal s actor.user (unpresented s actor request.challengeId) now pauses := by
  obtain ⟨now, pauses, begun, rfl⟩ := ticked
  rcases proveChallenge_cases ran with ⟨t', ⟨now', pauses', later, rfl⟩, refused⟩ | ⟨_, _, _, _, -, -, ⟨⟩, -⟩
  obtain ⟨same, after, pauses'', later', shape⟩ := failed_refuses (unpresented s actor request.challengeId)
    ⟨now', pauses', le_trans begun later, rfl⟩ refused
  exact ⟨Except.error.inj same, after, pauses'', le_trans later later', shape⟩

/-! ## Sessions that last -/

/-- The end of the pauses still to come. -/
def horizon (s : Store) : Time := s.now + (s.pauses.sum : Nat)

/-- Sessions stay as they are, and no time passes but that of the pauses. -/
def Seated (s s' : Store) : Prop := s'.userSessions = s.userSessions ∧ horizon s' = horizon s

theorem now_le_horizon (s : Store) : s.now ≤ horizon s := Int.le_add_of_nonneg_right (Int.natCast_nonneg _)

theorem seated_of_within (within : Within Seated tx) (ran : Yields tx s a s') : Seated s s' := by
  have kept : ∀ t t', Seated t t' → Seated s t → Seated s t' :=
    fun _ _ next same => ⟨next.1.trans same.1, next.2.trans same.2⟩
  exact within.preserves kept ran ⟨rfl, rfl⟩

theorem aside_seated (same : ∀ s, (f s).userSessions = s.userSessions ∧ (f s).now = s.now ∧ (f s).pauses = s.pauses) :
    Within Seated (modify f : Tx PUnit) := by
  intro s u s' ran
  rw [yields_modify.mp ran]
  obtain ⟨sessions, now, pauses⟩ := same s
  exact .single ⟨sessions, by rw [horizon, horizon, now, pauses]⟩

theorem clock_seated : Within Seated clockTimestamp := by
  intro s now s' ran
  unfold clockTimestamp at ran
  simp only [yields_get_bind] at ran
  split at ran
  · rw [(yields_pure.mp ran).2]
  · rename_i pause pauses shape
    simp only [yields_bind, yields_set, yields_pure] at ran
    obtain ⟨_, _, rfl, -, rfl⟩ := ran
    refine .single ⟨rfl, ?_⟩
    simp only [horizon, shape, List.sum_cons]
    exact Int.add_assoc _ _ _

theorem updateState_seated (owner : Uuid) (change : OwnerState → OwnerState) :
    Within Seated (updateState owner change) := by
  refine aside_seated fun s => ?_
  cases (s.ownerState.find owner).map change <;> exact ⟨rfl, rfl, rfl⟩

theorem begin_seated (owner : Uuid) : Within Seated (begin owner) := by
  refine .bind (aside_seated fun s => ?_) fun _ => .bind .get fun _ => .ensure
  split <;> exact ⟨rfl, rfl, rfl⟩

theorem opening_seated (actor : Scope) : Within Seated (opening env actor) :=
  opening_within clock_seated actor (begin_seated _)

theorem invalidate_seated (owner : Uuid) : Within Seated (invalidate owner) :=
  .bind .get fun _ => .bind .ensure fun _ => .bind (updateState_seated _ _) fun _ =>
    .bind (aside_seated fun _ => ⟨rfl, rfl, rfl⟩) fun _ => aside_seated fun _ => ⟨rfl, rfl, rfl⟩

theorem designatePassword_seated (owner : Uuid) (hash : String) (handoff : Option Nat) :
    Within Seated (designatePassword env owner hash handoff) := by
  cases handoff with
  | none => exact .pure
  | some =>
    refine .bind (.bind clock_seated fun _ => .bind .get fun _ => .bind .ensure fun _ => ?_) fun _ =>
      .bind (updateState_seated _ _) fun _ => .bind (invalidate_seated _) fun _ => updateState_seated _ _
    exact aside_seated fun _ => ⟨rfl, rfl, rfl⟩

/-- The session of the scope, whatever the time. -/
def Bound (actor : Scope) (row : UserSession) : Prop :=
  row.userId = actor.user ∧ row.activeProfileId = actor.profile ∧ row.profileSelectionRequired = false ∧
    row.credentialVersion = actor.version

theorem sessionScope_bound (ran : Yields (sessionScope env actor true) s u s') :
    ∃ row, s.userSessions.find actor.session = some row ∧ Bound actor row ∧ s.now < row.expiresAt := by
  unfold sessionScope at ran
  simp only [yields_get_bind, yields_ensure_bind] at ran
  obtain ⟨-, ran⟩ := ran
  obtain ⟨now, looked, first, ran⟩ := yields_bind.mp ran
  obtain ⟨valid, -⟩ := yields_ensure_bind.mp ran
  obtain ⟨row, found, checks⟩ := (Option.any_eq_true _ _).mp valid
  simp only [Bool.not_true, Bool.false_or, Bool.and_eq_true, decide_eq_true_eq, Bool.not_eq_true'] at checks
  obtain ⟨⟨⟨⟨owner, profile⟩, selected⟩, fresh⟩, version⟩ := checks
  exact ⟨row, found, ⟨owner, profile, selected, version⟩, lt_of_le_of_lt (clockTimestamp_yields first).1 fresh⟩

theorem opening_bound (ran : Yields (opening env actor) s revision s') :
    ∃ row, s.userSessions.find actor.session = some row ∧ Bound actor row ∧ s.now < row.expiresAt := by
  obtain ⟨_, s₁, begun, ran⟩ := yields_bind.mp ran
  obtain ⟨_, s₂, checked, -⟩ := yields_bind.mp ran
  obtain rfl := begin_housed begun
  obtain ⟨row, found, bound, fresh⟩ := sessionScope_bound checked
  exact ⟨row, found, bound, fresh⟩

/-! ## What cannot end as an invalid proof -/

/-- The error that a refusal reports. -/
def Invalid (error : OwnerError) : Prop := error = .invalidProof

theorem clock_raises : Raises allowed clockTimestamp := by
  refine .bind .get fun s => ?_
  split
  · exact .pure
  · exact .bind .modify fun _ => .pure

theorem readContext_raises (scope : Scope) : Raises (fun error => ¬ Invalid error) (readContext env scope) :=
  .bind clock_raises fun _ => .bind .get fun _ => .bind (.demand (by simp [Invalid])) fun _ =>
    .bind (.ensure (by simp [Invalid])) fun _ => .bind (.ensure (by simp [Invalid])) fun _ =>
      .bind (.ensure (by simp [Invalid])) fun _ => .pure

theorem checkContext_raises (scope : Scope) : Raises (fun error => ¬ Invalid error) (checkContext env scope) := by
  unfold Household.checkContext
  split
  · exact .pure
  · exact .bind (readContext_raises scope) fun _ => .ensure (by simp [Invalid])

theorem updateState_raises (owner : Uuid) (change : OwnerState → OwnerState) :
    Raises allowed (updateState owner change) := .modify

theorem invalidate_raises (owner : Uuid) : Raises (fun error => ¬ Invalid error) (invalidate owner) :=
  .bind .get fun _ => .bind (.ensure (by simp [Invalid])) fun _ => .bind (updateState_raises _ _) fun _ =>
    .bind .modify fun _ => .modify

theorem renewSession_raises (scope : Scope) (token : String) :
    Raises (fun error => ¬ Invalid error) (renewSession env scope token) :=
  .bind .modify fun _ => .bind .modify fun _ => .bind .get fun _ => .bind (.demand (by simp [Invalid])) fun _ =>
    .bind (.ensure (by simp [Invalid])) fun _ => .bind (.ensure (by simp [Invalid])) fun _ => .bind .modify fun _ => .pure

theorem insertGrant_raises (scope : Scope) (expiresAt : Time) (challenge handoff : Option Nat) :
    Raises (fun error => ¬ Invalid error) (insertGrant scope expiresAt challenge handoff) :=
  .bind clock_raises fun _ => .bind .get fun _ => .bind (.demand (by simp [Invalid])) fun _ =>
    .bind (.demand (by simp [Invalid])) fun _ => .bind (.ensure (by simp [Invalid])) fun _ =>
      .bind (.ensure (by simp [Invalid])) fun _ => .bind .modify fun _ => .pure

theorem failed_raises (scope : Scope) : Raises allowed (failed scope : Tx (Except OwnerError α)) :=
  .bind clock_raises fun _ => .bind (updateState_raises _ _) fun _ => .pure

theorem ensure_met (met : condition = true) :
    (ensure condition error : Tx Unit) = pure () := if_pos met

/-- A session that outlasts the pauses is still good at the rotation. -/
theorem rotate_spares (found : s.userSessions.find actor.session = some row) (bound : Bound actor row)
    (lasts : horizon s < row.expiresAt) :
    Transaction.Spares Invalid (rotate env actor token challenge handoff) s fun _ _ => True := by
  have checked : Transaction.Spares Invalid (sessionScope env actor true) s fun _ _ => True := by
    refine .get_bind (.bind (.of_raises (.ensure (by simp [Invalid]))) fun _ t passed => ?_)
    obtain ⟨-, rfl⟩ := yields_ensure.mp passed
    refine .bind (.of_raises clock_raises) fun now t looked => ?_
    obtain ⟨owner, profile, selected, version⟩ := bound
    obtain ⟨-, same⟩ := seated_of_within clock_seated looked
    obtain ⟨-, pauses, rfl⟩ := clockTimestamp_yields looked
    have fresh : now < row.expiresAt := lt_of_le_of_lt (same ▸ now_le_horizon _) lasts
    rw [ensure_met (by simp [found, owner, profile, selected, version, fresh]), pure_bind]
    exact Transaction.Spares.mono (.of_raises (checkContext_raises actor)) fun _ _ _ => trivial
  refine .bind checked fun _ t _ => Transaction.Spares.mono (.of_raises ?_) fun _ _ _ => trivial
  exact .bind (renewSession_raises actor token) fun _ => .bind (insertGrant_raises _ _ _ _) fun _ =>
    .bind (updateState_raises _ _) fun _ => .bind (.ensure (by simp [Invalid])) fun _ =>
      .bind (readContext_raises _) fun _ => .pure

/-- The handoff of a request is still good when it is used. -/
theorem designatePassword_spares {hash : String}
    (lasts : ∀ id, handoff = some id → ∃ row, s.handoffs.find user = some row ∧ row.id = id ∧ horizon s < row.expiresAt) :
    Transaction.Spares Invalid (designatePassword env user hash handoff) s fun _ _ => True := by
  cases handoff with
  | none => exact .pure trivial
  | some id =>
    obtain ⟨row, found, number, fresh⟩ := lasts id rfl
    have consumed : Transaction.Spares Invalid (consumeHandoff user id) s fun _ _ => True := by
      refine .bind (.of_raises clock_raises) fun now t looked => .get_bind ?_
      obtain ⟨-, same⟩ := seated_of_within clock_seated looked
      obtain ⟨-, pauses, rfl⟩ := clockTimestamp_yields looked
      have valid : now < row.expiresAt := lt_of_le_of_lt (same ▸ now_le_horizon _) fresh
      rw [ensure_met (by simp [found, number, valid]), pure_bind]
      exact .modify trivial
    refine .bind consumed fun _ t _ => Transaction.Spares.mono (.of_raises ?_) fun _ _ _ => trivial
    exact .bind (updateState_raises _ _) fun _ => .bind (invalidate_raises user) fun _ => updateState_raises _ _

/-- The password of the request is that of the account. -/
def Fits (env : Verifiers) (s : Store) (actor : Scope) (request : PasswordRequest) : Prop :=
  ∃ account hash, s.users.find actor.user = some account ∧ account.passwordHash = some hash ∧
    env.verifyPasswordHash hash request.password = true

/-- A fitting password whose session and handoff last is not refused by a later check. -/
theorem provePassword_spares {request : PasswordRequest}
    (found : s.userSessions.find actor.session = some row) (bound : Bound actor row)
    (session : Fits env s actor request → horizon s < row.expiresAt)
    (handoffs : Fits env s actor request → request.handoff.isSome = true → ∀ handoff,
      s.handoffs.find actor.user = some handoff → s.now < handoff.expiresAt → horizon s < handoff.expiresAt) :
    Transaction.Spares Invalid (provePassword env actor request slot token) s fun _ _ => True := by
  have refused (t : Store) :
      Transaction.Spares Invalid (failed actor : Tx (Except OwnerError Proven)) t fun _ _ => True :=
    Transaction.Spares.mono (.of_raises (failed_raises actor)) fun _ _ _ => trivial
  have asks : Raises (fun error => ¬ Invalid error) (requestedHandoff env actor.user request.handoff) := by
    cases request.handoff with
    | none => exact .pure
    | some =>
      refine .bind ?_ fun _ => .pure
      unfold validateHandoff
      split
      · exact .pure
      · exact .bind clock_raises fun _ => .bind .get fun _ => .pure
  have looks : Raises (fun error => ¬ Invalid error) (passwordAvailable env actor.user) :=
    .bind .get fun _ => .bind (.demand (by simp [Invalid])) fun _ => .bind (.demand (by simp [Invalid])) fun _ => .pure
  refine .bind (.of_raises asks) fun handoff t asked => ?_
  obtain ⟨ticked, accepted⟩ := requestedHandoff_yields asked
  obtain ⟨sessions, time⟩ := seated_of_within (requestedHandoff_within clock_seated _ _) asked
  cases handoff with
  | none => exact refused t
  | some handoff =>
    refine .bind (.of_raises looks) fun trusted t' looked => ?_
    obtain rfl := passwordAvailable_yields looked
    refine .ite (fun _ => refused _) fun _ => .get_bind ?_
    split
    · exact refused _
    · rename_i hash held
      refine .bind (.of_raises (.ensure (by simp [Invalid]))) fun _ u passed => ?_
      obtain ⟨-, rfl⟩ := yields_ensure.mp passed
      refine .ite (fun fits => ?_) fun _ => refused _
      obtain ⟨now, pauses, later, rfl⟩ := ticked
      obtain ⟨account, there, hashed⟩ := Option.bind_eq_some_iff.mp held
      have fits : Fits env s actor request := ⟨account, hash, there, hashed, fits⟩
      have designated : Transaction.Spares Invalid (designatePassword env actor.user hash handoff)
          { s with now, pauses } fun _ _ => True := by
        refine designatePassword_spares fun id same => ?_
        subst same
        obtain ⟨presented, row', held', number, fresh⟩ := accepted id rfl
        exact ⟨row', held', number, time ▸ handoffs fits presented row' held' (lt_of_le_of_lt later fresh)⟩
      refine .bind designated.yields fun _ u ended => ?_
      have ran := ended.1
      obtain ⟨kept, time'⟩ := seated_of_within (designatePassword_seated _ _ _) ran
      have there' : u.userSessions.find actor.session = some row := by
        rw [kept]
        exact found
      have lasts : horizon u < row.expiresAt := by
        rw [time', time]
        exact session fits
      exact .bind (rotate_spares there' bound lasts) fun _ _ _ => .pure trivial

/-- The answer to a challenge is refused in the one place where that is counted. -/
theorem proveChallenge_raises (actor : Scope) (request : PasskeyFinish) (slot : Bool) (fresh : Uuid) (token : String)
    (elapsed : Nat) (revision : Int) :
    Raises (fun error => ¬ Invalid error) (proveChallenge env actor request slot fresh token elapsed revision) := by
  refine .bind clock_raises fun now => .bind .get fun s => ?_
  split
  · exact failed_raises actor
  · refine .bind .modify fun _ => ?_
    refine .ite (failed_raises actor) ?_
    refine .bind .get fun s => ?_
    split
    · exact .bind (.of_succeeds fun s => ⟨⟨⟩, _, yields_set.mpr rfl⟩) fun _ => .pure
    · exact .bind .modify fun _ => failed_raises actor
    · rename_i error other _
      exact .throw fun same => other same

/-! ## What clears the counter, and whose it is -/

theorem failed_kept {scope : Scope} (other : user ≠ scope.user) :
    Within (Kept user) (failed scope : Tx (Except OwnerError α)) :=
  .bind clock_kept fun _ => .bind (updateState_kept fun same => absurd same other) fun _ => .pure

theorem rotate_kept {scope : Scope} (other : user ≠ scope.user) (token : String) (challenge handoff : Option Nat) :
    Within (Kept user) (rotate env scope token challenge handoff) :=
  .bind (sessionScope_within clock_kept _ _) fun _ => .bind (renewSession_kept _ _) fun _ => .bind (insertGrant_kept _ _ _ _) fun _ =>
    .bind (updateState_kept fun same => absurd same other) fun _ => .bind .ensure fun _ =>
      .bind (readContext_within clock_kept _) fun _ => .pure

theorem provePassword_kept (other : user ≠ actor.user) (request : PasswordRequest) (slot : Bool)
    (token : String) : Within (Kept user) (provePassword env actor request slot token) := by
  intro s reply s' ran
  obtain ⟨t, ticked, cases⟩ := provePassword_cases ran
  refine .head ticked.kept ?_
  rcases cases with refused | ⟨hash, handoff, middle, proven, -, designated, rotated⟩
  · exact failed_kept other _ _ _ refused
  · exact (designatePassword_kept _ _ _ _ _ _ designated).trans (rotate_kept other _ _ _ _ _ _ rotated)

theorem complete_kept (other : user ≠ actor.user) (id : Nat) (challenge : Challenge)
    (credential : String) (slot : Bool) (fresh : Uuid) (token : String) :
    Within (Kept user) (complete env actor id challenge credential slot fresh token) := by
  refine .bind ?_ fun _ => rotate_kept other _ _ _
  exact .bind (checkHandoff_within clock_kept _ _) fun _ => .bind .ensure fun _ =>
    .bind (verifyFactor_within (fun _ => aside_kept fun _ => rfl) _ _ _ _) fun _ =>
    designatePasskey_kept _ _

theorem proveChallenge_kept (other : user ≠ actor.user) (request : PasskeyFinish) (slot : Bool)
    (fresh : Uuid) (token : String) (elapsed : Nat) (revision : Int) :
    Within (Kept user) (proveChallenge env actor request slot fresh token elapsed revision) := by
  intro s reply s' ran
  rcases proveChallenge_cases ran with ⟨t, ticked, refused⟩ | ⟨_, now, pauses, _, -, -, -, completed⟩
  · exact .head (show Kept user s t from ticked.kept) (failed_kept other _ _ _ refused)
  · have kept : Kept user s { s with now, pauses, challenges := s.challenges.remove request.challengeId } := rfl
    exact .head kept (complete_kept other _ _ _ _ _ _ _ _ _ completed)

theorem tally_cleared (there : ∃ row, s.ownerState.find owner = some row)
    (cleared : ∀ state, (change state).failedAttempts = 0 ∧ (change state).lockedUntil = none)
    (ran : Yields (updateState owner change) s u s') : tally s' owner = (0, none) := by
  obtain ⟨row, found⟩ := there
  rw [updateState, yields_modify, found] at ran
  subst ran
  unfold tally
  rw [stateOf_put rfl, if_pos rfl, (cleared row).1, (cleared row).2]

theorem rotate_clears
    (ran : Yields (rotate env scope token challenge handoff) s proven s') : tally s' scope.user = (0, none) := by
  unfold rotate at ran
  obtain ⟨_, _, -, ran⟩ := yields_bind.mp ran
  obtain ⟨_, _, -, ran⟩ := yields_bind.mp ran
  obtain ⟨_, s₃, inserted, ran⟩ := yields_bind.mp ran
  obtain ⟨_, s₄, reset, ran⟩ := yields_bind.mp ran
  obtain ⟨-, ran⟩ := yields_ensure_bind.mp ran
  obtain ⟨_, _, read, ran⟩ := yields_bind.mp ran
  obtain ⟨-, rfl⟩ := yields_pure.mp ran
  have there : ∃ row, s₃.ownerState.find scope.user = some row := by
    unfold insertGrant at inserted
    obtain ⟨_, _, _, inserted⟩ := yields_bind.mp inserted
    simp only [yields_modify_bind, yields_get_bind, yields_demand_bind, yields_ensure_bind, yields_pure] at inserted
    obtain ⟨_, -, state, held, -, -, -, rfl⟩ := inserted
    exact ⟨state, held⟩
  exact (kept_of_within (readContext_within clock_kept _) read).trans (tally_cleared there (fun _ => ⟨rfl, rfl⟩) reset)

theorem failed_never_ok : ¬ Yields (failed scope) s (.ok value) s' := by
  intro ran
  obtain ⟨_, ⟨⟩, -⟩ := failed_yields .refl ran

theorem provePassword_clears (ran : Yields (provePassword env actor request slot token) s (.ok proven) s') :
    tally s' actor.user = (0, none) := by
  obtain ⟨t, -, refused | ⟨_, _, _, _, -, -, rotated⟩⟩ := provePassword_cases ran
  · exact (failed_never_ok refused).elim
  · exact rotate_clears rotated

theorem proveChallenge_clears
    (ran : Yields (proveChallenge env actor request slot fresh token elapsed revision) s (.ok proven) s') :
    tally s' actor.user = (0, none) := by
  rcases proveChallenge_cases ran with ⟨t, -, refused⟩ | ⟨_, _, _, _, -, -, -, completed⟩
  · exact (failed_never_ok refused).elim
  · obtain ⟨_, _, -, rotated⟩ := yields_bind.mp completed
    exact rotate_clears rotated

theorem issueHandoff_clears (ran : Yields (issueHandoff env user token) s answer s') :
    tally s' user = (0, none) := by
  unfold issueHandoff at ran
  obtain ⟨_, _, begun, ran⟩ := yields_bind.mp ran
  obtain rfl := begin_housed begun
  obtain ⟨_, s₂, ended, ran⟩ := yields_bind.mp ran
  rw [yields_modify_bind] at ran
  obtain ⟨_, s₃, reset, ran⟩ := yields_bind.mp ran
  obtain ⟨_, s₄, gone, ran⟩ := yields_bind.mp ran
  obtain ⟨_, s₅, looked, ran⟩ := yields_bind.mp ran
  simp only [yields_get_bind, yields_ensure_bind, yields_modify_bind, yields_pure] at ran
  obtain ⟨-, -, rfl⟩ := ran
  have there : ∃ row, s₂.ownerState.find user = some row := by
    unfold invalidate at ended
    simp only [yields_get_bind, yields_ensure_bind] at ended
    obtain ⟨-, ended⟩ := ended
    obtain ⟨_, _, bumped, ended⟩ := yields_bind.mp ended
    simp only [yields_modify_bind, yields_modify] at ended
    subst ended
    simp only [updateState, yields_modify, find_housed, Option.map_some, Option.elim_some] at bumped
    subst bumped
    exact ⟨_, Table.find_put_self _ _ _⟩
  have cleared : tally s₃ user = (0, none) := by
    refine tally_cleared ?_ (fun _ => ⟨rfl, rfl⟩) reset
    exact there
  rw [deleteHandoffs, yields_modify] at gone
  subst gone
  exact (kept_of_within clock_kept looked).trans cleared

theorem issueHandoff_kept (other : user ≠ owner) (token : String) :
    Within (Kept user) (issueHandoff env owner token) :=
  .bind (begin_kept _) fun _ => .bind (invalidate_kept _) fun _ => .bind (aside_kept fun _ => rfl) fun _ =>
    .bind (updateState_kept fun same => absurd same other) fun _ => .bind (aside_kept fun _ => rfl) fun _ =>
      .bind clock_kept fun _ => .bind .get fun _ => .bind .ensure fun _ => .bind (aside_kept fun _ => rfl) fun _ => .pure

theorem opening_kept (actor : Scope) : Within (Kept user) (opening env actor) :=
  opening_within clock_kept actor (begin_kept _)

/-- Past the opening a ceremony is begun, or the handoff for it is refused. -/
theorem start_cases (ran : Yields (start env actor request) s reply s') : ∃ revision t,
    Yields (opening env actor) s revision t ∧ ((∃ begun, reply = .ok begun) ∧ (∀ user, tally s' user = tally t user) ∨
      ∃ t', Ticked t t' ∧ Yields (failed actor) t' reply s') := by
  unfold start at ran
  obtain ⟨revision, t, entered, ran⟩ := yields_bind.mp ran
  refine ⟨revision, t, entered, ?_⟩
  obtain ⟨-, ran⟩ := yields_ensure_bind.mp ran
  obtain ⟨handoff, s₁, asked, ran⟩ := yields_bind.mp ran
  cases handoff with
  | none => exact .inr ⟨s₁, (requestedHandoff_yields asked).1, ran⟩
  | some =>
    refine .inl ⟨?_, fun user => ?_⟩
    · simp only [yields_bind, yields_pure] at ran
      obtain ⟨_, _, -, _, _, -, _, _, -, _, _, -, _, _, -, _, _, -, _, _, -, _, _, -, rfl, -⟩ := ran
      exact ⟨_, rfl⟩
    · refine (kept_of_within ?_ ran).trans (kept_of_within (requestedHandoff_within clock_kept _ _) asked)
      exact .bind clock_kept fun now => .bind (aside_kept fun _ => rfl) fun _ => .bind .get fun _ => .bind .ensure fun _ =>
        .bind (ceremony_within actor.user request) fun _ => .bind clock_kept fun _ => .bind .get fun _ =>
          .bind (aside_kept fun _ => rfl) fun _ => .pure

end Duskcue.Household
