import Duskcue.HouseholdOwner

/-! What the transactions of owner protection do to grants, challenges, handoffs and
the history. All of it but the insertion of a grant is `Calm`: rows go, numbered
rows come, and an event that ends grants comes with their removal. A proof is calm
statements, one insertion, and calm statements again. -/
namespace Duskcue.Household
open Playback (Uuid Time second)
open Transaction Relation

/-! ## Steps -/

/-- Rows only go, and sessions that have a grant keep their user. -/
structure Quiet (s s' : Store) : Prop where
  now : s.now ≤ s'.now
  issued : s'.issued = s.issued
  history : s'.history = s.history
  grants : ∀ session grant, s'.grants.find session = some grant → s.grants.find session = some grant
  challenges : ∀ id challenge, s'.challenges.find id = some challenge → s.challenges.find id = some challenge
  handoffs : ∀ user handoff, s'.handoffs.find user = some handoff → s.handoffs.find user = some handoff
  sessions : ∀ session grant row, s'.grants.find session = some grant → s.userSessions.find session = some row →
    ∃ row', s'.userSessions.find session = some row' ∧ row'.userId = row.userId

/-- The steps that are no proof. -/
inductive Calm : Store → Store → Prop
  | quiet {s s' : Store} (same : Quiet s s') : Calm s s'
  | challenge (s : Store) (row : Challenge) :
      Calm s { s with challenges := s.challenges.put s.issued row, issued := s.issued + 1 }
  | handoff (s : Store) (user : Uuid) (tokenHash : String) (expiresAt : Time) :
      Calm s { s with handoffs := s.handoffs.put user ⟨s.issued, tokenHash, expiresAt⟩, issued := s.issued + 1 }
  | locked (s : Store) (session user : Uuid) (row : UserSession) (found : s.userSessions.find session = some row)
      (mine : row.userId = user) :
      Calm s { s with
        grants := s.grants.discard fun id grant => id = session && grant.userId = user
        history := s.history ++ [.locked session] }
  | invalidated (s : Store) (user : Uuid) :
      Calm s { s with
        grants := s.grants.discard fun _ grant => grant.userId = user
        history := s.history ++ [.invalidated user] }

/-- The insertion of a grant. -/
structure Proves (s : Store) (proof : Proof) (s' : Store) : Prop where
  free : s.grants.find proof.session = none
  session : ∃ row, s.userSessions.find proof.session = some row ∧ row.userId = proof.user ∧
    row.credentialVersion = proof.version
  time : proof.time = s.now
  inserted : ∃ revision expiresAt, expiresAt ≤ proof.time + 5 * minute ∧
    s' = { s with
      grants := s.grants.put proof.session ⟨proof.version, proof.user, proof.profile, revision, expiresAt⟩
      history := s.history ++ [.proved proof] }

variable {s s' : Store} {env : Verifiers} {α : Type}

theorem Quiet.of_tables (now : s.now ≤ s'.now) (issued : s'.issued = s.issued) (history : s'.history = s.history)
    (grants : s'.grants = s.grants) (challenges : s'.challenges = s.challenges) (handoffs : s'.handoffs = s.handoffs)
    (sessions : s'.userSessions = s.userSessions) : Quiet s s' where
  now := now
  issued := issued
  history := history
  grants := by simp [grants]
  challenges := by simp [challenges]
  handoffs := by simp [handoffs]
  sessions := by
    intro session grant row _ found
    exact ⟨row, by rw [sessions, found], rfl⟩

theorem Quiet.fewer_challenges (s : Store) (gone : Nat → Challenge → Bool) :
    Quiet s { s with challenges := s.challenges.discard gone } where
  now := le_refl _
  issued := rfl
  history := rfl
  grants _ _ found := found
  challenges _ _ found := (Table.find_discard.mp found).1
  handoffs _ _ found := found
  sessions _ _ row _ found := ⟨row, found, rfl⟩

/-! ## Statements -/

theorem clockTimestamp_yields (ran : Yields clockTimestamp s now s') :
    s.now ≤ now ∧ ∃ pauses, s' = { s with now, pauses } := by
  unfold clockTimestamp at ran
  simp only [yields_get_bind] at ran
  split at ran
  · obtain ⟨rfl, rfl⟩ := yields_pure.mp ran
    exact ⟨le_refl _, _, rfl⟩
  · rename_i pause pauses _
    simp only [yields_bind, yields_set, yields_pure] at ran
    obtain ⟨_, _, rfl, rfl, rfl⟩ := ran
    exact ⟨Int.le_add_of_nonneg_right (Int.natCast_nonneg pause), pauses, rfl⟩

theorem Quiet.clock {now : Time} (ran : Yields clockTimestamp s now s') : Quiet s s' := by
  obtain ⟨later, pauses, rfl⟩ := clockTimestamp_yields ran
  exact .of_tables later rfl rfl rfl rfl rfl rfl

/-! ## Statements within a relation -/

section
variable {r : Store → Store → Prop}

theorem fetchState_within (user : Uuid) : Within r (fetchState user) :=
  .bind .get fun _ => .demand

theorem passwordAvailable_within (user : Uuid) : Within r (passwordAvailable env user) :=
  .bind .get fun _ => .bind .demand fun _ => .bind .demand fun _ => .pure

theorem loadFactors_within (user : Uuid) (selected : Option Uuid) : Within r (loadFactors env user selected) :=
  .bind .get fun _ => .bind .ensure fun _ => .bind .ensure fun _ => .pure

theorem ensureEnrollmentCapacity_within (user : Uuid) : Within r (ensureEnrollmentCapacity user) :=
  .bind .get fun _ => .ensure

theorem allowDelete_within (user id : Uuid) : Within r (allowDelete env user id) := by
  unfold allowDelete
  refine .bind .get fun _ => .bind .demand fun _ => ?_
  split
  · exact .bind (passwordAvailable_within user) fun _ => .bind .ensure fun _ => .pure
  · exact .pure

theorem ceremony_within (user : Uuid) (request : PasskeyStart) : Within r (ceremony env user request) := by
  unfold ceremony
  split
  · exact .bind (ensureEnrollmentCapacity_within user) fun _ => .bind .get fun _ => .bind .demand fun _ =>
      .bind .demand fun _ => .pure
  · exact .bind (loadFactors_within user _) fun _ => .bind .demand fun _ => .pure

variable (clock : Within r clockTimestamp)
include clock

theorem readContext_within (scope : Scope) : Within r (readContext env scope) :=
  .bind clock fun _ => .bind .get fun _ => .bind .demand fun _ => .bind .ensure fun _ => .bind .ensure fun _ =>
    .bind .ensure fun _ => .pure

theorem checkContext_within (scope : Scope) : Within r (checkContext env scope) := by
  unfold Household.checkContext
  split
  · exact .pure
  · exact .bind (readContext_within clock scope) fun _ => .ensure

theorem sessionScope_within (actor : Scope) (strict : Bool) : Within r (sessionScope env actor strict) :=
  .bind .get fun _ => .bind .ensure fun _ => .bind clock fun _ => .bind .ensure fun _ => checkContext_within clock actor

theorem requireGrant_within (scope : Scope) : Within r (requireGrant scope) :=
  .bind clock fun _ => .bind .get fun _ => .ensure

theorem available_within (user : Uuid) : Within r (available user) :=
  .bind clock fun _ => .bind (fetchState_within user) fun _ => .bind .ensure fun _ => .pure

theorem opening_within (actor : Scope) (begun : Within r (begin actor.user)) : Within r (opening env actor) :=
  .bind begun fun _ => .bind (sessionScope_within clock _ _) fun _ => available_within clock _

theorem authorize_within (user : Uuid) (actor : Option Scope) : Within r (authorize env user actor) := by
  unfold authorize
  refine .bind (fetchState_within user) fun state => ?_
  split
  · refine .bind .ensure fun _ => .bind (sessionScope_within clock _ _) fun _ => ?_
    split
    · exact .bind (requireGrant_within clock _) fun _ => .pure
    · exact .pure
  · exact .bind .ensure fun _ => .pure

theorem validateHandoff_within (user : Uuid) (token : String) : Within r (validateHandoff env user token) := by
  unfold validateHandoff
  split
  · exact .pure
  · exact .bind clock fun _ => .bind .get fun _ => .pure

theorem requestedHandoff_within (user : Uuid) (token : Option String) : Within r (requestedHandoff env user token) := by
  cases token with
  | none => exact .pure
  | some token => exact .bind (validateHandoff_within clock user token) fun _ => .pure

theorem checkHandoff_within (actor : Scope) (challenge : Challenge) : Within r (checkHandoff actor challenge) := by
  unfold checkHandoff
  split
  · exact .bind clock fun _ => .bind .get fun _ => .ensure
  · exact .ensure

variable (passkeys : ∀ f : Store → Table Uuid UserPasskey,
  Within r (modify fun s => { s with userPasskeys := f s } : Tx PUnit))
include passkeys

omit clock in
theorem updateFactor_within (user id : Uuid) (key : String) (result : AuthenticationResult) (trusted : Bool) :
    Within r (updateFactor env user id key result trusted) :=
  .bind .get fun _ => .bind .demand fun _ => .bind .ensure fun _ => passkeys _

omit clock in
theorem verifyFactor_within (actor : Scope) (challenge : Challenge) (credential : String) (fresh : Uuid) :
    Within r (verifyFactor env actor challenge credential fresh) := by
  unfold verifyFactor
  split
  · exact .bind .ensure fun _ => .bind .ensure fun _ => .bind .demand fun _ => .bind (loadFactors_within _ _) fun _ =>
      .bind .demand fun _ => .bind .ensure fun _ => updateFactor_within passkeys _ _ _ _ _
  · exact .bind .ensure fun _ => .bind (ensureEnrollmentCapacity_within _) fun _ => .bind .ensure fun _ =>
      .bind .demand fun _ => .bind .get fun _ => .bind .ensure fun _ => .bind .ensure fun _ => .bind .demand fun _ =>
        passkeys _

theorem addPasskey_within (actor : Scope) (revision : Int) (fresh : Uuid) (row : UserPasskey)
    (begun : ∀ user, Within r (begin user)) (invalidated : ∀ user, Within r (invalidate user)) :
    Within r (addPasskey env actor revision fresh row) := by
  refine .bind (begun _) fun _ => .bind (authorize_within clock _ _) fun enabled => .bind ?_ fun _ =>
    .bind (fetchState_within _) fun _ => .bind .ensure fun _ => .bind .get fun _ => .bind .ensure fun _ =>
      .bind .ensure fun _ => .bind (passkeys _) fun _ => ?_
  · exact .ite (fun _ => ensureEnrollmentCapacity_within _) fun _ => .pure
  · exact .ite (fun _ => invalidated _) fun _ => .pure

end

theorem clock_calm : Within Calm clockTimestamp :=
  fun _ _ _ ran => .single (.quiet (.clock ran))

/-- A statement whose effect is one calm step. -/
theorem modify_calm (calm : ∀ s, Calm s (f s)) : Within Calm (modify f : Tx PUnit) := by
  intro s u s' ran
  rw [yields_modify.mp ran]
  exact .single (calm s)

/-- A statement on other tables. -/
theorem aside_calm (same : ∀ s, (f s).now = s.now ∧ (f s).issued = s.issued ∧
    (f s).history = s.history ∧ (f s).grants = s.grants ∧ (f s).challenges = s.challenges ∧
    (f s).handoffs = s.handoffs ∧ (f s).userSessions = s.userSessions) : Within Calm (modify f : Tx PUnit) := by
  refine modify_calm fun s => ?_
  obtain ⟨now, issued, history, grants, challenges, handoffs, sessions⟩ := same s
  exact .quiet (.of_tables (le_of_eq now.symm) issued history grants challenges handoffs sessions)

theorem lockAccount_calm (user : Uuid) : Within Calm (lockAccount user) := by
  refine aside_calm fun s => ?_
  split <;> exact ⟨rfl, rfl, rfl, rfl, rfl, rfl, rfl⟩

theorem begin_calm (user : Uuid) : Within Calm (begin user) :=
  .bind (lockAccount_calm user) fun _ => .bind .get fun _ => .ensure

theorem opening_calm (actor : Scope) : Within Calm (opening env actor) := opening_within clock_calm actor (begin_calm _)

theorem updateState_calm (user : Uuid) (change : OwnerState → OwnerState) : Within Calm (updateState user change) := by
  refine aside_calm fun s => ?_
  cases (s.ownerState.find user).map change <;> exact ⟨rfl, rfl, rfl, rfl, rfl, rfl, rfl⟩

theorem fewerChallenges_calm (gone : Store → Nat → Challenge → Bool) :
    Within Calm (modify fun s => { s with challenges := s.challenges.discard (gone s) } : Tx PUnit) :=
  modify_calm fun s => .quiet (.fewer_challenges s (gone s))

theorem invalidate_calm (user : Uuid) : Within Calm (invalidate user) := by
  refine .bind .get fun _ => .bind .ensure fun _ => .bind (updateState_calm _ _) fun _ => .bind ?_ fun _ => ?_
  · exact modify_calm fun s => .invalidated s user
  · exact fewerChallenges_calm fun _ _ challenge => challenge.userId = user

theorem failed_calm (scope : Scope) : Within Calm (failed scope : Tx (Except OwnerError α)) :=
  .bind clock_calm fun _ => .bind (updateState_calm _ _) fun _ => .pure

/-! ## Grants -/

/-- A session is written over with a row of the same user. -/
theorem session_kept {sessions : Table Uuid UserSession} {id key : Uuid} {old row new : UserSession}
    (found : sessions.find id = some old) (same : new.userId = old.userId) (held : sessions.find key = some row) :
    ∃ row', (sessions.put id new).find key = some row' ∧ row'.userId = row.userId := by
  by_cases here : key = id
  · subst here
    cases found.symm.trans held
    exact ⟨new, Table.find_put_self _ _ _, same⟩
  · exact ⟨row, (Table.find_put_ne here).trans held, rfl⟩

theorem renewSession_calm (scope : Scope) (token : String) : Within Calm (renewSession env scope token) := by
  intro s expiresAt s' ran
  unfold renewSession at ran
  simp only [yields_modify_bind, yields_get_bind, yields_demand_bind, yields_ensure_bind, yields_pure] at ran
  obtain ⟨session, found, -, -, -, rfl⟩ := ran
  refine .single (.quiet ?_)
  constructor
  · exact le_refl _
  · rfl
  · rfl
  · intro session grant held
    exact Table.find_of_remove held
  · intro id challenge held
    exact (Table.find_discard.mp held).1
  · intro user handoff held
    exact held
  · intro id grant row _ held
    exact session_kept found rfl held

/-- Nothing but the clock has moved on. -/
def Ticked (s s' : Store) : Prop := ∃ now pauses, s.now ≤ now ∧ s' = { s with now, pauses }

theorem Ticked.refl (s : Store) : Ticked s s := ⟨s.now, s.pauses, le_refl _, rfl⟩

theorem Ticked.trans (first : Ticked s t) (second : Ticked t s') : Ticked s s' := by
  obtain ⟨now, pauses, later, rfl⟩ := first
  obtain ⟨now', pauses', later', rfl⟩ := second
  exact ⟨now', pauses', later.trans later', rfl⟩

theorem clockTimestamp_ticked (ran : Yields clockTimestamp s now s') : Ticked s s' := by
  obtain ⟨later, pauses, rfl⟩ := clockTimestamp_yields ran
  exact ⟨now, pauses, later, rfl⟩

theorem readContext_yields (ran : Yields (readContext env scope) s context s') :
    Ticked s s' ∧ ∃ row, s.userSessions.find scope.session = some row ∧
      context.credentialRevision = row.credentialVersion := by
  unfold readContext at ran
  obtain ⟨now, looked, first, ran⟩ := yields_bind.mp ran
  have ticked := clockTimestamp_ticked first
  simp only [yields_get_bind, yields_demand_bind, yields_ensure_bind, yields_pure] at ran
  obtain ⟨session, found, -, -, -, rfl, rfl⟩ := ran
  refine ⟨ticked, session, ?_, rfl⟩
  obtain ⟨_, _, -, rfl⟩ := ticked
  exact found

theorem checkContext_ticked (ran : Yields (checkContext env scope) s u s') : Ticked s s' := by
  unfold checkContext at ran
  split at ran
  · obtain ⟨-, rfl⟩ := yields_pure.mp ran
    exact .refl _
  · simp only [yields_bind, yields_ensure] at ran
    obtain ⟨context, middle, read, -, rfl⟩ := ran
    exact (readContext_yields read).1

/-- The insertion comes behind a look at the clock. -/
theorem insertGrant_yields (ran : Yields (insertGrant scope sessionExpiresAt challenge handoff) s expiresAt s') :
    ∃ middle proof, Quiet s middle ∧ Proves middle proof s' ∧ proof.user = scope.user ∧
      proof.session = scope.session ∧ proof.profile = scope.profile ∧ proof.challenge = challenge ∧
      proof.handoff = handoff := by
  unfold insertGrant at ran
  obtain ⟨now, middle, looked, ran⟩ := yields_bind.mp ran
  simp only [yields_modify_bind, yields_get_bind, yields_demand_bind, yields_ensure_bind, yields_pure] at ran
  obtain ⟨session, found, state, held, mine, free, -, rfl⟩ := ran
  have same : now = middle.now := by
    obtain ⟨-, pauses, rfl⟩ := clockTimestamp_yields looked
    rfl
  refine ⟨middle, ⟨scope.user, scope.session, scope.profile, session.credentialVersion, now, challenge, handoff⟩,
    .clock looked, ⟨?_, ⟨session, found, ?_, rfl⟩, same, state.revision, _, min_le_left _ _, rfl⟩, rfl, rfl, rfl, rfl, rfl⟩
  · exact Option.isNone_iff_eq_none.mp free
  · exact of_decide_eq_true mine

theorem updateState_yields
    (ran : Yields (updateState user change) s u s') : ∃ ownerState, s' = { s with ownerState } := by
  rw [updateState, yields_modify] at ran
  cases found : (s.ownerState.find user).map change with
  | none =>
    rw [found] at ran
    exact ⟨s.ownerState, ran⟩
  | some =>
    rw [found] at ran
    exact ⟨_, ran⟩

/-- A rotation is a proof behind calm statements, and the clock goes on behind it. -/
theorem rotate_yields (ran : Yields (rotate env scope token challenge handoff) s proven s') :
    ∃ before proof after, ReflTransGen Calm s before ∧ Proves before proof after ∧ ReflTransGen Calm after s' ∧
      after.now ≤ s'.now ∧ s'.history = after.history ∧ proven.context.credentialRevision = proof.version ∧
      proof.user = scope.user ∧ proof.session = scope.session ∧ proof.profile = scope.profile ∧
      proof.challenge = challenge ∧ proof.handoff = handoff := by
  unfold rotate at ran
  obtain ⟨_, checked, first, ran⟩ := yields_bind.mp ran
  obtain ⟨_, renewed, second, ran⟩ := yields_bind.mp ran
  obtain ⟨_, after, third, rest⟩ := yields_bind.mp ran
  obtain ⟨before, proof, looked, proves, facts⟩ := insertGrant_yields third
  have opening := (sessionScope_within clock_calm scope true _ _ _ first).trans (renewSession_calm scope token _ _ _ second)
  obtain ⟨_, reset, fourth, rest⟩ := yields_bind.mp rest
  obtain ⟨-, rest⟩ := yields_ensure_bind.mp rest
  obtain ⟨context, read, fifth, rest⟩ := yields_bind.mp rest
  obtain ⟨rfl, rfl⟩ := yields_pure.mp rest
  have closing := (updateState_calm _ _ _ _ _ fourth).trans (readContext_within clock_calm _ _ _ _ fifth)
  obtain ⟨ownerState, rfl⟩ := updateState_yields fourth
  obtain ⟨⟨now, pauses, later, rfl⟩, row, found, version⟩ := readContext_yields fifth
  obtain ⟨row', found', -, version'⟩ := proves.session
  obtain ⟨revision, expiresAt, -, rfl⟩ := proves.inserted
  rw [facts.2.1] at found'
  cases found'.symm.trans found
  exact ⟨before, proof, _, opening.tail (.quiet looked), proves, closing, later, rfl, version.trans version', facts⟩

/-! ## Handoffs and factors -/

theorem deleteHandoffs_calm (select : Uuid → Handoff → Bool) : Within Calm (deleteHandoffs select) := by
  refine modify_calm fun s => .quiet ?_
  constructor
  · exact le_refl _
  · rfl
  · rfl
  · intro session grant held
    exact held
  · intro id challenge held
    exact (Table.find_discard.mp held).1
  · intro user handoff held
    exact (Table.find_discard.mp held).1
  · intro session grant row _ held
    exact ⟨row, held, rfl⟩

theorem consumeHandoff_calm (user : Uuid) (id : Nat) : Within Calm (consumeHandoff user id) :=
  .bind clock_calm fun _ => .bind .get fun _ => .bind .ensure fun _ => deleteHandoffs_calm _

theorem activate_calm (user : Uuid) : Within Calm (activate user) :=
  .bind (invalidate_calm user) fun _ => updateState_calm _ _

theorem passkeys_calm (f : Store → Table Uuid UserPasskey) :
    Within Calm (modify fun s => { s with userPasskeys := f s } : Tx PUnit) :=
  aside_calm fun _ => ⟨rfl, rfl, rfl, rfl, rfl, rfl, rfl⟩

theorem issueHandoff_calm (user : Uuid) (token : String) : Within Calm (issueHandoff env user token) := by
  refine .bind (begin_calm user) fun _ => .bind (invalidate_calm user) fun _ => .bind (passkeys_calm _) fun _ =>
    .bind (updateState_calm _ _) fun _ => .bind (deleteHandoffs_calm _) fun _ => .bind clock_calm fun now =>
      .bind .get fun _ => .bind .ensure fun _ => .bind ?_ fun _ => .pure
  exact modify_calm fun s => .handoff s user _ _

/-! ## Ceremonies -/

theorem start_calm (actor : Scope) (request : PasskeyStart) : Within Calm (start env actor request) := by
  unfold start
  refine .bind (opening_calm _) fun _ => .bind .ensure fun _ => .bind (requestedHandoff_within clock_calm _ _) fun _ => ?_
  split
  · exact failed_calm actor
  · refine .bind clock_calm fun _ => .bind (fewerChallenges_calm _) fun _ => .bind .get fun _ => .bind .ensure fun _ =>
      .bind (ceremony_within _ _) fun _ => .bind clock_calm fun _ => .bind .get fun _ => .bind ?_ fun _ => .pure
    exact modify_calm fun s => .challenge s _

/-! ## The other transactions -/

/-- What the scope makes sure of, while nothing but the clock moves on. -/
theorem sessionScope_yields (ran : Yields (sessionScope env actor strict) s u s') :
    Ticked s s' ∧ ∃ row, s.userSessions.find actor.session = some row ∧ row.userId = actor.user := by
  unfold sessionScope at ran
  simp only [yields_get_bind, yields_ensure_bind] at ran
  obtain ⟨-, ran⟩ := ran
  obtain ⟨now, looked, first, ran⟩ := yields_bind.mp ran
  obtain ⟨valid, rest⟩ := yields_ensure_bind.mp ran
  refine ⟨(clockTimestamp_ticked first).trans (checkContext_ticked rest), ?_⟩
  obtain ⟨row, found, checks⟩ := (Option.any_eq_true _ _).mp valid
  simp only [Bool.and_eq_true, decide_eq_true_eq] at checks
  exact ⟨row, found, checks.1.1.1.1⟩

theorem lock_calm (actor : Scope) : Within Calm (lock env actor) := by
  intro s u s' ran
  unfold lock at ran
  obtain ⟨_, begun, first, ran⟩ := yields_bind.mp ran
  obtain ⟨_, checked, second, ran⟩ := yields_bind.mp ran
  obtain ⟨⟨now, pauses, _, rfl⟩, row, found, mine⟩ := sessionScope_yields second
  simp only [yields_modify_bind] at ran
  have opening := (begin_calm _ _ _ _ first).trans (sessionScope_within clock_calm _ _ _ _ _ second)
  have locked := opening.tail (.locked _ actor.session actor.user row found mine)
  exact locked.trans (fewerChallenges_calm _ _ _ _ ran)

theorem revokeManagement_calm (user : Uuid) : Within Calm (revokeManagement user) :=
  .bind (begin_calm user) fun _ => invalidate_calm user

theorem deletePasskey_calm (actor : Scope) (id : Uuid) : Within Calm (deletePasskey env actor id) := by
  refine .bind (begin_calm _) fun _ => .bind (authorize_within clock_calm _ _) fun enabled => .bind ?_ fun _ => .bind .get fun _ =>
    .bind .ensure fun _ => .bind ?_ fun _ => ?_
  · exact .ite (fun _ => .bind (allowDelete_within _ _) fun _ => .pure) fun _ => .pure
  · refine modify_calm fun s => .quiet ?_
    have fewer := Quiet.fewer_challenges s fun _ challenge => challenge.factorId = some id
    exact ⟨fewer.now, fewer.issued, fewer.history, fewer.grants, fewer.challenges, fewer.handoffs, fewer.sessions⟩
  · exact .ite (fun _ => invalidate_calm _) fun _ => .pure

theorem createProfile_calm (actor : Option Scope) (user fresh : Uuid) (standard : Bool) :
    Within Calm (createProfile env actor user fresh standard) := by
  refine .bind (begin_calm _) fun _ => .bind (authorize_within clock_calm _ _) fun _ => .bind .get fun _ => .bind .ensure fun _ => ?_
  exact aside_calm fun _ => ⟨rfl, rfl, rfl, rfl, rfl, rfl, rfl⟩

/-- Grants and challenges go, and sessions stay. -/
theorem Quiet.fewer_rows (s : Store) (profiles : Table Uuid Profile) (goneGrants : Uuid → Grant → Bool)
    (goneChallenges : Nat → Challenge → Bool) :
    Quiet s { s with
      userProfiles := profiles
      grants := s.grants.discard goneGrants
      challenges := s.challenges.discard goneChallenges } where
  now := le_refl _
  issued := rfl
  history := rfl
  grants _ _ held := (Table.find_discard.mp held).1
  challenges _ _ held := (Table.find_discard.mp held).1
  handoffs _ _ held := held
  sessions _ _ row _ held := ⟨row, held, rfl⟩

theorem deleteProfile_calm (actor : Scope) (user id : Uuid) : Within Calm (deleteProfile env actor user id) := by
  refine .bind (begin_calm _) fun _ => .bind (authorize_within clock_calm _ _) fun _ => .bind .get fun _ => .bind .demand fun _ =>
    .bind .ensure fun _ => .bind .ensure fun _ => ?_
  exact modify_calm fun s => .quiet (.fewer_rows s _ _ _)

/-- A new session takes no old one's place. -/
theorem openSession_calm (id : Uuid) (session : UserSession) : Within Calm (openSession id session) := by
  intro s u s' ran
  unfold openSession at ran
  simp only [yields_get_bind, yields_ensure_bind, yields_modify] at ran
  obtain ⟨free, rfl⟩ := ran
  have free := Option.isNone_iff_eq_none.mp free
  refine .single (.quiet ⟨le_refl _, rfl, rfl, fun _ _ held => held, fun _ _ held => held, fun _ _ held => held, ?_⟩)
  intro key grant row _ held
  have other : key ≠ id := by
    rintro rfl
    cases free.symm.trans held
  exact ⟨row, (Table.find_put_ne other).trans held, rfl⟩

theorem closeSession_calm (id : Uuid) : Within Calm (closeSession id) := by
  refine modify_calm fun s => .quiet ⟨le_refl _, rfl, rfl, ?_, ?_, fun _ _ held => held, ?_⟩
  · intro session grant held
    exact Table.find_of_remove held
  · intro id challenge held
    exact (Table.find_discard.mp held).1
  · intro session grant row granted held
    have other : session ≠ id := by
      rintro rfl
      rw [Table.find_remove, if_pos rfl] at granted
      cases granted
    exact ⟨row, by rw [Table.find_remove, if_neg other, held], rfl⟩

theorem selectProfile_calm (id profile : Uuid) : Within Calm (selectProfile id profile) := by
  intro s u s' ran
  unfold selectProfile at ran
  simp only [yields_get_bind, yields_demand_bind, yields_ensure_bind, yields_modify_bind] at ran
  obtain ⟨session, found, -, ran⟩ := ran
  have kept (row : UserSession) (same : row.userId = session.userId) :
      Calm s { s with userSessions := s.userSessions.put id row } :=
    .quiet ⟨le_refl _, rfl, rfl, fun _ _ held => held, fun _ _ held => held, fun _ _ held => held,
      fun _ _ _ _ held => session_kept found same held⟩
  have gone : Within Calm (modify fun s => { s with grants := s.grants.remove id } : Tx PUnit) :=
    modify_calm fun s => .quiet ⟨le_refl _, rfl, rfl, fun _ _ held => Table.find_of_remove held, fun _ _ held => held,
      fun _ _ held => held, fun _ _ row _ held => ⟨row, held, rfl⟩⟩
  have rest : ReflTransGen Calm _ s' :=
    Within.ite (fun _ => .bind gone fun _ => fewerChallenges_calm _) (fun _ => .pure) _ _ _ ran
  refine .head (kept _ ?_) rest
  rfl

theorem changeAccount_calm (user : Uuid) (active : Bool) (passwordHash : Option String) :
    Within Calm (changeAccount user active passwordHash) := by
  unfold changeAccount
  refine .bind .get fun _ => .bind .demand fun _ => .bind ?_ fun _ => ?_
  · exact aside_calm fun _ => ⟨rfl, rfl, rfl, rfl, rfl, rfl, rfl⟩
  · refine .ite (fun _ => .bind (invalidate_calm user) fun _ => ?_) fun _ => .pure
    exact .ite (fun _ => updateState_calm _ _) fun _ => .pure

end Duskcue.Household
