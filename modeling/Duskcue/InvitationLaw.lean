import Duskcue.InvitationUse

/-! The law of an invitation: how many sessions and accounts it gives, which calls
come too late for it, and what a call that fails leaves behind. -/
namespace Duskcue.Auth
open Playback (Uuid Time second)
open Transaction

section
variable (sha256Hex : String → String)

def Phase.inserts (id : Uuid) : Phase → Bool
  | .inserting key _ => key = id
  | _ => false

def Phase.grants (id : Uuid) : Phase → Bool
  | .granting key _ _ => key = id
  | _ => false

/-- The move creates an account for the invitation. -/
def creates (id : Uuid) (sys : InviteSystem) (move : InviteMove) : Bool :=
  match move.action with
  | .advance call _ =>
    (sys.calls.find call).any (·.phase.inserts id) &&
      ((inviteNext sha256Hex sys move).calls.find call).any (·.phase.grants id)
  | _ => false

/-- The invitation has been revoked, or all its uses have been counted. -/
def Exhausted (id : Uuid) (sys : InviteSystem) : Prop :=
  ∃ row, sys.store.invitations.find id = some row ∧ (row.isRevoked = true ∨ row.maxUses ≤ row.useCount)

/-- The call has not run its first statement. -/
def Unstarted (call : Nat) (sys : InviteSystem) : Prop :=
  ∀ state, sys.calls.find call = some state → ∃ code, state.phase = .reading code

/-- What holds of an invitation along a run. -/
structure InviteLaw (sys : InviteSystem) (moves : List InviteMove) (id : Uuid) (row : Invitation) : Prop where
  sessions : occurrences (inviteNext sha256Hex) (fun s m => (opens sha256Hex id s m).isSome) sys moves ≤
    (row.maxUses - row.useCount).toNat
  accounts : occurrences (inviteNext sha256Hex) (creates sha256Hex id) sys moves ≤ 1
  barred : ∀ earlier middle move later call, moves = earlier ++ (middle ++ move :: later) →
    Exhausted id (inviteRun sha256Hex sys earlier) → Unstarted call (inviteRun sha256Hex sys earlier) →
    opens sha256Hex id (inviteRun sha256Hex sys (earlier ++ middle)) move ≠ some call
  rolledBack : ∀ earlier move later call draw state error, moves = earlier ++ move :: later →
    move.action = .advance call draw → (inviteRun sha256Hex sys moves).calls.find call = some state →
    state.phase = .failed error →
    Unwritten (inviteRun sha256Hex sys earlier).store (inviteRun sha256Hex sys (earlier ++ [move])).store

end

variable {sha256Hex : String → String} {sys sys' : InviteSystem} {move : InviteMove} {id : Uuid} {call : Nat}
  {state state' : Call}

/-- How a call came to where it stands behind a move. -/
theorem Moved.origin (moved : Moved sha256Hex sys move sys') (found : sys'.calls.find call = some state') :
    sys.calls.find call = some state' ∨ (∃ code, state'.phase = .reading code) ∨
      (∃ draw state, sys.calls.find call = some state ∧
        Progress sha256Hex draw (sys.arrive move.elapsed move.faults).store sys'.store state.phase state'.phase) ∨
      (∃ error, state'.phase = .failed error) ∨ state'.phase = .stopped := by
  cases moved with
  | idle | revoked => exact .inl found
  | begun _ code =>
    rw [Table.find_put] at found
    split at found
    · cases found
      exact .inr (.inl ⟨code, rfl⟩)
    · exact .inl found
  | advanced key state draw store phase held asked progress =>
    rw [Table.find_put] at found
    split at found
    · rename_i same
      subst same
      cases found
      exact .inr (.inr (.inl ⟨draw, state, held, progress⟩))
    · exact .inl found
  | failed _ _ _ _ error =>
    rw [Table.find_put] at found
    split at found
    · cases found
      exact .inr (.inr (.inr (.inl ⟨error, rfl⟩)))
    · exact .inl found
  | stopped =>
    rw [Table.find_put] at found
    split at found
    · cases found
      exact .inr (.inr (.inr (.inr rfl)))
    · exact .inl found

/-! ## Accounts -/

theorem Progress.user {user : Uuid} {account : User}
    (progress : Progress sha256Hex draw s s' phase phase') (found : s.users.find user = some account) :
    s'.users.find user = some account := by
  cases progress with
  | used _ _ _ kept | unused _ _ _ kept | opened _ kept | fetched kept | resolved kept | ended _ kept =>
    rw [kept.users, found]
  | granted users | linked users | counted users => rw [users, found]
  | inserted _ _ absent _ users =>
    have other : user ≠ draw.userId := by
      rintro rfl
      cases absent.symm.trans found
    rw [users, Table.find_put_ne other, found]

/-- Every account stays as it is. -/
theorem Moved.user {user : Uuid} (moved : Moved sha256Hex sys move sys')
    (found : sys.store.users.find user = some account) : sys'.store.users.find user = some account := by
  cases moved with
  | idle _ kept | begun _ _ _ _ kept | failed _ _ _ _ _ _ _ _ kept | stopped _ _ _ _ _ kept =>
    rw [kept.users, found]
  | revoked _ _ _ _ users => rw [users, found]
  | advanced _ _ _ _ _ _ _ progress => exact progress.user found

/-- The invitation is for an address, and so is what the calls read of it. -/
structure Addressed (id : Uuid) (email : String) (sys : InviteSystem) : Prop where
  invitation : ∃ row, sys.store.invitations.find id = some row ∧ row.email = email
  read : ∀ call state row, sys.calls.find call = some state → state.phase = .inserting id row → row.email = email

/-- The address belongs to an account. -/
def Taken (email : String) (sys : InviteSystem) : Prop :=
  ∃ user account, sys.store.users.find user = some account ∧ account.email = some email

theorem Addressed.step {email : String} (addressed : Addressed id email sys) (move : InviteMove) :
    Addressed id email (inviteNext sha256Hex sys move) := by
  have moved := next_moved sha256Hex sys move
  obtain ⟨row, held, same⟩ := addressed.invitation
  constructor
  · obtain ⟨row', held', aged⟩ := moved.find held
    exact ⟨row', held', aged.email.trans same⟩
  · intro call state' read found inserts
    rcases moved.origin found with before | ⟨code, reads⟩ | ⟨draw, state, before, progress⟩ | ⟨error, failed⟩ | stopped
    · exact addressed.read call state' read before inserts
    · cases reads.symm.trans inserts
    · rw [inserts] at progress
      generalize at_ : state.phase = phase at progress
      cases progress with
      | unused looked =>
        cases (findInvitation_find looked).symm.trans held
        exact same
      | ended => exact addressed.read call state read before at_
    · cases failed.symm.trans inserts
    · cases stopped.symm.trans inserts

/-- An account is created by an INSERT that found the address free. -/
theorem creates_cases (created : creates sha256Hex id sys move = true) :
    ∃ call state row draw user, sys.calls.find call = some state ∧ state.phase = .inserting id row ∧
      user.email = some row.email ∧
      (sys.store.users.holds fun _ user => user.email = some row.email) = false ∧
      (inviteNext sha256Hex sys move).store.users = sys.store.users.put draw user := by
  unfold creates at created
  split at created
  · rename_i call draw asked
    simp only [Bool.and_eq_true, Option.any_eq_true] at created
    obtain ⟨⟨state, found, inserts⟩, state', found', grants⟩ := created
    obtain ⟨row, at_⟩ : ∃ row, state.phase = .inserting id row := by
      cases phase : state.phase with
      | inserting key row =>
        rw [phase] at inserts
        have same : key = id := of_decide_eq_true inserts
        exact ⟨row, by rw [same]⟩
      | _ =>
        rw [phase] at inserts
        cases inserts
    have moved := next_moved sha256Hex sys move
    rcases moved.origin found' with before | ⟨code, reads⟩ | ⟨draw, state, before, progress⟩ | ⟨error, failed⟩ | stopped
    · cases found.symm.trans before
      rw [at_] at grants
      cases grants
    · rw [reads] at grants
      cases grants
    · cases found.symm.trans before
      rw [at_] at progress
      generalize after_ : state'.phase = phase at progress
      cases progress with
      | inserted user email _ free users => exact ⟨call, state, row, draw.userId, user, found, at_, email, free, users⟩
      | ended =>
        rw [after_] at grants
        cases grants
    · rw [failed] at grants
      cases grants
    · rw [stopped] at grants
      cases grants
  · cases created

/-- The address of an account is unique, so an invitation creates one account at most. -/
theorem creates_once (addressed : Addressed id email sys) (moves : List InviteMove) :
    occurrences (inviteNext sha256Hex) (creates sha256Hex id) sys moves ≤ 1 := by
  have kept : ∀ s m, Addressed id email s → Addressed id email (inviteNext sha256Hex s m) := fun s m held => held.step m
  refine occurrences_le_one (Taken email) kept ?_ ?_ ?_ addressed moves
  · rintro s m - ⟨user, account, found, same⟩
    exact ⟨user, account, (next_moved sha256Hex s m).user found, same⟩
  · rintro s m held ⟨user, account, found, same⟩
    cases created : creates sha256Hex id s m with
    | false => rfl
    | true =>
      obtain ⟨call, state, row, draw, -, before, inserts, -, free, -⟩ := creates_cases created
      have mine := held.read call state row before inserts
      have other := Table.holds_eq_false.mp free user account found
      simp [same, mine] at other
  · intro s m held created
    obtain ⟨call, state, row, draw, user, before, inserts, email, -, users⟩ := creates_cases created
    refine ⟨draw, user, by rw [users, Table.find_put_self], ?_⟩
    rw [email, held.read call state row before inserts]

/-! ## Calls that come too late -/

/-- The invitation is exhausted, and the call is not among those that passed its checks. -/
def Barred (id : Uuid) (call : Nat) (sys : InviteSystem) : Prop :=
  Exhausted id sys ∧ ∀ state, sys.calls.find call = some state →
    state.phase.uncounted id = false ∧ state.phase.unopened id = false

theorem Unstarted.barred (exhausted : Exhausted id sys) (unstarted : Unstarted call sys) : Barred id call sys := by
  refine ⟨exhausted, fun state found => ?_⟩
  obtain ⟨code, reads⟩ := unstarted state found
  rw [reads]
  exact ⟨rfl, rfl⟩

theorem Exhausted.step (exhausted : Exhausted id sys) (move : InviteMove) :
    Exhausted id (inviteNext sha256Hex sys move) := by
  obtain ⟨row, held, past⟩ := exhausted
  obtain ⟨row', held', aged⟩ := (next_moved sha256Hex sys move).find held
  refine ⟨row', held', past.imp aged.isRevoked fun used => ?_⟩
  rw [aged.maxUses]
  exact Int.le_trans used aged.useCount

/-- The checks turn an exhausted invitation down. -/
theorem Exhausted.rejects {hash : String} {read : Invitation} (exhausted : Exhausted id sys)
    (found : findInvitation sys.store hash = some (key, read)) (unrevoked : read.isRevoked = false)
    (room : read.useCount < read.maxUses) : key ≠ id := by
  rintro rfl
  obtain ⟨row, held, past⟩ := exhausted
  cases (findInvitation_find found).symm.trans held
  rcases past with revoked | used
  · rw [unrevoked] at revoked
    cases revoked
  · omega

theorem Barred.step (barred : Barred id call sys) (move : InviteMove) :
    Barred id call (inviteNext sha256Hex sys move) := by
  obtain ⟨exhausted, outside⟩ := barred
  refine ⟨exhausted.step move, fun state' found => ?_⟩
  rcases (next_moved sha256Hex sys move).origin found with
    before | ⟨code, reads⟩ | ⟨draw, state, before, progress⟩ | ⟨error, failed⟩ | stopped
  · exact outside state' before
  · rw [reads]
    exact ⟨rfl, rfl⟩
  · by_cases reads : ∃ code, state.phase = .reading code
    · obtain ⟨code, reads⟩ := reads
      rw [reads] at progress
      generalize at_ : state'.phase = phase at progress ⊢
      cases progress with
      | used looked unrevoked room | unused looked unrevoked room =>
        have other := exhausted.rejects looked unrevoked room
        simp [Phase.uncounted, Phase.unopened, other]
      | ended => exact ⟨rfl, rfl⟩
    · obtain ⟨uncounted, unopened⟩ := outside state before
      obtain ⟨counts, opens, -⟩ := progress.shifts (fun code at_ => reads ⟨code, at_⟩) id
      rw [uncounted, Bool.toNat_false, Nat.add_eq_zero_iff, Bool.toNat_eq_zero, Bool.toNat_eq_zero] at counts
      rw [unopened, counts.2, Bool.toNat_false, Nat.le_zero, Bool.toNat_eq_zero] at opens
      exact ⟨counts.1, opens⟩
  · rw [failed]
    exact ⟨rfl, rfl⟩
  · rw [stopped]
    exact ⟨rfl, rfl⟩

theorem Barred.run (sha256Hex : String → String) (barred : Barred id call sys) (moves : List InviteMove) :
    Barred id call (inviteRun sha256Hex sys moves) := by
  induction moves generalizing sys with
  | nil => exact barred
  | cons move _ ih => exact ih (barred.step move)

theorem Barred.opens_ne (barred : Barred id call sys) (move : InviteMove) :
    opens sha256Hex id sys move ≠ some call := by
  intro opened
  obtain ⟨draw, state, state', -, found, waiting, -⟩ := opens_cases opened
  rw [(barred.2 state found).2] at waiting
  cases waiting

/-! ## Calls that fail -/

/-- A statement of the call has written. -/
def Phase.written : Phase → Bool
  | .granting _ _ _ | .counting _ _ true | .opening _ _ | .fetching _ _ _ | .resolving _ _ _ _ | .answered _
  | .stopped => true
  | _ => false

/-- The account a call has created, or opened a session for. -/
def Phase.account : Phase → Option Uuid
  | .granting _ user _ | .fetching _ user _ => some user
  | _ => none

/-- Those accounts exist. -/
def Present (sys : InviteSystem) : Prop :=
  ∀ call state user, sys.calls.find call = some state → state.phase.account = some user →
    ∃ account, sys.store.users.find user = some account

theorem Progress.account {user : Uuid}
    (progress : Progress sha256Hex draw s s' phase phase') (held : phase'.account = some user) :
    phase.account = some user ∨ ∃ account, s'.users.find user = some account := by
  cases progress with
  | inserted created _ _ _ users =>
    cases held
    exact .inr ⟨created, by rw [users, Table.find_put_self]⟩
  | granted | ended => exact .inl held
  | opened present kept =>
    cases held
    rw [kept.users]
    exact .inr (Option.isSome_iff_exists.mp present)
  | _ => cases held

theorem Present.step (present : Present sys) (move : InviteMove) : Present (inviteNext sha256Hex sys move) := by
  intro call state' user found held
  have moved := next_moved sha256Hex sys move
  have stays : (∃ account, sys.store.users.find user = some account) →
      ∃ account, (inviteNext sha256Hex sys move).store.users.find user = some account := by
    rintro ⟨account, there⟩
    exact ⟨account, moved.user there⟩
  rcases moved.origin found with before | ⟨code, reads⟩ | ⟨draw, state, before, progress⟩ | ⟨error, failed⟩ | stopped
  · exact stays (present call state' user before held)
  · rw [reads] at held
    cases held
  · rcases progress.account held with held | there
    · exact stays (present call state user before held)
    · exact there
  · rw [failed] at held
    cases held
  · rw [stopped] at held
    cases held

section
variable {s : Store} {draw : InviteDraw} {device : DeviceInfo}

theorem updateInvitation_succeeds (key : Uuid) (f : Invitation → Invitation) :
    Succeeds (updateInvitation key f) s fun _ t => t.faults = s.faults := by
  refine .get_bind ?_
  cases s.invitations.find key with
  | none => exact .pure rfl
  | some => exact ⟨(), _, yields_modify.mpr rfl, rfl⟩

/-- What the next statement of a call that has written needs to succeed. -/
def Ready (sha256Hex : String → String) (s : Store) (draw : InviteDraw) : Phase → Prop
  | .granting _ user _ | .fetching _ user _ => ∃ account, s.users.find user = some account
  | .counting id _ _ => ∀ row, s.invitations.find id = some row → row.useCount < intMax
  | .opening _ user => Openable sha256Hex s user draw.session
  | _ => True

theorem written_succeeds {phase : Phase} (clear : s.faults = []) (written : phase.written = true)
    (ready : Ready sha256Hex s draw phase) :
    Succeeds (phase.statement sha256Hex device draw) s fun _ _ => True := by
  cases phase with
  | reading | inserting | failed => cases written
  | granting _ user capabilities =>
    cases capabilities with
    | nil =>
      refine statement_bind clear (.bind (updateInvitation_succeeds _ _) fun _ _ _ _ => ?_)
      exact .pure trivial
    | cons capability =>
      obtain ⟨account, found⟩ := ready
      refine statement_bind clear (.get_bind (.ensure_bind (by simp [found]) ?_))
      by_cases absent : (s.userCapabilities.find (user, capability)).isNone = true
      · rw [if_pos absent]
        exact .modify_bind (.pure trivial)
      · rw [if_neg absent]
        exact .pure trivial
  | counting key =>
    refine statement_bind clear (.get_bind (.ensure_bind ?_ ?_))
    · cases found : s.invitations.find key with
      | none => rfl
      | some row => simpa using ready row found
    · exact .bind (updateInvitation_succeeds _ _) fun _ _ _ _ => .pure trivial
  | opening =>
    refine .bind (createSession_succeeds clear ready device) fun session t _ calm => ?_
    exact statement_bind calm (.pure trivial)
  | fetching =>
    obtain ⟨account, found⟩ := ready
    exact statement_bind clear (.get_bind (.demand_bind found (.pure trivial)))
  | resolving _ user _ account =>
    refine .bind (resolveCapabilities_succeeds clear user account.role) fun _ _ _ _ => ?_
    exact .pure trivial
  | answered | stopped => exact .pure trivial

end

theorem Progress.stays_written
    (progress : Progress sha256Hex draw s s' phase phase') (written : phase.written = true) : phase'.written = true := by
  cases progress with
  | used | unused | inserted => cases written
  | granted | linked | counted | opened | fetched | resolved => rfl
  | ended => exact written

/-- A statement either leaves the tables alone or shows in where the call stands. -/
theorem Progress.unwritten_or
    (progress : Progress sha256Hex draw s s' phase phase') : Unwritten s s' ∨ phase'.written = true := by
  cases progress with
  | used _ _ _ kept | unused _ _ _ kept | ended _ kept => exact .inl kept
  | inserted | granted | linked | counted | opened | fetched | resolved => exact .inr rfl

theorem orderly_succeeds (elapsed : Nat) (device : DeviceInfo) (calm : OrderlyAt sha256Hex sys faults draw phase)
    (there : ∀ user, phase.account = some user → ∃ account, sys.store.users.find user = some account)
    (written : phase.written = true) :
    Succeeds (phase.statement sha256Hex device draw) (sys.arrive elapsed faults).store fun _ _ => True := by
  cases phase with
  | reading | inserting | failed => cases written
  | granting _ user | fetching _ user => exact written_succeeds calm rfl (there user rfl)
  | counting _ _ created =>
    cases created with
    | false => cases written
    | true => exact written_succeeds calm.1 rfl calm.2
  | opening =>
    exact written_succeeds calm.1 rfl (show Openable _ _ _ _ from ⟨calm.2.account, calm.2.session, calm.2.token⟩)
  | resolving => exact written_succeeds calm rfl trivial
  | answered | stopped => exact .pure trivial

/-- A call that has written does not fail in an orderly run. -/
theorem written_step (orderly : Orderly sha256Hex sys move) (present : Present sys)
    (found : sys.calls.find call = some state) (written : state.phase.written = true) :
    ∃ state', (inviteNext sha256Hex sys move).calls.find call = some state' ∧ state'.phase.written = true := by
  have moved := next_moved sha256Hex sys move
  generalize inviteNext sha256Hex sys move = sys' at moved ⊢
  cases moved with
  | idle | revoked => exact ⟨state, found, written⟩
  | begun key _ _ _ _ fresh =>
    have other : call ≠ key := by
      rintro rfl
      cases fresh.symm.trans found
    exact ⟨state, by rw [Table.find_put_ne other, found], written⟩
  | advanced key _ _ _ _ held _ progress =>
    by_cases same : call = key
    · subst same
      cases found.symm.trans held
      exact ⟨_, Table.find_put_self _ _ _, progress.stays_written written⟩
    · exact ⟨state, by rw [Table.find_put_ne same, found], written⟩
  | failed key _ draw _ _ held asked raised =>
    by_cases same : call = key
    · subst same
      cases found.symm.trans held
      obtain ⟨phase, store', ran, -⟩ := orderly_succeeds move.elapsed state.device
        (orderly call draw state asked found) (fun user => present call state user found) written
      cases ran.symm.trans raised
    · exact ⟨state, by rw [Table.find_put_ne same, found], written⟩
  | stopped key =>
    by_cases same : call = key
    · exact ⟨_, by rw [same]; exact Table.find_put_self _ _ _, rfl⟩
    · exact ⟨state, by rw [Table.find_put_ne same, found], written⟩

theorem written_run (orderly : Throughout (inviteNext sha256Hex) (Orderly sha256Hex) sys moves)
    (present : Present sys) (found : sys.calls.find call = some state) (written : state.phase.written = true) :
    ∃ state', (inviteRun sha256Hex sys moves).calls.find call = some state' ∧ state'.phase.written = true := by
  induction moves generalizing sys state with
  | nil => exact ⟨state, found, written⟩
  | cons move _ ih =>
    obtain ⟨state', after, still⟩ := written_step orderly.1 present found written
    exact ih orderly.2 (present.step move) after still

theorem Present.run (sha256Hex : String → String) (present : Present sys) (moves : List InviteMove) : Present (inviteRun sha256Hex sys moves) := by
  induction moves generalizing sys with
  | nil => exact present
  | cons move _ ih => exact ih (present.step move)

/-- No statement of a call that fails in the end has written. -/
theorem failed_unwritten
    (orderly : Throughout (inviteNext sha256Hex) (Orderly sha256Hex) sys (earlier ++ move :: later))
    (present : Present sys) (asked : move.action = .advance call draw)
    (found : (inviteRun sha256Hex sys (earlier ++ move :: later)).calls.find call = some state)
    (failed : state.phase = .failed error) :
    Unwritten (inviteRun sha256Hex sys earlier).store (inviteRun sha256Hex sys (earlier ++ [move])).store := by
  have rest := orderly.append_right.2
  have before := present.run sha256Hex earlier
  have moved := next_moved sha256Hex (inviteRun sha256Hex sys earlier) move
  have split : inviteRun sha256Hex sys (earlier ++ [move]) =
      inviteNext sha256Hex (inviteRun sha256Hex sys earlier) move := by
    simp [inviteRun]
  have whole : inviteRun sha256Hex sys (earlier ++ move :: later) =
      inviteRun sha256Hex (inviteNext sha256Hex (inviteRun sha256Hex sys earlier) move) later := by
    simp [inviteRun]
  rw [split]
  rw [whole] at found
  have unfailed : ∀ state', (inviteNext sha256Hex (inviteRun sha256Hex sys earlier) move).calls.find call = some state' →
      state'.phase.written = false := by
    intro state' after
    cases written : state'.phase.written with
    | false => rfl
    | true =>
      obtain ⟨final, held, still⟩ := written_run rest (before.step move) after written
      cases found.symm.trans held
      rw [failed] at still
      cases still
  generalize inviteNext sha256Hex (inviteRun sha256Hex sys earlier) move = sys' at moved unfailed
  cases moved with
  | idle _ kept | begun _ _ _ _ kept | failed _ _ _ _ _ _ _ _ kept | stopped _ _ _ _ _ kept => exact kept
  | advanced _ _ _ _ _ _ named progress =>
    cases asked.symm.trans named
    rcases progress.unwritten_or with kept | written
    · exact ⟨kept.users, kept.userCapabilities, kept.invitations⟩
    · have unwritten := unfailed _ (Table.find_put_self _ _ _)
      cases written.symm.trans unwritten
  | revoked _ _ _ _ _ _ named => cases asked.symm.trans named

theorem sessions_within (within : WithinLimit id limit sys)
    (orderly : Throughout (inviteNext sha256Hex) (Orderly sha256Hex) sys moves) :
    occurrences (inviteNext sha256Hex) (fun s m => (opens sha256Hex id s m).isSome) sys moves ≤ remaining id limit sys := by
  have kept : ∀ s m, Orderly sha256Hex s m → WithinLimit id limit s → WithinLimit id limit (inviteNext sha256Hex s m) :=
    fun s m met inside => (limit_step met inside).1
  refine occurrences_le_potential (remaining id limit) kept (fun s m met inside => ?_) within orderly
  exact (limit_step met inside).2

/-- In every orderly run from a store without calls, an invitation opens no more sessions
than it had uses left and creates one account at most, calls that come too late open none,
and calls that fail leave nothing behind. -/
theorem invitation_law (sha256Hex : String → String) (store : Store) (id : Uuid) (row : Invitation)
    (held : store.invitations.find id = some row) (moves : List InviteMove)
    (orderly : Throughout (inviteNext sha256Hex) (Orderly sha256Hex) (.opened store) moves) :
    InviteLaw sha256Hex (.opened store) moves id row := by
  have idle : (InviteSystem.opened store).waiting (Phase.unopened id) = 0 := rfl
  have none : ∀ call, (InviteSystem.opened store).calls.find call = none := fun _ => rfl
  constructor
  · have within : WithinLimit id (max row.maxUses row.useCount) (.opened store) := by
      refine ⟨row, held, Int.le_max_left _ _, ?_⟩
      rw [show (InviteSystem.opened store).waiting (Phase.uncounted id) = 0 from rfl]
      omega
    have bound := sessions_within within orderly
    rw [remaining_eq held, idle] at bound
    omega
  · have addressed : Addressed id row.email (.opened store) := by
      refine ⟨⟨row, held, rfl⟩, fun call state read found => ?_⟩
      cases (none call).symm.trans found
    exact creates_once addressed moves
  · intro earlier middle move later call _ exhausted unstarted
    have barred := (unstarted.barred exhausted).run sha256Hex middle
    rw [show inviteRun sha256Hex (.opened store) (earlier ++ middle) =
      inviteRun sha256Hex (inviteRun sha256Hex (.opened store) earlier) middle by simp [inviteRun]]
    exact barred.opens_ne move
  · rintro earlier move later call draw state error rfl asked found failed
    have present : Present (.opened store) := by
      intro call state user found
      cases (none call).symm.trans found
    exact failed_unwritten orderly present asked found failed

namespace InviteSample

def member : Uuid := Uuid.v7 1 1

def invitation : Uuid := Uuid.v7 3 1

/-- The digests of the texts hashed here. -/
def digest (text : String) : String :=
  if text = "invite" then "5014f9af3a684fdd64a775c1c4c532ee66b1b96cb56b1d02170d2249b6764f75"
  else if text = "first" then "a7937b64b8caa58f03721bb6bacf5c78cb235febe0e70b1b84cd99541461a08e"
  else if text = "second" then "16367aacb67a4a017c8da8ab95682ccb390863780f7114dda0a0e0c55644c7c4"
  else if text = "third" then "b1e99324505bd32da0e1f85dcf5e19a09db0481e8a15f62c41eb320304a8e927"
  else text

/-- An invitation for two uses that nobody has used. -/
def unused : Invitation :=
  { userId := none, codeHash := digest "invite", email := "guest@example.org", displayName := some "Guest"
    role := .guest, capabilities := [], hasAllLibraryAccess := true, maxUses := 2, useCount := 0
    expiresAt := none, isRevoked := false }

def store : Store where
  users := .empty
  userProfiles := .empty
  profileDevicePreferences := .empty
  userCapabilities := .empty
  userSessions := .empty
  invitations := Table.empty.put invitation unused
  deviceLinkingCodes := .empty
  issued := 0
  config := ⟨900, 5, 90⟩
  now := 0
  faults := []

def device : DeviceInfo := ⟨none, none, none, none, none, none, none, true⟩

def begin (call : Nat) : InviteMove := ⟨1, [], .begin call "invite" device⟩

def draw (call : Nat) : InviteDraw :=
  ⟨member, "guest", ⟨Uuid.v7 2 call, Uuid.v7 4 call, if call = 1 then "first" else if call = 2 then "second" else "third"⟩⟩

def advance (call : Nat) : InviteMove := ⟨1, [], .advance call (draw call)⟩

/-- One call from its first statement to its session. -/
def redeemed : List InviteMove :=
  [begin 1, advance 1, advance 1, advance 1, advance 1, advance 1]

/-- Two calls that both read the invitation before either counts its use. -/
def overlapping : List InviteMove :=
  [begin 2, begin 3, advance 2, advance 3, advance 2, advance 3, advance 2, advance 3]

end InviteSample

theorem Orderly.at (asked : move.action = .advance call draw) (phase : Phase)
    (at_ : (sys.calls.find call).map (·.phase) = some phase) (met : OrderlyAt sha256Hex sys move.faults draw phase) :
    Orderly sha256Hex sys move := by
  intro key draw' state named found
  cases asked.symm.trans named
  rw [found] at at_
  cases at_
  exact met

open InviteSample in
theorem invitation_redeemed :
    InviteLaw digest (.opened store) redeemed invitation unused ∧
      occurrences (inviteNext digest) (creates digest invitation) (.opened store) redeemed = 1 := by
  refine ⟨invitation_law digest store invitation unused (by decide +kernel) redeemed
    ⟨?_, ?_, ?_, ?_, ?_, ?_, trivial⟩, by decide +kernel⟩
  · intro call draw state asked
    cases asked
  · refine .at rfl (.reading "invite") (by decide +kernel) ?_
    intro id row found _
    have read : findInvitation store (digest "invite") = some (invitation, unused) := by decide +kernel
    cases read.symm.trans found
    decide +kernel
  · exact .at rfl (.inserting invitation unused) (by decide +kernel) trivial
  · exact .at rfl (.granting invitation member []) (by decide +kernel) rfl
  · refine .at rfl (.counting invitation member true) (by decide +kernel) ⟨rfl, ?_⟩
    intro row found
    have linked : ((inviteRun digest (.opened store) (redeemed.take 4)).store.invitations.find invitation).map (·.useCount) =
        some 0 := by decide +kernel
    rw [show (inviteRun digest (.opened store) (redeemed.take 4)).store.invitations.find invitation = some row from found]
      at linked
    have unused : row.useCount = 0 := Option.some.inj linked
    rw [unused]
    decide
  · refine .at rfl (.opening invitation member) (by decide +kernel) ⟨rfl, ⟨?_, by decide +kernel, by decide +kernel⟩⟩
    exact ⟨⟨"guest", "Guest", some "guest@example.org", .guest, .active, none, true⟩, by decide +kernel,
      .inr ⟨by decide +kernel, by decide +kernel⟩⟩

open InviteSample in
/-- A limit of two, one use counted, and two calls at once: three sessions. -/
theorem overlapping_redemptions_exceed_limit :
    ¬ InviteLaw digest (.opened store) (redeemed ++ overlapping) invitation unused := by
  intro law
  have opened : occurrences (inviteNext digest) (fun s m => (opens digest invitation s m).isSome) (.opened store)
      (redeemed ++ overlapping) = 3 := by
    decide +kernel
  have bound := law.sessions
  rw [opened] at bound
  revert bound
  decide

end Duskcue.Auth
