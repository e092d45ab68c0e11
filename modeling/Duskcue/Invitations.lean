import Duskcue.AuthSchema

/-! Redeeming invitation codes. `authenticate_invite_code` is a sequence of
statements, each committed on its own, and one transaction that opens the
session. A call is kept with the statement it has come to, so a run is any
interleaving of the statements of any number of calls and of revocations; a
call may stop behind any of its statements, and the database may fail any of
them. -/
namespace Duskcue.Auth
open Playback (Uuid Time second)
open Transaction

/-- Where a call of `authenticate_invite_code` stands: the statement it runs next, with
the locals that are still read. `created` tells the two arms before the count apart. -/
inductive Phase
  | reading (code : String)
  | inserting (id : Uuid) (invitation : Invitation)
  | granting (id user : Uuid) (capabilities : List String)
  | counting (id user : Uuid) (created : Bool)
  | opening (id user : Uuid)
  | fetching (id user : Uuid) (session : UserSession)
  | resolving (id user : Uuid) (session : UserSession) (account : User)
  | answered (summary : UserSummary)
  | failed (error : AuthError)
  | stopped
  deriving DecidableEq

/-- The call has returned. -/
def Phase.ended : Phase → Bool
  | .answered _ | .failed _ => true
  | _ => false

/-- The values drawn for a new account and a new session. -/
structure InviteDraw where
  userId : Uuid
  username : String
  session : Draw

/-- The largest value of an INT column. -/
def intMax : Int := 2147483647

def findInvitation (s : Store) (codeHash : String) : Option (Uuid × Invitation) :=
  (s.invitations.select fun _ row => row.codeHash = codeHash).head?.bind fun id =>
    (s.invitations.find id).map (id, ·)

section
variable (sha256Hex : String → String)

/-- The SELECT of the invitation and the checks behind it. -/
def readInvitation (code : String) : Tx Phase := do
  statement
  let s ← get
  let (id, invitation) ← demand (findInvitation s (sha256Hex code)) .inviteCodeInvalid
  ensure (!invitation.isRevoked) .inviteCodeRevoked
  ensure (!invitation.expiresAt.any fun expires => expires < s.now) .inviteCodeInvalid
  ensure (invitation.useCount < invitation.maxUses) .inviteCodeUseLimitExceeded
  match invitation.userId with
  | some user => pure (.counting id user false)
  | none => pure (.inserting id invitation)

/-- `INSERT INTO users`, under the unique indexes on active names and on addresses. -/
def insertUser (id : Uuid) (invitation : Invitation) (draw : InviteDraw) : Tx Phase := do
  statement
  let s ← get
  require (s.users.find draw.userId).isNone .uniqueViolation
  require (!s.users.holds fun _ user => user.username = draw.username && user.deletedAt.isNone) .uniqueViolation
  require (!s.users.holds fun _ user => user.email = some invitation.email) .uniqueViolation
  let user : User :=
    { username := draw.username, displayName := invitation.displayName.getD "New User"
      email := some invitation.email, role := invitation.role, status := .active, deletedAt := none
      hasAllLibraryAccess := invitation.hasAllLibraryAccess }
  modify fun s => { s with users := s.users.put draw.userId user }
  pure (.granting id draw.userId invitation.capabilities)

/-- `INSERT INTO user_capabilities ... ON CONFLICT DO NOTHING`. -/
def grantCapability (id user : Uuid) (capability : String) (capabilities : List String) : Tx Phase := do
  statement
  let s ← get
  require (s.users.find user).isSome .foreignKeyViolation
  if (s.userCapabilities.find (user, capability)).isNone then
    modify fun s => { s with userCapabilities := s.userCapabilities.put (user, capability) true }
  pure (.granting id user capabilities)

/-- `UPDATE invitations ... WHERE id = $1`: a row that is gone is no error. -/
def updateInvitation (id : Uuid) (f : Invitation → Invitation) : Tx Unit := do
  match (← get).invitations.find id with
  | none => pure ()
  | some row => modify fun s => { s with invitations := s.invitations.put id (f row) }

def linkUser (id user : Uuid) : Tx Phase := do
  statement
  updateInvitation id fun row => { row with userId := some user }
  pure (.counting id user true)

def countUse (id user : Uuid) : Tx Phase := do
  statement
  let s ← get
  require ((s.invitations.find id).all fun row => row.useCount < intMax) .numericOutOfRange
  updateInvitation id fun row => { row with useCount := row.useCount + 1 }
  pure (.opening id user)

/-- `create_session`: a transaction of its own. -/
def createSession (id user : Uuid) (device : DeviceInfo) (draw : Draw) : Tx Phase := do
  let session ← createSessionOnConnection sha256Hex user device draw
  statement
  pure (.fetching id user session)

def fetchUser (id user : Uuid) (session : UserSession) : Tx Phase := do
  statement
  let s ← get
  let account ← demand (s.users.find user) (.database .rowNotFound)
  pure (.resolving id user session account)

def summarize (user : Uuid) (session : UserSession) (account : User) : Tx Phase := do
  let capabilities ← resolveCapabilities user account.role
  pure (.answered ⟨user, account.username, account.displayName, account.role, capabilities,
    account.hasAllLibraryAccess, session.activeProfileId, session.profileSelectionRequired⟩)

/-- The next statement of a call. -/
def Phase.statement (device : DeviceInfo) (draw : InviteDraw) : Phase → Tx Phase
  | .reading code => readInvitation sha256Hex code
  | .inserting id invitation => insertUser id invitation draw
  | .granting id user (capability :: capabilities) => grantCapability id user capability capabilities
  | .granting id user [] => linkUser id user
  | .counting id user _ => countUse id user
  | .opening id user => createSession sha256Hex id user device draw.session
  | .fetching id user session => fetchUser id user session
  | .resolving _ user session account => summarize user session account
  | .answered summary => pure (.answered summary)
  | .failed error => pure (.failed error)
  | .stopped => pure .stopped

end

/-- `revoke_invitation`. -/
def revokeInvitation (id : Uuid) : Tx Unit := do
  statement
  let s ← get
  let row ← demand ((s.invitations.find id).filter fun row => !row.isRevoked) .inviteCodeRevoked
  modify fun s => { s with invitations := s.invitations.put id { row with isRevoked := true } }

/-! ## Runs -/

structure Call where
  device : DeviceInfo
  phase : Phase

structure InviteSystem where
  store : Store
  calls : Table Nat Call

inductive InviteAction
  | begin (call : Nat) (code : String) (device : DeviceInfo)
  | advance (call : Nat) (draw : InviteDraw)
  | stop (call : Nat)
  | revoke (id : Uuid)

structure InviteMove where
  elapsed : Nat
  faults : List Bool
  action : InviteAction

def InviteSystem.arrive (sys : InviteSystem) (elapsed : Nat) (faults : List Bool) : InviteSystem :=
  { sys with store := { sys.store with now := sys.store.now + elapsed, faults } }

section
variable (sha256Hex : String → String)

/-- A call after its next statement: where it stands, and what the statement wrote. -/
def InviteSystem.advance (sys : InviteSystem) (call : Nat) (state : Call) (draw : InviteDraw) : InviteSystem :=
  match settle (state.phase.statement sha256Hex state.device draw) sys.store with
  | (.ok phase, store) => ⟨store, sys.calls.put call { state with phase }⟩
  | (.error error, store) => ⟨store, sys.calls.put call { state with phase := .failed error }⟩

def inviteAct (sys : InviteSystem) : InviteAction → InviteSystem
  | .begin call code device =>
    if (sys.calls.find call).isSome then sys
    else { sys with calls := sys.calls.put call ⟨device, .reading code⟩ }
  | .advance call draw => (sys.calls.find call).elim sys fun state => sys.advance sha256Hex call state draw
  | .stop call => (sys.calls.find call).elim sys fun state =>
      if state.phase.ended then sys
      else { sys with calls := sys.calls.put call { state with phase := .stopped } }
  | .revoke id => { sys with store := (settle (revokeInvitation id) sys.store).2 }

def inviteNext (sys : InviteSystem) (move : InviteMove) : InviteSystem :=
  inviteAct sha256Hex (sys.arrive move.elapsed move.faults) move.action

def inviteRun (sys : InviteSystem) (moves : List InviteMove) : InviteSystem :=
  moves.foldl (inviteNext sha256Hex) sys

end

/-- A store before any call. -/
def InviteSystem.opened (store : Store) : InviteSystem := ⟨store, .empty⟩

end Duskcue.Auth
