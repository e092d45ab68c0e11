import Mathlib.Data.List.Sort
import Duskcue.PlaybackSchema
import Duskcue.Text

/-! Owner protection of a household. A proof of the password or of a passkey renews
the credential of the session it was made in and leaves a grant for five minutes;
protected operations ask for that grant. Every function here is one transaction,
serialised with the others by the lock on the row of the user. The database looks at
its clock as often as the statements do, and time may pass between two looks.

`history` is no table: it records, in order, the committed proofs, the locked
sessions and the invalidated households. -/
namespace Duskcue.Household
open Playback (Uuid Time second)
open Transaction

inductive OwnerError
  | contextChanged | required | invalidProof | locked | lastFactor | invalidRequest | database | unavailable

/-! ## Rows -/

structure User where
  active : Bool
  passwordHash : Option String
  username : String
  displayName : String

structure Profile where
  ownerUserId : Uuid
  standard : Bool
  isDefault : Bool

structure UserSession where
  userId : Uuid
  activeProfileId : Uuid
  profileSelectionRequired : Bool
  tokenHash : String
  credentialVersion : Int
  profileContextRevision : Int
  expiresAt : Time

structure UserPasskey where
  userId : Uuid
  credentialId : String
  publicKey : String
  signCount : Int
  name : String
  ownerTrusted : Bool

structure OwnerState where
  enabled : Bool
  revision : Int
  passwordFingerprint : Option String
  failedAttempts : Int
  lockedUntil : Option Time

structure Handoff where
  id : Nat
  tokenHash : String
  expiresAt : Time

structure Grant where
  credentialVersion : Int
  userId : Uuid
  profileId : Uuid
  revision : Int
  expiresAt : Time

inductive Purpose
  | unlock | enroll | register
  deriving DecidableEq

/-- The stored state of a ceremony, and the keys it was started with. -/
inductive Ceremony
  | authentication (state : String) (factors : List (Uuid × String))
  | registration (state : String)

structure Challenge where
  userId : Uuid
  sessionId : Uuid
  credentialVersion : Int
  profileId : Uuid
  revision : Int
  handoffId : Option Nat
  purpose : Purpose
  factorId : Option Uuid
  state : Ceremony
  name : Option String
  expiresAt : Time

/-! ## What happened -/

/-- A committed proof: whose it was, the credential version it produced, when, and what it
was made with besides the secret. -/
structure Proof where
  user : Uuid
  session : Uuid
  profile : Uuid
  version : Int
  time : Time
  challenge : Option Nat
  handoff : Option Nat

inductive Event
  | proved (proof : Proof)
  | locked (session : Uuid)
  | invalidated (user : Uuid)

/-- `uuidv7()` gives challenges and handoffs identities of their own: here numbers, and
`issued` is the next one. `pauses` is the time that passes up to the next looks at the clock. -/
structure Store where
  users : Table Uuid User
  userProfiles : Table Uuid Profile
  userSessions : Table Uuid UserSession
  userPasskeys : Table Uuid UserPasskey
  ownerState : Table Uuid OwnerState
  handoffs : Table Uuid Handoff
  grants : Table Uuid Grant
  challenges : Table Nat Challenge
  issued : Nat
  now : Time
  pauses : List Nat
  history : List Event

abbrev Tx := Transaction Store OwnerError

structure Scope where
  version : Int
  user : Uuid
  session : Uuid
  profile : Uuid
  binding : Option String

structure SessionContext where
  credentialRevision : Int
  profileContextRevision : Int
  profileSelectionRequired : Bool
  sessionExpiresAt : Time
  observedAt : Time
  contextId : String

structure Proven where
  context : SessionContext
  token : String
  expiresAt : Time
  sessionExpiresAt : Time

structure AuthenticationResult where
  credentialId : String
  userVerified : Bool
  counter : Int

/-- What is taken from elsewhere: digests, password hashing and WebAuthn. The functions on
credentials answer `none` where the library refuses. -/
structure Verifiers where
  fingerprint : String → String
  contextDigest : Uuid → Uuid → Uuid → Int → Int → Bool → String
  verifyPasswordHash : String → String → Bool
  parsePasskey : String → Option String
  updateCredential : String → AuthenticationResult → String
  startAuthentication : List String → Option (String × String)
  startRegistration : Uuid → String → String → List String → Option (String × String)
  validAssertion : String → Uuid → Bool
  finishAuthentication : String → String → Option AuthenticationResult
  validRegistration : String → Bool
  finishRegistration : String → String → Option (String × String)

def minute : Time := 60 * second

/-- The largest `BIGINT`. -/
def bigintMax : Int := 2 ^ 63 - 1

/-! ## The clock and the locks -/

/-- `clock_timestamp()`. -/
def clockTimestamp : Tx Time := do
  let s ← get
  match s.pauses with
  | [] => pure s.now
  | pause :: pauses =>
    set { s with now := s.now + pause, pauses }
    pure (s.now + pause)

/-- `lock_accounts` for one account. -/
def lockAccount (user : Uuid) : Tx Unit := modify fun s =>
  if (s.users.find user).isSome && (s.ownerState.find user).isNone then
    { s with ownerState := s.ownerState.put user ⟨false, 1, none, 0, none⟩ }
  else s

def begin (user : Uuid) : Tx Unit := do
  lockAccount user
  let s ← get
  ensure ((s.users.find user).any (·.active)) .invalidProof

/-- `UPDATE household_owner_state ... WHERE user_id = $1`. -/
def updateState (user : Uuid) (change : OwnerState → OwnerState) : Tx Unit := modify fun s =>
  ((s.ownerState.find user).map change).elim s fun row => { s with ownerState := s.ownerState.put user row }

/-- The row of the household, which `begin` has made sure of. -/
def fetchState (user : Uuid) : Tx OwnerState := do
  let s ← get
  demand (s.ownerState.find user) .database

/-! ## Scopes -/

section
variable (env : Verifiers)

/-- `context::read`. -/
def readContext (scope : Scope) : Tx SessionContext := do
  let now ← clockTimestamp
  let s ← get
  let session ← demand (s.userSessions.find scope.session) .contextChanged
  ensure (session.userId = scope.user && session.activeProfileId = scope.profile &&
    session.credentialVersion = scope.version && now < session.expiresAt) .contextChanged
  ensure ((s.users.find scope.user).any (·.active)) .contextChanged
  ensure ((s.userProfiles.find scope.profile).any (·.ownerUserId = scope.user)) .contextChanged
  pure
    { credentialRevision := session.credentialVersion
      profileContextRevision := session.profileContextRevision
      profileSelectionRequired := session.profileSelectionRequired
      sessionExpiresAt := session.expiresAt
      observedAt := now
      contextId := env.contextDigest scope.user scope.session scope.profile session.credentialVersion
        session.profileContextRevision session.profileSelectionRequired }

/-- `context::check`. -/
def checkContext (scope : Scope) : Tx Unit :=
  match scope.binding with
  | none => pure ()
  | some binding => do
    let context ← readContext env scope
    ensure (context.contextId = binding) .contextChanged

def sessionScope (actor : Scope) (strict : Bool) : Tx Unit := do
  let s ← get
  ensure ((s.userProfiles.find actor.profile).any fun profile =>
    profile.ownerUserId = actor.user && (!strict || profile.standard)) .required
  let now ← clockTimestamp
  ensure ((s.userSessions.find actor.session).any fun session =>
    session.userId = actor.user && session.activeProfileId = actor.profile &&
      (!strict || !session.profileSelectionRequired) && decide (now < session.expiresAt) &&
      session.credentialVersion = actor.version) .invalidProof
  checkContext env actor

/-- `require_conn`. -/
def requireGrant (scope : Scope) : Tx Unit := do
  let now ← clockTimestamp
  let s ← get
  ensure ((s.grants.find scope.session).any fun grant =>
    grant.userId = scope.user && grant.profileId = scope.profile && grant.credentialVersion = scope.version &&
      decide (now < grant.expiresAt) &&
      (s.ownerState.find grant.userId).any fun state =>
        grant.revision = state.revision && state.enabled && state.lockedUntil.all (· ≤ now)) .required

def authorize (user : Uuid) (actor : Option Scope) : Tx Bool := do
  let state ← fetchState user
  match actor with
  | some actor =>
    ensure (actor.user = user) .required
    sessionScope env actor state.enabled
    if state.enabled then requireGrant actor
    pure state.enabled
  | none =>
    ensure (!state.enabled) .required
    pure state.enabled

/-! ## Revocation and failure -/

/-- The revision of a household that is not locked. -/
def available (user : Uuid) : Tx Int := do
  let now ← clockTimestamp
  let state ← fetchState user
  ensure (state.lockedUntil.all (· ≤ now)) .locked
  pure state.revision

/-- What every attempt starts with. -/
def opening (actor : Scope) : Tx Int := do
  begin actor.user
  sessionScope env actor true
  available actor.user

def invalidate (user : Uuid) : Tx Unit := do
  let s ← get
  ensure ((s.ownerState.find user).all (·.revision < bigintMax)) .database
  updateState user fun state => { state with revision := state.revision + 1 }
  modify fun s =>
    { s with
      grants := s.grants.discard fun _ grant => grant.userId = user
      history := s.history ++ [.invalidated user] }
  modify fun s => { s with challenges := s.challenges.discard fun _ challenge => challenge.userId = user }

/-- The attempts after one more that failed. -/
def failedOnce (now : Time) (state : OwnerState) : OwnerState :=
  let attempts := if state.lockedUntil.any (· ≤ now) then 1 else state.failedAttempts + 1
  { state with
    failedAttempts := min 5 attempts
    lockedUntil := if 5 ≤ attempts then some (now + 15 * minute) else none }

/-- The refusal is committed and then reported. -/
def failed {α : Type} (scope : Scope) : Tx (Except OwnerError α) := do
  let now ← clockTimestamp
  updateState scope.user (failedOnce now)
  pure (.error .invalidProof)

/-! ## Grants -/

/-- The session gets a new credential; its challenges and its grant go. -/
def renewSession (scope : Scope) (token : String) : Tx Time := do
  modify fun s => { s with challenges := s.challenges.discard fun _ challenge => challenge.sessionId = scope.session }
  modify fun s => { s with grants := s.grants.remove scope.session }
  let s ← get
  let session ← demand (s.userSessions.find scope.session) .database
  ensure (session.credentialVersion < bigintMax) .database
  let hash := env.fingerprint token
  ensure (!s.userSessions.holds fun id other => id ≠ scope.session && other.tokenHash = hash) .database
  modify fun s =>
    { s with
      userSessions := s.userSessions.put scope.session
        { session with tokenHash := hash, credentialVersion := session.credentialVersion + 1 } }
  pure session.expiresAt

def insertGrant (scope : Scope) (sessionExpiresAt : Time) (challenge handoff : Option Nat) : Tx Time := do
  let now ← clockTimestamp
  let s ← get
  let session ← demand (s.userSessions.find scope.session) .database
  let state ← demand (s.ownerState.find scope.user) .database
  ensure (session.userId = scope.user) .database
  ensure (s.grants.find scope.session).isNone .database
  let expiresAt := min (now + 5 * minute) sessionExpiresAt
  let proof : Proof := ⟨scope.user, scope.session, scope.profile, session.credentialVersion, now, challenge, handoff⟩
  modify fun s =>
    { s with
      grants := s.grants.put scope.session ⟨session.credentialVersion, scope.user, scope.profile, state.revision, expiresAt⟩
      history := s.history ++ [.proved proof] }
  pure expiresAt

def rotate (scope : Scope) (token : String) (challenge handoff : Option Nat) : Tx Proven := do
  sessionScope env scope true
  let sessionExpiresAt ← renewSession env scope token
  let expiresAt ← insertGrant scope sessionExpiresAt challenge handoff
  updateState scope.user fun state => { state with failedAttempts := 0, lockedUntil := none }
  ensure (scope.version < bigintMax) .unavailable
  let context ← readContext env { scope with version := scope.version + 1, binding := none }
  pure ⟨context, token, expiresAt, sessionExpiresAt⟩

/-! ## Handoffs -/

/-- Rows that refer to a deleted handoff go with it. -/
def deleteHandoffs (select : Uuid → Handoff → Bool) : Tx Unit := modify fun s =>
  { s with
    handoffs := s.handoffs.discard select
    challenges := s.challenges.discard fun _ challenge =>
      challenge.handoffId.any fun id => s.handoffs.holds fun user handoff => handoff.id = id && select user handoff }

def issueHandoff (user : Uuid) (token : String) : Tx String := do
  begin user
  invalidate user
  modify fun s =>
    { s with userPasskeys := s.userPasskeys.amend fun _ key =>
        if key.userId = user then { key with ownerTrusted := false } else key }
  updateState user fun state => { state with passwordFingerprint := none, failedAttempts := 0, lockedUntil := none }
  deleteHandoffs fun owner _ => owner = user
  let now ← clockTimestamp
  let s ← get
  ensure (s.ownerState.find user).isSome .database
  modify fun s =>
    { s with
      handoffs := s.handoffs.put user ⟨s.issued, env.fingerprint token, now + 10 * minute⟩
      issued := s.issued + 1 }
  pure token

/-- `operator::validate`; `none` is the refusal. -/
def validateHandoff (user : Uuid) (token : String) : Tx (Option Nat) :=
  if token.utf8ByteSize ≠ 57 || !token.startsWith "duskcue-owner-" then pure none
  else do
    let now ← clockTimestamp
    let s ← get
    pure (((s.handoffs.find user).filter fun handoff =>
      handoff.tokenHash = env.fingerprint token && decide (now < handoff.expiresAt)).map Handoff.id)

/-- The handoff of a request that may have one; `none` is the refusal. -/
def requestedHandoff (user : Uuid) : Option String → Tx (Option (Option Nat))
  | none => pure (some none)
  | some token => do
    let id ← validateHandoff env user token
    pure (id.map some)

/-- `operator::consume`. -/
def consumeHandoff (user : Uuid) (id : Nat) : Tx Unit := do
  let now ← clockTimestamp
  let s ← get
  ensure ((s.handoffs.find user).any fun handoff => handoff.id = id && decide (now < handoff.expiresAt)) .invalidProof
  deleteHandoffs fun owner handoff => owner = user && handoff.id = id

/-! ## Factors -/

def activate (user : Uuid) : Tx Unit := do
  invalidate user
  updateState user fun state => { state with enabled := true }

def passwordAvailable (user : Uuid) : Tx Bool := do
  let s ← get
  let account ← demand (s.users.find user) .database
  let state ← demand (s.ownerState.find user) .database
  pure (account.passwordHash.any fun hash => state.passwordFingerprint = some (env.fingerprint hash))

/-- `ORDER BY id`. -/
def byId (ids : List Uuid) : List Uuid := ids.insertionSort fun a b => a.toNat ≤ b.toNat

/-- `factors::load`: the keys a ceremony may use, with their fingerprints. -/
def loadFactors (user : Uuid) (selected : Option Uuid) : Tx (List (Uuid × String × String)) := do
  let s ← get
  let keys := byId <| s.userPasskeys.select fun id key => key.userId = user && decide (key.publicKey.utf8ByteSize ≤ 65536) &&
    selected.elim key.ownerTrusted (id = ·)
  ensure (!keys.isEmpty && decide (keys.length ≤ 64)) .invalidProof
  let rows := keys.filterMap fun id => (s.userPasskeys.find id).map fun key =>
    (id, key.publicKey, env.fingerprint key.publicKey)
  ensure (rows.all fun row => (env.parsePasskey row.2.1).isSome) .unavailable
  pure rows

/-- `factors::update`. -/
def updateFactor (user id : Uuid) (key : String) (result : AuthenticationResult) (trusted : Bool) : Tx Unit := do
  let s ← get
  let row ← demand ((s.userPasskeys.find id).filter (·.userId = user)) .invalidProof
  ensure (result.userVerified && !(result.counter ≠ 0 && row.signCount ≠ 0 && decide (result.counter ≤ row.signCount)))
    .invalidProof
  modify fun s =>
    { s with
      userPasskeys := s.userPasskeys.put id
        { row with
          publicKey := env.updateCredential key result
          signCount := result.counter
          ownerTrusted := row.ownerTrusted || trusted } }

def trustedChange (user : Uuid) : Tx Unit := invalidate user

def ensureEnrollmentCapacity (user : Uuid) : Tx Unit := do
  let s ← get
  ensure (decide ((s.userPasskeys.count fun _ key => key.userId = user && key.ownerTrusted) < 64)) .locked

def allowDelete (user id : Uuid) : Tx Bool := do
  let s ← get
  let key ← demand ((s.userPasskeys.find id).filter (·.userId = user)) .invalidProof
  if key.ownerTrusted then
    let byPassword ← passwordAvailable env user
    let others := s.userPasskeys.holds fun other row => row.userId = user && row.ownerTrusted && other ≠ id &&
      decide (row.publicKey.utf8ByteSize ≤ 65536) && (env.parsePasskey row.publicKey).isSome
    ensure (byPassword || others) .lastFactor
  pure key.ownerTrusted

/-! ## The password -/

structure PasswordRequest where
  password : String
  handoff : Option String

/-- With a handoff the password becomes a trusted factor. -/
def designatePassword (user : Uuid) (hash : String) : Option Nat → Tx Unit
  | none => pure ()
  | some id => do
    consumeHandoff user id
    updateState user fun state => { state with passwordFingerprint := some (env.fingerprint hash) }
    activate user

/-- A password of a length that is taken. -/
def PasswordRequest.valid (request : PasswordRequest) : Bool :=
  !request.password.isEmpty && decide (request.password.utf8ByteSize ≤ 1024) &&
    request.handoff.all fun handoff => decide (handoff.utf8ByteSize ≤ 128)

/-- `password` behind the opening. -/
def provePassword (actor : Scope) (request : PasswordRequest) (slot : Bool) (token : String) :
    Tx (Except OwnerError Proven) := do
  let handoff ← requestedHandoff env actor.user request.handoff
  match handoff with
  | none => failed actor
  | some handoff =>
    let trusted ← passwordAvailable env actor.user
    if handoff.isNone && !trusted then failed actor
    else
      let s ← get
      match (s.users.find actor.user).bind User.passwordHash with
      | none => failed actor
      | some hash =>
        ensure slot .locked
        if env.verifyPasswordHash hash request.password then
          designatePassword env actor.user hash handoff
          let proven ← rotate env actor token none handoff
          pure (.ok proven)
        else failed actor

/-- `service::password`. `slot` says whether a slot for proofs is free. -/
def password (actor : Scope) (request : PasswordRequest) (slot : Bool) (token : String) :
    Tx (Except OwnerError Proven) := do
  ensure request.valid .invalidRequest
  let _ ← opening env actor
  provePassword env actor request slot token

/-! ## Passkeys -/

inductive PasskeyStart
  | unlock
  | enroll (handoff : String) (passkeyId : Uuid)
  | register (handoff name : String)

def PasskeyStart.purpose : PasskeyStart → Purpose
  | .unlock => .unlock
  | .enroll .. => .enroll
  | .register .. => .register

def PasskeyStart.handoff : PasskeyStart → Option String
  | .unlock => none
  | .enroll handoff _ => some handoff
  | .register handoff _ => some handoff

def PasskeyStart.selected : PasskeyStart → Option Uuid
  | .enroll _ id => some id
  | _ => none

def trimmed (name : String) : String := String.ofList (Text.trim name.toList)

def PasskeyStart.name : PasskeyStart → Option String
  | .register _ name => some (trimmed name)
  | _ => none

/-- A name for a new key has one to two hundred characters. -/
def PasskeyStart.valid : PasskeyStart → Bool
  | .register _ name => !(trimmed name).isEmpty && decide (name.length ≤ 200)
  | _ => true

/-- The options and the state of a new ceremony. -/
def ceremony (user : Uuid) (request : PasskeyStart) : Tx (String × Ceremony) :=
  match request with
  | .register .. => do
    ensureEnrollmentCapacity user
    let s ← get
    let account ← demand (s.users.find user) .database
    let ids := ((byId (s.userPasskeys.select fun _ key => key.userId = user)).take 64).filterMap fun id =>
      (s.userPasskeys.find id).map UserPasskey.credentialId
    let started ← demand (env.startRegistration user account.username account.displayName ids) .unavailable
    pure (started.1, .registration started.2)
  | _ => do
    let factors ← loadFactors env user request.selected
    let started ← demand (env.startAuthentication (factors.map fun row => row.2.1)) .unavailable
    pure (started.1, .authentication started.2 (factors.map fun row => (row.1, row.2.2)))

/-- `challenges::start`. -/
def start (actor : Scope) (request : PasskeyStart) : Tx (Except OwnerError (Nat × String)) := do
  let revision ← opening env actor
  ensure request.valid .invalidRequest
  let handoff ← requestedHandoff env actor.user request.handoff
  match handoff with
  | none => failed actor
  | some handoff =>
    let now ← clockTimestamp
    modify fun s => { s with challenges := s.challenges.discard fun _ challenge => challenge.expiresAt ≤ now }
    let s ← get
    ensure (decide ((s.challenges.count fun _ _ => true) < 4096) &&
      decide ((s.challenges.count fun _ challenge => challenge.userId = actor.user) < 8)) .locked
    let started ← ceremony env actor.user request
    let now ← clockTimestamp
    let s ← get
    modify fun s =>
      { s with
        challenges := s.challenges.put s.issued
          { userId := actor.user
            sessionId := actor.session
            credentialVersion := actor.version
            profileId := actor.profile
            revision := revision
            handoffId := handoff
            purpose := request.purpose
            factorId := request.selected
            state := started.2
            name := request.name
            expiresAt := now + 2 * minute }
        issued := s.issued + 1 }
    pure (.ok (s.issued, started.1))

/-- The factor of a ceremony: a key that was bound to it, or a new one. `fresh` is the id of a
new row. -/
def verifyFactor (actor : Scope) (challenge : Challenge) (credential : String) (fresh : Uuid) : Tx Unit :=
  match challenge.state with
  | .authentication state bound => do
    ensure (challenge.purpose = .unlock || challenge.purpose = .enroll) .invalidProof
    ensure (env.validAssertion credential actor.user) .invalidProof
    let result ← demand (env.finishAuthentication credential state) .invalidProof
    let factors ← loadFactors env actor.user challenge.factorId
    let (id, key, print) ← demand (factors.find? fun row => env.parsePasskey row.2.1 = some result.credentialId) .invalidProof
    ensure (bound.contains (id, print)) .invalidProof
    updateFactor env actor.user id key result (challenge.purpose = .enroll)
  | .registration state => do
    ensure (challenge.purpose = .register) .invalidProof
    ensureEnrollmentCapacity actor.user
    ensure (env.validRegistration credential) .invalidProof
    let (credentialId, key) ← demand (env.finishRegistration credential state) .invalidProof
    let s ← get
    ensure (!s.userPasskeys.holds fun _ row => row.credentialId = credentialId) .invalidProof
    ensure (s.userPasskeys.find fresh).isNone .database
    let name ← demand challenge.name .database
    modify fun s => { s with userPasskeys := s.userPasskeys.put fresh ⟨actor.user, credentialId, key, 0, name, true⟩ }

/-- The handoff of a ceremony is still good; an unlocking has none. -/
def checkHandoff (actor : Scope) (challenge : Challenge) : Tx Unit :=
  if challenge.purpose ≠ .unlock then do
    let now ← clockTimestamp
    let s ← get
    ensure ((s.handoffs.find actor.user).any fun handoff =>
      some handoff.id = challenge.handoffId && decide (now < handoff.expiresAt)) .invalidProof
  else ensure challenge.handoffId.isNone .invalidProof

/-- With a handoff the household is protected from now on. -/
def designatePasskey (user : Uuid) : Option Nat → Tx Unit
  | none => pure ()
  | some id => do
    consumeHandoff user id
    activate user

/-- `complete` up to the rotation. -/
def proveFactor (actor : Scope) (challenge : Challenge) (credential : String) (slot : Bool) (fresh : Uuid) : Tx Unit := do
  checkHandoff actor challenge
  ensure slot .locked
  verifyFactor env actor challenge credential fresh
  designatePasskey actor.user challenge.handoffId

structure PasskeyFinish where
  challengeId : Nat
  credential : String

def complete (actor : Scope) (id : Nat) (challenge : Challenge) (credential : String) (slot : Bool) (fresh : Uuid)
    (token : String) : Tx Proven := do
  proveFactor env actor challenge credential slot fresh
  rotate env actor token (some id) challenge.handoffId

/-- `finish` behind the opening. The challenge is gone even when the proof is refused, since only
what follows it is rolled back; `elapsed` is the time that took. -/
def proveChallenge (actor : Scope) (request : PasskeyFinish) (slot : Bool) (fresh : Uuid) (token : String)
    (elapsed : Nat) (revision : Int) : Tx (Except OwnerError Proven) := do
  let now ← clockTimestamp
  let s ← get
  match (s.challenges.find request.challengeId).filter fun challenge =>
      challenge.userId = actor.user && challenge.sessionId = actor.session && challenge.profileId = actor.profile &&
        challenge.credentialVersion = actor.version with
  | none => failed actor
  | some challenge =>
    modify fun s => { s with challenges := s.challenges.remove request.challengeId }
    if challenge.revision ≠ revision || decide (challenge.expiresAt ≤ now) then failed actor
    else
      let s ← get
      match (complete env actor request.challengeId challenge request.credential slot fresh token).run s with
      | .ok (proven, after) =>
        set after
        pure (.ok proven)
      | .error .invalidProof =>
        modify fun s => { s with now := s.now + elapsed }
        failed actor
      | .error error => throw error

/-- `challenges::finish`. -/
def finish (actor : Scope) (request : PasskeyFinish) (slot : Bool) (fresh : Uuid) (token : String) (elapsed : Nat) :
    Tx (Except OwnerError Proven) := do
  let revision ← opening env actor
  proveChallenge env actor request slot fresh token elapsed revision

/-! ## Locking and protected operations -/

def lock (actor : Scope) : Tx Unit := do
  begin actor.user
  sessionScope env actor true
  modify fun s =>
    { s with
      grants := s.grants.discard fun session grant => session = actor.session && grant.userId = actor.user
      history := s.history ++ [.locked actor.session] }
  modify fun s =>
    { s with challenges := s.challenges.discard fun _ challenge =>
        challenge.sessionId = actor.session && challenge.userId = actor.user }

/-- `revoke_management` in a transaction on the household. -/
def revokeManagement (user : Uuid) : Tx Unit := do
  begin user
  invalidate user

/-- `finish_passkey_registration` of the auth domain: `revision` is what the ceremony was
started under, `row` the new key. -/
def addPasskey (actor : Scope) (revision : Int) (fresh : Uuid) (row : UserPasskey) : Tx Unit := do
  begin actor.user
  let enabled ← authorize env actor.user (some actor)
  (if enabled then ensureEnrollmentCapacity actor.user else pure ())
  let state ← fetchState actor.user
  ensure (state.revision = revision) .invalidProof
  let s ← get
  ensure (!s.userPasskeys.holds fun _ other => other.credentialId = row.credentialId) .database
  ensure (s.userPasskeys.find fresh).isNone .database
  modify fun s => { s with userPasskeys := s.userPasskeys.put fresh { row with userId := actor.user, ownerTrusted := enabled } }
  (if enabled then trustedChange actor.user else pure ())

/-- `delete_passkey`; challenges bound to the key go with it. -/
def deletePasskey (actor : Scope) (id : Uuid) : Tx Unit := do
  begin actor.user
  let enabled ← authorize env actor.user (some actor)
  (if enabled then do let _ ← allowDelete env actor.user id else pure ())
  let s ← get
  ensure ((s.userPasskeys.find id).any (·.userId = actor.user)) .database
  modify fun s =>
    { s with
      userPasskeys := s.userPasskeys.remove id
      challenges := s.challenges.discard fun _ challenge => challenge.factorId = some id }
  (if enabled then trustedChange actor.user else pure ())

/-- `create_profile_for_session`, a protected operation. -/
def createProfile (actor : Option Scope) (user fresh : Uuid) (standard : Bool) : Tx Unit := do
  begin user
  let _ ← authorize env user actor
  let s ← get
  ensure (s.userProfiles.find fresh).isNone .database
  modify fun s => { s with userProfiles := s.userProfiles.put fresh ⟨user, standard, false⟩ }

/-- `delete_profile`, a protected operation. What refers to the profile goes with it. -/
def deleteProfile (actor : Scope) (user id : Uuid) : Tx Unit := do
  begin user
  let _ ← authorize env user (some actor)
  let s ← get
  let profile ← demand ((s.userProfiles.find id).filter (·.ownerUserId = user)) .required
  ensure (!profile.isDefault) .required
  ensure (!s.userSessions.holds fun _ session => session.userId = user && session.activeProfileId = id) .required
  modify fun s =>
    { s with
      userProfiles := s.userProfiles.remove id
      grants := s.grants.discard fun _ grant => grant.profileId = id
      challenges := s.challenges.discard fun _ challenge => challenge.profileId = id }

/-! ## Around the household -/

/-- A new session with a credential of its own. -/
def openSession (id : Uuid) (session : UserSession) : Tx Unit := do
  let s ← get
  ensure (s.userSessions.find id).isNone .database
  modify fun s => { s with userSessions := s.userSessions.put id { session with credentialVersion := 1 } }

/-- The grant and the challenges of a session go with it. -/
def closeSession (id : Uuid) : Tx Unit := modify fun s =>
  { s with
    userSessions := s.userSessions.remove id
    grants := s.grants.remove id
    challenges := s.challenges.discard fun _ challenge => challenge.sessionId = id }

/-- A change of profile, with the triggers `session_profile_context` and `household_profile_grants`. -/
def selectProfile (id profile : Uuid) : Tx Unit := do
  let s ← get
  let session ← demand (s.userSessions.find id) .database
  ensure ((s.userProfiles.find profile).any (·.ownerUserId = session.userId)) .required
  let moved := session.activeProfileId ≠ profile
  modify fun s =>
    { s with
      userSessions := s.userSessions.put id
        { session with
          activeProfileId := profile
          profileSelectionRequired := false
          profileContextRevision := session.profileContextRevision +
            if moved || session.profileSelectionRequired then 1 else 0 } }
  if moved then
    modify fun s => { s with grants := s.grants.remove id }
    modify fun s => { s with challenges := s.challenges.discard fun _ challenge => challenge.sessionId = id }

/-- A change of the account, with the trigger `household_password_grants`. -/
def changeAccount (user : Uuid) (active : Bool) (passwordHash : Option String) : Tx Unit := do
  let s ← get
  let account ← demand (s.users.find user) .database
  modify fun s => { s with users := s.users.put user { account with active, passwordHash } }
  if account.passwordHash ≠ passwordHash || account.active ≠ active then
    invalidate user
    if account.passwordHash ≠ passwordHash then
      updateState user fun state => { state with passwordFingerprint := none }

end

/-! ## Runs -/

inductive Action
  | password (actor : Scope) (request : PasswordRequest) (slot : Bool) (token : String)
  | start (actor : Scope) (request : PasskeyStart)
  | finish (actor : Scope) (request : PasskeyFinish) (slot : Bool) (fresh : Uuid) (token : String) (elapsed : Nat)
  | lock (actor : Scope)
  | issueHandoff (user : Uuid) (token : String)
  | revokeManagement (user : Uuid)
  | addPasskey (actor : Scope) (revision : Int) (fresh : Uuid) (row : UserPasskey)
  | deletePasskey (actor : Scope) (id : Uuid)
  | createProfile (actor : Option Scope) (user fresh : Uuid) (standard : Bool)
  | deleteProfile (actor : Scope) (user id : Uuid)
  | openSession (id : Uuid) (session : UserSession)
  | closeSession (id : Uuid)
  | selectProfile (id profile : Uuid)
  | changeAccount (user : Uuid) (active : Bool) (passwordHash : Option String)

/-- One transaction: the time since the one before, the pauses in it and what it does. -/
structure Move where
  wait : Nat
  pauses : List Nat
  action : Action

def perform (env : Verifiers) : Action → Tx Unit
  | .password actor request slot token => do let _ ← password env actor request slot token
  | .start actor request => do let _ ← start env actor request
  | .finish actor request slot fresh token elapsed => do let _ ← finish env actor request slot fresh token elapsed
  | .lock actor => lock env actor
  | .issueHandoff user token => do let _ ← issueHandoff env user token
  | .revokeManagement user => revokeManagement user
  | .addPasskey actor revision fresh row => addPasskey env actor revision fresh row
  | .deletePasskey actor id => deletePasskey env actor id
  | .createProfile actor user fresh standard => createProfile env actor user fresh standard
  | .deleteProfile actor user id => deleteProfile env actor user id
  | .openSession id session => openSession id session
  | .closeSession id => closeSession id
  | .selectProfile id profile => selectProfile id profile
  | .changeAccount user active passwordHash => changeAccount user active passwordHash

/-- The clock goes on, and the transaction is committed or rolled back. -/
def next (env : Verifiers) (s : Store) (move : Move) : Store :=
  (settle (perform env move.action) { s with now := s.now + move.wait, pauses := move.pauses }).2

def run (env : Verifiers) (s : Store) (moves : List Move) : Store := moves.foldl (next env) s

/-- The tables of the household security as they are created: empty. -/
structure Store.Founded (s : Store) : Prop where
  handoffs : s.handoffs = Table.empty
  grants : s.grants = Table.empty
  challenges : s.challenges = Table.empty
  history : s.history = []

end Duskcue.Household
