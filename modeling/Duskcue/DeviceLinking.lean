import Duskcue.AuthSchema

/-! Device linking. A device asks for a code and polls with it; a signed-in user
looks the code up and approves or denies it. Polls and decisions are
transactions under the lock of the code's row; an inspection reads the row and,
when it has expired, deletes it with a statement of its own. A run is any
sequence of these by any number of devices and users, with edits of the
accounts between them. -/
namespace Duskcue.Auth
open Playback (Uuid Time second)
open Transaction

/-! ## Operations -/

structure DeviceTokenResponse where
  sessionToken : String
  user : UserSummary

structure DeviceLinkingRequestResponse where
  userCode : String
  clientName : Option String
  clientPlatform : Option String
  clientVersion : Option String
  expiresAt : Time

/-- The decision a `verify` answers with, and the device it is about. -/
structure Verification where
  status : String
  clientName : Option String
  clientPlatform : Option String
  clientVersion : Option String

/-- `CreateDeviceCodeParams`, without the address of the page. -/
structure CreateDeviceCodeParams where
  deviceId : Option String
  clientName : Option String
  clientPlatform : Option String
  clientVersion : Option String
  ipAddress : Option String
  userAgent : Option String

/-- `normalize_device_user_code`. -/
def normalizeDeviceUserCode (userCode : String) : String :=
  String.ofList ((userCode.toList.filter Char.isAlphanum).map Char.toUpper)

/-- `format_user_code`. -/
def formatUserCode (code : String) : String :=
  let mid := code.length / 2
  String.ofList (code.toList.take mid) ++ "-" ++ String.ofList (code.toList.drop mid)

/-- A sum of `i32` in a release build. -/
def wrapping32 (n : Int) : Int := n.bmod (2 ^ 32)

/-- The interval a poll that came too soon stores. -/
def nextIntervalSeconds (pollIntervalSeconds : Int) : Int := min (wrapping32 (pollIntervalSeconds + 5)) 60

/-- The row of a code that is told apart by one of its columns. -/
def findCode (s : Store) (chosen : DeviceLinkingCode → Bool) : Option (Nat × DeviceLinkingCode) :=
  (s.deviceLinkingCodes.select fun _ row => chosen row).head?.bind fun id =>
    (s.deviceLinkingCodes.find id).map (id, ·)

def deleteCode (id : Nat) : Tx Unit :=
  modify fun s => { s with deviceLinkingCodes := s.deviceLinkingCodes.remove id }

/-- `UPDATE device_linking_codes`, under the check of its interval. -/
def updateCode (id : Nat) (row : DeviceLinkingCode) : Tx Unit := do
  require (0 < row.pollIntervalSeconds) .checkViolation
  modify fun s => { s with deviceLinkingCodes := s.deviceLinkingCodes.put id row }

section
variable (sha256Hex : String → String)

/-- `create_device_linking_code`, with the codes it drew. -/
def createDeviceLinkingCode (params : CreateDeviceCodeParams) (userCode deviceCode : String) : Tx Unit := do
  statement
  let s ← get
  let row : DeviceLinkingCode :=
    { params with
      userCode, deviceCode := sha256Hex deviceCode
      expiresAt := s.now + s.config.deviceLinkingCodeExpirySeconds * second
      isApproved := false, approvedByUserId := none, approvedAt := none
      isDenied := false, deniedByUserId := none, deniedAt := none, lastPolledAt := none
      pollIntervalSeconds := s.config.deviceLinkingPollIntervalSeconds }
  require (0 < row.pollIntervalSeconds) .checkViolation
  require (!s.deviceLinkingCodes.holds fun _ other =>
    other.userCode = row.userCode || other.deviceCode = row.deviceCode) .uniqueViolation
  set { s with deviceLinkingCodes := s.deviceLinkingCodes.put s.issued row, issued := s.issued + 1 }

/-- The tail of `poll_device_linking_token`: the session of an approved code. -/
def redeem (id : Nat) (row : DeviceLinkingCode) (draw : Draw) : Tx DeviceTokenResponse := do
  let approver ← demand row.approvedByUserId .deviceLinkingDenied
  let session ← createSessionOnConnection sha256Hex approver
    ⟨row.deviceId, none, row.clientName, row.clientVersion, row.clientPlatform, row.ipAddress,
      row.userAgent, false⟩ draw
  statement
  let s ← get
  let user ← demand ((s.users.find approver).filter fun user =>
    user.deletedAt.isNone && user.status = .active) .invalidCredentials
  let capabilities ← resolveCapabilities approver user.role
  statement
  deleteCode id
  pure ⟨draw.token, ⟨approver, user.username, user.displayName, user.role, capabilities,
    user.hasAllLibraryAccess, session.activeProfileId, session.profileSelectionRequired⟩⟩

/-- `poll_device_linking_token`. An error it throws rolls it back; one it gives is
committed first. -/
def pollDeviceLinkingToken (deviceCode : String) (draw : Draw) :
    Tx (Except AuthError DeviceTokenResponse) := do
  statement
  let s ← get
  let (id, row) ← demand (findCode s fun row => row.deviceCode = sha256Hex deviceCode) .deviceLinkingExpired
  if row.expiresAt < s.now then
    statement
    deleteCode id
    statement
    pure (.error .deviceLinkingExpired)
  else if row.isDenied then throw .deviceLinkingDenied
  else
    let interval := max row.pollIntervalSeconds 1
    if row.lastPolledAt.any fun last => s.now < last + interval * second then
      statement
      updateCode id { row with lastPolledAt := some s.now, pollIntervalSeconds := nextIntervalSeconds interval }
      statement
      pure (.error (.deviceLinkingSlowDown (nextIntervalSeconds interval)))
    else
      statement
      updateCode id { row with lastPolledAt := some s.now }
      if !row.isApproved then
        statement
        pure (.error .deviceLinkingPending)
      else
        let response ← redeem sha256Hex id row draw
        statement
        pure (.ok response)

end

/-- `verify_device_linking_code`. -/
def verifyDeviceLinkingCode (user : Uuid) (userCode : String) (approve : Bool) :
    Tx (Except AuthError Verification) := do
  statement
  let s ← get
  let (id, row) ← demand (findCode s fun row => row.userCode = normalizeDeviceUserCode userCode)
    .deviceLinkingExpired
  if row.expiresAt < s.now then
    statement
    deleteCode id
    statement
    pure (.error .deviceLinkingExpired)
  else if row.isApproved || row.isDenied then throw .deviceLinkingExpired
  else
    statement
    require (s.users.find user).isSome .foreignKeyViolation
    updateCode id
      { row with
        isApproved := approve
        approvedByUserId := if approve then some user else none
        approvedAt := if approve then some s.now else none
        isDenied := !approve
        deniedByUserId := if approve then none else some user
        deniedAt := if approve then none else some s.now }
    statement
    pure (.ok ⟨if approve then "approved" else "denied", row.clientName, row.clientPlatform, row.clientVersion⟩)

/-- The SELECT of `get_device_linking_request` and what it decides: the answer, or the
expired row that is to be deleted. -/
def getDeviceLinkingRequest (userCode : String) : Tx (Except Nat DeviceLinkingRequestResponse) := do
  statement
  let s ← get
  let (id, row) ← demand (findCode s fun row => row.userCode = normalizeDeviceUserCode userCode)
    .deviceLinkingExpired
  if row.expiresAt < s.now then pure (.error id)
  else if row.isDenied then throw .deviceLinkingDenied
  else if row.isApproved then throw .deviceLinkingExpired
  else pure (.ok ⟨formatUserCode row.userCode, row.clientName, row.clientPlatform, row.clientVersion,
    row.expiresAt⟩)

/-! ## Runs -/

/-- The accounts as other domains may edit them. -/
structure Accounts where
  users : Table Uuid User
  userProfiles : Table Uuid Profile
  profileDevicePreferences : Table (Uuid × String) Uuid
  userCapabilities : Table (Uuid × String) Bool
  userSessions : Table Uuid UserSession

/-- An edit of the accounts, with the cascades of `device_linking_codes` to it. -/
def administerAccounts (accounts : Accounts) (config : AuthConfig) : Tx Unit :=
  modify fun s =>
    { s with
      users := accounts.users
      userProfiles := accounts.userProfiles
      profileDevicePreferences := accounts.profileDevicePreferences
      userCapabilities := accounts.userCapabilities
      userSessions := accounts.userSessions
      config
      deviceLinkingCodes := (s.deviceLinkingCodes.discard fun _ row =>
        row.approvedByUserId.any fun user => (accounts.users.find user).isNone).amend fun _ row =>
          { row with deniedByUserId := row.deniedByUserId.filter fun user => (accounts.users.find user).isSome } }

inductive LinkingAction
  | create (params : CreateDeviceCodeParams) (userCode deviceCode : String)
  | poll (deviceCode : String) (draw : Draw)
  | verify (user : Uuid) (userCode : String) (approve : Bool)
  | inspect (inspector : Nat) (userCode : String)
  | inspectDelete (inspector : Nat)
  | administer (accounts : Accounts) (config : AuthConfig)

/-- An action, how far the clock has moved before it, the statements of it that fail,
and whether the answer to its COMMIT is lost. -/
structure LinkingMove where
  elapsed : Nat
  faults : List Bool
  lost : Bool
  action : LinkingAction

/-- The store, and the inspections that have found an expired row. -/
structure LinkingSystem where
  store : Store
  inspections : Table Nat Nat

inductive LinkingReply
  | done
  | token (response : DeviceTokenResponse)
  | verified (verification : Verification)
  | request (response : DeviceLinkingRequestResponse)
  | refused (error : AuthError)

/-- Run a transaction; a COMMIT whose answer is lost has been carried out. -/
def LinkingSystem.perform {α : Type} (sys : LinkingSystem) (tx : Tx α) (lost : Bool) (reply : α → LinkingReply) :
    LinkingReply × LinkingSystem :=
  match settle tx sys.store with
  | (.ok value, store) =>
    (if lost then .refused (.database .connection) else reply value, { sys with store })
  | (.error error, store) => (.refused error, { sys with store })

/-- The answer of a transaction that gives its errors. -/
def LinkingReply.of {α : Type} (reply : α → LinkingReply) : Except AuthError α → LinkingReply
  | .ok value => reply value
  | .error error => .refused error

def LinkingSystem.arrive (sys : LinkingSystem) (elapsed : Nat) (faults : List Bool) : LinkingSystem :=
  { sys with store := { sys.store with now := sys.store.now + elapsed, faults } }

section
variable (sha256Hex : String → String)

def linkingAct (sys : LinkingSystem) (lost : Bool) : LinkingAction → LinkingReply × LinkingSystem
  | .create params userCode deviceCode =>
    sys.perform (createDeviceLinkingCode sha256Hex params userCode deviceCode) lost fun _ => .done
  | .poll deviceCode draw => sys.perform (pollDeviceLinkingToken sha256Hex deviceCode draw) lost (.of .token)
  | .verify user userCode approve =>
    sys.perform (verifyDeviceLinkingCode user userCode approve) lost (.of .verified)
  | .inspect inspector userCode =>
    match settle (getDeviceLinkingRequest userCode) sys.store with
    | (.ok (.ok response), store) => (.request response, { sys with store })
    | (.ok (.error id), store) => (.done, ⟨store, sys.inspections.put inspector id⟩)
    | (.error error, store) => (.refused error, { sys with store })
  | .inspectDelete inspector =>
    match sys.inspections.find inspector with
    | none => (.done, sys)
    | some id =>
      let (reply, next) := sys.perform (do statement; deleteCode id) lost fun _ =>
        .refused .deviceLinkingExpired
      (reply, { next with inspections := sys.inspections.remove inspector })
  | .administer accounts config => sys.perform (administerAccounts accounts config) lost fun _ => .done

def linkingStep (sys : LinkingSystem) (move : LinkingMove) : LinkingReply × LinkingSystem :=
  linkingAct sha256Hex (sys.arrive move.elapsed move.faults) move.lost move.action

def linkingNext (sys : LinkingSystem) (move : LinkingMove) : LinkingSystem := (linkingStep sha256Hex sys move).2

def linkingRun (sys : LinkingSystem) (moves : List LinkingMove) : LinkingSystem :=
  moves.foldl (linkingNext sha256Hex) sys

end

/-- Accounts without linking codes. -/
def LinkingSystem.deployed (accounts : Accounts) (config : AuthConfig) (now : Time) : LinkingSystem where
  store :=
    { users := accounts.users, userProfiles := accounts.userProfiles
      profileDevicePreferences := accounts.profileDevicePreferences
      userCapabilities := accounts.userCapabilities, userSessions := accounts.userSessions
      invitations := .empty, deviceLinkingCodes := .empty, issued := 0, config, now, faults := [] }
  inspections := .empty

end Duskcue.Auth
