import Duskcue.PlaybackSchema
import Duskcue.Text

/-! The accounts, sessions and codes of the auth domain. A store is read and
written at one instant, `now`. `faults` says which of the next statements the
database fails, so that a call can break off behind any of them; a failure
inside a transaction rolls it back. Identities and tokens that the database or
the server draws at random come in as `Draw`. -/
namespace Duskcue.Auth
open Playback (Uuid Time second)
open Transaction

inductive SqlFailure
  | connection | rowNotFound | uniqueViolation | checkViolation | foreignKeyViolation | numericOutOfRange
  deriving DecidableEq

inductive AuthError
  | inviteCodeInvalid | inviteCodeRevoked | inviteCodeUseLimitExceeded
  | deviceLinkingExpired | deviceLinkingDenied | deviceLinkingPending
  | deviceLinkingSlowDown (retryAfterSeconds : Int)
  | invalidCredentials
  | database (failure : SqlFailure)
  deriving DecidableEq

/-! ## Rows -/

inductive Role
  | owner | admin | member | guest
  deriving DecidableEq

inductive Status
  | active | disabled | locked | pending
  deriving DecidableEq

structure User where
  username : String
  displayName : String
  email : Option String
  role : Role
  status : Status
  deletedAt : Option Time
  hasAllLibraryAccess : Bool
  deriving DecidableEq

structure Profile where
  ownerUserId : Uuid
  name : String
  isDefault : Bool

structure DeviceInfo where
  deviceId : Option String
  deviceName : Option String
  clientName : Option String
  clientVersion : Option String
  clientPlatform : Option String
  ipAddress : Option String
  userAgent : Option String
  isSecure : Bool
  deriving DecidableEq

structure UserSession where
  userId : Uuid
  activeProfileId : Uuid
  profileSelectionRequired : Bool
  tokenHash : String
  device : DeviceInfo
  createdAt : Time
  expiresAt : Time
  lastActiveAt : Time
  credentialVersion : Int
  deriving DecidableEq

structure Invitation where
  userId : Option Uuid
  codeHash : String
  email : String
  displayName : Option String
  role : Role
  capabilities : List String
  hasAllLibraryAccess : Bool
  maxUses : Int
  useCount : Int
  expiresAt : Option Time
  isRevoked : Bool
  deriving DecidableEq

structure DeviceLinkingCode where
  userCode : String
  deviceCode : String
  deviceId : Option String
  clientName : Option String
  clientPlatform : Option String
  clientVersion : Option String
  ipAddress : Option String
  userAgent : Option String
  expiresAt : Time
  isApproved : Bool
  approvedByUserId : Option Uuid
  approvedAt : Option Time
  isDenied : Bool
  deniedByUserId : Option Uuid
  deniedAt : Option Time
  lastPolledAt : Option Time
  pollIntervalSeconds : Int

/-- The settings of `AuthConfig` these functions read. -/
structure AuthConfig where
  deviceLinkingCodeExpirySeconds : Nat
  deviceLinkingPollIntervalSeconds : Int
  sessionAbsoluteTimeoutDays : Int

/-- `uuidv7()` gives every linking code an identity of its own: here its number, and
`issued` is the next one. -/
structure Store where
  users : Table Uuid User
  userProfiles : Table Uuid Profile
  profileDevicePreferences : Table (Uuid × String) Uuid
  userCapabilities : Table (Uuid × String) Bool
  userSessions : Table Uuid UserSession
  invitations : Table Uuid Invitation
  deviceLinkingCodes : Table Nat DeviceLinkingCode
  issued : Nat
  config : AuthConfig
  now : Time
  faults : List Bool

abbrev Tx := Transaction Store AuthError

/-- The values drawn for a new session. -/
structure Draw where
  profileId : Uuid
  sessionId : Uuid
  token : String

/-! ## Statements -/

/-- The database carries out the next statement, or fails it. -/
def statement : Tx Unit := do
  let s ← get
  match s.faults with
  | [] => pure ()
  | fails :: faults =>
    set { s with faults }
    ensure (!fails) (.database .connection)

def require (condition : Bool) (failure : SqlFailure) : Tx Unit := ensure condition (.database failure)

/-- `char_length(trim(name)) BETWEEN 1 AND 80`. -/
def profileNameValid (name : String) : Bool :=
  let trimmed := (name.toList.dropWhile (· = ' ')).rdropWhile (· = ' ')
  1 ≤ trimmed.length && trimmed.length ≤ 80

/-- `profiles::service::normalized_device_id`. -/
def normalizedDeviceId (deviceId : Option String) : Option String :=
  (deviceId.map fun value => String.ofList (Text.trim value.toList)).filter fun value =>
    !value.isEmpty && value.length ≤ 200

/-- `ensure_default_profile_on_connection`. -/
def ensureDefaultProfileOnConnection (user fresh : Uuid) : Tx Uuid := do
  statement
  let s ← get
  match s.userProfiles.select fun _ profile => profile.ownerUserId = user && profile.isDefault with
  | profile :: _ => pure profile
  | [] =>
    statement
    let account ← demand (s.users.find user) (.database .rowNotFound)
    statement
    require (profileNameValid account.displayName) .checkViolation
    require (s.userProfiles.find fresh).isNone .uniqueViolation
    modify fun s => { s with userProfiles := s.userProfiles.put fresh ⟨user, account.displayName, true⟩ }
    pure fresh

/-- `remembered_profile_for_device_on_connection`. -/
def rememberedProfileForDeviceOnConnection (user : Uuid) (deviceId : Option String) : Tx (Option Uuid) :=
  match normalizedDeviceId deviceId with
  | none => pure none
  | some device => do
    statement
    let s ← get
    pure ((s.profileDevicePreferences.find (user, device)).filter fun profile =>
      (s.userProfiles.find profile).any (·.ownerUserId = user))

def requiresProfileSelection (hasRememberedProfile : Bool) (profileCount : Nat) : Bool :=
  !hasRememberedProfile && 1 < profileCount

section
variable (sha256Hex : String → String)

/-- `create_session_on_connection`. -/
def createSessionOnConnection (user : Uuid) (device : DeviceInfo) (draw : Draw) : Tx UserSession := do
  let defaultProfile ← ensureDefaultProfileOnConnection user draw.profileId
  let remembered ← rememberedProfileForDeviceOnConnection user device.deviceId
  statement
  let s ← get
  let profiles := s.userProfiles.count fun _ profile => profile.ownerUserId = user
  let session : UserSession :=
    { userId := user, activeProfileId := remembered.getD defaultProfile
      profileSelectionRequired := requiresProfileSelection remembered.isSome profiles
      tokenHash := sha256Hex draw.token, device, createdAt := s.now
      expiresAt := s.now + s.config.sessionAbsoluteTimeoutDays * (86400 * second)
      lastActiveAt := s.now, credentialVersion := 1 }
  statement
  require (s.users.find user).isSome .foreignKeyViolation
  require (s.userSessions.find draw.sessionId).isNone .uniqueViolation
  require (!s.userSessions.holds fun _ other => other.tokenHash = session.tokenHash) .uniqueViolation
  modify fun s => { s with userSessions := s.userSessions.put draw.sessionId session }
  pure session

end

/-! ## Capabilities -/

/-- `ALL_CAPABILITIES`. -/
def allCapabilities : List String :=
  ["play_media", "can_transcode", "can_download", "can_delete_media", "can_manage_libraries",
    "can_manage_users", "can_view_analytics", "can_manage_server", "can_manage_scheduled_tasks",
    "can_use_live_tv", "can_share_content", "can_remote_control"]

def roleDefaultCapabilities : Role → List String
  | .admin => ["play_media", "can_transcode", "can_download", "can_delete_media", "can_manage_libraries",
      "can_manage_users", "can_view_analytics", "can_manage_server", "can_manage_scheduled_tasks",
      "can_share_content", "can_remote_control"]
  | .member => ["play_media", "can_download", "can_share_content"]
  | .guest => ["play_media"]
  | .owner => []

/-- One override applied to the capabilities so far. -/
def applyOverride (capabilities : List String) (override : String × Bool) : List String :=
  if override.2 then
    if capabilities.contains override.1 then capabilities else capabilities ++ [override.1]
  else capabilities.filter (· ≠ override.1)

/-- `resolve_capabilities_on_connection` and `resolve_capabilities`. -/
def resolveCapabilities (user : Uuid) (role : Role) : Tx (List String) :=
  if role = .owner then pure allCapabilities
  else do
    statement
    let s ← get
    let rows := s.userCapabilities.select fun key _ => key.1 = user
    pure ((rows.map fun key => (key.2, (s.userCapabilities.find key).getD false)).foldl applyOverride
      (roleDefaultCapabilities role))

structure UserSummary where
  id : Uuid
  username : String
  displayName : String
  role : Role
  capabilities : List String
  hasAllLibraryAccess : Bool
  activeProfileId : Uuid
  profileSelectionRequired : Bool
  deriving DecidableEq

end Duskcue.Auth
