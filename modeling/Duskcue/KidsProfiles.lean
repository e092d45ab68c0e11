import Duskcue.AuthSchema
import Duskcue.MediaAccess

/-! Household profiles and the parent PIN. A session is on one profile; from a kids
profile it reaches a standard one only while it is unlocked by the parent PIN of
that profile. The target of a switch is read before the transaction of the
switch, so a call is kept with what it has read. Every transaction takes effect
at one instant of the clock, or not at all. -/
namespace Duskcue.Profiles
open Playback (Uuid Time minute)
open Text (trim byteLength)

def parentPinMaxAttempts : Int := 5
def parentPinLockoutMinutes : Time := 15 * minute
def parentUnlockMinutes : Time := 10 * minute

inductive ProfilesError
  | notFound | accessDenied | activeProfileChanged | cannotDelete | deviceIdentityRequired
  | parentPinRequired | parentPinNotAllowed | parentPinInvalid | parentPinLocked
  | parentUnlockRequired | parentUnlockUnavailable
  | invalidProfileType (value : String)
  | invalidContentRating (value : List Char)
  | ownerRequired | database

inductive ProfileType
  | standard | kids
  deriving DecidableEq

structure Profile where
  ownerUserId : Uuid
  name : List Char
  profileType : ProfileType
  isDefault : Bool := false
  maxContentRating : String
  parentPinHash : Option String := none
  parentPinFailedAttempts : Int := 0
  parentPinLockedUntil : Option Time := none

structure Session where
  userId : Uuid
  activeProfileId : Option Uuid
  profileSelectionRequired : Bool
  parentUnlockProfileId : Option Uuid := none
  parentUnlockExpiresAt : Option Time := none

/-- `issued` holds the identities of profiles and sessions that were given out; `uuidv7()`
gives none twice. -/
structure Store where
  profiles : Table Uuid Profile
  sessions : Table Uuid Session
  profileDevicePreferences : Table (Uuid × String) Uuid
  issued : List Uuid
  now : Time

/-- Argon2id with the parameters of `parent_pin_hasher`: the PHC string of a PIN and a salt,
and whether a PIN fits one. -/
structure Hasher where
  hashPassword : List Char → String → String
  verifyPassword : String → List Char → Bool

/-- A PHC string fits the PIN it was made of and no other. -/
def Hasher.Sound (hasher : Hasher) : Prop :=
  ∀ pin salt other, hasher.verifyPassword (hasher.hashPassword pin salt) other = true ↔ other = pin

def demand {α : Type} (value : Option α) (error : ProfilesError) : Except ProfilesError α :=
  match value with
  | none => .error error
  | some value => .ok value

def require (condition : Bool) (error : ProfilesError) : Except ProfilesError Unit :=
  if condition then .ok () else .error error

/-! ## Reading -/

/-- A row of the profiles table, for its owner only. -/
def ownedProfile (s : Store) (ownerUserId id : Uuid) : Option Profile :=
  (s.profiles.find id).filter fun profile => profile.ownerUserId = ownerUserId

def ownedSession (s : Store) (ownerUserId id : Uuid) : Option Session :=
  (s.sessions.find id).filter fun session => session.userId = ownerUserId

/-- `get_owned_profile`. -/
def getOwnedProfile (s : Store) (ownerUserId id : Uuid) : Except ProfilesError Profile :=
  demand (ownedProfile s ownerUserId id) .notFound

/-- `current_session_profile_id`; a NULL is no profile. -/
def currentSessionProfileId (s : Store) (ownerUserId sessionId : Uuid) : Except ProfilesError Uuid := do
  let session ← demand (ownedSession s ownerUserId sessionId) .accessDenied
  demand session.activeProfileId .database

/-- `lock_profile_session`. -/
def lockProfileSession (s : Store) (ownerUserId sessionId expectedProfileId : Uuid) :
    Except ProfilesError (Profile × Session) := do
  let profile ← demand (ownedProfile s ownerUserId expectedProfileId) .accessDenied
  let session ← demand (ownedSession s ownerUserId sessionId) .accessDenied
  require (session.activeProfileId = some expectedProfileId) .activeProfileChanged
  pure (profile, session)

/-! ## Switching -/

/-- A call of `switch_profile`, with the type of the profile it has read. -/
structure Switch where
  ownerUserId : Uuid
  sessionId : Uuid
  deviceId : Option String
  profileId : Uuid
  rememberOnDevice : Option Bool
  profileType : ProfileType

/-- The switch leaves a kids profile for a standard one, and the session is not unlocked. -/
def unlockMissing (call : Switch) (activeProfileId : Uuid) (active : Profile) (session : Session) (now : Time) :
    Bool :=
  activeProfileId ≠ call.profileId && active.profileType = .kids && call.profileType = .standard &&
    active.parentPinHash.isSome &&
      (session.parentUnlockProfileId ≠ some activeProfileId || session.parentUnlockExpiresAt.all (· ≤ now))

/-- The upsert or the deletion of the device preference, under the foreign key. -/
def rememberProfile (call : Switch) (s : Store) : Except ProfilesError Store :=
  match call.rememberOnDevice with
  | none => .ok s
  | some true => do
    let deviceId ← demand (Auth.normalizedDeviceId call.deviceId) .deviceIdentityRequired
    require (ownedProfile s call.ownerUserId call.profileId).isSome .database
    let preferences := s.profileDevicePreferences.put (call.ownerUserId, deviceId) call.profileId
    pure { s with profileDevicePreferences := preferences }
  | some false =>
    match Auth.normalizedDeviceId call.deviceId with
    | none => .ok s
    | some deviceId =>
      .ok { s with profileDevicePreferences := s.profileDevicePreferences.remove (call.ownerUserId, deviceId) }

/-- The session row `switch_profile` writes. -/
def Session.onto (activeProfileId profileId : Uuid) (session : Session) : Session :=
  if activeProfileId = profileId then { session with profileSelectionRequired := false }
  else
    { session with
      activeProfileId := some profileId, profileSelectionRequired := false
      parentUnlockProfileId := none, parentUnlockExpiresAt := none }

/-- The transaction of `switch_profile`. -/
def switchProfile (call : Switch) (s : Store) : Except ProfilesError Store := do
  let observed ← currentSessionProfileId s call.ownerUserId call.sessionId
  let locked ← lockProfileSession s call.ownerUserId call.sessionId observed
  require (!unlockMissing call observed locked.1 locked.2 s.now) .parentUnlockRequired
  let remembered ← rememberProfile call s
  require (decide (observed = call.profileId) || (remembered.profiles.find call.profileId).isSome) .database
  pure { remembered with
    sessions := remembered.sessions.put call.sessionId (locked.2.onto observed call.profileId) }

/-! ## Unlocking -/

/-- `validate_parent_pin`. -/
def validParentPin (pin : List Char) : Bool :=
  4 ≤ byteLength pin && byteLength pin ≤ 12 && pin.all Char.isDigit

/-- `parent_pin_locked_until`. -/
def parentPinLockedUntil (failedAttempts : Int) (now : Time) : Option Time :=
  if parentPinMaxAttempts ≤ failedAttempts then some (now + parentPinLockoutMinutes) else none

/-- A wrong PIN is counted, `i16` saturating. -/
def Profile.failed (now : Time) (profile : Profile) : Profile :=
  let attempts := min (profile.parentPinFailedAttempts + 1) 32767
  { profile with
    parentPinFailedAttempts := attempts, parentPinLockedUntil := Profiles.parentPinLockedUntil attempts now }

def Profile.cleared (profile : Profile) : Profile :=
  { profile with parentPinFailedAttempts := 0, parentPinLockedUntil := none }

/-- The profile and session `parent_unlock` works on, and the hash it compares the PIN with,
behind the checks that come before. -/
def unlockable (ownerUserId sessionId : Uuid) (pin : List Char) (s : Store) :
    Except ProfilesError (Uuid × Profile × Session × String) := do
  require (validParentPin pin) .parentPinRequired
  let profileId ← currentSessionProfileId s ownerUserId sessionId
  let locked ← (match lockProfileSession s ownerUserId sessionId profileId with
    | .error .activeProfileChanged => .error .parentUnlockUnavailable
    | result => result)
  require (locked.1.profileType = .kids) .parentUnlockUnavailable
  let parentPinHash ← demand locked.1.parentPinHash .parentUnlockUnavailable
  require (!locked.1.parentPinLockedUntil.any (s.now < ·)) .parentPinLocked
  pure (profileId, locked.1, locked.2, parentPinHash)

/-- `parent_unlock`: a wrong PIN is committed before the error is returned, which stands
here beside the store. -/
def parentUnlock (hasher : Hasher) (ownerUserId sessionId : Uuid) (pin : List Char) (s : Store) :
    Except ProfilesError (Store × Except ProfilesError Time) := do
  let found ← unlockable ownerUserId sessionId pin s
  if hasher.verifyPassword found.2.2.2 pin then
    let unlockedUntil := s.now + parentUnlockMinutes
    let session := { found.2.2.1 with
      parentUnlockProfileId := some found.1, parentUnlockExpiresAt := some unlockedUntil }
    pure ({ s with
      profiles := s.profiles.put found.1 found.2.1.cleared
      sessions := s.sessions.put sessionId session }, .ok unlockedUntil)
  else
    pure ({ s with profiles := s.profiles.put found.1 (found.2.1.failed s.now) }, .error .parentPinInvalid)

/-! ## Managing profiles -/

def parseProfileType : String → Except ProfilesError ProfileType
  | "standard" => .ok .standard
  | "kids" => .ok .kids
  | value => .error (.invalidProfileType value)

def checkRating (value : List Char) : Except ProfilesError String :=
  match MediaAccess.canonicalContentRating value with
  | .ok rating => .ok rating
  | .error _ => .error (.invalidContentRating value)

/-- `hash_parent_pin` with the salt it draws. -/
def hashParentPin (hasher : Hasher) (pin : List Char) (salt : String) : Except ProfilesError String := do
  require (validParentPin pin) .parentPinRequired
  pure (hasher.hashPassword pin salt)

structure CreateProfileRequest where
  name : List Char
  profileType : Option String
  maxContentRating : Option (List Char)
  parentPin : Option (List Char)

/-- The hash a new profile starts with. -/
def newPinHash (hasher : Hasher) (profileType : ProfileType) (salt : String) :
    Option (List Char) → Except ProfilesError (Option String)
  | some pin =>
    match profileType with
    | .kids => some <$> hashParentPin hasher pin salt
    | .standard => .error .parentPinNotAllowed
  | none =>
    match profileType with
    | .kids => .error .parentPinRequired
    | .standard => .ok none

/-- `create_profile_for_session`, once the owner's authority is checked. -/
def createProfile (hasher : Hasher) (ownerUserId id : Uuid) (salt : String) (request : CreateProfileRequest)
    (s : Store) : Except ProfilesError Store := do
  let profileType ← parseProfileType (request.profileType.getD "standard")
  let ceiling := if profileType = .kids then "TV-Y7" else "NC-17"
  let maxContentRating ← checkRating (request.maxContentRating.getD ceiling.toList)
  let name := trim request.name
  require (!name.isEmpty) (.invalidProfileType "name is required")
  let parentPinHash ← newPinHash hasher profileType salt request.parentPin
  require (id ∉ s.issued) .database
  let profile : Profile := { ownerUserId, name, profileType, maxContentRating, parentPinHash }
  pure { s with profiles := s.profiles.put id profile, issued := id :: s.issued }

structure UpdateProfileRequest where
  name : Option (List Char)
  maxContentRating : Option (List Char)
  parentPin : Option (List Char)

/-- The hash an update sets, if it sets one. -/
def changedPinHash (hasher : Hasher) (profileType : ProfileType) (salt : String) :
    Option (List Char) → Except ProfilesError (Option String)
  | some pin =>
    match profileType with
    | .kids => some <$> hashParentPin hasher pin salt
    | .standard => .error .parentPinNotAllowed
  | none => .ok none

/-- The UPDATE of `update_profile`. -/
def Profile.update (name : Option (List Char)) (rating parentPinHash : Option String) (profile : Profile) : Profile :=
  { profile with
    name := name.getD profile.name
    maxContentRating := rating.getD profile.maxContentRating
    parentPinHash := parentPinHash <|> profile.parentPinHash
    parentPinFailedAttempts := if parentPinHash.isNone then profile.parentPinFailedAttempts else 0
    parentPinLockedUntil := if parentPinHash.isNone then profile.parentPinLockedUntil else none }

/-- The sessions that a profile unlocked are locked again. -/
def Session.relock (profileId : Uuid) (session : Session) : Session :=
  if session.parentUnlockProfileId = some profileId then
    { session with parentUnlockProfileId := none, parentUnlockExpiresAt := none }
  else session

def ratingOf : Option (List Char) → Except ProfilesError (Option String)
  | none => .ok none
  | some value => some <$> checkRating value

/-- `update_profile`, once the owner's authority is checked. -/
def updateProfile (hasher : Hasher) (ownerUserId id : Uuid) (salt : String) (request : UpdateProfileRequest)
    (s : Store) : Except ProfilesError Store := do
  let current ← demand (ownedProfile s ownerUserId id) .notFound
  let rating ← ratingOf request.maxContentRating
  let name := (request.name.map trim).filter fun name => !name.isEmpty
  require (!(request.name.isSome && name.isNone)) (.invalidProfileType "name is required")
  let parentPinHash ← changedPinHash hasher current.profileType salt request.parentPin
  let profiles := s.profiles.put id (current.update name rating parentPinHash)
  let sessions := if parentPinHash.isSome then s.sessions.amend fun _ => Session.relock id else s.sessions
  pure { s with profiles, sessions }

/-- `ON DELETE SET NULL` of both references to a profile. -/
def Session.forget (profileId : Uuid) (session : Session) : Session :=
  { session with
    activeProfileId := session.activeProfileId.filter (· ≠ profileId)
    parentUnlockProfileId := session.parentUnlockProfileId.filter (· ≠ profileId) }

/-- `delete_profile`, once the owner's authority is checked. -/
def deleteProfile (ownerUserId id : Uuid) (s : Store) : Except ProfilesError Store := do
  let profile ← demand (ownedProfile s ownerUserId id) .notFound
  require (!profile.isDefault) .cannotDelete
  require (!s.sessions.holds fun _ session =>
    session.userId = ownerUserId && session.activeProfileId = some id) .cannotDelete
  pure { s with
    profiles := s.profiles.remove id
    sessions := s.sessions.amend fun _ => Session.forget id
    profileDevicePreferences := s.profileDevicePreferences.discard fun _ profile => profile = id }

/-! ## The system -/

/-- `pins` remembers the PIN last set for each profile; no function reads it. -/
structure System where
  store : Store
  calls : Table Nat Switch
  pins : Table Uuid (List Char)

inductive Action
  | ensureDefaultProfile (userId id : Uuid) (name : List Char)
  | openSession (userId id profileId : Uuid) (selectionRequired : Bool)
  | closeSession (id : Uuid)
  | readTarget (call : Nat) (ownerUserId sessionId : Uuid) (deviceId : Option String) (profileId : Uuid)
      (rememberOnDevice : Option Bool)
  | switchProfile (call : Nat)
  | parentUnlock (ownerUserId sessionId : Uuid) (pin : List Char)
  | createProfile (ownerUserId id : Uuid) (salt : String) (request : CreateProfileRequest)
  | updateProfile (ownerUserId id : Uuid) (salt : String) (request : UpdateProfileRequest)
  | deleteProfile (ownerUserId id : Uuid)

/-- The clock moves on before each action; `authorized` is the outcome of the owner's
authority check. -/
structure Move where
  elapsed : Nat := 0
  action : Action
  authorized : Bool := true

def advance (sys : System) (elapsed : Nat) : System :=
  { sys with store := { sys.store with now := sys.store.now + elapsed } }

/-- A request that fails leaves the store as it was. -/
def System.settle (sys : System) : Except ProfilesError Store → System
  | .error _ => sys
  | .ok store => { sys with store }

/-- The PIN a request sets, once it has succeeded. -/
def System.recordPin (sys : System) (id : Uuid) : Option (List Char) → System
  | none => sys
  | some pin => { sys with pins := sys.pins.put id pin }

/-- A new session is on a remembered profile of its user or on the default one. -/
def openSession (userId id profileId : Uuid) (selectionRequired : Bool) (s : Store) : Except ProfilesError Store := do
  require (id ∉ s.issued && (ownedProfile s userId profileId).isSome) .database
  let session : Session := ⟨userId, some profileId, selectionRequired, none, none⟩
  pure { s with sessions := s.sessions.put id session, issued := id :: s.issued }

/-- The INSERT of `ensure_default_profile`, for a user that has no default profile. -/
def ensureDefaultProfile (userId id : Uuid) (name : List Char) (s : Store) : Except ProfilesError Store := do
  require (id ∉ s.issued) .database
  let profile : Profile :=
    { ownerUserId := userId, name, profileType := .standard, isDefault := true, maxContentRating := "NC-17" }
  pure { s with profiles := s.profiles.put id profile, issued := id :: s.issued }

def act (hasher : Hasher) (authorized : Bool) (sys : System) : Action → System
  | .ensureDefaultProfile userId id name => sys.settle (ensureDefaultProfile userId id name sys.store)
  | .openSession userId id profileId selectionRequired =>
    sys.settle (openSession userId id profileId selectionRequired sys.store)
  | .closeSession id => { sys with store := { sys.store with sessions := sys.store.sessions.remove id } }
  | .readTarget call ownerUserId sessionId deviceId profileId rememberOnDevice =>
    match getOwnedProfile sys.store ownerUserId profileId with
    | .error _ => sys
    | .ok profile =>
      let read := ⟨ownerUserId, sessionId, deviceId, profileId, rememberOnDevice, profile.profileType⟩
      { sys with calls := sys.calls.put call read }
  | .switchProfile number =>
    match sys.calls.find number with
    | none => sys
    | some call => { sys.settle (switchProfile call sys.store) with calls := sys.calls.remove number }
  | .parentUnlock ownerUserId sessionId pin =>
    sys.settle ((parentUnlock hasher ownerUserId sessionId pin sys.store).map Prod.fst)
  | .createProfile ownerUserId id salt request =>
    match require authorized .ownerRequired >>= fun _ => createProfile hasher ownerUserId id salt request sys.store with
    | .error _ => sys
    | .ok store => { sys with store }.recordPin id request.parentPin
  | .updateProfile ownerUserId id salt request =>
    match require authorized .ownerRequired >>= fun _ => updateProfile hasher ownerUserId id salt request sys.store with
    | .error _ => sys
    | .ok store => { sys with store }.recordPin id request.parentPin
  | .deleteProfile ownerUserId id =>
    sys.settle (require authorized .ownerRequired >>= fun _ => deleteProfile ownerUserId id sys.store)

def next (hasher : Hasher) (sys : System) (move : Move) : System :=
  act hasher move.authorized (advance sys move.elapsed) move.action

/-- No profile has been made yet. -/
def System.initial : System :=
  { store := ⟨Table.empty, Table.empty, Table.empty, [], 0⟩, calls := Table.empty, pins := Table.empty }

def run (hasher : Hasher) (moves : List Move) : System := moves.foldl (next hasher) System.initial

end Duskcue.Profiles
