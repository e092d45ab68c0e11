import Duskcue.KidsProfiles
import Duskcue.Trace

/-! Leaving a kids profile. The unlock of a session names the profile it was given
for and an instant; four operations set, clear or compare it. Every unlock a
session holds goes back to the parent PIN that the session presented, the
profile has not been left since and its PIN has not been changed. Every kids
profile carries a PIN, so nothing but such an unlock opens the way out. -/
namespace Duskcue.Profiles
open Playback (Uuid Time)

section
variable {hasher : Hasher} {s s' : Store} {ownerUserId sessionId id : Uuid} {pin : List Char}

theorem demand_ok {α : Type} {value : Option α} {result : α}
    (ran : demand value error = .ok result) : value = some result := by
  cases value with
  | none => cases ran
  | some => rw [Except.ok.inj ran]

theorem require_ok (ran : require condition error = .ok result) : condition = true := by
  cases condition with
  | false => cases ran
  | true => rfl

/-! ## What the requests do -/

theorem lockProfileSession_ok {locked : Profile × Session}
    (ran : lockProfileSession s ownerUserId sessionId id = .ok locked) :
    ownedProfile s ownerUserId id = some locked.1 ∧ ownedSession s ownerUserId sessionId = some locked.2 ∧
      locked.2.activeProfileId = some id := by
  obtain ⟨profile, foundProfile, ran⟩ := bind_ok ran
  obtain ⟨session, foundSession, ran⟩ := bind_ok ran
  obtain ⟨_, active, ran⟩ := bind_ok ran
  cases ran
  exact ⟨demand_ok foundProfile, demand_ok foundSession, of_decide_eq_true (require_ok active)⟩

theorem ownedProfile_find (owned : ownedProfile s ownerUserId id = some profile) :
    s.profiles.find id = some profile := (Option.filter_eq_some_iff.mp owned).1

theorem ownedSession_find (owned : ownedSession s ownerUserId sessionId = some session) :
    s.sessions.find sessionId = some session := (Option.filter_eq_some_iff.mp owned).1

theorem rememberProfile_ok (ran : rememberProfile call s = .ok s') :
    s' = { s with profileDevicePreferences := s'.profileDevicePreferences } := by
  unfold rememberProfile at ran
  split at ran
  · cases ran
    rfl
  · obtain ⟨deviceId, -, ran⟩ := bind_ok ran
    obtain ⟨_, _, ran⟩ := bind_ok ran
    cases ran
    rfl
  · split at ran
    · cases ran
      rfl
    · cases ran
      rfl

/-- A switch writes the row of its session, which was not barred from leaving, and no
profile. -/
structure Switched (call : Switch) (s s' : Store) (left : Uuid) (profile : Profile) (session : Session) : Prop where
  found : s.sessions.find call.sessionId = some session
  active : session.activeProfileId = some left
  held : s.profiles.find left = some profile
  free : unlockMissing call left profile session s.now = false
  target : left = call.profileId ∨ (s.profiles.find call.profileId).isSome = true
  sessions : s'.sessions = s.sessions.put call.sessionId (session.onto left call.profileId)
  profiles : s'.profiles = s.profiles
  issued : s'.issued = s.issued
  now : s'.now = s.now

theorem switchProfile_ok (ran : switchProfile call s = .ok s') :
    ∃ active profile session, Switched call s s' active profile session := by
  obtain ⟨active, _, ran⟩ := bind_ok ran
  obtain ⟨locked, lock, ran⟩ := bind_ok ran
  obtain ⟨_, free, ran⟩ := bind_ok ran
  obtain ⟨remembered, kept, ran⟩ := bind_ok ran
  obtain ⟨_, target, ran⟩ := bind_ok ran
  cases ran
  obtain ⟨profile, session, same⟩ := lockProfileSession_ok lock
  have shape := rememberProfile_ok kept
  refine ⟨active, locked.1, locked.2, ⟨ownedSession_find session, same, ownedProfile_find profile, ?_, ?_, ?_, ?_, ?_, ?_⟩⟩
  · simpa using require_ok free
  · have present := require_ok target
    rw [shape] at present
    simpa using present
  all_goals rw [shape]

/-- The PIN is compared with the hash of the kids profile the session is on. -/
structure Evaluated (sessionId : Uuid) (s : Store) (found : Uuid × Profile × Session × String) : Prop where
  profile : s.profiles.find found.1 = some found.2.1
  session : s.sessions.find sessionId = some found.2.2.1
  active : found.2.2.1.activeProfileId = some found.1
  kids : found.2.1.profileType = .kids
  hash : found.2.1.parentPinHash = some found.2.2.2
  unlocked : found.2.1.parentPinLockedUntil.any (s.now < ·) = false

theorem unlockable_ok {found : Uuid × Profile × Session × String}
    (ran : unlockable ownerUserId sessionId pin s = .ok found) : Evaluated sessionId s found := by
  obtain ⟨_, _, ran⟩ := bind_ok ran
  obtain ⟨profileId, -, ran⟩ := bind_ok ran
  obtain ⟨locked, lock, ran⟩ := bind_ok ran
  obtain ⟨_, kids, ran⟩ := bind_ok ran
  obtain ⟨hash, held, ran⟩ := bind_ok ran
  obtain ⟨_, free, ran⟩ := bind_ok ran
  cases ran
  have lock : lockProfileSession s ownerUserId sessionId profileId = .ok locked := by
    split at lock
    · cases lock
    · exact lock
  obtain ⟨profile, session, active⟩ := lockProfileSession_ok lock
  exact ⟨ownedProfile_find profile, ownedSession_find session, active, of_decide_eq_true (require_ok kids),
    demand_ok held, by simpa using require_ok free⟩

theorem hashParentPin_ok {salt hash : String} (ran : hashParentPin hasher pin salt = .ok hash) :
    hash = hasher.hashPassword pin salt := by
  obtain ⟨_, _, ran⟩ := bind_ok ran
  exact (Except.ok.inj ran).symm

/-- A new profile has no failures, and a PIN exactly when it is a kids profile. -/
structure Made (hasher : Hasher) (given : Option (List Char)) (profile : Profile) : Prop where
  attempts : profile.parentPinFailedAttempts = 0
  unlocked : profile.parentPinLockedUntil = none
  pin : profile.profileType = .standard ∧ given = none ∨
    ∃ pin salt, given = some pin ∧ profile.parentPinHash = some (hasher.hashPassword pin salt)

theorem map_ok {α β : Type} {f : α → β} {x : Except ProfilesError α} {result : β} (ran : f <$> x = .ok result) :
    ∃ a, x = .ok a ∧ f a = result := by
  cases x with
  | error => cases ran
  | ok a => exact ⟨a, rfl, Except.ok.inj ran⟩

theorem createProfile_ok {salt : String} {request : CreateProfileRequest}
    (ran : createProfile hasher ownerUserId id salt request s = .ok s') :
    id ∉ s.issued ∧ ∃ profile, Made hasher request.parentPin profile ∧
      s' = { s with profiles := s.profiles.put id profile, issued := id :: s.issued } := by
  obtain ⟨profileType, _, ran⟩ := bind_ok ran
  obtain ⟨maxContentRating, _, ran⟩ := bind_ok ran
  obtain ⟨_, _, ran⟩ := bind_ok ran
  obtain ⟨parentPinHash, hashed, ran⟩ := bind_ok ran
  obtain ⟨_, fresh, ran⟩ := bind_ok ran
  cases ran
  refine ⟨of_decide_eq_true (require_ok fresh), _, ⟨rfl, rfl, ?_⟩, rfl⟩
  cases given : request.parentPin with
  | none =>
    rw [given] at hashed
    cases profileType with
    | kids => cases hashed
    | standard => exact .inl ⟨rfl, rfl⟩
  | some pin =>
    rw [given] at hashed
    cases profileType with
    | standard => cases hashed
    | kids =>
      obtain ⟨hash, made, rfl⟩ := map_ok hashed
      exact .inr ⟨pin, salt, rfl, congrArg some (hashParentPin_ok made)⟩

theorem updateProfile_ok {salt : String} {request : UpdateProfileRequest}
    (ran : updateProfile hasher ownerUserId id salt request s = .ok s') :
    ∃ current name rating, s.profiles.find id = some current ∧
      (request.parentPin = none ∧ s' = { s with profiles := s.profiles.put id (current.update name rating none) } ∨
      ∃ pin, request.parentPin = some pin ∧
        s' = { s with
          profiles := s.profiles.put id (current.update name rating (some (hasher.hashPassword pin salt)))
          sessions := s.sessions.amend fun _ => Session.relock id }) := by
  obtain ⟨current, found, ran⟩ := bind_ok ran
  obtain ⟨rating, _, ran⟩ := bind_ok ran
  obtain ⟨_, _, ran⟩ := bind_ok ran
  obtain ⟨parentPinHash, hashed, ran⟩ := bind_ok ran
  cases ran
  refine ⟨current, (request.name.map Text.trim).filter fun name => !name.isEmpty, rating,
    ownedProfile_find (demand_ok found), ?_⟩
  cases given : request.parentPin with
  | none =>
    rw [given] at hashed
    cases hashed
    exact .inl ⟨rfl, rfl⟩
  | some pin =>
    rw [given] at hashed
    cases kind : current.profileType with
    | standard =>
      rw [kind] at hashed
      cases hashed
    | kids =>
      rw [kind] at hashed
      obtain ⟨hash, made, rfl⟩ := map_ok hashed
      rw [hashParentPin_ok made]
      exact .inr ⟨pin, rfl, rfl⟩

theorem deleteProfile_ok (ran : deleteProfile ownerUserId id s = .ok s') :
    (s.profiles.find id).isSome = true ∧ s' = { s with
      profiles := s.profiles.remove id
      sessions := s.sessions.amend fun _ => Session.forget id
      profileDevicePreferences := s.profileDevicePreferences.discard fun _ profile => profile = id } := by
  obtain ⟨profile, found, ran⟩ := bind_ok ran
  obtain ⟨_, _, ran⟩ := bind_ok ran
  obtain ⟨_, _, ran⟩ := bind_ok ran
  cases ran
  exact ⟨Option.isSome_iff_exists.mpr ⟨profile, ownedProfile_find (demand_ok found)⟩, rfl⟩

end

/-! ## Steps -/

/-- What an action makes of the store and of the PINs in force. -/
inductive Effect (hasher : Hasher) (authorized : Bool) (sys : System) : Action → Store → Table Uuid (List Char) → Prop
  | idle (action : Action) : Effect hasher authorized sys action sys.store sys.pins
  | provided (userId id : Uuid) (name : List Char) (profile : Profile) (fresh : id ∉ sys.store.issued)
      (made : Made hasher none profile) :
      Effect hasher authorized sys (.ensureDefaultProfile userId id name)
        { sys.store with profiles := sys.store.profiles.put id profile, issued := id :: sys.store.issued } sys.pins
  | opened (userId id profileId : Uuid) (selectionRequired : Bool) (fresh : id ∉ sys.store.issued) :
      Effect hasher authorized sys (.openSession userId id profileId selectionRequired)
        { sys.store with
          sessions := sys.store.sessions.put id ⟨userId, some profileId, selectionRequired, none, none⟩
          issued := id :: sys.store.issued } sys.pins
  | closed (id : Uuid) :
      Effect hasher authorized sys (.closeSession id) { sys.store with sessions := sys.store.sessions.remove id } sys.pins
  | switched (number : Nat) {call : Switch} {s' : Store} {left : Uuid} {profile : Profile} {session : Session}
      (asked : sys.calls.find number = some call) (switched : Switched call sys.store s' left profile session) :
      Effect hasher authorized sys (.switchProfile number) s' sys.pins
  | refused (ownerUserId sessionId : Uuid) (pin : List Char) {found : Uuid × Profile × Session × String}
      (evaluated : unlockable ownerUserId sessionId pin sys.store = .ok found)
      (wrong : hasher.verifyPassword found.2.2.2 pin = false) :
      Effect hasher authorized sys (.parentUnlock ownerUserId sessionId pin)
        { sys.store with profiles := sys.store.profiles.put found.1 (found.2.1.failed sys.store.now) } sys.pins
  | unlocked (ownerUserId sessionId : Uuid) (pin : List Char) {found : Uuid × Profile × Session × String}
      (evaluated : unlockable ownerUserId sessionId pin sys.store = .ok found)
      (right : hasher.verifyPassword found.2.2.2 pin = true) :
      Effect hasher authorized sys (.parentUnlock ownerUserId sessionId pin)
        { sys.store with
          profiles := sys.store.profiles.put found.1 found.2.1.cleared
          sessions := sys.store.sessions.put sessionId { found.2.2.1 with
            parentUnlockProfileId := some found.1
            parentUnlockExpiresAt := some (sys.store.now + parentUnlockMinutes) } } sys.pins
  | created (ownerUserId id : Uuid) (salt : String) (request : CreateProfileRequest) (profile : Profile)
      (fresh : id ∉ sys.store.issued) (made : Made hasher request.parentPin profile) :
      Effect hasher authorized sys (.createProfile ownerUserId id salt request)
        { sys.store with profiles := sys.store.profiles.put id profile, issued := id :: sys.store.issued }
        (request.parentPin.elim sys.pins (sys.pins.put id))
  | updated (ownerUserId id : Uuid) (salt : String) (request : UpdateProfileRequest) {current : Profile}
      (name : Option (List Char)) (rating : Option String) (found : sys.store.profiles.find id = some current)
      (kept : request.parentPin = none) :
      Effect hasher authorized sys (.updateProfile ownerUserId id salt request)
        { sys.store with profiles := sys.store.profiles.put id (current.update name rating none) } sys.pins
  | changed (ownerUserId id : Uuid) (salt : String) (request : UpdateProfileRequest) {current : Profile}
      (name : Option (List Char)) (rating : Option String) {pin : List Char}
      (found : sys.store.profiles.find id = some current) (given : request.parentPin = some pin)
      (allowed : authorized = true) (done : (updateProfile hasher ownerUserId id salt request sys.store).isOk = true) :
      Effect hasher authorized sys (.updateProfile ownerUserId id salt request)
        { sys.store with
          profiles := sys.store.profiles.put id (current.update name rating (some (hasher.hashPassword pin salt)))
          sessions := sys.store.sessions.amend fun _ => Session.relock id } (sys.pins.put id pin)
  | deleted (ownerUserId id : Uuid) (found : (sys.store.profiles.find id).isSome = true) :
      Effect hasher authorized sys (.deleteProfile ownerUserId id)
        { sys.store with
          profiles := sys.store.profiles.remove id
          sessions := sys.store.sessions.amend fun _ => Session.forget id
          profileDevicePreferences :=
            sys.store.profileDevicePreferences.discard fun _ profile => profile = id } sys.pins

theorem act_effect (hasher : Hasher) (authorized : Bool) (sys : System) (action : Action) :
    Effect hasher authorized sys action (act hasher authorized sys action).store
      (act hasher authorized sys action).pins := by
  cases action with
  | ensureDefaultProfile userId id name =>
    simp only [act]
    cases ran : ensureDefaultProfile userId id name sys.store with
    | error => exact .idle _
    | ok =>
      obtain ⟨_, fresh, ran⟩ := bind_ok ran
      cases ran
      exact .provided _ _ _ _ (of_decide_eq_true (require_ok fresh)) ⟨rfl, rfl, .inl ⟨rfl, rfl⟩⟩
  | openSession userId id profileId selectionRequired =>
    simp only [act]
    cases ran : openSession userId id profileId selectionRequired sys.store with
    | error => exact .idle _
    | ok =>
      obtain ⟨_, fresh, ran⟩ := bind_ok ran
      cases ran
      have both := Bool.and_eq_true_iff.mp (require_ok fresh)
      exact .opened _ _ _ _ (of_decide_eq_true both.1)
  | closeSession id => exact .closed id
  | readTarget =>
    simp only [act]
    split <;> exact .idle _
  | switchProfile number =>
    simp only [act]
    split
    · exact .idle _
    · next call asked =>
      cases ran : switchProfile call sys.store with
      | error => exact .idle _
      | ok =>
        obtain ⟨left, profile, session, switched⟩ := switchProfile_ok ran
        exact .switched number asked switched
  | parentUnlock ownerUserId sessionId pin =>
    simp only [act]
    cases ran : parentUnlock hasher ownerUserId sessionId pin sys.store with
    | error => exact .idle _
    | ok =>
      obtain ⟨found, evaluated, ran⟩ := bind_ok ran
      split at ran
      · next right =>
        cases ran
        exact .unlocked _ _ _ evaluated right
      · next wrong =>
        cases ran
        exact .refused _ _ _ evaluated (Bool.not_eq_true _ |>.mp wrong)
  | createProfile ownerUserId id salt request =>
    simp only [act]
    split
    · exact .idle _
    · next s' ran =>
      obtain ⟨_, _, ran⟩ := bind_ok ran
      obtain ⟨fresh, profile, made, rfl⟩ := createProfile_ok ran
      have created : Effect hasher authorized sys _ _ _ := .created ownerUserId id salt request profile fresh made
      cases given : request.parentPin with
      | none | some => simpa [given, System.recordPin] using created
  | updateProfile ownerUserId id salt request =>
    simp only [act]
    split
    · exact .idle _
    · next s' ran =>
      obtain ⟨_, allowed, ran⟩ := bind_ok ran
      obtain ⟨current, name, rating, found, ⟨kept, rfl⟩ | ⟨pin, given, rfl⟩⟩ := updateProfile_ok ran
      · rw [kept]
        exact .updated _ _ _ _ _ _ found kept
      · have done : (updateProfile hasher ownerUserId id salt request sys.store).isOk = true := by rw [ran]; rfl
        rw [given]
        exact .changed _ _ _ _ _ _ found given (require_ok allowed) done
  | deleteProfile ownerUserId id =>
    simp only [act]
    cases ran : require authorized .ownerRequired >>= fun _ => deleteProfile ownerUserId id sys.store with
    | error => exact .idle _
    | ok =>
      obtain ⟨_, _, ran⟩ := bind_ok ran
      obtain ⟨found, rfl⟩ := deleteProfile_ok ran
      exact .deleted _ _ found

/-! ## Every kids profile carries a PIN -/

section
variable {hasher : Hasher} {authorized : Bool} {sys : System} {action : Action} {s' : Store} {pins' : Table Uuid (List Char)} {id : Uuid}

/-- A profile behind a step: its type is that of before, and its hash is the one it had or is
of the PIN now in force. -/
structure Follows (hasher : Hasher) (old new : Profile) (before after : Option (List Char)) : Prop where
  profileType : new.profileType = old.profileType
  attempts : 0 ≤ old.parentPinFailedAttempts → 0 ≤ new.parentPinFailedAttempts
  pin : new.parentPinHash = old.parentPinHash ∧ after = before ∨
    ∃ pin salt, new.parentPinHash = some (hasher.hashPassword pin salt) ∧ after = some pin

theorem Follows.refl (hasher : Hasher) (profile : Profile) (pin : Option (List Char)) :
    Follows hasher profile profile pin pin := ⟨rfl, fun kept => kept, .inl ⟨rfl, rfl⟩⟩

theorem effect_profile (effect : Effect hasher authorized sys action s' pins')
    (found : s'.profiles.find id = some profile) :
    (id ∉ sys.store.issued ∧ id ∈ s'.issued ∧ ∃ given, Made hasher given profile ∧
        pins'.find id = (given <|> sys.pins.find id)) ∨
      ∃ old, sys.store.profiles.find id = some old ∧ Follows hasher old profile (sys.pins.find id) (pins'.find id) := by
  cases effect with
  | idle | opened | closed => exact .inr ⟨profile, found, .refl _ _ _⟩
  | provided userId key name made fresh facts =>
    rw [Table.find_put] at found
    split at found
    · next same =>
      cases found
      subst same
      exact .inl ⟨fresh, List.mem_cons_self, none, facts, rfl⟩
    · exact .inr ⟨profile, found, .refl _ _ _⟩
  | switched _ _ switched =>
    rw [switched.profiles] at found
    exact .inr ⟨profile, found, .refl _ _ _⟩
  | refused _ _ _ evaluated =>
    have facts := unlockable_ok evaluated
    rw [Table.find_put] at found
    split at found
    · next same =>
      cases found
      subst same
      refine .inr ⟨_, facts.profile, rfl, fun kept => ?_, .inl ⟨rfl, rfl⟩⟩
      simp only [Profile.failed]
      omega
    · exact .inr ⟨profile, found, .refl _ _ _⟩
  | unlocked _ _ _ evaluated =>
    have facts := unlockable_ok evaluated
    rw [Table.find_put] at found
    split at found
    · next same =>
      cases found
      subst same
      exact .inr ⟨_, facts.profile, rfl, fun _ => Int.le_refl 0, .inl ⟨rfl, rfl⟩⟩
    · exact .inr ⟨profile, found, .refl _ _ _⟩
  | created _ key _ request made fresh facts =>
    rw [Table.find_put] at found
    rw [Table.find_elim_put]
    split at found
    · next same =>
      cases found
      subst same
      exact .inl ⟨fresh, List.mem_cons_self, _, facts, by rw [if_pos rfl]⟩
    · next other =>
      rw [if_neg other]
      exact .inr ⟨profile, found, .refl _ _ _⟩
  | updated _ key _ _ _ _ held =>
    rw [Table.find_put] at found
    split at found
    · next same =>
      cases found
      subst same
      exact .inr ⟨_, held, rfl, fun kept => kept, .inl ⟨rfl, rfl⟩⟩
    · exact .inr ⟨profile, found, .refl _ _ _⟩
  | changed _ key _ _ _ _ held given =>
    next pin _ _ =>
    rw [Table.find_put] at found
    rw [Table.find_put]
    split at found
    · next same =>
      cases found
      subst same
      exact .inr ⟨_, held, rfl, fun _ => Int.le_refl 0, .inr ⟨pin, _, rfl, by rw [if_pos rfl]⟩⟩
    · next other =>
      rw [if_neg other]
      exact .inr ⟨profile, found, .refl _ _ _⟩
  | deleted =>
    rw [Table.find_remove] at found
    split at found
    · cases found
    · exact .inr ⟨profile, found, .refl _ _ _⟩

theorem effect_issued (effect : Effect hasher authorized sys action s' pins') (given : id ∈ sys.store.issued) : id ∈ s'.issued := by
  cases effect with
  | provided | opened | created => exact List.mem_cons_of_mem _ given
  | switched _ _ switched => rwa [switched.issued]
  | idle | closed | refused | unlocked | updated | changed | deleted => exact given

/-- What holds in every state: identities are known, every kids profile carries the PIN in
force, failures are counted from zero, and a call has read the type its target has. -/
structure Held (hasher : Hasher) (sys : System) : Prop where
  known : ∀ id profile, sys.store.profiles.find id = some profile → id ∈ sys.store.issued
  pins : ∀ id profile, sys.store.profiles.find id = some profile → profile.profileType = .kids →
    ∃ pin salt, profile.parentPinHash = some (hasher.hashPassword pin salt) ∧ sys.pins.find id = some pin
  attempts : ∀ id profile, sys.store.profiles.find id = some profile → 0 ≤ profile.parentPinFailedAttempts
  calls : ∀ number call, sys.calls.find number = some call → call.profileId ∈ sys.store.issued ∧
    ∀ profile, sys.store.profiles.find call.profileId = some profile → profile.profileType = call.profileType

theorem initial_held (hasher : Hasher) : Held hasher System.initial := by
  constructor <;> intro _ _ found <;> cases found

/-- A call the step leaves was there before, or has just read its target. -/
theorem act_calls (hasher : Hasher) (authorized : Bool) (sys : System) (action : Action) {number : Nat}
    (found : (act hasher authorized sys action).calls.find number = some call) :
    sys.calls.find number = some call ∨
      (act hasher authorized sys action).store = sys.store ∧
        ∃ profile, sys.store.profiles.find call.profileId = some profile ∧ profile.profileType = call.profileType := by
  have settled (result : Except ProfilesError Store) : (sys.settle result).calls = sys.calls := by
    cases result <;> rfl
  have recorded (store : Store) (key : Uuid) (pin : Option (List Char)) :
      ({ sys with store }.recordPin key pin).calls = sys.calls := by
    cases pin <;> rfl
  cases action with
  | readTarget _ ownerUserId _ _ profileId =>
    simp only [act] at found ⊢
    cases read : getOwnedProfile sys.store ownerUserId profileId with
    | error => exact .inl (by simpa [read] using found)
    | ok profile =>
      simp only [read, Table.find_put] at found ⊢
      split at found
      · cases found
        exact .inr ⟨trivial, profile, ownedProfile_find (demand_ok read), rfl⟩
      · exact .inl found
  | switchProfile =>
    simp only [act] at found
    split at found
    · exact .inl found
    · simp only [Table.find_remove] at found
      split at found
      · cases found
      · exact .inl found
  | createProfile | updateProfile =>
    simp only [act] at found
    split at found
    · exact .inl found
    · rw [recorded] at found
      exact .inl found
  | closeSession => exact .inl found
  | ensureDefaultProfile | openSession | parentUnlock | deleteProfile =>
    simp only [act, settled] at found
    exact .inl found

theorem act_held (held : Held hasher sys) (authorized : Bool) (action : Action) :
    Held hasher (act hasher authorized sys action) := by
  have effect := act_effect hasher authorized sys action
  constructor
  · intro id profile found
    obtain ⟨-, given, -⟩ | ⟨old, before, -⟩ := effect_profile effect found
    · exact given
    · exact effect_issued effect (held.known id old before)
  · intro id profile found kids
    obtain ⟨-, -, given, made, pin⟩ | ⟨old, before, follows⟩ := effect_profile effect found
    · obtain ⟨standard, -⟩ | ⟨first, salt, rfl, hash⟩ := made.pin
      · rw [standard] at kids
        cases kids
      · exact ⟨first, salt, hash, pin⟩
    · obtain ⟨hash, pin⟩ | ⟨first, salt, hash, pin⟩ := follows.pin
      · rw [hash, pin]
        exact held.pins id old before (follows.profileType.symm.trans kids)
      · exact ⟨first, salt, hash, pin⟩
  · intro id profile found
    obtain ⟨-, -, given, made, -⟩ | ⟨old, before, follows⟩ := effect_profile effect found
    · rw [made.attempts]
    · exact follows.attempts (held.attempts id old before)
  · intro number call found
    obtain before | ⟨same, profile, row, kind⟩ := act_calls hasher authorized sys action found
    · obtain ⟨given, read⟩ := held.calls number call before
      refine ⟨effect_issued effect given, fun profile now => ?_⟩
      obtain ⟨fresh, -⟩ | ⟨old, row, follows⟩ := effect_profile effect now
      · exact (fresh given).elim
      · exact follows.profileType.trans (read old row)
    · rw [same]
      refine ⟨held.known _ profile row, fun other now => ?_⟩
      cases row.symm.trans now
      exact kind

/-! ## Unlocks -/

/-- A session is known, and an unlock it holds is for the profile it is on. -/
structure Linked (sys : System) : Prop where
  known : ∀ id session, sys.store.sessions.find id = some session → id ∈ sys.store.issued
  active : ∀ id session profileId, sys.store.sessions.find id = some session →
    session.parentUnlockProfileId = some profileId →
      session.activeProfileId = some profileId ∧ profileId ∈ sys.store.issued

/-- What a step leaves of a session that was there before: the row, or less. -/
structure Lessened (old new : Session) : Prop where
  active : new.activeProfileId = old.activeProfileId ∨ new.activeProfileId = none
  unlock : ∀ profileId, new.parentUnlockProfileId = some profileId →
    old.parentUnlockProfileId = some profileId ∧ new.parentUnlockExpiresAt = old.parentUnlockExpiresAt ∧
      (old.activeProfileId = some profileId → new.activeProfileId = some profileId)

theorem Lessened.refl (session : Session) : Lessened session session :=
  ⟨.inl rfl, fun _ held => ⟨held, rfl, fun active => active⟩⟩

theorem relock_lessened (profileId : Uuid) (session : Session) : Lessened session (session.relock profileId) := by
  unfold Session.relock
  split
  · exact ⟨.inl rfl, nofun⟩
  · exact .refl session

theorem forget_lessened (profileId : Uuid) (session : Session) : Lessened session (session.forget profileId) := by
  refine ⟨?_, fun key held => ?_⟩
  · cases active : session.activeProfileId with
    | none => exact .inr (by simp [Session.forget, active])
    | some current =>
      by_cases same : current = profileId
      · exact .inr (by simp [Session.forget, active, same])
      · exact .inl (by simp [Session.forget, active, same])
  · obtain ⟨unlock, other⟩ := Option.filter_eq_some_iff.mp held
    refine ⟨unlock, rfl, fun active => ?_⟩
    simp only [Session.forget, active]
    exact Option.filter_eq_some_iff.mpr ⟨rfl, other⟩

/-- A session behind a step: a new one, one that was switched, one that presented the right
PIN, or what is left of the row before. -/
inductive Turned (hasher : Hasher) (sys : System) (id : Uuid) : Action → Session → Prop
  | opened {action : Action} {session : Session} (fresh : id ∉ sys.store.issued)
      (locked : session.parentUnlockProfileId = none) : Turned hasher sys id action session
  | switched {number : Nat} {call : Switch} {s' : Store} {left : Uuid} {profile : Profile} {session : Session}
      (asked : sys.calls.find number = some call) (own : call.sessionId = id)
      (switched : Switched call sys.store s' left profile session) (other : left ≠ call.profileId) :
      Turned hasher sys id (.switchProfile number) (session.onto left call.profileId)
  | unlocked (evaluated : unlockable ownerUserId id pin sys.store = .ok found)
      (right : hasher.verifyPassword found.2.2.2 pin = true) :
      Turned hasher sys id (.parentUnlock ownerUserId id pin) { found.2.2.1 with
        parentUnlockProfileId := some found.1
        parentUnlockExpiresAt := some (sys.store.now + parentUnlockMinutes) }
  | lessened {action : Action} {old new : Session} (before : sys.store.sessions.find id = some old)
      (less : Lessened old new) : Turned hasher sys id action new

theorem effect_session (effect : Effect hasher authorized sys action s' pins')
    (found : s'.sessions.find id = some session) : Turned hasher sys id action session := by
  cases effect with
  | idle | provided | refused | created | updated => exact .lessened found (.refl session)
  | opened _ key _ _ fresh =>
    rw [Table.find_put] at found
    split at found
    · next same =>
      cases found
      subst same
      exact .opened fresh rfl
    · exact .lessened found (.refl session)
  | closed =>
    rw [Table.find_remove] at found
    split at found
    · cases found
    · exact .lessened found (.refl session)
  | switched number asked switched =>
    next call left profile row =>
    rw [switched.sessions, Table.find_put] at found
    split at found
    · next same =>
      cases found
      by_cases stays : left = call.profileId
      · refine .lessened (same ▸ switched.found) ?_
        rw [Session.onto, if_pos stays]
        exact ⟨.inl rfl, fun _ held => ⟨held, rfl, fun active => active⟩⟩
      · exact .switched asked same.symm switched stays
    · exact .lessened found (.refl session)
  | unlocked ownerUserId key pin evaluated right =>
    rw [Table.find_put] at found
    split at found
    · next same =>
      cases found
      subst same
      exact .unlocked evaluated right
    · exact .lessened found (.refl session)
  | changed =>
    rw [Table.find_amend] at found
    obtain ⟨old, before, rfl⟩ := Option.map_eq_some_iff.mp found
    exact .lessened before (relock_lessened _ _)
  | deleted =>
    rw [Table.find_amend] at found
    obtain ⟨old, before, rfl⟩ := Option.map_eq_some_iff.mp found
    exact .lessened before (forget_lessened _ _)

theorem onto_locked {session : Session} (other : left ≠ profileId) :
    (session.onto left profileId).parentUnlockProfileId = none := by
  rw [Session.onto, if_neg other]

theorem effect_session_known (linked : Linked sys) (effect : Effect hasher authorized sys action s' pins')
    (found : (s'.sessions.find id).isSome = true) : id ∈ s'.issued := by
  by_cases before : (sys.store.sessions.find id).isSome = true
  · obtain ⟨session, row⟩ := Option.isSome_iff_exists.mp before
    exact effect_issued effect (linked.known id session row)
  · obtain ⟨session, row⟩ := Option.isSome_iff_exists.mp found
    cases effect with
    | opened =>
      rw [Table.find_put] at row
      split at row
      · next same => exact List.mem_cons.mpr (.inl same)
      · exact (before (Option.isSome_iff_exists.mpr ⟨session, row⟩)).elim
    | closed =>
      rw [Table.find_remove] at row
      split at row
      · cases row
      · exact (before (Option.isSome_iff_exists.mpr ⟨session, row⟩)).elim
    | switched number asked switched =>
      rw [switched.sessions, Table.find_put] at row
      split at row
      · next same => exact (before (Option.isSome_iff_exists.mpr ⟨_, same ▸ switched.found⟩)).elim
      · exact (before (Option.isSome_iff_exists.mpr ⟨session, row⟩)).elim
    | unlocked _ key _ evaluated =>
      rw [Table.find_put] at row
      split at row
      · next same =>
        exact (before (Option.isSome_iff_exists.mpr ⟨_, same ▸ (unlockable_ok evaluated).session⟩)).elim
      · exact (before (Option.isSome_iff_exists.mpr ⟨session, row⟩)).elim
    | changed | deleted =>
      rw [Table.find_amend, Option.isSome_map] at found
      exact (before found).elim
    | idle | provided | refused | created | updated =>
      exact (before (Option.isSome_iff_exists.mpr ⟨session, row⟩)).elim

theorem act_linked (linked : Linked sys) (held : Held hasher sys) (authorized : Bool) (action : Action) :
    Linked (act hasher authorized sys action) := by
  have effect := act_effect hasher authorized sys action
  refine ⟨fun id session found => ?_, fun id session profileId found unlock => ?_⟩
  · exact effect_session_known linked effect (Option.isSome_iff_exists.mpr ⟨session, found⟩)
  · have given (before : profileId ∈ sys.store.issued) := effect_issued effect before
    cases effect_session effect found with
    | opened _ locked =>
      rw [locked] at unlock
      cases unlock
    | switched _ _ _ other =>
      rw [onto_locked other] at unlock
      cases unlock
    | unlocked evaluated =>
      have facts := unlockable_ok evaluated
      cases unlock
      exact ⟨facts.active, given (held.known _ _ facts.profile)⟩
    | lessened before less =>
      obtain ⟨held, -, stays⟩ := less.unlock profileId unlock
      obtain ⟨active, issued⟩ := linked.active id _ profileId before held
      exact ⟨stays active, given issued⟩

theorem initial_linked : Linked System.initial := by
  constructor
  · intro id session found
    cases found
  · intro id session profileId found
    cases found

theorem advance_held (held : Held hasher sys) (elapsed : Nat) : Held hasher (advance sys elapsed) :=
  ⟨held.known, held.pins, held.attempts, held.calls⟩

theorem advance_linked (linked : Linked sys) (elapsed : Nat) : Linked (advance sys elapsed) :=
  ⟨linked.known, linked.active⟩

/-! ## Along a run -/

theorem run_append (hasher : Hasher) (left right : List Move) :
    run hasher (left ++ right) = right.foldl (next hasher) (run hasher left) := List.foldl_append

theorem run_held (hasher : Hasher) (moves : List Move) :
    Held hasher (run hasher moves) ∧ Linked (run hasher moves) := by
  induction moves using List.reverseRecOn with
  | nil => exact ⟨initial_held hasher, initial_linked⟩
  | append_singleton _ move ih =>
    rw [run_append]
    have held := advance_held ih.1 move.elapsed
    exact ⟨act_held held _ _, act_linked (advance_linked ih.2 move.elapsed) held _ _⟩

/-- The profile a session is on. -/
def System.sessionProfile (sys : System) (id : Uuid) : Option Uuid :=
  (sys.store.sessions.find id).bind Session.activeProfileId

/-- The move sets the PIN of the profile. -/
def setsPin (hasher : Hasher) (id : Uuid) (sys : System) (move : Move) : Bool :=
  match move.action with
  | .createProfile ownerUserId key salt request => key = id && request.parentPin.isSome && move.authorized &&
      (createProfile hasher ownerUserId key salt request (advance sys move.elapsed).store).isOk
  | .updateProfile ownerUserId key salt request => key = id && request.parentPin.isSome && move.authorized &&
      (updateProfile hasher ownerUserId key salt request (advance sys move.elapsed).store).isOk
  | _ => false

/-- The session presented the PIN in force of the profile it was on, and since then neither
has it left the profile nor has the PIN been set again. -/
def Presented (hasher : Hasher) (moves : List Move) (sessionId profileId : Uuid) (expires : Option Time) : Prop :=
  ∃ earlier move ownerUserId pin middle,
    moves = earlier ++ move :: middle ∧ move.action = .parentUnlock ownerUserId sessionId pin ∧
    (run hasher earlier).sessionProfile sessionId = some profileId ∧
    (run hasher earlier).pins.find profileId = some pin ∧
    expires = some ((run hasher earlier).store.now + move.elapsed + parentUnlockMinutes) ∧
    (∀ before after, middle = before ++ after →
      (run hasher (earlier ++ move :: before)).sessionProfile sessionId = some profileId) ∧
    ∀ before change after, middle = before ++ change :: after →
      setsPin hasher profileId (run hasher (earlier ++ move :: before)) change = false

theorem setsPin_locks (linked : Linked sys) (sets : setsPin hasher id sys move = true)
    (found : (next hasher sys move).store.sessions.find key = some session) :
    session.parentUnlockProfileId ≠ some id := by
  unfold setsPin at sets
  split at sets
  · next ownerUserId profileId salt request asked =>
    simp only [Bool.and_eq_true, decide_eq_true_eq] at sets
    obtain ⟨⟨⟨rfl, given⟩, authorized⟩, succeeds⟩ := sets
    cases ran : createProfile hasher ownerUserId profileId salt request (advance sys move.elapsed).store with
    | error => simp [ran, Except.isOk, Except.toBool] at succeeds
    | ok =>
      obtain ⟨fresh, profile, _, rfl⟩ := createProfile_ok ran
      obtain ⟨pin, present⟩ := Option.isSome_iff_exists.mp given
      intro unlock
      have before : (advance sys move.elapsed).store.sessions.find key = some session := by
        simpa [next, asked, act, authorized, require, bind, Except.bind, ran, System.recordPin, present] using found
      exact fresh (linked.active key session profileId before unlock).2
  · next ownerUserId profileId salt request asked =>
    simp only [Bool.and_eq_true, decide_eq_true_eq] at sets
    obtain ⟨⟨⟨rfl, given⟩, authorized⟩, succeeds⟩ := sets
    cases ran : updateProfile hasher ownerUserId profileId salt request (advance sys move.elapsed).store with
    | error => simp [ran, Except.isOk, Except.toBool] at succeeds
    | ok =>
      obtain ⟨pin, present⟩ := Option.isSome_iff_exists.mp given
      obtain ⟨current, name, rating, _, ⟨kept, -⟩ | ⟨other, _, rfl⟩⟩ := updateProfile_ok ran
      · cases kept.symm.trans present
      · have amended : ((advance sys move.elapsed).store.sessions.amend fun _ => Session.relock profileId).find key =
            some session := by
          simpa [next, asked, act, authorized, require, bind, Except.bind, ran, System.recordPin, present] using found
        rw [Table.find_amend] at amended
        obtain ⟨old, _, rfl⟩ := Option.map_eq_some_iff.mp amended
        unfold Session.relock
        split
        · simp
        · assumption
  · cases sets

theorem Presented.later (presented : Presented hasher moves sessionId profileId expires)
    (stays : (run hasher (moves ++ [move])).sessionProfile sessionId = some profileId)
    (kept : setsPin hasher profileId (run hasher moves) move = false) :
    Presented hasher (moves ++ [move]) sessionId profileId expires := by
  obtain ⟨earlier, unlock, ownerUserId, pin, middle, rfl, asked, on, inForce, lasting, active, unchanged⟩ := presented
  have shape : earlier ++ unlock :: middle ++ [move] = earlier ++ unlock :: (middle ++ [move]) := by simp
  refine ⟨earlier, unlock, ownerUserId, pin, middle ++ [move], shape, asked, on, inForce, lasting, ?_, ?_⟩
  · intro before after split
    rcases List.eq_nil_or_concat after with rfl | ⟨rest, last, rfl⟩
    · rw [List.append_nil] at split
      rw [← split, ← shape]
      exact stays
    · rw [List.concat_eq_append, ← List.append_assoc] at split
      exact active before rest (List.append_inj_left' split rfl)
  · intro before change after split
    rcases List.eq_nil_or_concat after with rfl | ⟨rest, last, rfl⟩
    · obtain ⟨rfl, same⟩ := List.append_inj' split rfl
      obtain rfl := List.singleton_inj.mp same
      exact kept
    · have front : middle = before ++ change :: rest := by
        have regrouped : middle ++ [move] = (before ++ change :: rest) ++ [last] := by simpa using split
        exact List.append_inj_left' regrouped rfl
      exact unchanged before change rest front

theorem unlock_presented (sound : hasher.Sound) (moves : List Move)
    (found : (run hasher moves).store.sessions.find sessionId = some session)
    (unlock : session.parentUnlockProfileId = some profileId) :
    Presented hasher moves sessionId profileId session.parentUnlockExpiresAt := by
  induction moves using List.reverseRecOn generalizing session with
  | nil => cases found
  | append_singleton moves move ih =>
    obtain ⟨held, linked⟩ := run_held hasher moves
    have after := (run_held hasher (moves ++ [move])).2
    have on : (run hasher (moves ++ [move])).sessionProfile sessionId = some profileId := by
      rw [System.sessionProfile, found]
      exact (after.active sessionId session profileId found unlock).1
    have stepped := found
    rw [run_append] at stepped
    have kept : setsPin hasher profileId (run hasher moves) move = false := by
      by_contra sets
      exact setsPin_locks linked (Bool.not_eq_false _ |>.mp sets) stepped unlock
    have effect := act_effect hasher move.authorized (advance (run hasher moves) move.elapsed) move.action
    have turned := effect_session effect stepped
    generalize asked : move.action = action at turned
    cases turned with
    | opened _ locked =>
      rw [locked] at unlock
      cases unlock
    | switched _ _ _ other =>
      rw [onto_locked other] at unlock
      cases unlock
    | unlocked evaluated right =>
      next ownerUserId pin evaluation =>
      have facts := unlockable_ok evaluated
      cases unlock
      obtain ⟨first, salt, hash, inForce⟩ := held.pins _ _ facts.profile facts.kids
      have same : pin = first := by
        have hashed : evaluation.2.2.2 = hasher.hashPassword first salt :=
          Option.some.inj (facts.hash.symm.trans hash)
        rw [hashed] at right
        exact (sound first salt pin).mp right
      subst same
      refine ⟨moves, move, ownerUserId, pin, [], rfl, asked, ?_, inForce, rfl, ?_, ?_⟩
      · have row : (run hasher moves).store.sessions.find sessionId = some evaluation.2.2.1 := facts.session
        rw [System.sessionProfile, row]
        exact facts.active
      · intro before after split
        obtain ⟨rfl, -⟩ := List.append_eq_nil_iff.mp split.symm
        exact on
      · intro before change after split
        simp at split
    | lessened before less =>
      obtain ⟨earlierUnlock, expires, -⟩ := less.unlock profileId unlock
      rw [expires]
      exact (ih before earlierUnlock).later on kept

/-- The row of a profile that the session is on, or goes to. -/
def System.onType (sys : System) (sessionId profileId : Uuid) (profileType : ProfileType) : Prop :=
  sys.sessionProfile sessionId = some profileId ∧
    (sys.store.profiles.find profileId).map Profile.profileType = some profileType

theorem leaves_unlocked (held : Held hasher sys) (linked : Linked sys)
    (before : sys.onType sessionId kids .kids) (after : (next hasher sys move).onType sessionId standard .standard) :
    ∃ session expires, sys.store.sessions.find sessionId = some session ∧
      session.parentUnlockProfileId = some kids ∧ session.parentUnlockExpiresAt = some expires ∧
        sys.store.now + move.elapsed < expires := by
  obtain ⟨on, kind⟩ := before
  obtain ⟨row, found, active⟩ := Option.bind_eq_some_iff.mp on
  obtain ⟨profile, foundProfile, profileKids⟩ := Option.map_eq_some_iff.mp kind
  obtain ⟨onto, ontoKind⟩ := after
  obtain ⟨new, foundNew, nowActive⟩ := Option.bind_eq_some_iff.mp onto
  obtain ⟨target, foundTarget, standardTarget⟩ := Option.map_eq_some_iff.mp ontoKind
  have effect := act_effect hasher move.authorized (advance sys move.elapsed) move.action
  have given : kids ∈ sys.store.issued := held.known kids profile foundProfile
  -- A profile does not change its type, so the session has come to another one.
  have other : kids ≠ standard := by
    rintro rfl
    obtain ⟨fresh, -⟩ | ⟨old, earlier, follows⟩ := effect_profile effect foundTarget
    · exact fresh given
    · cases foundProfile.symm.trans earlier
      rw [follows.profileType, profileKids] at standardTarget
      cases standardTarget
  have turned := effect_session effect foundNew
  generalize move.action = action at turned
  cases turned with
  | opened fresh => exact (fresh (linked.known sessionId row found)).elim
  | switched asked own switched moved =>
    next number call s' left leftProfile session =>
    subst own
    have sameRow : session = row := Option.some.inj (switched.found.symm.trans found)
    subst sameRow
    have sameLeft : left = kids := Option.some.inj (switched.active.symm.trans active)
    subst sameLeft
    have sameProfile : leftProfile = profile := Option.some.inj (switched.held.symm.trans foundProfile)
    subst sameProfile
    have reaches : call.profileId = standard := by
      rw [Session.onto, if_neg moved] at nowActive
      exact Option.some.inj nowActive
    subst reaches
    obtain ⟨issued, read⟩ := held.calls number call asked
    have readStandard : call.profileType = .standard := by
      obtain ⟨fresh, -⟩ | ⟨old, earlier, follows⟩ := effect_profile effect foundTarget
      · exact (fresh issued).elim
      · exact (read old earlier).symm.trans (follows.profileType.symm.trans standardTarget)
    obtain ⟨pin, salt, hash, -⟩ := held.pins left leftProfile foundProfile profileKids
    have free := switched.free
    simp only [unlockMissing, moved, ne_eq, not_false_eq_true, decide_true, profileKids, readStandard, hash,
      Option.isSome_some, Bool.and_self, Bool.true_and, Bool.or_eq_false_iff, decide_eq_false_iff_not, not_not] at free
    obtain ⟨unlock, lasting⟩ := free
    cases expiry : session.parentUnlockExpiresAt with
    | none => simp [expiry] at lasting
    | some expires =>
      rw [expiry, Option.all_some, decide_eq_false_iff_not, Int.not_le] at lasting
      exact ⟨session, expires, found, unlock, expiry, lasting⟩
  | unlocked evaluated =>
    have facts := unlockable_ok evaluated
    cases facts.session.symm.trans found
    exact (other (Option.some.inj (active.symm.trans nowActive))).elim
  | lessened earlier less =>
    cases earlier.symm.trans found
    obtain same | gone := less.active
    · exact (other (Option.some.inj (active.symm.trans (same.symm.trans nowActive)))).elim
    · cases gone.symm.trans nowActive

/-! ## Wrong PINs -/

/-- Whether the PIN a move presents for the profile is right, if it presents one that is
compared. -/
def evaluates (hasher : Hasher) (id : Uuid) (sys : System) (move : Move) : Option Bool :=
  match move.action with
  | .parentUnlock ownerUserId sessionId pin =>
    match unlockable ownerUserId sessionId pin (advance sys move.elapsed).store with
    | .error _ => none
    | .ok found => if found.1 = id then some (hasher.verifyPassword found.2.2.2 pin) else none
  | _ => none

def wrongPin (hasher : Hasher) (id : Uuid) (sys : System) (move : Move) : Bool :=
  evaluates hasher id sys move = some false

/-- The move falls into the fifteen minutes from `start`, sets no PIN of the profile and
presents no right one. -/
def Quiet (hasher : Hasher) (id : Uuid) (start : Time) (sys : System) (move : Move) : Prop :=
  start ≤ sys.store.now + move.elapsed ∧ sys.store.now + move.elapsed < start + parentPinLockoutMinutes ∧
    setsPin hasher id sys move = false ∧ evaluates hasher id sys move ≠ some true

instance (hasher : Hasher) (id : Uuid) (start : Time) (sys : System) (move : Move) :
    Decidable (Quiet hasher id start sys move) :=
  inferInstanceAs (Decidable (_ ∧ _ ∧ _ ∧ _))

/-- The wrong PINs a profile lets pass before the instant. -/
def Profile.wrongPinsLeft (until' : Time) (profile : Profile) : Nat :=
  if profile.parentPinLockedUntil.any (until' ≤ ·) then 0
  else max 1 (parentPinMaxAttempts - profile.parentPinFailedAttempts).toNat

def wrongPinsLeft (id : Uuid) (until' : Time) (s : Store) : Nat :=
  match s.profiles.find id with
  | none => if id ∈ s.issued then 0 else 5
  | some profile => profile.wrongPinsLeft until'

theorem wrongPinsLeft_le (held : Held hasher sys) (id : Uuid) (until' : Time) :
    wrongPinsLeft id until' sys.store ≤ 5 := by
  unfold wrongPinsLeft
  split
  · split <;> omega
  · next profile found =>
    have counted := held.attempts id profile found
    unfold Profile.wrongPinsLeft parentPinMaxAttempts
    split
    · omega
    · omega

theorem wrongPinsLeft_same {s s' : Store} (profile : s'.profiles.find id = s.profiles.find id)
    (issued : id ∈ s.issued → id ∈ s'.issued) (until' : Time) :
    wrongPinsLeft id until' s' ≤ wrongPinsLeft id until' s := by
  unfold wrongPinsLeft
  rw [profile]
  split
  · by_cases given : id ∈ s.issued
    · simp [issued given]
    · rw [if_neg given]
      split <;> omega
  · exact Nat.le_refl _

theorem failed_left {profile : Profile} (after : start ≤ now)
    (within : now < start + parentPinLockoutMinutes) (free : profile.parentPinLockedUntil.any (now < ·) = false) :
    1 + (profile.failed now).wrongPinsLeft (start + parentPinLockoutMinutes) ≤
      profile.wrongPinsLeft (start + parentPinLockoutMinutes) := by
  have unlocked : profile.parentPinLockedUntil.any (start + parentPinLockoutMinutes ≤ ·) = false := by
    cases lock : profile.parentPinLockedUntil with
    | none => rfl
    | some =>
      rw [lock, Option.any_some, decide_eq_false_iff_not] at free
      rw [Option.any_some, decide_eq_false_iff_not]
      intro reaches
      exact free (lt_of_lt_of_le within reaches)
  by_cases full : parentPinMaxAttempts ≤ min (profile.parentPinFailedAttempts + 1) 32767
  · have lock : (profile.failed now).parentPinLockedUntil = some (now + parentPinLockoutMinutes) := if_pos full
    have reaches : start + parentPinLockoutMinutes ≤ now + parentPinLockoutMinutes := Int.add_le_add_right after _
    simp only [Profile.wrongPinsLeft, lock, unlocked, Option.any_some, reaches, decide_true, if_true]
    simp
  · have lock : (profile.failed now).parentPinLockedUntil = none := if_neg full
    have counted : (profile.failed now).parentPinFailedAttempts = min (profile.parentPinFailedAttempts + 1) 32767 := rfl
    simp only [Profile.wrongPinsLeft, lock, counted, unlocked, Option.any_none, Bool.false_eq_true, if_false]
    unfold parentPinMaxAttempts at full ⊢
    omega

theorem wrongPin_cases (wrong : wrongPin hasher id sys move = true) :
    ∃ ownerUserId sessionId pin found, move.action = .parentUnlock ownerUserId sessionId pin ∧
      unlockable ownerUserId sessionId pin (advance sys move.elapsed).store = .ok found ∧ found.1 = id ∧
        hasher.verifyPassword found.2.2.2 pin = false := by
  have judged := of_decide_eq_true wrong
  unfold evaluates at judged
  split at judged
  · next ownerUserId sessionId pin asked =>
    split at judged
    · cases judged
    · next found evaluated =>
      split at judged
      · next own => exact ⟨ownerUserId, sessionId, pin, found, asked, evaluated, own, Option.some.inj judged⟩
      · cases judged
  · cases judged

/-- A wrong PIN uses up one of those that are left; nothing else adds any. -/
theorem wrongPin_spends (held : Held hasher sys) (quiet : Quiet hasher id start sys move) :
    (wrongPin hasher id sys move).toNat +
        wrongPinsLeft id (start + parentPinLockoutMinutes) (next hasher sys move).store ≤
      wrongPinsLeft id (start + parentPinLockoutMinutes) sys.store := by
  obtain ⟨after, within, unset, unright⟩ := quiet
  cases wrong : wrongPin hasher id sys move with
  | true =>
    obtain ⟨ownerUserId, sessionId, pin, found, asked, evaluated, rfl, refused⟩ := wrongPin_cases wrong
    have facts := unlockable_ok evaluated
    have stored : (next hasher sys move).store.profiles =
        sys.store.profiles.put found.1 (found.2.1.failed (sys.store.now + move.elapsed)) := by
      simp only [next, asked, act, parentUnlock, evaluated, refused, bind, Except.bind, Except.map, pure, Except.pure,
        Bool.false_eq_true, if_false, System.settle]
      rfl
    have before : sys.store.profiles.find found.1 = some found.2.1 := facts.profile
    have spent := failed_left after within facts.unlocked
    simp only [wrongPinsLeft, stored, Table.find_put_self, before, Bool.toNat_true]
    exact spent
  | false =>
    rw [Bool.toNat_false, Nat.zero_add]
    have effect := act_effect hasher move.authorized (advance sys move.elapsed) move.action
    have grows (given : id ∈ sys.store.issued) : id ∈ (next hasher sys move).store.issued := effect_issued effect given
    have same (kept : (next hasher sys move).store.profiles.find id = sys.store.profiles.find id) :=
      wrongPinsLeft_same kept grows (start + parentPinLockoutMinutes)
    have fresh {profile : Profile} {given : Option (List Char)} {store : Store} (new : id ∉ sys.store.issued)
        (made : Made hasher given profile) (row : store.profiles.find id = some profile) :
        wrongPinsLeft id (start + parentPinLockoutMinutes) store ≤
          wrongPinsLeft id (start + parentPinLockoutMinutes) sys.store := by
      have absent : sys.store.profiles.find id = none := by
        by_contra present
        obtain ⟨old, found⟩ := Option.ne_none_iff_exists'.mp present
        exact new (held.known id old found)
      simp [wrongPinsLeft, row, absent, new, Profile.wrongPinsLeft, made.unlocked, made.attempts, parentPinMaxAttempts]
    have stands {key : Uuid} {profile : Profile} (other : id ≠ key)
        (row : (next hasher sys move).store.profiles = sys.store.profiles.put key profile) :
        (next hasher sys move).store.profiles.find id = sys.store.profiles.find id := by
      rw [row, Table.find_put_ne other]
    have final : (next hasher sys move).store =
        (act hasher move.authorized (advance sys move.elapsed) move.action).store := rfl
    generalize asked : move.action = action at effect final
    generalize (act hasher move.authorized (advance sys move.elapsed) action).store = store at effect final
    generalize (act hasher move.authorized (advance sys move.elapsed) action).pins = pins at effect
    cases effect with
    | idle | opened | closed => exact same (by rw [final]; rfl)
    | switched _ _ switched => exact same (by rw [final, switched.profiles]; rfl)
    | provided _ key _ _ new made | created _ key _ _ _ new made =>
      by_cases own : id = key
      · subst own
        rw [final]
        exact fresh new made (Table.find_put_self _ _ _)
      · exact same (stands own (by rw [final]; rfl))
    | refused _ _ _ evaluated judged =>
      next found =>
      by_cases own : id = found.1
      · subst own
        have judgedWrong : wrongPin hasher found.1 sys move = true := by
          simp [wrongPin, evaluates, asked, evaluated, judged]
        rw [wrong] at judgedWrong
        cases judgedWrong
      · exact same (stands own (by rw [final]; rfl))
    | unlocked _ _ _ evaluated judged =>
      next found =>
      by_cases own : id = found.1
      · subst own
        exact (unright (by simp [evaluates, asked, evaluated, judged])).elim
      · exact same (stands own (by rw [final]; rfl))
    | updated _ key _ _ name rating found =>
      next current _ =>
      by_cases own : id = key
      · subst own
        have before : sys.store.profiles.find id = some current := found
        have left : (current.update name rating none).wrongPinsLeft (start + parentPinLockoutMinutes) =
            current.wrongPinsLeft (start + parentPinLockoutMinutes) := rfl
        simp only [wrongPinsLeft, final, Table.find_put_self, before, left]
        exact Nat.le_refl _
      · exact same (stands own (by rw [final]; rfl))
    | changed _ key _ _ _ _ _ given allowed done =>
      by_cases own : id = key
      · subst own
        have sets : setsPin hasher id sys move = true := by simp [setsPin, asked, given, allowed, done]
        rw [sets] at unset
        cases unset
      · exact same (stands own (by rw [final]; rfl))
    | deleted _ key found =>
      by_cases own : id = key
      · subst own
        obtain ⟨profile, row⟩ := Option.isSome_iff_exists.mp found
        have given : id ∈ (next hasher sys move).store.issued := grows (held.known id profile row)
        have gone : (next hasher sys move).store.profiles.find id = none := by
          rw [final, Table.find_remove, if_pos rfl]
        rw [wrongPinsLeft, gone]
        simp [given]
      · exact same (by rw [final, Table.find_remove, if_neg own]; rfl)

theorem wrongPins_bounded (moves span : List Move) (id : Uuid) (start : Time)
    (quiet : Throughout (next hasher) (Quiet hasher id start) (run hasher moves) span) :
    occurrences (next hasher) (wrongPin hasher id) (run hasher moves) span ≤ 5 := by
  have held := (run_held hasher moves).1
  have bound : occurrences (next hasher) (wrongPin hasher id) (run hasher moves) span ≤ _ :=
    occurrences_le_potential (fun sys : System => wrongPinsLeft id (start + parentPinLockoutMinutes) sys.store)
      (fun sys move _ (held : Held hasher sys) => act_held (advance_held held move.elapsed) _ _)
      (fun _ _ quiet held => wrongPin_spends held quiet) held quiet
  exact bound.trans (wrongPinsLeft_le held id _)

/-- A session leaves a kids profile for a standard one only within ten minutes of presenting
the PIN in force of that profile, with no switch and no new PIN between; and in fifteen
minutes without a new or a right PIN at most five wrong ones are compared. -/
theorem kids_profile_boundary (hasher : Hasher) (sound : hasher.Sound) :
    (∀ moves move sessionId kids standard, (run hasher moves).onType sessionId kids .kids →
      (run hasher (moves ++ [move])).onType sessionId standard .standard →
        ∃ expires, Presented hasher moves sessionId kids (some expires) ∧
          (run hasher moves).store.now + move.elapsed < expires) ∧
    ∀ moves span id start, Throughout (next hasher) (Quiet hasher id start) (run hasher moves) span →
      occurrences (next hasher) (wrongPin hasher id) (run hasher moves) span ≤ 5 := by
  refine ⟨fun moves move sessionId kids standard before after => ?_, wrongPins_bounded⟩
  obtain ⟨held, linked⟩ := run_held hasher moves
  rw [run_append] at after
  obtain ⟨session, expires, found, unlock, expiry, within⟩ := leaves_unlocked held linked before after
  have presented := unlock_presented sound moves found unlock
  rw [expiry] at presented
  exact ⟨expires, presented, within⟩

end

/-! ### An evening with a tablet -/

namespace Sample

def phc : List Char := "$argon2id$v=19$m=19456,t=2,p=1$".toList

/-- A hasher whose strings fit one PIN each. -/
def hasher : Hasher where
  hashPassword pin _ := String.ofList (phc ++ pin)
  verifyPassword hash pin := hash = String.ofList (phc ++ pin)

/-- A household with a default and a kids profile, and a session on the kids profile. -/
def household : List Move := [
  { action := .ensureDefaultProfile 1 10 "Family".toList },
  { action := .createProfile 1 20 "salt" ⟨"Kids".toList, some "kids", none, some "482916".toList⟩ },
  { action := .openSession 1 30 20 false }]

def present (pin : String) : Move := { elapsed := 1000, action := .parentUnlock 1 30 pin.toList }

/-- The right PIN, and the target of the switch is read. -/
def unlocked : List Move :=
  household ++ [present "482916", { elapsed := 1000, action := .readTarget 0 1 30 none 10 none }]

def leave : Move := { elapsed := 1000, action := .switchProfile 0 }

end Sample

theorem tablet_evening : Sample.hasher.Sound ∧
    (run Sample.hasher Sample.unlocked).onType 30 20 .kids ∧
    (run Sample.hasher (Sample.unlocked ++ [Sample.leave])).onType 30 10 .standard ∧
    (∃ expires, Presented Sample.hasher Sample.unlocked 30 20 (some expires) ∧
      (run Sample.hasher Sample.unlocked).store.now + Sample.leave.elapsed < expires) ∧
    occurrences (next Sample.hasher) (wrongPin Sample.hasher 20) (run Sample.hasher Sample.household)
      (List.replicate 9 (Sample.present "482917")) ≤ 5 := by
  have sound : Sample.hasher.Sound := by
    intro pin salt other
    simp only [Sample.hasher, decide_eq_true_eq, String.ofList_inj, List.append_cancel_left_eq]
    exact eq_comm
  have kids : (run Sample.hasher Sample.unlocked).onType 30 20 .kids := by
    constructor <;> decide +kernel
  have standard : (run Sample.hasher (Sample.unlocked ++ [Sample.leave])).onType 30 10 .standard := by
    constructor <;> decide +kernel
  have boundary := kids_profile_boundary Sample.hasher sound
  exact ⟨sound, kids, standard, boundary.1 _ _ _ _ _ kids standard, boundary.2 _ _ 20 0 (by decide +kernel)⟩

end Duskcue.Profiles
