import Duskcue.DeviceLinking

/-! What the shared statements of the auth domain do to the store when they succeed,
and when they do succeed. `Apart` says that two stores differ at most in their
profiles, their sessions and the faults still to come. -/
namespace Duskcue.Auth
open Playback (Uuid Time second)
open Transaction

/-- The tables that opening a session leaves alone. -/
structure Apart (s s' : Store) : Prop where
  users : s'.users = s.users
  userCapabilities : s'.userCapabilities = s.userCapabilities
  invitations : s'.invitations = s.invitations
  deviceLinkingCodes : s'.deviceLinkingCodes = s.deviceLinkingCodes
  issued : s'.issued = s.issued
  config : s'.config = s.config
  now : s'.now = s.now

theorem Apart.trans (first : Apart s t) (second : Apart t u) : Apart s u :=
  ⟨second.users.trans first.users, second.userCapabilities.trans first.userCapabilities,
    second.invitations.trans first.invitations, second.deviceLinkingCodes.trans first.deviceLinkingCodes,
    second.issued.trans first.issued, second.config.trans first.config, second.now.trans first.now⟩

variable {s s' : Store} {u : Unit}

theorem statement_yields (ran : Yields statement s u s') : ∃ faults, s' = { s with faults } := by
  unfold statement at ran
  simp only [yields_get_bind] at ran
  split at ran
  · obtain ⟨-, rfl⟩ := yields_pure.mp ran
    exact ⟨_, rfl⟩
  · simp only [yields_bind, yields_set, yields_ensure] at ran
    obtain ⟨_, middle, rfl, -, rfl⟩ := ran
    exact ⟨_, rfl⟩

/-- Where the database fails nothing, a statement is carried out. -/
theorem statement_bind {α : Type} {next : Unit → Tx α} {post : α → Store → Prop} (clear : s.faults = [])
    (rest : Succeeds (next ()) s post) : Succeeds (statement >>= next) s post := by
  have ran : Yields statement s () s := by simp [statement, clear]
  have first : Succeeds statement s fun _ t => t = s := ⟨(), s, ran, rfl⟩
  refine first.bind ?_
  rintro - _ - rfl
  exact rest

theorem require_yields {failure : SqlFailure} :
    Yields (require condition failure) s u s' ↔ condition = true ∧ s' = s := yields_ensure

/-! ## Sessions -/

theorem ensureDefaultProfile_yields (ran : Yields (ensureDefaultProfileOnConnection user fresh) s profile s') :
    Apart s s' ∧ s'.userSessions = s.userSessions := by
  unfold ensureDefaultProfileOnConnection at ran
  simp only [yields_bind, yields_get] at ran
  obtain ⟨_, first, looked, _, _, ⟨rfl, rfl⟩, ran⟩ := ran
  obtain ⟨faults, rfl⟩ := statement_yields looked
  split at ran
  · obtain ⟨-, rfl⟩ := yields_pure.mp ran
    exact ⟨by constructor <;> rfl, rfl⟩
  · simp only [yields_bind, yields_demand, require_yields, yields_modify, yields_pure] at ran
    obtain ⟨_, _, named, account, _, ⟨-, rfl⟩, _, _, inserted, _, _, ⟨-, rfl⟩, _, _, ⟨-, rfl⟩, _, _, rfl, -, rfl⟩ := ran
    obtain ⟨more, rfl⟩ := statement_yields named
    obtain ⟨rest, rfl⟩ := statement_yields inserted
    exact ⟨by constructor <;> rfl, rfl⟩

theorem rememberedProfile_yields (ran : Yields (rememberedProfileForDeviceOnConnection user deviceId) s profile s') :
    Apart s s' ∧ s'.userSessions = s.userSessions := by
  unfold rememberedProfileForDeviceOnConnection at ran
  split at ran
  · obtain ⟨-, rfl⟩ := yields_pure.mp ran
    exact ⟨by constructor <;> rfl, rfl⟩
  · simp only [yields_bind, yields_get, yields_pure] at ran
    obtain ⟨_, _, looked, _, _, ⟨rfl, rfl⟩, -, rfl⟩ := ran
    obtain ⟨faults, rfl⟩ := statement_yields looked
    exact ⟨by constructor <;> rfl, rfl⟩

/-- A session has been opened for the user. -/
structure Opened (s s' : Store) (user sessionId : Uuid) (session : UserSession) : Prop where
  apart : Apart s s'
  userId : session.userId = user
  createdAt : session.createdAt = s.now
  absent : s.userSessions.find sessionId = none
  inserted : s'.userSessions = s.userSessions.put sessionId session
  present : (s.users.find user).isSome = true

theorem createSession_yields {user : Uuid}
    (ran : Yields (createSessionOnConnection sha256Hex user device draw) s session s') :
    Opened s s' user draw.sessionId session := by
  unfold createSessionOnConnection at ran
  simp only [yields_bind, yields_get, require_yields, yields_modify, yields_pure] at ran
  obtain ⟨profile, a, ensured, remembered, b, looked, _, c, counted, _, _, ⟨rfl, rfl⟩, _, d, inserts, _, _, ⟨present, rfl⟩,
    _, _, ⟨free, rfl⟩, _, _, ⟨-, rfl⟩, _, _, rfl, rfl, rfl⟩ := ran
  obtain ⟨apart₁, same₁⟩ := ensureDefaultProfile_yields ensured
  obtain ⟨apart₂, same₂⟩ := rememberedProfile_yields looked
  obtain ⟨faults, rfl⟩ := statement_yields counted
  obtain ⟨rest, rfl⟩ := statement_yields inserts
  have apart := apart₁.trans apart₂
  refine ⟨⟨apart.users, apart.userCapabilities, apart.invitations, apart.deviceLinkingCodes, apart.issued,
    apart.config, apart.now⟩, rfl, apart.now, ?_, ?_, ?_⟩
  · rw [← same₁, ← same₂]
    simpa using free
  · rw [← same₁, ← same₂]
  · rw [← apart.users]
    exact present

theorem resolveCapabilities_yields (ran : Yields (resolveCapabilities user role) s capabilities s') :
    Apart s s' ∧ s'.userSessions = s.userSessions := by
  unfold resolveCapabilities at ran
  rw [yields_ite] at ran
  rcases ran with ⟨-, ran⟩ | ⟨-, ran⟩
  · obtain ⟨-, rfl⟩ := yields_pure.mp ran
    exact ⟨by constructor <;> rfl, rfl⟩
  · simp only [yields_bind, yields_get, yields_pure] at ran
    obtain ⟨_, _, looked, _, _, ⟨rfl, rfl⟩, -, rfl⟩ := ran
    obtain ⟨faults, rfl⟩ := statement_yields looked
    exact ⟨by constructor <;> rfl, rfl⟩

/-! ## When a session can be opened -/

/-- An account with a default profile or a name for one, and values drawn for the
session that nobody has. -/
structure Openable (sha256Hex : String → String) (s : Store) (user : Uuid) (draw : Draw) : Prop where
  account : ∃ account, s.users.find user = some account ∧
    (s.userProfiles.select (fun _ profile => profile.ownerUserId = user && profile.isDefault) ≠ [] ∨
      profileNameValid account.displayName = true ∧ s.userProfiles.find draw.profileId = none)
  session : s.userSessions.find draw.sessionId = none
  token : (s.userSessions.holds fun _ other => other.tokenHash = sha256Hex draw.token) = false

/-- The same of an active account. -/
structure InOrder (sha256Hex : String → String) (s : Store) (user : Uuid) (draw : Draw) : Prop
    extends Openable sha256Hex s user draw where
  active : ∀ account, s.users.find user = some account → account.deletedAt = none ∧ account.status = .active

section
variable {sha256Hex : String → String} {user : Uuid} {draw : Draw}

theorem ensureDefaultProfile_succeeds (clear : s.faults = []) (order : Openable sha256Hex s user draw) :
    Succeeds (ensureDefaultProfileOnConnection user draw.profileId) s fun _ t => t.faults = [] := by
  obtain ⟨account, found, profiles⟩ := order.account
  refine statement_bind clear (.get_bind ?_)
  cases held : s.userProfiles.select fun _ profile => profile.ownerUserId = user && profile.isDefault with
  | cons => exact .pure clear
  | nil =>
    obtain ⟨named, free⟩ := profiles.resolve_left fun some => some held
    refine statement_bind clear (.demand_bind found (statement_bind clear ?_))
    refine .ensure_bind named (.ensure_bind (by simp [free]) (.modify_bind ?_))
    exact .pure clear

theorem rememberedProfile_succeeds (clear : s.faults = []) (deviceId : Option String) :
    Succeeds (rememberedProfileForDeviceOnConnection user deviceId) s fun _ t => t.faults = [] := by
  unfold rememberedProfileForDeviceOnConnection
  split
  · exact .pure clear
  · exact statement_bind clear (.get_bind (.pure clear))

theorem createSession_succeeds (clear : s.faults = []) (order : Openable sha256Hex s user draw) (device : DeviceInfo) :
    Succeeds (createSessionOnConnection sha256Hex user device draw) s fun _ t => t.faults = [] := by
  obtain ⟨account, found, -⟩ := order.account
  refine .bind (ensureDefaultProfile_succeeds clear order) fun profile a ensured calm => ?_
  obtain ⟨apart, sessions⟩ := ensureDefaultProfile_yields ensured
  refine .bind (rememberedProfile_succeeds calm device.deviceId) fun remembered b looked calm => ?_
  obtain ⟨apart', sessions'⟩ := rememberedProfile_yields looked
  have same : b.userSessions = s.userSessions := sessions'.trans sessions
  refine statement_bind calm (.get_bind (statement_bind calm ?_))
  refine .ensure_bind ?_ (.ensure_bind ?_ (.ensure_bind ?_ (.modify_bind (.pure calm))))
  · rw [apart'.users, apart.users, found]
    rfl
  · rw [same, order.session]
    rfl
  · rw [same, order.token]
    rfl

theorem resolveCapabilities_succeeds (clear : s.faults = []) (user : Uuid) (role : Role) :
    Succeeds (resolveCapabilities user role) s fun _ t => t.faults = [] := by
  unfold resolveCapabilities
  split
  · exact .pure clear
  · exact statement_bind clear (.get_bind (.pure clear))

end

end Duskcue.Auth
