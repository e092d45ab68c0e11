import Duskcue.AuthSteps
import Duskcue.Invitations
import Duskcue.Trace

/-! How often an invitation is used. `Progress` is everything the statements of a
call can do, with what they made sure of. The address of an account is unique,
so a code creates one account at most on every run. The number of sessions is
bounded, and an error leaves nothing behind, in the runs that are `Orderly`: a
call reads the invitation while there is room for it beside the calls that have
yet to count their use, and no statement behind the first write of a call
fails. -/
namespace Duskcue.Auth
open Playback (Uuid Time second)
open Transaction

variable {id : Uuid} {sys : InviteSystem}

variable {sha256Hex : String → String} {s s' : Store}

/-- The tables an unsuccessful call must leave alone. -/
structure Unwritten (s s' : Store) : Prop where
  users : s'.users = s.users
  userCapabilities : s'.userCapabilities = s.userCapabilities
  invitations : s'.invitations = s.invitations

theorem Apart.unwritten (apart : Apart s s') : Unwritten s s' :=
  ⟨apart.users, apart.userCapabilities, apart.invitations⟩

/-- An update of the invitation, if it is still there. -/
def Amended (s s' : Store) (id : Uuid) (f : Invitation → Invitation) : Prop :=
  s'.invitations = (s.invitations.find id).elim s.invitations fun row => s.invitations.put id (f row)

/-- What the next statement of a call does when it succeeds. -/
inductive Progress (sha256Hex : String → String) (draw : InviteDraw) (s s' : Store) : Phase → Phase → Prop
  | used {code id invitation user} (found : findInvitation s (sha256Hex code) = some (id, invitation))
      (unrevoked : invitation.isRevoked = false) (room : invitation.useCount < invitation.maxUses)
      (kept : Unwritten s s') : Progress sha256Hex draw s s' (.reading code) (.counting id user false)
  | unused {code id invitation} (found : findInvitation s (sha256Hex code) = some (id, invitation))
      (unrevoked : invitation.isRevoked = false) (room : invitation.useCount < invitation.maxUses)
      (kept : Unwritten s s') : Progress sha256Hex draw s s' (.reading code) (.inserting id invitation)
  | inserted {id invitation} (user : User) (email : user.email = some invitation.email)
      (absent : s.users.find draw.userId = none)
      (free : (s.users.holds fun _ user => user.email = some invitation.email) = false)
      (users : s'.users = s.users.put draw.userId user) (invitations : s'.invitations = s.invitations) :
      Progress sha256Hex draw s s' (.inserting id invitation) (.granting id draw.userId invitation.capabilities)
  | granted {id user capability capabilities} (users : s'.users = s.users)
      (invitations : s'.invitations = s.invitations) :
      Progress sha256Hex draw s s' (.granting id user (capability :: capabilities)) (.granting id user capabilities)
  | linked {id user} (users : s'.users = s.users)
      (amended : Amended s s' id fun row => { row with userId := some user }) :
      Progress sha256Hex draw s s' (.granting id user []) (.counting id user true)
  | counted {id user created} (users : s'.users = s.users)
      (amended : Amended s s' id fun row => { row with useCount := row.useCount + 1 }) :
      Progress sha256Hex draw s s' (.counting id user created) (.opening id user)
  | opened {id user session} (present : (s.users.find user).isSome = true) (kept : Unwritten s s') :
      Progress sha256Hex draw s s' (.opening id user) (.fetching id user session)
  | fetched {id user session account} (kept : Unwritten s s') :
      Progress sha256Hex draw s s' (.fetching id user session) (.resolving id user session account)
  | resolved {id user session account summary} (kept : Unwritten s s') :
      Progress sha256Hex draw s s' (.resolving id user session account) (.answered summary)
  | ended (past : phase.ended = true ∨ phase = .stopped) (kept : Unwritten s s') :
      Progress sha256Hex draw s s' phase phase

theorem updateInvitation_yields (ran : Yields (updateInvitation id f) s u s') :
    s' = { s with invitations := (s.invitations.find id).elim s.invitations fun row => s.invitations.put id (f row) } := by
  unfold updateInvitation at ran
  simp only [yields_get_bind] at ran
  cases found : s.invitations.find id with
  | none =>
    rw [found] at ran
    exact (yields_pure.mp ran).2
  | some =>
    rw [found] at ran
    exact yields_modify.mp ran

section
variable {draw : InviteDraw} {device : DeviceInfo} {phase phase' : Phase}

theorem readInvitation_yields (ran : Yields (readInvitation sha256Hex code) s phase' s') :
    Progress sha256Hex draw s s' (.reading code) phase' := by
  unfold readInvitation at ran
  simp only [yields_bind, yields_get, yields_demand, yields_ensure] at ran
  obtain ⟨_, _, reads, _, _, ⟨rfl, rfl⟩, ⟨id, invitation⟩, _, ⟨found, rfl⟩, _, _, ⟨unrevoked, rfl⟩, _, _, ⟨-, rfl⟩,
    _, _, ⟨room, rfl⟩, ran⟩ := ran
  obtain ⟨faults, rfl⟩ := statement_yields reads
  simp only [Bool.not_eq_true', decide_eq_true_eq] at unrevoked room
  cases owner : invitation.userId with
  | none =>
    rw [owner] at ran
    obtain ⟨rfl, rfl⟩ := yields_pure.mp ran
    exact .unused found unrevoked room ⟨rfl, rfl, rfl⟩
  | some =>
    rw [owner] at ran
    obtain ⟨rfl, rfl⟩ := yields_pure.mp ran
    exact .used found unrevoked room ⟨rfl, rfl, rfl⟩

theorem insertUser_yields (ran : Yields (insertUser id invitation draw) s phase' s') :
    Progress sha256Hex draw s s' (.inserting id invitation) phase' := by
  unfold insertUser at ran
  simp only [yields_bind, yields_get, require_yields, yields_modify, yields_pure] at ran
  obtain ⟨_, _, inserts, _, _, ⟨rfl, rfl⟩, _, _, ⟨absent, rfl⟩, _, _, ⟨-, rfl⟩, _, _, ⟨free, rfl⟩, _, _, rfl, rfl, rfl⟩ := ran
  obtain ⟨faults, rfl⟩ := statement_yields inserts
  exact .inserted _ rfl (by simpa using absent) (by simpa using free) rfl rfl

theorem grantCapability_yields (ran : Yields (grantCapability id user capability capabilities) s phase' s') :
    Progress sha256Hex draw s s' (.granting id user (capability :: capabilities)) phase' := by
  unfold grantCapability at ran
  simp only [yields_bind, yields_get, require_yields] at ran
  obtain ⟨_, _, inserts, _, _, ⟨rfl, rfl⟩, _, _, ⟨-, rfl⟩, ran⟩ := ran
  obtain ⟨faults, rfl⟩ := statement_yields inserts
  split at ran
  · simp only [yields_bind, yields_modify, yields_pure] at ran
    obtain ⟨_, _, rfl, rfl, rfl⟩ := ran
    exact .granted rfl rfl
  · obtain ⟨rfl, rfl⟩ := yields_pure.mp ran
    exact .granted rfl rfl

theorem statement_progress (ran : Yields (phase.statement sha256Hex device draw) s phase' s') :
    Progress sha256Hex draw s s' phase phase' := by
  cases phase with
  | reading => exact readInvitation_yields ran
  | inserting => exact insertUser_yields ran
  | granting _ _ capabilities =>
    cases capabilities with
    | nil =>
      simp only [Phase.statement, linkUser, yields_bind, yields_pure] at ran
      obtain ⟨_, _, writes, _, _, updates, rfl, rfl⟩ := ran
      obtain ⟨faults, rfl⟩ := statement_yields writes
      obtain rfl := updateInvitation_yields updates
      exact .linked rfl rfl
    | cons => exact grantCapability_yields ran
  | counting =>
    simp only [Phase.statement, countUse, yields_bind, yields_get, require_yields, yields_pure] at ran
    obtain ⟨_, _, writes, _, _, ⟨rfl, rfl⟩, _, _, ⟨-, rfl⟩, _, _, updates, rfl, rfl⟩ := ran
    obtain ⟨faults, rfl⟩ := statement_yields writes
    obtain rfl := updateInvitation_yields updates
    exact .counted rfl rfl
  | opening =>
    simp only [Phase.statement, createSession, yields_bind, yields_pure] at ran
    obtain ⟨session, _, opens, _, _, commits, rfl, rfl⟩ := ran
    obtain ⟨faults, rfl⟩ := statement_yields commits
    have opened := createSession_yields opens
    have kept := opened.apart.unwritten
    exact .opened opened.present ⟨kept.users, kept.userCapabilities, kept.invitations⟩
  | fetching =>
    simp only [Phase.statement, fetchUser, yields_bind, yields_get, yields_demand, yields_pure] at ran
    obtain ⟨_, _, reads, _, _, ⟨rfl, rfl⟩, account, _, ⟨-, rfl⟩, rfl, rfl⟩ := ran
    obtain ⟨faults, rfl⟩ := statement_yields reads
    exact .fetched ⟨rfl, rfl, rfl⟩
  | resolving =>
    simp only [Phase.statement, summarize, yields_bind, yields_pure] at ran
    obtain ⟨capabilities, _, reads, rfl, rfl⟩ := ran
    exact .resolved (resolveCapabilities_yields reads).1.unwritten
  | answered | failed =>
    obtain ⟨rfl, rfl⟩ := yields_pure.mp ran
    exact .ended (.inl rfl) ⟨rfl, rfl, rfl⟩
  | stopped =>
    obtain ⟨rfl, rfl⟩ := yields_pure.mp ran
    exact .ended (.inr rfl) ⟨rfl, rfl, rfl⟩

end

/-! ## Moves -/

/-- What a move can do to the store and the calls. -/
inductive Moved (sha256Hex : String → String) (sys : InviteSystem) (move : InviteMove) : InviteSystem → Prop
  | idle (store : Store) (kept : Unwritten sys.store store) : Moved sha256Hex sys move ⟨store, sys.calls⟩
  | begun (call : Nat) (code : String) (device : DeviceInfo) (store : Store) (kept : Unwritten sys.store store)
      (fresh : sys.calls.find call = none) :
      Moved sha256Hex sys move ⟨store, sys.calls.put call ⟨device, .reading code⟩⟩
  | advanced (call : Nat) (state : Call) (draw : InviteDraw) (store : Store) (phase : Phase)
      (found : sys.calls.find call = some state) (asked : move.action = .advance call draw)
      (progress : Progress sha256Hex draw (sys.arrive move.elapsed move.faults).store store state.phase phase) :
      Moved sha256Hex sys move ⟨store, sys.calls.put call { state with phase }⟩
  | failed (call : Nat) (state : Call) (draw : InviteDraw) (store : Store) (error : AuthError)
      (found : sys.calls.find call = some state) (asked : move.action = .advance call draw)
      (raised : (state.phase.statement sha256Hex state.device draw).run
        (sys.arrive move.elapsed move.faults).store = .error error)
      (kept : Unwritten sys.store store) :
      Moved sha256Hex sys move ⟨store, sys.calls.put call { state with phase := .failed error }⟩
  | stopped (call : Nat) (state : Call) (store : Store) (found : sys.calls.find call = some state)
      (going : state.phase.ended = false) (kept : Unwritten sys.store store) :
      Moved sha256Hex sys move ⟨store, sys.calls.put call { state with phase := .stopped }⟩
  | revoked (id : Uuid) (row : Invitation) (store : Store) (found : sys.store.invitations.find id = some row)
      (users : store.users = sys.store.users)
      (invitations : store.invitations = sys.store.invitations.put id { row with isRevoked := true })
      (asked : move.action = .revoke id) : Moved sha256Hex sys move ⟨store, sys.calls⟩

theorem next_moved (sha256Hex : String → String) (sys : InviteSystem) (move : InviteMove) :
    Moved sha256Hex sys move (inviteNext sha256Hex sys move) := by
  obtain ⟨elapsed, faults, action⟩ := move
  have kept : Unwritten sys.store (sys.arrive elapsed faults).store := ⟨rfl, rfl, rfl⟩
  cases action with
  | begin call code device =>
    simp only [inviteNext, inviteAct]
    split
    · exact .idle _ kept
    · rename_i fresh
      exact .begun call code device _ kept (Option.not_isSome_iff_eq_none.mp fresh)
  | advance call draw =>
    simp only [inviteNext, inviteAct]
    cases found : (sys.arrive elapsed faults).calls.find call with
    | none => exact .idle _ kept
    | some state =>
      simp only [Option.elim_some, InviteSystem.advance]
      rcases settle_cases (state.phase.statement sha256Hex state.device draw) (sys.arrive elapsed faults).store with
        ⟨phase, store, ran, settled⟩ | ⟨error, raised, settled⟩
      · rw [settled]
        exact .advanced call state draw store phase found rfl (statement_progress ran)
      · rw [settled]
        exact .failed call state draw _ error found rfl raised kept
  | stop call =>
    simp only [inviteNext, inviteAct]
    cases found : (sys.arrive elapsed faults).calls.find call with
    | none => exact .idle _ kept
    | some state =>
      simp only [Option.elim_some]
      split
      · exact .idle _ kept
      · rename_i going
        exact .stopped call state _ found (by simpa using going) kept
  | revoke id =>
    simp only [inviteNext, inviteAct]
    rcases settle_cases (revokeInvitation id) (sys.arrive elapsed faults).store with
      ⟨_, store, ran, settled⟩ | ⟨error, -, settled⟩
    · rw [settled]
      simp only [revokeInvitation, yields_bind, yields_get, yields_demand, yields_modify] at ran
      obtain ⟨_, _, reads, _, _, ⟨rfl, rfl⟩, row, _, ⟨found, rfl⟩, rfl⟩ := ran
      obtain ⟨rest, rfl⟩ := statement_yields reads
      exact .revoked id row _ (Option.filter_eq_some_iff.mp found).1 rfl rfl rfl
    · rw [settled]
      exact .idle _ kept

/-! ## Counting uses -/

/-- The call has passed the checks of the invitation and has yet to count its use. -/
def Phase.uncounted (id : Uuid) : Phase → Bool
  | .inserting key _ | .granting key _ _ | .counting key _ _ => key = id
  | _ => false

/-- The call has counted its use of the invitation and has yet to open its session. -/
def Phase.unopened (id : Uuid) : Phase → Bool
  | .opening key _ => key = id
  | _ => false

/-- The next statement of the call counts a use of the invitation. -/
def Phase.counts (id : Uuid) : Phase → Bool
  | .counting key _ _ => key = id
  | _ => false

/-- The calls that stand at such a phase. -/
def InviteSystem.waiting (sys : InviteSystem) (p : Phase → Bool) : Nat :=
  sys.calls.count fun _ call => p call.phase

/-- An invitation and the same invitation later. -/
structure Aged (row row' : Invitation) : Prop where
  email : row'.email = row.email
  maxUses : row'.maxUses = row.maxUses
  isRevoked : row.isRevoked = true → row'.isRevoked = true
  useCount : row.useCount ≤ row'.useCount

theorem Aged.refl (row : Invitation) : Aged row row := ⟨rfl, rfl, id, Int.le_refl _⟩

variable {draw : InviteDraw} {phase phase' : Phase} {id : Uuid} {row row' : Invitation}

theorem Amended.find (amended : Amended s s' key f) (found : s.invitations.find id = some row) :
    s'.invitations.find id = some (if id = key then f row else row) := by
  unfold Amended at amended
  by_cases same : id = key
  · subst same
    rw [amended, found]
    simp
  · rw [if_neg same, amended]
    cases held : s.invitations.find key with
    | none => exact found
    | some =>
      simp only [Option.elim_some]
      rw [Table.find_put_ne same, found]

/-- A statement leaves an invitation as it was, but for its user and for the use it counts. -/
theorem Progress.find (progress : Progress sha256Hex draw s s' phase phase')
    (found : s.invitations.find id = some row) :
    ∃ row', s'.invitations.find id = some row' ∧ Aged row row' ∧
      row'.useCount = row.useCount + (phase.counts id).toNat := by
  have same : s'.invitations = s.invitations → phase.counts id = false →
      ∃ row', s'.invitations.find id = some row' ∧ Aged row row' ∧
        row'.useCount = row.useCount + (phase.counts id).toNat := by
    intro invitations quiet
    refine ⟨row, by rw [invitations, found], .refl _, ?_⟩
    rw [quiet]
    simp
  cases progress with
  | used _ _ _ kept | unused _ _ _ kept | opened _ kept | fetched kept | resolved kept =>
    exact same kept.invitations rfl
  | inserted _ _ _ _ _ invitations | granted _ invitations => exact same invitations rfl
  | linked _ amended =>
    refine ⟨_, amended.find found, ?_⟩
    split
    · exact ⟨⟨rfl, rfl, fun held => held, Int.le_refl _⟩, by simp [Phase.counts]⟩
    · exact ⟨.refl _, by simp [Phase.counts]⟩
  | counted _ amended =>
    refine ⟨_, amended.find found, ?_⟩
    split
    · rename_i mine
      subst mine
      refine ⟨⟨rfl, rfl, fun held => held, ?_⟩, by simp [Phase.counts]⟩
      simp only
      omega
    · rename_i other
      exact ⟨.refl _, by simp [Phase.counts, Ne.symm other]⟩
  | ended past kept =>
    refine same kept.invitations ?_
    rcases past with past | rfl
    · cases phase with
      | counting => cases past
      | _ => rfl
    · rfl

theorem Moved.find (moved : Moved sha256Hex sys move sys') (found : sys.store.invitations.find id = some row) :
    ∃ row', sys'.store.invitations.find id = some row' ∧ Aged row row' := by
  cases moved with
  | idle _ kept | begun _ _ _ _ kept | failed _ _ _ _ _ _ _ _ kept | stopped _ _ _ _ _ kept =>
    exact ⟨row, by rw [kept.invitations, found], .refl _⟩
  | advanced _ _ _ _ _ _ _ progress =>
    obtain ⟨row', held, aged, -⟩ := progress.find found
    exact ⟨row', held, aged⟩
  | revoked key other store held _ invitations =>
    rw [invitations, Table.find_put]
    split
    · rename_i same
      subst same
      cases held.symm.trans found
      exact ⟨_, rfl, rfl, rfl, fun _ => rfl, Int.le_refl _⟩
    · exact ⟨row, found, .refl _⟩

theorem findInvitation_find {hash : String} (found : findInvitation s hash = some (id, row)) :
    s.invitations.find id = some row := by
  unfold findInvitation at found
  obtain ⟨key, -, held⟩ := Option.bind_eq_some_iff.mp found
  obtain ⟨value, present, same⟩ := Option.map_eq_some_iff.mp held
  cases same
  exact present

/-- A call past its checks leaves the uncounted ones as it counts its use, and stays among
the unopened ones until it opens its session. -/
theorem Progress.shifts (progress : Progress sha256Hex draw s s' phase phase')
    (past : ∀ code, phase ≠ .reading code) (id : Uuid) :
    (phase'.uncounted id).toNat + (phase.counts id).toNat = (phase.uncounted id).toNat ∧
      (phase'.unopened id).toNat ≤ (phase.unopened id).toNat + (phase.counts id).toNat ∧
      (phase.unopened id = true → phase'.unopened id = false) := by
  cases progress with
  | used | unused => cases past _ rfl
  | inserted | granted | linked | fetched | resolved => simp [Phase.uncounted, Phase.counts, Phase.unopened]
  | @counted key | @opened key =>
    by_cases same : key = id <;> simp [Phase.uncounted, Phase.counts, Phase.unopened, same]
  | ended past =>
    rcases past with past | rfl
    · cases phase with
      | answered | failed => simp [Phase.uncounted, Phase.counts, Phase.unopened]
      | _ => cases past
    · simp [Phase.uncounted, Phase.counts, Phase.unopened]

theorem waiting_put (found : sys.calls.find call = some state) (store : Store) (phase : Phase) (p : Phase → Bool) :
    (⟨store, sys.calls.put call { state with phase }⟩ : InviteSystem).waiting p + (p state.phase).toNat =
      sys.waiting p + (p phase).toNat :=
  Table.count_overwrite (p := fun _ (call : Call) => p call.phase) found

theorem waiting_begun (fresh : sys.calls.find call = none) (store : Store)
    (device : DeviceInfo) (code : String) (p : Phase → Bool) :
    (⟨store, sys.calls.put call ⟨device, .reading code⟩⟩ : InviteSystem).waiting p =
      sys.waiting p + (p (.reading code)).toNat :=
  Table.count_put_new (p := fun _ (call : Call) => p call.phase) fresh

section
variable (sha256Hex : String → String)

/-- What the condition asks of the next statement of a call: it has room for the use beside
those still to be counted when it reads the invitation, and does not fail behind the first write. -/
def OrderlyAt (sys : InviteSystem) (faults : List Bool) (draw : InviteDraw) : Phase → Prop
  | .reading code => ∀ id row, findInvitation sys.store (sha256Hex code) = some (id, row) →
      row.useCount < row.maxUses → row.useCount + sys.waiting (Phase.uncounted id) < row.maxUses
  | .granting _ _ _ | .fetching _ _ _ | .resolving _ _ _ _ => faults = []
  | .counting id _ true => faults = [] ∧ ∀ row, sys.store.invitations.find id = some row → row.useCount < intMax
  | .opening _ user => faults = [] ∧ Openable sha256Hex sys.store user draw.session
  | _ => True

def Orderly (sys : InviteSystem) (move : InviteMove) : Prop :=
  ∀ call draw state, move.action = .advance call draw → sys.calls.find call = some state →
    OrderlyAt sha256Hex sys move.faults draw state.phase

/-- The uses counted and the ones still to be counted stay within the limit. -/
def WithinLimit (id : Uuid) (limit : Int) (sys : InviteSystem) : Prop :=
  ∃ row, sys.store.invitations.find id = some row ∧ row.maxUses ≤ limit ∧
    row.useCount + sys.waiting (Phase.uncounted id) ≤ limit

/-- The sessions that can still be opened. -/
def remaining (id : Uuid) (limit : Int) (sys : InviteSystem) : Nat :=
  (sys.store.invitations.find id).elim 0 (fun row => (limit - row.useCount).toNat) + sys.waiting (Phase.unopened id)

/-- The call whose session a move opens with the invitation. -/
def opens (id : Uuid) (sys : InviteSystem) (move : InviteMove) : Option Nat :=
  match move.action with
  | .advance call _ =>
    if (sys.calls.find call).any (·.phase.unopened id) &&
        ((inviteNext sha256Hex sys move).calls.find call).any fun state =>
          match state.phase with
          | .fetching key _ _ => key = id
          | _ => false then some call else none
  | _ => none

end

/-- A move that opens a session takes a call from before it to behind it. -/
theorem opens_cases (opened : opens sha256Hex id sys move = some call) :
    ∃ draw state state', move.action = .advance call draw ∧ sys.calls.find call = some state ∧
      state.phase.unopened id = true ∧ (inviteNext sha256Hex sys move).calls.find call = some state' ∧
      state'.phase.unopened id = false ∧ (∀ error, state'.phase ≠ .failed error) ∧ state'.phase ≠ .stopped := by
  unfold opens at opened
  split at opened
  · rename_i key draw asked
    split at opened
    · rename_i both
      cases opened
      simp only [Bool.and_eq_true, Option.any_eq_true] at both
      obtain ⟨⟨state, found, waiting⟩, state', after, fetches⟩ := both
      refine ⟨draw, state, state', asked, found, waiting, after, ?_⟩
      split at fetches
      · rename_i at_
        rw [at_]
        simp [Phase.unopened]
      · cases fetches
    · cases opened
  · cases opened

theorem Moved.opens (opened : opens sha256Hex id sys move = some call) :
    ∃ draw state store phase, move.action = .advance call draw ∧ sys.calls.find call = some state ∧
      state.phase.unopened id = true ∧
      Progress sha256Hex draw (sys.arrive move.elapsed move.faults).store store state.phase phase ∧
      inviteNext sha256Hex sys move = ⟨store, sys.calls.put call { state with phase }⟩ := by
  obtain ⟨draw, state, state', asked, found, waiting, after, passed, unfailed, unstopped⟩ := opens_cases opened
  have moved := next_moved sha256Hex sys move
  generalize inviteNext sha256Hex sys move = sys' at moved after
  cases moved with
  | idle | revoked =>
    cases found.symm.trans after
    rw [waiting] at passed
    cases passed
  | begun key _ _ _ _ fresh =>
    have other : call ≠ key := by
      rintro rfl
      cases fresh.symm.trans found
    rw [Table.find_put_ne other] at after
    cases found.symm.trans after
    rw [waiting] at passed
    cases passed
  | advanced _ state draw store phase held named progress =>
    cases asked.symm.trans named
    cases found.symm.trans held
    exact ⟨draw, state, store, phase, asked, found, waiting, progress, rfl⟩
  | failed _ _ _ _ _ _ named =>
    cases asked.symm.trans named
    rw [Table.find_put_self] at after
    cases after
    cases unfailed _ rfl
  | stopped key =>
    by_cases same : call = key
    · subst same
      rw [Table.find_put_self] at after
      cases after
      cases unstopped rfl
    · rw [Table.find_put_ne same] at after
      cases found.symm.trans after
      rw [waiting] at passed
      cases passed

theorem remaining_eq (found : sys.store.invitations.find id = some row) :
    remaining id limit sys = (limit - row.useCount).toNat + sys.waiting (Phase.unopened id) := by
  simp [remaining, found]

section
variable {limit : Int} {sys : InviteSystem} {move : InviteMove} {call : Nat} {state : Call} {store : Store}

/-- A call that leaves the invitations and waits to open no session: a use it comes to hold was left. -/
theorem kept_within (found : sys.calls.find call = some state) (leaves : phase.unopened id = false)
    (kept : store.invitations = sys.store.invitations)
    (room : phase.uncounted id = true → state.phase.uncounted id = false ∧ ∀ row,
      sys.store.invitations.find id = some row → row.useCount + sys.waiting (Phase.uncounted id) < row.maxUses)
    (within : WithinLimit id limit sys) :
    WithinLimit id limit ⟨store, sys.calls.put call { state with phase }⟩ ∧
      remaining id limit ⟨store, sys.calls.put call { state with phase }⟩ ≤ remaining id limit sys := by
  obtain ⟨row, held, cap, fits⟩ := within
  have uncounted := waiting_put found store phase (Phase.uncounted id)
  have unopened := waiting_put found store phase (Phase.unopened id)
  rw [leaves, Bool.toNat_false] at unopened
  have stays : store.invitations.find id = some row := by rw [kept, held]
  constructor
  · refine ⟨row, stays, cap, ?_⟩
    cases enters : phase.uncounted id with
    | true =>
      obtain ⟨joins, left⟩ := room enters
      have fewer := left row held
      rw [enters, joins, Bool.toNat_true, Bool.toNat_false] at uncounted
      omega
    | false =>
      rw [enters, Bool.toNat_false] at uncounted
      omega
  · rw [remaining_eq stays, remaining_eq held]
    omega

/-- A call that passes the checks takes one of the uses that were left. -/
theorem reading_within (found : sys.calls.find call = some state) (reads : state.phase = .reading code)
    (progress : Progress sha256Hex draw (sys.arrive move.elapsed move.faults).store store state.phase phase)
    (room : ∀ id row, findInvitation sys.store (sha256Hex code) = some (id, row) →
      row.useCount < row.maxUses → row.useCount + sys.waiting (Phase.uncounted id) < row.maxUses)
    (within : WithinLimit id limit sys) :
    WithinLimit id limit ⟨store, sys.calls.put call { state with phase }⟩ ∧
      remaining id limit ⟨store, sys.calls.put call { state with phase }⟩ ≤ remaining id limit sys := by
  rw [reads] at progress
  obtain ⟨key, checked, read, enters, joins, leaves, kept⟩ : ∃ key checked,
      findInvitation sys.store (sha256Hex code) = some (key, checked) ∧ checked.useCount < checked.maxUses ∧
      phase.uncounted id = decide (key = id) ∧ phase.unopened id = false ∧
      store.invitations = sys.store.invitations := by
    cases progress with
    | @used _ key invitation _ found _ fewer kept | @unused _ key invitation found _ fewer kept =>
      exact ⟨key, invitation, found, fewer, rfl, rfl, kept.invitations⟩
    | ended past => rcases past with past | past <;> cases past
  refine kept_within found leaves kept (fun holds => ⟨by rw [reads]; rfl, fun row held => ?_⟩) within
  obtain rfl : key = id := of_decide_eq_true (joins.symm.trans holds)
  cases (findInvitation_find read).symm.trans held
  exact room key checked read enters

/-- A call past its checks counts the use it took, and spends it when it opens its session. -/
theorem past_within (found : sys.calls.find call = some state) (past : ∀ code, state.phase ≠ .reading code)
    (progress : Progress sha256Hex draw (sys.arrive move.elapsed move.faults).store store state.phase phase)
    (within : WithinLimit id limit sys) :
    WithinLimit id limit ⟨store, sys.calls.put call { state with phase }⟩ ∧
      (state.phase.unopened id).toNat + remaining id limit ⟨store, sys.calls.put call { state with phase }⟩ ≤
        remaining id limit sys := by
  obtain ⟨row, held, cap, fits⟩ := within
  have uncounted := waiting_put found store phase (Phase.uncounted id)
  have unopened := waiting_put found store phase (Phase.unopened id)
  obtain ⟨counted, joins, leaves⟩ := progress.shifts past id
  obtain ⟨row', held', aged, uses⟩ := progress.find held
  have maxUses := aged.maxUses
  constructor
  · exact ⟨row', held', by omega, by omega⟩
  · rw [remaining_eq held', remaining_eq held]
    cases opens : state.phase.unopened id with
    | true =>
      rw [leaves opens, opens] at unopened
      simp only [Bool.toNat_true, Bool.toNat_false] at unopened ⊢
      omega
    | false =>
      rw [opens] at unopened joins
      simp only [Bool.toNat_false] at unopened joins ⊢
      omega

/-- An orderly move that opens no session leaves the limit and what remains of it. -/
theorem Moved.within (moved : Moved sha256Hex sys move sys') (orderly : Orderly sha256Hex sys move)
    (within : WithinLimit id limit sys) :
    WithinLimit id limit sys' ∧ remaining id limit sys' ≤ remaining id limit sys := by
  have ⟨row, held, cap, fits⟩ := within
  cases moved with
  | idle store kept =>
    have stays : store.invitations.find id = some row := by rw [kept.invitations, held]
    refine ⟨⟨row, stays, cap, fits⟩, ?_⟩
    rw [remaining_eq stays, remaining_eq held]
    exact Nat.le_refl _
  | begun _ _ _ store kept fresh =>
    have stays : store.invitations.find id = some row := by rw [kept.invitations, held]
    refine ⟨⟨row, stays, cap, ?_⟩, ?_⟩
    · rw [waiting_begun fresh]
      exact fits
    · rw [remaining_eq stays, remaining_eq held, waiting_begun fresh]
      exact Nat.le_refl _
  | advanced call state draw _ _ found asked progress =>
    by_cases reads : ∃ code, state.phase = .reading code
    · obtain ⟨code, reads⟩ := reads
      refine reading_within found reads progress ?_ within
      have room := orderly call draw state asked found
      rw [reads] at room
      exact room
    · have past := past_within found (fun code at_ => reads ⟨code, at_⟩) progress within
      exact ⟨past.1, Nat.le_trans (Nat.le_add_left _ _) past.2⟩
  | failed _ _ _ _ _ found _ _ kept | stopped _ _ _ found _ kept =>
    exact kept_within found rfl kept.invitations nofun within
  | revoked key other store found _ invitations =>
    have stays : ∃ row', store.invitations.find id = some row' ∧ row'.maxUses = row.maxUses ∧
        row'.useCount = row.useCount := by
      rw [invitations, Table.find_put]
      split
      · rename_i same
        subst same
        cases found.symm.trans held
        exact ⟨_, rfl, rfl, rfl⟩
      · exact ⟨row, held, rfl, rfl⟩
    obtain ⟨row', stays, maxUses, useCount⟩ := stays
    refine ⟨⟨row', stays, by rw [maxUses]; exact cap, by rw [useCount]; exact fits⟩, ?_⟩
    rw [remaining_eq stays, remaining_eq held, useCount]
    exact Nat.le_refl _

/-- What an orderly move opens comes out of what remains. -/
theorem limit_step (orderly : Orderly sha256Hex sys move) (within : WithinLimit id limit sys) :
    WithinLimit id limit (inviteNext sha256Hex sys move) ∧
      (opens sha256Hex id sys move).isSome.toNat + remaining id limit (inviteNext sha256Hex sys move) ≤
        remaining id limit sys := by
  cases opened : opens sha256Hex id sys move with
  | none =>
    have quiet := (next_moved sha256Hex sys move).within orderly within
    exact ⟨quiet.1, by simpa using quiet.2⟩
  | some =>
    obtain ⟨draw, state, store, phase, _, found, waiting, progress, same⟩ := Moved.opens opened
    have past : ∀ code, state.phase ≠ .reading code := by
      intro code reads
      rw [reads] at waiting
      cases waiting
    have spent := past_within found past progress within
    rw [waiting] at spent
    rw [same]
    exact spent

end

end Duskcue.Auth
