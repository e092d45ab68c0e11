import Duskcue.AuthSteps
import Duskcue.PartialRuns

/-! Codes for signing in again. A call reads the row of its code, checks the flag and the
expiry, opens a session and only then sets the flag; another counts the codes of the last
day before it inserts one. Each statement outside a transaction is one step, and so is the
transaction that opens a session; between the steps of a call other calls take theirs, the
rest of the server changes the accounts, and time passes. A call may also break off.

`openings` is no table: it records which code each session was opened with, and when. -/
namespace Duskcue.Reauth
open Playback (Uuid Time second hour)
open Auth (User UserSession UserSummary DeviceInfo AuthError Draw createSessionOnConnection resolveCapabilities)
open Transaction PartialRuns

/-! ## Rows and calls -/

structure ReauthCode where
  userId : Uuid
  requestedByUserId : Uuid
  codeHash : String
  codePrefix : String
  ipAddress : Option String
  createdAt : Time
  expiresAt : Time
  isUsed : Bool
  usedAt : Option Time
  resultingSessionId : Option Uuid

/-- The settings of `AuthConfig` for these codes. -/
structure ReauthConfig where
  reauthCodeExpiryHours : Int
  reauthMaxRequestsPerUserPerDay : Int

inductive ReauthError
  | reauthCodeInvalid | reauthRateLimited | database
  | auth (error : AuthError)

inductive Reply
  | authenticated (token : String) (summary : UserSummary)
  | issued (codePrefix : String) (expiresAt : Time)

/-- How far a call has come. `gone` is one that broke off; it may owe a code its flag. -/
inductive Call
  | presented (code : String) (device : DeviceInfo)
  | found (id : Nat) (row : ReauthCode) (device : DeviceInfo)
  | checked (id : Nat) (user : Uuid) (device : DeviceInfo)
  | admitted (id : Nat) (user : Uuid) (account : User) (device : DeviceInfo)
  | opened (id : Nat) (user : Uuid) (account : User) (session : UserSession) (sessionId : Uuid) (token : String)
  | marked (user : Uuid) (account : User) (session : UserSession) (token : String)
  | requested (user requestedBy : Uuid) (ipAddress : Option String)
  | counted (user requestedBy : Uuid) (ipAddress : Option String)
  | closed (reply : Except ReauthError Reply)
  | gone (owed : Option Nat)

/-- The code that a session was opened with and whose flag is not yet set for it. -/
def Call.owes : Call → Option Nat
  | .opened id .. => some id
  | .gone owed => owed
  | _ => none

structure Opening where
  code : Nat
  time : Time

/-- `uuidv7()` gives every code an identity of its own: here its number, and `issued` is the
next one. The clock is that of `accounts`. -/
structure Server where
  accounts : Auth.Store
  reauthCodes : Table Nat ReauthCode
  issued : Nat
  config : ReauthConfig
  calls : List Call
  openings : List Opening

/-- The values a call draws: those of a new session, or a new code. -/
structure Drawn where
  session : Draw
  code : String

inductive Event
  | wait (pause : Nat)
  | elsewhere (accounts : Auth.Store)
  | authenticate (code : String) (device : DeviceInfo)
  | create (user requestedBy : Uuid) (ipAddress : Option String)
  | advance (index : Nat) (drawn : Drawn)
  | breakOff (index : Nat)

/-! ## Statements -/

def day : Time := 24 * hour

def extractReauthPrefix (fullCode : String) : String :=
  let stripped := if "mv_reauth-".toList.isPrefixOf fullCode.toList then fullCode.toList.drop 10 else fullCode.toList
  String.ofList ((stripped.filter (· ≠ '-')).take 4)

/-- `count(*) ... WHERE user_id = $1 AND created_at > now() - '24 hours'`. -/
def recentCount (server : Server) (user : Uuid) : Nat :=
  server.reauthCodes.count fun _ row => row.userId = user && decide (server.accounts.now - day < row.createdAt)

/-- `UPDATE reauth_codes SET is_used = true, ...`. -/
def markUsed (server : Server) (id : Nat) (session : Uuid) : Server :=
  { server with
    reauthCodes := server.reauthCodes.amend fun key row =>
      if key = id then
        { row with isUsed := true, usedAt := some server.accounts.now, resultingSessionId := some session }
      else row }

section
variable (sha256Hex : String → String)

/-- The row an `INSERT` writes. -/
def newCode (server : Server) (user requestedBy : Uuid) (ipAddress : Option String) (code : String) : ReauthCode :=
  { userId := user
    requestedByUserId := requestedBy
    codeHash := sha256Hex code
    codePrefix := extractReauthPrefix code
    ipAddress
    createdAt := server.accounts.now.truncate
    expiresAt := server.accounts.now + server.config.reauthCodeExpiryHours * hour
    isUsed := false
    usedAt := none
    resultingSessionId := none }

/-- The database takes the row: its users are there, and no other code has its hash. -/
def insertable (server : Server) (row : ReauthCode) : Bool :=
  (server.accounts.users.find row.userId).isSome && (server.accounts.users.find row.requestedByUserId).isSome &&
    !server.reauthCodes.holds fun _ other => other.codeHash = row.codeHash

/-- The transaction that opens a session. -/
def openSession (server : Server) (user : Uuid) (device : DeviceInfo) (drawn : Drawn) :
    Except AuthError UserSession × Auth.Store :=
  settle (createSessionOnConnection sha256Hex user device drawn.session) server.accounts

/-- The next statement of a call of `authenticate_reauth_code` or `create_reauth_code`. -/
def advance (server : Server) (drawn : Drawn) : Call → Option (Server × Call)
  | .presented code device =>
    match (server.reauthCodes.select fun _ row => row.codeHash = sha256Hex code).head?.bind fun id =>
        (server.reauthCodes.find id).map (id, ·) with
    | none => some (server, .closed (.error .reauthCodeInvalid))
    | some (id, row) => some (server, .found id row device)
  | .found id row device =>
    if row.isUsed || decide (row.expiresAt < server.accounts.now) then
      some (server, .closed (.error .reauthCodeInvalid))
    else some (server, .checked id row.userId device)
  | .checked id user device =>
    match (server.accounts.users.find user).filter fun account => account.deletedAt.isNone && account.status = .active with
    | none => some (server, .closed (.error .reauthCodeInvalid))
    | some account => some (server, .admitted id user account device)
  | .admitted id user account device =>
    match openSession sha256Hex server user device drawn with
    | (.ok session, accounts) =>
      some ({ server with accounts, openings := server.openings ++ [⟨id, server.accounts.now⟩] },
        .opened id user account session drawn.session.sessionId drawn.session.token)
    | (.error error, _) => some (server, .closed (.error (.auth error)))
  | .opened id user account session sessionId token =>
    -- the session may have been deleted in the meantime, and then the reference to it is refused
    if (server.accounts.userSessions.find sessionId).isSome then
      some (markUsed server id sessionId, .marked user account session token)
    else some (server, .gone (some id))
  | .marked user account session token =>
    match (settle (resolveCapabilities user account.role) server.accounts).1 with
    | .ok capabilities =>
      some (server, .closed (.ok (.authenticated token
        { id := user, username := account.username, displayName := account.displayName, role := account.role
          capabilities, hasAllLibraryAccess := account.hasAllLibraryAccess, activeProfileId := session.activeProfileId
          profileSelectionRequired := session.profileSelectionRequired })))
    | .error error => some (server, .closed (.error (.auth error)))
  | .requested user requestedBy ipAddress =>
    if server.config.reauthMaxRequestsPerUserPerDay ≤ recentCount server user then
      some (server, .closed (.error .reauthRateLimited))
    else some (server, .counted user requestedBy ipAddress)
  | .counted user requestedBy ipAddress =>
    let row := newCode sha256Hex server user requestedBy ipAddress drawn.code
    if insertable server row then
      some ({ server with reauthCodes := server.reauthCodes.put server.issued row, issued := server.issued + 1 },
        .closed (.ok (.issued row.codePrefix row.expiresAt)))
    else some (server, .closed (.error .database))
  | .closed _ => none
  | .gone _ => none

def step (server : Server) : Event → Option Server
  | .wait pause => some { server with accounts := { server.accounts with now := server.accounts.now + pause } }
  | .elsewhere accounts => some { server with accounts := { accounts with now := server.accounts.now } }
  | .authenticate code device => some { server with calls := server.calls ++ [.presented code device] }
  | .create user requestedBy ipAddress =>
    some { server with calls := server.calls ++ [.requested user requestedBy ipAddress] }
  | .advance index drawn => do
    let call ← server.calls[index]?
    let (next, moved) ← advance sha256Hex server drawn call
    pure { next with calls := next.calls.set index moved }
  | .breakOff index => do
    let call ← server.calls[index]?
    pure { server with calls := server.calls.set index (.gone call.owes) }

end

/-! ## The laws -/

/-- The codes of a user made in the day up to `last`. -/
def madeIn (codes : Table Nat ReauthCode) (user : Uuid) (last : Time) : Nat :=
  codes.count fun _ row => row.userId = user && (decide (last - day < row.createdAt) && decide (row.createdAt ≤ last))

/-- Each code opened at most one session, none after its expiry, and in no day more codes were
made for a user than are allowed. -/
structure Lawful (server : Server) : Prop where
  once : (server.openings.map Opening.code).Nodup
  timely : ∀ opening ∈ server.openings, ∃ row, server.reauthCodes.find opening.code = some row ∧
    opening.time ≤ row.expiresAt
  limited : ∀ user last, madeIn server.reauthCodes user last ≤ server.config.reauthMaxRequestsPerUserPerDay.toNat

section
variable (sha256Hex : String → String)

/-- Every check of a call still holds at the statement that it guards: a session is opened while
the flag of the code is unset, nobody owes it, and the expiry has not passed; a code is inserted
while the recent ones are fewer than allowed. -/
def FineCall (server : Server) (drawn : Drawn) : Call → Prop
  | .admitted id user _ device => (openSession sha256Hex server user device drawn).1.isOk = true →
    (∃ row, server.reauthCodes.find id = some row ∧ row.isUsed = false ∧ server.accounts.now ≤ row.expiresAt) ∧
      ∀ call ∈ server.calls, call.owes ≠ some id
  | .counted user requestedBy ipAddress =>
    insertable server (newCode sha256Hex server user requestedBy ipAddress drawn.code) = true →
      recentCount server user < server.config.reauthMaxRequestsPerUserPerDay
  | _ => True

def Fine (server : Server) : Event → Prop
  | .advance index drawn => ∀ call, server.calls[index]? = some call → FineCall sha256Hex server drawn call
  | _ => True

end

/-- Before the first call and the first code. -/
structure Started (server : Server) : Prop where
  calls : server.calls = []
  codes : server.reauthCodes = Table.empty
  issued : server.issued = 0
  openings : server.openings = []

/-! ## What a step can do -/

section Steps
variable {sha256Hex : String → String} {server next : Server} {event : Event}

/-- A call owes the code its flag. -/
def Owing (server : Server) (id : Nat) : Prop := some id ∈ server.calls.map Call.owes

inductive Change (sha256Hex : String → String) (server : Server) : Event → Server → Prop
  | aside {event : Event} {next : Server} (codes : next.reauthCodes = server.reauthCodes)
    (issued : next.issued = server.issued) (config : next.config = server.config)
    (openings : next.openings = server.openings) (later : server.accounts.now ≤ next.accounts.now)
    (owes : ∀ id, Owing next id ↔ Owing server id) (fine : Fine sha256Hex server event) : Change sha256Hex server event next
  | opened {index id : Nat} {drawn : Drawn} {user : Uuid} {account : User} {device : DeviceInfo} {session : UserSession}
    {accounts : Auth.Store} (found : server.calls[index]? = some (.admitted id user account device))
    (ran : openSession sha256Hex server user device drawn = (.ok session, accounts)) :
    Change sha256Hex server (.advance index drawn)
      { server with
        accounts
        openings := server.openings ++ [⟨id, server.accounts.now⟩]
        calls := server.calls.set index
          (.opened id user account session drawn.session.sessionId drawn.session.token) }
  | marked {index id : Nat} {drawn : Drawn} {user sessionId : Uuid} {account : User} {session : UserSession}
    {token : String} (found : server.calls[index]? = some (.opened id user account session sessionId token)) :
    Change sha256Hex server (.advance index drawn)
      { markUsed server id sessionId with calls := server.calls.set index (.marked user account session token) }
  | inserted {index : Nat} {drawn : Drawn} {user requestedBy : Uuid} {ipAddress : Option String}
    (found : server.calls[index]? = some (.counted user requestedBy ipAddress))
    (free : insertable server (newCode sha256Hex server user requestedBy ipAddress drawn.code) = true) {call : Call}
    (owes : call.owes = none) :
    Change sha256Hex server (.advance index drawn)
      { server with
        reauthCodes := server.reauthCodes.put server.issued (newCode sha256Hex server user requestedBy ipAddress drawn.code)
        issued := server.issued + 1
        calls := server.calls.set index call }

variable {call : Call} {calls : List Call} {index : Nat} {moved : Call}

theorem owes_set (found : calls[index]? = some call)
    (same : moved.owes = call.owes) : (calls.set index moved).map Call.owes = calls.map Call.owes := by
  rw [List.map_set, same]
  apply List.ext_getElem?
  intro j
  rw [List.getElem?_set, List.getElem?_map, List.length_map]
  by_cases here : index = j
  · subst here
    obtain ⟨inside, there⟩ := List.getElem?_eq_some_iff.mp found
    simp [inside, there]
  · simp [here]

theorem openSession_now (ran : openSession sha256Hex server user device drawn = (.ok session, accounts)) :
    accounts.now = server.accounts.now := by
  unfold openSession at ran
  rcases settle_cases (createSessionOnConnection sha256Hex user device drawn.session) server.accounts with
    ⟨session', after, made, settled⟩ | ⟨error, -, settled⟩
  · cases ran.symm.trans settled
    exact (Auth.createSession_yields made).1.now
  · cases ran.symm.trans settled

variable {key : Nat}

theorem owes_of_set (owing : some key ∈ (calls.set index moved).map Call.owes) :
    moved.owes = some key ∨ some key ∈ calls.map Call.owes := by
  obtain ⟨call, member, owes⟩ := List.mem_map.mp owing
  rcases List.mem_or_eq_of_mem_set member with old | rfl
  · exact .inr (List.mem_map.mpr ⟨call, old, owes⟩)
  · exact .inl owes

theorem owes_kept (found : calls[index]? = some call)
    (owing : some key ∈ calls.map Call.owes) (other : call.owes ≠ some key) :
    some key ∈ (calls.set index moved).map Call.owes := by
  obtain ⟨debtor, member, owes⟩ := List.mem_map.mp owing
  obtain ⟨j, there⟩ := List.mem_iff_getElem?.mp member
  have apart : index ≠ j := by
    rintro rfl
    cases found.symm.trans there
    exact other owes
  refine List.mem_map.mpr ⟨debtor, ?_, owes⟩
  apply List.mem_of_getElem? (i := j)
  rw [List.getElem?_set, if_neg apart, there]

theorem owing_append (free : call.owes = none) (id : Nat) :
    Owing { server with calls := server.calls ++ [call] } id ↔ Owing server id := by
  simp [Owing, free]

variable {drawn : Drawn}

/-- A call goes on without a change of the tables. -/
theorem change_aside (found : server.calls[index]? = some call)
    (same : moved.owes = call.owes) (fine : Fine sha256Hex server (.advance index drawn)) :
    Change sha256Hex server (.advance index drawn) { server with calls := server.calls.set index moved } := by
  refine .aside rfl rfl rfl rfl (le_refl _) (fun id => ?_) fine
  rw [Owing, owes_set found same, Owing]

theorem change_of_advance (moved : step sha256Hex server (.advance index drawn) = some next) :
    Change sha256Hex server (.advance index drawn) next := by
  obtain ⟨call, found, moved⟩ := Option.bind_eq_some_iff.mp moved
  obtain ⟨⟨after, later⟩, advanced, moved⟩ := Option.bind_eq_some_iff.mp moved
  cases moved
  have fine (holds : FineCall sha256Hex server drawn call) : Fine sha256Hex server (.advance index drawn) := by
    intro other there
    cases found.symm.trans there
    exact holds
  cases call with
  | presented code device | found id row device | checked id user device | marked user account session token
  | requested =>
    simp only [advance] at advanced
    split at advanced <;> cases advanced <;> exact change_aside found rfl (fine trivial)
  | admitted =>
    simp only [advance] at advanced
    split at advanced
    · rename_i session accounts ran
      cases advanced
      exact .opened found ran
    · rename_i error accounts ran
      cases advanced
      refine change_aside found rfl (fine fun opens => ?_)
      rw [ran] at opens
      cases opens
  | opened =>
    simp only [advance] at advanced
    split at advanced <;> cases advanced
    · exact .marked found
    · exact change_aside found rfl (fine trivial)
  | counted =>
    simp only [advance] at advanced
    split at advanced
    · rename_i free
      cases advanced
      exact .inserted found free rfl
    · rename_i refused
      cases advanced
      exact change_aside found rfl (fine fun free => absurd free refused)
  | closed | gone => cases advanced

theorem change_of_step (moved : step sha256Hex server event = some next) : Change sha256Hex server event next := by
  cases event with
  | wait pause =>
    cases moved
    exact .aside rfl rfl rfl rfl (Int.le_add_of_nonneg_right (Int.natCast_nonneg pause)) (fun _ => Iff.rfl) trivial
  | elsewhere =>
    cases moved
    exact .aside rfl rfl rfl rfl (le_refl _) (fun _ => Iff.rfl) trivial
  | authenticate | create =>
    cases moved
    exact .aside rfl rfl rfl rfl (le_refl _) (owing_append rfl) trivial
  | advance => exact change_of_advance moved
  | breakOff index =>
    obtain ⟨call, found, moved⟩ := Option.bind_eq_some_iff.mp moved
    cases moved
    have kept : (server.calls.set index (.gone call.owes)).map Call.owes = server.calls.map Call.owes :=
      owes_set found rfl
    exact .aside rfl rfl rfl rfl (le_refl _) (fun id => by rw [Owing, kept, Owing]) trivial

/-! ## The laws from step to step -/

/-- A code has opened a session exactly when its flag is set or owed. -/
structure Sound (server : Server) : Prop where
  lawful : Lawful server
  numbered : ∀ id row, server.reauthCodes.find id = some row → id < server.issued
  stamped : ∀ id row, server.reauthCodes.find id = some row →
    row.createdAt ≤ server.accounts.now ∧ row.createdAt.truncate = row.createdAt
  owed : ∀ id, Owing server id → id ∈ server.openings.map Opening.code
  spent : ∀ id row, server.reauthCodes.find id = some row → row.isUsed = true → id ∈ server.openings.map Opening.code
  backed : ∀ id ∈ server.openings.map Opening.code,
    (∃ row, server.reauthCodes.find id = some row ∧ row.isUsed = true) ∨ Owing server id

/-- A whole millisecond that is past is past in whole milliseconds, and a day is whole. -/
theorem whole_milliseconds {created now : Int} (past : created ≤ now) (whole : created - created % 1000 = created) :
    created ≤ now - now % 1000 ∧ (now - 86400000000 < created ↔ now - now % 1000 - 86400000000 < created) := by
  omega

/-- The codes the statement counts are those of the day up to the present millisecond. -/
theorem Sound.recentCount_eq (sound : Sound server) (user : Uuid) :
    recentCount server user = madeIn server.reauthCodes user server.accounts.now.truncate := by
  refine Table.count_congr fun id row found => ?_
  obtain ⟨past, whole⟩ := sound.stamped id row found
  obtain ⟨upTo, after⟩ := whole_milliseconds past whole
  have upTo : row.createdAt ≤ server.accounts.now.truncate := upTo
  have after : server.accounts.now - day < row.createdAt ↔ server.accounts.now.truncate - day < row.createdAt := after
  simp only [after, upTo, decide_true, Bool.and_true]

variable {id : Nat}

/-- One more code for a user is within the limit of every day, if it is within that of its own. -/
theorem madeIn_put_le {codes : Table Nat ReauthCode} {row : ReauthCode} {limit : Nat}
    (fresh : codes.find id = none) (latest : ∀ key other, codes.find key = some other → other.createdAt ≤ row.createdAt)
    (before : ∀ user last, madeIn codes user last ≤ limit) (room : madeIn codes row.userId row.createdAt < limit)
    (user : Uuid) (last : Time) : madeIn (codes.put id row) user last ≤ limit := by
  unfold madeIn at *
  rw [Table.count_put_new fresh]
  by_cases here : row.userId = user ∧ last - day < row.createdAt ∧ row.createdAt ≤ last
  · obtain ⟨rfl, _, below⟩ := here
    have fewer : codes.count (fun _ other => other.userId = row.userId &&
        (decide (last - day < other.createdAt) && decide (other.createdAt ≤ last))) ≤
        codes.count fun _ other => other.userId = row.userId &&
          (decide (row.createdAt - day < other.createdAt) && decide (other.createdAt ≤ row.createdAt)) := by
      refine Table.count_mono fun key other found counted => ?_
      simp only [Bool.and_eq_true, decide_eq_true_eq] at counted ⊢
      exact ⟨counted.1, lt_of_le_of_lt (Int.sub_le_sub_right below day) counted.2.1, latest key other found⟩
    have one : (row.userId = row.userId && (decide (last - day < row.createdAt) && decide (row.createdAt ≤ last)) : Bool).toNat ≤
        1 := Bool.toNat_le _
    omega
  · have absent : (row.userId = user && (decide (last - day < row.createdAt) && decide (row.createdAt ≤ last)) : Bool) =
        false := by
      simpa [Bool.and_eq_false_iff] using here
    rw [absent]
    simpa using before user last

theorem truncate_whole (t : Int) : (t - t % 1000) - (t - t % 1000) % 1000 = t - t % 1000 := by omega

theorem truncate_le (t : Int) : t - t % 1000 ≤ t := by omega

theorem find_markUsed (found : (markUsed server id session).reauthCodes.find key = some row) :
    ∃ old, server.reauthCodes.find key = some old ∧ row.userId = old.userId ∧ row.createdAt = old.createdAt ∧
      row.expiresAt = old.expiresAt ∧ (key ≠ id → row.isUsed = old.isUsed) := by
  unfold markUsed at found
  rw [Table.find_amend] at found
  obtain ⟨old, there, rfl⟩ := Option.map_eq_some_iff.mp found
  refine ⟨old, there, ?_⟩
  split
  · rename_i same
    exact ⟨rfl, rfl, rfl, fun other => absurd same other⟩
  · exact ⟨rfl, rfl, rfl, fun _ => rfl⟩

/-- The flag is no part of what the limit counts. -/
theorem madeIn_markUsed (id : Nat) (session user : Uuid) (last : Time) :
    madeIn (markUsed server id session).reauthCodes user last = madeIn server.reauthCodes user last := by
  unfold madeIn markUsed
  rw [Table.count_eq_total, Table.count_eq_total, Table.total_amend]
  congr 1
  funext key row
  split <;> rfl

theorem Sound.aside (sound : Sound server) (codes : next.reauthCodes = server.reauthCodes)
    (issued : next.issued = server.issued) (config : next.config = server.config)
    (openings : next.openings = server.openings) (later : server.accounts.now ≤ next.accounts.now)
    (owes : ∀ id, Owing next id ↔ Owing server id) : Sound next := by
  obtain ⟨⟨once, timely, limited⟩, numbered, stamped, owed, spent, backed⟩ := sound
  refine ⟨⟨?_, ?_, ?_⟩, ?_, ?_, ?_, ?_, ?_⟩
  · rw [openings]
    exact once
  · rw [openings, codes]
    exact timely
  · rw [codes, config]
    exact limited
  · rw [codes, issued]
    exact numbered
  · intro id row found
    rw [codes] at found
    exact ⟨le_trans (stamped id row found).1 later, (stamped id row found).2⟩
  · intro id owing
    rw [openings]
    exact owed id ((owes id).mp owing)
  · rw [codes, openings]
    exact spent
  · intro id member
    rw [openings] at member
    rw [codes, owes]
    exact backed id member

variable {user : Uuid}

theorem Sound.opened (sound : Sound server) {account : User}
    {device : DeviceInfo} {session : UserSession} {accounts : Auth.Store}
    (found : server.calls[index]? = some (.admitted id user account device))
    (ran : openSession sha256Hex server user device drawn = (.ok session, accounts))
    (fine : Fine sha256Hex server (.advance index drawn)) :
    Sound { server with
      accounts
      openings := server.openings ++ [⟨id, server.accounts.now⟩]
      calls := server.calls.set index
        (.opened id user account session drawn.session.sessionId drawn.session.token) } := by
  obtain ⟨⟨row, there, unused, unexpired⟩, quiet⟩ := fine _ found (by rw [ran]; rfl)
  have unowed : ¬ Owing server id := by
    intro owing
    obtain ⟨call, member, owes⟩ := List.mem_map.mp owing
    exact quiet call member owes
  have fresh : id ∉ server.openings.map Opening.code := by
    intro member
    rcases sound.backed id member with ⟨other, held, used⟩ | owing
    · cases there.symm.trans held
      cases unused.symm.trans used
    · exact unowed owing
  obtain ⟨⟨once, timely, limited⟩, numbered, stamped, owed, spent, backed⟩ := sound
  refine ⟨⟨?_, ?_, limited⟩, numbered, ?_, ?_, ?_, ?_⟩
  · rw [List.map_append, List.nodup_append]
    refine ⟨once, List.nodup_singleton _, ?_⟩
    intro other member same new
    rw [List.map_singleton, List.mem_singleton] at new
    rintro rfl
    rw [new] at member
    exact fresh member
  · intro opening member
    rcases List.mem_append.mp member with old | new
    · exact timely opening old
    · rw [List.mem_singleton.mp new]
      exact ⟨row, there, unexpired⟩
  · intro key other held
    exact ⟨le_of_le_of_eq (stamped key other held).1 (openSession_now ran).symm, (stamped key other held).2⟩
  · intro key owing
    rw [List.map_append, List.mem_append]
    rcases owes_of_set owing with new | old
    · exact .inr (by simpa [Call.owes, eq_comm] using new)
    · exact .inl (owed key old)
  · intro key other held used
    rw [List.map_append, List.mem_append]
    exact .inl (spent key other held used)
  · intro key member
    rw [List.map_append, List.mem_append] at member
    rcases member with old | new
    · refine (backed key old).imp_right fun owing => ?_
      exact owes_kept found owing (by simp [Call.owes])
    · obtain rfl : key = id := by simpa using new
      refine .inr (List.mem_map.mpr ⟨_, List.mem_set (List.getElem?_eq_some_iff.mp found).1 _, rfl⟩)

theorem Sound.marked (sound : Sound server)
    (found : server.calls[index]? = some (.opened id user account session sessionId token)) :
    Sound { markUsed server id sessionId with calls := server.calls.set index (.marked user account session token) } := by
  have mine : id ∈ server.openings.map Opening.code :=
    sound.owed id (List.mem_map.mpr ⟨_, List.mem_of_getElem? found, rfl⟩)
  obtain ⟨⟨once, timely, limited⟩, numbered, stamped, owed, spent, backed⟩ := sound
  refine ⟨⟨once, ?_, ?_⟩, ?_, ?_, ?_, ?_, ?_⟩
  · intro opening member
    obtain ⟨row, there, inTime⟩ := timely opening member
    refine ⟨_, (Table.find_amend _ _ _).trans (congrArg _ there), ?_⟩
    dsimp only
    split <;> exact inTime
  · intro owner last
    rw [show madeIn _ owner last = _ from madeIn_markUsed id sessionId owner last]
    exact limited owner last
  · intro key row held
    obtain ⟨old, there, -⟩ := find_markUsed held
    exact numbered key old there
  · intro key row held
    obtain ⟨old, there, -, created, -⟩ := find_markUsed held
    rw [created]
    exact stamped key old there
  · intro key owing
    rcases owes_of_set owing with new | old
    · cases new
    · exact owed key old
  · intro key row held used
    by_cases here : key = id
    · rw [here]
      exact mine
    · obtain ⟨old, there, -, -, -, same⟩ := find_markUsed held
      exact spent key old there ((same here).symm.trans used)
  · intro key member
    by_cases here : key = id
    · subst here
      obtain ⟨opening, listed, rfl⟩ := List.mem_map.mp member
      obtain ⟨row, there, -⟩ := timely opening listed
      refine .inl ⟨_, (Table.find_amend _ _ _).trans (congrArg _ there), ?_⟩
      dsimp only
      rw [if_pos rfl]
    · rcases backed key member with ⟨row, there, used⟩ | owing
      · refine .inl ⟨_, (Table.find_amend _ _ _).trans (congrArg _ there), ?_⟩
        dsimp only
        rw [if_neg here]
        exact used
      · exact .inr (owes_kept found owing (by simpa [Call.owes, eq_comm] using here))

theorem Sound.inserted (sound : Sound server) {requestedBy : Uuid}
    {ipAddress : Option String} (found : server.calls[index]? = some (.counted user requestedBy ipAddress))
    (free : insertable server (newCode sha256Hex server user requestedBy ipAddress drawn.code) = true)
    (owes : call.owes = none) (fine : Fine sha256Hex server (.advance index drawn)) :
    Sound { server with
      reauthCodes := server.reauthCodes.put server.issued (newCode sha256Hex server user requestedBy ipAddress drawn.code)
      issued := server.issued + 1
      calls := server.calls.set index call } := by
  have counted := fine _ found free
  have unnumbered : server.reauthCodes.find server.issued = none := by
    cases held : server.reauthCodes.find server.issued with
    | none => rfl
    | some row => exact absurd (sound.numbered _ row held) (Nat.lt_irrefl _)
  have room : madeIn server.reauthCodes user server.accounts.now.truncate <
      server.config.reauthMaxRequestsPerUserPerDay.toNat := by
    rw [sound.recentCount_eq] at counted
    omega
  have kept (key : Nat) (row : ReauthCode) (held : server.reauthCodes.find key = some row) :
      (server.reauthCodes.put server.issued
        (newCode sha256Hex server user requestedBy ipAddress drawn.code)).find key = some row := by
    refine (Table.find_put_ne ?_).trans held
    rintro rfl
    cases unnumbered.symm.trans held
  obtain ⟨⟨once, timely, limited⟩, numbered, stamped, owed, spent, backed⟩ := sound
  refine ⟨⟨once, ?_, ?_⟩, ?_, ?_, ?_, ?_, ?_⟩
  · intro opening member
    obtain ⟨row, there, inTime⟩ := timely opening member
    exact ⟨row, kept _ _ there, inTime⟩
  · refine madeIn_put_le unnumbered (fun key row held => ?_) limited room
    exact (whole_milliseconds (stamped key row held).1 (stamped key row held).2).1
  · refine Table.forall_put (P := fun key (_ : ReauthCode) => key < server.issued + 1) (Nat.lt_succ_self _) fun key row held => ?_
    exact Nat.lt_succ_of_lt (numbered key row held)
  · refine Table.forall_put (P := fun _ (row : ReauthCode) => row.createdAt ≤ server.accounts.now ∧
      row.createdAt.truncate = row.createdAt) ⟨truncate_le _, truncate_whole _⟩ stamped
  · intro key owing
    rcases owes_of_set owing with new | old
    · cases owes.symm.trans new
    · exact owed key old
  · refine Table.forall_put (P := fun key (row : ReauthCode) => row.isUsed = true → key ∈ server.openings.map Opening.code)
      (by rintro ⟨⟩) spent
  · intro key member
    rcases backed key member with ⟨row, there, used⟩ | owing
    · exact .inl ⟨row, kept _ _ there, used⟩
    · exact .inr (owes_kept found owing (by simp [Call.owes]))

theorem sound_change (change : Change sha256Hex server event next) (sound : Sound server)
    (fine : Fine sha256Hex server event) : Sound next := by
  cases change with
  | aside codes issued config openings later owes => exact sound.aside codes issued config openings later owes
  | opened found ran => exact sound.opened found ran fine
  | marked found => exact sound.marked found
  | inserted found free owes => exact sound.inserted found free owes fine

/-- A lawful step is fine: what a check would refuse now breaks one of the laws. -/
theorem fine_of_lawful (change : Change sha256Hex server event next) (sound : Sound server) (lawful : Lawful next) :
    Fine sha256Hex server event := by
  cases change with
  | aside _ _ _ _ _ _ fine => exact fine
  | @opened _ id _ _ _ _ _ _ found =>
    intro call there
    cases found.symm.trans there
    intro _
    have fresh : id ∉ server.openings.map Opening.code := by
      have once := lawful.once
      rw [List.map_append, List.nodup_append] at once
      exact fun member => once.2.2 id member id (by simp) rfl
    obtain ⟨row, there, inTime⟩ := lawful.timely ⟨id, server.accounts.now⟩ (by simp)
    refine ⟨⟨row, there, ?_, inTime⟩, fun call member owes => ?_⟩
    · rw [← Bool.not_eq_true]
      exact fun used => fresh (sound.spent id row there used)
    · exact fresh (sound.owed id (List.mem_map.mpr ⟨call, member, owes⟩))
  | marked found =>
    intro call there
    cases found.symm.trans there
    trivial
  | @inserted _ drawn user requestedBy ipAddress found =>
    intro call there
    cases found.symm.trans there
    intro _
    have unnumbered : server.reauthCodes.find server.issued = none := by
      cases held : server.reauthCodes.find server.issued with
      | none => rfl
      | some row => exact absurd (sound.numbered _ row held) (Nat.lt_irrefl _)
    have limited := lawful.limited user server.accounts.now.truncate
    unfold madeIn at limited
    rw [Table.count_put_new unnumbered] at limited
    have own : (decide ((newCode sha256Hex server user requestedBy ipAddress drawn.code).userId = user) &&
        (decide (server.accounts.now.truncate - day <
            (newCode sha256Hex server user requestedBy ipAddress drawn.code).createdAt) &&
          decide ((newCode sha256Hex server user requestedBy ipAddress drawn.code).createdAt ≤
            server.accounts.now.truncate))) = true := by
      have within : server.accounts.now.truncate - day < server.accounts.now.truncate := by
        exact Int.sub_lt_self _ (by decide)
      simp [newCode, within]
    rw [own] at limited
    have same := sound.recentCount_eq user
    unfold madeIn at same
    rw [same]
    simp only [Bool.toNat_true] at limited
    omega

theorem started_sound (started : Started server) : Sound server := by
  obtain ⟨calls, codes, _, openings⟩ := started
  refine ⟨⟨?_, ?_, ?_⟩, ?_, ?_, ?_, ?_, ?_⟩
  · simp [openings]
  · simp [openings]
  · simp [codes, madeIn]
  · simp [codes]
  · simp [codes]
  · simp [Owing, calls]
  · simp [codes]
  · simp [openings]

end Steps

/-- The laws hold wherever a run leads exactly when each check of it still holds at the statement
that it guards. -/
theorem lawful_iff {sha256Hex : String → String} {start : Server} {steps : List (Server × Event × Server)}
    (started : Started start) (trace : Trace (step sha256Hex) start steps) :
    (∀ moved ∈ steps, Lawful moved.2.2) ↔ ∀ moved ∈ steps, Fine sha256Hex moved.1 moved.2.1 := by
  have keeps : ∀ (server : Server) (event : Event) (next : Server), Sound server →
      step sha256Hex server event = some next → Fine sha256Hex server event → Sound next :=
    fun server event next sound moved fine => sound_change (change_of_step moved) sound fine
  exact @Trace.good_iff _ _ _ _ _ Sound (fun server event _ => Fine sha256Hex server event)
    (fun _ _ next => Lawful next) trace (started_sound started) keeps fun server event next sound moved =>
      ⟨fine_of_lawful (change_of_step moved) sound, fun fine => (keeps server event next sound moved fine).lawful⟩

/-! ## One code, and calls that overlap -/

def memberId : Uuid := Uuid.v7 1000 1

def phone : DeviceInfo := ⟨none, some "phone", none, none, none, none, none, true⟩

/-- A member with a profile, and one code a day. -/
def signedOut : Server where
  accounts :=
    { users := Table.empty.put memberId ⟨"ada", "Ada", none, .member, .active, none, true⟩
      userProfiles := Table.empty.put (Uuid.v7 1000 2) ⟨memberId, "Ada", true⟩
      profileDevicePreferences := Table.empty
      userCapabilities := Table.empty
      userSessions := Table.empty
      invitations := Table.empty
      deviceLinkingCodes := Table.empty
      issued := 0
      config := ⟨900, 5, 90⟩
      now := 0
      faults := [] }
  reauthCodes := Table.empty
  issued := 0
  config := ⟨24, 1⟩
  calls := []
  openings := []

theorem signedOut_started : Started signedOut := ⟨rfl, rfl, rfl, rfl⟩

/-- What the call at an index draws. -/
def draws (index : Nat) : Drawn :=
  ⟨⟨Uuid.v7 2000 index, Uuid.v7 3000 index, "token-" ++ toString index⟩, "mv_reauth-AAAA-BBBB-CCCC-000" ++ toString index⟩

def moves (count index : Nat) : List Event := List.replicate count (.advance index (draws index))

/-- A code is asked for and made. -/
def issue (index : Nat) : List Event := .create memberId memberId none :: moves 2 index

/-- The code that the first call made is presented. -/
def present : Event := .authenticate "mv_reauth-AAAA-BBBB-CCCC-0000" phone

/-- A check that makes an event fine. -/
def finely (server : Server) : Event → Bool
  | .advance index _ => (server.calls[index]?).all fun
    | .admitted id _ _ _ =>
      ((server.reauthCodes.find id).any fun row => !row.isUsed && decide (server.accounts.now ≤ row.expiresAt)) &&
        server.calls.all (·.owes != some id)
    | .counted user _ _ => decide (recentCount server user < server.config.reauthMaxRequestsPerUserPerDay)
    | _ => true
  | _ => true

theorem fine_of_finely (server : Server) (event : Event) (_ : Server) (checked : finely server event = true) :
    Fine sha256Hex server event := by
  cases event with
  | advance =>
    intro call found
    simp only [finely, found, Option.all_some] at checked
    cases call with
    | admitted =>
      simp only [Bool.and_eq_true, List.all_eq_true, bne_iff_ne] at checked
      obtain ⟨timely, unowed⟩ := checked
      obtain ⟨row, there, fresh⟩ := (Option.any_eq_true ..).mp timely
      exact fun _ => ⟨⟨row, there, by simpa using fresh⟩, unowed⟩
    | counted => exact fun _ => of_decide_eq_true checked
    | _ => trivial
  | _ => trivial

/-- A code is made, and one session is opened with it. -/
theorem session_lawful : ∃ steps, Trace (step id) signedOut steps ∧
    steps.map (fun moved => moved.2.1) = issue 0 ++ [present] ++ moves 6 1 ∧
    (∃ last, (issue 0 ++ [present] ++ moves 6 1).foldlM (step id) signedOut = some last ∧ last.openings = [⟨0, 0⟩] ∧
      (last.reauthCodes.find 0).map ReauthCode.isUsed = some true) ∧
    ∀ moved ∈ steps, Lawful moved.2.2 := by
  obtain ⟨last, led, opened⟩ : ∃ last, (issue 0 ++ [present] ++ moves 6 1).foldlM
      (fun s e => if finely s e then step id s e else none) signedOut = some last ∧ last.openings = [⟨0, 0⟩] ∧
      (last.reauthCodes.find 0).map ReauthCode.isUsed = some true := ⟨_, rfl, rfl, rfl⟩
  obtain ⟨steps, trace, same, followed, fine⟩ := exists_trace fine_of_finely led
  exact ⟨steps, trace, same, ⟨last, followed, opened⟩, (lawful_iff signedOut_started trace).mpr fine⟩

/-- Two calls with one code open a session each when both look before either sets the flag; two
calls make a code each when both count before either inserts; and a call that looked in time
opens its session after the expiry when the expiry comes in between. -/
theorem overlapping_unlawful :
    (¬ ∀ steps, Trace (step id) signedOut steps → ∀ moved ∈ steps, Lawful moved.2.2) ∧
    (∃ last, (issue 0 ++ [present, present] ++ moves 3 1 ++ moves 3 2 ++ moves 1 1 ++ moves 1 2).foldlM (step id)
        signedOut = some last ∧ last.openings.map Opening.code = [0, 0]) ∧
    (∃ last, ([Event.create memberId memberId none, Event.create memberId memberId none] ++ moves 1 0 ++ moves 1 1 ++ moves 1 0 ++
        moves 1 1).foldlM (step id) signedOut = some last ∧ madeIn last.reauthCodes memberId 0 = 2) ∧
    ∃ last, (issue 0 ++ [present] ++ moves 3 1 ++ [Event.wait (25 * 3600 * 1000000)] ++ moves 1 1).foldlM (step id)
        signedOut = some last ∧ last.openings = [⟨0, 25 * hour⟩] ∧
      (last.reauthCodes.find 0).map ReauthCode.expiresAt = some (24 * hour) := by
  have twice : ∃ last, (issue 0 ++ [present, present] ++ moves 3 1 ++ moves 3 2 ++ moves 1 1 ++ moves 1 2).foldlM
      (step id) signedOut = some last ∧ last.openings.map Opening.code = [0, 0] := ⟨_, rfl, rfl⟩
  refine ⟨fun all => ?_, twice, ⟨_, rfl, rfl⟩, _, rfl, rfl, rfl⟩
  obtain ⟨last, followed, codes⟩ := twice
  have lawful : Lawful last :=
    @Trace.everywhere _ _ _ _ Lawful (started_sound signedOut_started).lawful all _ _ followed
  have once := lawful.once
  rw [codes] at once
  exact absurd once (by decide)

end Duskcue.Reauth
