import Duskcue.AuthSteps
import Duskcue.Trace

/-! What device linking guarantees over whole runs. `Change` is everything one
transaction can do to the linking codes, with what it made sure of; every
invariant is a case analysis over it. A code gives one session at most, to the
user whose approval was committed, and its decision stands once it is made. -/
namespace Duskcue.Auth
open Playback (Uuid Time second)
open Transaction

variable {s s' : Store}

/-- A row an approval or a denial may still decide. -/
def DeviceLinkingCode.Pending (row : DeviceLinkingCode) : Prop := row.isApproved = false ∧ row.isDenied = false

/-- The columns a decision writes and nothing else does. -/
def DeviceLinkingCode.decision (row : DeviceLinkingCode) : Bool × Option Uuid × Option Time × Bool × Option Time :=
  (row.isApproved, row.approvedByUserId, row.approvedAt, row.isDenied, row.deniedAt)

/-- A row as it is written by a decision. -/
def DeviceLinkingCode.decided (row : DeviceLinkingCode) (user : Uuid) (approve : Bool) (now : Time) :
    DeviceLinkingCode :=
  { row with
    isApproved := approve
    approvedByUserId := if approve then some user else none
    approvedAt := if approve then some now else none
    isDenied := !approve
    deniedByUserId := if approve then none else some user
    deniedAt := if approve then none else some now }

/-- What one action can do to the linking codes. -/
inductive Change (action : LinkingAction) (s s' : Store) : Prop
  | kept (codes : s'.deviceLinkingCodes = s.deviceLinkingCodes) (issued : s'.issued = s.issued)
  | created (asked : ∃ params userCode deviceCode, action = .create params userCode deviceCode)
      (row : DeviceLinkingCode) (pending : row.Pending) (unapproved : row.approvedByUserId = none)
      (interval : row.pollIntervalSeconds = s.config.deviceLinkingPollIntervalSeconds)
      (positive : 0 < row.pollIntervalSeconds)
      (codes : s'.deviceLinkingCodes = s.deviceLinkingCodes.put s.issued row)
      (issued : s'.issued = s.issued + 1)
  | polled (id : Nat) (row : DeviceLinkingCode) (found : s.deviceLinkingCodes.find id = some row)
      (undenied : row.isDenied = false) (interval : Int)
      (slowed : interval = row.pollIntervalSeconds ∨ interval = nextIntervalSeconds (max row.pollIntervalSeconds 1))
      (positive : 0 < interval)
      (codes : s'.deviceLinkingCodes = s.deviceLinkingCodes.put id
        { row with lastPolledAt := some s.now, pollIntervalSeconds := interval })
      (issued : s'.issued = s.issued)
  | decided (id : Nat) (row : DeviceLinkingCode) (found : s.deviceLinkingCodes.find id = some row)
      (pending : row.Pending) (user : Uuid) (approve : Bool) (asked : ∃ userCode, action = .verify user userCode approve)
      (codes : s'.deviceLinkingCodes = s.deviceLinkingCodes.put id (row.decided user approve s.now))
      (issued : s'.issued = s.issued)
  | removed (id : Nat) (codes : s'.deviceLinkingCodes = s.deviceLinkingCodes.remove id)
      (issued : s'.issued = s.issued)
  | edited (gone : DeviceLinkingCode → Bool) (known : Uuid → Bool)
      (codes : s'.deviceLinkingCodes = (s.deviceLinkingCodes.discard fun _ row => gone row).amend fun _ row =>
        { row with deniedByUserId := row.deniedByUserId.filter known })
      (issued : s'.issued = s.issued)

variable {id : Nat}

theorem findCode_find (found : findCode s chosen = some (id, row)) :
    s.deviceLinkingCodes.find id = some row ∧ chosen row = true := by
  unfold findCode at found
  obtain ⟨key, first, held⟩ := Option.bind_eq_some_iff.mp found
  obtain ⟨value, present, same⟩ := Option.map_eq_some_iff.mp held
  cases same
  have member := List.mem_of_mem_head? first
  obtain ⟨other, same, chosen⟩ := Table.mem_select.mp member
  cases present.symm.trans same
  exact ⟨present, chosen⟩

/-! ## The transactions -/

theorem updateCode_yields :
    Yields (updateCode id row) s u s' ↔ 0 < row.pollIntervalSeconds ∧
      s' = { s with deviceLinkingCodes := s.deviceLinkingCodes.put id row } := by
  simp [updateCode, require_yields, and_assoc]

theorem deleteCode_yields :
    Yields (deleteCode id) s u s' ↔
      s' = { s with deviceLinkingCodes := s.deviceLinkingCodes.remove id } := by
  simp [deleteCode]

section
variable {sha256Hex : String → String}

theorem create_changes (ran : Yields (createDeviceLinkingCode sha256Hex params userCode deviceCode) s u s') :
    Change (.create params userCode deviceCode) s s' ∧ s'.now = s.now := by
  unfold createDeviceLinkingCode at ran
  simp only [yields_bind, yields_get, require_yields, yields_set] at ran
  obtain ⟨_, _, inserts, _, _, ⟨rfl, rfl⟩, _, _, ⟨positive, rfl⟩, _, _, ⟨-, rfl⟩, rfl⟩ := ran
  obtain ⟨faults, rfl⟩ := statement_yields inserts
  exact ⟨.created ⟨_, _, _, rfl⟩ _ ⟨rfl, rfl⟩ rfl rfl (by simpa using positive) rfl rfl, rfl⟩

/-- The session an approved code is exchanged for. -/
structure Redeemed (s s' : Store) (id : Nat) (row : DeviceLinkingCode) (draw : Draw) (session : UserSession) :
    Prop where
  opened : ∃ user, row.approvedByUserId = some user ∧ session.userId = user
  createdAt : session.createdAt = s.now
  absent : s.userSessions.find draw.sessionId = none
  inserted : s'.userSessions = s.userSessions.put draw.sessionId session
  codes : s'.deviceLinkingCodes = s.deviceLinkingCodes.remove id
  issued : s'.issued = s.issued
  now : s'.now = s.now

theorem redeem_yields
    (ran : Yields (redeem sha256Hex id row draw) s response s') : ∃ session, Redeemed s s' id row draw session := by
  unfold redeem at ran
  simp only [yields_bind, yields_get, yields_demand, deleteCode_yields, yields_pure] at ran
  obtain ⟨user, _, ⟨approver, rfl⟩, session, a, opens, _, b, looks, _, _, ⟨rfl, rfl⟩, _, _, ⟨-, rfl⟩, _, c,
    resolves, _, d, deletes, _, _, rfl, -, rfl⟩ := ran
  have opened := createSession_yields opens
  obtain ⟨faults, rfl⟩ := statement_yields looks
  obtain ⟨apart, sessions⟩ := resolveCapabilities_yields resolves
  obtain ⟨rest, rfl⟩ := statement_yields deletes
  refine ⟨session, ⟨user, approver, opened.userId⟩, opened.createdAt, opened.absent, ?_, ?_, ?_, ?_⟩
  · rw [← opened.inserted]
    exact sessions
  · simp only
    rw [apart.deviceLinkingCodes, opened.apart.deviceLinkingCodes]
  · exact apart.issued.trans opened.apart.issued
  · exact apart.now.trans opened.apart.now

/-- A poll at this time is to exchange the row for a session. -/
structure DeviceLinkingCode.Due (row : DeviceLinkingCode) (now : Time) : Prop where
  unexpired : now ≤ row.expiresAt
  undenied : row.isDenied = false
  patient : (row.lastPolledAt.any fun last => now < last + max row.pollIntervalSeconds 1 * second) = false
  approved : row.isApproved = true

/-- What a committed poll has done: it changed its code only, or it exchanged an approved
one for a session. -/
theorem poll_yields (ran : Yields (pollDeviceLinkingToken sha256Hex deviceCode draw) s reply s') :
    ∃ id row, findCode s (fun row => row.deviceCode = sha256Hex deviceCode) = some (id, row) ∧
      (¬ row.Due s.now ∧ Change (.poll deviceCode draw) s s' ∧ s'.now = s.now ∧ s'.userSessions = s.userSessions ∨
        row.Due s.now ∧ (∃ response, reply = .ok response) ∧ ∃ session, Redeemed s s' id row draw session) := by
  unfold pollDeviceLinkingToken at ran
  simp only [yields_bind, yields_get, yields_demand] at ran
  obtain ⟨_, a, looks, _, _, ⟨rfl, rfl⟩, ⟨id, row⟩, _, ⟨found, rfl⟩, ran⟩ := ran
  obtain ⟨faults, rfl⟩ := statement_yields looks
  have held := (findCode_find found).1
  refine ⟨id, row, found, ?_⟩
  simp only [yields_ite] at ran
  rcases ran with ⟨expired, ran⟩ | ⟨live, ⟨-, ran⟩ | ⟨undenied, ⟨soon, ran⟩ | ⟨patient, ran⟩⟩⟩
  · simp only [yields_bind, deleteCode_yields, yields_pure] at ran
    obtain ⟨_, _, deletes, _, _, rfl, _, _, commits, -, rfl⟩ := ran
    obtain ⟨more, rfl⟩ := statement_yields deletes
    obtain ⟨rest, rfl⟩ := statement_yields commits
    exact .inl ⟨fun due => Int.not_lt.mpr due.unexpired expired, .removed id rfl rfl, rfl, rfl⟩
  · cases yields_throw ran
  · simp only [yields_bind, updateCode_yields, yields_pure] at ran
    obtain ⟨_, _, writes, _, _, ⟨positive, rfl⟩, _, _, commits, -, rfl⟩ := ran
    obtain ⟨more, rfl⟩ := statement_yields writes
    obtain ⟨rest, rfl⟩ := statement_yields commits
    refine .inl ⟨fun due => ?_, .polled id row held (by simpa using undenied) _ (.inr rfl) positive rfl rfl, rfl, rfl⟩
    rw [due.patient] at soon
    cases soon
  · simp only [yields_bind, updateCode_yields] at ran
    obtain ⟨_, _, writes, _, _, ⟨positive, rfl⟩, ran⟩ := ran
    obtain ⟨more, rfl⟩ := statement_yields writes
    simp only [yields_ite] at ran
    rcases ran with ⟨pending, ran⟩ | ⟨approved, ran⟩
    · simp only [yields_bind, yields_pure] at ran
      obtain ⟨_, _, commits, -, rfl⟩ := ran
      obtain ⟨rest, rfl⟩ := statement_yields commits
      refine .inl ⟨fun due => ?_, .polled id row held (by simpa using undenied) _ (.inl rfl) positive rfl rfl, rfl, rfl⟩
      rw [due.approved] at pending
      cases pending
    · simp only [yields_bind, yields_pure] at ran
      obtain ⟨response, _, redeems, _, _, commits, rfl, rfl⟩ := ran
      obtain ⟨session, redeemed⟩ := redeem_yields redeems
      obtain ⟨rest, rfl⟩ := statement_yields commits
      refine .inr ⟨⟨by simpa using live, by simpa using undenied, by simpa using patient, by simpa using approved⟩,
        ⟨response, rfl⟩, session, redeemed.opened, redeemed.createdAt, redeemed.absent, redeemed.inserted, ?_,
        redeemed.issued, redeemed.now⟩
      rw [redeemed.codes, Table.remove_put]

theorem Redeemed.change
    (redeemed : Redeemed s s' id row draw session) (action : LinkingAction) : Change action s s' :=
  .removed id redeemed.codes redeemed.issued

end

theorem verify_changes (ran : Yields (verifyDeviceLinkingCode user userCode approve) s reply s') :
    Change (.verify user userCode approve) s s' ∧ s'.now = s.now := by
  unfold verifyDeviceLinkingCode at ran
  simp only [yields_bind, yields_get, yields_demand] at ran
  obtain ⟨_, a, looks, _, _, ⟨rfl, rfl⟩, ⟨id, row⟩, _, ⟨found, rfl⟩, ran⟩ := ran
  obtain ⟨faults, rfl⟩ := statement_yields looks
  simp only [yields_ite] at ran
  rcases ran with ⟨-, ran⟩ | ⟨-, ⟨-, ran⟩ | ⟨pending, ran⟩⟩
  · simp only [yields_bind, deleteCode_yields, yields_pure] at ran
    obtain ⟨_, _, deletes, _, _, rfl, _, _, commits, -, rfl⟩ := ran
    obtain ⟨more, rfl⟩ := statement_yields deletes
    obtain ⟨rest, rfl⟩ := statement_yields commits
    exact ⟨.removed id rfl rfl, rfl⟩
  · cases yields_throw ran
  · simp only [yields_bind, require_yields, updateCode_yields, yields_pure] at ran
    obtain ⟨_, _, writes, _, _, ⟨-, rfl⟩, _, _, ⟨-, rfl⟩, _, _, commits, -, rfl⟩ := ran
    obtain ⟨more, rfl⟩ := statement_yields writes
    obtain ⟨rest, rfl⟩ := statement_yields commits
    exact ⟨.decided id row (findCode_find found).1 (by simpa [DeviceLinkingCode.Pending] using pending) user approve
      ⟨userCode, rfl⟩ rfl rfl, rfl⟩

theorem inspect_reads
    (ran : Yields (getDeviceLinkingRequest userCode) s reply s') : ∃ faults, s' = { s with faults } := by
  unfold getDeviceLinkingRequest at ran
  simp only [yields_bind, yields_get, yields_demand] at ran
  obtain ⟨_, a, looks, _, _, ⟨rfl, rfl⟩, ⟨id, row⟩, _, ⟨-, rfl⟩, ran⟩ := ran
  obtain ⟨faults, rfl⟩ := statement_yields looks
  simp only [yields_ite, yields_pure] at ran
  rcases ran with ⟨-, -, rfl⟩ | ⟨-, ⟨-, ran⟩ | ⟨-, ⟨-, ran⟩ | ⟨-, -, rfl⟩⟩⟩
  · exact ⟨_, rfl⟩
  · cases yields_throw ran
  · cases yields_throw ran
  · exact ⟨_, rfl⟩

theorem administer_changes (ran : Yields (administerAccounts accounts config) s u s') :
    Change (.administer accounts config) s s' ∧ s'.now = s.now := by
  unfold administerAccounts at ran
  cases yields_modify.mp ran
  exact ⟨.edited _ (fun user => (accounts.users.find user).isSome) rfl rfl, rfl⟩

/-! ## Moves -/

theorem perform_cases {α : Type} (sys : LinkingSystem) (tx : Tx α) (lost : Bool) (reply : α → LinkingReply) :
    (∃ value store, Yields tx sys.store value store ∧ (sys.perform tx lost reply).2 = { sys with store }) ∨
      (sys.perform tx lost reply).2 = sys := by
  unfold LinkingSystem.perform
  rcases settle_cases tx sys.store with ⟨value, store, ran, settled⟩ | ⟨error, -, settled⟩
  · exact .inl ⟨value, store, ran, by rw [settled]⟩
  · exact .inr (by rw [settled])

section
variable (sha256Hex : String → String)

/-- Every move changes the codes in one of the ways listed, and leaves the clock. -/
theorem act_changes (sys : LinkingSystem) (lost : Bool) (action : LinkingAction) :
    Change action sys.store (linkingAct sha256Hex sys lost action).2.store ∧
      (linkingAct sha256Hex sys lost action).2.store.now = sys.store.now := by
  have still : ∀ {action}, Change action sys.store sys.store ∧ sys.store.now = sys.store.now :=
    ⟨.kept rfl rfl, rfl⟩
  cases action with
  | create params userCode deviceCode =>
    simp only [linkingAct]
    rcases perform_cases sys (createDeviceLinkingCode sha256Hex params userCode deviceCode) lost fun _ => .done with
      ⟨_, _, ran, after⟩ | after
    · rw [after]
      exact create_changes ran
    · rw [after]
      exact still
  | poll deviceCode draw =>
    simp only [linkingAct]
    rcases perform_cases sys (pollDeviceLinkingToken sha256Hex deviceCode draw) lost (.of .token) with
      ⟨_, _, ran, after⟩ | after
    · rw [after]
      obtain ⟨_, _, -, ⟨-, change, now, -⟩ | ⟨-, -, _, redeemed⟩⟩ := poll_yields ran
      · exact ⟨change, now⟩
      · exact ⟨redeemed.change _, redeemed.now⟩
    · rw [after]
      exact still
  | verify user userCode approve =>
    simp only [linkingAct]
    rcases perform_cases sys (verifyDeviceLinkingCode user userCode approve) lost (.of .verified) with
      ⟨_, _, ran, after⟩ | after
    · rw [after]
      exact verify_changes ran
    · rw [after]
      exact still
  | inspect _ userCode =>
    simp only [linkingAct]
    rcases settle_cases (getDeviceLinkingRequest userCode) sys.store with
      ⟨reply, store, ran, settled⟩ | ⟨_, -, settled⟩
    · obtain ⟨faults, rfl⟩ := inspect_reads ran
      rw [settled]
      cases reply <;> exact ⟨.kept rfl rfl, rfl⟩
    · rw [settled]
      exact still
  | inspectDelete =>
    simp only [linkingAct]
    split
    · exact still
    · rename_i id found
      rcases perform_cases sys (do statement; deleteCode id) lost
        (fun _ => LinkingReply.refused .deviceLinkingExpired) with ⟨_, _, ran, after⟩ | after
      · rw [after]
        simp only [yields_bind, deleteCode_yields] at ran
        obtain ⟨_, _, deletes, rfl⟩ := ran
        obtain ⟨faults, rfl⟩ := statement_yields deletes
        exact ⟨.removed id rfl rfl, rfl⟩
      · rw [after]
        exact still
  | administer accounts config =>
    simp only [linkingAct]
    rcases perform_cases sys (administerAccounts accounts config) lost fun _ => .done with
      ⟨_, _, ran, after⟩ | after
    · rw [after]
      exact administer_changes ran
    · rw [after]
      exact still

theorem next_changes (sys : LinkingSystem) (move : LinkingMove) :
    Change move.action (sys.arrive move.elapsed move.faults).store (linkingNext sha256Hex sys move).store ∧
      (linkingNext sha256Hex sys move).store.now = sys.store.now + move.elapsed :=
  act_changes sha256Hex (sys.arrive move.elapsed move.faults) move.lost move.action

end

/-! ## Rows along a run -/

/-- An approval has its user and its time and excludes a denial, and the interval is
positive. -/
structure DeviceLinkingCode.Valid (row : DeviceLinkingCode) (now : Time) : Prop where
  approved : row.isApproved = true → row.isDenied = false ∧
    ∃ user time, row.approvedByUserId = some user ∧ row.approvedAt = some time ∧ time ≤ now
  positive : 0 < row.pollIntervalSeconds

/-- What holds of every code. -/
structure Sound (s : Store) : Prop where
  numbered : ∀ {id row}, s.deviceLinkingCodes.find id = some row → id < s.issued
  valid : ∀ {id row}, s.deviceLinkingCodes.find id = some row → row.Valid s.now

/-- A row and the same row later. -/
structure Later (row row' : DeviceLinkingCode) : Prop where
  expiresAt : row'.expiresAt = row.expiresAt
  decision : ¬ row.Pending → row'.decision = row.decision
  bounded : row'.pollIntervalSeconds ≤ max 60 row.pollIntervalSeconds
  slowed : row.pollIntervalSeconds ≤ 60 →
    row.pollIntervalSeconds ≤ row'.pollIntervalSeconds ∧ row'.pollIntervalSeconds ≤ 60

theorem Later.refl (row : DeviceLinkingCode) : Later row row :=
  ⟨rfl, fun _ => rfl, Int.le_max_right _ _, fun le => ⟨Int.le_refl _, le⟩⟩

theorem DeviceLinkingCode.pending_iff (row : DeviceLinkingCode) :
    row.Pending ↔ row.decision.1 = false ∧ row.decision.2.2.2.1 = false := Iff.rfl

theorem Later.trans {first second third : DeviceLinkingCode} (one : Later first second)
    (two : Later second third) : Later first third := by
  refine ⟨two.expiresAt.trans one.expiresAt, fun settled => ?_, ?_, fun le => ?_⟩
  · have same := one.decision settled
    refine (two.decision ?_).trans same
    rw [DeviceLinkingCode.pending_iff, same]
    exact settled
  · have le := two.bounded
    have before := one.bounded
    omega
  · obtain ⟨up, cap⟩ := one.slowed le
    obtain ⟨more, top⟩ := two.slowed cap
    omega

theorem nextInterval_le (interval : Int) : nextIntervalSeconds interval ≤ 60 := Int.min_le_right _ _

theorem le_nextInterval (positive : 0 < interval) (le : interval ≤ 60) :
    interval ≤ nextIntervalSeconds (max interval 1) := by
  have same : max interval 1 = interval := by omega
  have wrapped : wrapping32 (interval + 5) = interval + 5 := by
    unfold wrapping32
    rw [Int.bmod_eq_of_le (by omega) (by omega)]
  rw [same, nextIntervalSeconds, wrapped]
  omega

variable {id : Nat} {row row' : DeviceLinkingCode} {action : LinkingAction}

theorem Change.later (change : Change action s s') (sound : Sound s) (found : s.deviceLinkingCodes.find id = some row)
    (still : s'.deviceLinkingCodes.find id = some row') : Later row row' := by
  cases change with
  | kept codes =>
    rw [codes, found] at still
    cases still
    exact .refl _
  | created _ _ _ _ _ _ codes =>
    have other : id ≠ s.issued := Nat.ne_of_lt (sound.numbered found)
    rw [codes, Table.find_put_ne other, found] at still
    cases still
    exact .refl _
  | polled key _ held _ _ slowed _ codes =>
    by_cases same : id = key
    · subst same
      cases held.symm.trans found
      rw [codes, Table.find_put_self] at still
      cases still
      refine ⟨rfl, fun _ => rfl, ?_, fun le => ?_⟩
      · rcases slowed with rfl | rfl
        · exact Int.le_max_right _ _
        · have cap := nextInterval_le (max row.pollIntervalSeconds 1)
          simp only
          omega
      · rcases slowed with rfl | rfl
        · exact ⟨Int.le_refl _, le⟩
        · exact ⟨le_nextInterval (sound.valid found).positive le, nextInterval_le _⟩
    · rw [codes, Table.find_put_ne same, found] at still
      cases still
      exact .refl _
  | decided key _ held pending _ _ _ codes =>
    by_cases same : id = key
    · subst same
      cases held.symm.trans found
      rw [codes, Table.find_put_self] at still
      cases still
      exact ⟨rfl, fun settled => (settled pending).elim, Int.le_max_right _ _, fun le => ⟨Int.le_refl _, le⟩⟩
    · rw [codes, Table.find_put_ne same, found] at still
      cases still
      exact .refl _
  | removed _ codes =>
    rw [codes, Table.find_remove] at still
    split at still
    · cases still
    · rw [found] at still
      cases still
      exact .refl _
  | edited _ _ codes =>
    rw [codes, Table.find_amend] at still
    obtain ⟨old, kept, rfl⟩ := Option.map_eq_some_iff.mp still
    rw [Table.find_discard, found] at kept
    cases kept.1
    exact ⟨rfl, fun _ => rfl, Int.le_max_right _ _, fun le => ⟨Int.le_refl _, le⟩⟩

/-- A code that is gone stays gone. -/
theorem Change.absent (change : Change action s s') (old : id < s.issued) (gone : s.deviceLinkingCodes.find id = none) :
    s'.deviceLinkingCodes.find id = none ∧ id < s'.issued := by
  cases change with
  | kept codes => exact ⟨by rw [codes, gone], by omega⟩
  | created _ _ _ _ _ _ codes =>
    exact ⟨by rw [codes, Table.find_put_ne (Nat.ne_of_lt old), gone], by omega⟩
  | polled key row held _ _ _ _ codes issued | decided key row held _ _ _ _ codes issued =>
    refine ⟨?_, by omega⟩
    rw [codes, Table.find_put]
    split
    · rename_i same
      rw [← same, gone] at held
      cases held
    · exact gone
  | removed _ codes =>
    refine ⟨?_, by omega⟩
    rw [codes, Table.find_remove]
    split
    · rfl
    · exact gone
  | edited _ _ codes =>
    refine ⟨?_, by omega⟩
    rw [codes, Table.find_amend]
    cases held : (s.deviceLinkingCodes.discard _).find id with
    | none => rfl
    | some =>
      rw [Table.find_discard, gone] at held
      cases held.1

/-- Where a row of the changed table comes from. -/
theorem Change.origin (change : Change action s s') (still : s'.deviceLinkingCodes.find id = some row') :
    (∃ row, s.deviceLinkingCodes.find id = some row) ∨
      id = s.issued ∧ s'.issued = s.issued + 1 ∧ row'.Pending ∧ 0 < row'.pollIntervalSeconds ∧
        (∃ params userCode deviceCode, action = .create params userCode deviceCode) ∧
        row'.pollIntervalSeconds = s.config.deviceLinkingPollIntervalSeconds := by
  cases held : s.deviceLinkingCodes.find id with
  | some row => exact .inl ⟨row, rfl⟩
  | none =>
    right
    cases change with
    | created asked _ pending _ interval positive codes issued =>
      rw [codes, Table.find_put] at still
      split at still
      · cases still
        exact ⟨‹_›, issued, pending, positive, asked, interval⟩
      · rw [held] at still
        cases still
    | kept codes =>
      rw [codes, held] at still
      cases still
    | polled key row found _ _ _ _ codes _ | decided key row found _ _ _ _ codes _ =>
      rw [codes, Table.find_put] at still
      split at still
      · rename_i same
        rw [← same, held] at found
        cases found
      · rw [held] at still
        cases still
    | removed _ codes =>
      rw [codes, Table.find_remove, held] at still
      split at still <;> cases still
    | edited _ _ codes =>
      rw [codes, Table.find_amend] at still
      obtain ⟨old, kept, rfl⟩ := Option.map_eq_some_iff.mp still
      rw [Table.find_discard, held] at kept
      cases kept.1

theorem DeviceLinkingCode.Pending.valid (pending : row.Pending) (positive : 0 < row.pollIntervalSeconds)
    (now : Time) : row.Valid now := by
  refine ⟨fun approved => ?_, positive⟩
  rw [pending.1] at approved
  cases approved

theorem Sound.change (sound : Sound s) (change : Change action s s') (now : s'.now = s.now) : Sound s' := by
  have issued : s.issued ≤ s'.issued := by
    cases change <;> omega
  refine ⟨fun {id row'} still => ?_, fun {id row'} still => ?_⟩
  · rcases change.origin still with ⟨row, found⟩ | ⟨rfl, more, -⟩
    · have old := sound.numbered found
      omega
    · omega
  · rw [now]
    cases change with
    | kept codes =>
      rw [codes] at still
      exact sound.valid still
    | created _ _ pending _ _ positive codes =>
      rw [codes, Table.find_put] at still
      split at still
      · cases still
        exact pending.valid positive _
      · exact sound.valid still
    | polled _ _ held _ _ _ positive codes =>
      rw [codes, Table.find_put] at still
      split at still
      · cases still
        exact ⟨(sound.valid held).approved, positive⟩
      · exact sound.valid still
    | decided _ _ held _ user approve _ codes =>
      rw [codes, Table.find_put] at still
      split at still
      · cases still
        refine ⟨fun approved => ?_, (sound.valid held).positive⟩
        have yes : approve = true := approved
        exact ⟨by simp [DeviceLinkingCode.decided, yes], user, s.now, by simp [DeviceLinkingCode.decided, yes],
          by simp [DeviceLinkingCode.decided, yes], Int.le_refl _⟩
      · exact sound.valid still
    | removed _ codes =>
      rw [codes, Table.find_remove] at still
      split at still
      · cases still
      · exact sound.valid still
    | edited _ _ codes =>
      rw [codes, Table.find_amend] at still
      obtain ⟨old, kept, rfl⟩ := Option.map_eq_some_iff.mp still
      have held := sound.valid (Table.find_discard.mp kept).1
      exact ⟨held.approved, held.positive⟩

theorem Sound.arrive {sys : LinkingSystem} (sound : Sound sys.store) (elapsed : Nat) (faults : List Bool) :
    Sound (sys.arrive elapsed faults).store := by
  refine ⟨sound.numbered, fun found => ?_⟩
  have held := sound.valid found
  refine ⟨fun approved => ?_, held.positive⟩
  obtain ⟨undenied, user, time, named, stamped, past⟩ := held.approved approved
  refine ⟨undenied, user, time, named, stamped, Int.le_trans past ?_⟩
  exact Int.le_add_of_nonneg_right (Int.natCast_nonneg elapsed)

section
variable (sha256Hex : String → String)

variable {sys : LinkingSystem}

theorem Sound.next (sound : Sound sys.store) (move : LinkingMove) :
    Sound (linkingNext sha256Hex sys move).store := by
  obtain ⟨change, now⟩ := next_changes sha256Hex sys move
  exact (sound.arrive move.elapsed move.faults).change change now

theorem Sound.run (sound : Sound sys.store) (moves : List LinkingMove) :
    Sound (linkingRun sha256Hex sys moves).store := by
  induction moves generalizing sys with
  | nil => exact sound
  | cons move _ ih => exact ih (sound.next sha256Hex move)

theorem sound_deployed (accounts : Accounts) (config : AuthConfig) (now : Time) :
    Sound (LinkingSystem.deployed accounts config now).store :=
  ⟨fun found => by simp [LinkingSystem.deployed] at found, fun found => by simp [LinkingSystem.deployed] at found⟩

theorem issued_next (sys : LinkingSystem) (move : LinkingMove) :
    sys.store.issued ≤ (linkingNext sha256Hex sys move).store.issued := by
  cases (next_changes sha256Hex sys move).1 <;> simp_all [LinkingSystem.arrive]

theorem absent_next (move : LinkingMove) (old : id < sys.store.issued)
    (gone : sys.store.deviceLinkingCodes.find id = none) :
    (linkingNext sha256Hex sys move).store.deviceLinkingCodes.find id = none ∧
      id < (linkingNext sha256Hex sys move).store.issued :=
  (next_changes sha256Hex sys move).1.absent old gone

/-- A code that is gone stays gone. -/
theorem absent_run (moves : List LinkingMove) (old : id < sys.store.issued)
    (gone : sys.store.deviceLinkingCodes.find id = none) :
    (linkingRun sha256Hex sys moves).store.deviceLinkingCodes.find id = none := by
  induction moves generalizing sys with
  | nil => exact gone
  | cons move _ ih =>
    obtain ⟨gone, old⟩ := absent_next sha256Hex move old gone
    exact ih old gone

theorem later_run (sound : Sound sys.store) (moves : List LinkingMove)
    (found : sys.store.deviceLinkingCodes.find id = some row)
    (still : (linkingRun sha256Hex sys moves).store.deviceLinkingCodes.find id = some row') : Later row row' := by
  induction moves generalizing sys row with
  | nil =>
    cases found.symm.trans still
    exact .refl _
  | cons move moves ih =>
    have change := (next_changes sha256Hex sys move).1
    have after := sound.next sha256Hex move
    cases held : (linkingNext sha256Hex sys move).store.deviceLinkingCodes.find id with
    | some =>
      exact (change.later (sound.arrive move.elapsed move.faults) found held).trans (ih after held still)
    | none =>
      have old : id < (linkingNext sha256Hex sys move).store.issued := by
        have before := sound.numbered found
        have grows := issued_next sha256Hex sys move
        omega
      have gone := absent_run sha256Hex moves old held
      cases gone.symm.trans still

/-! ## Sessions -/

/-- The session a move has a poll create, with the code it comes from. -/
def sessionFrom (sys : LinkingSystem) (move : LinkingMove) : Option (Nat × UserSession) :=
  match move.action with
  | .poll deviceCode draw =>
    (findCode sys.store fun row => row.deviceCode = sha256Hex deviceCode).bind fun code =>
      if (sys.store.userSessions.find draw.sessionId).isSome then none
      else ((linkingNext sha256Hex sys move).store.userSessions.find draw.sessionId).map (code.1, ·)
  | _ => none

/-- A session comes from an approved code, in time, and takes the code with it. -/
theorem sessionFrom_redeems (created : sessionFrom sha256Hex sys move = some (id, session)) :
    ∃ row, sys.store.deviceLinkingCodes.find id = some row ∧ row.Due (sys.store.now + move.elapsed) ∧
      row.approvedByUserId = some session.userId ∧ session.createdAt = sys.store.now + move.elapsed ∧
      (linkingNext sha256Hex sys move).store.deviceLinkingCodes.find id = none := by
  obtain ⟨elapsed, faults, lost, action⟩ := move
  cases action with
  | poll deviceCode draw =>
    obtain ⟨⟨key, row⟩, found, opened⟩ := Option.bind_eq_some_iff.mp created
    split at opened
    · cases opened
    · rename_i fresh
      obtain ⟨after, inserted, same⟩ := Option.map_eq_some_iff.mp opened
      cases same
      have held := (findCode_find found).1
      rw [Option.not_isSome_iff_eq_none] at fresh
      simp only [linkingNext, linkingStep, linkingAct] at inserted ⊢
      rcases perform_cases (sys.arrive elapsed faults) (pollDeviceLinkingToken sha256Hex deviceCode draw) lost
        (.of .token) with ⟨_, _, ran, after⟩ | after
      · rw [after] at inserted ⊢
        obtain ⟨key', row', found', ⟨-, -, -, sessions⟩ | ⟨due, -, _, redeemed⟩⟩ := poll_yields ran
        · rw [sessions] at inserted
          cases fresh.symm.trans inserted
        · cases found.symm.trans found'
          rw [redeemed.inserted, Table.find_put_self] at inserted
          cases inserted
          obtain ⟨user, approver, owner⟩ := redeemed.opened
          refine ⟨row, held, due, by rw [approver, owner], redeemed.createdAt, ?_⟩
          rw [redeemed.codes, Table.find_remove, if_pos rfl]
      · rw [after] at inserted
        cases fresh.symm.trans inserted
  | _ => cases created

/-- Whether a move has a session created from the code. -/
def redeems (id : Nat) (sys : LinkingSystem) (move : LinkingMove) : Bool :=
  (sessionFrom sha256Hex sys move).any (·.1 = id)

theorem redeems_iff :
    redeems sha256Hex id sys move = true ↔ ∃ session, sessionFrom sha256Hex sys move = some (id, session) := by
  unfold redeems
  cases created : sessionFrom sha256Hex sys move with
  | none => simp
  | some pair =>
    obtain ⟨key, session⟩ := pair
    simp

/-- A code that is gone or denied gives no session. -/
def Closed (id : Nat) (sys : LinkingSystem) : Prop :=
  id < sys.store.issued ∧
    ∀ row, sys.store.deviceLinkingCodes.find id = some row → row.isApproved = false ∧ row.isDenied = true

theorem Closed.next (move : LinkingMove) (sound : Sound sys.store) (closed : Closed id sys) :
    Closed id (linkingNext sha256Hex sys move) := by
  obtain ⟨old, denied⟩ := closed
  have change := (next_changes sha256Hex sys move).1
  refine ⟨Nat.lt_of_lt_of_le old (issued_next sha256Hex sys move), fun row' still => ?_⟩
  cases found : sys.store.deviceLinkingCodes.find id with
  | none =>
    have gone := (absent_next sha256Hex move old found).1
    cases gone.symm.trans still
  | some row =>
    obtain ⟨unapproved, refused⟩ := denied row found
    have settled : ¬ row.Pending := fun pending => by
      rw [pending.2] at refused
      cases refused
    have same := (change.later (sound.arrive move.elapsed move.faults) found still).decision settled
    simp only [DeviceLinkingCode.decision, Prod.mk.injEq] at same
    exact ⟨same.1.trans unapproved, same.2.2.2.1.trans refused⟩

theorem Closed.barred (move : LinkingMove) (closed : Closed id sys) :
    redeems sha256Hex id sys move = false := by
  by_contra happens
  obtain ⟨session, created⟩ := (redeems_iff sha256Hex).mp (by simpa using happens)
  obtain ⟨row, found, due, -⟩ := sessionFrom_redeems sha256Hex created
  have refused := (closed.2 row found).2
  rw [due.undenied] at refused
  cases refused

/-- A code gives one session at most. -/
theorem redeemed_at_most_once (sound : Sound sys.store) (moves : List LinkingMove) :
    occurrences (linkingNext sha256Hex) (redeems sha256Hex id) sys moves ≤ 1 := by
  have kept : ∀ sys : LinkingSystem, ∀ move, Sound sys.store → Sound (linkingNext sha256Hex sys move).store :=
    fun sys move sound => sound.next sha256Hex move
  refine occurrences_le_one (Closed id) kept (fun sys move sound closed => closed.next sha256Hex move sound)
    (fun sys move _ closed => closed.barred sha256Hex move) (fun sys move sound happens => ?_) sound moves
  obtain ⟨session, created⟩ := (redeems_iff sha256Hex).mp happens
  obtain ⟨row, found, -, -, -, gone⟩ := sessionFrom_redeems sha256Hex created
  refine ⟨Nat.lt_of_lt_of_le (sound.numbered found) (issued_next sha256Hex sys move), fun row' still => ?_⟩
  cases gone.symm.trans still

theorem denied_gives_none (sound : Sound sys.store) (moves : List LinkingMove)
    (found : sys.store.deviceLinkingCodes.find id = some row) (denied : row.isDenied = true) :
    occurrences (linkingNext sha256Hex) (redeems sha256Hex id) sys moves = 0 := by
  have kept : ∀ sys : LinkingSystem, ∀ move, Sound sys.store → Sound (linkingNext sha256Hex sys move).store :=
    fun sys move sound => sound.next sha256Hex move
  refine occurrences_spent (Closed id) kept (fun sys move sound closed => closed.next sha256Hex move sound)
    (fun sys move _ closed => closed.barred sha256Hex move) sound ⟨sound.numbered found, fun row' still => ?_⟩ moves
  cases found.symm.trans still
  refine ⟨?_, denied⟩
  by_contra approved
  have refused := ((sound.valid found).approved (by simpa using approved)).1
  rw [denied] at refused
  cases refused

/-! ## Approvals -/

/-- The code stands approved. -/
def Approved (id : Nat) (sys : LinkingSystem) : Prop :=
  ∃ row, sys.store.deviceLinkingCodes.find id = some row ∧ row.isApproved = true

theorem approval_move (before : ¬ Approved id sys) (after : Approved id (linkingNext sha256Hex sys move)) :
    ∃ user userCode row, move.action = .verify user userCode true ∧
      sys.store.deviceLinkingCodes.find id = some row ∧ row.Pending ∧
      (linkingNext sha256Hex sys move).store.deviceLinkingCodes.find id =
        some (row.decided user true (sys.store.now + move.elapsed)) := by
  obtain ⟨row', still, approved⟩ := after
  have change := (next_changes sha256Hex sys move).1
  have unapproved : ∀ {row}, sys.store.deviceLinkingCodes.find id = some row → row.isApproved = false := by
    intro row found
    by_contra yes
    exact before ⟨row, found, by simpa using yes⟩
  cases change with
  | kept codes =>
    rw [codes] at still
    cases (unapproved still).symm.trans approved
  | created _ _ pending _ _ _ codes =>
    rw [codes, Table.find_put] at still
    split at still
    · cases still
      cases pending.1.symm.trans approved
    · cases (unapproved still).symm.trans approved
  | polled key old held _ _ _ _ codes =>
    rw [codes, Table.find_put] at still
    split at still
    · rename_i same
      subst same
      cases still
      cases (unapproved held).symm.trans approved
    · cases (unapproved still).symm.trans approved
  | decided key old held pending user approve asked codes =>
    rw [codes, Table.find_put] at still
    split at still
    · rename_i same
      subst same
      cases still
      have yes : approve = true := approved
      subst yes
      obtain ⟨userCode, verified⟩ := asked
      refine ⟨user, userCode, old, verified, held, pending, ?_⟩
      rw [codes, Table.find_put_self]
      rfl
    · cases (unapproved still).symm.trans approved
  | removed _ codes =>
    rw [codes, Table.find_remove] at still
    split at still
    · cases still
    · cases (unapproved still).symm.trans approved
  | edited _ _ codes =>
    rw [codes, Table.find_amend] at still
    obtain ⟨old, kept, rfl⟩ := Option.map_eq_some_iff.mp still
    cases (unapproved (Table.find_discard.mp kept).1).symm.trans approved

theorem linkingRun_append (sys : LinkingSystem) (left right : List LinkingMove) :
    linkingRun sha256Hex sys (left ++ right) = linkingRun sha256Hex (linkingRun sha256Hex sys left) right :=
  List.foldl_append

theorem approved_by (sound : Sound sys.store) (unapproved : ¬ Approved id sys)
    (found : (linkingRun sha256Hex sys moves).store.deviceLinkingCodes.find id = some row)
    (approved : row.isApproved = true) :
    ∃ earlier approval later user userCode pending, moves = earlier ++ approval :: later ∧
      approval.action = .verify user userCode true ∧
      (linkingRun sha256Hex sys earlier).store.deviceLinkingCodes.find id = some pending ∧ pending.Pending ∧
      row.approvedByUserId = some user ∧
      row.approvedAt = some ((linkingRun sha256Hex sys earlier).store.now + approval.elapsed) := by
  have reached : Approved id (moves.foldl (linkingNext sha256Hex) sys) := ⟨row, found, approved⟩
  obtain ⟨earlier, approval, later, rfl, unmet, met⟩ := exists_first unapproved reached
  obtain ⟨user, userCode, pending, verified, held, fresh, decided⟩ := approval_move sha256Hex unmet met
  refine ⟨earlier, approval, later, user, userCode, pending, rfl, verified, held, fresh, ?_⟩
  rw [linkingRun_append] at found
  have after := (sound.run sha256Hex earlier).next sha256Hex approval
  have later := later_run sha256Hex after later decided found
  have settled : ¬ (pending.decided user true
      ((earlier.foldl (linkingNext sha256Hex) sys).store.now + approval.elapsed)).Pending := fun open_ => by
    cases open_.1
  have same := later.decision settled
  simp only [DeviceLinkingCode.decision, Prod.mk.injEq] at same
  exact ⟨same.2.1, same.2.2.1⟩

/-! ## Polling again -/

theorem redeem_succeeds (clear : s.faults = [])
    (approver : row.approvedByUserId = some user) (order : InOrder sha256Hex s user draw) :
    Succeeds (redeem sha256Hex id row draw) s fun _ t => t.faults = [] := by
  obtain ⟨account, found, -⟩ := order.account
  obtain ⟨present, active⟩ := order.active account found
  refine .demand_bind approver (.bind (createSession_succeeds clear order.toOpenable _) fun session a opened calm => ?_)
  have apart := (createSession_yields opened).apart
  refine statement_bind calm (.get_bind (.demand_bind (a := account) ?_ ?_))
  · rw [apart.users, found]
    simp [present, active]
  · refine .bind (resolveCapabilities_succeeds calm user account.role) fun capabilities b _ calm => ?_
    exact statement_bind calm (.modify_bind (.pure calm))

/-- A poll that is due gets its session where the database fails nothing and the account
is in order. -/
theorem poll_succeeds (clear : s.faults = [])
    (found : findCode s (fun row => row.deviceCode = sha256Hex deviceCode) = some (id, row))
    (due : row.Due s.now) (positive : 0 < row.pollIntervalSeconds)
    (approver : row.approvedByUserId = some user) (order : InOrder sha256Hex s user draw) :
    Succeeds (pollDeviceLinkingToken sha256Hex deviceCode draw) s fun reply _ => ∃ response, reply = .ok response := by
  refine statement_bind clear (.get_bind (.demand_bind found ?_))
  simp only
  rw [if_neg (Int.not_lt.mpr due.unexpired), if_neg (by simp [due.undenied]), if_neg (by simp [due.patient])]
  have polled : Succeeds (updateCode id { row with lastPolledAt := some s.now }) s fun _ t => t =
      { s with deviceLinkingCodes := s.deviceLinkingCodes.put id { row with lastPolledAt := some s.now } } :=
    ⟨(), _, updateCode_yields.mpr ⟨positive, rfl⟩, rfl⟩
  refine statement_bind clear (polled.bind ?_)
  rintro - _ - rfl
  rw [if_neg (by simp [due.approved])]
  have still : InOrder sha256Hex
      { s with deviceLinkingCodes := s.deviceLinkingCodes.put id { row with lastPolledAt := some s.now } } user draw :=
    ⟨⟨order.account, order.session, order.token⟩, order.active⟩
  refine .bind (redeem_succeeds sha256Hex clear approver still) fun response b _ calm => ?_
  exact statement_bind calm (.pure ⟨response, rfl⟩)

theorem DeviceLinkingCode.Due.later (due : row.Due now) (le : now ≤ then_)
    (unexpired : then_ ≤ row.expiresAt) : row.Due then_ := by
  refine ⟨unexpired, due.undenied, ?_, due.approved⟩
  cases polled : row.lastPolledAt with
  | none => rfl
  | some =>
    have patient := due.patient
    rw [polled] at patient
    simp only [Option.any_some, decide_eq_false_iff_not, Int.not_lt] at patient ⊢
    exact Int.le_trans patient le

/-- A poll for a session that did not get one. -/
structure Failed (sys : LinkingSystem) (move : LinkingMove) (deviceCode : String) (draw : Draw) (id : Nat)
    (row : DeviceLinkingCode) : Prop where
  polls : move.action = .poll deviceCode draw
  kept : move.lost = false
  found : findCode sys.store (fun row => row.deviceCode = sha256Hex deviceCode) = some (id, row)
  due : row.Due (sys.store.now + move.elapsed)
  refused : ∀ response, (linkingStep sha256Hex sys move).1 ≠ .token response

/-- A poll that fails to open the session is rolled back as a whole. -/
theorem Failed.unchanged (failed : Failed sha256Hex sys move deviceCode draw id row) :
    linkingNext sha256Hex sys move = sys.arrive move.elapsed move.faults := by
  obtain ⟨elapsed, faults, lost, action⟩ := move
  obtain ⟨polls, kept, found, due, refused⟩ := failed
  simp only at polls kept due
  subst polls kept
  simp only [linkingNext, linkingStep, linkingAct, LinkingSystem.perform] at refused ⊢
  rcases settle_cases (pollDeviceLinkingToken sha256Hex deviceCode draw) (sys.arrive elapsed faults).store with
    ⟨reply, store, ran, settled⟩ | ⟨error, -, settled⟩
  · obtain ⟨key, row', found', ⟨undue, -⟩ | ⟨-, ⟨response, rfl⟩, -⟩⟩ := poll_yields ran
    · cases found.symm.trans found'
      cases undue due
    · rw [settled] at refused
      cases refused response rfl
  · rw [settled]

theorem Failed.retries (sound : Sound sys.store) {move again : LinkingMove}
    (failed : Failed sha256Hex sys move deviceCode draw id row)
    (polls : again.action = .poll deviceCode draw') (clear : again.faults = []) (kept : again.lost = false)
    (unexpired : sys.store.now + move.elapsed + again.elapsed ≤ row.expiresAt)
    (order : ∀ user, row.approvedByUserId = some user → InOrder sha256Hex sys.store user draw') :
    ∃ response, (linkingStep sha256Hex (linkingNext sha256Hex sys move) again).1 = .token response := by
  have held := (findCode_find failed.found).1
  obtain ⟨-, user, -, approver, -⟩ := (sound.valid held).approved failed.due.approved
  rw [failed.unchanged sha256Hex]
  have due : row.Due (sys.store.now + move.elapsed + again.elapsed) :=
    failed.due.later (Int.le_add_of_nonneg_right (Int.natCast_nonneg _)) unexpired
  obtain ⟨elapsed, faults, lost, action⟩ := again
  simp only at polls clear kept due
  subst polls clear kept
  have accounts := order user approver
  obtain ⟨reply, store, ran, response, rfl⟩ := poll_succeeds sha256Hex
    (s := ((sys.arrive move.elapsed move.faults).arrive elapsed []).store)
    rfl failed.found due (sound.valid held).positive approver
    ⟨⟨accounts.account, accounts.session, accounts.token⟩, accounts.active⟩
  refine ⟨response, ?_⟩
  have settled : settle (pollDeviceLinkingToken sha256Hex deviceCode draw')
      ((sys.arrive move.elapsed move.faults).arrive elapsed []).store = (.ok (.ok response), store) := by
    unfold settle
    rw [show (pollDeviceLinkingToken sha256Hex deviceCode draw').run _ = .ok (.ok response, store) from ran]
  simp only [linkingStep, linkingAct, LinkingSystem.perform]
  rw [settled]
  rfl

/-! ## The law of a code -/

/-- What a run guarantees of the code with this number. -/
structure LinkingLaw (sys : LinkingSystem) (moves : List LinkingMove) (id : Nat) : Prop where
  once : occurrences (linkingNext sha256Hex) (redeems sha256Hex id) sys moves ≤ 1
  owned : ∀ {before move after session}, moves = before ++ move :: after →
    sessionFrom sha256Hex (linkingRun sha256Hex sys before) move = some (id, session) →
    ∃ earlier approval later userCode pending, before = earlier ++ approval :: later ∧
      approval.action = .verify session.userId userCode true ∧
      (linkingRun sha256Hex sys earlier).store.deviceLinkingCodes.find id = some pending ∧ pending.Pending ∧
      (linkingRun sha256Hex sys earlier).store.now + approval.elapsed ≤ session.createdAt ∧
      session.createdAt ≤ pending.expiresAt
  final : ∀ {before after row row'}, moves = before ++ after →
    (linkingRun sha256Hex sys before).store.deviceLinkingCodes.find id = some row → ¬ row.Pending →
    (linkingRun sha256Hex sys moves).store.deviceLinkingCodes.find id = some row' → row'.decision = row.decision
  denied : ∀ {before after row}, moves = before ++ after →
    (linkingRun sha256Hex sys before).store.deviceLinkingCodes.find id = some row → row.isDenied = true →
    occurrences (linkingNext sha256Hex) (redeems sha256Hex id) (linkingRun sha256Hex sys before) after = 0
  retried : ∀ {before move after deviceCode draw row}, moves = before ++ move :: after →
    Failed sha256Hex (linkingRun sha256Hex sys before) move deviceCode draw id row →
    linkingNext sha256Hex (linkingRun sha256Hex sys before) move =
        (linkingRun sha256Hex sys before).arrive move.elapsed move.faults ∧
      ∀ {again draw'}, again.action = .poll deviceCode draw' → again.faults = [] → again.lost = false →
        (linkingRun sha256Hex sys before).store.now + move.elapsed + again.elapsed ≤ row.expiresAt →
        (∀ user, row.approvedByUserId = some user →
          InOrder sha256Hex (linkingRun sha256Hex sys before).store user draw') →
        ∃ response, (linkingStep sha256Hex
          (linkingNext sha256Hex (linkingRun sha256Hex sys before) move) again).1 = .token response
  interval : ∀ {before after row row'}, moves = before ++ after →
    (linkingRun sha256Hex sys before).store.deviceLinkingCodes.find id = some row →
    (linkingRun sha256Hex sys moves).store.deviceLinkingCodes.find id = some row' →
    row.pollIntervalSeconds ≤ row'.pollIntervalSeconds ∧
      row'.pollIntervalSeconds ≤ max 60 row.pollIntervalSeconds

/-- A code is created while the configured interval is a minute at most. -/
def Moderate (sys : LinkingSystem) (move : LinkingMove) : Prop :=
  ∀ params userCode deviceCode, move.action = .create params userCode deviceCode →
    sys.store.config.deviceLinkingPollIntervalSeconds ≤ 60

/-- Every interval is a minute at most. -/
def Capped (sys : LinkingSystem) : Prop :=
  ∀ id row, sys.store.deviceLinkingCodes.find id = some row → row.pollIntervalSeconds ≤ 60

theorem Capped.next (sound : Sound sys.store)
    (moderate : Moderate sys move) (capped : Capped sys) : Capped (linkingNext sha256Hex sys move) := by
  intro id row' still
  have change := (next_changes sha256Hex sys move).1
  rcases change.origin still with ⟨row, found⟩ | ⟨-, -, -, -, ⟨_, _, _, creates⟩, interval⟩
  · exact ((change.later (sound.arrive move.elapsed move.faults) found still).slowed (capped id row found)).2
  · rw [interval]
    exact moderate _ _ _ creates

theorem capped_run (sound : Sound sys.store) (capped : Capped sys)
    (moderate : Throughout (linkingNext sha256Hex) Moderate sys moves) :
    Capped (linkingRun sha256Hex sys moves) := by
  have kept : ∀ sys move, Moderate sys move → Sound sys.store ∧ Capped sys →
      Sound (linkingNext sha256Hex sys move).store ∧ Capped (linkingNext sha256Hex sys move) :=
    fun sys move met held => ⟨held.1.next sha256Hex move, held.2.next sha256Hex held.1 met⟩
  exact (moderate.preserves kept ⟨sound, capped⟩).2

/-- Of every code, in every run whose codes are created with an interval of a minute at
most: one session at most, for the user whose approval was committed, between the
approval and the expiry; a decision that stands, and none after a denial; a failed exchange
that leaves the code as it was; an interval that only grows. -/
theorem linking_code_settles_once (accounts : Accounts) (config : AuthConfig) (now : Time)
    (moves : List LinkingMove)
    (moderate : Throughout (linkingNext sha256Hex) Moderate (.deployed accounts config now) moves) (id : Nat) :
    LinkingLaw sha256Hex (.deployed accounts config now) moves id := by
  have sound := sound_deployed accounts config now
  have unapproved : ¬ Approved id (.deployed accounts config now) := by
    rintro ⟨row, found, -⟩
    simp [LinkingSystem.deployed] at found
  refine ⟨redeemed_at_most_once sha256Hex sound moves, ?_, ?_, ?_, ?_, ?_⟩
  · rintro before move after session rfl created
    obtain ⟨row, found, due, owner, created, -⟩ := sessionFrom_redeems sha256Hex created
    obtain ⟨earlier, approval, later, user, userCode, pending, rfl, verified, held, fresh, by_, stamped⟩ :=
      approved_by sha256Hex sound unapproved found due.approved
    rw [owner] at by_
    cases by_
    obtain ⟨-, _, time, -, stamp, past⟩ := ((sound.run sha256Hex _).valid found).approved due.approved
    rw [stamped] at stamp
    cases stamp
    refine ⟨earlier, approval, later, userCode, pending, rfl, verified, held, fresh, ?_, ?_⟩
    · rw [created]
      exact Int.le_trans past (Int.le_add_of_nonneg_right (Int.natCast_nonneg _))
    · rw [linkingRun_append] at found
      rw [created, ← (later_run sha256Hex (sound.run sha256Hex earlier) (approval :: later) held found).expiresAt]
      exact due.unexpired
  · rintro before after row row' rfl found settled still
    rw [linkingRun_append] at still
    exact (later_run sha256Hex (sound.run sha256Hex before) after found still).decision settled
  · rintro before after row rfl found refused
    exact denied_gives_none sha256Hex (sound.run sha256Hex before) after found refused
  · rintro before move after deviceCode draw row rfl failed
    refine ⟨failed.unchanged sha256Hex, fun polls clear kept unexpired order => ?_⟩
    exact failed.retries sha256Hex (sound.run sha256Hex before) polls clear kept unexpired order
  · rintro before after row row' rfl found still
    have capped : Capped (linkingRun sha256Hex (.deployed accounts config now) before) := by
      refine capped_run sha256Hex sound ?_ (Throughout.append_left moderate)
      intro id row found
      simp [LinkingSystem.deployed] at found
    rw [linkingRun_append] at still
    have later := later_run sha256Hex (sound.run sha256Hex before) after found still
    exact ⟨(later.slowed (capped id row found)).1, later.bounded⟩

end

namespace Sample

def approver : Uuid := Uuid.v7 1 1

/-- One member with a default profile. -/
def accounts : Accounts where
  users := Table.empty.put approver ⟨"member", "Member", none, .member, .active, none, true⟩
  userProfiles := Table.empty.put (Uuid.v7 1 2) ⟨approver, "Member", true⟩
  profileDevicePreferences := .empty
  userCapabilities := .empty
  userSessions := .empty

def config : AuthConfig := ⟨900, 5, 90⟩

/-- The digests of the two texts hashed here. -/
def digest (text : String) : String :=
  if text = "device" then "263a4dbe41488fb87214b0032339dbb9f0c8da14c16dfcf13084bf3c2552eca5"
  else if text = "token" then "3c469e9d6c5875d37a43f353d4f88e61fcf812c66eee3457465a40b0da4153e0"
  else text

def create : LinkingMove :=
  ⟨0, [], false, .create ⟨some "tv", some "TV", none, none, none, none⟩ "BCDFGHJK" "device"⟩

def approve : LinkingMove := ⟨10, [], false, .verify approver "BCDF-GHJK" true⟩

def poll (elapsed : Nat) : LinkingMove :=
  ⟨elapsed, [], false, .poll "device" ⟨Uuid.v7 2 1, Uuid.v7 2 2, "token"⟩⟩

end Sample

open Sample in
theorem approved_device_linked :
    LinkingLaw digest (.deployed accounts config 0) [create, approve, poll 10] 0 ∧
      redeems digest 0 (linkingRun digest (.deployed accounts config 0) [create, approve]) (poll 10) = true := by
  refine ⟨linking_code_settles_once digest accounts config 0 [create, approve, poll 10]
    ⟨?_, ?_, ?_, trivial⟩ 0, by decide +kernel⟩
  · intro _ _ _ _
    decide +kernel
  · intro _ _ _ creates
    cases creates
  · intro _ _ _ creates
    cases creates

open Sample in
/-- A code created with an interval of ninety seconds: the first poll that comes too soon
cuts it to sixty. -/
theorem early_poll_shortens_interval :
    ¬ LinkingLaw digest (.deployed accounts ⟨900, 90, 90⟩ 0) [create, poll 10, poll 10] 0 := by
  intro law
  have start : ((linkingRun digest (.deployed accounts ⟨900, 90, 90⟩ 0) [create]).store.deviceLinkingCodes.find 0).map
      (·.pollIntervalSeconds) = some 90 := by decide +kernel
  have finish : ((linkingRun digest (.deployed accounts ⟨900, 90, 90⟩ 0)
      [create, poll 10, poll 10]).store.deviceLinkingCodes.find 0).map (·.pollIntervalSeconds) = some 60 := by
    decide +kernel
  obtain ⟨row, found, first⟩ := Option.map_eq_some_iff.mp start
  obtain ⟨row', still, last⟩ := Option.map_eq_some_iff.mp finish
  have cut : [create, poll 10, poll 10] = [create] ++ [poll 10, poll 10] := rfl
  have grows := (law.interval cut found still).1
  rw [first, last] at grows
  omega

end Duskcue.Auth
