import Duskcue.AuthSteps
import Duskcue.OwnerAuthority

/-! The two ways a capability is looked up. The endpoints of the auth domain resolve
the whole list of an account: the defaults of its role, changed by its rows one after
another. The management of live television asks for a single capability instead, and
for an account without a row of that name it goes by the role alone. -/
namespace Duskcue.Authorization
open Playback (Uuid)
open Household (Scope OwnerError Verifiers sessionScope)
open Auth (Role applyOverride allCapabilities roleDefaultCapabilities resolveCapabilities)
open Transaction

/-- One database, in the columns that the auth domain and the household domain read. -/
structure Database where
  accounts : Auth.Store
  household : Household.Store

abbrev Tx := Transaction Database OwnerError

/-- Statements that concern the household only. -/
def onHousehold {α : Type} (tx : Household.Tx α) : Tx α := fun db =>
  match tx.run db.household with
  | .ok (value, household) => .ok (value, { db with household })
  | .error error => .error error

/-- `users WHERE status='active' AND deleted_at IS NULL`. -/
def activeRole (db : Database) (user : Uuid) : Option Role :=
  ((db.accounts.users.find user).filter fun row => row.status = .active && row.deletedAt.isNone).map (·.role)

section
variable (env : Verifiers)

/-- `household_security::access::allowed`. -/
def allowed (actor : Scope) (capability : String) : Tx Bool := do
  let db ← get
  let role ← demand (activeRole db actor.user) .invalidProof
  onHousehold (sessionScope env actor true)
  let db ← get
  let value := db.accounts.userCapabilities.find (actor.user, capability)
  pure (role = .owner || value.getD (role = .admin))

end

/-! ## Folding the rows -/

section
variable {capability : String} {capabilities : List String}

theorem mem_applyOverride (override : String × Bool) :
    capability ∈ applyOverride capabilities override ↔
      if override.1 = capability then override.2 = true else capability ∈ capabilities := by
  obtain ⟨name, granted⟩ := override
  cases granted with
  | true =>
    simp only [applyOverride, if_true, List.contains_iff_mem]
    by_cases same : name = capability <;> by_cases there : name ∈ capabilities <;> simp_all [eq_comm]
  | false =>
    simp only [applyOverride, Bool.false_eq_true, if_false, List.mem_filter, decide_eq_true_eq]
    split
    · rename_i same
      simp [same]
    · rename_i other
      simp [Ne.symm other]

/-- Rows of different names leave a granted capability in and a denied one out; a capability
without a row stays as it was. -/
theorem mem_foldl_applyOverride {overrides : List (String × Bool)} (distinct : (overrides.map Prod.fst).Nodup) :
    capability ∈ overrides.foldl applyOverride capabilities ↔
      (capability, true) ∈ overrides ∨ capability ∈ capabilities ∧ (capability, false) ∉ overrides := by
  induction overrides generalizing capabilities with
  | nil => simp
  | cons override overrides ih =>
    obtain ⟨name, granted⟩ := override
    simp only [List.map_cons, List.nodup_cons] at distinct
    obtain ⟨fresh, distinct⟩ := distinct
    rw [List.foldl_cons, ih distinct, mem_applyOverride]
    by_cases same : name = capability
    · subst same
      have unlisted (answer : Bool) : (name, answer) ∉ overrides := fun member => fresh (List.mem_map_of_mem member)
      cases granted <;> simp [unlisted]
    · simp [same, Ne.symm same]

end

theorem rows_distinct (s : Auth.Store) (user : Uuid) :
    ((s.userCapabilities.select fun key _ => key.1 = user).map Prod.snd).Nodup := by
  refine List.Nodup.map_on ?_ (Table.select_nodup _ _)
  rintro ⟨_, name⟩ first ⟨_, _⟩ second rfl
  obtain ⟨-, -, mine⟩ := Table.mem_select.mp first
  obtain ⟨-, -, too⟩ := Table.mem_select.mp second
  simp only [decide_eq_true_eq] at mine too
  rw [mine, too]

/-- A row decides; without one the defaults of the role do. -/
theorem mem_resolveCapabilities (known : capability ∈ allCapabilities)
    (resolved : Yields (resolveCapabilities user role) s capabilities s') :
    capability ∈ capabilities ↔ role = .owner ∨
      (s.userCapabilities.find (user, capability)).getD ((roleDefaultCapabilities role).contains capability) = true := by
  unfold resolveCapabilities at resolved
  rw [yields_ite] at resolved
  rcases resolved with ⟨owner, resolved⟩ | ⟨other, resolved⟩
  · obtain ⟨rfl, -⟩ := yields_pure.mp resolved
    simp [owner, known]
  · simp only [yields_bind, yields_get, yields_pure] at resolved
    obtain ⟨_, _, looked, _, _, ⟨rfl, rfl⟩, rfl, -⟩ := resolved
    obtain ⟨faults, rfl⟩ := Auth.statement_yields looked
    have distinct := rows_distinct s user
    rw [mem_foldl_applyOverride (by simpa [List.map_map, Function.comp_def] using distinct)]
    have listed (answer : Bool) : (capability, answer) ∈
        (s.userCapabilities.select fun key _ => key.1 = user).map
          (fun key => (key.2, (s.userCapabilities.find key).getD false)) ↔
        s.userCapabilities.find (user, capability) = some answer := by
      rw [List.mem_map]
      constructor
      · rintro ⟨⟨owner, name⟩, member, same⟩
        obtain ⟨row, found, mine⟩ := Table.mem_select.mp member
        simp only [decide_eq_true_eq, Prod.mk.injEq] at mine same
        obtain ⟨rfl, rfl⟩ := same
        subst mine
        rw [found, Option.getD_some]
      · intro found
        exact ⟨(user, capability), Table.mem_select.mpr ⟨answer, found, by simp⟩, by simp [found]⟩
    rw [listed true, listed false]
    cases s.userCapabilities.find (user, capability) with
    | none => simp [other]
    | some answer => cases answer <;> simp [other]

/-! ## Asking for one capability -/

section
variable {env : Verifiers} {db : Database} {actor : Scope} {role : Role} {after : Household.Store}

theorem onHousehold_yields {α : Type} {tx : Household.Tx α} {value : α}
    (ran : Yields tx db.household value after) : Yields (onHousehold tx) db value { db with household := after } := by
  unfold Yields at ran ⊢
  unfold onHousehold
  simp only [StateT.run] at ran ⊢
  rw [ran]

/-- An active account with a valid scope gets an answer. -/
theorem allowed_yields (active : activeRole db actor.user = some role)
    (valid : Yields (sessionScope env actor true) db.household () after) (capability : String) :
    Yields (allowed env actor capability) db
      (role = .owner || (db.accounts.userCapabilities.find (actor.user, capability)).getD (role = .admin))
      { db with household := after } := by
  simp only [allowed, yields_get_bind, yields_demand_bind]
  refine ⟨role, active, yields_bind.mpr ⟨(), _, onHousehold_yields valid, ?_⟩⟩
  simp

/-- Where the defaults of a role are not what the role alone says: an administrator has every
default but live television, and nobody else is without defaults. -/
def defaultsDiffer (role : Role) (capability : String) : Prop :=
  role = .admin ∧ capability = "can_use_live_tv" ∨
  role = .member ∧ (capability = "play_media" ∨ capability = "can_download" ∨ capability = "can_share_content") ∨
  role = .guest ∧ capability = "play_media"

theorem defaultsDiffer_iff (known : capability ∈ allCapabilities) (other : role ≠ .owner) :
    defaultsDiffer role capability ↔
      (roleDefaultCapabilities role).contains capability ≠ decide (role = .admin) := by
  have each : ∀ name ∈ allCapabilities, (defaultsDiffer role name ↔
      (roleDefaultCapabilities role).contains name ≠ decide (role = .admin)) := by
    cases role with
    | owner => exact absurd rfl other
    | admin | member | guest => simp [allCapabilities, defaultsDiffer, roleDefaultCapabilities]
  exact each capability known

/-- The two ways agree exactly for the owner, where the account has a row of that name, and
where the defaults of its role are what the role alone says. -/
theorem allowed_agrees_iff {capability : String} {capabilities : List String} {rest : Auth.Store}
    (known : capability ∈ allCapabilities) (active : activeRole db actor.user = some role)
    (valid : Yields (sessionScope env actor true) db.household () after)
    (resolved : Yields (resolveCapabilities actor.user role) db.accounts capabilities rest) :
    ∃ answer, Yields (allowed env actor capability) db answer { db with household := after } ∧
      ((answer = true ↔ capability ∈ capabilities) ↔
        role = .owner ∨ (db.accounts.userCapabilities.find (actor.user, capability)).isSome = true ∨
          ¬ defaultsDiffer role capability) := by
  refine ⟨_, allowed_yields active valid capability, ?_⟩
  rw [mem_resolveCapabilities known resolved]
  by_cases owner : role = .owner
  · simp [owner]
  · rw [defaultsDiffer_iff known owner]
    cases db.accounts.userCapabilities.find (actor.user, capability) with
    | some answer => simp [owner]
    | none =>
      cases (roleDefaultCapabilities role).contains capability <;> by_cases admin : role = .admin <;>
        simp [owner, admin]

end

/-! ## An administrator without rows -/

/-- The household of `Household.household`, whose account is an administrator's. -/
def administration : Database where
  accounts :=
    { users := Table.empty.put Household.ownerId ⟨"ada", "Ada", none, .admin, .active, none, true⟩
      userProfiles := Table.empty
      profileDevicePreferences := Table.empty
      userCapabilities := Table.empty
      userSessions := Table.empty
      invitations := Table.empty
      deviceLinkingCodes := Table.empty
      issued := 0
      config := ⟨900, 5, 90⟩
      now := 0
      faults := [] }
  household := Household.household

theorem administration_active : activeRole administration (Household.ownerScope 1).user = some .admin := by decide

theorem administration_valid :
    Yields (sessionScope Household.digests (Household.ownerScope 1) true) administration.household ()
      administration.household := rfl

theorem administration_resolved :
    Yields (resolveCapabilities (Household.ownerScope 1).user .admin) administration.accounts
      (roleDefaultCapabilities .admin) administration.accounts := rfl

/-- The management path lets an administrator watch live television, and the defaults do not. -/
theorem administration_disagrees :
    ∃ answer capabilities, "can_use_live_tv" ∈ allCapabilities ∧
      Yields (allowed Household.digests (Household.ownerScope 1) "can_use_live_tv") administration answer administration ∧
      Yields (resolveCapabilities (Household.ownerScope 1).user .admin) administration.accounts capabilities
        administration.accounts ∧
      answer = true ∧ "can_use_live_tv" ∉ capabilities :=
  ⟨_, _, by simp [allCapabilities], allowed_yields administration_active administration_valid _,
    administration_resolved, by decide, by simp [roleDefaultCapabilities]⟩

theorem administration_manages :
    ∃ answer, Yields (allowed Household.digests (Household.ownerScope 1) "can_manage_users") administration answer
        administration ∧
      (answer = true ↔ "can_manage_users" ∈ roleDefaultCapabilities .admin) := by
  obtain ⟨answer, ran, agrees⟩ := allowed_agrees_iff (show "can_manage_users" ∈ allCapabilities by simp [allCapabilities])
    administration_active administration_valid administration_resolved
  exact ⟨answer, ran, agrees.mpr (.inr (.inr (by simp [defaultsDiffer])))⟩

end Duskcue.Authorization
