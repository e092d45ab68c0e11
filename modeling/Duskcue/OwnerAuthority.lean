import Duskcue.OwnerProofs

/-! What it takes to be authorised in a protected household. The proof behind a
grant is traced back to the transaction of the run that made it; from there on the
history holds nothing that ends the grant. -/
namespace Duskcue.Household
open Playback (Uuid Time second)
open Transaction Relation

variable {s s' : Store} {env : Verifiers}

/-! ## Where proofs come from -/

theorem calm_history (steps : ReflTransGen Calm s s') :
    ∃ events, s'.history = s.history ++ events ∧ ∀ proof, .proved proof ∉ events := by
  induction steps with
  | refl => exact ⟨[], by simp⟩
  | tail _ last ih =>
    obtain ⟨events, shape, calm⟩ := ih
    cases last with
    | quiet same => exact ⟨events, same.history.trans shape, calm⟩
    | challenge | handoff => exact ⟨events, shape, calm⟩
    | locked session => exact ⟨events ++ [.locked session], by simp [shape], by simpa using calm⟩
    | invalidated user => exact ⟨events ++ [.invalidated user], by simp [shape], by simpa using calm⟩

/-- What one transaction adds to the history: a proof exactly when it answers with one. -/
theorem next_history (env : Verifiers) (sound : Sound s) (move : Move) :
    ∃ events, (∀ proof, .proved proof ∉ events) ∧
      ((proofOf env s move = none ∧ (next env s move).history = s.history ++ events) ∨
        ∃ actor proven proof, proofOf env s move = some (actor, proven) ∧
          (next env s move).history = s.history ++ events ++ [.proved proof] ∧ proof.user = actor.user ∧
          proof.session = actor.session ∧ proof.profile = actor.profile ∧
          proven.context.credentialRevision = proof.version ∧ proof.time ≤ (next env s move).now) := by
  rcases next_cases sound move with ⟨none, steps⟩ | ⟨actor, proven, proof, before, after, answer, made⟩
  · obtain ⟨events, shape, calm⟩ := calm_history steps
    exact ⟨events, calm, Or.inl ⟨none, shape⟩⟩
  · obtain ⟨events, shape, calm⟩ := calm_history made.opening
    obtain ⟨revision, expiresAt, -, rfl⟩ := made.proves.inserted
    refine ⟨events, calm, Or.inr ⟨actor, proven, proof, answer, ?_, made.user, made.session, made.profile,
      made.version, ?_⟩⟩
    · rw [made.history, ← shape]
    · rw [made.proves.time]
      exact made.now

/-- An element that is not in the second part of a list is in the first. -/
theorem split_left {α : Type} {left right front back : List α} {x : α} (shape : left ++ right = front ++ x :: back)
    (absent : x ∉ right) : ∃ middle, left = front ++ x :: middle ∧ back = middle ++ right := by
  rcases List.append_eq_append_iff.mp shape with ⟨middle, rfl, rest⟩ | ⟨middle, rfl, rest⟩
  · exact (absent (by simp [rest])).elim
  · cases middle with
    | nil =>
      rw [List.nil_append] at rest
      exact (absent (by simp [← rest])).elim
    | cons _ middle =>
      simp only [List.cons_append, List.cons.injEq] at rest
      obtain ⟨rfl, rfl⟩ := rest
      exact ⟨middle, rfl, rfl⟩

theorem run_append (moves : List Move) (move : Move) : run env s (moves ++ [move]) = next env (run env s moves) move := by
  unfold run
  rw [List.foldl_append]
  rfl

/-- Every proof of the history was the answer of a transaction of the run. -/
theorem proof_origin (sound : Sound s) (empty : s.history = []) {moves : List Move} {front back : List Event}
    (shape : (run env s moves).history = front ++ .proved proof :: back) :
    ∃ earlier move later actor proven, moves = earlier ++ move :: later ∧
      proofOf env (run env s earlier) move = some (actor, proven) ∧ proof.user = actor.user ∧
      proof.session = actor.session ∧ proof.profile = actor.profile ∧
      proven.context.credentialRevision = proof.version ∧ proof.time ≤ (run env s (earlier ++ [move])).now ∧
      (run env s (earlier ++ [move])).history = front ++ [.proved proof] := by
  induction moves using List.reverseRecOn generalizing front back with
  | nil =>
    rw [run, List.foldl_nil, empty] at shape
    simp at shape
  | append_singleton moves move ih =>
    -- a proof of an earlier transaction stays where it was
    have earlier {rest : List Event} (old : (run env s moves).history = front ++ .proved proof :: rest) :
        ∃ earlier move' later actor proven, moves ++ [move] = earlier ++ move' :: later ∧
          proofOf env (run env s earlier) move' = some (actor, proven) ∧ proof.user = actor.user ∧
          proof.session = actor.session ∧ proof.profile = actor.profile ∧
          proven.context.credentialRevision = proof.version ∧ proof.time ≤ (run env s (earlier ++ [move'])).now ∧
          (run env s (earlier ++ [move'])).history = front ++ [.proved proof] := by
      obtain ⟨earlier, move', later, actor, proven, rfl, facts⟩ := ih old
      exact ⟨earlier, move', later ++ [move], actor, proven, by simp, facts⟩
    have sound : Sound (run env s moves) := run_sound sound moves
    obtain ⟨events, calm, added⟩ := next_history env sound move
    rw [run_append] at shape
    rcases added with ⟨-, history⟩ | ⟨actor, proven, new, answer, history, user, session, profile, version, time⟩
    · rw [history] at shape
      obtain ⟨rest, old, -⟩ := split_left shape (calm proof)
      exact earlier old
    · by_cases last : back = []
      · -- the proof of this transaction
        subst last
        rw [history] at shape
        obtain ⟨rfl, same⟩ := List.append_inj' shape rfl
        cases same
        exact ⟨moves, move, [], actor, proven, rfl, answer, user, session, profile, version,
          by rw [run_append]; exact time, by rw [run_append]; exact history⟩
      · obtain ⟨most, final, rfl⟩ : ∃ most final, back = most ++ [final] :=
          ⟨_, _, (List.dropLast_append_getLast last).symm⟩
        rw [history, ← List.cons_append, ← List.append_assoc] at shape
        obtain ⟨shape, -⟩ := List.append_inj' shape rfl
        obtain ⟨rest, old, -⟩ := split_left shape (calm proof)
        exact earlier old

/-! ## Authorisation -/

theorem begin_yields (ran : Yields (begin user) s u s') : ∃ ownerState, s' = { s with ownerState } := by
  unfold begin lockAccount at ran
  simp only [yields_modify_bind, yields_get_bind, yields_ensure] at ran
  obtain ⟨-, rfl⟩ := ran
  split
  · exact ⟨_, rfl⟩
  · exact ⟨s.ownerState, rfl⟩

theorem requireGrant_yields (ran : Yields (requireGrant scope) s u s') :
    Ticked s s' ∧ ∃ grant state, s.grants.find scope.session = some grant ∧ grant.userId = scope.user ∧
      grant.profileId = scope.profile ∧ grant.credentialVersion = scope.version ∧ s'.now < grant.expiresAt ∧
      s.ownerState.find scope.user = some state ∧ state.enabled = true ∧ state.lockedUntil.all (· ≤ s'.now) = true := by
  unfold requireGrant at ran
  obtain ⟨now, looked, first, ran⟩ := yields_bind.mp ran
  obtain ⟨later, pauses, rfl⟩ := clockTimestamp_yields first
  simp only [yields_get_bind, yields_ensure] at ran
  obtain ⟨valid, rfl⟩ := ran
  obtain ⟨grant, found, checks⟩ := (Option.any_eq_true _ _).mp valid
  simp only [Bool.and_eq_true, decide_eq_true_eq] at checks
  obtain ⟨⟨⟨⟨user, profile⟩, version⟩, fresh⟩, open'⟩ := checks
  obtain ⟨state, held, conditions⟩ := (Option.any_eq_true _ _).mp open'
  simp only [Bool.and_eq_true, decide_eq_true_eq] at conditions
  rw [user] at held
  exact ⟨⟨now, pauses, later, rfl⟩, grant, state, found, user, profile, version, fresh, held, conditions.1.2, conditions.2⟩

theorem authorize_yields (ran : Yields (authorize env user (some actor)) s true s') :
    Ticked s s' ∧ actor.user = user ∧ ∃ grant state, s.grants.find actor.session = some grant ∧ grant.userId = user ∧
      grant.profileId = actor.profile ∧ grant.credentialVersion = actor.version ∧ s'.now < grant.expiresAt ∧
      s'.ownerState.find user = some state ∧ state.enabled = true ∧ state.lockedUntil.all (· ≤ s'.now) = true := by
  unfold authorize fetchState at ran
  obtain ⟨state, first, fetched, rest⟩ := yields_bind.mp ran
  clear ran
  simp only [yields_get_bind, yields_demand] at fetched
  obtain ⟨held, rfl⟩ := fetched
  obtain ⟨mine, rest⟩ := yields_ensure_bind.mp rest
  have mine : actor.user = user := of_decide_eq_true mine
  obtain ⟨_, second, checked, rest⟩ := yields_bind.mp rest
  obtain ⟨ticked, -⟩ := sessionScope_yields checked
  split at rest
  · rename_i enabled
    obtain ⟨_, third, required, done⟩ := yields_bind.mp rest
    obtain ⟨-, rfl⟩ := yields_pure.mp done
    obtain ⟨further, grant, state', found, owner, profile, version, fresh, held', on, unlocked⟩ := requireGrant_yields required
    obtain ⟨now, pauses, later, rfl⟩ := ticked
    obtain ⟨now', pauses', later', rfl⟩ := further
    rw [mine] at owner held'
    exact ⟨⟨now', pauses', later.trans later', rfl⟩, mine, grant, state', found, owner, profile, version, fresh, held', on,
      unlocked⟩
  · rename_i disabled
    obtain ⟨same, -⟩ := yields_pure.mp rest
    exact (disabled same.symm).elim

/-- Authorisation in a protected household rests on one proof. The transaction that made it
belongs to the same session and profile, gave out the credential version that is presented,
and ended less than five minutes before; the history since then holds no lock of the session,
no invalidation of the household and no further proof of the session, and the household is
not locked out. No challenge and no handoff was the ground of two proofs. -/
theorem authorize_grounded (env : Verifiers) (s : Store) (founded : s.Founded) (moves : List Move) (wait : Nat)
    (pauses : List Nat) (user : Uuid) (actor : Scope) (s' : Store)
    (ran : Yields (do begin user; authorize env user (some actor))
      { run env s moves with now := (run env s moves).now + wait, pauses := pauses } true s') :
    (∃ earlier move later prover proven events, moves = earlier ++ move :: later ∧
      proofOf env (run env s earlier) move = some (prover, proven) ∧ prover.user = user ∧
      prover.session = actor.session ∧ prover.profile = actor.profile ∧
      proven.context.credentialRevision = actor.version ∧
      s'.now < (run env s (earlier ++ [move])).now + 5 * minute ∧
      (run env s moves).history = (run env s (earlier ++ [move])).history ++ events ∧
      ∀ event ∈ events, event.ends actor.session user = false) ∧
    (∃ state, s'.ownerState.find user = some state ∧ state.lockedUntil.all (· ≤ s'.now) = true) ∧
    (challengeGrounds (run env s moves).history).Nodup ∧ (handoffGrounds (run env s moves).history).Nodup := by
  have first : Sound s := founded_sound founded
  have sound : Sound (run env s moves) := run_sound first moves
  obtain ⟨_, begun, started, authorized⟩ := yields_bind.mp ran
  obtain ⟨ownerState, rfl⟩ := begin_yields started
  obtain ⟨-, mine, grant, state, found, owner, profile, version, fresh, held, -, unlocked⟩ := authorize_yields authorized
  obtain ⟨front, proof, back, shape, session, user', profile', version', expires, calm⟩ :=
    sound.backed actor.session grant found
  obtain ⟨earlier, move, later, prover, proven, split, answer, proofUser, proofSession, proofProfile, proofVersion,
    time, history⟩ := proof_origin first founded.history shape
  refine ⟨⟨earlier, move, later, prover, proven, back, split, answer, ?_, ?_, ?_, ?_, ?_, ?_, ?_⟩,
    ⟨state, held, unlocked⟩, sound.challengesOnce, sound.handoffsOnce⟩
  · rw [← proofUser, user', owner]
  · rw [← proofSession, session]
  · rw [← proofProfile, profile', profile]
  · rw [proofVersion, version', version]
  · calc s'.now < grant.expiresAt := fresh
      _ ≤ proof.time + 5 * minute := expires
      _ ≤ _ := Int.add_le_add_right time _
  · rw [shape, history]
    simp
  · rw [owner] at calm
    exact calm

/-! ## A household that is handed over -/

def ownerId : Uuid := Uuid.v7 1000 1
def sessionId : Uuid := Uuid.v7 1000 2
def profileId : Uuid := Uuid.v7 1000 3
def handoffToken : String := "duskcue-owner-AAECAwQFBgcICQoLDA0ODxAREhMUFRYXGBkaGxwdHh8"
def sessionToken : String := "202122232425262728292a2b2c2d2e2f303132333435363738393a3b3c3d3e3f"
def ownerPasswordHash : String :=
  "pbkdf2:000102030405060708090a0b0c0d0e0f:bb06c8c0b1dd5bfd4e40f4e297a2d0e64da7ef94b4b8ec20989021c8b41536ad"

/-- The digests of the texts above, and a password that fits its hash. -/
def digests : Verifiers where
  fingerprint text :=
    if text = handoffToken then "a2185fa3fdc77b93511220e88efdd2b6c56eb356232097f71a93379fd2250603"
    else if text = sessionToken then "31c0e4a8de3d32a8964f4dd6c3faae248a3994f3c4e226fdd8ee56904c96c6f7"
    else if text = ownerPasswordHash then "dd30f5f6e2b3deaf6c6ff20852fee27faa93686bc95fe2f606b1ff00649cabf1"
    else ""
  contextDigest _ _ _ version revision _ :=
    if version = 2 && revision = 1 then "sc1.eUcT3LTFTvV3T8Xs5d14D3DVen567tSLgenTAJYpBPA" else ""
  verifyPasswordHash hash password := hash = ownerPasswordHash && password = "correct horse battery"
  parsePasskey _ := none
  updateCredential key _ := key
  startAuthentication _ := none
  startRegistration _ _ _ _ := none
  validAssertion _ _ := false
  finishAuthentication _ _ := none
  validRegistration _ := false
  finishRegistration _ _ := none

def household : Store where
  users := Table.empty.put ownerId ⟨true, some ownerPasswordHash, "ada", "Ada"⟩
  userProfiles := Table.empty.put profileId ⟨ownerId, true, true⟩
  userSessions := Table.empty.put sessionId ⟨ownerId, profileId, false, "", 1, 1, 86400 * second⟩
  userPasskeys := Table.empty
  ownerState := Table.empty
  handoffs := Table.empty
  grants := Table.empty
  challenges := Table.empty
  issued := 0
  now := 0
  pauses := []
  history := []

/-- The scope of the session under a credential version. -/
def ownerScope (version : Int) : Scope := ⟨version, ownerId, sessionId, profileId, none⟩

/-- A handoff, and the password with it. -/
def handover : List Move :=
  [⟨1, [], .issueHandoff ownerId handoffToken⟩,
    ⟨5, [1, 1], .password (ownerScope 1) ⟨"correct horse battery", some handoffToken⟩ true sessionToken⟩]

theorem handover_authorizes :
    ∃ s', Yields (do begin ownerId; authorize digests ownerId (some (ownerScope 2)))
        { run digests household handover with now := (run digests household handover).now + 1000, pauses := [] } true s' ∧
      ∃ earlier move later prover proven, handover = earlier ++ move :: later ∧
        proofOf digests (run digests household earlier) move = some (prover, proven) ∧
        prover.session = sessionId ∧ proven.context.credentialRevision = 2 := by
  have answer : (((do begin ownerId; authorize digests ownerId (some (ownerScope 2)) : Tx Bool).run
      { run digests household handover with now := (run digests household handover).now + 1000, pauses := [] }).toOption.map
        Prod.fst) = some true := by decide +kernel
  have granted : ∃ s', Yields (do begin ownerId; authorize digests ownerId (some (ownerScope 2)))
      { run digests household handover with now := (run digests household handover).now + 1000, pauses := [] } true s' := by
    unfold Yields
    revert answer
    generalize (do begin ownerId; authorize digests ownerId (some (ownerScope 2)) : Tx Bool).run _ = outcome
    intro answer
    cases outcome with
    | error error => cases answer
    | ok reply =>
      obtain ⟨value, s'⟩ := reply
      cases answer
      exact ⟨s', rfl⟩
  obtain ⟨s', ran⟩ := granted
  have founded : household.Founded := ⟨rfl, rfl, rfl, rfl⟩
  obtain ⟨⟨earlier, move, later, prover, proven, events, split, proof, -, session, -, version, -⟩, -⟩ :=
    authorize_grounded digests household founded handover 1000 [] ownerId (ownerScope 2) s' ran
  exact ⟨s', ran, earlier, move, later, prover, proven, split, proof, session, version⟩

end Duskcue.Household
