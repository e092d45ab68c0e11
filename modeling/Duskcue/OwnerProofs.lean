import Duskcue.OwnerSteps

/-! A grant stands for a proof. The invariant ties every grant to the proof that
left it: since then its session has neither proved again nor been locked, and its
household has not been invalidated. What a proof was made with, a challenge or a
handoff, is gone for good, so that no two proofs are made with the same. -/
namespace Duskcue.Household
open Playback (Uuid Time second)
open Transaction Relation

variable {id : Nat} {actor : Scope} {token : String} {slot : Bool}

variable {s s' : Store} {env : Verifiers}

/-- The event ends the grant of the session, or those of the household. -/
def Event.ends (session user : Uuid) : Event → Bool
  | .proved proof => proof.session = session
  | .locked other => other = session
  | .invalidated other => other = user

/-- The challenges that proofs were made with. -/
def challengeGrounds (history : List Event) : List Nat :=
  history.filterMap fun
    | .proved proof => proof.challenge
    | _ => none

/-- The handoffs that proofs were made with. -/
def handoffGrounds (history : List Event) : List Nat :=
  history.filterMap fun
    | .proved proof => proof.handoff
    | _ => none

/-- The grant was left by a proof, and nothing has ended it since. -/
def Backed (s : Store) (session : Uuid) (grant : Grant) : Prop :=
  ∃ front proof back, s.history = front ++ .proved proof :: back ∧ proof.session = session ∧
    proof.user = grant.userId ∧ proof.profile = grant.profileId ∧ proof.version = grant.credentialVersion ∧
    grant.expiresAt ≤ proof.time + 5 * minute ∧ ∀ event ∈ back, event.ends session grant.userId = false

structure Sound (s : Store) : Prop where
  backed : ∀ session grant, s.grants.find session = some grant → Backed s session grant
  owned : ∀ session grant, s.grants.find session = some grant →
    ∃ row, s.userSessions.find session = some row ∧ row.userId = grant.userId
  challengeNumbers : ∀ id challenge, s.challenges.find id = some challenge → id < s.issued
  handoffNumbers : ∀ user handoff, s.handoffs.find user = some handoff → handoff.id < s.issued
  handoffsApart : ∀ user user' handoff handoff', s.handoffs.find user = some handoff →
    s.handoffs.find user' = some handoff' → handoff.id = handoff'.id → user = user'
  challengesOnce : (challengeGrounds s.history).Nodup
  handoffsOnce : (handoffGrounds s.history).Nodup
  challengesSpent : ∀ id ∈ challengeGrounds s.history, id < s.issued ∧ s.challenges.find id = none
  handoffsSpent : ∀ id ∈ handoffGrounds s.history, id < s.issued ∧
    ∀ user handoff, s.handoffs.find user = some handoff → handoff.id ≠ id

/-- A number that no challenge has any more, and no proof was made with. -/
def ChallengeFree (id : Nat) (s : Store) : Prop :=
  (id < s.issued ∧ s.challenges.find id = none) ∧ id ∉ challengeGrounds s.history

def HandoffFree (id : Nat) (s : Store) : Prop :=
  (id < s.issued ∧ ∀ user handoff, s.handoffs.find user = some handoff → handoff.id ≠ id) ∧
    id ∉ handoffGrounds s.history

/-! ## Calm steps -/

section
variable (calm : Calm s s')
include calm

theorem Calm.issued_le : s.issued ≤ s'.issued := by
  cases calm with
  | quiet same => exact le_of_eq same.issued.symm
  | challenge | handoff => exact Nat.le_succ _
  | locked | invalidated => exact le_refl _

theorem Calm.challengeGrounds_eq : challengeGrounds s'.history = challengeGrounds s.history := by
  cases calm with
  | quiet same => rw [same.history]
  | challenge => rfl
  | handoff => rfl
  | locked | invalidated => simp [challengeGrounds]

theorem Calm.handoffGrounds_eq : handoffGrounds s'.history = handoffGrounds s.history := by
  cases calm with
  | quiet same => rw [same.history]
  | challenge => rfl
  | handoff => rfl
  | locked | invalidated => simp [handoffGrounds]

/-- A challenge that is there was there, or has just been numbered. -/
theorem Calm.challenge_origin (found : s'.challenges.find id = some row) :
    s.challenges.find id = some row ∨ id = s.issued ∧ s'.issued = s.issued + 1 := by
  cases calm with
  | quiet same => exact Or.inl (same.challenges id row found)
  | challenge =>
    rw [Table.find_put] at found
    split at found
    · rename_i here
      exact Or.inr ⟨here, rfl⟩
    · exact Or.inl found
  | handoff | locked | invalidated => exact Or.inl found

/-- A handoff that is there was there, or has just been numbered, as the only one. -/
theorem Calm.handoff_origin :
    (∀ user row, s'.handoffs.find user = some row → s.handoffs.find user = some row) ∨
      ∃ owner new, s'.handoffs = s.handoffs.put owner new ∧ new.id = s.issued ∧ s'.issued = s.issued + 1 := by
  cases calm with
  | quiet same => exact Or.inl same.handoffs
  | challenge | locked | invalidated => exact Or.inl fun _ _ found => found
  | handoff user => exact Or.inr ⟨user, _, rfl, rfl, rfl⟩

theorem Calm.challenge_gone (gone : id < s.issued ∧ s.challenges.find id = none) :
    id < s'.issued ∧ s'.challenges.find id = none := by
  refine ⟨gone.1.trans_le calm.issued_le, ?_⟩
  cases found : s'.challenges.find id with
  | none => rfl
  | some =>
    rcases calm.challenge_origin found with held | ⟨here, -⟩
    · cases gone.2.symm.trans held
    · omega

theorem Calm.handoff_gone (gone : id < s.issued ∧ ∀ user handoff, s.handoffs.find user = some handoff → handoff.id ≠ id) :
    id < s'.issued ∧ ∀ user handoff, s'.handoffs.find user = some handoff → handoff.id ≠ id := by
  refine ⟨gone.1.trans_le calm.issued_le, ?_⟩
  intro user row found
  rcases calm.handoff_origin with kept | ⟨owner, new, shape, number, -⟩
  · exact gone.2 user row (kept user row found)
  · rw [shape, Table.find_put] at found
    split at found
    · cases found
      omega
    · exact gone.2 user row found

theorem Calm.challengeFree (free : ChallengeFree id s) : ChallengeFree id s' :=
  ⟨calm.challenge_gone free.1, by rw [calm.challengeGrounds_eq]; exact free.2⟩

theorem Calm.handoffFree (free : HandoffFree id s) : HandoffFree id s' :=
  ⟨calm.handoff_gone free.1, by rw [calm.handoffGrounds_eq]; exact free.2⟩

end

/-- A grant that survives an event that does not end it is still backed. -/
theorem Backed.append (backed : Backed s session grant)
    (history : s'.history = s.history ++ events) (spared : ∀ event ∈ events, event.ends session grant.userId = false) :
    Backed s' session grant := by
  obtain ⟨front, proof, back, shape, owner, user, profile, version, expires, quiet⟩ := backed
  refine ⟨front, proof, back ++ events, by simp [history, shape], owner, user, profile, version, expires, ?_⟩
  intro event member
  rcases List.mem_append.mp member with member | member
  · exact quiet event member
  · exact spared event member

/-- The grants after a calm step were there before, and are backed by the same proofs. -/
theorem Calm.backed (calm : Calm s s') (sound : Sound s) (found : s'.grants.find session = some grant) :
    Backed s' session grant ∧ ∃ row, s'.userSessions.find session = some row ∧ row.userId = grant.userId := by
  cases calm with
  | quiet same =>
    have held := same.grants session grant found
    obtain ⟨row, there, mine⟩ := sound.owned session grant held
    obtain ⟨row', there', same'⟩ := same.sessions session grant row found there
    have unchanged : s'.history = s.history ++ [] := by rw [same.history, List.append_nil]
    exact ⟨(sound.backed session grant held).append unchanged (by simp), row', there', same'.trans mine⟩
  | challenge | handoff => exact ⟨sound.backed session grant found, sound.owned session grant found⟩
  | locked other user _ there mine =>
    obtain ⟨held, spared⟩ := Table.find_discard.mp found
    refine ⟨(sound.backed session grant held).append rfl ?_, sound.owned session grant held⟩
    -- the user of the session is the user of its grant, so the lock would have taken it
    have apart : other ≠ session := by
      rintro rfl
      obtain ⟨row', there', mine'⟩ := sound.owned other grant held
      cases there.symm.trans there'
      simp [← mine', mine] at spared
    simpa [Event.ends] using apart
  | invalidated user =>
    obtain ⟨held, spared⟩ := Table.find_discard.mp found
    refine ⟨(sound.backed session grant held).append rfl ?_, sound.owned session grant held⟩
    have apart : user ≠ grant.userId := by
      rintro rfl
      simp at spared
    simpa [Event.ends] using apart

theorem Calm.sound (calm : Calm s s') (sound : Sound s) : Sound s' where
  backed session grant found := (calm.backed sound found).1
  owned session grant found := (calm.backed sound found).2
  challengeNumbers id row found := by
    rcases calm.challenge_origin found with held | ⟨here, grown⟩
    · exact (sound.challengeNumbers id row held).trans_le calm.issued_le
    · omega
  handoffNumbers user row found := by
    rcases calm.handoff_origin with kept | ⟨owner, new, shape, number, grown⟩
    · exact (sound.handoffNumbers user row (kept user row found)).trans_le calm.issued_le
    · rw [shape, Table.find_put] at found
      split at found
      · cases found
        omega
      · exact (sound.handoffNumbers user row found).trans_le calm.issued_le
  handoffsApart user user' row row' found found' same := by
    rcases calm.handoff_origin with kept | ⟨owner, new, shape, number, -⟩
    · exact sound.handoffsApart user user' row row' (kept user row found) (kept user' row' found') same
    · rw [shape, Table.find_put] at found found'
      split at found <;> split at found'
      · rename_i here here'
        rw [here, here']
      · cases found
        have below := sound.handoffNumbers user' row' found'
        omega
      · cases found'
        have below := sound.handoffNumbers user row found
        omega
      · exact sound.handoffsApart user user' row row' found found' same
  challengesOnce := by
    rw [calm.challengeGrounds_eq]
    exact sound.challengesOnce
  handoffsOnce := by
    rw [calm.handoffGrounds_eq]
    exact sound.handoffsOnce
  challengesSpent id member := by
    rw [calm.challengeGrounds_eq] at member
    exact calm.challenge_gone (sound.challengesSpent id member)
  handoffsSpent id member := by
    rw [calm.handoffGrounds_eq] at member
    exact calm.handoff_gone (sound.handoffsSpent id member)

/-- What calm steps keep one by one, they keep together. -/
theorem calm_preserves {inv : Store → Prop} (kept : ∀ s s', Calm s s' → inv s → inv s')
    (steps : ReflTransGen Calm s s') (holds : inv s) : inv s' := by
  induction steps with
  | refl => exact holds
  | tail _ last ih => exact kept _ _ last ih

theorem calm_sound (steps : ReflTransGen Calm s s') (sound : Sound s) : Sound s' :=
  calm_preserves (fun _ _ calm => calm.sound) steps sound

/-! ## Proofs -/

theorem challengeGrounds_proved (history : List Event) (proof : Proof) :
    challengeGrounds (history ++ [.proved proof]) = challengeGrounds history ++ proof.challenge.toList := by
  unfold challengeGrounds
  rw [List.filterMap_append]
  cases ground : proof.challenge <;> simp [ground]

theorem handoffGrounds_proved (history : List Event) (proof : Proof) :
    handoffGrounds (history ++ [.proved proof]) = handoffGrounds history ++ proof.handoff.toList := by
  unfold handoffGrounds
  rw [List.filterMap_append]
  cases ground : proof.handoff <;> simp [ground]

theorem nodup_append_toList {ids : List Nat} {id : Option Nat} (once : ids.Nodup) (fresh : ∀ n ∈ id, n ∉ ids) :
    (ids ++ id.toList).Nodup := by
  cases id with
  | none => simpa using once
  | some n =>
    have apart := fresh n rfl
    rw [Option.toList_some, List.nodup_append]
    refine ⟨once, List.nodup_singleton n, ?_⟩
    intro other member
    simp only [List.mem_singleton, forall_eq]
    rintro rfl
    exact apart member

/-- A proof with grounds that nobody used leaves the invariant intact. -/
theorem Proves.sound {proof : Proof} (proves : Proves s proof s') (sound : Sound s)
    (challenge : ∀ id ∈ proof.challenge, ChallengeFree id s) (handoff : ∀ id ∈ proof.handoff, HandoffFree id s) :
    Sound s' := by
  obtain ⟨revision, expiresAt, bound, rfl⟩ := proves.inserted
  obtain ⟨row, there, mine, _⟩ := proves.session
  constructor
  · intro session grant found
    rw [Table.find_put] at found
    split at found
    · rename_i here
      cases found
      exact ⟨s.history, proof, [], rfl, here.symm, rfl, rfl, rfl, bound, by simp⟩
    · rename_i other
      refine (sound.backed session grant found).append rfl ?_
      simpa [Event.ends] using Ne.symm other
  · intro session grant found
    rw [Table.find_put] at found
    split at found
    · rename_i here
      cases found
      exact ⟨row, by rw [here]; exact there, mine⟩
    · exact sound.owned session grant found
  · exact sound.challengeNumbers
  · exact sound.handoffNumbers
  · exact sound.handoffsApart
  · rw [challengeGrounds_proved]
    exact nodup_append_toList sound.challengesOnce fun id member => (challenge id member).2
  · rw [handoffGrounds_proved]
    exact nodup_append_toList sound.handoffsOnce fun id member => (handoff id member).2
  · intro id member
    rw [challengeGrounds_proved] at member
    rcases List.mem_append.mp member with member | member
    · exact sound.challengesSpent id member
    · exact (challenge id (Option.mem_toList.mp member)).1
  · intro id member
    rw [handoffGrounds_proved] at member
    rcases List.mem_append.mp member with member | member
    · exact sound.handoffsSpent id member
    · exact (handoff id (Option.mem_toList.mp member)).1

theorem consumeHandoff_free (sound : Sound s) (ran : Yields (consumeHandoff user id) s u s') : HandoffFree id s' := by
  unfold consumeHandoff at ran
  obtain ⟨now, looked, first, ran⟩ := yields_bind.mp ran
  have sound := (Calm.quiet (.clock first)).sound sound
  simp only [yields_get_bind, yields_ensure_bind, deleteHandoffs, yields_modify] at ran
  obtain ⟨valid, rfl⟩ := ran
  obtain ⟨handoff, found, checks⟩ := (Option.any_eq_true _ _).mp valid
  have same : handoff.id = id := by
    simp only [Bool.and_eq_true, decide_eq_true_eq] at checks
    exact checks.1
  refine ⟨⟨?_, ?_⟩, ?_⟩
  · rw [← same]
    exact sound.handoffNumbers user handoff found
  · intro other row held there
    obtain ⟨held, spared⟩ := Table.find_discard.mp held
    have mine : other = user := sound.handoffsApart other user row handoff held found (there.trans same.symm)
    simp [mine, there] at spared
  · intro member
    exact (sound.handoffsSpent id member).2 user handoff found same

/-- What follows the use of a handoff leaves it free. -/
theorem designate_free {user : Uuid} {handoff : Option Nat} {rest : Nat → Tx Unit} (calm : ∀ id, Within Calm (rest id))
    {u : Unit} (sound : Sound s)
    (ran : Yields (match handoff with
      | none => pure ()
      | some id => do
        consumeHandoff user id
        rest id : Tx Unit) s u s') :
    ReflTransGen Calm s s' ∧ ∀ id ∈ handoff, HandoffFree id s' := by
  cases handoff with
  | none =>
    obtain ⟨-, rfl⟩ := yields_pure.mp ran
    exact ⟨.refl, by simp⟩
  | some id =>
    obtain ⟨_, middle, consumed, continued⟩ := yields_bind.mp ran
    have steps := calm id _ _ _ continued
    refine ⟨(consumeHandoff_calm user id _ _ _ consumed).trans steps, ?_⟩
    intro other same
    cases same
    exact calm_preserves (fun _ _ calm => calm.handoffFree) steps (consumeHandoff_free sound consumed)

/-- A committed proof: calm statements, the grant, and nothing more in the history. -/
structure ProofMade (s : Store) (actor : Scope) (proven : Proven) (proof : Proof) (before after s' : Store) : Prop where
  opening : ReflTransGen Calm s before
  proves : Proves before proof after
  closing : ReflTransGen Calm after s'
  now : after.now ≤ s'.now
  history : s'.history = after.history
  version : proven.context.credentialRevision = proof.version
  challenges : ∀ id ∈ proof.challenge, ChallengeFree id before
  handoffs : ∀ id ∈ proof.handoff, HandoffFree id before
  user : proof.user = actor.user
  session : proof.session = actor.session
  profile : proof.profile = actor.profile

section
variable {actor : Scope} {proven : Proven} {proof : Proof} {before after : Store}

theorem ProofMade.sound (made : ProofMade s actor proven proof before after s') (sound : Sound s) : Sound s' :=
  calm_sound made.closing (made.proves.sound (calm_sound made.opening sound) made.challenges made.handoffs)

theorem ProofMade.behind {t : Store} (steps : ReflTransGen Calm s t) (made : ProofMade t actor proven proof before after s') :
    ProofMade s actor proven proof before after s' :=
  { made with opening := steps.trans made.opening }

theorem rotate_made {challenge handoff : Option Nat}
    (challenges : ∀ id ∈ challenge, ChallengeFree id s) (handoffs : ∀ id ∈ handoff, HandoffFree id s)
    (ran : Yields (rotate env actor token challenge handoff) s proven s') :
    ∃ proof before after, ProofMade s actor proven proof before after s' := by
  obtain ⟨before, proof, after, opening, proves, closing, now, history, version, user, session, profile, first, second⟩ :=
    rotate_yields ran
  refine ⟨proof, before, after, opening, proves, closing, now, history, version, ?_, ?_, user, session, profile⟩
  · intro id member
    rw [first] at member
    exact calm_preserves (fun _ _ calm => calm.challengeFree) opening (challenges id member)
  · intro id member
    rw [second] at member
    exact calm_preserves (fun _ _ calm => calm.handoffFree) opening (handoffs id member)

end

/-- A refusal is committed without a proof. -/
theorem failed_yields {α : Type} {reply : Except OwnerError α} (before : ReflTransGen Calm s t)
    (ran : Yields (failed actor) t reply s') : ∃ error, reply = .error error ∧ ReflTransGen Calm s s' := by
  have steps := before.trans (failed_calm actor _ _ _ ran)
  unfold failed at ran
  obtain ⟨now, looked, _, ran⟩ := yields_bind.mp ran
  obtain ⟨_, counted, _, ran⟩ := yields_bind.mp ran
  exact ⟨_, (yields_pure.mp ran).1, steps⟩

/-- A handoff that is accepted is the household's, and has not expired. -/
theorem requestedHandoff_yields {token : Option String} (ran : Yields (requestedHandoff env user token) s handoff s') :
    Ticked s s' ∧ ∀ id, handoff = some (some id) → token.isSome = true ∧
      ∃ row, s.handoffs.find user = some row ∧ row.id = id ∧ s'.now < row.expiresAt := by
  cases token with
  | none =>
    obtain ⟨rfl, rfl⟩ := yields_pure.mp ran
    exact ⟨.refl _, by simp⟩
  | some =>
    obtain ⟨found, middle, validated, ran⟩ := yields_bind.mp ran
    obtain ⟨rfl, rfl⟩ := yields_pure.mp ran
    unfold validateHandoff at validated
    split at validated
    · obtain ⟨rfl, rfl⟩ := yields_pure.mp validated
      exact ⟨.refl _, by simp⟩
    · obtain ⟨now, looked, first, validated⟩ := yields_bind.mp validated
      obtain ⟨later, pauses, rfl⟩ := clockTimestamp_yields first
      simp only [yields_get_bind, yields_pure] at validated
      obtain ⟨rfl, rfl⟩ := validated
      refine ⟨⟨now, pauses, later, rfl⟩, fun id same => ⟨rfl, ?_⟩⟩
      simp only [Option.map_eq_some_iff, Option.filter_eq_some_iff, Option.some.injEq] at same
      obtain ⟨_, ⟨row, ⟨found, valid⟩, rfl⟩, rfl⟩ := same
      simp only [Bool.and_eq_true, decide_eq_true_eq] at valid
      exact ⟨row, found, rfl, valid.2⟩

theorem passwordAvailable_yields (ran : Yields (passwordAvailable env user) s trusted s') : s' = s := by
  simp only [passwordAvailable, yields_get_bind, yields_demand_bind, yields_pure] at ran
  obtain ⟨_, -, _, -, -, same⟩ := ran
  exact same

/-- Behind the opening a password is refused, or a trusted factor is designated and the session rotated. -/
theorem provePassword_cases (ran : Yields (provePassword env actor request slot token) s reply s') :
    ∃ t, Ticked s t ∧ (Yields (failed actor) t reply s' ∨ ∃ hash handoff middle proven, reply = .ok proven ∧
      Yields (designatePassword env actor.user hash handoff) t () middle ∧
      Yields (rotate env actor token none handoff) middle proven s') := by
  unfold provePassword at ran
  obtain ⟨handoff, t, asked, ran⟩ := yields_bind.mp ran
  refine ⟨t, (requestedHandoff_yields asked).1, ?_⟩
  cases handoff with
  | none => exact .inl ran
  | some handoff =>
    obtain ⟨trusted, _, looked, proved⟩ := yields_bind.mp ran
    obtain rfl := passwordAvailable_yields looked
    rw [yields_ite] at proved
    rcases proved with ⟨-, ran⟩ | ⟨-, ran⟩
    · exact .inl ran
    · rw [yields_get_bind] at ran
      split at ran
      · exact .inl ran
      · rename_i hash _
        obtain ⟨-, ran⟩ := yields_ensure_bind.mp ran
        rw [yields_ite] at ran
        rcases ran with ⟨-, ran⟩ | ⟨-, ran⟩
        · obtain ⟨_, middle, designated, ran⟩ := yields_bind.mp ran
          obtain ⟨proven, _, rotated, ran⟩ := yields_bind.mp ran
          obtain ⟨rfl, rfl⟩ := yields_pure.mp ran
          exact .inr ⟨hash, handoff, middle, proven, rfl, designated, rotated⟩
        · exact .inl ran

theorem Quiet.ticked (ticked : Ticked s s') : Quiet s s' := by
  obtain ⟨now, pauses, later, rfl⟩ := ticked
  exact .of_tables later rfl rfl rfl rfl rfl rfl

/-- A password either is refused or makes a proof, with the handoff it came with. -/
theorem password_yields {request : PasswordRequest} {reply : Except OwnerError Proven} (sound : Sound s)
    (ran : Yields (password env actor request slot token) s reply s') :
    (∃ error, reply = .error error ∧ ReflTransGen Calm s s') ∨
      ∃ proven proof before after, reply = .ok proven ∧ ProofMade s actor proven proof before after s' := by
  unfold password at ran
  obtain ⟨-, ran⟩ := yields_ensure_bind.mp ran
  obtain ⟨_, s₁, opened, ran⟩ := yields_bind.mp ran
  obtain ⟨t, ticked, cases⟩ := provePassword_cases ran
  have opening : ReflTransGen Calm s t := (opening_calm actor _ _ _ opened).tail (.quiet (.ticked ticked))
  rcases cases with refused | ⟨hash, handoff, middle, proven, rfl, designated, rotated⟩
  · exact .inl (failed_yields opening refused)
  · have calm (_ : Nat) : Within Calm (do
        updateState actor.user fun state => { state with passwordFingerprint := some (env.fingerprint hash) }
        activate actor.user) :=
      .bind (updateState_calm _ _) fun _ => activate_calm _
    have used : ReflTransGen Calm t middle ∧ ∀ id ∈ handoff, HandoffFree id middle :=
      designate_free calm (calm_sound opening sound) designated
    obtain ⟨proof, before, after, made⟩ := rotate_made (by simp) used.2 rotated
    exact .inr ⟨proven, proof, before, after, rfl, made.behind (opening.trans used.1)⟩

theorem proveFactor_yields {challenge : Challenge} {credential : String} {fresh : Uuid}
    {u : Unit} (sound : Sound s) (ran : Yields (proveFactor env actor challenge credential slot fresh) s u s') :
    ReflTransGen Calm s s' ∧ ∀ id ∈ challenge.handoffId, HandoffFree id s' := by
  unfold proveFactor at ran
  obtain ⟨_, s₁, checked, ran⟩ := yields_bind.mp ran
  obtain ⟨-, ran⟩ := yields_ensure_bind.mp ran
  obtain ⟨_, s₂, verified, ran⟩ := yields_bind.mp ran
  have opening := (checkHandoff_within clock_calm _ _ _ _ _ checked).trans (verifyFactor_within passkeys_calm _ _ _ _ _ _ _ verified)
  have used : ReflTransGen Calm s₂ s' ∧ ∀ id ∈ challenge.handoffId, HandoffFree id s' :=
    designate_free (fun _ => activate_calm _) (calm_sound opening sound) ran
  exact ⟨opening.trans used.1, used.2⟩

theorem challenge_taken {challenge : Challenge} (sound : Sound s) (found : s.challenges.find id = some challenge) :
    Quiet s { s with challenges := s.challenges.remove id } ∧
      ChallengeFree id { s with challenges := s.challenges.remove id } := by
  refine ⟨⟨le_refl _, rfl, rfl, fun _ _ held => held, fun _ _ held => Table.find_of_remove held, fun _ _ held => held,
    fun _ _ row _ held => ⟨row, held, rfl⟩⟩, ⟨sound.challengeNumbers id challenge found, ?_⟩, ?_⟩
  · rw [Table.find_remove, if_pos rfl]
  · intro member
    have gone := (sound.challengesSpent id member).2
    cases gone.symm.trans found

/-- The challenges without the one the actor presents, if it is theirs. -/
def unpresented (s : Store) (actor : Scope) (id : Nat) : Table Nat Challenge :=
  if ((s.challenges.find id).filter fun challenge =>
      challenge.userId = actor.user && challenge.sessionId = actor.session && challenge.profileId = actor.profile &&
        challenge.credentialVersion = actor.version).isSome then s.challenges.remove id
  else s.challenges

/-- Behind the opening an answer is refused, with the challenge gone, or completes the challenge. -/
theorem proveChallenge_cases
    (ran : Yields (proveChallenge env actor request slot fresh token elapsed revision) s reply s') :
    (∃ t, Ticked { s with challenges := unpresented s actor request.challengeId } t ∧ Yields (failed actor) t reply s') ∨
      ∃ challenge now pauses proven, s.now ≤ now ∧ s.challenges.find request.challengeId = some challenge ∧
        reply = .ok proven ∧
        Yields (complete env actor request.challengeId challenge request.credential slot fresh token)
          { s with now, pauses, challenges := s.challenges.remove request.challengeId } proven s' := by
  unfold proveChallenge at ran
  obtain ⟨now, _, looked, ran⟩ := yields_bind.mp ran
  obtain ⟨later, pauses, rfl⟩ := clockTimestamp_yields looked
  rw [yields_get_bind] at ran
  split at ran
  · rename_i absent
    have kept : unpresented s actor request.challengeId = s.challenges := by
      rw [unpresented, absent]
      rfl
    exact .inl ⟨_, ⟨now, pauses, later, by rw [kept]⟩, ran⟩
  · rename_i challenge there
    have taken : unpresented s actor request.challengeId = s.challenges.remove request.challengeId := by
      rw [unpresented, there]
      rfl
    rw [taken]
    rw [yields_modify_bind, yields_ite] at ran
    rcases ran with ⟨-, ran⟩ | ⟨-, ran⟩
    · exact .inl ⟨_, ⟨now, pauses, later, rfl⟩, ran⟩
    · rw [yields_get_bind] at ran
      split at ran
      · rename_i proven after completed
        simp only [yields_bind, yields_set, yields_pure] at ran
        obtain ⟨_, _, rfl, rfl, rfl⟩ := ran
        exact .inr ⟨challenge, now, pauses, proven, later, (Option.filter_eq_some_iff.mp there).1, rfl, completed⟩
      · rw [yields_modify_bind] at ran
        refine .inl ⟨_, ⟨now + elapsed, pauses, le_trans later ?_, rfl⟩, ran⟩
        exact Int.le_add_of_nonneg_right (Int.natCast_nonneg elapsed)
      · exact (yields_throw ran).elim

theorem unpresented_quiet (s : Store) (actor : Scope) (id : Nat) :
    Quiet s { s with challenges := unpresented s actor id } := by
  unfold unpresented
  split
  · exact ⟨le_refl _, rfl, rfl, fun _ _ held => held, fun _ _ held => Table.find_of_remove held, fun _ _ held => held,
      fun _ _ row _ held => ⟨row, held, rfl⟩⟩
  · exact .ticked (.refl s)

/-- An answer to a challenge either is refused, with the challenge gone, or makes a proof. -/
theorem finish_yields {request : PasskeyFinish} (sound : Sound s)
    (ran : Yields (finish env actor request slot fresh token elapsed) s reply s') :
    (∃ error, reply = .error error ∧ ReflTransGen Calm s s') ∨
      ∃ proven proof before after, reply = .ok proven ∧ ProofMade s actor proven proof before after s' := by
  unfold finish at ran
  obtain ⟨revision, t, opened, ran⟩ := yields_bind.mp ran
  have opening := opening_calm actor _ _ _ opened
  rcases proveChallenge_cases ran with ⟨t', ticked, refused⟩ | ⟨challenge, now, pauses, proven, later, found, rfl, completed⟩
  · exact .inl (failed_yields ((opening.tail (.quiet (unpresented_quiet t actor _))).tail (.quiet (.ticked ticked))) refused)
  · have looked : ReflTransGen Calm s { t with now, pauses } := opening.tail (.quiet (.ticked ⟨now, pauses, later, rfl⟩))
    obtain ⟨taken, free⟩ := challenge_taken (calm_sound looked sound) found
    have opening := looked.tail (.quiet taken)
    obtain ⟨_, s₅, proved, rotated⟩ := yields_bind.mp completed
    obtain ⟨steps, handoffs⟩ := proveFactor_yields (calm_sound opening sound) proved
    have challenges : ∀ id ∈ some request.challengeId, ChallengeFree id s₅ := by
      intro id same
      cases same
      exact calm_preserves (fun _ _ calm => calm.challengeFree) steps free
    obtain ⟨proof, before, after, made⟩ := rotate_made challenges handoffs rotated
    exact .inr ⟨proven, proof, before, after, rfl, made.behind (opening.trans steps)⟩

/-! ## Runs -/

/-- The answer of a transaction that was committed and not refused. -/
def granted : Except OwnerError (Except OwnerError Proven) → Option Proven
  | .ok (.ok proven) => some proven
  | _ => none

/-- The scope and the answer of a transaction that asks for a proof and gets it. -/
def proofOf (env : Verifiers) (s : Store) (move : Move) : Option (Scope × Proven) :=
  let start := { s with now := s.now + move.wait, pauses := move.pauses }
  match move.action with
  | .password actor request slot token =>
    (granted (settle (password env actor request slot token) start).1).map fun proven => (actor, proven)
  | .finish actor request slot fresh token elapsed =>
    (granted (settle (finish env actor request slot fresh token elapsed) start).1).map fun proven => (actor, proven)
  | _ => none

/-- A transaction that is not asked for a proof is calm. -/
theorem settle_calm (calm : Within Calm tx) (s : Store) : ReflTransGen Calm s (settle tx s).2 := by
  rcases settle_cases tx s with ⟨u, after, ran, settled⟩ | ⟨error, -, settled⟩
  · rw [settled]
    exact calm s u after ran
  · rw [settled]

/-- A transaction that is asked for a proof is refused, or answers with one. -/
theorem settle_proof
    (cases : ∀ reply s', Yields tx s reply s' → (∃ error, reply = .error error ∧ ReflTransGen Calm s s') ∨
      ∃ proven proof before after, reply = .ok proven ∧ ProofMade s actor proven proof before after s') :
    (granted (settle tx s).1 = none ∧ ReflTransGen Calm s (settle (do let _ ← tx) s).2) ∨
      ∃ proven proof before after, granted (settle tx s).1 = some proven ∧
        ProofMade s actor proven proof before after (settle (do let _ ← tx) s).2 := by
  rcases settle_cases tx s with ⟨reply, after, ran, settled⟩ | ⟨error, failed, settled⟩
  · have both : (settle (do let _ ← tx) s).2 = after := by
      rw [settle, run_bind_of_yields ran]
      rfl
    rw [settled, both]
    rcases cases reply after ran with ⟨error, rfl, steps⟩ | ⟨proven, proof, before, after', rfl, made⟩
    · exact Or.inl ⟨rfl, steps⟩
    · exact Or.inr ⟨proven, proof, before, after', rfl, made⟩
  · have both : (settle (do let _ ← tx) s).2 = s := by
      rw [settle, run_bind_of_error failed]
    rw [settled, both]
    exact Or.inl ⟨rfl, .refl⟩

/-- One transaction of a run. -/
theorem next_cases (sound : Sound s) (move : Move) :
    (proofOf env s move = none ∧ ReflTransGen Calm s (next env s move)) ∨
      ∃ actor proven proof before after, proofOf env s move = some (actor, proven) ∧
        ProofMade s actor proven proof before after (next env s move) := by
  have waited : Calm s { s with now := s.now + move.wait, pauses := move.pauses } :=
    .quiet (.of_tables (Int.le_add_of_nonneg_right (Int.natCast_nonneg move.wait)) rfl rfl rfl rfl rfl rfl)
  have started := waited.sound sound
  obtain ⟨wait, pauses, action⟩ := move
  have calm (tx : Tx Unit) (same : perform env action = tx) (within : Within Calm tx) :
      ReflTransGen Calm s (next env s ⟨wait, pauses, action⟩) := by
    unfold next
    rw [same]
    exact .head waited (settle_calm within _)
  cases action with
  | password actor request slot token =>
    have asked := settle_proof (fun reply s' (ran : Yields (password env actor request slot token) _ reply s') =>
      password_yields started ran)
    rcases asked with ⟨refused, steps⟩ | ⟨proven, proof, before, after, answer, made⟩
    · exact Or.inl ⟨Option.map_eq_none_iff.mpr refused, .head waited steps⟩
    · refine Or.inr ⟨actor, proven, proof, before, after, ?_, made.behind (.single waited)⟩
      exact Option.map_eq_some_iff.mpr ⟨proven, answer, rfl⟩
  | finish actor request slot fresh token elapsed =>
    have asked := settle_proof (fun reply s' (ran : Yields (finish env actor request slot fresh token elapsed) _ reply s') =>
      finish_yields started ran)
    rcases asked with ⟨refused, steps⟩ | ⟨proven, proof, before, after, answer, made⟩
    · exact Or.inl ⟨Option.map_eq_none_iff.mpr refused, .head waited steps⟩
    · refine Or.inr ⟨actor, proven, proof, before, after, ?_, made.behind (.single waited)⟩
      exact Option.map_eq_some_iff.mpr ⟨proven, answer, rfl⟩
  | start actor request =>
    exact Or.inl ⟨rfl, calm _ rfl (.bind (start_calm actor request) fun _ => .pure)⟩
  | lock actor => exact Or.inl ⟨rfl, calm _ rfl (lock_calm actor)⟩
  | issueHandoff user token =>
    exact Or.inl ⟨rfl, calm _ rfl (.bind (issueHandoff_calm user token) fun _ => .pure)⟩
  | revokeManagement user => exact Or.inl ⟨rfl, calm _ rfl (revokeManagement_calm user)⟩
  | addPasskey actor revision fresh row =>
    exact Or.inl ⟨rfl, calm _ rfl (addPasskey_within clock_calm passkeys_calm actor revision fresh row begin_calm invalidate_calm)⟩
  | deletePasskey actor id => exact Or.inl ⟨rfl, calm _ rfl (deletePasskey_calm actor id)⟩
  | createProfile actor user fresh standard =>
    exact Or.inl ⟨rfl, calm _ rfl (createProfile_calm actor user fresh standard)⟩
  | deleteProfile actor user id => exact Or.inl ⟨rfl, calm _ rfl (deleteProfile_calm actor user id)⟩
  | openSession id session => exact Or.inl ⟨rfl, calm _ rfl (openSession_calm id session)⟩
  | closeSession id => exact Or.inl ⟨rfl, calm _ rfl (closeSession_calm id)⟩
  | selectProfile id profile => exact Or.inl ⟨rfl, calm _ rfl (selectProfile_calm id profile)⟩
  | changeAccount user active passwordHash =>
    exact Or.inl ⟨rfl, calm _ rfl (changeAccount_calm user active passwordHash)⟩

theorem next_sound (sound : Sound s) (move : Move) : Sound (next env s move) := by
  rcases next_cases sound move with ⟨-, steps⟩ | ⟨actor, proven, proof, before, after, -, made⟩
  · exact calm_sound steps sound
  · exact made.sound sound

theorem run_sound (sound : Sound s) (moves : List Move) : Sound (run env s moves) := by
  induction moves generalizing s with
  | nil => exact sound
  | cons move _ ih => exact ih (next_sound sound move)

theorem founded_sound (founded : s.Founded) : Sound s := by
  constructor
  · simp [founded.grants]
  · simp [founded.grants]
  · simp [founded.challenges]
  · simp [founded.handoffs]
  · simp [founded.handoffs]
  · simp [founded.history, challengeGrounds]
  · simp [founded.history, handoffGrounds]
  · simp [founded.history, challengeGrounds]
  · simp [founded.history, handoffGrounds]

end Duskcue.Household
