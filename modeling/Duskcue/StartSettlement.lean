import Duskcue.RequestIdentity

/-! Settlement of starts. An intent is settled exactly when its admission is
fenced, its preparation is complete and no reservation of it is unreleased, and
an identity once reported settled is never admitted again, also after its rows
are pruned. -/
namespace Duskcue.Playback
open Transaction

variable {id : Uuid} {s : Store}

/-! ## When an intent is settled -/

theorem unreleased_eq_false :
    s.unreleased id = false ↔ ∀ r, s.reservations.find id = some r → r.state = .released := by
  unfold Store.unreleased
  cases s.reservations.find id <;> simp

/-- `settled_at` is set exactly for a fenced, prepared start without a viewer. -/
def Settlements (s : Store) : Prop :=
  ∀ id i, s.intents.find id = some i → (i.settledAt.isSome = true ↔
    i.admissionFenced = true ∧ i.preparationComplete = true ∧
      ∀ r, s.reservations.find id = some r → r.state = .released)

theorem Settlements.step {s' : Store} (settlements : Settlements s) (step : Step s s') : Settlements s' := by
  unfold Settlements at settlements ⊢
  cases step with
  | reserve | expire | intend | forget => grind
  | promote admission _ _ _ _ _ _ amendment =>
    have settled := amendment.settled
    grind
  | revise revision unreleased =>
    have found := revision.found
    have live := revision.live unreleased
    grind
  | release _ _ settles =>
    rcases settles with ⟨absent, rfl⟩ | ⟨before, after, known, amendment, fenced, rfl⟩
    · grind
    · have settled := amendment.settled
      grind
  | @amend _ _ _ _ amendment =>
    have settled := amendment.settled
    rw [unreleased_eq_false] at settled
    grind
  | _ => exact settlements

theorem settlements_invariant : Invariant Settlements :=
  .of_steps (fun _ _ _ step settlements => settlements.step step) fun _ _ _ settlements => settlements

/-! ## What settlement leaves -/

/-- A start that ended at `time`: its intent says so, or is pruned for good. -/
def EndedAt (id : Uuid) (time : Time) (s : Store) : Prop :=
  (∃ i, s.intents.find id = some i ∧ i.settledAt = some time) ∨
    s.intents.find id = none ∧ s.reservations.find id = none ∧ ¬ Timely s.retention.cutoff id

/-- An amendment of a settled intent keeps it settled, at the same time. -/
theorem Amendment.ended (amendment : Amendment unreleased id old new) (settled : old.settledAt = some time)
    (fenced : old.admissionFenced = true) (complete : old.preparationComplete = true)
    (quiet : unreleased = false) : new.settledAt = some time := by
  refine amendment.kept time settled (amendment.settled.mpr ⟨?_, ?_, quiet⟩)
  · exact amendment.fenced fenced
  · exact amendment.complete complete

theorem EndedAt.step {time : Time} {s' : Store} (settlements : Settlements s)
    (ended : EndedAt id time s) (step : Step s s') : EndedAt id time s' := by
  have facts : ∀ i, s.intents.find id = some i → i.settledAt = some time →
      i.admissionFenced = true ∧ i.preparationComplete = true ∧ s.unreleased id = false := by
    intro i found settled
    rw [unreleased_eq_false]
    exact (settlements id i found).mp (by simp [settled])
  unfold EndedAt at ended ⊢
  cases step with
  | raise later => exact ended.imp_right fun gone => ⟨gone.1, gone.2.1, fun t => gone.2.2 (t.lower later)⟩
  | reserve _ _ _ later =>
    rcases ended with there | ⟨absent, unadmitted, expired⟩
    · exact .inl there
    · have expired : ¬ Timely _ id := fun t => expired (t.lower later)
      exact .inr (by grind)
  | promote | forget => grind
  | revise revision =>
    have found := revision.found
    grind
  | @release key _ _ _ revision _ settles =>
    have known := revision.found
    rcases settles with ⟨_, rfl⟩ | ⟨before, after, found, amendment, _, rfl⟩
    · grind
    · rcases ended with ⟨i, there, settled⟩ | gone
      · by_cases same : id = key
        · subst same
          cases found.symm.trans there
          obtain ⟨fenced, complete, _⟩ := facts before there settled
          exact .inl ⟨after, Table.find_put_self .., amendment.ended settled fenced complete rfl⟩
        · exact .inl ⟨i, by grind, settled⟩
      · exact .inr (by grind)
  | expire _ _ _ _ _ account =>
    obtain ⟨-, rfl⟩ | ⟨-, -, -, rfl⟩ := account <;> grind
  | intend absent unadmitted _ later =>
    rcases ended with ⟨i, there, settled⟩ | ⟨absent, unadmitted, expired⟩
    · exact .inl ⟨i, by grind, settled⟩
    · have expired : ¬ Timely _ id := fun t => expired (t.lower later)
      exact .inr (by grind)
  | @amend key old new found amendment =>
    rcases ended with ⟨i, there, settled⟩ | gone
    · by_cases same : id = key
      · subst same
        cases found.symm.trans there
        obtain ⟨fenced, complete, quiet⟩ := facts old there settled
        exact .inl ⟨new, Table.find_put_self .., amendment.ended settled fenced complete quiet⟩
      · exact .inl ⟨i, by grind, settled⟩
    · exact .inr (by grind)
  | _ => exact ended

theorem ended_invariant (id : Uuid) (time : Time) : Invariant fun s => Settlements s ∧ EndedAt id time s :=
  .of_steps (fun _ _ _ step holds => ⟨holds.1.step step, holds.2.step holds.1 step⟩) fun _ _ _ holds => holds

theorem EndedAt.quiet (ended : EndedAt id time s) (settlements : Settlements s) : s.unreleased id = false := by
  rw [unreleased_eq_false]
  rcases ended with ⟨i, found, settled⟩ | ⟨-, unadmitted, -⟩
  · exact ((settlements id i found).mp (by simp [settled])).2.2
  · simp [unadmitted]

theorem EndedAt.barred (ended : EndedAt id time s) (settlements : Settlements s) : Barred id s := by
  rcases ended with ⟨i, found, settled⟩ | ⟨unknown, -, expired⟩
  · refine ⟨fun j there => .inr ?_, .inl (by simp [found])⟩
    cases found.symm.trans there
    exact ((settlements id i found).mp (by simp [settled])).1
  · exact ⟨by simp [unknown], .inr (.inr expired)⟩

theorem Ground.ended (ground : Ground s id) : ∃ time, EndedAt id time s := by
  rcases ground with ⟨i, found, settled⟩ | gone
  · obtain ⟨time, stamped⟩ := Option.isSome_iff_exists.mp settled
    exact ⟨time, .inl ⟨i, found, stamped⟩⟩
  · exact ⟨0, .inr gone⟩

variable {digest : ConfigurationResponse → Option String}

theorem Reachable.settlements (reachable : Reachable digest sys) : Settlements sys.store :=
  reachable.invariant settlements_invariant fun now => by simp [Settlements, Store.migrated]

/-- A settled answer comes from `inspect`, and the store it leaves bears it out. -/
theorem settled_ground (answered : (act digest sys action).1 = .settlement response)
    (settled : response.status = .settled) :
    Ground (act digest sys action).2.store response.requestId := by
  have other : ∀ {α : Type} {tx : Tx α} {reply : α → Reply}, (∀ a, reply a ≠ .settlement response) →
      (sys.perform tx reply).1 ≠ .settlement response := by
    intro α tx reply differs
    rcases attempt_cases sys tx reply fun _ works => works with ⟨a, s', _, eq⟩ | ⟨failure, -, eq⟩
    · rw [System.perform, eq]
      exact differs a
    · rw [System.perform, eq]
      simp
  have execution : ∀ {id phase next} {tx : Work → Tx Unit},
      (sys.advance id phase next tx).1 ≠ .settlement response := by
    intro id phase next tx
    unfold System.advance
    split
    · simp
    · split
      · rename_i work found arrived
        rcases attempt_cases sys (tx work) (fun _ => .done) fun _ works =>
          works.put id { work with phase := next } with ⟨a, s', ran, eq⟩ | ⟨failure, -, eq⟩ <;> simp [eq]
      · simp
  cases action with
  | inspect instanceId scope valid id withdraw =>
    rcases attempt_cases sys (inspect instanceId scope valid id withdraw) .settlement
      fun _ works => works with ⟨answer, s', ran, eq⟩ | ⟨failure, -, eq⟩
    · rw [act, System.perform, eq] at answered ⊢
      cases answered
      obtain ⟨-, named, ground⟩ := inspect_commits ran
      rw [named]
      exact ground settled
    · rw [act, System.perform, eq] at answered
      cases answered
  | accept instanceId request binding authority target input process =>
    rcases attempt_cases sys (accept digest instanceId request binding authority target input process)
      _ _ with ⟨reply, s', ran, eq⟩ | ⟨failure, -, eq⟩ <;> rw [act, eq] at answered <;> cases answered
  | executeRetiring | executePreparing | executeFailed => exact absurd answered execution
  | _ => exact absurd answered (other (by simp))

/-- In every reachable state an intent is settled exactly when it is fenced,
prepared and without a viewer; its time of settlement never changes; and after a
settled answer no move inserts a reservation for the identity or leaves one
unreleased. -/
theorem settlement_final (digest : ConfigurationResponse → Option String) {sys : System}
    (reachable : Reachable digest sys) :
    (∀ id i, sys.store.intents.find id = some i → (i.settledAt.isSome = true ↔
      i.admissionFenced = true ∧ i.preparationComplete = true ∧ sys.store.unreleased id = false)) ∧
    (∀ id i time moves later, sys.store.intents.find id = some i → i.settledAt = some time →
      (run digest sys moves).store.intents.find id = some later → later.settledAt = some time) ∧
    ∀ move response moves, (step digest sys move).1 = .settlement response →
      response.status = .settled →
      (run digest (next digest sys move) moves).store.unreleased response.requestId = false ∧
        ∀ again, inserts digest response.requestId (run digest (next digest sys move) moves) again =
          false := by
  have settlements := reachable.settlements
  refine ⟨fun id i found => ?_, ?_, ?_⟩
  · rw [unreleased_eq_false]
    exact settlements id i found
  · intro id i time moves later found settled after
    obtain ⟨-, ended⟩ := (ended_invariant id time).run reachable.sound
      ⟨settlements, .inl ⟨i, found, settled⟩⟩ moves
    rcases ended with ⟨j, there, kept⟩ | ⟨absent, -, -⟩
    · cases there.symm.trans after
      exact kept
    · cases absent.symm.trans after
  · intro move response moves answered settled
    obtain ⟨time, ended⟩ := (settled_ground answered settled).ended
    have later : Reachable digest (next digest sys move) := reachable.run [move]
    obtain ⟨settled, ended⟩ := (ended_invariant response.requestId time).run later.sound
      ⟨later.settlements, ended⟩ moves
    exact ⟨ended.quiet settled, (ended.barred settled).never (later.run moves).sound⟩

theorem withdrawn_identity_settled : ∃ response,
    (step Sample.digest (run Sample.digest (.deployed Sample.start) Sample.opening)
      ⟨[], .inspect Sample.host Sample.request.actor true Sample.request.id true⟩).1 =
        .settlement response ∧ response.status = .settled ∧
    ∀ moves, (run Sample.digest (next Sample.digest (run Sample.digest (.deployed Sample.start)
      Sample.opening) ⟨[], .inspect Sample.host Sample.request.actor true Sample.request.id true⟩)
        moves).store.unreleased response.requestId = false := by
  have answered : (step Sample.digest (run Sample.digest (.deployed Sample.start) Sample.opening)
      ⟨[], .inspect Sample.host Sample.request.actor true Sample.request.id true⟩).1 =
        .settlement ⟨Sample.request.id, .settled, Sample.start, true, true, none⟩ := by
    decide +kernel
  refine ⟨_, answered, rfl, fun moves => ?_⟩
  exact ((settlement_final Sample.digest ⟨_, _, rfl⟩).2.2 _ _ moves answered rfl).1

end Duskcue.Playback
