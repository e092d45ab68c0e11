import Duskcue.OperationReplay

/-! What becomes of a row along the runs of the admission store. A reservation, a control, a
start intent and an operation only go forward until retention takes them, and never come back. -/
namespace Duskcue.Playback

variable {ρ : Type} {s s' : Store} {id : Uuid} {digest : ConfigurationResponse → Option String}
  {table : Store → Table Uuid ρ} {keeps : ρ → ρ → Prop}

variable (digest table keeps) in
/-- From every reachable state on a row goes on as `keeps` says, or is gone for good. -/
def Lifelong : Prop :=
  ∀ sys, Reachable digest sys → ∀ id old, (table sys.store).find id = some old → ∀ moves,
    (∃ new, (table (run digest sys moves).store).find id = some new ∧ keeps old new) ∨
      ∀ more, (table (run digest sys (moves ++ more)).store).find id = none

/-- One step for the rows of a table, and for those that are gone. -/
theorem lifelong {gone : Uuid → Store → Prop} (left : ∀ id s s', Step s s' → gone id s → gone id s')
    (stays : ∀ id s directory queue, gone id s → gone id { s with directory, deferred := queue })
    (absent : ∀ id s, Consistent s → gone id s → (table s).find id = none)
    (plain : ∀ s directory queue, table { s with directory, deferred := queue } = table s)
    (refl : ∀ row, keeps row row) (trans : ∀ a b c, keeps a b → keeps b c → keeps a c)
    (moved : ∀ id s s' row, Consistent s → Promotions s → Step s s' → (table s).find id = some row →
      (∃ new, (table s').find id = some new ∧ keeps row new) ∨ gone id s') : Lifelong digest table keeps := by
  intro sys reachable id old found moves
  have lives : Invariant fun s =>
      Promotions s ∧ ((∃ new, (table s).find id = some new ∧ keeps old new) ∨ gone id s) := by
    refine .of_steps (fun s s' consistent step ⟨promotions, life⟩ =>
      ⟨promotions_invariant.step s s' consistent step promotions, ?_⟩)
      fun s directory queue ⟨promotions, life⟩ => ⟨promotions, ?_⟩
    · rcases life with ⟨row, there, kept⟩ | past
      · refine (moved id s s' row consistent promotions step there).imp_left fun ⟨new, written, further⟩ => ?_
        exact ⟨new, written, trans _ _ _ kept further⟩
      · exact .inr (left id s s' step past)
    · rw [plain]
      exact life.imp_right (stays id s directory queue)
  have promotions := reachable.invariant promotions_invariant (by simp [Promotions, Store.migrated])
  refine (lives.run reachable.sound ⟨promotions, .inl ⟨old, found, refl old⟩⟩ moves).2.imp_right fun past more => ?_
  rw [Playback.run, List.foldl_append]
  have sound : Sound (run digest sys moves) := reachable.sound.run moves
  exact absent id _ (sound.run more).settled.toConsistent
    ((Invariant.of_steps (fun s s' _ => left id s s') (stays id)).run sound past more)

/-! ## Reservations -/

/-- All columns but the progress are unchanged, and the state goes forward. -/
def Reservation.Follows (old new : Reservation) : Prop := old.SameAttribution new ∧ old.state.rank ≤ new.state.rank

theorem reservation_moved (promotions : Promotions s) (step : Step s s') (found : s.reservations.find id = some row) :
    (∃ new, s'.reservations.find id = some new ∧ row.Follows new) ∨ Barred id s' ∧ s'.reservations.find id = none := by
  have same : row.Follows row := ⟨rfl, le_rfl⟩
  have barred := (promotions.barred (by simp [found]) : Barred id s).step step
  cases step with
  | reserve admission | promote admission =>
    have := admission.absent
    exact .inl ⟨row, by grind, same⟩
  | revise revision | release revision =>
    exact .inl (follows_put found same revision.found ⟨revision.same, revision.forward⟩)
  | @expire other =>
    by_cases here : id = other
    · exact .inr ⟨barred, (Table.find_remove ..).trans (if_pos here)⟩
    · exact .inl ⟨row, by grind, same⟩
  | _ => exact .inl ⟨row, found, same⟩

/-- A reservation stays the one it was, and its state goes forward, until it is pruned; no other takes its identity. -/
theorem reservation_life (digest : ConfigurationResponse → Option String) :
    Lifelong digest Store.reservations Reservation.Follows := by
  refine lifelong (fun _ _ _ step gone => ⟨gone.1.step step, gone.1.absent step gone.2⟩)
    (fun _ _ _ _ gone => ⟨⟨gone.1.used, gone.1.known⟩, gone.2⟩) (fun _ _ _ gone => gone.2) (fun _ _ _ => rfl)
    (fun _ => ⟨rfl, le_rfl⟩) ?_ fun _ _ _ _ _ => reservation_moved
  rintro a b c ⟨first, le⟩ ⟨second, le'⟩
  exact ⟨by grind [Reservation.SameAttribution], le.trans le'⟩

/-! ## Controls -/

theorem control_moved (consistent : Consistent s) (promotions : Promotions s) (step : Step s s')
    (found : s.controls.find id = some row) :
    (∃ new, s'.controls.find id = some new ∧ row.Follows new) ∨ Barred id s' ∧ s'.reservations.find id = none :=
  (step.follows found).imp_right fun gone => ⟨(promotions.barred (consistent.rooted.admitted found)).step step, gone⟩

/-- A control goes on under revisions that tell its contents apart until its viewer is pruned, and stays gone. -/
theorem control_life (digest : ConfigurationResponse → Option String) :
    Lifelong digest Store.controls Control.Follows := by
  refine lifelong (fun _ _ _ step gone => ⟨gone.1.step step, gone.1.absent step gone.2⟩)
    (fun _ _ _ _ gone => ⟨⟨gone.1.used, gone.1.known⟩, gone.2⟩) (fun _ _ consistent gone => ?_) (fun _ _ _ => rfl)
    (.retained · _) ?_ fun _ _ _ _ => control_moved
  · exact Option.eq_none_iff_forall_ne_some.mpr fun v found => by simpa [gone.2] using consistent.rooted.admitted found
  · rintro a b c ⟨le, same, retiring, spends⟩ ⟨le', same', retiring', spends'⟩
    refine ⟨le.trans le', fun equal => ?_, retiring' ∘ retiring, by grind [RecoveryBudget.Spends]⟩
    have first := same (by omega)
    have second := same' (by omega)
    exact ⟨by grind [Control.Changed], first.2.trans second.2⟩

/-! ## Start intents -/

/-- All columns but the progress are unchanged, and no progress is taken back. -/
structure StartIntent.Follows (old new : StartIntent) : Prop where
  same : old.SameAttribution new
  fenced : old.admissionFenced = true → new.admissionFenced = true
  complete : old.preparationComplete = true → new.preparationComplete = true
  promoted : old.promoted = true → new.promoted = true

/-- The intent is gone and below the cutoff. -/
def Forgotten (id : Uuid) (s : Store) : Prop := ¬ Timely s.retention.cutoff id ∧ s.intents.find id = none

theorem Forgotten.step (forgotten : Forgotten id s) (step : Step s s') : Forgotten id s' := by
  obtain ⟨expired, absent⟩ := forgotten
  cases step with
  | raise later | reserve _ _ _ later => exact ⟨fun timely => expired (timely.lower later), absent⟩
  | promote | amend => exact ⟨expired, by grind⟩
  | release => exact ⟨expired, by grind⟩
  | expire _ _ _ _ _ account => obtain ⟨-, rfl⟩ | ⟨-, -, -, rfl⟩ := account <;> exact ⟨expired, absent⟩
  | intend _ _ _ later => exact ⟨fun timely' => expired (timely'.lower later), by grind⟩
  | forget => exact ⟨expired, by grind⟩
  | _ => exact ⟨expired, absent⟩

theorem Amendment.follows (amendment : Amendment unreleased other old new) : old.Follows new :=
  ⟨amendment.same, amendment.fenced, amendment.complete, amendment.promoted⟩

theorem intent_moved (step : Step s s') (found : s.intents.find id = some row) :
    (∃ new, s'.intents.find id = some new ∧ row.Follows new) ∨ Forgotten id s' := by
  have same : row.Follows row := ⟨rfl, fun held => held, fun held => held, fun held => held⟩
  cases step with
  | promote _ known _ _ _ _ _ amendment | amend known amendment =>
    exact .inl (follows_put found same known amendment.follows)
  | release _ _ settles =>
    obtain ⟨-, rfl⟩ | ⟨before, after, known, amendment, -, rfl⟩ := settles
    · exact .inl ⟨row, found, same⟩
    · exact .inl (follows_put found same known amendment.follows)
  | intend => exact .inl ⟨row, by grind, same⟩
  | expire _ _ _ _ _ account => obtain ⟨-, rfl⟩ | ⟨-, -, -, rfl⟩ := account <;> exact .inl ⟨row, found, same⟩
  | @forget other _ _ _ expired =>
    by_cases here : id = other
    · subst here
      exact .inr ⟨expired, (Table.find_remove ..).trans (if_pos rfl)⟩
    · exact .inl ⟨row, by grind, same⟩
  | _ => exact .inl ⟨row, found, same⟩

/-- A start intent keeps its claim and its progress until it is pruned; no other takes its identity. -/
theorem intent_life (digest : ConfigurationResponse → Option String) :
    Lifelong digest Store.intents StartIntent.Follows := by
  refine lifelong (fun _ _ _ step gone => gone.step step) (fun _ _ _ _ gone => gone)
    (fun _ _ _ gone => gone.2) (fun _ _ _ => rfl) (fun _ => ⟨rfl, fun held => held, fun held => held, fun held => held⟩) ?_
    fun _ _ _ _ _ _ => intent_moved
  rintro a b c ⟨first, fenced, complete, promoted⟩ ⟨second, fenced', complete', promoted'⟩
  exact ⟨by grind [StartIntent.SameAttribution], fenced' ∘ fenced, complete' ∘ complete, promoted' ∘ promoted⟩

/-! ## Operations -/

/-- All columns but the progress are unchanged, the state goes forward, and an end with its result is final. -/
structure Operation.Follows (old new : Operation) : Prop where
  same : old.SameAttribution new
  forward : old.state.rank ≤ new.state.rank
  ended : old.terminalAt.isSome = true →
    new.state = old.state ∧ new.terminalAt = old.terminalAt ∧ new.result = old.result

theorem operation_moved (consistent : Consistent s) (step : Step s s') (found : s.operations.find id = some row) :
    (∃ new, s'.operations.find id = some new ∧ row.Follows new) ∨ Pruned id s' := by
  have same : row.Follows row := ⟨rfl, le_rfl, fun _ => ⟨rfl, rfl, rfl⟩⟩
  cases step with
  | insertOperation insertion =>
    have := insertion.absent
    exact .inl ⟨row, by grind, same⟩
  | updateOperation update =>
    have ⟨forward, _⟩ := update.forward (consistent.checked.operations _ _ update.found)
    exact .inl (follows_put found same update.found ⟨update.same, forward, update.ended⟩)
  | @deleteOperation other _ _ deletion =>
    by_cases here : id = other
    · subst here
      exact .inr ⟨(Table.find_remove ..).trans (if_pos rfl), deletion.expired⟩
    · exact .inl ⟨row, by grind, same⟩
  | expire _ _ _ _ _ account => obtain ⟨-, rfl⟩ | ⟨-, -, -, rfl⟩ := account <;> exact .inl ⟨row, found, same⟩
  | _ => exact .inl ⟨row, found, same⟩

/-- An operation goes forward to its end, which is final, until it is pruned; no other takes its identity. -/
theorem operation_life (digest : ConfigurationResponse → Option String) :
    Lifelong digest Store.operations Operation.Follows := by
  refine lifelong (fun _ _ _ step gone => gone.step step) (fun _ _ _ _ gone => gone) (fun _ _ _ gone => gone.1)
    (fun _ _ _ => rfl) (fun _ => ⟨rfl, le_rfl, fun _ => ⟨rfl, rfl, rfl⟩⟩) ?_ fun _ _ _ _ consistent _ => operation_moved consistent
  rintro a b c ⟨first, le, ended⟩ ⟨second, le', ended'⟩
  exact ⟨by grind [Operation.SameAttribution], le.trans le', by grind⟩

end Duskcue.Playback
