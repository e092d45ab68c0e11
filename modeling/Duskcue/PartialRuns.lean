/-! Runs of a machine that may refuse an event. What every step of a run does follows from what
it does in the states of an invariant. -/
namespace Duskcue.PartialRuns

variable {State Event : Type} (step : State → Event → Option State)

/-- A run from a state, with the states before and after each event. -/
inductive Trace : State → List (State × Event × State) → Prop
  | done (state : State) : Trace state []
  | move
    (moved : step state event = some next) (rest : Trace next steps) : Trace state ((state, event, next) :: steps)

variable {step} {state : State} {steps : List (State × Event × State)} {inv : State → Prop}
  {fine good : State → Event → State → Prop}

/-- Where the fine steps keep the invariant and are the good ones of its states, the runs
of good steps are those of fine ones. -/
theorem Trace.good_iff (trace : Trace step state steps) (start : inv state)
    (keeps : ∀ s e t, inv s → step s e = some t → fine s e t → inv t)
    (agree : ∀ s e t, inv s → step s e = some t → (good s e t ↔ fine s e t)) :
    (∀ moved ∈ steps, good moved.1 moved.2.1 moved.2.2) ↔ ∀ moved ∈ steps, fine moved.1 moved.2.1 moved.2.2 := by
  induction trace with
  | done => simp
  | move moved _ ih =>
    simp only [List.forall_mem_cons, agree _ _ _ start moved]
    exact and_congr_right fun first => ih (keeps _ _ _ start moved first)

theorem Trace.every_good (trace : Trace step state steps) (start : inv state)
    (keeps : ∀ s e t, inv s → step s e = some t → fine s e t → inv t)
    (sound : ∀ s e t, inv s → step s e = some t → fine s e t → good s e t)
    (fair : ∀ moved ∈ steps, fine moved.1 moved.2.1 moved.2.2) :
    ∀ moved ∈ steps, good moved.1 moved.2.1 moved.2.2 := by
  induction trace with
  | done => simp
  | move moved _ ih =>
    rw [List.forall_mem_cons] at fair ⊢
    exact ⟨sound _ _ _ start moved fair.1, ih (keeps _ _ _ start moved fair.1) fair.2⟩

/-- What holds after each step of every run holds wherever the machine can be led. -/
theorem Trace.everywhere {led : State → Prop} (start : led state)
    (all : ∀ steps, Trace step state steps → ∀ moved ∈ steps, led moved.2.2) {events : List Event} {last : State}
    (followed : events.foldlM step state = some last) : led last := by
  induction events generalizing state with
  | nil => exact Option.some.inj followed ▸ start
  | cons _ _ ih =>
    obtain ⟨next, moved, later⟩ := Option.bind_eq_some_iff.mp followed
    refine ih (all _ (.move moved (.done next)) _ List.mem_cons_self) (fun steps rest moved member => ?_) later
    exact all _ (.move (by assumption) rest) moved (List.mem_cons_of_mem _ member)

/-- A run that is led through events, each of which is checked as it comes. -/
theorem exists_trace {check : State → Event → Bool} (sound : ∀ s e t, check s e = true → fine s e t)
    {events : List Event} {last : State}
    (led : events.foldlM (fun s e => if check s e then step s e else none) state = some last) :
    ∃ steps, Trace step state steps ∧ steps.map (fun moved => moved.2.1) = events ∧
      events.foldlM step state = some last ∧ ∀ moved ∈ steps, fine moved.1 moved.2.1 moved.2.2 := by
  induction events generalizing state with
  | nil => exact ⟨[], .done state, rfl, led, fun _ member => nomatch member⟩
  | cons event rest ih =>
    obtain ⟨next, moved, later⟩ := Option.bind_eq_some_iff.mp led
    obtain ⟨checked, moved⟩ := Option.ite_none_right_eq_some.mp moved
    obtain ⟨steps, trace, same, followed, fair⟩ := ih later
    refine ⟨_, .move moved trace, ?_, Option.bind_eq_some_iff.mpr ⟨next, moved, followed⟩,
      List.forall_mem_cons.mpr ⟨sound state event next checked, fair⟩⟩
    rw [List.map_cons, same]

end Duskcue.PartialRuns
