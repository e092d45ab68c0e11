import Mathlib.Data.List.Basic
import Mathlib.Tactic.Linarith

/-! Runs of set marks in a row of marks. A scan that stops at the end of the first run that
is long enough, or once a run is as long as it may be, gives the length of that run; a scan
over candidates keeps the last one taken. -/
namespace Duskcue.LongRuns

/-- The `l` marks from position `k` on are set. -/
def Run (marks : List Bool) (k l : Nat) : Prop := ∀ j < l, marks[k + j]? = some true

/-- No run of at least `least` marks ends before position `k`. -/
def First (least : Nat) (marks : List Bool) (k : Nat) : Prop := ∀ k' l, least ≤ l → Run marks k' l → k ≤ k' + l

/-- The run the scan stops at, when `run` set marks have been passed just before. -/
def scan (least most run : Nat) : List Bool → Nat
  | [] => run
  | true :: rest => if most ≤ run + 1 then run + 1 else scan least most (run + 1) rest
  | false :: rest => if least ≤ run then run else if most ≤ 0 then 0 else scan least most 0 rest

variable {least most run k l r : Nat} {marks left right : List Bool}

theorem Run.bound (marked : Run marks k l) (positive : 0 < l) : k + l ≤ marks.length := by
  have last := marked (l - 1) (by omega)
  obtain ⟨within, _⟩ := List.getElem?_eq_some_iff.mp last
  omega

theorem Run.within (marked : Run (left ++ right) k l) (fits : k + l ≤ left.length) : Run left k l := by
  intro j short
  rw [← marked j short, List.getElem?_append_left (by omega)]

theorem Run.append (marked : Run left k l) : Run (left ++ right) k l := by
  intro j short
  have held := marked j short
  obtain ⟨within, _⟩ := List.getElem?_eq_some_iff.mp held
  rw [List.getElem?_append_left within, held]

/-- A run lies on one side of a mark that is not set. -/
theorem Run.split (marked : Run (left ++ false :: right) k l) :
    Run left k l ∨ ∃ k', k = left.length + 1 + k' ∧ Run right k' l := by
  by_cases before : k + l ≤ left.length
  · exact .inl (marked.within before)
  · by_cases after : left.length < k
    · refine .inr ⟨k - (left.length + 1), by omega, fun j short => ?_⟩
      have held := marked j short
      rw [List.getElem?_append_right (by omega)] at held
      rw [← held, show k + j - left.length = k - (left.length + 1) + j + 1 by omega, List.getElem?_cons_succ]
    · have held := marked (left.length - k) (by omega)
      rw [show k + (left.length - k) = left.length by omega, List.getElem?_append_right le_rfl, Nat.sub_self] at held
      cases held

theorem run_replicate : Run (List.replicate run true) 0 run := by
  intro j short
  rw [List.getElem?_replicate, if_pos (by omega)]

/-- Where the scan stops: before the run no run is long enough, and behind it there is an
unset mark, unless it is as long as it may be. -/
structure Split (least most : Nat) (marks : List Bool) (r : Nat) (before after : List Bool) : Prop where
  shape : marks = before ++ List.replicate r true ++ after
  fresh : before = [] ∨ 0 < least ∧ ∃ start, before = start ++ [false]
  short : ∀ k l, Run before k l → least ≤ l → l = 0
  stop : r < most → after = [] ∨ ∃ rest, after = false :: rest
  all : r < most → r < least → after = []

theorem Run.nil (marked : Run [] k l) : l = 0 := by
  by_contra positive
  have bound := marked.bound (Nat.pos_of_ne_zero positive)
  simp only [List.length_nil] at bound
  omega

theorem Run.le_replicate (marked : Run (List.replicate run true) k l) (positive : 0 < l) : l ≤ run := by
  have bound := marked.bound positive
  simp only [List.length_replicate] at bound
  omega

theorem scan_split (least most run : Nat) (marks : List Bool) : ∃ before after,
    Split least most (List.replicate run true ++ marks) (scan least most run marks) before after := by
  induction marks generalizing run with
  | nil =>
    exact ⟨[], [], by simp [scan], .inl rfl, fun _ _ held _ => held.nil, fun _ => .inl rfl, fun _ _ => rfl⟩
  | cons mark rest ih =>
    cases mark with
    | true =>
      have grown : List.replicate run true ++ true :: rest = List.replicate (run + 1) true ++ rest := by
        rw [List.replicate_succ', List.append_assoc]
        rfl
      rw [scan, grown]
      split
      · rename_i full
        exact ⟨[], rest, rfl, .inl rfl, fun _ _ held _ => held.nil, fun less => by omega, fun less => by omega⟩
      · exact ih (run + 1)
    | false =>
      rw [scan]
      split
      · rename_i long
        exact ⟨[], false :: rest, rfl, .inl rfl, fun _ _ held _ => held.nil, fun _ => .inr ⟨rest, rfl⟩,
          fun _ less => by omega⟩
      · rename_i brief
        -- The marks so far are too few, so no long run ends before what follows.
        have early : ∀ {tail : List Bool}, (∀ k l, Run tail k l → least ≤ l → l = 0) →
            ∀ k l, Run (List.replicate run true ++ false :: tail) k l → least ≤ l → l = 0 := by
          intro tail later k l marked long
          by_contra positive
          rcases marked.split with ahead | ⟨k', _, behind⟩
          · have bound := ahead.le_replicate (Nat.pos_of_ne_zero positive)
            omega
          · exact positive (later k' l behind long)
        split
        · exact ⟨List.replicate run true ++ [false], rest, by simp, .inr ⟨by omega, _, rfl⟩,
            early fun _ _ held _ => held.nil,
            fun less => by omega, fun less => by omega⟩
        · obtain ⟨before, after, shape, fresh, short, stop, all⟩ := ih 0
          refine ⟨List.replicate run true ++ false :: before, after, ?_, .inr ⟨by omega, ?_⟩, early short, stop, all⟩
          · rw [List.replicate_zero, List.nil_append, List.append_assoc] at shape
            simp only [List.append_assoc, List.cons_append]
            exact congrArg (fun rest => List.replicate run true ++ false :: rest) shape
          · rcases fresh with rfl | ⟨_, start, rfl⟩
            · exact ⟨List.replicate run true, rfl⟩
            · exact ⟨List.replicate run true ++ false :: start, by simp⟩

theorem Split.held (split : Split least most marks r before after) : Run marks before.length r := by
  intro j less
  rw [split.shape, List.append_assoc, List.getElem?_append_right (by omega), Nat.add_sub_cancel_left,
    List.getElem?_append_left (by simpa using less)]
  simpa using (run_replicate : Run (List.replicate r true) 0 r) j less

theorem exists_run (least most : Nat) (marks : List Bool) : ∃ k, Run marks k (scan least most 0 marks) := by
  obtain ⟨before, after, split⟩ := scan_split least most 0 marks
  rw [List.replicate_zero, List.nil_append] at split
  exact ⟨before.length, split.held⟩

/-- A run that is not too short does not start in what comes before the first. -/
theorem Split.le_of_within (split : Split least most marks r before after)
    (marked : Run (before ++ List.replicate r true) k l) (long : least ≤ l) (positive : 0 < l) : l ≤ r := by
  rcases split.fresh with rfl | ⟨_, start, rfl⟩
  · exact marked.le_replicate positive
  · rw [List.append_assoc, List.singleton_append] at marked
    rcases marked.split with ahead | ⟨_, _, behind⟩
    · exact absurd (split.short k l ahead.append long) (by omega)
    · exact behind.le_replicate positive

/-- The scan gives the length of the first run that is long enough. -/
theorem first_run_iff (long : least ≤ l) (positive : 0 < l) (bounded : l ≤ most) :
    (∃ k, Run marks k l ∧ First least marks k) ↔ l ≤ scan least most 0 marks ∧ least ≤ scan least most 0 marks := by
  obtain ⟨before, after, split⟩ := scan_split least most 0 marks
  rw [List.replicate_zero, List.nil_append] at split
  generalize scan least most 0 marks = r at split ⊢
  have held : Run marks before.length r := split.held
  constructor
  · rintro ⟨k, marked, first⟩
    by_cases full : most ≤ r
    · omega
    · have marked' := marked
      rw [split.shape] at marked'
      by_cases reached : least ≤ r
      · refine ⟨?_, reached⟩
        rcases split.stop (by omega) with rfl | ⟨tail, rfl⟩
        · rw [List.append_nil] at marked'
          exact split.le_of_within marked' long positive
        · rcases marked'.split with ahead | ⟨k', beyond, _⟩
          · exact split.le_of_within ahead long positive
          · -- The run would start behind the first one, which is long enough.
            have early := first _ _ reached held
            simp only [List.length_append, List.length_replicate] at beyond
            omega
      · obtain rfl := split.all (by omega) (by omega)
        rw [List.append_nil] at marked'
        have fits := split.le_of_within marked' long positive
        omega
  · rintro ⟨fits, _⟩
    refine ⟨before.length, fun j less => held j (by omega), fun k' l' long' marked => ?_⟩
    by_contra early
    rw [split.shape, List.append_assoc] at marked
    have empty := split.short k' l' (marked.within (by omega)) long'
    rcases split.fresh with rfl | ⟨some, _⟩
    · simp only [List.length_nil] at early
      omega
    · omega

/-- Where the marks start with a run that is long enough, the scan stops at it. -/
theorem run_from_start (marked : Run marks 0 l) (long : least ≤ l) (positive : 0 < l) :
    Run marks 0 (scan least most 0 marks) := by
  obtain ⟨before, after, split⟩ := scan_split least most 0 marks
  rw [List.replicate_zero, List.nil_append] at split
  have held := split.held
  rcases split.fresh with rfl | ⟨_, start, rfl⟩
  · exact held
  · rw [split.shape, List.append_assoc, List.append_assoc, List.singleton_append] at marked
    rcases marked.split with ahead | ⟨_, beyond, _⟩
    · exact absurd (split.short 0 l ahead.append long) (by omega)
    · omega

theorem scan_le (room : run < most ∨ run = 0) : scan least most run marks ≤ max most 1 := by
  induction marks generalizing run with
  | nil =>
    rw [scan]
    omega
  | cons mark _ ih =>
    cases mark with
    | true =>
      rw [scan]
      split
      · omega
      · exact ih (.inl (by omega))
    | false =>
      rw [scan]
      split
      · omega
      · split
        · omega
        · exact ih (.inr rfl)

/-! ## A scan over candidates

The candidates are met in order, and one that is found is taken if it beats the one that
was taken last. -/

section
variable {Found : Nat → Prop} {Beats : Nat → Nat → Prop}

/-- The candidate is found, and beats every one taken before it. -/
def Taken (Found : Nat → Prop) (Beats : Nat → Nat → Prop) (n : Nat) : Prop :=
  Found n ∧ ∀ m, m < n → Taken Found Beats m → Beats n m
termination_by n

/-- The candidate the scan ends with. -/
def Last (Found : Nat → Prop) (Beats : Nat → Nat → Prop) (n : Nat) : Prop :=
  Taken Found Beats n ∧ ∀ m, n < m → ¬ Taken Found Beats m

/-- The candidate held once those below a bound have been met. -/
def Held (Found : Nat → Prop) (Beats : Nat → Nat → Prop) (bound : Nat) : Option Nat → Prop
  | none => ∀ n < bound, ¬ Taken Found Beats n
  | some n => n < bound ∧ Taken Found Beats n ∧ ∀ m, n < m → m < bound → ¬ Taken Found Beats m

theorem Last.unique (last : Last Found Beats n) (other : Last Found Beats m) : n = m := by
  rcases Nat.lt_trichotomy n m with before | same | after
  · exact absurd other.1 (last.2 _ before)
  · exact same
  · exact absurd last.1 (other.2 _ after)

theorem Taken.found (taken : Taken Found Beats n) : Found n := by
  rw [Taken] at taken
  exact taken.1

/-- The first candidate that is found is the last one taken if none beats it. -/
theorem last_of_first (found : Found n) (first : ∀ m < n, ¬ Found m)
    (unbeaten : ∀ m, n < m → Found m → ¬ Beats m n) : Last Found Beats n := by
  have taken : Taken Found Beats n := by
    rw [Taken]
    exact ⟨found, fun m before is => absurd is.found (first m before)⟩
  refine ⟨taken, fun m after is => unbeaten m after is.found ?_⟩
  rw [Taken] at is
  exact is.2 n after taken

/-- What beats a candidate beats all before it, so the one that is held decides. -/
theorem Held.taken_iff (held : Held Found Beats n kept) (mono : ∀ k m, m < k → Beats n k → Beats n m) :
    Taken Found Beats n ↔ Found n ∧ ∀ k, kept = some k → Beats n k := by
  rw [Taken]
  refine and_congr_right fun _ => ?_
  cases kept with
  | none => exact ⟨fun _ _ is => (by cases is), fun _ m before taken => absurd taken (held m before)⟩
  | some k =>
    obtain ⟨before, taken, none⟩ := held
    refine ⟨fun all _ is => ?_, fun beats m below taken => ?_⟩
    · cases is
      exact all k before taken
    · rcases Nat.lt_trichotomy m k with earlier | rfl | later
      · exact mono k m earlier (beats k rfl)
      · exact beats m rfl
      · exact absurd taken (none m later below)

theorem Held.take (taken : Taken Found Beats n) : Held Found Beats (n + 1) (some n) :=
  ⟨Nat.lt_succ_self n, taken, fun m after below => by omega⟩

/-- Candidates that are not taken change nothing. -/
theorem Held.skip (held : Held Found Beats n kept) (le : n ≤ bound)
    (none : ∀ m, n ≤ m → m < bound → ¬ Taken Found Beats m) : Held Found Beats bound kept := by
  cases kept with
  | none => exact fun m below => (Nat.lt_or_ge m n).elim (held m) fun after => none m after below
  | some k =>
    obtain ⟨before, taken, later⟩ := held
    exact ⟨by omega, taken, fun m after below => (Nat.lt_or_ge m n).elim (later m after) fun past => none m past below⟩

end

end Duskcue.LongRuns
