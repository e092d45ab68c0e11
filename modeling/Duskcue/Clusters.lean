import Mathlib.Data.Finset.Max
import Mathlib.Data.List.Sort

/-! Runs of points on a line: the points between two ends of which each is near the one
before it, with no point near them outside. A walk over the sorted points finds them all. -/
namespace Duskcue.Clusters

variable {α : Type} [LinearOrder α]

/-- The points from `s` to `e` are near each other, and none before them is near. -/
structure Opened (near : α → α → Prop) (points : Finset α) (s e : α) : Prop where
  first : s ∈ points
  last : e ∈ points
  ordered : s ≤ e
  close : ∀ t ∈ points, ∀ u ∈ points, s ≤ t → t < u → u ≤ e → (∀ v ∈ points, t < v → u ≤ v) → near t u
  before : ∀ t ∈ points, t < s → ¬ near t s

/-- The points from `s` to `e` are a run that cannot be made longer. -/
structure IsRun (near : α → α → Prop) (points : Finset α) (s e : α) : Prop extends Opened near points s e where
  after : ∀ t ∈ points, e < t → ¬ near e t

/-- Points that lie between near points are near, and a point is near itself. -/
structure Nearness (near : α → α → Prop) : Prop where
  refl : ∀ a, near a a
  within : ∀ {a b c d}, a ≤ b → b ≤ c → c ≤ d → near a d → near b c

variable {near : α → α → Prop} {points : Finset α} {s e s' e' t : α} {rest : List α}

theorem exists_pred (member : s ∈ points) (below : s < t) :
    ∃ p ∈ points, s ≤ p ∧ p < t ∧ ∀ v ∈ points, p < v → t ≤ v := by
  have held : s ∈ points.filter (· < t) := Finset.mem_filter.mpr ⟨member, below⟩
  obtain ⟨p, chosen, greatest⟩ := (points.filter (· < t)).exists_max_image id ⟨s, held⟩
  obtain ⟨inside, less⟩ := Finset.mem_filter.mp chosen
  refine ⟨p, inside, greatest s held, less, fun v there beyond => ?_⟩
  by_contra short
  exact absurd (greatest v (Finset.mem_filter.mpr ⟨there, not_le.mp short⟩)) (not_le.mpr beyond)

theorem exists_succ (member : e ∈ points) (above : t < e) :
    ∃ p ∈ points, p ≤ e ∧ t < p ∧ ∀ v ∈ points, t < v → p ≤ v := by
  have held : e ∈ points.filter (t < ·) := Finset.mem_filter.mpr ⟨member, above⟩
  obtain ⟨p, chosen, least⟩ := (points.filter (t < ·)).exists_min_image id ⟨e, held⟩
  obtain ⟨inside, greater⟩ := Finset.mem_filter.mp chosen
  exact ⟨p, inside, least e held, greater, fun v there beyond => least v (Finset.mem_filter.mpr ⟨there, beyond⟩)⟩

theorem IsRun.start_le (run : IsRun near points s e) (other : IsRun near points s' e') (meet : s' ≤ e) : s' ≤ s := by
  by_contra later
  obtain ⟨p, inside, least, less, next⟩ := exists_pred run.first (not_le.mp later)
  exact other.before p inside less (run.close p inside s' other.first least less meet next)

theorem IsRun.le_end (run : IsRun near points s e) (other : IsRun near points s' e') (meet : s ≤ e') : e ≤ e' := by
  by_contra short
  obtain ⟨p, inside, most, greater, next⟩ := exists_succ run.last (not_le.mp short)
  exact other.after p inside greater (run.close e' other.last p inside meet greater most next)

/-- Runs that meet are the same. -/
theorem IsRun.unique (run : IsRun near points s e) (other : IsRun near points s' e') (left : s' ≤ e) (right : s ≤ e') :
    s = s' ∧ e = e' :=
  ⟨le_antisymm (other.start_le run right) (run.start_le other left),
    le_antisymm (run.le_end other right) (other.le_end run left)⟩

/-- What is left to walk: sorted, none before the current end, and with it all points. -/
structure Ahead (points : Finset α) (e : α) (rest : List α) : Prop where
  sorted : rest.Pairwise (· ≤ ·)
  later : ∀ t ∈ rest, e ≤ t
  inside : ∀ t ∈ rest, t ∈ points
  all : ∀ t ∈ points, t ≤ e ∨ t ∈ rest

theorem Ahead.tail (ahead : Ahead points e (t :: rest)) : Ahead points t rest := by
  obtain ⟨sorted, later, inside, all⟩ := ahead
  obtain ⟨least, sorted⟩ := List.pairwise_cons.mp sorted
  refine ⟨sorted, least, fun u member => inside u (List.mem_cons_of_mem _ member), fun u member => ?_⟩
  rcases all u member with past | here
  · exact .inl (past.trans (later t List.mem_cons_self))
  · rcases List.mem_cons.mp here with rfl | here
    · exact .inl le_rfl
    · exact .inr here

theorem Ahead.next_le (ahead : Ahead points e (t :: rest)) (member : u ∈ points) (beyond : e < u) : t ≤ u := by
  rcases ahead.all u member with past | here
  · exact absurd past (not_le.mpr beyond)
  · rcases List.mem_cons.mp here with rfl | here
    · exact le_rfl
    · exact (List.pairwise_cons.mp ahead.sorted).1 u here

theorem Opened.extend (opened : Opened near points s e) (ahead : Ahead points e (t :: rest)) (joined : near e t) :
    Opened near points s t := by
  have beyond : e ≤ t := ahead.later t List.mem_cons_self
  refine ⟨opened.first, ahead.inside t List.mem_cons_self, opened.ordered.trans beyond, ?_, opened.before⟩
  intro u member v member' from_ less upto next
  by_cases within : v ≤ e
  · exact opened.close u member v member' from_ less within next
  · -- The last point is the only new one, so the one before it is the old end.
    obtain rfl : v = t := le_antisymm upto (ahead.next_le member' (not_le.mp within))
    have near_ : u ≤ e := by
      by_contra past
      exact absurd (ahead.next_le member (not_le.mp past)) (not_le.mpr less)
    obtain rfl | short := near_.eq_or_lt
    · exact joined
    · exact absurd (next e opened.last short) within

theorem Opened.closed (nearness : Nearness near) (opened : Opened near points s e)
    (ahead : Ahead points e (t :: rest)) (apart : ¬ near e t) :
    IsRun near points s e := by
  refine ⟨opened, fun u member beyond close => ?_⟩
  exact apart (nearness.within le_rfl (ahead.later t List.mem_cons_self) (ahead.next_le member beyond) close)

theorem opened_next (nearness : Nearness near) (ahead : Ahead points e (t :: rest)) (apart : ¬ near e t) :
    Opened near points t t := by
  have member := ahead.inside t List.mem_cons_self
  refine ⟨member, member, le_rfl, fun u _ v _ from_ less upto => absurd (less.trans_le upto) (not_lt.mpr from_), ?_⟩
  intro u there less close
  have past : u ≤ e := by
    by_contra beyond
    exact absurd (ahead.next_le there (not_le.mp beyond)) (not_le.mpr less)
  exact apart (nearness.within past (ahead.later t List.mem_cons_self) le_rfl close)

theorem ahead_of_sorted (order : (t :: rest).Pairwise (· ≤ ·)) : Ahead (t :: rest).toFinset t rest := by
  obtain ⟨least, sorted⟩ := List.pairwise_cons.mp order
  refine ⟨sorted, least, fun u member => by simp [member], fun u member => ?_⟩
  rcases List.mem_cons.mp (List.mem_toFinset.mp member) with rfl | here
  · exact .inl le_rfl
  · exact .inr here

theorem opened_of_sorted (order : (t :: rest).Pairwise (· ≤ ·)) : Opened near (t :: rest).toFinset t t := by
  have least : ∀ u ∈ (t :: rest).toFinset, t ≤ u := fun u member =>
    (List.mem_cons.mp (List.mem_toFinset.mp member)).elim (fun same => same ▸ le_rfl)
      ((List.pairwise_cons.mp order).1 u)
  have member : t ∈ (t :: rest).toFinset := by simp
  exact ⟨member, member, le_rfl, fun u _ v _ from_ less upto => absurd (less.trans_le upto) (not_lt.mpr from_),
    fun u there less => absurd (least u there) (not_le.mpr less)⟩

section
variable [DecidableRel near]

/-- The runs of sorted points, of which the one from `s` has come to `e`. -/
def walk (near : α → α → Prop) [DecidableRel near] (s e : α) : List α → List (α × α)
  | [] => [(s, e)]
  | t :: rest => if near e t then walk near s t rest else (s, e) :: walk near t t rest

theorem walk_start_le (ordered : s ≤ e) (ahead : Ahead points e rest)
    (member : run ∈ walk near s e rest) : s ≤ run.1 := by
  induction rest generalizing s e with
  | nil =>
    obtain rfl := List.mem_singleton.mp member
    exact le_rfl
  | cons t _ ih =>
    have beyond : e ≤ t := ahead.later t List.mem_cons_self
    rw [walk] at member
    split at member
    · exact ih (ordered.trans beyond) ahead.tail member
    · rcases List.mem_cons.mp member with rfl | member
      · exact le_rfl
      · exact (ordered.trans beyond).trans (ih le_rfl ahead.tail member)

/-- The walk gives runs, each before the next, and comes past every point. -/
theorem walk_spec (nearness : Nearness near) (opened : Opened near points s e) (ahead : Ahead points e rest) :
    (∀ run ∈ walk near s e rest, IsRun near points run.1 run.2) ∧
      (∀ t ∈ points, s ≤ t → ∃ run ∈ walk near s e rest, run.1 ≤ t ∧ t ≤ run.2) ∧
      (walk near s e rest).Pairwise fun run later => run.2 < later.1 := by
  induction rest generalizing s e with
  | nil =>
    have past : ∀ t ∈ points, t ≤ e := fun t member => (ahead.all t member).resolve_right (List.not_mem_nil)
    refine ⟨fun run member => ?_, fun t member later => ?_, List.pairwise_singleton _ _⟩
    · obtain rfl := List.mem_singleton.mp member
      exact ⟨opened, fun t member beyond => absurd (past t member) (not_le.mpr beyond)⟩
    · exact ⟨(s, e), List.mem_singleton_self _, later, past t member⟩
  | cons t rest ih =>
    rw [walk]
    split
    · rename_i joined
      exact ih (opened.extend ahead joined) ahead.tail
    · rename_i apart
      have start := opened_next nearness ahead apart
      obtain ⟨runs, covered, separate⟩ := ih start ahead.tail
      refine ⟨List.forall_mem_cons.mpr ⟨opened.closed nearness ahead apart, runs⟩, fun u member later => ?_,
        List.pairwise_cons.mpr ⟨fun run member => ?_, separate⟩⟩
      · by_cases past : u ≤ e
        · exact ⟨(s, e), List.mem_cons_self, later, past⟩
        · obtain ⟨run, inside, left, right⟩ := covered u member (ahead.next_le member (not_le.mp past))
          exact ⟨run, List.mem_cons_of_mem _ inside, left, right⟩
      · have beyond : e < t := (ahead.later t List.mem_cons_self).lt_of_ne fun same =>
          apart (same ▸ nearness.refl e)
        exact beyond.trans_le (walk_start_le le_rfl ahead.tail member)

/-- The runs of sorted points. -/
def runs (near : α → α → Prop) [DecidableRel near] : List α → List (α × α)
  | [] => []
  | t :: rest => walk near t t rest

/-- Each run ends before the next one starts. -/
theorem runs_separate (nearness : Nearness near) {sorted : List α} (order : sorted.Pairwise (· ≤ ·)) :
    (runs near sorted).Pairwise fun run later => run.2 < later.1 := by
  cases sorted with
  | nil => exact List.Pairwise.nil
  | cons => exact (walk_spec nearness (opened_of_sorted order) (ahead_of_sorted order)).2.2

theorem mem_runs (nearness : Nearness near) {sorted : List α} (order : sorted.Pairwise (· ≤ ·)) :
    run ∈ runs near sorted ↔ IsRun near sorted.toFinset run.1 run.2 := by
  cases sorted with
  | nil =>
    refine ⟨fun member => absurd member List.not_mem_nil, fun isRun => ?_⟩
    exact absurd isRun.first (by simp)
  | cons t =>
    obtain ⟨sound, covered, _⟩ := walk_spec nearness (opened_of_sorted order : Opened near _ t t)
      (ahead_of_sorted order)
    refine ⟨sound run, fun isRun => ?_⟩
    have later : t ≤ run.1 := by
      rcases List.mem_cons.mp (List.mem_toFinset.mp isRun.first) with same | here
      · exact same.ge
      · exact (List.pairwise_cons.mp order).1 _ here
    obtain ⟨found, member, left, right⟩ := covered run.1 isRun.first later
    -- The run that comes past the first point is the run itself.
    obtain ⟨first, last⟩ := (sound found member).unique isRun right (left.trans isRun.ordered)
    rw [runs, show run = found from Prod.ext first.symm last.symm]
    exact member

end

end Duskcue.Clusters
