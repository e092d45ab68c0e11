import Mathlib.Logic.Basic

/-! Requests as trees of statements. Each statement takes effect by itself, so what a
request has written stays when it ends early: at an error of its own, at a
statement the store refuses, or where the answer to it is lost. `run` performs as
many statements as it is given, and `Leads` is every way a request can go. -/
namespace Duskcue

/-- A statement has a label, changes the store unless the store refuses it, and
what follows depends on the store it found. -/
inductive Statements (σ ℓ ε α : Type)
  | done (value : α)
  | fail (error : ε)
  | send (label : ℓ) (effect : σ → Except ε σ) (next : σ → Statements σ ℓ ε α)

/-- Why a request has given no value. -/
inductive Ending (ε : Type)
  | cut
  | raised (error : ε)

namespace Statements

variable {σ ℓ ε α β : Type}

def bind : Statements σ ℓ ε α → (α → Statements σ ℓ ε β) → Statements σ ℓ ε β
  | done value, next => next value
  | fail error, _ => fail error
  | send label effect rest, next => send label effect fun s => (rest s).bind next

instance : Monad (Statements σ ℓ ε) where
  pure := done
  bind := bind

/-- A statement that only reads. -/
def read (label : ℓ) (answer : σ → α) : Statements σ ℓ ε α := send label .ok fun s => done (answer s)

/-- A statement that only writes. -/
def write (label : ℓ) (effect : σ → Except ε σ) : Statements σ ℓ ε Unit := send label effect fun _ => done ()

/-- How far a request has come: the labels of the statements that took effect, the
value if it came to one, and the store it leaves. -/
structure Execution (σ ℓ ε α : Type) where
  sent : List ℓ
  outcome : Except (Ending ε) α
  store : σ

/-- Perform at most `budget` statements. -/
def run (budget : Nat) : Statements σ ℓ ε α → σ → Execution σ ℓ ε α
  | done value, s => ⟨[], .ok value, s⟩
  | fail error, s => ⟨[], .error (.raised error), s⟩
  | send label effect next, s =>
    match budget with
    | 0 => ⟨[], .error .cut, s⟩
    | budget + 1 =>
      match effect s with
      | .error error => ⟨[], .error (.raised error), s⟩
      | .ok after =>
        let rest := (next s).run budget after
        { rest with sent := label :: rest.sent }

theorem exists_value {outcome : Except (Ending ε) α} (success : outcome.toBool = true) :
    ∃ value, outcome = .ok value := by
  cases outcome with
  | error => cases success
  | ok value => exact ⟨value, rfl⟩

/-- A request in two parts spends on the second what the first has left. -/
theorem run_bind (budget : Nat) (request : Statements σ ℓ ε α) (next : α → Statements σ ℓ ε β) (s : σ) :
    (request.bind next).run budget s =
      match (request.run budget s).outcome with
      | .error ending => ⟨(request.run budget s).sent, .error ending, (request.run budget s).store⟩
      | .ok value =>
        let rest := (next value).run (budget - (request.run budget s).sent.length) (request.run budget s).store
        ⟨(request.run budget s).sent ++ rest.sent, rest.outcome, rest.store⟩ := by
  induction request generalizing budget s with
  | done | fail => cases budget <;> rfl
  | send _ effect rest ih =>
    cases budget with
    | zero => rfl
    | succ budget =>
      simp only [bind, run]
      cases taken : effect s with
      | error => rfl
      | ok after =>
        simp only [ih s budget after, List.length_cons, Nat.add_sub_add_right]
        cases ((rest s).run budget after).outcome <;> simp

/-- Every way a request can go: it may be cut off wherever it is. -/
inductive Leads : Statements σ ℓ ε α → σ → List ℓ → Except (Ending ε) α → σ → Prop
  | cut (request : Statements σ ℓ ε α) (s : σ) : Leads request s [] (.error .cut) s
  | done (value : α) (s : σ) : Leads (.done value) s [] (.ok value) s
  | fail (error : ε) (s : σ) : Leads (.fail error) s [] (.error (.raised error)) s
  | refused (raised : effect s = .error error) : Leads (.send label effect next) s [] (.error (.raised error)) s
  | sent (taken : effect s = .ok after) (rest : Leads (next s) after labels outcome last) :
      Leads (.send label effect next) s (label :: labels) outcome last

variable {request : Statements σ ℓ ε α} {next : α → Statements σ ℓ ε β} {s after : σ} {labels : List ℓ}

theorem leads_run (budget : Nat) (request : Statements σ ℓ ε α) (s : σ) :
    Leads request s (request.run budget s).sent (request.run budget s).outcome (request.run budget s).store := by
  induction request generalizing budget s with
  | done value =>
    cases budget <;> exact .done value s
  | fail error =>
    cases budget <;> exact .fail error s
  | send _ effect _ ih =>
    cases budget with
    | zero => exact .cut _ s
    | succ budget =>
      unfold run
      cases taken : effect s with
      | error => exact .refused taken
      | ok after => exact .sent taken (ih s budget after)

@[simp] theorem pure_eq (value : α) : (pure value : Statements σ ℓ ε α) = done value := rfl

@[simp] theorem bind_eq (request : Statements σ ℓ ε α) (next : α → Statements σ ℓ ε β) :
    request >>= next = request.bind next := rfl

@[simp] theorem done_bind (value : α) (next : α → Statements σ ℓ ε β) : (done value).bind next = next value := rfl

/-- Two requests in turn end in the first one, or come through it to the second. -/
theorem Leads.bind (led : Leads (request.bind next) s labels outcome after) :
    (∃ ending, outcome = .error ending ∧ Leads request s labels (.error ending) after) ∨
      ∃ value first middle later, Leads request s first (.ok value) middle ∧
        Leads (next value) middle later outcome after ∧ labels = first ++ later := by
  induction request generalizing s labels with
  | done value => exact .inr ⟨value, [], s, labels, .done value s, led, rfl⟩
  | fail error =>
    cases led with
    | cut => exact .inl ⟨_, rfl, .cut _ _⟩
    | fail => exact .inl ⟨_, rfl, .fail error _⟩
  | send label _ _ ih =>
    cases led with
    | cut => exact .inl ⟨_, rfl, .cut _ _⟩
    | refused raised => exact .inl ⟨_, rfl, .refused raised⟩
    | sent taken continued =>
      rcases ih _ continued with ⟨ending, same, ended⟩ | ⟨value, first, middle, later, whole, remaining, rfl⟩
      · exact .inl ⟨ending, same, .sent taken ended⟩
      · exact .inr ⟨value, label :: first, middle, later, .sent taken whole, remaining, rfl⟩

/-- A request that gives a value has come through each of its parts. -/
theorem Leads.bind_ok (led : Leads (request.bind next) s labels (.ok value) after) :
    ∃ found first middle later, Leads request s first (.ok found) middle ∧
      Leads (next found) middle later (.ok value) after ∧ labels = first ++ later := by
  rcases led.bind with ⟨ending, absurd, -⟩ | come
  · cases absurd
  · exact come

/-- A request that gives a value goes one way only. -/
theorem Leads.unique (led : Leads request s labels (.ok value) after)
    (again : Leads request s others (.ok found) last) : labels = others ∧ value = found ∧ after = last := by
  induction request generalizing s labels others with
  | done =>
    cases led
    cases again
    exact ⟨rfl, rfl, rfl⟩
  | fail => cases led
  | send _ _ _ ih =>
    cases led with
    | sent taken rest =>
      cases again with
      | sent retaken remaining =>
        cases taken.symm.trans retaken
        obtain ⟨rfl, rfl, rfl⟩ := ih _ rest remaining
        exact ⟨rfl, rfl, rfl⟩

theorem leads_done
    (led : Leads (done value : Statements σ ℓ ε α) s labels outcome after) : labels = [] ∧ after = s := by
  cases led <;> exact ⟨rfl, rfl⟩

theorem leads_read (led : Leads (read label answer : Statements σ ℓ ε α) s labels (.ok value) after) :
    labels = [label] ∧ value = answer s ∧ after = s := by
  cases led with
  | sent taken rest =>
    cases taken
    cases rest
    exact ⟨rfl, rfl, rfl⟩

theorem leads_write
    (led : Leads (write label effect) s labels (.ok value) after) : labels = [label] ∧ effect s = .ok after := by
  cases led with
  | sent taken rest =>
    cases rest
    exact ⟨rfl, taken⟩

/-- A request for one statement has not taken effect unless it gives its value. -/
theorem leads_write_error (led : Leads (write label effect) s labels (.error ending) after) :
    labels = [] ∧ after = s ∨ labels = [label] ∧ effect s = .ok after := by
  cases led with
  | cut | refused => exact .inl ⟨rfl, rfl⟩
  | sent taken rest =>
    cases rest
    exact .inr ⟨rfl, taken⟩

/-- Behind a statement that reads, a request goes on with what it found, or it has changed nothing. -/
theorem Leads.bind_read (led : Leads ((read label answer).bind next) s labels outcome after) :
    (after = s ∧ ∃ ending, outcome = .error ending) ∨ ∃ later, Leads (next (answer s)) s later outcome after := by
  cases led with
  | cut | refused => exact .inl ⟨rfl, _, rfl⟩
  | sent taken rest =>
    cases taken
    exact .inr ⟨_, rest⟩

/-- Behind a statement that writes, a request goes on with what it wrote, or it has changed nothing. -/
theorem Leads.bind_write {next : Unit → Statements σ ℓ ε β}
    (led : Leads ((write label effect).bind next) s labels outcome after) :
    (after = s ∧ ∃ ending, outcome = .error ending) ∨
      ∃ middle later, effect s = .ok middle ∧ Leads (next ()) middle later outcome after := by
  cases led with
  | cut | refused => exact .inl ⟨rfl, _, rfl⟩
  | sent taken rest => exact .inr ⟨_, _, taken, rest⟩

/-! ## What every statement does -/

/-- Every statement a request can come to satisfies `P`. -/
def Each (P : ℓ → (σ → Except ε σ) → Prop) : Statements σ ℓ ε α → Prop
  | done _ => True
  | fail _ => True
  | send label effect next => P label effect ∧ ∀ s, (next s).Each P

variable {P : ℓ → (σ → Except ε σ) → Prop}

theorem each_read (kept : P label .ok) :
    (read label answer : Statements σ ℓ ε α).Each P := ⟨kept, fun _ => trivial⟩

theorem each_write (kept : P label effect) :
    (write label effect : Statements σ ℓ ε Unit).Each P := ⟨kept, fun _ => trivial⟩

theorem Each.bind (first : request.Each P) (rest : ∀ value, (next value).Each P) : (request.bind next).Each P := by
  induction request with
  | done value => exact rest value
  | fail => trivial
  | send _ _ _ ih => exact ⟨first.1, fun s => ih s (first.2 s)⟩

theorem each_foldlM {visit : β → α → Statements σ ℓ ε β} (kept : ∀ state x, (visit state x).Each P) (state : β)
    (xs : List α) : (xs.foldlM visit state).Each P := by
  induction xs generalizing state with
  | nil => trivial
  | cons x _ ih =>
    rw [List.foldlM_cons, bind_eq]
    exact (kept state x).bind ih

/-- What every statement does with its label is what a request does with all of its labels. -/
theorem Leads.each {R : List ℓ → σ → σ → Prop}
    (led : Leads request s labels outcome after) (each : request.Each P) (none : ∀ s, R [] s s)
    (some : ∀ {label effect labels a b c}, P label effect → effect a = .ok b → R labels b c → R (label :: labels) a c) :
    R labels s after := by
  induction led with
  | cut | done | fail | refused => exact none _
  | sent taken _ ih => exact some each.1 taken (ih (each.2 _))

end Statements
end Duskcue
