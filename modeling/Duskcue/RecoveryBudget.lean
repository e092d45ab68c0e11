import Duskcue.Trace

/-! The recovery of a play session over its heartbeats. A heartbeat may replace a worker that
failed, and a copied or a direct stream that the client cannot decode. All three draw on one
budget, which the metadata of the session keeps. -/
namespace Duskcue.Recovery

/-- `MAX_RECOVERY_ATTEMPTS`. -/
@[grind] def maxRecoveryAttempts : Nat := 2

/-- `DECODE_SKIP_MS`. -/
def decodeSkipMs : Int := 4000

def i32Max : Int := 2147483647
def i64Max : Int := 9223372036854775807

inductive FailureClass
  | hardware | decode | container | stalled | unknown
  deriving DecidableEq

/-- What `reserve` reads of a session: whether it runs in software, and whether it encodes the video. -/
structure TranscodeSession where
  software : Bool
  encodes : Bool
  sourceStartMs : Int
  outTimeMs : Option Nat
  recoveryAttempts : Nat

structure RecoveryBudget where
  attempts : Nat := 0
  restartedStall : Bool := false
  skippedDecode : Bool := false
  exhausted : Bool := false

structure RecoveryAction where
  positionMs : Int
  software : Bool
  skippedMs : Int := 0
  qualityReduced : Bool := false

/-- The worker got to the confirmed position, and less than a skip behind it. -/
def TranscodeSession.failedNearPlayhead (session : TranscodeSession) (confirmed : Int) : Bool :=
  session.outTimeMs.any fun out =>
    let position := session.sourceStartMs + out
    decide (out ≤ i64Max ∧ position ≤ i64Max ∧ confirmed ≤ position ∧ position - confirmed < decodeSkipMs)

/-- `RecoveryBudget::reserve`. -/
@[grind] def RecoveryBudget.reserve (budget : RecoveryBudget) (failure : FailureClass) (session : TranscodeSession)
    (confirmed : Int) : RecoveryBudget × Option RecoveryAction :=
  let budget := { budget with attempts := max budget.attempts session.recoveryAttempts }
  let refused := ({ budget with exhausted := true }, none)
  let reserved := { budget with attempts := budget.attempts + 1 }
  let action := { positionMs := confirmed, software := session.software }
  if budget.exhausted ∨ maxRecoveryAttempts ≤ budget.attempts ∨ confirmed < 0 then refused
  else match failure with
    | .hardware => if session.software then refused else (reserved, some { action with software := true })
    | .stalled => if budget.restartedStall then refused else ({ reserved with restartedStall := true }, some action)
    | .decode =>
      if budget.skippedDecode ∨ !session.encodes ∨ !session.failedNearPlayhead confirmed then refused
      else if confirmed + decodeSkipMs ≤ i32Max then
        ({ reserved with skippedDecode := true },
          some { action with positionMs := confirmed + decodeSkipMs, skippedMs := decodeSkipMs })
      else ({ budget with skippedDecode := true, exhausted := true }, none)
    | .container | .unknown => refused

/-- A heartbeat that gets to a recovery at its position, with what the server finds: the failure and the session, or
whether the saved fallback still fits, and whether the replacement starts. -/
inductive Heartbeat
  | worker (failure : Option FailureClass) (session : Option TranscodeSession) (position : Int) (started : Bool)
  | copy (session : TranscodeSession) (fits : Bool) (position : Int) (started : Bool)
  | direct (supported fits : Bool) (position : Int) (started : Bool)

/-- A replacement that is asked for, of a worker with a failure or of what the client cannot decode. -/
structure Replacement where
  failure : Option FailureClass
  action : RecoveryAction

/-- A replacement that does not start exhausts the budget. -/
@[grind] def replace (budget : RecoveryBudget) (replacement : Replacement) (started : Bool) :
    RecoveryBudget × Option Replacement :=
  ({ budget with exhausted := budget.exhausted || !started }, some replacement)

/-- What `copy_recovery::recover` and `direct_recovery::recover` share. -/
@[grind] def clientDecode (budget : RecoveryBudget) (fits : Bool) (position : Int) (started : Bool) :
    RecoveryBudget × Option Replacement :=
  if maxRecoveryAttempts ≤ budget.attempts then ({ budget with exhausted := true }, none)
  else if fits ∧ 0 ≤ position ∧ position ≤ i32Max then
    replace { budget with attempts := budget.attempts + 1 } ⟨none, ⟨position, true, 0, true⟩⟩ started
  else ({ budget with exhausted := true }, none)

/-- `recover`. -/
@[grind] def recover (budget : RecoveryBudget) (heartbeat : Heartbeat) : RecoveryBudget × Option Replacement :=
  if budget.exhausted then (budget, none)
  else match heartbeat with
    | .worker (some failure) (some session) position started =>
      match budget.reserve failure session position with
      | (budget, some action) => replace budget ⟨failure, action⟩ started
      | (budget, none) => (budget, none)
    | .worker none (some _) _ _ => (budget, none)
    | .worker _ none _ _ => ({ budget with exhausted := true }, none)
    | .copy session fits position started =>
      clientDecode { budget with attempts := max budget.attempts session.recoveryAttempts } fits position started
    | .direct supported fits position started =>
      if supported then clientDecode budget fits position started else ({ budget with exhausted := true }, none)

def next (budget : RecoveryBudget) (heartbeat : Heartbeat) : RecoveryBudget := (recover budget heartbeat).1

/-- A heartbeat asks for a replacement of the kind. -/
def replaces (kind : Option FailureClass → Bool) (budget : RecoveryBudget) (heartbeat : Heartbeat) : Bool :=
  (recover budget heartbeat).2.any fun replacement => kind replacement.failure

/-! ## What a recovery takes from the budget -/

/-- The replacements that are left. -/
@[grind] def RecoveryBudget.left (budget : RecoveryBudget) : Nat :=
  if budget.exhausted then 0 else maxRecoveryAttempts - budget.attempts

@[grind] def RecoveryBudget.restarts (budget : RecoveryBudget) : Nat := if budget.restartedStall then 0 else 1

@[grind] def RecoveryBudget.skips (budget : RecoveryBudget) : Nat := if budget.skippedDecode then 0 else 1

/-- Nothing comes back to a budget, and a replacement is taken from it. -/
structure Spends (budget after : RecoveryBudget) (replaced : Option Replacement) : Prop where
  left : after.left ≤ budget.left ∧ ∀ r, replaced = some r → after.left < budget.left
  stall : after.restarts ≤ budget.restarts ∧
    ∀ r, replaced = some r → r.failure = some .stalled → after.restarts < budget.restarts
  decode : after.skips ≤ budget.skips ∧
    ∀ r, replaced = some r → r.failure = some .decode → after.skips < budget.skips

theorem recover_spends (budget : RecoveryBudget) (heartbeat : Heartbeat) :
    Spends budget (recover budget heartbeat).1 (recover budget heartbeat).2 := by
  cases heartbeat with
  | worker failure session =>
    rcases failure with _ | failure <;> rcases session with _ | session
    case some.some => cases failure <;> constructor <;> grind
    all_goals constructor <;> grind
  | copy | direct => constructor <;> grind

/-- What each replacement of a kind is taken from bounds how many there are. -/
theorem replaces_le (kind : Option FailureClass → Bool) (measure : RecoveryBudget → Nat)
    (spends : ∀ budget heartbeat, measure (next budget heartbeat) ≤ measure budget ∧ ∀ r,
      (recover budget heartbeat).2 = some r → kind r.failure = true → measure (next budget heartbeat) < measure budget)
    (budget : RecoveryBudget) (heartbeats : List Heartbeat) :
    occurrences next (replaces kind) budget heartbeats ≤ measure budget := by
  refine occurrences_le_measure measure (fun budget heartbeat => ?_) budget heartbeats
  obtain ⟨falls, spent⟩ := spends budget heartbeat
  cases happens : replaces kind budget heartbeat with
  | false => simpa using falls
  | true =>
    obtain ⟨r, asked, same⟩ := (Option.any_eq_true _ _).mp happens
    have := spent r asked same
    rw [Bool.toNat_true]
    omega

/-- Whatever budget a play session has, its heartbeats replace no more than is left of it, a stalled worker only
where none has been restarted, and one that cannot decode only where nothing has been skipped. -/
theorem recoveries_bounded (budget : RecoveryBudget) (heartbeats : List Heartbeat) :
    occurrences next (replaces fun _ => true) budget heartbeats ≤ budget.left ∧
    occurrences next (replaces (· = some .stalled)) budget heartbeats ≤ budget.restarts ∧
    occurrences next (replaces (· = some .decode)) budget heartbeats ≤ budget.skips := by
  refine ⟨replaces_le _ _ (fun budget heartbeat => ?_) _ _, replaces_le _ _ (fun budget heartbeat => ?_) _ _,
    replaces_le _ _ (fun budget heartbeat => ?_) _ _⟩ <;> have spends := recover_spends budget heartbeat
  · exact spends.left.imp_right fun spent r asked _ => spent r asked
  · exact spends.stall.imp_right fun spent r asked kind => spent r asked (of_decide_eq_true kind)
  · exact spends.decode.imp_right fun spent r asked kind => spent r asked (of_decide_eq_true kind)

end Duskcue.Recovery
