import Duskcue.VodCommands

/-! The playback store with everything that commits to it: any number of server
instances, the operator, and the edits of other domains with the retirement
triggers they fire. An action is one transaction; a run is any sequence of
actions, so it covers every interleaving of transactions. The order in which
one process issues the transactions of one replacement is kept in `works`:
`execute` retires, then prepares, and only then can fail. -/
namespace Duskcue.Playback
open Transaction

/-! ## Retirement by other domains -/

/-- The retirement triggers, each with the rows its event names. -/
inductive Retirement
  | actor (household : Uuid) (profile : Option Uuid) (kind : Option Kind)
  | session (household session : Uuid)
  | catalog (household assignment : Uuid) (channels : List Hash)
  | library (items : List Uuid)
  | item (id : Uuid)
  | file (id : Uuid)
  | policy (household : Option Uuid)
  | source (file : Uuid)
  | ambientProfile (profile : Uuid)
  | ambientChannel (channel : Uuid)
  | membership (channel item : Uuid)

def Subject.item : Subject → Option Uuid
  | .vod _ item => some item
  | .live _ _ => none

def Subject.file : Subject → Option Uuid
  | .vod file _ => some file
  | .live _ _ => none

/-- `retire_playback_viewers`. -/
def retirePlaybackViewers (household : Uuid) (profile : Option Uuid) (kind : Option Kind) : Tx Unit :=
  retireWhere fun _ _ r => r.householdId = household && profile.all (r.fingerprint.profile = ·) &&
    kind.all (r.kind = ·)

/-- The session branch of `playback_actor_retirement`. -/
def playbackSessionRetirement (household session : Uuid) : Tx Unit :=
  retireWhere fun _ _ r => r.householdId = household && r.fingerprint.session = session

/-- `playback_catalog_retirement`. -/
def playbackCatalogRetirement (household assignment : Uuid) (channels : List Hash) : Tx Unit :=
  retireWhere fun _ _ r => r.householdId = household && r.assignmentId = some assignment &&
    r.kind = .live && !r.channelKey.any (channels.contains ·)

/-- `playback_content_retirement`, by the item or the file of the subject. -/
def playbackContentRetirement (chosen : Subject → Bool) : Tx Unit :=
  retireWhere fun _ _ r => r.kind = .vod && chosen r.fingerprint.subject

/-- `playback_vod_policy_retirement`. -/
def playbackVodPolicyRetirement (household : Option Uuid) : Tx Unit :=
  retireWhere fun s id r => household.all (r.householdId = ·) && (s.commands.find id).isSome &&
    !playbackVodPermitted s id (playbackVodPolicy s.directory r.householdId)

/-- `playback_vod_source_retirement` and `playback_vod_membership_retirement`, on
viewers with a command. -/
def playbackVodSourceRetirement (chosen : Reservation → Command → Bool) : Tx Unit :=
  retireWhere fun s id r => (s.commands.find id).any (chosen r)

def Retirement.apply : Retirement → Tx Unit
  | .actor household profile kind => retirePlaybackViewers household profile kind
  | .session household login => playbackSessionRetirement household login
  | .catalog household assignment channels => playbackCatalogRetirement household assignment channels
  | .library items => playbackContentRetirement fun subject => subject.item.any (items.contains ·)
  | .item id => playbackContentRetirement fun subject => subject.item = some id
  | .file id => playbackContentRetirement fun subject => subject.file = some id
  | .policy household => playbackVodPolicyRetirement household
  | .source media => playbackVodSourceRetirement fun r _ => r.fingerprint.subject.file = some media
  | .ambientProfile profile => playbackVodSourceRetirement fun r c =>
      r.fingerprint.profile = profile && c.ambient.isSome
  | .ambientChannel channel => playbackVodSourceRetirement fun _ c =>
      c.ambient.any (·.1 = channel)
  | .membership channel media => playbackVodSourceRetirement fun r c =>
      c.ambient.any (·.1 = channel) && r.fingerprint.subject.item = some media

/-- A transaction of another domain: it edits the directory and fires triggers. -/
def administer (directory : Directory) (retirements : List Retirement) : Tx Unit := transaction do
  modify fun s => { s with directory }
  forEach Retirement.apply retirements

/-! ## Actions -/

/-- Where the execution of an accepted operation stands. -/
inductive Phase
  | queued | retired | preparing
  deriving DecidableEq

/-- `control::Work`, with the viewer it belongs to. -/
structure Work where
  instanceId : Uuid
  request : Request
  binding : Option Binding
  previous : Uuid
  target : Output
  phase : Phase

structure System where
  store : Store
  works : Table Uuid Work

/-- One transaction, by whom and with what input. -/
inductive Action
  | register (instanceId : Uuid)
  | claim (instanceId : Uuid) (request : Request) (allowInsert : Bool) (binding : Option Binding)
      (authority : Authority)
  | check (instanceId : Uuid) (request : Request) (renew : Bool) (binding : Option Binding)
      (authority : Authority)
  | retire (instanceId : Uuid) (request : Request) (release : Bool)
  | prune (instanceId : Uuid) (unlocked : Bool) (skipped : Uuid → Bool)
  | fence (instanceId : Uuid) (expected : Int)
  | reconcile (instanceId : Uuid) (revision : Int) (resourcesGone : Bool)
  | registerIntent (instanceId : Uuid) (scope : Scope) (session : Except AdmissionError Int)
      (id : Uuid) (hash : Hash)
  | completeIntent (instanceId : Uuid) (scope : Scope) (id : Uuid) (fence : Bool)
  | inspect (instanceId : Uuid) (scope : Scope) (valid : Bool) (id : Uuid) (withdraw : Bool)
  | stop (scope : Scope) (valid : Bool) (id : Uuid)
  | setup (instanceId : Uuid) (request : Request) (binding : Option Binding) (authority : Authority)
      (output : Output)
  | publish (instanceId : Uuid) (request : Request) (binding : Option Binding) (authority : Authority)
      (output : Output) (evidence : Publication)
  | failed (viewer : Uuid)
  | unavailable (instanceId : Uuid) (request : Request) (binding : Option Binding)
      (authority : Authority) (current : Uuid)
  | cleanUncertain (viewer output : Uuid)
  | clean (viewer output : Uuid) (operation : Option Uuid) (failure : Option String)
  | cleanup (viewer : Uuid)
  | cleanupUncertain (viewer : Uuid)
  | accept (instanceId : Uuid) (request : Request) (binding : Option Binding) (authority : Authority)
      (target : Output) (input : Acceptance) (process : Acceptability)
  | replay (scope : Scope) (session : Except AdmissionError Int) (viewer id : Uuid) (hash : Hash)
      (condition : String)
  | executeRetiring (operation : Uuid) (authority : Authority)
  | executePreparing (operation : Uuid) (authority : Authority)
  | executeFailed (operation : Uuid) (authority : Authority)
  | checkpoint (instanceId : Uuid) (request : Request) (binding : Option Binding)
      (authority : Authority) (body : CheckpointRequest) (process : Checkpointing)
  | administer (directory : Directory) (retirements : List Retirement)

/-- What the caller of a transaction is told. -/
inductive Reply
  | done
  | receipt (receipt : Receipt)
  | settlement (response : SettlementResponse)
  | operation (response : OperationResponse) (fresh : Bool)
  | replayed (response : Option OperationResponse)
  | refused (failure : Failure)
  deriving DecidableEq

/-- Run a transaction, to its reply and what the process keeps of a success. -/
def System.attempt {α : Type} (sys : System) (tx : Tx α) (reply : α → Reply)
    (keep : α → Table Uuid Work → Table Uuid Work) : Reply × System :=
  match settle tx sys.store with
  | (.ok value, store) => (reply value, ⟨store, keep value sys.works⟩)
  | (.error failure, store) => (.refused failure, ⟨store, sys.works⟩)

/-- A transaction that leaves the processes' work alone. -/
def System.perform {α : Type} (sys : System) (tx : Tx α) (reply : α → Reply) : Reply × System :=
  sys.attempt tx reply fun _ works => works

/-- The next transaction of an operation's execution, when it has come to it. -/
def System.advance (sys : System) (operation : Uuid) (phase next : Phase) (tx : Work → Tx Unit) :
    Reply × System :=
  match sys.works.find operation with
  | none => (.refused (.refused .retired), sys)
  | some work =>
    if work.phase = phase then
      sys.attempt (tx work) (fun _ => .done) fun _ works => works.put operation { work with phase := next }
    else (.refused (.refused .retired), sys)

section
variable (digest : ConfigurationResponse → Option String)

/-- One action, on a system whose clock is about to move by `elapsed`. -/
def act (sys : System) : Action → Reply × System
  | .register i => sys.perform (register i) fun _ => .done
  | .claim i request insert binding authority =>
    sys.perform (claim i request insert binding authority) .receipt
  | .check i request renew binding authority =>
    sys.perform (check i request renew binding authority) .receipt
  | .retire i request release => sys.perform (retire i request release) fun _ => .done
  | .prune i unlocked skipped => sys.perform (prune i unlocked skipped) fun _ => .done
  | .fence i expected => sys.perform (fence i expected) fun _ => .done
  | .reconcile i revision gone => sys.perform (reconcile i revision gone) fun _ => .done
  | .registerIntent i scope session id hash =>
    sys.perform (registerIntent i scope session id hash) fun _ => .done
  | .completeIntent i scope id fence => sys.perform (completeIntent i scope id fence) fun _ => .done
  | .inspect i scope valid id withdraw =>
    sys.perform (inspect i scope valid id withdraw) .settlement
  | .stop scope valid id => sys.perform (stop scope valid id) fun _ => .done
  | .setup i request binding authority output =>
    sys.perform (setup i request binding authority output) fun _ => .done
  | .publish i request binding authority output evidence =>
    sys.perform (publish i request binding authority output evidence) fun _ => .done
  | .failed viewer => sys.perform (failed viewer) fun _ => .done
  | .unavailable i request binding authority current =>
    sys.perform (unavailable i request binding authority current) fun _ => .done
  | .cleanUncertain viewer output => sys.perform (cleanUncertain viewer output) fun _ => .done
  | .clean viewer output operation failure =>
    sys.perform (clean viewer output operation failure) fun _ => .done
  | .cleanup viewer => sys.perform (cleanup viewer) fun _ => .done
  | .cleanupUncertain viewer => sys.perform (cleanupUncertain viewer) fun _ => .done
  | .accept i request binding authority target input process =>
    sys.attempt (accept digest i request binding authority target input process)
      (fun reply => .operation reply.1 reply.2) fun reply works =>
        if reply.2 then
          works.put input.operation ⟨i, request, binding, input.expected, target, .queued⟩
        else works
  | .replay scope session viewer id hash condition =>
    sys.perform (replay scope session viewer id hash condition) .replayed
  | .executeRetiring operation authority => sys.advance operation .queued .retired fun work =>
      executeRetiring work.instanceId work.request work.binding authority operation work.previous
  | .executePreparing operation authority => sys.advance operation .retired .preparing fun work =>
      executePreparing work.instanceId work.request work.binding authority operation
  | .executeFailed operation authority => sys.advance operation .preparing .preparing fun work =>
      executeFailed work.instanceId work.request work.binding authority operation work.previous
        work.target.recovery
  | .checkpoint i request binding authority body process =>
    sys.perform (checkpoint i request binding authority body process) fun _ => .done
  | .administer directory retirements =>
    sys.perform (administer directory retirements) fun _ => .done

/-- An action with how far the clock moves before each of its readings. -/
structure Move where
  elapsed : List Nat
  action : Action

def System.arrive (sys : System) (elapsed : List Nat) : System :=
  { sys with store := { sys.store with ticks := elapsed } }

def step (sys : System) (move : Move) : Reply × System := act digest (sys.arrive move.elapsed) move.action

/-- The system after a move. -/
def next (sys : System) (move : Move) : System := (step digest sys move).2

/-- The system after a run. -/
def run (sys : System) (moves : List Move) : System := moves.foldl (next digest) sys

/-- The system as deployed at `now`. -/
def System.deployed (now : Time) : System := ⟨Store.migrated now, .empty⟩

/-- What some run of a deployed system leads to. -/
def Reachable (sys : System) : Prop := ∃ now moves, run digest (.deployed now) moves = sys

end

/-! ## A small deployment -/

namespace Sample

def start : Time := 1000000 * second

def host : Uuid := Uuid.v7 999999000 1

def household : Uuid := Uuid.v7 1 2

/-- One household with two streams and one encoder, under a policy that permits
everything. -/
def directory : Directory where
  users := Table.empty.put household ⟨some 2, some 1, none, none⟩
  streamingPolicies := Table.empty.put (Uuid.v7 1 3)
    ⟨none, none, none, true, true, true, none, true, false, [], [], none, true⟩
  liveAssignments := .empty

def request : Request := ⟨Uuid.v7 1000000000 5, ⟨household, 7, 8, 1, .cookie⟩, 1, .vod 9 10⟩

def binding : Binding := ⟨1, 2, 3, .transcode, true, false, none⟩

def authority : Authority := ⟨.ok ⟨1, 0⟩, true, 2⟩

def first : Output :=
  ⟨Uuid.v7 1000000000 6, none, some 77, binding, 0, none, "", 10, 9, none, none, "interactive"⟩

/-- The configuration of the viewer once its first output is published. -/
def published : ConfigurationResponse :=
  ⟨request.id, 2, .ready, first.id, none, "", .playing, .initial, none, false⟩

def digest (value : ConfigurationResponse) : Option String :=
  if value = published then some "2" else none

def operation : Uuid := Uuid.v7 1000000001 11

def second : Output :=
  { first with id := Uuid.v7 1000000000 12, operation := some operation, generation := some 78 }

def evidence : Publication := ⟨true, true, 500, start, true, some 0⟩

def acceptance : Acceptance :=
  ⟨operation, first.id, 42, "\"vod-config-2\"", .seek, none, none, ""⟩

def process : Acceptability := ⟨⟨first.id, true, none, false⟩, true, true, true⟩

/-- The household and the instance are there. -/
def opening : List Move := [⟨[], .administer directory []⟩, ⟨[], .register host⟩]

/-- A viewer starts and its first output is published. -/
def playing : List Move := opening ++ [
  ⟨[], .registerIntent host request.actor (.ok 1) request.id 1⟩,
  ⟨[], .completeIntent host request.actor request.id false⟩,
  ⟨[], .claim host request true (some binding) authority⟩,
  ⟨[], .setup host request (some binding) authority first⟩,
  ⟨[], .publish host request (some binding) authority first evidence⟩]

/-- Two viewers without a command. -/
def viewing : List Move := [
  ⟨[], .claim host request true none authority⟩,
  ⟨[], .claim host { request with id := Uuid.v7 1000000000 20 } true none authority⟩]

end Sample

end Duskcue.Playback
