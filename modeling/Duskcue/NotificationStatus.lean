import Mathlib.Data.Fintype.Defs
import Duskcue.LostUpdates
import Duskcue.Text

/-! The delivery status of a notification, which the dispatcher and the tasks of two channels write. The rows of push
devices and what the providers answer are given with the notification. -/
namespace Duskcue.Notifications
open Statements

inductive ChannelStatus
  | delivered
  | pending
  | skipped
  | failed
  deriving DecidableEq

inductive Channel
  | inApp
  | sse
  | webhook
  | push
  deriving DecidableEq

/-- The entries of the JSON object in `delivery_status`. -/
abbrev DeliveryStatus := Channel → Option ChannelStatus

structure WebhookDispatchConfig where
  url : Option (List Char) := none

structure FcmPushConfig where
  projectId : Option (List Char) := none
  clientEmail : Option (List Char) := none
  privateKey : Option (List Char) := none

structure ApnsPushConfig where
  teamId : Option (List Char) := none
  keyId : Option (List Char) := none
  privateKey : Option (List Char) := none
  bundleId : Option (List Char) := none

structure UnifiedPushConfig where
  enabled : Bool := false

structure PushDispatchConfig where
  enabled : Bool := false
  provider : Option (List Char) := none
  fcm : FcmPushConfig := {}
  apns : ApnsPushConfig := {}
  unifiedpush : UnifiedPushConfig := {}

def nonEmpty (value : Option (List Char)) : Bool := value.any fun v => !(Text.trim v).isEmpty

def WebhookDispatchConfig.isConfigured (config : WebhookDispatchConfig) : Bool :=
  config.url.any fun u => !(Text.trim u).isEmpty

def PushDispatchConfig.isConfigured (config : PushDispatchConfig) : Bool :=
  if !config.enabled then false
  else if config.provider = some "fcm".toList then
    nonEmpty config.fcm.projectId && nonEmpty config.fcm.clientEmail && nonEmpty config.fcm.privateKey
  else if config.provider = some "apns".toList then
    nonEmpty config.apns.teamId && nonEmpty config.apns.keyId && nonEmpty config.apns.privateKey &&
      nonEmpty config.apns.bundleId
  else if config.provider = some "unifiedpush".toList then config.unifiedpush.enabled
  else false

structure UserPrefs where
  webhookEnabled : Bool
  pushEnabled : Bool

/-- The answer of a push provider for one device. -/
inductive PushResult
  | delivered
  | revoked
  | failed
  deriving DecidableEq

/-- A notification that has been inserted, with what its delivery will find. The configuration is loaded anew each time
it is needed. -/
structure Notification where
  prefs : UserPrefs
  pushConfig : PushDispatchConfig
  /-- The webhook as it is when `dispatch` asks whether it is configured. -/
  webhookConfig : WebhookDispatchConfig
  /-- The webhook as it is when `dispatch` takes its settings. -/
  webhook : WebhookDispatchConfig
  /-- Whether the webhook is delivered in the end. -/
  accepted : Bool
  /-- The answers for the active devices, unless these cannot be fetched. -/
  devices : Option (List PushResult)

inductive Writer
  | dispatcher
  | webhook
  | push
  deriving DecidableEq

instance : Fintype Writer := ⟨{.dispatcher, .webhook, .push}, by rintro (_ | _ | _) <;> decide⟩

abbrev Request := Statements (Option DeliveryStatus) (Access Writer) Empty Unit

/-- `update_notification_channel_status`. What is not an object counts as an empty one. -/
def updateNotificationChannelStatus (writer : Writer) (channel : Channel) (status : ChannelStatus) : Request :=
  modify writer fun current => some (Function.update (current.getD fun _ => none) channel (some status))

/-- The status that the push task comes to. -/
def pushStatus (config : PushDispatchConfig) (devices : Option (List PushResult)) : ChannelStatus :=
  match config.provider with
  | none => .skipped
  | some _ =>
    match devices with
    | none => .failed
    | some [] => .skipped
    | some results =>
      let delivered := results.count .delivered
      let failed := results.count .revoked + results.count .failed
      if delivered > 0 then .delivered else if failed > 0 then .failed else .skipped

/-- `spawn_push_delivery`. -/
def spawnPushDelivery (config : PushDispatchConfig) (devices : Option (List PushResult)) : Request :=
  updateNotificationChannelStatus .push .push (pushStatus config devices)

def webhookResult (accepted : Bool) : ChannelStatus := if accepted then .delivered else .failed

/-- `spawn_webhook_delivery`. Without an address no task is started. -/
def spawnWebhookDelivery (config : WebhookDispatchConfig) (accepted : Bool) : Option Request :=
  config.url.map fun _ => updateNotificationChannelStatus .webhook .webhook (webhookResult accepted)

/-- `dispatch_push`: the status it answers, and the task. -/
def dispatchPush (prefs : UserPrefs) (config : PushDispatchConfig) (devices : Option (List PushResult)) :
    ChannelStatus × Option Request :=
  if !prefs.pushEnabled then (.skipped, none)
  else if !config.isConfigured then (.skipped, none)
  else (.pending, some (spawnPushDelivery config devices))

namespace Notification
variable (n : Notification)

def push : ChannelStatus × Option Request := dispatchPush n.prefs n.pushConfig n.devices

def webhookStatus : ChannelStatus × Option Request :=
  if n.prefs.webhookEnabled && n.webhookConfig.isConfigured then (.pending, spawnWebhookDelivery n.webhook n.accepted)
  else (.skipped, none)

/-- `delivery_status` of the insertion. -/
def inserted : Option DeliveryStatus := some fun _ => some .pending

/-- `final_status` of `dispatch`. -/
def finalStatus : DeliveryStatus
  | .inApp => some .delivered
  | .sse => some .delivered
  | .webhook => some n.webhookStatus.1
  | .push => some n.push.1

/-- What writes the status behind the insertion. -/
def requests : Writer → Request
  | .dispatcher => overwrite .dispatcher (some n.finalStatus)
  | .webhook => n.webhookStatus.2.getD (.done ())
  | .push => n.push.2.getD (.done ())

/-! ## What is to be stored -/

/-- The last outcome of a channel. -/
def lastOutcome : Channel → ChannelStatus
  | .inApp => .delivered
  | .sse => .delivered
  | .webhook => if n.webhookStatus.2.isSome then webhookResult n.accepted else .skipped
  | .push => if n.push.2.isSome then pushStatus n.pushConfig n.devices else .skipped

/-- The status holds the last outcome of every channel, and nothing is left pending. -/
def Settled (stored : Option DeliveryStatus) : Prop :=
  ∃ status, stored = some status ∧ ∀ channel, status channel = some (n.lastOutcome channel) ∧
    status channel ≠ some .pending

/-- The address of a webhook that was configured is still there when the task is to be started. -/
def AddressKept : Prop := n.prefs.webhookEnabled ∧ n.webhookConfig.isConfigured → n.webhook.url.isSome

/-! ## Whose writes a status holds -/

/-- Whether a writer is there. -/
def started : Writer → Bool
  | .dispatcher => true
  | .webhook => n.webhookStatus.2.isSome
  | .push => n.push.2.isSome

def active : Finset Writer := Finset.univ.filter fun writer => n.started writer

/-- A status that holds the writes of some. -/
def holds (held : Finset Writer) : Option DeliveryStatus := some fun
  | .inApp => some (if .dispatcher ∈ held then .delivered else .pending)
  | .sse => some (if .dispatcher ∈ held then .delivered else .pending)
  | .webhook => some (if .webhook ∈ held then webhookResult n.accepted
      else if .dispatcher ∈ held then n.webhookStatus.1 else .pending)
  | .push => some (if .push ∈ held then pushStatus n.pushConfig n.devices
      else if .dispatcher ∈ held then n.push.1 else .pending)

variable {n}

theorem mem_active : writer ∈ n.active ↔ n.started writer := by simp [active]

theorem inserted_holds : inserted = n.holds ∅ := by
  refine congrArg some (funext fun channel => ?_)
  cases channel <;> rfl

theorem finalStatus_holds : some n.finalStatus = n.holds (insert .dispatcher ∅) := by
  refine congrArg some (funext fun channel => ?_)
  cases channel <;> simp [finalStatus]

theorem webhookStatus_cases : (n.webhookStatus = (.skipped, none) ∧ n.AddressKept) ∨
    (n.webhookStatus = (.pending, none) ∧ ¬n.AddressKept) ∨
      (n.webhookStatus = (.pending, some (updateNotificationChannelStatus .webhook .webhook
        (webhookResult n.accepted))) ∧
        n.AddressKept) := by
  unfold webhookStatus spawnWebhookDelivery AddressKept
  rw [← Bool.and_eq_true]
  split
  · rename_i configured
    cases n.webhook.url with
    | none => exact .inr (.inl ⟨rfl, fun kept => Bool.false_ne_true (kept configured)⟩)
    | some => exact .inr (.inr ⟨rfl, fun _ => rfl⟩)
  · rename_i other
    exact .inl ⟨rfl, fun configured => absurd configured other⟩

theorem push_cases : n.push = (.skipped, none) ∨
    n.push = (.pending, some (updateNotificationChannelStatus .push .push (pushStatus n.pushConfig n.devices))) := by
  unfold push dispatchPush
  split
  · exact .inl rfl
  split
  · exact .inl rfl
  · exact .inr rfl

/-- The write of a task adds it to those that the status holds. -/
theorem webhook_adds (held : Finset Writer) (_ : .webhook ∉ held) :
    some (Function.update ((n.holds held).getD fun _ => none) .webhook (some (webhookResult n.accepted))) =
      n.holds (insert .webhook held) := by
  refine congrArg some (funext fun channel => ?_)
  cases channel <;> simp [holds]

theorem push_adds (held : Finset Writer) (_ : .push ∉ held) :
    some (Function.update ((n.holds held).getD fun _ => none) .push (some (pushStatus n.pushConfig n.devices))) =
      n.holds (insert .push held) := by
  refine congrArg some (funext fun channel => ?_)
  cases channel <;> simp [holds]

/-- At the start the dispatcher may write, and a task has yet to read. -/
theorem requests_progress (writer : Writer) :
    Progress n.holds n.active ∅ ∅ [.dispatcher] writer (n.requests writer) := by
  cases writer with
  | dispatcher =>
    rw [requests, finalStatus_holds]
    exact .writes (mem_active.mpr rfl) (Finset.notMem_empty _) (Finset.Subset.refl _) (fun _ => rfl)
      fun other => absurd List.mem_cons_self other
  | webhook =>
    have absent (none : n.webhookStatus.2 = none) :
      Progress n.holds n.active ∅ ∅ [.dispatcher] .webhook (n.requests .webhook) := by
      rw [requests, none]
      exact .past fun wants => by simp [mem_active, started, none] at wants
    rcases n.webhookStatus_cases with ⟨skipped, -⟩ | ⟨gone, -⟩ | ⟨spawned, -⟩
    · exact absent (by rw [skipped])
    · exact absent (by rw [gone])
    · rw [requests, spawned]
      exact .reads (mem_active.mpr (by rw [started, spawned]; rfl)) (Finset.notMem_empty _) (by simp) webhook_adds
  | push =>
    rcases n.push_cases with skipped | spawned
    · rw [requests, skipped]
      exact .past fun wants => by simp [mem_active, started, skipped] at wants
    · rw [requests, spawned]
      exact .reads (mem_active.mpr (by rw [started, spawned]; rfl)) (Finset.notMem_empty _) (by simp) push_adds

theorem webhookResult_settled (accepted : Bool) : webhookResult accepted ≠ .pending := by
  cases accepted <;> decide

theorem pushStatus_settled (config : PushDispatchConfig) (devices : Option (List PushResult)) :
    pushStatus config devices ≠ .pending := by
  unfold pushStatus
  dsimp only
  split
  · decide
  split
  · decide
  · decide
  split
  · decide
  split <;> decide

theorem lastOutcome_settled (channel : Channel) : n.lastOutcome channel ≠ .pending := by
  cases channel with
  | inApp | sse => exact ChannelStatus.noConfusion
  | webhook =>
    rw [lastOutcome]
    split
    · exact webhookResult_settled _
    · decide
  | push =>
    rw [lastOutcome]
    split
    · exact pushStatus_settled _ _
    · decide

theorem entry_settled (last : entry = some (n.lastOutcome channel)) :
    entry = some (n.lastOutcome channel) ∧ entry ≠ some .pending := by
  refine ⟨last, ?_⟩
  rw [last]
  exact fun pending => n.lastOutcome_settled channel (Option.some.inj pending)

/-- A status is settled where it holds all writes and the webhook's task was not left out. -/
theorem settled_holds_iff (within : held ⊆ n.active) :
    n.Settled (n.holds held) ↔ n.AddressKept ∧ held = n.active := by
  have started {writer : Writer} (member : writer ∈ held) : n.started writer := mem_active.mp (within member)
  constructor
  · rintro ⟨status, shape, entries⟩
    cases Option.some.inj shape
    have dispatched : .dispatcher ∈ held := by
      by_contra absent
      exact (entries .inApp).2 (by rw [if_neg absent])
    have delivered (there : n.webhookStatus.1 = .pending) : .webhook ∈ held := by
      by_contra absent
      exact (entries .webhook).2 (by dsimp only; rw [if_neg absent, if_pos dispatched, there])
    have pushed (there : n.push.1 = .pending) : .push ∈ held := by
      by_contra absent
      exact (entries .push).2 (by dsimp only; rw [if_neg absent, if_pos dispatched, there])
    have address : n.AddressKept := by
      rcases n.webhookStatus_cases with ⟨-, kept⟩ | ⟨gone, -⟩ | ⟨-, kept⟩
      · exact kept
      · exact absurd (started (delivered (by rw [gone]))) (by rw [Notification.started, gone]; exact Bool.false_ne_true)
      · exact kept
    refine ⟨address, within.antisymm fun writer wants => ?_⟩
    have wants := mem_active.mp wants
    cases writer with
    | dispatcher => exact dispatched
    | webhook =>
      rcases n.webhookStatus_cases with ⟨skipped, -⟩ | ⟨gone, -⟩ | ⟨spawned, -⟩
      · simp [Notification.started, skipped] at wants
      · simp [Notification.started, gone] at wants
      · exact delivered (by rw [spawned])
    | push =>
      rcases n.push_cases with skipped | spawned
      · simp [Notification.started, skipped] at wants
      · exact pushed (by rw [spawned])
  · rintro ⟨address, rfl⟩
    refine ⟨_, rfl, ?_⟩
    have dispatched : .dispatcher ∈ n.active := mem_active.mpr rfl
    intro channel
    refine entry_settled ?_
    cases channel with
    | inApp | sse => rw [if_pos dispatched]; rfl
    | webhook =>
      rcases n.webhookStatus_cases with ⟨skipped, -⟩ | ⟨-, gone⟩ | ⟨spawned, -⟩
      · simp [mem_active, Notification.started, lastOutcome, skipped]
      · exact absurd address gone
      · simp [mem_active, Notification.started, lastOutcome, spawned]
    | push =>
      rcases n.push_cases with skipped | spawned
      · simp [mem_active, Notification.started, lastOutcome, skipped]
      · simp [mem_active, Notification.started, lastOutcome, spawned]

end Notification

/-- Where the dispatcher and the tasks have finished, in whatever order their statements came: the status is settled
exactly when the dispatcher's write came before those of the tasks, no write came between the reading and the writing of
a task, and the webhook's address was not taken away. -/
theorem settled_iff_serial (n : Notification) {accesses : List (Access Writer)} {rest : Writer → Request}
    {stored : Option DeliveryStatus} (run : Interleaves n.requests Notification.inserted accesses rest stored)
    (finished : ∀ writer, rest writer = .done ()) :
    n.Settled stored ↔ n.AddressKept ∧ Serial [.dispatcher] accesses := by
  obtain ⟨held, rfl, within, all⟩ := run.holds_all Notification.inserted_holds Notification.requests_progress
    (Finset.Subset.refl _) (Finset.empty_subset _) finished
  rw [Notification.settled_holds_iff within, all]
  simp

/-- A notification with a webhook and a push provider. -/
def sample : Notification where
  prefs := ⟨true, true⟩
  pushConfig := { enabled := true, provider := some "unifiedpush".toList, unifiedpush := ⟨true⟩ }
  webhookConfig := ⟨some "https://hooks.example".toList⟩
  webhook := ⟨some "https://hooks.example".toList⟩
  accepted := true
  devices := some [.delivered]

/-- Each task starts, and all channels deliver. -/
theorem sample_requests : sample.requests .webhook = updateNotificationChannelStatus .webhook .webhook .delivered ∧
    sample.requests .push = updateNotificationChannelStatus .push .push .delivered ∧ sample.AddressKept := by
  have webhook : sample.webhookStatus.2.isSome = true := by decide +kernel
  have push : sample.push.2.isSome = true := by decide +kernel
  have status : pushStatus sample.pushConfig sample.devices = .delivered := by decide +kernel
  rcases sample.webhookStatus_cases with ⟨skipped, -⟩ | ⟨gone, -⟩ | ⟨spawned, kept⟩
  · simp [skipped] at webhook
  · simp [gone] at webhook
  rcases sample.push_cases with skipped | pushed
  · simp [skipped] at push
  rw [Notification.requests, spawned, Notification.requests, pushed, status]
  exact ⟨rfl, rfl, kept⟩

/-- The dispatcher first, and the tasks one behind the other. -/
theorem sample_settled : ∃ stored, sample.Settled stored := by
  obtain ⟨webhook, push, kept⟩ := sample_requests
  have run : ∃ rest stored, Interleaves sample.requests Notification.inserted
      [.write .dispatcher, .read .push, .write .push, .read .webhook, .write .webhook] rest stored ∧
        ∀ writer, rest writer = .done () := by
    refine ⟨_, _, .step .dispatcher rfl rfl (.step .push push rfl (.step .push rfl rfl (.step .webhook webhook rfl
      (.step .webhook rfl rfl (.nil _ _))))), ?_⟩
    rintro (_ | _ | _) <;> rfl
  obtain ⟨rest, stored, run, finished⟩ := run
  exact ⟨stored, (settled_iff_serial sample run finished).mpr ⟨kept, by decide⟩⟩

/-- The webhook is delivered before the dispatcher writes its own status. -/
theorem early_delivery_lost : ¬ ∀ (n : Notification) (accesses : List (Access Writer)) (rest : Writer → Request)
    (stored : Option DeliveryStatus), Interleaves n.requests Notification.inserted accesses rest stored →
      (∀ writer, rest writer = .done ()) → n.Settled stored := by
  intro all
  obtain ⟨webhook, push, -⟩ := sample_requests
  have finished (rest : Writer → Request) (all : rest .dispatcher = .done () ∧ rest .webhook = .done () ∧
      rest .push = .done ()) (writer : Writer) : rest writer = .done () := by
    cases writer with
    | dispatcher => exact all.1
    | webhook => exact all.2.1
    | push => exact all.2.2
  obtain ⟨status, shape, entries⟩ := all sample
    [.read .webhook, .write .webhook, .write .dispatcher, .read .push, .write .push] _ _
    (.step .webhook webhook rfl (.step .webhook rfl rfl (.step .dispatcher rfl rfl (.step .push push rfl
      (.step .push rfl rfl (.nil _ _)))))) (finished _ ⟨rfl, rfl, rfl⟩)
  cases Option.some.inj shape
  have lost : sample.webhookStatus.1 = .pending := by decide +kernel
  exact (entries .webhook).2 (congrArg some lost)

end Duskcue.Notifications
