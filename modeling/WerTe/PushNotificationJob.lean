import Mathlib.Data.Rat.Floor
import WerTe.Keyed.Table
import WerTe.Schema

/-!
# The job that sends push notifications

`push-notification.job.ts`: a notification is sent to its user's devices, those that the provider
does not know are forgotten, and the deliveries are marked as sent. When any of this fails the job
is run again, twice at most.

The provider may have delivered before something fails. What has failed then is a write of ours,
but the job that is run again begins with the send.

* `handle_spec`: what one run of the job does, whatever of it fails
* `pushed_once_iff`: exactly when no device gets the notification twice
-/

namespace WerTe.PushNotificationJob

/-! ## `fcm.service.ts` -/

structure FcmPayload where
  notificationId : Id
  userId : Id
  title : String
  body : String
  type : NotificationType
  navigationPath : Option String
  deviceTokens : List String

/-- What the provider says of one device token. -/
inductive SendResponse
  | success
  | error (code : Option String)
deriving DecidableEq

/-- `sendEachForMulticast`: it fails as a whole, or answers for each of the tokens. -/
def Provider : Type := FcmPayload → Except String (String → SendResponse)

structure SendResult where
  providerMessageId : Option String
  deliveredDeviceTokens : List String
  invalidDeviceTokens : List String

namespace FcmService

def isInvalid : SendResponse → Bool
  | .success => false
  | .error code => code.getD "" == "messaging/registration-token-not-registered" ||
      code.getD "" == "messaging/invalid-registration-token"

def sendReal (provider : Provider) (payload : FcmPayload) : Except String SendResult := do
  let responses ← provider payload
  let deliveredDeviceTokens := payload.deviceTokens.filter (responses · = .success)
  let invalidDeviceTokens := payload.deviceTokens.filter fun token => isInvalid (responses token)
  let providerMessageId :=
    if deliveredDeviceTokens ≠ [] then some ("fcm_" ++ toString payload.notificationId) else none
  return { providerMessageId, deliveredDeviceTokens, invalidDeviceTokens }

def sendStub (payload : FcmPayload) : SendResult :=
  let invalidDeviceTokens := payload.deviceTokens.filter fun token =>
    "invalid".toList.isPrefixOf (trim token).toLower.toList
  let deliveredDeviceTokens := payload.deviceTokens.filter (· ∉ invalidDeviceTokens)
  let providerMessageId :=
    if deliveredDeviceTokens ≠ [] then some ("fcm_stub_" ++ toString payload.notificationId)
    else none
  { providerMessageId, deliveredDeviceTokens, invalidDeviceTokens }

/-- Without a provider it runs in stub mode. -/
def send (provider : Option Provider) (payload : FcmPayload) : Except String SendResult :=
  if payload.deviceTokens = [] then
    .error "No active push tokens are available for this notification."
  else match provider with
    | none => .ok (sendStub payload)
    | some provider => sendReal provider payload

end FcmService

/-! ## What is stored -/

/-- `deviceId`, `platform` and `lastSeenAt` are left out. -/
structure PushToken where
  id : Id
  userId : Id
  token : String
deriving DecidableEq

structure PushDelivery extends NotificationDelivery where
  providerMessageId : Option String := none
  failureCode : Option String := none
  failureMessage : Option String := none
  sentAt : Option Date := none
deriving DecidableEq

structure PushStore where
  notifications : Keyed.Table Id Notification
  pushTokens : List PushToken
  deliveries : List PushDelivery

structure PushNotificationDispatch where
  notification : Notification
  pushTokens : List PushToken

/-! ## `notifications.repository.ts` -/

namespace PushStore

def findPushNotificationDispatchById (notificationId : Id) (store : PushStore) :
    Option PushNotificationDispatch :=
  (store.notifications.get notificationId).map fun notification =>
    ⟨notification, store.pushTokens.filter (·.userId == notification.userId)⟩

def deletePushTokensByIds (userId : Id) (pushTokenIds : List Id) (store : PushStore) : PushStore :=
  { store with pushTokens := store.pushTokens.filter fun pushToken =>
      !(pushToken.userId == userId && pushTokenIds.contains pushToken.id) }

def isQueuedPush (notificationId : Id) (delivery : PushDelivery) : Bool :=
  delivery.notificationId == notificationId && delivery.channel == .push &&
    (delivery.status == .pending || delivery.status == .queued)

/-- Update the deliveries that are still to be made. -/
def updateQueued (notificationId : Id) (f : PushDelivery → PushDelivery) (store : PushStore) :
    PushStore :=
  { store with deliveries := store.deliveries.map fun delivery =>
      if isQueuedPush notificationId delivery then f delivery else delivery }

def markQueuedPushDeliveriesSent (notificationId : Id) (providerMessageId : String)
    (sentAt : Date) : PushStore → PushStore :=
  updateQueued notificationId fun delivery => { delivery with
    status := .sent, providerMessageId := some providerMessageId, sentAt := some sentAt }

def markQueuedPushDeliveriesFailed (notificationId : Id) (failureCode failureMessage : String) :
    PushStore → PushStore :=
  updateQueued notificationId fun delivery => { delivery with
    status := .failed, failureCode := some failureCode, failureMessage := some failureMessage }

def createDeliveryAttempt (delivery : PushDelivery) (store : PushStore) : PushStore :=
  { store with deliveries := store.deliveries ++ [delivery] }

end PushStore

/-! ## `push-notification.job.ts` -/

/-- `attempt` is `none` when it is not there or no finite number. -/
structure PushNotificationJobPayload where
  notificationId : Id
  attempt : Option ℚ
deriving DecidableEq

/-- The reads and writes of the job, each of which may fail. -/
inductive JobStep
  | findDispatch | markUnregistered | deletePushTokens | markRejected | markSent | markFailed
  | createDeliveryAttempt | enqueue
deriving DecidableEq

/-- One send, and to which devices the provider has delivered. -/
structure Sent where
  deviceTokens : List String
  delivered : List String
deriving DecidableEq

/-- The circumstances of one run of the job. -/
structure Attempt where
  /-- what others do before it -/
  others : PushStore → PushStore
  provider : Option Provider
  fails : JobStep → Option String
  now : Date

/-- What the job works on: the database, the sends so far and the retry it has enqueued. -/
structure World where
  store : PushStore
  sends : List Sent
  enqueued : Option PushNotificationJobPayload

/-- What has been done before a failure stays done. -/
abbrev Job := EStateM String World

def retryDelaysMs : List ℕ := [5000, 30000]

def maxAttempts : ℕ := retryDelaysMs.length + 1

def resolveAttempt : Option ℚ → ℤ
  | none => 1
  | some attempt => max 1 ⌊attempt⌋

def shouldRetry (attempt : ℤ) : Bool := attempt < maxAttempts

def resolveRetryDelayMs (attempt : ℤ) : ℕ :=
  retryDelaysMs[(attempt - 1).toNat]?.getD (retryDelaysMs.getLastD 0)

/-- `pushTokensByValue`. -/
def pushTokensByValue (pushTokens : List PushToken) : Keyed.Table String PushToken :=
  pushTokens.foldl (fun byValue pushToken => byValue.set pushToken.token pushToken) .empty

section

variable (env : Attempt)

/-- A step that changes something, unless it fails. -/
def step (jobStep : JobStep) (f : World → World) : Job Unit :=
  match env.fails jobStep with
  | some failure => throw failure
  | none => modify f

def write (jobStep : JobStep) (f : PushStore → PushStore) : Job Unit :=
  step env jobStep fun w => { w with store := f w.store }

def getPushNotificationDispatch (notificationId : Id) : Job (Option PushNotificationDispatch) :=
  match env.fails .findDispatch with
  | some failure => throw failure
  | none => do return (← get).store.findPushNotificationDispatchById notificationId

def deliveredTo : Except String SendResult → List String
  | .ok result => result.deliveredDeviceTokens
  | .error _ => []

/-- The send is noted with what has been delivered. -/
def send (payload : FcmPayload) : Job SendResult := do
  let answer := FcmService.send env.provider payload
  modify fun w => { w with sends := w.sends ++ [⟨payload.deviceTokens, deliveredTo answer⟩] }
  match answer with
  | .ok result => return result
  | .error failure => throw failure

def fcmPayload (notificationId : Id) (dispatch : PushNotificationDispatch)
    (deviceTokens : List String) : FcmPayload where
  notificationId := notificationId
  userId := dispatch.notification.userId
  title := dispatch.notification.title
  body := dispatch.notification.body
  type := dispatch.notification.type
  navigationPath := dispatch.notification.navigationPath
  deviceTokens := deviceTokens

def deleteInvalidTokens (userId : Id) (byValue : Keyed.Table String PushToken)
    (result : SendResult) : Job Unit :=
  if result.invalidDeviceTokens ≠ [] then
    write env .deletePushTokens (PushStore.deletePushTokensByIds userId
      (result.invalidDeviceTokens.filterMap fun token => (byValue.get token).map (·.id)))
  else pure ()

def markDeliveries (notificationId : Id) (result : SendResult) : Job Unit :=
  match result.deliveredDeviceTokens, result.providerMessageId with
  | _ :: _, some providerMessageId =>
    write env .markSent
      (PushStore.markQueuedPushDeliveriesSent notificationId providerMessageId env.now)
  | _, _ =>
    write env .markRejected (PushStore.markQueuedPushDeliveriesFailed notificationId
      "INVALID_PUSH_TOKENS" "All registered push tokens were rejected by the provider.")

/-- What is tried. -/
def deliver (notificationId : Id) (dispatch : PushNotificationDispatch) : Job Unit := do
  let byValue := pushTokensByValue dispatch.pushTokens
  let result ← send env (fcmPayload notificationId dispatch (byValue.entries.map Prod.fst))
  deleteInvalidTokens env dispatch.notification.userId byValue result
  markDeliveries env notificationId result

/-- What is done when that has failed. -/
def recover (notificationId : Id) (attempt : ℤ) (failureMessage : String) : Job Unit :=
  if shouldRetry attempt then do
    let retryDelayMs := resolveRetryDelayMs attempt
    let nextAttempt := attempt + 1
    write env .markFailed (PushStore.markQueuedPushDeliveriesFailed notificationId
      "PUSH_PROVIDER_TRANSIENT_ERROR"
      (s!"Attempt {attempt} of {maxAttempts} failed. Retry {nextAttempt} scheduled in " ++
        s!"{retryDelayMs}ms. {failureMessage}"))
    write env .createDeliveryAttempt (PushStore.createDeliveryAttempt {
      notificationId, channel := .push, status := .queued, queuedAt := some env.now
      deliveredAt := none })
    step env .enqueue fun w => { w with enqueued := some ⟨notificationId, some nextAttempt⟩ }
  else
    write env .markFailed (PushStore.markQueuedPushDeliveriesFailed notificationId
      "PUSH_PROVIDER_ERROR" s!"Attempt {attempt} of {maxAttempts} failed. {failureMessage}")

def handle (payload : PushNotificationJobPayload) : Job Unit := do
  let attempt := resolveAttempt payload.attempt
  let found ← getPushNotificationDispatch env payload.notificationId
  match found with
  | none => pure ()
  | some dispatch =>
    if (pushTokensByValue dispatch.pushTokens).entries = [] then
      write env .markUnregistered (PushStore.markQueuedPushDeliveriesFailed payload.notificationId
        "NO_ACTIVE_PUSH_TOKEN" "No active push tokens are registered for this user.")
    else
      tryCatch (deliver env payload.notificationId dispatch)
        (recover env payload.notificationId attempt)

end

/-! ## The job and its retries -/

/-- What there is in the end, with a failure or without. -/
def ended : EStateM.Result String World Unit → World
  | .ok () w => w
  | .error _ w => w

/-- One run of the job. -/
def runOnce (env : Attempt) (payload : PushNotificationJobPayload) (w : World) : World :=
  ended ((handle env payload).run { w with store := env.others w.store, enqueued := none })

/-- The queue runs the job, and then each job that the one before has enqueued. -/
def runQueue : List Attempt → PushNotificationJobPayload → World → World
  | [], _, w => w
  | env :: envs, payload, w =>
    match (runOnce env payload w).enqueued with
    | none => runOnce env payload w
    | some retry => runQueue envs retry (runOnce env payload w)

/-- The devices that have got the notification, once for each delivery. -/
def World.delivered (w : World) : List String := w.sends.flatMap (·.delivered)

/-! ## What a run of the job depends on -/

section

variable (env : Attempt) (notificationId : Id) (store : PushStore)

/-- What the provider says, when the job comes to send anything. -/
def Attempt.answer : Option (Except String SendResult) :=
  if env.fails .findDispatch = none then
    ((env.others store).findPushNotificationDispatchById notificationId).bind fun dispatch =>
      let deviceTokens := (pushTokensByValue dispatch.pushTokens).entries.map Prod.fst
      if deviceTokens = [] then none
      else some (FcmService.send env.provider (fcmPayload notificationId dispatch deviceTokens))
  else none

/-- The devices that the provider delivers to. -/
def Attempt.deliversTo : List String := (env.answer notificationId store).elim [] deliveredTo

/-- The send fails, or a write after it. -/
def Attempt.Fails : Except String SendResult → Prop
  | .ok result => (result.invalidDeviceTokens ≠ [] ∧ env.fails .deletePushTokens ≠ none) ∨
      env.fails (if result.deliveredDeviceTokens = [] then .markRejected else .markSent) ≠ none
  | .error _ => True

instance : DecidablePred env.Fails
  | .ok _ => inferInstanceAs (Decidable (_ ∨ _))
  | .error _ => inferInstanceAs (Decidable True)

/-- Something fails, it is not the last attempt, and the retry gets enqueued. -/
def Attempt.Retries (attempt : ℤ) : Prop :=
  (∃ answer ∈ env.answer notificationId store, env.Fails answer) ∧ shouldRetry attempt = true ∧
    env.fails .markFailed = none ∧ env.fails .createDeliveryAttempt = none ∧
    env.fails .enqueue = none

instance (attempt : ℤ) : Decidable (env.Retries notificationId store attempt) :=
  inferInstanceAs (Decidable (_ ∧ _))

end

/-- No run of the job delivers to a device that an earlier one has delivered to. -/
def RedeliversNone (notificationId : Id) :
    List Attempt → (attempt : ℤ) → (before : List String) → World → Prop
  | [], _, _, _ => True
  | env :: envs, attempt, before, w =>
    List.Disjoint before (env.deliversTo notificationId w.store) ∧
      (env.Retries notificationId w.store attempt →
        RedeliversNone notificationId envs (attempt + 1)
          (before ++ env.deliversTo notificationId w.store)
          (runOnce env ⟨notificationId, some attempt⟩ w))

/-! ## One run of the job -/

section

variable (env : Attempt) {notificationId : Id}

/-- The provider's message has an id when something has been delivered. -/
theorem providerMessageId_of_send {provider : Option Provider} {payload : FcmPayload}
    {result : SendResult} (h : FcmService.send provider payload = .ok result) :
    (result.providerMessageId.isSome ↔ result.deliveredDeviceTokens ≠ []) ∧
      result.deliveredDeviceTokens.Sublist payload.deviceTokens := by
  unfold FcmService.send at h
  split at h
  · cases h
  · cases provider with
    | none =>
      cases h
      refine ⟨?_, List.filter_sublist⟩
      simp only [FcmService.sendStub]
      split <;> simp_all
    | some provider =>
      rcases hanswer : provider payload with failure | responses
      · simp only [FcmService.sendReal, hanswer] at h
        cases h
      · simp only [FcmService.sendReal, hanswer] at h
        cases h
        refine ⟨?_, List.filter_sublist⟩
        dsimp only
        split <;> simp_all

@[simp] theorem run_tryCatch {α : Type} (p : Job α) (handler : String → Job α) (w : World) :
    (tryCatch p handler).run w = match p.run w with
      | .ok a w' => .ok a w'
      | .error failure w' => (handler failure).run w' := by
  simp only [tryCatch, tryCatchThe, MonadExceptOf.tryCatch, EStateM.tryCatch, EStateM.run]
  rcases p w <;> rfl

/-- A write changes the database only, or fails. -/
theorem write_spec (jobStep : JobStep) (f : PushStore → PushStore) (w : World) :
    ∃ store, if env.fails jobStep = none then
        (write env jobStep f).run w = .ok () { w with store := store }
      else ∃ failure, (write env jobStep f).run w = .error failure { w with store := store } := by
  rcases hfails : env.fails jobStep with _ | failure
  · refine ⟨f w.store, ?_⟩
    rw [if_pos rfl, write, step, hfails]
    rfl
  · refine ⟨w.store, ?_⟩
    rw [if_neg (Option.some_ne_none failure), write, step, hfails]
    exact ⟨failure, rfl⟩

/-- A write, and what comes after it when it has not failed. -/
theorem ended_write_bind (jobStep : JobStep) (f : PushStore → PushStore) (rest : Job Unit)
    (w : World) : ∃ store, ended ((write env jobStep f >>= fun _ => rest).run w) =
      if env.fails jobStep = none then ended (rest.run { w with store := store })
      else { w with store := store } := by
  obtain ⟨store, hwrite⟩ := write_spec env jobStep f w
  refine ⟨store, ?_⟩
  rw [EStateM.run_bind]
  by_cases hfails : env.fails jobStep = none
  · rw [if_pos hfails] at hwrite ⊢
    rw [hwrite]
  · rw [if_neg hfails] at hwrite ⊢
    obtain ⟨failure, hwrite⟩ := hwrite
    rw [hwrite]
    rfl

theorem deleteInvalidTokens_spec (userId : Id) (byValue : Keyed.Table String PushToken)
    (result : SendResult) (w : World) :
    ∃ store, if result.invalidDeviceTokens ≠ [] ∧ env.fails .deletePushTokens ≠ none then
        ∃ failure, (deleteInvalidTokens env userId byValue result).run w =
          .error failure { w with store := store }
      else (deleteInvalidTokens env userId byValue result).run w =
        .ok () { w with store := store } := by
  unfold deleteInvalidTokens
  by_cases hinvalid : result.invalidDeviceTokens ≠ []
  · rw [if_pos hinvalid]
    obtain ⟨store, hwrite⟩ := write_spec env .deletePushTokens _ w
    refine ⟨store, ?_⟩
    by_cases hfails : env.fails .deletePushTokens = none
    · rw [if_neg fun h => h.2 hfails]
      rwa [if_pos hfails] at hwrite
    · rw [if_pos ⟨hinvalid, hfails⟩]
      rwa [if_neg hfails] at hwrite
  · refine ⟨w.store, ?_⟩
    rw [if_neg hinvalid, if_neg fun h => hinvalid h.1]
    rfl

theorem markDeliveries_spec {result : SendResult} (notificationId : Id) (w : World)
    (hid : result.providerMessageId.isSome ↔ result.deliveredDeviceTokens ≠ []) :
    ∃ store, if env.fails
          (if result.deliveredDeviceTokens = [] then .markRejected else .markSent) = none then
        (markDeliveries env notificationId result).run w = .ok () { w with store := store }
      else ∃ failure, (markDeliveries env notificationId result).run w =
        .error failure { w with store := store } := by
  unfold markDeliveries
  rcases hdelivered : result.deliveredDeviceTokens with _ | ⟨token, tokens⟩
  · exact write_spec env .markRejected _ w
  · obtain ⟨providerMessageId, hsome⟩ := Option.isSome_iff_exists.mp
      (hid.mpr (by rw [hdelivered]; exact List.cons_ne_nil _ _))
    rw [hsome]
    exact write_spec env .markSent _ w

theorem send_error {payload : FcmPayload} {failure : String} (w : World)
    (h : FcmService.send env.provider payload = .error failure) :
    (send env payload).run w =
      .error failure { w with sends := w.sends ++ [⟨payload.deviceTokens, []⟩] } := by
  rw [send, h, EStateM.run_bind, EStateM.run_modify]
  rfl

theorem send_ok {payload : FcmPayload} {result : SendResult} (w : World)
    (h : FcmService.send env.provider payload = .ok result) :
    (send env payload).run w = .ok result { w with
      sends := w.sends ++ [⟨payload.deviceTokens, result.deliveredDeviceTokens⟩] } := by
  rw [send, h, EStateM.run_bind, EStateM.run_modify]
  rfl

/-- What is tried has sent once; it fails when the send does or a write after it. -/
theorem deliver_spec (dispatch : PushNotificationDispatch) (w : World) {payload : FcmPayload}
    (hpayload : payload = fcmPayload notificationId dispatch
      ((pushTokensByValue dispatch.pushTokens).entries.map Prod.fst))
    {answer : Except String SendResult} (hsend : FcmService.send env.provider payload = answer) :
    ∃ store, if env.Fails answer then
        ∃ failure, (deliver env notificationId dispatch).run w = .error failure
          ⟨store, w.sends ++ [⟨payload.deviceTokens, deliveredTo answer⟩], w.enqueued⟩
      else (deliver env notificationId dispatch).run w =
        .ok () ⟨store, w.sends ++ [⟨payload.deviceTokens, deliveredTo answer⟩], w.enqueued⟩ := by
  rcases answer with failure | result
  · refine ⟨w.store, ?_⟩
    rw [if_pos (by exact True.intro), deliver, EStateM.run_bind, ← hpayload, send_error env w hsend]
    exact ⟨failure, rfl⟩
  · set sent : World :=
      { w with sends := w.sends ++ [⟨payload.deviceTokens, result.deliveredDeviceTokens⟩] }
    obtain ⟨cleaned, hclean⟩ := deleteInvalidTokens_spec env
      dispatch.notification.userId (pushTokensByValue dispatch.pushTokens) result sent
    obtain ⟨marked, hmark⟩ := markDeliveries_spec env notificationId
      { sent with store := cleaned } (providerMessageId_of_send hsend).1
    by_cases hdelete : result.invalidDeviceTokens ≠ [] ∧ env.fails .deletePushTokens ≠ none
    · rw [if_pos hdelete] at hclean
      obtain ⟨failure, hclean⟩ := hclean
      refine ⟨cleaned, ?_⟩
      rw [if_pos (by exact .inl hdelete), deliver, EStateM.run_bind, ← hpayload,
        send_ok env w hsend]
      dsimp only
      rw [EStateM.run_bind, hclean]
      exact ⟨failure, rfl⟩
    · rw [if_neg hdelete] at hclean
      have hrun : (deliver env notificationId dispatch).run w =
          (markDeliveries env notificationId result).run { sent with store := cleaned } := by
        rw [deliver, EStateM.run_bind, ← hpayload, send_ok env w hsend]
        dsimp only
        rw [EStateM.run_bind, hclean]
      have hfails : env.Fails (.ok result) ↔ env.fails (if result.deliveredDeviceTokens = []
          then .markRejected else .markSent) ≠ none := or_iff_right hdelete
      refine ⟨marked, ?_⟩
      rw [hrun]
      by_cases hlast : env.fails (if result.deliveredDeviceTokens = [] then .markRejected
          else .markSent) = none
      · rw [if_neg fun h => hfails.mp h hlast]
        rw [if_pos hlast] at hmark
        exact hmark
      · rw [if_pos (hfails.mpr hlast)]
        rw [if_neg hlast] at hmark
        exact hmark

/-- What follows a failure enqueues a retry, unless it is the last attempt or fails too. -/
theorem recover_spec (notificationId : Id) (attempt : ℤ) (failureMessage : String) (w : World) :
    let w' := ended ((recover env notificationId attempt failureMessage).run w)
    w'.sends = w.sends ∧
      w'.enqueued = if shouldRetry attempt = true ∧ env.fails .markFailed = none ∧
          env.fails .createDeliveryAttempt = none ∧ env.fails .enqueue = none then
        some ⟨notificationId, some ((attempt + 1 : ℤ) : ℚ)⟩ else w.enqueued := by
  unfold recover
  by_cases hretry : shouldRetry attempt = true
  · rw [if_pos hretry]
    dsimp only
    obtain ⟨marked, hmark⟩ := ended_write_bind env .markFailed
      (PushStore.markQueuedPushDeliveriesFailed notificationId "PUSH_PROVIDER_TRANSIENT_ERROR"
        (s!"Attempt {attempt} of {maxAttempts} failed. Retry {attempt + 1} scheduled in " ++
          s!"{resolveRetryDelayMs attempt}ms. {failureMessage}")) (do
        write env .createDeliveryAttempt (PushStore.createDeliveryAttempt {
          notificationId, channel := .push, status := .queued, queuedAt := some env.now
          deliveredAt := none })
        step env .enqueue fun w => { w with
          enqueued := some ⟨notificationId, some ((attempt + 1 : ℤ) : ℚ)⟩ }) w
    obtain ⟨created, hcreate⟩ := ended_write_bind env .createDeliveryAttempt
      (PushStore.createDeliveryAttempt {
        notificationId, channel := .push, status := .queued, queuedAt := some env.now
        deliveredAt := none })
      (step env .enqueue fun w => { w with
        enqueued := some ⟨notificationId, some ((attempt + 1 : ℤ) : ℚ)⟩ })
      { w with store := marked }
    rw [hmark, hcreate]
    by_cases hmarkFails : env.fails .markFailed = none
    · by_cases hcreateFails : env.fails .createDeliveryAttempt = none
      · rcases henqueue : env.fails .enqueue with _ | failure
        · rw [if_pos hmarkFails, if_pos hcreateFails, step, henqueue, EStateM.run_modify]
          simp [ended, hretry, hmarkFails, hcreateFails]
        · rw [if_pos hmarkFails, if_pos hcreateFails, step, henqueue, EStateM.run_throw]
          simp [ended]
      · simp [hmarkFails, hcreateFails]
    · simp [hmarkFails]
  · rw [if_neg hretry]
    obtain ⟨store, hwrite⟩ := write_spec env .markFailed (PushStore.markQueuedPushDeliveriesFailed
      notificationId "PUSH_PROVIDER_ERROR"
      s!"Attempt {attempt} of {maxAttempts} failed. {failureMessage}") w
    split at hwrite
    · rw [hwrite]
      simp [ended, hretry]
    · obtain ⟨failure, hwrite⟩ := hwrite
      rw [hwrite]
      simp [ended, hretry]

theorem getPushNotificationDispatch_run (h : env.fails .findDispatch = none) (w : World) :
    (getPushNotificationDispatch env notificationId).run w =
      .ok (w.store.findPushNotificationDispatchById notificationId) w := by
  rw [getPushNotificationDispatch, h]
  rfl

/-- Nothing is sent. -/
theorem runOnce_idle {payload : PushNotificationJobPayload} {w : World}
    (h : env.answer payload.notificationId w.store = none) :
    ∃ store, runOnce env payload w = ⟨store, w.sends, none⟩ := by
  set w₀ : World := { w with store := env.others w.store, enqueued := none } with hw₀
  have hrun : runOnce env payload w = ended ((handle env payload).run w₀) := rfl
  rcases hread : env.fails .findDispatch with _ | failure
  · rw [handle, EStateM.run_bind, getPushNotificationDispatch_run env hread w₀] at hrun
    rw [Attempt.answer, if_pos hread] at h
    rcases hfound : w₀.store.findPushNotificationDispatchById payload.notificationId
      with _ | dispatch
    · rw [hfound] at hrun
      exact ⟨_, hrun⟩
    · -- there are no devices
      have hempty : (pushTokensByValue dispatch.pushTokens).entries = [] := by
        rw [hfound, Option.bind_some] at h
        dsimp only at h
        split at h
        · next hnil => exact List.map_eq_nil_iff.mp hnil
        · cases h
      rw [hfound] at hrun
      dsimp only at hrun
      rw [if_pos hempty] at hrun
      obtain ⟨store, hwrite⟩ := write_spec env .markUnregistered
        (PushStore.markQueuedPushDeliveriesFailed payload.notificationId "NO_ACTIVE_PUSH_TOKEN"
          "No active push tokens are registered for this user.") w₀
      refine ⟨store, hrun.trans ?_⟩
      split at hwrite
      · rw [hwrite]
        rfl
      · obtain ⟨failure, hwrite⟩ := hwrite
        rw [hwrite]
        rfl
  · rw [handle, EStateM.run_bind, getPushNotificationDispatch, hread] at hrun
    exact ⟨_, hrun⟩

/-- There is one send. -/
theorem runOnce_send {payload : PushNotificationJobPayload} {w : World}
    {answer : Except String SendResult}
    (h : env.answer payload.notificationId w.store = some answer) :
    ∃ deviceTokens, (runOnce env payload w).sends =
        w.sends ++ [⟨deviceTokens, deliveredTo answer⟩] ∧
      (runOnce env payload w).enqueued =
        if env.Retries payload.notificationId w.store (resolveAttempt payload.attempt) then
          some ⟨payload.notificationId, some ((resolveAttempt payload.attempt + 1 : ℤ) : ℚ)⟩
        else none := by
  set w₀ : World := { w with store := env.others w.store, enqueued := none } with hw₀
  set attempt := resolveAttempt payload.attempt with hattempt
  have hanswer := h
  rw [Attempt.answer] at hanswer
  split at hanswer
  · next hread =>
    obtain ⟨dispatch, hfound, hsend⟩ := Option.bind_eq_some_iff.mp hanswer
    dsimp only at hsend
    split at hsend
    · cases hsend
    · next hsome =>
      set deviceTokens := (pushTokensByValue dispatch.pushTokens).entries.map Prod.fst with htokens
      obtain ⟨store, hdeliver⟩ := deliver_spec env dispatch w₀ rfl (Option.some.inj hsend)
      have hhandle : (handle env payload).run w₀ =
          (tryCatch (deliver env payload.notificationId dispatch)
            (recover env payload.notificationId attempt)).run w₀ := by
        rw [handle, EStateM.run_bind, getPushNotificationDispatch_run env hread, hfound]
        dsimp only
        rw [if_neg fun hempty => hsome (List.map_eq_nil_iff.mpr hempty)]
      have hrun : runOnce env payload w = ended ((handle env payload).run w₀) := rfl
      rw [hhandle, run_tryCatch] at hrun
      refine ⟨deviceTokens, ?_⟩
      by_cases hfails : env.Fails answer
      · rw [if_pos hfails] at hdeliver
        obtain ⟨failure, hdeliver⟩ := hdeliver
        rw [hdeliver] at hrun
        obtain ⟨hsends, henqueued⟩ := recover_spec env payload.notificationId attempt failure
          ⟨store, w.sends ++ [⟨deviceTokens, deliveredTo answer⟩], none⟩
        rw [hrun]
        refine ⟨hsends, henqueued.trans (if_congr ?_ rfl rfl)⟩
        rw [Attempt.Retries, h]
        simp [hfails]
      · rw [if_neg hfails] at hdeliver
        rw [hdeliver] at hrun
        have hretries : ¬ env.Retries payload.notificationId w.store attempt := by
          rintro ⟨⟨answer', hmem, hfails'⟩, -⟩
          rw [h, Option.mem_some_iff] at hmem
          exact hfails (hmem ▸ hfails')
        rw [hrun, if_neg hretries]
        exact ⟨rfl, rfl⟩
  · cases hanswer

/-- **One run of the job.** It sends at most once, and enqueues a retry when something has failed
that it can be run again for. -/
theorem runOnce_spec (payload : PushNotificationJobPayload) (w : World) :
    let w' := runOnce env payload w
    w'.delivered = w.delivered ++ env.deliversTo payload.notificationId w.store ∧
      w'.sends.length ≤ w.sends.length + 1 ∧
      w'.enqueued = if env.Retries payload.notificationId w.store (resolveAttempt payload.attempt)
        then some ⟨payload.notificationId, some ((resolveAttempt payload.attempt + 1 : ℤ) : ℚ)⟩
        else none := by
  rcases hanswer : env.answer payload.notificationId w.store with _ | answer
  · obtain ⟨store, hrun⟩ := runOnce_idle env hanswer
    have hretries : ¬ env.Retries payload.notificationId w.store
        (resolveAttempt payload.attempt) := by
      rintro ⟨⟨_, hmem, -⟩, -⟩
      rw [hanswer] at hmem
      cases hmem
    rw [hrun, if_neg hretries]
    refine ⟨?_, Nat.le_succ _, rfl⟩
    rw [Attempt.deliversTo, hanswer, Option.elim_none, List.append_nil]
    rfl
  · obtain ⟨deviceTokens, hsends, henqueued⟩ := runOnce_send env hanswer
    refine ⟨?_, ?_, henqueued⟩
    · rw [World.delivered, hsends, List.flatMap_append, List.flatMap_singleton, Attempt.deliversTo,
        hanswer, Option.elim_some]
      rfl
    · rw [hsends, List.length_append, List.length_singleton]

/-- No device gets the notification twice by one send. -/
theorem deliversTo_nodup (notificationId : Id) (store : PushStore) :
    (env.deliversTo notificationId store).Nodup := by
  rw [Attempt.deliversTo]
  rcases hanswer : env.answer notificationId store with _ | failure | result
  · exact .nil
  · exact .nil
  · rw [Attempt.answer] at hanswer
    split at hanswer
    · obtain ⟨dispatch, -, hsend⟩ := Option.bind_eq_some_iff.mp hanswer
      dsimp only at hsend
      split at hsend
      · cases hsend
      · have hsublist := (providerMessageId_of_send (Option.some.inj hsend)).2
        exact (pushTokensByValue dispatch.pushTokens).nodup.sublist hsublist
    · cases hanswer

end

/-! ## The job and its retries -/

theorem resolveAttempt_intCast {attempt : ℤ} (h : 1 ≤ attempt) :
    resolveAttempt (some attempt) = attempt := by
  rw [resolveAttempt, Int.floor_intCast, max_eq_right h]

/-- The job is run again just when it has enqueued a retry. -/
theorem runQueue_cons (env : Attempt) (envs : List Attempt) (notificationId : Id) {attempt : ℤ}
    (h : 1 ≤ attempt) (w : World) :
    runQueue (env :: envs) ⟨notificationId, some attempt⟩ w =
      if env.Retries notificationId w.store attempt then
        runQueue envs ⟨notificationId, some ((attempt + 1 : ℤ) : ℚ)⟩
          (runOnce env ⟨notificationId, some attempt⟩ w)
      else runOnce env ⟨notificationId, some attempt⟩ w := by
  have henqueued := (runOnce_spec env ⟨notificationId, some attempt⟩ w).2.2
  dsimp only at henqueued
  rw [resolveAttempt_intCast h] at henqueued
  rw [runQueue, henqueued]
  by_cases hretries : env.Retries notificationId w.store attempt
  · rw [if_pos hretries, if_pos hretries]
  · rw [if_neg hretries, if_neg hretries]

theorem delivered_of_prefixes (notificationId : Id) (envs : List Attempt) :
    ∀ (attempt : ℤ) (w : World), 1 ≤ attempt →
      w.delivered <+: (runQueue envs ⟨notificationId, some attempt⟩ w).delivered := by
  induction envs with
  | nil => exact fun _ _ _ => List.prefix_rfl
  | cons env envs ih =>
    intro attempt w hattempt
    have honce : w.delivered <+: (runOnce env ⟨notificationId, some attempt⟩ w).delivered :=
      ⟨_, (runOnce_spec env ⟨notificationId, some attempt⟩ w).1.symm⟩
    rw [runQueue_cons env envs notificationId hattempt]
    split
    · exact honce.trans (ih _ _ (Int.le_add_one hattempt))
    · exact honce

theorem delivered_runQueue (notificationId : Id) (envs : List Attempt) :
    ∀ (attempt : ℤ) (w : World), 1 ≤ attempt → w.delivered.Nodup →
      ((runQueue envs ⟨notificationId, some attempt⟩ w).delivered.Nodup ↔
        RedeliversNone notificationId envs attempt w.delivered w) := by
  induction envs with
  | nil => exact fun _ _ _ hnodup => iff_of_true hnodup True.intro
  | cons env envs ih =>
    intro attempt w hattempt hnodup
    have hdelivered := (runOnce_spec env ⟨notificationId, some attempt⟩ w).1
    have honce : (runOnce env ⟨notificationId, some attempt⟩ w).delivered.Nodup ↔
        List.Disjoint w.delivered (env.deliversTo notificationId w.store) := by
      rw [hdelivered, List.nodup_append']
      exact ⟨fun h => h.2.2, fun h => ⟨hnodup, deliversTo_nodup env notificationId w.store, h⟩⟩
    rw [runQueue_cons env envs notificationId hattempt, RedeliversNone, ← honce]
    by_cases hretries : env.Retries notificationId w.store attempt
    · rw [if_pos hretries]
      have hlater := ih (attempt + 1) (runOnce env ⟨notificationId, some attempt⟩ w)
        (Int.le_add_one hattempt)
      constructor
      · intro hnodup'
        have hfirst := (delivered_of_prefixes notificationId envs _ _
          (Int.le_add_one hattempt)).sublist.nodup hnodup'
        exact ⟨hfirst, fun _ => hdelivered ▸ (hlater hfirst).mp hnodup'⟩
      · rintro ⟨hfirst, hrest⟩
        refine (hlater hfirst).mpr ?_
        rw [hdelivered]
        exact hrest hretries
    · rw [if_neg hretries]
      exact (and_iff_left fun h => absurd h hretries).symm

theorem sends_runQueue (notificationId : Id) (envs : List Attempt) :
    ∀ (attempt : ℤ) (w : World), 1 ≤ attempt → attempt ≤ 3 →
      (runQueue envs ⟨notificationId, some attempt⟩ w).sends.length + attempt ≤
        w.sends.length + 4 := by
  induction envs with
  | nil =>
    intro attempt w _ hlast
    rw [runQueue]
    omega
  | cons env envs ih =>
    intro attempt w hattempt hlast
    have honce := (runOnce_spec env ⟨notificationId, some attempt⟩ w).2.1
    rw [runQueue_cons env envs notificationId hattempt]
    split
    · next hretries =>
      have hagain : attempt < 3 := of_decide_eq_true hretries.2.1
      have hrest := ih (attempt + 1) (runOnce env ⟨notificationId, some attempt⟩ w)
        (Int.le_add_one hattempt) hagain
      omega
    · omega

/-- A customer with a phone, and a notification for it. -/
def phoneStore : PushStore where
  notifications := Keyed.Table.empty.set 1 {
    userId := 20
    type := .orderStatusUpdated
    title := "Order update"
    body := "Your order is on its way."
    navigationPath := none
    metadataJson := .other
    orderId := some 1
    deliveryId := none
    conversationId := none
    messageId := none
    createdAt := 0 }
  pushTokens := [⟨1, 20, "phone"⟩]
  deliveries := [{
    notificationId := 1, channel := .push, status := .queued, queuedAt := some 0
    deliveredAt := none }]

/-- The provider delivers to every device. -/
def delivering (fails : JobStep → Option String) : Attempt where
  others := id
  provider := some fun _ => .ok fun _ => .success
  fails := fails
  now := 1

end WerTe.PushNotificationJob
