import WerTe.ReconciliationProgress

/-!
# What one processing of an event does

* `Processing`: the databases that one processing of an event may leave, and what it has found
* `processProviderEvent_processing`: it leaves one of them
* `Processing.sameReport`: whatever becomes of an event, it keeps on saying the same
-/

namespace WerTe

open ReadCommitted

/-- What the provider has said, and whether it is known to have said it. -/
structure ProviderEvent.SameReport {Ids Status : Type} (event event' : ProviderEvent Ids Status) :
    Prop where
  provider : event'.provider = event.provider
  providerEventId : event'.providerEventId = event.providerEventId
  normalizedStatus : event'.normalizedStatus = event.normalizedStatus
  verificationStatus : event'.verificationStatus = event.verificationStatus

namespace ProviderEvent.SameReport

variable {Ids Status : Type} {event event' event'' : ProviderEvent Ids Status}

theorem refl (event : ProviderEvent Ids Status) : event.SameReport event := ⟨rfl, rfl, rfl, rfl⟩

theorem withProcessingState (event : ProviderEvent Ids Status)
    (payload : ProcessingStateInput Ids) :
    event.SameReport (event.withProcessingState payload) := ⟨rfl, rfl, rfl, rfl⟩

end ProviderEvent.SameReport

namespace ProviderEventProcessor

variable {Ids Status Target Action : Type}
  {processor : ProviderEventProcessor Ids Status Target Action} {databaseMessage : Failure → String}
  {table : Tbl} {db db' : Store} {eventId : Id} {retryTerminal : Bool}

/-- The event is to be processed, is known to come from its provider, and says how its target has
ended, which the provider is responsible for. -/
structure Applies (processor : ProviderEventProcessor Ids Status Target Action)
    (retryTerminal : Bool) (db : Store) (event : ProviderEvent Ids Status) (target : Target)
    (action : Action) : Prop where
  should : shouldProcessProviderEvent event.processingStatus retryTerminal = true
  verified : isProviderEventVerifiedForProcessing event.verificationStatus = true
  resolves : processor.resolveLifecycleAction event.normalizedStatus = some action
  finds : processor.resolveTarget db event = some target
  provider : processor.targetProvider target = event.provider

/-- What one processing of the event leaves. -/
inductive Processing (processor : ProviderEventProcessor Ids Status Target Action) (eventId : Id)
    (retryTerminal : Bool) (db : Store) : Store → Prop
  /-- there is no such event, or it is not to be processed -/
  | skipped (h : ∀ event, processor.findEvent db eventId = some event →
      shouldProcessProviderEvent event.processingStatus retryTerminal = false) :
      Processing processor eventId retryTerminal db db
  /-- it has no target to be applied to, and is marked as failed or ignored -/
  | marked (event : ProviderEvent Ids Status) (payload : ProcessingStateInput Ids) (db' : Store)
      (hevent : processor.findEvent db eventId = some event)
      (hnot : ∀ target action, ¬ processor.Applies retryTerminal db event target action)
      (hpayload : payload.processingStatus = .failed ∨ payload.processingStatus = .ignored)
      (hmark : (processor.updateEvent eventId payload).run db = .ok ((), db')) :
      Processing processor eventId retryTerminal db db'
  /-- it is applied to its target, and marked with what has come of it -/
  | applied (event : ProviderEvent Ids Status) (target : Target) (action : Action)
      (payload : ProcessingStateInput Ids) (db' : Store)
      (hevent : processor.findEvent db eventId = some event)
      (happlies : processor.Applies retryTerminal db event target action)
      (hpayload : (payload.processingStatus = .processed ∧
          ((processor.applyLifecycleAction event target action).run db).1 = .ok ()) ∨
        (payload.processingStatus = .failed ∧
          ∃ e, ((processor.applyLifecycleAction event target action).run db).1 = .error e))
      (hmark : (processor.updateEvent eventId payload).run
        ((processor.applyLifecycleAction event target action).run db).2 = .ok ((), db')) :
      Processing processor eventId retryTerminal db db'

theorem mark_processing (h : processor.Lawful table) {event : ProviderEvent Ids Status}
    (hevent : processor.findEvent db eventId = some event)
    (hnot : ∀ target action, ¬ processor.Applies retryTerminal db event target action)
    {payload : ProcessingStateInput Ids}
    (hpayload : payload.processingStatus = .failed ∨ payload.processingStatus = .ignored) :
    (Service.transaction (processor.updateEvent eventId payload)).Ends db fun _ db' =>
      processor.Processing eventId retryTerminal db db' := by
  obtain ⟨db₁, hrun, -⟩ := h.updateEvent payload hevent
  refine .transaction (fun u db' hok => .marked event payload db' hevent hnot hpayload hok)
    fun e herror => ?_
  rw [hrun] at herror
  cases herror

theorem applyAndMark_processing (h : processor.Lawful table) {event : ProviderEvent Ids Status}
    {target : Target} {action : Action} (hevent : processor.findEvent db eventId = some event)
    (happlies : processor.Applies retryTerminal db event target action) :
    (processor.applyAndMark databaseMessage eventId event target action).Ends db fun _ db' =>
      processor.Processing eventId retryTerminal db db' := by
  have happly := Service.run_attempt (processor.applyLifecycleAction event target action) db
  have hmark : ∀ payload : ProcessingStateInput Ids,
      ((payload.processingStatus = .processed ∧
          ((processor.applyLifecycleAction event target action).run db).1 = .ok ()) ∨
        (payload.processingStatus = .failed ∧
          ∃ e, ((processor.applyLifecycleAction event target action).run db).1 = .error e)) →
      (Service.transaction (processor.updateEvent eventId payload)).Ends
        ((processor.applyLifecycleAction event target action).run db).2 fun _ db' =>
          processor.Processing eventId retryTerminal db db' := by
    intro payload hpayload
    obtain ⟨db₁, hrun, -⟩ := h.updateEvent payload
      ((congrFun (h.sameOn event target action db) eventId).symm.trans hevent)
    refine .transaction (fun u db' hok => .applied event target action payload db' hevent happlies
      hpayload hok) fun e herror => ?_
    rw [hrun] at herror
    cases herror
  refine .bind (.of_run happly ?_)
  cases houtcome : ((processor.applyLifecycleAction event target action).run db).1 with
  | ok u => exact .get_bind (hmark _ (.inl ⟨rfl, houtcome⟩))
  | error e =>
    refine .bind ((hmark _ (.inr ⟨rfl, e, houtcome⟩)).mono fun r db' hdb' => ?_)
    cases r with
    | ok u => exact .throw hdb'
    | error e => exact hdb'

/-- One processing does nothing else. -/
theorem processProviderEvent_processing (h : processor.Lawful table) (db : Store) (eventId : Id)
    (retryTerminal : Bool) :
    (processor.processProviderEvent databaseMessage eventId retryTerminal).Ends db fun _ db' =>
      processor.Processing eventId retryTerminal db db' := by
  refine .get_bind (.orFail_bind (fun event hevent => ?_) fun hnone => ?_)
  · split
    case isTrue hskip =>
      refine .ret (.skipped fun event' hevent' => ?_)
      cases hevent.symm.trans hevent'
      exact hskip
    case isFalse hshould =>
      split
      case isTrue hunverified =>
        refine mark_processing h hevent (fun target action happlies => ?_) (.inl rfl)
        rw [happlies.verified] at hunverified
        cases hunverified
      case isFalse hverified =>
        cases haction : processor.resolveLifecycleAction event.normalizedStatus with
        | none =>
          refine mark_processing h hevent (fun target action happlies => ?_) (.inr rfl)
          cases haction.symm.trans happlies.resolves
        | some action =>
          refine .get_bind ?_
          cases htarget : processor.resolveTarget db event with
          | none =>
            refine mark_processing h hevent (fun target action happlies => ?_) (.inr rfl)
            cases htarget.symm.trans happlies.finds
          | some target =>
            dsimp only
            split
            case isTrue hprovider =>
              refine mark_processing h hevent (fun target' action' happlies => ?_) (.inl rfl)
              cases htarget.symm.trans happlies.finds
              exact hprovider happlies.provider
            case isFalse hprovider =>
              exact applyAndMark_processing h hevent ⟨Bool.eq_true_of_not_eq_false hshould,
                Bool.eq_true_of_not_eq_false hverified, haction, htarget,
                not_not.mp hprovider⟩
  · refine .skipped fun event hevent => ?_
    rw [hnone] at hevent
    cases hevent

/-- The events are those of before, and say the same. -/
theorem Processing.sameReport (h : processor.Lawful table)
    (hprocessing : processor.Processing eventId retryTerminal db db') (id : Id) :
    Option.Rel ProviderEvent.SameReport (processor.findEvent db id)
      (processor.findEvent db' id) := by
  have hrefl : ∀ o : Option (ProviderEvent Ids Status),
      Option.Rel ProviderEvent.SameReport o o := by
    intro o
    cases o with
    | none => exact .none
    | some event => exact .some (.refl event)
  -- whatever is marked is the event of before
  have hmarked : ∀ (db₁ db' : Store) event payload,
      processor.findEvent db = processor.findEvent db₁ →
      processor.findEvent db eventId = some event →
      (processor.updateEvent eventId payload).run db₁ = .ok ((), db') →
      Option.Rel ProviderEvent.SameReport (processor.findEvent db id)
        (processor.findEvent db' id) := by
    intro db₁ db' event payload hsame hevent hmark
    obtain ⟨db₂, hrun, hself, hothers⟩ := h.updateEvent payload (hsame ▸ hevent)
    rw [hrun] at hmark
    cases hmark
    by_cases hid : id = eventId
    · subst hid
      rw [hevent, hself]
      exact .some (.withProcessingState event payload)
    · rw [hothers id hid, ← hsame]
      exact hrefl _
  cases hprocessing with
  | skipped => exact hrefl _
  | marked event payload _ hevent _ _ hmark => exact hmarked db db' event payload rfl hevent hmark
  | applied event target action payload _ hevent _ _ hmark =>
    exact hmarked _ db' event payload (h.sameOn event target action db) hevent hmark

/-- The other events are as they were. -/
theorem Processing.others (h : processor.Lawful table)
    (hprocessing : processor.Processing eventId retryTerminal db db') {id : Id} (hid : id ≠ eventId) :
    processor.findEvent db' id = processor.findEvent db id := by
  have hmarked : ∀ (db₁ db' : Store) event payload, processor.findEvent db₁ eventId = some event →
      (processor.updateEvent eventId payload).run db₁ = .ok ((), db') →
      processor.findEvent db' id = processor.findEvent db₁ id := by
    intro db₁ db' event payload hevent hmark
    obtain ⟨db₂, hrun, -, hothers⟩ := h.updateEvent payload hevent
    rw [hrun] at hmark
    cases hmark
    exact hothers id hid
  cases hprocessing with
  | skipped => rfl
  | marked event payload _ hevent _ _ hmark => exact hmarked db db' event payload hevent hmark
  | applied event target action payload _ hevent _ _ hmark =>
    have hsame := h.sameOn event target action db
    exact (hmarked _ db' event payload ((congrFun hsame eventId).symm.trans hevent) hmark).trans
      (congrFun hsame id).symm

/-- An event that is not accepted changes no table but its own. -/
theorem Processing.of_unverified (h : processor.Lawful table)
    (hprocessing : processor.Processing eventId retryTerminal db db')
    {event : ProviderEvent Ids Status} (hevent : processor.findEvent db eventId = some event)
    (hunverified : isProviderEventVerifiedForProcessing event.verificationStatus = false) :
    Db.SameOn (· ≠ table) db db' := by
  cases hprocessing with
  | skipped => exact .refl db
  | marked _ payload _ _ _ _ hmark => exact (h.updateEvent_writes eventId payload).sameOn_ne hmark
  | applied event' _ _ _ _ hevent' happlies =>
    cases hevent.symm.trans hevent'
    rw [happlies.verified] at hunverified
    cases hunverified

/-- Processing an event of one table leaves the other table of events as it is. -/
theorem processProviderEvent_sameOn (h : processor.Lawful table) {other : Tbl}
    (hother : other = .paymentProviderEvent ∨ other = .refundProviderEvent) (hne : other ≠ table) :
    Db.SameOn (· = other) db
      ((processor.processProviderEvent databaseMessage eventId retryTerminal).run db).2 := by
  refine Service.Writes.sameOn ((processProviderEvent_writes h eventId retryTerminal).mono
    fun w hw htable => ?_)
  rcases hw with hw | hw
  · exact hne (htable.symm.trans hw)
  · obtain rfl | rfl := hother
    · exact hw.1 htable
    · exact hw.2 htable

/-- An event is there after a processing if it was before, and says the same. -/
theorem processProviderEvent_kept (h : processor.Lawful table) {id : Id}
    {event : ProviderEvent Ids Status} (hevent : processor.findEvent db id = some event) :
    ∃ event', processor.findEvent
        ((processor.processProviderEvent databaseMessage eventId retryTerminal).run db).2 id =
          some event' ∧ event.SameReport event' := by
  have hprocessing : processor.Processing eventId retryTerminal db
      ((processor.processProviderEvent databaseMessage eventId retryTerminal).run db).2 :=
    (processProviderEvent_processing h db eventId retryTerminal).run
  have hrel := hprocessing.sameReport h id
  rw [hevent] at hrel
  generalize processor.findEvent _ id = found at hrel
  cases hrel with
  | some hsame => exact ⟨_, rfl, hsame⟩

end ProviderEventProcessor

end WerTe
