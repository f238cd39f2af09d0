import WerTe.QuietHours
import WerTe.ReadCommitted.Sequential

/-!
# Timers for the boundaries of quiet hours

`notification-preference-schedule.service.ts` and `notification-preferences.service.ts`: a process
holds a timer for each merchant with quiet hours. When the timer fires, and when the merchant
changes the preference, a timer is set for the next boundary. Each of these calls clears the
timer, loads the preference and sets a timer, and other calls run between its steps. The map of
timers remembers one timer for each user, so that one which it has forgotten is never cleared.

Yet a preference with quiet hours is never left without a timer of its own once no call is in
flight (`next_boundary_kept`): whatever clears its timer will load it again.

* `PreferenceCall`: what is left of a call; `PreferenceProcess.advance`: its next step
* `Covered`: the invariant; a preference has a live timer or a call that will see to it
-/

namespace WerTe

open ReadCommitted

/-! ## `notification-preferences.service.ts` -/

/-- A stored preference. Quiet hours are not switched on without their times and zone. -/
structure PreferenceRow extends MerchantInventoryAlertPreference where
  complete : quietHoursEnabled = true →
    ∃ start stop zone, quietHoursStartLocalTime = some start ∧ quietHoursEndLocalTime = some stop ∧
      quietHoursTimezone = some zone

/-- `UpdateMerchantInventoryAlertPreferenceDto`. -/
structure UpdatePreferenceDto where
  pushEnabled : Option Bool := none
  quietHoursEnabled : Option Bool := none
  quietHoursStartLocalTime : Option LocalTime := none
  quietHoursEndLocalTime : Option LocalTime := none
  quietHoursTimezone : Option String := none

/-- The preference of a user who has stored none. -/
def defaultPreference (userId : Id) : PreferenceRow where
  userId := userId
  pushEnabled := true
  quietHoursEnabled := false
  quietHoursStartLocalTime := none
  quietHoursEndLocalTime := none
  quietHoursTimezone := none
  complete h := by cases h

/-- The preference that an update asks for. `validTimeZone` says which zones there are. -/
def mergePreferencePayload (validTimeZone : String → Bool) (current : PreferenceRow)
    (payload : UpdatePreferenceDto) : Except Failure PreferenceRow :=
  let pushEnabled := payload.pushEnabled.getD current.pushEnabled
  if payload.quietHoursEnabled.getD current.quietHoursEnabled = false then
    .ok { defaultPreference current.userId with pushEnabled := pushEnabled }
  else
    match payload.quietHoursStartLocalTime <|> current.quietHoursStartLocalTime,
      payload.quietHoursEndLocalTime <|> current.quietHoursEndLocalTime,
      payload.quietHoursTimezone <|> current.quietHoursTimezone with
    | some start, some stop, some zone =>
      if start = stop then
        .error (fail "Quiet hours start and end time must differ." .badRequest)
      else if validTimeZone zone = false then
        .error (fail "Quiet hours timezone must be a valid IANA timezone." .badRequest)
      else .ok {
        userId := current.userId
        pushEnabled := pushEnabled
        quietHoursEnabled := true
        quietHoursStartLocalTime := some start
        quietHoursEndLocalTime := some stop
        quietHoursTimezone := some zone
        complete := fun _ => ⟨start, stop, zone, rfl, rfl, rfl⟩ }
    | _, _, _ => .error (fail "Quiet hours require start time, end time, and timezone." .badRequest)

/-! ## `notification-preference-schedule.service.ts` -/

/-- A timer that has been set: from when it was computed, and for when. -/
structure ScheduledTimer where
  userId : Id
  start : Date
  nextBoundaryAt : Date
deriving DecidableEq, Repr

/-- What is left of a call. -/
inductive PreferenceCall
  /-- the start-up, before it lists the preferences -/
  | refreshAllSchedules (at' : Date)
  /-- the start-up, with the preferences it has listed -/
  | scheduleAll (at' : Date) (preferences : List MerchantInventoryAlertPreference)
  /-- an update, before it reads the current preference -/
  | readCurrent (userId : Id) (payload : UpdatePreferenceDto)
  /-- an update, before it stores the next preference -/
  | upsert (next : PreferenceRow)
  /-- an update that has stored it, before it clears the timer -/
  | rescheduleUser (userId : Id)
  /-- a timer that has fired and been cleared, before the preference is loaded and emitted -/
  | emitCurrent (userId : Id)
  /-- before the preference is loaded that is scheduled -/
  | scheduleUser (userId : Id) (start : Date)
  /-- with the preference it has loaded -/
  | schedulePreferenceEntity (preference : MerchantInventoryAlertPreference) (start : Date)

/-- The stored preferences, and a process with its timers and the calls in flight. -/
structure PreferenceProcess where
  rows : List PreferenceRow
  /-- the timers that are set and have neither fired nor been cleared -/
  live : ℕ → Option ScheduledTimer
  /-- the timer that is remembered for each user -/
  timers : Id → Option ℕ
  nextTimer : ℕ
  calls : List PreferenceCall

namespace PreferenceProcess

/-- The process that starts up on what is stored. -/
def startUp (rows : List PreferenceRow) (at' : Date) : PreferenceProcess where
  rows := rows
  live _ := none
  timers _ := none
  nextTimer := 0
  calls := [.refreshAllSchedules at']

def find (s : PreferenceProcess) (userId : Id) : Option PreferenceRow :=
  s.rows.find? (·.userId == userId)

/-- The stored preference, or the default. -/
def loadPreferenceEntity (s : PreferenceProcess) (userId : Id) : PreferenceRow :=
  (s.find userId).getD (defaultPreference userId)

def listNotificationPreferencesWithQuietHoursEnabled (s : PreferenceProcess) :
    List MerchantInventoryAlertPreference :=
  (s.rows.map (·.toMerchantInventoryAlertPreference)).filter fun preference =>
    preference.pushEnabled && preference.quietHours.isSome

def upsert (s : PreferenceProcess) (next : PreferenceRow) : PreferenceProcess :=
  { s with rows := next :: s.rows.filter (·.userId != next.userId) }

def push (s : PreferenceProcess) (call : PreferenceCall) : PreferenceProcess :=
  { s with calls := call :: s.calls }

def clearTimer (s : PreferenceProcess) (userId : Id) : PreferenceProcess :=
  match s.timers userId with
  | none => s
  | some timer => { s with
    live := Function.update s.live timer none
    timers := Function.update s.timers userId none }

section Steps

variable (utcOffset : String → Date → ℤ) (validTimeZone : String → Bool)

/-- The timer that was remembered is forgotten, but not cleared. -/
def schedulePreferenceEntity (s : PreferenceProcess)
    (preference : MerchantInventoryAlertPreference) (start : Date) : PreferenceProcess :=
  match resolveNextQuietHoursBoundaryAt utcOffset preference start with
  | none => s
  | some nextBoundaryAt => { s with
    live := Function.update s.live s.nextTimer (some ⟨preference.userId, start, nextBoundaryAt⟩)
    timers := Function.update s.timers preference.userId (some s.nextTimer)
    nextTimer := s.nextTimer + 1 }

/-- The next step of a call in flight. -/
def advance (now : Date) (s : PreferenceProcess) : PreferenceCall → PreferenceProcess
  | .refreshAllSchedules at' =>
    s.push (.scheduleAll at' s.listNotificationPreferencesWithQuietHoursEnabled)
  | .scheduleAll at' preferences =>
    preferences.foldl (fun s preference => s.schedulePreferenceEntity utcOffset preference at') s
  | .readCurrent userId payload =>
    match mergePreferencePayload validTimeZone (s.loadPreferenceEntity userId) payload with
    | .error _ => s
    | .ok next => s.push (.upsert next)
  | .upsert next => (s.upsert next).push (.rescheduleUser next.userId)
  | .rescheduleUser userId => (s.clearTimer userId).push (.scheduleUser userId now)
  | .emitCurrent userId => s.push (.scheduleUser userId now)
  | .scheduleUser userId start => s.push (.schedulePreferenceEntity
      (s.loadPreferenceEntity userId).toMerchantInventoryAlertPreference start)
  | .schedulePreferenceEntity preference start =>
    s.schedulePreferenceEntity utcOffset preference start

/-- `handleBoundaryReached`, up to where it waits. -/
def fire (s : PreferenceProcess) (timer : ℕ) (fired : ScheduledTimer) : PreferenceProcess :=
  (clearTimer { s with live := Function.update s.live timer none } fired.userId).push
    (.emitCurrent fired.userId)

end Steps

end PreferenceProcess

/-- A merchant asks for an update, a call in flight goes on, or a timer fires. -/
inductive PreferenceStep
  | update (userId : Id) (payload : UpdatePreferenceDto)
  | advance (call : ℕ) (now : Date)
  | fire (timer : ℕ)

/-- The process after a step. Nothing happens where there is no such call or timer. -/
def PreferenceStep.run (utcOffset : String → Date → ℤ) (validTimeZone : String → Bool) :
    PreferenceStep → PreferenceProcess → PreferenceProcess
  | .update userId payload, s => s.push (.readCurrent userId payload)
  | .advance i now, s =>
    match s.calls[i]? with
    | none => s
    | some call =>
      ({ s with calls := s.calls.eraseIdx i } : PreferenceProcess).advance utcOffset validTimeZone
        now call
  | .fire timer, s =>
    match s.live timer with
    | none => s
    | some fired => s.fire timer fired

/-! ## Every preference is seen to -/

/-- Push and quiet hours are both on. -/
def MerchantInventoryAlertPreference.HasQuietHours
    (preference : MerchantInventoryAlertPreference) : Prop :=
  preference.pushEnabled = true ∧ preference.quietHoursEnabled = true

/-- The call will set a timer from the preference, or load what is stored again. -/
def PreferenceCall.Covers (preference : MerchantInventoryAlertPreference) : PreferenceCall → Prop
  | .refreshAllSchedules _ => True
  | .scheduleAll _ preferences => preference ∈ preferences
  | .readCurrent .. | .upsert _ => False
  | .rescheduleUser userId | .emitCurrent userId | .scheduleUser userId _ =>
    userId = preference.userId
  | .schedulePreferenceEntity preference' _ => preference' = preference

namespace PreferenceProcess

/-- What the map of timers remembers is a timer of that user, and new timers are new. -/
structure Handles (s : PreferenceProcess) : Prop where
  owner : ∀ userId timer, s.timers userId = some timer → ∀ set, s.live timer = some set →
    set.userId = userId
  old : ∀ userId timer, s.timers userId = some timer → timer < s.nextTimer
  unused : ∀ timer, s.nextTimer ≤ timer → s.live timer = none

section Invariant

variable {utcOffset : String → Date → ℤ} {validTimeZone : String → Bool}

/-- There is a live timer for the user, for when the preference's next boundary is. -/
def Live (utcOffset : String → Date → ℤ) (preference : MerchantInventoryAlertPreference)
    (s : PreferenceProcess) : Prop :=
  ∃ timer set, s.live timer = some set ∧ set.userId = preference.userId ∧
    resolveNextQuietHoursBoundaryAt utcOffset preference set.start = some set.nextBoundaryAt

/-- The preference has a live timer, or a call in flight that will see to it. -/
def Covered (utcOffset : String → Date → ℤ) (preference : MerchantInventoryAlertPreference)
    (s : PreferenceProcess) : Prop :=
  s.Live utcOffset preference ∨ ∃ call ∈ s.calls, call.Covers preference

/-- Every stored preference with quiet hours is covered. -/
structure Kept (utcOffset : String → Date → ℤ) (s : PreferenceProcess) : Prop where
  handles : s.Handles
  covered : ∀ userId row, s.find userId = some row → row.HasQuietHours →
    s.Covered utcOffset row.toMerchantInventoryAlertPreference

variable {s : PreferenceProcess} {preference preference' : MerchantInventoryAlertPreference}

theorem find_userId {userId : Id} {row : PreferenceRow} (h : s.find userId = some row) :
    row.userId = userId := by
  simpa using List.find?_some h

variable (utcOffset) in
/-- With quiet hours there is a next boundary. -/
theorem exists_boundary {row : PreferenceRow} (h : row.HasQuietHours) (start : Date) :
    ∃ b, resolveNextQuietHoursBoundaryAt utcOffset row.toMerchantInventoryAlertPreference start =
      some b := by
  obtain ⟨begin, stop, zone, hbegin, hstop, hzone⟩ := row.complete h.2
  have hquiet : row.quietHours = some (begin, stop, zone) := by
    simp [MerchantInventoryAlertPreference.quietHours, hbegin, hstop, hzone, h.2]
  exact ⟨_, resolveNextQuietHoursBoundaryAt_eq h.1 hquiet start⟩

/-! ### The operations on timers -/

theorem Handles.schedule (h : s.Handles) (start : Date) :
    (s.schedulePreferenceEntity utcOffset preference start).Handles := by
  unfold schedulePreferenceEntity
  rcases resolveNextQuietHoursBoundaryAt utcOffset preference start with _ | b
  · exact h
  · refine ⟨fun userId timer htimer set hset => ?_, fun userId timer htimer => ?_,
      fun timer hle => ?_⟩
    · dsimp only at htimer hset
      by_cases hnew : timer = s.nextTimer
      · subst hnew
        rw [Function.update_self] at hset
        cases hset
        by_contra hne
        rw [Function.update_of_ne (Ne.symm hne)] at htimer
        exact absurd (h.old userId _ htimer) (lt_irrefl _)
      · rw [Function.update_of_ne hnew] at hset
        by_cases huser : userId = preference.userId
        · subst huser
          rw [Function.update_self] at htimer
          exact absurd (Option.some.inj htimer).symm hnew
        · rw [Function.update_of_ne huser] at htimer
          exact h.owner userId timer htimer set hset
    · dsimp only at htimer ⊢
      by_cases huser : userId = preference.userId
      · subst huser
        rw [Function.update_self] at htimer
        exact (Option.some.inj htimer) ▸ Nat.lt_succ_self _
      · rw [Function.update_of_ne huser] at htimer
        exact Nat.lt_succ_of_lt (h.old userId timer htimer)
    · dsimp only at hle ⊢
      rw [Function.update_of_ne (by omega)]
      exact h.unused timer (by omega)

theorem Handles.clear (h : s.Handles) (userId : Id) : (s.clearTimer userId).Handles := by
  unfold clearTimer
  rcases s.timers userId with _ | cleared
  · exact h
  · refine ⟨fun userId' timer htimer set hset => ?_, fun userId' timer htimer => ?_,
      fun timer hle => ?_⟩
    · dsimp only at htimer hset
      by_cases huser : userId' = userId
      · subst huser
        rw [Function.update_self] at htimer
        cases htimer
      · rw [Function.update_of_ne huser] at htimer
        by_cases hcleared : timer = cleared
        · subst hcleared
          rw [Function.update_self] at hset
          cases hset
        · rw [Function.update_of_ne hcleared] at hset
          exact h.owner userId' timer htimer set hset
    · dsimp only at htimer ⊢
      by_cases huser : userId' = userId
      · subst huser
        rw [Function.update_self] at htimer
        cases htimer
      · rw [Function.update_of_ne huser] at htimer
        exact h.old userId' timer htimer
    · dsimp only at hle ⊢
      by_cases hcleared : timer = cleared
      · subst hcleared
        exact Function.update_self ..
      · rw [Function.update_of_ne hcleared]
        exact h.unused timer hle

theorem Handles.push (h : s.Handles) (call : PreferenceCall) : (s.push call).Handles :=
  ⟨h.owner, h.old, h.unused⟩

theorem Handles.upsert (h : s.Handles) (next : PreferenceRow) : (s.upsert next).Handles :=
  ⟨h.owner, h.old, h.unused⟩

/-- Setting a timer clears none. -/
theorem Live.schedule (h : s.Live utcOffset preference) (hhandles : s.Handles) (start : Date) :
    (s.schedulePreferenceEntity utcOffset preference' start).Live utcOffset preference := by
  obtain ⟨timer, set, hset, hrest⟩ := h
  unfold schedulePreferenceEntity
  rcases resolveNextQuietHoursBoundaryAt utcOffset preference' start with _ | b
  · exact ⟨timer, set, hset, hrest⟩
  · refine ⟨timer, set, ?_, hrest⟩
    have hne : timer ≠ s.nextTimer := by
      rintro rfl
      cases hset.symm.trans (hhandles.unused _ le_rfl)
    exact (Function.update_of_ne hne ..).trans hset

theorem live_schedule {start b : Date}
    (h : resolveNextQuietHoursBoundaryAt utcOffset preference start = some b) :
    (s.schedulePreferenceEntity utcOffset preference start).Live utcOffset preference := by
  rw [schedulePreferenceEntity, h]
  exact ⟨s.nextTimer, ⟨preference.userId, start, b⟩, Function.update_self .., rfl, h⟩

/-- Clearing a user's timer clears no other user's. -/
theorem Live.clear (h : s.Live utcOffset preference) (hhandles : s.Handles) {userId : Id}
    (hne : preference.userId ≠ userId) : (s.clearTimer userId).Live utcOffset preference := by
  obtain ⟨timer, set, hset, huser, hboundary⟩ := h
  unfold clearTimer
  rcases hcleared : s.timers userId with _ | cleared
  · exact ⟨timer, set, hset, huser, hboundary⟩
  · refine ⟨timer, set, ?_, huser, hboundary⟩
    have hother : timer ≠ cleared := by
      rintro rfl
      exact hne (huser.symm.trans (hhandles.owner userId timer hcleared set hset))
    exact (Function.update_of_ne hother ..).trans hset

@[simp] theorem rows_schedule (start : Date) :
    (s.schedulePreferenceEntity utcOffset preference start).rows = s.rows := by
  unfold schedulePreferenceEntity
  split <;> rfl

@[simp] theorem calls_schedule (start : Date) :
    (s.schedulePreferenceEntity utcOffset preference start).calls = s.calls := by
  unfold schedulePreferenceEntity
  split <;> rfl

@[simp] theorem rows_clear (userId : Id) : (s.clearTimer userId).rows = s.rows := by
  unfold clearTimer
  split <;> rfl

@[simp] theorem calls_clear (userId : Id) : (s.clearTimer userId).calls = s.calls := by
  unfold clearTimer
  split <;> rfl

/-- The start-up sets a timer for every preference it has listed. -/
theorem scheduleAll_spec (at' : Date) (preferences : List MerchantInventoryAlertPreference) :
    ∀ {s : PreferenceProcess}, s.Handles →
      let s' := preferences.foldl
        (fun s preference => s.schedulePreferenceEntity utcOffset preference at') s
      s'.Handles ∧ s'.rows = s.rows ∧ s'.calls = s.calls ∧
        (∀ preference, s.Live utcOffset preference → s'.Live utcOffset preference) ∧
        ∀ preference ∈ preferences, ∀ b,
          resolveNextQuietHoursBoundaryAt utcOffset preference at' = some b →
            s'.Live utcOffset preference := by
  induction preferences with
  | nil => exact fun h => ⟨h, rfl, rfl, fun _ hlive => hlive, by simp⟩
  | cons preference preferences ih =>
    intro s h
    obtain ⟨hhandles, hrows, hcalls, hlive, hset⟩ :=
      ih (s := s.schedulePreferenceEntity utcOffset preference at') (h.schedule at')
    refine ⟨hhandles, hrows.trans (rows_schedule at'), hcalls.trans (calls_schedule at'),
      fun other hother => hlive other (hother.schedule h at'), fun other hmem b hb => ?_⟩
    rcases List.mem_cons.mp hmem with rfl | hmem
    · exact hlive other (live_schedule hb)
    · exact hset other hmem b hb

/-! ### The steps -/

theorem Covered.live (h : s.Live utcOffset preference) : s.Covered utcOffset preference := .inl h

theorem Covered.call {call : PreferenceCall} (hmem : call ∈ s.calls)
    (hcovers : call.Covers preference) : s.Covered utcOffset preference :=
  .inr ⟨call, hmem, hcovers⟩

theorem Covered.push (h : s.Covered utcOffset preference) (call : PreferenceCall) :
    (s.push call).Covered utcOffset preference := by
  rcases h with hlive | ⟨call', hmem, hcovers⟩
  · exact .inl hlive
  · exact .inr ⟨call', List.mem_cons_of_mem call hmem, hcovers⟩

/-- A call that has been taken out covers the preference, or what is left does. -/
theorem Covered.cases {i : ℕ} {call : PreferenceCall} (hcall : s.calls[i]? = some call)
    (h : s.Covered utcOffset preference) : call.Covers preference ∨ Covered utcOffset preference
      { s with calls := s.calls.eraseIdx i } := by
  rcases h with hlive | ⟨call', hmem, hcovers⟩
  · exact .inr (.inl hlive)
  · obtain ⟨j, hj⟩ := List.mem_iff_getElem?.mp hmem
    by_cases hij : j = i
    · subst hij
      cases hj.symm.trans hcall
      exact .inl hcovers
    · exact .inr (.inr ⟨call', List.mem_eraseIdx_iff_getElem?.mpr ⟨j, hij, hj⟩, hcovers⟩)

theorem mem_listed {row : PreferenceRow} {userId : Id} (hfind : s.find userId = some row)
    (h : row.HasQuietHours) : row.toMerchantInventoryAlertPreference ∈
      s.listNotificationPreferencesWithQuietHoursEnabled := by
  obtain ⟨begin, stop, zone, hbegin, hstop, hzone⟩ := row.complete h.2
  refine List.mem_filter.mpr ⟨List.mem_map_of_mem (List.mem_of_find?_eq_some hfind), ?_⟩
  simp [MerchantInventoryAlertPreference.quietHours, h.1, h.2, hbegin, hstop, hzone]

theorem find_upsert {next : PreferenceRow} {userId : Id} :
    (s.upsert next).find userId =
      if next.userId = userId then some next else s.find userId := by
  by_cases h : next.userId = userId
  · simp [find, upsert, h]
  · rw [if_neg h, find, upsert, List.find?_cons_of_neg (by simpa using h), List.find?_filter, find]
    refine List.find?_congr fun row _ => ?_
    by_cases hrow : row.userId = userId
    · simp [hrow, Ne.symm h]
    · simp [hrow]

/-- A step of a call keeps every other preference covered, and its own. -/
theorem Kept.advance (hhandles : s.Handles) {call : PreferenceCall} (now : Date)
    (hcovered : ∀ userId row, s.find userId = some row → row.HasQuietHours →
      call.Covers row.toMerchantInventoryAlertPreference ∨
        s.Covered utcOffset row.toMerchantInventoryAlertPreference) :
    (s.advance utcOffset validTimeZone now call).Kept utcOffset := by
  cases call with
  | refreshAllSchedules at' =>
    refine ⟨hhandles.push _, fun userId row hfind hquiet => ?_⟩
    exact .call List.mem_cons_self (mem_listed hfind hquiet)
  | scheduleAll at' preferences =>
    obtain ⟨hhandles', hrows, hcalls, hlive, hset⟩ := scheduleAll_spec at' preferences hhandles
    refine ⟨hhandles', fun userId row hfind hquiet => ?_⟩
    have hfind' : s.find userId = some row := by
      rw [find, ← hrows]
      exact hfind
    rcases hcovered userId row hfind' hquiet with hmem | hlive' | ⟨call, hmem, hcovers⟩
    · obtain ⟨b, hb⟩ := exists_boundary utcOffset hquiet at'
      exact .live (hset _ hmem b hb)
    · exact .live (hlive _ hlive')
    · exact .call (hcalls ▸ hmem) hcovers
  | readCurrent userId payload =>
    have hkept : s.Kept utcOffset :=
      ⟨hhandles, fun userId row hfind hquiet => (hcovered userId row hfind hquiet).resolve_left id⟩
    simp only [PreferenceProcess.advance]
    rcases mergePreferencePayload validTimeZone (s.loadPreferenceEntity userId) payload with
      e | next
    · exact hkept
    · exact ⟨hhandles.push _, fun userId row hfind hquiet =>
        (hkept.covered userId row hfind hquiet).push _⟩
  | upsert next =>
    refine ⟨(hhandles.upsert next).push _, fun userId row hfind hquiet => ?_⟩
    have hfind' : (s.upsert next).find userId = some row := hfind
    rw [find_upsert] at hfind'
    by_cases huser : next.userId = userId
    · rw [if_pos huser] at hfind'
      cases hfind'
      exact .call List.mem_cons_self rfl
    · rw [if_neg huser] at hfind'
      have hrest := (hcovered userId row hfind' hquiet).resolve_left id
      exact Covered.push (s := s.upsert next) hrest _
  | rescheduleUser userId =>
    refine ⟨(hhandles.clear userId).push _, fun userId' row hfind hquiet => ?_⟩
    have hfind' : s.find userId' = some row := by
      rw [find, ← rows_clear userId]
      exact hfind
    by_cases huser : row.userId = userId
    · exact .call List.mem_cons_self huser.symm
    · rcases hcovered userId' row hfind' hquiet with hcovers | hlive | ⟨call, hmem, hcovers⟩
      · exact absurd hcovers.symm huser
      · exact .live (hlive.clear hhandles huser)
      · exact .call (List.mem_cons_of_mem _ ((calls_clear userId).symm ▸ hmem)) hcovers
  | emitCurrent userId =>
    refine ⟨hhandles.push _, fun userId' row hfind hquiet => ?_⟩
    rcases hcovered userId' row hfind hquiet with hcovers | hrest
    · exact .call List.mem_cons_self hcovers
    · exact hrest.push _
  | scheduleUser userId start =>
    refine ⟨hhandles.push _, fun userId' row hfind hquiet => ?_⟩
    replace hfind : s.find userId' = some row := hfind
    rcases hcovered userId' row hfind hquiet with hcovers | hrest
    · -- what is loaded is the stored preference
      have hloaded : s.loadPreferenceEntity userId = row := by
        rw [loadPreferenceEntity, hcovers.trans (find_userId hfind), hfind, Option.getD_some]
      exact .call List.mem_cons_self (congrArg _ hloaded)
    · exact hrest.push _
  | schedulePreferenceEntity preference start =>
    refine ⟨hhandles.schedule start, fun userId row hfind hquiet => ?_⟩
    have hfind' : s.find userId = some row := by
      rw [find, ← rows_schedule start]
      exact hfind
    rcases hcovered userId row hfind' hquiet with hcovers | hlive | ⟨call, hmem, hcovers⟩
    · obtain ⟨b, hb⟩ := exists_boundary utcOffset hquiet start
      obtain rfl : preference = row.toMerchantInventoryAlertPreference := hcovers
      exact .live (live_schedule hb)
    · exact .live (hlive.schedule hhandles start)
    · exact .call ((calls_schedule start).symm ▸ hmem) hcovers

/-- The timer that has fired is live no more, but the call that it starts will load what is
stored. -/
theorem Kept.fire (h : s.Kept utcOffset) {timer : ℕ} {fired : ScheduledTimer}
    (hfired : s.live timer = some fired) : (s.fire timer fired).Kept utcOffset := by
  set gone : PreferenceProcess := { s with live := Function.update s.live timer none } with hgone
  have hgoneLive : ∀ timer' set, gone.live timer' = some set → s.live timer' = some set := by
    intro timer' set hset
    by_cases heq : timer' = timer
    · subst heq
      rw [hgone] at hset
      simp at hset
    · rw [hgone] at hset
      exact (Function.update_of_ne heq ..).symm.trans hset
  have hhandles : gone.Handles := by
    refine ⟨fun userId timer' htimer set hset =>
      h.handles.owner userId timer' htimer set (hgoneLive timer' set hset), h.handles.old,
      fun timer' hle => ?_⟩
    have hnone := h.handles.unused timer' hle
    by_contra hsome
    obtain ⟨set, hset⟩ := Option.ne_none_iff_exists'.mp hsome
    cases hnone.symm.trans (hgoneLive timer' set hset)
  refine ⟨(hhandles.clear fired.userId).push _, fun userId row hfind hquiet => ?_⟩
  have hfind' : s.find userId = some row := by
    have hrows : (gone.clearTimer fired.userId).rows = s.rows := rows_clear fired.userId
    rw [find, ← hrows]
    exact hfind
  by_cases huser : row.userId = fired.userId
  · exact .call List.mem_cons_self huser.symm
  · rcases h.covered userId row hfind' hquiet with
      ⟨timer', set, hset, hof, hb⟩ | ⟨call, hmem, hcovers⟩
    · have hne : timer' ≠ timer := by
        rintro rfl
        cases hset.symm.trans hfired
        exact huser hof.symm
      have hlive : gone.Live utcOffset row.toMerchantInventoryAlertPreference :=
        ⟨timer', set, (Function.update_of_ne hne ..).trans hset, hof, hb⟩
      exact .live (hlive.clear hhandles huser)
    · exact .call (List.mem_cons_of_mem _ ((calls_clear fired.userId).symm ▸ hmem)) hcovers

theorem kept_startUp (rows : List PreferenceRow) (at' : Date) :
    (startUp rows at').Kept utcOffset where
  handles := ⟨fun _ _ h => (by cases h), fun _ _ h => (by cases h), fun _ _ => rfl⟩
  covered _ _ _ _ := .call List.mem_cons_self True.intro

/-- Every step keeps every preference covered. -/
theorem Kept.run (h : s.Kept utcOffset) (step : PreferenceStep) :
    (step.run utcOffset validTimeZone s).Kept utcOffset := by
  cases step with
  | update userId payload =>
    exact ⟨h.handles.push _, fun userId' row hfind hquiet =>
      (h.covered userId' row hfind hquiet).push _⟩
  | advance i now =>
    simp only [PreferenceStep.run]
    rcases hcall : s.calls[i]? with _ | call
    · exact h
    · have hrest : ({ s with calls := s.calls.eraseIdx i } : PreferenceProcess).Handles :=
        ⟨h.handles.owner, h.handles.old, h.handles.unused⟩
      exact .advance hrest now fun userId row hfind hquiet =>
        (h.covered userId row hfind hquiet).cases hcall
  | fire timer =>
    simp only [PreferenceStep.run]
    rcases hfired : s.live timer with _ | fired
    · exact h
    · exact h.fire hfired

end Invariant

end PreferenceProcess

/-- **The next boundary is never lost**: however updates, firings and the start-up overlap, once no
call is in flight there is a live timer for each stored preference with push and quiet hours, set
for what was computed from that preference. -/
theorem next_boundary_kept (utcOffset : String → Date → ℤ) (validTimeZone : String → Bool)
    (rows : List PreferenceRow) (at' : Date) (steps : List PreferenceStep)
    (s : PreferenceProcess)
    (hrun : s = runAll (PreferenceStep.run utcOffset validTimeZone) steps
      (PreferenceProcess.startUp rows at'))
    (hidle : s.calls = []) (userId : Id) (row : PreferenceRow) (hstored : s.find userId = some row)
    (hquiet : row.HasQuietHours) :
    ∃ timer set, s.live timer = some set ∧ set.userId = userId ∧
      resolveNextQuietHoursBoundaryAt utcOffset row.toMerchantInventoryAlertPreference set.start =
        some set.nextBoundaryAt := by
  have hruns : Runs (PreferenceStep.run utcOffset validTimeZone) (fun _ _ => True)
      (PreferenceProcess.startUp rows at') s :=
    hrun ▸ Runs.all steps .start (.of_forall (fun _ _ => True.intro) steps _)
  have hkept : s.Kept utcOffset :=
    hruns.inv (PreferenceProcess.kept_startUp rows at') fun step _ h _ => h.run step
  have hcovered := hkept.covered userId row hstored hquiet
  rcases hcovered with ⟨timer, set, hset, hof, hb⟩ | ⟨call, hmem, -⟩
  · exact ⟨timer, set, hset, hof.trans (PreferenceProcess.find_userId hstored), hb⟩
  · rw [hidle] at hmem
    cases hmem

/-- The night's quiet hours, as they are stored. -/
def nightRow : PreferenceRow where
  toMerchantInventoryAlertPreference := nightQuiet
  complete _ := ⟨_, _, _, rfl, rfl, rfl⟩

/-- Two updates overlap: the first loads what the second then replaces, and sets its timer last. -/
def overlappingUpdates : List PreferenceStep := [
  .advance 0 0, .advance 0 0,
  .update 10 { quietHoursEndLocalTime := some ⟨"07:00", by decide⟩ },
  .advance 0 1, .advance 0 2, .advance 0 3, .advance 0 4,
  .update 10 { quietHoursEndLocalTime := some ⟨"08:00", by decide⟩ },
  .advance 0 5, .advance 0 6, .advance 0 7, .advance 0 8, .advance 0 9,
  .advance 0 10]

theorem next_boundary_kept_overlapping :
    let s := runAll (PreferenceStep.run sevenHours fun _ => true) overlappingUpdates
      (PreferenceProcess.startUp [nightRow] 0)
    ∃ timer set row, s.find 10 = some row ∧
      row.quietHoursEndLocalTime = some ⟨"08:00", by decide⟩ ∧
      s.live timer = some set ∧ set.userId = 10 ∧
      resolveNextQuietHoursBoundaryAt sevenHours row.toMerchantInventoryAlertPreference set.start =
        some set.nextBoundaryAt := by
  intro s
  have hidle : s.calls = [] := by decide +kernel
  have hstored : (s.find 10).map (fun row =>
      (row.pushEnabled, row.quietHoursEnabled, row.quietHoursEndLocalTime)) =
        some (true, true, some ⟨"08:00", by decide⟩) := by decide +kernel
  obtain ⟨row, hfind, hrow⟩ := Option.map_eq_some_iff.mp hstored
  simp only [Prod.mk.injEq] at hrow
  obtain ⟨timer, set, hset, hof, hb⟩ := next_boundary_kept sevenHours (fun _ => true) [nightRow] 0
    overlappingUpdates s rfl hidle 10 row hfind ⟨hrow.1, hrow.2.1⟩
  exact ⟨timer, set, row, hfind, hrow.2.2, hset, hof, hb⟩

end WerTe
