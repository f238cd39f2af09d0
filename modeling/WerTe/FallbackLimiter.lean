import WerTe.Keyed.Table
import WerTe.JsStrings
import WerTe.Numeral.Texts
import WerTe.ReadCommitted.Sequential

/-!
# The fallback rate limiter

While the throttler's storage is down, `throttler.guard.ts` counts requests in a map in memory,
which holds a bounded number of records. What is expired is thrown away now and then.

The map never grows over its bound, and no window of a key counts more requests than its limit.
A request is to be let through without being counted only when its key has no record and there is
no room for one. It is as well when its key has an expired record, which could be replaced, and
this is the only case (`fallback_limit_iff`).
-/

namespace WerTe.IpAwareThrottlerGuard

open Keyed ReadCommitted

/-! ## `throttler.guard.ts` -/

def trustedProxyHeaders : List String := ["x-forwarded-for", "x-real-ip"]

def fallbackMaxEntries : ℕ := 50000

def fallbackSweepIntervalMs : ℤ := 60000

structure FallbackRecord where
  count : ℕ
  resetAt : Date
deriving DecidableEq, Repr

/-- What of a request tells where it comes from; a header that comes several times is a list. -/
structure Request where
  headers : List (String × (String ⊕ List String)) := []
  ip : Option String := none
  remoteAddress : Option String := none
deriving DecidableEq

/-- The leftmost address of a header, if it is there and not blank. -/
def clientIp (req : Request) (header : String) : Option String :=
  match req.headers.lookup header with
  | some (.inl value) =>
    if 0 < (trim value).length then
      let clientIp := trim (.ofList ((value.toList.splitOn ',').headD []))
      if 0 < clientIp.length then some clientIp else none
    else none
  | _ => none

def getTracker (req : Request) : String :=
  ((trustedProxyHeaders.findSome? (clientIp req)).or (req.ip.or req.remoteAddress)).getD "unknown"

/-- What the guard is given; `context` stands for the class and the handler that are called. -/
structure ThrottlerRequest where
  context : String
  req : Request
  throttlerName : Option String
  limit : ℕ
  ttl : ℕ
  limit_pos : 1 ≤ limit
  ttl_pos : 0 < ttl

structure FallbackLimiter where
  fallbackRecords : Table String FallbackRecord
  lastFallbackSweepAt : Date

/-- A request is let through and counted, let through without being counted, or refused. -/
inductive FallbackResult
  | counted | bypassed | refused
deriving DecidableEq, Repr

def sweepFallbackRecordsIfDue (now : Date) (limiter : FallbackLimiter) : FallbackLimiter :=
  if now - limiter.lastFallbackSweepAt < fallbackSweepIntervalMs then limiter
  else {
    fallbackRecords := limiter.fallbackRecords.filter fun entry => ! decide (entry.2.resetAt ≤ now)
    lastFallbackSweepAt := now }

section Check

variable (generateKey : String → String → String → String)

/-- The key of a request, as the library makes it of the context, the tracker and the throttler's
name. -/
def ThrottlerRequest.key (request : ThrottlerRequest) : String :=
  generateKey request.context (getTracker request.req) (request.throttlerName.getD "default")

/-- The first request of a window, if there is room for a record. -/
def openWindow (request : ThrottlerRequest) (now : Date)
    (records : Table String FallbackRecord) : FallbackResult × Table String FallbackRecord :=
  if fallbackMaxEntries ≤ records.size then (.bypassed, records)
  else (.counted, records.set (request.key generateKey) ⟨1, now + request.ttl⟩)

/-- What `checkFallbackLimit` does when it has swept. -/
def countFallback (request : ThrottlerRequest) (now : Date)
    (records : Table String FallbackRecord) : FallbackResult × Table String FallbackRecord :=
  match records.get (request.key generateKey) with
  | none => openWindow generateKey request now records
  | some existing =>
    if existing.resetAt ≤ now then openWindow generateKey request now records
    else if request.limit ≤ existing.count then (.refused, records)
    else (.counted,
      records.set (request.key generateKey) { existing with count := existing.count + 1 })

end Check

/-! ## Runs -/

/-- One of the two steps of `checkFallbackLimit`, between which other requests may come. -/
inductive FallbackStep
  | sweep (now : Date)
  | count (request : ThrottlerRequest) (now : Date)

/-- A request that nothing comes between. -/
def checkFallbackLimit (request : ThrottlerRequest) (now : Date) : List FallbackStep :=
  [.sweep now, .count request now]

namespace FallbackStep

def now : FallbackStep → Date
  | sweep now | count _ now => now

variable (generateKey : String → String → String → String)

def run (step : FallbackStep) (limiter : FallbackLimiter) : FallbackLimiter :=
  match step with
  | sweep now => sweepFallbackRecordsIfDue now limiter
  | count request now =>
    { limiter with fallbackRecords := (countFallback generateKey request now
        limiter.fallbackRecords).2 }

/-- The step lets a request of the key through and counts it, before `resetAt`. -/
def counts (key : String) (resetAt : Date) (step : FallbackStep) (limiter : FallbackLimiter) :
    Bool :=
  match step with
  | sweep _ => false
  | count request now => decide (request.key generateKey = key) && decide (now < resetAt) &&
      (countFallback generateKey request now limiter.fallbackRecords).1 == .counted

end FallbackStep

section Statement

variable (generateKey : String → String → String → String)

/-- How many requests of the key are let through and counted before `resetAt`. -/
def countedBefore (key : String) (resetAt : Date) : List FallbackStep → FallbackLimiter → ℕ
  | [], _ => 0
  | step :: steps, limiter =>
    (if step.counts generateKey key resetAt limiter then 1 else 0) +
      countedBefore key resetAt steps (step.run generateKey limiter)

/-- The request is the first of a window of its key. -/
def Opens (request : ThrottlerRequest) (now : Date) (limiter : FallbackLimiter) : Prop :=
  (∀ existing, limiter.fallbackRecords.get (request.key generateKey) = some existing →
      existing.resetAt ≤ now) ∧
    (countFallback generateKey request now limiter.fallbackRecords).1 = .counted

/-- The window that the first of the steps opens, if it does, counts no more requests than the
limit of those that it counts. -/
def WindowBounded : List FallbackStep → FallbackLimiter → Prop
  | .count request now :: steps, limiter => Opens generateKey request now limiter →
      ∀ limit, (∀ other at', .count other at' ∈ .count request now :: steps →
          other.key generateKey = request.key generateKey → other.limit ≤ limit) →
        countedBefore generateKey (request.key generateKey) (now + request.ttl)
          (.count request now :: steps) limiter ≤ limit
  | _, _ => True

/-- A request is let through without being counted only when its key has no record and the map is
full. -/
def BypassesOnlyNew (step : FallbackStep) (limiter : FallbackLimiter) : Prop :=
  ∀ request now, step = .count request now →
    (countFallback generateKey request now limiter.fallbackRecords).1 = .bypassed →
      limiter.fallbackRecords.get (request.key generateKey) = none ∧
        limiter.fallbackRecords.size = fallbackMaxEntries

/-- The steps of a run keep the limit. -/
structure FallbackLimitHolds (steps : List FallbackStep) (limiter : FallbackLimiter) : Prop where
  bounded : Always (FallbackStep.run generateKey)
    (fun limiter => limiter.fallbackRecords.size ≤ fallbackMaxEntries) steps limiter
  windows : ∀ before rest, steps = before ++ rest →
    WindowBounded generateKey rest (runAll (FallbackStep.run generateKey) before limiter)
  bypasses : MeetAll (FallbackStep.run generateKey) (BypassesOnlyNew generateKey) steps limiter

/-- No request finds an expired record of its key in a full map. -/
def FindsNoneExpired (step : FallbackStep) (limiter : FallbackLimiter) : Prop :=
  ∀ request now existing, step = .count request now →
    limiter.fallbackRecords.get (request.key generateKey) = some existing →
      existing.resetAt ≤ now → limiter.fallbackRecords.size < fallbackMaxEntries

end Statement

/-! ## One step -/

section Steps

variable {generateKey : String → String → String → String} {limiter : FallbackLimiter}
  {records : Table String FallbackRecord} {request : ThrottlerRequest} {now : Date}

theorem countFallback_of_none (h : records.get (request.key generateKey) = none) :
    countFallback generateKey request now records =
      openWindow generateKey request now records := by
  rw [countFallback, h]

theorem countFallback_of_expired {existing : FallbackRecord}
    (h : records.get (request.key generateKey) = some existing)
    (hexpired : existing.resetAt ≤ now) :
    countFallback generateKey request now records =
      openWindow generateKey request now records := by
  rw [countFallback, h]
  exact if_pos hexpired

theorem countFallback_of_current {existing : FallbackRecord}
    (h : records.get (request.key generateKey) = some existing)
    (hcurrent : now < existing.resetAt) :
    countFallback generateKey request now records =
      if request.limit ≤ existing.count then (.refused, records)
      else (.counted,
        records.set (request.key generateKey) { existing with count := existing.count + 1 }) := by
  rw [countFallback, h]
  exact if_neg (not_le.mpr hcurrent)

/-- The three ways of a request: its key has no record, an expired one, or one that counts. -/
theorem record_cases (records : Table String FallbackRecord) (key : String) (now : Date) :
    records.get key = none ∨ (∃ existing, records.get key = some existing ∧
      existing.resetAt ≤ now) ∨
      ∃ existing, records.get key = some existing ∧ now < existing.resetAt := by
  cases h : records.get key with
  | none => exact .inl rfl
  | some existing =>
    obtain hexpired | hcurrent := le_or_gt existing.resetAt now
    · exact .inr (.inl ⟨existing, rfl, hexpired⟩)
    · exact .inr (.inr ⟨existing, rfl, hcurrent⟩)

theorem size_openWindow_le (h : records.size ≤ fallbackMaxEntries) :
    (openWindow generateKey request now records).2.size ≤ fallbackMaxEntries := by
  rw [openWindow]
  split
  case isTrue => exact h
  case isFalse hroom =>
    rw [Table.size_set]
    split <;> omega

theorem size_countFallback_le (h : records.size ≤ fallbackMaxEntries) :
    (countFallback generateKey request now records).2.size ≤ fallbackMaxEntries := by
  obtain hnone | ⟨existing, hget, hexpired⟩ | ⟨existing, hget, hcurrent⟩ :=
    record_cases records (request.key generateKey) now
  · rw [countFallback_of_none hnone]
    exact size_openWindow_le h
  · rw [countFallback_of_expired hget hexpired]
    exact size_openWindow_le h
  · rw [countFallback_of_current hget hcurrent]
    split
    · exact h
    · rw [Table.size_set, if_pos (by rw [hget]; rfl)]
      exact h

/-- The map stays within its bound. -/
theorem size_run_le (step : FallbackStep)
    (h : limiter.fallbackRecords.size ≤ fallbackMaxEntries) :
    (step.run generateKey limiter).fallbackRecords.size ≤ fallbackMaxEntries := by
  cases step with
  | sweep now =>
    rw [FallbackStep.run, sweepFallbackRecordsIfDue]
    split
    · exact h
    · exact (Table.size_filter_le _ _).trans h
  | count request now => exact size_countFallback_le h

theorem openWindow_bypassed_iff :
    (openWindow generateKey request now records).1 = .bypassed ↔
      fallbackMaxEntries ≤ records.size := by
  rw [openWindow]
  split <;> simp_all

theorem countFallback_bypassed_iff :
    (countFallback generateKey request now records).1 = .bypassed ↔
      (∀ existing, records.get (request.key generateKey) = some existing →
        existing.resetAt ≤ now) ∧ fallbackMaxEntries ≤ records.size := by
  obtain hnone | ⟨existing, hget, hexpired⟩ | ⟨existing, hget, hcurrent⟩ :=
    record_cases records (request.key generateKey) now
  · rw [countFallback_of_none hnone, openWindow_bypassed_iff, hnone]
    simp
  · rw [countFallback_of_expired hget hexpired, openWindow_bypassed_iff, hget]
    simp [hexpired]
  · rw [countFallback_of_current hget hcurrent, hget]
    have hnot : ¬ existing.resetAt ≤ now := not_le.mpr hcurrent
    split <;> simp [hnot]

end Steps

/-! ## Windows -/

section Windows

variable {generateKey : String → String → String → String} {limiter : FallbackLimiter}
  {key : String} {resetAt : Date} {count limit : ℕ}

/-- A request leaves the records of the other keys alone. -/
theorem get_countFallback_ne {request : ThrottlerRequest} {now : Date}
    {records : Table String FallbackRecord} (hne : key ≠ request.key generateKey) :
    (countFallback generateKey request now records).2.get key = records.get key := by
  have hopen : (openWindow generateKey request now records).2.get key = records.get key := by
    rw [openWindow]
    split
    · rfl
    · exact records.get_set_ne hne _
  obtain hnone | ⟨existing, hget, hexpired⟩ | ⟨existing, hget, hcurrent⟩ :=
    record_cases records (request.key generateKey) now
  · rw [countFallback_of_none hnone, hopen]
  · rw [countFallback_of_expired hget hexpired, hopen]
  · rw [countFallback_of_current hget hcurrent]
    split
    · rfl
    · exact records.get_set_ne hne _

/-- A sweep keeps what is not expired. -/
theorem get_sweep_of_current {now : Date} {record : FallbackRecord}
    (hget : limiter.fallbackRecords.get key = some record) (hcurrent : now < record.resetAt) :
    (sweepFallbackRecordsIfDue now limiter).fallbackRecords.get key = some record := by
  rw [sweepFallbackRecordsIfDue]
  split
  case isTrue => exact hget
  case isFalse =>
    refine (Table.get_filter _ _).mpr ⟨hget, ?_⟩
    simpa using hcurrent

theorem countedBefore_of_not {step : FallbackStep} {steps : List FallbackStep}
    (h : step.counts generateKey key resetAt limiter = false) :
    countedBefore generateKey key resetAt (step :: steps) limiter =
      countedBefore generateKey key resetAt steps (step.run generateKey limiter) := by
  rw [countedBefore, h]
  exact Nat.zero_add _

/-- Nothing is counted in a window that is over. -/
theorem countedBefore_of_over (steps : List FallbackStep)
    (hover : ∀ step ∈ steps, resetAt ≤ step.now) :
    ∀ limiter, countedBefore generateKey key resetAt steps limiter = 0 := by
  induction steps with
  | nil => exact fun _ => rfl
  | cons step steps ih =>
    intro limiter
    have hfirst : step.counts generateKey key resetAt limiter = false := by
      have hnow := hover step List.mem_cons_self
      cases step with
      | sweep now => rfl
      | count request now =>
        have hnot : ¬ now < resetAt := not_lt.mpr hnow
        simp [FallbackStep.counts, hnot]
    rw [countedBefore_of_not hfirst]
    exact ih (fun step hmem => hover step (List.mem_cons_of_mem _ hmem)) _

/-- A counted request has left its record. -/
theorem get_run_count {request : ThrottlerRequest} {now : Date} {record : FallbackRecord}
    (h : countFallback generateKey request now limiter.fallbackRecords = (.counted,
      limiter.fallbackRecords.set (request.key generateKey) record)) :
    (FallbackStep.run generateKey (.count request now) limiter).fallbackRecords.get
      (request.key generateKey) = some record := by
  rw [FallbackStep.run, h]
  exact Table.get_set_self ..

/-- A window whose record has counted some requests counts at most the rest. -/
theorem countedBefore_le (steps : List FallbackStep)
    (hlimit : ∀ request now, .count request now ∈ steps → request.key generateKey = key →
      request.limit ≤ limit) (hclock : steps.Pairwise fun first next => first.now ≤ next.now) :
    ∀ {limiter : FallbackLimiter} {count : ℕ},
      limiter.fallbackRecords.get key = some ⟨count, resetAt⟩ → count ≤ limit →
        count + countedBefore generateKey key resetAt steps limiter ≤ limit := by
  -- the record of the window is there until a step whose clock has reached the reset, and from
  -- then on no step counts for the window
  induction steps with
  | nil => exact fun _ hle => hle
  | cons step steps ih =>
    intro limiter count hget hle
    rw [List.pairwise_cons] at hclock
    have hrest := @ih (fun request now hmem => hlimit request now (List.mem_cons_of_mem _ hmem))
      hclock.2
    obtain hover | hcurrent := le_or_gt resetAt step.now
    · have hzero : countedBefore generateKey key resetAt (step :: steps) limiter = 0 := by
        refine countedBefore_of_over _ (fun other hmem => ?_) _
        obtain rfl | hmem := List.mem_cons.mp hmem
        · exact hover
        · exact hover.trans (hclock.1 other hmem)
      omega
    cases step with
    | sweep now =>
      rw [countedBefore_of_not rfl]
      exact hrest (get_sweep_of_current hget hcurrent) hle
    | count request now =>
      by_cases hkey : request.key generateKey = key
      · subst hkey
        have hcount : countFallback generateKey request now limiter.fallbackRecords = _ :=
          countFallback_of_current hget hcurrent
        by_cases hfull : request.limit ≤ count
        · rw [if_pos hfull] at hcount
          have hkept : FallbackStep.run generateKey (.count request now) limiter = limiter := by
            rw [FallbackStep.run, hcount]
          rw [countedBefore_of_not (by rw [FallbackStep.counts, hcount]; simp), hkept]
          exact hrest hget hle
        · rw [if_neg hfull] at hcount
          have hroom : count + 1 ≤ limit :=
            (not_le.mp hfull).trans_le (hlimit request now List.mem_cons_self rfl)
          have hnext := hrest (get_run_count hcount) hroom
          rw [countedBefore]
          dsimp only at hnext
          split <;> omega
      · rw [countedBefore_of_not (by simp [FallbackStep.counts, hkey])]
        exact hrest ((get_countFallback_ne (Ne.symm hkey)).trans hget) hle

/-- What opens a window leaves a record that has counted one request. -/
theorem get_of_opens {request : ThrottlerRequest} {now : Date}
    (h : Opens generateKey request now limiter) :
    (FallbackStep.run generateKey (.count request now) limiter).fallbackRecords.get
      (request.key generateKey) = some ⟨1, now + request.ttl⟩ := by
  have hopen : countFallback generateKey request now limiter.fallbackRecords =
      openWindow generateKey request now limiter.fallbackRecords := by
    obtain hnone | ⟨existing, hget, hexpired⟩ | ⟨existing, hget, hcurrent⟩ :=
      record_cases limiter.fallbackRecords (request.key generateKey) now
    · exact countFallback_of_none hnone
    · exact countFallback_of_expired hget hexpired
    · exact absurd (h.1 existing hget) (not_le.mpr hcurrent)
  have hcounted := h.2
  rw [FallbackStep.run, hopen]
  rw [hopen, openWindow] at hcounted
  rw [openWindow]
  split
  case isTrue hfull =>
    rw [if_pos hfull] at hcounted
    cases hcounted
  case isFalse => exact Table.get_set_self ..

/-- No window counts more than its limit. -/
theorem windowBounded (steps : List FallbackStep) (limiter : FallbackLimiter)
    (hclock : steps.Pairwise fun first next => first.now ≤ next.now) :
    WindowBounded generateKey steps limiter := by
  cases steps with
  | nil => exact True.intro
  | cons step steps =>
    cases step with
    | sweep now => exact True.intro
    | count request now =>
      intro hopens limit hlimit
      rw [List.pairwise_cons] at hclock
      have hone : (1 : ℕ) ≤ limit :=
        request.limit_pos.trans (hlimit request now List.mem_cons_self rfl)
      have hrest := countedBefore_le steps
        (fun other at' hmem => hlimit other at' (List.mem_cons_of_mem _ hmem)) hclock.2
        (get_of_opens hopens) hone
      rw [countedBefore]
      split <;> omega

end Windows

/-! ## Runs of the limiter -/

section Runs

variable {generateKey : String → String → String → String} {limiter : FallbackLimiter}

/-- A request is let through uncounted only as it should, if it does not find an expired record of
its key in a full map. -/
theorem bypassesOnlyNew_iff {step : FallbackStep}
    (hsize : limiter.fallbackRecords.size ≤ fallbackMaxEntries) :
    BypassesOnlyNew generateKey step limiter ↔ FindsNoneExpired generateKey step limiter := by
  constructor
  · rintro h request now existing rfl hget hexpired
    by_contra hfull
    have hbypassed : (countFallback generateKey request now limiter.fallbackRecords).1 =
        .bypassed := by
      rw [countFallback_bypassed_iff, hget]
      refine ⟨?_, not_lt.mp hfull⟩
      rintro _ ⟨⟩
      exact hexpired
    have hnone := (h request now rfl hbypassed).1
    rw [hget] at hnone
    cases hnone
  · rintro h request now rfl hbypassed
    obtain ⟨hexpired, hfull⟩ := countFallback_bypassed_iff.mp hbypassed
    refine ⟨?_, le_antisymm hsize hfull⟩
    cases hget : limiter.fallbackRecords.get (request.key generateKey) with
    | none => rfl
    | some existing =>
      exact absurd (h request now existing rfl hget (hexpired existing hget)) (not_lt.mpr hfull)

/-- In every order of the sweeps and the counts of any requests under a clock that does not go
back, the fallback limit holds if and only if no request comes when the map is full and has an
expired record of its key. -/
theorem fallback_limit_iff (generateKey : String → String → String → String)
    (steps : List FallbackStep) (lastFallbackSweepAt : Date)
    (hclock : steps.Pairwise fun first next => first.now ≤ next.now) :
    FallbackLimitHolds generateKey steps ⟨.empty, lastFallbackSweepAt⟩ ↔
      MeetAll (FallbackStep.run generateKey) (FindsNoneExpired generateKey) steps
        ⟨.empty, lastFallbackSweepAt⟩ := by
  have hsize : (FallbackLimiter.mk .empty lastFallbackSweepAt).fallbackRecords.size ≤
      fallbackMaxEntries := Nat.zero_le _
  have hbypasses : MeetAll (FallbackStep.run generateKey) (BypassesOnlyNew generateKey) steps
        ⟨.empty, lastFallbackSweepAt⟩ ↔
      MeetAll (FallbackStep.run generateKey) (FindsNoneExpired generateKey) steps
        ⟨.empty, lastFallbackSweepAt⟩ :=
    meetAll_congr (J := fun limiter => limiter.fallbackRecords.size ≤ fallbackMaxEntries)
      (fun step _ h => size_run_le step h) (fun _ _ h => bypassesOnlyNew_iff h) steps hsize
  rw [← hbypasses]
  refine ⟨fun h => h.bypasses, fun h => ⟨?_, ?_, h⟩⟩
  · exact always_of_inv (fun step _ h => size_run_le step h) steps hsize
  · rintro before rest rfl
    exact windowBounded rest _ (List.pairwise_append.mp hclock).2.1

end Runs

def plainKey (context tracker name : String) : String := context ++ "-" ++ name ++ "-" ++ tracker

/-- A request that says by itself where it comes from. -/
def floodRequest (i : ℕ) : ThrottlerRequest where
  context := "CustomerStoreDiscoveryController-list"
  req := { headers := [("x-forwarded-for", .inl (toString i))] }
  throttlerName := none
  limit := 1
  ttl := 1000
  limit_pos := by decide
  ttl_pos := by decide

/-- Two clients, one of which comes again when its window is over. -/
def fewSteps : List FallbackStep :=
  checkFallbackLimit (floodRequest 0) 0 ++ checkFallbackLimit (floodRequest 1) 500 ++
    checkFallbackLimit (floodRequest 0) 2000

theorem fallback_limit_holds_for_few :
    (fewSteps.Pairwise fun first next => first.now ≤ next.now) ∧
      FallbackLimitHolds plainKey fewSteps ⟨.empty, 0⟩ := by
  have hclock : fewSteps.Pairwise fun first next => first.now ≤ next.now := by
    simp [fewSteps, checkFallbackLimit, FallbackStep.now]
  refine ⟨hclock, (fallback_limit_iff plainKey fewSteps 0 hclock).mpr ?_⟩
  refine (meetAll_append _ _).mpr ⟨(meetAll_append _ _).mpr ⟨⟨?_, ?_, True.intro⟩, ?_, ?_,
    True.intro⟩, ?_, ?_, True.intro⟩ <;> intro request now existing hstep hget hexpired <;>
      decide +kernel

/-! ## A full map

More clients come within a second than there is room for, and the first of them comes again when
its window is over. -/

theorem getTracker_floodRequest (i : ℕ) : getTracker (floodRequest i).req = toString i := by
  have hcomma : ',' ∉ (toString i).toList := Numeral.notMem_toString rfl i
  have hlen : 0 < (toString i).length := by
    rw [← String.length_toList, Numeral.toList_toString]
    exact Nat.length_toDigits_pos
  have hfirst : ((toString i).toList.splitOn ',').headD [] = (toString i).toList := by
    rw [List.splitOn_eq_splitOnP, List.splitOnP_eq_singleton fun c hc =>
      beq_eq_false_iff_ne.mpr (ne_of_mem_of_not_mem hc hcomma)]
    rfl
  have hclient : clientIp (floodRequest i).req "x-forwarded-for" = some (toString i) := by
    rw [clientIp, show (floodRequest i).req.headers.lookup "x-forwarded-for" =
      some (.inl (toString i)) from rfl]
    simp only [trim_toString, if_pos hlen, hfirst, String.ofList_toList]
  rw [getTracker, trustedProxyHeaders, List.findSome?_cons, hclient]
  rfl

theorem key_floodRequest (i : ℕ) : (floodRequest i).key plainKey =
    "CustomerStoreDiscoveryController-list-default-" ++ toString i := by
  rw [ThrottlerRequest.key, getTracker_floodRequest]
  rfl

theorem key_floodRequest_ne {i j : ℕ} (hne : i ≠ j) :
    (floodRequest i).key plainKey ≠ (floodRequest j).key plainKey := by
  rw [key_floodRequest, key_floodRequest]
  intro h
  have hlist := congrArg String.toList h
  rw [String.toList_append, String.toList_append] at hlist
  exact hne (Numeral.toString_inj.mp (List.append_cancel_left hlist))

/-- The first requests of a flood. -/
def flood (n : ℕ) : List FallbackStep :=
  (List.range n).flatMap fun i => checkFallbackLimit (floodRequest i) 0

theorem flood_succ (n : ℕ) : flood (n + 1) = flood n ++ checkFallbackLimit (floodRequest n) 0 := by
  simp [flood, List.range_succ]

/-- Each request of a flood leaves a record, as long as there is room. -/
theorem runAll_flood {n : ℕ} (hn : n ≤ fallbackMaxEntries) :
    ∃ records, runAll (FallbackStep.run plainKey) (flood n) ⟨.empty, 0⟩ = ⟨records, 0⟩ ∧
      records.size = n ∧ (∀ i, n ≤ i → records.get ((floodRequest i).key plainKey) = none) ∧
        ∀ i < n, records.get ((floodRequest i).key plainKey) = some ⟨1, 1000⟩ := by
  induction n with
  | zero => exact ⟨.empty, rfl, rfl, fun _ _ => rfl, fun i hi => absurd hi (Nat.not_lt_zero i)⟩
  | succ n ih =>
    obtain ⟨records, hrun, hsize, hnew, hold⟩ := ih (by omega)
    have hcount : countFallback plainKey (floodRequest n) 0 records =
        (.counted, records.set ((floodRequest n).key plainKey) ⟨1, 1000⟩) := by
      rw [countFallback_of_none (hnew n le_rfl), openWindow, if_neg (by omega)]
      rfl
    have hsweep : sweepFallbackRecordsIfDue 0 ⟨records, 0⟩ = ⟨records, 0⟩ :=
      if_pos (by simp [fallbackSweepIntervalMs])
    refine ⟨records.set ((floodRequest n).key plainKey) ⟨1, 1000⟩, ?_, ?_, fun i hi => ?_,
      fun i hi => ?_⟩
    · rw [flood_succ, runAll_append, hrun]
      simp only [checkFallbackLimit, runAll, FallbackStep.run, hsweep, hcount]
    · rw [Table.size_set, hnew n le_rfl, hsize]
      rfl
    · rw [Table.get_set_ne _ (key_floodRequest_ne (by omega))]
      exact hnew i (by omega)
    · obtain rfl | hne := eq_or_ne i n
      · exact Table.get_set_self ..
      · rw [Table.get_set_ne _ (key_floodRequest_ne hne)]
        exact hold i (by omega)

theorem clock_flood (n : ℕ) : ∀ step ∈ flood n, step.now = 0 := by
  intro step hmem
  obtain ⟨i, -, hstep⟩ := List.mem_flatMap.mp hmem
  simp only [checkFallbackLimit, List.mem_cons, List.not_mem_nil, or_false] at hstep
  rcases hstep with rfl | rfl <;> rfl

/-- A client whose window is over is let through without being counted, though its record could be
replaced. -/
theorem expired_record_is_bypassed :
    ¬ ∀ (generateKey : String → String → String → String) (steps : List FallbackStep)
        (lastFallbackSweepAt : Date), (steps.Pairwise fun first next => first.now ≤ next.now) →
      FallbackLimitHolds generateKey steps ⟨.empty, lastFallbackSweepAt⟩ := by
  intro h
  obtain ⟨n, hn⟩ : ∃ n, n = fallbackMaxEntries := ⟨_, rfl⟩
  obtain ⟨records, hrun, hsize, -, hold⟩ := runAll_flood hn.le
  have hclock : (flood n ++ checkFallbackLimit (floodRequest 0) 2000).Pairwise
      fun first next => first.now ≤ next.now := by
    refine List.pairwise_append.mpr ⟨?_, by simp [checkFallbackLimit, FallbackStep.now], ?_⟩
    · exact List.pairwise_of_forall_mem_list fun first hfirst next hnext => by
        rw [clock_flood _ first hfirst, clock_flood _ next hnext]
    · intro first hfirst next hnext
      rw [clock_flood _ first hfirst]
      simp only [checkFallbackLimit, List.mem_cons, List.not_mem_nil, or_false] at hnext
      rcases hnext with rfl | rfl <;> decide
  have hsweep : sweepFallbackRecordsIfDue 2000 ⟨records, 0⟩ = ⟨records, 0⟩ :=
    if_pos (by simp [fallbackSweepIntervalMs])
  have hmeet := ((meetAll_append _ _).mp (h plainKey _ 0 hclock).bypasses).2
  rw [hrun] at hmeet
  simp only [checkFallbackLimit, MeetAll, FallbackStep.run, hsweep] at hmeet
  have hexpired := hold 0 (hn ▸ by decide)
  have hnone := (hmeet.2.1 (floodRequest 0) 2000 rfl (by
    rw [countFallback_of_expired hexpired (by decide), openWindow_bypassed_iff, hsize, hn])).1
  rw [hexpired] at hnone
  cases hnone

end WerTe.IpAwareThrottlerGuard
