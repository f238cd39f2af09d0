import WerTe.QuietHours
import WerTe.StoreDiscovery

/-!
# Opening hours

`customer-store-summary.dto.ts`: whether a store is open now by the hours that its merchant has
entered for the days of the week. A store that closes before it opens closes on the next morning.

Only the hours of today are looked at, and the time is to lie between the two as they stand. So a
store is told to be open in the windows that begin and end on one day (`computeIsOpenNow_iff`),
and is told to be closed in a window that goes over midnight, unless today has another window at
that time (`open_now_iff`).
-/

namespace WerTe.OpeningHours

open DiscoveryCache

/-! ## `customer-store-summary.dto.ts` -/

inductive DayKey
  | sun | mon | tue | wed | thu | fri | sat
deriving DecidableEq, Repr

def dayKeys : List DayKey := [.sun, .mon, .tue, .wed, .thu, .fri, .sat]

/-- What is entered for one day. -/
structure DayHours where
  isOpen : Bool
  openTime : Option String := none
  closeTime : Option String := none
deriving DecidableEq

abbrev OperatingHours := DayKey → Option DayHours

def mstOffsetMinutes : ℤ := 6 * 60 + 30

def nowInMyanmar (now : Date) : Date := now + mstOffsetMinutes * 60000

/-- The days since the beginning of 1970, which was a Thursday, and their names. -/
def dayKey (day : ℤ) : DayKey := dayKeys.getD ((day + 4) % 7).toNat .sun

/-- `padStart(2, '0')`. -/
def pad (n : ℕ) : String :=
  .ofList (List.replicate (2 - (toString n).length) '0') ++ toString n

def getUTCHours (date : Date) : ℕ := (date / 3600000 % 24).toNat

def getUTCMinutes (date : Date) : ℕ := (date / 60000 % 60).toNat

/-- The time of the day as it is written. -/
def currentTime (date : Date) : String := pad (getUTCHours date) ++ ":" ++ pad (getUTCMinutes date)

def computeIsOpenNow (hours : Option OperatingHours) (branchStatus : Option BranchStatus)
    (now : Date) : Bool :=
  if branchStatus.any (· != .active) then false
  else match hours with
    | none => true
    | some hours =>
      match hours (dayKey (nowInMyanmar now / 86400000)) with
      | none => false
      | some day =>
        if ! day.isOpen then false
        else match day.openTime.filter (· != ""), day.closeTime.filter (· != "") with
          | some openTime, some closeTime =>
            let current := currentTime (nowInMyanmar now)
            decide (utf16 openTime ≤ utf16 current) && decide (utf16 current ≤ utf16 closeTime)
          | _, _ => true

/-! ## Windows -/

/-- Each open day has its two times. -/
def ValidHours (hours : OperatingHours) : Prop :=
  ∀ key day, hours key = some day → day.isOpen = true → ∃ openTime closeTime : LocalTime,
    day.openTime = some openTime.value ∧ day.closeTime = some closeTime.value

/-- The store opens and closes on the day at these times. -/
def HasWindow (hours : OperatingHours) (day : ℤ) (openTime closeTime : LocalTime) : Prop :=
  hours (dayKey day) = some ⟨true, some openTime.value, some closeTime.value⟩

/-- The minute lies in the window of the day, which ends on that day. -/
def InDayWindow (hours : OperatingHours) (day minute : ℤ) : Prop :=
  ∃ openTime closeTime, HasWindow hours day openTime closeTime ∧
    parseLocalMinuteOfDay openTime ≤ parseLocalMinuteOfDay closeTime ∧
    day * 1440 + parseLocalMinuteOfDay openTime ≤ minute ∧
    minute ≤ day * 1440 + parseLocalMinuteOfDay closeTime

/-- The minute lies in the window of the day, which ends on the next morning. -/
def InNightWindow (hours : OperatingHours) (day minute : ℤ) : Prop :=
  ∃ openTime closeTime, HasWindow hours day openTime closeTime ∧
    parseLocalMinuteOfDay closeTime < parseLocalMinuteOfDay openTime ∧
    day * 1440 + parseLocalMinuteOfDay openTime ≤ minute ∧
    minute ≤ (day + 1) * 1440 + parseLocalMinuteOfDay closeTime

def localMinute (now : Date) : ℤ := nowInMyanmar now / 60000

def localDay (now : Date) : ℤ := localMinute now / 1440

/-- The local time lies in the window of today, or in yesterday's if that ends today. -/
def OpenAt (hours : OperatingHours) (now : Date) : Prop :=
  InDayWindow hours (localDay now) (localMinute now) ∨
    InNightWindow hours (localDay now) (localMinute now) ∨
      InNightWindow hours (localDay now - 1) (localMinute now)

/-! ## Times as texts -/

/-- Times of the day are ordered as texts as they are by their minutes. -/
theorem utf16_le_iff (time time' : LocalTime) : utf16 time.value ≤ utf16 time'.value ↔
    parseLocalMinuteOfDay time ≤ parseLocalMinuteOfDay time' := by
  obtain ⟨h, h', m, m', hlist, hh, hh', hh'', hhour, hm, hm', hn, hn', hparse⟩ := time.digits
  obtain ⟨g, g', k, k', hlist', hg, hg', hg'', hhour', hk, hk', hl, hl', hparse'⟩ := time'.digits
  have hunits : ∀ c : Char, c.toNat < 0x10000 → (if c.toNat < 0x10000 then [c.toNat]
      else [0xD800 + (c.toNat - 0x10000) / 0x400, 0xDC00 + (c.toNat - 0x10000) % 0x400]) =
        [c.toNat] := fun c hc => if_pos hc
  have hcolon : ':'.toNat = 58 := rfl
  have htime : utf16 time.value = [h.toNat, h'.toNat, 58, m.toNat, m'.toNat] := by
    simp only [utf16, hlist, List.flatMap_cons, List.flatMap_nil]
    rw [hunits h (by omega), hunits h' (by omega), hunits ':' (by decide), hunits m (by omega),
      hunits m' (by omega), hcolon]
    rfl
  have htime' : utf16 time'.value = [g.toNat, g'.toNat, 58, k.toNat, k'.toNat] := by
    simp only [utf16, hlist', List.flatMap_cons, List.flatMap_nil]
    rw [hunits g (by omega), hunits g' (by omega), hunits ':' (by decide), hunits k (by omega),
      hunits k' (by omega), hcolon]
    rfl
  rw [htime, htime', ← not_lt, ← not_lt, not_iff_not]
  simp only [List.cons_lt_cons_iff, lt_irrefl, and_false, or_false, false_or, true_and]
  -- the first digit in which they differ decides
  obtain hlt | heq | hlt := lt_trichotomy g.toNat h.toNat
  · omega
  · obtain hlt' | heq' | hlt' := lt_trichotomy g'.toNat h'.toNat <;> omega
  · omega

theorem toList_pad {n : ℕ} (h : n < 60) :
    (pad n).toList = [Nat.digitChar (n / 10), Nat.digitChar (n % 10)] := by
  revert n
  decide +kernel

theorem toList_currentTime (date : Date) : (currentTime date).toList =
    [Nat.digitChar (getUTCHours date / 10), Nat.digitChar (getUTCHours date % 10), ':',
      Nat.digitChar (getUTCMinutes date / 10), Nat.digitChar (getUTCMinutes date % 10)] := by
  have hhours : getUTCHours date < 60 := by
    rw [getUTCHours]
    omega
  have hminutes : getUTCMinutes date < 60 := by
    rw [getUTCMinutes]
    omega
  have hcolon : ":".toList = [':'] := rfl
  simp only [currentTime, String.toList_append, toList_pad hhours, toList_pad hminutes, hcolon,
    List.cons_append, List.nil_append]

/-- The time of the day as it is written is one, and its minute is the minute of the day. -/
theorem currentTime_eq (date : Date) : ∃ time : LocalTime, time.value = currentTime date ∧
    parseLocalMinuteOfDay time = date / 60000 % 1440 := by
  have hhours : getUTCHours date < 24 := by
    rw [getUTCHours]
    omega
  have hminutes : getUTCMinutes date < 60 := by
    rw [getUTCMinutes]
    omega
  have hdigit : ∀ n < 10, (Nat.digitChar n).toNat = 48 + n := fun n hn =>
    Nat.toNat_digitChar_of_lt_ten hn
  have hh := hdigit (getUTCHours date / 10) (by omega)
  have hh' := hdigit (getUTCHours date % 10) (by omega)
  have hm := hdigit (getUTCMinutes date / 10) (by omega)
  have hm' := hdigit (getUTCMinutes date % 10) (by omega)
  have hvalid : isLocalTime (currentTime date) = true := by
    simp only [isLocalTime, toList_currentTime, Bool.and_eq_true, Bool.or_eq_true, isBetween_iff,
      beq_self_eq_true, and_true, hh, hh', hm, hm', Char.reduceToNat]
    omega
  obtain ⟨g, g', k, k', hlist, -, -, -, -, -, -, -, -, hparse⟩ :=
    LocalTime.digits ⟨currentTime date, hvalid⟩
  rw [toList_currentTime] at hlist
  simp only [List.cons.injEq, true_and, and_true] at hlist
  obtain ⟨rfl, rfl, rfl, rfl⟩ := hlist
  refine ⟨⟨currentTime date, hvalid⟩, rfl, ?_⟩
  rw [hparse, hh, hh', hm, hm']
  rw [getUTCHours, getUTCMinutes] at *
  omega

/-! ## Open or closed -/

section Open

variable {hours : OperatingHours} {now : Date}

theorem localTime_eq {time time' : LocalTime} (h : time.value = time'.value) : time = time' := by
  obtain ⟨value, hvalue⟩ := time
  obtain ⟨value', hvalue'⟩ := time'
  cases h
  rfl

theorem hasWindow_unique {day : ℤ} {openTime openTime' closeTime closeTime' : LocalTime}
    (h : HasWindow hours day openTime closeTime) (h' : HasWindow hours day openTime' closeTime') :
    openTime = openTime' ∧ closeTime = closeTime' := by
  have hsame := h.symm.trans h'
  simp only [Option.some.injEq, DayHours.mk.injEq, true_and] at hsame
  exact ⟨localTime_eq hsame.1, localTime_eq hsame.2⟩

/-- A time of the day is no empty text. -/
theorem filter_value (time : LocalTime) :
    (some time.value).filter (· != "") = some time.value := by
  refine Option.filter_eq_some_iff.mpr ⟨rfl, bne_iff_ne.mpr fun hempty => ?_⟩
  have hvalid := time.valid
  rw [hempty] at hvalid
  cases hvalid

/-- Only a window that begins and ends today counts. -/
theorem computeIsOpenNow_iff (hvalid : ValidHours hours) :
    computeIsOpenNow (some hours) (some .active) now = true ↔
      InDayWindow hours (localDay now) (localMinute now) := by
  have hday : nowInMyanmar now / 86400000 = localDay now := by
    have hms : ∀ ms : ℤ, ms / 86400000 = ms / 60000 / 1440 := by omega
    exact hms _
  obtain ⟨current, hcurrent, hminute⟩ := currentTime_eq (nowInMyanmar now)
  have hlocal : localMinute now = localDay now * 1440 + parseLocalMinuteOfDay current := by
    rw [hminute, localDay, localMinute]
    omega
  rw [computeIsOpenNow, if_neg (by decide), hday]
  dsimp only
  cases hhours : hours (dayKey (localDay now)) with
  | none =>
    refine iff_of_false Bool.false_ne_true ?_
    rintro ⟨openTime, closeTime, hwindow, -⟩
    rw [HasWindow, hhours] at hwindow
    cases hwindow
  | some day =>
    dsimp only
    cases hopen : day.isOpen with
    | false =>
      refine iff_of_false Bool.false_ne_true ?_
      rintro ⟨openTime, closeTime, hwindow, -⟩
      rw [HasWindow, hhours] at hwindow
      cases hwindow
      cases hopen
    | true =>
      obtain ⟨openTime, closeTime, hopenTime, hcloseTime⟩ := hvalid _ _ hhours hopen
      have hwindow : HasWindow hours (localDay now) openTime closeTime := by
        rw [HasWindow, hhours, ← hopenTime, ← hcloseTime, ← hopen]
      rw [if_neg (by decide), hopenTime, hcloseTime, filter_value, filter_value, ← hcurrent]
      dsimp only
      rw [Bool.and_eq_true, decide_eq_true_eq, decide_eq_true_eq, utf16_le_iff, utf16_le_iff]
      constructor
      · rintro ⟨hopened, hclosed⟩
        exact ⟨openTime, closeTime, hwindow, by omega, by omega, by omega⟩
      · rintro ⟨openTime', closeTime', hwindow', -, hopened, hclosed⟩
        obtain ⟨rfl, rfl⟩ := hasWindow_unique hwindow hwindow'
        exact ⟨by omega, by omega⟩

/-- A store that is active is told to be open when it is, if and only if the local time lies in a
window over midnight only where it lies in today's window as well. -/
theorem open_now_iff (hours : OperatingHours) (now : Date) (hvalid : ValidHours hours) :
    (computeIsOpenNow (some hours) (some .active) now = true ↔ OpenAt hours now) ↔
      (InNightWindow hours (localDay now) (localMinute now) ∨
          InNightWindow hours (localDay now - 1) (localMinute now) →
        InDayWindow hours (localDay now) (localMinute now)) := by
  rw [computeIsOpenNow_iff hvalid, OpenAt]
  constructor
  · exact fun h hnight => h.mpr (.inr hnight)
  · exact fun h => ⟨.inl, fun hopen => hopen.elim id h⟩

end Open

/-! ## Two stores -/

def nine : LocalTime := ⟨"09:00", by decide⟩

def halfPastNine : LocalTime := ⟨"21:30", by decide⟩

def six : LocalTime := ⟨"18:00", by decide⟩

def two : LocalTime := ⟨"02:00", by decide⟩

/-- A store that is closed on Sundays. -/
def dayStore : OperatingHours := fun key =>
  if key = .sun then some ⟨false, none, none⟩
  else some ⟨true, some nine.value, some halfPastNine.value⟩

/-- A store that sells until the next morning. -/
def nightStore : OperatingHours := fun _ => some ⟨true, some six.value, some two.value⟩

theorem validHours_dayStore : ValidHours dayStore := by
  intro key day hday hopen
  rw [dayStore] at hday
  split at hday
  · cases hday
    cases hopen
  · cases hday
    exact ⟨nine, halfPastNine, rfl, rfl⟩

theorem validHours_nightStore : ValidHours nightStore := by
  rintro key day ⟨⟩ hopen
  exact ⟨six, two, rfl, rfl⟩

/-- A store that closes in the evening is told to be open at noon. -/
theorem day_store_told : computeIsOpenNow (some dayStore) (some .active) 19800000 = true ↔
    OpenAt dayStore 19800000 := by
  have hnight : ∀ day minute, ¬ InNightWindow dayStore day minute := by
    rintro day minute ⟨openTime, closeTime, hwindow, hlt, -⟩
    rw [HasWindow, dayStore] at hwindow
    split at hwindow
    · cases hwindow
    · simp only [Option.some.injEq, DayHours.mk.injEq, true_and] at hwindow
      rw [← localTime_eq hwindow.1, ← localTime_eq hwindow.2] at hlt
      exact absurd hlt (by decide +kernel)
  refine (open_now_iff dayStore 19800000 validHours_dayStore).mpr fun h => ?_
  exact (h.elim (hnight _ _) (hnight _ _)).elim

/-- At eight in the evening the other store is told to be closed. -/
theorem night_store_not_told : ¬ ∀ (hours : OperatingHours) (now : Date), ValidHours hours →
    (computeIsOpenNow (some hours) (some .active) now = true ↔ OpenAt hours now) := by
  intro h
  have hopen : OpenAt nightStore 48600000 :=
    .inr (.inl ⟨six, two, rfl, by decide +kernel, by decide +kernel, by decide +kernel⟩)
  exact absurd ((h nightStore 48600000 validHours_nightStore).mpr hopen) (by decide +kernel)

end WerTe.OpeningHours
