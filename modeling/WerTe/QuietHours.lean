import WerTe.Clocked.Cycle
import WerTe.Schema

/-!
# Quiet hours

`notification-preference-time.util.ts`: within a merchant's quiet hours, which are given as two
local times of the day, no push notifications of inventory alerts are sent. When the next of the two
comes is computed in whole seconds. In a zone at a fixed number of whole minutes from UTC it is
where muting is switched, up to the milliseconds of the instant that is computed from
(`next_boundary_is_toggle`).
-/

namespace WerTe

/-! ## Local times -/

def isBetween (first last c : Char) : Bool :=
  decide (first.toNat ≤ c.toNat) && decide (c.toNat ≤ last.toNat)

/-- The pattern `^([01]\d|2[0-3]):([0-5]\d)$`. -/
def isLocalTime (value : String) : Bool :=
  match value.toList with
  | [h, h', colon, m, m'] =>
    (isBetween '0' '1' h && isBetween '0' '9' h' || isBetween '2' '2' h && isBetween '0' '3' h') &&
      colon == ':' && isBetween '0' '5' m && isBetween '0' '9' m'
  | _ => false

/-- A local time of the day, `HH:mm`. -/
structure LocalTime where
  value : String
  valid : isLocalTime value = true
deriving DecidableEq

/-- `Number` of a text of digits. -/
def numberOf (digits : List Char) : ℤ := digits.foldl (fun n c => 10 * n + (c.toNat - 48)) 0

def parseLocalMinuteOfDay (time : LocalTime) : ℤ :=
  match time.value.toList.splitOn ':' with
  | hour :: minute :: _ => numberOf hour * 60 + numberOf minute
  | _ => 0

theorem isBetween_iff {first last c : Char} :
    isBetween first last c = true ↔ first.toNat ≤ c.toNat ∧ c.toNat ≤ last.toNat := by
  simp [isBetween]

/-- The digits of a local time, and what it is parsed to. -/
theorem LocalTime.digits (time : LocalTime) : ∃ h h' m m' : Char,
    time.value.toList = [h, h', ':', m, m'] ∧
      48 ≤ h.toNat ∧ 48 ≤ h'.toNat ∧ h'.toNat ≤ 57 ∧
      10 * h.toNat + h'.toNat < 552 ∧ 48 ≤ m.toNat ∧ m.toNat ≤ 53 ∧ 48 ≤ m'.toNat ∧
      m'.toNat ≤ 57 ∧ parseLocalMinuteOfDay time =
        (10 * ((h.toNat : ℤ) - 48) + (h'.toNat - 48)) * 60 +
          (10 * ((m.toNat : ℤ) - 48) + (m'.toNat - 48)) := by
  obtain ⟨value, hvalid⟩ := time
  unfold isLocalTime at hvalid
  split at hvalid
  · next h h' colon m m' heq =>
    simp only [Bool.and_eq_true, Bool.or_eq_true, isBetween_iff, beq_iff_eq] at hvalid
    obtain ⟨⟨⟨hhour, rfl⟩, hm⟩, hm'⟩ := hvalid
    simp only [Char.reduceToNat] at hhour hm hm'
    -- none of the digits is the colon, so that the text splits there
    have hne : ∀ c : Char, c.toNat ≤ 57 → (c == ':') = false := by
      intro c hle
      refine beq_eq_false_iff_ne.mpr ?_
      rintro rfl
      simp at hle
    have hsplit : [h, h', ':', m, m'].splitOn ':' = [[h, h'], [m, m']] := by
      simp [List.splitOn, List.splitOnP_cons_eq_if_splitOnPPrepend,
        List.splitOnPPrepend_cons_eq_if, hne h (by omega), hne h' (by omega), hne m (by omega),
        hne m' (by omega)]
    refine ⟨h, h', m, m', heq, by omega, by omega, by omega, by omega, hm.1, hm.2, hm'.1, hm'.2, ?_⟩
    simp [parseLocalMinuteOfDay, heq, hsplit, numberOf]
  · cases hvalid

theorem parseLocalMinuteOfDay_bounds (time : LocalTime) :
    0 ≤ parseLocalMinuteOfDay time ∧ parseLocalMinuteOfDay time < 1440 := by
  obtain ⟨h, h', m, m', -, hh, hh', hh'', hhour, hm, hm', hn, hn', hparse⟩ := time.digits
  omega

/-- Different texts are different minutes. -/
theorem parseLocalMinuteOfDay_injective : Function.Injective parseLocalMinuteOfDay := by
  intro time time' heq
  obtain ⟨h, h', m, m', hlist, hh, hh', hh'', hhour, hm, hm', hn, hn', hparse⟩ := time.digits
  obtain ⟨g, g', k, k', hlist', hg, hg', hg'', hhour', hk, hk', hl, hl', hparse'⟩ := time'.digits
  have hchars : h = g ∧ h' = g' ∧ m = k ∧ m' = k' := by
    simp only [← Char.toNat_inj]
    omega
  obtain ⟨rfl, rfl, rfl, rfl⟩ := hchars
  have hvalue : time.value = time'.value := String.toList_inj.mp (hlist.trans hlist'.symm)
  cases time
  cases time'
  cases hvalue
  rfl

/-! ## Quiet hours -/

/-- A merchant's preference; the fields leave out the words `inventoryAlert`. -/
structure MerchantInventoryAlertPreference where
  userId : Id
  pushEnabled : Bool
  quietHoursEnabled : Bool
  quietHoursStartLocalTime : Option LocalTime
  quietHoursEndLocalTime : Option LocalTime
  quietHoursTimezone : Option String
deriving DecidableEq

/-- The two times and the zone, when quiet hours are on and all three are there. -/
def MerchantInventoryAlertPreference.quietHours (preference : MerchantInventoryAlertPreference) :
    Option (LocalTime × LocalTime × String) := do
  let start ← preference.quietHoursStartLocalTime
  let stop ← preference.quietHoursEndLocalTime
  let zone ← preference.quietHoursTimezone
  if preference.quietHoursEnabled then some (start, stop, zone) else none

section Zones

-- how far, in milliseconds, the local time of a zone is ahead of UTC at an instant
variable (utcOffset : String → Date → ℤ)

def resolveLocalMinuteOfDay (at' : Date) (timeZone : String) : ℤ :=
  (at' + utcOffset timeZone at') / 60000 % 1440

def resolveLocalSecondOfDay (at' : Date) (timeZone : String) : ℤ :=
  (at' + utcOffset timeZone at') / 1000 % 86400

def isInventoryAlertPushMutedNow (preference : MerchantInventoryAlertPreference) (at' : Date) :
    Bool :=
  match preference.quietHours with
  | none => false
  | some (start, stop, zone) =>
    let currentMinute := resolveLocalMinuteOfDay utcOffset at' zone
    let startMinute := parseLocalMinuteOfDay start
    let endMinute := parseLocalMinuteOfDay stop
    if startMinute < endMinute then
      decide (startMinute ≤ currentMinute) && decide (currentMinute < endMinute)
    else decide (startMinute ≤ currentMinute) || decide (currentMinute < endMinute)

/-- The seconds until a boundary, which is never now. -/
def boundaryDelaySeconds (currentSecondOfDay boundarySecond : ℤ) : ℤ :=
  let delta := boundarySecond - currentSecondOfDay
  if delta ≤ 0 then delta + 24 * 60 * 60 else delta

def resolveNextQuietHoursBoundaryAt (preference : MerchantInventoryAlertPreference)
    (start : Date) : Option Date :=
  if preference.pushEnabled = false then none
  else
    match preference.quietHours with
    | none => none
    | some (startTime, endTime, zone) =>
      let currentSecondOfDay := resolveLocalSecondOfDay utcOffset start zone
      let nextBoundaryDelaySeconds :=
        min (boundaryDelaySeconds currentSecondOfDay (parseLocalMinuteOfDay startTime * 60))
          (boundaryDelaySeconds currentSecondOfDay (parseLocalMinuteOfDay endTime * 60))
      some (start + nextBoundaryDelaySeconds * 1000)

end Zones

/-! ## The next boundary -/

section Boundary

variable {utcOffset : String → Date → ℤ} {preference : MerchantInventoryAlertPreference}
  {startTime endTime : LocalTime} {zone : String} {minutes : ℤ}

/-- Muting goes by the second of the day just as by the minute. -/
theorem isInventoryAlertPushMutedNow_eq
    (hquiet : preference.quietHours = some (startTime, endTime, zone))
    (hfixed : ∀ at', utcOffset zone at' = minutes * 60000) (at' : Date) :
    isInventoryAlertPushMutedNow utcOffset preference at' =
      Cycle.inWindow (parseLocalMinuteOfDay startTime * 60) (parseLocalMinuteOfDay endTime * 60)
        (resolveLocalSecondOfDay utcOffset at' zone) := by
  have hminute : resolveLocalMinuteOfDay utcOffset at' zone =
      resolveLocalSecondOfDay utcOffset at' zone / 60 := by
    simp only [resolveLocalMinuteOfDay, resolveLocalSecondOfDay, hfixed]
    omega
  simp only [isInventoryAlertPushMutedNow, hquiet, hminute, Cycle.inWindow]
  by_cases hwindow : parseLocalMinuteOfDay startTime < parseLocalMinuteOfDay endTime
  · rw [if_pos hwindow, if_pos (by omega)]
    simp only [← Bool.decide_and, decide_eq_decide]
    omega
  · rw [if_neg hwindow, if_neg (by omega)]
    simp only [← Bool.decide_or, decide_eq_decide]
    omega

theorem resolveNextQuietHoursBoundaryAt_eq (hpush : preference.pushEnabled = true)
    (hquiet : preference.quietHours = some (startTime, endTime, zone)) (start : Date) :
    resolveNextQuietHoursBoundaryAt utcOffset preference start =
      some (start + Cycle.nextEnd 86400 (parseLocalMinuteOfDay startTime * 60)
        (parseLocalMinuteOfDay endTime * 60)
        (resolveLocalSecondOfDay utcOffset start zone) * 1000) := by
  simp [resolveNextQuietHoursBoundaryAt, hpush, hquiet, Cycle.nextEnd, Cycle.ahead,
    boundaryDelaySeconds]

/-- The second of the day, some seconds on. -/
theorem resolveLocalSecondOfDay_add (hfixed : ∀ at', utcOffset zone at' = minutes * 60000)
    (start at' i : ℤ) (hle : (start / 1000 + i) * 1000 ≤ at')
    (hlt : at' < (start / 1000 + i + 1) * 1000) :
    resolveLocalSecondOfDay utcOffset at' zone =
      (resolveLocalSecondOfDay utcOffset start zone + i) % 86400 := by
  simp only [resolveLocalSecondOfDay, hfixed]
  omega

/-- **The next boundary is the next toggle**: at the first instant after `start` at which muting is
switched, up to the milliseconds of `start`; until then it stays as it is, and from then on, up to
the instant that is returned, it is switched. -/
theorem next_boundary_is_toggle (hpush : preference.pushEnabled = true)
    (hquiet : preference.quietHours = some (startTime, endTime, zone)) (hne : startTime ≠ endTime)
    (hfixed : ∀ at', utcOffset zone at' = minutes * 60000) (start : ℤ) :
    ∃ b t : ℤ, resolveNextQuietHoursBoundaryAt utcOffset preference start = some t ∧
      IsLeast {b : ℤ | start < b ∧ isInventoryAlertPushMutedNow utcOffset preference b ≠
        isInventoryAlertPushMutedNow utcOffset preference (b - 1)} b ∧
      b ≤ t ∧ t < b + 1000 ∧ t - b = start % 1000 ∧
      (∀ at' : ℤ, start ≤ at' → at' < b → isInventoryAlertPushMutedNow utcOffset preference at' =
        isInventoryAlertPushMutedNow utcOffset preference start) ∧
      (∀ at' : ℤ, b ≤ at' → at' ≤ t → isInventoryAlertPushMutedNow utcOffset preference at' =
        !isInventoryAlertPushMutedNow utcOffset preference start) := by
  have hs := parseLocalMinuteOfDay_bounds startTime
  have he := parseLocalMinuteOfDay_bounds endTime
  have hminutes : parseLocalMinuteOfDay startTime * 60 ≠ parseLocalMinuteOfDay endTime * 60 := by
    have hparse := parseLocalMinuteOfDay_injective.ne hne
    omega
  have hsecond : 0 ≤ resolveLocalSecondOfDay utcOffset start zone ∧
      resolveLocalSecondOfDay utcOffset start zone < 86400 := by
    unfold resolveLocalSecondOfDay
    omega
  set delay := Cycle.nextEnd 86400 (parseLocalMinuteOfDay startTime * 60)
    (parseLocalMinuteOfDay endTime * 60) (resolveLocalSecondOfDay utcOffset start zone) with hdelay
  have hpos : 0 < delay := Cycle.nextEnd_pos (by omega) (by omega) hsecond
  -- the boundary is at the full second, and what is returned has the milliseconds of `start`
  have hbefore : ∀ at' : ℤ, start ≤ at' → at' < (start / 1000 + delay) * 1000 →
      isInventoryAlertPushMutedNow utcOffset preference at' =
        isInventoryAlertPushMutedNow utcOffset preference start := by
    intro at' hle hlt
    rw [isInventoryAlertPushMutedNow_eq hquiet hfixed,
      isInventoryAlertPushMutedNow_eq hquiet hfixed,
      resolveLocalSecondOfDay_add hfixed start at' (at' / 1000 - start / 1000) (by omega)
        (by omega)]
    exact Cycle.inWindow_before (by omega) (by omega) hminutes hsecond (by omega) (by omega)
  have hat : ∀ at' : ℤ, (start / 1000 + delay) * 1000 ≤ at' →
      at' < (start / 1000 + delay + 1) * 1000 →
      isInventoryAlertPushMutedNow utcOffset preference at' =
        !isInventoryAlertPushMutedNow utcOffset preference start := by
    intro at' hle hlt
    rw [isInventoryAlertPushMutedNow_eq hquiet hfixed,
      isInventoryAlertPushMutedNow_eq hquiet hfixed,
      resolveLocalSecondOfDay_add hfixed start at' delay hle hlt]
    exact Cycle.inWindow_next (by omega) (by omega) hminutes hsecond
  refine ⟨(start / 1000 + delay) * 1000, start + delay * 1000,
    resolveNextQuietHoursBoundaryAt_eq hpush hquiet start, ?_, by omega, by omega, by omega,
    hbefore, fun at' hle hlt => hat at' hle (by omega)⟩
  exact Cycle.isLeast_change (by omega) hbefore (hat _ le_rfl (by omega))

end Boundary

/-- Quiet from ten in the evening to six in the morning. -/
def nightQuiet : MerchantInventoryAlertPreference where
  userId := 10
  pushEnabled := true
  quietHoursEnabled := true
  quietHoursStartLocalTime := some ⟨"22:00", by decide⟩
  quietHoursEndLocalTime := some ⟨"06:00", by decide⟩
  quietHoursTimezone := some "Asia/Bangkok"

/-- Every zone is seven hours ahead. -/
def sevenHours (_zone : String) (_at' : Date) : ℤ := 420 * 60000

theorem next_boundary_is_toggle_night : ∃ b t : ℤ,
    resolveNextQuietHoursBoundaryAt sevenHours nightQuiet 1714557600123 = some t ∧
      IsLeast {b : ℤ | 1714557600123 < b ∧ isInventoryAlertPushMutedNow sevenHours nightQuiet b ≠
        isInventoryAlertPushMutedNow sevenHours nightQuiet (b - 1)} b ∧
      b ≤ t ∧ t < b + 1000 ∧ t - b = 1714557600123 % 1000 ∧
      (∀ at' : ℤ, 1714557600123 ≤ at' → at' < b →
        isInventoryAlertPushMutedNow sevenHours nightQuiet at' =
          isInventoryAlertPushMutedNow sevenHours nightQuiet 1714557600123) ∧
      (∀ at' : ℤ, b ≤ at' → at' ≤ t → isInventoryAlertPushMutedNow sevenHours nightQuiet at' =
        !isInventoryAlertPushMutedNow sevenHours nightQuiet 1714557600123) :=
  next_boundary_is_toggle rfl rfl (by decide) (fun _ => rfl) 1714557600123

end WerTe
