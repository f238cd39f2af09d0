import Mathlib.Algebra.Order.Floor.Div
import Mathlib.Data.Finset.Card
import Mathlib.Data.List.Sort
import WerTe.ReadCommitted.Sequential

/-!
# A backlog that is served through a window

In every round the first items of a backlog are served, as many as fit a window. An item may stay
in the backlog after it has been served. It then keeps its place, is served again and keeps others
out of the window.

An item that has not been served yet has moved up, after a round, by what the window holds less
what stays of it (`Serves.ahead_le`). If never more than `stay` items of a window stay, then
`N ⌈/⌉ (limit - stay)` rounds serve each of `N` items at least once (`fresh_eq_empty`).
-/

namespace Windowed

open ReadCommitted

variable {E : Type*} [LinearOrder E]

/-- What waits, and what of it has not been served yet. -/
structure Backlog (E : Type*) where
  waiting : Finset E
  fresh : Finset E
  fresh_subset : fresh ⊆ waiting

/-- The first items of a backlog, as many as fit. -/
structure IsWindow (limit : ℕ) (waiting window : Finset E) : Prop where
  subset : window ⊆ waiting
  /-- an item is left out only if there is no room -/
  full : ∀ e ∈ waiting, e ∉ window → limit ≤ window.card
  /-- an item is left out only for earlier ones -/
  first : ∀ e ∈ waiting, e ∉ window → ∀ x ∈ window, x < e

/-- One round: what is in the window has been served after it, and at most `stay` of it waits
again. -/
structure Serves (limit stay : ℕ) (window : Finset E) (b b' : Backlog E) : Prop where
  isWindow : IsWindow limit b.waiting window
  /-- nothing new comes in -/
  waiting : b'.waiting ⊆ b.waiting
  served : ∀ e ∈ b'.fresh, e ∈ b.fresh ∧ e ∉ window
  stays : (b'.waiting ∩ window).card ≤ stay

/-- How many items wait before an item. -/
def Backlog.ahead (b : Backlog E) (e : E) : ℕ := (b.waiting.filter (· < e)).card

theorem Backlog.ahead_lt (b : Backlog E) {e : E} (he : e ∈ b.waiting) :
    b.ahead e < b.waiting.card := by
  refine Finset.card_lt_card (Finset.filter_ssubset.mpr ⟨e, he, lt_irrefl e⟩)

variable {limit stay : ℕ} {window : Finset E} {b b' : Backlog E} {e : E}

/-- A round takes what does not stay of its window from before the items that it leaves out. -/
theorem Serves.ahead_le (h : Serves limit stay window b b') (he : e ∈ b'.fresh) :
    b'.ahead e + limit ≤ b.ahead e + stay := by
  obtain ⟨hfresh, hout⟩ := h.served e he
  have hwaiting := b.fresh_subset hfresh
  have hbefore : window ⊆ b.waiting.filter (· < e) := fun x hx =>
    Finset.mem_filter.mpr ⟨h.isWindow.subset hx, h.isWindow.first e hwaiting hout x hx⟩
  -- what is still before the item was there outside the window, or has stayed
  have hcover : b'.waiting.filter (· < e) ⊆
      (b.waiting.filter (· < e) \ window) ∪ (b'.waiting ∩ window) := by
    intro x hx
    obtain ⟨hx', hlt⟩ := Finset.mem_filter.mp hx
    by_cases hw : x ∈ window
    · exact Finset.mem_union_right _ (Finset.mem_inter.mpr ⟨hx', hw⟩)
    · exact Finset.mem_union_left _
        (Finset.mem_sdiff.mpr ⟨Finset.mem_filter.mpr ⟨h.waiting hx', hlt⟩, hw⟩)
  have hcard := (Finset.card_le_card hcover).trans (Finset.card_union_le _ _)
  rw [Finset.card_sdiff_of_subset hbefore] at hcard
  have hroom := h.isWindow.full e hwaiting hout
  have hle := Finset.card_le_card hbefore
  have hstays := h.stays
  simp only [Backlog.ahead]
  omega

/-- The front of a list, once it has been sorted, is a window. -/
theorem isWindow_take {items : List E} (hnodup : items.Nodup) (limit : ℕ) :
    IsWindow limit items.toFinset
      ((items.insertionSort (· ≤ ·)).take limit).toFinset := by
  have hsorted := List.pairwise_insertionSort (· ≤ ·) items
  have hperm := List.perm_insertionSort (· ≤ ·) items
  have hsplit := List.take_append_drop limit (items.insertionSort (· ≤ ·))
  have hmem : ∀ e ∈ items, e ∉ (items.insertionSort (· ≤ ·)).take limit →
      e ∈ (items.insertionSort (· ≤ ·)).drop limit := by
    intro e he hout
    have hboth := hperm.mem_iff.mpr he
    rw [← hsplit, List.mem_append] at hboth
    exact hboth.resolve_left hout
  refine ⟨fun e he => ?_, fun e he hout => ?_, fun e he hout x hx => ?_⟩
  · exact List.mem_toFinset.mpr (hperm.mem_iff.mp (List.mem_of_mem_take (List.mem_toFinset.mp he)))
  · rw [List.mem_toFinset] at he hout
    have hroom : limit ≤ (items.insertionSort (· ≤ ·)).length := by
      by_contra hlt
      have hdrop := hmem e he hout
      rw [List.drop_eq_nil_of_le (not_le.mp hlt).le] at hdrop
      cases hdrop
    have htake := (hperm.nodup_iff.mpr hnodup).sublist (List.take_sublist limit _)
    rw [List.toFinset_card_of_nodup htake, List.length_take, min_eq_left hroom]
  · rw [List.mem_toFinset] at he hout hx
    rw [← hsplit, List.pairwise_append] at hsorted
    have hle := hsorted.2.2 x hx e (hmem e he hout)
    exact lt_of_le_of_ne hle fun h => hout (h ▸ hx)

section Runs

variable {κ σ : Type*} {run : κ → σ → σ} {view : σ → Backlog E}

/-- The round leaves at most `stay` items of its window behind. -/
def ServesRound (run : κ → σ → σ) (view : σ → Backlog E) (limit stay : ℕ) (round : κ) (s : σ) :
    Prop := ∃ window, Serves limit stay window (view s) (view (run round s))

/-- An item that no round has served has moved up in each. -/
theorem ahead_runAll (rounds : List κ) :
    ∀ {s : σ}, MeetAll run (ServesRound run view limit stay) rounds s →
      e ∈ (view (runAll run rounds s)).fresh → e ∈ (view s).fresh ∧
        (view (runAll run rounds s)).ahead e + rounds.length * limit ≤
          (view s).ahead e + rounds.length * stay := by
  induction rounds with
  | nil => exact fun _ he => ⟨he, by simp [runAll]⟩
  | cons round rounds ih =>
    rintro s ⟨⟨window, hfirst⟩, hrest⟩ he
    obtain ⟨hfresh, hahead⟩ := ih hrest he
    have hround := hfirst.ahead_le hfresh
    refine ⟨(hfirst.served e hfresh).1, ?_⟩
    rw [List.length_cons, Nat.succ_mul, Nat.succ_mul]
    change (view (runAll run rounds (run round s))).ahead e + _ ≤ _
    omega

/-- Enough rounds serve every item of a backlog. -/
theorem fresh_eq_empty {rounds : List κ} {s : σ} (hstay : stay < limit)
    (hrounds : MeetAll run (ServesRound run view limit stay) rounds s)
    (hlength : (view s).waiting.card ⌈/⌉ (limit - stay) ≤ rounds.length) :
    (view (runAll run rounds s)).fresh = ∅ := by
  refine Finset.eq_empty_of_forall_notMem fun e he => ?_
  obtain ⟨hfresh, hahead⟩ := ahead_runAll rounds hrounds he
  have hlt := (view s).ahead_lt ((view s).fresh_subset hfresh)
  have hpos : 0 < limit - stay := Nat.sub_pos_of_lt hstay
  have henough : (view s).waiting.card ≤ (limit - stay) * rounds.length :=
    (ceilDiv_le_iff_le_mul hpos).mp hlength
  rw [Nat.sub_mul] at henough
  have hle : stay * rounds.length ≤ limit * rounds.length := Nat.mul_le_mul_right _ hstay.le
  rw [Nat.mul_comm rounds.length limit, Nat.mul_comm rounds.length stay] at hahead
  omega

end Runs

end Windowed
