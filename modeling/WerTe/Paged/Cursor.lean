import Mathlib.Data.List.Sort
import Mathlib.Order.Basic

/-!
# Pages of an ordered list

Rows come by a key, the greatest first. A cursor is the key of the last row that was given out, and
what comes `after` it is what remains to be given out.

* `atOrAfter_drop_one`: a query that starts at the cursor's row and skips one gives what comes after
  the cursor, as long as the cursor's row is among the rows; otherwise it loses a row
* `after_last`: what remains after a page
* `Scan`: reading a list in blocks until enough of it has passed a check
-/

namespace Paged

variable {α κ : Type*} [LinearOrder κ] (key : α → κ)

/-- The rows come by their keys, the greatest first, and no two have the same. -/
def Descending (rows : List α) : Prop := rows.Pairwise fun a b => key b < key a

/-- The rows that come after a place in the order; all of them when there is none. -/
def after (rows : List α) : Option κ → List α
  | none => rows
  | some k => rows.filter fun a => key a < k

/-- The rows from a place in the order on. -/
def atOrAfter (rows : List α) (k : κ) : List α := rows.filter fun a => key a ≤ k

variable {key} {rows rows' : List α}

theorem Descending.filter (h : Descending key rows) (p : α → Bool) :
    Descending key (rows.filter p) := List.Pairwise.filter p h

theorem Descending.after (h : Descending key rows) (cursor : Option κ) :
    Descending key (after key rows cursor) := by
  cases cursor with
  | none => exact h
  | some k => exact h.filter _

/-- Sorting by the key, when no two rows have the same. -/
theorem descending_insertionSort (h : (rows.map key).Nodup) :
    Descending key (rows.insertionSort fun a b => key b ≤ key a) := by
  have htotal : Std.Total fun a b : α => key b ≤ key a := ⟨fun a b => le_total _ _⟩
  have htrans : IsTrans α fun a b => key b ≤ key a := ⟨fun _ _ _ hab hbc => le_trans hbc hab⟩
  have hsorted := List.pairwise_insertionSort (fun a b : α => key b ≤ key a) rows
  have hnodup : ((rows.insertionSort fun a b => key b ≤ key a).map key).Nodup :=
    ((List.perm_insertionSort _ rows).map key).nodup_iff.mpr h
  rw [List.Nodup, List.pairwise_map] at hnodup
  exact (hsorted.and hnodup).imp fun h => lt_of_le_of_ne h.1 h.2.symm

/-- Rows in order are determined by which there are. -/
theorem Descending.ext (h : Descending key rows) (h' : Descending key rows')
    (hmem : ∀ a, a ∈ rows ↔ a ∈ rows') : rows = rows' := by
  have hirrefl : Std.Irrefl fun a b : α => key b < key a := ⟨fun a => lt_irrefl (key a)⟩
  exact List.Pairwise.eq_of_mem_iff h h' hmem

/-- What comes after one of the rows. -/
theorem Descending.after_mid {front back : List α} {x : α}
    (h : Descending key (front ++ x :: back)) :
    Paged.after key (front ++ x :: back) (some (key x)) = back := by
  obtain ⟨-, hback, hfront⟩ := List.pairwise_append.mp h
  have hlt : ∀ a ∈ back, key a < key x := (List.pairwise_cons.mp hback).1
  have hgt : ∀ a ∈ front, ¬ key a < key x := fun a ha =>
    (hfront a ha x List.mem_cons_self).not_gt
  simp only [Paged.after, List.filter_append, List.filter_cons, lt_self_iff_false, decide_false,
    Bool.false_eq_true, if_false]
  rw [List.filter_eq_nil_iff.mpr (by simpa using hgt), List.filter_eq_self.mpr (by simpa using hlt),
    List.nil_append]

/-- The rows after a row that comes after a cursor. -/
theorem after_after {cursor : Option κ} {x : α} (hx : x ∈ after key rows cursor) :
    after key (after key rows cursor) (some (key x)) = after key rows (some (key x)) := by
  cases cursor with
  | none => rfl
  | some k =>
    have hlt : key x < k := by simpa [after] using (List.mem_filter.mp hx).2
    simp only [after, List.filter_filter, ← Bool.decide_and]
    refine List.filter_congr fun a _ => decide_eq_decide.mpr ?_
    exact and_iff_left_of_imp fun h => lt_trans h hlt

/-- What remains after a page whose last row becomes the cursor. -/
theorem after_last (h : Descending key rows) {cursor : Option κ} {front back : List α} {x : α}
    (hrest : after key rows cursor = front ++ x :: back) :
    after key rows (some (key x)) = back := by
  have hx : x ∈ after key rows cursor := by simp [hrest]
  have hdescending := h.after cursor
  rw [hrest] at hdescending
  rw [← after_after hx, hrest]
  exact hdescending.after_mid

/-- From the cursor's row on, without the first. -/
theorem atOrAfter_drop_one (h : Descending key rows) {x : α} (hx : x ∈ rows) :
    (atOrAfter key rows (key x)).drop 1 = after key rows (some (key x)) := by
  obtain ⟨front, back, rfl⟩ := List.append_of_mem hx
  rw [h.after_mid]
  obtain ⟨-, hback, hfront⟩ := List.pairwise_append.mp h
  have hle : ∀ a ∈ back, key a ≤ key x := fun a ha => ((List.pairwise_cons.mp hback).1 a ha).le
  have hgt : ∀ a ∈ front, ¬ key a ≤ key x := fun a ha =>
    not_le.mpr (hfront a ha x List.mem_cons_self)
  simp only [atOrAfter, List.filter_append, List.filter_cons, le_refl, decide_true, if_true]
  rw [List.filter_eq_nil_iff.mpr (by simpa using hgt), List.filter_eq_self.mpr (by simpa using hle)]
  rfl

/-- What comes late enough in the order is the end of the list. -/
theorem Descending.filter_suffix (h : Descending key rows) {p : α → Bool}
    (hp : ∀ a b, key b < key a → p a = true → p b = true) : rows.filter p <:+ rows := by
  induction rows with
  | nil => exact List.suffix_rfl
  | cons a rows ih =>
    obtain ⟨hrest, htail⟩ := List.pairwise_cons.mp h
    by_cases ha : p a = true
    · have hall : ∀ b ∈ a :: rows, p b = true :=
        List.forall_mem_cons.mpr ⟨ha, fun b hb => hp a b (hrest b hb) ha⟩
      have hself : (a :: rows).filter p = a :: rows := List.filter_eq_self.mpr hall
      exact ⟨[], hself⟩
    · rw [List.filter_cons_of_neg ha]
      exact (ih htail).trans (List.suffix_cons a rows)

theorem Descending.after_suffix (h : Descending key rows) (cursor : Option κ) :
    Paged.after key rows cursor <:+ rows := by
  cases cursor with
  | none => exact List.suffix_rfl
  | some k => exact h.filter_suffix fun a b hlt ha => by simpa using hlt.trans (by simpa using ha)

/-- What comes from a place on is the end of the list. -/
theorem Descending.atOrAfter_suffix (h : Descending key rows) (k : κ) :
    atOrAfter key rows k <:+ rows :=
  h.filter_suffix fun a b hlt ha => by simpa using hlt.le.trans (by simpa using ha)

/-- If the cursor's row is not among the rows, the first row after it is skipped. -/
theorem atOrAfter_drop_one_of_notMem {k : κ} (hk : ∀ a ∈ rows, key a ≠ k) :
    (atOrAfter key rows k).drop 1 = (after key rows (some k)).drop 1 := by
  have hsame : atOrAfter key rows k = after key rows (some k) :=
    List.filter_congr fun a ha =>
      decide_eq_decide.mpr ⟨fun h => lt_of_le_of_ne h (hk a ha), le_of_lt⟩
  rw [hsame]

/-- Filtering and cutting off at a place. -/
theorem filter_after (p : α → Bool) (rows : List α) (cursor : Option κ) :
    (after key rows cursor).filter p = after key (rows.filter p) cursor := by
  cases cursor with
  | none => rfl
  | some k => exact List.filter_comm ..

/-- What comes after the last row of a page, in the end of the list that the page was taken from. -/
theorem Descending.after_page (h : Descending key rows) {rest init : List α} {limit : ℕ} {x : α}
    (hsuffix : rest <:+ rows) (hpage : rest.take limit = init ++ [x]) :
    Paged.after key rows (some (key x)) = rest.drop limit := by
  obtain ⟨front, rfl⟩ := hsuffix
  have hsplit : front ++ rest = (front ++ init) ++ x :: rest.drop limit := by
    conv_lhs => rw [← List.take_append_drop limit rest, hpage]
    simp
  rw [hsplit] at h ⊢
  exact h.after_mid

/-- Skipping the first row loses a row that passes just when the first row does. -/
theorem filter_of_head {p : α → Bool} {a : α} (ha : rows.head? = some a) (hp : p a = true) :
    rows.filter p = a :: (rows.drop 1).filter p := by
  obtain ⟨tail, rfl⟩ := List.head?_eq_some_iff.mp ha
  rw [List.filter_cons_of_pos hp, List.drop_one, List.tail_cons]

theorem filter_drop_one {p : α → Bool} (h : ¬ ∃ a, rows.head? = some a ∧ p a = true) :
    (rows.drop 1).filter p = rows.filter p := by
  cases rows with
  | nil => rfl
  | cons a tail =>
    rw [List.filter_cons_of_neg fun hp => h ⟨a, rfl, hp⟩, List.drop_one, List.tail_cons]

/-- A row is among the first `n` just when fewer than `n` come before it. -/
theorem Descending.mem_take_iff (h : Descending key rows) {x : α} (hx : x ∈ rows) {n : ℕ} :
    x ∈ rows.take n ↔ (rows.filter fun a => key x < key a).length < n := by
  induction rows generalizing n with
  | nil => cases hx
  | cons a rows ih =>
    obtain ⟨hrest, htail⟩ := List.pairwise_cons.mp h
    obtain rfl | hx := List.mem_cons.mp hx
    · have hnone : (x :: rows).filter (fun a => key x < key a) = [] := by
        refine List.filter_eq_nil_iff.mpr (List.forall_mem_cons.mpr ⟨by simp, fun b hb => ?_⟩)
        simpa using (hrest b hb).le
      rw [hnone]
      cases n <;> simp
    · have hlt := hrest x hx
      rw [List.filter_cons_of_pos (by simpa using hlt), List.length_cons]
      cases n with
      | zero => simp
      | succ n =>
        have hne : x ≠ a := fun heq => lt_irrefl _ (heq ▸ hlt)
        rw [List.take_succ_cons, List.mem_cons, or_iff_right hne, ih htail hx]
        omega

/-! ## Reading in blocks -/

variable {ε : Type*}

/-- The elements that pass a check which may fail. -/
def select (check : α → Except ε Bool) : List α → Except ε (List α)
  | [] => .ok []
  | a :: as =>
    match check a with
    | .error e => .error e
    | .ok keep => (select check as).map fun selected => if keep then a :: selected else selected

/-- Read `rest` in blocks of `size`, adding to `matched` what passes the check, until there are
`target` of them or nothing is left; `none` if that takes more than `n` blocks. -/
def scan (check : α → Except ε Bool) (size target : ℕ) :
    ℕ → List α → List α → Except ε (Option (List α))
  | 0, _, _ => .ok none
  | n + 1, rest, matched =>
    if target ≤ matched.length then .ok (some matched)
    else
      match select check (rest.take size) with
      | .error e => .error e
      | .ok selected =>
        if size < rest.length then scan check size target n (rest.drop size) (matched ++ selected)
        else .ok (some (matched ++ selected))

/-- Checking what the elements are shown as. -/
theorem select_map {β : Type*} (f : α → β) (check : β → Except ε Bool) (l : List α) :
    select check (l.map f) = (select (fun a => check (f a)) l).map (List.map f) := by
  induction l with
  | nil => rfl
  | cons a as ih =>
    simp only [List.map_cons, select]
    cases check (f a) with
    | error e => rfl
    | ok keep =>
      dsimp only
      rw [ih]
      cases select (fun a => check (f a)) as with
      | error e => rfl
      | ok selected => cases keep <;> rfl

section Scan

variable {check : α → Except ε Bool} {passes : α → Bool} {size target n : ℕ}
  {rest matched found : List α}

theorem select_eq_ok_iff {selected : List α} (hpass : ∀ a b, check a = .ok b → b = passes a) :
    select check rest = .ok selected ↔
      (∀ a ∈ rest, check a = .ok (passes a)) ∧ selected = rest.filter passes := by
  induction rest generalizing selected with
  | nil => simp [select, eq_comm]
  | cons a as ih =>
    cases hcheck : check a with
    | error e => simp [select, hcheck]
    | ok keep =>
      obtain rfl := hpass a keep hcheck
      cases hrest : select check as with
      | error e =>
        have hnot : ¬ ∀ a ∈ as, check a = .ok (passes a) := fun hall => by
          have hok : select check as = .ok (as.filter passes) := ih.mpr ⟨hall, rfl⟩
          rw [hrest] at hok
          cases hok
        simp only [select, hcheck, hrest, Except.map, List.forall_mem_cons, true_and]
        exact iff_of_false (by simp) fun h => hnot h.1
      | ok tail =>
        obtain ⟨hall, rfl⟩ := ih.mp hrest
        simp only [select, hcheck, hrest, Except.map, Except.ok.injEq, List.forall_mem_cons,
          true_and, List.filter_cons]
        exact ⟨fun h => ⟨fun _ _ => hall _ ‹_›, h.symm⟩, fun h => h.2.symm⟩

/-- The first `blocks` blocks pass the check or fail it, without an error, and with what was found
in them the scan is done. -/
structure Suffices (check : α → Except ε Bool) (passes : α → Bool) (size target : ℕ)
    (rest matched : List α) (blocks : ℕ) : Prop where
  total : ∀ a ∈ rest.take (blocks * size), check a = .ok (passes a)
  enough : rest.length ≤ blocks * size ∨
    target ≤ (matched ++ (rest.take (blocks * size)).filter passes).length

theorem take_succ_mul (blocks size : ℕ) (l : List α) :
    l.take ((blocks + 1) * size) = l.take size ++ (l.drop size).take (blocks * size) := by
  rw [Nat.succ_mul, Nat.add_comm, List.take_add]

theorem suffices_succ {blocks : ℕ} : Suffices check passes size target rest matched (blocks + 1) ↔
    (∀ a ∈ rest.take size, check a = .ok (passes a)) ∧
      Suffices check passes size target (rest.drop size)
        (matched ++ (rest.take size).filter passes) blocks := by
  have hlength : rest.length ≤ (blocks + 1) * size ↔ (rest.drop size).length ≤ blocks * size := by
    rw [List.length_drop, Nat.succ_mul]
    omega
  constructor
  · rintro ⟨htotal, henough⟩
    rw [take_succ_mul] at htotal henough
    rw [List.forall_mem_append] at htotal
    rw [hlength, List.filter_append, ← List.append_assoc] at henough
    exact ⟨htotal.1, htotal.2, henough⟩
  · rintro ⟨hfirst, htotal, henough⟩
    refine ⟨?_, ?_⟩
    · rw [take_succ_mul, List.forall_mem_append]
      exact ⟨hfirst, htotal⟩
    · rw [take_succ_mul, hlength, List.filter_append, ← List.append_assoc]
      exact henough

/-- What the scan returns is what passes of some number of blocks. -/
theorem scan_ok (hpass : ∀ a b, check a = .ok b → b = passes a)
    (h : scan check size target n rest matched = .ok (some found)) :
    ∃ blocks, Suffices check passes size target rest matched blocks ∧
      found = matched ++ (rest.take (blocks * size)).filter passes := by
  induction n generalizing rest matched with
  | zero => cases h
  | succ n ih =>
    rw [scan] at h
    split at h
    next henough =>
      cases h
      exact ⟨0, ⟨by simp, .inr (by simpa using henough)⟩, by simp⟩
    next =>
      cases hselect : select check (rest.take size) with
      | error e =>
        rw [hselect] at h
        cases h
      | ok selected =>
        obtain ⟨hall, rfl⟩ := (select_eq_ok_iff hpass).mp hselect
        rw [hselect] at h
        dsimp only at h
        split at h
        next =>
          obtain ⟨blocks, hsuffices, rfl⟩ := ih h
          refine ⟨blocks + 1, suffices_succ.mpr ⟨hall, hsuffices⟩, ?_⟩
          rw [take_succ_mul, List.filter_append, List.append_assoc]
        next hlast =>
          cases h
          refine ⟨1, ⟨by simpa using hall, .inl (by omega)⟩, by simp⟩

/-- The scan returns when it has blocks enough and no check that it comes to fails. -/
theorem scan_returns (hpass : ∀ a b, check a = .ok b → b = passes a) (hsize : 0 < size)
    (hn : rest.length < n) {blocks : ℕ}
    (h : Suffices check passes size target rest matched blocks) :
    ∃ found, scan check size target n rest matched = .ok (some found) := by
  induction n generalizing rest matched blocks with
  | zero => omega
  | succ n ih =>
    rw [scan]
    split
    next => exact ⟨matched, rfl⟩
    next hmore =>
      -- the next block is among those that suffice
      obtain ⟨blocks, hnext⟩ : ∃ blocks,
          Suffices check passes size target rest matched (blocks + 1) := by
        cases blocks with
        | succ blocks => exact ⟨blocks, h⟩
        | zero =>
          have hempty : rest = [] := by
            rcases h.enough with hlength | henough
            · exact List.length_eq_zero_iff.mp (by omega)
            · simp at henough
              omega
          subst hempty
          exact ⟨0, ⟨by simp, .inl (by simp)⟩⟩
      obtain ⟨hfirst, hrest⟩ := suffices_succ.mp hnext
      rw [(select_eq_ok_iff hpass).mpr ⟨hfirst, rfl⟩]
      dsimp only
      split
      next hlong => exact ih (by rw [List.length_drop]; omega) hrest
      next => exact ⟨_, rfl⟩

/-- If no check fails, some number of blocks suffices. -/
theorem suffices_of_total (htotal : ∀ a ∈ rest, check a = .ok (passes a)) (hsize : 0 < size) :
    Suffices check passes size target rest matched rest.length where
  total a ha := htotal a (List.mem_of_mem_take ha)
  enough := .inl (Nat.le_mul_of_pos_right _ hsize)

/-- The scan does not give up before it has read all blocks. -/
theorem scan_ne_none (hsize : 0 < size) (hn : rest.length < n) :
    scan check size target n rest matched ≠ .ok none := by
  induction n generalizing rest matched with
  | zero => omega
  | succ n ih =>
    rw [scan]
    split
    next => simp
    next =>
      cases select check (rest.take size) with
      | error e => simp
      | ok selected =>
        dsimp only
        split
        next hlong => exact ih (by rw [List.length_drop]; omega)
        next => simp

/-- One more than a page holds is enough to tell what is on the page and whether it is the last. -/
theorem Suffices.page {limit blocks : ℕ}
    (h : Suffices check passes size (limit + 1) rest [] blocks) :
    ((rest.take (blocks * size)).filter passes).take limit = (rest.filter passes).take limit ∧
      (limit < ((rest.take (blocks * size)).filter passes).length ↔
        limit < (rest.filter passes).length) := by
  have hsplit : rest.filter passes = (rest.take (blocks * size)).filter passes ++
      (rest.drop (blocks * size)).filter passes := by
    rw [← List.filter_append, List.take_append_drop]
  rcases h.enough with hall | henough
  · rw [List.take_of_length_le hall]
    exact ⟨rfl, Iff.rfl⟩
  · rw [List.nil_append] at henough
    rw [hsplit, List.take_append_of_le_length (by omega), List.length_append]
    exact ⟨rfl, iff_of_true (by omega) (by omega)⟩

end Scan

/-! ## The cursor of a page -/

/-- Where the last element of a page stands, and what it leaves to be given out. -/
theorem filter_after_page {passes : α → Bool} {rest init : List α} {limit : ℕ} {x : α}
    (hpage : (rest.filter passes).take limit = init ++ [x]) :
    ∃ front back, rest = front ++ x :: back ∧
      back.filter passes = (rest.filter passes).drop limit := by
  have hsplit : rest.filter passes = init ++ x :: (rest.filter passes).drop limit := by
    conv_lhs => rw [← List.take_append_drop limit (rest.filter passes), hpage]
    simp
  obtain ⟨front, tail, rfl, -, htail⟩ := List.filter_eq_append_iff.mp hsplit
  obtain ⟨skipped, back, rfl, -, -, hback⟩ := List.filter_eq_cons_iff.mp htail
  exact ⟨front ++ skipped, back, by simp, hback⟩

end Paged
