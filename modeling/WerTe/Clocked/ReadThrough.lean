import Mathlib.Data.List.Basic
import WerTe.Clocked.Machine

/-!
# A cache beside a database

Calls read a database and keep what they have read in a cache, for a while. Each operation on
either is atomic, nothing holds them together, and whatever is asked of the cache may fail, which
is as if it had not been asked.

Calls that put nothing into the cache but what they have read (`FillsWhatWasRead`) make it
trustworthy so far: what is in the cache was put there by a call that had read it before, and has
been there since (`Run.standing`). Nothing is assumed of what is written to the database, or of
when entries are taken out of the cache. Where they are, what is found later has been put there
later (`Standing.filled_since`).
-/

namespace Clocked

/-! ## Up to an operation -/

section Before

variable {ι : Type} [DecidableEq ι] {F : Type → Type} {σ : Type} [Effects F σ] {ε α : Type}

/-- The state that an operation is carried out in has been reached by the operations before it. -/
theorem Run.before {m₀ m : Machine ι F σ ε α} {log : List (Event ι F σ)} (hrun : Run m₀ log m) :
    ∀ {earlier later : List (Event ι F σ)} {e : Event ι F σ}, log = earlier ++ e :: later →
      ∃ m₁, Run m₀ earlier m₁ ∧ m₁.state = e.before := by
  induction hrun with
  | start => exact fun h => by cases (List.append_eq_nil_iff.mp h.symm).2
  | @step log m i time β o k b s' hrun _ _ _ ih =>
    intro earlier later e h
    rcases List.eq_nil_or_concat later with rfl | ⟨later, last, rfl⟩
    · obtain ⟨rfl, he⟩ := List.append_inj' h rfl
      cases he
      exact ⟨m, hrun, rfl⟩
    · rw [List.concat_eq_append, ← List.cons_append, ← List.append_assoc] at h
      exact ih (List.append_inj' h rfl).1

end Before

/-- Statements on a database, which are atomic. -/
class Statements (Q : Type) (A : outParam (Q → Type)) (D : outParam Type) where
  exec : (q : Q) → D → A q × D

/-- The operations of a call. -/
inductive CacheOp (K : Type) (V : K → Type) (Q : Type) (A : Q → Type) : Type → Type
  /-- which of two operations that were started together is the first -/
  | firstOfTwo : CacheOp K V Q A Bool
  | get (k : K) : CacheOp K V Q A (Option (V k))
  | set (k : K) (v : V k) (ttlSeconds : ℤ) : CacheOp K V Q A Unit
  | del (ks : List K) : CacheOp K V Q A Unit
  | query (q : Q) : CacheOp K V Q A (A q)

/-- What is cached, and when it is forgotten. -/
structure Kept (V : Type) where
  value : V
  goneAt : ℤ

structure CacheWorld (D K : Type) (V : K → Type) where
  data : D
  cache : (k : K) → Option (Kept (V k))

variable {D K : Type} {V : K → Type} {Q : Type} {A : Q → Type}

namespace CacheWorld

/-- What the cache has under a key, while it has not forgotten it. -/
def cached (world : CacheWorld D K V) (time : ℤ) (k : K) : Option (V k) :=
  ((world.cache k).filter fun entry => time < entry.goneAt).map (·.value)

def put [DecidableEq K] (world : CacheWorld D K V) (k : K) (entry : Kept (V k)) :
    CacheWorld D K V := { world with cache := Function.update world.cache k (some entry) }

def forget [DecidableEq K] (world : CacheWorld D K V) (ks : List K) : CacheWorld D K V :=
  { world with cache := fun k => if k ∈ ks then none else world.cache k }

theorem cached_eq_some {world : CacheWorld D K V} {time : ℤ} {k : K} {v : V k} :
    world.cached time k = some v ↔
      ∃ entry, world.cache k = some entry ∧ time < entry.goneAt ∧ entry.value = v := by
  simp only [cached, Option.map_eq_some_iff, Option.filter_eq_some_iff, decide_eq_true_eq,
    and_assoc]

end CacheWorld

/-- The second outcome of an operation on the cache is that it fails. -/
instance [DecidableEq K] [Statements Q A D] : Effects (CacheOp K V Q A) (CacheWorld D K V) where
  outcomes
  | .firstOfTwo, _, world => [(true, world), (false, world)]
  | .get k, time, world => [(world.cached time k, world), (none, world)]
  | .set k v ttlSeconds, time, world =>
    [((), world.put k ⟨v, time + ttlSeconds * 1000⟩), ((), world)]
  | .del ks, _, world => [((), world.forget ks), ((), world)]
  | .query q, _, world =>
    [((Statements.exec q world.data).1, { world with data := (Statements.exec q world.data).2 })]

namespace CacheOp

variable {β : Type}

/-- What is put into the cache, and for how long. -/
def sets : CacheOp K V Q A β → Option ((k : K) × V k × ℤ)
  | .set k v ttlSeconds => some ⟨k, v, ttlSeconds⟩
  | _ => none

/-- The keys that are taken out of the cache. -/
def dels : CacheOp K V Q A β → List K
  | .del ks => ks
  | _ => []

/-- The key that is looked for in the cache. -/
def gets : CacheOp K V Q A β → Option K
  | .get k => some k
  | _ => none

/-- The statement that is carried out. -/
def asks : CacheOp K V Q A β → Option Q
  | .query q => some q
  | _ => none

end CacheOp

/-! ## Where an entry comes from -/

section Standing

variable {ι : Type} {right : (k : K) → V k → D → Prop}

/-- An operation of a call. -/
abbrev CacheEvent (ι D K : Type) (V : K → Type) (Q : Type) (A : Q → Type) : Type 1 :=
  Event ι (CacheOp K V Q A) (CacheWorld D K V)

/-- A statement has been carried out while the value was right. -/
def WasRead (right : (k : K) → V k → D → Prop) (k : K) (v : V k) (e : CacheEvent ι D K V Q A) :
    Prop := e.op.asks.isSome = true ∧ right k v e.before.data

/-- What is put into the cache has been read before by the same call, and is forgotten after `T`
seconds. -/
def FillsWhatWasRead (right : (k : K) → V k → D → Prop) (T : ℤ)
    (hist : List (CacheEvent ι D K V Q A)) (e : CacheEvent ι D K V Q A) : Prop :=
  ∀ k v ttlSeconds, e.op.sets = some ⟨k, v, ttlSeconds⟩ →
    ttlSeconds ≤ T ∧ ∃ r ∈ hist, WasRead right k v r

/-- The entry has been put into the cache by a call that had read its value, and has been there
since. -/
structure KeptBy (right : (k : K) → V k → D → Prop) (T : ℤ) (k : K) (entry : Kept (V k))
    (before : List (CacheEvent ι D K V Q A)) (fill : CacheEvent ι D K V Q A)
    (since : List (CacheEvent ι D K V Q A)) : Prop where
  sets : ∃ ttlSeconds, fill.op.sets = some ⟨k, entry.value, ttlSeconds⟩
  goneAt : entry.goneAt ≤ fill.time + T * 1000
  read : ∃ r ∈ before, r.call = fill.call ∧ WasRead right k entry.value r
  stood : ∀ e ∈ fill :: since, e.after.cache k = some entry

/-- The entry was there at the start, and has been there since, or has been put there. -/
def Standing (right : (k : K) → V k → D → Prop) (T : ℤ) (world₀ : CacheWorld D K V)
    (log : List (CacheEvent ι D K V Q A)) (k : K) (entry : Kept (V k)) : Prop :=
  (world₀.cache k = some entry ∧ ∀ e ∈ log, e.after.cache k = some entry) ∨
    ∃ before fill since, log = before ++ fill :: since ∧ KeptBy right T k entry before fill since

variable {T : ℤ} {world₀ : CacheWorld D K V} {log : List (CacheEvent ι D K V Q A)}
  {e : CacheEvent ι D K V Q A} {k : K} {entry : Kept (V k)}

/-- An entry that an operation leaves there. -/
theorem Standing.snoc (h : Standing right T world₀ log k entry)
    (hafter : e.after.cache k = some entry) : Standing right T world₀ (log ++ [e]) k entry := by
  obtain ⟨hstart, hstood⟩ | ⟨before, fill, since, rfl, hfilled⟩ := h
  · refine .inl ⟨hstart, fun e' he' => ?_⟩
    rcases List.mem_append.mp he' with he' | he'
    · exact hstood e' he'
    · rwa [List.mem_singleton.mp he']
  · refine .inr ⟨before, fill, since ++ [e], by simp,
      { hfilled with stood := fun e' he' => ?_ }⟩
    rw [← List.cons_append] at he'
    rcases List.mem_append.mp he' with he' | he'
    · exact hfilled.stood e' he'
    · rwa [List.mem_singleton.mp he']

/-- What is in the cache was there before, or is put there by the operation. -/
theorem CacheOp.outcomes_cache [DecidableEq K] [Statements Q A D] {β : Type} {o : CacheOp K V Q A β}
    {time : ℤ} {world world' : CacheWorld D K V} {b : β}
    (h : (b, world') ∈ Effects.outcomes o time world) (hentry : world'.cache k = some entry) :
    world.cache k = some entry ∨
      ∃ ttlSeconds, o.sets = some ⟨k, entry.value, ttlSeconds⟩ ∧
        entry.goneAt = time + ttlSeconds * 1000 := by
  cases o with
  | firstOfTwo =>
    rcases List.mem_pair.mp h with h | h <;> cases h <;> exact .inl hentry
  | get k' =>
    rcases List.mem_pair.mp h with h | h <;> cases h <;> exact .inl hentry
  | set k' v ttlSeconds =>
    rcases List.mem_pair.mp h with h | h <;> cases h
    · have hupdate : Function.update world.cache k' (some ⟨v, time + ttlSeconds * 1000⟩) k =
          some entry := hentry
      by_cases hk : k = k'
      · subst hk
        rw [Function.update_self, Option.some.injEq] at hupdate
        subst hupdate
        exact .inr ⟨ttlSeconds, rfl, rfl⟩
      · rw [Function.update_of_ne hk] at hupdate
        exact .inl hupdate
    · exact .inl hentry
  | del ks =>
    rcases List.mem_pair.mp h with h | h <;> cases h
    · have hforget : (if k ∈ ks then none else world.cache k) = some entry := hentry
      split at hforget
      · cases hforget
      · exact .inl hforget
    · exact .inl hentry
  | query q =>
    cases List.mem_singleton.mp h
    exact .inl hentry

/-- What is found under a key is there. -/
theorem CacheOp.outcomes_get [DecidableEq K] [Statements Q A D] {time : ℤ}
    {world world' : CacheWorld D K V} {v : V k}
    (h : (some v, world') ∈ Effects.outcomes (.get k : CacheOp K V Q A _) time world) :
    world.cached time k = some v := by
  rcases List.mem_pair.mp h with h | h
  · exact (congrArg Prod.fst h).symm
  · cases h

/-- What is there after it was taken out has been put there since. -/
theorem Standing.filled_since {earlier later : List (CacheEvent ι D K V Q A)}
    (h : Standing right T world₀ (earlier ++ e :: later) k entry) (hnone : e.after.cache k = none) :
    ∃ before fill since, later = before ++ fill :: since ∧
      KeptBy right T k entry (earlier ++ e :: before) fill since := by
  have hgone : ¬ e.after.cache k = some entry := by rw [hnone]; exact nofun
  obtain ⟨-, hstood⟩ | ⟨before, fill, since, heq, hfilled⟩ := h
  · exact absurd (hstood e (by simp)) hgone
  · rcases List.append_eq_append_iff.mp heq with ⟨between, rfl, hlater⟩ | ⟨between, rfl, hsince⟩
    · cases between with
      | nil =>
        obtain ⟨rfl, -⟩ := List.cons.inj hlater
        exact absurd (hfilled.stood _ List.mem_cons_self) hgone
      | cons first between =>
        obtain ⟨rfl, rfl⟩ := List.cons.inj hlater
        exact ⟨between, fill, since, rfl, hfilled⟩
    · refine absurd (hfilled.stood e ?_) hgone
      rw [hsince]
      exact List.mem_append_right _ List.mem_cons_self

/-- The value is found in the cache. -/
def Hits (k : K) (v : V k) (e : CacheEvent ι D K V Q A) : Prop :=
  e.op.gets = some k ∧ e.before.cached e.time k = some v

/-! ## Calls that put nothing into the cache -/

/-- Whatever the call has done, it puts nothing into the cache. -/
def Quiet [DecidableEq K] [Statements Q A D] {ε α : Type} (right : (k : K) → V k → D → Prop) (T : ℤ)
    (i : ι) (p : Call (CacheOp K V Q A) ε α) : Prop :=
  ∀ hist, p.Obeys (FillsWhatWasRead right T) (fun _ _ => True) i hist

namespace Quiet

variable [DecidableEq K] [Statements Q A D] {ε α β : Type} {i : ι}

theorem bind {p : Call (CacheOp K V Q A) ε α} {f : α → Call (CacheOp K V Q A) ε β}
    (hp : Quiet right T i p) (hf : ∀ a, Quiet right T i (f a)) : Quiet right T i (p.bind f) :=
  fun hist => .bind ((hp hist).mono fun hist a _ => hf a hist)

theorem perform {o : CacheOp K V Q A α} (ho : o.sets = none) :
    Quiet right T i (Call.perform o : Call (CacheOp K V Q A) ε α) := by
  refine fun hist time s b s' _ => ⟨fun k v ttlSeconds hsets => ?_, trivial⟩
  rw [ho] at hsets
  cases hsets

theorem ret (a : α) : Quiet right T i (.ret a : Call (CacheOp K V Q A) ε α) := fun _ => trivial

theorem throw (e : ε) : Quiet right T i (.throw e : Call (CacheOp K V Q A) ε α) := fun _ => trivial

theorem require (p : Prop) [Decidable p] (e : ε) :
    Quiet right T i (.require p e : Call (CacheOp K V Q A) ε Unit) := by
  unfold Call.require
  split
  · exact .ret ()
  · exact .throw e

theorem orFail (o : Option α) (e : ε) :
    Quiet right T i (.orFail o e : Call (CacheOp K V Q A) ε α) := by
  cases o with
  | some a => exact .ret a
  | none => exact .throw e

theorem ofExcept (r : Except ε α) :
    Quiet right T i (.ofExcept r : Call (CacheOp K V Q A) ε α) := by
  cases r with
  | ok a => exact .ret a
  | error e => exact .throw e

/-- Before what follows, after an operation. -/
theorem bind_mem {p : Call (CacheOp K V Q A) ε α} {f : α → Call (CacheOp K V Q A) ε β}
    (hp : Quiet right T i p) {e : CacheEvent ι D K V Q A}
    {Post : List (CacheEvent ι D K V Q A) → β → Prop} {hist : List (CacheEvent ι D K V Q A)}
    (he : e ∈ hist)
    (hf : ∀ a hist, e ∈ hist → (f a).Obeys (FillsWhatWasRead right T) Post i hist) :
    (p.bind f).Obeys (FillsWhatWasRead right T) Post i hist :=
  .bind (((hp hist).mem he).mono fun hist a h => hf a hist h.2)

end Quiet

theorem fillsWhatWasRead_of_none {hist : List (CacheEvent ι D K V Q A)} (h : e.op.sets = none) :
    FillsWhatWasRead right T hist e := by
  intro k v ttlSeconds hsets
  rw [h] at hsets
  cases hsets

/-! ## Runs -/

variable [DecidableEq ι] [DecidableEq K] [Statements Q A D] {ε α : Type}
  {m₀ m : Machine ι (CacheOp K V Q A) (CacheWorld D K V) ε α}
  {Post : ι → List (CacheEvent ι D K V Q A) → α → Prop}

/-- **What is in the cache** was put there by a call that had read it before. -/
theorem Run.standing
    (hcalls : ∀ i, (m₀.calls i).Obeys (FillsWhatWasRead right T) (Post i) i [])
    (hrun : Run m₀ log m) (hentry : m.state.cache k = some entry) :
    Standing right T m₀.state log k entry := by
  have hsound := hrun.sound (J := fun log world => ∀ k entry, world.cache k = some entry →
      Standing right T m₀.state log k entry) hcalls (fun k entry h => .inl ⟨h, by simp⟩) ?keep
  · exact hsound.1 k entry hentry
  case keep =>
    intro log e hlog _ houtcome hfills k entry hafter
    rcases CacheOp.outcomes_cache houtcome hafter with hbefore | ⟨ttlSeconds, hsets, hgone⟩
    · exact (hlog k entry hbefore).snoc hafter
    · obtain ⟨httl, r, hr, hread⟩ := hfills k entry.value ttlSeconds hsets
      obtain ⟨hr, hcall⟩ := mem_eventsOf.mp hr
      refine .inr ⟨log, e, [], rfl, ⟨ttlSeconds, hsets⟩, ?_, ⟨r, hr, hcall, hread⟩, ?_⟩
      · rw [hgone]
        omega
      · exact fun e' he' => by rwa [List.mem_singleton.mp he']

/-- So was what is found there. -/
theorem Run.found {v : V k} {earlier later : List (CacheEvent ι D K V Q A)}
    (hcalls : ∀ i, (m₀.calls i).Obeys (FillsWhatWasRead right T) (Post i) i [])
    (hrun : Run m₀ (earlier ++ e :: later) m) (hfinds : Hits k v e) :
    ∃ entry, entry.value = v ∧ e.time < entry.goneAt ∧
      Standing right T m₀.state earlier k entry := by
  obtain ⟨m₁, hearlier, hstate⟩ := hrun.before rfl
  obtain ⟨entry, hentry, htime, hvalue⟩ := CacheWorld.cached_eq_some.mp hfinds.2
  rw [← hstate] at hentry
  exact ⟨entry, hvalue, htime, hearlier.standing hcalls hentry⟩

end Standing

end Clocked
