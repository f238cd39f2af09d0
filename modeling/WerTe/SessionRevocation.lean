import Mathlib.Data.Fin.VecNotation
import WerTe.SessionCache

/-!
# How long a revoked session lives on in the cache

A request may read a session, the session be revoked and taken out of the cache, and the request
put it there again. From then on requests go by the cache. What is put there is forgotten after
five minutes, and once the session is revoked nobody reads it any more as one that is not.

* `SessionOp.outcomes_spec`: what any operation does to a session's row and to what is cached
* `CacheLog`: what is cached was put there by a request that had read the session before
* `revoked_session_rejected`: five minutes after the last of them, no request is let through
-/

namespace WerTe

open ReadCommitted Clocked

/-! ## What operations do -/

namespace SessionOp

variable {β : Type}

/-- The session whose row is read. -/
def reads : SessionOp β → Option Id
  | .findSessionById sessionId => some sessionId
  | _ => none

/-- The session that is looked for in the cache. -/
def gets : SessionOp β → Option Id
  | .redisGet sessionId => some sessionId
  | _ => none

/-- The session that is put into the cache. -/
def sets : SessionOp β → Option Id
  | .redisSet sessionId _ _ => some sessionId
  | _ => none

/-- The session that is revoked. -/
def revokes : SessionOp β → Option Id
  | .revokeSession sessionId _ => some sessionId
  | _ => none

/-- An operation that revokes a session reads none. -/
theorem reads_eq_none {o : SessionOp β} {sessionId : Id} (h : o.revokes = some sessionId) :
    o.reads = none := by
  cases o with
  | revokeSession id revokedAt => rfl
  | _ => cases h

/-- For how long a session is put into the cache. -/
def ttl : SessionOp β → ℤ
  | .redisSet _ _ ttlSeconds => ttlSeconds
  | _ => 0

end SessionOp

/-- The session is there and has not been revoked. -/
def IsLive (sessionId : Id) (world : SessionWorld) : Prop :=
  ∃ session, world.db.get (.userSession, sessionId) = some session ∧ session.revokedAt = none

/-- The session is there and has been revoked. -/
def IsRevoked (sessionId : Id) (world : SessionWorld) : Prop :=
  ∃ session, world.db.get (.userSession, sessionId) = some session ∧ session.revokedAt ≠ none

theorem IsRevoked.not_live {sessionId : Id} {world : SessionWorld} (h : IsRevoked sessionId world) :
    ¬ IsLive sessionId world := by
  rintro ⟨session, hget, hlive⟩
  obtain ⟨session', hget', hrevoked⟩ := h
  obtain rfl := Option.some.inj (hget.symm.trans hget')
  exact hrevoked hlive

theorem IsRevoked.write {sessionId id : Id} {world : SessionWorld} {old new : UserSession}
    (h : IsRevoked sessionId world) (hget : world.db.get (.userSession, id) = some old)
    (hkeep : old.revokedAt ≠ none → new.revokedAt ≠ none) :
    IsRevoked sessionId (world.write id new) := by
  by_cases hid : sessionId = id
  · subst hid
    obtain ⟨session, hget', hrevoked⟩ := h
    obtain rfl := Option.some.inj (hget.symm.trans hget')
    exact ⟨new, Db.get_put_self world.db ⟨.userSession, sessionId, some new⟩, hkeep hrevoked⟩
  · obtain ⟨session, hget', hrevoked⟩ := h
    refine ⟨session, ?_, hrevoked⟩
    exact (Db.get_put_ne world.db fun hkey => hid (congrArg Prod.snd hkey)).trans hget'

/-- What is cached after something has been put into the cache or taken out of it. -/
theorem SessionWorld.redis_store {world : SessionWorld} {sessionId id : Id}
    {stored : Option CacheEntry} {entry : CacheEntry}
    (h : (world.store id stored).redis sessionId = some entry) :
    world.redis sessionId = some entry ∨ id = sessionId ∧ stored = some entry := by
  have hupdate : Function.update world.redis id stored sessionId = some entry := h
  by_cases hid : sessionId = id
  · subst hid
    rw [Function.update_self] at hupdate
    exact .inr ⟨rfl, hupdate⟩
  · rw [Function.update_of_ne hid] at hupdate
    exact .inl hupdate

/-- A session that is revoked stays so, and what is cached was cached before or is put there by the
operation. -/
theorem SessionOp.outcomes_spec {β : Type} {o : SessionOp β} {time : Date}
    {world world' : SessionWorld} {b : β} (h : (b, world') ∈ Effects.outcomes o time world)
    (sessionId : Id) :
    (IsRevoked sessionId world → IsRevoked sessionId world') ∧
      ∀ entry, world'.redis sessionId = some entry → world.redis sessionId = some entry ∨
        o.sets = some sessionId ∧ entry.goneAt = time + o.ttl * 1000 := by
  have hsame : (IsRevoked sessionId world → IsRevoked sessionId world) ∧
      ∀ entry, world.redis sessionId = some entry → world.redis sessionId = some entry ∨
        o.sets = some sessionId ∧ entry.goneAt = time + o.ttl * 1000 :=
    ⟨fun h => h, fun entry hentry => .inl hentry⟩
  cases o with
  | now =>
    cases List.mem_singleton.mp h
    exact hsame
  | firstOfTwo =>
    rcases List.mem_pair.mp h with h | h <;> cases h <;> exact hsame
  | redisGet id =>
    rcases List.mem_pair.mp h with h | h <;> cases h <;> exact hsame
  | redisSet id data ttlSeconds =>
    rcases List.mem_pair.mp h with h | h <;> cases h
    · refine ⟨fun h => h, fun entry hentry => (SessionWorld.redis_store hentry).imp_right ?_⟩
      rintro ⟨rfl, hstored⟩
      rw [← Option.some.inj hstored]
      exact ⟨rfl, rfl⟩
    · exact hsame
  | redisDel id =>
    rcases List.mem_pair.mp h with h | h <;> cases h
    · exact ⟨fun h => h, fun entry hentry => (SessionWorld.redis_store hentry).imp_right
        fun hstored => by cases hstored.2⟩
    · exact hsame
  | findSessionById id =>
    cases List.mem_singleton.mp h
    exact hsame
  | rotateSession id refreshTokenHash expiresAt lastUsedAt =>
    simp only [Effects.outcomes] at h
    cases hget : world.db.get (.userSession, id) with
    | none =>
      rw [hget] at h
      cases List.mem_singleton.mp h
      exact hsame
    | some session =>
      rw [hget] at h
      cases List.mem_singleton.mp h
      exact ⟨fun hrevoked => hrevoked.write hget fun h => h, fun entry hentry => .inl hentry⟩
  | revokeSession id revokedAt =>
    simp only [Effects.outcomes] at h
    cases hget : world.db.get (.userSession, id) with
    | none =>
      rw [hget] at h
      cases List.mem_singleton.mp h
      exact hsame
    | some session =>
      rw [hget] at h
      dsimp only at h
      split at h
      · cases List.mem_singleton.mp h
        exact ⟨fun hrevoked => hrevoked.write hget fun _ => by simp,
          fun entry hentry => .inl hentry⟩
      · cases List.mem_singleton.mp h
        exact hsame

/-- A session that is revoked while it is live is revoked then. -/
theorem SessionOp.outcomes_revokes {β : Type} {o : SessionOp β} {time : Date}
    {world world' : SessionWorld} {b : β} (h : (b, world') ∈ Effects.outcomes o time world)
    {sessionId : Id} (ho : o.revokes = some sessionId) (hlive : IsLive sessionId world) :
    IsRevoked sessionId world' := by
  cases o with
  | revokeSession id revokedAt =>
    obtain rfl := Option.some.inj ho
    obtain ⟨session, hget, hlive⟩ := hlive
    simp only [Effects.outcomes, hget, hlive, if_true] at h
    cases List.mem_singleton.mp h
    exact ⟨_, Db.get_put_self world.db ⟨.userSession, id, some _⟩, by simp⟩
  | _ => cases ho

/-! ## What calls do -/

section Calls

variable {ι : Type}

abbrev SessionEvent (ι : Type) := Event ι SessionOp SessionWorld

/-- The session's row is read, and it has not been revoked. -/
def FindsLive (sessionId : Id) (e : SessionEvent ι) : Prop :=
  e.op.reads = some sessionId ∧ IsLive sessionId e.before

/-- The session is looked for in the cache, and it is there. -/
def FindsCached (sessionId : Id) (e : SessionEvent ι) : Prop :=
  e.op.gets = some sessionId ∧ (e.before.cached e.time sessionId).isSome = true

/-- A session is put into the cache for five minutes at most, by a call that has read its row. -/
def SetsWhatWasRead (hist : List (SessionEvent ι)) (e : SessionEvent ι) : Prop :=
  ∀ sessionId, e.op.sets = some sessionId → e.op.ttl ≤ 300 ∧ ∃ r ∈ hist, FindsLive sessionId r

/-- A call that lets a request through has found the session. -/
def LetsThroughWhatWasFound (request : SessionRequest) (hist : List (SessionEvent ι))
    (response : SessionResponse) : Prop :=
  ∀ payload user, request = .validate payload → response = .authenticated user →
    ∃ e ∈ hist, FindsLive payload.sessionId e ∨ FindsCached payload.sessionId e

/-- A call that puts nothing into the cache, whatever it has done. -/
def SetsNothing {α : Type} (i : ι) (p : SessionCall α) : Prop :=
  ∀ hist, p.Obeys SetsWhatWasRead (fun _ _ => True) i hist

variable {i : ι} {α β : Type}

theorem SetsNothing.bind {p : SessionCall α} {f : α → SessionCall β} (hp : SetsNothing i p)
    (hf : ∀ a, SetsNothing i (f a)) : SetsNothing i (p.bind f) :=
  fun hist => .bind ((hp hist).mono fun hist a _ => hf a hist)

theorem SetsNothing.perform {o : SessionOp α} (ho : o.sets = none) :
    SetsNothing i (Call.perform o) := by
  refine fun hist time s b s' _ => ⟨fun sessionId hsets => ?_, trivial⟩
  rw [ho] at hsets
  cases hsets

theorem SetsNothing.ret (a : α) : SetsNothing i (.ret a : SessionCall α) := fun _ => trivial

theorem SetsNothing.throw (e : Failure) : SetsNothing i (.throw e : SessionCall α) :=
  fun _ => trivial

theorem SetsNothing.require (p : Prop) [Decidable p] (e : Failure) :
    SetsNothing i (.require p e : SessionCall Unit) := by
  unfold Call.require
  split
  · exact .ret ()
  · exact .throw e

theorem SetsNothing.orFail (o : Option α) (e : Failure) :
    SetsNothing i (.orFail o e : SessionCall α) := by
  cases o with
  | some a => exact .ret a
  | none => exact .throw e

theorem SetsNothing.ofExcept (r : Except Failure α) :
    SetsNothing i (.ofExcept r : SessionCall α) := by
  cases r with
  | ok a => exact .ret a
  | error e => exact .throw e

/-! ### Rotating and revoking -/

section Services

open CachedAuthService

variable {config : JwtConfig} {texts : IdTexts} {jwt : JwtService config texts}
  {passwordService : PasswordService}

theorem together_setsNothing {update : SessionCall α} (hupdate : SetsNothing i update)
    (sessionId : Id) : SetsNothing i
      (CachedAuthRepository.together update (SessionCacheService.invalidate sessionId)) := by
  have hinvalidate : SetsNothing i (SessionCacheService.invalidate sessionId) := .perform rfl
  refine .bind (.perform rfl) fun first => ?_
  cases first with
  | true => exact .bind hupdate fun a => .bind hinvalidate fun _ => .ret a
  | false => exact .bind hinvalidate fun _ => hupdate

theorem verifyRefreshToken_setsNothing (refreshToken : String) :
    SetsNothing i (verifyRefreshToken jwt refreshToken) :=
  .bind (.perform rfl) fun _ => .bind (.orFail _ _) fun payload =>
    .bind (.require _ _) fun _ => .ret payload

theorem assertNotSuspendedOrPending_setsNothing (user : User) :
    SetsNothing i (JwtStrategy.assertNotSuspendedOrPending user) :=
  .bind (.require _ _) fun _ => .require _ _

theorem refreshSession_setsNothing (refreshToken : String) (salt : ℕ) :
    SetsNothing i (refreshSession jwt passwordService refreshToken salt) := by
  refine .bind (verifyRefreshToken_setsNothing refreshToken) fun payload =>
    .bind (.perform rfl) fun found => .bind (.orFail _ _) fun record =>
      .bind (.require _ _) fun _ => .bind ?active fun _ => .bind (.require _ _) fun _ =>
        .bind (assertNotSuspendedOrPending_setsNothing record.user) fun _ => ?rotate
  case active =>
    exact .bind (.require _ _) fun _ => .bind (.perform rfl) fun _ => .require _ _
  case rotate =>
    refine .bind (.perform rfl) fun now => .bind (.orFail _ _) fun payload =>
      .bind (.bind (.perform rfl) fun _ => ?_) fun _ => .ret _
    exact .bind (together_setsNothing (.perform rfl) _) fun r => .ofExcept r

theorem logout_setsNothing (currentUser : AuthenticatedUserEntity) (payload : LogoutDto) :
    SetsNothing i (logout jwt currentUser payload) := by
  refine .bind ?target fun targetSessionId => .bind (.perform rfl) fun _ =>
    .bind (.require _ _) fun _ => .bind (.bind (.perform rfl) fun _ => ?_) fun _ => .ret _
  case target =>
    rw [resolveTargetSessionId]
    split
    · exact .bind (verifyRefreshToken_setsNothing _) fun refreshPayload =>
        .bind (.require _ _) fun _ => .ret _
    · exact .throw _
    · exact .ret _
    · exact .throw _
    · exact .ret _
  exact together_setsNothing (.perform rfl) _

end Services

/-! ### Validating -/

theorem setsWhatWasRead_of_none {hist : List (SessionEvent ι)} {e : SessionEvent ι}
    (h : e.op.sets = none) : SetsWhatWasRead hist e := by
  intro sessionId hsets
  rw [h] at hsets
  cases hsets

/-- A call that puts nothing into the cache, after an operation and before what follows. -/
theorem SetsNothing.bind_mem {p : SessionCall α} {f : α → SessionCall β} (hp : SetsNothing i p)
    {e : SessionEvent ι} {Post : List (SessionEvent ι) → β → Prop} {hist : List (SessionEvent ι)}
    (he : e ∈ hist) (hf : ∀ a hist, e ∈ hist → (f a).Obeys SetsWhatWasRead Post i hist) :
    (p.bind f).Obeys SetsWhatWasRead Post i hist :=
  .bind (((hp hist).mem he).mono fun hist a h => hf a hist h.2)

theorem validateCached_setsNothing (payload : AccessTokenPayload) (cached : CachedSession) :
    SetsNothing i (JwtStrategy.validateCached payload cached) :=
  .bind (.require _ _) fun _ => .bind (.require _ _) fun _ => .bind (.perform rfl) fun _ =>
    .bind (.require _ _) fun _ =>
      .bind (assertNotSuspendedOrPending_setsNothing cached.user) fun _ => .ret _

theorem tokenTtlSeconds_setsNothing (payload : AccessTokenPayload) :
    SetsNothing i (JwtStrategy.tokenTtlSeconds payload) := by
  rw [JwtStrategy.tokenTtlSeconds]
  split
  · exact .bind (.perform rfl) fun now => .ret _
  · exact .ret _

/-- A session is let through, and cached, after its row has been read. -/
theorem validateFromDb_obeys (payload : AccessTokenPayload) (hist : List (SessionEvent ι)) :
    (JwtStrategy.validateFromDb payload).Obeys SetsWhatWasRead
      (fun hist _ => ∃ e ∈ hist, FindsLive payload.sessionId e) i hist := by
  refine .perform_bind fun time world found world' houtcome =>
    ⟨setsWhatWasRead_of_none rfl, .orFail_bind fun record hfound => .require_bind fun _ =>
      .require_bind fun hlive => ?_⟩
  have hanswer : found = AuthRepository.findSessionById world.db payload.sessionId :=
    congrArg Prod.fst (List.mem_singleton.mp houtcome)
  have hget := (AuthService.findSessionById_eq_some.mp (hanswer.symm.trans hfound)).1
  have hfinds : FindsLive payload.sessionId (⟨i, time, .findSessionById payload.sessionId, found,
      world, world'⟩ : SessionEvent ι) := ⟨rfl, record.session, hget, hlive⟩
  refine SetsNothing.bind_mem (.perform rfl) (List.mem_append_right _ (List.mem_singleton_self _))
    fun now hist hread => .require_bind fun _ => ?_
  refine SetsNothing.bind_mem (assertNotSuspendedOrPending_setsNothing record.user) hread
    fun _ hist hread => ?_
  refine SetsNothing.bind_mem (tokenTtlSeconds_setsNothing payload) hread
    fun ttlSeconds hist hread => ?_
  rw [SessionCacheService.set]
  split
  · exact .ret ⟨_, hread, hfinds⟩
  · refine .perform_bind fun time' world _ _ _ => ⟨fun sessionId hsets => ⟨?_, ?_⟩, .ret ?_⟩
    · exact min_le_right _ _
    · exact ⟨_, hread, Option.some.inj hsets ▸ hfinds⟩
    · exact ⟨_, List.mem_append_left _ hread, hfinds⟩

theorem validate_obeys (payload : AccessTokenPayload) (hist : List (SessionEvent ι)) :
    (JwtStrategy.validate payload).Obeys SetsWhatWasRead (fun hist _ => ∃ e ∈ hist,
      FindsLive payload.sessionId e ∨ FindsCached payload.sessionId e) i hist := by
  refine .require_bind fun _ => .perform_bind fun time world cached world' houtcome =>
    ⟨setsWhatWasRead_of_none rfl, ?_⟩
  cases cached with
  | none =>
    exact (validateFromDb_obeys payload _).mono fun hist _ ⟨e, he, hfinds⟩ => ⟨e, he, .inl hfinds⟩
  | some cached =>
    have hcached : world.cached time payload.sessionId = some cached := by
      rcases List.mem_pair.mp houtcome with h | h
      · exact (congrArg Prod.fst h).symm
      · cases h
    refine (((validateCached_setsNothing payload cached) _).mem
      (List.mem_append_right _ (List.mem_singleton_self _))).mono fun hist _ h => ?_
    exact ⟨_, h.2, .inr ⟨rfl, by rw [hcached]; rfl⟩⟩

theorem SessionRequest.obeys {config : JwtConfig} {texts : IdTexts}
    (jwt : JwtService config texts) (passwordService : PasswordService) (request : SessionRequest) :
    (request.call jwt passwordService).Obeys SetsWhatWasRead
      (LetsThroughWhatWasFound request) i [] := by
  cases request with
  | validate payload =>
    refine .bind ((validate_obeys payload []).mono fun hist user hfound => .ret ?_)
    rintro payload' user' hrequest -
    cases hrequest
    exact hfound
  | refreshSession refreshToken salt =>
    refine .bind (((refreshSession_setsNothing refreshToken salt) []).mono fun _ _ _ => .ret ?_)
    rintro payload' user' hrequest -
    cases hrequest
  | logout currentUser payload =>
    refine .bind (((logout_setsNothing currentUser payload) []).mono fun _ _ _ => .ret ?_)
    rintro payload' user' hrequest -
    cases hrequest

end Calls

/-! ## After the operations so far -/

section Runs

variable {ι : Type} {sessionId : Id} {world₀ world : SessionWorld} {log : List (SessionEvent ι)}
  {e : SessionEvent ι}

/-- The session is revoked. -/
def Revokes (sessionId : Id) (e : SessionEvent ι) : Prop :=
  e.op.revokes = some sessionId ∧ IsLive sessionId e.before

/-- The session is put into the cache, and Redis does not fail. -/
def Fills (sessionId : Id) (e : SessionEvent ι) : Prop :=
  e.op.sets = some sessionId ∧
    ∃ entry, e.after.redis sessionId = some entry ∧ entry.goneAt = e.time + e.op.ttl * 1000

/-- The entry was there at the start, or was put there, for five minutes at most. -/
def FilledBy (sessionId : Id) (world₀ : SessionWorld) (log : List (SessionEvent ι))
    (entry : CacheEntry) : Prop :=
  world₀.redis sessionId = some entry ∨
    ∃ e ∈ log, Fills sessionId e ∧ entry.goneAt ≤ e.time + 300000

theorem FilledBy.snoc {entry : CacheEntry} (h : FilledBy sessionId world₀ log entry)
    (e : SessionEvent ι) : FilledBy sessionId world₀ (log ++ [e]) entry :=
  h.imp_right fun ⟨e', he', hfills⟩ => ⟨e', List.mem_append_left _ he', hfills⟩

/-- After the operations so far. -/
structure CacheLog (sessionId : Id) (world₀ : SessionWorld) (log : List (SessionEvent ι))
    (world : SessionWorld) : Prop where
  /-- a session that has been revoked is so for ever -/
  revoked : ∀ e ∈ log, Revokes sessionId e → IsRevoked sessionId world
  /-- and is not read any more as one that is not -/
  live : log.Pairwise fun e e' => Revokes sessionId e → ¬ FindsLive sessionId e'
  /-- what is cached was put there -/
  filled : ∀ entry, world.redis sessionId = some entry → FilledBy sessionId world₀ log entry
  /-- what was found in the cache had been put there, and had not been forgotten -/
  found : ∀ e ∈ log, FindsCached sessionId e →
    ∃ entry, e.time < entry.goneAt ∧ FilledBy sessionId world₀ log entry
  /-- what was put there had been read by the same call -/
  read : ∀ e ∈ log, e.op.sets = some sessionId →
    ∃ r ∈ log, r.call = e.call ∧ FindsLive sessionId r

theorem CacheLog.start (world₀ : SessionWorld) :
    CacheLog sessionId world₀ ([] : List (SessionEvent ι)) world₀ :=
  ⟨by simp, .nil, fun _ h => .inl h, by simp, by simp⟩

theorem CacheLog.snoc [DecidableEq ι] (h : CacheLog sessionId world₀ log e.before)
    (houtcome : (e.answer, e.after) ∈ Effects.outcomes e.op e.time e.before)
    (hcareful : SetsWhatWasRead (eventsOf e.call log) e) :
    CacheLog sessionId world₀ (log ++ [e]) e.after := by
  obtain ⟨hrevoked, hentry⟩ := SessionOp.outcomes_spec houtcome sessionId
  refine ⟨fun e' he' hrevokes => ?revoked, ?live, fun entry hget => ?filled,
    fun e' he' hcached => ?found, fun e' he' hsets => ?read⟩
  case revoked =>
    rcases List.mem_append.mp he' with he' | he'
    · exact hrevoked (h.revoked e' he' hrevokes)
    · obtain rfl := List.mem_singleton.mp he'
      exact SessionOp.outcomes_revokes houtcome hrevokes.1 hrevokes.2
  case live =>
    refine List.pairwise_append.mpr ⟨h.live, List.pairwise_singleton _ _, ?_⟩
    intro e' he' e'' he'' hrevokes hfinds
    obtain rfl := List.mem_singleton.mp he''
    exact (h.revoked e' he' hrevokes).not_live hfinds.2
  case filled =>
    rcases hentry entry hget with hold | ⟨hsets, hgone⟩
    · exact (h.filled entry hold).snoc e
    · refine .inr ⟨e, by simp, ⟨hsets, entry, hget, hgone⟩, ?_⟩
      have httl := (hcareful sessionId hsets).1
      grind
  case found =>
    rcases List.mem_append.mp he' with he' | he'
    · obtain ⟨entry, htime, hfilled⟩ := h.found e' he' hcached
      exact ⟨entry, htime, hfilled.snoc e⟩
    · obtain rfl := List.mem_singleton.mp he'
      obtain ⟨data, hdata⟩ := Option.isSome_iff_exists.mp hcached.2
      obtain ⟨entry, hfilter, -⟩ := Option.map_eq_some_iff.mp hdata
      obtain ⟨hget, htime⟩ := Option.filter_eq_some_iff.mp hfilter
      exact ⟨entry, of_decide_eq_true htime, (h.filled entry hget).snoc e'⟩
  case read =>
    rcases List.mem_append.mp he' with he' | he'
    · obtain ⟨r, hr, hfinds⟩ := h.read e' he' hsets
      exact ⟨r, List.mem_append_left _ hr, hfinds⟩
    · obtain rfl := List.mem_singleton.mp he'
      obtain ⟨r, hr, hfinds⟩ := (hcareful sessionId hsets).2
      obtain ⟨hr, hcall⟩ := mem_eventsOf.mp hr
      exact ⟨r, List.mem_append_left _ hr, hcall, hfinds⟩

/-- **Revoked sessions are turned away after five minutes.** However requests are validated,
sessions refreshed and logged out of, and whichever operations on Redis fail: let the session be
revoked, and let `lastFill` be no earlier than any entry that was put into the cache by a call that
had read the session's row before. A request that comes more than five minutes after both is not
let through, whatever its token says. -/
theorem revoked_session_rejected [DecidableEq ι] {config : JwtConfig} {texts : IdTexts}
    {jwt : JwtService config texts} {passwordService : PasswordService}
    {requests : ι → SessionRequest} {startsAt : Date}
    {m : Machine ι SessionOp SessionWorld Failure SessionResponse}
    {before after : List (SessionEvent ι)} {revocation : SessionEvent ι} {lastFill : Date}
    (hrun : Run ⟨startsAt, world₀, fun i => (requests i).call jwt passwordService⟩
      (before ++ revocation :: after) m)
    (hrevokes : Revokes sessionId revocation)
    (hstart : ∀ entry, world₀.redis sessionId = some entry → entry.goneAt ≤ lastFill + 300000)
    (hfills : ∀ e ∈ before ++ revocation :: after, Fills sessionId e →
      (∃ r ∈ before, r.call = e.call ∧ r.op.reads = some sessionId) → e.time ≤ lastFill)
    {i : ι} {payload : AccessTokenPayload} (hrequest : requests i = .validate payload)
    (hsession : payload.sessionId = sessionId)
    (hlate : ∀ e ∈ before ++ revocation :: after, e.call = i →
      max revocation.time lastFill + 300000 < e.time) (user : AuthenticatedUserEntity) :
    m.calls i ≠ .ret (.authenticated user) := by
  intro hreturned
  obtain ⟨hlog, -, hobeys⟩ := hrun.sound (J := CacheLog sessionId world₀)
    (fun i => (requests i).obeys jwt passwordService) (.start world₀)
    fun log e h _ houtcome hcareful => h.snoc houtcome hcareful
  have hsorted := (List.pairwise_append.mp hrun.sorted.1).2.2
  have hlive := (List.pairwise_cons.mp (List.pairwise_append.mp hlog.live).2.1).1
  -- whatever the session was read by as one that is live was done before the revocation
  have hread : ∀ r ∈ before ++ revocation :: after, FindsLive sessionId r → r ∈ before := by
    intro r hr hfinds
    rcases List.mem_append.mp hr with hr | hr
    · exact hr
    · rcases List.mem_cons.mp hr with rfl | hr
      · have hreads := hfinds.1
        rw [SessionOp.reads_eq_none hrevokes.1] at hreads
        cases hreads
      · exact absurd hfinds (hlive r hr hrevokes)
  have hthread := hobeys i
  rw [hreturned] at hthread
  obtain ⟨e, he, hfound⟩ := hthread payload user hrequest rfl
  obtain ⟨he, hcall⟩ := mem_eventsOf.mp he
  have htime := hlate e he hcall
  rw [hsession] at hfound
  rcases hfound with hfinds | hcached
  · have hbefore := hsorted e (hread e he hfinds) revocation List.mem_cons_self
    grind
  · obtain ⟨entry, hgone, hold | ⟨fill, hfill, hfills', hentry⟩⟩ := hlog.found e he hcached
    · have hgone₀ := hstart entry hold
      grind
    · obtain ⟨r, hr, hcall', hfinds⟩ := hlog.read fill hfill hfills'.1
      have hlast := hfills fill hfill hfills' ⟨r, hread r hr hfinds, hcall', hfinds.1⟩
      grind

end Runs

/-! ## A session that is cached after it was revoked -/

def teaSession : UserSession where
  userId := 1
  refreshTokenHash := "hash"
  expiresAt := 10000000
  revokedAt := none
  lastUsedAt := none

def teaSessionWorld : SessionWorld where
  db := Db.empty.apply [⟨.user, 1, some ⟨.active, .customer⟩⟩, ⟨.userSession, 5, some teaSession⟩]
  redis _ := none

/-- Two requests of the session, and the customer's logout. -/
def logoutBetween : Fin 3 → SessionRequest :=
  ![.validate ⟨1, .customer, 5, .access, none⟩,
    .logout ⟨1, 5, .customer, .access⟩ {},
    .validate ⟨1, .customer, 5, .access, none⟩]

def logoutStart : Machine (Fin 3) SessionOp SessionWorld Failure SessionResponse :=
  ⟨0, teaSessionWorld, fun i => (logoutBetween i).call teaJwt teaPasswords⟩

/-- The first request reads the session, then it is revoked and taken out of the cache, and then
the first request puts it there. The second request comes when it has been forgotten. -/
def logoutSchedule : List (Fin 3 × ℤ × ℕ) := [
  (0, 1, 0), (0, 2, 0), (0, 3, 0),
  (1, 4, 0), (1, 5, 0), (1, 6, 0), (1, 7, 0), (1, 8, 0),
  (0, 10, 0),
  (2, 300011, 0), (2, 300012, 0)]

theorem revoked_session_rejected_teaSession : ∃ log m, Run logoutStart log m ∧
    (∃ e ∈ log, Revokes 5 e) ∧ (∃ e ∈ log, e.call = 2) ∧
    ∀ user, m.calls 2 ≠ .ret (.authenticated user) := by
  have hexec : (logoutStart.exec logoutSchedule []).any (fun r =>
      r.1.any (fun e => e.op.revokes == some 5 &&
        (e.before.db.get (.userSession, 5)).any (·.revokedAt.isNone)) &&
      r.1.all (fun e => e.op.revokes != some 5 || e.time == 7) &&
      r.1.all (fun e => e.op.sets != some 5 || e.time == 10) &&
      r.1.all (fun e => e.call != 2 || decide (300010 < e.time)) &&
      r.1.any (fun e => e.call == 2)) = true := by decide
  obtain ⟨⟨log, m⟩, hm, hlog⟩ := (Option.any_eq_true _ _).mp hexec
  simp only [Bool.and_eq_true, List.any_eq_true, List.all_eq_true, Bool.or_eq_true, beq_iff_eq,
    bne_iff_ne, decide_eq_true_eq] at hlog
  obtain ⟨⟨⟨⟨⟨revocation, hmem, hop, hlive⟩, hrevoked⟩, hset⟩, hlate⟩, hsecond⟩ := hlog
  obtain ⟨session, hget, hnone⟩ := (Option.any_eq_true _ _).mp hlive
  have hrevokes : Revokes 5 revocation := ⟨hop, session, hget, Option.isNone_iff_eq_none.mp hnone⟩
  have hrun : Run logoutStart log m := Run.start.exec logoutSchedule hm
  refine ⟨log, m, hrun, ⟨revocation, hmem, hrevokes⟩, hsecond, fun user => ?_⟩
  have hat : revocation.time = 7 := (hrevoked revocation hmem).resolve_left fun h => h hop
  obtain ⟨before, after, rfl⟩ := List.append_of_mem hmem
  -- the first request puts the session into the cache at 10, and nothing was there before
  have hstart : ∀ entry, teaSessionWorld.redis 5 = some entry →
      entry.goneAt ≤ (10 : Date) + 300000 := fun _ h => by cases h
  refine revoked_session_rejected hrun hrevokes hstart (fun e he hfills _ => ?_) rfl rfl
    (fun e he hcall => ?_) user
  · exact ((hset e he).resolve_left fun h => h hfills.1).le
  · rw [hat]
    exact (hlate e he).resolve_left fun h => h hcall

end WerTe
