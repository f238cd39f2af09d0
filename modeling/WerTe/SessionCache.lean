import WerTe.Clocked.Machine
import WerTe.Sessions

/-!
# Sessions and their cache

`validate` of `jwt.strategy.ts`, with `session-cache.service.ts`, and the operations of
`auth.service.ts` that rotate and revoke a session. Every request is validated. What is validated
against the database is kept in Redis for at most five minutes, and a request that finds it there
does not ask the database.

The database and Redis are apart: each operation on one of them is atomic, but nothing holds them
together, and whatever is asked of Redis may fail, which is as if it had not been asked.

* `SessionOp`: the operations, `SessionWorld`: what they are carried out on
* `JwtStrategy.validate`, `CachedAuthService.refreshSession`, `CachedAuthService.logout`
-/

namespace WerTe

open ReadCommitted Clocked

/-! ## What the operations are carried out on -/

/-- A session as it is cached. The user's id is `userId`. -/
structure CachedSession where
  userId : Id
  revokedAt : Option Date
  expiresAt : Date
  user : User
deriving DecidableEq

/-- A cached session, and when Redis forgets it. -/
structure CacheEntry where
  data : CachedSession
  goneAt : Date
deriving DecidableEq

structure SessionWorld where
  db : Store
  redis : Id → Option CacheEntry

/-- The operations on the clock, Redis and the database. -/
inductive SessionOp : Type → Type
  | now : SessionOp Date
  /-- which of two operations that were started together is the first -/
  | firstOfTwo : SessionOp Bool
  | redisGet (sessionId : Id) : SessionOp (Option CachedSession)
  | redisSet (sessionId : Id) (data : CachedSession) (ttlSeconds : ℤ) : SessionOp Unit
  | redisDel (sessionId : Id) : SessionOp Unit
  | findSessionById (sessionId : Id) : SessionOp (Option UserSessionRecord)
  | rotateSession (sessionId : Id) (refreshTokenHash : String) (expiresAt lastUsedAt : Date) :
    SessionOp (Except Failure Unit)
  | revokeSession (sessionId : Id) (revokedAt : Date) : SessionOp Unit

namespace SessionWorld

/-- What Redis has under a key, while it has not forgotten it. -/
def cached (world : SessionWorld) (time : Date) (sessionId : Id) : Option CachedSession :=
  ((world.redis sessionId).filter fun entry => time < entry.goneAt).map (·.data)

def store (world : SessionWorld) (sessionId : Id) (entry : Option CacheEntry) : SessionWorld :=
  { world with redis := Function.update world.redis sessionId entry }

def write (world : SessionWorld) (sessionId : Id) (session : UserSession) : SessionWorld :=
  { world with db := world.db.put ⟨.userSession, sessionId, some session⟩ }

end SessionWorld

/-- The second outcome of an operation on Redis is that it fails. -/
instance : Effects SessionOp SessionWorld where
  outcomes
  | .now, time, world => [(time, world)]
  | .firstOfTwo, _, world => [(true, world), (false, world)]
  | .redisGet sessionId, time, world => [(world.cached time sessionId, world), (none, world)]
  | .redisSet sessionId data ttlSeconds, time, world =>
    [((), world.store sessionId (some ⟨data, time + ttlSeconds * 1000⟩)), ((), world)]
  | .redisDel sessionId, _, world => [((), world.store sessionId none), ((), world)]
  | .findSessionById sessionId, _, world =>
    [(AuthRepository.findSessionById world.db sessionId, world)]
  | .rotateSession sessionId refreshTokenHash expiresAt lastUsedAt, _, world =>
    match world.db.get (.userSession, sessionId) with
    | none => [(.error .recordNotFound, world)]
    | some session => [(.ok (), world.write sessionId { session with
        refreshTokenHash, expiresAt, lastUsedAt := some lastUsedAt })]
  | .revokeSession sessionId revokedAt, _, world =>
    match world.db.get (.userSession, sessionId) with
    | none => [((), world)]
    | some session =>
      if session.revokedAt = none then
        [((), world.write sessionId { session with revokedAt := some revokedAt })]
      else [((), world)]

/-- A call of the services below. -/
abbrev SessionCall := Call SessionOp Failure

open Call (perform)

/-! ## `session-cache.service.ts` -/

namespace SessionCacheService

/-- A failure is as if nothing was cached. -/
def get (sessionId : Id) : SessionCall (Option CachedSession) := perform (.redisGet sessionId)

def set (sessionId : Id) (data : CachedSession) (ttlSeconds : ℤ) : SessionCall Unit :=
  if ttlSeconds ≤ 0 then .ret () else perform (.redisSet sessionId data ttlSeconds)

def invalidate (sessionId : Id) : SessionCall Unit := perform (.redisDel sessionId)

end SessionCacheService

/-! ## `auth.repository.ts` -/

namespace CachedAuthRepository

/-- `Promise.all`: both are started, and the first may be either. -/
def together {α : Type} (update : SessionCall α) (invalidate : SessionCall Unit) :
    SessionCall α := do
  if ← perform .firstOfTwo then
    let a ← update
    invalidate
    .ret a
  else
    invalidate
    update

def rotateSession (sessionId : Id) (refreshTokenHash : String) (expiresAt : Date) :
    SessionCall Unit := do
  let lastUsedAt ← perform .now
  let rotated ← together
    (perform (.rotateSession sessionId refreshTokenHash expiresAt lastUsedAt))
    (SessionCacheService.invalidate sessionId)
  .ofExcept rotated

def revokeSession (sessionId : Id) : SessionCall Unit := do
  let revokedAt ← perform .now
  together (perform (.revokeSession sessionId revokedAt))
    (SessionCacheService.invalidate sessionId)

end CachedAuthRepository

/-! ## `jwt.strategy.ts` -/

/-- `AuthTokenPayloadEntity`, as it comes from a token. -/
structure AccessTokenPayload where
  sub : Id
  role : UserRole
  sessionId : Id
  type : AuthTokenType
  exp : Option ℤ

/-- `AuthenticatedUserEntity`, but for the actor context. -/
structure AuthenticatedUserEntity where
  userId : Id
  sessionId : Id
  role : UserRole
  tokenType : AuthTokenType
deriving DecidableEq

namespace JwtStrategy

open AuthService

def invalidAccessTokenException : Failure :=
  .app {
    message := "Invalid access token."
    status := .unauthorized
    code := some "INVALID_TOKEN" }

def maxCacheTtlSeconds : ℤ := 300

def assertNotSuspendedOrPending (user : User) : SessionCall Unit := do
  .require (user.status ≠ .suspended) accountSuspendedException
  .require (user.status ≠ .pending) accountPendingException

def validateCached (payload : AccessTokenPayload) (cached : CachedSession) :
    SessionCall AuthenticatedUserEntity := do
  .require (cached.userId = payload.sub) invalidAccessTokenException
  .require (cached.revokedAt = none) revokedSessionException
  let now ← perform .now
  .require (now < cached.expiresAt) expiredSessionException
  assertNotSuspendedOrPending cached.user
  .ret ⟨cached.userId, payload.sessionId, cached.user.role, payload.type⟩

/-- What is left of the token's life, if it says when it ends. -/
def tokenTtlSeconds (payload : AccessTokenPayload) : SessionCall ℤ :=
  match payload.exp with
  | some exp => do
    let now ← perform .now
    .ret (exp - now / 1000)
  | none => .ret maxCacheTtlSeconds

def validateFromDb (payload : AccessTokenPayload) : SessionCall AuthenticatedUserEntity := do
  let found ← perform (.findSessionById payload.sessionId)
  let record ← .orFail found invalidAccessTokenException
  .require (record.session.userId = payload.sub) invalidAccessTokenException
  .require (record.session.revokedAt = none) revokedSessionException
  let now ← perform .now
  .require (now < record.session.expiresAt) expiredSessionException
  assertNotSuspendedOrPending record.user
  let ttlSeconds ← tokenTtlSeconds payload
  SessionCacheService.set payload.sessionId
    ⟨record.session.userId, none, record.session.expiresAt, record.user⟩
    (min ttlSeconds maxCacheTtlSeconds)
  .ret ⟨record.session.userId, payload.sessionId, record.user.role, payload.type⟩

def validate (payload : AccessTokenPayload) : SessionCall AuthenticatedUserEntity := do
  .require (payload.type = .access) invalidAccessTokenException
  match ← SessionCacheService.get payload.sessionId with
  | some cached => validateCached payload cached
  | none => validateFromDb payload

end JwtStrategy

/-! ## `auth.service.ts` -/

structure LogoutDto where
  sessionId : Field Id := .undefined
  refreshToken : Field String := .undefined

namespace CachedAuthService

open AuthService

variable {config : JwtConfig} {texts : IdTexts} (jwt : JwtService config texts)
  (passwordService : PasswordService)

def forbiddenSessionException : Failure :=
  .app {
    message := "You are not allowed to revoke this session."
    status := .forbidden
    code := some "FORBIDDEN" }

def verifyRefreshToken (refreshToken : String) : SessionCall AuthTokenPayload := do
  let now ← perform .now
  let payload ← .orFail (jwt.verifyAsync config.refreshSecret now refreshToken)
    invalidTokenException
  .require (payload.type = .refresh) invalidTokenException
  .ret payload

def assertSessionIsActive (session : UserSession) : SessionCall Unit := do
  .require (session.revokedAt = none) revokedSessionException
  let now ← perform .now
  .require (now < session.expiresAt) expiredSessionException

/-- `salt` is the one that the new token is hashed with. -/
def rotateSession (userId : Id) (user : User) (sessionId : Id) (salt : ℕ) :
    SessionCall RefreshedSession := do
  let now ← perform .now
  let accessToken := signToken jwt (tokenPayload config userId user sessionId .access now)
  let refreshToken := signToken jwt (tokenPayload config userId user sessionId .refresh now)
  let payload ← .orFail (jwt.decode refreshToken)
    (fail "Unable to resolve token expiry." .internalServerError)
  CachedAuthRepository.rotateSession sessionId (passwordService.hash salt refreshToken)
    (payload.exp * 1000)
  .ret { accessToken, refreshToken, sessionId, userId }

def refreshSession (refreshToken : String) (salt : ℕ) : SessionCall RefreshedSession := do
  let payload ← verifyRefreshToken jwt refreshToken
  let found ← perform (.findSessionById payload.sessionId)
  let record ← .orFail found invalidTokenException
  .require (record.session.userId = payload.sub) invalidTokenException
  assertSessionIsActive record.session
  .require (passwordService.compare refreshToken record.session.refreshTokenHash)
    invalidTokenException
  JwtStrategy.assertNotSuspendedOrPending record.user
  rotateSession jwt passwordService record.session.userId record.user payload.sessionId salt

def resolveTargetSessionId (currentUser : AuthenticatedUserEntity) (payload : LogoutDto) :
    SessionCall Id :=
  match payload.refreshToken, payload.sessionId with
  | .value refreshToken, _ => do
    let refreshPayload ← verifyRefreshToken jwt refreshToken
    .require (refreshPayload.sub = currentUser.userId) forbiddenSessionException
    .ret refreshPayload.sessionId
  | .null, _ => .throw invalidTokenException
  | .undefined, .value sessionId => .ret sessionId
  | .undefined, .null => .throw (.invalidArgument "id")
  | .undefined, .undefined => .ret currentUser.sessionId

/-- The session that is revoked. -/
def logout (currentUser : AuthenticatedUserEntity) (payload : LogoutDto) : SessionCall Id := do
  let targetSessionId ← resolveTargetSessionId jwt currentUser payload
  let targetSession ← perform (.findSessionById targetSessionId)
  .require (∀ record ∈ targetSession, record.session.userId = currentUser.userId)
    forbiddenSessionException
  CachedAuthRepository.revokeSession targetSessionId
  .ret targetSessionId

end CachedAuthService

/-! ## Requests -/

inductive SessionRequest
  | validate (payload : AccessTokenPayload)
  | refreshSession (refreshToken : String) (salt : ℕ)
  | logout (currentUser : AuthenticatedUserEntity) (payload : LogoutDto)

inductive SessionResponse
  | authenticated (user : AuthenticatedUserEntity)
  | refreshed (tokens : RefreshedSession)
  | loggedOut (revokedSessionId : Id)
deriving DecidableEq

def SessionRequest.call {config : JwtConfig} {texts : IdTexts} (jwt : JwtService config texts)
    (passwordService : PasswordService) : SessionRequest → SessionCall SessionResponse
  | validate payload => do
    let user ← JwtStrategy.validate payload
    .ret (.authenticated user)
  | refreshSession refreshToken salt => do
    let tokens ← CachedAuthService.refreshSession jwt passwordService refreshToken salt
    .ret (.refreshed tokens)
  | logout currentUser payload => do
    let revokedSessionId ← CachedAuthService.logout jwt currentUser payload
    .ret (.loggedOut revokedSessionId)

end WerTe
