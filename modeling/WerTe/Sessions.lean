import Mathlib.Tactic.DeriveEncodable
import Mathlib.Logic.Denumerable
import WerTe.Base64Url
import WerTe.ReadCommitted.Flags
import WerTe.ReadCommitted.Sequential
import WerTe.Schema

/-!
# Refresh tokens

`refreshSession` of `auth.service.ts` with what it uses of `password.service.ts` and
`auth.repository.ts`. A session's row has the hash of its newest refresh token, and every refresh
replaces both.

The hash reads 72 bytes. A token's header, which is always the same, takes 37 of them, and the
other 35 are the start of its payload, of which a user id is the first thing: all the refresh
tokens of a session have the same 72 bytes (`take_utf8_sign`). So the row's hash matches the
tokens it has replaced as well, and a used token is turned away only once it, or the session, has
expired (`single_use_iff`).

* `JwtService`, `PasswordService`: what is used of `jsonwebtoken` and `bcryptjs`
* `RefreshCall.Accepted`, `RefreshCall.TooLate`: how a call ends, and when it comes too late
* `Reusable`: a token that has been accepted goes on being accepted
-/

namespace WerTe

open ReadCommitted

/-! ## JSON -/

/-- How `JSON.stringify` writes a character of a string. -/
def jsonChar (c : Char) : String :=
  if c.toNat = 0x22 then "\\\""
  else if c.toNat = 0x5C then "\\\\"
  else if c.toNat = 0x8 then "\\b"
  else if c.toNat = 0x9 then "\\t"
  else if c.toNat = 0xA then "\\n"
  else if c.toNat = 0xC then "\\f"
  else if c.toNat = 0xD then "\\r"
  else if c.toNat < 0x20 then
    "\\u00" ++ .ofList [Nat.digitChar (c.toNat / 16), Nat.digitChar (c.toNat % 16)]
  else .singleton c

def jsonString (s : String) : String :=
  "\"" ++ .ofList (s.toList.flatMap fun c => (jsonChar c).toList) ++ "\""

/-! ## Tokens -/

inductive AuthTokenType
  | access | refresh
deriving DecidableEq, Repr, Encodable

deriving instance Encodable for UserRole

/-- `AuthTokenPayloadEntity`, with the times that signing adds, in seconds. -/
structure AuthTokenPayload where
  sub : Id
  role : UserRole
  sessionId : Id
  type : AuthTokenType
  iat : ℤ
  exp : ℤ
deriving DecidableEq, Repr, Encodable

/-- The `jwt` part of the configuration, with lifetimes in seconds. -/
structure JwtConfig where
  accessSecret : String
  refreshSecret : String
  issuer : String
  audience : String
  accessExpiresIn : ℤ
  refreshExpiresIn : ℤ

/-- A text that `cuid()` makes. -/
structure Cuid where
  text : String
  length_eq : text.length = 25
  plain : ∀ c ∈ text.toList, c.isLower = true ∨ c.isDigit = true

/-- The ids of users and sessions as they are written: the first are the database's, the others
`randomUUID`'s. -/
structure IdTexts where
  user : Id → Cuid
  session : Id → String

def UserRole.text : UserRole → String
  | admin => "ADMIN"
  | customer => "CUSTOMER"
  | rider => "RIDER"
  | merchant => "MERCHANT"
  | merchantStaff => "MERCHANT_STAFF"
  | support => "SUPPORT"

def AuthTokenType.text : AuthTokenType → String
  | access => "access"
  | refresh => "refresh"

section

variable (config : JwtConfig) (texts : IdTexts)

/-- The claims in the order in which they are set, the audience and the issuer last. -/
def AuthTokenPayload.json (payload : AuthTokenPayload) : String :=
  "\x7b\"sub\":" ++ jsonString (texts.user payload.sub).text ++
    (",\"role\":" ++ jsonString payload.role.text ++
      ",\"sessionId\":" ++ jsonString (texts.session payload.sessionId) ++
      ",\"type\":" ++ jsonString payload.type.text ++
      ",\"iat\":" ++ toString payload.iat ++ ",\"exp\":" ++ toString payload.exp ++
      ",\"aud\":" ++ jsonString config.audience ++
      ",\"iss\":" ++ jsonString config.issuer ++ "\x7d")

def jwtHeader : String := base64Url "\x7b\"alg\":\"HS256\",\"typ\":\"JWT\"\x7d"

/-- The compact serialization. -/
def compactToken (payload : AuthTokenPayload) (signature : String) : String :=
  jwtHeader ++ "." ++ base64Url (payload.json config texts) ++ ("." ++ signature)

/-- `jsonwebtoken`, as `JwtService` wraps it. -/
structure JwtService where
  /-- the signature of a payload's token under a secret -/
  signature : String → AuthTokenPayload → String
  /-- reads a token's payload -/
  decode : String → Option AuthTokenPayload
  decode_compactToken : ∀ secret payload,
    decode (compactToken config texts payload (signature secret payload)) = some payload

end

/-- `bcryptjs`, which reads the first 72 bytes of what it hashes or compares. -/
structure PasswordService where
  /-- the hash of a text with a salt -/
  hash : ℕ → String → String
  compare : String → String → Bool
  compare_hash : ∀ salt plain, compare plain (hash salt plain) = true
  compare_congr : ∀ {plain plain'}, (utf8 plain).take 72 = (utf8 plain').take 72 →
    ∀ hashed, compare plain hashed = compare plain' hashed

namespace JwtService

variable {config : JwtConfig} {texts : IdTexts} (jwt : JwtService config texts)

def signAsync (secret : String) (payload : AuthTokenPayload) : String :=
  compactToken config texts payload (jwt.signature secret payload)

/-- The token is one that was signed with the secret, which only the server has, and it has not
expired. -/
def verifyAsync (secret : String) (now : Date) (token : String) : Option AuthTokenPayload :=
  (jwt.decode token).filter fun payload =>
    token = jwt.signAsync secret payload ∧ now / 1000 < payload.exp

end JwtService

/-! ## `auth.repository.ts` -/

/-- A session with its user, as `userSessionInclude` loads it. -/
structure UserSessionRecord where
  session : UserSession
  user : User

namespace AuthRepository

def findSessionById (db : Store) (sessionId : Id) : Option UserSessionRecord :=
  (db.get (.userSession, sessionId)).bind fun session =>
    (db.get (.user, session.userId)).map fun user => ⟨session, user⟩

def rotateSession (sessionId : Id) (refreshTokenHash : String) (expiresAt now : Date) :
    StoreTx Unit :=
  .updateExisting (.userSession, sessionId)
    (fun session => { session with refreshTokenHash, expiresAt, lastUsedAt := some now })
    .recordNotFound

end AuthRepository

open AuthRepository

/-! ## `auth.service.ts` -/

/-- A call of `refreshSession`: the token, the salt of the new hash, and the clock when the token
is verified, when the session is checked and when the new tokens are issued. -/
structure RefreshCall where
  refreshToken : String
  salt : ℕ
  verifiedAt : Date
  checkedAt : Date
  issuedAt : Date

/-- What a refresh answers, but for the actor context. -/
structure RefreshedSession where
  accessToken : String
  refreshToken : String
  sessionId : Id
  userId : Id
deriving DecidableEq

namespace AuthService

def invalidTokenException : Failure :=
  .app {
    message := "Invalid refresh token."
    status := .unauthorized
    code := some "INVALID_TOKEN" }

def revokedSessionException : Failure :=
  .app {
    message := "This session has been revoked."
    status := .unauthorized
    code := some "SESSION_REVOKED" }

def expiredSessionException : Failure :=
  .app {
    message := "This session has expired."
    status := .unauthorized
    code := some "SESSION_EXPIRED" }

def accountSuspendedException : Failure :=
  .app {
    message := "This account is suspended."
    status := .forbidden
    code := some "ACCOUNT_SUSPENDED" }

def accountPendingException : Failure :=
  .app {
    message := "This account is pending activation."
    status := .forbidden
    code := some "ACCOUNT_PENDING" }

/-- The claims of a new token of a user's session. -/
def tokenPayload (config : JwtConfig) (userId : Id) (user : User) (sessionId : Id)
    (type : AuthTokenType) (now : Date) : AuthTokenPayload where
  sub := userId
  role := user.role
  sessionId := sessionId
  type := type
  iat := now / 1000
  exp := now / 1000 + if type = .access then config.accessExpiresIn else config.refreshExpiresIn

variable {config : JwtConfig} {texts : IdTexts} (jwt : JwtService config texts)
  (passwordService : PasswordService)

def verifyRefreshToken (now : Date) (refreshToken : String) : StoreService AuthTokenPayload := do
  let payload ← .orFail (jwt.verifyAsync config.refreshSecret now refreshToken)
    invalidTokenException
  .require (payload.type = .refresh) invalidTokenException
  .ret payload

def assertSessionIsActive (session : UserSession) (now : Date) : StoreService Unit := do
  .require (session.revokedAt = none) revokedSessionException
  .require (now < session.expiresAt) expiredSessionException

def signToken (payload : AuthTokenPayload) : String :=
  jwt.signAsync (if payload.type = .access then config.accessSecret else config.refreshSecret)
    payload

def extractExpiryDate (token : String) : StoreService Date := do
  let payload ← .orFail (jwt.decode token)
    (fail "Unable to resolve token expiry." .internalServerError)
  .ret (payload.exp * 1000)

def rotateSession (userId : Id) (user : User) (sessionId : Id) (salt : ℕ) (now : Date) :
    StoreService RefreshedSession := do
  let accessToken := signToken jwt (tokenPayload config userId user sessionId .access now)
  let refreshToken := signToken jwt (tokenPayload config userId user sessionId .refresh now)
  let refreshTokenExpiresAt ← extractExpiryDate jwt refreshToken
  .transaction do
    AuthRepository.rotateSession sessionId (passwordService.hash salt refreshToken)
      refreshTokenExpiresAt now
    .ret { accessToken, refreshToken, sessionId, userId }

def refreshSession (call : RefreshCall) : StoreService RefreshedSession := do
  let payload ← verifyRefreshToken jwt call.verifiedAt call.refreshToken
  let found ← .get fun db => findSessionById db payload.sessionId
  let record ← .orFail found invalidTokenException
  .require (record.session.userId = payload.sub) invalidTokenException
  assertSessionIsActive record.session call.checkedAt
  .require (passwordService.compare call.refreshToken record.session.refreshTokenHash)
    invalidTokenException
  .require (record.user.status ≠ .suspended) accountSuspendedException
  .require (record.user.status ≠ .pending) accountPendingException
  rotateSession jwt passwordService record.session.userId record.user payload.sessionId call.salt
    call.issuedAt

end AuthService

/-! ## Tokens of one user begin alike -/

theorem Cuid.toNat_char {id : Cuid} {c : Char} (h : c ∈ id.text.toList) :
    48 ≤ c.toNat ∧ c.toNat ≤ 57 ∨ 97 ≤ c.toNat ∧ c.toNat ≤ 122 := by
  rcases id.plain c h with hlower | hdigit
  · have hbounds : (decide (97 ≤ c.val) && decide (c.val ≤ 122)) = true := hlower
    rw [Bool.and_eq_true, decide_eq_true_eq, decide_eq_true_eq, UInt32.le_iff_toNat_le,
      UInt32.le_iff_toNat_le] at hbounds
    exact .inr hbounds
  · have hbounds : (decide (48 ≤ c.val) && decide (c.val ≤ 57)) = true := hdigit
    rw [Bool.and_eq_true, decide_eq_true_eq, decide_eq_true_eq, UInt32.le_iff_toNat_le,
      UInt32.le_iff_toNat_le] at hbounds
    exact .inl hbounds

theorem Cuid.jsonChar_eq {id : Cuid} {c : Char} (h : c ∈ id.text.toList) :
    jsonChar c = .singleton c := by
  have hc := Cuid.toNat_char h
  simp only [jsonChar]
  repeat' rw [if_neg (by omega)]

/-- An id is written as it is, in quotes. -/
theorem Cuid.jsonString_text (id : Cuid) : jsonString id.text = "\"" ++ id.text ++ "\"" := by
  have hflat : (id.text.toList.flatMap fun c => (jsonChar c).toList) = id.text.toList := by
    rw [List.flatMap_congr fun c hc => by rw [id.jsonChar_eq hc]]
    simp
  rw [jsonString, hflat, String.ofList_toList]

/-- The first nineteen characters of an id. -/
def Cuid.start (id : Cuid) : String := .ofList (id.text.toList.take 19)

theorem Cuid.text_eq (id : Cuid) : id.text = id.start ++ .ofList (id.text.toList.drop 19) := by
  rw [Cuid.start, ← String.ofList_append, List.take_append_drop, String.ofList_toList]

theorem Cuid.utf8Size_eq {id : Cuid} {c : Char} (h : c ∈ id.text.toList) : c.utf8Size = 1 := by
  have hc := Cuid.toNat_char h
  rw [Char.utf8Size_eq_one_iff, UInt32.le_iff_toNat_le]
  show c.toNat ≤ 127
  omega

theorem Cuid.length_utf8_start (id : Cuid) : (utf8 id.start).length = 19 := by
  rw [length_utf8, Cuid.start, String.length_ofList, List.length_take, String.length_toList,
    id.length_eq]
  · rfl
  · intro c hc
    rw [Cuid.start, String.toList_ofList] at hc
    exact Cuid.utf8Size_eq (List.mem_of_mem_take hc)

section

variable {config : JwtConfig} {texts : IdTexts}

/-- The first 27 bytes of a payload. -/
def payloadStart (texts : IdTexts) (userId : Id) : String :=
  "\x7b\"sub\":\"" ++ (texts.user userId).start

theorem length_utf8_payloadStart (userId : Id) :
    (utf8 (payloadStart texts userId)).length = 27 := by
  rw [payloadStart, utf8_append, List.length_append, Cuid.length_utf8_start]
  rfl

theorem json_eq (payload : AuthTokenPayload) :
    ∃ rest, payload.json config texts = payloadStart texts payload.sub ++ rest := by
  rw [AuthTokenPayload.json, Cuid.jsonString_text, Cuid.text_eq, payloadStart]
  simp only [String.append_assoc]
  exact ⟨_, rfl⟩

/-- The first 73 bytes of a token. -/
def tokenStart (texts : IdTexts) (userId : Id) : String :=
  jwtHeader ++ "." ++ base64Url (payloadStart texts userId)

theorem length_utf8_tokenStart (userId : Id) : (utf8 (tokenStart texts userId)).length = 73 := by
  have hheader : (utf8 jwtHeader).length = 36 := length_utf8_base64Url (n := 9) rfl
  have hpayload : (utf8 (base64Url (payloadStart texts userId))).length = 36 :=
    length_utf8_base64Url (n := 9) (length_utf8_payloadStart userId)
  rw [tokenStart, utf8_append, utf8_append, List.length_append, List.length_append, hheader,
    hpayload]
  rfl

/-- What a hash reads of a token depends on the user's id alone. -/
theorem take_utf8_compactToken (payload : AuthTokenPayload) (signature : String) :
    (utf8 (compactToken config texts payload signature)).take 72 =
      (utf8 (tokenStart texts payload.sub)).take 72 := by
  obtain ⟨rest, hjson⟩ : ∃ rest, payload.json config texts =
      payloadStart texts payload.sub ++ rest := json_eq payload
  have hsplit : base64Url (payload.json config texts) =
      base64Url (payloadStart texts payload.sub) ++ base64Url rest := by
    rw [hjson, base64Url_append (n := 9) rest (length_utf8_payloadStart payload.sub)]
  have htoken : compactToken config texts payload signature =
      tokenStart texts payload.sub ++ (base64Url rest ++ ("." ++ signature)) := by
    rw [compactToken, hsplit, tokenStart]
    simp only [String.append_assoc]
  rw [htoken, utf8_append, List.take_append_of_le_length]
  rw [length_utf8_tokenStart]
  omega

end

/-! ## What a call does -/

section

variable {config : JwtConfig} {texts : IdTexts} {jwt : JwtService config texts}
  {passwordService : PasswordService}

theorem JwtService.decode_signAsync (secret : String) (payload : AuthTokenPayload) :
    jwt.decode (jwt.signAsync secret payload) = some payload :=
  jwt.decode_compactToken secret payload

theorem JwtService.verifyAsync_eq_some {secret token : String} {now : Date}
    {payload : AuthTokenPayload} :
    jwt.verifyAsync secret now token = some payload ↔
      token = jwt.signAsync secret payload ∧ now / 1000 < payload.exp := by
  rw [JwtService.verifyAsync, Option.filter_eq_some_iff, decide_eq_true_eq]
  constructor
  · exact fun h => h.2
  · rintro ⟨rfl, hexp⟩
    exact ⟨jwt.decode_signAsync secret payload, rfl, hexp⟩

/-- What a call that is accepted finds. -/
structure RefreshCall.Finds (jwt : JwtService config texts) (passwordService : PasswordService)
    (call : RefreshCall) (db : Store) (payload : AuthTokenPayload) (record : UserSessionRecord) :
    Prop where
  signed : call.refreshToken = jwt.signAsync config.refreshSecret payload
  live : call.verifiedAt / 1000 < payload.exp
  refresh : payload.type = .refresh
  found : findSessionById db payload.sessionId = some record
  owned : record.session.userId = payload.sub
  notRevoked : record.session.revokedAt = none
  notExpired : call.checkedAt < record.session.expiresAt
  matching : passwordService.compare call.refreshToken record.session.refreshTokenHash = true
  notSuspended : record.user.status ≠ .suspended
  notPending : record.user.status ≠ .pending

namespace AuthService

/-- The newest refresh token of a session. -/
def newestToken (jwt : JwtService config texts) (call : RefreshCall) (payload : AuthTokenPayload)
    (user : User) : String :=
  signToken jwt (tokenPayload config payload.sub user payload.sessionId .refresh call.issuedAt)

/-- The session's row after a call that is accepted. -/
def rotated (jwt : JwtService config texts) (passwordService : PasswordService)
    (call : RefreshCall) (payload : AuthTokenPayload) (record : UserSessionRecord) : UserSession :=
  { record.session with
    refreshTokenHash := passwordService.hash call.salt (newestToken jwt call payload record.user)
    expiresAt := (call.issuedAt / 1000 + config.refreshExpiresIn) * 1000
    lastUsedAt := some call.issuedAt }

theorem extractExpiryDate_signToken {payload : AuthTokenPayload} :
    extractExpiryDate jwt (signToken jwt payload) = .ret (payload.exp * 1000) := by
  rw [extractExpiryDate, signToken, JwtService.decode_signAsync]
  rfl

theorem findSessionById_eq_some {db : Store} {sessionId : Id} {record : UserSessionRecord} :
    findSessionById db sessionId = some record ↔
      db.get (.userSession, sessionId) = some record.session ∧
        db.get (.user, record.session.userId) = some record.user := by
  rw [findSessionById, Option.bind_eq_some_iff]
  constructor
  · rintro ⟨session, hsession, hmap⟩
    obtain ⟨user, huser, rfl⟩ := Option.map_eq_some_iff.mp hmap
    exact ⟨hsession, huser⟩
  · rintro ⟨hsession, huser⟩
    exact ⟨record.session, hsession, Option.map_eq_some_iff.mpr ⟨record.user, huser, rfl⟩⟩

theorem findSessionById_put_ne {db : Store} {sessionId sessionId' : Id} {row : Option UserSession}
    (h : sessionId ≠ sessionId') :
    findSessionById (db.put ⟨.userSession, sessionId', row⟩) sessionId =
      findSessionById db sessionId := by
  have hsession : (db.put ⟨.userSession, sessionId', row⟩).get (.userSession, sessionId) =
      db.get (.userSession, sessionId) := Db.get_put_ne _ (by simp [Write.key, h])
  rw [findSessionById, findSessionById, hsession]
  rfl

theorem refreshSession_run {call : RefreshCall} {db : Store} {payload : AuthTokenPayload}
    {record : UserSessionRecord} (h : call.Finds jwt passwordService db payload record) :
    (refreshSession jwt passwordService call).run db =
      (.ok {
        accessToken := signToken jwt
          (tokenPayload config payload.sub record.user payload.sessionId .access call.issuedAt)
        refreshToken := newestToken jwt call payload record.user
        sessionId := payload.sessionId
        userId := payload.sub },
      db.put ⟨.userSession, payload.sessionId,
        some (rotated jwt passwordService call payload record)⟩) := by
  have hverify := JwtService.verifyAsync_eq_some.mpr ⟨h.signed, h.live⟩
  have hget := (findSessionById_eq_some.mp h.found).1
  simp only [refreshSession, verifyRefreshToken, assertSessionIsActive, rotateSession,
    Service.bind_eq, Service.run_bind, hverify, Service.orFail, Service.run, Service.require,
    h.refresh, Service.get, h.found, h.owned, h.notRevoked, h.notExpired, h.matching,
    h.notSuspended, h.notPending, if_true, ne_eq, not_false_eq_true, extractExpiryDate_signToken, Service.transaction, Service.ofExcept,
    AuthRepository.rotateSession, Tx.bind_eq, Tx.run_bind, Tx.run_updateExisting hget, rotated,
    newestToken]
  rfl

theorem verifyRefreshToken_readOnly (now : Date) (refreshToken : String) :
    (verifyRefreshToken jwt now refreshToken).ReadOnly :=
  .bind (.orFail _ _) fun _ => .bind (.require _ _) fun _ => .ret _

theorem assertSessionIsActive_readOnly (session : UserSession) (now : Date) :
    (assertSessionIsActive session now).ReadOnly :=
  .bind (.require _ _) fun _ => .require _ _

theorem extractExpiryDate_readOnly (token : String) : (extractExpiryDate jwt token).ReadOnly :=
  .bind (.orFail _ _) fun _ => .ret _

theorem verifyRefreshToken_run_ok {now : Date} {refreshToken : String} {db db' : Store}
    {payload : AuthTokenPayload}
    (h : (verifyRefreshToken jwt now refreshToken).run db = (.ok payload, db')) :
    jwt.verifyAsync config.refreshSecret now refreshToken = some payload ∧
      payload.type = .refresh := by
  obtain ⟨payload', db₁, h₁, hrest⟩ := Service.run_bind_ok.mp h
  obtain ⟨_, db₂, h₂, h₃⟩ := Service.run_bind_ok.mp hrest
  obtain ⟨rfl, -⟩ := Service.run_ret_ok.mp h₃
  exact ⟨(Service.run_orFail_ok.mp h₁).1, (Service.run_require_ok.mp h₂).1⟩

theorem assertSessionIsActive_run_ok {session : UserSession} {now : Date} {db db' : Store}
    {u : Unit} (h : (assertSessionIsActive session now).run db = (.ok u, db')) :
    session.revokedAt = none ∧ now < session.expiresAt := by
  obtain ⟨_, db₁, h₁, h₂⟩ := Service.run_bind_ok.mp h
  exact ⟨(Service.run_require_ok.mp h₁).1, (Service.run_require_ok.mp h₂).1⟩

theorem refreshSession_run_ok {call : RefreshCall} {db db' : Store} {tokens : RefreshedSession}
    (h : (refreshSession jwt passwordService call).run db = (.ok tokens, db')) :
    ∃ payload record, call.Finds jwt passwordService db payload record := by
  obtain ⟨payload, h₁, h⟩ := (verifyRefreshToken_readOnly _ _).run_bind_ok h
  obtain ⟨found, h₂, h⟩ := (Service.ReadOnly.get _).run_bind_ok h
  obtain ⟨record, h₃, h⟩ := (Service.ReadOnly.orFail _ _).run_bind_ok h
  obtain ⟨_, h₄, h⟩ := (Service.ReadOnly.require _ _).run_bind_ok h
  obtain ⟨_, h₅, h⟩ := (assertSessionIsActive_readOnly _ _).run_bind_ok h
  obtain ⟨_, h₆, h⟩ := (Service.ReadOnly.require _ _).run_bind_ok h
  obtain ⟨_, h₇, h⟩ := (Service.ReadOnly.require _ _).run_bind_ok h
  obtain ⟨_, h₈, h⟩ := (Service.ReadOnly.require _ _).run_bind_ok h
  obtain ⟨hverified, hrefresh⟩ := verifyRefreshToken_run_ok h₁
  obtain ⟨hsigned, hlive⟩ := JwtService.verifyAsync_eq_some.mp hverified
  obtain ⟨hnotRevoked, hnotExpired⟩ := assertSessionIsActive_run_ok h₅
  have hfound := (Service.run_orFail_ok.mp h₃).1
  rw [← (Service.run_get_ok.mp h₂).1] at hfound
  exact ⟨payload, record, {
    signed := hsigned, live := hlive, refresh := hrefresh, found := hfound
    owned := (Service.run_require_ok.mp h₄).1
    notRevoked := hnotRevoked, notExpired := hnotExpired
    matching := (Service.run_require_ok.mp h₆).1
    notSuspended := (Service.run_require_ok.mp h₇).1
    notPending := (Service.run_require_ok.mp h₈).1 }⟩

theorem refreshSession_atomic (call : RefreshCall) :
    (refreshSession jwt passwordService call).Atomic :=
  .bind (verifyRefreshToken_readOnly _ _) fun _ =>
    .bind (.get _) fun _ => .bind (.orFail _ _) fun _ => .bind (.require _ _) fun _ =>
      .bind (assertSessionIsActive_readOnly _ _) fun _ => .bind (.require _ _) fun _ =>
        .bind (.require _ _) fun _ => .bind (.require _ _) fun _ =>
          .bind (extractExpiryDate_readOnly _) fun _ => .transaction _

end AuthService

open AuthService

/-! ## A token that has been accepted -/

namespace RefreshCall

/-- The call refreshes the session. -/
def Accepted (jwt : JwtService config texts) (passwordService : PasswordService)
    (call : RefreshCall) (db : Store) : Prop :=
  ∃ tokens, ((refreshSession jwt passwordService call).run db).1 = .ok tokens

def run (jwt : JwtService config texts) (passwordService : PasswordService) (call : RefreshCall)
    (db : Store) : Store := ((refreshSession jwt passwordService call).run db).2

/-- The call's token has expired when it is verified, or its session when that is checked. -/
def TooLate (jwt : JwtService config texts) (call : RefreshCall) (db : Store) : Prop :=
  ∃ payload session, jwt.decode call.refreshToken = some payload ∧
    db.get (.userSession, payload.sessionId) = some session ∧
    (payload.exp ≤ call.verifiedAt / 1000 ∨ session.expiresAt ≤ call.checkedAt)

theorem Finds.accepted {call : RefreshCall} {db : Store} {payload : AuthTokenPayload}
    {record : UserSessionRecord} (h : call.Finds jwt passwordService db payload record) :
    call.Accepted jwt passwordService db := by
  rw [Accepted, refreshSession_run h]
  exact ⟨_, rfl⟩

theorem Finds.run_eq {call : RefreshCall} {db : Store} {payload : AuthTokenPayload}
    {record : UserSessionRecord} (h : call.Finds jwt passwordService db payload record) :
    call.run jwt passwordService db = db.put ⟨.userSession, payload.sessionId,
      some (rotated jwt passwordService call payload record)⟩ := by
  rw [run, refreshSession_run h]

theorem Accepted.finds {call : RefreshCall} {db : Store}
    (h : call.Accepted jwt passwordService db) :
    ∃ payload record, call.Finds jwt passwordService db payload record := by
  obtain ⟨tokens, htokens⟩ := h
  exact refreshSession_run_ok (Prod.ext htokens rfl)

theorem run_of_not_accepted {call : RefreshCall} {db : Store}
    (h : ¬ call.Accepted jwt passwordService db) : call.run jwt passwordService db = db := by
  rcases (refreshSession_atomic call).cases db with hsame | ⟨tokens, hok⟩
  · exact hsame
  · exact absurd ⟨tokens, by rw [hok]⟩ h

end RefreshCall

/-- A session of an active user, whose hash was made of some refresh token of that user. -/
structure Refreshable (texts : IdTexts) (passwordService : PasswordService) (userId : Id)
    (record : UserSessionRecord) : Prop where
  owned : record.session.userId = userId
  notRevoked : record.session.revokedAt = none
  notSuspended : record.user.status ≠ .suspended
  notPending : record.user.status ≠ .pending
  hashed : ∃ salt newest, record.session.refreshTokenHash = passwordService.hash salt newest ∧
    (utf8 newest).take 72 = (utf8 (tokenStart texts userId)).take 72

/-- The tokens of the session can be used, as far as what does not depend on time goes. -/
def Reusable (texts : IdTexts) (passwordService : PasswordService) (userId sessionId : Id)
    (db : Store) : Prop :=
  ∃ record, findSessionById db sessionId = some record ∧
    Refreshable texts passwordService userId record

theorem take_utf8_signAsync (secret : String) (payload : AuthTokenPayload) :
    (utf8 (jwt.signAsync secret payload)).take 72 =
      (utf8 (tokenStart texts payload.sub)).take 72 := take_utf8_compactToken _ _

/-- After a call that was accepted, the session's hash is the new token's. -/
theorem RefreshCall.Finds.reusable {call : RefreshCall} {db : Store} {payload : AuthTokenPayload}
    {record : UserSessionRecord} (h : call.Finds jwt passwordService db payload record) :
    Reusable texts passwordService payload.sub payload.sessionId
      (call.run jwt passwordService db) := by
  have huser := (findSessionById_eq_some.mp h.found).2
  refine ⟨⟨rotated jwt passwordService call payload record, record.user⟩, ?_, {
    owned := h.owned, notRevoked := h.notRevoked, notSuspended := h.notSuspended
    notPending := h.notPending
    hashed := ⟨_, _, rfl, take_utf8_signAsync _ _⟩ }⟩
  rw [h.run_eq, findSessionById_eq_some]
  exact ⟨Db.get_put_self .., (Db.get_put_ne _ (by simp [Write.key])).trans huser⟩

/-- No call takes that away. -/
theorem Reusable.run {userId sessionId : Id} {db : Store} (call : RefreshCall)
    (h : Reusable texts passwordService userId sessionId db) :
    Reusable texts passwordService userId sessionId (call.run jwt passwordService db) := by
  by_cases haccepted : call.Accepted jwt passwordService db
  · obtain ⟨payload, record', hfinds⟩ := haccepted.finds
    obtain ⟨record, hfound, hrecord⟩ := h
    by_cases hsession : payload.sessionId = sessionId
    · -- the call refreshed this session
      subst hsession
      obtain rfl : record' = record := by
        have := hfinds.found
        rw [hfound] at this
        exact (Option.some.inj this).symm
      have hsub : payload.sub = userId := hfinds.owned.symm.trans hrecord.owned
      exact hsub ▸ hfinds.reusable
    · refine ⟨record, ?_, hrecord⟩
      rw [hfinds.run_eq, findSessionById_put_ne (Ne.symm hsession)]
      exact hfound
  · rw [RefreshCall.run_of_not_accepted haccepted]
    exact h

/-- A token of such a session is accepted, unless it comes too late. -/
theorem Reusable.accepted_iff {call : RefreshCall} {db : Store} {payload : AuthTokenPayload}
    (h : Reusable texts passwordService payload.sub payload.sessionId db)
    (hsigned : call.refreshToken = jwt.signAsync config.refreshSecret payload)
    (hrefresh : payload.type = .refresh) :
    ¬ call.Accepted jwt passwordService db ↔ call.TooLate jwt db := by
  obtain ⟨record, hfound, hrecord⟩ := h
  have hget := (findSessionById_eq_some.mp hfound).1
  have hdecode : jwt.decode call.refreshToken = some payload := by
    rw [hsigned, JwtService.decode_signAsync]
  constructor
  · intro hrejected
    refine ⟨payload, record.session, hdecode, hget, ?_⟩
    by_contra htimely
    rw [not_or, not_le, not_le] at htimely
    obtain ⟨salt, newest, hhash, hnewest⟩ := hrecord.hashed
    have hmatching : passwordService.compare call.refreshToken record.session.refreshTokenHash =
        true := by
      have hsame : (utf8 call.refreshToken).take 72 = (utf8 newest).take 72 := by
        rw [hsigned, take_utf8_signAsync, hnewest]
      rw [hhash, passwordService.compare_congr hsame, passwordService.compare_hash]
    exact hrejected (RefreshCall.Finds.accepted {
      signed := hsigned, live := htimely.1, refresh := hrefresh, found := hfound
      owned := hrecord.owned, notRevoked := hrecord.notRevoked, notExpired := htimely.2
      matching := hmatching
      notSuspended := hrecord.notSuspended, notPending := hrecord.notPending })
  · rintro ⟨payload', session, hdecode', hsession, hlate⟩ haccepted
    obtain rfl : payload = payload' := Option.some.inj (hdecode.symm.trans hdecode')
    obtain rfl : record.session = session := Option.some.inj (hget.symm.trans hsession)
    obtain ⟨payload', record', hfinds⟩ := haccepted.finds
    obtain rfl : payload = payload' := by
      have := hfinds.signed
      rw [this, JwtService.decode_signAsync] at hdecode
      exact (Option.some.inj hdecode).symm
    obtain rfl : record = record' := Option.some.inj (hfound.symm.trans hfinds.found)
    rcases hlate with hlate | hlate
    · exact absurd hfinds.live (not_lt.mpr hlate)
    · exact absurd hfinds.notExpired (not_lt.mpr hlate)

/-- After a call that accepted a token, each later call with it is turned away just when it comes
after the token or the session has expired. -/
theorem single_use_iff (first : RefreshCall) (db : Store)
    (h : first.Accepted jwt passwordService db) (later : List RefreshCall) :
    MeetAll (RefreshCall.run jwt passwordService)
        (fun call db => call.refreshToken = first.refreshToken →
          ¬ call.Accepted jwt passwordService db)
        later (first.run jwt passwordService db) ↔
      MeetAll (RefreshCall.run jwt passwordService)
        (fun call db => call.refreshToken = first.refreshToken → call.TooLate jwt db)
        later (first.run jwt passwordService db) := by
  obtain ⟨payload, record, hfinds⟩ := h.finds
  refine meetAll_congr (J := Reusable texts passwordService payload.sub payload.sessionId)
    (fun call _ hJ => hJ.run call) (fun call db hJ => ?_) later hfinds.reusable
  refine imp_congr_right fun htoken => ?_
  exact hJ.accepted_iff (htoken.trans hfinds.signed) hfinds.refresh

end

/-! ## A used token that is accepted -/

def teaJwtConfig : JwtConfig where
  accessSecret := "access"
  refreshSecret := "refresh"
  issuer := "werte"
  audience := "werte-apps"
  accessExpiresIn := 900
  refreshExpiresIn := 2592000

/-- The one user's id. -/
def teaUserId : Cuid where
  text := .ofList ('c' :: List.replicate 24 '0')
  length_eq := by rw [String.length_ofList, List.length_cons, List.length_replicate]
  plain := by
    intro c hc
    rw [String.toList_ofList, List.mem_cons] at hc
    rcases hc with rfl | hc
    · decide
    · obtain rfl := List.eq_of_mem_replicate hc
      decide

def teaTexts : IdTexts where
  user _ := teaUserId
  session _ := "8e6f237c-2f7b-4d76-b77b-c86393c8d8e8"

/-- A signature that has the payload's number in it, in ones. -/
def ones (payload : AuthTokenPayload) : String :=
  .ofList (List.replicate (Encodable.encode payload) '1')

/-- The number of ones that a text ends with. -/
def countOnes (token : String) : ℕ := (token.toList.reverse.takeWhile (· == '1')).length

theorem countOnes_ones (s : String) (payload : AuthTokenPayload) :
    countOnes (s ++ ("." ++ ones payload)) = Encodable.encode payload := by
  have hreverse : (s ++ ("." ++ ones payload)).toList.reverse =
      List.replicate (Encodable.encode payload) '1' ++ '.' :: s.toList.reverse := by
    simp [ones, String.toList_append]
  rw [countOnes, hreverse, List.takeWhile_append_of_pos (by simp)]
  simp

def teaJwt : JwtService teaJwtConfig teaTexts where
  signature _ payload := ones payload
  decode token := Encodable.decode (countOnes token)
  decode_compactToken _ payload := by
    rw [compactToken, countOnes_ones, Encodable.encodek]

/-- A hash that is what it reads. -/
def readBytes (plain : String) : String :=
  .ofList (((utf8 plain).take 72).map fun b => Char.ofNat b.toNat)

def teaPasswords : PasswordService where
  hash _ plain := readBytes plain
  compare plain hashed := readBytes plain == hashed
  compare_hash _ plain := by simp
  compare_congr h hashed := by rw [readBytes, readBytes, h]

def signInPayload : AuthTokenPayload where
  sub := 1
  role := .customer
  sessionId := 5
  type := .refresh
  iat := 0
  exp := 2592000

def signInToken : String := teaJwt.signAsync teaJwtConfig.refreshSecret signInPayload

def signInSession : UserSession where
  userId := 1
  refreshTokenHash := teaPasswords.hash 0 signInToken
  expiresAt := 2592000000
  revokedAt := none
  lastUsedAt := some 0

/-- A customer who has just signed in. -/
def signedIn : Store :=
  Db.empty.apply [⟨.user, 1, some { status := .active, role := .customer }⟩,
    ⟨.userSession, 5, some signInSession⟩]

/-- A refresh with the first token, at a time. -/
def refreshAt (now : Date) : RefreshCall := ⟨signInToken, 1, now, now, now⟩

theorem refreshAt_finds (now : ℤ) (h : now < 2592000000) :
    (refreshAt now).Finds teaJwt teaPasswords signedIn signInPayload
      ⟨signInSession, { status := .active, role := .customer }⟩ where
  signed := rfl
  live := by
    show now / 1000 < (2592000 : ℤ)
    omega
  refresh := rfl
  found := rfl
  owned := rfl
  notRevoked := rfl
  notExpired := h
  matching := teaPasswords.compare_hash 0 signInToken
  notSuspended := by simp
  notPending := by simp

/-- The token is accepted, is replaced, and is accepted again. -/
theorem used_token_accepted : (refreshAt 1000000).Accepted teaJwt teaPasswords signedIn ∧
    ¬ MeetAll (RefreshCall.run teaJwt teaPasswords)
      (fun call db => call.refreshToken = (refreshAt 1000000).refreshToken →
        ¬ call.Accepted teaJwt teaPasswords db)
      [refreshAt 2000000] ((refreshAt 1000000).run teaJwt teaPasswords signedIn) := by
  have hfinds := refreshAt_finds 1000000 (by decide)
  refine ⟨hfinds.accepted, fun hrejected => ?_⟩
  have hagain : ¬ (refreshAt 2000000).Accepted teaJwt teaPasswords _ := hrejected.1 rfl
  have htooLate : (refreshAt 2000000).TooLate teaJwt _ :=
    (hfinds.reusable.accepted_iff rfl rfl).mp hagain
  obtain ⟨payload, session, hdecode, hsession, hlate⟩ := htooLate
  obtain rfl : signInPayload = payload :=
    Option.some.inj ((JwtService.decode_signAsync _ _).symm.trans hdecode)
  rw [hfinds.run_eq] at hsession
  obtain rfl := Option.some.inj ((Db.get_put_self _ _).symm.trans hsession)
  simp [signInPayload, refreshAt, AuthService.rotated, teaJwtConfig] at hlate

theorem single_use_iff_signedIn : (refreshAt 1000000).Accepted teaJwt teaPasswords signedIn ∧
    (MeetAll (RefreshCall.run teaJwt teaPasswords)
        (fun call db => call.refreshToken = (refreshAt 1000000).refreshToken →
          ¬ call.Accepted teaJwt teaPasswords db)
        [refreshAt 2000000] ((refreshAt 1000000).run teaJwt teaPasswords signedIn) ↔
      MeetAll (RefreshCall.run teaJwt teaPasswords)
        (fun call db => call.refreshToken = (refreshAt 1000000).refreshToken →
          call.TooLate teaJwt db)
        [refreshAt 2000000] ((refreshAt 1000000).run teaJwt teaPasswords signedIn)) :=
  have haccepted := (refreshAt_finds 1000000 (by decide)).accepted
  ⟨haccepted, single_use_iff _ _ haccepted _⟩

end WerTe
