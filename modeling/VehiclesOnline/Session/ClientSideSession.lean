import VehiclesOnline.Session.Encryption

/-! Sessions that live in cookies, as clear text or encrypted, and the factories that
find the session of a request and create the cookies of a new one. -/

namespace VehiclesOnline

/-- Flags change neither the name nor the value of a cookie, and do not end its life. -/
structure CookieFlags where
  applyToCookie : Cookie → Cookie
  applyToCookie_name : ∀ cookie, (applyToCookie cookie).name = cookie.name
  applyToCookie_value : ∀ cookie, (applyToCookie cookie).value = cookie.value
  applyToCookie_expired : ∀ cookie, cookie.expired = false →
    (applyToCookie cookie).expired = false

attribute [simp] CookieFlags.applyToCookie_name CookieFlags.applyToCookie_value

def noCookieFlags : CookieFlags where
  applyToCookie cookie := cookie
  applyToCookie_name _ := rfl
  applyToCookie_value _ := rfl
  applyToCookie_expired _ h := h

/-- The configured lifetime is positive; without configuration it is thirty minutes. -/
def cookieFlagsFromConfig (secureCookies : Bool) (cookieMaxAgeSeconds : ℤ)
    (hpos : 0 < cookieMaxAgeSeconds) : CookieFlags where
  applyToCookie cookie :=
    { cookie with secure := secureCookies, maxAge := some cookieMaxAgeSeconds }
  applyToCookie_name _ := rfl
  applyToCookie_value _ := rfl
  applyToCookie_expired _ _ := by simp [Cookie.expired, hpos]

structure ClientSideSession where
  trackingId : String
  nameCookie : String → String
  newCookie : SecureRandomBytes → String → String → Cookie
  getCookieValue : Cookie → Except Throwable String

/-- The random bytes that the creation of a session draws. -/
structure SessionDraw where
  sessionSecretKey : SecureRandomBytes
  initializationVector : SecureRandomBytes

structure ClientSideSessionFactory where
  getSession : Jar → Except Throwable ClientSideSession
  newSessionCookiesIfNeeded : SessionDraw → Jar → Except Throwable (Option (List Cookie))

def trackingIdCookieName : String := "tracking_id"

/-- Forces English until the Welsh translation is finalised. -/
def langCookie : Cookie := { name := "PLAY_LANG", value := "en" }

/-! ### Clear text -/

section ClearText

variable (cookieFlags : CookieFlags)

def clearTextClientSideSession (trackingId : String) : ClientSideSession where
  trackingId := trackingId
  nameCookie key := key
  newCookie _ name value := cookieFlags.applyToCookie { name := name, value := value }
  getCookieValue cookie := .ok cookie.value

def defaultTrackingId : String := "default_test_tracking_id"

def clearTextClientSideSessionFactory : ClientSideSessionFactory where
  getSession request :=
    match request.get trackingIdCookieName with
    | some trackingId => .ok (clearTextClientSideSession cookieFlags trackingId)
    | none => .ok (clearTextClientSideSession cookieFlags defaultTrackingId)
  newSessionCookiesIfNeeded _ _ := .ok (some [langCookie])

end ClearText

/-! ### Encrypted -/

/-- `Hex.encodeHexString`, with lower case digits. -/
def encodeHexString (bytes : SecureRandomBytes) : String :=
  String.ofList ((List.ofFn bytes).flatMap fun byte => Sha1.hexDigits 2 byte.toNat)

theorem length_encodeHexString (bytes : SecureRandomBytes) :
    (encodeHexString bytes).toList.length = 32 := by
  rw [encodeHexString, String.toList_ofList, List.length_flatMap]
  simp

/-- What the sessions of the application share: the flags of their cookies, the cipher under
the key of the application, and the digest that names cookies. -/
structure SessionCrypto where
  cookieFlags : CookieFlags
  encryption : CookieEncryption
  cookieNameHashGenerator : HashGenerator

def encryptedClientSideSession (crypto : SessionCrypto) (trackingId sessionSecretKey : String) :
    ClientSideSession where
  trackingId := trackingId
  nameCookie key := crypto.cookieNameHashGenerator.hash (sessionSecretKey ++ key)
  newCookie random name value :=
    let nameCoupledToValue := name ++ value
    let cipherText := crypto.encryption.encrypt random nameCoupledToValue
    crypto.cookieFlags.applyToCookie { name := name, value := cipherText }
  getCookieValue cookie := do
    let cookieName := cookie.name
    let cipherText := cookie.value
    let valueCoupledToName ← crypto.encryption.decrypt cipherText
    let (cookieNameFromPayload, value) := Text.splitAt cookieName.length valueCoupledToName
    if cookieName = cookieNameFromPayload then
      return value
    else
      throw ⟨.assertionError, some ("assertion failed: " ++
        "The cookie name bytes from the payload must match the cookie name")⟩

def sessionSecretKeySuffixDefaultValue : String := "FE291934-66BD-4500-B27F-517C7D77F26B"

/-- The factory, with the values that it reads from the configuration. -/
structure EncryptedClientSideSessionFactory where
  cookieFlags : CookieFlags
  encryption : CookieEncryption
  cookieNameHashing : CookieNameHashGenerator
  secureCookies : Bool := true
  sessionSecretKeySuffixKey : String := sessionSecretKeySuffixDefaultValue

namespace EncryptedClientSideSessionFactory

variable (factory : EncryptedClientSideSessionFactory)

def crypto : SessionCrypto where
  cookieFlags := factory.cookieFlags
  encryption := factory.encryption
  cookieNameHashGenerator := factory.cookieNameHashing.toHashGenerator

def sessionSecretKeySuffixCookieName : String :=
  factory.cookieNameHashing.hash factory.sessionSecretKeySuffixKey

def validateSessionCookies (requestCookies : Jar) : Except Throwable (Option (String × String)) :=
  let trackingIdCookie := requestCookies.get trackingIdCookieName
  let sessionSecretKeySuffixCookie := requestCookies.get factory.sessionSecretKeySuffixCookieName
  match trackingIdCookie, sessionSecretKeySuffixCookie with
  | some trackingId, some sessionSecretKeySuffix => do
      let decrypted ← factory.encryption.decrypt (trackingId ++ sessionSecretKeySuffix)
      let (cookieNameFromPayload, sessionSecretKey) :=
        Text.splitAt factory.sessionSecretKeySuffixCookieName.length decrypted
      if factory.sessionSecretKeySuffixCookieName ≠ cookieNameFromPayload then
        throw (invalidSessionException
          "The cookie name bytes from the payload must match the cookie name")
      else
        return some (trackingId, sessionSecretKey)
  | none, none => return none
  | _, _ => throw (invalidSessionException "Invalid session cookies coming from the request")

def trackingIdLengthChars : ℕ := 20

/-- The ciphertext from whose two parts the cookies of a new session are made. -/
def sessionSecretKeyCipherText (draw : SessionDraw) : String :=
  factory.encryption.encrypt draw.initializationVector
    (factory.sessionSecretKeySuffixCookieName ++ encodeHexString draw.sessionSecretKey)

/-- The parts of the ciphertext that the two cookies of a new session hold. -/
def newSessionPair (draw : SessionDraw) : String × String :=
  Text.splitAt trackingIdLengthChars (factory.sessionSecretKeyCipherText draw)

def newSessionCookies (draw : SessionDraw) : List Cookie :=
  let (prefixValue, suffixValue) := factory.newSessionPair draw
  [{ name := trackingIdCookieName, value := prefixValue, secure := factory.secureCookies },
    { name := factory.sessionSecretKeySuffixCookieName, value := suffixValue,
      secure := factory.secureCookies },
    langCookie]

def newSessionCookiesIfNeeded (draw : SessionDraw) (request : Jar) :
    Except Throwable (Option (List Cookie)) := do
  match ← factory.validateSessionCookies request with
  | some _ => return none
  | none => return some (factory.newSessionCookies draw)

def getSession (request : Jar) : Except Throwable ClientSideSession := do
  match ← factory.validateSessionCookies request with
  | some (trackingId, sessionSecretKey) =>
      return encryptedClientSideSession factory.crypto trackingId sessionSecretKey
  | none => throw (invalidSessionException "No session present in the request")

def toFactory : ClientSideSessionFactory where
  getSession := factory.getSession
  newSessionCookiesIfNeeded := factory.newSessionCookiesIfNeeded

end EncryptedClientSideSessionFactory

/-- The factory as the production module binds it, with the default lifetime of cookies. -/
def productionFactory (secretKeySpec : Equiv.Perm (BlockMode.Block 16)) :
    EncryptedClientSideSessionFactory where
  cookieFlags := cookieFlagsFromConfig true (30 * 60) (by decide)
  encryption := aesEncryption secretKeySpec
  cookieNameHashing := sha1CookieNameHashGenerator

/-! ### Values that are stored as JSON -/

/-- The JSON text of a model, written by its `Writes` and read by `Json.parse` and its
`Reads`. -/
structure JsonFormat (Model : Type*) where
  toJson : Model → String
  fromJson : String → Except Throwable Model
  fromJson_toJson : ∀ model, fromJson (toJson model) = .ok model

/-- A cookie as a request carries it. -/
def Cookie.ofRequest (name value : String) : Cookie := { name := name, value := value }

/-! ### The adapters of requests and responses -/

namespace RichCookies

variable (requestCookies : Jar) (clientSideSessionFactory : ClientSideSessionFactory)

def getString (key : String) : Except Throwable (Option String) := do
  let session ← clientSideSessionFactory.getSession requestCookies
  let cookieName := session.nameCookie key
  match requestCookies.get cookieName with
  | some value => return some (← session.getCookieValue (.ofRequest cookieName value))
  | none => return none

def getModel {Model : Type} (format : JsonFormat Model) (cacheKey : String) :
    Except Throwable (Option Model) := do
  let session ← clientSideSessionFactory.getSession requestCookies
  let cookieName := session.nameCookie cacheKey
  match requestCookies.get cookieName with
  | some value => do
      let json ← session.getCookieValue (.ofRequest cookieName value)
      return some (← format.fromJson json)
  | none => return none

def trackingId : Except Throwable String := do
  let session ← clientSideSessionFactory.getSession requestCookies
  return session.trackingId

end RichCookies

namespace RichSimpleResult

variable {α : Type} (inner : SimpleResult α) (requestCookies : Jar)
variable (clientSideSessionFactory : ClientSideSessionFactory)

def withCookie (random : SecureRandomBytes) (key value : String) :
    Except Throwable (SimpleResult α) := do
  let session ← clientSideSessionFactory.getSession requestCookies
  let cookieName := session.nameCookie key
  let cookie := session.newCookie random cookieName value
  return inner.withCookies [cookie]

def withModel {Model : Type} (random : SecureRandomBytes) (format : JsonFormat Model)
    (cacheKey : String) (model : Model) : Except Throwable (SimpleResult α) :=
  withCookie inner requestCookies clientSideSessionFactory random cacheKey (format.toJson model)

/-- The keys are a set; their order and repetitions have no effect. -/
def discardingCookies (keys : List String) : Except Throwable (SimpleResult α) := do
  let session ← clientSideSessionFactory.getSession requestCookies
  let cookieNames := keys.map session.nameCookie
  return inner.discardingCookies (cookieNames.map fun name => { name := name })

def discardingCookie (key : String) : Except Throwable (SimpleResult α) :=
  discardingCookies inner requestCookies clientSideSessionFactory [key]

end RichSimpleResult

end VehiclesOnline
