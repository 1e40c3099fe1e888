import VehiclesOnline.Session.ClientSideSession

/-! What the readers and writers of cookies rely on: a session names the cookies of keys
and codes their values, and a factory finds such a session in every jar of a run. Both
kinds of session meet this specification. -/

namespace VehiclesOnline

open EncryptedClientSideSessionFactory

/-- The name of the cookie of a key, and the value that a raw text under a name stands for. -/
structure SessionCoding where
  name : String → String
  read : String → String → Except Throwable String

namespace SessionCoding

variable (coding : SessionCoding)

/-- The value of a key in a store of raw cookies. -/
def fetch (raw : KeyValue.Store String fun _ => String) (key : String) :
    Except Throwable (Option String) :=
  match raw (coding.name key) with
  | some value => (coding.read (coding.name key) value).map some
  | none => .ok none

/-- A raw text under the name of a key that reads as the given value. -/
def Reads (key raw value : String) : Prop := coding.read (coding.name key) raw = .ok value

end SessionCoding

structure ClientSideSession.Spec (session : ClientSideSession) (coding : SessionCoding) : Prop where
  nameCookie_eq : session.nameCookie = coding.name
  getCookieValue_eq : ∀ name value,
    session.getCookieValue (.ofRequest name value) = coding.read name value
  newCookie_name : ∀ random name value, (session.newCookie random name value).name = name
  newCookie_expired : ∀ random name value,
    (session.newCookie random name value).expired = false
  read_newCookie : ∀ random name value,
    coding.read name (session.newCookie random name value).value = .ok value

/-- A factory finds a session of one coding in every jar that meets an invariant, which
the cookies of the given keys preserve. -/
structure ClientSideSessionFactory.Spec (factory : ClientSideSessionFactory)
    (coding : SessionCoding) (stable : Jar → Prop) (keys : Set String) : Prop where
  injOn_name : Set.InjOn coding.name keys
  getSession_eq : ∀ jar, stable jar →
    ∃ session, factory.getSession jar = .ok session ∧ session.Spec coding
  stable_receive : ∀ jar cookies, stable jar →
    (∀ cookie ∈ cookies, cookie.name ∈ coding.name '' keys) → stable (jar.receive cookies)

/-- The factory that always finds the given session. -/
def constantSessionFactory (session : ClientSideSession) : ClientSideSessionFactory where
  getSession _ := .ok session
  newSessionCookiesIfNeeded _ _ := .ok none

/-! ### Clear text -/

def clearTextCoding : SessionCoding where
  name key := key
  read _ value := .ok value

theorem clearTextClientSideSession_spec (cookieFlags : CookieFlags) (trackingId : String) :
    (clearTextClientSideSession cookieFlags trackingId).Spec clearTextCoding where
  nameCookie_eq := rfl
  getCookieValue_eq _ _ := rfl
  newCookie_name _ _ _ := cookieFlags.applyToCookie_name _
  newCookie_expired _ _ _ := cookieFlags.applyToCookie_expired _ rfl
  read_newCookie _ _ _ := by simp [clearTextCoding, clearTextClientSideSession]

theorem clearTextClientSideSessionFactory_spec (cookieFlags : CookieFlags) :
    (clearTextClientSideSessionFactory cookieFlags).Spec clearTextCoding (fun _ => True)
      Set.univ where
  injOn_name := Function.injective_id.injOn
  getSession_eq jar _ := by
    cases h : jar.get trackingIdCookieName with
    | none =>
        exact ⟨_, by simp only [clearTextClientSideSessionFactory, h],
          clearTextClientSideSession_spec cookieFlags defaultTrackingId⟩
    | some trackingId =>
        exact ⟨_, by simp only [clearTextClientSideSessionFactory, h],
          clearTextClientSideSession_spec cookieFlags trackingId⟩
  stable_receive _ _ _ _ := trivial

/-! ### Encrypted -/

def encryptedCoding (crypto : SessionCrypto) (sessionSecretKey : String) : SessionCoding where
  name key := crypto.cookieNameHashGenerator.hash (sessionSecretKey ++ key)
  read name value :=
    (encryptedClientSideSession crypto "" sessionSecretKey).getCookieValue (.ofRequest name value)

section Session

variable (crypto : SessionCrypto) (trackingId sessionSecretKey : String)

/-- The name in front of the payload decides: the rest is the value. -/
theorem getCookieValue_of_decrypt {name value decrypted : String}
    (h : crypto.encryption.decrypt value = .ok decrypted) :
    (encryptedClientSideSession crypto trackingId sessionSecretKey).getCookieValue
        (.ofRequest name value) =
      if name = (Text.splitAt name.length decrypted).1 then
        .ok (Text.splitAt name.length decrypted).2
      else .error ⟨.assertionError, some ("assertion failed: " ++
        "The cookie name bytes from the payload must match the cookie name")⟩ := by
  simp only [encryptedClientSideSession, Cookie.ofRequest, h]
  rfl

theorem getCookieValue_of_decrypt_error {name value : String} {e : Throwable}
    (h : crypto.encryption.decrypt value = .error e) :
    (encryptedClientSideSession crypto trackingId sessionSecretKey).getCookieValue
        (.ofRequest name value) = .error e := by
  simp only [encryptedClientSideSession, Cookie.ofRequest, h]
  rfl

/-- A cookie is accepted with a value exactly when it decrypts to its own name followed by
that value. -/
theorem getCookieValue_eq_ok_iff {name value v : String} :
    (encryptedClientSideSession crypto trackingId sessionSecretKey).getCookieValue
        (.ofRequest name value) = .ok v ↔
      crypto.encryption.decrypt value = .ok (name ++ v) := by
  cases hd : crypto.encryption.decrypt value with
  | error e =>
      rw [getCookieValue_of_decrypt_error crypto trackingId sessionSecretKey hd]
      simp
  | ok decrypted =>
      rw [getCookieValue_of_decrypt crypto trackingId sessionSecretKey hd]
      by_cases hname : name = (Text.splitAt name.length decrypted).1
      · rw [if_pos hname]
        have hjoin := Text.splitAt_join name.length decrypted
        rw [← hname] at hjoin
        constructor
        · intro h
          rw [← Except.ok.inj h, hjoin]
        · intro h
          rw [Except.ok.inj h, Text.splitAt_append rfl]
      · rw [if_neg hname]
        constructor
        · intro h
          cases h
        · intro h
          rw [Except.ok.inj h, Text.splitAt_append rfl] at hname
          exact absurd rfl hname

theorem encryptedClientSideSession_spec :
    (encryptedClientSideSession crypto trackingId sessionSecretKey).Spec
      (encryptedCoding crypto sessionSecretKey) where
  nameCookie_eq := rfl
  getCookieValue_eq _ _ := rfl
  newCookie_name _ _ _ := crypto.cookieFlags.applyToCookie_name _
  newCookie_expired _ _ _ := crypto.cookieFlags.applyToCookie_expired _ rfl
  read_newCookie random name value := by
    apply (getCookieValue_eq_ok_iff crypto "" sessionSecretKey).mpr
    simp only [encryptedClientSideSession, CookieFlags.applyToCookie_value]
    exact crypto.encryption.decrypt_encrypt random (name ++ value)

/-- One encrypted session, whatever the jar holds. -/
theorem constantSessionFactory_spec {keys : Set String}
    (hhash : Set.InjOn crypto.cookieNameHashGenerator.hash ((sessionSecretKey ++ ·) '' keys)) :
    (constantSessionFactory (encryptedClientSideSession crypto trackingId sessionSecretKey)).Spec
      (encryptedCoding crypto sessionSecretKey) (fun _ => True) keys where
  injOn_name := by
    intro k hk k' hk' h
    have hkey := hhash (Set.mem_image_of_mem _ hk) (Set.mem_image_of_mem _ hk') h
    exact String.append_right_inj sessionSecretKey |>.mp hkey
  getSession_eq _ _ := ⟨_, rfl, encryptedClientSideSession_spec crypto trackingId sessionSecretKey⟩
  stable_receive _ _ _ _ := trivial

end Session

/-! ### The session cookies of an encrypted session -/

namespace EncryptedClientSideSessionFactory

variable (factory : EncryptedClientSideSessionFactory)

theorem hash_ne_trackingIdCookieName (text : String) :
    factory.cookieNameHashing.hash text ≠ trackingIdCookieName := by
  intro h
  have hlen := congrArg String.length h
  rw [factory.cookieNameHashing.length_hash] at hlen
  exact absurd hlen (by decide)

/-- Only the two session cookies matter. -/
theorem validateSessionCookies_congr {jar jar' : Jar}
    (ht : jar'.get trackingIdCookieName = jar.get trackingIdCookieName)
    (hs : jar'.get factory.sessionSecretKeySuffixCookieName =
      jar.get factory.sessionSecretKeySuffixCookieName) :
    factory.validateSessionCookies jar' = factory.validateSessionCookies jar := by
  simp only [validateSessionCookies, ht, hs]

/-- A pair of session cookies is accepted exactly when it decrypts to the name of the suffix
cookie followed by the secret. -/
theorem validateSessionCookies_eq_ok_iff {jar : Jar} {trackingId suffix : String}
    (ht : jar.get trackingIdCookieName = some trackingId)
    (hs : jar.get factory.sessionSecretKeySuffixCookieName = some suffix)
    {found : Option (String × String)} :
    factory.validateSessionCookies jar = .ok found ↔
      ∃ sessionSecretKey, found = some (trackingId, sessionSecretKey) ∧
        factory.encryption.decrypt (trackingId ++ suffix) =
          .ok (factory.sessionSecretKeySuffixCookieName ++ sessionSecretKey) := by
  simp only [validateSessionCookies, ht, hs]
  cases hd : factory.encryption.decrypt (trackingId ++ suffix) with
  | error e =>
      constructor
      · intro h
        cases h
      · intro h
        obtain ⟨_, _, h⟩ := h
        cases h
  | ok decrypted =>
      simp only [bind, Except.bind]
      by_cases hname : factory.sessionSecretKeySuffixCookieName =
          (Text.splitAt factory.sessionSecretKeySuffixCookieName.length decrypted).1
      · have hjoin := Text.splitAt_join factory.sessionSecretKeySuffixCookieName.length decrypted
        rw [← hname] at hjoin
        rw [if_neg (not_not.mpr hname)]
        constructor
        · intro h
          exact ⟨_, (Except.ok.inj h).symm, by rw [hjoin]⟩
        · intro h
          obtain ⟨sessionSecretKey, rfl, h⟩ := h
          rw [Except.ok.inj h, Text.splitAt_append rfl]
          rfl
      · rw [if_pos hname]
        constructor
        · intro h
          cases h
        · intro h
          obtain ⟨sessionSecretKey, _, h⟩ := h
          rw [Except.ok.inj h, Text.splitAt_append rfl] at hname
          exact absurd rfl hname

/-- The two cookies of a new session are accepted, with the secret that was drawn. -/
theorem validateSessionCookies_newSession (draw : SessionDraw) {jar : Jar}
    (ht : jar.get trackingIdCookieName = some (factory.newSessionPair draw).1)
    (hs : jar.get factory.sessionSecretKeySuffixCookieName =
      some (factory.newSessionPair draw).2) :
    factory.validateSessionCookies jar =
      .ok (some ((factory.newSessionPair draw).1, encodeHexString draw.sessionSecretKey)) := by
  rw [factory.validateSessionCookies_eq_ok_iff ht hs]
  refine ⟨_, rfl, ?_⟩
  rw [newSessionPair, Text.splitAt_join, sessionSecretKeyCipherText]
  exact factory.encryption.decrypt_encrypt _ _

theorem suffixCookieName_ne_trackingIdCookieName :
    factory.sessionSecretKeySuffixCookieName ≠ trackingIdCookieName :=
  factory.hash_ne_trackingIdCookieName factory.sessionSecretKeySuffixKey

theorem suffixCookieName_ne_of_length {name : String} (h : name.length ≠ 40) :
    factory.sessionSecretKeySuffixCookieName ≠ name := by
  intro he
  rw [← he, sessionSecretKeySuffixCookieName, factory.cookieNameHashing.length_hash] at h
  exact h rfl

/-- A request into which the cookies of a new session are merged carries both of them. -/
theorem get_merge_newSessionCookies (draw : SessionDraw) (jar : Jar) :
    (jar.merge (factory.newSessionCookies draw)).get trackingIdCookieName =
        some (factory.newSessionPair draw).1 ∧
      (jar.merge (factory.newSessionCookies draw)).get factory.sessionSecretKeySuffixCookieName =
        some (factory.newSessionPair draw).2 := by
  have hlang : langCookie.name ≠ factory.sessionSecretKeySuffixCookieName :=
    Ne.symm (factory.suffixCookieName_ne_of_length (by decide))
  have hlang' : langCookie.name ≠ trackingIdCookieName := by decide
  simp only [newSessionCookies, Jar.merge, List.foldl_cons, List.foldl_nil]
  rw [Jar.get_put_of_ne hlang, Jar.get_put_of_ne hlang',
    Jar.get_put_of_ne factory.suffixCookieName_ne_trackingIdCookieName]
  exact ⟨Jar.get_put _ _, Jar.get_put _ _⟩

theorem newSessionCookies_expired (draw : SessionDraw) :
    ∀ cookie ∈ factory.newSessionCookies draw, cookie.expired = false := by
  simp [newSessionCookies, Cookie.expired, langCookie]

theorem validateSessionCookies_of_none {jar : Jar} (ht : jar.get trackingIdCookieName = none)
    (hs : jar.get factory.sessionSecretKeySuffixCookieName = none) :
    factory.validateSessionCookies jar = .ok none := by
  simp only [validateSessionCookies, ht, hs]
  rfl

theorem getSession_of_validate {jar : Jar} {trackingId sessionSecretKey : String}
    (h : factory.validateSessionCookies jar = .ok (some (trackingId, sessionSecretKey))) :
    factory.getSession jar =
      .ok (encryptedClientSideSession factory.crypto trackingId sessionSecretKey) := by
  rw [getSession, h]
  rfl

/-- The texts whose digests name the cookies of a session: its own cookie and the given
keys. -/
def hashedTexts (sessionSecretKey : String) (keys : Set String) : Set String :=
  insert factory.sessionSecretKeySuffixKey ((sessionSecretKey ++ ·) '' keys)

/-- A session stays the same while cookies of its keys are written and discarded. -/
theorem toFactory_spec (trackingId : String) {sessionSecretKey : String} {keys : Set String}
    (hhash : Set.InjOn factory.cookieNameHashing.hash (factory.hashedTexts sessionSecretKey keys))
    (hsuffix : ∀ key ∈ keys, factory.sessionSecretKeySuffixKey ≠ sessionSecretKey ++ key) :
    factory.toFactory.Spec (encryptedCoding factory.crypto sessionSecretKey)
      (fun jar => factory.validateSessionCookies jar = .ok (some (trackingId, sessionSecretKey)))
      keys where
  injOn_name :=
    (constantSessionFactory_spec factory.crypto trackingId sessionSecretKey
      (hhash.mono (Set.subset_insert _ _))).injOn_name
  getSession_eq jar hjar :=
    ⟨_, factory.getSession_of_validate hjar,
      encryptedClientSideSession_spec factory.crypto trackingId sessionSecretKey⟩
  stable_receive jar cookies hjar hcookies := by
    have hname : ∀ cookie ∈ cookies, ∃ key ∈ keys,
        factory.cookieNameHashing.hash (sessionSecretKey ++ key) = cookie.name := hcookies
    have ht : ∀ cookie ∈ cookies, cookie.name ≠ trackingIdCookieName := by
      intro cookie hc
      obtain ⟨key, _, hkey⟩ := hname cookie hc
      rw [← hkey]
      exact factory.hash_ne_trackingIdCookieName _
    have hs : ∀ cookie ∈ cookies, cookie.name ≠ factory.sessionSecretKeySuffixCookieName := by
      intro cookie hc he
      obtain ⟨key, hk, hkey⟩ := hname cookie hc
      rw [← hkey, sessionSecretKeySuffixCookieName] at he
      have hmem := Set.mem_insert_of_mem factory.sessionSecretKeySuffixKey
        (Set.mem_image_of_mem (sessionSecretKey ++ ·) hk)
      exact hsuffix key hk (hhash (Set.mem_insert _ _) hmem he.symm)
    rw [factory.validateSessionCookies_congr (Jar.get_receive_of_forall_ne ht jar)
      (Jar.get_receive_of_forall_ne hs jar)]
    exact hjar

end EncryptedClientSideSessionFactory

end VehiclesOnline
