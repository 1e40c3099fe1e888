import VehiclesOnline.Session.Healing
import VehiclesOnline.Session.Refinement

/-! # The response that establishes a session

The filter on the header of a request, and what the cookies of its response leave for the next
request. -/

namespace VehiclesOnline

open EncryptedClientSideSessionFactory

/-! ## The header of a request -/

/-- The values of the headers. A name is not case sensitive and stands in lower case. -/
abbrev Headers := AList fun _ : String => List String

/-- How the cookies of a request are read from the text of its header, and others are merged into
the text. -/
structure CookieHeader where
  cookies : String → Jar
  merge : String → List Cookie → String

namespace EnsureSessionCreatedFilter

def COOKIE : String := "Cookie"

/-- The headers of a request, and everything else of it. -/
structure RequestHeader (Rest : Type) where
  headers : Headers
  rest : Rest

def Headers.get (headers : Headers) (key : String) : Option String :=
  (headers.lookup key.toLower).bind List.head?

variable {Rest α : Type} (play : CookieHeader)

def RequestHeader.cookies (requestHeader : RequestHeader Rest) : Jar :=
  (Headers.get requestHeader.headers COOKIE).elim ∅ play.cookies

def requestWithSessionCookies (requestHeader : RequestHeader Rest) (cookies : List Cookie) :
    RequestHeader Rest :=
  let requestCookiesString := (Headers.get requestHeader.headers COOKIE).getD ""
  let mergedCookiesString := play.merge requestCookiesString cookies
  { requestHeader with
    headers := requestHeader.headers.insert COOKIE.toLower [mergedCookiesString] }

def apply (sessionFactory : ClientSideSessionFactory) (draw : SessionDraw)
    (nextFilter : RequestHeader Rest → Except Throwable (SimpleResult α))
    (requestHeader : RequestHeader Rest) : Except Throwable (SimpleResult α) := do
  match ← sessionFactory.newSessionCookiesIfNeeded draw (requestHeader.cookies play) with
  | some cookies =>
      let simpleResult ← nextFilter (requestWithSessionCookies play requestHeader cookies)
      return simpleResult.withCookies cookies
  | none => nextFilter requestHeader

/-- The cookies of the request keep their names and values, and those that are merged in win. -/
def Preserves (requestHeader : RequestHeader Rest) (cookies : List Cookie) : Prop :=
  ((requestWithSessionCookies play requestHeader cookies).cookies play).get =
    ((requestHeader.cookies play).merge cookies).get

/-- For a handler that looks at nothing but the cookies, the filter is that on cookies. -/
theorem apply_eq_ensureSessionCreatedFilter {sessionFactory : ClientSideSessionFactory}
    {draw : SessionDraw} {nextFilter : Jar → Except Throwable (SimpleResult α)}
    {requestHeader : RequestHeader Rest}
    (h : ∀ cookies,
      sessionFactory.newSessionCookiesIfNeeded draw (requestHeader.cookies play) =
          .ok (some cookies) →
        (requestWithSessionCookies play requestHeader cookies).cookies play =
          (requestHeader.cookies play).merge cookies) :
    apply play sessionFactory draw (fun header => nextFilter (header.cookies play))
        requestHeader =
      ensureSessionCreatedFilter sessionFactory draw nextFilter (requestHeader.cookies play) := by
  rw [apply, ensureSessionCreatedFilter]
  cases hnew : sessionFactory.newSessionCookiesIfNeeded draw (requestHeader.cookies play) with
  | error cause => rfl
  | ok cookies =>
      cases cookies with
      | none => rfl
      | some cookies =>
          simp only [bind, Except.bind]
          rw [h cookies hnew]

end EnsureSessionCreatedFilter

/-! ## What is stored in a response -/

/-- A response in which the last that was done about the cookie of a key is that a value was
stored, whatever was set or discarded before. -/
inductive Stored {α : Type} (factory : ClientSideSessionFactory) (requestCookies : Jar)
    (key value : String) : SimpleResult α → Prop
  | withCookie {inner result : SimpleResult α} (random : SecureRandomBytes)
      (h : RichSimpleResult.withCookie inner requestCookies factory random key value =
        .ok result) : Stored factory requestCookies key value result
  | withCookies {inner : SimpleResult α} (h : Stored factory requestCookies key value inner)
      (cookies : List Cookie)
      (hother : ∀ cookie ∈ cookies, ∀ session, factory.getSession requestCookies = .ok session →
        cookie.name ≠ session.nameCookie key) :
      Stored factory requestCookies key value (inner.withCookies cookies)

variable {α : Type} {factory : ClientSideSessionFactory} {requestCookies : Jar}
variable {key value : String}

/-- A browser holds what was stored, under the name of the key. -/
theorem Stored.get_receive {session : ClientSideSession} {coding : SessionCoding}
    {result : SimpleResult α} (h : Stored factory requestCookies key value result)
    (hsession : factory.getSession requestCookies = .ok session) (hspec : session.Spec coding)
    (browser : Jar) :
    ∃ raw, (browser.receive result.setCookies).get (session.nameCookie key) = some raw ∧
      coding.Reads key raw value := by
  induction h with
  | @withCookie inner result random h =>
      have hcall := CookieCall.apply_eq hsession inner (.withCookie random key value)
      obtain rfl := Except.ok.inj (h.symm.trans hcall)
      have hname := hspec.newCookie_name random (session.nameCookie key) value
      have hreceive : ∀ jar : Jar, jar.receive
          (CookieCall.cookies session (.withCookie random key value)) =
            jar.put (session.newCookie random (session.nameCookie key) value) := by
        intro jar
        simp [CookieCall.cookies, Jar.receive, Jar.receiveCookie, hspec.newCookie_expired]
      refine ⟨(session.newCookie random (session.nameCookie key) value).value, ?_, ?_⟩
      · rw [Jar.get_receive_withCookies, hreceive]
        have hput := Jar.get_put (browser.receive inner.setCookies)
          (session.newCookie random (session.nameCookie key) value)
        rwa [hname] at hput
      · rw [SessionCoding.Reads, ← hspec.nameCookie_eq]
        exact hspec.read_newCookie random (session.nameCookie key) value
  | withCookies h cookies hother ih =>
      obtain ⟨raw, hraw, hreads⟩ := ih
      refine ⟨raw, ?_, hreads⟩
      rw [Jar.get_receive_withCookies, Jar.get_receive_of_forall_ne]
      · exact hraw
      · exact fun cookie hmem => hother cookie hmem session hsession

/-! ## The session of the first response -/

namespace EnsureSessionCreatedFilter

variable (factory : EncryptedClientSideSessionFactory) (draw : SessionDraw)

/-- The session of the secret that is drawn. Its tracking id is the front of the ciphertext. -/
def newSession : ClientSideSession :=
  encryptedClientSideSession factory.crypto
    (String.ofList ((factory.sessionSecretKeyCipherText draw).toList.take trackingIdLengthChars))
    (encodeHexString draw.sessionSecretKey)

theorem newSession_spec : (newSession factory draw).Spec
    (encryptedCoding factory.crypto (encodeHexString draw.sessionSecretKey)) :=
  encryptedClientSideSession_spec factory.crypto _ _

/-- A request that carries a session and needs no other one. -/
structure HasNewSession (jar : Jar) : Prop where
  newSessionCookiesIfNeeded : ∀ draw', factory.newSessionCookiesIfNeeded draw' jar = .ok none
  getSession : factory.getSession jar = .ok (newSession factory draw)

theorem hasNewSession_of_get {jar : Jar}
    (ht : jar.get trackingIdCookieName = some (factory.newSessionPair draw).1)
    (hs : jar.get factory.sessionSecretKeySuffixCookieName =
      some (factory.newSessionPair draw).2) : HasNewSession factory draw jar := by
  have hvalidate := factory.validateSessionCookies_newSession draw ht hs
  exact ⟨fun draw' => newSessionCookiesIfNeeded_of_some factory draw' hvalidate,
    factory.getSession_of_validate hvalidate⟩

/-- The cookies of the filter come last in its response. -/
theorem hasNewSession_receive (inner : SimpleResult α) (browser : Jar) :
    HasNewSession factory draw
      (browser.receive (inner.withCookies (factory.newSessionCookies draw)).setCookies) := by
  obtain ⟨ht, hs⟩ := factory.get_merge_newSessionCookies draw (browser.receive inner.setCookies)
  rw [← Jar.receive_eq_merge (factory.newSessionCookies_expired draw),
    ← Jar.get_receive_withCookies] at ht hs
  exact hasNewSession_of_get factory draw ht hs

/-- They replace no cookie of a key. -/
theorem get_receive_newSessionCookies {key : String}
    (hkey : (newSession factory draw).nameCookie key ≠ factory.sessionSecretKeySuffixCookieName)
    (inner : SimpleResult α) (browser : Jar) :
    (browser.receive (inner.withCookies (factory.newSessionCookies draw)).setCookies).get
        ((newSession factory draw).nameCookie key) =
      (browser.receive inner.setCookies).get ((newSession factory draw).nameCookie key) := by
  have hlength : ((newSession factory draw).nameCookie key).length = 40 :=
    factory.cookieNameHashing.length_hash _
  have hshort : ∀ name : String, name.length ≠ 40 →
      name ≠ (newSession factory draw).nameCookie key := by
    rintro name hname rfl
    exact hname hlength
  rw [Jar.get_receive_withCookies, Jar.get_receive_of_forall_ne]
  simp only [newSessionCookies, List.forall_mem_cons, List.not_mem_nil, false_implies,
    implies_true, and_true]
  exact ⟨hshort _ (by decide), hkey.symm, hshort _ (by decide)⟩

theorem getString_of_stored {key value : String} {jar : Jar} {inner : SimpleResult α}
    (hjar : factory.getSession jar = .ok (newSession factory draw))
    (hstored : Stored factory.toFactory jar key value inner)
    (hkey : (newSession factory draw).nameCookie key ≠ factory.sessionSecretKeySuffixCookieName)
    (browser : Jar) :
    RichCookies.getString
        (browser.receive (inner.withCookies (factory.newSessionCookies draw)).setCookies)
        factory.toFactory key =
      .ok (some value) := by
  have hspec := newSession_spec factory draw
  obtain ⟨raw, hraw, hreads⟩ := hstored.get_receive hjar hspec browser
  have hnext : factory.toFactory.getSession
      (browser.receive (inner.withCookies (factory.newSessionCookies draw)).setCookies) =
        .ok (newSession factory draw) :=
    (hasNewSession_receive factory draw inner browser).getSession
  rw [getString_of_getSession hnext, get_receive_newSessionCookies factory draw hkey, hraw]
  simp only [hspec.nameCookie_eq, hspec.getCookieValue_eq]
  rw [SessionCoding.Reads] at hreads
  rw [hreads]
  rfl

variable {Rest : Type} (play : CookieHeader)

/-- The request that is passed on has the new session, and so has every request that a browser
sends after the response, whatever the handler did to its cookies. There everything is read that
the handler stored. -/
structure Establishes (nextFilter : RequestHeader Rest → Except Throwable (SimpleResult α))
    (requestHeader passedOn : RequestHeader Rest) : Prop where
  rest : passedOn.rest = requestHeader.rest
  apply_eq : apply play factory.toFactory draw nextFilter requestHeader =
    (nextFilter passedOn).map (·.withCookies (factory.newSessionCookies draw))
  request : HasNewSession factory draw (passedOn.cookies play)
  next : ∀ result, apply play factory.toFactory draw nextFilter requestHeader = .ok result →
    ∀ browser : Jar, HasNewSession factory draw (browser.receive result.setCookies)
  stored : ∀ inner result, nextFilter passedOn = .ok inner →
    apply play factory.toFactory draw nextFilter requestHeader = .ok result →
      ∀ key value, Stored factory.toFactory (passedOn.cookies play) key value inner →
        (newSession factory draw).nameCookie key ≠ factory.sessionSecretKeySuffixCookieName →
          ∀ browser : Jar,
            RichCookies.getString (browser.receive result.setCookies) factory.toFactory key =
                .ok (some value) ∧
              ∀ (Model : Type) (format : JsonFormat Model) (model : Model),
                value = format.toJson model →
                  RichCookies.getModel (browser.receive result.setCookies) factory.toFactory
                    format key = .ok (some model)

/-- A request without a session is passed on with the cookies of a new one, and these come last
in its response. -/
theorem apply_of_none {requestHeader : RequestHeader Rest}
    (nextFilter : RequestHeader Rest → Except Throwable (SimpleResult α))
    (ht : (requestHeader.cookies play).get trackingIdCookieName = none)
    (hs : (requestHeader.cookies play).get factory.sessionSecretKeySuffixCookieName = none) :
    apply play factory.toFactory draw nextFilter requestHeader =
      (nextFilter
        (requestWithSessionCookies play requestHeader (factory.newSessionCookies draw))).map
          (·.withCookies (factory.newSessionCookies draw)) := by
  have hnew : factory.toFactory.newSessionCookiesIfNeeded draw (requestHeader.cookies play) =
      .ok (some (factory.newSessionCookies draw)) :=
    newSessionCookiesIfNeeded_of_none factory draw (factory.validateSessionCookies_of_none ht hs)
  rw [apply, hnew]
  simp only [bind, Except.bind, Except.map]
  rfl

theorem hasNewSession_passedOn {requestHeader : RequestHeader Rest}
    (hplay : Preserves play requestHeader (factory.newSessionCookies draw)) :
    HasNewSession factory draw ((requestWithSessionCookies play requestHeader
      (factory.newSessionCookies draw)).cookies play) := by
  obtain ⟨ht, hs⟩ := factory.get_merge_newSessionCookies draw (requestHeader.cookies play)
  rw [← hplay] at ht hs
  exact hasNewSession_of_get factory draw ht hs

theorem exists_of_map_eq_ok {E A B : Type} {result : Except E A} {f : A → B} {b : B}
    (h : result.map f = .ok b) : ∃ a, result = .ok a ∧ f a = b := by
  cases result with
  | error cause => cases h
  | ok a => exact ⟨a, rfl, Except.ok.inj h⟩

/-- Cookies as names and values with equals signs between them. -/
def readCookies (header : String) : Jar :=
  (header.toList.splitOn ';').foldl (fun jar part =>
    let text := String.ofList (part.dropWhile (· == ' '))
    if '=' ∈ text.toList then jar.insert (Text.before '=' text) (Text.after '=' text) else jar) ∅

def writeCookies (jar : Jar) : String :=
  "; ".intercalate (jar.entries.reverse.map fun entry => entry.1 ++ "=" ++ entry.2)

def plainCookieHeader : CookieHeader where
  cookies := readCookies
  merge header cookies := writeCookies ((readCookies header).merge cookies)

/-- A request of a browser that knows nothing but that its user saw the message about cookies. -/
def firstRequest : RequestHeader Unit where
  headers := AList.singleton COOKIE.toLower ["seen_cookie_message=yes"]
  rest := ()

def storing (header : RequestHeader Unit) : Except Throwable (SimpleResult Unit) :=
  RichSimpleResult.withCookie { content := () } (header.cookies plainCookieHeader)
    (productionFactory (Equiv.refl _)).toFactory (fun _ => 0) "disposeOccurred" "true"

end EnsureSessionCreatedFilter

end VehiclesOnline
