import VehiclesOnline.Session.SessionFilter

/-! # Which bad session cookies heal

A request with unreadable session cookies fails in the filter. The error strategy removes
them for two classes of exceptions; the cipher reports bad lengths by two others. -/

namespace VehiclesOnline

open EncryptedClientSideSessionFactory

/-- A request either has a session, or is given one, or is answered by a response after which
the browser holds neither session cookie. -/
def Heals (factory : EncryptedClientSideSessionFactory) (draw : SessionDraw) (request : Jar) :
    Prop :=
  (∃ session, factory.getSession request = .ok session) ∨
  (∃ cookies session, factory.newSessionCookiesIfNeeded draw request = .ok (some cookies) ∧
    factory.getSession (request.merge cookies) = .ok session) ∨
  (∃ cause, factory.newSessionCookiesIfNeeded draw request = .error cause ∧
    (request.receive (errorStrategy request cause).setCookies).get trackingIdCookieName = none ∧
    (request.receive (errorStrategy request cause).setCookies).get
      factory.sessionSecretKeySuffixCookieName = none)

/-- Both session cookies are there, and what they hold together does not decode to an
initialization vector and whole cipher blocks. -/
def BadSessionLength (factory : EncryptedClientSideSessionFactory) (request : Jar) : Prop :=
  ∃ trackingId suffix, request.get trackingIdCookieName = some trackingId ∧
    request.get factory.sessionSecretKeySuffixCookieName = some suffix ∧
    AesEncryption.BadLength (trackingId ++ suffix)

section Outcomes

variable (factory : EncryptedClientSideSessionFactory) (draw : SessionDraw) {request : Jar}

theorem newSessionCookiesIfNeeded_of_error {cause : Throwable}
    (h : factory.validateSessionCookies request = .error cause) :
    factory.newSessionCookiesIfNeeded draw request = .error cause ∧
      factory.getSession request = .error cause := by
  rw [newSessionCookiesIfNeeded, getSession, h]
  exact ⟨rfl, rfl⟩

theorem newSessionCookiesIfNeeded_of_none
    (h : factory.validateSessionCookies request = .ok none) :
    factory.newSessionCookiesIfNeeded draw request =
      .ok (some (factory.newSessionCookies draw)) := by
  rw [newSessionCookiesIfNeeded, h]
  rfl

theorem newSessionCookiesIfNeeded_of_some {found : String × String}
    (h : factory.validateSessionCookies request = .ok (some found)) :
    factory.newSessionCookiesIfNeeded draw request = .ok none := by
  rw [newSessionCookiesIfNeeded, h]
  rfl

/-- The session of a request to which a new one was added. -/
theorem getSession_merge_newSessionCookies (request : Jar) :
    factory.getSession (request.merge (factory.newSessionCookies draw)) =
      .ok (encryptedClientSideSession factory.crypto (factory.newSessionPair draw).1
        (encodeHexString draw.sessionSecretKey)) := by
  obtain ⟨ht, hs⟩ := factory.get_merge_newSessionCookies draw request
  exact factory.getSession_of_validate (factory.validateSessionCookies_newSession draw ht hs)

theorem heals_of_ok {found : Option (String × String)}
    (h : factory.validateSessionCookies request = .ok found) : Heals factory draw request := by
  cases found with
  | some pair => exact .inl ⟨_, factory.getSession_of_validate h⟩
  | none =>
      exact .inr (.inl ⟨_, _, newSessionCookiesIfNeeded_of_none factory draw h,
        getSession_merge_newSessionCookies factory draw request⟩)

/-- The error strategy removes the cookies for these two classes of exceptions. -/
theorem heals_of_error {cause : Throwable}
    (h : factory.validateSessionCookies request = .error cause)
    (hclass : cause.exceptionClass = .badPaddingException ∨
      cause.exceptionClass = .invalidSessionException) : Heals factory draw request := by
  have hstrategy : errorStrategy request cause = discardAllCookies request := by
    rcases hclass with hc | hc
    · rw [errorStrategy, hc]
    · rw [errorStrategy, hc]
  refine .inr (.inr ⟨cause, (newSessionCookiesIfNeeded_of_error factory draw h).1, ?_, ?_⟩)
  · rw [hstrategy]
    exact get_receive_discardAllCookies_self (by decide) request
  · rw [hstrategy]
    exact get_receive_discardAllCookies_self
      (factory.suffixCookieName_ne_of_length (by decide)) request

/-- Every other class leads to the error page with the cookies kept. -/
theorem not_heals_of_error {cause : Throwable} {trackingId : String}
    (ht : request.get trackingIdCookieName = some trackingId)
    (h : factory.validateSessionCookies request = .error cause)
    (hpadding : cause.exceptionClass ≠ .badPaddingException)
    (hinvalid : cause.exceptionClass ≠ .invalidSessionException) :
    ¬ Heals factory draw request := by
  obtain ⟨hnew, hget⟩ := newSessionCookiesIfNeeded_of_error factory draw h
  intro hheals
  rcases hheals with ⟨session, hs⟩ | ⟨cookies, session, hs, -⟩ | ⟨cause', hc, hremoved, -⟩
  · rw [hget] at hs
    cases hs
  · rw [hnew] at hs
    cases hs
  · rw [hnew] at hc
    cases hc
    have hkept : (errorStrategy request cause).setCookies = [] := by
      obtain ⟨exceptionClass, message⟩ := cause
      cases exceptionClass with
      | badPaddingException => exact absurd rfl hpadding
      | invalidSessionException => exact absurd rfl hinvalid
      | _ => rfl
    rw [hkept, Jar.receive, List.foldl_nil, ht] at hremoved
    cases hremoved

/-- A missing cookie of the two, and only one, is an invalid session. -/
theorem validateSessionCookies_of_one
    (h : (request.get trackingIdCookieName = none) ≠
      (request.get factory.sessionSecretKeySuffixCookieName = none)) :
    factory.validateSessionCookies request = .error (invalidSessionException
      "Invalid session cookies coming from the request") := by
  rw [validateSessionCookies]
  cases ht : request.get trackingIdCookieName with
  | none =>
      cases hs : request.get factory.sessionSecretKeySuffixCookieName with
      | none => simp [ht, hs] at h
      | some suffix => rfl
  | some trackingId =>
      cases hs : request.get factory.sessionSecretKeySuffixCookieName with
      | none => rfl
      | some suffix => simp [ht, hs] at h

/-- With both cookies, validation fails as decryption does, or for a wrong name. -/
theorem validateSessionCookies_of_both {trackingId suffix : String}
    (ht : request.get trackingIdCookieName = some trackingId)
    (hs : request.get factory.sessionSecretKeySuffixCookieName = some suffix) :
    match factory.encryption.decrypt (trackingId ++ suffix) with
    | .error cause => factory.validateSessionCookies request = .error cause
    | .ok _ => (∃ found, factory.validateSessionCookies request = .ok found) ∨
        factory.validateSessionCookies request = .error (invalidSessionException
          "The cookie name bytes from the payload must match the cookie name") := by
  simp only [validateSessionCookies, ht, hs]
  cases factory.encryption.decrypt (trackingId ++ suffix) with
  | error cause => rfl
  | ok decrypted =>
      simp only [bind, Except.bind]
      by_cases hname : factory.sessionSecretKeySuffixCookieName =
          (Text.splitAt factory.sessionSecretKeySuffixCookieName.length decrypted).1
      · rw [if_neg (not_not.mpr hname)]
        exact .inl ⟨_, rfl⟩
      · rw [if_pos hname]
        exact .inr rfl

/-- A bad length is reported by a class of exceptions that the error strategy does not know. -/
theorem not_heals_of_badLength {secretKeySpec : Equiv.Perm (BlockMode.Block 16)}
    (haes : factory.encryption = aesEncryption secretKeySpec) {trackingId suffix : String}
    (ht : request.get trackingIdCookieName = some trackingId)
    (hs : request.get factory.sessionSecretKeySuffixCookieName = some suffix)
    (hlen : AesEncryption.BadLength (trackingId ++ suffix)) : ¬ Heals factory draw request := by
  have hboth := validateSessionCookies_of_both factory ht hs
  rw [haes] at hboth
  rcases AesEncryption.decrypt_of_badLength secretKeySpec hlen with hd | hd
  · simp only [aesEncryption, hd] at hboth
    exact not_heals_of_error factory draw ht hboth (by decide) (by decide)
  · simp only [aesEncryption, hd] at hboth
    exact not_heals_of_error factory draw ht hboth (by decide) (by decide)

theorem heals_of_not_badLength {secretKeySpec : Equiv.Perm (BlockMode.Block 16)}
    (haes : factory.encryption = aesEncryption secretKeySpec) {trackingId suffix : String}
    (ht : request.get trackingIdCookieName = some trackingId)
    (hs : request.get factory.sessionSecretKeySuffixCookieName = some suffix)
    (hlen : ¬ AesEncryption.BadLength (trackingId ++ suffix)) : Heals factory draw request := by
  have hboth := validateSessionCookies_of_both factory ht hs
  rw [haes] at hboth
  rcases AesEncryption.decrypt_of_not_badLength secretKeySpec hlen with ⟨_, hd⟩ | hd
  · simp only [aesEncryption, hd] at hboth
    rcases hboth with ⟨_, hok⟩ | herror
    · exact heals_of_ok factory draw hok
    · exact heals_of_error factory draw herror (.inr rfl)
  · simp only [aesEncryption, hd] at hboth
    exact heals_of_error factory draw hboth (.inl rfl)

end Outcomes

/-- A request heals exactly when its session cookies do not have a bad length. -/
theorem heals_iff (factory : EncryptedClientSideSessionFactory)
    (secretKeySpec : Equiv.Perm (BlockMode.Block 16))
    (haes : factory.encryption = aesEncryption secretKeySpec) (draw : SessionDraw)
    (request : Jar) : Heals factory draw request ↔ ¬ BadSessionLength factory request := by
  cases ht : request.get trackingIdCookieName with
  | none =>
      have hgood : ¬ BadSessionLength factory request := by
        intro hbad
        obtain ⟨_, _, h, -⟩ := hbad
        rw [ht] at h
        cases h
      refine iff_of_true ?_ hgood
      cases hs : request.get factory.sessionSecretKeySuffixCookieName with
      | none => exact heals_of_ok factory draw (factory.validateSessionCookies_of_none ht hs)
      | some suffix =>
          exact heals_of_error factory draw
            (validateSessionCookies_of_one factory (by simp [ht, hs])) (.inr rfl)
  | some trackingId =>
      cases hs : request.get factory.sessionSecretKeySuffixCookieName with
      | none =>
          have hgood : ¬ BadSessionLength factory request := by
            intro hbad
            obtain ⟨_, _, -, h, -⟩ := hbad
            rw [hs] at h
            cases h
          exact iff_of_true (heals_of_error factory draw
            (validateSessionCookies_of_one factory (by simp [ht, hs])) (.inr rfl)) hgood
      | some suffix =>
          by_cases hlen : AesEncryption.BadLength (trackingId ++ suffix)
          · exact iff_of_false (not_heals_of_badLength factory draw haes ht hs hlen)
              (not_not.mpr ⟨trackingId, suffix, ht, hs, hlen⟩)
          · have hgood : ¬ BadSessionLength factory request := by
              intro hbad
              obtain ⟨trackingId', suffix', ht', hs', hlen'⟩ := hbad
              rw [ht] at ht'
              rw [hs] at hs'
              rw [Option.some.inj ht', Option.some.inj hs'] at hlen
              exact hlen hlen'
            exact iff_of_true (heals_of_not_badLength factory draw haes ht hs hlen) hgood

/-- A request with these two session cookies. -/
def requestOfPair (factory : EncryptedClientSideSessionFactory) (trackingId suffix : String) :
    Jar :=
  (∅ : Jar).merge [{ name := trackingIdCookieName, value := trackingId },
    { name := factory.sessionSecretKeySuffixCookieName, value := suffix }]

theorem get_requestOfPair (factory : EncryptedClientSideSessionFactory)
    (trackingId suffix : String) :
    (requestOfPair factory trackingId suffix).get trackingIdCookieName = some trackingId ∧
      (requestOfPair factory trackingId suffix).get factory.sessionSecretKeySuffixCookieName =
        some suffix := by
  simp only [requestOfPair, Jar.merge, List.foldl_cons, List.foldl_nil]
  rw [Jar.get_put_of_ne factory.suffixCookieName_ne_trackingIdCookieName]
  exact ⟨Jar.get_put _ _, Jar.get_put _ _⟩

/-- A tracking id whose suffix was cut off: together they are fifteen bytes. -/
def truncatedSessionCookies : Jar :=
  requestOfPair (productionFactory (Equiv.refl _)) "AAAAAAAAAAAAAAAAAAAA" ""

theorem heals_iff_truncated :
    Heals (productionFactory (Equiv.refl _)) ⟨fun _ => 0, fun _ => 0⟩ truncatedSessionCookies ↔
      ¬ BadSessionLength (productionFactory (Equiv.refl _)) truncatedSessionCookies :=
  heals_iff (productionFactory (Equiv.refl _)) (Equiv.refl _) rfl _ truncatedSessionCookies

/-- With these cookies every request fails in the filter, that for the error page too. -/
theorem truncatedSessionCookies_not_heal :
    ¬ Heals (productionFactory (Equiv.refl _)) ⟨fun _ => 0, fun _ => 0⟩
      truncatedSessionCookies := by
  obtain ⟨ht, hs⟩ := get_requestOfPair (productionFactory (Equiv.refl _)) "AAAAAAAAAAAAAAAAAAAA" ""
  exact not_heals_of_badLength (productionFactory (Equiv.refl _)) _ rfl ht hs (by decide)

end VehiclesOnline
