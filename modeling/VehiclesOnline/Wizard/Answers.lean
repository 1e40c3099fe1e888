import VehiclesOnline.Wizard.Simulation

/-! The cookies that an answer sets, and the session in which the next request finds itself. -/

namespace VehiclesOnline

open EncryptedClientSideSessionFactory

variable {joda : Joda}

namespace Sessions

def cookieFlags : Sessions → CookieFlags
  | clearText cookieFlags => cookieFlags
  | encrypted factory => factory.cookieFlags

/-- The cookies in which a session is found. In clear text there always is one. -/
def sessionCookieNames : Sessions → List String
  | clearText _ => []
  | encrypted factory => [trackingIdCookieName, factory.sessionSecretKeySuffixCookieName]

end Sessions

/-! ### The cookies of an answer -/

/-- A cookie that a result with the edits sets: one for a model, with the flags of the sessions,
one that discards, or that of the language. -/
inductive SetFor (sessions : Sessions) (session : ClientSideSession) (edits : List Edit) :
    Cookie → Prop
  | model {key : CacheKey} {model : key.Model} (text : String) (h : .withCookie key model ∈ edits) :
      SetFor sessions session edits (sessions.cookieFlags.applyToCookie
        { name := session.nameCookie key.value, value := text })
  | discards {cookie : Cookie} (h : cookie.expired = true) : SetFor sessions session edits cookie
  | lang (code : String) :
      SetFor sessions session edits { name := langCookie.name, value := code }

section SetFor

variable {sessions : Sessions} {session : ClientSideSession} {edits edits' : List Edit}
variable {requestCookies : Jar} {random : CacheKey → SecureRandomBytes} {cookie : Cookie}

theorem SetFor.mono (h : SetFor sessions session edits cookie)
    (hedits : ∀ edit ∈ edits, edit ∈ edits') : SetFor sessions session edits' cookie := by
  cases h with
  | model text h => exact .model text (hedits _ h)
  | discards h => exact .discards h
  | lang code => exact .lang code

theorem setFor_discarding {names : List String} (h : cookie ∈ (names.map fun name =>
    ({ name := name } : DiscardingCookie)).map DiscardingCookie.toCookie) :
    SetFor sessions session edits cookie := by
  obtain ⟨discarding, -, rfl⟩ := List.mem_map.mp h
  exact .discards rfl

/-- Both kinds of sessions put the flags on the cookies that they create. -/
theorem Sessions.newCookie_eq (hsession : sessions.factory.getSession requestCookies = .ok session)
    (random : SecureRandomBytes) (name value : String) :
    ∃ text, session.newCookie random name value =
      sessions.cookieFlags.applyToCookie { name := name, value := text } := by
  cases sessions with
  | clearText cookieFlags =>
      simp only [Sessions.factory, clearTextClientSideSessionFactory] at hsession
      split at hsession <;> cases hsession <;> exact ⟨value, rfl⟩
  | encrypted factory =>
      simp only [Sessions.factory, toFactory, getSession, bind, Except.bind] at hsession
      split at hsession
      · cases hsession
      · split at hsession
        · cases hsession
          exact ⟨_, rfl⟩
        · cases hsession

theorem setFor_of_apply (hsession : sessions.factory.getSession requestCookies = .ok session)
    {edit : Edit} {inner result : SimpleResult Content}
    (h : edit.apply sessions.factory requestCookies random inner = .ok result)
    (hcookie : cookie ∈ result.setCookies) :
    cookie ∈ inner.setCookies ∨ SetFor sessions session [edit] cookie := by
  cases edit with
  | withCookie key model =>
      obtain ⟨text, htext⟩ := Sessions.newCookie_eq hsession (random key)
        (session.nameCookie key.value) (key.format.toJson model)
      simp only [Edit.apply, RichSimpleResult.withModel, RichSimpleResult.withCookie, hsession,
        bind, Except.bind, htext] at h
      cases h
      rcases SimpleResult.mem_withCookies hcookie with hc | hc
      · exact .inl hc
      · rw [List.mem_singleton.mp hc]
        exact .inr (.model text (List.mem_singleton_self _))
  | discardingCookies keys =>
      simp only [Edit.apply, RichSimpleResult.discardingCookies, hsession, bind, Except.bind] at h
      cases h
      exact (SimpleResult.mem_withCookies hcookie).imp_right setFor_discarding
  | discardingCookieNamed key =>
      cases h
      refine (SimpleResult.mem_withCookies hcookie).imp_right fun hc => ?_
      rw [List.mem_singleton.mp hc]
      exact .discards rfl
  | withLang code =>
      cases h
      refine (SimpleResult.mem_withCookies hcookie).imp_right fun hc => ?_
      rw [List.mem_singleton.mp hc]
      exact .lang code

theorem setFor_of_foldlM (hsession : sessions.factory.getSession requestCookies = .ok session)
    {inner result : SimpleResult Content}
    (h : edits.foldlM (fun inner edit => edit.apply sessions.factory requestCookies random inner)
      inner = .ok result) (hcookie : cookie ∈ result.setCookies) :
    cookie ∈ inner.setCookies ∨ SetFor sessions session edits cookie := by
  induction edits generalizing inner with
  | nil =>
      cases h
      exact .inl hcookie
  | cons edit edits ih =>
      rw [List.foldlM_cons] at h
      cases happly : edit.apply sessions.factory requestCookies random inner with
      | error cause =>
          rw [happly] at h
          cases h
      | ok applied =>
          rw [happly] at h
          rcases ih h with hc | hset
          · refine (setFor_of_apply hsession happly hc).imp_right fun hset => hset.mono ?_
            intro edit' hmem
            rw [List.mem_singleton.mp hmem]
            exact List.mem_cons_self
          · exact .inr (hset.mono fun edit' => List.mem_cons_of_mem edit)

theorem setFor_of_build (hsession : sessions.factory.getSession requestCookies = .ok session)
    {r : Result} {result : SimpleResult Content}
    (h : (Response.result r).build sessions.factory requestCookies random = .ok result)
    (hcookie : cookie ∈ result.setCookies) : SetFor sessions session r.edits cookie :=
  (setFor_of_foldlM hsession h hcookie).resolve_left List.not_mem_nil

end SetFor

/-! ### The session of an answer -/

theorem Sessions.getSession_congr (sessions : Sessions) {jar jar' : Jar}
    (hget : jar'.get = jar.get) :
    sessions.factory.getSession jar' = sessions.factory.getSession jar := by
  cases sessions with
  | clearText cookieFlags =>
      simp only [Sessions.factory, clearTextClientSideSessionFactory, hget]
  | encrypted factory =>
      simp only [Sessions.factory, toFactory, getSession,
        factory.validateSessionCookies_congr (congrFun hget _) (congrFun hget _)]

theorem Found.congr {sessions : Sessions} {coding : SessionCoding} {trackingId : String}
    {jar jar' : Jar} (h : Found sessions.factory coding trackingId jar)
    (hget : jar'.get = jar.get) : Found sessions.factory coding trackingId jar' := by
  obtain ⟨session, hsession, hspec, htrackingId⟩ := h
  exact ⟨session, (sessions.getSession_congr hget).trans hsession, hspec, htrackingId⟩

/-- There is one session in a jar, so it has one naming of keys. -/
theorem Found.name_eq {factory : ClientSideSessionFactory} {coding coding' : SessionCoding}
    {trackingId trackingId' : String} {jar : Jar} (h : Found factory coding trackingId jar)
    (h' : Found factory coding' trackingId' jar) : coding'.name = coding.name := by
  obtain ⟨session, hsession, hspec, -⟩ := h
  obtain ⟨session', hsession', hspec', -⟩ := h'
  obtain rfl := Except.ok.inj (hsession.symm.trans hsession')
  rw [← hspec.nameCookie_eq, hspec'.nameCookie_eq]

/-- The session of an admitted request stays: the cookies of the filter have no age, the cookies
of keys are others than those of the session, and the coding is that of the jar before, if it held
anything, and after. -/
structure Lasts (sessions : Sessions) (request : Jar) (data : ApplicationData)
    (coding : SessionCoding) (cookies : List Cookie) : Prop where
  maxAge_eq : ∀ cookie ∈ cookies, cookie.maxAge = none
  ne_key : ∀ cookie ∈ cookies, ∀ key : CacheKey, cookie.name ≠ coding.name key.value
  ne_session : ∀ name ∈ coding.editNames, name ∉ sessions.sessionCookieNames
  found_before : ∀ key, data key ≠ none → ∃ trackingId,
    Found sessions.factory coding trackingId request
  found_after : ∀ setCookies : List Cookie,
    (∀ cookie ∈ setCookies, cookie.name ∈ coding.editNames) → ∃ trackingId,
      Found sessions.factory coding trackingId ((request.receive setCookies).receive cookies)

theorem not_mem_sessionCookieNames {factory : EncryptedClientSideSessionFactory}
    {sessionSecretKey name : String} (hapart : factory.KeysApart sessionSecretKey)
    (h : name ∈ (encryptedCoding factory.crypto sessionSecretKey).editNames) :
    name ∉ (Sessions.encrypted factory).sessionCookieNames := by
  obtain ⟨ht, hs⟩ := ne_session_of_mem_editNames hapart h
  simp [Sessions.sessionCookieNames, ht, hs]

theorem Holds.exists_lasts {sessions : Sessions} {jar : Jar} {data : ApplicationData}
    (h : Holds sessions jar data) {draw : SessionDraw} (hapart : sessions.Apart draw) :
    ∃ coding trackingId requestCookies cookies,
      Admission sessions draw jar data coding trackingId requestCookies cookies ∧
        Lasts sessions jar data coding cookies := by
  cases h with
  | @clearText cookieFlags _ _ h =>
      obtain ⟨trackingId, hadmission⟩ := admission_clearText h draw
      refine ⟨_, trackingId, _, _, hadmission, ⟨?_, ?_, ?_, ?_, ?_⟩⟩
      · simp [langCookie]
      · intro cookie hc key
        rw [List.mem_singleton.mp hc]
        exact (clearTextCoding_names.ne_lang key).symm
      · exact fun name _ => List.not_mem_nil
      · exact fun _ _ => clearText_found cookieFlags jar
      · exact fun setCookies _ => clearText_found cookieFlags _
  | @fresh factory _ h =>
      refine ⟨_, _, _, _, admission_fresh h hapart, ⟨?_, ?_, ?_, ?_, ?_⟩⟩
      · simp [newSessionCookies, langCookie]
      · exact fun cookie hc key => newSessionCookies_ne hapart draw hc key
      · exact fun name hname => not_mem_sessionCookieNames hapart hname
      · exact fun key hkey => absurd rfl hkey
      · intro setCookies _
        obtain ⟨ht, hs⟩ := factory.get_merge_newSessionCookies draw (jar.receive setCookies)
        rw [Jar.receive_eq_merge (factory.newSessionCookies_expired draw)]
        exact ⟨_, encrypted_found (factory.validateSessionCookies_newSession draw ht hs)⟩
  | @session factory _ _ trackingId sessionSecretKey hkeys hvalidate h =>
      refine ⟨_, _, _, _, admission_session hkeys hvalidate h draw, ⟨?_, ?_, ?_, ?_, ?_⟩⟩
      · exact fun cookie hc => absurd hc List.not_mem_nil
      · exact fun cookie hc => absurd hc List.not_mem_nil
      · exact fun name hname => not_mem_sessionCookieNames hkeys hname
      · exact fun _ _ => ⟨_, encrypted_found hvalidate⟩
      · intro setCookies hnames
        have hne := fun cookie hc => ne_session_of_mem_editNames hkeys (hnames cookie hc)
        refine ⟨trackingId, encrypted_found ?_⟩
        rw [← hvalidate]
        exact factory.validateSessionCookies_congr
          (Jar.get_receive_of_forall_ne (fun cookie hc => (hne cookie hc).1) jar)
          (Jar.get_receive_of_forall_ne (fun cookie hc => (hne cookie hc).2) jar)

section Answer

variable {sessions : Sessions} {config : Config} {exchange : Exchange joda}
variable {request requestCookies : Jar} {cookies : List Cookie} {data : ApplicationData}
variable {coding : SessionCoding} {trackingId : String} {cookie : Cookie}

theorem Passes.mem_answer (h : Passes sessions exchange.draw request requestCookies cookies)
    {result : SimpleResult Content}
    (hrun : sessions.runAction config exchange requestCookies = .ok result)
    (hcookie : cookie ∈ (sessions.answer config exchange request).setCookies) :
    cookie ∈ result.setCookies ∨ cookie ∈ cookies := by
  cases h with
  | unchanged h =>
      simp only [Sessions.answer, ensureSessionCreatedFilter, h, hrun, bind, Except.bind]
        at hcookie
      exact .inl hcookie
  | merged h =>
      simp only [Sessions.answer, ensureSessionCreatedFilter, h, hrun, bind, Except.bind]
        at hcookie
      exact SimpleResult.mem_withCookies hcookie

theorem expired_of_mem_discardAllCookies
    (h : cookie ∈ (discardAllCookies requestCookies).setCookies) : cookie.expired = true := by
  rcases SimpleResult.mem_withCookies h with hc | hc
  · exact absurd hc List.not_mem_nil
  · obtain ⟨discarding, -, rfl⟩ := List.mem_map.mp hc
    rfl

variable (config) in
/-- The cookies of an answer are those of the filter, and what the edits of the response set. -/
theorem Admission.mem_answer
    (h : Admission sessions exchange.draw request data coding trackingId requestCookies cookies)
    {session : ClientSideSession}
    (hsession : sessions.factory.getSession requestCookies = .ok session) :
    ∀ cookie ∈ (sessions.answer config exchange request).setCookies,
      SetFor sessions session
          (settle (sessions.outcome config exchange requestCookies).result).edits cookie ∨
        cookie ∈ cookies := by
  intro cookie hcookie
  cases hresult : (sessions.outcome config exchange requestCookies).result with
  | error cause =>
      have hrun : sessions.runAction config exchange requestCookies = .error cause := by
        rw [Sessions.runAction, hresult]
        rfl
      rw [h.passes.answer_of_error hrun] at hcookie
      refine .inl (.discards ?_)
      rcases errorStrategy_cases request cause with hdiscards | hnone
      · rw [hdiscards] at hcookie
        exact expired_of_mem_discardAllCookies hcookie
      · simp only [redirecting, hnone, List.not_mem_nil] at hcookie
  | ok response =>
      have hrun : sessions.runAction config exchange requestCookies =
          response.build sessions.factory requestCookies exchange.random := by
        rw [Sessions.runAction, hresult]
        rfl
      cases response with
      | discardAllCookies =>
          refine (h.passes.mem_answer hrun hcookie).imp_left fun hc => .discards ?_
          exact expired_of_mem_discardAllCookies hc
      | result r =>
          obtain ⟨result, hbuild, -⟩ := build_result h.names h.found exchange.random r
          refine (h.passes.mem_answer (hrun.trans hbuild) hcookie).imp_left fun hc => ?_
          exact setFor_of_build hsession hbuild hc

variable (config) in
/-- Where an answer leaves data, the jar codes it as it coded the data before. -/
theorem Admission.coded_answer
    (h : Admission sessions exchange.draw request data coding trackingId requestCookies cookies)
    (hlasts : Lasts sessions request data coding cookies) (key : CacheKey)
    (hkey : (settle (sessions.outcome config exchange requestCookies).result).data sessions.kind
      data key ≠ none) :
    (∃ trackingId, Found sessions.factory coding trackingId
        (request.receive (sessions.answer config exchange request).setCookies)) ∧
      Coded coding (request.receive (sessions.answer config exchange request).setCookies)
        ((settle (sessions.outcome config exchange requestCookies).result).data sessions.kind
          data) := by
  cases hresult : (sessions.outcome config exchange requestCookies).result with
  | error cause =>
      have hrun : sessions.runAction config exchange requestCookies = .error cause := by
        rw [Sessions.runAction, hresult]
        rfl
      rw [hresult] at hkey
      rw [h.passes.answer_of_error hrun]
      obtain ⟨exceptionClass, message⟩ := cause
      cases exceptionClass with
      | badPaddingException => exact absurd rfl hkey
      | invalidSessionException => exact absurd rfl hkey
      | _ => exact ⟨hlasts.found_before key hkey, h.coded⟩
  | ok response =>
      have hrun : sessions.runAction config exchange requestCookies =
          response.build sessions.factory requestCookies exchange.random := by
        rw [Sessions.runAction, hresult]
        rfl
      rw [hresult] at hkey
      cases response with
      | discardAllCookies => exact absurd rfl hkey
      | result r =>
          obtain ⟨result, hbuild, hbuilds⟩ := build_result h.names h.found exchange.random r
          obtain ⟨-, hget⟩ := h.passes.answer_of_ok (hrun.trans hbuild)
          obtain ⟨trackingId', hfound⟩ := hlasts.found_after result.setCookies hbuilds.name_mem
          refine ⟨⟨trackingId', hfound.congr hget⟩, Coded.congr ?_ hget⟩
          exact (hbuilds.coded _ _ h.coded).receive_of_ne hlasts.ne_key

end Answer

end VehiclesOnline
