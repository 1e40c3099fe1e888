import VehiclesOnline.Library.Snapshots
import VehiclesOnline.Session.Concurrency
import VehiclesOnline.Wizard.Disposal
import VehiclesOnline.Wizard.Equivalence
import VehiclesOnline.Wizard.Steps

/-! # Requests in flight

A browser may have several requests under way, each with a snapshot of its jar, and apply their
responses in any order. Every one of them is still answered as the wizard without cookies answers
it, on data each value of which a response of the same session wrote. -/

namespace VehiclesOnline

open KeyValue (assignAll eq_or_mem_of_assignAll)
open EncryptedClientSideSessionFactory

variable {joda : Joda}

/-! ### The application and its network -/

/-- A request that was served, with the cookies that it carried. -/
structure Served (joda : Joda) where
  request : Jar
  exchange : Exchange joda

namespace Sessions

variable (sessions : Sessions) (config : Config)

/-- The secret that names the cookies of a session. In clear text there is one session, without a
secret. -/
def secretOf : Sessions → Jar → Option String
  | clearText _, _ => some ""
  | encrypted factory, requestCookies =>
      match factory.validateSessionCookies requestCookies with
      | .ok (some (_, sessionSecretKey)) => some sessionSecretKey
      | _ => none

/-- The secret of the session in which a request is served. -/
def secretServed (entry : Served joda) : Option String :=
  match sessions.admitted entry.exchange.draw entry.request with
  | .ok requestCookies => sessions.secretOf requestCookies
  | .error _ => none

/-- The response to a request: of the action behind the filter, or of the error strategy. -/
def responseTo (entry : Served joda) : Response :=
  match sessions.admitted entry.exchange.draw entry.request with
  | .ok requestCookies => settle (sessions.outcome config entry.exchange requestCookies).result
  | .error cause => errorResponse cause

/-- A response of the session wrote the model under the key. -/
def Wrote (served : List (Served joda)) (sessionSecretKey : String) (key : CacheKey)
    (model : key.Model) : Prop :=
  ∃ entry ∈ served, sessions.secretServed entry = some sessionSecretKey ∧
    .withCookie key model ∈ (sessions.responseTo config entry).edits

/-- A browser whose requests are among the given ones, and the application. -/
def traffic (exchanges : Set (Exchange joda)) :
    Snapshots.Protocol Jar (List Cookie) (Served joda) where
  receive := Jar.receive
  Serves request response entry := entry.request = request ∧ entry.exchange ∈ exchanges ∧
    response = (sessions.answer config entry.exchange request).setCookies

end Sessions

/-- What is stored meets the condition. -/
def AllStored (P : (key : CacheKey) → key.Model → Prop) (data : ApplicationData) : Prop :=
  ∀ key model, data key = some model → P key model

theorem AllStored.mono {P Q : (key : CacheKey) → key.Model → Prop} {data : ApplicationData}
    (h : AllStored P data) (himp : ∀ key model, P key model → Q key model) : AllStored Q data :=
  fun key model hstored => himp key model (h key model hstored)

/-- What the edits of a result assign is written by one of them. -/
theorem Edit.withCookie_mem_of_assignment {kind : SessionKind} {edits : List Edit} {key : CacheKey}
    {model : key.Model}
    (h : (⟨key, some model⟩ : KeyValue.Assignment CacheKey CacheKey.Model) ∈
      edits.flatMap (Edit.assignments kind)) : .withCookie key model ∈ edits := by
  obtain ⟨edit, hedit, hassignment⟩ := List.mem_flatMap.mp h
  cases edit with
  | withCookie key' model' =>
      cases List.mem_singleton.mp hassignment
      exact hedit
  | discardingCookies keys =>
      obtain ⟨key', -, hkey'⟩ := List.mem_map.mp hassignment
      cases hkey'
  | discardingCookieNamed key' =>
      cases kind with
      | clearText => cases List.mem_singleton.mp hassignment
      | encrypted => exact absurd hassignment List.not_mem_nil
  | withLang code => exact absurd hassignment List.not_mem_nil

/-! ### The names of the cookies of all sessions -/

/-- The texts whose digests name cookies in the sessions of the draws. -/
def EncryptedClientSideSessionFactory.drawnTexts (factory : EncryptedClientSideSessionFactory)
    (draws : Set SessionDraw) : Set String :=
  insert factory.sessionSecretKeySuffixKey
    {text | ∃ draw ∈ draws, ∃ key : CacheKey,
      text = encodeHexString draw.sessionSecretKey ++ key.value}

/-- The digests that name cookies do not collide, in one session or between two. -/
def Sessions.DrawsApart (sessions : Sessions) (draws : Set SessionDraw) : Prop :=
  match sessions with
  | .clearText _ => True
  | .encrypted factory =>
      Set.InjOn factory.cookieNameHashing.hash (factory.drawnTexts draws) ∧
        ∀ draw ∈ draws, ∀ key : CacheKey,
          factory.sessionSecretKeySuffixKey ≠ encodeHexString draw.sessionSecretKey ++ key.value

section Names

variable {factory : EncryptedClientSideSessionFactory} {draws : Set SessionDraw}
variable {draw draw' : SessionDraw}

theorem Sessions.DrawsApart.keysApart (h : (Sessions.encrypted factory).DrawsApart draws)
    (hdraw : draw ∈ draws) : factory.KeysApart (encodeHexString draw.sessionSecretKey) := by
  refine ⟨h.1.mono ?_, h.2 draw hdraw⟩
  rintro text (rfl | ⟨value, ⟨key, rfl⟩, rfl⟩)
  · exact .inl rfl
  · exact .inr ⟨draw, hdraw, key, rfl⟩

/-- Secrets are equally long, so that a text tells the secret and the key that it is made of. -/
theorem encodeHexString_append_inj {bytes bytes' : SecureRandomBytes} {s t : String}
    (h : encodeHexString bytes ++ s = encodeHexString bytes' ++ t) :
    encodeHexString bytes = encodeHexString bytes' ∧ s = t := by
  have hlist := congrArg String.toList h
  rw [String.toList_append, String.toList_append] at hlist
  have hparts := List.append_inj hlist
    ((length_encodeHexString bytes).trans (length_encodeHexString bytes').symm)
  exact ⟨String.toList_inj.mp hparts.1, String.toList_inj.mp hparts.2⟩

/-- A cookie of one session has no name of a key of another one. -/
theorem Sessions.DrawsApart.name_ne (h : (Sessions.encrypted factory).DrawsApart draws)
    (hdraw : draw ∈ draws) (hdraw' : draw' ∈ draws)
    (hne : encodeHexString draw.sessionSecretKey ≠ encodeHexString draw'.sessionSecretKey)
    {name : String} (hname : name ∈
      (encryptedCoding factory.crypto (encodeHexString draw.sessionSecretKey)).editNames)
    (key : CacheKey) :
    name ≠ (encryptedCoding factory.crypto (encodeHexString draw'.sessionSecretKey)).name
      key.value := by
  rintro rfl
  rcases hname with hlang | ⟨key', hkey'⟩ | ⟨key', hkey'⟩
  · exact (encryptedCoding_names (h.keysApart hdraw')).ne_lang key hlang
  · have htexts := h.1 (.inr ⟨draw, hdraw, key', rfl⟩) (.inr ⟨draw', hdraw', key, rfl⟩) hkey'
    exact hne (encodeHexString_append_inj htexts).1
  · exact key'.length_value_ne (by rw [hkey', length_name])

end Names

/-! ### The session of a request -/

namespace Sessions

/-- The coding of the session with the secret. -/
def codingOf : Sessions → String → SessionCoding
  | clearText _, _ => clearTextCoding
  | encrypted factory, sessionSecretKey => encryptedCoding factory.crypto sessionSecretKey

/-- The secrets of the sessions that may be created. -/
def secrets (sessions : Sessions) (draws : Set SessionDraw) : Set String :=
  match sessions with
  | clearText _ => {""}
  | encrypted _ => (fun draw => encodeHexString draw.sessionSecretKey) '' draws

/-- The tracking ids of the sessions that may be created. -/
def trackingIds (sessions : Sessions) (draws : Set SessionDraw) : Set String :=
  match sessions with
  | clearText _ => {defaultTrackingId}
  | encrypted factory => (fun draw => (factory.newSessionPair draw).1) '' draws

/-- The jar holds no session cookie or, in encrypted sessions, the pair that a draw made. -/
def WholeJar (sessions : Sessions) (draws : Set SessionDraw) (jar : Jar) : Prop :=
  match sessions with
  | clearText _ => jar.get trackingIdCookieName = none
  | encrypted factory => ∃ minted, (∀ draw ∈ minted, draw ∈ draws) ∧ Whole factory minted jar

variable {sessions : Sessions} {draws : Set SessionDraw} {sessionSecretKey : String}

theorem DrawsApart.names (h : sessions.DrawsApart draws)
    (hsecret : sessionSecretKey ∈ sessions.secrets draws) :
    (sessions.codingOf sessionSecretKey).Names sessions.kind := by
  cases sessions with
  | clearText cookieFlags => exact clearTextCoding_names
  | encrypted factory =>
      obtain ⟨draw, hdraw, rfl⟩ := hsecret
      exact encryptedCoding_names (h.keysApart hdraw)

/-- The cookies of one session are none of another one. -/
theorem DrawsApart.ne_key (h : sessions.DrawsApart draws)
    (hsecret : sessionSecretKey ∈ sessions.secrets draws) {sessionSecretKey' : String}
    (hsecret' : sessionSecretKey' ∈ sessions.secrets draws)
    (hne : sessionSecretKey' ≠ sessionSecretKey) {name : String}
    (hname : name ∈ (sessions.codingOf sessionSecretKey).editNames) (key : CacheKey) :
    name ≠ (sessions.codingOf sessionSecretKey').name key.value := by
  cases sessions with
  | clearText cookieFlags =>
      rw [Set.mem_singleton_iff.mp hsecret, Set.mem_singleton_iff.mp hsecret'] at hne
      exact absurd rfl hne
  | encrypted factory =>
      obtain ⟨draw, hdraw, rfl⟩ := hsecret
      obtain ⟨draw', hdraw', rfl⟩ := hsecret'
      exact h.name_ne hdraw hdraw' hne.symm hname key

end Sessions

/-- How the filter admits a request to a session: its cookies are those of the session, and what
the filter adds are no cookies of keys. -/
structure AdmittedIn (sessions : Sessions) (draws : Set SessionDraw) (draw : SessionDraw)
    (request : Jar) (sessionSecretKey trackingId : String) (requestCookies : Jar)
    (cookies : List Cookie) : Prop where
  passes : Passes sessions draw request requestCookies cookies
  mem_secrets : sessionSecretKey ∈ sessions.secrets draws
  mem_trackingIds : trackingId ∈ sessions.trackingIds draws
  secretOf_eq : sessions.secretOf requestCookies = some sessionSecretKey
  found : Found sessions.factory (sessions.codingOf sessionSecretKey) trackingId requestCookies
  expired : ∀ cookie ∈ cookies, cookie.expired = false
  ne_key : ∀ cookie ∈ cookies, ∀ sessionSecretKey' ∈ sessions.secrets draws, ∀ key : CacheKey,
    cookie.name ≠ (sessions.codingOf sessionSecretKey').name key.value

section Admitted

variable {sessions : Sessions} {config : Config} {draws : Set SessionDraw}
variable {exchange : Exchange joda} {request requestCookies jar : Jar} {data : ApplicationData}
variable {sessionSecretKey trackingId : String} {cookies : List Cookie}

theorem Sessions.DrawsApart.exists_admittedIn (h : sessions.DrawsApart draws) {draw : SessionDraw}
    (hdraw : draw ∈ draws) (hwhole : sessions.WholeJar draws request) :
    ∃ sessionSecretKey trackingId requestCookies cookies,
      AdmittedIn sessions draws draw request sessionSecretKey trackingId requestCookies
        cookies := by
  cases sessions with
  | clearText cookieFlags =>
      have hnone : (request.merge [langCookie]).get trackingIdCookieName = none := by
        rw [← Jar.receive_eq_merge (List.forall_mem_singleton.mpr rfl)]
        exact (Jar.get_receive_of_forall_ne (List.forall_mem_singleton.mpr (by decide)) _).trans
          hwhole
      refine ⟨"", defaultTrackingId, _, [langCookie], .merged rfl, rfl, rfl, rfl,
        ⟨_, ?_, clearTextClientSideSession_spec cookieFlags defaultTrackingId, rfl⟩,
        List.forall_mem_singleton.mpr rfl, ?_⟩
      · simp only [Sessions.factory, clearTextClientSideSessionFactory, hnone]
      · intro cookie hc sessionSecretKey' _ key
        rw [List.mem_singleton.mp hc]
        exact (clearTextCoding_names.ne_lang key).symm
  | encrypted factory =>
      obtain ⟨minted, hminted, hwhole⟩ := hwhole
      rcases hwhole.validate with ⟨-, -, hvalidate⟩ | ⟨old, hold, hvalidate⟩
      · obtain ⟨ht, hs⟩ := factory.get_merge_newSessionCookies draw request
        have hnew := factory.validateSessionCookies_newSession draw ht hs
        refine ⟨_, _, _, _, .merged (newSessionCookiesIfNeeded_of_none factory draw hvalidate),
          ⟨draw, hdraw, rfl⟩, ⟨draw, hdraw, rfl⟩, ?_, encrypted_found hnew,
          factory.newSessionCookies_expired draw, ?_⟩
        · rw [Sessions.secretOf, hnew]
        · rintro cookie hc _ ⟨other, hother, rfl⟩ key
          exact newSessionCookies_ne (h.keysApart hother) draw hc key
      · refine ⟨_, _, _, _, .unchanged (newSessionCookiesIfNeeded_of_some factory draw hvalidate),
          ⟨old, hminted old hold, rfl⟩, ⟨old, hminted old hold, rfl⟩, ?_,
          encrypted_found hvalidate, fun _ hc => absurd hc List.not_mem_nil,
          fun _ hc => absurd hc List.not_mem_nil⟩
        rw [Sessions.secretOf, hvalidate]

/-- The session data reach the action. -/
theorem AdmittedIn.coded {draw : SessionDraw}
    (h : AdmittedIn sessions draws draw request sessionSecretKey trackingId requestCookies cookies)
    (hcoded : Coded (sessions.codingOf sessionSecretKey) request data) :
    Coded (sessions.codingOf sessionSecretKey) requestCookies data := by
  have hreceive : Coded (sessions.codingOf sessionSecretKey) (request.receive cookies) data :=
    hcoded.receive_of_ne fun cookie hc => h.ne_key cookie hc _ h.mem_secrets
  cases h.passes with
  | unchanged => exact hcoded
  | merged => rwa [← Jar.receive_eq_merge h.expired]

/-- What an answer does to the data of sessions: it edits those of its own session, or it removes
whatever its request carried. -/
inductive Effect
  | changes (edits : List Edit)
  | discardsAll

def Response.effect : Response → Effect
  | .result r => .changes r.edits
  | .discardAllCookies => .discardsAll

namespace Effect

def written : Effect → List Edit
  | changes edits => edits
  | discardsAll => []

/-- The data of a session when the effect has arrived. -/
def received (coding : SessionCoding) (kind : SessionKind) (carried : Jar) (own : Prop)
    [Decidable own] (data : ApplicationData) : Effect → ApplicationData
  | changes edits => if own then assignAll data (edits.flatMap (Edit.assignments kind)) else data
  | discardsAll => fun key =>
      if coding.name key.value ∈ carried.names ∧ coding.name key.value ≠ seenCookieMessageKey
      then none else data key

/-- What is stored was there before, or was written for the session. -/
theorem of_received {coding : SessionCoding} {kind : SessionKind} {carried : Jar} {own : Prop}
    [Decidable own] {data : ApplicationData} {effect : Effect} {key : CacheKey} {model : key.Model}
    (h : effect.received coding kind carried own data key = some model) :
    data key = some model ∨ own ∧ .withCookie key model ∈ effect.written := by
  cases effect with
  | changes edits =>
      by_cases hown : own
      · rw [received, if_pos hown] at h
        exact (eq_or_mem_of_assignAll h).imp_right fun hmem =>
          ⟨hown, Edit.withCookie_mem_of_assignment hmem⟩
      · rw [received, if_neg hown] at h
        exact .inl h
  | discardsAll => exact .inl (Option.ite_none_left_eq_some.mp h).2

end Effect

theorem Response.written_effect (response : Response) :
    response.effect.written = response.edits := by
  cases response <;> rfl

/-- Which cookies an answer sets: those of the error strategy, or those of an action that edits
the data, with the cookies of the filter last. -/
inductive CookiesFor (kind : SessionKind) (coding : SessionCoding) (request requestCookies : Jar)
    (cookies setCookies : List Cookie) : Effect → Prop
  | raised {cause : Throwable} (h : setCookies = (errorStrategy request cause).setCookies) :
      CookiesFor kind coding request requestCookies cookies setCookies (errorResponse cause).effect
  | discards (hget : ∀ jar : Jar, (jar.receive setCookies).get =
        ((jar.receive (discardAllCookies requestCookies).setCookies).receive cookies).get) :
      CookiesFor kind coding request requestCookies cookies setCookies .discardsAll
  | built {r : Result} {result : SimpleResult Content} (hbuilds : Builds kind coding r result)
      (hget : ∀ jar : Jar, (jar.receive setCookies).get =
        ((jar.receive result.setCookies).receive cookies).get) :
      CookiesFor kind coding request requestCookies cookies setCookies (.changes r.edits)

section Filter

variable {α : Type} {draw : SessionDraw} {nextFilter : Jar → Except Throwable (SimpleResult α)}

theorem Passes.filter_of_ok (h : Passes sessions draw request requestCookies cookies)
    {result : SimpleResult α} (hnext : nextFilter requestCookies = .ok result) :
    ∃ answer, ensureSessionCreatedFilter sessions.factory draw nextFilter request = .ok answer ∧
      answer.content = result.content ∧ ∀ jar : Jar, (jar.receive answer.setCookies).get =
        ((jar.receive result.setCookies).receive cookies).get := by
  cases h with
  | unchanged h =>
      refine ⟨result, ?_, rfl, fun _ => rfl⟩
      simp only [ensureSessionCreatedFilter, h, hnext, bind, Except.bind]
  | merged h =>
      refine ⟨result.withCookies cookies, ?_, rfl, fun jar =>
        Jar.get_receive_withCookies jar result cookies⟩
      simp only [ensureSessionCreatedFilter, h, hnext, bind, Except.bind]
      rfl

theorem Passes.filter_of_error (h : Passes sessions draw request requestCookies cookies)
    {cause : Throwable} (hnext : nextFilter requestCookies = .error cause) :
    ensureSessionCreatedFilter sessions.factory draw nextFilter request = .error cause := by
  cases h with
  | unchanged h => simp only [ensureSessionCreatedFilter, h, hnext, bind, Except.bind]
  | merged h => simp only [ensureSessionCreatedFilter, h, hnext, bind, Except.bind]

end Filter

/-- How the response of an action is built in the session of the request. -/
theorem AdmittedIn.build {draw : SessionDraw}
    (h : AdmittedIn sessions draws draw request sessionSecretKey trackingId requestCookies cookies)
    (hapart : sessions.DrawsApart draws) (random : CacheKey → SecureRandomBytes)
    (response : Response) :
    ∃ result, response.build sessions.factory requestCookies random = .ok result ∧
      result.content = response.content ∧ ∀ setCookies : List Cookie,
        (∀ jar : Jar, (jar.receive setCookies).get =
          ((jar.receive result.setCookies).receive cookies).get) →
        CookiesFor sessions.kind (sessions.codingOf sessionSecretKey) request requestCookies
          cookies setCookies response.effect := by
  cases response with
  | discardAllCookies => exact ⟨_, rfl, rfl, fun setCookies hget => .discards hget⟩
  | result r =>
      obtain ⟨result, hbuild, hbuilds⟩ :=
        build_result (hapart.names h.mem_secrets) h.found random r
      exact ⟨result, hbuild, hbuilds.content_eq, fun setCookies hget => .built hbuilds hget⟩

theorem written_errorResponse (cause : Throwable) : (errorResponse cause).effect.written = [] := by
  obtain ⟨exceptionClass, message⟩ := cause
  cases exceptionClass <;> rfl

/-- The error strategy discards all cookies of the request, or sets none. -/
theorem setCookies_errorStrategy (request : Jar) (cause : Throwable) :
    (errorStrategy request cause = discardAllCookies request ∧
        (errorResponse cause).effect = .discardsAll) ∨
      ((errorStrategy request cause).setCookies = [] ∧
        (errorResponse cause).effect = .changes []) := by
  obtain ⟨exceptionClass, message⟩ := cause
  cases exceptionClass with
  | badPaddingException | invalidSessionException => exact .inl ⟨rfl, rfl⟩
  | _ => exact .inr ⟨rfl, rfl⟩

theorem redirecting_errorStrategy_content (request : Jar) (cause : Throwable) :
    (redirecting (errorStrategy request cause)).content = (errorResponse cause).content := by
  obtain ⟨exceptionClass, message⟩ := cause
  cases exceptionClass <;> rfl

variable (config exchange) in
theorem AdmittedIn.answer
    (h : AdmittedIn sessions draws exchange.draw request sessionSecretKey trackingId requestCookies
      cookies) (hapart : sessions.DrawsApart draws) :
    (sessions.answer config exchange request).content =
        (settle (sessions.outcome config exchange requestCookies).result).content ∧
      CookiesFor sessions.kind (sessions.codingOf sessionSecretKey) request requestCookies cookies
        (sessions.answer config exchange request).setCookies
        (settle (sessions.outcome config exchange requestCookies).result).effect := by
  cases hresult : (sessions.outcome config exchange requestCookies).result with
  | error cause =>
      have hrun : sessions.runAction config exchange requestCookies = .error cause := by
        rw [Sessions.runAction, hresult]
        rfl
      rw [Sessions.answer, h.passes.filter_of_error hrun, settle]
      exact ⟨redirecting_errorStrategy_content request cause, .raised rfl⟩
  | ok response =>
      obtain ⟨result, hbuild, hcontent, hcookies⟩ := h.build hapart exchange.random response
      have hrun : sessions.runAction config exchange requestCookies = .ok result := by
        rw [Sessions.runAction, hresult]
        exact hbuild
      obtain ⟨answer, hanswer, hsame, hget⟩ := h.passes.filter_of_ok hrun
      rw [Sessions.answer, hanswer]
      exact ⟨hsame.trans hcontent, hcookies _ hget⟩

/-- Discarding all cookies of a request removes what the request carried. -/
theorem Coded.receive_discardAllCookies {coding : SessionCoding} (h : Coded coding jar data)
    {kind : SessionKind} {carried requestCookies : Jar} {own : Prop} [Decidable own]
    (hnames : ∀ key : CacheKey, coding.name key.value ∈ requestCookies.names ↔
      coding.name key.value ∈ carried.names) :
    Coded coding (jar.receive (discardAllCookies requestCookies).setCookies)
      (Effect.discardsAll.received coding kind carried own data) := by
  intro key hkey
  simp only [get_receive_discardAllCookies, Effect.received, hnames]
  by_cases hgone : coding.name key.value ∈ carried.names ∧
      coding.name key.value ≠ seenCookieMessageKey
  · simp only [if_pos hgone]
    exact .none
  · simp only [if_neg hgone]
    exact h key hkey

/-! ### What an answer does to a jar -/

/-- The filter adds no cookies of keys. -/
theorem AdmittedIn.mem_names_iff {draw : SessionDraw}
    (h : AdmittedIn sessions draws draw request sessionSecretKey trackingId requestCookies cookies)
    {sessionSecretKey' : String} (hsecret' : sessionSecretKey' ∈ sessions.secrets draws)
    (key : CacheKey) :
    (sessions.codingOf sessionSecretKey').name key.value ∈ requestCookies.names ↔
      (sessions.codingOf sessionSecretKey').name key.value ∈ request.names := by
  cases h.passes with
  | unchanged => exact Iff.rfl
  | merged =>
      rw [Jar.mem_names, Jar.mem_names, ← Jar.receive_eq_merge h.expired,
        Jar.get_receive_of_forall_ne fun cookie hc => h.ne_key cookie hc _ hsecret' key]

/-- Whatever jar receives the answer, its effect is all that happens to the data of a session. -/
theorem AdmittedIn.coded_receive {draw : SessionDraw}
    (h : AdmittedIn sessions draws draw request sessionSecretKey trackingId requestCookies cookies)
    (hapart : sessions.DrawsApart draws) {setCookies : List Cookie} {effect : Effect}
    (hcookies : CookiesFor sessions.kind (sessions.codingOf sessionSecretKey) request
      requestCookies cookies setCookies effect) {sessionSecretKey' : String}
    (hsecret' : sessionSecretKey' ∈ sessions.secrets draws) {own : Prop} [Decidable own]
    (hown : own ↔ sessionSecretKey' = sessionSecretKey)
    (hcoded : Coded (sessions.codingOf sessionSecretKey') jar data) :
    Coded (sessions.codingOf sessionSecretKey') (jar.receive setCookies)
      (effect.received (sessions.codingOf sessionSecretKey') sessions.kind request own data) := by
  have hfilter : ∀ {jar' : Jar} {data' : ApplicationData},
      Coded (sessions.codingOf sessionSecretKey') jar' data' →
      Coded (sessions.codingOf sessionSecretKey') (jar'.receive cookies) data' :=
    fun hcoded' => hcoded'.receive_of_ne fun cookie hc => h.ne_key cookie hc _ hsecret'
  cases hcookies with
  | @raised cause hraised =>
      rcases setCookies_errorStrategy request cause with ⟨he, heffect⟩ | ⟨he, heffect⟩
      · rw [hraised, he, heffect]
        exact hcoded.receive_discardAllCookies fun _ => Iff.rfl
      · have hsame : assignAll data (([] : List Edit).flatMap (Edit.assignments sessions.kind)) =
            data := rfl
        rw [hraised, he, heffect, Effect.received, hsame, ite_self]
        exact hcoded
  | discards hget =>
      exact (hfilter (hcoded.receive_discardAllCookies (h.mem_names_iff hsecret'))).congr
        (hget jar)
  | @built r result hbuilds hget =>
      rw [Effect.received]
      by_cases hsecret : sessionSecretKey' = sessionSecretKey
      · rw [if_pos (hown.mpr hsecret)]
        subst hsecret
        exact (hfilter (hbuilds.coded jar data hcoded)).congr (hget jar)
      · rw [if_neg (mt hown.mp hsecret)]
        have hother := hcoded.receive_of_ne fun cookie hc =>
          hapart.ne_key h.mem_secrets hsecret' hsecret (hbuilds.name_mem cookie hc)
        exact (hfilter hother).congr (hget jar)

/-- A name that an action does not set and that the filter does not set is not set at all. -/
theorem CookiesFor.get_eq_none {kind : SessionKind} {coding : SessionCoding}
    {setCookies : List Cookie} {effect : Effect}
    (h : CookiesFor kind coding request requestCookies cookies setCookies effect) {name : String}
    (hname : name ∉ coding.editNames) (hfilter : ∀ cookie ∈ cookies, cookie.name ≠ name)
    (hjar : jar.get name = none) : (jar.receive setCookies).get name = none := by
  have hdiscard : ∀ other : Jar,
      (jar.receive (discardAllCookies other).setCookies).get name = none := by
    intro other
    rw [get_receive_discardAllCookies, hjar, ite_self]
  cases h with
  | @raised cause h =>
      rcases errorStrategy_cases request cause with he | he
      · rw [h, he]
        exact hdiscard request
      · rw [h, he]
        exact hjar
  | discards hget =>
      rw [hget, Jar.get_receive_of_forall_ne hfilter]
      exact hdiscard requestCookies
  | built hbuilds hget =>
      rw [hget, Jar.get_receive_of_forall_ne hfilter, Jar.get_receive_of_forall_ne ?_, hjar]
      rintro cookie hc rfl
      exact hname (hbuilds.name_mem cookie hc)

/-! ### What an answer does to the session cookies -/

section Encrypted

variable {factory : EncryptedClientSideSessionFactory} {kind : SessionKind}
variable {coding : SessionCoding} {setCookies : List Cookie} {effect : Effect}

/-- The error strategy removes the session of the request, or leaves the cookies alone. -/
theorem sessionEffect_errorStrategy {minted : List SessionDraw}
    (hdiscard : SessionEffect factory (discardAllCookies request).setCookies minted)
    (cause : Throwable) :
    SessionEffect factory (errorStrategy request cause).setCookies minted := by
  rcases errorStrategy_cases request cause with he | he
  · rw [he]
    exact hdiscard
  · rw [he]
    exact sessionEffect_nil minted

/-- A request without a session renews the pair, or nothing at all. -/
theorem CookiesFor.renews {draw : SessionDraw}
    (h : CookiesFor kind coding request requestCookies (factory.newSessionCookies draw) setCookies
      effect) (ht : request.get trackingIdCookieName = none)
    (hs : request.get factory.sessionSecretKeySuffixCookieName = none) :
    SessionEffect factory setCookies [draw] := by
  have hrenew : ∀ inner : List Cookie, (∀ jar : Jar, (jar.receive setCookies).get =
      ((jar.receive inner).receive (factory.newSessionCookies draw)).get) →
      SessionEffect factory setCookies [draw] := by
    intro inner hget
    refine .renew draw (List.mem_singleton_self draw) fun jar => ?_
    rw [hget, Jar.receive_eq_merge (factory.newSessionCookies_expired draw)]
    exact factory.get_merge_newSessionCookies draw _
  cases h with
  | @raised cause h =>
      rw [h]
      exact sessionEffect_errorStrategy (.keep (get_receive_discardAll_of_none ht hs)) cause
  | discards hget => exact hrenew _ hget
  | built hbuilds hget => exact hrenew _ hget

/-- A request in a session keeps the pair or removes it. -/
theorem CookiesFor.keeps {trackingId suffix : String}
    (h : CookiesFor kind coding request request [] setCookies effect)
    (hne : ∀ name ∈ coding.editNames,
      name ≠ trackingIdCookieName ∧ name ≠ factory.sessionSecretKeySuffixCookieName)
    (ht : request.get trackingIdCookieName = some trackingId)
    (hs : request.get factory.sessionSecretKeySuffixCookieName = some suffix) :
    SessionEffect factory setCookies [] := by
  have hremove := get_receive_discardAll_of_some ht hs
  cases h with
  | @raised cause h =>
      rw [h]
      exact sessionEffect_errorStrategy (.remove hremove) cause
  | discards hget =>
      refine .remove fun jar => ?_
      rw [hget]
      exact hremove jar
  | built hbuilds hget =>
      have hnames := fun cookie hc => hne _ (hbuilds.name_mem cookie hc)
      refine .keep fun jar => ?_
      rw [hget]
      exact ⟨Jar.get_receive_of_forall_ne (fun cookie hc => (hnames cookie hc).1) jar,
        Jar.get_receive_of_forall_ne (fun cookie hc => (hnames cookie hc).2) jar⟩

end Encrypted

theorem CacheKey.value_ne_trackingIdCookieName (key : CacheKey) :
    key.value ≠ trackingIdCookieName := by
  cases key <;> decide

/-- Whatever whole jar receives the answer is whole. -/
theorem AdmittedIn.wholeJar_receive {draw : SessionDraw}
    (h : AdmittedIn sessions draws draw request sessionSecretKey trackingId requestCookies cookies)
    (hapart : sessions.DrawsApart draws) (hdraw : draw ∈ draws)
    (hrequest : sessions.WholeJar draws request) {setCookies : List Cookie} {effect : Effect}
    (hcookies : CookiesFor sessions.kind (sessions.codingOf sessionSecretKey) request
      requestCookies cookies setCookies effect) (hjar : sessions.WholeJar draws jar) :
    sessions.WholeJar draws (jar.receive setCookies) := by
  cases sessions with
  | clearText cookieFlags =>
      refine hcookies.get_eq_none ?_ ?_ hjar
      · rintro (hlang | ⟨key, hkey⟩ | ⟨key, hkey⟩)
        · exact absurd hlang (by decide)
        · exact key.value_ne_trackingIdCookieName hkey
        · exact key.value_ne_trackingIdCookieName hkey
      · cases h.passes with
        | unchanged hnone => cases hnone
        | merged hsome =>
            cases hsome
            exact List.forall_mem_singleton.mpr (by decide)
  | encrypted factory =>
      obtain ⟨minted, hminted, hwhole⟩ := hjar
      obtain ⟨minted', hminted', hwhole'⟩ := hrequest
      have hadd : ∀ added : List SessionDraw, (∀ draw ∈ added, draw ∈ draws) →
          SessionEffect factory setCookies added →
          (Sessions.encrypted factory).WholeJar draws (jar.receive setCookies) := by
        intro added hadded heffect
        refine ⟨minted ++ added, ?_, ?_⟩
        · intro draw hmem
          rcases List.mem_append.mp hmem with hmem | hmem
          · exact hminted draw hmem
          · exact hadded draw hmem
        · exact (hwhole.mono fun _ => List.mem_append_left added).receive
            (heffect.mono fun _ => List.mem_append_right minted)
      obtain ⟨old, hold, hsecret⟩ := h.mem_secrets
      rcases hwhole' with ⟨ht, hs⟩ | ⟨current, hcurrent, ht, hs⟩
      · have hnew : (Sessions.encrypted factory).factory.newSessionCookiesIfNeeded draw request =
            .ok (some (factory.newSessionCookies draw)) :=
          newSessionCookiesIfNeeded_of_none factory draw
            (factory.validateSessionCookies_of_none ht hs)
        cases h.passes with
        | unchanged hnone => cases hnew.symm.trans hnone
        | merged hsome =>
            cases hnew.symm.trans hsome
            exact hadd [draw] (List.forall_mem_singleton.mpr hdraw) (hcookies.renews ht hs)
      · have hnew : (Sessions.encrypted factory).factory.newSessionCookiesIfNeeded draw request =
            .ok none :=
          newSessionCookiesIfNeeded_of_some factory draw
            (factory.validateSessionCookies_newSession current ht hs)
        cases h.passes with
        | unchanged =>
            refine hadd [] (fun _ hmem => absurd hmem List.not_mem_nil) (hcookies.keeps ?_ ht hs)
            rw [← hsecret]
            exact fun name hname => ne_session_of_mem_editNames (hapart.keysApart hold) hname
        | merged hsome => cases hnew.symm.trans hsome

end Admitted

/-! ### Every interleaving -/

section Traffic

variable (sessions : Sessions) (config : Config)

/-- What holds of the jar and of every snapshot of it: the session is whole, and what is stored for
a session was written in it. -/
structure JarInvariant (draws : Set SessionDraw) (served : List (Served joda)) (jar : Jar) :
    Prop where
  whole : sessions.WholeJar draws jar
  coded : ∀ sessionSecretKey ∈ sessions.secrets draws, ∃ data,
    Coded (sessions.codingOf sessionSecretKey) jar data ∧
      AllStored (sessions.Wrote config served sessionSecretKey) data

/-- A request is answered as the wizard answers it on data that its session wrote before. -/
def AnsweredAsWizard (served : List (Served joda)) (entry : Served joda) : Prop :=
  ∃ sessionSecretKey trackingId data,
    sessions.secretServed entry = some sessionSecretKey ∧
    AllStored (sessions.Wrote config served sessionSecretKey) data ∧
    sessions.responseTo config entry =
      settle (handle config entry.exchange.environment (.ofData trackingId data)
        entry.exchange.request).result ∧
    (sessions.serve config entry.request entry.exchange).2 =
      (wizard sessions.kind config trackingId data entry.exchange).2

/-- A request that was served carried a snapshot of which the invariant held. -/
structure ServedWell (draws : Set SessionDraw) (exchanges : Set (Exchange joda))
    (served : List (Served joda)) (entry : Served joda) : Prop where
  mem_exchanges : entry.exchange ∈ exchanges
  request : JarInvariant sessions config draws served entry.request

variable {sessions config} {draws : Set SessionDraw} {exchanges : Set (Exchange joda)}

theorem Sessions.Wrote.mono {served served' : List (Served joda)}
    (hsub : ∀ entry ∈ served, entry ∈ served') {sessionSecretKey : String} {key : CacheKey}
    {model : key.Model} (h : sessions.Wrote config served sessionSecretKey key model) :
    sessions.Wrote config served' sessionSecretKey key model := by
  obtain ⟨entry, hentry, hwrote⟩ := h
  exact ⟨entry, hsub entry hentry, hwrote⟩

theorem AdmittedIn.secretServed_eq {entry : Served joda} {sessionSecretKey trackingId : String}
    {requestCookies : Jar} {cookies : List Cookie}
    (h : AdmittedIn sessions draws entry.exchange.draw entry.request sessionSecretKey trackingId
      requestCookies cookies) : sessions.secretServed entry = some sessionSecretKey := by
  rw [Sessions.secretServed, h.passes.admitted_eq]
  exact h.secretOf_eq

theorem AdmittedIn.responseTo_eq {entry : Served joda} {sessionSecretKey trackingId : String}
    {requestCookies : Jar} {cookies : List Cookie}
    (h : AdmittedIn sessions draws entry.exchange.draw entry.request sessionSecretKey trackingId
      requestCookies cookies) :
    sessions.responseTo config entry =
      settle (sessions.outcome config entry.exchange requestCookies).result := by
  rw [Sessions.responseTo, h.passes.admitted_eq]

/-- A snapshot of which the invariant holds is served as the wizard serves what it stores. -/
theorem ServedWell.answers (hapart : sessions.DrawsApart draws)
    (hdraws : ∀ exchange ∈ exchanges, exchange.draw ∈ draws) {served : List (Served joda)}
    {entry : Served joda} (h : ServedWell sessions config draws exchanges served entry) :
    ∃ sessionSecretKey ∈ sessions.secrets draws, ∃ trackingId,
      sessions.secretServed entry = some sessionSecretKey ∧
      ∀ data, Coded (sessions.codingOf sessionSecretKey) entry.request data →
        sessions.responseTo config entry =
          settle (handle config entry.exchange.environment (.ofData trackingId data)
            entry.exchange.request).result ∧
        (sessions.serve config entry.request entry.exchange).2 =
          (wizard sessions.kind config trackingId data entry.exchange).2 := by
  obtain ⟨sessionSecretKey, trackingId, requestCookies, cookies, hadmitted⟩ :=
    hapart.exists_admittedIn (hdraws _ h.mem_exchanges) h.request.whole
  refine ⟨sessionSecretKey, hadmitted.mem_secrets, trackingId, hadmitted.secretServed_eq, ?_⟩
  intro data hcoded
  have houtcome : sessions.outcome config entry.exchange requestCookies =
      handle config entry.exchange.environment (.ofData trackingId data)
        entry.exchange.request := by
    rw [Sessions.outcome, ofJar_eq_ofData hadmitted.found (hadmitted.coded hcoded)]
  have hcontent := (hadmitted.answer config entry.exchange hapart).1
  have hcalls : sessions.calls config entry.exchange entry.request =
      (sessions.outcome config entry.exchange requestCookies).calls := by
    rw [Sessions.calls, hadmitted.passes.admitted_eq]
  constructor
  · rw [hadmitted.responseTo_eq, houtcome]
  · rw [Sessions.serve, wizard, hcontent, hcalls, houtcome]

theorem ServedWell.answeredAsWizard (hapart : sessions.DrawsApart draws)
    (hdraws : ∀ exchange ∈ exchanges, exchange.draw ∈ draws) {served : List (Served joda)}
    {entry : Served joda} (h : ServedWell sessions config draws exchanges served entry) :
    AnsweredAsWizard sessions config served entry := by
  obtain ⟨sessionSecretKey, hmem, trackingId, hsecret, hanswers⟩ := h.answers hapart hdraws
  obtain ⟨data, hcoded, hwrote⟩ := h.request.coded sessionSecretKey hmem
  exact ⟨sessionSecretKey, trackingId, data, hsecret, hwrote, hanswers data hcoded⟩

theorem JarInvariant.mono {served served' : List (Served joda)} {jar : Jar}
    (h : JarInvariant sessions config draws served jar)
    (hsub : ∀ entry ∈ served, entry ∈ served') :
    JarInvariant sessions config draws served' jar := by
  refine ⟨h.whole, fun sessionSecretKey hmem => ?_⟩
  obtain ⟨data, hcoded, hwrote⟩ := h.coded sessionSecretKey hmem
  exact ⟨data, hcoded, hwrote.mono fun key model => Sessions.Wrote.mono hsub⟩

/-- Cookies for an effect on the data keep the invariant, if what they write is known to be
written. -/
theorem JarInvariant.receive_cookies (hapart : sessions.DrawsApart draws)
    {served' : List (Served joda)} {draw : SessionDraw} {request requestCookies jar : Jar}
    {sessionSecretKey trackingId : String} {cookies setCookies : List Cookie} {effect : Effect}
    (hadmitted : AdmittedIn sessions draws draw request sessionSecretKey trackingId requestCookies
      cookies) (hdraw : draw ∈ draws) (hrequest : sessions.WholeJar draws request)
    (hcookies : CookiesFor sessions.kind (sessions.codingOf sessionSecretKey) request requestCookies
      cookies setCookies effect)
    (hwrites : ∀ key model, .withCookie key model ∈ effect.written →
      sessions.Wrote config served' sessionSecretKey key model)
    (h : JarInvariant sessions config draws served' jar) :
    JarInvariant sessions config draws served' (jar.receive setCookies) := by
  refine ⟨hadmitted.wholeJar_receive hapart hdraw hrequest hcookies h.whole, ?_⟩
  intro sessionSecretKey' hmem
  obtain ⟨data, hcoded, hwrote⟩ := h.coded sessionSecretKey' hmem
  refine ⟨_, hadmitted.coded_receive hapart hcookies hmem Iff.rfl hcoded, ?_⟩
  intro key model hmodel
  rcases Effect.of_received hmodel with hkept | ⟨rfl, hedit⟩
  · exact hwrote key model hkept
  · exact hwrites key model hedit

theorem JarInvariant.receive (hapart : sessions.DrawsApart draws) {served : List (Served joda)}
    {entry : Served joda} (hdraw : entry.exchange.draw ∈ draws)
    (hrequest : JarInvariant sessions config draws served entry.request)
    {served' : List (Served joda)} (hentry : entry ∈ served') {jar : Jar}
    (h : JarInvariant sessions config draws served' jar) :
    JarInvariant sessions config draws served'
      (jar.receive (sessions.answer config entry.exchange entry.request).setCookies) := by
  obtain ⟨sessionSecretKey, trackingId, requestCookies, cookies, hadmitted⟩ :=
    hapart.exists_admittedIn hdraw hrequest.whole
  obtain ⟨-, hcookies⟩ := hadmitted.answer config entry.exchange hapart
  refine h.receive_cookies hapart hadmitted hdraw hrequest.whole hcookies ?_
  intro key model hedit
  rw [Response.written_effect] at hedit
  exact ⟨entry, hentry, hadmitted.secretServed_eq, by rwa [hadmitted.responseTo_eq]⟩

theorem traffic_keeps (hapart : sessions.DrawsApart draws)
    (hdraws : ∀ exchange ∈ exchanges, exchange.draw ∈ draws) :
    Snapshots.Keeps (sessions.traffic config exchanges) (JarInvariant sessions config draws)
      (ServedWell sessions config draws exchanges) where
  mono served entry jar h := h.mono fun _ => List.mem_cons_of_mem entry
  good served request response entry h hserves := by
    obtain ⟨rfl, hexchange, -⟩ := hserves
    exact ⟨hexchange, h⟩
  receive served request response entry h hserves later jar hjar := by
    obtain ⟨rfl, hexchange, rfl⟩ := hserves
    exact h.receive hapart (hdraws _ hexchange)
      (List.mem_append_right later List.mem_cons_self) hjar

theorem coded_of_clean {jar : Jar} (hclean : Clean jar) (sessionSecretKey : String) :
    Coded (sessions.codingOf sessionSecretKey) jar fun _ => none := by
  cases sessions with
  | clearText cookieFlags =>
      exact coded_of_none fun key => hclean key.value (by cases key <;> decide)
  | encrypted factory => exact hclean.coded sessionSecretKey

theorem jarInvariant_of_clean {jar : Jar} (hclean : Clean jar) :
    JarInvariant sessions config draws ([] : List (Served joda)) jar := by
  refine ⟨?_, fun sessionSecretKey _ =>
    ⟨fun _ => none, coded_of_clean hclean sessionSecretKey, by rintro key model ⟨⟩⟩⟩
  cases sessions with
  | clearText cookieFlags => exact hclean trackingIdCookieName (by decide)
  | encrypted factory =>
      exact ⟨[], fun _ hmem => absurd hmem List.not_mem_nil,
        .inl ⟨hclean _ (by decide),
          hclean _ (factory.suffixCookieName_ne_of_length (by decide))⟩⟩

/-- The session of a jar, and what it holds. -/
theorem Sessions.WholeJar.holds {jar : Jar} (hapart : sessions.DrawsApart draws)
    (hwhole : sessions.WholeJar draws jar) {sessionSecretKey : String}
    (hsecret : sessions.secretOf jar = some sessionSecretKey) :
    sessionSecretKey ∈ sessions.secrets draws ∧
      ∀ data, Coded (sessions.codingOf sessionSecretKey) jar data → Holds sessions jar data := by
  cases sessions with
  | clearText cookieFlags =>
      cases hsecret
      exact ⟨rfl, fun data hcoded => .clearText hcoded⟩
  | encrypted factory =>
      obtain ⟨minted, hminted, hwhole⟩ := hwhole
      rcases hwhole.validate with ⟨-, -, hvalidate⟩ | ⟨old, hold, hvalidate⟩
      · simp only [Sessions.secretOf, hvalidate] at hsecret
        cases hsecret
      · simp only [Sessions.secretOf, hvalidate] at hsecret
        cases hsecret
        exact ⟨⟨old, hminted old hold, rfl⟩, fun data hcoded =>
          .session (hapart.keysApart (hminted old hold)) hvalidate hcoded⟩

/-- Every request that was served was answered as the wizard answers it. -/
def AllAnswered (sessions : Sessions) (config : Config) (served : List (Served joda)) : Prop :=
  ∀ before entry after, served = before ++ entry :: after →
    AnsweredAsWizard sessions config after entry

theorem AllAnswered.of_reachable {jar : Jar} (hclean : Clean jar) {draws : Set SessionDraw}
    (hapart : sessions.DrawsApart draws) {exchanges : Set (Exchange joda)}
    (hdraws : ∀ exchange ∈ exchanges, exchange.draw ∈ draws)
    {s : Snapshots.Network Jar (List Cookie) (Served joda)}
    (hreach : Snapshots.Reachable (sessions.traffic config exchanges) jar s) :
    AllAnswered sessions config s.served := by
  have hsafe := hreach.safe (traffic_keeps hapart hdraws) (jarInvariant_of_clean hclean)
  intro before entry after hserved
  exact (hsafe.served before entry after hserved).answeredAsWizard hapart hdraws

end Traffic

section Dealer

open Dealer

theorem drawsApart_zeroDraw :
    (Sessions.encrypted (productionFactory (Equiv.refl _))).DrawsApart {zeroDraw} := by
  obtain ⟨hinj, hne⟩ := productionFactory_keysApart
  refine ⟨hinj.mono ?_, ?_⟩
  · rintro text (rfl | ⟨draw, rfl, key, rfl⟩)
    · exact .inl rfl
    · exact .inr ⟨key.value, ⟨key, rfl⟩, rfl⟩
  · rintro draw rfl
    exact hne

/-- A browser that sends two requests at once, when the response to the second one is still under
way. -/
def sendsAtOnce (sessions : Sessions) (first second : Exchange utc) :
    Snapshots.Network Jar (List Cookie) (Served utc) where
  state := (∅ : Jar).receive (sessions.answer {} first ∅).setCookies
  responses := [(sessions.answer {} second ∅).setCookies]
  served := [⟨∅, second⟩, ⟨∅, first⟩]

theorem sendsAtOnce_reachable (sessions : Sessions) (first second : Exchange utc) :
    Snapshots.Reachable (sessions.traffic {} {first, second}) ∅
      (sendsAtOnce sessions first second) := by
  have hsecond : second ∈ ({first, second} : Set (Exchange utc)) := .inr rfl
  refine .head (.send _) (.head (.send _) ?_)
  refine .head (.serve _ [] [∅] ∅ _ ⟨∅, first⟩ rfl ⟨rfl, .inl rfl, rfl⟩) ?_
  refine .head (.serve _ [] [] ∅ _ ⟨∅, second⟩ rfl ⟨rfl, hsecond, rfl⟩) ?_
  exact .single (.deliver _ [_] [] _ rfl)

end Dealer

end VehiclesOnline
