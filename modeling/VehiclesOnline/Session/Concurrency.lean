import Mathlib.Logic.Relation
import VehiclesOnline.Session.Healing
import VehiclesOnline.Session.Refinement

/-! # The session pair under concurrent requests

A browser sends any number of requests, each with a snapshot of its jar, and applies their
responses in any order. The two session cookies nevertheless stay together: a response sets
both of them to one new pair, removes both or touches neither. -/

namespace VehiclesOnline

open EncryptedClientSideSessionFactory

/-- What an action does to the cookies of its response: calls of the adapters, cookies of
other names such as that of the language, and `CryptoHelper.discardAllCookies`. -/
inductive ResponseStep : Type 1
  | adapter (call : CookieCall)
  | other (cookie : Cookie)
  | discardAll

variable (factory : EncryptedClientSideSessionFactory)

def ResponseStep.apply (requestCookies : Jar) (inner : SimpleResult Route) :
    ResponseStep → Except Throwable (SimpleResult Route)
  | adapter call => call.apply requestCookies factory.toFactory inner
  | other cookie => .ok (inner.withCookies [cookie])
  | discardAll => .ok (inner.withCookies (discardAllCookies requestCookies).setCookies)

/-- An action raises, or builds its response step by step. -/
def runAction (outcome : Except Throwable (List ResponseStep)) (requestCookies : Jar) :
    Except Throwable (SimpleResult Route) :=
  match outcome with
  | .error cause => .error cause
  | .ok steps => steps.foldlM (fun inner step => step.apply factory requestCookies inner)
      { content := .beforeYouStart }

/-- The answer to a request: by the action behind the filter, or by the error strategy. -/
def serve (draw : SessionDraw) (outcome : Except Throwable (List ResponseStep))
    (request : Jar) : SimpleResult Route :=
  match ensureSessionCreatedFilter factory.toFactory draw (runAction factory outcome) request with
  | .ok result => result
  | .error cause => errorStrategy request cause

/-- The draws with which the filter creates a session for a request. -/
def mintedFor (draw : SessionDraw) (request : Jar) : List SessionDraw :=
  match factory.newSessionCookiesIfNeeded draw request with
  | .ok (some _) => [draw]
  | _ => []

/-- The browser's jar, the requests and the responses in flight, and the draws of all
sessions that were created. -/
structure Network where
  jar : Jar
  requests : List Jar
  responses : List (List Cookie)
  minted : List SessionDraw

def Network.initial : Network := ⟨∅, [], [], []⟩

/-- The names that a step uses are not those of the session cookies. -/
def ResponseStep.Admissible (keys : Set String) : ResponseStep → Prop
  | adapter call => About keys [call]
  | other cookie => cookie.name ≠ trackingIdCookieName ∧
      cookie.name ≠ factory.sessionSecretKeySuffixCookieName
  | discardAll => True

inductive Network.Step (draws : Set SessionDraw) (keys : Set String) : Network → Network → Prop
  | send (s : Network) : Step draws keys s { s with requests := s.jar :: s.requests }
  | serve (s : Network) (before after : List Jar) (request : Jar) (draw : SessionDraw)
      (outcome : Except Throwable (List ResponseStep))
      (hrequest : s.requests = before ++ request :: after) (hdraw : draw ∈ draws)
      (hsteps : ∀ steps, outcome = .ok steps → ∀ step ∈ steps, step.Admissible factory keys) :
      Step draws keys s { s with
        requests := before ++ after
        responses := (serve factory draw outcome request).setCookies :: s.responses
        minted := mintedFor factory draw request ++ s.minted }
  | deliver (s : Network) (before after : List (List Cookie)) (response : List Cookie)
      (hresponse : s.responses = before ++ response :: after) :
      Step draws keys s { s with
        jar := s.jar.receive response
        responses := before ++ after }

/-! ### The invariant -/

/-- No session cookie, or the pair that one of the draws made. -/
def Whole (minted : List SessionDraw) (jar : Jar) : Prop :=
  (jar.get trackingIdCookieName = none ∧
    jar.get factory.sessionSecretKeySuffixCookieName = none) ∨
  ∃ draw ∈ minted, jar.get trackingIdCookieName = some (factory.newSessionPair draw).1 ∧
    jar.get factory.sessionSecretKeySuffixCookieName = some (factory.newSessionPair draw).2

/-- The effect of a response on the session cookies of whatever jar receives it. -/
inductive SessionEffect (response : List Cookie) (minted : List SessionDraw) : Prop
  | keep (h : ∀ jar : Jar, (jar.receive response).get trackingIdCookieName =
        jar.get trackingIdCookieName ∧
      (jar.receive response).get factory.sessionSecretKeySuffixCookieName =
        jar.get factory.sessionSecretKeySuffixCookieName)
  | remove (h : ∀ jar : Jar, (jar.receive response).get trackingIdCookieName = none ∧
      (jar.receive response).get factory.sessionSecretKeySuffixCookieName = none)
  | renew (draw : SessionDraw) (hdraw : draw ∈ minted) (h : ∀ jar : Jar,
      (jar.receive response).get trackingIdCookieName =
        some (factory.newSessionPair draw).1 ∧
      (jar.receive response).get factory.sessionSecretKeySuffixCookieName =
        some (factory.newSessionPair draw).2)

structure Network.Invariant (s : Network) : Prop where
  jar : Whole factory s.minted s.jar
  requests : ∀ request ∈ s.requests, Whole factory s.minted request
  responses : ∀ response ∈ s.responses, SessionEffect factory response s.minted

variable {factory}

theorem Whole.mono {minted minted' : List SessionDraw} (hsub : ∀ d ∈ minted, d ∈ minted')
    {jar : Jar} (h : Whole factory minted jar) : Whole factory minted' jar := by
  rcases h with h | ⟨draw, hdraw, h⟩
  · exact .inl h
  · exact .inr ⟨draw, hsub draw hdraw, h⟩

theorem SessionEffect.mono {minted minted' : List SessionDraw} (hsub : ∀ d ∈ minted, d ∈ minted')
    {response : List Cookie} (h : SessionEffect factory response minted) :
    SessionEffect factory response minted' := by
  cases h with
  | keep h => exact .keep h
  | remove h => exact .remove h
  | renew draw hdraw h => exact .renew draw (hsub draw hdraw) h

theorem Whole.receive {minted : List SessionDraw} {jar : Jar} (h : Whole factory minted jar)
    {response : List Cookie} (heffect : SessionEffect factory response minted) :
    Whole factory minted (jar.receive response) := by
  cases heffect with
  | keep hkeep =>
      obtain ⟨ht, hs⟩ := hkeep jar
      rw [Whole, ht, hs]
      exact h
  | remove hremove => exact .inl (hremove jar)
  | renew draw hdraw hrenew => exact .inr ⟨draw, hdraw, hrenew jar⟩

/-- A whole request is validated. -/
theorem Whole.validate {minted : List SessionDraw} {request : Jar}
    (h : Whole factory minted request) :
    (request.get trackingIdCookieName = none ∧
      request.get factory.sessionSecretKeySuffixCookieName = none ∧
        factory.validateSessionCookies request = .ok none) ∨
      ∃ draw ∈ minted, factory.validateSessionCookies request =
        .ok (some ((factory.newSessionPair draw).1, encodeHexString draw.sessionSecretKey)) := by
  rcases h with ⟨ht, hs⟩ | ⟨draw, hdraw, ht, hs⟩
  · exact .inl ⟨ht, hs, factory.validateSessionCookies_of_none ht hs⟩
  · exact .inr ⟨draw, hdraw, factory.validateSessionCookies_newSession draw ht hs⟩

/-! ### The effect of one response -/

/-- Keeps both session cookies, or removes both. -/
def KeepsOrRemoves (factory : EncryptedClientSideSessionFactory) (result : SimpleResult Route) :
    Prop := SessionEffect factory result.setCookies []

theorem KeepsOrRemoves.withCookies {result : SimpleResult Route}
    (h : KeepsOrRemoves factory result) {cookies : List Cookie}
    (ht : ∀ cookie ∈ cookies, cookie.name ≠ trackingIdCookieName)
    (hs : ∀ cookie ∈ cookies, cookie.name ≠ factory.sessionSecretKeySuffixCookieName) :
    KeepsOrRemoves factory (result.withCookies cookies) := by
  have hget : ∀ jar : Jar,
      (jar.receive (result.withCookies cookies).setCookies).get trackingIdCookieName =
          (jar.receive result.setCookies).get trackingIdCookieName ∧
        (jar.receive (result.withCookies cookies).setCookies).get
            factory.sessionSecretKeySuffixCookieName =
          (jar.receive result.setCookies).get factory.sessionSecretKeySuffixCookieName := by
    intro jar
    rw [Jar.get_receive_withCookies, Jar.get_receive_of_forall_ne ht,
      Jar.get_receive_of_forall_ne hs]
    exact ⟨rfl, rfl⟩
  cases h with
  | keep h => exact .keep fun jar => ⟨(hget jar).1.trans (h jar).1, (hget jar).2.trans (h jar).2⟩
  | remove h =>
      exact .remove fun jar => ⟨(hget jar).1.trans (h jar).1, (hget jar).2.trans (h jar).2⟩
  | renew draw hdraw h => exact absurd hdraw List.not_mem_nil

/-- Discarding all cookies of a request removes the pair that it carries. -/
theorem get_receive_discardAll_of_some {request : Jar} {trackingId suffix : String}
    (ht : request.get trackingIdCookieName = some trackingId)
    (hs : request.get factory.sessionSecretKeySuffixCookieName = some suffix) (jar : Jar) :
    (jar.receive (discardAllCookies request).setCookies).get trackingIdCookieName = none ∧
      (jar.receive (discardAllCookies request).setCookies).get
        factory.sessionSecretKeySuffixCookieName = none := by
  rw [get_receive_discardAllCookies, get_receive_discardAllCookies, if_pos, if_pos]
  · exact ⟨rfl, rfl⟩
  · exact ⟨Jar.mem_names.mpr (by simp [hs]), factory.suffixCookieName_ne_of_length (by decide)⟩
  · exact ⟨Jar.mem_names.mpr (by simp [ht]), by decide⟩

theorem get_receive_discardAll_of_none {request : Jar}
    (ht : request.get trackingIdCookieName = none)
    (hs : request.get factory.sessionSecretKeySuffixCookieName = none) (jar : Jar) :
    (jar.receive (discardAllCookies request).setCookies).get trackingIdCookieName =
        jar.get trackingIdCookieName ∧
      (jar.receive (discardAllCookies request).setCookies).get
          factory.sessionSecretKeySuffixCookieName =
        jar.get factory.sessionSecretKeySuffixCookieName := by
  rw [get_receive_discardAllCookies, get_receive_discardAllCookies, if_neg, if_neg]
  · exact ⟨rfl, rfl⟩
  · exact fun h => Jar.mem_names.mp h.1 hs
  · exact fun h => Jar.mem_names.mp h.1 ht

theorem sessionEffect_nil (minted : List SessionDraw) : SessionEffect factory [] minted :=
  .keep fun _ => ⟨rfl, rfl⟩

/-- The digests of the keys of the sessions that may be created differ from the name of the
suffix cookie. -/
def KeysApart (factory : EncryptedClientSideSessionFactory) (draws : Set SessionDraw)
    (keys : Set String) : Prop :=
  ∀ draw ∈ draws, ∀ key ∈ keys,
    factory.cookieNameHashing.hash (encodeHexString draw.sessionSecretKey ++ key) ≠
      factory.sessionSecretKeySuffixCookieName

section Actions

variable {draws : Set SessionDraw} {keys : Set String} {draw : SessionDraw} {request : Jar}

/-- One step of an action in a session keeps the pair or removes it. -/
theorem ResponseStep.apply_keepsOrRemoves (hkeys : KeysApart factory draws keys)
    (hdraw : draw ∈ draws)
    (ht : request.get trackingIdCookieName = some (factory.newSessionPair draw).1)
    (hs : request.get factory.sessionSecretKeySuffixCookieName =
      some (factory.newSessionPair draw).2)
    {inner result : SimpleResult Route} {step : ResponseStep}
    (hstep : step.Admissible factory keys) (hinner : KeepsOrRemoves factory inner)
    (h : step.apply factory request inner = .ok result) : KeepsOrRemoves factory result := by
  cases step with
  | adapter call =>
      have hsession : factory.toFactory.getSession request = .ok
          (encryptedClientSideSession factory.crypto (factory.newSessionPair draw).1
            (encodeHexString draw.sessionSecretKey)) :=
        factory.getSession_of_validate (factory.validateSessionCookies_newSession draw ht hs)
      rw [apply, CookieCall.apply_eq hsession] at h
      cases h
      have hspec := encryptedClientSideSession_spec factory.crypto (factory.newSessionPair draw).1
        (encodeHexString draw.sessionSecretKey)
      have hname : ∀ cookie ∈ call.cookies (encryptedClientSideSession factory.crypto
          (factory.newSessionPair draw).1 (encodeHexString draw.sessionSecretKey)),
          ∃ key ∈ keys, factory.cookieNameHashing.hash
            (encodeHexString draw.sessionSecretKey ++ key) = cookie.name := by
        intro cookie hc
        apply KeyValue.name_mem_of_codes (CookieCall.codes_cookies hspec call) _
          (List.mem_map_of_mem hc)
        simpa [About, Admissible] using hstep
      apply hinner.withCookies
      · intro cookie hc
        obtain ⟨key, _, hkey⟩ := hname cookie hc
        rw [← hkey]
        exact factory.hash_ne_trackingIdCookieName _
      · intro cookie hc
        obtain ⟨key, hk, hkey⟩ := hname cookie hc
        rw [← hkey]
        exact hkeys draw hdraw key hk
  | other cookie =>
      cases h
      apply hinner.withCookies
      · simpa using hstep.1
      · simpa using hstep.2
  | discardAll =>
      cases h
      refine .remove fun jar => ?_
      rw [Jar.get_receive_withCookies]
      exact get_receive_discardAll_of_some ht hs _

theorem runAction_keepsOrRemoves (hkeys : KeysApart factory draws keys) (hdraw : draw ∈ draws)
    (ht : request.get trackingIdCookieName = some (factory.newSessionPair draw).1)
    (hs : request.get factory.sessionSecretKeySuffixCookieName =
      some (factory.newSessionPair draw).2)
    {outcome : Except Throwable (List ResponseStep)}
    (hsteps : ∀ steps, outcome = .ok steps → ∀ step ∈ steps, step.Admissible factory keys)
    {result : SimpleResult Route} (h : runAction factory outcome request = .ok result) :
    KeepsOrRemoves factory result := by
  cases outcome with
  | error cause => cases h
  | ok steps =>
      have hall := hsteps steps rfl
      rw [runAction] at h
      have hinner : KeepsOrRemoves factory { content := .beforeYouStart } := sessionEffect_nil []
      generalize ({ content := .beforeYouStart } : SimpleResult Route) = inner at h hinner
      clear hsteps
      induction steps generalizing inner with
      | nil =>
          cases h
          exact hinner
      | cons step steps ih =>
          rw [List.foldlM_cons] at h
          cases hfirst : step.apply factory request inner with
          | error cause =>
              rw [hfirst] at h
              cases h
          | ok next =>
              rw [hfirst] at h
              have hnext := step.apply_keepsOrRemoves hkeys hdraw ht hs
                (hall step List.mem_cons_self) hinner hfirst
              exact ih (fun s hm => hall s (List.mem_cons_of_mem step hm)) next h hnext

end Actions

/-- The response to a whole request keeps, removes or renews the pair as a whole. -/
theorem serve_sessionEffect {draws : Set SessionDraw} {keys : Set String}
    (hkeys : KeysApart factory draws keys) {minted : List SessionDraw}
    (hminted : ∀ d ∈ minted, d ∈ draws) {request : Jar} (hwhole : Whole factory minted request)
    (draw : SessionDraw) {outcome : Except Throwable (List ResponseStep)}
    (hsteps : ∀ steps, outcome = .ok steps → ∀ step ∈ steps, step.Admissible factory keys) :
    SessionEffect factory (serve factory draw outcome request).setCookies
      (mintedFor factory draw request ++ minted) := by
  rcases hwhole with ⟨ht, hs⟩ | ⟨old, hold, ht, hs⟩
  · have hnew := newSessionCookiesIfNeeded_of_none factory draw
      (factory.validateSessionCookies_of_none ht hs)
    have hserve : serve factory draw outcome request =
        match runAction factory outcome (request.merge (factory.newSessionCookies draw)) with
        | .ok result => result.withCookies (factory.newSessionCookies draw)
        | .error cause => errorStrategy request cause := by
      simp only [serve, ensureSessionCreatedFilter, toFactory, hnew, bind, Except.bind]
      cases runAction factory outcome (request.merge (factory.newSessionCookies draw)) <;> rfl
    rw [hserve]
    cases runAction factory outcome (request.merge (factory.newSessionCookies draw)) with
    | ok result =>
        refine .renew draw (by simp [mintedFor, hnew]) fun jar => ?_
        rw [Jar.get_receive_withCookies,
          Jar.receive_eq_merge (factory.newSessionCookies_expired draw)]
        exact factory.get_merge_newSessionCookies draw _
    | error cause =>
        rcases errorStrategy_cases request cause with he | he
        · simp only [he]
          exact .keep (get_receive_discardAll_of_none ht hs)
        · simp only [he]
          exact sessionEffect_nil _
  · have hnew := newSessionCookiesIfNeeded_of_some factory draw
      (factory.validateSessionCookies_newSession old ht hs)
    have hserve : serve factory draw outcome request =
        match runAction factory outcome request with
        | .ok result => result
        | .error cause => errorStrategy request cause := by
      simp only [serve, ensureSessionCreatedFilter, toFactory, hnew, bind, Except.bind]
    rw [hserve]
    cases hrun : runAction factory outcome request with
    | ok result =>
        have hkeeps := runAction_keepsOrRemoves hkeys (hminted old hold) ht hs hsteps hrun
        exact hkeeps.mono fun d hd => absurd hd List.not_mem_nil
    | error cause =>
        rcases errorStrategy_cases request cause with he | he
        · simp only [he]
          exact .remove (get_receive_discardAll_of_some ht hs)
        · simp only [he]
          exact sessionEffect_nil _

/-! ### Every interleaving -/

theorem mem_of_mem_mintedFor {draw d : SessionDraw} {request : Jar}
    (h : d ∈ mintedFor factory draw request) : d = draw := by
  rw [mintedFor] at h
  split at h
  · exact List.mem_singleton.mp h
  · cases h

/-- The invariant, with the draws of the sessions among the given ones. -/
theorem Network.Step.invariant {draws : Set SessionDraw} {keys : Set String}
    (hkeys : KeysApart factory draws keys) {s s' : Network}
    (hstep : Network.Step factory draws keys s s')
    (h : s.Invariant factory ∧ ∀ d ∈ s.minted, d ∈ draws) :
    s'.Invariant factory ∧ ∀ d ∈ s'.minted, d ∈ draws := by
  obtain ⟨⟨hjar, hrequests, hresponses⟩, hminted⟩ := h
  cases hstep with
  | send =>
      refine ⟨⟨hjar, ?_, hresponses⟩, hminted⟩
      intro request hr
      rcases List.mem_cons.mp hr with rfl | hr
      · exact hjar
      · exact hrequests request hr
  | serve before after request draw outcome hrequest hdraw hsteps =>
      have hsub : ∀ d ∈ s.minted, d ∈ mintedFor factory draw request ++ s.minted :=
        fun d hd => List.mem_append.mpr (.inr hd)
      have hwhole := hrequests request (by rw [hrequest]; simp)
      refine ⟨⟨hjar.mono hsub, ?_, ?_⟩, ?_⟩
      · intro other ho
        apply (hrequests other _).mono hsub
        rw [hrequest]
        rcases List.mem_append.mp ho with ho | ho
        · exact List.mem_append.mpr (.inl ho)
        · exact List.mem_append.mpr (.inr (List.mem_cons_of_mem request ho))
      · intro response hr
        rcases List.mem_cons.mp hr with rfl | hr
        · exact serve_sessionEffect hkeys hminted hwhole draw hsteps
        · exact (hresponses response hr).mono hsub
      · intro d hd
        rcases List.mem_append.mp hd with hd | hd
        · rw [mem_of_mem_mintedFor hd]
          exact hdraw
        · exact hminted d hd
  | deliver before after response hresponse =>
      have heffect := hresponses response (by rw [hresponse]; simp)
      refine ⟨⟨hjar.receive heffect, hrequests, ?_⟩, hminted⟩
      intro other ho
      apply hresponses
      rw [hresponse]
      rcases List.mem_append.mp ho with ho | ho
      · exact List.mem_append.mpr (.inl ho)
      · exact List.mem_append.mpr (.inr (List.mem_cons_of_mem response ho))

/-- The request that the filter passes on. -/
def passedOn (factory : EncryptedClientSideSessionFactory) (draw : SessionDraw) (request : Jar) :
    Except Throwable Jar := do
  match ← factory.newSessionCookiesIfNeeded draw request with
  | some cookies => return request.merge cookies
  | none => return request

/-- For a whole request neither the filter nor an action behind it fails to find a session. -/
theorem Whole.getSession {minted : List SessionDraw} {request : Jar}
    (h : Whole factory minted request) (draw : SessionDraw) :
    ∃ request' session, passedOn factory draw request = .ok request' ∧
      factory.getSession request' = .ok session := by
  rcases h.validate with ⟨ht, hs, hv⟩ | ⟨old, _, hv⟩
  · refine ⟨request.merge (factory.newSessionCookies draw), _, ?_,
      getSession_merge_newSessionCookies factory draw request⟩
    rw [passedOn, newSessionCookiesIfNeeded_of_none factory draw hv]
    rfl
  · refine ⟨request, _, ?_, factory.getSession_of_validate hv⟩
    rw [passedOn, newSessionCookiesIfNeeded_of_some factory draw hv]
    rfl

theorem Network.invariant_initial : Network.initial.Invariant factory where
  jar := .inl ⟨rfl, rfl⟩
  requests := by simp [Network.initial]
  responses := by simp [Network.initial]

/-- In every reachable state the jar holds no session cookie or one whole pair of a single
draw, and the session of every request in flight is found. -/
theorem sessionPair_never_torn (factory : EncryptedClientSideSessionFactory)
    (draws : Set SessionDraw) (keys : Set String) (hkeys : KeysApart factory draws keys)
    (s : Network) (hreach : Relation.ReflTransGen (Network.Step factory draws keys) .initial s) :
    Whole factory s.minted s.jar ∧ ∀ request ∈ s.jar :: s.requests, ∀ draw,
      ∃ request' session, passedOn factory draw request = .ok request' ∧
        factory.getSession request' = .ok session := by
  have hinv : s.Invariant factory ∧ ∀ d ∈ s.minted, d ∈ draws := by
    induction hreach with
    | refl => exact ⟨Network.invariant_initial, by simp [Network.initial]⟩
    | tail _ hstep ih => exact hstep.invariant hkeys ih
  refine ⟨hinv.1.jar, ?_⟩
  intro request hr draw
  rcases List.mem_cons.mp hr with rfl | hr
  · exact hinv.1.jar.getSession draw
  · exact (hinv.1.requests request hr).getSession draw

def zeroDraw : SessionDraw := ⟨fun _ => 0, fun _ => 0⟩

/-- A browser without cookies after its first request, whose action wrote a cookie. -/
def firstExchange (factory : EncryptedClientSideSessionFactory) (key : String) : Network :=
  let response := (serve factory zeroDraw
    (.ok [.adapter (.withCookie (fun _ => 0) key "true")]) ∅).setCookies
  ⟨(∅ : Jar).receive response, [], [], mintedFor factory zeroDraw ∅⟩

theorem firstExchange_reachable (factory : EncryptedClientSideSessionFactory) (key : String) :
    Relation.ReflTransGen (Network.Step factory {zeroDraw} {key}) .initial
      (firstExchange factory key) := by
  have hadmissible : ∀ steps, (.ok [.adapter (.withCookie (fun _ => 0) key "true")] :
      Except Throwable (List ResponseStep)) = .ok steps →
        ∀ step ∈ steps, step.Admissible factory {key} := by
    intro steps h step hstep
    cases h
    rw [List.mem_singleton.mp hstep]
    simp [ResponseStep.Admissible, About, CookieCall.assignments]
  refine .head (.send Network.initial) (.head (.serve _ [] [] ∅ zeroDraw _ rfl rfl hadmissible) ?_)
  exact .single (.deliver _ [] [] _ rfl)

theorem sessionPair_never_torn_firstExchange :
    Whole (productionFactory (Equiv.refl _))
      (firstExchange (productionFactory (Equiv.refl _)) "preventGoingToDisposePage").minted
      (firstExchange (productionFactory (Equiv.refl _)) "preventGoingToDisposePage").jar :=
  (sessionPair_never_torn (productionFactory (Equiv.refl _)) {zeroDraw}
    {"preventGoingToDisposePage"} (by
      intro draw hdraw key hkey
      rw [Set.mem_singleton_iff.mp hdraw, Set.mem_singleton_iff.mp hkey]
      decide +kernel)
    _ (firstExchange_reachable _ _)).1

end VehiclesOnline
