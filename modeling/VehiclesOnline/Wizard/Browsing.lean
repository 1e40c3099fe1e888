import VehiclesOnline.Session.Expiry
import VehiclesOnline.Wizard.Answers
import VehiclesOnline.Wizard.Runs

/-! # Browsing by the clock

Requests of a browser whose cookies expire. What has expired is missing from the data of the
session; the session itself stays, since its cookies are kept until the browser is closed. -/

namespace VehiclesOnline

open EncryptedClientSideSessionFactory
open Transition (Along Machine tracing final outputs)

variable {joda : Joda}

/-- The time of a request. -/
abbrev Exchange.now (exchange : Exchange joda) : ℤ := exchange.environment.dateService.nowMillis

namespace Sessions

variable (sessions : Sessions) (config : Config)

/-- A request of a browser that sends the cookies that have not expired. -/
def browse : Machine Browser (Exchange joda) Reply := fun browser exchange =>
  (browser.receive exchange.now
      (sessions.answer config exchange (browser.cookies exchange.now)).setCookies,
    (sessions.serve config (browser.cookies exchange.now) exchange).2)

/-- The condition holds at every request of a run by the clock. -/
def ThroughoutBrowsing (P : RunCondition joda) (browser : Browser)
    (exchanges : List (Exchange joda)) : Prop :=
  Along (tracing (sessions.browse config))
    (fun state exchange =>
      P state.2 (sessions.applicationData (state.1.cookies exchange.now)) exchange
        (sessions.browse config state.1 exchange).2) (browser, []) exchanges

end Sessions

/-- The second data holds nothing that the first does not. -/
def ApplicationData.Forgets (data data' : ApplicationData) : Prop :=
  ∀ key, data' key = data key ∨ data' key = none

section Expiry

variable {sessions : Sessions} {jar jar' : Jar} {data : ApplicationData}

/-- Cookies that are gone code what is missing from the data. -/
theorem Coded.exists_forgets {coding : SessionCoding} (h : Coded coding jar data)
    (hjar : ∀ name, jar'.get name = jar.get name ∨ jar'.get name = none) :
    ∃ data', Coded coding jar' data' ∧ data.Forgets data' := by
  refine ⟨fun key => if jar'.get (coding.name key.value) = none then none else data key, ?_, ?_⟩
  · intro key hkey
    beta_reduce
    split
    · next hnone =>
      rw [hnone]
      exact .none
    · next hsome =>
      rw [(hjar _).resolve_right hsome]
      exact h key hkey
  · intro key
    beta_reduce
    split
    · exact .inr rfl
    · exact .inl rfl

/-- A jar from which cookies are gone, but not those of the session. -/
theorem Holds.exists_forgets (h : Holds sessions jar data)
    (hjar : ∀ name, jar'.get name = jar.get name ∨ jar'.get name = none)
    (hsession : ∀ name ∈ sessions.sessionCookieNames, jar'.get name = jar.get name) :
    ∃ data', Holds sessions jar' data' ∧ data.Forgets data' := by
  cases h with
  | clearText h =>
      obtain ⟨data', hcoded, hforgets⟩ := h.exists_forgets hjar
      exact ⟨data', .clearText hcoded, hforgets⟩
  | fresh h =>
      refine ⟨_, .fresh fun name hname => ?_, fun _ => .inl rfl⟩
      rcases hjar name with hget | hget
      · rw [hget, h name hname]
      · exact hget
  | @session factory _ _ trackingId sessionSecretKey hapart hvalidate h =>
      obtain ⟨data', hcoded, hforgets⟩ := h.exists_forgets hjar
      have hvalidate' : factory.validateSessionCookies jar' =
          .ok (some (trackingId, sessionSecretKey)) := by
        rw [← hvalidate]
        exact factory.validateSessionCookies_congr (hsession _ (.head _))
          (hsession _ (.tail _ (.head _)))
      exact ⟨data', .session hapart hvalidate' hcoded, hforgets⟩

/-- The cookies of the session do not expire. -/
def KeepsSession (sessions : Sessions) (browser : Browser) : Prop :=
  ∀ name ∈ sessions.sessionCookieNames, browser.jar.get name ≠ none →
    browser.expiresAt name = none

theorem KeepsSession.of_clean {browser : Browser} (h : Clean browser.jar) (sessions : Sessions) :
    KeepsSession sessions browser := by
  intro name hname hget
  refine absurd (h name ?_) hget
  cases sessions with
  | clearText cookieFlags => exact absurd hname List.not_mem_nil
  | encrypted factory =>
      simp only [Sessions.sessionCookieNames, List.mem_cons, List.not_mem_nil, or_false] at hname
      rcases hname with rfl | rfl
      · decide
      · exact factory.suffixCookieName_ne_of_length (by decide)

theorem KeepsSession.get_cookies {browser : Browser} (h : KeepsSession sessions browser) (now : ℤ) :
    ∀ name ∈ sessions.sessionCookieNames,
      (browser.cookies now).get name = browser.jar.get name := by
  intro name hname
  by_cases hnone : browser.jar.get name = none
  · rcases browser.get_cookies_eq_or now name with hget | hget
    · exact hget
    · rw [hget, hnone]
  · rw [browser.get_cookies, Browser.hasExpired_of_none (h name hname hnone)]
    rfl

theorem Holds.cookies {browser : Browser} (h : Holds sessions browser.jar data)
    (hkeeps : KeepsSession sessions browser) (now : ℤ) :
    ∃ data', Holds sessions (browser.cookies now) data' ∧ data.Forgets data' :=
  h.exists_forgets (browser.get_cookies_eq_or now) (hkeeps.get_cookies now)

end Expiry

/-! ### One request -/

theorem SetFor.expired_or_mem_editNames {sessions : Sessions} {session : ClientSideSession}
    {coding : SessionCoding} {edits : List Edit} {cookie : Cookie}
    (h : SetFor sessions session edits cookie) (hspec : session.Spec coding) :
    cookie.expired = true ∨ cookie.name ∈ coding.editNames := by
  cases h with
  | @model key model text h =>
      refine .inr (.inr (.inl ⟨key, ?_⟩))
      rw [CookieFlags.applyToCookie_name, hspec.nameCookie_eq]
  | discards h => exact .inl h
  | lang code => exact .inr (.inl rfl)

theorem SetFor.age {sessions : Sessions} {session : ClientSideSession} {edits : List Edit}
    {cookie : Cookie} (h : SetFor sessions session edits cookie) :
    cookie.expired = true ∨ cookie.maxAge = none ∨
      ∃ name text, cookie = sessions.cookieFlags.applyToCookie { name := name, value := text } := by
  cases h with
  | model text h => exact .inr (.inr ⟨_, text, rfl⟩)
  | discards h => exact .inl h
  | lang code => exact .inr (.inl rfl)

/-- A request by the clock: a step of the wizard on the data that is sent. -/
structure Browses (sessions : Sessions) (config : Config) (browser : Browser)
    (exchange : Exchange joda) (coding : SessionCoding) (data : ApplicationData)
    (calls : List ServiceCall) (response : Response) : Prop where
  sent : Holds sessions (browser.cookies exchange.now) data
  names : coding.Names sessions.kind
  coded : Coded coding (browser.cookies exchange.now) data
  found : ∀ key, data key ≠ none → ∃ trackingId,
    Found sessions.factory coding trackingId (browser.cookies exchange.now)
  handled : ∃ trackingId,
    calls = (handle config exchange.environment (.ofData trackingId data) exchange.request).calls ∧
    response = settle
      (handle config exchange.environment (.ofData trackingId data) exchange.request).result
  reply_eq : (sessions.browse config browser exchange).2 = response.reply calls
  holds : Holds sessions (sessions.browse config browser exchange).1.jar
    (response.data sessions.kind data)
  keepsSession : KeepsSession sessions (sessions.browse config browser exchange).1
  /-- Cookies under the names of keys are set by the edits. -/
  setFor : ∃ session : ClientSideSession, session.nameCookie = coding.name ∧
    ∀ cookie ∈ (sessions.answer config exchange (browser.cookies exchange.now)).setCookies,
      ∀ key : CacheKey, cookie.name = coding.name key.value →
        SetFor sessions session response.edits cookie
  ages : ∀ cookie ∈ (sessions.answer config exchange (browser.cookies exchange.now)).setCookies,
    cookie.expired = true ∨ cookie.maxAge = none ∨
      ∃ name text, cookie = sessions.cookieFlags.applyToCookie { name := name, value := text }
  stays : ∀ key, response.data sessions.kind data key ≠ none →
    (∃ trackingId, Found sessions.factory coding trackingId
      (sessions.browse config browser exchange).1.jar) ∧
    Coded coding (sessions.browse config browser exchange).1.jar
      (response.data sessions.kind data)

theorem Browses.step {sessions : Sessions} {config : Config} {browser : Browser}
    {exchange : Exchange joda} {coding : SessionCoding} {data : ApplicationData}
    {calls : List ServiceCall} {response : Response}
    (h : Browses sessions config browser exchange coding data calls response) :
    ∃ trackingId, WizardStep config trackingId data exchange calls response := by
  obtain ⟨trackingId, rfl, rfl⟩ := h.handled
  exact ⟨trackingId, wizardStep⟩

variable (config : Config) in
theorem Holds.browse {sessions : Sessions} {browser : Browser} {data : ApplicationData}
    {exchange : Exchange joda} (h : Holds sessions browser.jar data)
    (hkeeps : KeepsSession sessions browser) (hapart : sessions.Apart exchange.draw) :
    ∃ data' coding calls response, data.Forgets data' ∧
      Browses sessions config browser exchange coding data' calls response := by
  obtain ⟨data', hsent, hforgets⟩ := h.cookies hkeeps exchange.now
  obtain ⟨coding, trackingId, requestCookies, cookies, hadmission, hlasts⟩ :=
    hsent.exists_lasts hapart
  obtain ⟨session, hsession, hspec, -⟩ := hadmission.found
  have houtcome : sessions.outcome config exchange requestCookies =
      handle config exchange.environment (.ofData trackingId data') exchange.request := by
    rw [Sessions.outcome, ofJar_eq_ofData hadmission.found hadmission.coded_requestCookies]
  have hcalls : sessions.calls config exchange (browser.cookies exchange.now) =
      (handle config exchange.environment (.ofData trackingId data') exchange.request).calls := by
    rw [Sessions.calls, hadmission.passes.admitted_eq, ← houtcome]
  obtain ⟨hcontent, hholds⟩ := hadmission.answers config hsent
  have hset := hadmission.mem_answer config hsession
  have hstays := hadmission.coded_answer config hlasts
  rw [houtcome] at hcontent hholds hset hstays
  refine ⟨data', coding, _, _, hforgets, hsent, hadmission.names, hadmission.coded,
    hlasts.found_before, ⟨trackingId, rfl, rfl⟩, ?_, hholds, ?_, ?_, ?_, hstays⟩
  · rw [Sessions.browse, Sessions.serve, hcontent, hcalls]
    rfl
  · intro name hname hget
    rcases browser.receive_cases exchange.now
      (sessions.answer config exchange (browser.cookies exchange.now)).setCookies name with
      ⟨-, hjar, hexpires⟩ | ⟨cookie, hc, rfl, hjar, hexpires⟩
    · refine hexpires.trans (hkeeps name hname fun hnone => hget ?_)
      rw [Sessions.browse, hjar, browser.get_cookies, hnone, ite_self]
    · refine hexpires.trans ?_
      rcases hset cookie hc with hset | hfilter
      · rcases hset.expired_or_mem_editNames hspec with hexpired | hmem
        · refine absurd (hjar.trans ?_) hget
          rw [Cookie.assignment, hexpired, if_pos rfl]
        · exact absurd hname (hlasts.ne_session _ hmem)
      · rw [Cookie.expiresAt, hlasts.maxAge_eq cookie hfilter]
        rfl
  · refine ⟨session, hspec.nameCookie_eq, fun cookie hc key hname => ?_⟩
    exact (hset cookie hc).resolve_right fun hfilter => hlasts.ne_key cookie hfilter key hname
  · intro cookie hc
    rcases hset cookie hc with hset | hfilter
    · exact hset.age
    · exact .inr (.inl (hlasts.maxAge_eq cookie hfilter))

/-! ### When the cookie of a key expires -/

/-- The cookie of the key, in the session of the browser, expires at the time. -/
def KeyExpiresAt (sessions : Sessions) (browser : Browser) (key : CacheKey) (time : ℤ) : Prop :=
  ∀ coding trackingId, Found sessions.factory coding trackingId browser.jar →
    browser.expiresAt (coding.name key.value) = some time

section KeyExpiresAt

variable {sessions : Sessions} {config : Config} {browser : Browser} {exchange : Exchange joda}
variable {coding : SessionCoding} {data : ApplicationData} {calls : List ServiceCall}
variable {response : Response} {key : CacheKey} {time : ℤ}

theorem Coded.get_ne_none {jar : Jar} (h : Coded coding jar data) (hkey : data key ≠ none) :
    jar.get (coding.name key.value) ≠ none := by
  intro hget
  have hrel := h key (Set.mem_univ key)
  beta_reduce at hrel
  rw [hget] at hrel
  generalize data key = model at hrel hkey
  cases hrel
  exact hkey rfl

/-- The same text is read as the same model. -/
theorem Coded.eq_of_get_eq {jar jar' : Jar} {data' : ApplicationData} (h : Coded coding jar data)
    (h' : Coded coding jar' data')
    (hget : jar'.get (coding.name key.value) = jar.get (coding.name key.value)) :
    data' key = data key := by
  have hrel := h key (Set.mem_univ key)
  have hrel' := h' key (Set.mem_univ key)
  beta_reduce at hrel hrel'
  rw [hget] at hrel'
  generalize jar.get (coding.name key.value) = raw, data key = model, data' key = model'
    at hrel hrel'
  cases hrel with
  | none =>
      cases hrel'
      rfl
  | some hread =>
      cases hrel' with
      | some hread' =>
          have htext := Except.ok.inj (Eq.trans (Eq.symm hread') hread)
          have hmodel := congrArg key.format.fromJson htext
          rw [key.format.fromJson_toJson, key.format.fromJson_toJson] at hmodel
          rw [Except.ok.inj hmodel]

theorem getSession_clearText (cookieFlags : CookieFlags) (jar : Jar) :
    ∃ trackingId, (clearTextClientSideSessionFactory cookieFlags).getSession jar =
      .ok (clearTextClientSideSession cookieFlags trackingId) := by
  simp only [clearTextClientSideSessionFactory]
  split
  · exact ⟨_, rfl⟩
  · exact ⟨_, rfl⟩

/-- The session that is found among the cookies that are sent is that of the browser. -/
theorem Found.of_cookies {trackingId : String} {now : ℤ}
    (h : Found sessions.factory coding trackingId (browser.cookies now))
    (hkeeps : KeepsSession sessions browser) :
    ∃ trackingId, Found sessions.factory coding trackingId browser.jar := by
  obtain ⟨session, hsession, hspec, rfl⟩ := h
  cases sessions with
  | clearText cookieFlags =>
      -- the tracking id may have expired, and nothing but the tracking id depends on it
      obtain ⟨trackingId, htrackingId⟩ := getSession_clearText cookieFlags browser.jar
      obtain ⟨trackingId', htrackingId'⟩ := getSession_clearText cookieFlags (browser.cookies now)
      obtain rfl := Except.ok.inj (htrackingId'.symm.trans hsession)
      exact ⟨trackingId, _, htrackingId, ⟨hspec.nameCookie_eq, hspec.getCookieValue_eq,
        hspec.newCookie_name, hspec.newCookie_expired, hspec.read_newCookie⟩, rfl⟩
  | encrypted factory =>
      refine ⟨session.trackingId, session, ?_, hspec, rfl⟩
      rw [← hsession]
      simp only [Sessions.factory, toFactory, getSession,
        factory.validateSessionCookies_congr (hkeeps.get_cookies now _ (.head _))
          (hkeeps.get_cookies now _ (.tail _ (.head _)))]

theorem Browses.lt_of_keyExpiresAt
    (h : Browses sessions config browser exchange coding data calls response)
    (hkeeps : KeepsSession sessions browser) (hkey : data key ≠ none)
    (hexpires : KeyExpiresAt sessions browser key time) : exchange.now < time := by
  obtain ⟨trackingId, hfound⟩ := h.found key hkey
  obtain ⟨trackingId', hbrowser⟩ := hfound.of_cookies hkeeps
  have htime := hexpires coding trackingId' hbrowser
  have hget := h.coded.get_ne_none hkey
  rw [browser.get_cookies, Browser.hasExpired_of_some htime] at hget
  by_contra hnot
  exact hget (if_pos (decide_eq_true (not_lt.mp hnot)))

/-- A model that is held after a request is held as before, or was stored with the age of the
flags. -/
theorem Browses.keyExpiresAt
    (h : Browses sessions config browser exchange coding data calls response)
    (hkeeps : KeepsSession sessions browser) {seconds : ℤ}
    (hflags : ∀ cookie, (sessions.cookieFlags.applyToCookie cookie).maxAge = some seconds)
    (hkey : response.data sessions.kind data key ≠ none) :
    (response.data sessions.kind data key = data key ∧ ∀ time,
      KeyExpiresAt sessions browser key time →
        KeyExpiresAt sessions (sessions.browse config browser exchange).1 key time) ∨
    ((∃ model, .withCookie key model ∈ response.edits) ∧
      KeyExpiresAt sessions (sessions.browse config browser exchange).1 key
        (exchange.now + 1000 * seconds)) := by
  obtain ⟨⟨trackingId, hfound⟩, hcoded⟩ := h.stays key hkey
  rcases browser.receive_cases exchange.now
    (sessions.answer config exchange (browser.cookies exchange.now)).setCookies
    (coding.name key.value) with
    ⟨-, hjar, hexpires⟩ | ⟨cookie, hc, hname, hjar, hexpires⟩
  · have heq := h.coded.eq_of_get_eq hcoded hjar
    refine .inl ⟨heq, fun time htime coding' trackingId' hfound' => ?_⟩
    obtain ⟨before, hbefore⟩ := h.found key (heq ▸ hkey)
    obtain ⟨trackingId, hbrowser⟩ := hbefore.of_cookies hkeeps
    rw [hfound.name_eq hfound']
    exact hexpires.trans (htime coding trackingId hbrowser)
  · have hlive : cookie.expired = false := by
      rw [← Bool.not_eq_true]
      intro hexpired
      refine hcoded.get_ne_none hkey (hjar.trans ?_)
      rw [Cookie.assignment, hexpired, if_pos rfl]
    obtain ⟨session, hsession, hset⟩ := h.setFor
    cases hset cookie hc key hname with
    | @model key' model text hmem =>
        rw [CookieFlags.applyToCookie_name, hsession] at hname
        obtain rfl := h.names.injective hname
        refine .inr ⟨⟨model, hmem⟩, fun coding' trackingId' hfound' => ?_⟩
        rw [hfound.name_eq hfound']
        refine hexpires.trans ?_
        rw [Cookie.expiresAt, hflags]
        rfl
    | discards hexpired => exact absurd hexpired (by rw [hlive]; exact Bool.false_ne_true)
    | lang code => exact absurd hname.symm (h.names.ne_lang key)

end KeyExpiresAt

/-! ### Runs -/

section Runs

variable (sessions : Sessions) (config : Config)

/-- Every request by the clock that meets the condition preserves the invariant. What the request
finds is what has not expired of the data before. -/
def BrowsingPreserves (P : RunCondition joda)
    (Inv : Browser → History joda → ApplicationData → Prop) : Prop :=
  ∀ browser history data data' exchange coding calls response, Inv browser history data →
    KeepsSession sessions browser → data.Forgets data' →
    Browses sessions config browser exchange coding data' calls response →
    P history data' exchange (response.reply calls) →
    Inv (sessions.browse config browser exchange).1
      (history ++ [(exchange, response.reply calls)]) (response.data sessions.kind data')

/-- With the invariant, every request by the clock that meets the one condition meets the
other. -/
def BrowsingEnsures (P : RunCondition joda)
    (Inv : Browser → History joda → ApplicationData → Prop) (Q : RunCondition joda) : Prop :=
  ∀ browser history data data' exchange coding calls response, Inv browser history data →
    KeepsSession sessions browser → data.Forgets data' →
    Browses sessions config browser exchange coding data' calls response →
    P history data' exchange (response.reply calls) →
    Q history data' exchange (response.reply calls)

/-- The browser holds data of which the invariant is true. -/
def BrowserInvariant (Inv : Browser → History joda → ApplicationData → Prop)
    (state : Browser × History joda) : Prop :=
  ∃ data, Holds sessions state.1.jar data ∧ KeepsSession sessions state.1 ∧
    Inv state.1 state.2 data

variable {sessions config} {P Q : RunCondition joda}
variable {Inv : Browser → History joda → ApplicationData → Prop} {browser : Browser}
variable {exchanges : List (Exchange joda)}

theorem Sessions.ThroughoutBrowsing.and
    (hp : sessions.ThroughoutBrowsing config P browser exchanges)
    (hq : sessions.ThroughoutBrowsing config Q browser exchanges) :
    sessions.ThroughoutBrowsing config
      (fun history data exchange reply =>
        P history data exchange reply ∧ Q history data exchange reply) browser exchanges :=
  Along.and hp hq

/-- In a run by the clock whose requests all meet the one condition, they all meet what it
ensures. -/
theorem Sessions.ThroughoutBrowsing.of_invariant
    (hpreserves : BrowsingPreserves sessions config P Inv)
    (hensures : BrowsingEnsures sessions config P Inv Q)
    (hinit : Inv browser [] fun _ => none) (hclean : Clean browser.jar)
    (hapart : ∀ exchange ∈ exchanges, sessions.Apart exchange.draw)
    (h : sessions.ThroughoutBrowsing config P browser exchanges) :
    sessions.ThroughoutBrowsing config Q browser exchanges := by
  have hstart : BrowserInvariant sessions Inv (browser, []) :=
    ⟨_, .of_clean hclean sessions, .of_clean hclean sessions, hinit⟩
  refine Along.of_invariant ?_ ?_ hstart
    (Along.and h (Transition.along_of_forall _ fun _ => hapart))
  · rintro ⟨browser, history⟩ exchange ⟨data, hholds, hkeeps, hinv⟩ ⟨hp, hapart⟩
    obtain ⟨data', coding, calls, response, hforgets, hbrowses⟩ :=
      hholds.browse config hkeeps hapart
    rw [hbrowses.reply_eq, hbrowses.sent.applicationData_eq] at hp
    refine ⟨_, hbrowses.holds, hbrowses.keepsSession, ?_⟩
    simp only [tracing, hbrowses.reply_eq]
    exact hpreserves _ _ _ _ _ _ _ _ hinv hkeeps hforgets hbrowses hp
  · rintro ⟨browser, history⟩ exchange ⟨data, hholds, hkeeps, hinv⟩ ⟨hp, hapart⟩
    obtain ⟨data', coding, calls, response, hforgets, hbrowses⟩ :=
      hholds.browse config hkeeps hapart
    rw [hbrowses.reply_eq, hbrowses.sent.applicationData_eq] at hp ⊢
    exact hensures _ _ _ _ _ _ _ _ hinv hkeeps hforgets hbrowses hp

end Runs

/-! ### Runs in which nothing expires -/

section Lasting

variable {sessions : Sessions} {config : Config} {browser : Browser} {data : ApplicationData}
variable {exchange : Exchange joda} {exchanges : List (Exchange joda)} {time : ℤ}

/-- The cookies that the sessions set at the time of the request live until the other time. -/
def Sessions.SetUntil (sessions : Sessions) (time : ℤ) (exchange : Exchange joda) : Prop :=
  exchange.now < time ∧ ∀ name text,
    (sessions.cookieFlags.applyToCookie { name := name, value := text }).expired = false →
    ∀ expires, (sessions.cookieFlags.applyToCookie
      { name := name, value := text }).expiresAt exchange.now = some expires → time ≤ expires

theorem Sessions.setUntil_succ (sessions : Sessions) (exchange : Exchange joda) :
    sessions.SetUntil (exchange.now + 1) exchange :=
  ⟨Int.lt_add_one_iff.mpr le_rfl, fun _ _ hlive _ hexpires =>
    Cookie.lt_of_expiresAt hlive hexpires⟩

/-- While nothing expires, a request by the clock is one without it. -/
structure Lasting (sessions : Sessions) (time : ℤ) (browser : Browser) (data : ApplicationData) :
    Prop where
  holds : Holds sessions browser.jar data
  keepsSession : KeepsSession sessions browser
  keepsUntil : browser.KeepsUntil time

theorem Browses.keepsUntil {coding : SessionCoding} {calls : List ServiceCall}
    {response : Response} (h : Browses sessions config browser exchange coding data calls response)
    (hkeeps : browser.KeepsUntil time) (huntil : sessions.SetUntil time exchange) :
    (sessions.browse config browser exchange).1.KeepsUntil time := by
  refine hkeeps.receive fun cookie hc hlive expires hexpires => ?_
  rcases h.ages cookie hc with hexpired | hnone | ⟨name, text, rfl⟩
  · exact absurd hexpired (by rw [hlive]; exact Bool.false_ne_true)
  · rw [Cookie.expiresAt, hnone] at hexpires
    cases hexpires
  · exact huntil.2 name text hlive expires hexpires

variable (config) in
theorem Lasting.browse (h : Lasting sessions time browser data)
    (huntil : sessions.SetUntil time exchange) (hapart : sessions.Apart exchange.draw) :
    ∃ trackingId,
      Lasting sessions time (sessions.browse config browser exchange).1
        (wizard sessions.kind config trackingId data exchange).1 ∧
      (sessions.browse config browser exchange).2 =
        (wizard sessions.kind config trackingId data exchange).2 ∧
      Holds sessions (browser.cookies exchange.now) data := by
  have hsent : Holds sessions (browser.cookies exchange.now) data :=
    h.holds.congr (h.keepsUntil.get_cookies huntil.1)
  obtain ⟨data', coding, calls, response, -, hbrowses⟩ :=
    h.holds.browse config h.keepsSession hapart
  obtain rfl : data' = data := by
    rw [← hbrowses.sent.applicationData_eq, hsent.applicationData_eq]
  have hkeeps := hbrowses.keepsUntil h.keepsUntil huntil
  have hholds := hbrowses.holds
  have hreply := hbrowses.reply_eq
  obtain ⟨trackingId, rfl, rfl⟩ := hbrowses.handled
  exact ⟨trackingId, ⟨hholds, hbrowses.keepsSession, hkeeps⟩, hreply, hsent⟩

variable (config) in
/-- While nothing expires, a run by the clock is one of the machine without cookies. -/
theorem Lasting.run (h : Lasting sessions time browser data)
    (huntil : ∀ exchange ∈ exchanges, sessions.SetUntil time exchange)
    (hapart : ∀ exchange ∈ exchanges, sessions.Apart exchange.draw) :
    ∃ trackingIds : List String, trackingIds.length = exchanges.length ∧
      Lasting sessions time (final (sessions.browse config) browser exchanges)
        (final (wizardRun sessions.kind config) data (exchanges.zip trackingIds)) ∧
      outputs (sessions.browse config) browser exchanges =
        outputs (wizardRun sessions.kind config) data (exchanges.zip trackingIds) := by
  induction exchanges generalizing browser data with
  | nil => exact ⟨[], rfl, h, rfl⟩
  | cons exchange exchanges ih =>
      obtain ⟨trackingId, hnext, hreply, -⟩ := h.browse config (huntil exchange List.mem_cons_self)
        (hapart exchange List.mem_cons_self)
      obtain ⟨trackingIds, hlength, hfinal, houtputs⟩ :=
        ih hnext (fun next hn => huntil next (List.mem_cons_of_mem exchange hn))
          fun next hn => hapart next (List.mem_cons_of_mem exchange hn)
      refine ⟨trackingId :: trackingIds, congrArg Nat.succ hlength, hfinal, ?_⟩
      rw [outputs, hreply, houtputs]
      rfl

end Lasting

/-- A condition holds along a run by the clock if it does before and at the last request. -/
theorem Sessions.throughoutBrowsing_concat {sessions : Sessions} {config : Config}
    {Q : RunCondition joda} {browser : Browser} {exchanges : List (Exchange joda)}
    {exchange : Exchange joda} :
    sessions.ThroughoutBrowsing config Q browser (exchanges ++ [exchange]) ↔
      sessions.ThroughoutBrowsing config Q browser exchanges ∧
        Q (exchanges.zip (outputs (sessions.browse config) browser exchanges))
          (sessions.applicationData
            ((final (sessions.browse config) browser exchanges).cookies exchange.now)) exchange
          (sessions.browse config (final (sessions.browse config) browser exchanges)
            exchange).2 := by
  rw [Sessions.ThroughoutBrowsing, Transition.along_append, Transition.final_tracing,
    List.nil_append]
  exact and_congr_right fun _ => and_iff_left trivial

variable (config : Config) in
/-- What a run while nothing expires does last, as the machine without cookies does it. -/
theorem Lasting.throughoutBrowsing_concat {sessions : Sessions} {browser : Browser}
    {data : ApplicationData} {time : ℤ} (h : Lasting sessions time browser data)
    (Q : RunCondition joda) (exchanges : List (Exchange joda)) (exchange : Exchange joda)
    (huntil : ∀ exchange' ∈ exchanges ++ [exchange], sessions.SetUntil time exchange')
    (hapart : ∀ exchange' ∈ exchanges ++ [exchange], sessions.Apart exchange'.draw) :
    ∃ (trackingIds : List String) (trackingId : String), trackingIds.length = exchanges.length ∧
      (sessions.ThroughoutBrowsing config Q browser (exchanges ++ [exchange]) ↔
        sessions.ThroughoutBrowsing config Q browser exchanges ∧
          Q (exchanges.zip
              (outputs (wizardRun sessions.kind config) data (exchanges.zip trackingIds)))
            (final (wizardRun sessions.kind config) data (exchanges.zip trackingIds)) exchange
            (wizard sessions.kind config trackingId
              (final (wizardRun sessions.kind config) data (exchanges.zip trackingIds))
              exchange).2) := by
  obtain ⟨trackingIds, hlength, hlast, houtputs⟩ := h.run config
    (fun next hn => huntil next (List.mem_append_left _ hn))
    fun next hn => hapart next (List.mem_append_left _ hn)
  obtain ⟨trackingId, -, hreply, hsent⟩ := hlast.browse config
    (huntil exchange (List.mem_append_right _ (List.mem_singleton_self exchange)))
    (hapart exchange (List.mem_append_right _ (List.mem_singleton_self exchange)))
  refine ⟨trackingIds, trackingId, hlength, ?_⟩
  rw [Sessions.throughoutBrowsing_concat, houtputs, hreply, hsent.applicationData_eq]

end VehiclesOnline
