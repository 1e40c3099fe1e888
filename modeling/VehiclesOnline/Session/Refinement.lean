import VehiclesOnline.Session.Specification

/-! # The jar refines a key-value store

Handlers build responses by calls of the adapters. Through a session, whatever its kind,
such a response is a run of assignments to the values of keys. -/

namespace VehiclesOnline

open KeyValue (Assignment Codes lastAssigned)

/-- A call of an adapter on the response that a handler builds. -/
inductive CookieCall : Type 1
  | withCookie (random : SecureRandomBytes) (key value : String)
  | withModel {Model : Type} (random : SecureRandomBytes) (format : JsonFormat Model)
      (cacheKey : String) (model : Model)
  | discardingCookie (key : String)
  | discardingCookies (keys : List String)

namespace CookieCall

variable {α : Type}

def apply (requestCookies : Jar) (factory : ClientSideSessionFactory) (inner : SimpleResult α) :
    CookieCall → Except Throwable (SimpleResult α)
  | withCookie random key value =>
      RichSimpleResult.withCookie inner requestCookies factory random key value
  | withModel random format cacheKey model =>
      RichSimpleResult.withModel inner requestCookies factory random format cacheKey model
  | discardingCookie key => RichSimpleResult.discardingCookie inner requestCookies factory key
  | discardingCookies keys => RichSimpleResult.discardingCookies inner requestCookies factory keys

/-- What a call means to the store: writes and discards of keys. -/
def assignments : CookieCall → List (Assignment String fun _ => String)
  | withCookie _ key value => [⟨key, some value⟩]
  | withModel _ format cacheKey model => [⟨cacheKey, some (format.toJson model)⟩]
  | discardingCookie key => [⟨key, none⟩]
  | discardingCookies keys => keys.map fun key => ⟨key, none⟩

/-- The cookies that a call adds to the response. -/
def cookies (session : ClientSideSession) : CookieCall → List Cookie
  | withCookie random key value => [session.newCookie random (session.nameCookie key) value]
  | withModel random format cacheKey model =>
      [session.newCookie random (session.nameCookie cacheKey) (format.toJson model)]
  | discardingCookie key => [DiscardingCookie.toCookie { name := session.nameCookie key }]
  | discardingCookies keys =>
      keys.map fun key => DiscardingCookie.toCookie { name := session.nameCookie key }

theorem apply_eq {requestCookies : Jar} {factory : ClientSideSessionFactory}
    {session : ClientSideSession} (h : factory.getSession requestCookies = .ok session)
    (inner : SimpleResult α) (call : CookieCall) :
    call.apply requestCookies factory inner = .ok (inner.withCookies (call.cookies session)) := by
  cases call with
  | withCookie random key value =>
      simp only [apply, RichSimpleResult.withCookie, h]
      rfl
  | withModel random format cacheKey model =>
      simp only [apply, RichSimpleResult.withModel, RichSimpleResult.withCookie, h]
      rfl
  | discardingCookie key =>
      simp only [apply, RichSimpleResult.discardingCookie, RichSimpleResult.discardingCookies, h]
      rfl
  | discardingCookies keys =>
      simp only [apply, RichSimpleResult.discardingCookies, h, cookies]
      have hcookies : keys.map (fun key => DiscardingCookie.toCookie
          { name := session.nameCookie key }) =
          ((keys.map session.nameCookie).map fun name => ({ name := name } : DiscardingCookie)).map
            DiscardingCookie.toCookie := by
        simp
      rw [hcookies]
      rfl

theorem codes_discard {session : ClientSideSession} {coding : SessionCoding}
    (h : session.Spec coding) (key : String) :
    Codes coding.name coding.Reads
      (DiscardingCookie.toCookie { name := session.nameCookie key }).assignment
      (⟨key, none⟩ : Assignment String fun _ => String) := by
  rw [h.nameCookie_eq]
  exact ⟨rfl, .none⟩

theorem codes_write {session : ClientSideSession} {coding : SessionCoding}
    (h : session.Spec coding) (random : SecureRandomBytes) (key value : String) :
    Codes coding.name coding.Reads
      (session.newCookie random (session.nameCookie key) value).assignment
      (⟨key, some value⟩ : Assignment String fun _ => String) := by
  rw [h.nameCookie_eq]
  refine ⟨h.newCookie_name random (coding.name key) value, ?_⟩
  simp only [Cookie.assignment, h.newCookie_expired]
  exact .some (h.read_newCookie random (coding.name key) value)

/-- Each cookie of a call codes one assignment of it. -/
theorem codes_cookies {session : ClientSideSession} {coding : SessionCoding}
    (h : session.Spec coding) (call : CookieCall) :
    List.Forall₂ (Codes coding.name coding.Reads) ((call.cookies session).map Cookie.assignment)
      call.assignments := by
  cases call with
  | withCookie random key value => exact .cons (codes_write h random key value) .nil
  | withModel random format cacheKey model =>
      exact .cons (codes_write h random cacheKey (format.toJson model)) .nil
  | discardingCookie key => exact .cons (codes_discard h key) .nil
  | discardingCookies keys =>
      simp only [cookies, assignments]
      induction keys with
      | nil => exact .nil
      | cons key keys ih => exact .cons (codes_discard h key) ih

end CookieCall

/-- The response that a handler builds by calls of the adapters. -/
def respond (factory : ClientSideSessionFactory) (requestCookies : Jar)
    (calls : List CookieCall) : Except Throwable (SimpleResult Unit) :=
  calls.foldlM (fun inner call => call.apply requestCookies factory inner) { content := () }

/-- A request of the browser, the response, and the jar after it. -/
def exchange (factory : ClientSideSessionFactory) (jar : Jar) (calls : List CookieCall) :
    Except Throwable Jar := do
  let result ← respond factory jar calls
  return jar.receive result.setCookies

def exchanges (factory : ClientSideSessionFactory) (jar : Jar)
    (responses : List (List CookieCall)) : Except Throwable Jar :=
  responses.foldlM (exchange factory) jar

theorem respond_eq {factory : ClientSideSessionFactory} {requestCookies : Jar}
    {session : ClientSideSession} (h : factory.getSession requestCookies = .ok session)
    (calls : List CookieCall) :
    respond factory requestCookies calls = .ok (calls.foldl
      (fun inner call => inner.withCookies (call.cookies session)) { content := () }) := by
  rw [respond]
  generalize ({ content := () } : SimpleResult Unit) = inner
  induction calls generalizing inner with
  | nil => rfl
  | cons call calls ih =>
      rw [List.foldlM_cons, CookieCall.apply_eq h, List.foldl_cons]
      exact ih (inner.withCookies (call.cookies session))

/-- To the jar a response is the run of the cookies of all its calls. -/
theorem get_receive_respond (jar : Jar) (session : ClientSideSession) (calls : List CookieCall)
    (inner : SimpleResult Unit) :
    (jar.receive (calls.foldl (fun inner call => inner.withCookies (call.cookies session))
        inner).setCookies).get =
      ((jar.receive inner.setCookies).receive
        (calls.flatMap (CookieCall.cookies session))).get := by
  induction calls generalizing inner with
  | nil => rfl
  | cons call calls ih =>
      rw [List.foldl_cons, ih, List.flatMap_cons, Jar.get_receive, Jar.get_receive_withCookies,
        ← Jar.get_receive, Jar.receive, Jar.receive, Jar.receive, ← List.foldl_append]
      rfl

theorem mem_respond {session : ClientSideSession} {calls : List CookieCall}
    {inner : SimpleResult Unit} {cookie : Cookie}
    (h : cookie ∈ (calls.foldl (fun inner call => inner.withCookies (call.cookies session))
      inner).setCookies) :
    cookie ∈ inner.setCookies ∨ cookie ∈ calls.flatMap (CookieCall.cookies session) := by
  induction calls generalizing inner with
  | nil => exact .inl h
  | cons call calls ih =>
      rw [List.flatMap_cons, List.mem_append]
      rcases ih h with hc | hc
      · rcases SimpleResult.mem_withCookies hc with hc | hc
        · exact .inl hc
        · exact .inr (.inl hc)
      · exact .inr (.inr hc)

/-- Every write and discard of the calls is about one of the given keys. -/
def About (keys : Set String) (calls : List CookieCall) : Prop :=
  ∀ assignment ∈ calls.flatMap CookieCall.assignments, assignment.1 ∈ keys

theorem codes_flatMap_cookies {session : ClientSideSession} {coding : SessionCoding}
    (h : session.Spec coding) (calls : List CookieCall) :
    List.Forall₂ (Codes coding.name coding.Reads)
      ((calls.flatMap (CookieCall.cookies session)).map Cookie.assignment)
      (calls.flatMap CookieCall.assignments) := by
  induction calls with
  | nil => exact .nil
  | cons call calls ih =>
      rw [List.flatMap_cons, List.flatMap_cons, List.map_append]
      exact List.rel_append (CookieCall.codes_cookies h call) ih

section Exchanges

variable {factory : ClientSideSessionFactory} {coding : SessionCoding} {stable : Jar → Prop}
variable {keys : Set String}

/-- One exchange keeps the session and codes the assignments of its calls. -/
theorem exchange_spec (hf : factory.Spec coding stable keys) {jar : Jar} (hjar : stable jar)
    {calls : List CookieCall} (hcalls : About keys calls) :
    ∃ jar' raw, exchange factory jar calls = .ok jar' ∧ stable jar' ∧
      jar'.get = KeyValue.assignAll jar.get raw ∧
      List.Forall₂ (Codes coding.name coding.Reads) raw
        (calls.flatMap CookieCall.assignments) := by
  obtain ⟨session, hsession, hspec⟩ := hf.getSession_eq jar hjar
  have hcodes := codes_flatMap_cookies hspec calls
  refine ⟨_, (calls.flatMap (CookieCall.cookies session)).map Cookie.assignment,
    by rw [exchange, respond_eq hsession]; rfl, ?_, ?_, hcodes⟩
  · apply hf.stable_receive jar _ hjar
    intro cookie hc
    rcases mem_respond hc with hc | hc
    · exact absurd hc List.not_mem_nil
    · exact KeyValue.name_mem_of_codes hcodes hcalls (List.mem_map_of_mem hc)
  · rw [get_receive_respond, Jar.get_receive, Jar.receive, List.foldl_nil]

/-- A run of exchanges is a run of coded assignments. -/
theorem exchanges_spec (hf : factory.Spec coding stable keys) {jar : Jar} (hjar : stable jar)
    {responses : List (List CookieCall)} (hcalls : ∀ calls ∈ responses, About keys calls) :
    ∃ jar' raw, exchanges factory jar responses = .ok jar' ∧ stable jar' ∧
      jar'.get = KeyValue.assignAll jar.get raw ∧
      List.Forall₂ (Codes coding.name coding.Reads) raw
        (responses.flatten.flatMap CookieCall.assignments) := by
  induction responses generalizing jar with
  | nil => exact ⟨jar, [], rfl, hjar, rfl, .nil⟩
  | cons calls responses ih =>
      obtain ⟨jar₁, raw₁, hrun₁, hjar₁, hget₁, hcodes₁⟩ :=
        exchange_spec hf hjar (hcalls calls List.mem_cons_self)
      obtain ⟨jar₂, raw₂, hrun₂, hjar₂, hget₂, hcodes₂⟩ :=
        ih hjar₁ fun calls' h => hcalls calls' (List.mem_cons_of_mem calls h)
      refine ⟨jar₂, raw₁ ++ raw₂, ?_, hjar₂, ?_, ?_⟩
      · rw [exchanges, List.foldlM_cons, hrun₁]
        exact hrun₂
      · rw [hget₂, hget₁, KeyValue.assignAll_append]
      · rw [List.flatten_cons, List.flatMap_append]
        exact List.rel_append hcodes₁ hcodes₂

theorem getString_of_getSession {jar : Jar} {session : ClientSideSession}
    (h : factory.getSession jar = .ok session) (key : String) :
    RichCookies.getString jar factory key =
      match jar.get (session.nameCookie key) with
      | some value =>
          (session.getCookieValue (.ofRequest (session.nameCookie key) value)).map some
      | none => .ok none := by
  simp only [RichCookies.getString, h, bind, Except.bind]
  cases jar.get (session.nameCookie key) with
  | none => rfl
  | some value =>
      simp only
      cases session.getCookieValue (.ofRequest (session.nameCookie key) value) <;> rfl

theorem getString_eq_fetch (hf : factory.Spec coding stable keys) {jar : Jar}
    (hjar : stable jar) (key : String) :
    RichCookies.getString jar factory key = coding.fetch jar.get key := by
  obtain ⟨session, hsession, hspec⟩ := hf.getSession_eq jar hjar
  rw [getString_of_getSession hsession, SessionCoding.fetch, hspec.nameCookie_eq]
  cases jar.get (coding.name key) with
  | none => rfl
  | some value => simp only [hspec.getCookieValue_eq]

/-- The model of a key is read from its string. -/
theorem getModel_eq_getString (jar : Jar) (factory : ClientSideSessionFactory) {Model : Type}
    (format : JsonFormat Model) (key : String) :
    RichCookies.getModel jar factory format key = (do
      match ← RichCookies.getString jar factory key with
      | some json => return some (← format.fromJson json)
      | none => return none) := by
  simp only [RichCookies.getModel, RichCookies.getString, bind, Except.bind]
  cases factory.getSession jar with
  | error e => rfl
  | ok session =>
      simp only
      cases jar.get (session.nameCookie key) with
      | none => rfl
      | some value =>
          simp only
          cases session.getCookieValue (.ofRequest (session.nameCookie key) value) <;> rfl

/-- What a key holds after a run of exchanges, by the last assignment to it. -/
theorem fetch_of_lastAssigned (hname : Set.InjOn coding.name keys)
    {raw as : List (Assignment String fun _ => String)}
    (hcodes : List.Forall₂ (Codes coding.name coding.Reads) raw as)
    (has : ∀ assignment ∈ as, assignment.1 ∈ keys) {key : String} (hk : key ∈ keys)
    (m : KeyValue.Store String fun _ => String) :
    coding.fetch (KeyValue.assignAll m raw) key =
      (lastAssigned key as).elim (coding.fetch m key) .ok := by
  have hlast := KeyValue.lastAssigned_codes hname hcodes has hk
  rw [SessionCoding.fetch, KeyValue.assignAll_apply]
  generalize lastAssigned (coding.name key) raw = x, lastAssigned key as = y at hlast
  cases hlast with
  | none => rfl
  | some hr =>
      cases hr with
      | none => rfl
      | some hr =>
          simp only [Option.getD_some, Option.elim_some]
          rw [show coding.read (coding.name key) _ = .ok _ from hr]
          rfl

end Exchanges

/-- Over every run of responses about the given keys, each request reads under each of them
what was written last, nothing if it was discarded last, and what it read before if no
call was about it. A model is read back from its JSON. -/
def RefinesStore (factory : ClientSideSessionFactory) (start : Jar → Prop)
    (keys : Set String) : Prop :=
  ∀ jar responses, start jar → (∀ calls ∈ responses, About keys calls) →
    ∃ jar', exchanges factory jar responses = .ok jar' ∧ ∀ key ∈ keys,
      let last := lastAssigned key (responses.flatten.flatMap CookieCall.assignments)
      RichCookies.getString jar' factory key =
          last.elim (RichCookies.getString jar factory key) .ok ∧
        ∀ (Model : Type) (format : JsonFormat Model),
          (∀ model, last = some (some (format.toJson model)) →
            RichCookies.getModel jar' factory format key = .ok (some model)) ∧
          (last = some none → RichCookies.getModel jar' factory format key = .ok none) ∧
          (last = none → RichCookies.getModel jar' factory format key =
            RichCookies.getModel jar factory format key)

theorem ClientSideSessionFactory.Spec.refinesStore {factory : ClientSideSessionFactory}
    {coding : SessionCoding} {stable : Jar → Prop} {keys : Set String}
    (hf : factory.Spec coding stable keys) : RefinesStore factory stable keys := by
  intro jar responses hjar hcalls
  obtain ⟨jar', raw, hrun, hjar', hget, hcodes⟩ := exchanges_spec hf hjar hcalls
  have has : ∀ assignment ∈ responses.flatten.flatMap CookieCall.assignments,
      assignment.1 ∈ keys := by
    intro assignment ha
    obtain ⟨call, hcall, ha⟩ := List.mem_flatMap.mp ha
    obtain ⟨calls, hmem, hcall⟩ := List.mem_flatten.mp hcall
    exact hcalls calls hmem assignment (List.mem_flatMap.mpr ⟨call, hcall, ha⟩)
  refine ⟨jar', hrun, ?_⟩
  intro key hk
  have hstring : RichCookies.getString jar' factory key =
      (lastAssigned key (responses.flatten.flatMap CookieCall.assignments)).elim
        (RichCookies.getString jar factory key) .ok := by
    rw [getString_eq_fetch hf hjar', getString_eq_fetch hf hjar, hget,
      fetch_of_lastAssigned hf.injOn_name hcodes has hk]
  refine ⟨hstring, ?_⟩
  intro Model format
  refine ⟨?_, ?_, ?_⟩
  · intro model hlast
    rw [hlast] at hstring
    simp only [getModel_eq_getString, hstring, Option.elim_some, bind, Except.bind,
      format.fromJson_toJson]
    rfl
  · intro hlast
    rw [hlast] at hstring
    simp only [getModel_eq_getString, hstring, Option.elim_some, bind, Except.bind]
    rfl
  · intro hlast
    rw [hlast] at hstring
    rw [getModel_eq_getString, getModel_eq_getString, hstring]
    rfl

/-- The jar refines the store for clear text sessions and for encrypted ones. For those the
digests of the names in use do not collide. The session of an encrypted factory is stable
as long as no key in use names the cookie of the session itself. -/
theorem sessions_refineStore :
    (∀ cookieFlags, RefinesStore (clearTextClientSideSessionFactory cookieFlags)
      (fun _ => True) Set.univ) ∧
    (∀ crypto trackingId sessionSecretKey keys,
      Set.InjOn crypto.cookieNameHashGenerator.hash ((sessionSecretKey ++ ·) '' keys) →
      RefinesStore (constantSessionFactory
        (encryptedClientSideSession crypto trackingId sessionSecretKey)) (fun _ => True) keys) ∧
    (∀ (factory : EncryptedClientSideSessionFactory) (trackingId sessionSecretKey : String) keys,
      Set.InjOn factory.cookieNameHashing.hash (factory.hashedTexts sessionSecretKey keys) →
      (∀ key ∈ keys, factory.sessionSecretKeySuffixKey ≠ sessionSecretKey ++ key) →
      RefinesStore factory.toFactory (fun jar =>
        factory.validateSessionCookies jar = .ok (some (trackingId, sessionSecretKey))) keys) := by
  refine ⟨?_, ?_, ?_⟩
  · intro cookieFlags
    exact (clearTextClientSideSessionFactory_spec cookieFlags).refinesStore
  · intro crypto trackingId sessionSecretKey keys hhash
    exact (constantSessionFactory_spec crypto trackingId sessionSecretKey hhash).refinesStore
  · intro factory trackingId sessionSecretKey keys hhash hsuffix
    exact (factory.toFactory_spec trackingId hhash hsuffix).refinesStore

theorem sessions_refineStore_production :
    RefinesStore (constantSessionFactory (encryptedClientSideSession
      (productionFactory (Equiv.refl _)).crypto "" (encodeHexString fun _ => 0)))
      (fun _ => True) {"preventGoingToDisposePage", "disposeOccurred"} := by
  apply sessions_refineStore.2.1
  intro text htext text' htext' h
  rcases htext with ⟨_, rfl | rfl, rfl⟩ <;> rcases htext' with ⟨_, rfl | rfl, rfl⟩ <;>
    first
    | rfl
    | exact absurd h (by decide +kernel)

end VehiclesOnline
