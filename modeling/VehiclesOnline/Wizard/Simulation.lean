import VehiclesOnline.Session.Healing
import VehiclesOnline.Session.Refinement
import VehiclesOnline.Wizard.Application

/-! # The application simulates the wizard

Whatever the kind of its sessions, the application answers a browser that sends back its
cookies as the machine without cookies does, and its jar codes the data of that machine. -/

namespace VehiclesOnline

open KeyValue (Assignment Codes Represents assignAll)
open EncryptedClientSideSessionFactory

variable {joda : Joda}

/-- A raw text under the name of a key that reads as the text of the model. -/
def SessionCoding.ReadsModel (coding : SessionCoding) (key : CacheKey) (raw : String)
    (model : key.Model) : Prop :=
  coding.Reads key.value raw (key.format.toJson model)

/-- The cookies of the jar code the data. -/
def Coded (coding : SessionCoding) (jar : Jar) (data : ApplicationData) : Prop :=
  Represents (fun key : CacheKey => coding.name key.value) coding.ReadsModel Set.univ jar.get data

/-- How the names of a coding relate to the other names of cookies. -/
structure SessionCoding.Names (coding : SessionCoding) (kind : SessionKind) : Prop where
  injective : Function.Injective fun key : CacheKey => coding.name key.value
  eq_value_iff : ∀ key key' : CacheKey,
    coding.name key.value = key'.value ↔ kind = .clearText ∧ key = key'
  ne_lang : ∀ key : CacheKey, coding.name key.value ≠ langCookie.name

/-- A request in which a session is found. -/
def Found (factory : ClientSideSessionFactory) (coding : SessionCoding) (trackingId : String)
    (requestCookies : Jar) : Prop :=
  ∃ session, factory.getSession requestCookies = .ok session ∧ session.Spec coding ∧
    session.trackingId = trackingId

section Coding

variable {coding : SessionCoding} {kind : SessionKind} {jar : Jar} {data : ApplicationData}

theorem Coded.congr {jar' : Jar} (h : Coded coding jar data) (hget : jar'.get = jar.get) :
    Coded coding jar' data := by
  rw [Coded, hget]
  exact h

/-- Cookies of other names do not matter. -/
theorem Coded.receive_of_ne (h : Coded coding jar data) {cookies : List Cookie}
    (hne : ∀ cookie ∈ cookies, ∀ key : CacheKey, cookie.name ≠ coding.name key.value) :
    Coded coding (jar.receive cookies) data := by
  intro key hk
  rw [Jar.get_receive_of_forall_ne fun cookie hc => hne cookie hc key]
  exact h key hk

theorem Coded.receive_of_codes (hnames : coding.Names kind) (h : Coded coding jar data)
    {cookies : List Cookie} {assignments : List (Assignment CacheKey CacheKey.Model)}
    (hcodes : List.Forall₂ (Codes (fun key : CacheKey => coding.name key.value) coding.ReadsModel)
      (cookies.map Cookie.assignment) assignments) :
    Coded coding (jar.receive cookies) (assignAll data assignments) := by
  rw [Coded, Jar.get_receive]
  exact Represents.assignAll hnames.injective.injOn hcodes (fun _ _ => Set.mem_univ _) h

/-- A jar without any cookie of a key codes no data. -/
theorem coded_of_none (h : ∀ key : CacheKey, jar.get (coding.name key.value) = none) :
    Coded coding jar fun _ => none := by
  intro key _
  rw [h key]
  exact .none

/-- In a session the readers of a request read the data. -/
theorem ofJar_eq_ofData {factory : ClientSideSessionFactory} {trackingId : String}
    (hfound : Found factory coding trackingId jar) (h : Coded coding jar data) :
    RequestCookies.ofJar factory jar = .ofData trackingId data := by
  obtain ⟨session, hsession, hspec, rfl⟩ := hfound
  have hget : ∀ key : CacheKey,
      RichCookies.getModel jar factory key.format key.value = .ok (data key) ∧
        (jar.get (session.nameCookie key.value)).isSome = (data key).isSome := by
    intro key
    have hkey := h key (Set.mem_univ key)
    simp only [RichCookies.getModel, hsession, bind, Except.bind, hspec.nameCookie_eq]
    generalize jar.get (coding.name key.value) = raw, data key = model at hkey
    cases hkey with
    | none => exact ⟨rfl, rfl⟩
    | some hread =>
        simp only [hspec.getCookieValue_eq]
        rw [show coding.read (coding.name key.value) _ = .ok _ from hread]
        simp only [key.format.fromJson_toJson]
        exact ⟨rfl, rfl⟩
  simp only [RequestCookies.ofJar, RequestCookies.ofData, RequestCookies.mk.injEq,
    RichCookies.trackingId, hsession, bind, Except.bind]
  refine ⟨funext fun key => (hget key).1, funext fun key => ?_, rfl⟩
  rw [(hget key).2]
  rfl

/-! ### Building a result -/

/-- The names of the cookies that edits set. -/
def SessionCoding.editNames (coding : SessionCoding) : Set String :=
  insert langCookie.name
    (Set.range (fun key : CacheKey => coding.name key.value) ∪ Set.range CacheKey.value)

theorem codes_withModel {session : ClientSideSession} (hspec : session.Spec coding)
    (random : SecureRandomBytes) (key : CacheKey) (model : key.Model) :
    Codes (fun key : CacheKey => coding.name key.value) coding.ReadsModel
      (session.newCookie random (session.nameCookie key.value)
        (key.format.toJson model)).assignment
      (⟨key, some model⟩ : Assignment CacheKey CacheKey.Model) := by
  obtain ⟨hname, hread⟩ := CookieCall.codes_write hspec random key.value (key.format.toJson model)
  refine ⟨hname, ?_⟩
  generalize (session.newCookie random (session.nameCookie key.value)
    (key.format.toJson model)).assignment.2 = raw at hread
  cases hread with
  | some hread => exact .some hread

theorem codes_discards {session : ClientSideSession} (hspec : session.Spec coding)
    (keys : List CacheKey) :
    List.Forall₂ (Codes (fun key : CacheKey => coding.name key.value) coding.ReadsModel)
      (((keys.map CacheKey.value).map fun key =>
        DiscardingCookie.toCookie { name := session.nameCookie key }).map Cookie.assignment)
      (keys.map fun key => (⟨key, none⟩ : Assignment CacheKey CacheKey.Model)) := by
  induction keys with
  | nil => exact .nil
  | cons key keys ih =>
      refine .cons ⟨?_, .none⟩ ih
      rw [hspec.nameCookie_eq]
      rfl

/-- Cookies that carry out an edit: how they are added, and what they mean to a jar. -/
structure CarriesOut (kind : SessionKind) (coding : SessionCoding)
    (factory : ClientSideSessionFactory) (requestCookies : Jar)
    (random : CacheKey → SecureRandomBytes) (edit : Edit) (cookies : List Cookie) : Prop where
  apply_eq : ∀ inner,
    edit.apply factory requestCookies random inner = .ok (inner.withCookies cookies)
  coded : ∀ jar data, Coded coding jar data →
    Coded coding (jar.receive cookies) (assignAll data (edit.assignments kind))
  name_mem : ∀ cookie ∈ cookies, cookie.name ∈ coding.editNames

section CarriesOut

variable {factory : ClientSideSessionFactory} {requestCookies : Jar} {session : ClientSideSession}
variable (random : CacheKey → SecureRandomBytes)

theorem carriesOut_withCookie (hnames : coding.Names kind)
    (hsession : factory.getSession requestCookies = .ok session) (hspec : session.Spec coding)
    (key : CacheKey) (model : key.Model) :
    CarriesOut kind coding factory requestCookies random (.withCookie key model)
      [session.newCookie (random key) (session.nameCookie key.value)
        (key.format.toJson model)] where
  apply_eq inner :=
    CookieCall.apply_eq hsession inner (.withModel (random key) key.format key.value model)
  coded jar data h := h.receive_of_codes hnames
    (.cons (codes_withModel hspec (random key) key model) .nil)
  name_mem cookie hc := by
    rw [List.mem_singleton.mp hc]
    exact .inr (.inl ⟨key, (codes_withModel hspec (random key) key model).1.symm⟩)

theorem carriesOut_discardingCookies (hnames : coding.Names kind)
    (hsession : factory.getSession requestCookies = .ok session) (hspec : session.Spec coding)
    (keys : List CacheKey) :
    CarriesOut kind coding factory requestCookies random (.discardingCookies keys)
      ((CookieCall.discardingCookies (keys.map CacheKey.value)).cookies session) where
  apply_eq inner :=
    CookieCall.apply_eq hsession inner (.discardingCookies (keys.map CacheKey.value))
  coded jar data h := h.receive_of_codes hnames (codes_discards hspec keys)
  name_mem cookie hc := by
    obtain ⟨key, _, hkey⟩ := KeyValue.name_mem_of_codes (codes_discards hspec keys)
      (fun _ _ => Set.mem_univ _) (List.mem_map_of_mem hc)
    exact .inr (.inl ⟨key, hkey⟩)

/-- The cookie that is named by the key itself is that of the key in clear text only. -/
theorem carriesOut_discardingCookieNamed (hnames : coding.Names kind) (key : CacheKey) :
    CarriesOut kind coding factory requestCookies random (.discardingCookieNamed key)
      [DiscardingCookie.toCookie { name := key.value }] where
  apply_eq _ := rfl
  coded jar data h := by
    cases kind with
    | clearText =>
        refine h.receive_of_codes hnames (.cons ⟨?_, .none⟩ .nil)
        exact ((hnames.eq_value_iff key key).mpr ⟨rfl, rfl⟩).symm
    | encrypted =>
        apply h.receive_of_ne
        intro cookie hc key' hname
        rw [List.mem_singleton.mp hc] at hname
        exact absurd ((hnames.eq_value_iff key' key).mp hname.symm).1 (by decide)
  name_mem cookie hc := by
    rw [List.mem_singleton.mp hc]
    exact .inr (.inr ⟨key, rfl⟩)

theorem carriesOut_withLang (hnames : coding.Names kind) (code : String) :
    CarriesOut kind coding factory requestCookies random (.withLang code)
      [{ name := langCookie.name, value := code }] where
  apply_eq _ := rfl
  coded jar data h := by
    apply h.receive_of_ne
    intro cookie hc key
    rw [List.mem_singleton.mp hc]
    exact (hnames.ne_lang key).symm
  name_mem cookie hc := by
    rw [List.mem_singleton.mp hc]
    exact .inl rfl

theorem exists_carriesOut {trackingId : String} (hnames : coding.Names kind)
    (hfound : Found factory coding trackingId requestCookies) (edit : Edit) :
    ∃ cookies, CarriesOut kind coding factory requestCookies random edit cookies := by
  obtain ⟨session, hsession, hspec, rfl⟩ := hfound
  cases edit with
  | withCookie key model =>
      exact ⟨_, carriesOut_withCookie random hnames hsession hspec key model⟩
  | discardingCookies keys =>
      exact ⟨_, carriesOut_discardingCookies random hnames hsession hspec keys⟩
  | discardingCookieNamed key => exact ⟨_, carriesOut_discardingCookieNamed random hnames key⟩
  | withLang code => exact ⟨_, carriesOut_withLang random hnames code⟩

end CarriesOut

/-- A result of Play that carries out the edits of a result of an action. -/
structure Builds (kind : SessionKind) (coding : SessionCoding) (r : Result)
    (result : SimpleResult Content) : Prop where
  content_eq : result.content = r.content
  coded : ∀ jar data, Coded coding jar data →
    Coded coding (jar.receive result.setCookies)
      (assignAll data (r.edits.flatMap (Edit.assignments kind)))
  name_mem : ∀ cookie ∈ result.setCookies, cookie.name ∈ coding.editNames

theorem build_result {factory : ClientSideSessionFactory} {requestCookies : Jar}
    {trackingId : String} (hnames : coding.Names kind)
    (hfound : Found factory coding trackingId requestCookies)
    (random : CacheKey → SecureRandomBytes) (r : Result) :
    ∃ result, (Response.result r).build factory requestCookies random = .ok result ∧
      Builds kind coding r result := by
  obtain ⟨content, edits⟩ := r
  induction edits using List.reverseRecOn with
  | nil => exact ⟨{ content := content }, rfl, rfl, fun _ _ h => h, fun _ h => absurd h (by simp)⟩
  | append_singleton edits edit ih =>
      obtain ⟨inner, hinner, hcontent, hcoded, hmem⟩ := ih
      obtain ⟨cookies, happly, hedit, hname⟩ := exists_carriesOut random hnames hfound edit
      refine ⟨inner.withCookies cookies, ?_, hcontent, ?_, ?_⟩
      · simp only [Response.build] at hinner ⊢
        rw [List.foldlM_append, hinner]
        simp only [List.foldlM_cons, List.foldlM_nil, bind, Except.bind, happly]
        rfl
      · intro jar data h
        rw [List.flatMap_append, KeyValue.assignAll_append, List.flatMap_singleton]
        exact (hedit _ _ (hcoded jar data h)).congr (Jar.get_receive_withCookies jar inner cookies)
      · intro cookie hc
        rcases SimpleResult.mem_withCookies hc with hc | hc
        · exact hmem cookie hc
        · exact hname cookie hc

end Coding

/-! ### The sessions of a run -/

/-- The digests that name the cookies of a session do not collide. -/
def EncryptedClientSideSessionFactory.KeysApart (factory : EncryptedClientSideSessionFactory)
    (sessionSecretKey : String) : Prop :=
  Set.InjOn factory.cookieNameHashing.hash
      (factory.hashedTexts sessionSecretKey (Set.range CacheKey.value)) ∧
    ∀ key : CacheKey, factory.sessionSecretKeySuffixKey ≠ sessionSecretKey ++ key.value

/-- A jar without cookies of the application. -/
def Clean (jar : Jar) : Prop := ∀ name, name ≠ seenCookieMessageKey → jar.get name = none

/-- The jar holds the data, in a session or, where there is none, before the first one. -/
inductive Holds : Sessions → Jar → ApplicationData → Prop
  | clearText {cookieFlags : CookieFlags} {jar : Jar} {data : ApplicationData}
      (h : Coded clearTextCoding jar data) : Holds (.clearText cookieFlags) jar data
  | fresh {factory : EncryptedClientSideSessionFactory} {jar : Jar} (h : Clean jar) :
      Holds (.encrypted factory) jar fun _ => none
  | session {factory : EncryptedClientSideSessionFactory} {jar : Jar} {data : ApplicationData}
      {trackingId sessionSecretKey : String} (hapart : factory.KeysApart sessionSecretKey)
      (hvalidate : factory.validateSessionCookies jar = .ok (some (trackingId, sessionSecretKey)))
      (h : Coded (encryptedCoding factory.crypto sessionSecretKey) jar data) :
      Holds (.encrypted factory) jar data

/-- The digests of the session that the draw would create do not collide. -/
def Sessions.Apart (sessions : Sessions) (draw : SessionDraw) : Prop :=
  match sessions with
  | .clearText _ => True
  | .encrypted factory => factory.KeysApart (encodeHexString draw.sessionSecretKey)

theorem clearTextCoding_names : clearTextCoding.Names .clearText where
  injective := CacheKey.value_injective
  eq_value_iff key key' := by
    simp [clearTextCoding, CacheKey.value_injective.eq_iff]
  ne_lang key := by cases key <;> decide

theorem clearText_found (cookieFlags : CookieFlags) (jar : Jar) :
    ∃ trackingId, Found (clearTextClientSideSessionFactory cookieFlags) clearTextCoding
      trackingId jar := by
  obtain ⟨session, hsession, hspec⟩ :=
    (clearTextClientSideSessionFactory_spec cookieFlags).getSession_eq jar trivial
  exact ⟨session.trackingId, session, hsession, hspec, rfl⟩

section Encrypted

variable {factory : EncryptedClientSideSessionFactory} {sessionSecretKey trackingId : String}
variable {jar : Jar} {data : ApplicationData}

theorem length_name (key : CacheKey) :
    ((encryptedCoding factory.crypto sessionSecretKey).name key.value).length = 40 :=
  factory.cookieNameHashing.length_hash _

theorem encryptedCoding_names (hapart : factory.KeysApart sessionSecretKey) :
    (encryptedCoding factory.crypto sessionSecretKey).Names .encrypted where
  injective key key' h := by
    have hspec := constantSessionFactory_spec factory.crypto "" sessionSecretKey
      (hapart.1.mono (Set.subset_insert _ _))
    exact CacheKey.value_injective
      (hspec.injOn_name (Set.mem_range_self key) (Set.mem_range_self key') h)
  eq_value_iff key key' := by
    refine iff_of_false ?_ ?_
    · intro h
      exact key'.length_value_ne (by rw [← h, length_name])
    · intro h
      cases h.1
  ne_lang key h := by
    have hlen : langCookie.name.length = 40 := by rw [← h, length_name]
    exact absurd hlen (by decide)

/-- Digests that are all different are enough. -/
theorem EncryptedClientSideSessionFactory.keysApart_of_nodup
    (h : ((factory.sessionSecretKeySuffixKey ::
      CacheKey.all.map fun key => sessionSecretKey ++ key.value).map
        factory.cookieNameHashing.hash).Nodup) : factory.KeysApart sessionSecretKey := by
  have hmem : ∀ key : CacheKey, sessionSecretKey ++ key.value ∈
      CacheKey.all.map fun key => sessionSecretKey ++ key.value :=
    fun key => List.mem_map_of_mem key.mem_all
  refine ⟨?_, ?_⟩
  · apply Set.InjOn.mono _ fun text ht text' ht' hhash =>
      List.inj_on_of_nodup_map h ht ht' hhash
    rintro _ (rfl | ⟨_, ⟨key, rfl⟩, rfl⟩)
    · exact List.mem_cons_self
    · exact List.mem_cons_of_mem _ (hmem key)
  · intro key hkey
    have hnotMem := (List.nodup_cons.mp h).1
    rw [hkey] at hnotMem
    exact hnotMem (List.mem_map_of_mem (hmem key))

theorem encrypted_found
    (hvalidate : factory.validateSessionCookies jar = .ok (some (trackingId, sessionSecretKey))) :
    Found factory.toFactory (encryptedCoding factory.crypto sessionSecretKey) trackingId jar :=
  ⟨_, factory.getSession_of_validate hvalidate,
    encryptedClientSideSession_spec factory.crypto trackingId sessionSecretKey, rfl⟩

/-- Edits do not touch the session cookies. -/
theorem ne_session_of_mem_editNames (hapart : factory.KeysApart sessionSecretKey) {name : String}
    (h : name ∈ (encryptedCoding factory.crypto sessionSecretKey).editNames) :
    name ≠ trackingIdCookieName ∧ name ≠ factory.sessionSecretKeySuffixCookieName := by
  rcases h with rfl | ⟨key, rfl⟩ | ⟨key, rfl⟩
  · exact ⟨by decide, (factory.suffixCookieName_ne_of_length (by decide)).symm⟩
  · refine ⟨factory.hash_ne_trackingIdCookieName _, ?_⟩
    intro hname
    have hmem : sessionSecretKey ++ key.value ∈
        factory.hashedTexts sessionSecretKey (Set.range CacheKey.value) :=
      .inr ⟨key.value, ⟨key, rfl⟩, rfl⟩
    exact hapart.2 key (hapart.1 hmem (.inl rfl) hname).symm
  · refine ⟨by cases key <;> decide, ?_⟩
    exact (factory.suffixCookieName_ne_of_length key.length_value_ne).symm

/-- The cookies of a new session do not touch those of its keys. -/
theorem newSessionCookies_ne (hapart : factory.KeysApart sessionSecretKey) (draw : SessionDraw)
    {cookie : Cookie} (hc : cookie ∈ factory.newSessionCookies draw) (key : CacheKey) :
    cookie.name ≠ (encryptedCoding factory.crypto sessionSecretKey).name key.value := by
  have hmem : (encryptedCoding factory.crypto sessionSecretKey).name key.value ∈
      (encryptedCoding factory.crypto sessionSecretKey).editNames := .inr (.inl ⟨key, rfl⟩)
  obtain ⟨ht, hs⟩ := ne_session_of_mem_editNames hapart hmem
  simp only [newSessionCookies, List.mem_cons, List.not_mem_nil, or_false] at hc
  rcases hc with rfl | rfl | rfl
  · exact ht.symm
  · exact hs.symm
  · exact ((encryptedCoding_names hapart).ne_lang key).symm

end Encrypted

theorem Holds.congr {sessions : Sessions} {jar jar' : Jar} {data : ApplicationData}
    (h : Holds sessions jar data) (hget : jar'.get = jar.get) : Holds sessions jar' data := by
  cases h with
  | clearText h => exact .clearText (h.congr hget)
  | fresh h => exact .fresh fun name hname => by rw [hget, h name hname]
  | @session factory _ _ trackingId sessionSecretKey hapart hvalidate h =>
      have hvalidate' : factory.validateSessionCookies jar' =
          .ok (some (trackingId, sessionSecretKey)) := by
        rw [factory.validateSessionCookies_congr (congrFun hget _) (congrFun hget _), hvalidate]
      exact .session hapart hvalidate' (h.congr hget)

/-- Before the first request the session holds nothing. -/
theorem Holds.of_clean {jar : Jar} (h : Clean jar) (sessions : Sessions) :
    Holds sessions jar fun _ => none := by
  cases sessions with
  | encrypted factory => exact .fresh h
  | clearText cookieFlags =>
      apply Holds.clearText
      apply coded_of_none
      intro key
      exact h key.value (by cases key <;> decide)

theorem clean_receive_discardAllCookies {request requestCookies : Jar}
    (h : ∀ name, requestCookies.get name = none → request.get name = none) :
    Clean (request.receive (discardAllCookies requestCookies).setCookies) := by
  intro name hname
  rw [get_receive_discardAllCookies]
  by_cases hmem : name ∈ requestCookies.names
  · rw [if_pos ⟨hmem, hname⟩]
  · rw [if_neg fun hn => hmem hn.1]
    exact h name (not_not.mp fun hget => hmem (Jar.mem_names.mpr hget))

/-! ### One request -/

/-- The filter passes a request on: as it is, or with cookies that the response sets last. -/
inductive Passes (sessions : Sessions) (draw : SessionDraw) (request : Jar) :
    Jar → List Cookie → Prop
  | unchanged (h : sessions.factory.newSessionCookiesIfNeeded draw request = .ok none) :
      Passes sessions draw request request []
  | merged {cookies : List Cookie}
      (h : sessions.factory.newSessionCookiesIfNeeded draw request = .ok (some cookies)) :
      Passes sessions draw request (request.merge cookies) cookies

/-- The session that the action finds behind the filter, and what the jar holds once the
cookies of the filter arrive. -/
structure Admission (sessions : Sessions) (draw : SessionDraw) (request : Jar)
    (data : ApplicationData) (coding : SessionCoding) (trackingId : String)
    (requestCookies : Jar) (cookies : List Cookie) : Prop where
  passes : Passes sessions draw request requestCookies cookies
  names : coding.Names sessions.kind
  found : Found sessions.factory coding trackingId requestCookies
  coded : Coded coding request data
  coded_requestCookies : Coded coding requestCookies data
  holds_of_coded : ∀ setCookies : List Cookie, (∀ cookie ∈ setCookies,
    cookie.name ∈ coding.editNames) → ∀ data', Coded coding (request.receive setCookies) data' →
    Holds sessions ((request.receive setCookies).receive cookies) data'
  holds_of_clean : ∀ jar : Jar, Clean jar → Holds sessions (jar.receive cookies) fun _ => none

theorem admission_clearText {cookieFlags : CookieFlags} {jar : Jar} {data : ApplicationData}
    (h : Coded clearTextCoding jar data) (draw : SessionDraw) :
    ∃ trackingId, Admission (.clearText cookieFlags) draw jar data clearTextCoding trackingId
      (jar.merge [langCookie]) [langCookie] := by
  have hlang : ∀ jar data, Coded clearTextCoding jar data →
      Coded clearTextCoding (jar.receive [langCookie]) data := by
    intro jar data h
    apply h.receive_of_ne
    intro cookie hc key
    rw [List.mem_singleton.mp hc]
    exact (clearTextCoding_names.ne_lang key).symm
  obtain ⟨trackingId, hfound⟩ := clearText_found cookieFlags (jar.merge [langCookie])
  refine ⟨trackingId, .merged rfl, clearTextCoding_names, hfound, h, hlang jar data h, ?_, ?_⟩
  · intro setCookies _ data' h'
    exact .clearText (hlang _ data' h')
  · intro jar' hclean
    cases Holds.of_clean hclean (.clearText cookieFlags) with
    | clearText h' => exact .clearText (hlang jar' _ h')

section Encrypted

variable {factory : EncryptedClientSideSessionFactory} {jar : Jar} {data : ApplicationData}

theorem admission_session {trackingId sessionSecretKey : String}
    (hapart : factory.KeysApart sessionSecretKey)
    (hvalidate : factory.validateSessionCookies jar = .ok (some (trackingId, sessionSecretKey)))
    (h : Coded (encryptedCoding factory.crypto sessionSecretKey) jar data) (draw : SessionDraw) :
    Admission (.encrypted factory) draw jar data (encryptedCoding factory.crypto sessionSecretKey)
      trackingId jar [] where
  passes := .unchanged (newSessionCookiesIfNeeded_of_some factory draw hvalidate)
  names := encryptedCoding_names hapart
  found := encrypted_found hvalidate
  coded := h
  coded_requestCookies := h
  holds_of_coded setCookies hnames data' h' := by
    have hne := fun cookie hc => ne_session_of_mem_editNames hapart (hnames cookie hc)
    have hvalidate' : factory.validateSessionCookies (jar.receive setCookies) =
        .ok (some (trackingId, sessionSecretKey)) := by
      rw [← hvalidate]
      exact factory.validateSessionCookies_congr
        (Jar.get_receive_of_forall_ne (fun cookie hc => (hne cookie hc).1) jar)
        (Jar.get_receive_of_forall_ne (fun cookie hc => (hne cookie hc).2) jar)
    exact .session hapart hvalidate' h'
  holds_of_clean jar' hclean := .fresh hclean

/-- Whatever the jar held, once the cookies of a new session arrive it is that session. -/
theorem holds_receive_newSessionCookies {draw : SessionDraw}
    (hapart : factory.KeysApart (encodeHexString draw.sessionSecretKey))
    (h : Coded (encryptedCoding factory.crypto (encodeHexString draw.sessionSecretKey)) jar data) :
    Holds (.encrypted factory) (jar.receive (factory.newSessionCookies draw)) data := by
  have hmerge := Jar.receive_eq_merge (factory.newSessionCookies_expired draw) jar
  obtain ⟨ht, hs⟩ := factory.get_merge_newSessionCookies draw jar
  have hvalidate := factory.validateSessionCookies_newSession draw ht hs
  rw [← hmerge] at hvalidate
  exact .session hapart hvalidate
    (h.receive_of_ne fun cookie hc key => newSessionCookies_ne hapart draw hc key)

theorem Clean.coded (h : Clean jar) (sessionSecretKey : String) :
    Coded (encryptedCoding factory.crypto sessionSecretKey) jar fun _ => none := by
  apply coded_of_none
  intro key
  apply h
  intro hname
  have hlen : seenCookieMessageKey.length = 40 := by rw [← hname, length_name]
  exact absurd hlen (by decide)

theorem admission_fresh (h : Clean jar) {draw : SessionDraw}
    (hapart : factory.KeysApart (encodeHexString draw.sessionSecretKey)) :
    Admission (.encrypted factory) draw jar (fun _ => none)
      (encryptedCoding factory.crypto (encodeHexString draw.sessionSecretKey))
      (factory.newSessionPair draw).1 (jar.merge (factory.newSessionCookies draw))
      (factory.newSessionCookies draw) := by
  obtain ⟨ht, hs⟩ := factory.get_merge_newSessionCookies draw jar
  have hnone := factory.validateSessionCookies_of_none (h trackingIdCookieName (by decide))
    (h factory.sessionSecretKeySuffixCookieName
      (factory.suffixCookieName_ne_of_length (by decide)))
  refine ⟨.merged (newSessionCookiesIfNeeded_of_none factory draw hnone),
    encryptedCoding_names hapart,
    encrypted_found (factory.validateSessionCookies_newSession draw ht hs), h.coded _, ?_, ?_, ?_⟩
  · rw [← Jar.receive_eq_merge (factory.newSessionCookies_expired draw)]
    exact (h.coded _).receive_of_ne fun cookie hc key => newSessionCookies_ne hapart draw hc key
  · intro setCookies _ data' h'
    exact holds_receive_newSessionCookies hapart h'
  · intro jar' hclean
    exact holds_receive_newSessionCookies hapart (hclean.coded _)

end Encrypted

theorem Holds.admission {sessions : Sessions} {jar : Jar} {data : ApplicationData}
    (h : Holds sessions jar data) {draw : SessionDraw} (hapart : sessions.Apart draw) :
    ∃ coding trackingId requestCookies cookies,
      Admission sessions draw jar data coding trackingId requestCookies cookies := by
  cases h with
  | clearText h =>
      obtain ⟨trackingId, hadmission⟩ := admission_clearText h draw
      exact ⟨_, trackingId, _, _, hadmission⟩
  | fresh h => exact ⟨_, _, _, _, admission_fresh h hapart⟩
  | session hkeys hvalidate h => exact ⟨_, _, _, _, admission_session hkeys hvalidate h draw⟩

section Serve

variable {sessions : Sessions} {config : Config} {exchange : Exchange joda}
variable {request requestCookies : Jar} {cookies : List Cookie} {data : ApplicationData}
variable {coding : SessionCoding} {trackingId : String}

theorem Passes.admitted_eq {draw : SessionDraw}
    (h : Passes sessions draw request requestCookies cookies) :
    sessions.admitted draw request = .ok requestCookies := by
  cases h with
  | unchanged h =>
      rw [Sessions.admitted, h]
      rfl
  | merged h =>
      rw [Sessions.admitted, h]
      rfl

/-- No cookie of the request gets lost in the filter. -/
theorem Passes.get_eq_none {draw : SessionDraw}
    (h : Passes sessions draw request requestCookies cookies) {name : String}
    (hname : requestCookies.get name = none) : request.get name = none := by
  cases h with
  | unchanged => exact hname
  | merged => exact Jar.get_eq_none_of_merge hname

theorem Passes.answer_of_error
    (h : Passes sessions exchange.draw request requestCookies cookies) {cause : Throwable}
    (hrun : sessions.runAction config exchange requestCookies = .error cause) :
    sessions.answer config exchange request = redirecting (errorStrategy request cause) := by
  cases h with
  | unchanged h =>
      simp only [Sessions.answer, ensureSessionCreatedFilter, h, hrun, bind, Except.bind]
  | merged h =>
      simp only [Sessions.answer, ensureSessionCreatedFilter, h, hrun, bind, Except.bind]

theorem Passes.answer_of_ok
    (h : Passes sessions exchange.draw request requestCookies cookies)
    {result : SimpleResult Content}
    (hrun : sessions.runAction config exchange requestCookies = .ok result) :
    (sessions.answer config exchange request).content = result.content ∧
      (request.receive (sessions.answer config exchange request).setCookies).get =
        ((request.receive result.setCookies).receive cookies).get := by
  cases h with
  | unchanged h =>
      have hanswer : sessions.answer config exchange request = result := by
        simp only [Sessions.answer, ensureSessionCreatedFilter, h, hrun, bind, Except.bind]
      rw [hanswer]
      exact ⟨rfl, rfl⟩
  | merged h =>
      have hanswer : sessions.answer config exchange request = result.withCookies cookies := by
        simp only [Sessions.answer, ensureSessionCreatedFilter, h, hrun, bind, Except.bind]
        rfl
      rw [hanswer]
      exact ⟨rfl, Jar.get_receive_withCookies request result cookies⟩

/-- An answer that shows the content and leaves the data. -/
def Answers (sessions : Sessions) (request : Jar) (answer : SimpleResult Content)
    (content : Content) (data : ApplicationData) : Prop :=
  answer.content = content ∧ Holds sessions (request.receive answer.setCookies) data

theorem answers_errorStrategy (h : Holds sessions request data) (kind : SessionKind)
    (cause : Throwable) :
    Answers sessions request (redirecting (errorStrategy request cause))
      (errorResponse cause).content ((errorResponse cause).data kind data) := by
  have hdiscard : Holds sessions (request.receive (discardAllCookies request).setCookies)
      fun _ => none := .of_clean (clean_receive_discardAllCookies fun _ h => h) sessions
  obtain ⟨exceptionClass, message⟩ := cause
  cases exceptionClass with
  | badPaddingException => exact ⟨rfl, hdiscard⟩
  | invalidSessionException => exact ⟨rfl, hdiscard⟩
  | _ => exact ⟨rfl, h⟩

variable (config) in
theorem Admission.answers
    (h : Admission sessions exchange.draw request data coding trackingId requestCookies cookies)
    (hholds : Holds sessions request data) :
    Answers sessions request (sessions.answer config exchange request)
      (settle (sessions.outcome config exchange requestCookies).result).content
      ((settle (sessions.outcome config exchange requestCookies).result).data sessions.kind
        data) := by
  cases hresult : (sessions.outcome config exchange requestCookies).result with
  | error cause =>
      have hrun : sessions.runAction config exchange requestCookies = .error cause := by
        rw [Sessions.runAction, hresult]
        rfl
      rw [h.passes.answer_of_error hrun]
      exact answers_errorStrategy hholds sessions.kind cause
  | ok response =>
      have hrun : sessions.runAction config exchange requestCookies =
          response.build sessions.factory requestCookies exchange.random := by
        rw [Sessions.runAction, hresult]
        rfl
      cases response with
      | discardAllCookies =>
          obtain ⟨hcontent, hget⟩ := h.passes.answer_of_ok hrun
          refine ⟨hcontent, Holds.congr ?_ hget⟩
          exact h.holds_of_clean _
            (clean_receive_discardAllCookies fun _ hname => h.passes.get_eq_none hname)
      | result r =>
          obtain ⟨result, hbuild, hbuilds⟩ := build_result h.names h.found exchange.random r
          obtain ⟨hcontent, hget⟩ := h.passes.answer_of_ok (hrun.trans hbuild)
          refine ⟨hcontent.trans hbuilds.content_eq, Holds.congr ?_ hget⟩
          exact h.holds_of_coded _ hbuilds.name_mem _ (hbuilds.coded _ _ h.coded)

variable (config) in
/-- The jar follows the data of the wizard through a request, and the replies are the same. -/
theorem serve_simulates (h : Holds sessions request data) (hapart : sessions.Apart exchange.draw) :
    ∃ trackingId,
      Holds sessions (sessions.serve config request exchange).1
        (wizard sessions.kind config trackingId data exchange).1 ∧
      (sessions.serve config request exchange).2 =
        (wizard sessions.kind config trackingId data exchange).2 := by
  obtain ⟨coding, trackingId, requestCookies, cookies, hadmission⟩ := h.admission hapart
  have houtcome : sessions.outcome config exchange requestCookies =
      handle config exchange.environment (.ofData trackingId data) exchange.request := by
    rw [Sessions.outcome, ofJar_eq_ofData hadmission.found hadmission.coded_requestCookies]
  obtain ⟨hcontent, hholds⟩ := hadmission.answers config h
  rw [houtcome] at hcontent hholds
  have hcalls : sessions.calls config exchange request =
      (handle config exchange.environment (.ofData trackingId data) exchange.request).calls := by
    rw [Sessions.calls, hadmission.passes.admitted_eq, ← houtcome]
  refine ⟨trackingId, hholds, ?_⟩
  rw [Sessions.serve, wizard, hcontent, hcalls]

variable (config) in
/-- Over every run the application answers as the wizard does, under some tracking ids. -/
theorem Holds.run {exchanges : List (Exchange joda)} (h : Holds sessions request data)
    (hapart : ∀ exchange ∈ exchanges, sessions.Apart exchange.draw) :
    ∃ trackingIds : List String, trackingIds.length = exchanges.length ∧
      Holds sessions (Transition.final (sessions.serve config) request exchanges)
        (Transition.final (wizardRun sessions.kind config) data (exchanges.zip trackingIds)) ∧
      Transition.outputs (sessions.serve config) request exchanges =
        Transition.outputs (wizardRun sessions.kind config) data
          (exchanges.zip trackingIds) := by
  induction exchanges generalizing request data with
  | nil => exact ⟨[], rfl, h, rfl⟩
  | cons exchange exchanges ih =>
      obtain ⟨trackingId, hholds, hreply⟩ :=
        serve_simulates config h (hapart exchange List.mem_cons_self)
      obtain ⟨trackingIds, hlength, hfinal, houtputs⟩ :=
        ih hholds fun next hn => hapart next (List.mem_cons_of_mem exchange hn)
      refine ⟨trackingId :: trackingIds, congrArg Nat.succ hlength, hfinal, ?_⟩
      rw [Transition.outputs, hreply, houtputs]
      rfl

end Serve

/-! ### What the session holds -/

theorem Found.applicationData_eq {sessions : Sessions} {coding : SessionCoding}
    {trackingId : String} {jar : Jar} {data : ApplicationData}
    (hfound : Found sessions.factory coding trackingId jar) (hcoded : Coded coding jar data) :
    sessions.applicationData jar = data := by
  funext key
  have hkey := congrArg (RequestCookies.getModel · key) (ofJar_eq_ofData hfound hcoded)
  simp only [RequestCookies.ofJar, RequestCookies.ofData] at hkey
  rw [Sessions.applicationData, hkey]

theorem Holds.applicationData_eq {sessions : Sessions} {jar : Jar} {data : ApplicationData}
    (h : Holds sessions jar data) : sessions.applicationData jar = data := by
  cases h with
  | clearText h =>
      obtain ⟨trackingId, hclear⟩ := clearText_found _ jar
      exact Found.applicationData_eq hclear h
  | session hapart hvalidate h => exact Found.applicationData_eq (encrypted_found hvalidate) h
  | @fresh factory _ h =>
      have hnone := factory.validateSessionCookies_of_none (h trackingIdCookieName (by decide))
        (h factory.sessionSecretKeySuffixCookieName
          (factory.suffixCookieName_ne_of_length (by decide)))
      funext key
      simp only [Sessions.applicationData, RichCookies.getModel, Sessions.factory, toFactory,
        getSession, hnone]
      rfl

end VehiclesOnline
