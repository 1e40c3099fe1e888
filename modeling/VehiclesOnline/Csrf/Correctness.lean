import VehiclesOnline.Csrf.Semantics

/-! # What the token check lets through

A token belongs to the session that it was made for. It also belongs to every page whose
address contains the uri that it was made for, because the filter only looks for that uri
in the rendered `Referer` header. -/

namespace VehiclesOnline.Csrf

variable (csrf : CsrfPrevention)

/-- The session of a request. -/
def InSession (request : RequestHeader) (trackingId : String) : Prop :=
  RichCookies.trackingId request.cookies csrf.clientSideSessionFactory = .ok trackingId

/-- The token that the server made for a page of a session. -/
def Minted (token trackingId uri : String) : Prop :=
  ∃ draw, token = newToken csrf draw trackingId uri

/-- A token is not forged: Play extracts something from it only if the server made it, for
a session and a page. Tracking ids are free of the delimiter. -/
def Unforged (token : String) : Prop :=
  csrf.crypto.extractSignedToken token ≠ none →
    ∃ trackingId uri, Minted csrf token trackingId uri ∧ delimiter ∉ trackingId.toList ∧ IsUri uri

/-- A POST of a form. -/
structure IsFormPost (request : RequestHeader) : Prop where
  method : request.method = "POST"
  contentType : request.contentType = some "application/x-www-form-urlencoded"

/-- The action is never reached: whatever it is, the filter raises. -/
def Raises (draw : TokenDraw) (request : RequestHeader) (body : Body) : Prop :=
  ∃ e, ∀ (α : Type) (next : EssentialAction α), apply csrf draw next request body = .error e

/-- The action receives the request and the body as they are. -/
def Passes (draw : TokenDraw) (request : RequestHeader) (body : Body) : Prop :=
  ∀ (α : Type) (next : EssentialAction α), apply csrf draw next request body = next request body

section Check

variable {csrf}

theorem matchToken_of_minted {token trackingId uri trackingId' : String}
    (hm : Minted csrf token trackingId uri) (ht : delimiter ∉ trackingId.toList) (hu : IsUri uri)
    (ht' : delimiter ∉ trackingId'.toList) (referer : Option String) :
    matchToken csrf token (buildTokenWithReferer trackingId' referer) =
      .ok (decide (trackingId = trackingId') &&
        decide (Text.Contains (optionToString referer) uri)) := by
  obtain ⟨draw, rfl⟩ := hm
  simp only [matchToken, newToken, csrf.crypto.extract_sign, csrf.aesEncryption.decrypt_encrypt,
    bind, Except.bind, splitToken_buildTokenWithUri ht hu, splitToken_buildTokenWithReferer ht']
  rfl

/-- A POST that is not a form never reaches the action. -/
theorem raises_of_contentType (hen : csrf.preventionEnabled = true) (draw : TokenDraw)
    {request : RequestHeader} (hmethod : request.method = "POST")
    (hct : request.contentType ≠ some "application/x-www-form-urlencoded") (body : Body) :
    Raises csrf draw request body := by
  cases hs : RichCookies.trackingId request.cookies csrf.clientSideSessionFactory with
  | error e =>
      refine ⟨e, ?_⟩
      intro α next
      simp only [apply, hen, hmethod, hs, if_true, bind, Except.bind]
  | ok trackingId =>
      cases hc : request.contentType with
      | none =>
          refine ⟨⟨.noSuchElementException, some "None.get"⟩, ?_⟩
          intro α next
          simp only [apply, hen, hmethod, hs, hc, if_true, bind, Except.bind]
          rfl
      | some contentType =>
          have hne : contentType ≠ "application/x-www-form-urlencoded" := by
            intro he
            exact hct (by rw [hc, he])
          refine ⟨csrfPreventionException "No CSRF token found in body", ?_⟩
          intro α next
          simp only [apply, hen, hmethod, hs, hc, if_true, if_neg hne, bind, Except.bind]
          rfl

theorem raises_of_session (hen : csrf.preventionEnabled = true) (draw : TokenDraw)
    {request : RequestHeader} (hmethod : request.method = "POST") {e : Throwable}
    (hs : RichCookies.trackingId request.cookies csrf.clientSideSessionFactory = .error e)
    (body : Body) : Raises csrf draw request body := by
  refine ⟨e, ?_⟩
  intro α next
  simp only [apply, hen, hmethod, hs, if_true, bind, Except.bind]

/-- What becomes of a form depends on the check of its first token alone. -/
theorem apply_formPost (hen : csrf.preventionEnabled = true) (draw : TokenDraw)
    {request : RequestHeader} (hpost : IsFormPost request) {trackingId : String}
    (hs : InSession csrf request trackingId) (body : Body) {α : Type} (next : EssentialAction α) :
    apply csrf draw next request body =
      checkBody csrf request (buildTokenWithReferer trackingId request.referer) next body := by
  rw [InSession] at hs
  simp only [apply, hen, hpost.method, hpost.contentType, hs, if_true, bind, Except.bind]

theorem raises_of_no_token (hen : csrf.preventionEnabled = true) (draw : TokenDraw)
    {request : RequestHeader} (hpost : IsFormPost request) {trackingId : String}
    (hs : InSession csrf request trackingId) {body : Body}
    (htoken : tokenOfBody csrf request (body.take inspectedBytes) = none) :
    Raises csrf draw request body := by
  refine ⟨csrfPreventionException "Invalid token found in form body", ?_⟩
  intro α next
  rw [apply_formPost hen draw hpost hs]
  simp only [checkBody, htoken]
  rfl

theorem raises_of_unsigned (hen : csrf.preventionEnabled = true) (draw : TokenDraw)
    {request : RequestHeader} (hpost : IsFormPost request) {trackingId : String}
    (hs : InSession csrf request trackingId) {body : Body} {token : String}
    (htoken : tokenOfBody csrf request (body.take inspectedBytes) = some token)
    (hextract : csrf.crypto.extractSignedToken token = none) :
    Raises csrf draw request body := by
  refine ⟨csrfPreventionException "Invalid token found in form body", ?_⟩
  intro α next
  rw [apply_formPost hen draw hpost hs]
  simp only [checkBody, htoken, matchToken, hextract]
  rfl

/-- A form with a token of the server passes unchanged if the token is of its session and
its `Referer` contains the uri of the token, and raises otherwise. -/
theorem apply_of_minted (hen : csrf.preventionEnabled = true) (draw : TokenDraw)
    {request : RequestHeader} (hpost : IsFormPost request) {trackingId : String}
    (hs : InSession csrf request trackingId) (ht : delimiter ∉ trackingId.toList) {body : Body}
    {token trackingId' uri : String}
    (htoken : tokenOfBody csrf request (body.take inspectedBytes) = some token)
    (hm : Minted csrf token trackingId' uri) (ht' : delimiter ∉ trackingId'.toList)
    (hu : IsUri uri) {α : Type} (next : EssentialAction α) :
    apply csrf draw next request body =
      if trackingId' = trackingId ∧ Text.Contains (optionToString request.referer) uri then
        next request body
      else .error (csrfPreventionException "Invalid token found in form body") := by
  rw [apply_formPost hen draw hpost hs]
  simp only [checkBody, htoken, matchToken_of_minted hm ht' hu ht, bind, Except.bind]
  by_cases hmatch : trackingId' = trackingId ∧ Text.Contains (optionToString request.referer) uri
  · obtain ⟨hid, hcontains⟩ := hmatch
    simp [hid, hcontains]
  · rw [if_neg hmatch]
    rw [not_and_or] at hmatch
    rcases hmatch with h | h
    · simp [h]
      rfl
    · simp [h]
      rfl

/-- A form without `Referer` raises, whatever token it carries. -/
theorem raises_of_no_referer (hen : csrf.preventionEnabled = true) (draw : TokenDraw)
    {request : RequestHeader} (hpost : IsFormPost request) (href : request.referer = none)
    {trackingId : String} (hs : InSession csrf request trackingId)
    (ht : delimiter ∉ trackingId.toList) {body : Body} {token : String}
    (htoken : tokenOfBody csrf request (body.take inspectedBytes) = some token)
    (hunforged : Unforged csrf token) : Raises csrf draw request body := by
  cases hextract : csrf.crypto.extractSignedToken token with
  | none => exact raises_of_unsigned hen draw hpost hs htoken hextract
  | some signedToken =>
      obtain ⟨trackingId', uri, hm, ht', hu⟩ := hunforged (by simp [hextract])
      refine ⟨csrfPreventionException "Invalid token found in form body", ?_⟩
      intro α next
      rw [apply_of_minted hen draw hpost hs ht htoken hm ht' hu, if_neg]
      intro hmatch
      obtain ⟨path, rfl⟩ := hu
      rw [href, optionToString, Text.contains_iff] at hmatch
      obtain ⟨_, a, b, hab⟩ := hmatch
      have hslash : '/' ∈ "None".toList := by
        rw [hab]
        simp [String.toList_append]
      exact absurd hslash (by decide)

/-- A form with a token passes if the server made the token for the session of the request,
and raises otherwise. -/
theorem passes_or_raises (hen : csrf.preventionEnabled = true) (draw : TokenDraw)
    {request : RequestHeader} (hpost : IsFormPost request) {trackingId : String}
    (hs : InSession csrf request trackingId) (ht : delimiter ∉ trackingId.toList) {body : Body}
    {token : String} (htoken : tokenOfBody csrf request (body.take inspectedBytes) = some token)
    (hunforged : Unforged csrf token) :
    (Passes csrf draw request body ∧ ∃ uri, Minted csrf token trackingId uri) ∨
      Raises csrf draw request body := by
  cases hextract : csrf.crypto.extractSignedToken token with
  | none => exact .inr (raises_of_unsigned hen draw hpost hs htoken hextract)
  | some signedToken =>
      obtain ⟨trackingId', uri, hm, ht', hu⟩ := hunforged (by simp [hextract])
      have happly := fun (α : Type) (next : EssentialAction α) =>
        apply_of_minted hen draw hpost hs ht htoken hm ht' hu next
      by_cases hmatch : trackingId' = trackingId ∧
          Text.Contains (optionToString request.referer) uri
      · simp only [if_pos hmatch] at happly
        obtain ⟨rfl, -⟩ := hmatch
        exact .inl ⟨happly, uri, hm⟩
      · simp only [if_neg hmatch] at happly
        exact .inr ⟨_, happly⟩

/-- The token of a page passes in a form that was sent from the address of the page. -/
theorem passes_of_page (hen : csrf.preventionEnabled = true) (draw : TokenDraw)
    {request : RequestHeader} (hpost : IsFormPost request) {trackingId : String}
    (hs : InSession csrf request trackingId) (ht : delimiter ∉ trackingId.toList) {body : Body}
    {token uri base : String}
    (htoken : tokenOfBody csrf request (body.take inspectedBytes) = some token)
    (hm : Minted csrf token trackingId uri) (hu : IsUri uri)
    (href : request.referer = some (base ++ uri)) : Passes csrf draw request body := by
  have hcontains : Text.Contains (optionToString request.referer) uri := by
    rw [href, optionToString]
    apply Text.contains_append_right
    apply Text.contains_append_left
    apply Text.contains_append_left
    exact Text.contains_iff.mpr ⟨"", "", by simp⟩
  intro α next
  rw [apply_of_minted hen draw hpost hs ht htoken hm ht hu, if_pos ⟨rfl, hcontains⟩]

theorem minted_of_getToken {draw : TokenDraw} {page : RequestHeader} {trackingId token : String}
    (hs : InSession csrf page trackingId) (hget : getToken csrf draw page = .ok token) :
    Minted csrf token trackingId page.uri := by
  rw [InSession] at hs
  simp only [getToken, hs] at hget
  exact ⟨draw, (Except.ok.inj hget).symm⟩

end Check

/-- A POST reaches its action only as a form whose first token the server made for the
session of the request, and never without a `Referer`. A form from a page of the same
session passes with its body unchanged. -/
theorem postCheck (hen : csrf.preventionEnabled = true) :
    (∀ draw request body, request.method = "POST" →
      (∀ trackingId, InSession csrf request trackingId → delimiter ∉ trackingId.toList) →
      (∀ token, tokenOfBody csrf request (body.take inspectedBytes) = some token →
        Unforged csrf token) →
      ((Passes csrf draw request body ∧
          request.contentType = some "application/x-www-form-urlencoded" ∧
          ∃ trackingId token uri, InSession csrf request trackingId ∧
            tokenOfBody csrf request (body.take inspectedBytes) = some token ∧
            Minted csrf token trackingId uri) ∨
        Raises csrf draw request body) ∧
      (request.referer = none → Raises csrf draw request body)) ∧
    (∀ draw draw' page request body trackingId token base,
      delimiter ∉ trackingId.toList → InSession csrf page trackingId → IsUri page.uri →
      getToken csrf draw page = .ok token →
      IsFormPost request → InSession csrf request trackingId →
      request.referer = some (base ++ page.uri) → body.length ≤ inspectedBytes →
      tokenOfBody csrf request body = some token → Passes csrf draw' request body) := by
  constructor
  · intro draw request body hmethod hid hunforged
    by_cases hct : request.contentType = some "application/x-www-form-urlencoded"
    · have hpost : IsFormPost request := ⟨hmethod, hct⟩
      cases hs : RichCookies.trackingId request.cookies csrf.clientSideSessionFactory with
      | error e =>
          have hraises := raises_of_session hen draw hmethod hs body
          exact ⟨.inr hraises, fun _ => hraises⟩
      | ok trackingId =>
          cases htoken : tokenOfBody csrf request (body.take inspectedBytes) with
          | none =>
              have hraises := raises_of_no_token hen draw hpost hs htoken
              exact ⟨.inr hraises, fun _ => hraises⟩
          | some token =>
              have ht := hid trackingId hs
              have hunforged' := hunforged token htoken
              refine ⟨?_, fun href =>
                raises_of_no_referer hen draw hpost href hs ht htoken hunforged'⟩
              rcases passes_or_raises hen draw hpost hs ht htoken hunforged' with
                ⟨hpasses, uri, hm⟩ | hraises
              · exact .inl ⟨hpasses, hct, trackingId, token, uri, hs, rfl, hm⟩
              · exact .inr hraises
    · have hraises := raises_of_contentType hen draw hmethod hct body
      exact ⟨.inr hraises, fun _ => hraises⟩
  · intro draw draw' page request body trackingId token base ht hpage hu hget hpost hs href hlen
      htoken
    rw [← List.take_of_length_le hlen] at htoken
    exact passes_of_page hen draw' hpost hs ht htoken (minted_of_getToken hpage hget) hu href

/-- The pages to which a token for a uri belongs: the uri occurs in the address, or the
address ends with the uri but for a closing parenthesis. -/
def Accepts (referer uri : String) : Prop :=
  Text.Contains referer uri ∨ ∃ base uri', uri = uri' ++ ")" ∧ referer = base ++ uri'

theorem contains_optionToString_iff {referer uri : String} (hu : IsUri uri) :
    Text.Contains (optionToString (some referer)) uri ↔ Accepts referer uri := by
  obtain ⟨path, rfl⟩ := hu
  have hhead : ("/" ++ path).toList.head? = some '/' := by simp [String.toList_append]
  have hne : "/" ++ path ≠ "" := by
    intro h
    rw [h] at hhead
    cases hhead
  rw [optionToString, String.append_assoc, Text.contains_append_iff_of_head hhead (by decide)]
  exact Text.contains_append_singleton_iff ')' hne

/-- A form with a token of its session passes exactly when the token belongs to the page
that its `Referer` names. -/
theorem tokenCheck (hen : csrf.preventionEnabled = true) (draw : TokenDraw)
    (request : RequestHeader) (hpost : IsFormPost request) (trackingId : String)
    (hs : InSession csrf request trackingId) (ht : delimiter ∉ trackingId.toList) (body : Body)
    (token uri referer : String)
    (htoken : tokenOfBody csrf request (body.take inspectedBytes) = some token)
    (hm : Minted csrf token trackingId uri) (hu : IsUri uri)
    (href : request.referer = some referer) :
    (Accepts referer uri → Passes csrf draw request body) ∧
      (¬ Accepts referer uri → Raises csrf draw request body) := by
  constructor
  · intro h α next
    have hcontains := (contains_optionToString_iff hu).mpr h
    rw [← href] at hcontains
    rw [apply_of_minted hen draw hpost hs ht htoken hm ht hu, if_pos ⟨rfl, hcontains⟩]
  · intro h
    refine ⟨csrfPreventionException "Invalid token found in form body", ?_⟩
    intro α next
    rw [apply_of_minted hen draw hpost hs ht htoken hm ht hu, if_neg]
    intro hmatch
    rw [href] at hmatch
    exact h ((contains_optionToString_iff hu).mp hmatch.2)

/-! ### A form of the application -/

/-- The filter over clear text sessions, with the signer of Play and its form parser. -/
def clearTextCsrf : CsrfPrevention where
  clientSideSessionFactory := clearTextClientSideSessionFactory noCookieFlags
  aesEncryption := aesEncryption (Equiv.refl _)
  crypto := playTokenSigner "application secret"
  tolerantFormUrlEncoded _ bytes := (FormUrlEncoded.parse bytes).map formData

def firstDraw : TokenDraw := ⟨1400000000000, fun _ => 0⟩

/-- A request for a page, from a browser without cookies. -/
def pageRequest (uri : String) : RequestHeader where
  method := "GET"
  uri := uri
  contentType := none
  referer := none
  accepts _ := true
  cookies := ∅

/-- The form of that page, sent back with the given `Referer`. -/
def formPost (uri referer : String) : RequestHeader where
  method := "POST"
  uri := uri
  contentType := some "application/x-www-form-urlencoded"
  referer := some referer
  accepts _ := true
  cookies := ∅

def formBody (token : String) : Body := FormUrlEncoded.render [(tokenName, token)]

theorem isFormPost_formPost (uri referer : String) : IsFormPost (formPost uri referer) := ⟨rfl, rfl⟩

theorem tokenOfBody_formBody (request : RequestHeader) (token : String) :
    tokenOfBody clearTextCsrf request (formBody token) = some token := by
  have hparse : FormUrlEncoded.parse (FormUrlEncoded.render [(tokenName, token)]) =
      some [(tokenName, token)] :=
    FormUrlEncoded.parse_render (by simp) (by simp [tokenName])
  simp only [tokenOfBody, clearTextCsrf, formBody, hparse, Option.map_some, formData]
  simp

theorem inSession_clearTextCsrf {request : RequestHeader} (h : request.cookies = ∅) :
    InSession clearTextCsrf request defaultTrackingId := by
  rw [InSession, h]
  rfl

theorem delimiter_not_mem_defaultTrackingId : delimiter ∉ defaultTrackingId.toList := by decide

def vehicleLookupUri : String := "/disposal-of-vehicle/vehicle-lookup"

theorem isUri_vehicleLookupUri : IsUri vehicleLookupUri :=
  ⟨"disposal-of-vehicle/vehicle-lookup", by decide⟩

def vehicleLookupToken : String :=
  newToken clearTextCsrf firstDraw defaultTrackingId vehicleLookupUri

theorem length_formBody_le (token : String) :
    (formBody token).length ≤ 12 * (tokenName.length + token.length) + 1 := by
  have hname := FormUrlEncoded.length_renderText_le tokenName
  have htoken := FormUrlEncoded.length_renderText_le token
  simp only [formBody, FormUrlEncoded.render, FormUrlEncoded.renderPair, List.map_cons,
    List.map_nil, List.intercalate_singleton, List.length_append, List.length_cons]
  omega

theorem length_vehicleLookupToken : vehicleLookupToken.length = 163 := by
  have htoken : (clearTextCsrf.aesEncryption.encrypt firstDraw.initializationVector
      (buildTokenWithUri defaultTrackingId vehicleLookupUri)).length = 108 := by decide +kernel
  have htime : (String.ofList (Nat.toDigits 10 firstDraw.time)).length = 13 := by decide
  have hsigned : vehicleLookupToken = TokenSigner.signed "application secret"
      (String.ofList (Nat.toDigits 10 firstDraw.time))
      (clearTextCsrf.aesEncryption.encrypt firstDraw.initializationVector
        (buildTokenWithUri defaultTrackingId vehicleLookupUri)) := rfl
  rw [hsigned, TokenSigner.signed, TokenSigner.sign, Sha1.hmac]
  simp only [String.length_append, Sha1.length_hexDigest, htoken, htime]
  rfl

theorem length_vehicleLookupForm : (formBody vehicleLookupToken).length ≤ inspectedBytes := by
  have hbody := length_formBody_le vehicleLookupToken
  have hname : tokenName.length = 21 := by decide
  rw [length_vehicleLookupToken] at hbody
  rw [inspectedBytes]
  omega

theorem tokenOfBody_vehicleLookupForm (request : RequestHeader) :
    tokenOfBody clearTextCsrf request ((formBody vehicleLookupToken).take inspectedBytes) =
      some vehicleLookupToken := by
  rw [List.take_of_length_le length_vehicleLookupForm]
  exact tokenOfBody_formBody request vehicleLookupToken

theorem postCheck_vehicleLookup :
    (Raises clearTextCsrf firstDraw { formPost vehicleLookupUri "" with referer := none } [] ) ∧
      Passes clearTextCsrf firstDraw
        (formPost vehicleLookupUri ("http://localhost:9000" ++ vehicleLookupUri))
        (formBody vehicleLookupToken) := by
  obtain ⟨hpost, hpage⟩ := postCheck clearTextCsrf rfl
  constructor
  · refine (hpost firstDraw _ [] rfl ?_ ?_).2 rfl
    · intro trackingId h
      rw [← Except.ok.inj ((inSession_clearTextCsrf rfl).symm.trans h)]
      exact delimiter_not_mem_defaultTrackingId
    · intro token h
      cases h
  · exact hpage firstDraw firstDraw (pageRequest vehicleLookupUri) _ _ defaultTrackingId
      vehicleLookupToken "http://localhost:9000" delimiter_not_mem_defaultTrackingId
      (inSession_clearTextCsrf rfl) isUri_vehicleLookupUri rfl (isFormPost_formPost _ _)
      (inSession_clearTextCsrf rfl) rfl length_vehicleLookupForm (tokenOfBody_formBody _ _)

/-- The path and the query of an address. -/
def pathAndQuery (url : String) : String :=
  String.ofList ((((url.toList.dropWhile (· != '/')).drop 2).dropWhile (· != '/')).takeWhile
    (· != '#'))

def vehicleLookupFailureUrl : String :=
  "http://localhost:9000/disposal-of-vehicle/vehicle-lookup-failure"

theorem tokenCheck_vehicleLookup :
    Passes clearTextCsrf firstDraw (formPost vehicleLookupUri vehicleLookupFailureUrl)
      (formBody vehicleLookupToken) :=
  (tokenCheck clearTextCsrf rfl firstDraw (formPost vehicleLookupUri vehicleLookupFailureUrl)
    (isFormPost_formPost _ _) defaultTrackingId (inSession_clearTextCsrf rfl)
    delimiter_not_mem_defaultTrackingId (formBody vehicleLookupToken) vehicleLookupToken
    vehicleLookupUri vehicleLookupFailureUrl (tokenOfBody_vehicleLookupForm _) ⟨firstDraw, rfl⟩
    isUri_vehicleLookupUri rfl).1 (.inl (by decide))

/-- The token of the lookup page also passes from the failure page, whose path is longer. -/
theorem token_not_bound_to_page :
    ¬ ∀ (csrf : CsrfPrevention), csrf.preventionEnabled = true →
      ∀ draw request, IsFormPost request → ∀ trackingId, InSession csrf request trackingId →
      delimiter ∉ trackingId.toList → ∀ body token uri referer,
      tokenOfBody csrf request (body.take inspectedBytes) = some token →
      Minted csrf token trackingId uri → IsUri uri → request.referer = some referer →
      Passes csrf draw request body → pathAndQuery referer = uri := by
  intro h
  have hpasses : Passes clearTextCsrf firstDraw
      (formPost vehicleLookupUri vehicleLookupFailureUrl) (formBody vehicleLookupToken) := by
    intro α next
    rw [apply_of_minted rfl firstDraw (isFormPost_formPost _ _) (inSession_clearTextCsrf rfl)
      delimiter_not_mem_defaultTrackingId (tokenOfBody_vehicleLookupForm _) ⟨firstDraw, rfl⟩
      delimiter_not_mem_defaultTrackingId isUri_vehicleLookupUri, if_pos]
    exact ⟨rfl, by decide⟩
  have hpath := h clearTextCsrf rfl firstDraw
    (formPost vehicleLookupUri vehicleLookupFailureUrl) (isFormPost_formPost _ _)
    defaultTrackingId (inSession_clearTextCsrf rfl) delimiter_not_mem_defaultTrackingId
    (formBody vehicleLookupToken) vehicleLookupToken vehicleLookupUri vehicleLookupFailureUrl
    (tokenOfBody_vehicleLookupForm _) ⟨firstDraw, rfl⟩ isUri_vehicleLookupUri rfl hpasses
  exact absurd hpath (by decide)

end VehiclesOnline.Csrf
