import VehiclesOnline.Wizard.Pipeline

/-! # Forms that a browser sends

A browser sends the fields of a page, the token among them, to the address of the form. If the page
and the form are of the same session, the request passes the check, and what was typed reaches the
action of the form. -/

namespace VehiclesOnline

open Csrf (InSession delimiter getToken inspectedBytes tokenName tokenOfBody)

variable {joda : Joda}

/-- `Form.bindFromRequest` binds the first value of each name. -/
def formDataOf (pairs : List (String × String)) : FormData :=
  pairs.foldr (fun pair data => data.insert pair.1 pair.2) ∅

theorem lookup_formDataOf (pairs : List (String × String)) (name : String) :
    (formDataOf pairs).lookup name = (pairs.find? (·.1 = name)).map Prod.snd := by
  induction pairs with
  | nil => rfl
  | cons pair pairs ih =>
      have hinsert : formDataOf (pair :: pairs) = (formDataOf pairs).insert pair.1 pair.2 := rfl
      by_cases hname : pair.1 = name
      · subst hname
        rw [hinsert, AList.lookup_insert, List.find?_cons_of_pos (by simp)]
        rfl
      · rw [hinsert, AList.lookup_insert_ne (Ne.symm hname),
          List.find?_cons_of_neg (by simpa using hname), ih]

/-- A name of an array, whose values Play numbers. -/
def isArrayName (name : String) : Prop := "[]".toList <:+ name.toList

/-- Play reads the body of a form as the format of forms has it, if it is not too long. A query
would be bound, too. -/
structure Composition.ReadsForms (composition : Composition) : Prop where
  tolerantFormUrlEncoded : ∀ header (body : Csrf.Body) pairs, body.length ≤ inspectedBytes →
    FormUrlEncoded.parse body = some pairs →
    composition.tolerantFormUrlEncoded header body = some (Csrf.formData pairs)
  formData : ∀ (header : Csrf.RequestHeader) (body : Csrf.Body) pairs,
    body.length ≤ inspectedBytes →
    header.contentType = some "application/x-www-form-urlencoded" → '?' ∉ header.uri.toList →
    FormUrlEncoded.parse body = some pairs → (∀ pair ∈ pairs, ¬ isArrayName pair.1) →
    composition.readers.formData header body = some (formDataOf pairs)

/-- The fields of a form are sent to a path, from the page at an address. -/
structure HttpRequest.Submits (http : HttpRequest) (url path : String)
    (pairs : List (String × String)) : Prop where
  method : http.method = "POST"
  uri : http.uri = path
  contentType : http.contentType = some "application/x-www-form-urlencoded"
  referer : http.referer = some url
  body : http.body = FormUrlEncoded.render pairs

section Submits

variable {composition : Composition} {exchange : HttpExchange joda}
variable {requestCookies : Jar} {trackingId token url path : String}
variable {fields : List (String × String)}

theorem tokenOfBody_render (hreads : composition.ReadsForms) (header : Csrf.RequestHeader)
    (hlength : (FormUrlEncoded.render ((tokenName, token) :: fields)).length ≤ inspectedBytes)
    (hnames : ∀ field ∈ fields, field.1 ≠ "") :
    tokenOfBody composition.csrf header (FormUrlEncoded.render ((tokenName, token) :: fields)) =
      some token := by
  have hparse : FormUrlEncoded.parse (FormUrlEncoded.render ((tokenName, token) :: fields)) =
      some ((tokenName, token) :: fields) :=
    FormUrlEncoded.parse_render (List.cons_ne_nil _ _)
      (List.forall_mem_cons.mpr ⟨by simp [tokenName], hnames⟩)
  have htolerant : composition.csrf.tolerantFormUrlEncoded header
      (FormUrlEncoded.render ((tokenName, token) :: fields)) =
      some (Csrf.formData ((tokenName, token) :: fields)) :=
    hreads.tolerantFormUrlEncoded header _ _ hlength hparse
  rw [tokenOfBody, htolerant]
  simp [Csrf.formData]

/-- A form with a token that was made for the page it is sent from reaches its action. -/
theorem HttpRequest.Submits.handlerFor (hreads : composition.ReadsForms) {base page : String}
    (hsubmits : exchange.http.Submits (base ++ page) path ((tokenName, token) :: fields))
    (hlength : exchange.http.body.length ≤ inspectedBytes)
    (hnames : ∀ field ∈ fields, field.1 ≠ "" ∧ ¬ isArrayName field.1)
    (hs : InSession composition.csrf (exchange.http.header requestCookies) trackingId)
    (ht : delimiter ∉ trackingId.toList) (hm : Csrf.Minted composition.csrf token trackingId page)
    (hpage : Csrf.IsUri page) {request : Request}
    (hposted : Routes.PostedTo composition.readers exchange.clocks (some (base ++ page))
      (formDataOf ((tokenName, token) :: fields)) path request) :
    composition.handlerFor exchange requestCookies = .ok (.wizard request) := by
  obtain ⟨hmethod, huri, hcontentType, hreferer, hbody⟩ := hsubmits
  have harray : ¬ isArrayName tokenName := by
    rw [isArrayName]
    decide
  have hquery : '?' ∉ exchange.http.uri.toList := by
    rw [huri]
    exact hposted.not_mem_query
  have hpath : exchange.http.path = path := by
    rw [HttpRequest.path, Text.before_of_not_mem hquery, huri]
  have htoken : tokenOfBody composition.csrf (exchange.http.header requestCookies)
      (exchange.http.body.take inspectedBytes) = some token := by
    rw [List.take_of_length_le hlength, hbody]
    rw [hbody] at hlength
    exact tokenOfBody_render hreads _ hlength fun field hfield => (hnames field hfield).1
  have hdata : composition.readers.formData (exchange.http.header requestCookies)
      exchange.http.body = some (formDataOf ((tokenName, token) :: fields)) := by
    refine hreads.formData _ _ _ hlength hcontentType hquery ?_ ?_
    · rw [hbody]
      exact FormUrlEncoded.parse_render (List.cons_ne_nil _ _)
        (List.forall_mem_cons.mpr ⟨by simp [tokenName], fun field hfield =>
          (hnames field hfield).1⟩)
    · exact List.forall_mem_cons.mpr ⟨harray, fun field hfield => (hnames field hfield).2⟩
  have hhandler : Routes.handler composition.readers exchange.clocks
      (exchange.http.header requestCookies) path exchange.http.body = .ok (.wizard request) := by
    rw [← show (exchange.http.header requestCookies).referer = some (base ++ page) from hreferer]
      at hposted
    exact hposted.handler_eq hmethod hdata
  rw [Composition.handlerFor, hpath]
  by_cases hen : composition.csrf.preventionEnabled = true
  · rw [Csrf.passes_of_page hen exchange.tokenDraw ⟨hmethod, hcontentType⟩ hs ht htoken hm hpage
      hreferer]
    exact hhandler
  · rw [Csrf.apply, if_neg hen]
    exact hhandler

end Submits

/-! ### The forms of a disposal -/

section Dealer

open Csrf (vehicleLookupToken vehicleLookupUri)
open Dealer

/-- Sessions of clear text, and Play as it reads the bodies of forms and signs tokens. -/
def clearTextComposition : Composition where
  sessions := .clearText noCookieFlags
  config := {}
  aesEncryption := Csrf.clearTextCsrf.aesEncryption
  crypto := Csrf.clearTextCsrf.crypto
  tolerantFormUrlEncoded := Csrf.clearTextCsrf.tolerantFormUrlEncoded
  readers :=
    { formData := fun header body =>
        if header.contentType = some "application/x-www-form-urlencoded" then
          (FormUrlEncoded.parse body).map formDataOf
        else some ∅
      decodePathSegment := some
      lang := .ok }
  texts := noonTexts
  responseHeader _ :=
    { status := 303
      headers := fun _ => none }

theorem readsForms_clearText : clearTextComposition.ReadsForms where
  tolerantFormUrlEncoded header body pairs _ hparse := by
    rw [clearTextComposition, Csrf.clearTextCsrf]
    simp [hparse]
  formData header body pairs _ hcontentType _ hparse _ := by
    rw [clearTextComposition]
    simp [hcontentType, hparse]

/-- The fields of a form, with the token of the page for lookups, sent from that page. -/
def sendsForm (path : String) (fields : List (String × String)) : HttpExchange utc where
  http :=
    { method := "POST"
      uri := path
      version := "HTTP/1.1"
      remoteAddress := some "127.0.0.1"
      headers := fun name =>
        if name = "Referer" then some ("http://localhost:9000" ++ vehicleLookupUri) else none
      contentType := some "application/x-www-form-urlencoded"
      accepts := fun _ => true
      body := FormUrlEncoded.render ((tokenName, vehicleLookupToken) :: fields) }
  environment := services found
  clocks := ⟨Utc.chronology, noon, noon⟩
  draw := zeroDraw
  random _ _ := 0
  tokenDraw := Csrf.firstDraw
  requestTimestamp := 1409572800000
  errorTimestamp := 1409572800000

/-- The names of the fields are plain, and there are not too many of them. -/
def PlainFields (fields : List (String × String)) : Prop :=
  (∀ field ∈ fields, field.1 ≠ "" ∧ ¬ isArrayName field.1) ∧
    (fields.map fun field => 12 * (field.1.length + field.2.length) + 2).sum ≤ 10000

/-- Of the token only the length matters. -/
theorem PlainFields.length_render_le {token : String} (htoken : token.length = 163)
    {fields : List (String × String)} (h : PlainFields fields) :
    (FormUrlEncoded.render ((tokenName, token) :: fields)).length ≤ inspectedBytes := by
  have hrender := FormUrlEncoded.length_render_le ((tokenName, token) :: fields)
  have hname : tokenName.length = 21 := by decide
  have hfields := h.2
  rw [List.map_cons, List.sum_cons, hname, htoken] at hrender
  rw [inspectedBytes]
  omega

theorem length_sendsForm {path : String} {fields : List (String × String)}
    (h : PlainFields fields) : (sendsForm path fields).http.body.length ≤ inspectedBytes :=
  h.length_render_le Csrf.length_vehicleLookupToken

def lookupFields : List (String × String) :=
  [("vehicleRegistrationNumber", "A1"), ("documentReferenceNumber", "12345678910")]

def setUpFields : List (String × String) := [("traderName", "Dealer"), ("traderPostcode", "AA11AA")]

def addressFields : List (String × String) :=
  [("disposal_businessChooseYourAddress_addressSelect", "1")]

def disposeFields : List (String × String) :=
  [("dateOfDisposal.day", "1"), ("dateOfDisposal.month", "9"), ("dateOfDisposal.year", "2014"),
    ("consent", "true"), ("lossOfRegistrationConsent", "true")]

theorem plainFields_dealer : ∀ fields ∈ [lookupFields, setUpFields, addressFields, disposeFields],
    PlainFields fields := by
  simp only [List.forall_mem_cons, PlainFields, isArrayName]
  decide

theorem handlerFor_sendsForm {path : String} {fields : List (String × String)}
    (hplain : PlainFields fields) {request : Request}
    (hposted : Routes.PostedTo clearTextComposition.readers (sendsForm path fields).clocks
      (some ("http://localhost:9000" ++ vehicleLookupUri))
      (formDataOf ((tokenName, vehicleLookupToken) :: fields)) path request) {requestCookies : Jar}
    (hsession : InSession clearTextComposition.csrf
      ((sendsForm path fields).http.header requestCookies) defaultTrackingId) :
    clearTextComposition.handlerFor (sendsForm path fields) requestCookies =
      .ok (.wizard request) :=
  HttpRequest.Submits.handlerFor readsForms_clearText ⟨rfl, rfl, rfl, rfl, rfl⟩
    (length_sendsForm hplain) hplain.1 hsession Csrf.delimiter_not_mem_defaultTrackingId
    ⟨Csrf.firstDraw, rfl⟩ Csrf.isUri_vehicleLookupUri hposted

def sendsLookup : HttpExchange utc :=
  sendsForm "/disposal-of-vehicle/vehicle-lookup" lookupFields

end Dealer

end VehiclesOnline
