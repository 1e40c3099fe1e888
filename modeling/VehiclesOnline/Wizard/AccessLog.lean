import VehiclesOnline.Library.Observation
import VehiclesOnline.Library.Uri
import VehiclesOnline.Wizard.Disposal

/-! # The access log

The filter that logs a line for every request once the action behind it is done. -/

namespace VehiclesOnline

open Effects.Outcome (emit)
open Uri (Reference Part following)

namespace HttpHeaders

def XForwardedFor : String := "X-Forwarded-For"

def XRealIp : String := "X-Real-Ip"

def ContentLength : String := "Content-Length"

end HttpHeaders

/-- What the filter reads of a request. -/
structure LoggedRequest where
  method : String
  uri : String
  version : String
  remoteAddress : Option String
  headers : String → Option String
  cookies : Jar

/-- What the filter reads of a result. -/
structure ResponseHeader where
  status : ℤ
  headers : String → Option String

/-- Texts of the JDK: a date in the format of the log, and what the constructor of a URI says of
a text that it does not accept. -/
structure JdkTexts where
  dateFormat : ℤ → String
  uriSyntaxMessage : String → String

namespace ClfEntryBuilder

def clfEntry (texts : JdkTexts) (requestTimestamp : ℤ) (request : LoggedRequest)
    (result : ResponseHeader) : String :=
  let ipAddress := [request.headers HttpHeaders.XForwardedFor, request.remoteAddress,
    request.headers HttpHeaders.XRealIp, some "-"].reduceOption.headD "-"
  let trackingId := (request.cookies.get trackingIdCookieName).getD "-"
  let date := "[" ++ texts.dateFormat requestTimestamp ++ "]"
  let responseLength := (result.headers HttpHeaders.ContentLength).getD "-"
  ipAddress ++ " - - " ++ date ++ " \"" ++ request.method ++ " " ++ request.uri ++ " " ++
    request.version ++ "\" " ++ toString result.status ++ " " ++ responseLength ++ " \"" ++
      trackingId ++ "\" "

end ClfEntryBuilder

namespace AccessLoggingFilter

def NonLoggingUrls : List String := ["/healthcheck"]

variable {C α : Type}

/-- The calls of what is behind the filter, and the lines that are logged. -/
abbrev Logging (C : Type) := Effects.Outcome (C ⊕ String) Throwable

/-- `new URI`. -/
def newUri (texts : JdkTexts) (uri : String) : Except Throwable Uri :=
  match Uri.parse uri.toList with
  | some uri => .ok uri
  | none => .error ⟨.uriSyntaxException, some (texts.uriSyntaxMessage uri)⟩

/-- The URI is read for its path when the result is there. -/
def apply (texts : JdkTexts) (header : α → ResponseHeader) (requestTimestamp : ℤ)
    (filter : LoggedRequest → Effects.Outcome C Throwable α) (requestHeader : LoggedRequest) :
    Logging C α := do
  let result ← ({ calls := (filter requestHeader).calls.map .inl
                  result := (filter requestHeader).result } : Logging C α)
  let requestPath := (← newUri texts requestHeader.uri).getPath
  if requestPath.all fun path => !NonLoggingUrls.contains path then
    emit (.inr (ClfEntryBuilder.clfEntry texts requestTimestamp requestHeader (header result)))
  return result

/-! ### What becomes of a result -/

section Apply

variable {texts : JdkTexts} {header : α → ResponseHeader} {requestTimestamp : ℤ}
variable {filter : LoggedRequest → Effects.Outcome C Throwable α} {requestHeader : LoggedRequest}
variable {calls : List C}

/-- Of a reference a line is logged, or none, and the result is passed on. -/
theorem apply_of_reference {result : α} (h : filter requestHeader = ⟨calls, .ok result⟩)
    (huri : Reference requestHeader.uri.toList) :
    ∃ lines : List String, apply texts header requestTimestamp filter requestHeader =
      ⟨calls.map .inl ++ lines.map .inr, .ok result⟩ := by
  obtain ⟨uri, hparse⟩ := Option.isSome_iff_exists.mp (Uri.isSome_parse.mpr huri)
  have hnew : newUri texts requestHeader.uri = .ok uri := by rw [newUri, hparse]
  rw [apply, h]
  simp only [Effects.Outcome.mk_ok_bind, hnew, Effects.Outcome.lift_ok_bind]
  by_cases hlogs : (uri.getPath.all fun path => !NonLoggingUrls.contains path) = true
  · exact ⟨[ClfEntryBuilder.clfEntry texts requestTimestamp requestHeader (header result)], by
      rw [if_pos hlogs]; rfl⟩
  · exact ⟨[], by rw [if_neg hlogs]; rfl⟩

/-- Of another text nothing is logged, and the result is lost behind its calls. -/
theorem apply_of_not_reference {result : α} (h : filter requestHeader = ⟨calls, .ok result⟩)
    (huri : ¬ Reference requestHeader.uri.toList) :
    apply texts header requestTimestamp filter requestHeader =
      ⟨calls.map .inl,
        .error ⟨.uriSyntaxException, some (texts.uriSyntaxMessage requestHeader.uri)⟩⟩ := by
  have hparse : Uri.parse requestHeader.uri.toList = none := by
    rwa [← Uri.isSome_parse, Option.not_isSome_iff_eq_none] at huri
  have hnew : newUri texts requestHeader.uri =
      .error ⟨.uriSyntaxException, some (texts.uriSyntaxMessage requestHeader.uri)⟩ := by
    rw [newUri, hparse]
  rw [apply, h]
  simp only [Effects.Outcome.mk_ok_bind, hnew, Effects.Outcome.lift_error_bind, List.append_nil]

theorem apply_of_error {cause : Throwable} (h : filter requestHeader = ⟨calls, .error cause⟩) :
    apply texts header requestTimestamp filter requestHeader = ⟨calls.map .inl, .error cause⟩ := by
  rw [apply, h]
  rfl

theorem apply_result_iff {result : α} (h : filter requestHeader = ⟨calls, .ok result⟩) :
    (apply texts header requestTimestamp filter requestHeader).result = .ok result ↔
      Reference requestHeader.uri.toList := by
  by_cases huri : Reference requestHeader.uri.toList
  · obtain ⟨lines, happly⟩ := apply_of_reference h huri
    rw [happly]
    exact iff_of_true rfl huri
  · rw [apply_of_not_reference h huri]
    exact iff_of_false (fun hresult => by cases hresult) huri

end Apply

/-- The filter returns the result that it was given exactly if the URI of the request is a
reference, whatever was done behind the filter. -/
theorem returns_result_iff (texts : JdkTexts) (header : α → ResponseHeader) (requestTimestamp : ℤ)
    (filter : LoggedRequest → Effects.Outcome C Throwable α) (requestHeader : LoggedRequest)
    (calls : List C) (result : α) (h : filter requestHeader = ⟨calls, .ok result⟩) :
    (apply texts header requestTimestamp filter requestHeader).result = .ok result ↔
      Reference requestHeader.uri.toList :=
  apply_result_iff h

/-- A browser requests a path, with a query or without one. -/
theorem apply_result_iff_of_path {texts : JdkTexts} {header : α → ResponseHeader}
    {requestTimestamp : ℤ} {filter : LoggedRequest → Effects.Outcome C Throwable α}
    {requestHeader : LoggedRequest} {calls : List C} {result : α}
    (h : filter requestHeader = ⟨calls, .ok result⟩) {path : List Char}
    {query : Option (List Char)}
    (huri : requestHeader.uri.toList = path ++ following '?' query)
    (hslash : path.head? = some '/') (hnet : ¬ ['/', '/'] <+: path)
    (hpath : ∀ c ∈ path, c ∉ ['?', '#']) (hquery : ∀ part ∈ query, '#' ∉ part) :
    (apply texts header requestTimestamp filter requestHeader).result = .ok result ↔
      Part Uri.isPathChar path ∧ ∀ part ∈ query, Part Uri.isUric part := by
  rw [apply_result_iff h, huri, Uri.reference_path_iff hslash hnet hpath hquery]

end AccessLoggingFilter

/-! ### A disposal that is lost -/

section Dealer

open Dealer

/-- What a session holds when the page of a disposal is shown. -/
def confirmed : ApplicationData
  | .traderDetails =>
      some { traderName := "Dealer"
             traderAddress := { address := ["1 High Street", "Town", "AA11AA"] } }
  | .vehicleLookupFormModel => some ⟨"1", "A1"⟩
  | .vehicleLookupDetails => some ⟨"A1", "Make", "Model"⟩
  | _ => none

def disposing (_ : LoggedRequest) : Outcome Response :=
  handle {} disposes.environment (.ofData "" confirmed) disposes.request

def requestsDisposal (uri : String) : LoggedRequest where
  method := "POST"
  uri := uri
  version := "HTTP/1.1"
  remoteAddress := some "127.0.0.1"
  headers _ := none
  cookies := ∅

/-- At noon, and for a text whose character 31 is not legal in a query. -/
def noonTexts : JdkTexts where
  dateFormat _ := "01/Sep/2014:12:00:00 +000"
  uriSyntaxMessage uri := "Illegal character in query at index 31: " ++ uri

def seeOther (_ : Response) : ResponseHeader where
  status := 303
  headers _ := none

namespace AccessLoggingFilter

theorem returns_result_iff_disposal :
    ∃ calls result,
      disposing (requestsDisposal "/disposal-of-vehicle/dispose") = ⟨calls, .ok result⟩ ∧
        (apply noonTexts seeOther 1409572800000 disposing
          (requestsDisposal "/disposal-of-vehicle/dispose")).result = .ok result :=
  ⟨_, _, rfl, (returns_result_iff noonTexts seeOther 1409572800000 disposing _ _ _ rfl).mpr
    (Uri.isSome_parse.mp (by decide))⟩

/-- The service has disposed of the vehicle, and the flag that prevents another submission was
set, but the answer is an exception. -/
theorem disposal_lost :
    ∃ calls r sent trackingId answer,
      disposing (requestsDisposal "/disposal-of-vehicle/dispose?x=|") =
          ⟨calls, .ok (.result r)⟩ ∧
        r.content = .redirect .disposeSuccess ∧
        .dispose sent trackingId answer ∈ calls ∧
        .withCookie .preventGoingToDisposePage "" ∈ r.edits ∧
        apply noonTexts seeOther 1409572800000 disposing
            (requestsDisposal "/disposal-of-vehicle/dispose?x=|") =
          ⟨calls.map .inl, .error ⟨.uriSyntaxException, some
            "Illegal character in query at index 31: /disposal-of-vehicle/dispose?x=|"⟩⟩ := by
  have huri : ¬ Reference "/disposal-of-vehicle/dispose?x=|".toList := by
    rw [← Uri.isSome_parse]
    decide
  exact ⟨_, _, _, _, _, rfl, rfl, List.mem_cons_self,
    List.mem_append_right _ List.mem_cons_self, apply_of_not_reference rfl huri⟩

end AccessLoggingFilter

end Dealer

end VehiclesOnline
