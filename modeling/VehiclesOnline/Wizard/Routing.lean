import VehiclesOnline.Csrf.Semantics
import VehiclesOnline.Library.Uri
import VehiclesOnline.Wizard.Redirects
import VehiclesOnline.Wizard.Submissions
import VehiclesOnline.Wizard.TraderForms

/-! # Routes

Which action answers a request. The method and the path of the request decide, and the action
binds its form from the data that Play reads of the body. -/

namespace VehiclesOnline

variable {joda : Joda}

namespace DropDown

def addressDropDown : Mapping String := nonEmptyText

end DropDown

/-- The address that is chosen is looked up again, so that no constraint is needed. -/
def BusinessChooseYourAddress.form : Mapping BusinessChooseYourAddressModel where
  bindValue key data :=
    (Bound.and (.ok BusinessChooseYourAddressModel.mk)
      (DropDown.addressDropDown.field AddressSelectId key data))

/-! ### Requests as they arrive -/

/-- A request without its cookies. -/
structure HttpRequest where
  method : String
  uri : String
  version : String
  remoteAddress : Option String
  headers : String → Option String
  contentType : Option String
  accepts : String → Bool
  body : Csrf.Body

namespace HttpRequest

variable (http : HttpRequest)

def referer : Option String := http.headers "Referer"

/-- The path is what stands before the query. -/
def path : String := Text.before '?' http.uri

def header (cookies : Jar) : Csrf.RequestHeader where
  method := http.method
  uri := http.uri
  contentType := http.contentType
  referer := http.referer
  accepts := http.accepts
  cookies := cookies

end HttpRequest

/-- What Play reads for an action: the data of a form, the segment of a path and the language of a
code. It answers by itself where it cannot read the body. -/
structure PlayReaders where
  formData : Csrf.RequestHeader → Csrf.Body → Option FormData
  decodePathSegment : String → Option String
  lang : String → Except Throwable String

/-- The calendar, and the clock when the controller is constructed and when its form is bound. -/
structure FormClocks (joda : Joda) where
  chronology : Chronology joda
  constructed : DateService joda
  bound : DateService joda

/-- Pages that do not belong to the wizard. -/
inductive StaticPage
  | asset
  | healthcheck
  | notFound
  | unreadable
  deriving DecidableEq, Repr

inductive Handler
  | wizard (request : Request)
  | page (page : StaticPage)

/-! ### The table of routes -/

namespace Routes

/-- The routes without parameters: the method, the path and the action. -/
def fixed (clocks : FormClocks joda) (referer : Option String) (data : FormData) :
    List (String × String × Request) :=
  [("GET", "/", .index),
    ("GET", "/disposal-of-vehicle/before-you-start", .beforeYouStartPresent),
    ("POST", "/disposal-of-vehicle/before-you-start", .beforeYouStartSubmit),
    ("GET", "/disposal-of-vehicle/setup-trade-details", .setUpTradeDetailsPresent),
    ("POST", "/disposal-of-vehicle/setup-trade-details",
      .setUpTradeDetailsSubmit (SetUpTradeDetails.form.bindForm data)),
    ("GET", "/disposal-of-vehicle/business-choose-your-address",
      .businessChooseYourAddressPresent),
    ("POST", "/disposal-of-vehicle/business-choose-your-address",
      .businessChooseYourAddressSubmit (BusinessChooseYourAddress.form.bindForm data)),
    ("GET", "/disposal-of-vehicle/enter-address-manually", .enterAddressManuallyPresent),
    ("POST", "/disposal-of-vehicle/enter-address-manually",
      .enterAddressManuallySubmit (EnterAddressManually.form.bindForm data)),
    ("GET", "/disposal-of-vehicle/vehicle-lookup", .vehicleLookupPresent),
    ("POST", "/disposal-of-vehicle/vehicle-lookup",
      .vehicleLookupSubmit (VehicleLookup.form.bindForm data)),
    ("POST", "/disposal-of-vehicle/vehicle-lookup/exit", .vehicleLookupExit),
    ("GET", "/disposal-of-vehicle/vehicle-lookup-back", .vehicleLookupBack),
    ("GET", "/disposal-of-vehicle/dispose", .disposePresent),
    ("POST", "/disposal-of-vehicle/dispose",
      .disposeSubmit
        ((Dispose.form clocks.chronology clocks.constructed clocks.bound).bindForm data)),
    ("GET", "/disposal-of-vehicle/dispose-success", .disposeSuccessPresent),
    ("POST", "/disposal-of-vehicle/dispose-success/new-disposal", .disposeSuccessNewDisposal),
    ("POST", "/disposal-of-vehicle/dispose-success/exit", .disposeSuccessExit),
    ("GET", "/disposal-of-vehicle/dispose-failure", .disposeFailurePresent),
    ("GET", "/disposal-of-vehicle/vehicle-lookup-failure", .vehicleLookupFailurePresent),
    ("POST", "/disposal-of-vehicle/vehicle-lookup-failure", .vehicleLookupFailureSubmit),
    ("GET", "/disposal-of-vehicle/uprn-not-found", .uprnNotFoundPresent),
    ("GET", "/disposal-of-vehicle/duplicate-disposal-error", .duplicateDisposalErrorPresent),
    ("GET", "/disposal-of-vehicle/micro-service-error", .microServiceErrorPresent),
    ("GET", "/disposal-of-vehicle/soap-endpoint-error", .soapEndpointErrorPresent),
    ("GET", "/disposal-of-vehicle/vrm-locked", .vrmLockedPresent),
    ("POST", "/disposal-of-vehicle/vrm-locked/new-disposal", .vrmLockedNewDisposal),
    ("POST", "/disposal-of-vehicle/vrm-locked/exit", .vrmLockedExit),
    ("GET", "/disposal-of-vehicle/help", .helpPresent referer),
    ("POST", "/disposal-of-vehicle/help", .helpBack)]

/-- The rest of a path behind a prefix, as one segment. -/
def segment (readers : PlayReaders) (before path : String) : Option String :=
  if before.toList <+: path.toList then
    let rest := path.toList.drop before.toList.length
    if rest ≠ [] ∧ '/' ∉ rest then readers.decodePathSegment (String.ofList rest) else none
  else none

def errorPath : String := "/disposal-of-vehicle/error/"

def withLanguagePath : String := "/with-language/"

/-- The action of the wizard that a request is routed to. A language that Play does not know
raises. -/
def wizardRequest (readers : PlayReaders) (clocks : FormClocks joda) (method path : String)
    (referer : Option String) (data : FormData) : Option (Except Throwable Request) :=
  match (fixed clocks referer data).find? fun route => route.1 == method && route.2.1 == path with
  | some route => some (.ok route.2.2)
  | none =>
      match segment readers errorPath path, segment readers withLanguagePath path with
      | some exceptionDigest, _ =>
          if method = "GET" then some (.ok (.errorPresent exceptionDigest))
          else if method = "POST" then some (.ok (.errorSubmit exceptionDigest))
          else none
      | none, some chosenLanguage =>
          if method = "GET" then
            some ((readers.lang chosenLanguage).map fun code => .withLanguage code referer)
          else none
      | none, none => none

/-- The handler of a request. Assets come first. -/
def handler (readers : PlayReaders) (clocks : FormClocks joda) (header : Csrf.RequestHeader)
    (path : String) (body : Csrf.Body) : Except Throwable Handler :=
  if header.method = "GET" ∧ "/assets/".toList <+: path.toList then .ok (.page .asset)
  else if header.method = "GET" ∧ path = "/healthcheck" then .ok (.page .healthcheck)
  else
    let data := readers.formData header body
    match wizardRequest readers clocks header.method path header.referer (data.getD ∅) with
    | none => .ok (.page .notFound)
    | some request => if data.isSome then request.map .wizard else .ok (.page .unreadable)

end Routes

/-! ### Methods -/

/-- The method that the request is routed by. -/
def Request.method : Request → String
  | beforeYouStartSubmit | setUpTradeDetailsSubmit _ | businessChooseYourAddressSubmit _
  | enterAddressManuallySubmit _ | vehicleLookupSubmit _ | vehicleLookupExit | disposeSubmit _
  | disposeSuccessNewDisposal | disposeSuccessExit | vehicleLookupFailureSubmit
  | vrmLockedNewDisposal | vrmLockedExit | errorSubmit _ | helpBack => "POST"
  | _ => "GET"

namespace Routes

variable {readers : PlayReaders} {clocks : FormClocks joda} {method path : String}
variable {referer : Option String} {data : FormData} {request : Request}

theorem method_of_mem_fixed {route : String × String × Request}
    (h : route ∈ fixed clocks referer data) : route.2.2.method = route.1 := by
  revert route
  simp [fixed, Request.method]

/-- A request is routed by the table, or by a path with a parameter. -/
theorem wizardRequest_cases
    (h : wizardRequest readers clocks method path referer data = some (.ok request)) :
    (method, path, request) ∈ fixed clocks referer data ∨
      (∃ exceptionDigest, request = .errorPresent exceptionDigest ∧ method = "GET") ∨
      (∃ exceptionDigest, request = .errorSubmit exceptionDigest ∧ method = "POST") ∨
      ∃ code, request = .withLanguage code referer ∧ method = "GET" := by
  rw [wizardRequest] at h
  split at h
  next route hfind =>
    obtain ⟨hmethod, hpath⟩ : route.1 = method ∧ route.2.1 = path := by
      simpa using List.find?_some hfind
    obtain rfl : route.2.2 = request := by simpa using h
    left
    rw [← hmethod, ← hpath]
    exact List.mem_of_find?_eq_some hfind
  next =>
    right
    split at h
    · by_cases hget : method = "GET"
      · rw [if_pos hget] at h
        cases h
        exact .inl ⟨_, rfl, hget⟩
      · rw [if_neg hget] at h
        by_cases hpost : method = "POST"
        · rw [if_pos hpost] at h
          cases h
          exact .inr (.inl ⟨_, rfl, hpost⟩)
        · rw [if_neg hpost] at h
          cases h
    next chosenLanguage _ _ =>
      by_cases hget : method = "GET"
      · rw [if_pos hget] at h
        cases hlang : readers.lang chosenLanguage with
        | error cause =>
            rw [hlang] at h
            cases h
        | ok code =>
            rw [hlang] at h
            cases h
            exact .inr (.inr ⟨code, rfl, hget⟩)
      · rw [if_neg hget] at h
        cases h
    · cases h

/-- An action is found only for a body that can be read. -/
theorem wizardRequest_of_handler {header : Csrf.RequestHeader} {body : Csrf.Body}
    (h : handler readers clocks header path body = .ok (.wizard request)) :
    ∃ data, readers.formData header body = some data ∧
      wizardRequest readers clocks header.method path header.referer data =
        some (.ok request) := by
  rw [handler] at h
  split at h
  · cases h
  · split at h
    · cases h
    · dsimp only at h
      split at h
      · cases h
      next found hfound =>
        split at h
        next hdata =>
          obtain ⟨data, hdata⟩ := Option.isSome_iff_exists.mp hdata
          rw [hdata] at hfound
          cases found with
          | error cause => cases h
          | ok request' =>
              cases h
              exact ⟨data, hdata, hfound⟩
        · cases h

theorem method_of_handler {header : Csrf.RequestHeader} {body : Csrf.Body}
    (h : handler readers clocks header path body = .ok (.wizard request)) :
    request.method = header.method := by
  obtain ⟨data, -, hrequest⟩ := wizardRequest_of_handler h
  rcases wizardRequest_cases hrequest with
    hroute | ⟨_, rfl, hmethod⟩ | ⟨_, rfl, hmethod⟩ | ⟨_, rfl, hmethod⟩
  · exact method_of_mem_fixed hroute
  · exact hmethod.symm
  · exact hmethod.symm
  · exact hmethod.symm

/-- No two routes share a method and a path. -/
theorem find?_fixed {route : String × String × Request} (h : route ∈ fixed clocks referer data) :
    (fixed clocks referer data).find? (fun other => other.1 == route.1 && other.2.1 == route.2.1) =
      some route := by
  revert route
  simp [fixed]

theorem not_asset_of_mem_fixed {route : String × String × Request}
    (h : route ∈ fixed clocks referer data) :
    ¬ "/assets/".toList <+: route.2.1.toList ∧ route.2.1 ≠ "/healthcheck" ∧
      '?' ∉ route.2.1.toList := by
  revert route
  simp only [fixed, List.forall_mem_cons]
  repeat' apply And.intro
  all_goals decide +kernel

theorem isSome_parse_of_mem_fixed {route : String × String × Request}
    (h : route ∈ fixed clocks referer data) : (Uri.parse route.2.1.toList).isSome = true := by
  revert route
  simp only [fixed, List.forall_mem_cons]
  decide +kernel

/-! ### Forms that are posted -/

/-- A segment of a path that is read as a text. -/
structure IsSegment (readers : PlayReaders) (segment text : String) : Prop where
  ne_empty : segment ≠ ""
  slash : '/' ∉ segment.toList
  legal : Uri.Part Uri.isPathChar segment.toList
  decodePathSegment : readers.decodePathSegment segment = some text

/-- Where the forms of the pages are posted, and the actions that bind them. -/
inductive PostedTo (readers : PlayReaders) (clocks : FormClocks joda) (referer : Option String)
    (data : FormData) : String → Request → Prop
  | fixed {path : String} {request : Request}
      (h : ("POST", path, request) ∈ fixed clocks referer data) :
      PostedTo readers clocks referer data path request
  | error {segment exceptionDigest : String} (h : IsSegment readers segment exceptionDigest) :
      PostedTo readers clocks referer data (errorPath ++ segment) (.errorSubmit exceptionDigest)

theorem not_prefix_of_mem_fixed {route : String × String × Request}
    (h : route ∈ fixed clocks referer data) : ¬ errorPath.toList <+: route.2.1.toList := by
  revert route
  simp only [fixed, List.forall_mem_cons]
  decide +kernel

theorem find?_fixed_error (method text : String) :
    ((fixed clocks referer data).find? fun route =>
      route.1 == method && route.2.1 == errorPath ++ text) = none := by
  rw [List.find?_eq_none]
  intro route hroute hmatch
  have hpath : route.2.1 = errorPath ++ text := by
    simpa using (Bool.and_eq_true_iff.mp hmatch).2
  refine not_prefix_of_mem_fixed hroute ?_
  rw [hpath, String.toList_append]
  exact List.prefix_append _ _

theorem IsSegment.segment_error {text exceptionDigest : String}
    (h : IsSegment readers text exceptionDigest) :
    segment readers errorPath (errorPath ++ text) = some exceptionDigest := by
  rw [segment, String.toList_append, if_pos (List.prefix_append _ _)]
  simp [h.slash, h.ne_empty, h.decodePathSegment]

theorem IsSegment.part_error {text exceptionDigest : String}
    (h : IsSegment readers text exceptionDigest) :
    Uri.Part Uri.isPathChar (errorPath ++ text).toList := by
  rw [String.toList_append]
  exact (Uri.allowed_isPathChar_iff.mp (by decide)).append h.legal

theorem PostedTo.not_mem_query (h : PostedTo readers clocks referer data path request) :
    '?' ∉ path.toList := by
  cases h with
  | fixed h => exact (not_asset_of_mem_fixed h).2.2
  | error h => exact fun hmem => h.part_error.pathChar_clear _ hmem List.mem_cons_self

/-- The log can read where a form is posted. -/
theorem PostedTo.reference (h : PostedTo readers clocks referer data path request) :
    Uri.Reference path.toList := by
  cases h with
  | fixed h => exact Uri.isSome_parse.mp (isSome_parse_of_mem_fixed h)
  | @error text _ h =>
      have hslash : (errorPath ++ text).toList.head? = some '/' := by
        rw [String.toList_append]
        rfl
      have hnet : ¬ ['/', '/'] <+: (errorPath ++ text).toList := by
        rw [String.toList_append]
        rintro ⟨rest, hrest⟩
        exact absurd (List.cons.inj (List.cons.inj hrest).2).1 (by decide)
      have hpath := h.part_error
      rw [← List.append_nil (errorPath ++ text).toList]
      exact (Uri.reference_path_iff hslash hnet hpath.pathChar_clear
        (fun _ hmem => absurd hmem (Option.not_mem_none _))).mpr
          ⟨hpath, fun _ hmem => absurd hmem (Option.not_mem_none _)⟩

theorem PostedTo.wizardRequest_eq (h : PostedTo readers clocks referer data path request) :
    wizardRequest readers clocks "POST" path referer data = some (.ok request) := by
  cases h with
  | fixed h => rw [wizardRequest, find?_fixed h]
  | error h =>
      rw [wizardRequest, find?_fixed_error, h.segment_error]
      rfl

/-- A form is handled by the action that it is posted to, if its data can be read. -/
theorem PostedTo.handler_eq {header : Csrf.RequestHeader} {body : Csrf.Body}
    (hmethod : header.method = "POST")
    (h : PostedTo readers clocks header.referer data path request)
    (hdata : readers.formData header body = some data) :
    handler readers clocks header path body = .ok (.wizard request) := by
  have hnotGet : ¬ "POST" = "GET" := by decide
  simp only [handler, hmethod, hnotGet, false_and, if_false, hdata, Option.getD_some,
    h.wizardRequest_eq, Option.isSome_some, if_true]
  rfl

end Routes

end VehiclesOnline
