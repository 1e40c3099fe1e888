import VehiclesOnline.Session.SessionFilter
import VehiclesOnline.Wizard.Forms

/-! What the actions of the wizard read of a request, and what they answer with. -/

namespace VehiclesOnline

structure DisposeViewModel where
  vehicleMake : String
  vehicleModel : String
  dealerName : String
  dealerAddress : AddressViewModel
  transactionId : Option String := none
  registrationNumber : String
  deriving DecidableEq, Repr

/-- A page: the view, and the data that it is given. The language of its texts and the token
in its forms are left out. -/
inductive Page
  | beforeYouStart
  | setupTradeDetails (form : Form SetupTradeDetailsModel)
  | businessChooseYourAddress (form : Form BusinessChooseYourAddressModel)
      (traderBusinessName traderPostcode : String) (dropDownOptions : List (String × String))
  | enterAddressManually (form : Form EnterAddressManuallyModel) (traderPostcode : String)
  | vehicleLookup (data : TraderDetailsModel) (form : Form VehicleLookupFormModel)
      (displayExitButton : Bool) (surveyUrl : Option String)
  | dispose (data : DisposeViewModel) (form : Form DisposeFormModel) (today : DayMonthYear)
  | disposeSuccess (data : DisposeViewModel) (formModel : DisposeFormModel)
      (surveyUrl : Option String)
  | disposeFailure (data : DisposeViewModel) (formModel : DisposeFormModel)
  | vehicleLookupFailure (data : VehicleLookupFormModel)
      (responseCodeVehicleLookupMSErrorMessage : String) (attempts maxAttempts : ℤ)
  | uprnNotFound
  | duplicateDisposalError
  | microServiceError
  | soapEndpointError
  | vrmLocked (timeString : String)
  | error (exceptionDigest : String)
  | help
  deriving DecidableEq, Repr

/-- The status of a response, with the page or the target of the redirect. -/
inductive Content
  | ok (page : Page)
  | badRequest (page : Page)
  | redirect (route : Route)
  | redirectTo (url : String)
  deriving DecidableEq, Repr

/-- What an action does to the cookies: calls of the adapters, and of the methods of Play that
name a cookie themselves. -/
inductive Edit
  | withCookie (key : CacheKey) (model : key.Model)
  | discardingCookies (keys : List CacheKey)
  | discardingCookieNamed (key : CacheKey)
  | withLang (code : String)

/-- A result, with what was done to its cookies in order. -/
structure Result where
  content : Content
  edits : List Edit := []

namespace Result

def ok (page : Page) : Result := { content := .ok page }

def badRequest (page : Page) : Result := { content := .badRequest page }

def redirect (route : Route) : Result := { content := .redirect route }

variable (inner : Result)

def withCookie (key : CacheKey) (model : key.Model) : Result :=
  { inner with edits := inner.edits ++ [.withCookie key model] }

def discardingCookies (keys : List CacheKey) : Result :=
  { inner with edits := inner.edits ++ [.discardingCookies keys] }

def discardingCookie (key : CacheKey) : Result := inner.discardingCookies [key]

/-- Play's own `discardingCookies`, of the cookie whose name is the key itself. -/
def discardingCookieNamed (key : CacheKey) : Result :=
  { inner with edits := inner.edits ++ [.discardingCookieNamed key] }

def withLang (code : String) : Result := { inner with edits := inner.edits ++ [.withLang code] }

end Result

/-- What an action returns: a result that it built, or `CryptoHelper.discardAllCookies`. -/
inductive Response
  | result (result : Result)
  | discardAllCookies

/-- The readers of the cookies of a request. A string is read like a model. -/
structure RequestCookies where
  getModel : (key : CacheKey) → Except Throwable (Option key.Model)
  hasCookie : CacheKey → Except Throwable Bool
  trackingId : Except Throwable String

namespace RequestCookies

variable (cookies : RequestCookies)

abbrev getString (key : CacheKey) : Except Throwable (Option key.Model) := cookies.getModel key

/-- `RichForm.fill`. -/
def fill (key : CacheKey) : Except Throwable (Form key.Model) := do
  match ← cookies.getModel key with
  | some model => return .fill model
  | none => return {}

end RequestCookies

end VehiclesOnline
