import VehiclesOnline.Wizard.Services

/-! Forms after binding, and the errors that the controllers replace before they show an
invalid form again. -/

namespace VehiclesOnline

structure FormError where
  key : String
  message : String
  args : List String := []
  deriving DecidableEq, Repr

/-- A form that is blank, was bound from a request, or was filled. -/
structure Form (Model : Type) where
  errors : List FormError := []
  value : Option Model := none
  deriving DecidableEq, Repr

namespace Form

variable {Model : Type} (form : Form Model)

def fill (model : Model) : Form Model := { value := some model }

def withError (error : FormError) : Form Model := { form with errors := form.errors ++ [error] }

/-- The value of a form without errors. -/
def valid : Option Model := if form.errors.isEmpty then form.value else none

/-- `RichForm.replaceError`, by a condition on errors. -/
def replaceErrorIf (newError : FormError) (matcher : FormError → Bool) : Form Model :=
  match form.errors.find? matcher with
  | some _ =>
      { form with errors := form.errors.filter fun e => !matcher e }.withError newError
  | none => form

def replaceError (key : String) (newError : FormError) : Form Model :=
  form.replaceErrorIf newError fun e => e.key == key

/-- `RichForm.replaceError` with a message. -/
def replaceErrorMessage (key message : String) (newError : FormError) : Form Model :=
  form.replaceErrorIf newError fun e => e.key == key && e.message == message

def distinctErrors : Form Model := { form with errors := form.errors.eraseDups }

end Form

/-! ### The replacements of each controller -/

namespace SetUpTradeDetails

def TraderNameId : String := "traderName"

def TraderPostcodeId : String := "traderPostcode"

def formWithReplacedErrors (invalidForm : Form SetupTradeDetailsModel) :
    Form SetupTradeDetailsModel :=
  ((invalidForm.replaceError TraderNameId
    { key := TraderNameId, message := "error.validTraderBusinessName" }).replaceError
      TraderPostcodeId
      { key := TraderPostcodeId, message := "error.restricted.validPostcode" }).distinctErrors

end SetUpTradeDetails

namespace BusinessChooseYourAddress

def AddressSelectId : String := "disposal_businessChooseYourAddress_addressSelect"

def formWithReplacedErrors (form : Form BusinessChooseYourAddressModel) :
    Form BusinessChooseYourAddressModel :=
  (form.replaceErrorMessage AddressSelectId "error.required"
    { key := AddressSelectId
      message := "disposal_businessChooseYourAddress.address.required" }).distinctErrors

end BusinessChooseYourAddress

namespace EnterAddressManually

def formWithReplacedErrors (form : Form EnterAddressManuallyModel) :
    Form EnterAddressManuallyModel :=
  (((form.replaceError "addressAndPostcode.addressLines.buildingNameOrNumber"
    { key := "addressAndPostcode.addressLines"
      message := "error.address.buildingNameOrNumber.invalid" }).replaceError
        "addressAndPostcode.addressLines.postTown"
        { key := "addressAndPostcode.addressLines"
          message := "error.address.postTown" }).replaceError
            "addressAndPostcode.postcode"
            { key := "addressAndPostcode.postcode"
              message := "error.address.postcode.invalid" }).distinctErrors

end EnterAddressManually

namespace VehicleLookup

def DocumentReferenceNumberId : String := "documentReferenceNumber"

def VehicleRegistrationNumberId : String := "vehicleRegistrationNumber"

def formWithReplacedErrors (invalidForm : Form VehicleLookupFormModel) :
    Form VehicleLookupFormModel :=
  ((invalidForm.replaceError VehicleRegistrationNumberId
    { key := VehicleRegistrationNumberId
      message := "error.restricted.validVrnOnly" }).replaceError
        DocumentReferenceNumberId
        { key := DocumentReferenceNumberId
          message := "error.validDocumentReferenceNumber" }).distinctErrors

end VehicleLookup

namespace Dispose

def ConsentId : String := "consent"

def LossOfRegistrationConsentId : String := "lossOfRegistrationConsent"

def dateOfDisposalError : FormError :=
  { key := "dateOfDisposal", message := "error.dateOfDisposal" }

/-- A value that the user did not select fails to match before it gets to the constraints. -/
def formWithReplacedErrors (form : Form DisposeFormModel) : Form DisposeFormModel :=
  let dates := (((form.replaceError "dateOfDisposal.day" dateOfDisposalError).replaceError
    "dateOfDisposal.month" dateOfDisposalError).replaceError
      "dateOfDisposal.year" dateOfDisposalError).replaceError
        "dateOfDisposal" dateOfDisposalError
  ((dates.replaceErrorMessage ConsentId "error.required"
    { key := ConsentId, message := "disposal_dispose.consent.notgiven" }).replaceErrorMessage
      LossOfRegistrationConsentId "error.required"
      { key := LossOfRegistrationConsentId
        message := "disposal_dispose.loss_of_registration.consent.notgiven" }).distinctErrors

end Dispose

end VehiclesOnline
