import VehiclesOnline.Wizard.DisposeForm
import VehiclesOnline.Wizard.Parts
import VehiclesOnline.Wizard.Runs

/-! # The domain of the dispose requests

What every request to the dispose service meets of the domain that the messages and the patterns
of the forms publish, over every run of requests. -/

namespace VehiclesOnline

open Effects (Returns)

variable {joda : Joda}

/-! ### The domain -/

/-- The pair of a lookup as it is stored: eleven digits, and capital letters and digits in one of
the shapes of a registration number. -/
structure IdentifiesVehicle (referenceNumber registrationNumber : String) : Prop where
  length : referenceNumber.toList.length = 11
  digits : ∀ c ∈ referenceNumber.toList, c.isDigit = true
  capitals : ∀ c ∈ registrationNumber.toList, c.isUpper = true ∨ c.isDigit = true
  shape : RegistrationNumber.validRegistrationNumber registrationNumber = none

structure DisposeRequest.InDomain (request : DisposeRequest) : Prop where
  keeperConsent : request.keeperConsent = true
  prConsent : request.prConsent = true
  mileage : ∀ n ∈ request.mileage, 0 ≤ n ∧ n ≤ 999999
  identifiesVehicle : IdentifiesVehicle request.referenceNumber request.registrationNumber

/-- The forms of a submission are bound from the data of a request. -/
structure BindsForms (exchange : Exchange joda) : Prop where
  lookup : ∀ form, exchange.request = .vehicleLookupSubmit form →
    ∃ data, form = VehicleLookup.form.bindForm data
  dispose : ∀ form, exchange.request = .disposeSubmit form →
    ∃ (chronology : Chronology joda) (constructed bound : DateService joda) (data : FormData),
      form = (Dispose.form chronology constructed bound).bindForm data

theorem VehicleLookup.identifiesVehicle_of_valid {data : FormData} {model : VehicleLookupFormModel}
    (h : (form.bindForm data).valid = some model) :
    IdentifiesVehicle (convertToUpperCaseAndRemoveSpaces model).referenceNumber
      (convertToUpperCaseAndRemoveSpaces model).registrationNumber := by
  obtain ⟨hreference, hregistration⟩ := valid_bindForm h
  obtain ⟨hlength, hdigits⟩ := referenceNumber_of_bind hreference
  have hmatches := registrationNumber_of_bind hregistration
  rw [convertToUpperCaseAndRemoveSpaces, RegistrationNumber.toUpperCase_of_matches hmatches]
  refine ⟨hlength, hdigits, RegistrationNumber.isUpper_or_isDigit_of_matches hmatches, ?_⟩
  rw [RegistrationNumber.validRegistrationNumber, Constraint.check_eq_none_iff, decide_eq_true_iff]
  simp only [RegistrationNumber.without_toUpper hmatches]
  exact hmatches.toUpper

/-! ### What a request is built of -/

namespace Dispose

/-- Both consents read as true, and the mileage is not negative. -/
structure Confirms (disposeFormModel : DisposeFormModel) : Prop where
  consent : disposeFormModel.consent.toList.map Char.toLower = "true".toList
  lossOfRegistrationConsent :
    disposeFormModel.lossOfRegistrationConsent.toList.map Char.toLower = "true".toList
  mileage : ∀ n ∈ disposeFormModel.mileage, 0 ≤ n

variable (joda) in
/-- What a form and an address have to be converted to is there. -/
structure Convertible (disposeFormModel : DisposeFormModel) (trader : TraderDetailsModel) :
    Prop where
  dateOfDisposal : (disposeFormModel.dateOfDisposal.toDateTime joda).isSome
  traderAddress : ∃ dto, DisposalAddressDto.fromViewModel trader.traderAddress = .ok dto
  consent : IsBoolean disposeFormModel.consent
  lossOfRegistrationConsent : IsBoolean disposeFormModel.lossOfRegistrationConsent

/-- Where the fields of a request come from. -/
structure BuiltFrom (disposeModel : DisposeModel) (disposal : DisposeRequest) : Prop where
  referenceNumber : disposal.referenceNumber = disposeModel.referenceNumber
  registrationNumber : disposal.registrationNumber = disposeModel.registrationNumber
  mileage : disposal.mileage = disposeModel.mileage
  keeperConsent : toBoolean disposeModel.consent = .ok disposal.keeperConsent
  prConsent : toBoolean disposeModel.lossOfRegistrationConsent = .ok disposal.prConsent

variable {environment : Environment joda} {disposeModel : DisposeModel}
variable {disposeFormModel : DisposeFormModel} {trader : TraderDetailsModel}
variable {model : VehicleLookupFormModel} {disposal : DisposeRequest}

theorem builtFrom (h : buildDisposeMicroServiceRequest environment disposeModel trader =
    .ok disposal) : BuiltFrom disposeModel disposal := by
  have hbuilt : Returns (buildDisposeMicroServiceRequest environment disposeModel trader)
      (BuiltFrom disposeModel) := by
    refine Returns.bind' fun dateTime => Returns.bind' fun traderAddress => ?_
    refine Returns.bind' fun timestamp => ?_
    refine Returns.bind (fun _ h => h) fun prConsent hprConsent => ?_
    refine Returns.bind (fun _ h => h) fun keeperConsent hkeeperConsent => ?_
    exact Returns.pure ⟨rfl, rfl, rfl, hkeeperConsent, hprConsent⟩
  exact hbuilt disposal h

theorem convertible_iff : Convertible joda disposeFormModel trader ↔
    ∃ disposal, buildDisposeMicroServiceRequest environment
      (disposeModelOf model disposeFormModel) trader = .ok disposal := by
  rw [buildDisposeMicroServiceRequest_isOk_iff, toBoolean_isOk_iff, toBoolean_isOk_iff]
  constructor
  · intro h
    exact ⟨h.dateOfDisposal, h.traderAddress, h.lossOfRegistrationConsent, h.consent⟩
  · rintro ⟨hdate, haddress, hlossOfRegistrationConsent, hconsent⟩
    exact ⟨hdate, haddress, hconsent, hlossOfRegistrationConsent⟩

theorem toBoolean_of_true {s : String} (h : s.toList.map Char.toLower = "true".toList) :
    toBoolean s = .ok true := if_pos h

/-- A confirmed form and a stored lookup in the domain make a request in the domain. -/
theorem inDomain_of_build (h : buildDisposeMicroServiceRequest environment
      (disposeModelOf model disposeFormModel) trader = .ok disposal)
    (hconfirms : Confirms disposeFormModel) (hmax : ∀ n ∈ disposeFormModel.mileage, n ≤ 999999)
    (hidentifies : IdentifiesVehicle model.referenceNumber model.registrationNumber) :
    disposal.InDomain := by
  have hbuilt := builtFrom h
  refine ⟨?_, ?_, ?_, ?_⟩
  · exact Except.ok.inj (hbuilt.keeperConsent.symm.trans (toBoolean_of_true hconfirms.consent))
  · exact Except.ok.inj (hbuilt.prConsent.symm.trans
      (toBoolean_of_true hconfirms.lossOfRegistrationConsent))
  · intro n hn
    rw [hbuilt.mileage] at hn
    exact ⟨hconfirms.mileage n hn, hmax n hn⟩
  · rw [hbuilt.referenceNumber, hbuilt.registrationNumber]
    exact hidentifies

theorem mileage_le_of_bindsForms {exchange : Exchange joda} (hbinds : BindsForms exchange)
    {form : Form DisposeFormModel} (hrequest : exchange.request = .disposeSubmit form)
    (hvalid : form.valid = some disposeFormModel) :
    ∀ n ∈ disposeFormModel.mileage, n ≤ 999999 := by
  obtain ⟨chronology, constructed, bound, data, rfl⟩ := hbinds.dispose form hrequest
  obtain ⟨hmileage, -⟩ := valid_bindForm hvalid
  intro n hn
  rw [Option.mem_def.mp hn] at hmileage
  exact Mileage.mileage_bind_le hmileage

end Dispose

/-! ### The stored lookup -/

/-- The lookup that the session holds was let through by the form. -/
def HoldsLookupInDomain : History joda → ApplicationData → Prop := fun _ data =>
  ∀ model, data .vehicleLookupFormModel = some model →
    IdentifiesVehicle model.referenceNumber model.registrationNumber

/-- A form that is let through and can be sent confirms the disposal. -/
def ConfirmsWhenSent : RunCondition joda := fun _ data exchange _ =>
  ∀ disposeFormModel trader model,
    Dispose.LetThrough data exchange.request disposeFormModel trader model →
    Dispose.Convertible joda disposeFormModel trader → Dispose.Confirms disposeFormModel

def SendsInDomain : RunCondition joda := fun _ _ _ reply =>
  ∀ disposal trackingId answer, .dispose disposal trackingId answer ∈ reply.calls →
    disposal.InDomain

theorem preserves_holdsLookupInDomain (kind : SessionKind) (config : Config) :
    Preserves kind config
      (fun history data (exchange : Exchange joda) reply =>
        ConfirmsWhenSent history data exchange reply ∧ BindsForms exchange)
      HoldsLookupInDomain := by
  rintro history data exchange trackingId calls response hinv hstep ⟨-, hbinds⟩ stored hstored
  cases hstep.lookupStep kind with
  | @looksUp form model _ hrequest hvalid hmodel =>
      obtain rfl := Option.some.inj (hmodel.symm.trans hstored)
      obtain ⟨data, rfl⟩ := hbinds.lookup form hrequest
      exact VehicleLookup.identifiesVehicle_of_valid hvalid
  | keeps hmodel => exact hinv stored (hmodel.symm.trans hstored)
  | forgets hforgotten => cases hforgotten.2.symm.trans hstored

theorem ensures_sendsInDomain (config : Config) :
    Ensures config
      (fun history data (exchange : Exchange joda) reply =>
        ConfirmsWhenSent history data exchange reply ∧ BindsForms exchange)
      HoldsLookupInDomain SendsInDomain := by
  rintro history data exchange trackingId calls response hinv hstep ⟨hconfirms, hbinds⟩
  intro disposal trackingId' answer hmem
  obtain ⟨disposeFormModel, trader, model, hletThrough, hbuild⟩ :=
    hstep.letThrough_of_dispose_mem hmem
  obtain ⟨form, hrequest, hvalid⟩ := hletThrough.submitted
  exact Dispose.inDomain_of_build hbuild
    (hconfirms _ _ _ hletThrough (Dispose.convertible_iff.mpr ⟨disposal, hbuild⟩))
    (Dispose.mileage_le_of_bindsForms hbinds hrequest hvalid) (hinv model hletThrough.lookup)

/-! ### Runs -/

/-- In every run in which the forms that are sent confirm the disposal, every request to the
dispose service is in its domain. -/
theorem sendsInDomain_of_confirmsWhenSent (sessions : Sessions) (config : Config) {jar : Jar}
    (hclean : Clean jar) {exchanges : List (Exchange joda)}
    (hapart : ∀ exchange ∈ exchanges, sessions.Apart exchange.draw)
    (hbinds : ∀ exchange ∈ exchanges, BindsForms exchange)
    (hconfirms : sessions.Throughout config ConfirmsWhenSent jar exchanges) :
    sessions.Throughout config SendsInDomain jar exchanges :=
  Sessions.Throughout.of_invariant (preserves_holdsLookupInDomain sessions.kind config)
    (ensures_sendsInDomain config) (by rintro model ⟨⟩) hclean hapart
    (hconfirms.and (Transition.along_of_forall _ fun _ => hbinds))

section Dealer

open Dealer

/-- A submission of the lookup form. -/
def looksUpForm (referenceNumber registrationNumber : String) : Exchange utc :=
  sends (.vehicleLookupSubmit (VehicleLookup.form.bindForm
    ⟨[⟨"documentReferenceNumber", referenceNumber⟩,
      ⟨"vehicleRegistrationNumber", registrationNumber⟩], by simp [List.NodupKeys, List.keys]⟩))
    found

/-- A submission of the dispose form, for the first of September. -/
def disposesForm (mileage consent : String) : Exchange utc :=
  sends (.disposeSubmit ((Dispose.form Utc.chronology noon noon).bindForm
    ⟨[⟨"mileage", mileage⟩, ⟨"dateOfDisposal.day", "1"⟩, ⟨"dateOfDisposal.month", "9"⟩,
      ⟨"dateOfDisposal.year", "2014"⟩, ⟨"consent", consent⟩,
      ⟨"lossOfRegistrationConsent", "true"⟩], by simp [List.NodupKeys, List.keys]⟩)) found

theorem bindsForms_dealer (mileage consent : String) :
    ∀ exchange ∈ entersDetails ++ [looksUpForm "12345678910" "ab12 cde"] ++
      [disposesForm mileage consent], BindsForms exchange := by
  intro exchange hmem
  simp only [entersDetails, List.cons_append, List.nil_append, List.mem_cons, List.not_mem_nil,
    or_false] at hmem
  rcases hmem with rfl | rfl | rfl | rfl <;> constructor <;> rintro form ⟨⟩
  · exact ⟨_, rfl⟩
  · exact ⟨_, _, _, _, rfl⟩

/-- A disposal with both consents and a mileage of five. -/
theorem sendsInDomain_of_confirmsWhenSent_dealer :
    (Sessions.clearText noCookieFlags).Throughout {} SendsInDomain ∅
      (entersDetails ++ [looksUpForm "12345678910" "ab12 cde"] ++ [disposesForm "5" "true"]) := by
  refine sendsInDomain_of_confirmsWhenSent (.clearText noCookieFlags) {} (fun _ _ => rfl)
    (fun _ _ => trivial) (bindsForms_dealer "5" "true") ?_
  refine Transition.along_of_forall _ fun state exchange hmem => ?_
  rintro disposeFormModel trader model ⟨⟨form, hrequest, hvalid⟩, -, -, -⟩ -
  simp only [entersDetails, List.cons_append, List.nil_append, List.mem_cons, List.not_mem_nil,
    or_false] at hmem
  rcases hmem with rfl | rfl | rfl | rfl <;> cases hrequest
  cases hvalid
  exact ⟨rfl, rfl, by rintro n ⟨⟩; decide⟩

/-- A mileage below zero and a consent that is refused are sent all the same. -/
theorem not_sendsInDomain_refused :
    ¬ (Sessions.clearText noCookieFlags).Throughout {} SendsInDomain ∅
      (entersDetails ++ [looksUpForm "12345678910" "ab12 cde"] ++
        [disposesForm "-5" "false"]) := by
  intro h
  obtain ⟨trackingIds, trackingId, hlength, hconcat⟩ := throughout_concat SendsInDomain
    (entersDetails ++ [looksUpForm "12345678910" "ab12 cde"]) (disposesForm "-5" "false")
  obtain ⟨a, b, c, rfl⟩ := List.length_eq_three.mp hlength
  have hconsent := ((hconcat.mp h).2 _ _ _ (List.mem_singleton_self _)).keeperConsent
  cases hconsent

end Dealer

end VehiclesOnline
