import VehiclesOnline.Wizard.Interleavings
import VehiclesOnline.Wizard.Survey

/-! # The error page

What makes an action raise, so that the error strategy answers in its place: an address service
that fails, and a disposal that cannot be sent. Nothing that a session holds does. -/

namespace VehiclesOnline

open Effects.Outcome (lift_ok_bind lift_error_bind call_ok_bind call_error_bind)
open RequestCookies (getModel_ofData hasCookie_ofData trackingId_ofData fill_ofData)

variable {joda : Joda}

/-! ### What makes an action raise -/

/-- The action of a request raises for an address service that fails, or because a disposal that
the session lets through cannot be built. -/
def Raises (data : ApplicationData) (exchange : Exchange joda) (cause : Throwable) : Prop :=
  match exchange.request with
  | .businessChooseYourAddressPresent =>
      data .setupTradeDetails ≠ none ∧
        exchange.environment.fetchAddressesForPostcode = .error cause
  | .businessChooseYourAddressSubmit form =>
      data .setupTradeDetails ≠ none ∧
        (form.valid = none ∧ exchange.environment.fetchAddressesForPostcode = .error cause ∨
          form.valid ≠ none ∧ exchange.environment.fetchAddressForUprn = .error cause)
  | .disposeSubmit form => ∃ disposeFormModel trader model,
      Dispose.LetThrough data (.disposeSubmit form) disposeFormModel trader model ∧
        Dispose.buildDisposeMicroServiceRequest exchange.environment
          (Dispose.disposeModelOf model disposeFormModel) trader = .error cause
  | _ => False

section Actions

variable {config : Config} {environment : Environment joda} {data : ApplicationData}
variable {trackingId : String} {cause : Throwable}

theorem BusinessChooseYourAddress.present_error_iff :
    (present environment (.ofData trackingId data)).result = .error cause ↔
      data .setupTradeDetails ≠ none ∧ environment.fetchAddressesForPostcode = .error cause := by
  simp only [present, getModel_ofData, trackingId_ofData, fill_ofData, lift_ok_bind,
    fetchAddresses]
  cases data .setupTradeDetails with
  | none => simp [pure]
  | some setup =>
      cases environment.fetchAddressesForPostcode with
      | error cause' => simp
      | ok addresses => simp [pure]

theorem BusinessChooseYourAddress.submit_error_iff {form : Form BusinessChooseYourAddressModel} :
    (submit environment (.ofData trackingId data) form).result = .error cause ↔
      data .setupTradeDetails ≠ none ∧
        (form.valid = none ∧ environment.fetchAddressesForPostcode = .error cause ∨
          form.valid ≠ none ∧ environment.fetchAddressForUprn = .error cause) := by
  simp only [submit, getModel_ofData, trackingId_ofData, lift_ok_bind, fetchAddresses, lookupUprn]
  cases form.valid with
  | none =>
      cases data .setupTradeDetails with
      | none => simp [pure]
      | some setup =>
          cases environment.fetchAddressesForPostcode with
          | error cause' => simp
          | ok addresses => simp [pure]
  | some model =>
      cases data .setupTradeDetails with
      | none => simp [pure]
      | some setup =>
          cases environment.fetchAddressForUprn with
          | error cause' => simp
          | ok address => cases address <;> simp [pure]

theorem Dispose.submit_error_iff {form : Form DisposeFormModel} :
    (submit environment (.ofData trackingId data) form).result = .error cause ↔
      ∃ disposeFormModel trader model,
        LetThrough data (.disposeSubmit form) disposeFormModel trader model ∧
          buildDisposeMicroServiceRequest environment (disposeModelOf model disposeFormModel)
            trader = .error cause := by
  constructor
  · intro h
    simp only [submit, disposeAction, getModel_ofData, trackingId_ofData,
      RequestCookies.getString, lift_ok_bind] at h
    cases hvalid : form.valid with
    | none =>
        simp only [hvalid, invalidSubmit, getModel_ofData, Effects.Outcome.ofExcept, bind,
          Except.bind] at h
        split at h <;> cases h
    | some disposeFormModel =>
        simp only [hvalid] at h
        cases hopen : data .preventGoingToDisposePage with
        | some flag =>
            rw [hopen] at h
            cases h
        | none =>
            simp only [hopen] at h
            cases htrader : data .traderDetails with
            | none =>
                rw [htrader] at h
                cases h
            | some trader =>
                cases hmodel : data .vehicleLookupFormModel with
                | none =>
                    rw [htrader, hmodel] at h
                    cases h
                | some model =>
                    simp only [htrader, hmodel] at h
                    refine ⟨_, _, _, ⟨⟨form, rfl, hvalid⟩, hopen, htrader, hmodel⟩, ?_⟩
                    cases hbuild : buildDisposeMicroServiceRequest environment
                        (disposeModelOf model disposeFormModel) trader with
                    | error cause' =>
                        simp only [disposeModelOf] at hbuild
                        rw [callMicroService_of_error hbuild] at h
                        simpa using h
                    | ok disposal =>
                        simp only [disposeModelOf] at hbuild
                        rw [callMicroService_eq hbuild] at h
                        split at h <;> cases h
  · rintro ⟨disposeFormModel, trader, model, ⟨⟨form', hform, hvalid⟩, hopen, htrader, hmodel⟩,
      hbuild⟩
    obtain rfl := Request.disposeSubmit.inj hform
    simp only [submit, disposeAction, getModel_ofData, trackingId_ofData,
      RequestCookies.getString, lift_ok_bind, hvalid, hopen, htrader, hmodel]
    simp only [disposeModelOf] at hbuild
    rw [callMicroService_of_error hbuild]

/-- Whatever is raised by the lookup itself is recovered from. -/
theorem VehicleLookup.bruteForceAndLookup_ok (model : VehicleLookupFormModel) :
    ∃ r, (bruteForceAndLookup config environment (.ofData trackingId data) model).result =
      .ok r := by
  rw [bruteForceAndLookup, Effects.Outcome.recover]
  split
  next r hr => exact ⟨r, hr⟩
  next => exact ⟨_, rfl⟩

/-- The requests whose actions can raise. -/
def Request.MayRaise : Request → Prop
  | businessChooseYourAddressPresent => True
  | businessChooseYourAddressSubmit _ => True
  | disposeSubmit _ => True
  | _ => False

/-- The other actions return a result, whatever the session holds. -/
theorem handle_ok {request : Request} (hrequest : ¬ request.MayRaise)
    (hdata : HoldsTriggerDate data) :
    ∃ response, (handle config environment (.ofData trackingId data) request).result =
      .ok response := by
  obtain ⟨url, hurl⟩ := hdata.exists_surveyUrl config trackingId environment.dateService
  have haction : ∀ {result : Except Throwable Result}, (∃ r, result = .ok r) →
      ∃ response, (action result).result = .ok response := by
    rintro _ ⟨r, rfl⟩
    exact ⟨_, rfl⟩
  cases request with
  | businessChooseYourAddressPresent => exact absurd trivial hrequest
  | businessChooseYourAddressSubmit form => exact absurd trivial hrequest
  | disposeSubmit form => exact absurd trivial hrequest
  | vehicleLookupSubmit form =>
      rw [handle, VehicleLookup.submit]
      cases form.valid with
      | none =>
          refine haction ?_
          simp only [VehicleLookup.invalidSubmit, getModel_ofData, hurl,
            VehicleLookup.shouldDisplayExitButton, hasCookie_ofData, bind, Except.bind]
          split <;> exact ⟨_, rfl⟩
      | some model =>
          obtain ⟨r, hr⟩ : ∃ r, (VehicleLookup.bruteForceAndLookup config environment _ _).result =
              .ok r := VehicleLookup.bruteForceAndLookup_ok _
          exact ⟨_, congrArg (Except.map Response.result) hr⟩
  | setUpTradeDetailsPresent | enterAddressManuallyPresent | enterAddressManuallySubmit
  | vehicleLookupPresent | vehicleLookupBack | disposePresent | disposeSuccessPresent
  | disposeSuccessNewDisposal | disposeFailurePresent | vehicleLookupFailurePresent
  | vehicleLookupFailureSubmit | vrmLockedPresent | vrmLockedNewDisposal | helpBack =>
      refine haction ?_
      simp only [SetUpTradeDetails.present, EnterAddressManually.present,
        EnterAddressManually.submit, VehicleLookup.present, VehicleLookup.back,
        VehicleLookup.shouldDisplayExitButton, VehicleLookupFailure.present,
        VehicleLookupFailure.submit, VrmLocked.present, VrmLocked.newDisposal, Dispose.present,
        DisposeFailure.present, DisposeSuccess.present, DisposeSuccess.newDisposal, Help.back,
        getModel_ofData, fill_ofData, hasCookie_ofData, RequestCookies.getString, hurl, bind,
        Except.bind]
      repeat' split
      all_goals exact ⟨_, rfl⟩
  | _ => exact ⟨_, rfl⟩

theorem serviceAction_error_iff {outcome : Outcome Result} :
    (serviceAction outcome).result = .error cause ↔ outcome.result = .error cause := by
  rw [serviceAction, Effects.Outcome.map]
  cases outcome.result with
  | error cause' => simp [Except.map]
  | ok r => simp [Except.map]

variable {exchange : Exchange joda}

theorem handle_error_iff (hdata : HoldsTriggerDate data) :
    (handle config exchange.environment (.ofData trackingId data) exchange.request).result =
      .error cause ↔ Raises data exchange cause := by
  rw [Raises]
  by_cases hmay : exchange.request.MayRaise
  · cases hrequest : exchange.request with
    | businessChooseYourAddressPresent =>
        exact serviceAction_error_iff.trans BusinessChooseYourAddress.present_error_iff
    | businessChooseYourAddressSubmit form =>
        exact serviceAction_error_iff.trans BusinessChooseYourAddress.submit_error_iff
    | disposeSubmit form => exact serviceAction_error_iff.trans Dispose.submit_error_iff
    | _ =>
        rw [hrequest] at hmay
        exact hmay.elim
  · obtain ⟨response, hresponse⟩ : ∃ response,
        (handle config exchange.environment (.ofData trackingId data) exchange.request).result =
          .ok response := handle_ok hmay hdata
    rw [hresponse]
    cases hrequest : exchange.request with
    | businessChooseYourAddressPresent | businessChooseYourAddressSubmit | disposeSubmit =>
        rw [hrequest] at hmay
        exact absurd trivial hmay
    | _ => exact iff_of_false (by rintro ⟨⟩) id

end Actions

/-! ### The error strategy -/

section Traffic

variable {sessions : Sessions} {config : Config} {draws : Set SessionDraw}
variable {exchanges : Set (Exchange joda)}

variable (sessions config) in
/-- How the filter, and the action behind it, end for a request that was served. -/
def Sessions.ends (entry : Served joda) : Except Throwable (SimpleResult Content) :=
  ensureSessionCreatedFilter sessions.factory entry.exchange.draw
    (sessions.runAction config entry.exchange) entry.request

theorem Passes.ends_error_iff {entry : Served joda} {requestCookies : Jar} {cookies : List Cookie}
    (h : Passes sessions entry.exchange.draw entry.request requestCookies cookies)
    {cause : Throwable} : sessions.ends config entry = .error cause ↔
      sessions.runAction config entry.exchange requestCookies = .error cause := by
  rw [Sessions.ends]
  cases hrun : sessions.runAction config entry.exchange requestCookies with
  | error cause' => rw [h.filter_of_error hrun]
  | ok result =>
      obtain ⟨answer, hanswer, -⟩ := h.filter_of_ok hrun
      rw [hanswer]
      exact iff_of_false (by rintro ⟨⟩) (by rintro ⟨⟩)

/-- A result can always be built for a request that is admitted to a session. -/
theorem AdmittedIn.runAction_error_iff {exchange : Exchange joda} {request requestCookies : Jar}
    {sessionSecretKey trackingId : String} {cookies : List Cookie}
    (h : AdmittedIn sessions draws exchange.draw request sessionSecretKey trackingId requestCookies
      cookies) (hapart : sessions.DrawsApart draws) {cause : Throwable} :
    sessions.runAction config exchange requestCookies = .error cause ↔
      (sessions.outcome config exchange requestCookies).result = .error cause := by
  rw [Sessions.runAction]
  cases (sessions.outcome config exchange requestCookies).result with
  | error cause' => simp [bind, Except.bind]
  | ok response =>
      obtain ⟨result, hbuild, -⟩ := h.build hapart exchange.random response
      simp only [bind, Except.bind, hbuild]
      exact iff_of_false (by rintro ⟨⟩) (by rintro ⟨⟩)

theorem Leaves.eq_of_mem_edits {exchange : Exchange joda} {response : Response}
    (h : Leaves exchange response) {s : String}
    (hmem : .withCookie .surveyRequestTriggerDate s ∈ response.edits) :
    s = toString exchange.environment.dateService.nowMillis := by
  cases h with
  | lookup => simpa [Response.edits, VehicleLookup.exit, Result.withCookie,
      Result.discardingCookies, Result.redirect] using hmem
  | success => simpa [Response.edits, DisposeSuccess.exit, Result.withCookie,
      Result.discardingCookies, Result.redirect] using hmem

/-- The trigger dates that responses wrote can be read. -/
theorem AllAnswered.holdsTriggerDate {served : List (Served joda)} {sessionSecretKey : String}
    {data : ApplicationData} (h : AllAnswered sessions config served)
    (hlong : ∀ entry ∈ served, ReadsLong entry.exchange)
    (hwrote : AllStored (sessions.Wrote config served sessionSecretKey) data) :
    HoldsTriggerDate data := by
  intro s hs
  obtain ⟨entry, hentry, hsession, hedit⟩ := hwrote _ _ hs
  obtain ⟨before, after, rfl⟩ := List.append_of_mem hentry
  obtain ⟨trackingId, data', calls, -, hstep, -⟩ := (h before entry after rfl).step hsession
  exact ⟨_, hlong entry (by simp), (hstep.leaves_of_mem_edits hedit).eq_of_mem_edits hedit⟩

/-- However requests overtake each other, the error strategy answers a request exactly when an
address service failed on it, or when the session let a disposal through that cannot be built. -/
theorem inFlight_raises_iff (sessions : Sessions) (config : Config) {jar : Jar}
    (hclean : Clean jar) (draws : Set SessionDraw) (hapart : sessions.DrawsApart draws)
    (exchanges : Set (Exchange joda)) (hdraws : ∀ exchange ∈ exchanges, exchange.draw ∈ draws)
    (hlong : ∀ exchange ∈ exchanges, ReadsLong exchange)
    (s : Snapshots.Network Jar (List Cookie) (Served joda))
    (hreach : Snapshots.Reachable (sessions.traffic config exchanges) jar s)
    (before : List (Served joda)) (entry : Served joda) (after : List (Served joda))
    (hserved : s.served = before ++ entry :: after) :
    ∃ sessionSecretKey requestCookies, sessions.secretServed entry = some sessionSecretKey ∧
      sessions.admitted entry.exchange.draw entry.request = .ok requestCookies ∧
      AllStored (sessions.Wrote config after sessionSecretKey)
        (sessions.applicationData requestCookies) ∧
      ∀ cause, sessions.ends config entry = .error cause ↔
        Raises (sessions.applicationData requestCookies) entry.exchange cause := by
  have hsafe := hreach.safe (traffic_keeps hapart hdraws) (jarInvariant_of_clean hclean)
  have hanswered : AllAnswered sessions config after := by
    have hall := AllAnswered.of_reachable hclean hapart hdraws hreach
    rw [hserved] at hall
    exact hall.of_append
  obtain ⟨hexchange, hrequest⟩ := hsafe.served before entry after hserved
  obtain ⟨sessionSecretKey, trackingId, requestCookies, cookies, hadmitted⟩ :=
    hapart.exists_admittedIn (hdraws _ hexchange) hrequest.whole
  obtain ⟨data, hcoded, hwrote⟩ := hrequest.coded sessionSecretKey hadmitted.mem_secrets
  have hdata : HoldsTriggerDate data := by
    refine hanswered.holdsTriggerDate ?_ hwrote
    intro other hother
    obtain ⟨before', after', rfl⟩ := List.append_of_mem hother
    exact hlong _ (hsafe.served (before ++ entry :: before') other after'
      (by simp [hserved])).mem_exchanges
  obtain rfl : sessions.applicationData requestCookies = data :=
    Found.applicationData_eq hadmitted.found (hadmitted.coded hcoded)
  refine ⟨sessionSecretKey, requestCookies, hadmitted.secretServed_eq,
    hadmitted.passes.admitted_eq, hwrote, fun cause => ?_⟩
  rw [hadmitted.passes.ends_error_iff, hadmitted.runAction_error_iff hapart, Sessions.outcome,
    ofJar_eq_ofData hadmitted.found (hadmitted.coded hcoded)]
  exact handle_error_iff hdata

end Traffic

section Dealer

open Dealer

/-- A disposal that is sent together with the lookup of the vehicle. -/
theorem inFlight_raises_iff_sendsAtOnce :
    ∃ sessionSecretKey requestCookies,
      (Sessions.encrypted (productionFactory (Equiv.refl _))).secretServed ⟨∅, disposes⟩ =
        some sessionSecretKey ∧
      (Sessions.encrypted (productionFactory (Equiv.refl _))).admitted zeroDraw ∅ =
        .ok requestCookies ∧
      AllStored ((Sessions.encrypted (productionFactory (Equiv.refl _))).Wrote {}
        [⟨∅, looksUp "1" "A1" found⟩] sessionSecretKey)
        ((Sessions.encrypted (productionFactory (Equiv.refl _))).applicationData requestCookies) ∧
      ∀ cause, (Sessions.encrypted (productionFactory (Equiv.refl _))).ends {} ⟨∅, disposes⟩ =
        .error cause ↔ Raises ((Sessions.encrypted
          (productionFactory (Equiv.refl _))).applicationData requestCookies) disposes cause :=
  inFlight_raises_iff (.encrypted (productionFactory (Equiv.refl _))) {} (fun _ _ => rfl)
    {zeroDraw} drawsApart_zeroDraw {looksUp "1" "A1" found, disposes}
    (by rintro exchange (rfl | rfl) <;> rfl)
    (by rintro exchange (rfl | rfl) <;> exact ⟨by decide, by decide⟩) (sendsAtOnce _ _ _)
    (sendsAtOnce_reachable _ _ _) [] ⟨∅, disposes⟩ [⟨∅, looksUp "1" "A1" found⟩] rfl

end Dealer

end VehiclesOnline
