import VehiclesOnline.Library.Log
import VehiclesOnline.Wizard.Simulation
import VehiclesOnline.Wizard.Vehicle

/-! # The vehicle that is disposed of

Over every run of requests: the vehicle that the user confirmed is the one that is disposed
of, and it is disposed of once. Both hold as long as the user does not submit the dispose form
after a lookup without a vehicle, and does not have the way to the dispose page reopened. -/

namespace VehiclesOnline

open Transition (Along recording final outputs)
open Log (Followed Guarded)

variable {joda : Joda}

/-! ### What the calls of a run tell -/

namespace ServiceCall

def answeredLookup : ServiceCall → Option (VehicleDetailsRequest × Answer VehicleDetailsResponse)
  | vehicleLookup request _ (.ok answer) => some (request, answer)
  | _ => none

def FindsVehicle : ServiceCall → Prop
  | vehicleLookup _ _ (.ok answer) => foundVehicle answer ≠ none
  | _ => False

def Disposes : ServiceCall → Prop
  | dispose _ _ _ => True
  | _ => False

/-- A disposal for which the service returned a response. -/
def DisposesAnswered : ServiceCall → Prop
  | dispose _ _ (.ok _) => True
  | _ => False

end ServiceCall

/-- The lookups that were answered, oldest first. -/
def answeredLookups (calls : List ServiceCall) :
    List (VehicleDetailsRequest × Answer VehicleDetailsResponse) :=
  calls.filterMap ServiceCall.answeredLookup

def lastLookup (calls : List ServiceCall) :
    Option (VehicleDetailsRequest × Answer VehicleDetailsResponse) :=
  (answeredLookups calls).getLast?

/-- The last answered lookup of exactly the pair of a disposal. -/
def lastLookupOf (disposal : DisposeRequest) (calls : List ServiceCall) :
    Option (VehicleDetailsRequest × Answer VehicleDetailsResponse) :=
  ((answeredLookups calls).filter fun lookup =>
    lookup.1.referenceNumber = disposal.referenceNumber ∧
      lookup.1.registrationNumber = disposal.registrationNumber).getLast?

/-- The last lookup that was answered found a vehicle. -/
def LastFound (calls : List ServiceCall) : Prop :=
  ∃ lookup dto, lastLookup calls = some lookup ∧ foundVehicle lookup.2 = some dto

section Calls

variable {calls calls' : List ServiceCall}

theorem answeredLookups_of_routine (h : ∀ call ∈ calls', call.Routine) :
    answeredLookups (calls ++ calls') = answeredLookups calls := by
  have hnone : answeredLookups calls' = [] := by
    rw [answeredLookups, List.filterMap_eq_nil_iff]
    intro call hc
    have hroutine := h call hc
    cases call with
    | vehicleLookup request trackingId answer =>
        cases answer with
        | ok answer => exact hroutine.elim
        | error cause => rfl
    | _ => rfl
  rw [answeredLookups, List.filterMap_append, ← answeredLookups, ← answeredLookups, hnone,
    List.append_nil]

theorem lastLookup_of_routine (h : ∀ call ∈ calls', call.Routine) :
    lastLookup (calls ++ calls') = lastLookup calls := by
  rw [lastLookup, answeredLookups_of_routine h, lastLookup]

theorem lastLookup_concat (lookup : VehicleDetailsRequest) (trackingId : String)
    (answer : Answer VehicleDetailsResponse) :
    lastLookup (calls ++ [.vehicleLookup lookup trackingId (.ok answer)]) =
      some (lookup, answer) := by
  rw [lastLookup, answeredLookups, List.filterMap_append]
  exact List.getLast?_concat

theorem lastLookup_dispose (disposal : DisposeRequest) (trackingId : String)
    (answer : Except Throwable (Answer DisposeResponse)) :
    lastLookup (calls ++ [.dispose disposal trackingId answer]) = lastLookup calls := by
  rw [lastLookup, answeredLookups, List.filterMap_append]
  simp [ServiceCall.answeredLookup, lastLookup, answeredLookups]

/-- If the last lookup was of the pair of a disposal, it was the last one of that pair. -/
theorem lastLookupOf_eq {disposal : DisposeRequest}
    {lookup : VehicleDetailsRequest × Answer VehicleDetailsResponse}
    (h : lastLookup calls = some lookup)
    (hreference : lookup.1.referenceNumber = disposal.referenceNumber)
    (hregistration : lookup.1.registrationNumber = disposal.registrationNumber) :
    lastLookupOf disposal calls = some lookup := by
  obtain ⟨before, hbefore⟩ := List.getLast?_eq_some_iff.mp h
  rw [lastLookupOf, hbefore, List.filter_append]
  simp [hreference, hregistration]

end Calls

/-! ### The vehicle confirmed -/

/-- The session follows the last answered lookup. -/
def Tracks (calls : List ServiceCall) (data : ApplicationData) : Prop :=
  ∀ model, data .vehicleLookupFormModel = some model →
    ∃ lookup, lastLookup calls = some lookup ∧
      lookup.1.referenceNumber = model.referenceNumber ∧
      lookup.1.registrationNumber = model.registrationNumber ∧
      ∀ dto, foundVehicle lookup.2 = some dto →
        data .vehicleLookupDetails = some (VehicleDetailsModel.fromDto dto)

theorem Tracks.step {request : Request} {calls calls' : List ServiceCall}
    {data data' : ApplicationData} (h : Tracks calls data)
    (hstep : VehicleStep request data calls' data') : Tracks (calls ++ calls') data' := by
  intro model hmodel
  cases hstep with
  | untouched hcalls hdata =>
      rw [lastLookup_of_routine hcalls, hdata.vehicleLookupDetails]
      exact h model (hdata.vehicleLookupFormModel.symm.trans hmodel)
  | forgotten hcalls hdata =>
      rw [hdata.2] at hmodel
      cases hmodel
  | allowed hrequest hbarred hdetails hform =>
      rw [List.append_nil, hdetails]
      exact h model (hform.symm.trans hmodel)
  | lookedUp hbefore hform hfound =>
      rw [hform] at hmodel
      cases hmodel
      rw [← List.append_assoc, lastLookup_concat]
      exact ⟨_, rfl, rfl, rfl, hfound⟩
  | disposed hrequest hvalid hopen htrader hpair hreference hregistration hdetails hform =>
      rw [lastLookup_dispose, hdetails]
      exact h model (hform.symm.trans hmodel)

/-! ### One disposal for each vehicle found -/

/-- Between a disposal that the service answered and the next one, a lookup found a vehicle. -/
def DisposesOnce (calls : List ServiceCall) : Prop :=
  Guarded ServiceCall.Disposes (Followed ServiceCall.DisposesAnswered ServiceCall.FindsVehicle)
    calls

/-- As long as no vehicle was found since the last disposal, the way to the next one is barred:
by the flag, for want of a stored lookup, or because the last lookup found nothing. -/
structure Bars (calls : List ServiceCall) (data : ApplicationData) : Prop where
  disposesOnce : DisposesOnce calls
  barred : Followed ServiceCall.DisposesAnswered ServiceCall.FindsVehicle calls ∨
    data .preventGoingToDisposePage ≠ none ∨ data .vehicleLookupFormModel = none ∨
    ¬ LastFound calls

theorem not_disposes_of_routine {calls : List ServiceCall} (h : ∀ call ∈ calls, call.Routine) :
    ∀ call ∈ calls, ¬ call.Disposes := by
  intro call hc hdisposes
  cases call with
  | dispose disposal trackingId answer => exact h _ hc
  | _ => exact hdisposes

theorem ServiceCall.DisposesAnswered.disposes {call : ServiceCall} (h : call.DisposesAnswered) :
    call.Disposes := by
  cases call with
  | dispose disposal trackingId answer => trivial
  | _ => exact h

theorem not_disposesAnswered_of_routine {calls : List ServiceCall}
    (h : ∀ call ∈ calls, call.Routine) : ∀ call ∈ calls, ¬ call.DisposesAnswered :=
  fun call hc hanswered => not_disposes_of_routine h call hc hanswered.disposes

theorem lastFound_of_routine {calls calls' : List ServiceCall}
    (h : ∀ call ∈ calls', call.Routine) : LastFound (calls ++ calls') ↔ LastFound calls := by
  rw [LastFound, lastLookup_of_routine h, LastFound]

/-- Routine calls keep the way barred if they keep the flag and the stored lookup, or if they
remove the lookup. -/
theorem Bars.routine {calls calls' : List ServiceCall} {data data' : ApplicationData}
    (h : Bars calls data) (hcalls : ∀ call ∈ calls', call.Routine)
    (hdata : Untouched data data' ∨ Forgotten data') : Bars (calls ++ calls') data' where
  disposesOnce := h.disposesOnce.append (not_disposes_of_routine hcalls)
  barred := by
    rcases hdata with hdata | hdata
    · rw [hdata.preventGoingToDisposePage, hdata.vehicleLookupFormModel,
        lastFound_of_routine hcalls]
      exact h.barred.imp_left fun hf => hf.append (not_disposesAnswered_of_routine hcalls)
    · exact .inr (.inr (.inl hdata.2))

/-- After an answered lookup a vehicle was found, or the last lookup found nothing. -/
theorem Bars.lookup {calls before : List ServiceCall} {data data' : ApplicationData}
    (h : Bars calls data) (hbefore : ∀ call ∈ before, call.Routine)
    (lookup : VehicleDetailsRequest) (trackingId : String)
    (answer : Answer VehicleDetailsResponse) :
    Bars (calls ++ (before ++ [.vehicleLookup lookup trackingId (.ok answer)])) data' where
  disposesOnce := by
    rw [← List.append_assoc]
    exact Log.guarded_concat.mpr
      ⟨h.disposesOnce.append (not_disposes_of_routine hbefore), fun hd => hd.elim⟩
  barred := by
    rw [← List.append_assoc]
    cases hfound : foundVehicle answer with
    | some dto =>
        refine .inl (Log.followed_concat.mpr ⟨fun hd => hd.elim, .inl ?_⟩)
        exact fun hnone => Option.some_ne_none dto (hfound.symm.trans hnone)
    | none =>
        refine .inr (.inr (.inr ?_))
        rintro ⟨found, dto, hlast, hdto⟩
        rw [lastLookup_concat] at hlast
        cases hlast
        rw [hfound] at hdto
        cases hdto

/-- A disposal that was let through bars the way, if it was answered. -/
theorem Bars.disposal {calls : List ServiceCall} {data data' : ApplicationData}
    (h : Bars calls data) (hopen : data .preventGoingToDisposePage = none)
    (hmodel : data .vehicleLookupFormModel ≠ none) (hfound : LastFound calls)
    (disposal : DisposeRequest) (trackingId : String)
    {answer : Except Throwable (Answer DisposeResponse)}
    (hbarred : ∀ response, answer = .ok response → data' .preventGoingToDisposePage ≠ none) :
    Bars (calls ++ [.dispose disposal trackingId answer]) data' := by
  have hfollowed : Followed ServiceCall.DisposesAnswered ServiceCall.FindsVehicle calls := by
    rcases h.barred with hf | hf | hf | hf
    · exact hf
    · exact absurd hopen hf
    · exact absurd hf hmodel
    · exact absurd hfound hf
  refine ⟨Log.guarded_concat.mpr ⟨h.disposesOnce, fun _ => hfollowed⟩, ?_⟩
  cases answer with
  | ok response => exact .inr (.inl (hbarred response rfl))
  | error cause => exact .inl (Log.followed_concat.mpr ⟨id, .inr hfollowed⟩)

/-! ### Runs -/

section Runs

variable (sessions : Sessions) (config : Config)

/-- The dispose form is not submitted after a lookup that was answered without a vehicle, while
nothing else is in the way. -/
def SubmitsFoundVehicle (state : Jar × List Reply) (exchange : Exchange joda) : Prop :=
  ∀ form validForm, exchange.request = .disposeSubmit form → form.valid = some validForm →
    sessions.applicationData state.1 .preventGoingToDisposePage = none →
    sessions.applicationData state.1 .traderDetails ≠ none →
    sessions.applicationData state.1 .vehicleLookupFormModel ≠ none →
    LastFound (state.2.flatMap Reply.calls)

/-- The dispose page is not requested while the flag bars it, unless no lookup is stored. -/
def KeepsBarred (state : Jar × List Reply) (exchange : Exchange joda) : Prop :=
  exchange.request = .disposePresent →
    sessions.applicationData state.1 .preventGoingToDisposePage = none ∨
      sessions.applicationData state.1 .vehicleLookupFormModel = none

/-- Every disposal is of a pair whose last lookup found the vehicle of the session. -/
def DisposesConfirmedVehicle (state : Jar × List Reply) (exchange : Exchange joda) : Prop :=
  ∀ disposal trackingId answer,
    .dispose disposal trackingId answer ∈ (sessions.serve config state.1 exchange).2.calls →
    ∃ lookup dto, lastLookupOf disposal (state.2.flatMap Reply.calls) = some lookup ∧
      foundVehicle lookup.2 = some dto ∧
      sessions.applicationData state.1 .vehicleLookupDetails =
        some (VehicleDetailsModel.fromDto dto)

/-- The jar holds data that meets a condition, with the calls so far. -/
def HoldsWith (P : List ServiceCall → ApplicationData → Prop) (state : Jar × List Reply) : Prop :=
  ∃ data, Holds sessions state.1 data ∧ P (state.2.flatMap Reply.calls) data

variable {sessions} {jar : Jar} {state : Jar × List Reply} {data : ApplicationData}
variable {exchange : Exchange joda} {P : List ServiceCall → ApplicationData → Prop}

theorem serve_step (h : Holds sessions jar data) (hapart : sessions.Apart exchange.draw) :
    ∃ data', Holds sessions (sessions.serve config jar exchange).1 data' ∧
      VehicleStep exchange.request data (sessions.serve config jar exchange).2.calls data' := by
  obtain ⟨trackingId, hholds, hreply⟩ := serve_simulates config h hapart
  refine ⟨_, hholds, ?_⟩
  rw [hreply]
  exact wizard_step sessions.kind config trackingId data exchange

/-- What the steps of the vehicle preserve, with the calls so far, the steps of a run do. -/
theorem HoldsWith.step (h : HoldsWith sessions P state) (hapart : sessions.Apart exchange.draw)
    (hstep : ∀ data calls' data', Holds sessions state.1 data →
      P (state.2.flatMap Reply.calls) data → VehicleStep exchange.request data calls' data' →
      P (state.2.flatMap Reply.calls ++ calls') data') :
    HoldsWith sessions P (recording (sessions.serve config) state exchange).1 := by
  obtain ⟨data, hholds, hp⟩ := h
  obtain ⟨data', hholds', hvehicle⟩ := serve_step config hholds hapart
  refine ⟨data', hholds', ?_⟩
  have hcalls : (recording (sessions.serve config) state exchange).1.2.flatMap Reply.calls =
      state.2.flatMap Reply.calls ++ (sessions.serve config state.1 exchange).2.calls := by
    simp [recording]
  rw [hcalls]
  exact hstep data _ data' hholds hp hvehicle

theorem disposesConfirmedVehicle_of_tracks (h : HoldsWith sessions Tracks state)
    (hapart : sessions.Apart exchange.draw)
    (hsubmits : SubmitsFoundVehicle sessions state exchange) :
    DisposesConfirmedVehicle sessions config state exchange := by
  intro disposal trackingId answer hmem
  obtain ⟨data, hholds, htracks⟩ := h
  obtain ⟨data', hholds', hstep⟩ := serve_step config hholds hapart
  rw [SubmitsFoundVehicle, hholds.applicationData_eq] at hsubmits
  rw [hholds.applicationData_eq]
  generalize (sessions.serve config state.1 exchange).2.calls = calls at hmem hstep
  have hroutine : ∀ calls' : List ServiceCall, (∀ call ∈ calls', call.Routine) →
      .dispose disposal trackingId answer ∉ calls' := fun calls' hcalls hc => hcalls _ hc
  cases hstep with
  | untouched hcalls => exact absurd hmem (hroutine _ hcalls)
  | forgotten hcalls => exact absurd hmem (hroutine _ hcalls)
  | allowed => exact absurd hmem List.not_mem_nil
  | lookedUp hbefore =>
      rcases List.mem_append.mp hmem with hmem | hmem
      · exact absurd hmem (hroutine _ hbefore)
      · cases List.mem_singleton.mp hmem
  | disposed hrequest hvalid hopen htrader hmodel hreference hregistration =>
      cases List.mem_singleton.mp hmem
      obtain ⟨found, dto, hlast, hfound⟩ := hsubmits _ _ hrequest hvalid hopen htrader
        (by rw [hmodel]; exact Option.some_ne_none _)
      obtain ⟨lookup, hlookup, href, hreg, hdetails⟩ := htracks _ hmodel
      rw [hlast] at hlookup
      cases hlookup
      refine ⟨found, dto, ?_, hfound, hdetails dto hfound⟩
      exact lastLookupOf_eq hlast (href.trans hreference.symm) (hreg.trans hregistration.symm)

theorem bars_step (h : HoldsWith sessions Bars state) (hapart : sessions.Apart exchange.draw)
    (hsubmits : SubmitsFoundVehicle sessions state exchange)
    (hkeeps : KeepsBarred sessions state exchange) :
    HoldsWith sessions Bars (recording (sessions.serve config) state exchange).1 := by
  refine h.step config hapart fun data calls data' hholds hbars hstep => ?_
  rw [SubmitsFoundVehicle, hholds.applicationData_eq] at hsubmits
  rw [KeepsBarred, hholds.applicationData_eq] at hkeeps
  cases hstep with
  | untouched hcalls hdata => exact hbars.routine hcalls (.inl hdata)
  | forgotten hcalls hdata => exact hbars.routine hcalls (.inr hdata)
  | allowed hrequest hbarred hdetails hform =>
      -- the flag is gone, but there is no lookup to submit
      have hnone := (hkeeps hrequest).resolve_left hbarred
      rw [List.append_nil]
      exact ⟨hbars.disposesOnce, .inr (.inr (.inl (hform.trans hnone)))⟩
  | lookedUp hbefore => exact hbars.lookup hbefore _ _ _
  | disposed hrequest hvalid hopen htrader hmodel hreference hregistration hdetails hform hbarred =>
      have hsome : data .vehicleLookupFormModel ≠ none := by
        rw [hmodel]
        exact Option.some_ne_none _
      exact hbars.disposal hopen hsome (hsubmits _ _ hrequest hvalid hopen htrader hsome) _ _
        hbarred

end Runs

/-! ### A dealer at noon -/

namespace Dealer

def noon : DateService utc where
  dateTimeNow := ⟨2014, 9, 1, 12, 0, by decide, by decide, by decide, by decide, by decide⟩
  nowMillis := 1409572800000
  dateTimeISOChronology := "2014-09-01T12:00:00.000Z"

/-- Services that let everyone through, accept every disposal, and answer a lookup as given. -/
def services (response : VehicleDetailsResponse) : Environment utc where
  callBruteForce := .ok { status := 200, json := .ok (some { attempts := 0 }) }
  callVehicleLookupService := .ok { status := 200, json := .ok (some response) }
  callDisposeService := .ok
    { status := 200
      json := .ok (some { transactionId := "1", registrationNumber := "A1", auditId := "1" }) }
  fetchAddressesForPostcode := .ok []
  fetchAddressForUprn := .ok (some { address := ["1 High Street", "Town", "AA11AA"] })
  dateService := noon
  dateServiceAfterCall := noon

def found : VehicleDetailsResponse := ⟨none, some ⟨"A1", "Make", "Model"⟩⟩

def notFound : VehicleDetailsResponse := ⟨some "vehicle_lookup_vrm_not_found", none⟩

def sends (request : Request) (response : VehicleDetailsResponse) : Exchange utc where
  request := request
  environment := services response
  draw := ⟨fun _ => 0, fun _ => 0⟩
  random _ _ := 0

def entersDetails : List (Exchange utc) :=
  [sends (.setUpTradeDetailsSubmit { value := some ⟨"Dealer", "AA11AA"⟩ }) found,
    sends (.businessChooseYourAddressSubmit { value := some ⟨"1"⟩ }) found]

def looksUp (referenceNumber registrationNumber : String) (response : VehicleDetailsResponse) :
    Exchange utc :=
  sends (.vehicleLookupSubmit { value := some ⟨referenceNumber, registrationNumber⟩ }) response

def asksForDisposePage : Exchange utc := sends .disposePresent found

def disposes : Exchange utc :=
  sends (.disposeSubmit
    { value := some
        { mileage := none
          dateOfDisposal := { day := 1, month := 9, year := 2014 }
          consent := "true"
          lossOfRegistrationConsent := "true" } }) found

/-- A run from a browser without cookies, in sessions of clear text. -/
theorem run (exchanges : List (Exchange utc)) :
    ∃ trackingIds : List String, trackingIds.length = exchanges.length ∧
      Holds (.clearText noCookieFlags)
        (final ((Sessions.clearText noCookieFlags).serve {}) ∅ exchanges)
        (final (wizardRun .clearText {}) (fun _ => none) (exchanges.zip trackingIds)) ∧
      outputs ((Sessions.clearText noCookieFlags).serve {}) ∅ exchanges =
        outputs (wizardRun .clearText {}) (fun _ => none) (exchanges.zip trackingIds) :=
  Holds.run {} (.of_clean (fun _ _ => rfl) (.clearText noCookieFlags)) fun _ _ => trivial

end Dealer

/-! ### The two results -/

/-- In every run the vehicle that is disposed of is the one that was found and shown, as long
as the dispose form is not submitted after a lookup without a vehicle. -/
theorem vehicle_confirmed_of_submitsFoundVehicle (sessions : Sessions) (config : Config)
    {jar : Jar} (hclean : Clean jar) {exchanges : List (Exchange joda)}
    (hapart : ∀ exchange ∈ exchanges, sessions.Apart exchange.draw)
    (hsubmits : Along (recording (sessions.serve config)) (SubmitsFoundVehicle sessions) (jar, [])
      exchanges) :
    Along (recording (sessions.serve config)) (DisposesConfirmedVehicle sessions config) (jar, [])
      exchanges := by
  have hstart : HoldsWith sessions Tracks (jar, []) :=
    ⟨fun _ => none, .of_clean hclean sessions, by rintro model ⟨⟩⟩
  refine Along.of_invariant ?_ ?_ hstart
    (hsubmits.and (Transition.along_of_forall _ fun _ => hapart))
  · intro state exchange htracks hcondition
    exact htracks.step config hcondition.2 fun _ _ _ _ h hstep => h.step hstep
  · intro state exchange htracks hcondition
    exact disposesConfirmedVehicle_of_tracks config htracks hcondition.2 hcondition.1

section Dealer

open Dealer

/-- A vehicle is looked up and found before the form is submitted. -/
theorem submitsFoundVehicle_dealer :
    Along (recording ((Sessions.clearText noCookieFlags).serve {}))
      (SubmitsFoundVehicle (.clearText noCookieFlags)) (∅, [])
      (entersDetails ++ [looksUp "1" "A1" found] ++ [disposes]) := by
  obtain ⟨trackingIds, hlength, -, houtputs⟩ := run (entersDetails ++ [looksUp "1" "A1" found])
  refine (Transition.along_append _).mpr ⟨?_, ?_, trivial⟩
  · refine Transition.along_of_forall _ fun state exchange hmem form validForm hrequest => ?_
    simp only [entersDetails, List.cons_append, List.nil_append, List.mem_cons,
      List.not_mem_nil, or_false] at hmem
    rcases hmem with rfl | rfl | rfl <;> cases hrequest
  · rw [Transition.final_recording]
    intro form validForm _ _ _ _ _
    rw [List.nil_append, houtputs]
    obtain ⟨a, b, c, rfl⟩ := List.length_eq_three.mp hlength
    exact ⟨_, _, rfl, rfl⟩

theorem vehicle_confirmed_of_submitsFoundVehicle_dealer :
    Along (recording ((Sessions.clearText noCookieFlags).serve {}))
      (DisposesConfirmedVehicle (.clearText noCookieFlags) {}) (∅, [])
      (entersDetails ++ [looksUp "1" "A1" found] ++ [disposes]) :=
  vehicle_confirmed_of_submitsFoundVehicle (.clearText noCookieFlags) {} (fun _ _ => rfl)
    (fun _ _ => trivial) submitsFoundVehicle_dealer

/-- The calls of a run in which the form follows a lookup without a vehicle. -/
theorem calls_of_notFound (a b c d e : String) :
    let inputs := (entersDetails ++ [looksUp "1" "A1" found, looksUp "2" "B1" notFound]).zip
      [a, b, c, d]
    ∃ before lookup disposal answer,
      (outputs (wizardRun .clearText {}) (fun _ => none) inputs).flatMap Reply.calls =
        before ++ [.vehicleLookup lookup d (.ok (200, some notFound))] ∧
      (wizardRun .clearText {} (final (wizardRun .clearText {}) (fun _ => none) inputs)
        (disposes, e)).2.calls = [.dispose disposal e answer] ∧
      lookup.referenceNumber = disposal.referenceNumber ∧
      lookup.registrationNumber = disposal.registrationNumber :=
  ⟨[_, _, _, _], _, _, _, rfl, rfl, rfl, rfl⟩

/-- A vehicle is found, then another one is not: the form disposes of the other one. -/
theorem vehicle_not_confirmed :
    ¬ Along (recording ((Sessions.clearText noCookieFlags).serve {}))
      (DisposesConfirmedVehicle (.clearText noCookieFlags) {}) (∅, [])
      (entersDetails ++ [looksUp "1" "A1" found, looksUp "2" "B1" notFound] ++ [disposes]) := by
  intro h
  have hlast := ((Transition.along_append _).mp h).2.1
  obtain ⟨trackingIds, hlength, hholds, houtputs⟩ :=
    run (entersDetails ++ [looksUp "1" "A1" found, looksUp "2" "B1" notFound])
  rw [Transition.final_recording, List.nil_append, houtputs] at hlast
  obtain ⟨a, b, c, d, rfl⟩ := List.length_eq_four.mp hlength
  obtain ⟨e, -, hreply⟩ : ∃ e, Holds (.clearText noCookieFlags) _ _ ∧
      ((Sessions.clearText noCookieFlags).serve {} _ disposes).2 = _ :=
    serve_simulates {} hholds trivial
  obtain ⟨before, lookup, disposal, answer, hbefore, hcalls, hreference, hregistration⟩ :=
    calls_of_notFound a b c d e
  obtain ⟨lookup', dto, hlookup, hfound, -⟩ := hlast disposal e answer (by
    rw [hreply]
    exact hcalls ▸ List.mem_singleton_self _)
  rw [hbefore, lastLookupOf_eq (lastLookup_concat lookup d _) hreference hregistration]
    at hlookup
  cases hlookup
  cases hfound

/-- In every run there is a lookup that found a vehicle between a disposal that was answered and
the next one, as long as the dispose page is not requested to remove the flag, either. -/
theorem disposes_once (sessions : Sessions) (config : Config) {jar : Jar} (hclean : Clean jar)
    {exchanges : List (Exchange joda)}
    (hapart : ∀ exchange ∈ exchanges, sessions.Apart exchange.draw)
    (hcondition : Along (recording (sessions.serve config)) (fun state exchange =>
      SubmitsFoundVehicle sessions state exchange ∧ KeepsBarred sessions state exchange) (jar, [])
      exchanges) :
    DisposesOnce ((outputs (sessions.serve config) jar exchanges).flatMap Reply.calls) := by
  have hstart : HoldsWith sessions Bars (jar, []) :=
    ⟨fun _ => none, .of_clean hclean sessions, Log.guarded_nil, .inr (.inr (.inl rfl))⟩
  have hend : HoldsWith sessions Bars
      (Transition.final (recording (sessions.serve config)) (jar, []) exchanges) := by
    refine Along.invariant_final ?_ hstart
      (hcondition.and (Transition.along_of_forall _ fun _ => hapart))
    intro state exchange hbars h
    exact bars_step config hbars h.2 h.1.1 h.1.2
  rw [Transition.final_recording] at hend
  obtain ⟨data, -, hbars⟩ := hend
  exact hbars.disposesOnce

/-- A vehicle is disposed of, another one is looked up, and it is disposed of, too. -/
def disposesOfTwo : List (Exchange utc) :=
  (entersDetails ++ [looksUp "1" "A1" found] ++ [disposes]) ++
    [sends .disposeSuccessNewDisposal found, looksUp "2" "B1" found] ++ [disposes]

theorem submitsFoundVehicle_disposesOfTwo :
    Along (recording ((Sessions.clearText noCookieFlags).serve {}))
      (SubmitsFoundVehicle (.clearText noCookieFlags)) (∅, []) disposesOfTwo := by
  obtain ⟨trackingIds, hlength, -, houtputs⟩ := run
    ((entersDetails ++ [looksUp "1" "A1" found] ++ [disposes]) ++
      [sends .disposeSuccessNewDisposal found, looksUp "2" "B1" found])
  refine (Transition.along_append _).mpr ⟨(Transition.along_append _).mpr
    ⟨submitsFoundVehicle_dealer, ?_⟩, ?_, trivial⟩
  · refine Transition.along_of_forall _ fun state exchange hmem form validForm hrequest => ?_
    rcases List.mem_pair.mp hmem with rfl | rfl <;> cases hrequest
  · rw [Transition.final_recording]
    intro form validForm _ _ _ _ _
    rw [List.nil_append, houtputs]
    obtain ⟨a, _, rfl⟩ := List.exists_of_length_succ trackingIds hlength
    obtain ⟨b, _, rfl⟩ := List.exists_of_length_succ _ (Nat.succ.inj hlength)
    obtain ⟨c, d, e, f, rfl⟩ := List.length_eq_four.mp (Nat.succ.inj (Nat.succ.inj hlength))
    exact ⟨_, _, rfl, rfl⟩

/-- Between the two disposals there is the lookup of the other vehicle. -/
theorem disposes_once_dealer :
    DisposesOnce ((outputs ((Sessions.clearText noCookieFlags).serve {}) ∅
        disposesOfTwo).flatMap Reply.calls) ∧
      ∃ before disposal trackingId answer between disposal' trackingId' answer',
        (outputs ((Sessions.clearText noCookieFlags).serve {}) ∅
            disposesOfTwo).flatMap Reply.calls =
          before ++ .dispose disposal trackingId answer ::
            (between ++ [.dispose disposal' trackingId' answer']) := by
  refine ⟨?_, ?_⟩
  · refine disposes_once (.clearText noCookieFlags) {} (fun _ _ => rfl) (fun _ _ => trivial)
      (submitsFoundVehicle_disposesOfTwo.and ?_)
    refine Transition.along_of_forall _ fun state exchange hmem hrequest => ?_
    simp only [disposesOfTwo, entersDetails, List.cons_append, List.nil_append, List.mem_cons,
      List.not_mem_nil, or_false] at hmem
    rcases hmem with rfl | rfl | rfl | rfl | rfl | rfl | rfl <;> cases hrequest
  · obtain ⟨trackingIds, hlength, -, houtputs⟩ := run disposesOfTwo
    rw [houtputs]
    obtain ⟨a, _, rfl⟩ := List.exists_of_length_succ trackingIds hlength
    obtain ⟨b, _, rfl⟩ := List.exists_of_length_succ _ (Nat.succ.inj hlength)
    obtain ⟨c, _, rfl⟩ := List.exists_of_length_succ _ (Nat.succ.inj (Nat.succ.inj hlength))
    obtain ⟨d, e, f, g, rfl⟩ := List.length_eq_four.mp
      (Nat.succ.inj (Nat.succ.inj (Nat.succ.inj hlength)))
    exact ⟨[_, _, _], _, _, _, [_, _], _, _, _, rfl⟩

/-- The vehicle is found once, and disposed of, the dispose page removes the flag, and the form
disposes of it again. -/
theorem disposes_twice :
    ¬ DisposesOnce ((outputs ((Sessions.clearText noCookieFlags).serve {}) ∅
      (entersDetails ++ [looksUp "1" "A1" found] ++
        [disposes, asksForDisposePage, disposes])).flatMap Reply.calls) := by
  intro h
  obtain ⟨trackingIds, hlength, -, houtputs⟩ := run (entersDetails ++ [looksUp "1" "A1" found] ++
    [disposes, asksForDisposePage, disposes])
  rw [houtputs] at h
  obtain ⟨a, _, rfl⟩ := List.exists_of_length_succ trackingIds hlength
  obtain ⟨b, _, rfl⟩ := List.exists_of_length_succ _ (Nat.succ.inj hlength)
  obtain ⟨c, d, e, f, rfl⟩ := List.length_eq_four.mp (Nat.succ.inj (Nat.succ.inj hlength))
  have hfollowed := h [_, _, _, _] _ [] rfl trivial
  obtain ⟨call, hcall, -⟩ := hfollowed [_, _, _] _ [] rfl trivial
  cases hcall

end Dealer

end VehiclesOnline
