import VehiclesOnline.Wizard.Disposal

/-! # Sessions of both kinds are alike

Sessions of clear text and encrypted ones answer every run alike, but for the one action that
names a cookie by the key itself. -/

namespace VehiclesOnline

open Effects (Returns)
open Effects.Outcome (lift_ok_bind)
open Transition (Along Machine outputs)

variable {joda : Joda}

/-- The application with what can be observed of it: the content of the response, and what the
session holds afterwards under every key. -/
def Sessions.observed (sessions : Sessions) (config : Config) :
    Machine Jar (Exchange joda) (Content × ApplicationData) := fun jar exchange =>
  ((sessions.serve config jar exchange).1,
    (sessions.serve config jar exchange).2.content,
    sessions.applicationData (sessions.serve config jar exchange).1)

/-- The session holds what the page that shows the failure of a lookup needs. -/
def HoldsFailure (data : ApplicationData) : Prop :=
  (data .traderDetails).isSome ∧ (data .bruteForcePreventionViewModel).isSome ∧
    (data .vehicleLookupFormModel).isSome ∧ (data .vehicleLookupResponseCode).isSome

/-- The request does not show the failure of a lookup. -/
def ShowsNoFailure (data : ApplicationData) (request : Request) : Prop :=
  request = .vehicleLookupFailurePresent → ¬ HoldsFailure data

/-! ### The tracking id does not matter -/

section EndsAlike

variable {config : Config} {environment : Environment joda} {data : ApplicationData}
variable (trackingId trackingId' : String)

theorem BusinessChooseYourAddress.present_endsAlike :
    (present environment (.ofData trackingId data)).EndsAlike
      (present environment (.ofData trackingId' data)) := by
  simp only [present, RequestCookies.ofData, lift_ok_bind]
  cases data .setupTradeDetails with
  | none => exact .refl _
  | some setupTradeDetailsModel => exact .bind (.call _ _ _) fun addresses => .refl _

theorem BusinessChooseYourAddress.submit_endsAlike (form : Form BusinessChooseYourAddressModel) :
    (submit environment (.ofData trackingId data) form).EndsAlike
      (submit environment (.ofData trackingId' data) form) := by
  simp only [submit, RequestCookies.ofData, lift_ok_bind]
  cases form.valid with
  | none =>
      cases data .setupTradeDetails with
      | none => exact .refl _
      | some setupTradeDetails => exact .bind (.call _ _ _) fun addresses => .refl _
  | some validForm =>
      cases data .setupTradeDetails with
      | none => exact .refl _
      | some setupTradeDetailsModel => exact .bind (.call _ _ _) fun addressViewModel => .refl _

theorem VehicleLookup.submit_endsAlike (form : Form VehicleLookupFormModel) :
    (submit config environment (.ofData trackingId data) form).EndsAlike
      (submit config environment (.ofData trackingId' data) form) := by
  rw [submit, submit]
  cases form.valid with
  | none => exact .refl _
  | some validForm =>
      refine .recover (.bind (.refl _) fun viewModel => ?_) _
      by_cases hpermitted : viewModel.permitted = true
      · rw [if_pos hpermitted, if_pos hpermitted]
        exact .recover (.bind (.call _ _ _) fun answer => .refl _) _
      · rw [if_neg hpermitted, if_neg hpermitted]
        exact .refl _

theorem Dispose.submit_endsAlike (form : Form DisposeFormModel) :
    (submit environment (.ofData trackingId data) form).EndsAlike
      (submit environment (.ofData trackingId' data) form) := by
  simp only [submit, disposeAction, RequestCookies.ofData, RequestCookies.getString, lift_ok_bind]
  cases form.valid with
  | none => exact .refl _
  | some validForm =>
      cases data .preventGoingToDisposePage with
      | some flag => exact .refl _
      | none =>
          cases data .traderDetails with
          | none => exact .refl _
          | some traderDetails =>
              cases data .vehicleLookupFormModel with
              | none => exact .refl _
              | some vehicleLookup =>
                  refine .bind (.refl _) fun disposal => ?_
                  exact .recover (.bind (.call _ _ _) fun answer => .refl _) _

theorem handle_endsAlike (request : Request) :
    (handle config environment (.ofData trackingId data) request).EndsAlike
      (handle config environment (.ofData trackingId' data) request) := by
  cases request with
  | businessChooseYourAddressPresent =>
      exact .map (BusinessChooseYourAddress.present_endsAlike trackingId trackingId') _
  | businessChooseYourAddressSubmit form =>
      exact .map (BusinessChooseYourAddress.submit_endsAlike trackingId trackingId' form) _
  | vehicleLookupSubmit form =>
      exact .map (VehicleLookup.submit_endsAlike trackingId trackingId' form) _
  | disposeSubmit form => exact .map (Dispose.submit_endsAlike trackingId trackingId' form) _
  | _ => exact .refl _

end EndsAlike

/-! ### The kind of the session does not matter -/

section Uniform

variable {config : Config} {environment : Environment joda} {data : ApplicationData}
variable {trackingId : String}

theorem VehicleLookup.submit_uniform (form : Form VehicleLookupFormModel) :
    Returns (submit config environment (.ofData trackingId data) form).result Result.Uniform := by
  rw [submit]
  cases form.valid with
  | none => exact (invalidSubmit_routine form).mono fun _ hr => hr.uniform
  | some validForm =>
      simp only
      rcases bruteForceAndLookup_cases (convertToUpperCaseAndRemoveSpaces validForm) with
        hroutine | ⟨before, lookup, viewModel, status, response, heq, -⟩
      · exact hroutine.returns.mono fun _ hr => hr.uniform
      · rw [heq]
        exact Returns.pure (answeredResult_spec _ viewModel status response .clearText data).2.2

theorem Dispose.present_uniform (cookies : RequestCookies) :
    Returns (present environment cookies) Result.Uniform := by
  refine Returns.bind' fun traderDetails => Returns.bind' fun flag => ?_
  split
  · refine Returns.bind' fun vehicleDetails => ?_
    cases vehicleDetails with
    | none => exact Returns.pure fun _ => rfl
    | some vehicleDetails => exact Returns.bind' fun form => Returns.pure fun _ => rfl
  · exact Returns.pure fun _ => rfl
  · exact Returns.pure fun _ => rfl

theorem Dispose.submit_uniform (form : Form DisposeFormModel) :
    Returns (submit environment (.ofData trackingId data) form).result Result.Uniform := by
  simp only [submit, RequestCookies.ofData, RequestCookies.getString, lift_ok_bind]
  cases form.valid with
  | none => exact (invalidSubmit_routine form _).mono fun _ hr => hr.uniform
  | some validForm =>
      cases data .preventGoingToDisposePage with
      | some flag => exact Returns.pure fun _ => rfl
      | none =>
          rcases disposeAction_cases validForm with
            hroutine | ⟨model, -, -, disposal, answer, r, heq, -, -, hstores⟩
          · exact hroutine.returns.mono fun _ hr => hr.uniform
          · simp only [RequestCookies.ofData] at heq
            simp only [heq]
            exact Returns.pure hstores.uniform

/-- Every action but the one that shows the failure of a lookup edits the session alone. -/
theorem handle_uniform {request : Request} (h : request ≠ .vehicleLookupFailurePresent) :
    Returns (handle config environment (.ofData trackingId data) request).result
      (Response.Meets Result.Uniform) := by
  by_cases hrequest : request.AboutVehicle = true
  · cases request with
    | vehicleLookupSubmit form => exact returns_meets (VehicleLookup.submit_uniform form)
    | disposePresent => exact returns_meets (Dispose.present_uniform _)
    | disposeSubmit form => exact returns_meets (Dispose.submit_uniform form)
    | vehicleLookupFailurePresent => exact absurd rfl h
    | _ => cases hrequest
  · exact (handle_routine (Bool.eq_false_iff.mpr hrequest)).returns.mono fun _ hr =>
      hr.mono fun _ hroutine => hroutine.uniform

theorem settle_uniform {result : Except Throwable Response}
    (h : Returns result (Response.Meets Result.Uniform)) (data : ApplicationData) :
    (settle result).data .clearText data = (settle result).data .encrypted data := by
  cases result with
  | error cause =>
      obtain ⟨exceptionClass, message⟩ := cause
      cases exceptionClass <;> rfl
  | ok response =>
      cases response with
      | discardAllCookies => rfl
      | result r => exact h _ rfl data

theorem VehicleLookupFailure.present_cases :
    (HoldsFailure data ∧ ∃ form viewModel responseCode,
      present (.ofData trackingId data) =
        .ok (displayVehicleLookupFailure form viewModel responseCode)) ∨
    (¬ HoldsFailure data ∧
      present (.ofData trackingId data) = .ok (Result.redirect .setUpTradeDetails)) := by
  simp only [HoldsFailure, present, RequestCookies.ofData, RequestCookies.getString, bind,
    Except.bind]
  cases data .traderDetails with
  | none => exact .inr ⟨by simp, rfl⟩
  | some traderDetails =>
      cases data .bruteForcePreventionViewModel with
      | none => exact .inr ⟨by simp, rfl⟩
      | some viewModel =>
          cases data .vehicleLookupFormModel with
          | none => exact .inr ⟨by simp, rfl⟩
          | some form =>
              cases data .vehicleLookupResponseCode with
              | none => exact .inr ⟨by simp, rfl⟩
              | some responseCode => exact .inl ⟨by simp, form, viewModel, responseCode, rfl⟩

/-- The response code stays in an encrypted session, where its name is not that of the key. -/
theorem data_eq_iff_showsNoFailure (request : Request) :
    let result := (handle config environment (.ofData trackingId data) request).result
    (settle result).data .clearText data = (settle result).data .encrypted data ↔
      ShowsNoFailure data request := by
  intro result
  by_cases hrequest : request = .vehicleLookupFailurePresent
  · subst hrequest
    have hresult : result = (VehicleLookupFailure.present (.ofData trackingId data)).map .result :=
      rfl
    rw [hresult]
    rcases VehicleLookupFailure.present_cases with
      ⟨hholds, form, viewModel, responseCode, hpresent⟩ | ⟨hholds, hpresent⟩
    · rw [hpresent]
      refine iff_of_false (fun heq => ?_) fun h => h rfl hholds
      have hcode : none = data .vehicleLookupResponseCode :=
        congrFun heq .vehicleLookupResponseCode
      obtain ⟨-, -, -, hsome⟩ := hholds
      rw [← hcode] at hsome
      cases hsome
    · rw [hpresent]
      exact iff_of_true rfl fun _ => hholds
  · exact iff_of_true (settle_uniform (handle_uniform hrequest) data)
      fun h => absurd h hrequest

end Uniform

/-! ### Runs -/

section Runs

variable {cookieFlags : CookieFlags} {factory : EncryptedClientSideSessionFactory}
variable {config : Config} {jar jar' : Jar} {exchange : Exchange joda}

/-- Two jars of sessions of both kinds with the same data. -/
def HoldAlike (cookieFlags : CookieFlags) (factory : EncryptedClientSideSessionFactory)
    (jar jar' : Jar) : Prop :=
  ∃ data, Holds (.clearText cookieFlags) jar data ∧ Holds (.encrypted factory) jar' data

theorem HoldAlike.of_clean (h : Clean jar) (h' : Clean jar') :
    HoldAlike cookieFlags factory jar jar' :=
  ⟨fun _ => none, .of_clean h _, .of_clean h' _⟩

/-- One request is answered alike, and leaves the same data, if it shows no failure. -/
theorem observed_step (h : HoldAlike cookieFlags factory jar jar')
    (hapart : (Sessions.encrypted factory).Apart exchange.draw) :
    (((Sessions.clearText cookieFlags).observed config jar exchange).2 =
        ((Sessions.encrypted factory).observed config jar' exchange).2 ↔
      ShowsNoFailure ((Sessions.encrypted factory).applicationData jar') exchange.request) ∧
    (ShowsNoFailure ((Sessions.encrypted factory).applicationData jar') exchange.request →
      HoldAlike cookieFlags factory
        ((Sessions.clearText cookieFlags).observed config jar exchange).1
        ((Sessions.encrypted factory).observed config jar' exchange).1) := by
  obtain ⟨data, hclear, hencrypted⟩ := h
  obtain ⟨trackingId', hencrypted', hreply'⟩ := serve_simulates config hencrypted hapart
  obtain ⟨trackingId, hclear', hreply⟩ : ∃ trackingId, Holds (.clearText cookieFlags)
      ((Sessions.clearText cookieFlags).serve config jar exchange).1 _ ∧ _ :=
    serve_simulates config hclear trivial
  have hends : (handle config exchange.environment (.ofData trackingId' data)
      exchange.request).result = (handle config exchange.environment (.ofData trackingId data)
      exchange.request).result := handle_endsAlike trackingId' trackingId exchange.request
  have hiff : let result := (handle config exchange.environment (.ofData trackingId data)
        exchange.request).result
      (settle result).data .clearText data = (settle result).data .encrypted data ↔
        ShowsNoFailure data exchange.request := data_eq_iff_showsNoFailure exchange.request
  simp only [wizard, hends] at hclear' hreply hencrypted' hreply'
  simp only [Sessions.observed, hreply, hreply', hclear'.applicationData_eq,
    hencrypted'.applicationData_eq, hencrypted.applicationData_eq, Prod.mk.injEq, true_and]
  refine ⟨hiff, fun hshows => ⟨_, hclear', ?_⟩⟩
  exact Eq.mpr (congrArg (Holds _ _) (hiff.mpr hshows)) hencrypted'

theorem final_observed (sessions : Sessions) (config : Config) (jar : Jar)
    (exchanges : List (Exchange joda)) :
    Transition.final (sessions.observed config) jar exchanges =
      Transition.final (sessions.serve config) jar exchanges := rfl

theorem HoldAlike.outputs_eq_iff (h : HoldAlike cookieFlags factory jar jar')
    {exchanges : List (Exchange joda)}
    (hapart : ∀ exchange ∈ exchanges, (Sessions.encrypted factory).Apart exchange.draw) :
    outputs ((Sessions.clearText cookieFlags).observed config) jar exchanges =
        outputs ((Sessions.encrypted factory).observed config) jar' exchanges ↔
      Along ((Sessions.encrypted factory).observed config) (fun jar exchange =>
        ShowsNoFailure ((Sessions.encrypted factory).applicationData jar) exchange.request) jar'
        exchanges := by
  refine Along.outputs_eq_iff (R := HoldAlike cookieFlags factory)
    (A := fun exchange : Exchange joda => (Sessions.encrypted factory).Apart exchange.draw)
    ?_ h hapart
  intro jar jar' exchange h hdraw
  exact observed_step h hdraw

/-- Over every run from a browser without cookies the two kinds of sessions answer alike and
hold the same data after each request exactly when no request shows the failure of a lookup. -/
theorem sessions_alike_iff (cookieFlags : CookieFlags)
    (factory : EncryptedClientSideSessionFactory) (config : Config) {jar jar' : Jar}
    (hclean : Clean jar) (hclean' : Clean jar') {exchanges : List (Exchange joda)}
    (hapart : ∀ exchange ∈ exchanges, (Sessions.encrypted factory).Apart exchange.draw) :
    outputs ((Sessions.clearText cookieFlags).observed config) jar exchanges =
        outputs ((Sessions.encrypted factory).observed config) jar' exchanges ↔
      Along ((Sessions.encrypted factory).observed config) (fun jar exchange =>
        ShowsNoFailure ((Sessions.encrypted factory).applicationData jar) exchange.request) jar'
        exchanges :=
  (HoldAlike.of_clean hclean hclean').outputs_eq_iff hapart

end Runs

section Dealer

open Dealer

def showsFailure : Exchange utc := sends .vehicleLookupFailurePresent notFound

theorem productionFactory_keysApart :
    (productionFactory (Equiv.refl _)).KeysApart (encodeHexString fun _ => 0) :=
  EncryptedClientSideSessionFactory.keysApart_of_nodup (by decide +kernel)

theorem productionFactory_apart : ∀ exchange ∈
    entersDetails ++ [looksUp "2" "B1" notFound] ++ [showsFailure],
    (Sessions.encrypted (productionFactory (Equiv.refl _))).Apart exchange.draw := by
  intro exchange hmem
  simp only [entersDetails, List.cons_append, List.nil_append, List.mem_cons, List.not_mem_nil,
    or_false] at hmem
  rcases hmem with rfl | rfl | rfl | rfl <;> exact productionFactory_keysApart

theorem sessions_alike_iff_dealer :
    outputs ((Sessions.clearText noCookieFlags).observed {}) ∅
        (entersDetails ++ [looksUp "2" "B1" notFound] ++ [showsFailure]) =
      outputs ((Sessions.encrypted (productionFactory (Equiv.refl _))).observed {}) ∅
        (entersDetails ++ [looksUp "2" "B1" notFound] ++ [showsFailure]) ↔
    Along ((Sessions.encrypted (productionFactory (Equiv.refl _))).observed {})
      (fun jar exchange => ShowsNoFailure
        ((Sessions.encrypted (productionFactory (Equiv.refl _))).applicationData jar)
        exchange.request) ∅
      (entersDetails ++ [looksUp "2" "B1" notFound] ++ [showsFailure]) :=
  sessions_alike_iff noCookieFlags (productionFactory (Equiv.refl _)) {} (fun _ _ => rfl)
    (fun _ _ => rfl) productionFactory_apart

/-- A vehicle is not found, and the page says so: the encrypted session keeps the code. -/
theorem sessions_not_alike :
    outputs ((Sessions.clearText noCookieFlags).observed {}) ∅
        (entersDetails ++ [looksUp "2" "B1" notFound] ++ [showsFailure]) ≠
      outputs ((Sessions.encrypted (productionFactory (Equiv.refl _))).observed {}) ∅
        (entersDetails ++ [looksUp "2" "B1" notFound] ++ [showsFailure]) := by
  intro h
  have hclean : Clean ∅ := fun _ _ => rfl
  have halong := ((HoldAlike.of_clean hclean hclean).outputs_eq_iff productionFactory_apart).mp h
  have hlast := ((Transition.along_append _).mp halong).2.1 rfl
  obtain ⟨trackingIds, hlength, hholds, -⟩ := Holds.run {} (.of_clean hclean
    (.encrypted (productionFactory (Equiv.refl _)))) fun exchange hmem =>
      productionFactory_apart exchange (List.mem_append_left _ hmem)
  rw [final_observed, hholds.applicationData_eq] at hlast
  obtain ⟨a, b, c, rfl⟩ := List.length_eq_three.mp hlength
  exact hlast ⟨rfl, rfl, rfl, rfl⟩

end Dealer

end VehiclesOnline
