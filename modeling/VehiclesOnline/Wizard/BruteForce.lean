import VehiclesOnline.Wizard.Disposal
import VehiclesOnline.Wizard.Steps

/-! # The gate before the lookup

A lookup goes through the brute force service first, and whatever happens there lets no one
through but those that it permits. -/

namespace VehiclesOnline

open Result (redirect)
open Effects.Outcome (lift_ok_bind lift_error_bind mk_ok_bind mk_error_bind)
open Effects.Outcome (recover_ok recover_error)

variable {joda : Joda}

/-! ### The promise of the brute force service -/

/-- A computation that may complete a promise and may raise, with the attempts to complete
it, oldest first. -/
abbrev Completing (α : Type) := ExceptT Throwable (StateM (List (Except Throwable α)))

namespace BruteForcePreventionService

/-- `Promise.success` and `Promise.failure`. -/
def complete {α : Type} (result : Except Throwable α) : Completing α Unit := do
  let attempts ← get
  set (attempts ++ [result])
  if attempts.isEmpty then pure ()
  else throw ⟨.runtimeException, some "Promise already completed."⟩

/-- The attempts of a computation to complete a new promise. -/
def attempts {α : Type} (computation : Completing α Unit) : List (Except Throwable α) :=
  (computation.run.run []).2

section Promise

variable (dateService : DateService joda) (maxAttempts : ℤ)

def permitted (resp : WebResponse BruteForcePreventionResponse) :
    Completing BruteForcePreventionViewModel Unit := do
  match ← liftExcept resp.json with
  | some model =>
      complete (.ok (BruteForcePreventionViewModel.fromResponse true model dateService maxAttempts))
  | none => complete (.error ⟨.runtimeException, some "TODO"⟩)

def notPermitted : BruteForcePreventionViewModel :=
  .fromResponse false { attempts := 0 } dateService maxAttempts

/-- What the service does with the promise when the web service responds. -/
def onResponse (resp : WebResponse BruteForcePreventionResponse) :
    Completing BruteForcePreventionViewModel Unit :=
  if resp.status = 200 then permitted dateService maxAttempts resp
  else if resp.status = 403 then complete (.ok (notPermitted dateService maxAttempts))
  else complete (.error ⟨.runtimeException, some "unknownPermission"⟩)

def returnedFuture (callBruteForce : Except Throwable (WebResponse BruteForcePreventionResponse)) :
    Completing BruteForcePreventionViewModel Unit :=
  tryCatch (do onResponse dateService maxAttempts (← liftExcept callBruteForce))
    fun e => complete (.error e)

end Promise

/-- The promise is completed exactly once, with what the service returns. -/
theorem attempts_returnedFuture {config : Config}
    (henabled : config.isBruteForcePreventionEnabled = true) (dateService : DateService joda)
    (callBruteForce : Except Throwable (WebResponse BruteForcePreventionResponse)) :
    attempts (returnedFuture dateService config.bruteForcePreventionMaxAttemptsHeader
        callBruteForce) =
      [isVrmLookupPermitted config dateService callBruteForce] := by
  rw [isVrmLookupPermitted, if_pos henabled]
  cases callBruteForce with
  | error cause => rfl
  | ok resp =>
      obtain ⟨status, json⟩ := resp
      simp only [bind, Except.bind]
      by_cases hok : status = 200
      · subst hok
        cases json with
        | error cause => rfl
        | ok model =>
            cases model with
            | none => rfl
            | some model => rfl
      · by_cases hforbidden : status = 403
        · subst hforbidden
          rfl
        · rw [if_neg hok, if_neg hforbidden]
          have hunknown : onResponse dateService config.bruteForcePreventionMaxAttemptsHeader
              ⟨status, json⟩ = complete (.error ⟨.runtimeException, some "unknownPermission"⟩) := by
            rw [onResponse, if_neg hok, if_neg hforbidden]
          exact congrArg (fun computation => attempts
            (tryCatch computation fun e => complete (.error e))) hunknown

end BruteForcePreventionService

/-! ### Who is let through -/

/-- The feature is disabled, or the service answered 200 with a body that parses. -/
def GateOpens (config : Config)
    (callBruteForce : Except Throwable (WebResponse BruteForcePreventionResponse)) : Prop :=
  config.isBruteForcePreventionEnabled = false ∨
    ∃ resp model, callBruteForce = .ok resp ∧ resp.status = 200 ∧ resp.json = .ok (some model)

/-- The service answered 403. -/
def Locks (config : Config)
    (callBruteForce : Except Throwable (WebResponse BruteForcePreventionResponse)) : Prop :=
  config.isBruteForcePreventionEnabled = true ∧
    ∃ resp, callBruteForce = .ok resp ∧ resp.status = 403

section Gate

variable {config : Config} {dateService : DateService joda}
variable {callBruteForce : Except Throwable (WebResponse BruteForcePreventionResponse)}

variable (config dateService callBruteForce) in
/-- What the service returns: it lets through, it locks out, or it raises. -/
theorem isVrmLookupPermitted_cases :
    (GateOpens config callBruteForce ∧ ¬ Locks config callBruteForce ∧
      ∃ viewModel, isVrmLookupPermitted config dateService callBruteForce = .ok viewModel ∧
        viewModel.permitted = true) ∨
    (¬ GateOpens config callBruteForce ∧ Locks config callBruteForce ∧
      ∃ viewModel, isVrmLookupPermitted config dateService callBruteForce = .ok viewModel ∧
        viewModel.permitted = false) ∨
    (¬ GateOpens config callBruteForce ∧ ¬ Locks config callBruteForce ∧
      ∃ cause, isVrmLookupPermitted config dateService callBruteForce = .error cause) := by
  rw [isVrmLookupPermitted]
  cases henabled : config.isBruteForcePreventionEnabled with
  | false => exact .inl ⟨.inl henabled, by simp [Locks, henabled], _, rfl, rfl⟩
  | true =>
      simp only [GateOpens, Locks, henabled, Bool.true_eq_false, false_or, true_and, if_true]
      cases callBruteForce with
      | error cause => exact .inr (.inr ⟨by simp, by simp, cause, rfl⟩)
      | ok resp =>
          obtain ⟨status, json⟩ := resp
          simp only [bind, Except.bind, Except.ok.injEq]
          by_cases hok : status = 200
          · subst hok
            cases json with
            | error cause => exact .inr (.inr ⟨by simp, by simp, cause, rfl⟩)
            | ok model =>
                cases model with
                | none => exact .inr (.inr ⟨by simp, by simp, _, rfl⟩)
                | some model => exact .inl ⟨by simp, by simp, _, rfl, rfl⟩
          · by_cases hforbidden : status = 403
            · subst hforbidden
              exact .inr (.inl ⟨by simp, by simp, _, rfl, rfl⟩)
            · rw [if_neg hok, if_neg hforbidden]
              exact .inr (.inr ⟨by simp [hok], by simp [hforbidden], _, rfl⟩)

end Gate

/-! ### Submissions -/

def ServiceCall.LooksUp : ServiceCall → Prop
  | vehicleLookup _ _ _ => True
  | _ => False

/-- A call about the registration number. -/
def ServiceCall.AsksAbout (vrm : String) : ServiceCall → Prop
  | bruteForce vrm' => vrm' = vrm
  | vehicleLookup request _ _ => request.registrationNumber = vrm
  | _ => False

/-- The result keeps what was looked up or found. -/
def Result.StoresVehicle (r : Result) : Prop :=
  (∃ model, .withCookie .vehicleLookupDetails model ∈ r.edits) ∨
    ∃ model, .withCookie .vehicleLookupFormModel model ∈ r.edits

/-- What becomes of a submission that asks about the registration number: a lookup behind the
gate if the details of the trader can be read, and else a redirect that keeps no vehicle. -/
structure Gated (config : Config) (environment : Environment joda) (cookies : RequestCookies)
    (vrm : String) (outcome : Outcome Result) : Prop where
  lookup_iff : (∃ call ∈ outcome.calls, call.LooksUp) ↔
    GateOpens config environment.callBruteForce ∧
      ∃ trader, cookies.getModel .traderDetails = .ok trader
  asksAbout : ∀ call ∈ outcome.calls, call.AsksAbout vrm
  stored : ∀ r model, outcome.result = .ok r →
    .withCookie .vehicleLookupFormModel model ∈ r.edits → model.registrationNumber = vrm
  refused : (¬ ∃ call ∈ outcome.calls, call.LooksUp) → ∃ r, outcome.result = .ok r ∧
    ¬ r.StoresVehicle ∧
    (Locks config environment.callBruteForce → r.content = .redirect .vrmLocked) ∧
    (¬ Locks config environment.callBruteForce → r.content = .redirect .microServiceError)

namespace VehicleLookup

section Submissions

variable {config : Config} {environment : Environment joda} {cookies : RequestCookies}
variable {model : VehicleLookupFormModel} {trackingId : String}

variable (config environment) in
theorem asksAbout_callBruteForce (vrm : String) :
    ∀ call ∈ (callBruteForce config environment vrm).calls,
      call.AsksAbout vrm ∧ ¬ call.LooksUp := by
  intro call hc
  rw [callBruteForce] at hc
  split at hc
  · rw [List.mem_singleton.mp hc]
    exact ⟨rfl, id⟩
  · exact absurd hc List.not_mem_nil

/-- A submission that ends without a lookup. -/
theorem gated_of_refused {r : Result} (hr : ¬ r.StoresVehicle)
    (hclosed : ¬ (GateOpens config environment.callBruteForce ∧
      ∃ trader, cookies.getModel .traderDetails = .ok trader))
    (hlocked : Locks config environment.callBruteForce → r.content = .redirect .vrmLocked)
    (herror : ¬ Locks config environment.callBruteForce →
      r.content = .redirect .microServiceError) (vrm : String) :
    Gated config environment cookies vrm
      ⟨(callBruteForce config environment vrm).calls, .ok r⟩ where
  lookup_iff := by
    refine iff_of_false ?_ hclosed
    rintro ⟨call, hc, hlooksUp⟩
    exact (asksAbout_callBruteForce config environment vrm call hc).2 hlooksUp
  asksAbout call hc := (asksAbout_callBruteForce config environment vrm call hc).1
  stored := by
    rintro _ model ⟨⟩ hmem
    exact absurd (.inr ⟨model, hmem⟩) hr
  refused _ := ⟨r, rfl, hr, hlocked, herror⟩

theorem not_storesVehicle_redirect (route : Route) : ¬ (redirect route).StoresVehicle := by
  rintro (⟨_, h⟩ | ⟨_, h⟩)
  · cases h
  · cases h

variable (environment model) in
/-- Behind the gate, with the details of the trader. -/
theorem lookupVehicleResult_gated (htrackingId : cookies.trackingId = .ok trackingId)
    {trader : Option TraderDetailsModel}
    (htrader : cookies.getModel .traderDetails = .ok trader)
    (viewModel : BruteForcePreventionViewModel) :
    ∃ r call, lookupVehicleResult environment cookies model viewModel = ⟨[call], .ok r⟩ ∧
      call.LooksUp ∧ call.AsksAbout model.registrationNumber ∧
      ∀ model', .withCookie .vehicleLookupFormModel model' ∈ r.edits → model' = model := by
  simp only [lookupVehicleResult, htrackingId, htrader, lift_ok_bind]
  cases vehicleLookupServiceInvoke environment.callVehicleLookupService with
  | error cause => exact ⟨_, _, rfl, trivial, rfl, fun _ h => by cases h⟩
  | ok answer =>
      obtain ⟨status, response⟩ := answer
      refine ⟨_, _, rfl, trivial, rfl, ?_⟩
      rcases vehicleLookupSuccessResponse_cases status response with
        ⟨dto, -, hresult⟩ | ⟨-, hresult | ⟨responseCode, hresult⟩⟩ <;>
      · rw [hresult]
        intro model' hmem
        simpa [Result.withCookie, vehicleFoundResult, vehicleNotFoundResult, redirect,
          Result.discardingCookie, Result.discardingCookies] using hmem

theorem callBruteForce_eq (vrm : String) : callBruteForce config environment vrm =
    ⟨(callBruteForce config environment vrm).calls,
      isVrmLookupPermitted config environment.dateServiceAfterCall environment.callBruteForce⟩ :=
  rfl

/-- Every submission, in a session that is found. -/
theorem bruteForceAndLookup_gated (htrackingId : cookies.trackingId = .ok trackingId) :
    Gated config environment cookies model.registrationNumber
      (bruteForceAndLookup config environment cookies model) := by
  have hcalls := asksAbout_callBruteForce config environment model.registrationNumber
  rw [bruteForceAndLookup, callBruteForce_eq]
  rcases isVrmLookupPermitted_cases config environment.dateServiceAfterCall
      environment.callBruteForce with
    ⟨hopens, hlocks, viewModel, hviewModel, hpermitted⟩ |
    ⟨hopens, hlocks, viewModel, hviewModel, hpermitted⟩ | ⟨hopens, hlocks, cause, hcause⟩
  · simp only [hviewModel, mk_ok_bind, hpermitted, if_true]
    cases htrader : cookies.getModel .traderDetails with
    | error cause =>
        have hlookup : lookupVehicleResult environment cookies model viewModel =
            ⟨[], .error cause⟩ := by
          simp only [lookupVehicleResult, htrackingId, htrader, lift_ok_bind, lift_error_bind]
        simp only [hlookup, recover_error, List.append_nil]
        refine gated_of_refused (not_storesVehicle_redirect _) ?_ (fun h => absurd h hlocks)
          (fun _ => rfl) _
        rintro ⟨-, trader, h⟩
        rw [htrader] at h
        cases h
    | ok trader =>
        obtain ⟨r, call, hlookup, hlooksUp, hasksAbout, hstored⟩ := lookupVehicleResult_gated
          environment model htrackingId htrader viewModel
        simp only [hlookup, recover_ok]
        have hcall : ∃ call' ∈ (callBruteForce config environment model.registrationNumber).calls ++
            [call], call'.LooksUp :=
          ⟨call, List.mem_append_right _ (List.mem_singleton_self call), hlooksUp⟩
        refine ⟨iff_of_true hcall ⟨hopens, trader, htrader⟩, ?_, ?_, fun h => absurd hcall h⟩
        · intro call' hc
          rcases List.mem_append.mp hc with hc | hc
          · exact (hcalls call' hc).1
          · rw [List.mem_singleton.mp hc]
            exact hasksAbout
        · rintro _ model' ⟨⟩ hmem
          rw [hstored model' hmem]
  · have hlocked : ¬ ((redirect .vrmLocked).withCookie .bruteForcePreventionViewModel
        viewModel).StoresVehicle := by
      rintro (⟨model', h⟩ | ⟨model', h⟩)
      · simp [Result.withCookie, redirect] at h
      · simp [Result.withCookie, redirect] at h
    have hrefused : Gated config environment cookies model.registrationNumber
        ⟨(callBruteForce config environment model.registrationNumber).calls, .ok _⟩ :=
      gated_of_refused hlocked (fun h => hopens h.1) (fun _ => rfl) (fun h => absurd hlocks h) _
    simp only [hviewModel, mk_ok_bind, hpermitted, Bool.false_eq_true, if_false]
    exact List.append_nil _ ▸ hrefused
  · simp only [hcause, mk_error_bind, recover_error]
    exact gated_of_refused (not_storesVehicle_redirect _) (fun h => hopens h.1)
      (fun h => absurd h hlocks) (fun _ => rfl) _

end Submissions

theorem getSession_of_admitted {factory : EncryptedClientSideSessionFactory} {draw : SessionDraw}
    {jar requestCookies : Jar}
    (h : (Sessions.encrypted factory).admitted draw jar = .ok requestCookies) :
    ∃ session, factory.getSession requestCookies = .ok session := by
  simp only [Sessions.admitted, Sessions.factory, EncryptedClientSideSessionFactory.toFactory] at h
  cases hvalidate : factory.validateSessionCookies jar with
  | error cause =>
      rw [(newSessionCookiesIfNeeded_of_error factory draw hvalidate).1] at h
      cases h
  | ok found =>
      cases found with
      | none =>
          rw [newSessionCookiesIfNeeded_of_none factory draw hvalidate] at h
          cases h
          exact ⟨_, getSession_merge_newSessionCookies factory draw jar⟩
      | some pair =>
          rw [newSessionCookiesIfNeeded_of_some factory draw hvalidate] at h
          cases h
          exact ⟨_, factory.getSession_of_validate hvalidate⟩

/-- A request that the filter passes on has a session. -/
theorem trackingId_of_admitted {sessions : Sessions} {draw : SessionDraw} {jar requestCookies : Jar}
    (h : sessions.admitted draw jar = .ok requestCookies) :
    ∃ trackingId,
      (RequestCookies.ofJar sessions.factory requestCookies).trackingId = .ok trackingId := by
  cases sessions with
  | clearText cookieFlags =>
      obtain ⟨trackingId, session, hsession, -, -⟩ := clearText_found cookieFlags requestCookies
      exact ⟨session.trackingId, by
        simp only [RequestCookies.ofJar, RichCookies.trackingId, Sessions.factory, hsession]
        rfl⟩
  | encrypted factory =>
      obtain ⟨session, hsession⟩ := getSession_of_admitted h
      exact ⟨session.trackingId, by
        simp only [RequestCookies.ofJar, RichCookies.trackingId, Sessions.factory,
          EncryptedClientSideSessionFactory.toFactory, hsession]
        rfl⟩

/-- In sessions that the application itself wrote the details of the trader can be read. -/
theorem exists_getModel_traderDetails {sessions : Sessions} {draw : SessionDraw}
    {jar requestCookies : Jar} {data : ApplicationData} (hholds : Holds sessions jar data)
    (hapart : sessions.Apart draw) (h : sessions.admitted draw jar = .ok requestCookies) :
    ∃ trader,
      (RequestCookies.ofJar sessions.factory requestCookies).getModel .traderDetails =
        .ok trader := by
  obtain ⟨coding, trackingId, requestCookies', cookies, hadmission⟩ := hholds.admission hapart
  obtain rfl : requestCookies' = requestCookies :=
    Except.ok.inj (hadmission.passes.admitted_eq.symm.trans h)
  rw [ofJar_eq_ofData hadmission.found hadmission.coded_requestCookies]
  exact ⟨data .traderDetails, rfl⟩

/-- A valid submission gets to the lookup exactly if the gate opens and the details of the
trader can be read; all is about the one normalised registration number, and the promise of the
brute force service is completed once. -/
theorem submit_gated (sessions : Sessions) (config : Config) (environment : Environment joda)
    {draw : SessionDraw} {jar requestCookies : Jar}
    (hadmitted : sessions.admitted draw jar = .ok requestCookies)
    {form : Form VehicleLookupFormModel} {model : VehicleLookupFormModel}
    (hvalid : form.valid = some model) :
    Gated config environment (.ofJar sessions.factory requestCookies)
        (convertToUpperCaseAndRemoveSpaces model).registrationNumber
        (submit config environment (.ofJar sessions.factory requestCookies) form) ∧
      (config.isBruteForcePreventionEnabled = true →
        BruteForcePreventionService.attempts (BruteForcePreventionService.returnedFuture
            environment.dateServiceAfterCall config.bruteForcePreventionMaxAttemptsHeader
            environment.callBruteForce) =
          [isVrmLookupPermitted config environment.dateServiceAfterCall
            environment.callBruteForce]) := by
  obtain ⟨trackingId, htrackingId⟩ := trackingId_of_admitted hadmitted
  refine ⟨?_, fun henabled => BruteForcePreventionService.attempts_returnedFuture henabled _ _⟩
  rw [submit, hvalid]
  exact bruteForceAndLookup_gated htrackingId

section Dealer

open Dealer

/-- The first request of a browser. -/
theorem submit_gated_dealer :
    Gated {} (services found)
        (.ofJar (Sessions.clearText noCookieFlags).factory (Jar.merge ∅ [langCookie]))
        (convertToUpperCaseAndRemoveSpaces ⟨"1", "A1"⟩).registrationNumber
        (submit {} (services found)
          (.ofJar (Sessions.clearText noCookieFlags).factory (Jar.merge ∅ [langCookie]))
          { value := some ⟨"1", "A1"⟩ }) ∧
      (({} : Config).isBruteForcePreventionEnabled = true →
        BruteForcePreventionService.attempts (BruteForcePreventionService.returnedFuture
            (services found).dateServiceAfterCall
            ({} : Config).bruteForcePreventionMaxAttemptsHeader
            (services found).callBruteForce) =
          [isVrmLookupPermitted {} (services found).dateServiceAfterCall
            (services found).callBruteForce]) := by
  have hadmitted : (Sessions.clearText noCookieFlags).admitted ⟨fun _ => 0, fun _ => 0⟩ ∅ =
      .ok (Jar.merge ∅ [langCookie]) := rfl
  exact submit_gated (.clearText noCookieFlags) {} (services found) hadmitted rfl

/-- A request of a session of clear text in which the details of the trader are no JSON. -/
def tamperedRequest : Jar := Jar.merge ∅ [{ name := "traderDetails", value := "" }, langCookie]

/-- The gate opens, but the details of the trader cannot be read, so that nothing is looked
up. -/
theorem not_looksUp_tampered :
    (Sessions.clearText noCookieFlags).admitted ⟨fun _ => 0, fun _ => 0⟩ tamperedRequest =
        .ok (tamperedRequest.merge [langCookie]) ∧
      GateOpens {} (services found).callBruteForce ∧
      ¬ ∃ call ∈ (submit {} (services found) (.ofJar (Sessions.clearText noCookieFlags).factory
        (tamperedRequest.merge [langCookie])) { value := some ⟨"1", "A1"⟩ }).calls,
          call.LooksUp := by
  refine ⟨rfl, .inr ⟨_, _, rfl, rfl, rfl⟩, ?_⟩
  intro hlooksUp
  obtain ⟨-, trader, htrader⟩ := (bruteForceAndLookup_gated rfl).lookup_iff.mp hlooksUp
  cases htrader

end Dealer

end VehicleLookup

end VehiclesOnline
