import VehiclesOnline.Wizard.Runs

/-! # The survey

When the survey is offered: the trigger date that an exit leaves behind, and what the pages make
of it. -/

namespace VehiclesOnline

variable {joda : Joda}

/-! ### The text of the trigger date -/

/-- A number of Scala's type `Long`. -/
def IsLong (n : ℤ) : Prop := -2 ^ 63 ≤ n ∧ n < 2 ^ 63

section ToLong

open Ascii (toDigits_ne_cons digits_toDigits)
open Nat (toDigits)

/-- What is written of a `Long` is read again. -/
theorem toLong_toString {n : ℤ} (h : IsLong n) : toLong (toString n) = .ok n := by
  cases n with
  | ofNat n =>
      have htext : (toString (Int.ofNat n)).toList = toDigits 10 n := Nat.toList_repr
      simp only [toLong, htext]
      split
      next value hvalue =>
        split at hvalue
        · next heq => exact absurd heq (toDigits_ne_cons rfl _)
        · next heq => exact absurd heq (toDigits_ne_cons rfl _)
        · rw [if_pos (digits_toDigits n), Nat.ofDigitChars_ten_toDigits] at hvalue
          cases hvalue
          exact if_pos h
      next hvalue =>
        split at hvalue
        · next heq => exact absurd heq (toDigits_ne_cons rfl _)
        · next heq => exact absurd heq (toDigits_ne_cons rfl _)
        · rw [if_pos (digits_toDigits n)] at hvalue
          cases hvalue
  | negSucc n =>
      have htext : (toString (Int.negSucc n)).toList = '-' :: toDigits 10 (n + 1) := by
        simp [Int.repr, Nat.toList_repr]
      simp only [toLong, htext, if_pos (digits_toDigits (n + 1)), Nat.ofDigitChars_ten_toDigits,
        Option.map_some]
      exact if_pos h

end ToLong

/-! ### The trigger date that is stored -/

/-- The user leaves, from the page of the lookup or from that of the success. -/
inductive Leaves (exchange : Exchange joda) : Response → Prop
  | lookup (h : exchange.request = .vehicleLookupExit) :
      Leaves exchange (.result (VehicleLookup.exit exchange.environment))
  | success (h : exchange.request = .disposeSuccessExit) :
      Leaves exchange (.result (DisposeSuccess.exit exchange.environment))

section Leaves

variable {config : Config} {trackingId : String} {data : ApplicationData}
variable {exchange : Exchange joda} {calls : List ServiceCall} {response : Response}

theorem Leaves.triggerDate (h : Leaves exchange response) (kind : SessionKind)
    (data : ApplicationData) : response.data kind data .surveyRequestTriggerDate =
      some (toString exchange.environment.dateService.nowMillis) := by
  cases h with
  | lookup => rfl
  | success => rfl

/-- Only an exit stores a trigger date. -/
theorem WizardStep.leaves_of_mem_edits
    (hstep : WizardStep config trackingId data exchange calls response) {s : String}
    (hmem : .withCookie .surveyRequestTriggerDate s ∈ response.edits) :
    Leaves exchange response := by
  cases hstep with
  | exitsLookup hrequest => exact .lookup hrequest
  | exitsSuccess hrequest => exact .success hrequest
  | plain hcalls hedits =>
      obtain ⟨code, hcode⟩ := hedits _ hmem
      cases hcode
  | @disposed form disposeFormModel trader model disposal status response =>
      obtain ⟨key, hkey, model', hedit⟩ := Dispose.storedResult_edits exchange.environment
        (Dispose.disposeModelOf model disposeFormModel) disposeFormModel status response _ hmem
      cases hedit
      exact absurd hkey (by decide)
  | showsLookup htrader hurl hresult =>
      rcases hresult with rfl | rfl <;> exact absurd hmem List.not_mem_nil
  | forgets | disposeFails | showsDispose | showsFailure => exact absurd hmem List.not_mem_nil
  | _ =>
      simp [Response.edits, BeforeYouStart.present, SetUpTradeDetails.enteredResult,
        BusinessChooseYourAddress.chosenResult, EnterAddressManually.enteredResult,
        VehicleLookup.lockedResult, VehicleLookup.storedResult, VehicleLookup.vehicleFoundResult,
        VehicleLookup.vehicleNotFoundResult, VehicleLookupFailure.displayVehicleLookupFailure,
        VrmLocked.exit, DisposeSuccess.shownResult, DisposeSuccess.newDisposalResult, Help.present,
        Result.withCookie, Result.discardingCookies, Result.discardingCookie,
        Result.discardingCookieNamed, Result.redirect, Result.ok] at hmem

/-- A step leaves the trigger date, or removes it, or is an exit. -/
theorem WizardStep.triggerDate_cases
    (hstep : WizardStep config trackingId data exchange calls response) (kind : SessionKind) :
    (response.data kind data .surveyRequestTriggerDate = data .surveyRequestTriggerDate ∨
      response.data kind data .surveyRequestTriggerDate = none) ∨ Leaves exchange response := by
  by_cases h : ∃ s, .withCookie .surveyRequestTriggerDate s ∈ response.edits
  · obtain ⟨s, hmem⟩ := h
    exact .inr (hstep.leaves_of_mem_edits hmem)
  · exact .inl (Response.data_eq_or_none (fun s hmem => h ⟨s, hmem⟩) kind data)

end Leaves

/-- What the session holds as the trigger date can be read. -/
def HoldsTriggerDate (data : ApplicationData) : Prop :=
  ∀ s, data .surveyRequestTriggerDate = some s → ∃ n, IsLong n ∧ s = toString n

/-- The clock reads a `Long`. -/
def ReadsLong (exchange : Exchange joda) : Prop :=
  IsLong exchange.environment.dateService.nowMillis

theorem preserves_holdsTriggerDate (kind : SessionKind) (config : Config) :
    Preserves kind config (fun _ _ (exchange : Exchange joda) _ => ReadsLong exchange)
      fun _ => HoldsTriggerDate := by
  intro history data exchange trackingId calls response h hstep hlong s hs
  rcases hstep.triggerDate_cases kind with (hkept | hnone) | hleaves
  · exact h s (hkept.symm.trans hs)
  · cases hnone.symm.trans hs
  · rw [hleaves.triggerDate] at hs
    cases hs
    exact ⟨_, hlong, rfl⟩

theorem HoldsTriggerDate.exists_surveyUrl {data : ApplicationData} (h : HoldsTriggerDate data)
    (config : Config) (trackingId : String) (dateService : DateService joda) :
    ∃ url, surveyUrl config (.ofData trackingId data) dateService = .ok url := by
  simp only [surveyUrl, RequestCookies.getString, RequestCookies.getModel_ofData, bind, Except.bind]
  cases hheld : data .surveyRequestTriggerDate with
  | none => exact ⟨_, rfl⟩
  | some s =>
      obtain ⟨n, hlong, rfl⟩ := h s hheld
      simp only [toLong_toString hlong]
      split
      · exact ⟨_, rfl⟩
      · exact ⟨_, rfl⟩

end VehiclesOnline
