import VehiclesOnline.Wizard.Runs

/-! # The trade details

The details of the trader are stored together, but the two forms behind them and the choice of
an address are stored by themselves. Over every run they belong together, as long as the user
does not go back to change one of them after the other ones were stored. -/

namespace VehiclesOnline

open Transition (final)

variable {joda : Joda}

/-! ### Details that belong together -/

/-- The lookup service returned the address for the reference number. -/
def History.Returned (history : History joda) (uprn : String) (address : AddressViewModel) :
    Prop :=
  ∃ entry ∈ history, (∃ trackingId, .addressForUprn uprn trackingId ∈ entry.2.calls) ∧
    entry.1.environment.fetchAddressForUprn = .ok (some address)

/-- The trader has the name that was entered, and the address of the one page of which the
session holds the model. -/
structure BelongsTogether (history : History joda) (data : ApplicationData)
    (trader : TraderDetailsModel) : Prop where
  traderName : ∃ setup, data .setupTradeDetails = some setup ∧
    trader.traderName = setup.traderBusinessName
  entered : ∀ setup model, data .setupTradeDetails = some setup →
    data .enterAddressManually = some model →
    trader.traderAddress = .fromModel model.addressAndPostcodeModel setup.traderPostcode ∧
      trader.traderAddress.uprn = none
  chosen : ∀ model, data .businessChooseYourAddress = some model →
    history.Returned model.uprnSelected trader.traderAddress
  onePage : data .enterAddressManually = none ↔ data .businessChooseYourAddress ≠ none

/-- If there are details of a trader, they belong together with what else is stored. -/
def Coherent (history : History joda) (data : ApplicationData) : Prop :=
  ∀ trader, data .traderDetails = some trader → BelongsTogether history data trader

/-! ### Steps -/

structure SameTradeDetails (data data' : ApplicationData) : Prop where
  setupTradeDetails : data' .setupTradeDetails = data .setupTradeDetails
  traderDetails : data' .traderDetails = data .traderDetails
  businessChooseYourAddress : data' .businessChooseYourAddress = data .businessChooseYourAddress
  enterAddressManually : data' .enterAddressManually = data .enterAddressManually

/-- The names and the address that the session holds are not changed behind its details of the
trader: they are only entered again as they are, and no address is entered in place of a chosen
one. -/
structure ChangesNothingStored (data : ApplicationData) (request : Request) : Prop where
  setup : ∀ form model trader, request = .setUpTradeDetailsSubmit form →
    form.valid = some model → data .traderDetails = some trader →
    trader.traderName = model.traderBusinessName ∧
      ∀ entered, data .enterAddressManually = some entered →
        trader.traderAddress = .fromModel entered.addressAndPostcodeModel model.traderPostcode
  address : ∀ form model, request = .enterAddressManuallySubmit form → form.valid = some model →
    data .setupTradeDetails ≠ none → data .businessChooseYourAddress = none

section Steps

variable {history : History joda} {data data' : ApplicationData}
variable {entry : Exchange joda × Reply} {uprn : String} {address : AddressViewModel}

theorem History.Returned.append (h : history.Returned uprn address) :
    History.Returned (history ++ [entry]) uprn address := by
  obtain ⟨found, hmem, hreturned⟩ := h
  exact ⟨found, List.mem_append_left _ hmem, hreturned⟩

theorem Coherent.frame (h : Coherent history data) (hsame : SameTradeDetails data data') :
    Coherent (history ++ [entry]) data' := by
  intro trader htrader
  have htogether := h trader (hsame.traderDetails.symm.trans htrader)
  refine ⟨?_, ?_, ?_, ?_⟩
  · rw [hsame.setupTradeDetails]
    exact htogether.traderName
  · rw [hsame.setupTradeDetails, hsame.enterAddressManually]
    exact htogether.entered
  · rw [hsame.businessChooseYourAddress]
    exact fun model hmodel => (htogether.chosen model hmodel).append
  · rw [hsame.enterAddressManually, hsame.businessChooseYourAddress]
    exact htogether.onePage

theorem coherent_of_none (h : data .traderDetails = none) : Coherent history data := by
  intro trader htrader
  cases h.symm.trans htrader

end Steps

theorem preserves_coherent (kind : SessionKind) (config : Config) :
    Preserves kind config
      (fun _ data (exchange : Exchange joda) _ => ChangesNothingStored data exchange.request)
      Coherent := by
  intro history data exchange trackingId calls response h hstep hcondition
  cases hstep with
  | @entersTradeDetails form model hrequest hvalid =>
      intro trader htrader
      obtain ⟨hname, haddress⟩ := hcondition.setup form model trader hrequest hvalid htrader
      have htogether := h trader htrader
      refine ⟨⟨model, rfl, hname⟩, ?_,
        fun chosen hchosen => (htogether.chosen chosen hchosen).append, htogether.onePage⟩
      rintro _ entered ⟨⟩ hentered
      rw [haddress entered hentered]
      exact ⟨rfl, rfl⟩
  | @choosesAddress form model setup address hrequest hvalid hsetup haddress =>
      rintro _ ⟨⟩
      refine ⟨⟨setup, hsetup, rfl⟩, by rintro _ _ _ ⟨⟩, ?_, iff_of_true rfl (Option.some_ne_none _)⟩
      rintro _ ⟨⟩
      exact ⟨_, List.mem_append_right _ (List.mem_singleton_self _),
        ⟨trackingId, List.mem_singleton_self _⟩, haddress⟩
  | @entersAddress form model setup hrequest hvalid hsetup =>
      have hnone : data .businessChooseYourAddress = none :=
        hcondition.address form model hrequest hvalid (by rw [hsetup]; exact Option.some_ne_none _)
      rintro _ ⟨⟩
      refine ⟨⟨setup, hsetup, rfl⟩, ?_, fun chosen hchosen => ?_, ?_⟩
      · rintro setup' _ hsetup' ⟨⟩
        obtain rfl : setup = setup' := Option.some.inj (hsetup.symm.trans hsetup')
        exact ⟨rfl, rfl⟩
      · cases hnone.symm.trans hchosen
      · exact iff_of_false (Option.some_ne_none _) fun hne => hne hnone
  | plain hcalls hedits =>
      exact (Result.data_of_withLang hedits kind data).symm ▸ h.frame ⟨rfl, rfl, rfl, rfl⟩
  | @disposed form disposeFormModel trader model disposal status response =>
      have hframe := (Dispose.storedResult_storesAnswer exchange.environment
        (Dispose.disposeModelOf model disposeFormModel) disposeFormModel status response kind
        data).others
      exact h.frame ⟨hframe _ (by decide), hframe _ (by decide), hframe _ (by decide),
        hframe _ (by decide)⟩
  | showsLookup htrader hurl hresult =>
      rcases hresult with rfl | rfl <;> exact h.frame ⟨rfl, rfl, rfl, rfl⟩
  | showsLookupFailure =>
      cases kind with
      | clearText => exact h.frame ⟨rfl, rfl, rfl, rfl⟩
      | encrypted => exact h.frame ⟨rfl, rfl, rfl, rfl⟩
  | forgets | startsOver | exitsLookup | exitsLock | exitsSuccess => exact coherent_of_none rfl
  | newDisposalAfterLock | newDisposal | locked | finds | findsNothing | lookupFails | reopens
  | disposeFails | asksForHelp | showsDispose | showsSuccess | showsFailure =>
      exact h.frame ⟨rfl, rfl, rfl, rfl⟩

/-! ### Runs -/

/-- In every run that changes nothing behind what is stored, the details of the trader belong
together with what else is stored. -/
theorem coherent_of_changesNothingStored (sessions : Sessions) (config : Config) {jar : Jar}
    (hclean : Clean jar) {exchanges : List (Exchange joda)}
    (hapart : ∀ exchange ∈ exchanges, sessions.Apart exchange.draw)
    (hcondition : sessions.Throughout config
      (fun _ data exchange _ => ChangesNothingStored data exchange.request) jar exchanges) :
    Coherent (sessions.history config jar exchanges)
      (sessions.applicationData (final (sessions.serve config) jar exchanges)) := by
  obtain ⟨data, hholds, hcoherent⟩ := Sessions.Throughout.holdsInvariant
    (preserves_coherent sessions.kind config) (coherent_of_none rfl) hclean hapart hcondition
  rw [hholds.applicationData_eq]
  exact hcoherent

section Dealer

open Dealer

def entersAddress : Exchange utc :=
  sends (.enterAddressManuallySubmit
    { value := some ⟨{ addressLinesModel :=
        { buildingNameOrNumber := "2 LOW STREET", postTown := "TOWN" } }⟩ }) found

/-- A name is entered, and an address chosen. -/
theorem coherent_of_changesNothingStored_dealer :
    Coherent ((Sessions.clearText noCookieFlags).history {} ∅ entersDetails)
      ((Sessions.clearText noCookieFlags).applicationData
        (final ((Sessions.clearText noCookieFlags).serve {}) ∅ entersDetails)) := by
  refine coherent_of_changesNothingStored (.clearText noCookieFlags) {} (fun _ _ => rfl)
    (fun _ _ => trivial) ?_
  have hstart : (Sessions.clearText noCookieFlags).applicationData ∅ = fun _ => none :=
    (Holds.of_clean (fun _ _ => rfl) _).applicationData_eq
  refine ⟨⟨?_, by rintro _ _ ⟨⟩⟩, ⟨by rintro _ _ _ ⟨⟩, by rintro _ _ ⟨⟩⟩, trivial⟩
  intro form model trader hrequest hvalid htrader
  rw [hstart] at htrader
  cases htrader

/-- An address is chosen, and another one entered: both are stored. -/
theorem not_coherent_bothPages :
    ¬ Coherent ((Sessions.clearText noCookieFlags).history {} ∅ (entersDetails ++ [entersAddress]))
      ((Sessions.clearText noCookieFlags).applicationData
        (final ((Sessions.clearText noCookieFlags).serve {}) ∅
          (entersDetails ++ [entersAddress]))) := by
  intro h
  obtain ⟨trackingIds, hlength, hholds, -⟩ := run (entersDetails ++ [entersAddress])
  obtain ⟨a, b, c, rfl⟩ := List.length_eq_three.mp hlength
  rw [hholds.applicationData_eq] at h
  have hboth := (h _ rfl).onePage.mpr (Option.some_ne_none _)
  cases hboth

end Dealer

end VehiclesOnline
