import VehiclesOnline.Wizard.Domain
import VehiclesOnline.Wizard.InFlight

/-! # Sessions under interleaved requests

What holds of the disposals and of the failures of a session however its requests overtake each
other. Every value that is read was written by one response, so that what can be said of single
values survives, and what relates two of them need not. -/

namespace VehiclesOnline

variable {joda : Joda}

/-! ### What a response writes -/

/-- Where a model that a response writes comes from: the form of the request, the answer of a
service or the data of the session. -/
def WrittenFrom (data : ApplicationData) (exchange : Exchange joda) :
    (key : CacheKey) → key.Model → Prop
  | .setupTradeDetails, model => ∃ form,
      exchange.request = .setUpTradeDetailsSubmit form ∧ form.valid = some model
  | .traderDetails, trader => ∃ setup, data .setupTradeDetails = some setup ∧
      trader.traderName = setup.traderBusinessName ∧
        ((∃ form model, exchange.request = .businessChooseYourAddressSubmit form ∧
            form.valid = some model ∧
            exchange.environment.fetchAddressForUprn = .ok (some trader.traderAddress)) ∨
          ∃ form model, exchange.request = .enterAddressManuallySubmit form ∧
            form.valid = some model ∧ trader.traderAddress =
              AddressViewModel.fromModel model.addressAndPostcodeModel setup.traderPostcode)
  | .vehicleLookupFormModel, model => ∃ form entered,
      exchange.request = .vehicleLookupSubmit form ∧ form.valid = some entered ∧
        model = VehicleLookup.convertToUpperCaseAndRemoveSpaces entered
  | _, _ => True

section Writes

variable {config : Config} {trackingId : String} {data : ApplicationData}
variable {exchange : Exchange joda} {calls : List ServiceCall} {response : Response}

/-- What is known of the models that the edits write is known of each of them. -/
theorem writtenFrom_cons {edit : Edit} {edits : List Edit} {key : CacheKey} {model : key.Model}
    (hmem : .withCookie key model ∈ edit :: edits)
    (hhead : ∀ key model, edit = .withCookie key model → WrittenFrom data exchange key model)
    (htail : .withCookie key model ∈ edits → WrittenFrom data exchange key model) :
    WrittenFrom data exchange key model := by
  rcases List.mem_cons.mp hmem with hedit | hmem
  · exact hhead key model hedit.symm
  · exact htail hmem

theorem WizardStep.writtenFrom (h : WizardStep config trackingId data exchange calls response)
    {key : CacheKey} {model : key.Model} (hmem : .withCookie key model ∈ response.edits) :
    WrittenFrom data exchange key model := by
  have hnil : ∀ {key : CacheKey} {model : key.Model},
      .withCookie key model ∈ ([] : List Edit) → WrittenFrom data exchange key model :=
    fun hmem => absurd hmem List.not_mem_nil
  cases h with
  | plain hcalls hedits =>
      obtain ⟨code, hcode⟩ := hedits _ hmem
      cases hcode
  | forgets => exact hnil hmem
  | entersTradeDetails hrequest hvalid =>
      refine writtenFrom_cons hmem ?_ hnil
      rintro _ _ ⟨⟩
      exact ⟨_, hrequest, hvalid⟩
  | choosesAddress hrequest hvalid hsetup haddress =>
      refine writtenFrom_cons hmem (by rintro _ _ ⟨⟩) fun hmem => ?_
      refine writtenFrom_cons hmem (by rintro _ _ ⟨⟩; trivial) fun hmem => ?_
      refine writtenFrom_cons hmem ?_ hnil
      rintro _ _ ⟨⟩
      exact ⟨_, hsetup, rfl, .inl ⟨_, _, hrequest, hvalid, haddress⟩⟩
  | entersAddress hrequest hvalid hsetup =>
      refine writtenFrom_cons hmem (by rintro _ _ ⟨⟩; trivial) fun hmem => ?_
      refine writtenFrom_cons hmem ?_ hnil
      rintro _ _ ⟨⟩
      exact ⟨_, hsetup, rfl, .inr ⟨_, _, hrequest, hvalid, rfl⟩⟩
  | finds hrequest hvalid =>
      refine writtenFrom_cons hmem (by rintro _ _ ⟨⟩; trivial) fun hmem => ?_
      refine writtenFrom_cons hmem (by rintro _ _ ⟨⟩) fun hmem => ?_
      refine writtenFrom_cons hmem ?_ fun hmem => writtenFrom_cons hmem ?_ hnil
      · rintro _ _ ⟨⟩
        exact ⟨_, _, hrequest, hvalid, rfl⟩
      · rintro _ _ ⟨⟩
        trivial
  | findsNothing hrequest hvalid =>
      refine writtenFrom_cons hmem (by rintro _ _ ⟨⟩; trivial) fun hmem => ?_
      refine writtenFrom_cons hmem ?_ fun hmem => writtenFrom_cons hmem ?_ hnil
      · rintro _ _ ⟨⟩
        exact ⟨_, _, hrequest, hvalid, rfl⟩
      · rintro _ _ ⟨⟩
        trivial
  | lookupFails hrequest hvalid =>
      refine writtenFrom_cons hmem ?_ fun hmem => writtenFrom_cons hmem ?_ hnil
      · rintro _ _ ⟨⟩
        exact ⟨_, _, hrequest, hvalid, rfl⟩
      · rintro _ _ ⟨⟩
        trivial
  | @disposed form disposeFormModel trader model disposal status response =>
      obtain ⟨key', hkey', model', hedit⟩ := Dispose.storedResult_edits exchange.environment
        (Dispose.disposeModelOf model disposeFormModel) disposeFormModel status response _ hmem
      cases hedit
      simp only [Dispose.storedKeys, List.mem_cons, List.not_mem_nil, or_false] at hkey'
      rcases hkey' with rfl | rfl | rfl | rfl | rfl | rfl <;> trivial
  | showsLookup htrader hurl hresult => rcases hresult with rfl | rfl <;> exact hnil hmem
  | startsOver | showsLookupFailure | newDisposalAfterLock | exitsLock | reopens | showsSuccess =>
      exact writtenFrom_cons hmem (by rintro _ _ ⟨⟩) hnil
  | locked | asksForHelp => exact writtenFrom_cons hmem (by rintro _ _ ⟨⟩; trivial) hnil
  | exitsLookup =>
      refine writtenFrom_cons hmem (by rintro _ _ ⟨⟩) fun hmem => ?_
      exact writtenFrom_cons hmem (by rintro _ _ ⟨⟩; trivial) hnil
  | newDisposal =>
      refine writtenFrom_cons hmem (by rintro _ _ ⟨⟩) fun hmem => ?_
      refine writtenFrom_cons hmem (by rintro _ _ ⟨⟩; trivial) fun hmem => ?_
      exact writtenFrom_cons hmem (by rintro _ _ ⟨⟩; trivial) hnil
  | exitsSuccess =>
      refine writtenFrom_cons hmem (by rintro _ _ ⟨⟩) fun hmem => ?_
      refine writtenFrom_cons hmem (by rintro _ _ ⟨⟩; trivial) fun hmem => ?_
      exact writtenFrom_cons hmem (by rintro _ _ ⟨⟩; trivial) hnil
  | showsDispose | disposeFails | showsFailure => exact hnil hmem

end Writes

/-! ### What was entered -/

section Entered

variable (sessions : Sessions) (sessionSecretKey : String)

/-- A request of the session entered the model in a valid form, with the details of the trade that
an earlier one entered, and with the address that a service answered. -/
inductive Entered : List (Served joda) → (key : CacheKey) → key.Model → Prop
  | tradeDetails {before after : List (Served joda)} {entry : Served joda}
      {form : Form SetupTradeDetailsModel} {model : SetupTradeDetailsModel}
      (hsession : sessions.secretServed entry = some sessionSecretKey)
      (hrequest : entry.exchange.request = .setUpTradeDetailsSubmit form)
      (hvalid : form.valid = some model) :
      Entered (before ++ entry :: after) .setupTradeDetails model
  | chosenTrader {before after : List (Served joda)} {entry : Served joda}
      {form : Form BusinessChooseYourAddressModel} {model : BusinessChooseYourAddressModel}
      {setup : SetupTradeDetailsModel} {address : AddressViewModel}
      (hsession : sessions.secretServed entry = some sessionSecretKey)
      (hsetup : Entered after .setupTradeDetails setup)
      (hrequest : entry.exchange.request = .businessChooseYourAddressSubmit form)
      (hvalid : form.valid = some model)
      (haddress : entry.exchange.environment.fetchAddressForUprn = .ok (some address)) :
      Entered (before ++ entry :: after) .traderDetails
        { traderName := setup.traderBusinessName, traderAddress := address }
  | enteredTrader {before after : List (Served joda)} {entry : Served joda}
      {form : Form EnterAddressManuallyModel} {model : EnterAddressManuallyModel}
      {setup : SetupTradeDetailsModel}
      (hsession : sessions.secretServed entry = some sessionSecretKey)
      (hsetup : Entered after .setupTradeDetails setup)
      (hrequest : entry.exchange.request = .enterAddressManuallySubmit form)
      (hvalid : form.valid = some model) :
      Entered (before ++ entry :: after) .traderDetails
        { traderName := setup.traderBusinessName
          traderAddress := .fromModel model.addressAndPostcodeModel setup.traderPostcode }
  | lookup {before after : List (Served joda)} {entry : Served joda}
      {form : Form VehicleLookupFormModel} {model : VehicleLookupFormModel}
      (hsession : sessions.secretServed entry = some sessionSecretKey)
      (hrequest : entry.exchange.request = .vehicleLookupSubmit form)
      (hvalid : form.valid = some model) :
      Entered (before ++ entry :: after) .vehicleLookupFormModel
        (VehicleLookup.convertToUpperCaseAndRemoveSpaces model)

variable {sessions sessionSecretKey} {config : Config} {served : List (Served joda)}

theorem AllAnswered.of_append {before after : List (Served joda)} {entry : Served joda}
    (h : AllAnswered sessions config (before ++ entry :: after)) :
    AllAnswered sessions config after := by
  rintro before' entry' after' rfl
  exact h (before ++ entry :: before') entry' after' (by simp)

/-- A request that was answered as the wizard answers it was a step of the wizard. -/
theorem AnsweredAsWizard.step {entry : Served joda}
    (h : AnsweredAsWizard sessions config served entry)
    (hsession : sessions.secretServed entry = some sessionSecretKey) :
    ∃ trackingId data calls, AllStored (sessions.Wrote config served sessionSecretKey) data ∧
      WizardStep config trackingId data entry.exchange calls (sessions.responseTo config entry) ∧
      (sessions.serve config entry.request entry.exchange).2.calls = calls := by
  obtain ⟨secret, trackingId, data, hsecret, hwrote, hresponse, hreply⟩ := h
  obtain rfl := Option.some.inj (hsecret.symm.trans hsession)
  refine ⟨trackingId, data, _, hwrote, ?_, congrArg Reply.calls hreply⟩
  rw [hresponse]
  exact wizardStep

/-- What a response of the session wrote comes from its request, and from data that were written
before. -/
theorem AllAnswered.writtenFrom (h : AllAnswered sessions config served) {key : CacheKey}
    {model : key.Model} (hwrote : sessions.Wrote config served sessionSecretKey key model) :
    ∃ before entry after data, served = before ++ entry :: after ∧
      sessions.secretServed entry = some sessionSecretKey ∧
      AllStored (sessions.Wrote config after sessionSecretKey) data ∧
      WrittenFrom data entry.exchange key model := by
  obtain ⟨entry, hentry, hsession, hedit⟩ := hwrote
  obtain ⟨before, after, rfl⟩ := List.append_of_mem hentry
  obtain ⟨trackingId, data, calls, hdata, hstep, -⟩ :=
    (h before entry after rfl).step hsession
  exact ⟨before, entry, after, data, rfl, hsession, hdata, hstep.writtenFrom hedit⟩

theorem AllAnswered.entered_tradeDetails (h : AllAnswered sessions config served)
    {model : SetupTradeDetailsModel}
    (hwrote : sessions.Wrote config served sessionSecretKey .setupTradeDetails model) :
    Entered sessions sessionSecretKey served .setupTradeDetails model := by
  obtain ⟨before, entry, after, data, rfl, hsession, -, form, hrequest, hvalid⟩ :=
    h.writtenFrom hwrote
  exact .tradeDetails hsession hrequest hvalid

theorem AllAnswered.entered_trader (h : AllAnswered sessions config served)
    {trader : TraderDetailsModel}
    (hwrote : sessions.Wrote config served sessionSecretKey .traderDetails trader) :
    Entered sessions sessionSecretKey served .traderDetails trader := by
  obtain ⟨before, entry, after, data, rfl, hsession, hdata, setup, hsetup, hname, haddress⟩ :=
    h.writtenFrom hwrote
  obtain ⟨traderName, traderAddress⟩ := trader
  obtain rfl : traderName = setup.traderBusinessName := hname
  have hentered := h.of_append.entered_tradeDetails (hdata _ _ hsetup)
  rcases haddress with ⟨form, model, hrequest, hvalid, haddress⟩ |
    ⟨form, model, hrequest, hvalid, haddress⟩
  · exact .chosenTrader hsession hentered hrequest hvalid haddress
  · obtain rfl : traderAddress = _ := haddress
    exact .enteredTrader hsession hentered hrequest hvalid

theorem AllAnswered.entered_lookup (h : AllAnswered sessions config served)
    {model : VehicleLookupFormModel}
    (hwrote : sessions.Wrote config served sessionSecretKey .vehicleLookupFormModel model) :
    Entered sessions sessionSecretKey served .vehicleLookupFormModel model := by
  obtain ⟨before, entry, after, data, rfl, hsession, -, form, entered, hrequest, hvalid, rfl⟩ :=
    h.writtenFrom hwrote
  exact .lookup hsession hrequest hvalid

end Entered

/-- However requests overtake each other, a disposal is built of the form of its own request, of a
lookup that an earlier request of the same session entered, and of a trader whose name and address
earlier requests of the session entered. -/
theorem inFlight_disposes_entered (sessions : Sessions) (config : Config) {jar : Jar}
    (hclean : Clean jar) (draws : Set SessionDraw) (hapart : sessions.DrawsApart draws)
    (exchanges : Set (Exchange joda)) (hdraws : ∀ exchange ∈ exchanges, exchange.draw ∈ draws)
    (s : Snapshots.Network Jar (List Cookie) (Served joda))
    (hreach : Snapshots.Reachable (sessions.traffic config exchanges) jar s)
    (before : List (Served joda)) (entry : Served joda) (after : List (Served joda))
    (hserved : s.served = before ++ entry :: after) (disposal : DisposeRequest)
    (trackingId : String) (answer : Except Throwable (Answer DisposeResponse))
    (hcall : .dispose disposal trackingId answer ∈
      (sessions.serve config entry.request entry.exchange).2.calls) :
    ∃ sessionSecretKey form disposeFormModel model trader,
      sessions.secretServed entry = some sessionSecretKey ∧
      entry.exchange.request = .disposeSubmit form ∧ form.valid = some disposeFormModel ∧
      Entered sessions sessionSecretKey after .vehicleLookupFormModel model ∧
      Entered sessions sessionSecretKey after .traderDetails trader ∧
      Dispose.buildDisposeMicroServiceRequest entry.exchange.environment
        (Dispose.disposeModelOf model disposeFormModel) trader = .ok disposal := by
  have hanswered : AllAnswered sessions config (before ++ entry :: after) := by
    rw [← hserved]
    exact .of_reachable hclean hapart hdraws hreach
  have hentry := hanswered before entry after rfl
  obtain ⟨sessionSecretKey, _, _, hsession, -⟩ := id hentry
  obtain ⟨trackingId', data, calls, hwrote, hstep, rfl⟩ := hentry.step hsession
  obtain ⟨disposeFormModel, trader, model, hlet, hbuild⟩ := hstep.letThrough_of_dispose_mem hcall
  obtain ⟨form, hrequest, hvalid⟩ := hlet.submitted
  exact ⟨sessionSecretKey, form, disposeFormModel, model, trader, hsession, hrequest, hvalid,
    hanswered.of_append.entered_lookup (hwrote _ _ hlet.lookup),
    hanswered.of_append.entered_trader (hwrote _ _ hlet.trader), hbuild⟩

section Dealer

open Dealer

/-- The requests of a run, each of which waits for the response to the one before. -/
theorem serve_reachable (sessions : Sessions) (config : Config) (exchanges : Set (Exchange joda))
    (jar : Jar) (inputs : List (Exchange joda))
    (hinputs : ∀ exchange ∈ inputs, exchange ∈ exchanges) :
    ∃ served, Snapshots.Reachable (sessions.traffic config exchanges) jar
      { state := Transition.final (sessions.serve config) jar inputs, served := served } := by
  induction inputs using List.reverseRecOn with
  | nil => exact ⟨[], .refl⟩
  | append_singleton inputs exchange ih =>
      obtain ⟨served, hreach⟩ := ih fun other hother =>
        hinputs other (List.mem_append_left _ hother)
      have hexchange : exchange ∈ exchanges := hinputs exchange (by simp)
      refine ⟨⟨Transition.final (sessions.serve config) jar inputs, exchange⟩ :: served, ?_⟩
      rw [Transition.final, List.foldl_append]
      exact hreach.inTurn ⟨rfl, hexchange, rfl⟩

/-- A request that follows a run in sessions of clear text is answered as in the wizard. -/
theorem serve_run (inputs : List (Exchange utc)) (exchange : Exchange utc) :
    ∃ trackingIds : List String, trackingIds.length = inputs.length ∧ ∃ trackingId,
      ((Sessions.clearText noCookieFlags).serve {} (Transition.final
        ((Sessions.clearText noCookieFlags).serve {}) ∅ inputs) exchange).2 =
          (wizard .clearText {} trackingId (Transition.final (wizardRun .clearText {})
            (fun _ => none) (inputs.zip trackingIds)) exchange).2 := by
  obtain ⟨trackingIds, hlength, hholds, -⟩ := run inputs
  obtain ⟨trackingId, -, hreply⟩ : ∃ trackingId, Holds (.clearText noCookieFlags) _ _ ∧
      ((Sessions.clearText noCookieFlags).serve {} _ exchange).2 = _ :=
    serve_simulates {} hholds trivial
  exact ⟨trackingIds, hlength, trackingId, hreply⟩

/-- A trader is entered and a vehicle is looked up, and then it is disposed of. -/
theorem disposal_reachable : ∃ jar served trackingId disposal answer,
    Snapshots.Reachable ((Sessions.clearText noCookieFlags).traffic {} Set.univ) ∅
      { state := jar.receive ((Sessions.clearText noCookieFlags).answer {} disposes jar).setCookies
        served := ⟨jar, disposes⟩ :: served } ∧
    .dispose disposal trackingId answer ∈
      ((Sessions.clearText noCookieFlags).serve {} jar disposes).2.calls := by
  obtain ⟨served, hreach⟩ := serve_reachable (.clearText noCookieFlags) {} Set.univ ∅
    (entersDetails ++ [looksUp "1" "A1" found]) fun _ _ => trivial
  obtain ⟨trackingIds, hlength, trackingId, hreply⟩ :=
    serve_run (entersDetails ++ [looksUp "1" "A1" found]) disposes
  obtain ⟨a, b, c, rfl⟩ := List.length_eq_three.mp hlength
  generalize Transition.final ((Sessions.clearText noCookieFlags).serve {}) ∅ _ = jar at *
  refine ⟨jar, served, trackingId, ?_⟩
  rw [hreply]
  exact ⟨_, _, hreach.inTurn ⟨rfl, Set.mem_univ disposes, rfl⟩, List.mem_singleton_self _⟩

/-- A vehicle is looked up, and then disposed of by a trader who was entered before. -/
theorem inFlight_disposes_entered_dealer :
    ∃ (served : List (Served utc)) (sessionSecretKey : String) (model : VehicleLookupFormModel)
      (trader : TraderDetailsModel),
      Entered (.clearText noCookieFlags) sessionSecretKey served .vehicleLookupFormModel model ∧
      Entered (.clearText noCookieFlags) sessionSecretKey served .traderDetails trader := by
  obtain ⟨jar, served, trackingId, disposal, answer, hreach, hcall⟩ := disposal_reachable
  obtain ⟨sessionSecretKey, -, -, model, trader, -, -, -, hmodel, htrader, -⟩ :=
    inFlight_disposes_entered (.clearText noCookieFlags) {} (fun _ _ => rfl) Set.univ trivial
      Set.univ (fun _ _ => trivial) _ hreach [] ⟨jar, disposes⟩ served rfl disposal trackingId
      answer hcall
  exact ⟨served, sessionSecretKey, model, trader, hmodel, htrader⟩

end Dealer

end VehiclesOnline
