import VehiclesOnline.Wizard.Equivalence
import VehiclesOnline.Wizard.Transactions

/-! # Starting over

What a session keeps where the user starts over, and that nothing else of it has an influence
on what follows. -/

namespace VehiclesOnline

open Transition (final outputs)

variable {joda : Joda}

/-- The two stores hold the same under each of the keys. -/
def AgreeOn (keys : List CacheKey) (data data' : ApplicationData) : Prop :=
  ∀ key ∈ keys, data key = data' key

/-- The browser sends the same, and the services answer the same; the server may draw other
random numbers. -/
structure SameInput (sessions : Sessions) (exchange exchange' : Exchange joda) : Prop where
  request : exchange.request = exchange'.request
  environment : exchange.environment = exchange'.environment
  apart : sessions.Apart exchange.draw
  apart' : sessions.Apart exchange'.draw

section StartOver

variable (joda) (sessions : Sessions) (config : Config)

/-- Some run from a browser without cookies ends with the jar. -/
def Reachable (jar : Jar) : Prop :=
  ∃ (start : Jar) (exchanges : List (Exchange joda)), Clean start ∧
    (∀ exchange ∈ exchanges, sessions.Apart exchange.draw) ∧
    jar = final (sessions.serve config) start exchanges

/-- The two sessions hold the same, and every run that follows is answered alike. -/
structure GoesOnAlike (jar jar' : Jar) : Prop where
  applicationData : sessions.applicationData jar = sessions.applicationData jar'
  outputs : ∀ later later' : List (Exchange joda),
    List.Forall₂ (SameInput sessions) later later' →
    outputs (sessions.observed config) jar later = outputs (sessions.observed config) jar' later'

/-- Two reachable sessions that hold something under each of the required keys and agree on the
kept ones go on alike after the request. -/
def ErasesAllBut (request : Request) (required kept : List CacheKey) : Prop :=
  ∀ (jar jar' : Jar) (exchange exchange' : Exchange joda),
    Reachable joda sessions config jar → Reachable joda sessions config jar' →
    sessions.Apart exchange.draw → sessions.Apart exchange'.draw →
    exchange.request = request → exchange'.request = request →
    HoldsAll required (sessions.applicationData jar) →
    HoldsAll required (sessions.applicationData jar') →
    AgreeOn kept (sessions.applicationData jar) (sessions.applicationData jar') →
    GoesOnAlike joda sessions config (sessions.serve config jar exchange).1
      (sessions.serve config jar' exchange').1

/-- The request leaves what a reachable session with something under each of the required keys
holds under the other ones as it is. -/
def Keeps (request : Request) (required keys : List CacheKey) : Prop :=
  ∀ (jar : Jar) (exchange : Exchange joda), Reachable joda sessions config jar →
    sessions.Apart exchange.draw → exchange.request = request →
    HoldsAll required (sessions.applicationData jar) →
    AgreeOn keys (sessions.applicationData (sessions.serve config jar exchange).1)
      (sessions.applicationData jar)

end StartOver

variable {sessions : Sessions} {config : Config} {jar jar' : Jar}
variable {data data' : ApplicationData} {exchange exchange' : Exchange joda}

theorem Reachable.holds (h : Reachable joda sessions config jar) :
    ∃ data, Holds sessions jar data := by
  obtain ⟨start, exchanges, hclean, hapart, rfl⟩ := h
  obtain ⟨trackingIds, -, hholds, -⟩ := Holds.run config (.of_clean hclean sessions) hapart
  exact ⟨_, hholds⟩

/-! ### Sessions that hold the same -/

/-- Two jars of sessions with the same data. -/
def HoldSame (sessions : Sessions) (jar jar' : Jar) : Prop :=
  ∃ data, Holds sessions jar data ∧ Holds sessions jar' data

theorem HoldSame.observed (config : Config) (h : HoldSame sessions jar jar')
    (hsame : SameInput sessions exchange exchange') :
    (sessions.observed config jar exchange).2 = (sessions.observed config jar' exchange').2 ∧
      HoldSame sessions (sessions.observed config jar exchange).1
        (sessions.observed config jar' exchange').1 := by
  obtain ⟨data, hholds, hholds'⟩ := h
  obtain ⟨trackingId, hnext, hreply⟩ := serve_simulates config hholds hsame.apart
  obtain ⟨trackingId', hnext', hreply'⟩ := serve_simulates config hholds' hsame.apart'
  have hends : (handle config exchange'.environment (.ofData trackingId' data)
      exchange'.request).result = (handle config exchange'.environment (.ofData trackingId data)
      exchange'.request).result := handle_endsAlike trackingId' trackingId exchange'.request
  simp only [wizard, hends] at hnext' hreply'
  simp only [wizard, hsame.request, hsame.environment] at hnext hreply
  refine ⟨?_, _, hnext, hnext'⟩
  simp only [Sessions.observed, hreply, hreply', hnext.applicationData_eq,
    hnext'.applicationData_eq]

theorem HoldSame.goesOnAlike (config : Config) (h : HoldSame sessions jar jar') :
    GoesOnAlike joda sessions config jar jar' where
  applicationData := by
    obtain ⟨data, hholds, hholds'⟩ := h
    rw [hholds.applicationData_eq, hholds'.applicationData_eq]
  outputs later later' hsame :=
    Transition.outputs_eq_of_forall₂ (fun _ _ _ _ h hsame => h.observed config hsame) h hsame

/-! ### What is kept -/

/-- Where what is left of two sessions is the same, they go on alike. -/
theorem erasesAllBut_of_data {request : Request} {required kept : List CacheKey}
    (h : ∀ (data data' : ApplicationData) (trackingId trackingId' : String)
      (exchange exchange' : Exchange joda), exchange.request = request →
      exchange'.request = request → HoldsAll required data → HoldsAll required data' →
      AgreeOn kept data data' →
      (wizard sessions.kind config trackingId data exchange).1 =
        (wizard sessions.kind config trackingId' data' exchange').1) :
    ErasesAllBut joda sessions config request required kept := by
  intro jar jar' exchange exchange' hreach hreach' hapart hapart' hrequest hrequest' hrequired
    hrequired' hkept
  obtain ⟨data, hholds⟩ := hreach.holds
  obtain ⟨data', hholds'⟩ := hreach'.holds
  rw [hholds.applicationData_eq] at hrequired hkept
  rw [hholds'.applicationData_eq] at hrequired' hkept
  obtain ⟨trackingId, hnext, -⟩ := serve_simulates config hholds hapart
  obtain ⟨trackingId', hnext', -⟩ := serve_simulates config hholds' hapart'
  rw [← h data data' trackingId trackingId' exchange exchange' hrequest hrequest' hrequired
    hrequired' hkept] at hnext'
  exact HoldSame.goesOnAlike config ⟨_, hnext, hnext'⟩

/-- A result that edits all but the kept keys leaves the same of stores that agree on these. -/
theorem Result.data_congr {r : Result} {kept : List CacheKey} {kind : SessionKind}
    (h : ∀ key, key ∈ kept ∨ key ∈ (r.edits.flatMap (Edit.assignments kind)).map Sigma.fst)
    (hkept : AgreeOn kept data data') : r.data kind data = r.data kind data' := by
  funext key
  apply KeyValue.assignAll_congr
  intro hne
  rcases h key with hkey | hkey
  · exact hkept key hkey
  · obtain ⟨assignment, hmem, hfst⟩ := List.mem_map.mp hkey
    exact absurd hfst (hne assignment hmem)

section Kept

variable {trackingId : String} {kind : SessionKind}

theorem BeforeYouStart.edits_present (kind : SessionKind) (key : CacheKey) :
    key ∈ [.help, .surveyRequestTriggerDate] ∨
      key ∈ (present.edits.flatMap (Edit.assignments kind)).map Sigma.fst := by
  cases kind <;> cases key <;> decide

theorem DisposeSuccess.edits_newDisposalResult (kind : SessionKind) (key : CacheKey) :
    key ∈ RelatedCacheKeys.TradeDetailsSet ++ [.help, .surveyRequestTriggerDate] ∨
      key ∈ (newDisposalResult.edits.flatMap (Edit.assignments kind)).map Sigma.fst := by
  cases kind <;> cases key <;> decide

theorem VrmLocked.edits_newDisposal (kind : SessionKind) (key : CacheKey) :
    key ∈ RelatedCacheKeys.TradeDetailsSet ++ [.help, .surveyRequestTriggerDate,
        .preventGoingToDisposePage, .disposeOccurred] ∨
      key ∈ (((Result.redirect .vehicleLookup).discardingCookies
        RelatedCacheKeys.DisposeSet).edits.flatMap (Edit.assignments kind)).map Sigma.fst := by
  cases kind <;> cases key <;> decide

theorem DisposeSuccess.newDisposal_data
    (hrequest : exchange.request = .disposeSuccessNewDisposal)
    (hrequired : HoldsAll [.traderDetails, .vehicleLookupDetails] data) :
    (wizard kind config trackingId data exchange).1 = newDisposalResult.data kind data := by
  obtain ⟨trader, htrader⟩ :=
    Option.ne_none_iff_exists'.mp (hrequired .traderDetails (by decide))
  obtain ⟨vehicle, hvehicle⟩ :=
    Option.ne_none_iff_exists'.mp (hrequired .vehicleLookupDetails (by decide))
  simp only [wizard, hrequest, handle, action, newDisposal, RequestCookies.getModel_ofData,
    htrader, hvehicle]
  rfl

theorem VrmLocked.newDisposal_data (hrequest : exchange.request = .vrmLockedNewDisposal)
    (hrequired : HoldsAll [.traderDetails] data) :
    (wizard kind config trackingId data exchange).1 =
      ((Result.redirect .vehicleLookup).discardingCookies RelatedCacheKeys.DisposeSet).data kind
        data := by
  obtain ⟨trader, htrader⟩ :=
    Option.ne_none_iff_exists'.mp (hrequired .traderDetails (by decide))
  simp only [wizard, hrequest, handle, action, newDisposal, RequestCookies.getModel_ofData,
    htrader]
  rfl

end Kept

theorem keeps_of_data {request : Request} {required keys : List CacheKey}
    (h : ∀ (data : ApplicationData) (trackingId : String) (exchange : Exchange joda),
      exchange.request = request → HoldsAll required data →
      AgreeOn keys (wizard sessions.kind config trackingId data exchange).1 data) :
    Keeps joda sessions config request required keys := by
  intro jar exchange hreach hapart hrequest hrequired
  obtain ⟨data, hholds⟩ := hreach.holds
  obtain ⟨trackingId, hnext, -⟩ := serve_simulates config hholds hapart
  rw [hholds.applicationData_eq] at hrequired ⊢
  rw [hnext.applicationData_eq]
  exact h data trackingId exchange hrequest hrequired

/-- The start page erases all but the page for help and the date of the survey, and a new
disposal all that is related to the previous one; the trade details stay as they are. -/
theorem startingOver_erases (sessions : Sessions) (config : Config) :
    ErasesAllBut joda sessions config .beforeYouStartPresent []
        [.help, .surveyRequestTriggerDate] ∧
      ErasesAllBut joda sessions config .disposeSuccessNewDisposal
        [.traderDetails, .vehicleLookupDetails]
        (RelatedCacheKeys.TradeDetailsSet ++ [.help, .surveyRequestTriggerDate]) ∧
      ErasesAllBut joda sessions config .vrmLockedNewDisposal [.traderDetails]
        (RelatedCacheKeys.TradeDetailsSet ++ [.help, .surveyRequestTriggerDate,
          .preventGoingToDisposePage, .disposeOccurred]) ∧
      Keeps joda sessions config .disposeSuccessNewDisposal
        [.traderDetails, .vehicleLookupDetails] RelatedCacheKeys.TradeDetailsSet ∧
      Keeps joda sessions config .vrmLockedNewDisposal [.traderDetails]
        RelatedCacheKeys.TradeDetailsSet := by
  refine ⟨?_, ?_, ?_, ?_, ?_⟩
  · refine erasesAllBut_of_data fun data data' trackingId trackingId' exchange exchange' hrequest
      hrequest' _ _ hkept => ?_
    rw [wizard, wizard, hrequest, hrequest']
    exact Result.data_congr (BeforeYouStart.edits_present sessions.kind) hkept
  · refine erasesAllBut_of_data fun data data' trackingId trackingId' exchange exchange' hrequest
      hrequest' hrequired hrequired' hkept => ?_
    rw [DisposeSuccess.newDisposal_data hrequest hrequired,
      DisposeSuccess.newDisposal_data hrequest' hrequired']
    exact Result.data_congr (DisposeSuccess.edits_newDisposalResult sessions.kind) hkept
  · refine erasesAllBut_of_data fun data data' trackingId trackingId' exchange exchange' hrequest
      hrequest' hrequired hrequired' hkept => ?_
    rw [VrmLocked.newDisposal_data hrequest hrequired,
      VrmLocked.newDisposal_data hrequest' hrequired']
    exact Result.data_congr (VrmLocked.edits_newDisposal sessions.kind) hkept
  · refine keeps_of_data fun data trackingId exchange hrequest hrequired key hkey => ?_
    rw [DisposeSuccess.newDisposal_data hrequest hrequired]
    simp only [RelatedCacheKeys.TradeDetailsSet, List.mem_cons, List.not_mem_nil, or_false] at hkey
    rcases hkey with rfl | rfl | rfl | rfl <;> rfl
  · refine keeps_of_data fun data trackingId exchange hrequest hrequired key hkey => ?_
    rw [VrmLocked.newDisposal_data hrequest hrequired]
    simp only [RelatedCacheKeys.TradeDetailsSet, List.mem_cons, List.not_mem_nil, or_false] at hkey
    rcases hkey with rfl | rfl | rfl | rfl <;> rfl

end VehiclesOnline
