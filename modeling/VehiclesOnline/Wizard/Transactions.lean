import VehiclesOnline.Wizard.Parts
import VehiclesOnline.Wizard.Runs

/-! # The transaction that is shown

The pages of a disposal show the identifiers that the session holds. Over every run they are
those of the last disposal exactly if its response has them. -/

namespace VehiclesOnline

variable {joda : Joda}

/-! ### The last response -/

/-- The response of a disposal; nothing if the service failed. -/
def ServiceCall.disposeResponse : ServiceCall → Option (Option DisposeResponse)
  | dispose _ _ answer => some (answer.toOption.bind Prod.snd)
  | _ => none

/-- The calls of the services so far, oldest first. -/
def History.calls (history : History joda) : List ServiceCall :=
  history.flatMap fun entry => entry.2.calls

/-- The response of the last disposal, if the service returned one. -/
def History.lastResponse (history : History joda) : Option DisposeResponse :=
  (Log.lastOf ServiceCall.disposeResponse history.calls).join

section LastResponse

variable {history : History joda} {exchange : Exchange joda} {reply : Reply}

theorem History.calls_concat :
    History.calls (history ++ [(exchange, reply)]) = history.calls ++ reply.calls := by
  simp [History.calls]

theorem History.lastResponse_of_forall
    (h : ∀ call ∈ reply.calls, call.disposeResponse = none) :
    History.lastResponse (history ++ [(exchange, reply)]) = history.lastResponse := by
  rw [History.lastResponse, History.calls_concat, Log.lastOf_append_of_forall h,
    History.lastResponse]

theorem History.lastResponse_dispose {disposal : DisposeRequest} {trackingId : String}
    {answer : Except Throwable (Answer DisposeResponse)}
    (h : reply.calls = [.dispose disposal trackingId answer]) :
    History.lastResponse (history ++ [(exchange, reply)]) = answer.toOption.bind Prod.snd := by
  have hread : ServiceCall.disposeResponse (.dispose disposal trackingId answer) =
      some (answer.toOption.bind Prod.snd) := rfl
  rw [History.lastResponse, History.calls_concat, h, Log.lastOf_concat hread, Option.join_some]

theorem disposeResponse_of_not_disposes {call : ServiceCall} (h : ¬ call.Disposes) :
    call.disposeResponse = none := by
  cases call with
  | dispose request trackingId answer => exact absurd trivial h
  | _ => rfl

end LastResponse

/-! ### What the session holds of it -/

/-- An identifier that the session holds is not empty, and that of the last response if that
has one. -/
def Follows (text : DisposeResponse → String) (held : Option String)
    (last : Option DisposeResponse) : Prop :=
  ∀ s, held = some s → s ≠ "" ∧ ∀ response, last = some response → text response ≠ "" →
    s = text response

section Follows

variable {text : DisposeResponse → String} {held held' : Option String}
variable {last : Option DisposeResponse}

theorem follows_none : Follows text none last := by
  rintro s ⟨⟩

theorem Follows.frame (h : Follows text held last) (hheld : held' = held ∨ held' = none) :
    Follows text held' last := by
  rcases hheld with rfl | rfl
  · exact h
  · exact follows_none

/-- An answer replaces what was held before, if it has the identifier. -/
theorem Follows.answers (h : Follows text held last) (response : Option DisposeResponse) :
    Follows text ((Dispose.nonEmptyText text response).or held) response := by
  cases response with
  | none => exact fun s hs => ⟨(h s hs).1, by rintro response ⟨⟩⟩
  | some o =>
      by_cases hempty : text o = ""
      · rw [Dispose.nonEmptyText_of_eq hempty, Option.none_or]
        rintro s hs
        refine ⟨(h s hs).1, ?_⟩
        rintro _ ⟨⟩ hne
        exact absurd hempty hne
      · rw [Dispose.nonEmptyText_of_ne hempty, Option.some_or]
        rintro _ ⟨⟩
        refine ⟨hempty, ?_⟩
        rintro _ ⟨⟩ -
        rfl

end Follows

/-- The session holds the identifiers of the last response that has them. -/
structure FollowsResponses (history : History joda) (data : ApplicationData) : Prop where
  transactionId : Follows DisposeResponse.transactionId (data .disposeFormTransactionId)
    history.lastResponse
  registrationNumber : Follows DisposeResponse.registrationNumber
    (data .disposeFormRegistrationNumber) history.lastResponse

theorem FollowsResponses.frame {history : History joda} {data data' : ApplicationData}
    (h : FollowsResponses history data) {exchange : Exchange joda} {reply : Reply}
    (hcalls : ∀ call ∈ reply.calls, ¬ call.Disposes)
    (htransactionId : data' .disposeFormTransactionId = data .disposeFormTransactionId ∨
      data' .disposeFormTransactionId = none)
    (hregistrationNumber : data' .disposeFormRegistrationNumber =
      data .disposeFormRegistrationNumber ∨ data' .disposeFormRegistrationNumber = none) :
    FollowsResponses (history ++ [(exchange, reply)]) data' := by
  have hlast : History.lastResponse (history ++ [(exchange, reply)]) = history.lastResponse :=
    History.lastResponse_of_forall fun call hc => disposeResponse_of_not_disposes (hcalls call hc)
  refine ⟨?_, ?_⟩
  · rw [hlast]
    exact h.transactionId.frame htransactionId
  · rw [hlast]
    exact h.registrationNumber.frame hregistrationNumber

theorem FollowsResponses.answers {history : History joda} {data data' : ApplicationData}
    (h : FollowsResponses history data) {exchange : Exchange joda} {reply : Reply}
    {disposal : DisposeRequest} {trackingId : String}
    {answer : Except Throwable (Answer DisposeResponse)}
    (hcalls : reply.calls = [.dispose disposal trackingId answer])
    (htransactionId : data' .disposeFormTransactionId =
      (Dispose.nonEmptyText DisposeResponse.transactionId (answer.toOption.bind Prod.snd)).or
        (data .disposeFormTransactionId))
    (hregistrationNumber : data' .disposeFormRegistrationNumber =
      (Dispose.nonEmptyText DisposeResponse.registrationNumber (answer.toOption.bind Prod.snd)).or
        (data .disposeFormRegistrationNumber)) :
    FollowsResponses (history ++ [(exchange, reply)]) data' := by
  refine ⟨?_, ?_⟩
  · rw [History.lastResponse_dispose hcalls, htransactionId]
    exact h.transactionId.answers _
  · rw [History.lastResponse_dispose hcalls, hregistrationNumber]
    exact h.registrationNumber.answers _

theorem preserves_followsResponses (P : RunCondition joda) (kind : SessionKind)
    (config : Config) : Preserves kind config P FollowsResponses := by
  rintro history data exchange trackingId calls response h hstep -
  have hdisposal := hstep.disposalStep kind
  generalize response.data kind data = data' at hdisposal ⊢
  cases hdisposal with
  | answered hrequest hvalid hstores =>
      exact h.answers rfl hstores.transactionId hstores.registrationNumber
  | fails => exact h.answers rfl rfl rfl
  | others hcalls hform htransactionId hregistrationNumber =>
      exact h.frame hcalls htransactionId hregistrationNumber

/-! ### What the pages show -/

/-- The session holds something under each of the keys. -/
def HoldsAll (keys : List CacheKey) (data : ApplicationData) : Prop :=
  ∀ key ∈ keys, data key ≠ none

def DisposeSuccess.shownKeys : List CacheKey :=
  [.traderDetails, .disposeFormModel, .vehicleLookupDetails, .disposeFormTransactionId,
    .disposeFormRegistrationNumber]

def DisposeFailure.shownKeys : List CacheKey :=
  [.traderDetails, .disposeFormModel, .vehicleLookupDetails, .disposeFormTransactionId]

/-- What is shown of a transaction is of the response of the last disposal. -/
structure ShowsLastTransaction (history : History joda) (reply : Reply) : Prop where
  success : ∀ view formModel url, reply.content = .ok (.disposeSuccess view formModel url) →
    ∃ response, history.lastResponse = some response ∧
      view.transactionId = some response.transactionId ∧
      view.registrationNumber = response.registrationNumber
  failure : ∀ view formModel, reply.content = .ok (.disposeFailure view formModel) →
    ∃ response, history.lastResponse = some response ∧
      view.transactionId = some response.transactionId

/-- When a page is requested in a session that holds what it shows, the last disposal was
answered with a response that has the identifiers of the page. -/
structure IdentifiedWhenShown (history : History joda) (data : ApplicationData)
    (exchange : Exchange joda) : Prop where
  success : exchange.request = .disposeSuccessPresent → HoldsAll DisposeSuccess.shownKeys data →
    ∃ response, history.lastResponse = some response ∧ response.transactionId ≠ "" ∧
      response.registrationNumber ≠ ""
  failure : exchange.request = .disposeFailurePresent → HoldsAll DisposeFailure.shownKeys data →
    ∃ response, history.lastResponse = some response ∧ response.transactionId ≠ ""

theorem ensures_showsLastTransaction (config : Config) :
    Ensures config (fun history data (exchange : Exchange joda) _ =>
        IdentifiedWhenShown history data exchange)
      FollowsResponses (fun history _ _ reply => ShowsLastTransaction history reply) := by
  intro history data exchange trackingId calls response h hstep hidentified
  cases hstep with
  | plain hcalls hedits hcontent =>
      refine ⟨fun view formModel url hpage => ?_, fun view formModel hpage => ?_⟩
      · have hplain : Content.Plain (.ok (.disposeSuccess view formModel url)) := by
          rw [← hpage]
          exact hcontent
        exact hplain.elim
      · have hplain : Content.Plain (.ok (.disposeFailure view formModel)) := by
          rw [← hpage]
          exact hcontent
        exact hplain.elim
  | @disposed form disposeFormModel trader model disposal status response =>
      have hcontent := Dispose.storedResult_content exchange.environment
        (Dispose.disposeModelOf model disposeFormModel) disposeFormModel status response
      refine ⟨fun view formModel url hpage => ?_, fun view formModel hpage => ?_⟩
      · cases hpage.symm.trans hcontent
      · cases hpage.symm.trans hcontent
  | showsLookup htrader hurl hresult =>
      rcases hresult with rfl | rfl <;> exact ⟨by rintro _ _ _ ⟨⟩, by rintro _ _ ⟨⟩⟩
  | showsSuccess hrequest htrader hform hvehicle htransactionId hregistrationNumber =>
      refine ⟨?_, by rintro _ _ ⟨⟩⟩
      rintro _ _ _ ⟨⟩
      obtain ⟨response, hlast, htransaction, hregistration⟩ :=
        hidentified.success hrequest (by simp [HoldsAll, DisposeSuccess.shownKeys, *])
      refine ⟨response, hlast, ?_, ?_⟩
      · exact congrArg some ((h.transactionId _ htransactionId).2 response hlast htransaction)
      · exact (h.registrationNumber _ hregistrationNumber).2 response hlast hregistration
  | showsFailure hrequest htrader hform hvehicle htransactionId =>
      refine ⟨by rintro _ _ _ ⟨⟩, ?_⟩
      rintro _ _ ⟨⟩
      obtain ⟨response, hlast, htransaction⟩ :=
        hidentified.failure hrequest (by simp [HoldsAll, DisposeFailure.shownKeys, *])
      refine ⟨response, hlast, ?_⟩
      exact congrArg some ((h.transactionId _ htransactionId).2 response hlast htransaction)
  | _ => exact ⟨by rintro _ _ _ ⟨⟩, by rintro _ _ ⟨⟩⟩

/-! ### Runs -/

/-- In every run the pages show the transaction of the last disposal, as long as its response
has the identifiers whenever one of the pages is shown. -/
theorem showsLastTransaction_of_identifiedWhenShown (sessions : Sessions) (config : Config)
    {jar : Jar} (hclean : Clean jar) {exchanges : List (Exchange joda)}
    (hapart : ∀ exchange ∈ exchanges, sessions.Apart exchange.draw)
    (hidentified : sessions.Throughout config
      (fun history data exchange _ => IdentifiedWhenShown history data exchange) jar exchanges) :
    sessions.Throughout config (fun history _ _ reply => ShowsLastTransaction history reply) jar
      exchanges :=
  Sessions.Throughout.of_invariant (preserves_followsResponses _ sessions.kind config)
    (ensures_showsLastTransaction config) ⟨follows_none, follows_none⟩ hclean hapart hidentified

section Dealer

open Dealer

def asksForSuccessPage : Exchange utc := sends .disposeSuccessPresent found

/-- A disposal that is answered with a body that is no response. -/
def disposesWithoutResponse : Exchange utc :=
  { disposes with
    environment := { services found with callDisposeService := .ok ⟨200, .ok none⟩ } }

/-- A disposal with its page. -/
theorem showsLastTransaction_of_identifiedWhenShown_dealer :
    (Sessions.clearText noCookieFlags).Throughout {}
      (fun history _ _ reply => ShowsLastTransaction history reply) ∅
      (entersDetails ++ [looksUp "1" "A1" found, disposes] ++ [asksForSuccessPage]) := by
  refine showsLastTransaction_of_identifiedWhenShown (.clearText noCookieFlags) {}
    (fun _ _ => rfl) (fun _ _ => trivial) ?_
  obtain ⟨trackingIds, trackingId, hlength, hconcat⟩ := throughout_concat
    (fun history data exchange _ => IdentifiedWhenShown history data exchange)
    (entersDetails ++ [looksUp "1" "A1" found, disposes]) asksForSuccessPage
  obtain ⟨a, _, rfl⟩ := List.exists_of_length_succ trackingIds hlength
  obtain ⟨b, c, d, rfl⟩ := List.length_eq_three.mp (Nat.succ.inj hlength)
  refine hconcat.mpr ⟨Transition.along_of_forall _ fun state exchange hmem => ?_, ?_⟩
  · simp only [entersDetails, List.cons_append, List.nil_append, List.mem_cons, List.not_mem_nil,
      or_false] at hmem
    rcases hmem with rfl | rfl | rfl | rfl <;> exact ⟨by rintro ⟨⟩, by rintro ⟨⟩⟩
  · exact ⟨fun _ _ => ⟨_, rfl, by decide, by decide⟩, by rintro ⟨⟩⟩

/-- The second disposal gets no response: its page shows the transaction of the first. -/
theorem not_showsLastTransaction_withoutResponse :
    ¬ (Sessions.clearText noCookieFlags).Throughout {}
      (fun history _ _ reply => ShowsLastTransaction history reply) ∅
      (entersDetails ++ [looksUp "1" "A1" found, disposes, looksUp "2" "B1" found,
        disposesWithoutResponse] ++ [asksForSuccessPage]) := by
  intro h
  obtain ⟨trackingIds, trackingId, hlength, hconcat⟩ := throughout_concat
    (fun history _ _ reply => ShowsLastTransaction history reply)
    (entersDetails ++ [looksUp "1" "A1" found, disposes, looksUp "2" "B1" found,
      disposesWithoutResponse]) asksForSuccessPage
  obtain ⟨a, _, rfl⟩ := List.exists_of_length_succ trackingIds hlength
  obtain ⟨b, _, rfl⟩ := List.exists_of_length_succ _ (Nat.succ.inj hlength)
  obtain ⟨c, d, e, f, rfl⟩ := List.length_eq_four.mp (Nat.succ.inj (Nat.succ.inj hlength))
  obtain ⟨response, hresponse, -⟩ := (hconcat.mp h).2.success _ _ _ rfl
  cases hresponse

end Dealer

end VehiclesOnline
