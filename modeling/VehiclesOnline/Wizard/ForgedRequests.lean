import VehiclesOnline.Wizard.HttpTraffic

/-! # Forged requests

Another site can make the browser send a form, but not one with a token of the session. Whatever it
sends, and however its requests overtake those of the user, the browser and the services are left
where they would be if it had sent nothing. -/

namespace VehiclesOnline

open Csrf (InSession LetIn Refusal)

variable {joda : Joda}

/-- The request is let in to its session. -/
def Composition.Admits (composition : Composition) (entry : HttpServed joda) : Prop :=
  ∀ requestCookies trackingId,
    composition.sessions.admitted entry.exchange.draw entry.request = .ok requestCookies →
    InSession composition.csrf (entry.exchange.http.header requestCookies) trackingId →
    LetIn composition.csrf trackingId (entry.exchange.http.header requestCookies)
      entry.exchange.http.body

section Forged

variable {composition : Composition} {draws : Set SessionDraw}
variable {exchanges : Set (HttpExchange joda)}

theorem AdmittedIn.admits_iff {entry : HttpServed joda} {requestCookies : Jar}
    {cookies : List Cookie} {sessionSecretKey trackingId : String}
    (h : AdmittedIn composition.sessions draws entry.exchange.draw entry.request sessionSecretKey
      trackingId requestCookies cookies) :
    composition.Admits entry ↔
      LetIn composition.csrf trackingId (entry.exchange.http.header requestCookies)
        entry.exchange.http.body := by
  constructor
  · intro hadmits
    exact hadmits requestCookies trackingId h.passes.admitted_eq h.inSession
  · intro hlet requestCookies' trackingId' hadmitted hsession
    obtain rfl : requestCookies = requestCookies' :=
      Except.ok.inj (h.passes.admitted_eq.symm.trans hadmitted)
    obtain rfl : trackingId = trackingId' := Except.ok.inj (h.inSession.symm.trans hsession)
    exact hlet

theorem errorStrategy_of_refusal {request : Jar} {cause : Throwable} (h : Refusal cause) :
    (errorStrategy request cause).setCookies = [] := by
  rcases h with h | h
  · rw [errorStrategy, h]
  · rw [errorStrategy, h]

/-- A request that is not let in calls no service, and its answer sets no cookies. -/
theorem HttpServedWell.of_not_admits (hassumed : composition.Assumptions draws exchanges)
    {served : List (HttpServed joda)} {entry : HttpServed joda}
    (h : HttpServedWell composition draws exchanges served entry)
    (hforged : ¬ composition.Admits entry) :
    composition.calls entry.exchange entry.request = [] ∧
      (composition.answer entry.exchange entry.request).setCookies = [] := by
  obtain ⟨sessionSecretKey, trackingId, requestCookies, cookies, hadmitted⟩ :=
    hassumed.apart.exists_admittedIn (hassumed.draw_mem _ h.mem_exchanges) h.request.whole
  rw [hadmitted.admits_iff] at hforged
  rcases hadmitted.handlerFor hassumed h.mem_exchanges with
    ⟨hlet, -⟩ | ⟨-, cause, hcause, hhandler⟩
  · exact absurd hlet hforged
  · obtain ⟨line, hserved⟩ := hadmitted.passes.served_of_error
      (AccessLoggingFilter.apply_of_error (checked_of_error hhandler))
    refine ⟨?_, ?_⟩
    · rw [Composition.calls, hserved]
      rfl
    · rw [Composition.answer, hserved]
      exact errorStrategy_of_refusal hcause

theorem flatMap_filter_of_nil {α β : Type} {P : α → Prop} [DecidablePred P] {f : α → List β}
    {as : List α} (h : ∀ a ∈ as, ¬ P a → f a = []) :
    (as.filter fun a => decide (P a)).flatMap f = as.flatMap f := by
  induction as with
  | nil => rfl
  | cons a as ih =>
      have hrest := ih fun b hb => h b (List.mem_cons_of_mem a hb)
      by_cases hP : P a
      · simp only [List.filter_cons, decide_eq_true hP, if_true, List.flatMap_cons, hrest]
      · simp only [List.filter_cons, decide_eq_false hP, Bool.false_eq_true, if_false,
          List.flatMap_cons, h a List.mem_cons_self hP, hrest, List.nil_append]

open Classical in
/-- Whatever forged requests are sent, the browser gets as far without them, with the same cookies
and the same requests under way, and the services are called as often. -/
theorem http_inFlight_erases_forged (composition : Composition) {jar : Jar} (hclean : Clean jar)
    (draws : Set SessionDraw) (exchanges : Set (HttpExchange joda))
    (hassumed : composition.Assumptions draws exchanges)
    (s : Snapshots.Network Jar (List Cookie) (HttpServed joda))
    (hreach : Snapshots.Reachable (composition.traffic exchanges) jar s) :
    (∃ responses,
      Snapshots.Erased (composition.traffic exchanges) s.responses responses ∧
      Snapshots.Reachable ((composition.traffic exchanges).restrict composition.Admits) jar
        { s with
          responses := responses
          served := s.served.filter fun entry => decide (composition.Admits entry) }) ∧
    ((s.served.filter fun entry => decide (composition.Admits entry)).flatMap fun entry =>
        composition.calls entry.exchange entry.request) =
      s.served.flatMap fun entry => composition.calls entry.exchange entry.request := by
  have hkeeps := http_traffic_keeps hassumed
  refine ⟨hreach.erase ?_, flatMap_filter_of_nil ?_⟩
  · intro s hreach request hrequest response entry hserves hforged state
    have hinvariant := (hreach.safe hkeeps (jarInvariant_of_clean hclean)).requests request hrequest
    obtain ⟨rfl, hexchange, rfl⟩ := hserves
    have hwell : HttpServedWell composition draws exchanges s.served entry :=
      ⟨hexchange, hinvariant⟩
    rw [(hwell.of_not_admits hassumed hforged).2]
    rfl
  · intro entry hentry hforged
    obtain ⟨before, after, hserved⟩ := List.append_of_mem hentry
    exact ((HttpServedWell.of_reachable hassumed hclean hreach hserved).of_not_admits hassumed
      hforged).1

end Forged

section Dealer

open Csrf (inspectedBytes tokenOfBody)

/-- A lookup that another site sends, without a token. -/
def sendsForged (fields : List (String × String)) : HttpExchange utc :=
  { sendsLookup with
    http :=
      { sendsLookup.http with
        headers := fun _ => none
        body := FormUrlEncoded.render fields } }

theorem sendsForged_assumptions {fields : List (String × String)} (hne : fields ≠ [])
    (hplain : PlainFields fields) (htokenName : Csrf.formData fields Csrf.tokenName = none) :
    clearTextComposition.Assumptions {zeroDraw} {sendsForged fields} where
  apart := trivial
  draw_mem := by
    rintro _ rfl
    rfl
  trackingIds := by
    rintro _ rfl
    exact Csrf.delimiter_not_mem_defaultTrackingId
  unforged := by
    rintro _ rfl requestCookies token htoken
    have hparse : FormUrlEncoded.parse (FormUrlEncoded.render fields) = some fields :=
      FormUrlEncoded.parse_render hne fun field hfield => (hplain.1 field hfield).1
    have hlength : (FormUrlEncoded.render fields).length ≤ inspectedBytes :=
      (FormUrlEncoded.length_render_le fields).trans (hplain.2.trans (by decide))
    have hbody : (sendsForged fields).http.body = FormUrlEncoded.render fields := rfl
    have hread : clearTextComposition.csrf.tolerantFormUrlEncoded
        ((sendsForged fields).http.header requestCookies) (FormUrlEncoded.render fields) =
        some (Csrf.formData fields) :=
      readsForms_clearText.tolerantFormUrlEncoded ((sendsForged fields).http.header
        requestCookies) _ _ hlength hparse
    rw [hbody, List.take_of_length_le hlength, tokenOfBody, hread] at htoken
    simp only [htokenName] at htoken
    cases htoken

open Classical in
/-- The forged lookup is as if it had not been sent. -/
theorem http_inFlight_erases_forged_lookup :
    ∃ responses,
      Snapshots.Erased (clearTextComposition.traffic {sendsForged lookupFields})
        [(clearTextComposition.answer (sendsForged lookupFields) ∅).setCookies] responses ∧
      Snapshots.Reachable
        ((clearTextComposition.traffic {sendsForged lookupFields}).restrict
          clearTextComposition.Admits) ∅
        { state := ∅
          responses := responses
          served := [⟨∅, sendsForged lookupFields⟩].filter fun entry =>
            decide (clearTextComposition.Admits entry) } :=
  (http_inFlight_erases_forged clearTextComposition (fun _ _ => rfl) {zeroDraw} _
    (sendsForged_assumptions (by decide) (plainFields_dealer _ (by simp)) (by decide)) _
    (sendsOnce_reachable clearTextComposition (Set.mem_singleton _))).1

end Dealer

end VehiclesOnline
