import VehiclesOnline.Wizard.Interleavings

/-! # Receipts

The responses that a browser has received, in their order, decide what its session holds, however
many requests were under way meanwhile. After the receipt of a disposal no vehicle is disposed of
unless something that opens the way was received as well. -/

namespace VehiclesOnline

open Result (redirect)

variable {joda : Joda}

namespace Sessions

variable (sessions : Sessions) (config : Config)

/-- The cookies that the answer to a request sets. -/
def cookiesTo (entry : Served joda) : List Cookie :=
  (sessions.answer config entry.exchange entry.request).setCookies

/-- The data of a session when the response to a request has arrived. -/
def receives (sessionSecretKey : String) (data : ApplicationData) (entry : Served joda) :
    ApplicationData :=
  (sessions.responseTo config entry).effect.received (sessions.codingOf sessionSecretKey)
    sessions.kind entry.request (sessions.secretServed entry = some sessionSecretKey) data

/-- The data of a session after the responses have arrived in turn. -/
def dataAfter (sessionSecretKey : String) (received : List (Served joda)) : ApplicationData :=
  received.foldl (sessions.receives config sessionSecretKey) fun _ => none

end Sessions

/-! ### The log of a snapshot -/

section Log

variable {sessions : Sessions} {config : Config} {draws : Set SessionDraw}
variable {exchanges : Set (Exchange joda)} {served : List (Served joda)} {jar : Jar}
variable {sessionSecretKey : String}

theorem traffic_tells {request : Jar} {response : List Cookie} {entry : Served joda}
    (h : (sessions.traffic config exchanges).Serves request response entry) :
    request = entry.request ∧ response = sessions.cookiesTo config entry := by
  obtain ⟨rfl, -, rfl⟩ := h
  exact ⟨rfl, rfl⟩

theorem ServedWell.coded_receives (hapart : sessions.DrawsApart draws)
    (hdraws : ∀ exchange ∈ exchanges, exchange.draw ∈ draws) {entry : Served joda}
    (h : ServedWell sessions config draws exchanges served entry)
    (hsecret : sessionSecretKey ∈ sessions.secrets draws) {data : ApplicationData}
    (hcoded : Coded (sessions.codingOf sessionSecretKey) jar data) :
    Coded (sessions.codingOf sessionSecretKey) (jar.receive (sessions.cookiesTo config entry))
      (sessions.receives config sessionSecretKey data entry) := by
  obtain ⟨served, trackingId, requestCookies, cookies, hadmitted⟩ :=
    hapart.exists_admittedIn (hdraws _ h.mem_exchanges) h.request.whole
  obtain ⟨-, hcookies⟩ := hadmitted.answer config entry.exchange hapart
  rw [Sessions.receives, hadmitted.responseTo_eq]
  refine hadmitted.coded_receive hapart hcookies hsecret ?_ hcoded
  rw [hadmitted.secretServed_eq, Option.some_inj, eq_comm]

/-- Every response that was received has had its effect, and nothing else has. -/
theorem coded_after (hapart : sessions.DrawsApart draws)
    (hdraws : ∀ exchange ∈ exchanges, exchange.draw ∈ draws)
    (hsecret : sessionSecretKey ∈ sessions.secrets draws) (hclean : Clean jar)
    {received : List (Served joda)}
    (hserved : ∀ entry ∈ received, ∃ served,
      ServedWell sessions config draws exchanges served entry) :
    Coded (sessions.codingOf sessionSecretKey)
      ((sessions.traffic config exchanges).after (sessions.cookiesTo config) jar received)
      (sessions.dataAfter config sessionSecretKey received) := by
  rw [Snapshots.Protocol.after, Sessions.dataAfter]
  have hcoded : Coded (sessions.codingOf sessionSecretKey) jar fun _ => none :=
    coded_of_clean hclean sessionSecretKey
  generalize (fun _ => none : ApplicationData) = data at hcoded ⊢
  clear hclean
  induction received generalizing jar data with
  | nil => exact hcoded
  | cons entry received ih =>
      obtain ⟨hentry, hreceived⟩ := List.forall_mem_cons.mp hserved
      obtain ⟨served, hwell⟩ := hentry
      exact ih hreceived _ (hwell.coded_receives hapart hdraws hsecret hcoded)

section Traffic

variable {s : Snapshots.LoggedNetwork Jar (List Cookie) (Served joda)}

/-- The logs of the browser and of every request that it sent tell their cookies. -/
theorem safe_log
    (hreach : Snapshots.Reachable (sessions.traffic config exchanges).logged { value := jar } s) :
    Snapshots.Safe (sessions.traffic config exchanges).logged
      (fun served client => (sessions.traffic config exchanges).LogOf (sessions.cookiesTo config)
        jar (served.map Snapshots.Logged.value) client.value client.received)
      (fun served entry => (sessions.traffic config exchanges).LogOf (sessions.cookiesTo config)
        jar (served.map Snapshots.Logged.value) entry.value.request entry.received) s :=
  hreach.safe (Snapshots.keeps_log fun _ _ _ => traffic_tells)
    ⟨fun _ hmem => absurd hmem List.not_mem_nil, rfl⟩

theorem exists_servedWell (hclean : Clean jar) (hapart : sessions.DrawsApart draws)
    (hdraws : ∀ exchange ∈ exchanges, exchange.draw ∈ draws)
    (hreach : Snapshots.Reachable (sessions.traffic config exchanges).logged { value := jar } s)
    {entry : Served joda} (hentry : entry ∈ s.served.map Snapshots.Logged.value) :
    ∃ served, ServedWell sessions config draws exchanges served entry := by
  have hsafe := hreach.unlogged.safe (traffic_keeps hapart hdraws) (jarInvariant_of_clean hclean)
  obtain ⟨before, after, hserved⟩ := List.append_of_mem hentry
  exact ⟨after, hsafe.served before entry after hserved⟩

/-- A request is answered on what the responses in its log made of its session. -/
theorem answers_log (hclean : Clean jar) (hapart : sessions.DrawsApart draws)
    (hdraws : ∀ exchange ∈ exchanges, exchange.draw ∈ draws)
    (hreach : Snapshots.Reachable (sessions.traffic config exchanges).logged { value := jar } s)
    {before after : List (Snapshots.Logged (Served joda) (Served joda))}
    {entry : Snapshots.Logged (Served joda) (Served joda)}
    (hserved : s.served = before ++ entry :: after) :
    ∃ sessionSecretKey trackingId,
      (∀ other ∈ entry.received, other ∈ after.map Snapshots.Logged.value) ∧
      entry.value.request = (sessions.traffic config exchanges).after (sessions.cookiesTo config)
        jar entry.received ∧
      sessions.secretServed entry.value = some sessionSecretKey ∧
      sessions.responseTo config entry.value =
        settle (handle config entry.value.exchange.environment
          (.ofData trackingId (sessions.dataAfter config sessionSecretKey entry.received))
          entry.value.exchange.request).result ∧
      (sessions.serve config entry.value.request entry.value.exchange).2 =
        (wizard sessions.kind config trackingId
          (sessions.dataAfter config sessionSecretKey entry.received)
          entry.value.exchange).2 := by
  have hsafe := hreach.unlogged.safe (traffic_keeps hapart hdraws) (jarInvariant_of_clean hclean)
  have hunlogged : s.unlogged.served = before.map Snapshots.Logged.value ++
      entry.value :: after.map Snapshots.Logged.value := by
    rw [Snapshots.Network.unlogged, hserved, List.map_append, List.map_cons]
  have hlog := (safe_log hreach).served before entry after hserved
  obtain ⟨sessionSecretKey, hmem, trackingId, hsecret, hanswers⟩ :=
    (hsafe.served _ _ _ hunlogged).answers hapart hdraws
  refine ⟨sessionSecretKey, trackingId, hlog.served, hlog.state_eq, hsecret, hanswers _ ?_⟩
  rw [hlog.state_eq]
  refine coded_after hapart hdraws hmem hclean fun other hother =>
    exists_servedWell hclean hapart hdraws hreach ?_
  rw [hserved, List.map_append, List.map_cons]
  exact List.mem_append_right _ (List.mem_cons_of_mem _ (hlog.served other hother))

/-- A session holds what the responses in its log made of it. -/
theorem applicationData_log (hclean : Clean jar) (hapart : sessions.DrawsApart draws)
    (hdraws : ∀ exchange ∈ exchanges, exchange.draw ∈ draws)
    (hreach : Snapshots.Reachable (sessions.traffic config exchanges).logged { value := jar } s)
    {snapshot : Jar} {received served : List (Served joda)}
    (hinvariant : JarInvariant sessions config draws served snapshot)
    (hlog : (sessions.traffic config exchanges).LogOf (sessions.cookiesTo config) jar
      (s.served.map Snapshots.Logged.value) snapshot received)
    (hsecret : sessions.secretOf snapshot = some sessionSecretKey) :
    sessions.applicationData snapshot = sessions.dataAfter config sessionSecretKey received := by
  obtain ⟨hmem, hholds⟩ := hinvariant.whole.holds hapart hsecret
  refine (hholds _ ?_).applicationData_eq
  rw [hlog.state_eq]
  exact coded_after hapart hdraws hmem hclean fun entry hentry =>
    exists_servedWell hclean hapart hdraws hreach (hlog.served entry hentry)

end Traffic

/-- However requests and responses overtake each other or get lost, the session of the browser, and
of every request under way, holds what the responses that were received made of it, in the order
of their receipt, and every request is answered as the wizard answers it on what had been received
when it was sent. -/
theorem inFlight_refines (sessions : Sessions) (config : Config) {jar : Jar}
    (hclean : Clean jar) (draws : Set SessionDraw) (hapart : sessions.DrawsApart draws)
    (exchanges : Set (Exchange joda)) (hdraws : ∀ exchange ∈ exchanges, exchange.draw ∈ draws)
    (s : Snapshots.LoggedNetwork Jar (List Cookie) (Served joda))
    (hreach : Snapshots.Reachable (sessions.traffic config exchanges).logged { value := jar } s) :
    (∀ snapshot ∈ s.state :: s.requests,
      (∀ entry ∈ snapshot.received, entry ∈ s.served.map Snapshots.Logged.value) ∧
      snapshot.value = (sessions.traffic config exchanges).after (sessions.cookiesTo config) jar
        snapshot.received ∧
      ∀ sessionSecretKey, sessions.secretOf snapshot.value = some sessionSecretKey →
        sessions.applicationData snapshot.value =
          sessions.dataAfter config sessionSecretKey snapshot.received) ∧
    ∀ before entry after, s.served = before ++ entry :: after →
      ∃ sessionSecretKey trackingId,
        (∀ other ∈ entry.received, other ∈ after.map Snapshots.Logged.value) ∧
        entry.value.request = (sessions.traffic config exchanges).after (sessions.cookiesTo config)
          jar entry.received ∧
        sessions.secretServed entry.value = some sessionSecretKey ∧
        sessions.responseTo config entry.value =
          settle (handle config entry.value.exchange.environment
            (.ofData trackingId (sessions.dataAfter config sessionSecretKey entry.received))
            entry.value.exchange.request).result ∧
        (sessions.serve config entry.value.request entry.value.exchange).2 =
          (wizard sessions.kind config trackingId
            (sessions.dataAfter config sessionSecretKey entry.received)
            entry.value.exchange).2 := by
  have hsafe := hreach.unlogged.safe (traffic_keeps hapart hdraws) (jarInvariant_of_clean hclean)
  have hlogs := safe_log hreach
  refine ⟨fun snapshot hmem => ?_, fun before entry after hserved =>
    answers_log hclean hapart hdraws hreach hserved⟩
  rcases List.mem_cons.mp hmem with rfl | hmem
  · exact ⟨hlogs.state.served, hlogs.state.state_eq, fun sessionSecretKey hsecret =>
      applicationData_log hclean hapart hdraws hreach hsafe.state hlogs.state hsecret⟩
  · have hlog := hlogs.requests snapshot hmem
    have hinvariant := hsafe.requests snapshot.value (List.mem_map_of_mem hmem)
    exact ⟨hlog.served, hlog.state_eq, fun sessionSecretKey hsecret =>
      applicationData_log hclean hapart hdraws hreach hinvariant hlog hsecret⟩

end Log

/-! ### The way to another disposal -/

/-- The way to a disposal is barred by the flag, or for want of a lookup. -/
def Barred (data : ApplicationData) : Prop :=
  data .preventGoingToDisposePage ≠ none ∨ data .vehicleLookupFormModel = none

theorem Barred.congr {data data' : ApplicationData} (h : Barred data)
    (hflag : data' .preventGoingToDisposePage = data .preventGoingToDisposePage)
    (hlookup : data' .vehicleLookupFormModel = data .vehicleLookupFormModel) : Barred data' := by
  rw [Barred, hflag, hlookup]
  exact h

section Step

variable {config : Config} {trackingId : String} {data data' : ApplicationData}
variable {exchange : Exchange joda} {calls : List ServiceCall} {r : Result}

/-- Only a lookup that was answered, or the dispose page that removes the flag, opens a way that is
barred. -/
theorem WizardStep.keepsBarred (h : WizardStep config trackingId data exchange calls (.result r))
    (hlookup : ∀ lookup trackingId answer,
      .vehicleLookup lookup trackingId (.ok answer) ∉ calls)
    (hpage : r ≠ (redirect .vehicleLookup).discardingCookie .preventGoingToDisposePage)
    (kind : SessionKind)
    (hbarred : Barred data') : Barred (r.data kind data') := by
  cases h with
  | plain hcalls hedits hcontent =>
      rw [Result.data, Result.data_of_withLang hedits]
      exact hbarred
  | startsOver | exitsLookup | exitsLock | newDisposal | exitsSuccess | newDisposalAfterLock =>
      exact .inr rfl
  | finds | findsNothing | lookupFails =>
      exact absurd (List.mem_append_right _ (List.mem_singleton_self _)) (hlookup _ _ _)
  | disposed =>
      left
      rw [(Dispose.storedResult_storesAnswer _ _ _ _ _ kind data').preventGoingToDisposePage]
      exact Option.some_ne_none ""
  | reopens => exact absurd rfl hpage
  | showsDispose => exact hbarred
  | showsLookup htrader hurl hresult =>
      rcases hresult with rfl | rfl
      · exact hbarred
      · exact hbarred
  | showsLookupFailure => cases kind <;> exact hbarred.congr rfl rfl
  | _ => exact hbarred.congr rfl rfl

/-- A disposal that the service answered bars the way, whatever data its response arrives at. -/
theorem WizardStep.bars {response : Response}
    (h : WizardStep config trackingId data exchange calls response)
    (hdisposed : ∃ call ∈ calls, call.DisposesAnswered) :
    ∃ r, response = .result r ∧ ∀ kind data', Barred (r.data kind data') := by
  obtain ⟨call, hcall, hanswered⟩ := hdisposed
  have hroutine : ∀ before : List ServiceCall, (∀ call ∈ before, call.Routine) → call ∉ before :=
    fun before hbefore hmem => not_disposesAnswered_of_routine hbefore call hmem hanswered
  have hlookup : ∀ {before : List ServiceCall} {lookup : VehicleDetailsRequest}
      {answer : Answer VehicleDetailsResponse}, (∀ call ∈ before, call.Routine) →
      call ∉ before ++ [.vehicleLookup lookup trackingId (.ok answer)] := by
    intro before lookup answer hbefore hmem
    rcases List.mem_append.mp hmem with hmem | hmem
    · exact hroutine before hbefore hmem
    · rw [List.mem_singleton.mp hmem] at hanswered
      exact hanswered
  cases h with
  | disposed =>
      refine ⟨_, rfl, fun kind data' => .inl ?_⟩
      rw [(Dispose.storedResult_storesAnswer _ _ _ _ _ kind data').preventGoingToDisposePage]
      exact Option.some_ne_none ""
  | disposeFails | choosesAddress =>
      rw [List.mem_singleton.mp hcall] at hanswered
      exact hanswered.elim
  | plain hcalls | forgets hcalls => exact absurd hcall (hroutine _ hcalls)
  | locked hrequest hcalls => exact absurd hcall (hroutine _ hcalls)
  | finds hrequest hvalid hbefore | findsNothing hrequest hvalid hbefore
  | lookupFails hrequest hvalid hbefore => exact absurd hcall (hlookup hbefore)
  | _ => exact absurd hcall List.not_mem_nil

end Step

namespace Sessions

variable (sessions : Sessions) (config : Config)

/-- The response to a request of the session may open the way to a disposal: a lookup was answered,
the dispose page removed the flag, or cookies were discarded. -/
def Reopens (sessionSecretKey : String) (entry : Served joda) : Prop :=
  sessions.responseTo config entry = .discardAllCookies ∨
    sessions.secretServed entry = some sessionSecretKey ∧
      (sessions.responseTo config entry =
          .result ((redirect .vehicleLookup).discardingCookie .preventGoingToDisposePage) ∨
        ∃ lookup trackingId answer, .vehicleLookup lookup trackingId (.ok answer) ∈
          (sessions.serve config entry.request entry.exchange).2.calls)

end Sessions

section Traffic

variable {sessions : Sessions} {config : Config} {served : List (Served joda)}
variable {sessionSecretKey : String} {entry : Served joda} {data : ApplicationData}

theorem AnsweredAsWizard.keepsBarred (h : AnsweredAsWizard sessions config served entry)
    (hclosed : ¬ sessions.Reopens config sessionSecretKey entry) (hbarred : Barred data) :
    Barred (sessions.receives config sessionSecretKey data entry) := by
  rw [Sessions.receives]
  cases hresponse : sessions.responseTo config entry with
  | discardAllCookies => exact absurd (.inl hresponse) hclosed
  | result r =>
      rw [Response.effect, Effect.received]
      by_cases hsecret : sessions.secretServed entry = some sessionSecretKey
      · rw [if_pos hsecret]
        obtain ⟨trackingId, data', calls, -, hstep, rfl⟩ := h.step hsecret
        rw [hresponse] at hstep
        refine hstep.keepsBarred ?_ ?_ sessions.kind hbarred
        · exact fun lookup trackingId answer hcall =>
            hclosed (.inr ⟨hsecret, .inr ⟨lookup, trackingId, answer, hcall⟩⟩)
        · exact fun hpage => hclosed (.inr ⟨hsecret, .inl (by rw [hresponse, hpage])⟩)
      · rw [if_neg hsecret]
        exact hbarred

/-- A way that is barred stays barred until a response is received that may open it. -/
theorem barred_foldl {received : List (Served joda)}
    (hanswered : ∀ entry ∈ received, ∃ served, AnsweredAsWizard sessions config served entry)
    (hclosed : ∀ entry ∈ received, ¬ sessions.Reopens config sessionSecretKey entry)
    (hbarred : Barred data) :
    Barred (received.foldl (sessions.receives config sessionSecretKey) data) := by
  induction received generalizing data with
  | nil => exact hbarred
  | cons entry received ih =>
      obtain ⟨⟨served, hentry⟩, hreceived⟩ := List.forall_mem_cons.mp hanswered
      obtain ⟨hfirst, hrest⟩ := List.forall_mem_cons.mp hclosed
      exact ih hreceived hrest (hentry.keepsBarred hfirst hbarred)

/-- The way to a disposal is open wherever the wizard disposes. -/
theorem not_barred_of_disposes {kind : SessionKind} {trackingId : String} {exchange : Exchange joda}
    (hdisposes : ∃ call ∈ (wizard kind config trackingId data exchange).2.calls, call.Disposes) :
    ¬ Barred data := by
  obtain ⟨call, hcall, hdisposes⟩ := hdisposes
  cases call with
  | dispose disposal trackingId' answer =>
      have hstep : WizardStep config trackingId data exchange _ _ := wizardStep
      obtain ⟨disposeFormModel, trader, model, hlet, -⟩ := hstep.letThrough_of_dispose_mem hcall
      rintro (hflag | hlookup)
      · exact hflag hlet.opened
      · rw [hlet.lookup] at hlookup
        cases hlookup
  | _ => exact hdisposes.elim

/-- After the receipt of a disposal that was answered the way is barred, unless a response was
received that may open it. -/
theorem barred_dataAfter {earlier later : List (Served joda)} {disposed : Served joda}
    (hanswered : ∀ entry ∈ earlier ++ disposed :: later,
      ∃ served, AnsweredAsWizard sessions config served entry)
    (hsecret : sessions.secretServed disposed = some sessionSecretKey)
    (hdisposed : ∃ call ∈ (sessions.serve config disposed.request disposed.exchange).2.calls,
      call.DisposesAnswered)
    (hclosed : ∀ entry ∈ later, ¬ sessions.Reopens config sessionSecretKey entry) :
    Barred (sessions.dataAfter config sessionSecretKey (earlier ++ disposed :: later)) := by
  obtain ⟨served, hanswers⟩ := hanswered disposed (List.mem_append_right earlier List.mem_cons_self)
  obtain ⟨trackingId, data, calls, -, hstep, rfl⟩ := hanswers.step hsecret
  obtain ⟨r, hresponse, hbars⟩ := hstep.bars hdisposed
  rw [Sessions.dataAfter, List.foldl_append, List.foldl_cons]
  refine barred_foldl (fun entry hentry => hanswered entry ?_) hclosed ?_
  · exact List.mem_append_right earlier (List.mem_cons_of_mem disposed hentry)
  · rw [Sessions.receives, hresponse, Response.effect, Effect.received, if_pos hsecret]
    exact hbars sessions.kind _

/-- However requests and responses overtake each other, between the receipt of a disposal that the
service answered and the sending of a request that disposes again in the same session, the browser
has received the answer to a lookup of the session, that of its dispose page which removes the
flag, or one that discards cookies. -/
theorem inFlight_disposes_once (sessions : Sessions) (config : Config) {jar : Jar}
    (hclean : Clean jar) (draws : Set SessionDraw) (hapart : sessions.DrawsApart draws)
    (exchanges : Set (Exchange joda)) (hdraws : ∀ exchange ∈ exchanges, exchange.draw ∈ draws)
    (s : Snapshots.LoggedNetwork Jar (List Cookie) (Served joda))
    (hreach : Snapshots.Reachable (sessions.traffic config exchanges).logged { value := jar } s)
    (before : List (Snapshots.Logged (Served joda) (Served joda)))
    (entry : Snapshots.Logged (Served joda) (Served joda))
    (after : List (Snapshots.Logged (Served joda) (Served joda)))
    (hserved : s.served = before ++ entry :: after)
    (hdisposes : ∃ call ∈
      (sessions.serve config entry.value.request entry.value.exchange).2.calls, call.Disposes) :
    ∃ sessionSecretKey, sessions.secretServed entry.value = some sessionSecretKey ∧
      ∀ earlier disposed later, entry.received = earlier ++ disposed :: later →
        sessions.secretServed disposed = some sessionSecretKey →
        (∃ call ∈ (sessions.serve config disposed.request disposed.exchange).2.calls,
          call.DisposesAnswered) →
        ∃ opener ∈ later, sessions.Reopens config sessionSecretKey opener := by
  obtain ⟨sessionSecretKey, trackingId, hlog, -, hsecret, -, hreply⟩ :=
    answers_log hclean hapart hdraws hreach hserved
  refine ⟨sessionSecretKey, hsecret, fun earlier disposed later hreceived hsame hanswered => ?_⟩
  rw [hreceived] at hlog hreply
  have hanswers : ∀ other ∈ earlier ++ disposed :: later,
      ∃ served, AnsweredAsWizard sessions config served other := by
    intro other hother
    have hmem : other ∈ s.served.map Snapshots.Logged.value := by
      rw [hserved, List.map_append, List.map_cons]
      exact List.mem_append_right _ (List.mem_cons_of_mem _ (hlog other hother))
    obtain ⟨served, hwell⟩ := exists_servedWell hclean hapart hdraws hreach hmem
    exact ⟨served, hwell.answeredAsWizard hapart hdraws⟩
  rw [hreply] at hdisposes
  by_contra hnone
  refine not_barred_of_disposes hdisposes (barred_dataAfter hanswers hsame hanswered ?_)
  exact fun opener hopener hreopens => hnone ⟨opener, hopener, hreopens⟩

end Traffic

section Dealer

open Dealer

/-- What a browser has received that waits for each response before it sends the next request. -/
def Sessions.turns (sessions : Sessions) (config : Config) :
    Jar → List (Exchange joda) → List (Served joda)
  | _, [] => []
  | jar, exchange :: exchanges =>
      ⟨jar, exchange⟩ :: turns sessions config (sessions.serve config jar exchange).1 exchanges

theorem Sessions.turns_concat (sessions : Sessions) (config : Config) (jar : Jar)
    (exchanges : List (Exchange joda)) (exchange : Exchange joda) :
    sessions.turns config jar (exchanges ++ [exchange]) = sessions.turns config jar exchanges ++
      [⟨Transition.final (sessions.serve config) jar exchanges, exchange⟩] := by
  induction exchanges generalizing jar with
  | nil => rfl
  | cons first exchanges ih => exact congrArg (⟨jar, first⟩ :: ·) (ih _)

theorem turns_reachable (sessions : Sessions) (config : Config) (exchanges : Set (Exchange joda))
    (jar : Jar) (inputs : List (Exchange joda))
    (hinputs : ∀ exchange ∈ inputs, exchange ∈ exchanges) :
    ∃ served, Snapshots.Reachable (sessions.traffic config exchanges).logged { value := jar }
      { state :=
          { value := Transition.final (sessions.serve config) jar inputs
            received := sessions.turns config jar inputs }
        served := served } := by
  induction inputs using List.reverseRecOn with
  | nil => exact ⟨[], .refl⟩
  | append_singleton inputs exchange ih =>
      obtain ⟨served, hreach⟩ := ih fun other hother =>
        hinputs other (List.mem_append_left _ hother)
      have hexchange : exchange ∈ exchanges := hinputs exchange (by simp)
      rw [Transition.final, List.foldl_append, sessions.turns_concat]
      have hserves : (sessions.traffic config exchanges).Serves
          (Transition.final (sessions.serve config) jar inputs) _ ⟨_, exchange⟩ :=
        ⟨rfl, hexchange, rfl⟩
      exact ⟨_, hreach.inTurn (Snapshots.Protocol.serves_logged hserves)⟩

/-- A browser that sends two requests at once, receives the response to the first one alone, and
then sends the second request again. -/
def logsFirst (sessions : Sessions) (first second : Exchange utc) :
    Snapshots.LoggedNetwork Jar (List Cookie) (Served utc) :=
  let jar := (∅ : Jar).receive (sessions.cookiesTo {} ⟨∅, first⟩)
  { state := { value := jar, received := [⟨∅, first⟩] }
    responses := [(sessions.cookiesTo {} ⟨jar, second⟩, ⟨jar, second⟩),
      (sessions.cookiesTo {} ⟨∅, second⟩, ⟨∅, second⟩)]
    served := [{ value := ⟨jar, second⟩, received := [⟨∅, first⟩] }, { value := ⟨∅, second⟩ },
      { value := ⟨∅, first⟩ }] }

theorem logsFirst_reachable (sessions : Sessions) (first second : Exchange utc) :
    Snapshots.Reachable (sessions.traffic {} {first, second}).logged { value := ∅ }
      (logsFirst sessions first second) := by
  have hfirst : (sessions.traffic {} {first, second}).Serves ∅ _ (⟨∅, first⟩ : Served utc) :=
    ⟨rfl, .inl rfl, rfl⟩
  have hsecond : ∀ jar : Jar,
      (sessions.traffic {} {first, second}).Serves jar _ (⟨jar, second⟩ : Served utc) :=
    fun _ => ⟨rfl, .inr rfl, rfl⟩
  refine .head (.send _) (.head (.send _) ?_)
  refine .head (.serve _ [] [{ value := ∅ }] { value := ∅ } _ _ rfl
    (Snapshots.Protocol.serves_logged hfirst)) ?_
  refine .head (.serve _ [] [] { value := ∅ } _ _ rfl
    (Snapshots.Protocol.serves_logged (hsecond ∅))) ?_
  refine .head (.deliver _ [(_, (⟨∅, second⟩ : Served utc))] []
    (_, (⟨∅, first⟩ : Served utc)) rfl) (.head (.send _) ?_)
  exact .single (.serve _ [] [] { value := _, received := [⟨∅, first⟩] } _ _ rfl
    (Snapshots.Protocol.serves_logged (hsecond _)))

/-- A lookup is sent together with a disposal, its response arrives first, and the disposal that is
sent again is answered on the lookup alone. -/
theorem inFlight_refines_logsFirst :
    ∃ sessionSecretKey trackingId,
      (Sessions.encrypted (productionFactory (Equiv.refl _))).secretServed
        ⟨(∅ : Jar).receive ((Sessions.encrypted (productionFactory (Equiv.refl _))).cookiesTo {}
          ⟨∅, looksUp "1" "A1" found⟩), disposes⟩ = some sessionSecretKey ∧
      ((Sessions.encrypted (productionFactory (Equiv.refl _))).serve {}
        ((∅ : Jar).receive ((Sessions.encrypted (productionFactory (Equiv.refl _))).cookiesTo {}
          ⟨∅, looksUp "1" "A1" found⟩)) disposes).2 =
        (wizard .encrypted {} trackingId
          ((Sessions.encrypted (productionFactory (Equiv.refl _))).dataAfter {} sessionSecretKey
            [⟨∅, looksUp "1" "A1" found⟩]) disposes).2 := by
  obtain ⟨sessionSecretKey, trackingId, -, -, hsecret, -, hanswer⟩ :=
    (inFlight_refines (.encrypted (productionFactory (Equiv.refl _))) {} (fun _ _ => rfl)
      {zeroDraw} drawsApart_zeroDraw {looksUp "1" "A1" found, disposes}
      (by rintro exchange (rfl | rfl) <;> rfl) _ (logsFirst_reachable _ _ _)).2 [] _ _ rfl
  dsimp only [Sessions.kind] at hanswer
  exact ⟨sessionSecretKey, trackingId, hsecret, hanswer⟩

theorem secretServed_clearText (cookieFlags : CookieFlags) (entry : Served joda) :
    (Sessions.clearText cookieFlags).secretServed entry = some "" := rfl

/-- A trader is entered and a vehicle is looked up. -/
def untilFound : List (Exchange utc) := entersDetails ++ [looksUp "1" "A1" found]

theorem disposesAnswered_untilFound :
    ∃ call ∈ ((Sessions.clearText noCookieFlags).serve {}
      (Transition.final ((Sessions.clearText noCookieFlags).serve {}) ∅ untilFound)
      disposes).2.calls, call.DisposesAnswered := by
  obtain ⟨trackingIds, hlength, trackingId, hserve⟩ := serve_run untilFound disposes
  obtain ⟨a, b, c, rfl⟩ := List.length_eq_three.mp hlength
  rw [hserve]
  exact ⟨_, List.mem_singleton_self _, trivial⟩

theorem disposes_untilShown :
    ∃ call ∈ ((Sessions.clearText noCookieFlags).serve {}
      (Transition.final ((Sessions.clearText noCookieFlags).serve {}) ∅
        (untilFound ++ [disposes] ++ [asksForDisposePage])) disposes).2.calls, call.Disposes := by
  obtain ⟨trackingIds, hlength, trackingId, hserve⟩ :=
    serve_run (untilFound ++ [disposes] ++ [asksForDisposePage]) disposes
  obtain ⟨a, _, rfl⟩ := List.exists_of_length_succ trackingIds hlength
  obtain ⟨b, c, d, e, rfl⟩ := List.length_eq_four.mp (Nat.succ.inj hlength)
  rw [hserve]
  exact ⟨_, List.mem_singleton_self _, trivial⟩

/-- The vehicle is disposed of, the dispose page removes the flag, and it is disposed of again. -/
theorem inFlight_disposes_once_dealer :
    ∃ opener ∈ [(⟨Transition.final ((Sessions.clearText noCookieFlags).serve {}) ∅
        (untilFound ++ [disposes]), asksForDisposePage⟩ : Served utc)],
      (Sessions.clearText noCookieFlags).Reopens {} "" opener := by
  obtain ⟨served, hreach⟩ := turns_reachable (.clearText noCookieFlags) {} Set.univ ∅
    (untilFound ++ [disposes] ++ [asksForDisposePage]) fun _ _ => trivial
  have hanswered := disposesAnswered_untilFound
  have hagain := disposes_untilShown
  have hlog := (Sessions.clearText noCookieFlags).turns_concat {} ∅ (untilFound ++ [disposes])
    asksForDisposePage
  rw [(Sessions.clearText noCookieFlags).turns_concat {} ∅ untilFound disposes,
    List.append_assoc ((Sessions.clearText noCookieFlags).turns {} ∅ untilFound),
    List.singleton_append] at hlog
  -- No jar and no log needs to be computed.
  generalize Transition.final ((Sessions.clearText noCookieFlags).serve {}) ∅
    (untilFound ++ [disposes] ++ [asksForDisposePage]) = jar at hreach hagain
  generalize Transition.final ((Sessions.clearText noCookieFlags).serve {}) ∅
    (untilFound ++ [disposes]) = barred at hlog ⊢
  generalize Transition.final ((Sessions.clearText noCookieFlags).serve {}) ∅ untilFound = found
    at hlog hanswered
  generalize (Sessions.clearText noCookieFlags).turns {} ∅
    (untilFound ++ [disposes] ++ [asksForDisposePage]) = received at hreach hlog
  have hserves : ((Sessions.clearText noCookieFlags).traffic {} Set.univ).Serves jar _
      ⟨jar, disposes⟩ := ⟨rfl, trivial, rfl⟩
  obtain ⟨sessionSecretKey, hsecret, honce⟩ :=
    inFlight_disposes_once (.clearText noCookieFlags) {} (fun _ _ => rfl) Set.univ trivial Set.univ
      (fun _ _ => trivial) _ (hreach.inTurn (Snapshots.Protocol.serves_logged hserves)) [] _ _ rfl
      hagain
  rw [secretServed_clearText] at hsecret
  obtain rfl := Option.some.inj hsecret
  exact honce _ ⟨found, disposes⟩ _ hlog (secretServed_clearText _ _) hanswered

end Dealer

end VehiclesOnline
