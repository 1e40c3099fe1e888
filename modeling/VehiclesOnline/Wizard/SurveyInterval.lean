import VehiclesOnline.Wizard.Browsing
import VehiclesOnline.Wizard.Survey
import VehiclesOnline.Wizard.Transactions

/-! # The survey is not offered twice

Over every run by the clock: after an exit no page offers the survey until the interval is over,
and then they offer it again. That holds as long as the session remembers the exit for the whole
interval; the cookie with its date lives as long as every other one. -/

namespace VehiclesOnline

open Transition (final)

variable {joda : Joda}

/-! ### Pages with the survey -/

/-- What a page is given for the survey, where it has a place for it: the page of the success, and
that of the lookup if it has the exit button. -/
def Content.survey : Content → Option (Option String)
  | ok (.vehicleLookup _ _ true surveyUrl) => some surveyUrl
  | badRequest (.vehicleLookup _ _ true surveyUrl) => some surveyUrl
  | ok (.disposeSuccess _ _ surveyUrl) => some surveyUrl
  | _ => none

/-- The url of the survey, if one is configured. -/
def Config.configuredUrl (config : Config) : Option String :=
  let trimmed := Text.trim (· ≤ ' ') config.prototypeSurveyUrl
  if trimmed ≠ "" then some trimmed else none

/-- A request of which the answer, in a session that holds the data, has a place for the
survey. -/
inductive ShowsSurvey (data : ApplicationData) : Request → Prop
  | lookup (htrader : data .traderDetails ≠ none) (hexit : data .disposeOccurred ≠ none) :
      ShowsSurvey data .vehicleLookupPresent
  | invalidLookup {form : Form VehicleLookupFormModel} (hvalid : form.valid = none)
      (htrader : data .traderDetails ≠ none) (hexit : data .disposeOccurred ≠ none) :
      ShowsSurvey data (.vehicleLookupSubmit form)
  | success (h : HoldsAll DisposeSuccess.shownKeys data) :
      ShowsSurvey data .disposeSuccessPresent

def Request.Exits (request : Request) : Prop :=
  request = .vehicleLookupExit ∨ request = .disposeSuccessExit

section

variable (config : Config) (history : History joda) (data : ApplicationData)
variable (exchange : Exchange joda) (reply : Reply)

/-- No page offers the survey within the interval after an exit, and when the intervals of all
exits are over it is offered again. -/
structure OffersOncePerInterval : Prop where
  quiet : ∀ entry ∈ history, entry.1.request.Exits → entry.1.now < exchange.now →
    exchange.now ≤ entry.1.now + config.prototypeSurveyPrepositionInterval →
    ∀ url, reply.content.survey ≠ some (some url)
  again : (∃ entry ∈ history, entry.1.request.Exits) →
    (∀ entry ∈ history, entry.1.request.Exits →
      entry.1.now + config.prototypeSurveyPrepositionInterval < exchange.now) →
    ∀ url, config.configuredUrl = some url →
    ∀ offered, reply.content.survey = some offered → offered = some url

/-- Where a page with a place for the survey is requested within the interval after an exit, the
session still holds a date, and the end of the interval after that is a `Long`. -/
structure RemembersExit : Prop where
  holds : ShowsSurvey data exchange.request → config.configuredUrl ≠ none →
    ∀ entry ∈ history, entry.1.request.Exits → entry.1.now < exchange.now →
    exchange.now ≤ entry.1.now + config.prototypeSurveyPrepositionInterval →
    data .surveyRequestTriggerDate ≠ none
  isLong : ShowsSurvey data exchange.request → config.configuredUrl ≠ none →
    ∀ s n, data .surveyRequestTriggerDate = some s → toLong s = .ok n →
    IsLong (n + config.prototypeSurveyPrepositionInterval)

end

/-! ### What is offered -/

section Offered

variable {config : Config} {trackingId : String} {data : ApplicationData}
variable {exchange : Exchange joda} {calls : List ServiceCall} {response : Response}

theorem Content.Plain.survey_eq {content : Content} (h : content.Plain) :
    content.survey = none := by
  cases content with
  | ok page =>
      cases page with
      | vehicleLookup => exact h.elim
      | disposeSuccess => exact h.elim
      | _ => rfl
  | badRequest page =>
      cases page with
      | vehicleLookup => exact h.elim
      | _ => rfl
  | redirect route => rfl
  | redirectTo url => rfl

/-- What a page with a place for the survey is given is computed from the trigger date. -/
theorem WizardStep.showsSurvey_of_survey
    (hstep : WizardStep config trackingId data exchange calls response) {offered : Option String}
    (h : response.content.survey = some offered) :
    ShowsSurvey data exchange.request ∧
      surveyUrl config (.ofData trackingId data) exchange.environment.dateService =
        .ok offered := by
  cases hstep with
  | plain hcalls hedits hplain => cases h.symm.trans hplain.survey_eq
  | @disposed form disposeFormModel trader model disposal status response =>
      have hcontent := Dispose.storedResult_content exchange.environment
        (Dispose.disposeModelOf model disposeFormModel) disposeFormModel status response
      simp only [Response.content, hcontent, Content.survey] at h
      cases h
  | showsLookup htrader hurl hresult hrequest =>
      have htrader' : data .traderDetails ≠ none := by simp [htrader]
      cases hexit : (data .disposeOccurred).isSome with
      | false =>
          rw [hexit] at hresult
          rcases hresult with rfl | rfl <;> cases h
      | true =>
          have hexit' : data .disposeOccurred ≠ none := Option.isSome_iff_ne_none.mp hexit
          rw [hexit] at hresult
          refine ⟨?_, ?_⟩
          · rcases hrequest with hrequest | ⟨form, hrequest, hvalid⟩
            · rw [hrequest]
              exact .lookup htrader' hexit'
            · rw [hrequest]
              exact .invalidLookup hvalid htrader' hexit'
          · rcases hresult with rfl | rfl <;> cases h <;> exact hurl
  | showsSuccess hrequest htrader hform hvehicle htransactionId hregistrationNumber hurl =>
      cases h
      refine ⟨?_, hurl⟩
      rw [hrequest]
      exact .success (by simp [HoldsAll, DisposeSuccess.shownKeys, *])
  | _ => cases h

theorem surveyUrl_of_none (h : data .surveyRequestTriggerDate = none)
    (dateService : DateService joda) :
    surveyUrl config (.ofData trackingId data) dateService = .ok config.configuredUrl := by
  simp only [surveyUrl, RequestCookies.getString, RequestCookies.getModel_ofData, bind,
    Except.bind, h]
  rfl

theorem surveyUrl_of_some {n : ℤ} (h : data .surveyRequestTriggerDate = some (toString n))
    (hn : IsLong n) (hend : IsLong (n + config.prototypeSurveyPrepositionInterval))
    (dateService : DateService joda) :
    surveyUrl config (.ofData trackingId data) dateService =
      .ok (if n + config.prototypeSurveyPrepositionInterval < dateService.nowMillis then
        config.configuredUrl else none) := by
  have hwraps : (n + config.prototypeSurveyPrepositionInterval).bmod (2 ^ 64) =
      n + config.prototypeSurveyPrepositionInterval := by
    obtain ⟨hlower, hupper⟩ := hend
    exact Int.bmod_eq_of_le (by omega) (by omega)
  simp only [surveyUrl, RequestCookies.getString, RequestCookies.getModel_ofData, bind,
    Except.bind, h, toLong_toString hn, hwraps]
  split <;> rfl

theorem configuredUrl_of_surveyUrl {dateService : DateService joda} {url : String}
    (h : surveyUrl config (.ofData trackingId data) dateService = .ok (some url)) :
    config.configuredUrl = some url := by
  cases hheld : data .surveyRequestTriggerDate with
  | none =>
      rw [surveyUrl_of_none hheld] at h
      exact Except.ok.inj h
  | some s =>
      simp only [surveyUrl, RequestCookies.getString, RequestCookies.getModel_ofData, bind,
        Except.bind, hheld] at h
      split at h
      · cases h
      · split at h
        · exact Except.ok.inj h
        · cases h

end Offered

/-! ### The date of the last exit -/

/-- The last exit was at the time. -/
structure LastExit (history : History joda) (time : ℤ) : Prop where
  mem : ∃ entry ∈ history, entry.1.request.Exits ∧ entry.1.now = time
  le : ∀ entry ∈ history, entry.1.request.Exits → entry.1.now ≤ time

/-- The trigger date that the session holds, if any, is that of the last exit. -/
def HoldsExitDate (history : History joda) (data : ApplicationData) : Prop :=
  ∀ s, data .surveyRequestTriggerDate = some s →
    ∃ n, s = toString n ∧ IsLong n ∧ LastExit history n

/-- The clock does not go back, and reads a `Long`. -/
structure ReadsClock (history : History joda) (exchange : Exchange joda) : Prop where
  le : ∀ entry ∈ history, entry.1.now ≤ exchange.now
  isLong : IsLong exchange.now

section LastExit

variable {sessions : Sessions} {config : Config} {browser : Browser} {coding : SessionCoding}
variable {history : History joda} {data data' : ApplicationData} {exchange : Exchange joda}
variable {calls : List ServiceCall} {response : Response} {n : ℤ}

theorem LastExit.of_exits (h : exchange.request.Exits) (hclock : ReadsClock history exchange)
    (reply : Reply) : LastExit (history ++ [(exchange, reply)]) exchange.now where
  mem := ⟨(exchange, reply), by simp, h, rfl⟩
  le entry hentry _ := by
    rcases List.mem_append.mp hentry with hentry | hentry
    · exact hclock.le entry hentry
    · rw [List.mem_singleton.mp hentry]

theorem LastExit.concat (h : LastExit history n) (hexits : ¬ exchange.request.Exits)
    (reply : Reply) : LastExit (history ++ [(exchange, reply)]) n where
  mem := by
    obtain ⟨entry, hentry, hexit⟩ := h.mem
    exact ⟨entry, List.mem_append_left _ hentry, hexit⟩
  le entry hentry hexit := by
    rcases List.mem_append.mp hentry with hentry | hentry
    · exact h.le entry hentry hexit
    · rw [List.mem_singleton.mp hentry] at hexit
      exact absurd hexit hexits

theorem HoldsExitDate.forgets (h : HoldsExitDate history data) (hforgets : data.Forgets data') :
    HoldsExitDate history data' := by
  intro s hs
  rcases hforgets .surveyRequestTriggerDate with hkept | hnone
  · exact h s (hkept.symm.trans hs)
  · cases hnone.symm.trans hs

theorem Leaves.exits (h : Leaves exchange response) : exchange.request.Exits := by
  cases h with
  | lookup h => exact .inl h
  | success h => exact .inr h

theorem Browses.leaves
    (h : Browses sessions config browser exchange coding data calls response)
    (hexits : exchange.request.Exits) : Leaves exchange response := by
  obtain ⟨trackingId, -, rfl⟩ := h.handled
  rcases hexits with hrequest | hrequest
  · rw [hrequest]
    exact .lookup hrequest
  · rw [hrequest]
    exact .success hrequest

theorem HoldsExitDate.browse (h : HoldsExitDate history data)
    (hbrowses : Browses sessions config browser exchange coding data calls response)
    (hclock : ReadsClock history exchange) :
    HoldsExitDate (history ++ [(exchange, response.reply calls)])
      (response.data sessions.kind data) := by
  intro s hs
  by_cases hexits : exchange.request.Exits
  · rw [(hbrowses.leaves hexits).triggerDate] at hs
    cases hs
    exact ⟨_, rfl, hclock.isLong, .of_exits hexits hclock _⟩
  · obtain ⟨trackingId, hstep⟩ := hbrowses.step
    rcases hstep.triggerDate_cases sessions.kind with (hkept | hnone) | hleaves
    · obtain ⟨n, hdate, hlong, hlast⟩ := h s (hkept.symm.trans hs)
      exact ⟨n, hdate, hlong, hlast.concat hexits _⟩
    · cases hnone.symm.trans hs
    · exact absurd hleaves.exits hexits

end LastExit

/-! ### The interval -/

/-- What a session that holds the date of the last exit offers. -/
theorem OffersOncePerInterval.of_remembersExit {config : Config} {history : History joda}
    {data : ApplicationData} {exchange : Exchange joda} {trackingId : String}
    {calls : List ServiceCall} {response : Response} (hdate : HoldsExitDate history data)
    (hstep : WizardStep config trackingId data exchange calls response)
    (hremembers : RemembersExit config history data exchange) :
    OffersOncePerInterval config history exchange (response.reply calls) where
  quiet entry hentry hexits hafter hwithin url hurl := by
    obtain ⟨hshows, hoffered⟩ := hstep.showsSurvey_of_survey hurl
    have hconfigured : config.configuredUrl ≠ none := by
      rw [configuredUrl_of_surveyUrl hoffered]
      exact Option.some_ne_none url
    have hheld := hremembers.holds hshows hconfigured entry hentry hexits hafter hwithin
    obtain ⟨s, hs⟩ := Option.ne_none_iff_exists'.mp hheld
    obtain ⟨n, rfl, hlong, hlast⟩ := hdate s hs
    have hend := hremembers.isLong hshows hconfigured _ n hs (toLong_toString hlong)
    rw [surveyUrl_of_some hs hlong hend] at hoffered
    have hlast := hlast.le entry hentry hexits
    have hnotOver : ¬ n + config.prototypeSurveyPrepositionInterval < exchange.now := by omega
    rw [if_neg hnotOver] at hoffered
    cases hoffered
  again hexit hover url hurl offered hplace := by
    obtain ⟨hshows, hoffered⟩ := hstep.showsSurvey_of_survey hplace
    have hconfigured : config.configuredUrl ≠ none := by simp [hurl]
    cases hheld : data .surveyRequestTriggerDate with
    | none =>
        rw [surveyUrl_of_none hheld, hurl] at hoffered
        exact (Except.ok.inj hoffered).symm
    | some s =>
        obtain ⟨n, rfl, hlong, ⟨entry, hentry, hexits, rfl⟩, -⟩ := hdate s hheld
        have hend := hremembers.isLong hshows hconfigured _ _ hheld (toLong_toString hlong)
        rw [surveyUrl_of_some hheld hlong hend, if_pos (hover entry hentry hexits), hurl]
          at hoffered
        exact (Except.ok.inj hoffered).symm

section Steps

variable {sessions : Sessions} {config : Config}

theorem browsingPreserves_holdsExitDate :
    BrowsingPreserves sessions config
      (fun history data (exchange : Exchange joda) _ =>
        RemembersExit config history data exchange ∧ ReadsClock history exchange)
      fun _ => HoldsExitDate := by
  intro browser history data data' exchange coding calls response h _ hforgets hbrowses hp
  exact (h.forgets hforgets).browse hbrowses hp.2

theorem browsingEnsures_offersOncePerInterval :
    BrowsingEnsures sessions config
      (fun history data (exchange : Exchange joda) _ =>
        RemembersExit config history data exchange ∧ ReadsClock history exchange)
      (fun _ => HoldsExitDate)
      fun history _ exchange reply => OffersOncePerInterval config history exchange reply := by
  intro browser history data data' exchange coding calls response h _ hforgets hbrowses hp
  obtain ⟨trackingId, hstep⟩ := hbrowses.step
  exact .of_remembersExit (h.forgets hforgets) hstep hp.1

end Steps

/-! ### How long the date is held -/

/-- The date that the session holds is that of the last exit, and its cookie expires when the
lifetime of cookies since then is over. -/
def HoldsExitDateFor (sessions : Sessions) (seconds : ℤ) (browser : Browser)
    (history : History joda) (data : ApplicationData) : Prop :=
  ∀ s, data .surveyRequestTriggerDate = some s →
    ∃ n, s = toString n ∧ IsLong n ∧ LastExit history n ∧
      KeyExpiresAt sessions browser .surveyRequestTriggerDate (n + 1000 * seconds)

theorem eq_of_toString_eq {m n : ℤ} (hm : IsLong m) (hn : IsLong n) (h : toString m = toString n) :
    m = n := by
  have hread := toLong_toString hm
  rw [h, toLong_toString hn] at hread
  exact (Except.ok.inj hread).symm

section Lifetime

variable {sessions : Sessions} {config : Config} {seconds : ℤ}
variable (hflags : ∀ cookie, (sessions.cookieFlags.applyToCookie cookie).maxAge = some seconds)

include hflags in
theorem browsingPreserves_holdsExitDateFor :
    BrowsingPreserves sessions config
      (fun history _ (exchange : Exchange joda) _ => ReadsClock history exchange)
      (HoldsExitDateFor sessions seconds) := by
  intro browser history data data' exchange coding calls response h hkeeps hforgets hbrowses hclock
    s hs
  have hne : response.data sessions.kind data' .surveyRequestTriggerDate ≠ none := by simp [hs]
  rcases hbrowses.keyExpiresAt hkeeps hflags hne with
    ⟨hkept, hexpires⟩ | ⟨⟨model, hmem⟩, hexpires⟩
  · have hheld : data .surveyRequestTriggerDate = some s := by
      rcases hforgets .surveyRequestTriggerDate with hsame | hnone
      · rw [← hsame, ← hkept, hs]
      · rw [hkept, hnone] at hne
        exact absurd rfl hne
    obtain ⟨n, rfl, hlong, hlast, htime⟩ := h s hheld
    by_cases hexits : exchange.request.Exits
    · -- the same date again
      rw [(hbrowses.leaves hexits).triggerDate] at hs
      obtain rfl := eq_of_toString_eq hclock.isLong hlong (Option.some.inj hs)
      exact ⟨_, rfl, hlong, .of_exits hexits hclock _, hexpires _ htime⟩
    · exact ⟨n, rfl, hlong, hlast.concat hexits _, hexpires _ htime⟩
  · obtain ⟨trackingId, hstep⟩ := hbrowses.step
    have hleaves := hstep.leaves_of_mem_edits hmem
    rw [hleaves.triggerDate] at hs
    cases hs
    exact ⟨_, rfl, hclock.isLong, .of_exits hleaves.exits hclock _, hexpires⟩

end Lifetime

/-! ### Runs -/

section Runs

variable (sessions : Sessions) (config : Config) {browser : Browser}
variable {exchanges : List (Exchange joda)}

theorem Sessions.readsClock_throughout
    (hclock : exchanges.Pairwise fun earlier later => earlier.now ≤ later.now)
    (hlong : ∀ exchange ∈ exchanges, IsLong exchange.now) :
    sessions.ThroughoutBrowsing config
      (fun history _ exchange _ => ReadsClock history exchange) browser exchanges := by
  refine Transition.Along.imp ?_ ((Transition.along_tracing_of_pairwise _ hclock).and
    (Transition.along_of_forall _ fun _ => hlong))
  exact fun _ _ h => ⟨h.1, h.2⟩

/-- Cookies that live for a while hold the date of the last exit for that while at most. -/
theorem holdsExitDate_lt_lifetime (browser : Browser) (exchanges : List (Exchange joda))
    {seconds : ℤ}
    (hflags : ∀ cookie, (sessions.cookieFlags.applyToCookie cookie).maxAge = some seconds)
    (hclean : Clean browser.jar) (hapart : ∀ exchange ∈ exchanges, sessions.Apart exchange.draw)
    (hclock : exchanges.Pairwise fun earlier later => earlier.now ≤ later.now)
    (hlong : ∀ exchange ∈ exchanges, IsLong exchange.now) :
    sessions.ThroughoutBrowsing config
      (fun history data exchange _ => data .surveyRequestTriggerDate ≠ none →
        ∃ n, LastExit history n ∧ exchange.now < n + 1000 * seconds) browser exchanges := by
  refine Sessions.ThroughoutBrowsing.of_invariant (browsingPreserves_holdsExitDateFor hflags) ?_
    (by rintro s ⟨⟩) hclean hapart (sessions.readsClock_throughout config hclock hlong)
  rintro browser history data data' exchange coding calls response h hkeeps hforgets hbrowses -
    hheld
  obtain ⟨s, hs⟩ := Option.ne_none_iff_exists'.mp hheld
  have hbefore := (hforgets .surveyRequestTriggerDate).resolve_right hheld
  obtain ⟨n, -, -, hlast, htime⟩ := h s (hbefore.symm.trans hs)
  exact ⟨n, hlast, hbrowses.lt_of_keyExpiresAt hkeeps hheld htime⟩

/-- In every run by the clock the survey is offered once per interval, as long as the session
remembers the exit whenever a page has a place for the survey. -/
theorem offersOncePerInterval_of_remembersExit (hclean : Clean browser.jar)
    (hapart : ∀ exchange ∈ exchanges, sessions.Apart exchange.draw)
    (hclock : exchanges.Pairwise fun earlier later => earlier.now ≤ later.now)
    (hlong : ∀ exchange ∈ exchanges, IsLong exchange.now)
    (hremembers : sessions.ThroughoutBrowsing config
      (fun history data exchange _ => RemembersExit config history data exchange) browser
      exchanges) :
    sessions.ThroughoutBrowsing config
      (fun history _ exchange reply => OffersOncePerInterval config history exchange reply) browser
      exchanges :=
  .of_invariant browsingPreserves_holdsExitDate browsingEnsures_offersOncePerInterval
    (by rintro s ⟨⟩) hclean hapart
    (hremembers.and (sessions.readsClock_throughout config hclock hlong))

end Runs

section Dealer

open Dealer

def surveyConfig (url : String) : Config := { prototypeSurveyUrl := url }

/-- The url that is configured. -/
def snapSurveys : String := "https://www.snapsurveys.com/wh/s.asp?k=139565145499"

theorem halfAnHour_pos : (0 : ℤ) < 30 * 60 := by decide

/-- Cookies in clear text that live half an hour, as they do without configuration. -/
def defaultSessions : Sessions := .clearText (cookieFlagsFromConfig true (30 * 60) halfAnHour_pos)

def tenPastNoon : DateService utc where
  dateTimeNow := { noon.dateTimeNow with minute := 10, minute_mem := by decide }
  nowMillis := noon.nowMillis + 10 * 60 * 1000
  dateTimeISOChronology := "2014-09-01T12:10:00.000Z"

def oneOClock : DateService utc where
  dateTimeNow := { noon.dateTimeNow with hour := 13, hour_mem := by decide }
  nowMillis := noon.nowMillis + 60 * 60 * 1000
  dateTimeISOChronology := "2014-09-01T13:00:00.000Z"

def sendsAt (dateService : DateService utc) (exchange : Exchange utc) : Exchange utc :=
  { exchange with
    environment := { exchange.environment with
      dateService := dateService
      dateServiceAfterCall := dateService } }

def leavesLookup : Exchange utc := sends .vehicleLookupExit found

def entersName : Exchange utc :=
  sends (.setUpTradeDetailsSubmit { value := some ⟨"Dealer", "AA11AA"⟩ }) found

def disposesAfterName : List (Exchange utc) :=
  [sends (.businessChooseYourAddressSubmit { value := some ⟨"1"⟩ }) found,
    looksUp "1" "A1" found, disposes]

/-- A disposal up to its last page. -/
def disposesOnce : List (Exchange utc) := entersName :: disposesAfterName

theorem lasting_empty (sessions : Sessions) (time : ℤ) :
    Lasting sessions time {} fun _ => none where
  holds := .of_clean (fun _ _ => rfl) sessions
  keepsSession := .of_clean (fun _ _ => rfl) sessions
  keepsUntil _ hget := absurd rfl hget

theorem forall_mem_afterExit {P : Exchange utc → Prop} (dateService : DateService utc)
    (hleaves : P leavesLookup) (hlater : ∀ exchange, P (sendsAt dateService exchange))
    (exchanges : List (Exchange utc)) :
    ∀ exchange ∈ leavesLookup :: exchanges.map (sendsAt dateService), P exchange := by
  refine List.forall_mem_cons.mpr ⟨hleaves, fun exchange hmem => ?_⟩
  obtain ⟨before, -, rfl⟩ := List.mem_map.mp hmem
  exact hlater before

theorem isLong_noon : IsLong noon.nowMillis := by
  constructor <;> decide

theorem pairwise_afterExit {dateService : DateService utc}
    (hlater : noon.nowMillis ≤ dateService.nowMillis) (exchanges : List (Exchange utc)) :
    (leavesLookup :: exchanges.map (sendsAt dateService)).Pairwise
      fun earlier later => earlier.now ≤ later.now := by
  refine List.pairwise_cons.mpr ⟨fun exchange hmem => ?_, ?_⟩
  · obtain ⟨before, -, rfl⟩ := List.mem_map.mp hmem
    exact hlater
  · exact List.pairwise_map.mpr (List.pairwise_of_forall fun _ _ => le_refl dateService.nowMillis)

/-- Ten minutes after an exit the page of another disposal does not offer the survey. -/
theorem offersOncePerInterval_of_remembersExit_dealer :
    defaultSessions.ThroughoutBrowsing (surveyConfig snapSurveys)
      (fun history _ exchange reply =>
        OffersOncePerInterval (surveyConfig snapSurveys) history exchange reply) {}
      (leavesLookup :: disposesOnce.map (sendsAt tenPastNoon) ++
        [sendsAt tenPastNoon asksForSuccessPage]) := by
  refine offersOncePerInterval_of_remembersExit defaultSessions (surveyConfig snapSurveys)
    (fun _ _ => rfl) (fun _ _ => trivial) ?_ ?_ ?_
  · exact pairwise_afterExit (by decide) (disposesOnce ++ [asksForSuccessPage])
  · have hlong : IsLong tenPastNoon.nowMillis := by constructor <;> decide
    exact forall_mem_afterExit tenPastNoon isLong_noon (fun _ => hlong)
      (disposesOnce ++ [asksForSuccessPage])
  · have hnoon : defaultSessions.SetUntil (noon.nowMillis + 30 * 60 * 1000) leavesLookup := by
      refine ⟨by decide, fun name text _ expires hexpires => ?_⟩
      cases hexpires
      decide
    have hlater : ∀ exchange, defaultSessions.SetUntil (noon.nowMillis + 30 * 60 * 1000)
        (sendsAt tenPastNoon exchange) := by
      have hbefore : tenPastNoon.nowMillis < noon.nowMillis + 30 * 60 * 1000 := by decide
      refine fun exchange => ⟨hbefore, fun name text _ expires hexpires => ?_⟩
      have hafter : noon.nowMillis + 30 * 60 * 1000 ≤
          tenPastNoon.nowMillis + 1000 * (30 * 60) := by decide
      cases hexpires
      exact hafter
    obtain ⟨trackingIds, trackingId, hlength, hconcat⟩ :=
      (lasting_empty defaultSessions _).throughoutBrowsing_concat (surveyConfig snapSurveys)
        (fun history data exchange _ =>
          RemembersExit (surveyConfig snapSurveys) history data exchange)
        (leavesLookup :: disposesOnce.map (sendsAt tenPastNoon))
        (sendsAt tenPastNoon asksForSuccessPage)
        (forall_mem_afterExit tenPastNoon hnoon hlater (disposesOnce ++ [asksForSuccessPage]))
        fun _ _ => trivial
    obtain ⟨a, _, rfl⟩ := List.exists_of_length_succ trackingIds hlength
    obtain ⟨b, c, d, e, rfl⟩ := List.length_eq_four.mp (Nat.succ.inj hlength)
    refine hconcat.mpr ⟨Transition.along_of_forall _ fun state exchange hmem => ?_, ?_⟩
    · have hshows : ¬ ShowsSurvey (defaultSessions.applicationData (state.1.cookies exchange.now))
          exchange.request := by
        intro hshows
        simp only [disposesOnce, disposesAfterName, List.map_cons, List.map_nil, List.mem_cons,
          List.not_mem_nil, or_false] at hmem
        rcases hmem with rfl | rfl | rfl | rfl | rfl <;> cases hshows
        next htrader hexit hvalid => cases hvalid
      exact ⟨fun h => absurd h hshows, fun h => absurd h hshows⟩
    · refine ⟨fun _ _ _ _ _ _ _ => Option.some_ne_none (toString noon.nowMillis), ?_⟩
      intro _ _ s n hs hread
      cases hs
      obtain rfl := Except.ok.inj ((toLong_toString isLong_noon).symm.trans hread)
      constructor <;> decide

/-- An hour after an exit the session holds nothing. -/
theorem exists_lasting_afterExit (url : String) (exchange : Exchange utc) :
    ∃ trackingId, Lasting defaultSessions (oneOClock.nowMillis + 1)
      (defaultSessions.browse (surveyConfig url)
        (defaultSessions.browse (surveyConfig url) {} leavesLookup).1
        (sendsAt oneOClock exchange)).1
      (wizard .clearText (surveyConfig url) trackingId (fun _ => none)
        (sendsAt oneOClock exchange)).1 := by
  obtain ⟨_, ⟨hholds, hkeeps, -⟩, -⟩ :=
    (lasting_empty defaultSessions (leavesLookup.now + 1)).browse (surveyConfig url)
      (defaultSessions.setUntil_succ leavesLookup) trivial
  obtain ⟨data', coding, calls, response, hforgets, hbrowses⟩ :
      ∃ data' coding calls response, ApplicationData.Forgets _ data' ∧
        Browses defaultSessions (surveyConfig url) _ (sendsAt oneOClock exchange) coding data' calls
          response := hholds.browse (surveyConfig url) hkeeps trivial
  have hexpired : data' .surveyRequestTriggerDate = none := by
    have hlong : IsLong oneOClock.nowMillis := by constructor <;> decide
    have hflags : ∀ cookie,
        (defaultSessions.cookieFlags.applyToCookie cookie).maxAge = some (30 * 60) := fun _ => rfl
    have hlifetime := holdsExitDate_lt_lifetime defaultSessions (surveyConfig url) {}
      ([leavesLookup] ++ [sendsAt oneOClock exchange]) hflags (fun _ _ => rfl)
      (fun _ _ => trivial) (pairwise_afterExit (by decide) [exchange])
      (forall_mem_afterExit oneOClock isLong_noon (fun _ => hlong) [exchange])
    have hlast := (Sessions.throughoutBrowsing_concat.mp hlifetime).2
    by_contra hheld
    rw [← hbrowses.sent.applicationData_eq] at hheld
    obtain ⟨n, ⟨⟨entry, hentry, -, rfl⟩, -⟩, hlt⟩ := hlast hheld
    obtain rfl := List.mem_singleton.mp hentry
    have hnot : ¬ oneOClock.nowMillis < noon.nowMillis + 1000 * (30 * 60) := by decide
    exact hnot hlt
  have hnothing : data' = fun _ => none := by
    funext key
    by_cases hkey : key = .surveyRequestTriggerDate
    · rw [hkey, hexpired]
    · rcases hforgets key with hsame | hnone
      · rw [hsame]
        cases key <;> first | rfl | exact absurd rfl hkey
      · exact hnone
  rw [hnothing] at hbrowses
  have hafter := hbrowses.holds
  obtain ⟨trackingId, -, rfl⟩ := hbrowses.handled
  exact ⟨trackingId, hafter, hbrowses.keepsSession, Browser.keepsUntil_succ _ _ _⟩

/-- The page of a disposal is given the url that is configured. -/
theorem survey_disposesOnce (url a b c d e : String) :
    (wizard .clearText (surveyConfig url) e
      (final (wizardRun .clearText (surveyConfig url))
        (wizard .clearText (surveyConfig url) a (fun _ => none) (sendsAt oneOClock entersName)).1
        ((disposesAfterName.map (sendsAt oneOClock)).zip [b, c, d]))
      (sendsAt oneOClock asksForSuccessPage)).2.content.survey =
    some (surveyConfig url).configuredUrl := rfl

/-- An hour after an exit the page of another disposal offers the survey again. -/
theorem not_offersOncePerInterval_expired :
    ¬ defaultSessions.ThroughoutBrowsing (surveyConfig snapSurveys)
      (fun history _ exchange reply =>
        OffersOncePerInterval (surveyConfig snapSurveys) history exchange reply) {}
      (leavesLookup :: disposesOnce.map (sendsAt oneOClock) ++
        [sendsAt oneOClock asksForSuccessPage]) := by
  intro h
  have hlast := (Sessions.throughoutBrowsing_concat.mp h).2
  rw [disposesOnce, List.map_cons, Transition.final_cons, Transition.final_cons] at hlast
  have huntil : ∀ exchange, defaultSessions.SetUntil (oneOClock.nowMillis + 1)
      (sendsAt oneOClock exchange) :=
    fun exchange => defaultSessions.setUntil_succ (sendsAt oneOClock exchange)
  obtain ⟨a, hlasting⟩ := exists_lasting_afterExit snapSurveys entersName
  obtain ⟨trackingIds, hlength, hrun, -⟩ := hlasting.run (surveyConfig snapSurveys)
    (List.forall_mem_map.mpr fun exchange _ => huntil exchange : ∀ exchange ∈
      disposesAfterName.map (sendsAt oneOClock), _) fun _ _ => trivial
  obtain ⟨b, c, d, rfl⟩ := List.length_eq_three.mp hlength
  obtain ⟨e, -, hreply, -⟩ :=
    hrun.browse (surveyConfig snapSurveys) (huntil asksForSuccessPage) trivial
  have hnoon : noon.nowMillis < oneOClock.nowMillis := by decide
  have hwithin : oneOClock.nowMillis ≤
      noon.nowMillis + (surveyConfig snapSurveys).prototypeSurveyPrepositionInterval := by decide
  have hconfigured : (surveyConfig snapSurveys).configuredUrl = some snapSurveys := by
    decide +kernel
  refine hlast.quiet (leavesLookup, _) List.mem_cons_self (.inl rfl) hnoon hwithin snapSurveys ?_
  rw [← hconfigured]
  exact (congrArg (fun reply : Reply => reply.content.survey) hreply).trans
    (survey_disposesOnce snapSurveys a b c d e)

end Dealer

end VehiclesOnline
