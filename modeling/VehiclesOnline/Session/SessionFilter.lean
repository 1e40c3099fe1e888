import VehiclesOnline.Session.Specification

/-! The filter in front of every action, which creates sessions, and the handler behind all
of them, which answers a request whose action raised. -/

namespace VehiclesOnline

/-- The pages of the application. -/
inductive Route
  | index
  | beforeYouStart
  | setUpTradeDetails
  | businessChooseYourAddress
  | enterAddressManually
  | vehicleLookup
  | vehicleLookupBack
  | dispose
  | disposeSuccess
  | disposeFailure
  | vehicleLookupFailure
  | uprnNotFound
  | duplicateDisposalError
  | microServiceError
  | soapEndpointError
  | vrmLocked
  | error (exceptionDigest : String)
  | help
  deriving DecidableEq, Repr

/-- `EnsureSessionCreatedFilter.apply`: the next filter sees the cookies of the new session,
and the response sets them after everything else. -/
def ensureSessionCreatedFilter {α : Type} (sessionFactory : ClientSideSessionFactory)
    (draw : SessionDraw) (nextFilter : Jar → Except Throwable (SimpleResult α))
    (requestCookies : Jar) : Except Throwable (SimpleResult α) := do
  match ← sessionFactory.newSessionCookiesIfNeeded draw requestCookies with
  | some cookies =>
      let simpleResult ← nextFilter (requestCookies.merge cookies)
      return simpleResult.withCookies cookies
  | none => nextFilter requestCookies

def seenCookieMessageKey : String := "seen_cookie_message"

/-- Removes all cookies of the request except the seen cookie. -/
def discardAllCookies (requestCookies : Jar) : SimpleResult Route :=
  let discardingCookiesKeys := requestCookies.names.filter (· ≠ seenCookieMessageKey)
  SimpleResult.discardingCookies { content := .beforeYouStart }
    (discardingCookiesKeys.map fun name => { name := name })

/-- `Codecs.sha1` of the message of an exception. -/
def exceptionDigest (cause : Throwable) : String :=
  Sha1.hexDigest (Utf8.encode (cause.getMessage.getD ""))

/-- `ErrorStrategy.apply`, for the exception that Play passes on as the cause. -/
def errorStrategy (requestCookies : Jar) (cause : Throwable) : SimpleResult Route :=
  match cause.exceptionClass with
  | .badPaddingException => discardAllCookies requestCookies
  | .invalidSessionException => discardAllCookies requestCookies
  | _ => { content := .error (exceptionDigest cause) }

/-- The error strategy removes all cookies, or none. -/
theorem errorStrategy_cases (requestCookies : Jar) (cause : Throwable) :
    errorStrategy requestCookies cause = discardAllCookies requestCookies ∨
      (errorStrategy requestCookies cause).setCookies = [] := by
  obtain ⟨exceptionClass, message⟩ := cause
  cases exceptionClass with
  | badPaddingException => exact .inl rfl
  | invalidSessionException => exact .inl rfl
  | _ => exact .inr rfl

/-! ### Discarding every cookie -/

/-- Discards every name of the request but that of the seen cookie. -/
theorem get_receive_discardAllCookies (jar requestCookies : Jar) (name : String) :
    (jar.receive (discardAllCookies requestCookies).setCookies).get name =
      if name ∈ requestCookies.names ∧ name ≠ seenCookieMessageKey then none
      else jar.get name := by
  have hcookies : ∀ names : List String,
      (names.map fun name => ({ name := name } : DiscardingCookie)).map
        DiscardingCookie.toCookie =
      names.map fun name => DiscardingCookie.toCookie { name := name } := by
    intro names
    rw [List.map_map]
    rfl
  rw [discardAllCookies, SimpleResult.discardingCookies, Jar.get_receive_withCookies, hcookies]
  simp only [Jar.get_receive_discarding, List.mem_filter, decide_eq_true_eq]
  rfl

theorem get_receive_discardAllCookies_self {name : String} (hname : name ≠ seenCookieMessageKey)
    (jar : Jar) : (jar.receive (discardAllCookies jar).setCookies).get name = none := by
  rw [get_receive_discardAllCookies]
  by_cases hmem : name ∈ jar.names
  · rw [if_pos ⟨hmem, hname⟩]
  · rw [if_neg fun h => hmem h.1]
    exact not_not.mp fun h => hmem (Jar.mem_names.mpr h)

end VehiclesOnline
