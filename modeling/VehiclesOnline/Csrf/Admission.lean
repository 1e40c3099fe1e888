import VehiclesOnline.Csrf.Correctness

/-! # Which requests reach their actions

The check lets a request through unless it is a POST whose form was not sent from a page of its
session. A request that it refuses raises an exception that costs no cookies. -/

namespace VehiclesOnline.Csrf

variable (csrf : CsrfPrevention)

/-- The request and the body that the check hands on. -/
def passOn : EssentialAction (RequestHeader × Body) := fun request body => .ok (request, body)

/-- A form with a token that the server made for the session, and for a page to which the
`Referer` belongs. -/
structure Genuine (trackingId : String) (request : RequestHeader) (body : Body) : Prop where
  contentType : request.contentType = some "application/x-www-form-urlencoded"
  token : ∃ token uri referer, tokenOfBody csrf request (body.take inspectedBytes) = some token ∧
    Minted csrf token trackingId uri ∧ IsUri uri ∧ request.referer = some referer ∧
    Accepts referer uri

/-- The requests that are let in to a session. -/
def LetIn (trackingId : String) (request : RequestHeader) (body : Body) : Prop :=
  csrf.preventionEnabled = true → request.method = "POST" → Genuine csrf trackingId request body

/-- An exception with which the check refuses a request. -/
def Refusal (cause : Throwable) : Prop :=
  cause.exceptionClass = .csrfPreventionException ∨ cause.exceptionClass = .noSuchElementException

variable {csrf}

section Check

variable {request : RequestHeader} {body : Body} {trackingId : String}

theorem Genuine.apply_passOn (h : Genuine csrf trackingId request body)
    (hen : csrf.preventionEnabled = true) (draw : TokenDraw) (hmethod : request.method = "POST")
    (hs : InSession csrf request trackingId) (ht : delimiter ∉ trackingId.toList) :
    apply csrf draw passOn request body = .ok (request, body) := by
  obtain ⟨hcontentType, token, uri, referer, htoken, hm, hu, hreferer, haccepts⟩ := h
  have hcontains : Text.Contains (optionToString request.referer) uri := by
    rw [hreferer]
    exact (contains_optionToString_iff hu).mpr haccepts
  rw [apply_of_minted hen draw ⟨hmethod, hcontentType⟩ hs ht htoken hm ht hu,
    if_pos ⟨rfl, hcontains⟩]
  rfl

/-- No uri occurs in the rendering of a `Referer` that is not there. -/
theorem not_contains_none {uri : String} (hu : IsUri uri) :
    ¬ Text.Contains (optionToString none) uri := by
  obtain ⟨path, rfl⟩ := hu
  rw [Text.contains_iff]
  rintro ⟨a, b, hab⟩
  have hslash : '/' ∈ (optionToString none).toList := by
    rw [hab]
    simp [String.toList_append]
  exact absurd hslash (by decide)

theorem refused_of_not_genuine (h : ¬ Genuine csrf trackingId request body)
    (hen : csrf.preventionEnabled = true) (draw : TokenDraw) (hmethod : request.method = "POST")
    (hs : InSession csrf request trackingId) (ht : delimiter ∉ trackingId.toList)
    (hunforged : ∀ token, tokenOfBody csrf request (body.take inspectedBytes) = some token →
      Unforged csrf token) :
    ∃ cause, Refusal cause ∧ apply csrf draw passOn request body = .error cause := by
  have hinvalid : Refusal (csrfPreventionException "Invalid token found in form body") := .inl rfl
  by_cases hcontentType : request.contentType = some "application/x-www-form-urlencoded"
  · have hpost : IsFormPost request := ⟨hmethod, hcontentType⟩
    cases htoken : tokenOfBody csrf request (body.take inspectedBytes) with
    | none =>
        refine ⟨_, hinvalid, ?_⟩
        rw [apply_formPost hen draw hpost hs]
        simp only [checkBody, htoken]
        rfl
    | some token =>
        cases hextract : csrf.crypto.extractSignedToken token with
        | none =>
            refine ⟨_, hinvalid, ?_⟩
            rw [apply_formPost hen draw hpost hs]
            simp only [checkBody, htoken, matchToken, hextract]
            rfl
        | some signedToken =>
            obtain ⟨trackingId', uri, hm, ht', hu⟩ := hunforged token htoken (by simp [hextract])
            refine ⟨_, hinvalid, ?_⟩
            rw [apply_of_minted hen draw hpost hs ht htoken hm ht' hu, if_neg]
            rintro ⟨rfl, hcontains⟩
            cases hreferer : request.referer with
            | none =>
                rw [hreferer] at hcontains
                exact not_contains_none hu hcontains
            | some referer =>
                rw [hreferer, contains_optionToString_iff hu] at hcontains
                exact h ⟨hcontentType, token, uri, referer, htoken, hm, hu, hreferer, hcontains⟩
  · rw [InSession] at hs
    cases hsome : request.contentType with
    | none =>
        refine ⟨⟨.noSuchElementException, some "None.get"⟩, .inr rfl, ?_⟩
        simp only [apply, hen, hmethod, hs, hsome, if_true, bind, Except.bind]
        rfl
    | some contentType =>
        have hne : contentType ≠ "application/x-www-form-urlencoded" := by
          rintro rfl
          exact hcontentType hsome
        refine ⟨csrfPreventionException "No CSRF token found in body", .inl rfl, ?_⟩
        simp only [apply, hen, hmethod, hs, hsome, if_true, if_neg hne, bind, Except.bind]
        rfl

/-- What the check hands on is the request itself, with a tag at most. -/
theorem apply_passOn_of_not_post (h : ¬ (csrf.preventionEnabled = true ∧ request.method = "POST"))
    (draw : TokenDraw) (hs : InSession csrf request trackingId) :
    ∃ tags, apply csrf draw passOn request body = .ok ({ request with tags := tags }, body) := by
  rw [InSession] at hs
  rw [apply]
  by_cases hen : csrf.preventionEnabled = true
  · rw [if_pos hen, if_neg fun hmethod => h ⟨hen, hmethod⟩]
    split_ifs
    · rw [hs]
      exact ⟨_, rfl⟩
    · exact ⟨_, rfl⟩
  · rw [if_neg hen]
    exact ⟨_, rfl⟩

/-- The check hands on the requests that are let in, and refuses the others. -/
theorem apply_passOn (draw : TokenDraw) (hs : InSession csrf request trackingId)
    (ht : delimiter ∉ trackingId.toList)
    (hunforged : ∀ token, tokenOfBody csrf request (body.take inspectedBytes) = some token →
      Unforged csrf token) :
    (LetIn csrf trackingId request body ∧
        ∃ tags, apply csrf draw passOn request body = .ok ({ request with tags := tags }, body)) ∨
      (¬ LetIn csrf trackingId request body ∧ ∃ cause, Refusal cause ∧
        apply csrf draw passOn request body = .error cause) := by
  by_cases hpost : csrf.preventionEnabled = true ∧ request.method = "POST"
  · obtain ⟨hen, hmethod⟩ := hpost
    by_cases hgenuine : Genuine csrf trackingId request body
    · exact .inl ⟨fun _ _ => hgenuine, request.tags,
        hgenuine.apply_passOn hen draw hmethod hs ht⟩
    · exact .inr ⟨fun h => hgenuine (h hen hmethod),
        refused_of_not_genuine hgenuine hen draw hmethod hs ht hunforged⟩
  · exact .inl ⟨fun hen hmethod => absurd ⟨hen, hmethod⟩ hpost,
      apply_passOn_of_not_post hpost draw hs⟩

end Check

end VehiclesOnline.Csrf
