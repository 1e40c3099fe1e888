import VehiclesOnline.Library.FormUrlEncoded
import VehiclesOnline.Session.ClientSideSession

/-! The filter that checks the token of every form against the session and the page that
the form came from. Tokens are signed by Play, whose body parser is a parameter. -/

namespace VehiclesOnline.Csrf

/-- The parts of a request header that the filter reads. -/
structure RequestHeader where
  method : String
  uri : String
  contentType : Option String
  referer : Option String
  accepts : String → Bool
  cookies : Jar
  tags : List (String × String) := []

abbrev Body := List UInt8

/-- The action behind the filter. -/
abbrev EssentialAction (α : Type) := RequestHeader → Body → Except Throwable α

/-- `Crypto.signToken`, which reads the clock, and `Crypto.extractSignedToken`. -/
structure TokenSigner where
  signToken : ℕ → String → String
  extractSignedToken : String → Option String
  extract_sign : ∀ time token, extractSignedToken (signToken time token) = some token

namespace TokenSigner

/-- `Crypto.sign` under the secret of the application. -/
def sign (secret message : String) : String :=
  Sha1.hmac (Utf8.encode secret) (Utf8.encode message)

/-- A signed token is the signature, the time and the token, joined by hyphens. -/
def signed (secret time token : String) : String :=
  let joined := time ++ "-" ++ token
  sign secret joined ++ "-" ++ joined

/-- Splits at the first two hyphens and compares the signature. -/
def extract (secret token : String) : Option String :=
  if '-' ∈ token.toList ∧ '-' ∈ (Text.after '-' token).toList then
    let signature := Text.before '-' token
    let nonce := Text.before '-' (Text.after '-' token)
    let raw := Text.after '-' (Text.after '-' token)
    if signature = sign secret (nonce ++ "-" ++ raw) then some raw else none
  else none

theorem extract_signed (secret : String) {time : String} (htime : '-' ∉ time.toList)
    (token : String) : extract secret (signed secret time token) = some token := by
  have hsign : '-' ∉ (sign secret (time ++ "-" ++ token)).toList := by
    intro h
    exact absurd (Sha1.isHex_of_mem_hexDigest h) (by decide)
  have hafter : Text.after '-' (signed secret time token) = time ++ "-" ++ token :=
    Text.after_append hsign _
  have hbefore : Text.before '-' (signed secret time token) =
      sign secret (time ++ "-" ++ token) := Text.before_append hsign _
  have hafter' : Text.after '-' (time ++ "-" ++ token) = token := Text.after_append htime token
  have hbefore' : Text.before '-' (time ++ "-" ++ token) = time := Text.before_append htime token
  rw [extract, hafter, hafter', hbefore, hbefore', if_pos, if_pos rfl]
  constructor
  · simp [signed, String.toList_append]
  · simp [String.toList_append]

end TokenSigner

/-- The signer of Play under the secret of the application. -/
def playTokenSigner (secret : String) : TokenSigner where
  signToken time token := TokenSigner.signed secret (String.ofList (Nat.toDigits 10 time)) token
  extractSignedToken := TokenSigner.extract secret
  extract_sign time token := by
    apply TokenSigner.extract_signed
    rw [String.toList_ofList]
    intro h
    exact absurd (Nat.isDigit_of_mem_toDigits (by decide) (by decide) h) (by decide)

/-- The values of the fields of a form. -/
abbrev FormData := String → Option (List String)

/-- The values of each name, in the order of the pairs. -/
def formData (pairs : List (String × String)) : FormData := fun name =>
  match pairs.filter (·.1 = name) with
  | [] => none
  | named => some (named.map Prod.snd)

/-- What the filter is built from. `tolerantFormUrlEncoded` answers `none` where Play answers
with a result of its own. -/
structure CsrfPrevention where
  preventionEnabled : Bool := true
  clientSideSessionFactory : ClientSideSessionFactory
  aesEncryption : CookieEncryption
  crypto : TokenSigner
  tolerantFormUrlEncoded : RequestHeader → Body → Option FormData

def csrfPreventionException (nestedMessage : String) : Throwable :=
  ⟨.csrfPreventionException, some ("java.lang.Throwable: " ++ nestedMessage)⟩

def tokenName : String := "csrf_prevention_token"

def delimiter : Char := '-'

/-- An option as string concatenation renders it. -/
def optionToString : Option String → String
  | some value => "Some(" ++ value ++ ")"
  | none => "None"

def buildTokenWithReferer (trackingId : String) (referer : Option String) : String :=
  trackingId ++ String.singleton delimiter ++ optionToString referer

def buildTokenWithUri (trackingId uri : String) : String :=
  trackingId ++ String.singleton delimiter ++ uri

/-- The parts before and after the first delimiter; without one, each part is the whole
token. Java drops trailing empty parts, so a token of nothing but delimiters has no first
part. -/
def splitToken (token : String) : Except Throwable (String × String) :=
  if token ≠ "" ∧ token.toList.all (· == delimiter) then
    .error ⟨.indexOutOfBoundsException, some "0"⟩
  else .ok (Text.before delimiter token, Text.after delimiter token)

variable (csrf : CsrfPrevention)

/-- The time and the random bytes that the signing of a new token reads. -/
structure TokenDraw where
  time : ℕ
  initializationVector : SecureRandomBytes

/-- A new token for a page: the token that the filter tags a request with, and the one that
`getToken` writes into a form. -/
def newToken (draw : TokenDraw) (trackingId uri : String) : String :=
  csrf.crypto.signToken draw.time
    (csrf.aesEncryption.encrypt draw.initializationVector (buildTokenWithUri trackingId uri))

def getToken (draw : TokenDraw) (request : RequestHeader) : Except Throwable String :=
  match RichCookies.trackingId request.cookies csrf.clientSideSessionFactory with
  | .ok trackingId => .ok (newToken csrf draw trackingId request.uri)
  | .error _ => .error (csrfPreventionException "No CSRF token found")

/-- Whether the token of the form belongs to the session and the page of the header. -/
def matchToken (token headerToken : String) : Except Throwable Bool := do
  let signedToken ← match csrf.crypto.extractSignedToken token with
    | some signedToken => .ok signedToken
    | none => throw (csrfPreventionException "Invalid token found in form body")
  let decryptedExtractedSignedToken ← csrf.aesEncryption.decrypt signedToken
  let splitDecryptedExtractedSignedToken ← splitToken decryptedExtractedSignedToken
  let splitTokenFromHeader ← splitToken headerToken
  return decide (splitDecryptedExtractedSignedToken.1 = splitTokenFromHeader.1) &&
    decide (Text.Contains splitTokenFromHeader.2 splitDecryptedExtractedSignedToken.2)

/-- The number of bytes of a body in which the token is looked for. -/
def inspectedBytes : ℕ := 102400

/-- The first token of the inspected part of the body. -/
def tokenOfBody (request : RequestHeader) (bytes : Body) : Option String :=
  match csrf.tolerantFormUrlEncoded request bytes with
  | none => none
  | some body => (body tokenName).bind List.head?

def checkBody {α : Type} (request : RequestHeader) (headerToken : String)
    (next : EssentialAction α) (body : Body) : Except Throwable α := do
  let bytes := body.take inspectedBytes
  let validToken ← match tokenOfBody csrf request bytes with
    | none => pure false
    | some token => matchToken csrf token headerToken
  if validToken then next request (bytes ++ body.drop inspectedBytes)
  else throw (csrfPreventionException "Invalid token found in form body")

def apply {α : Type} (draw : TokenDraw) (next : EssentialAction α) (requestHeader : RequestHeader)
    (body : Body) : Except Throwable α := do
  if csrf.preventionEnabled then
    if requestHeader.method = "POST" then
      let trackingId ← RichCookies.trackingId requestHeader.cookies csrf.clientSideSessionFactory
      let headerToken := buildTokenWithReferer trackingId requestHeader.referer
      match requestHeader.contentType with
      | none => throw ⟨.noSuchElementException, some "None.get"⟩
      | some contentType =>
          if contentType = "application/x-www-form-urlencoded" then
            checkBody csrf requestHeader headerToken next body
          else throw (csrfPreventionException "No CSRF token found in body")
    else if requestHeader.method = "GET" ∧ requestHeader.accepts "text/html" then
      let trackingId ← RichCookies.trackingId requestHeader.cookies csrf.clientSideSessionFactory
      let newSignedEncryptedToken := newToken csrf draw trackingId requestHeader.uri
      next { requestHeader with tags := (tokenName, newSignedEncryptedToken) :: requestHeader.tags }
        body
    else next requestHeader body
  else next requestHeader body

/-! ### Splitting tokens -/

/-- A token built from two parts is split into them again if the first is free of the
delimiter and the second does not consist of it. -/
theorem splitToken_append {s t : String} (hs : delimiter ∉ s.toList)
    (ht : ∃ c ∈ t.toList, c ≠ delimiter) :
    splitToken (s ++ String.singleton delimiter ++ t) = .ok (s, t) := by
  have hpart : ¬ (s ++ String.singleton delimiter ++ t).toList.all (· == delimiter) := by
    obtain ⟨c, hc, hne⟩ := ht
    intro hall
    exact hne (eq_of_beq (List.all_eq_true.mp hall c (by simp [String.toList_append, hc])))
  rw [splitToken, if_neg fun h => hpart h.2, Text.before_append hs, Text.after_append hs]

/-- Request uris start with a slash. -/
def IsUri (uri : String) : Prop := ∃ path, uri = "/" ++ path

theorem splitToken_buildTokenWithUri {trackingId uri : String}
    (ht : delimiter ∉ trackingId.toList) (hu : IsUri uri) :
    splitToken (buildTokenWithUri trackingId uri) = .ok (trackingId, uri) := by
  obtain ⟨path, rfl⟩ := hu
  exact splitToken_append ht ⟨'/', by simp [String.toList_append], by decide⟩

theorem splitToken_buildTokenWithReferer {trackingId : String}
    (ht : delimiter ∉ trackingId.toList) (referer : Option String) :
    splitToken (buildTokenWithReferer trackingId referer) =
      .ok (trackingId, optionToString referer) := by
  apply splitToken_append ht
  cases referer with
  | none => exact ⟨'N', by decide, by decide⟩
  | some value => exact ⟨'S', by simp [optionToString, String.toList_append], by decide⟩

end VehiclesOnline.Csrf
