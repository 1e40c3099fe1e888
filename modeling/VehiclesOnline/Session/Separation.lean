import VehiclesOnline.Csrf.Semantics
import VehiclesOnline.Session.Specification

/-! # Separation of the ciphertexts of one key

Session keys, application cookies and tokens are encrypted under one key. What is in front
of each plaintext keeps them apart: the digest of the suffix key, the digest of the secret
and the key, or a tracking id and a hyphen. -/

namespace VehiclesOnline

variable (factory : EncryptedClientSideSessionFactory)

/-- The ciphertexts that the server produces, by the role it produces them for. -/
inductive Ciphertext
  | sessionKey (draw : SessionDraw)
  | cookie (random : SecureRandomBytes) (trackingId sessionSecretKey key value : String)
  | csrfToken (random : SecureRandomBytes) (trackingId uri : String)

namespace Ciphertext

def text : Ciphertext → String
  | sessionKey draw => factory.sessionSecretKeyCipherText draw
  | cookie random trackingId sessionSecretKey key value =>
      let session := encryptedClientSideSession factory.crypto trackingId sessionSecretKey
      (session.newCookie random (session.nameCookie key) value).value
  | csrfToken random trackingId uri =>
      factory.encryption.encrypt random (Csrf.buildTokenWithUri trackingId uri)

/-- The secrets and keys of application cookies are among the given ones; tracking ids have
twenty characters. -/
def Within (secrets keys : Set String) : Ciphertext → Prop
  | sessionKey _ => True
  | cookie _ _ sessionSecretKey key _ => sessionSecretKey ∈ secrets ∧ key ∈ keys
  | csrfToken _ trackingId _ =>
      trackingId.length = EncryptedClientSideSessionFactory.trackingIdLengthChars

/-- The plaintext that a ciphertext was made from. -/
def plaintext : Ciphertext → String
  | sessionKey draw =>
      factory.sessionSecretKeySuffixCookieName ++ encodeHexString draw.sessionSecretKey
  | cookie _ _ sessionSecretKey key value =>
      factory.cookieNameHashing.hash (sessionSecretKey ++ key) ++ value
  | csrfToken _ trackingId uri => Csrf.buildTokenWithUri trackingId uri

theorem decrypt_text (c : Ciphertext) :
    factory.encryption.decrypt (c.text factory) = .ok (c.plaintext factory) := by
  cases c with
  | sessionKey draw => exact factory.encryption.decrypt_encrypt _ _
  | cookie random trackingId sessionSecretKey key value =>
      simp only [text, encryptedClientSideSession, CookieFlags.applyToCookie_value]
      exact factory.encryption.decrypt_encrypt _ _
  | csrfToken random trackingId uri => exact factory.encryption.decrypt_encrypt _ _

end Ciphertext

/-- The texts that are hashed for the names of the given secrets and keys do not collide,
and none of them is the suffix key. Secrets have thirty-two digits. -/
structure NamesApart (secrets keys : Set String) : Prop where
  length_secret : ∀ secret ∈ secrets, secret.length = 32
  injOn_hash : Set.InjOn factory.cookieNameHashing.hash
    (insert factory.sessionSecretKeySuffixKey (Set.image2 (· ++ ·) secrets keys))
  suffixKey_ne : ∀ secret ∈ secrets, ∀ key ∈ keys,
    factory.sessionSecretKeySuffixKey ≠ secret ++ key

variable {factory} {secrets keys : Set String}

namespace NamesApart

theorem hash_ne_suffix (h : NamesApart factory secrets keys) {secret key : String}
    (hs : secret ∈ secrets) (hk : key ∈ keys) :
    factory.cookieNameHashing.hash (secret ++ key) ≠
      factory.sessionSecretKeySuffixCookieName := by
  intro he
  have hmem := Set.mem_insert_of_mem factory.sessionSecretKeySuffixKey
    (Set.mem_image2_of_mem (f := (· ++ ·)) hs hk)
  exact h.suffixKey_ne secret hs key hk (h.injOn_hash (Set.mem_insert _ _) hmem he.symm)

theorem hash_inj (h : NamesApart factory secrets keys) {secret secret' key key' : String}
    (hs : secret ∈ secrets) (hs' : secret' ∈ secrets) (hk : key ∈ keys) (hk' : key' ∈ keys)
    (he : factory.cookieNameHashing.hash (secret ++ key) =
      factory.cookieNameHashing.hash (secret' ++ key')) : secret = secret' ∧ key = key' := by
  have hmem := Set.mem_insert_of_mem factory.sessionSecretKeySuffixKey
    (Set.mem_image2_of_mem (f := (· ++ ·)) hs hk)
  have hmem' := Set.mem_insert_of_mem factory.sessionSecretKeySuffixKey
    (Set.mem_image2_of_mem (f := (· ++ ·)) hs' hk')
  apply Text.append_inj (h.injOn_hash hmem hmem' he)
  rw [h.length_secret secret hs, h.length_secret secret' hs']

end NamesApart

/-- Two texts in front of which two digests stand agree digest by digest. -/
theorem hash_append_inj {text text' rest rest' : String}
    (h : factory.cookieNameHashing.hash text ++ rest =
      factory.cookieNameHashing.hash text' ++ rest') :
    factory.cookieNameHashing.hash text = factory.cookieNameHashing.hash text' ∧
      rest = rest' := by
  apply Text.append_inj h
  rw [factory.cookieNameHashing.length_hash, factory.cookieNameHashing.length_hash]

/-- The hyphen after a tracking id stands where a digest has a hexadecimal digit. -/
theorem token_ne_hash_append {trackingId : String}
    (hlen : trackingId.length = EncryptedClientSideSessionFactory.trackingIdLengthChars)
    (uri text rest : String) :
    Csrf.buildTokenWithUri trackingId uri ≠ factory.cookieNameHashing.hash text ++ rest := by
  intro h
  have hlist := congrArg (fun s : String => s.toList[20]?) h
  have hid : trackingId.toList.length = 20 := String.length_toList.trans hlen
  have hhash : (factory.cookieNameHashing.hash text).toList.length = 40 :=
    String.length_toList.trans (factory.cookieNameHashing.length_hash text)
  have hleft : (Csrf.buildTokenWithUri trackingId uri).toList[20]? = some '-' := by
    simp [Csrf.buildTokenWithUri, Csrf.delimiter, String.toList_append, hid]
  have hright : (factory.cookieNameHashing.hash text ++ rest).toList[20]? =
      (factory.cookieNameHashing.hash text).toList[20]? := by
    rw [String.toList_append, List.getElem?_append_left (by omega)]
  simp only [hleft, hright] at hlist
  have hmem := List.mem_of_getElem? hlist.symm
  exact absurd (factory.cookieNameHashing.isHex_hash text '-' hmem) (by decide)

namespace Ciphertext

theorem plaintext_eq_cookie_iff (h : NamesApart factory secrets keys) {c : Ciphertext}
    (hc : c.Within secrets keys) {secret key v : String} (hs : secret ∈ secrets)
    (hk : key ∈ keys) :
    c.plaintext factory = factory.cookieNameHashing.hash (secret ++ key) ++ v ↔
      ∃ random trackingId, c = cookie random trackingId secret key v := by
  constructor
  · intro he
    cases c with
    | sessionKey draw =>
        have hname := (hash_append_inj he).1
        exact absurd hname.symm (h.hash_ne_suffix hs hk)
    | cookie random trackingId secret' key' value =>
        obtain ⟨hs', hk'⟩ := hc
        obtain ⟨hname, hvalue⟩ := hash_append_inj he
        obtain ⟨hsecret, hkey⟩ := h.hash_inj hs' hs hk' hk hname
        exact ⟨random, trackingId, by rw [hsecret, hkey, hvalue]⟩
    | csrfToken random trackingId uri => exact absurd he (token_ne_hash_append hc uri _ v)
  · intro he
    obtain ⟨random, trackingId, rfl⟩ := he
    rfl

theorem plaintext_eq_sessionKey_iff (h : NamesApart factory secrets keys) {c : Ciphertext}
    (hc : c.Within secrets keys) {sessionSecretKey : String} :
    c.plaintext factory = factory.sessionSecretKeySuffixCookieName ++ sessionSecretKey ↔
      ∃ draw, c = sessionKey draw ∧ encodeHexString draw.sessionSecretKey = sessionSecretKey := by
  constructor
  · intro he
    cases c with
    | sessionKey draw => exact ⟨draw, rfl, (hash_append_inj he).2⟩
    | cookie random trackingId secret' key' value =>
        obtain ⟨hs', hk'⟩ := hc
        exact absurd (hash_append_inj he).1 (h.hash_ne_suffix hs' hk')
    | csrfToken random trackingId uri =>
        exact absurd he (token_ne_hash_append hc uri _ sessionSecretKey)
  · intro he
    obtain ⟨draw, rfl, rfl⟩ := he
    rfl

end Ciphertext

/-- Each ciphertext of the server is accepted only in its own place: an application cookie
under the name of its key in a session of its secret, with its value, and a session key as
the pair of session cookies. -/
theorem ciphertexts_separated (h : NamesApart factory secrets keys) (c : Ciphertext)
    (hc : c.Within secrets keys) :
    (∀ trackingId, ∀ secret ∈ secrets, ∀ key ∈ keys, ∀ v,
      let session := encryptedClientSideSession factory.crypto trackingId secret
      session.getCookieValue (.ofRequest (session.nameCookie key) (c.text factory)) = .ok v ↔
        ∃ random trackingId', c = .cookie random trackingId' secret key v) ∧
    (∀ (jar : Jar) trackingId suffix, jar.get trackingIdCookieName = some trackingId →
      jar.get factory.sessionSecretKeySuffixCookieName = some suffix →
      trackingId ++ suffix = c.text factory → ∀ found,
      factory.validateSessionCookies jar = .ok found ↔
        ∃ draw, c = .sessionKey draw ∧
          found = some (trackingId, encodeHexString draw.sessionSecretKey)) := by
  constructor
  · intro trackingId secret hs key hk v
    simp only
    rw [getCookieValue_eq_ok_iff]
    have hd := c.decrypt_text factory
    rw [← Ciphertext.plaintext_eq_cookie_iff h hc hs hk (v := v)]
    simp only [EncryptedClientSideSessionFactory.crypto, hd, Except.ok.injEq]
    rfl
  · intro jar trackingId suffix ht hs hpair found
    rw [factory.validateSessionCookies_eq_ok_iff ht hs, hpair, c.decrypt_text factory]
    constructor
    · intro hfound
      obtain ⟨sessionSecretKey, rfl, hplain⟩ := hfound
      obtain ⟨draw, hdraw, hkey⟩ :=
        (Ciphertext.plaintext_eq_sessionKey_iff h hc).mp (Except.ok.inj hplain)
      exact ⟨draw, hdraw, by rw [hkey]⟩
    · intro hfound
      obtain ⟨draw, rfl, rfl⟩ := hfound
      exact ⟨_, rfl, rfl⟩

/-- The secret whose bytes are all zero. -/
def zeroSecret : String := encodeHexString fun _ => 0

theorem namesApart_production :
    NamesApart (productionFactory (Equiv.refl _)) {zeroSecret}
      {"preventGoingToDisposePage", "disposeOccurred"} where
  length_secret secret hs := by
    rw [Set.mem_singleton_iff.mp hs]
    decide
  injOn_hash := by
    intro text htext text' htext' h
    rcases htext with rfl | ⟨_, rfl, _, rfl | rfl, rfl⟩ <;>
      rcases htext' with rfl | ⟨_, rfl, _, rfl | rfl, rfl⟩ <;>
      first
      | rfl
      | exact absurd h (by decide +kernel)
  suffixKey_ne secret hs key hk := by
    rw [Set.mem_singleton_iff.mp hs]
    rcases hk with rfl | rfl <;> decide

theorem ciphertexts_separated_production :
    let session :=
      encryptedClientSideSession (productionFactory (Equiv.refl _)).crypto "" zeroSecret
    session.getCookieValue (.ofRequest (session.nameCookie "disposeOccurred")
      ((Ciphertext.cookie (fun _ => 0) "" zeroSecret "preventGoingToDisposePage" "true").text
        (productionFactory (Equiv.refl _)))) ≠ .ok "true" := by
  intro session h
  have hseparated := (ciphertexts_separated namesApart_production
    (.cookie (fun _ => 0) "" zeroSecret "preventGoingToDisposePage" "true")
    ⟨rfl, .inl rfl⟩).1 "" zeroSecret rfl "disposeOccurred" (.inr rfl) "true"
  obtain ⟨_, _, hcookie⟩ := hseparated.mp h
  injection hcookie with _ _ _ hkey
  exact absurd hkey (by decide)

end VehiclesOnline
