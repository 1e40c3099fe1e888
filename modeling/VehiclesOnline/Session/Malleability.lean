import Mathlib.Data.Set.Finite.Lemmas
import Mathlib.Data.Set.Finite.List
import VehiclesOnline.Session.Specification

/-! # What edited ciphertexts can say

Nothing authenticates a cookie but the name in front of its payload, and cipher block
chaining lets an editor keep the front of a payload and change the rest. -/

namespace VehiclesOnline

open BlockMode (Block)

/-- The byte strings that can be built from given ones by cutting, splicing and repeating
them and by flipping bits of single bytes. -/
inductive Buildable (given : List (List UInt8)) : List UInt8 → Prop
  | given {bytes : List UInt8} : bytes ∈ given → Buildable given bytes
  | cut {bytes : List UInt8} (i j : ℕ) : Buildable given bytes →
      Buildable given ((bytes.take j).drop i)
  | splice {bytes bytes' : List UInt8} : Buildable given bytes → Buildable given bytes' →
      Buildable given (bytes ++ bytes')
  | flip {bytes : List UInt8} (i : ℕ) (mask : UInt8) : Buildable given bytes →
      Buildable given (bytes.modify i (· ^^^ mask))

theorem Buildable.repeatTail {given : List (List UInt8)} {bytes : List UInt8}
    (h : Buildable given bytes) (n : ℕ) : Buildable given (BlockMode.repeatTail n bytes) := by
  have htail := h.cut (bytes.length - 2 * n) bytes.length
  rw [List.take_length] at htail
  exact h.splice htail

/-- A cookie that the server issues: the random bytes drawn, the key and the value. -/
structure Issue where
  random : SecureRandomBytes
  key : String
  value : String

/-- Encryption with AES under the key of the application, and digests for names. -/
structure AesCrypto where
  cookieFlags : CookieFlags
  secretKeySpec : Equiv.Perm (Block 16)
  cookieNameHashGenerator : CookieNameHashGenerator

namespace AesCrypto

variable (aes : AesCrypto)

def crypto : SessionCrypto where
  cookieFlags := aes.cookieFlags
  encryption := aesEncryption aes.secretKeySpec
  cookieNameHashGenerator := aes.cookieNameHashGenerator.toHashGenerator

def session (trackingId sessionSecretKey : String) : ClientSideSession :=
  encryptedClientSideSession aes.crypto trackingId sessionSecretKey

/-- A text is accepted as a cookie exactly when it decrypts to the name and the value. -/
theorem getCookieValue_session_iff (trackingId sessionSecretKey : String) {name raw v : String} :
    (aes.session trackingId sessionSecretKey).getCookieValue (.ofRequest name raw) = .ok v ↔
      AesEncryption.decrypt aes.secretKeySpec raw = .ok (name ++ v) :=
  getCookieValue_eq_ok_iff aes.crypto trackingId sessionSecretKey

def nameOf (sessionSecretKey : String) (issue : Issue) : String :=
  aes.cookieNameHashGenerator.hash (sessionSecretKey ++ issue.key)

def cookieOf (trackingId sessionSecretKey : String) (issue : Issue) : Cookie :=
  let session := aes.session trackingId sessionSecretKey
  session.newCookie issue.random (session.nameCookie issue.key) issue.value

/-- The bytes of the cookie: the initialization vector and the cipher blocks. -/
def bytesOf (sessionSecretKey : String) (issue : Issue) : List UInt8 :=
  List.ofFn issue.random ++ BlockMode.cbcEncrypt aes.secretKeySpec issue.random
    (Utf8.encode (aes.nameOf sessionSecretKey issue ++ issue.value))

theorem decode_cookieOf (trackingId sessionSecretKey : String) (issue : Issue) :
    Base64.decode (aes.cookieOf trackingId sessionSecretKey issue).value =
      aes.bytesOf sessionSecretKey issue := by
  simp only [cookieOf, session, encryptedClientSideSession, CookieFlags.applyToCookie_value]
  exact Base64.decode_encode _

/-- The bytes that the issued cookies give to the client. -/
def bytesGiven (trackingId sessionSecretKey : String) (issued : List Issue) : List (List UInt8) :=
  issued.map fun issue => Base64.decode (aes.cookieOf trackingId sessionSecretKey issue).value

/-- A digest is forty characters and forty bytes long. -/
theorem length_encode_hash (text : String) :
    (Utf8.encode (aes.cookieNameHashGenerator.hash text)).length = 40 := by
  rw [Utf8.length_encode_of_ascii fun c hc =>
    Sha1.toNat_lt_of_isHex (aes.cookieNameHashGenerator.isHex_hash text c hc)]
  exact aes.cookieNameHashGenerator.length_hash text

theorem length_encode_nameOf (sessionSecretKey : String) (issue : Issue) :
    (Utf8.encode (aes.nameOf sessionSecretKey issue)).length = 40 :=
  aes.length_encode_hash (sessionSecretKey ++ issue.key)

theorem forty_le_length_payload (sessionSecretKey : String) (issue : Issue) :
    40 ≤ (Utf8.encode (aes.nameOf sessionSecretKey issue ++ issue.value)).length := by
  rw [Utf8.encode_append, List.length_append, aes.length_encode_nameOf]
  omega

/-- A payload takes at least three blocks after the initialization vector. -/
theorem length_bytesOf (sessionSecretKey : String) (issue : Issue) :
    16 + 3 * 16 ≤ (aes.bytesOf sessionSecretKey issue).length := by
  have hlen := aes.forty_le_length_payload sessionSecretKey issue
  have hcipher := BlockMode.length_cbcEncrypt (n := 16) (by decide) aes.secretKeySpec issue.random
    (Utf8.encode (aes.nameOf sessionSecretKey issue ++ issue.value))
  obtain ⟨q, hq⟩ := BlockMode.dvd_length_pad (n := 16) (by decide)
    (Utf8.encode (aes.nameOf sessionSecretKey issue ++ issue.value))
  have hpad := BlockMode.pad_length_pos (n := 16) (by decide)
    (Utf8.encode (aes.nameOf sessionSecretKey issue ++ issue.value))
  rw [bytesOf, List.length_append, List.length_ofFn, hcipher]
  simp only [BlockMode.pad, List.length_append, List.length_replicate] at hq ⊢
  omega

/-- An unmodified cookie is accepted under its own name alone, with its own value. -/
theorem getCookieValue_cookieOf (trackingId sessionSecretKey : String) (issue : Issue)
    (text v : String) :
    (aes.session trackingId sessionSecretKey).getCookieValue
        (.ofRequest (aes.cookieNameHashGenerator.hash text)
          (aes.cookieOf trackingId sessionSecretKey issue).value) = .ok v ↔
      aes.cookieNameHashGenerator.hash text = aes.nameOf sessionSecretKey issue ∧
        v = issue.value := by
  have hd : AesEncryption.decrypt aes.secretKeySpec
      (aes.cookieOf trackingId sessionSecretKey issue).value =
        .ok (aes.nameOf sessionSecretKey issue ++ issue.value) := by
    simp only [cookieOf, session, encryptedClientSideSession, CookieFlags.applyToCookie_value]
    exact AesEncryption.decrypt_encrypt aes.secretKeySpec _ _
  rw [getCookieValue_session_iff, hd, Except.ok.injEq]
  constructor
  · intro h
    have hlen : (aes.nameOf sessionSecretKey issue).length =
        (aes.cookieNameHashGenerator.hash text).length := by
      rw [nameOf, aes.cookieNameHashGenerator.length_hash,
        aes.cookieNameHashGenerator.length_hash]
    obtain ⟨hname, hvalue⟩ := Text.append_inj h hlen
    exact ⟨hname.symm, hvalue.symm⟩
  · intro h
    rw [h.1, h.2]

/-- The first blocks of a plaintext hold the name, whatever was done to the later ones. -/
theorem take_plain_of_take (sessionSecretKey : String) (issue : Issue) {bytes : List UInt8}
    (h : bytes.take (16 + 3 * 16) = (aes.bytesOf sessionSecretKey issue).take (16 + 3 * 16)) :
    (BlockMode.cbcPlain aes.secretKeySpec (Block.ofBytes (bytes.take 16)) (bytes.drop 16)).take
        40 = Utf8.encode (aes.nameOf sessionSecretKey issue) := by
  have hlen := aes.length_bytesOf sessionSecretKey issue
  have hlen' : 16 + 3 * 16 ≤ bytes.length := by
    have hl := congrArg List.length h
    rw [List.length_take, List.length_take] at hl
    omega
  have hrandom : (List.ofFn issue.random).length = 16 := List.length_ofFn
  have hiv : bytes.take 16 = List.ofFn issue.random := by
    have ht := congrArg (List.take 16) h
    rw [List.take_take, List.take_take, Nat.min_eq_left (by omega)] at ht
    rw [ht, bytesOf, List.take_left' hrandom]
  have hblocks : (bytes.drop 16).take (3 * 16) = (BlockMode.cbcEncrypt aes.secretKeySpec
      issue.random (Utf8.encode (aes.nameOf sessionSecretKey issue ++ issue.value))).take
        (3 * 16) := by
    have hd := congrArg (List.drop 16) h
    rw [List.drop_take, List.drop_take, Nat.add_sub_cancel_left] at hd
    rw [hd, bytesOf, List.drop_left' hrandom]
  rw [bytesOf, List.length_append, hrandom] at hlen
  have hplain := BlockMode.take_cbcPlain (by decide) aes.secretKeySpec issue.random
    (by rw [List.length_drop]; omega) (by omega) hblocks
  rw [BlockMode.cbcPlain_cbcEncrypt (by decide)] at hplain
  have h40 := congrArg (List.take 40) hplain
  rw [List.take_take, List.take_take, Nat.min_eq_left (by decide), BlockMode.pad,
    Utf8.encode_append, List.append_assoc,
    List.take_left' (aes.length_encode_nameOf sessionSecretKey issue)] at h40
  rw [hiv, Block.ofBytes_ofFn]
  exact h40

/-- A text that keeps the initialization vector and the first three cipher blocks of a cookie
is accepted under the name of that cookie alone. -/
theorem name_eq_of_take (trackingId sessionSecretKey : String) (issue : Issue)
    {raw text v : String}
    (htake : (Base64.decode raw).take (16 + 3 * 16) =
      (aes.bytesOf sessionSecretKey issue).take (16 + 3 * 16))
    (h : (aes.session trackingId sessionSecretKey).getCookieValue
      (.ofRequest (aes.cookieNameHashGenerator.hash text) raw) = .ok v) :
    aes.cookieNameHashGenerator.hash text = aes.nameOf sessionSecretKey issue := by
  rw [getCookieValue_session_iff] at h
  obtain ⟨m, hm, hdecode⟩ := (AesEncryption.decrypt_eq_ok_iff aes.secretKeySpec).mp h
  obtain ⟨-, -, hunpad⟩ := (BlockMode.cbcDecrypt_eq_ok_iff aes.secretKeySpec).mp hm
  obtain ⟨k, hk⟩ := BlockMode.unpad_eq_take hunpad
  have hplain := aes.take_plain_of_take sessionSecretKey issue htake
  -- the accepted text has forty characters for its name, so it has forty bytes
  have hlen : 40 ≤ m.length := by
    have hl := Utf8.length_decode_le m
    rw [hdecode, String.length_append, aes.cookieNameHashGenerator.length_hash] at hl
    omega
  have hfront : m.take 40 = Utf8.encode (aes.nameOf sessionSecretKey issue) := by
    rw [hk, List.length_take] at hlen
    rw [hk, List.take_take, Nat.min_eq_left (by omega), hplain]
  have hjoin : m = Utf8.encode (aes.nameOf sessionSecretKey issue) ++ m.drop 40 := by
    rw [← hfront, List.take_append_drop]
  rw [hjoin, Utf8.decode_encode_append] at hdecode
  apply (Text.append_inj hdecode.symm ?_).1
  rw [nameOf, aes.cookieNameHashGenerator.length_hash, aes.cookieNameHashGenerator.length_hash]

/-- Repeating the last two cipher blocks of a cookie lengthens its value. -/
theorem getCookieValue_repeatTail (trackingId sessionSecretKey : String) (issue : Issue) :
    ∃ tail, tail ≠ "" ∧ (aes.session trackingId sessionSecretKey).getCookieValue
      (.ofRequest (aes.nameOf sessionSecretKey issue)
        (Base64.encode (BlockMode.repeatTail 16 (aes.bytesOf sessionSecretKey issue)))) =
          .ok (issue.value ++ tail) := by
  have hpayload := aes.forty_le_length_payload sessionSecretKey issue
  obtain ⟨rest, hrest, hdecrypt⟩ := BlockMode.cbcDecrypt_repeatTail (n := 16) (by decide)
    (by decide) aes.secretKeySpec issue.random
    (m := Utf8.encode (aes.nameOf sessionSecretKey issue ++ issue.value)) (by omega)
  have hlen := aes.length_bytesOf sessionSecretKey issue
  have hrandom : (List.ofFn issue.random).length = 16 := List.length_ofFn
  rw [bytesOf, List.length_append, hrandom] at hlen
  have hcookie : AesEncryption.decrypt aes.secretKeySpec
      (Base64.encode (BlockMode.repeatTail 16 (aes.bytesOf sessionSecretKey issue))) =
        .ok (aes.nameOf sessionSecretKey issue ++ (issue.value ++ Utf8.decode rest)) := by
    apply (AesEncryption.decrypt_eq_ok_iff aes.secretKeySpec).mpr
    rw [Base64.decode_encode, bytesOf, BlockMode.repeatTail_append (by omega),
      List.take_left' hrandom, List.drop_left' hrandom]
    refine ⟨_, hdecrypt, ?_⟩
    rw [Utf8.decode_encode_append, String.append_assoc]
  refine ⟨Utf8.decode rest, Utf8.decode_ne_empty hrest, ?_⟩
  rw [getCookieValue_session_iff, hcookie]

/-- Whatever the server issued, some edit of it is accepted with a value that it did not
issue under that name. -/
theorem exists_accepted_edit (trackingId sessionSecretKey : String) {issued : List Issue}
    (hne : issued ≠ []) :
    ∃ issue ∈ issued, ∃ raw v,
      Buildable (aes.bytesGiven trackingId sessionSecretKey issued) (Base64.decode raw) ∧
      (aes.session trackingId sessionSecretKey).getCookieValue
        (.ofRequest (aes.nameOf sessionSecretKey issue) raw) = .ok v ∧
      ∀ issue' ∈ issued, issue'.value ≠ v := by
  -- the edit of a longest value is longer than every value
  obtain ⟨issue, hmem, hmax⟩ := Set.exists_max_image {issue | issue ∈ issued}
    (fun issue : Issue => issue.value.length) (List.finite_toSet issued)
    (List.exists_mem_of_ne_nil issued hne)
  obtain ⟨tail, htail, haccept⟩ :=
    aes.getCookieValue_repeatTail trackingId sessionSecretKey issue
  refine ⟨issue, hmem, _, _, ?_, haccept, ?_⟩
  · rw [Base64.decode_encode, ← aes.decode_cookieOf trackingId]
    exact (Buildable.given (List.mem_map_of_mem hmem)).repeatTail 16
  · intro issue' hmem' hv
    have hle := hmax issue' hmem'
    have hpos : 0 < tail.length :=
      Nat.pos_of_ne_zero fun h0 => htail (String.length_eq_zero_iff.mp h0)
    simp only [hv, String.length_append] at hle
    omega

end AesCrypto

/-- What a client can make the server accept. A text is accepted as a cookie exactly when it
decrypts to the name followed by the value. An issued cookie stands for itself, and what
keeps its first three blocks is accepted under no other name. But its value can be edited. -/
theorem editedCookies (aes : AesCrypto) (trackingId sessionSecretKey : String)
    (issued : List Issue) :
    (∀ name raw v,
      (aes.session trackingId sessionSecretKey).getCookieValue (.ofRequest name raw) = .ok v ↔
        AesEncryption.decrypt aes.secretKeySpec raw = .ok (name ++ v)) ∧
    (∀ issue ∈ issued, ∀ text v,
      (aes.session trackingId sessionSecretKey).getCookieValue
          (.ofRequest (aes.cookieNameHashGenerator.hash text)
            (aes.cookieOf trackingId sessionSecretKey issue).value) = .ok v ↔
        aes.cookieNameHashGenerator.hash text = aes.nameOf sessionSecretKey issue ∧
          v = issue.value) ∧
    (∀ issue ∈ issued, ∀ raw text v,
      (Base64.decode raw).take (16 + 3 * 16) =
        (Base64.decode (aes.cookieOf trackingId sessionSecretKey issue).value).take (16 + 3 * 16) →
      (aes.session trackingId sessionSecretKey).getCookieValue
        (.ofRequest (aes.cookieNameHashGenerator.hash text) raw) = .ok v →
      aes.cookieNameHashGenerator.hash text = aes.nameOf sessionSecretKey issue) ∧
    (issued ≠ [] → ∃ issue ∈ issued, ∃ raw v,
      Buildable (aes.bytesGiven trackingId sessionSecretKey issued) (Base64.decode raw) ∧
      (aes.session trackingId sessionSecretKey).getCookieValue
        (.ofRequest (aes.nameOf sessionSecretKey issue) raw) = .ok v ∧
      ∀ issue' ∈ issued, issue'.value ≠ v) := by
  refine ⟨?_, ?_, ?_, ?_⟩
  · intro name raw v
    exact aes.getCookieValue_session_iff trackingId sessionSecretKey
  · intro issue _ text v
    exact aes.getCookieValue_cookieOf trackingId sessionSecretKey issue text v
  · intro issue _ raw text v htake h
    rw [aes.decode_cookieOf] at htake
    exact aes.name_eq_of_take trackingId sessionSecretKey issue htake h
  · intro hne
    exact aes.exists_accepted_edit trackingId sessionSecretKey hne

/-- A concrete permutation: every block is its own cipher block. -/
def identityAes : AesCrypto where
  cookieFlags := noCookieFlags
  secretKeySpec := Equiv.refl _
  cookieNameHashGenerator := sha1CookieNameHashGenerator

/-- Of a session in which one cookie was issued, an edited cookie is accepted. -/
theorem cookies_forgeable :
    ¬ ∀ (aes : AesCrypto) (trackingId sessionSecretKey : String) (issued : List Issue)
      (name raw v : String),
      Buildable (aes.bytesGiven trackingId sessionSecretKey issued) (Base64.decode raw) →
      (aes.session trackingId sessionSecretKey).getCookieValue (.ofRequest name raw) = .ok v →
      ∃ issue ∈ issued, aes.nameOf sessionSecretKey issue = name ∧ issue.value = v := by
  intro h
  have hne : [(⟨fun _ => 0, "preventGoingToDisposePage", "true"⟩ : Issue)] ≠ [] := by simp
  obtain ⟨issue, _, raw, v, hbuild, haccept, hnever⟩ := identityAes.exists_accepted_edit
    "AAAAAAAAAAAAAAAAAAAA" "00000000000000000000000000000000" hne
  obtain ⟨issue', hmem, _, hvalue⟩ := h identityAes _ _ _ _ raw v hbuild haccept
  exact hnever issue' hmem hvalue

end VehiclesOnline
