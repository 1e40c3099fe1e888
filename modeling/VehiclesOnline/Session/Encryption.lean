import VehiclesOnline.Library.Base64
import VehiclesOnline.Library.Sha1
import VehiclesOnline.Library.Text
import VehiclesOnline.Session.Cookies

/-! The encryption of cookies and the hashing of their names. AES under the key of the
application is an arbitrary permutation of sixteen byte blocks; the configured
transformation is AES/CBC/PKCS5Padding. -/

namespace VehiclesOnline

open BlockMode (Block CipherError)

/-- `encrypt` also reads the random bytes that it draws. -/
structure Encryption where
  encrypt : SecureRandomBytes → String → String
  decrypt : String → Except Throwable String

structure CookieEncryption extends Encryption where
  decrypt_encrypt : ∀ random clearText, decrypt (encrypt random clearText) = .ok clearText

structure HashGenerator where
  digestStringLength : ℕ
  hash : String → String

/-- The names of cookies are digests of forty hexadecimal digits. -/
structure CookieNameHashGenerator extends HashGenerator where
  length_hash : ∀ clearText, (hash clearText).length = 40
  isHex_hash : ∀ clearText, ∀ c ∈ (hash clearText).toList, Sha1.IsHex c

def sha1HashGenerator : HashGenerator where
  digestStringLength := 160 / 4
  hash clearText := Sha1.hexDigest (Utf8.encode clearText)

/-- `Sha1HashGenerator with CookieNameHashGenerator`, as the production module binds it. -/
def sha1CookieNameHashGenerator : CookieNameHashGenerator where
  toHashGenerator := sha1HashGenerator
  length_hash clearText := Sha1.length_hexDigest (Utf8.encode clearText)
  isHex_hash _ _ hc := Sha1.isHex_of_mem_hexDigest hc

/-! ### AES -/

/-- The exceptions with which `javax.crypto` reports a failed decryption. -/
def Throwable.ofCipherError : CipherError → Throwable
  | .invalidIv =>
      ⟨.invalidAlgorithmParameterException, some "Wrong IV length: must be 16 bytes long"⟩
  | .illegalBlockSize => ⟨.illegalBlockSizeException,
      some "Input length must be multiple of 16 when decrypting with padded cipher"⟩
  | .badPadding => ⟨.badPaddingException, some "Given final block not properly padded"⟩

namespace AesEncryption

def initializationVectorSizeInBytes : ℕ := 128 / 8

variable (secretKeySpec : Equiv.Perm (Block 16))

def decrypt (cipherText : String) : Except Throwable String :=
  let initializationVectorWithCipherBytes := Base64.decode cipherText
  let (initializationVectorBytes, cipherBytes) :=
    initializationVectorWithCipherBytes.splitAt initializationVectorSizeInBytes
  match BlockMode.cbcDecrypt secretKeySpec initializationVectorBytes cipherBytes with
  | .ok clearTextBytes => .ok (Utf8.decode clearTextBytes)
  | .error e => .error (.ofCipherError e)

def encrypt (initializationVectorBytes : SecureRandomBytes) (clearText : String) : String :=
  let clearTextBytes := Utf8.encode clearText
  let cipherBytes := BlockMode.cbcEncrypt secretKeySpec initializationVectorBytes clearTextBytes
  Base64.encode (List.ofFn initializationVectorBytes ++ cipherBytes)

theorem decrypt_eq (cipherText : String) :
    decrypt secretKeySpec cipherText =
      match BlockMode.cbcDecrypt secretKeySpec ((Base64.decode cipherText).take 16)
          ((Base64.decode cipherText).drop 16) with
      | .ok clearTextBytes => .ok (Utf8.decode clearTextBytes)
      | .error e => .error (.ofCipherError e) := by
  simp only [decrypt, List.splitAt_eq]
  rfl

theorem decrypt_eq_ok_iff {cipherText clearText : String} :
    decrypt secretKeySpec cipherText = .ok clearText ↔
      ∃ clearTextBytes, BlockMode.cbcDecrypt secretKeySpec ((Base64.decode cipherText).take 16)
        ((Base64.decode cipherText).drop 16) = .ok clearTextBytes ∧
          Utf8.decode clearTextBytes = clearText := by
  rw [decrypt_eq]
  cases BlockMode.cbcDecrypt secretKeySpec ((Base64.decode cipherText).take 16)
    ((Base64.decode cipherText).drop 16) <;> simp

theorem decrypt_encrypt (random : SecureRandomBytes) (clearText : String) :
    decrypt secretKeySpec (encrypt secretKeySpec random clearText) = .ok clearText := by
  have hlen : (List.ofFn random).length = 16 := List.length_ofFn
  rw [decrypt_eq, encrypt, Base64.decode_encode, List.take_left' hlen, List.drop_left' hlen,
    BlockMode.cbcDecrypt_cbcEncrypt (by decide) (by decide)]
  simp only [Utf8.decode_encode]

/-- Decryption fails on a length exactly for the texts that do not decode to an
initialization vector followed by whole blocks. -/
def BadLength (cipherText : String) : Prop :=
  (Base64.decode cipherText).length < 16 ∨ ¬ 16 ∣ (Base64.decode cipherText).length - 16

instance (cipherText : String) : Decidable (BadLength cipherText) :=
  inferInstanceAs (Decidable (_ ∨ _))

theorem decrypt_of_not_badLength {cipherText : String} (h : ¬ BadLength cipherText) :
    (∃ clearText, decrypt secretKeySpec cipherText = .ok clearText) ∨
      decrypt secretKeySpec cipherText = .error (.ofCipherError .badPadding) := by
  obtain ⟨hlen, hdvd⟩ := not_or.mp h
  have hiv : ((Base64.decode cipherText).take 16).length = 16 := by
    rw [List.length_take]
    omega
  have hblocks : 16 ∣ ((Base64.decode cipherText).drop 16).length := by
    rw [List.length_drop]
    exact not_not.mp hdvd
  rw [decrypt_eq]
  rcases BlockMode.cbcDecrypt_of_lengths secretKeySpec hiv hblocks with ⟨m, hm⟩ | hbad
  · exact .inl ⟨Utf8.decode m, by rw [hm]⟩
  · exact .inr (by rw [hbad])

theorem decrypt_of_badLength {cipherText : String} (h : BadLength cipherText) :
    decrypt secretKeySpec cipherText = .error (.ofCipherError .invalidIv) ∨
      decrypt secretKeySpec cipherText = .error (.ofCipherError .illegalBlockSize) := by
  rw [decrypt_eq]
  by_cases hiv : ((Base64.decode cipherText).take 16).length = 16
  · have hdvd : ¬ 16 ∣ ((Base64.decode cipherText).drop 16).length := by
      rw [List.length_take] at hiv
      rw [List.length_drop]
      rcases h with hlen | hdvd
      · omega
      · exact hdvd
    exact .inr (by rw [BlockMode.cbcDecrypt_of_size secretKeySpec hiv hdvd])
  · exact .inl (by rw [BlockMode.cbcDecrypt_of_iv secretKeySpec hiv])

end AesEncryption

/-- `AesEncryption with CookieEncryption`, under the key of the application. -/
def aesEncryption (secretKeySpec : Equiv.Perm (Block 16)) : CookieEncryption where
  encrypt := AesEncryption.encrypt secretKeySpec
  decrypt := AesEncryption.decrypt secretKeySpec
  decrypt_encrypt := AesEncryption.decrypt_encrypt secretKeySpec

end VehiclesOnline
