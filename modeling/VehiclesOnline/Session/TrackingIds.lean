import VehiclesOnline.Session.Specification

/-! # Tracking ids

A session is found by its two cookies joined, wherever the text is cut between them and whatever
the decoder skips in it. The pairs that are accepted but made for no session have a tracking id of
another length, a text that no encoder writes, or a secret that is never drawn. -/

namespace Base64

theorem length_decodeGroups_le (groups : List ℕ) :
    (decodeGroups groups).length ≤ groups.length := by
  fun_induction decodeGroups groups with
  | case1 => exact Nat.le_refl _
  | case2 => simp
  | case3 => simp
  | case4 => simp
  | case5 a b c d groups ih =>
      simp only [List.length_cons]
      omega

theorem length_decode_le (text : String) : (decode text).length ≤ text.length := by
  have hgroups : (groups text.toList).length ≤ text.toList.length :=
    (List.length_filterMap_le _ _).trans (List.takeWhile_sublist _).length_le
  rw [String.length_toList] at hgroups
  exact (length_decodeGroups_le _).trans hgroups

end Base64

namespace VehiclesOnline

namespace AesEncryption

/-- What decrypts to a text is an initialization vector and at least one block. -/
theorem length_of_decrypt {secretKeySpec : Equiv.Perm (BlockMode.Block 16)}
    {cipherText clearText : String} (h : decrypt secretKeySpec cipherText = .ok clearText)
    (hne : clearText ≠ "") : 32 ≤ cipherText.length := by
  obtain ⟨clearTextBytes, hdecrypt, hclear⟩ := (decrypt_eq_ok_iff secretKeySpec).mp h
  obtain ⟨hiv, hblocks, hunpad⟩ := (BlockMode.cbcDecrypt_eq_ok_iff secretKeySpec).mp hdecrypt
  have hle := Base64.length_decode_le cipherText
  have hpos : 0 < ((Base64.decode cipherText).drop 16).length := by
    rw [List.length_pos_iff]
    intro hnil
    rw [hnil] at hunpad
    have hbytes : clearTextBytes = [] := (Option.some.inj hunpad).symm
    exact hne (by rw [← hclear, hbytes]; rfl)
  have hblock := Nat.le_of_dvd hpos hblocks
  rw [List.length_drop] at hblock
  omega

/-- A text is written by encryption of what it decrypts to exactly if it is what an encoder
writes. -/
theorem exists_encrypt_iff {secretKeySpec : Equiv.Perm (BlockMode.Block 16)}
    {cipherText clearText : String} (h : decrypt secretKeySpec cipherText = .ok clearText)
    (hne : clearText ≠ "") (hread : '\uFFFD' ∉ clearText.toList) :
    (∃ initializationVectorBytes, encrypt secretKeySpec initializationVectorBytes clearText =
      cipherText) ↔ Base64.Canonical cipherText := by
  constructor
  · rintro ⟨initializationVectorBytes, rfl⟩
    exact Base64.canonical_encode _
  · intro hcanonical
    obtain ⟨clearTextBytes, hdecrypt, rfl⟩ := (decrypt_eq_ok_iff secretKeySpec).mp h
    obtain ⟨hiv, -, hunpad⟩ := (BlockMode.cbcDecrypt_eq_ok_iff secretKeySpec).mp hdecrypt
    have hcipher : (Base64.decode cipherText).drop 16 ≠ [] := by
      intro hnil
      rw [hnil] at hunpad
      have hbytes : clearTextBytes = [] := (Option.some.inj hunpad).symm
      exact hne (by rw [hbytes]; rfl)
    refine ⟨BlockMode.Block.ofBytes ((Base64.decode cipherText).take 16), ?_⟩
    rw [encrypt, Utf8.encode_decode hread,
      BlockMode.cbcEncrypt_of_cbcDecrypt (by decide) secretKeySpec hcipher hdecrypt,
      BlockMode.Block.ofFn_ofBytes hiv, List.take_append_drop]
    exact hcanonical

end AesEncryption

/-- The text of a secret that may be drawn for a session. -/
def IsSecretKeyText (sessionSecretKey : String) : Prop :=
  sessionSecretKey.length = 32 ∧ ∀ c ∈ sessionSecretKey.toList, Sha1.IsHex c

theorem isSecretKeyText_iff {sessionSecretKey : String} :
    IsSecretKeyText sessionSecretKey ↔ ∃ bytes, encodeHexString bytes = sessionSecretKey := by
  constructor
  · rintro ⟨hlength, hhex⟩
    rw [← String.length_toList] at hlength
    obtain ⟨bytes, hbytes, hdigits⟩ := Sha1.exists_flatMap_hexDigits (k := 16) hlength hhex
    refine ⟨BlockMode.Block.ofBytes bytes, ?_⟩
    rw [encodeHexString, BlockMode.Block.ofFn_ofBytes hbytes, hdigits, String.ofList_toList]
  · rintro ⟨bytes, rfl⟩
    refine ⟨String.length_toList.symm.trans (length_encodeHexString bytes), fun c hc => ?_⟩
    rw [encodeHexString, String.toList_ofList] at hc
    obtain ⟨byte, -, hdigit⟩ := List.mem_flatMap.mp hc
    exact Sha1.isHex_of_mem_hexDigits hdigit

namespace EncryptedClientSideSessionFactory

variable (factory : EncryptedClientSideSessionFactory)

/-- A text decrypts to the name of the suffix cookie and a secret that may be drawn. -/
def DecryptsToDrawn (cipherText : String) : Prop :=
  ∃ sessionSecretKey, IsSecretKeyText sessionSecretKey ∧
    factory.encryption.decrypt cipherText =
      .ok (factory.sessionSecretKeySuffixCookieName ++ sessionSecretKey)

theorem length_suffixCookieName : factory.sessionSecretKeySuffixCookieName.length = 40 :=
  factory.cookieNameHashing.length_hash factory.sessionSecretKeySuffixKey

theorem suffixCookieName_append_ne_empty (text : String) :
    factory.sessionSecretKeySuffixCookieName ++ text ≠ "" := by
  intro hempty
  have hlength := congrArg String.length hempty
  rw [String.length_append, factory.length_suffixCookieName, String.length_empty] at hlength
  omega

variable {factory} {jar jar' : Jar} {trackingId suffix sessionSecretKey : String}

/-- The two cookies are accepted for what they are joined to. -/
theorem decrypt_of_accepted (ht : jar.get trackingIdCookieName = some trackingId)
    (hs : jar.get factory.sessionSecretKeySuffixCookieName = some suffix)
    (h : factory.validateSessionCookies jar = .ok (some (trackingId, sessionSecretKey))) :
    factory.encryption.decrypt (trackingId ++ suffix) =
      .ok (factory.sessionSecretKeySuffixCookieName ++ sessionSecretKey) := by
  obtain ⟨found, hfound, hdecrypt⟩ := (factory.validateSessionCookies_eq_ok_iff ht hs).mp h
  obtain rfl : sessionSecretKey = found := (Prod.mk.inj (Option.some.inj hfound)).2
  exact hdecrypt

theorem decryptsToDrawn_iff_of_accepted (ht : jar.get trackingIdCookieName = some trackingId)
    (hs : jar.get factory.sessionSecretKeySuffixCookieName = some suffix)
    (h : factory.validateSessionCookies jar = .ok (some (trackingId, sessionSecretKey))) :
    factory.DecryptsToDrawn (trackingId ++ suffix) ↔ IsSecretKeyText sessionSecretKey := by
  have hdecrypt := decrypt_of_accepted ht hs h
  constructor
  · rintro ⟨drawn, hdrawn, hdecrypt'⟩
    have heq := Except.ok.inj (hdecrypt.symm.trans hdecrypt')
    rwa [(String.append_right_inj _).mp heq]
  · intro hsecret
    exact ⟨sessionSecretKey, hsecret, hdecrypt⟩

/-- The same session is found wherever its ciphertext is cut. -/
theorem accepted_of_append_eq {trackingId' suffix' : String}
    (ht : jar.get trackingIdCookieName = some trackingId)
    (hs : jar.get factory.sessionSecretKeySuffixCookieName = some suffix)
    (h : factory.validateSessionCookies jar = .ok (some (trackingId, sessionSecretKey)))
    (ht' : jar'.get trackingIdCookieName = some trackingId')
    (hs' : jar'.get factory.sessionSecretKeySuffixCookieName = some suffix')
    (hjoin : trackingId' ++ suffix' = trackingId ++ suffix) :
    factory.validateSessionCookies jar' = .ok (some (trackingId', sessionSecretKey)) := by
  rw [factory.validateSessionCookies_eq_ok_iff ht' hs', hjoin]
  exact ⟨sessionSecretKey, rfl, decrypt_of_accepted ht hs h⟩

/-- A session ciphertext is longer than a tracking id. -/
theorem lt_length_of_accepted {secretKeySpec : Equiv.Perm (BlockMode.Block 16)}
    (haes : factory.encryption = aesEncryption secretKeySpec)
    (ht : jar.get trackingIdCookieName = some trackingId)
    (hs : jar.get factory.sessionSecretKeySuffixCookieName = some suffix)
    (h : factory.validateSessionCookies jar = .ok (some (trackingId, sessionSecretKey))) :
    trackingIdLengthChars < (trackingId ++ suffix).length := by
  have hdecrypt := decrypt_of_accepted ht hs h
  rw [haes] at hdecrypt
  exact lt_of_lt_of_le (by decide)
    (AesEncryption.length_of_decrypt hdecrypt (factory.suffixCookieName_append_ne_empty _))

/-- The pair of a session that was made is cut behind the tracking id of its ciphertext. -/
theorem append_of_newSessionPair {draw : SessionDraw} {pair : String × String}
    (h : factory.newSessionPair draw = pair) :
    pair.1 ++ pair.2 = factory.sessionSecretKeyCipherText draw := by
  rw [← h, newSessionPair, Text.splitAt_join]

theorem length_of_newSessionPair {draw : SessionDraw} {pair : String × String}
    (h : factory.newSessionPair draw = pair)
    (hlong : trackingIdLengthChars < (pair.1 ++ pair.2).length) :
    pair.1.length = trackingIdLengthChars := by
  rw [append_of_newSessionPair h, ← String.length_toList] at hlong
  rw [← h, newSessionPair, Text.splitAt, String.length_ofList, List.length_take]
  omega

/-- Only the digits of a digest and those of a secret are read from what is encrypted. -/
theorem replacement_not_mem (hsecret : IsSecretKeyText sessionSecretKey) :
    '\uFFFD' ∉ (factory.sessionSecretKeySuffixCookieName ++ sessionSecretKey).toList := by
  rw [String.toList_append, List.mem_append]
  rintro (hmem | hmem)
  · exact absurd (factory.cookieNameHashing.isHex_hash _ _ hmem) (by decide)
  · exact absurd (hsecret.2 _ hmem) (by decide)

/-- What an encoder writes and what decrypts to a secret that may be drawn is the ciphertext of a
session with that secret. -/
theorem exists_sessionSecretKeyCipherText {secretKeySpec : Equiv.Perm (BlockMode.Block 16)}
    (haes : factory.encryption = aesEncryption secretKeySpec) {cipherText : String}
    (hdecrypt : factory.encryption.decrypt cipherText =
      .ok (factory.sessionSecretKeySuffixCookieName ++ sessionSecretKey))
    (hcanonical : Base64.Canonical cipherText) (hsecret : IsSecretKeyText sessionSecretKey) :
    ∃ draw : SessionDraw, factory.sessionSecretKeyCipherText draw = cipherText ∧
      encodeHexString draw.sessionSecretKey = sessionSecretKey := by
  have hread : '\uFFFD' ∉ (factory.sessionSecretKeySuffixCookieName ++ sessionSecretKey).toList :=
    replacement_not_mem hsecret
  obtain ⟨bytes, rfl⟩ := isSecretKeyText_iff.mp hsecret
  rw [haes] at hdecrypt
  obtain ⟨initializationVectorBytes, hcipher⟩ := (AesEncryption.exists_encrypt_iff hdecrypt
    (factory.suffixCookieName_append_ne_empty _) hread).mpr hcanonical
  refine ⟨⟨bytes, initializationVectorBytes⟩, ?_, rfl⟩
  rw [sessionSecretKeyCipherText, haes]
  exact hcipher

/-- An accepted pair of cookies is one that a new session is given, for the secret that is found,
exactly if its tracking id has twenty characters and the two values are joined to a text that an
encoder writes and that decrypts to a secret that may be drawn. A ciphertext that is cut elsewhere
is accepted as well, under another tracking id. -/
theorem accepted_pair_made_iff (factory : EncryptedClientSideSessionFactory)
    (secretKeySpec : Equiv.Perm (BlockMode.Block 16))
    (haes : factory.encryption = aesEncryption secretKeySpec) (jar : Jar)
    (trackingId suffix sessionSecretKey : String)
    (ht : jar.get trackingIdCookieName = some trackingId)
    (hs : jar.get factory.sessionSecretKeySuffixCookieName = some suffix)
    (h : factory.validateSessionCookies jar = .ok (some (trackingId, sessionSecretKey))) :
    ((∃ draw, factory.newSessionPair draw = (trackingId, suffix) ∧
        encodeHexString draw.sessionSecretKey = sessionSecretKey) ↔
      trackingId.length = trackingIdLengthChars ∧ Base64.Canonical (trackingId ++ suffix) ∧
        factory.DecryptsToDrawn (trackingId ++ suffix)) ∧
      ∀ jar' trackingId' suffix', jar'.get trackingIdCookieName = some trackingId' →
        jar'.get factory.sessionSecretKeySuffixCookieName = some suffix' →
        trackingId' ++ suffix' = trackingId ++ suffix →
        factory.validateSessionCookies jar' = .ok (some (trackingId', sessionSecretKey)) ∧
          (trackingId' = trackingId ↔ trackingId'.length = trackingId.length) := by
  have hdecrypt := decrypt_of_accepted ht hs h
  have hlong := lt_length_of_accepted haes ht hs h
  rw [decryptsToDrawn_iff_of_accepted ht hs h]
  refine ⟨⟨?_, ?_⟩, ?_⟩
  · rintro ⟨draw, hpair, hsecret⟩
    have hjoin : trackingId ++ suffix = factory.sessionSecretKeyCipherText draw :=
      append_of_newSessionPair hpair
    refine ⟨length_of_newSessionPair hpair hlong, ?_, isSecretKeyText_iff.mpr ⟨_, hsecret⟩⟩
    rw [hjoin, sessionSecretKeyCipherText, haes]
    exact Base64.canonical_encode _
  · rintro ⟨hlength, hcanonical, hsecret⟩
    obtain ⟨draw, hcipher, hdrawn⟩ :=
      exists_sessionSecretKeyCipherText haes hdecrypt hcanonical hsecret
    refine ⟨draw, ?_, hdrawn⟩
    rw [newSessionPair, hcipher, Text.splitAt_append hlength]
  · intro jar' trackingId' suffix' ht' hs' hjoin
    refine ⟨accepted_of_append_eq ht hs h ht' hs' hjoin, congrArg String.length, fun hlength => ?_⟩
    exact (Text.append_inj hjoin hlength).1

/-! ### A session under other tracking ids -/

section Pairs

variable (factory : EncryptedClientSideSessionFactory) (draw : SessionDraw)

/-- A browser that sends a pair of session cookies. -/
def jarOf (pair : String × String) : Jar :=
  ((∅ : Jar).put { name := trackingIdCookieName, value := pair.1 }).put
    { name := factory.sessionSecretKeySuffixCookieName, value := pair.2 }

theorem get_jarOf (pair : String × String) :
    (jarOf factory pair).get trackingIdCookieName = some pair.1 ∧
      (jarOf factory pair).get factory.sessionSecretKeySuffixCookieName = some pair.2 := by
  rw [jarOf, Jar.get_put_of_ne factory.suffixCookieName_ne_trackingIdCookieName]
  exact ⟨Jar.get_put _ _, Jar.get_put _ _⟩

/-- The ciphertext of a new session, cut behind some of its characters. -/
def pairAt (n : ℕ) : String × String := Text.splitAt n (factory.sessionSecretKeyCipherText draw)

/-- The ciphertext of a new session, under a tracking id that the decoder skips. -/
def skippedPair : String × String :=
  ("!!!!!!!!!!!!!!!!!!!!", factory.sessionSecretKeyCipherText draw)

variable {factory draw}

theorem validateSessionCookies_jarOf {pair : String × String}
    (h : factory.encryption.decrypt (pair.1 ++ pair.2) =
      factory.encryption.decrypt (factory.sessionSecretKeyCipherText draw)) :
    factory.validateSessionCookies (jarOf factory pair) =
      .ok (some (pair.1, encodeHexString draw.sessionSecretKey)) := by
  obtain ⟨ht, hs⟩ := get_jarOf factory pair
  rw [factory.validateSessionCookies_eq_ok_iff ht hs]
  refine ⟨_, rfl, ?_⟩
  rw [h, sessionSecretKeyCipherText]
  exact factory.encryption.decrypt_encrypt _ _

theorem newSessionPair_eq_pairAt :
    factory.newSessionPair draw = pairAt factory draw trackingIdLengthChars := rfl

theorem pairAt_join (n : ℕ) :
    (pairAt factory draw n).1 ++ (pairAt factory draw n).2 =
      factory.sessionSecretKeyCipherText draw :=
  Text.splitAt_join n _

theorem validateSessionCookies_pairAt (n : ℕ) :
    factory.validateSessionCookies (jarOf factory (pairAt factory draw n)) =
      .ok (some ((pairAt factory draw n).1, encodeHexString draw.sessionSecretKey)) :=
  validateSessionCookies_jarOf (congrArg _ (pairAt_join n))

end Pairs

def identityFactory : EncryptedClientSideSessionFactory := productionFactory (Equiv.refl _)

def zeroDraw : SessionDraw := ⟨fun _ => 0, fun _ => 0⟩

theorem accepted_pair_made_iff_twenty :
    (∃ draw, identityFactory.newSessionPair draw = pairAt identityFactory zeroDraw 20 ∧
        encodeHexString draw.sessionSecretKey = encodeHexString zeroDraw.sessionSecretKey) ↔
      (pairAt identityFactory zeroDraw 20).1.length = trackingIdLengthChars ∧
        Base64.Canonical ((pairAt identityFactory zeroDraw 20).1 ++
          (pairAt identityFactory zeroDraw 20).2) ∧
        identityFactory.DecryptsToDrawn ((pairAt identityFactory zeroDraw 20).1 ++
          (pairAt identityFactory zeroDraw 20).2) :=
  (accepted_pair_made_iff identityFactory (Equiv.refl _) rfl _ _ _ _ (get_jarOf _ _).1
    (get_jarOf _ _).2 (validateSessionCookies_pairAt 20)).1

theorem lt_length_sessionSecretKeyCipherText :
    trackingIdLengthChars < (identityFactory.sessionSecretKeyCipherText zeroDraw).length := by
  have haes : identityFactory.encryption = aesEncryption (Equiv.refl _) := rfl
  have hvalid : identityFactory.validateSessionCookies
      (jarOf identityFactory (pairAt identityFactory zeroDraw 20)) =
        .ok (some ((pairAt identityFactory zeroDraw 20).1,
          encodeHexString zeroDraw.sessionSecretKey)) :=
    validateSessionCookies_pairAt 20
  have hlong := lt_length_of_accepted haes (get_jarOf _ _).1 (get_jarOf _ _).2 hvalid
  rwa [pairAt_join] at hlong

theorem length_pairAt {n : ℕ} (h : n ≤ trackingIdLengthChars) :
    (pairAt identityFactory zeroDraw n).1.length = n := by
  have hlong := lt_length_sessionSecretKeyCipherText
  rw [← String.length_toList] at hlong
  rw [pairAt, Text.splitAt, String.length_ofList, List.length_take]
  omega

theorem decode_skippedPair :
    Base64.decode ("!!!!!!!!!!!!!!!!!!!!" ++ identityFactory.sessionSecretKeyCipherText zeroDraw) =
      Base64.decode (identityFactory.sessionSecretKeyCipherText zeroDraw) := by
  have hmarks : "!!!!!!!!!!!!!!!!!!!!".toList = List.replicate 20 '!' := by decide
  refine Base64.decode_append_of_skipped (fun c hc => ?_) _
  rw [hmarks] at hc
  rw [List.eq_of_mem_replicate hc]
  decide

theorem validateSessionCookies_skippedPair :
    identityFactory.validateSessionCookies
        (jarOf identityFactory (skippedPair identityFactory zeroDraw)) =
      .ok (some ((skippedPair identityFactory zeroDraw).1,
        encodeHexString zeroDraw.sessionSecretKey)) := by
  have haes : identityFactory.encryption = aesEncryption (Equiv.refl _) := rfl
  apply validateSessionCookies_jarOf
  simp only [haes, aesEncryption, AesEncryption.decrypt_eq, skippedPair, decode_skippedPair]

theorem pairAt_ten_not_made :
    ¬ ∃ draw, identityFactory.newSessionPair draw = pairAt identityFactory zeroDraw 10 := by
  rintro ⟨draw, hpair⟩
  have hlong : trackingIdLengthChars < ((pairAt identityFactory zeroDraw 10).1 ++
      (pairAt identityFactory zeroDraw 10).2).length := by
    rw [pairAt_join]
    exact lt_length_sessionSecretKeyCipherText
  have hlength : (pairAt identityFactory zeroDraw 10).1.length = trackingIdLengthChars :=
    length_of_newSessionPair hpair hlong
  rw [length_pairAt (by decide)] at hlength
  exact absurd hlength (by decide)

/-- An encoder would write the text without the characters that are skipped. -/
theorem skippedPair_not_made :
    ¬ ∃ draw, identityFactory.newSessionPair draw = skippedPair identityFactory zeroDraw := by
  rintro ⟨draw, hpair⟩
  have hjoin : "!!!!!!!!!!!!!!!!!!!!" ++ identityFactory.sessionSecretKeyCipherText zeroDraw =
      identityFactory.sessionSecretKeyCipherText draw := append_of_newSessionPair hpair
  have hcanonical : Base64.Canonical ("!!!!!!!!!!!!!!!!!!!!" ++
      identityFactory.sessionSecretKeyCipherText zeroDraw) := by
    rw [hjoin]
    exact Base64.canonical_encode _
  have hown : Base64.Canonical (identityFactory.sessionSecretKeyCipherText zeroDraw) :=
    Base64.canonical_encode _
  rw [Base64.Canonical, decode_skippedPair, hown] at hcanonical
  have hlength := congrArg String.length hcanonical
  rw [String.length_append] at hlength
  exact absurd (Nat.right_eq_add.mp hlength) (by decide)

/-- Half a tracking id is accepted for the session, and so are twenty characters that the decoder
skips: no session is given these pairs. -/
theorem accepted_pairs_not_made :
    identityFactory.validateSessionCookies
        (jarOf identityFactory (pairAt identityFactory zeroDraw 10)) =
          .ok (some ((pairAt identityFactory zeroDraw 10).1,
            encodeHexString zeroDraw.sessionSecretKey)) ∧
      (pairAt identityFactory zeroDraw 10).1 ++ (pairAt identityFactory zeroDraw 10).2 =
        (identityFactory.newSessionPair zeroDraw).1 ++
          (identityFactory.newSessionPair zeroDraw).2 ∧
      (pairAt identityFactory zeroDraw 10).1 ≠ (identityFactory.newSessionPair zeroDraw).1 ∧
      (¬ ∃ draw, identityFactory.newSessionPair draw = pairAt identityFactory zeroDraw 10) ∧
      identityFactory.validateSessionCookies
        (jarOf identityFactory (skippedPair identityFactory zeroDraw)) =
          .ok (some ("!!!!!!!!!!!!!!!!!!!!", encodeHexString zeroDraw.sessionSecretKey)) ∧
      ¬ ∃ draw, identityFactory.newSessionPair draw =
        skippedPair identityFactory zeroDraw := by
  refine ⟨validateSessionCookies_pairAt 10, ?_, ?_, pairAt_ten_not_made,
    validateSessionCookies_skippedPair, skippedPair_not_made⟩
  · rw [newSessionPair_eq_pairAt, pairAt_join, pairAt_join]
  · intro heq
    have hlength := congrArg String.length heq
    rw [newSessionPair_eq_pairAt, length_pairAt (by decide), length_pairAt le_rfl] at hlength
    exact absurd hlength (by decide)

end EncryptedClientSideSessionFactory

end VehiclesOnline
