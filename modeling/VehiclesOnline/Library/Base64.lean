import Mathlib.Data.List.Basic
import Mathlib.Tactic.IntervalCases

/-! Base64 with a lenient reader. Encoding pads to whole groups of four characters.
Decoding accepts both alphabets, skips every other character, stops at the first
padding character and ignores spare bits, so it never fails. -/

namespace Base64

def alphabet : List Char :=
  "ABCDEFGHIJKLMNOPQRSTUVWXYZabcdefghijklmnopqrstuvwxyz0123456789+/".toList

/-- The character of a six bit group. -/
def encodeChar (n : ℕ) : Char := alphabet.getD n '='

/-- The six bit group of a character of the standard or the URL safe alphabet. -/
def decodeChar? (c : Char) : Option ℕ :=
  if c = '-' then some 62 else if c = '_' then some 63 else alphabet.idxOf? c

/-- Three bytes give four characters; one or two last bytes are padded. -/
def encodeBytes : List UInt8 → List Char
  | [] => []
  | [a] => [encodeChar (a.toNat / 4), encodeChar (a.toNat % 4 * 16), '=', '=']
  | [a, b] => [encodeChar (a.toNat / 4), encodeChar (a.toNat % 4 * 16 + b.toNat / 16),
      encodeChar (b.toNat % 16 * 4), '=']
  | a :: b :: c :: bytes => encodeChar (a.toNat / 4) ::
      encodeChar (a.toNat % 4 * 16 + b.toNat / 16) ::
      encodeChar (b.toNat % 16 * 4 + c.toNat / 64) ::
      encodeChar (c.toNat % 64) :: encodeBytes bytes

def encode (bytes : List UInt8) : String := String.ofList (encodeBytes bytes)

/-- Four groups give three bytes. Two or three last groups give their whole bytes. -/
def decodeGroups : List ℕ → List UInt8
  | [] => []
  | [_] => []
  | [a, b] => [UInt8.ofNat (a * 4 + b / 16)]
  | [a, b, c] => [UInt8.ofNat (a * 4 + b / 16), UInt8.ofNat (b % 16 * 16 + c / 4)]
  | a :: b :: c :: d :: groups => UInt8.ofNat (a * 4 + b / 16) ::
      UInt8.ofNat (b % 16 * 16 + c / 4) :: UInt8.ofNat (c % 4 * 64 + d) ::
      decodeGroups groups

/-- The groups read before the first padding character. -/
def groups (cs : List Char) : List ℕ := (cs.takeWhile (· != '=')).filterMap decodeChar?

def decode (text : String) : List UInt8 := decodeGroups (groups text.toList)

theorem decodeChar?_encodeChar : ∀ n < 64, decodeChar? (encodeChar n) = some n := by
  decide +kernel

theorem encodeChar_ne_pad : ∀ n < 64, encodeChar n ≠ '=' := by
  decide +kernel

theorem groups_encodeChar {n : ℕ} (h : n < 64) (cs : List Char) :
    groups (encodeChar n :: cs) = n :: groups cs := by
  simp [groups, encodeChar_ne_pad n h, decodeChar?_encodeChar n h]

@[simp] theorem groups_pad (cs : List Char) : groups ('=' :: cs) = [] := by
  simp [groups]

theorem ofNat_eq_of_toNat {n : ℕ} {b : UInt8} (h : n = b.toNat) : UInt8.ofNat n = b := by
  rw [h, UInt8.ofNat_toNat]

/-- Decoding reads back exactly the encoded bytes. -/
theorem decodeGroups_encodeBytes (bytes : List UInt8) :
    decodeGroups (groups (encodeBytes bytes)) = bytes := by
  fun_induction encodeBytes bytes with
  | case1 => rfl
  | case2 a =>
      have ha := a.toNat_lt
      rw [groups_encodeChar (by omega), groups_encodeChar (by omega), groups_pad]
      simp only [decodeGroups]
      rw [ofNat_eq_of_toNat (b := a) (by omega)]
  | case3 a b =>
      have ha := a.toNat_lt
      have hb := b.toNat_lt
      rw [groups_encodeChar (by omega), groups_encodeChar (by omega),
        groups_encodeChar (by omega), groups_pad]
      simp only [decodeGroups]
      rw [ofNat_eq_of_toNat (b := a) (by omega), ofNat_eq_of_toNat (b := b) (by omega)]
  | case4 a b c bytes ih =>
      have ha := a.toNat_lt
      have hb := b.toNat_lt
      have hc := c.toNat_lt
      rw [groups_encodeChar (by omega), groups_encodeChar (by omega),
        groups_encodeChar (by omega), groups_encodeChar (by omega)]
      simp only [decodeGroups]
      rw [ofNat_eq_of_toNat (b := a) (by omega), ofNat_eq_of_toNat (b := b) (by omega),
        ofNat_eq_of_toNat (b := c) (by omega), ih]

@[simp] theorem decode_encode (bytes : List UInt8) : decode (encode bytes) = bytes := by
  simp [decode, encode, decodeGroups_encodeBytes]

/-- The text that encoding writes for the bytes that are read from it. -/
def Canonical (text : String) : Prop := encode (decode text) = text

instance (text : String) : Decidable (Canonical text) := inferInstanceAs (Decidable (_ = _))

theorem canonical_encode (bytes : List UInt8) : Canonical (encode bytes) := by
  rw [Canonical, decode_encode]

/-- Characters of no alphabet are skipped. -/
theorem decode_append_of_skipped {skipped : String}
    (h : ∀ c ∈ skipped.toList, c ≠ '=' ∧ decodeChar? c = none) (text : String) :
    decode (skipped ++ text) = decode text := by
  have hgroups : ∀ cs : List Char, (∀ c ∈ cs, c ≠ '=' ∧ decodeChar? c = none) →
      groups (cs ++ text.toList) = groups text.toList := by
    intro cs hcs
    induction cs with
    | nil => rfl
    | cons c cs ih =>
        obtain ⟨⟨hpad, hnone⟩, hrest⟩ := List.forall_mem_cons.mp hcs
        have hkept : (c != '=') = true := bne_iff_ne.mpr hpad
        rw [← ih hrest, List.cons_append, groups, groups, List.takeWhile_cons, hkept, if_pos rfl,
          List.filterMap_cons_none hnone]
  rw [decode, decode, String.toList_append, hgroups _ h]

example : encode [77, 97, 110, 77] = "TWFuTQ==" := by decide

end Base64
