import VehiclesOnline.Library.Utf8

/-! The SHA-1 digest of a byte string, written as forty hexadecimal digits. -/

namespace Sha1

def hexDigit (n : ℕ) : Char := "0123456789abcdef".toList.getD n '0'

/-- The `k` lowest hexadecimal digits of a number, highest first. -/
def hexDigits : ℕ → ℕ → List Char
  | 0, _ => []
  | k + 1, n => hexDigits k (n / 16) ++ [hexDigit (n % 16)]

@[simp] theorem length_hexDigits (k n : ℕ) : (hexDigits k n).length = k := by
  induction k generalizing n with
  | zero => rfl
  | succ k ih => simp [hexDigits, ih]

def IsHex (c : Char) : Prop := c ∈ "0123456789abcdef".toList

instance (c : Char) : Decidable (IsHex c) := inferInstanceAs (Decidable (c ∈ _))

theorem isHex_hexDigit : ∀ n < 16, IsHex (hexDigit n) := by decide

theorem toNat_lt_of_isHex {c : Char} (h : IsHex c) : c.toNat < 128 := by
  have hall : "0123456789abcdef".toList.all (fun c => decide (c.toNat < 128)) = true := by decide
  exact of_decide_eq_true (List.all_eq_true.mp hall c h)

theorem isHex_of_mem_hexDigits {k n : ℕ} {c : Char} (h : c ∈ hexDigits k n) : IsHex c := by
  induction k generalizing n with
  | zero => simp [hexDigits] at h
  | succ k ih =>
      rw [hexDigits, List.mem_append, List.mem_singleton] at h
      rcases h with h | rfl
      · exact ih h
      · exact isHex_hexDigit _ (Nat.mod_lt _ (by decide))

theorem exists_hexDigit {c : Char} (h : IsHex c) : ∃ n < 16, hexDigit n = c := by
  obtain ⟨n, hn, hc⟩ := List.getElem_of_mem h
  refine ⟨n, hn, ?_⟩
  rw [hexDigit, List.getD_eq_getElem?_getD, List.getElem?_eq_getElem hn, Option.getD_some, hc]

/-- Every even number of digits writes bytes. -/
theorem exists_flatMap_hexDigits {k : ℕ} {cs : List Char} (hlength : cs.length = 2 * k)
    (hhex : ∀ c ∈ cs, IsHex c) :
    ∃ bytes : List UInt8, bytes.length = k ∧
      (bytes.flatMap fun byte => hexDigits 2 byte.toNat) = cs := by
  induction k generalizing cs with
  | zero => exact ⟨[], rfl, (List.eq_nil_of_length_eq_zero hlength).symm⟩
  | succ k ih =>
      match cs, hlength with
      | c :: d :: cs, hlength =>
          obtain ⟨hc, hd, hrest⟩ : IsHex c ∧ IsHex d ∧ ∀ e ∈ cs, IsHex e := by
            simpa only [List.forall_mem_cons] using hhex
          have hlength' : cs.length = 2 * k := by
            simp only [List.length_cons] at hlength
            omega
          obtain ⟨bytes, hbytes, rfl⟩ := ih hlength' hrest
          obtain ⟨m, hm, rfl⟩ := exists_hexDigit hc
          obtain ⟨n, hn, rfl⟩ := exists_hexDigit hd
          have hbyte : (UInt8.ofNat (16 * m + n)).toNat = 16 * m + n := by
            rw [UInt8.toNat_ofNat', Nat.mod_eq_of_lt (by omega)]
          refine ⟨UInt8.ofNat (16 * m + n) :: bytes, congrArg Nat.succ hbytes, ?_⟩
          rw [List.flatMap_cons, hbyte]
          simp only [hexDigits, List.nil_append, List.cons_append]
          congr <;> omega

/-- A number as `k` bytes, highest first. -/
def bigEndian : ℕ → ℕ → List UInt8
  | 0, _ => []
  | k + 1, n => bigEndian k (n / 256) ++ [UInt8.ofNat n]

def padded (message : List UInt8) : List UInt8 :=
  message ++ 0x80 :: List.replicate ((119 - message.length % 64) % 64) 0 ++
    bigEndian 8 (message.length * 8)

/-- The big endian words of a byte string. -/
def words : List UInt8 → List UInt32
  | a :: b :: c :: d :: bytes =>
      (a.toUInt32 <<< 24 ||| b.toUInt32 <<< 16 ||| c.toUInt32 <<< 8 ||| d.toUInt32) ::
        words bytes
  | _ => []

def rotate (n x : UInt32) : UInt32 := x <<< n ||| x >>> (32 - n)

/-- The message schedule, newest word first. -/
def extend : ℕ → List UInt32 → List UInt32
  | 0, w => w
  | k + 1, w =>
      extend k (rotate 1 (w.getD 2 0 ^^^ w.getD 7 0 ^^^ w.getD 13 0 ^^^ w.getD 15 0) :: w)

/-- The chaining state. -/
structure State where
  a : UInt32
  b : UInt32
  c : UInt32
  d : UInt32
  e : UInt32

def State.initial : State := ⟨0x67452301, 0xEFCDAB89, 0x98BADCFE, 0x10325476, 0xC3D2E1F0⟩

/-- The function and the constant of round `t`. -/
def mixer (t : ℕ) (s : State) : UInt32 :=
  if t < 20 then ((s.b &&& s.c) ||| (~~~s.b &&& s.d)) + 0x5A827999
  else if t < 40 then (s.b ^^^ s.c ^^^ s.d) + 0x6ED9EBA1
  else if t < 60 then ((s.b &&& s.c) ||| (s.b &&& s.d) ||| (s.c &&& s.d)) + 0x8F1BBCDC
  else (s.b ^^^ s.c ^^^ s.d) + 0xCA62C1D6

def rounds : ℕ → List UInt32 → State → State
  | _, [], s => s
  | t, w :: ws, s =>
      rounds (t + 1) ws ⟨rotate 5 s.a + mixer t s + s.e + w, s.a, rotate 30 s.b, s.c, s.d⟩

def State.compress (s : State) (block : List UInt32) : State :=
  let r := rounds 0 (extend 64 block.reverse).reverse s
  ⟨s.a + r.a, s.b + r.b, s.c + r.c, s.d + r.d, s.e + r.e⟩

/-- Compresses the first `k` blocks of sixteen words. -/
def compressBlocks : ℕ → List UInt32 → State → State
  | 0, _, s => s
  | k + 1, ws, s => compressBlocks k (ws.drop 16) (s.compress (ws.take 16))

def digest (message : List UInt8) : State :=
  compressBlocks ((padded message).length / 64) (words (padded message)) .initial

def hexDigest (message : List UInt8) : String :=
  let s := digest message
  String.ofList (hexDigits 8 s.a.toNat ++ hexDigits 8 s.b.toNat ++ hexDigits 8 s.c.toNat ++
    hexDigits 8 s.d.toNat ++ hexDigits 8 s.e.toNat)

def digestBytes (message : List UInt8) : List UInt8 :=
  let s := digest message
  [s.a, s.b, s.c, s.d, s.e].flatMap fun word => bigEndian 4 word.toNat

/-- The key of a message authentication code fills one block. -/
def blockKey (key : List UInt8) : List UInt8 :=
  let key := if 64 < key.length then digestBytes key else key
  key ++ List.replicate (64 - key.length) 0

/-- The keyed digest of a message. -/
def hmac (key message : List UInt8) : String :=
  hexDigest ((blockKey key).map (· ^^^ 0x5c) ++
    digestBytes ((blockKey key).map (· ^^^ 0x36) ++ message))

theorem length_hexDigest (message : List UInt8) : (hexDigest message).length = 40 := by
  simp [hexDigest]

theorem isHex_of_mem_hexDigest {message : List UInt8} {c : Char}
    (h : c ∈ (hexDigest message).toList) : IsHex c := by
  simp only [hexDigest, String.toList_ofList, List.mem_append] at h
  rcases h with (((h | h) | h) | h) | h
  all_goals exact isHex_of_mem_hexDigits h

example : hexDigest (Utf8.encode "abc") = "a9993e364706816aba3e25717850c26c9cd0d89d" := by
  decide +kernel

example : hmac (Utf8.encode "Jefe") (Utf8.encode "what do ya want for nothing?") =
    "effcdf6ae5eb2fa2d27416d5f184df9c259a7c79" := by
  decide +kernel

end Sha1
