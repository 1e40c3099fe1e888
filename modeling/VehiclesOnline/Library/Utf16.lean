import Mathlib.Algebra.Ring.Nat
import VehiclesOnline.Library.Text

/-! Text as the code units of UTF-16, which are what the strings of the JVM are made of and
counted and cut by. -/

namespace Utf16

/-- A string of the JVM. -/
abbrev Units := List UInt16

/-- One code unit, or a pair of surrogates. -/
def encodeChar (c : Char) : Units :=
  if c.toNat < 2 ^ 16 then [UInt16.ofNat c.toNat]
  else [UInt16.ofNat (0xD800 + (c.toNat - 2 ^ 16) / 2 ^ 10),
    UInt16.ofNat (0xDC00 + (c.toNat - 2 ^ 16) % 2 ^ 10)]

def encode (s : String) : Units := s.toList.flatMap encodeChar

/-- A surrogate of its own is written as a question mark. -/
def writtenUnit (unit : UInt16) : Char :=
  if 0xD800 ≤ unit.toNat ∧ unit.toNat < 0xE000 then '?' else Char.ofNat unit.toNat

/-- A string as an encoder writes it: a pair of surrogates is one character. -/
def written : Units → List Char
  | [] => []
  | [unit] => [writtenUnit unit]
  | high :: low :: units =>
      if (0xD800 ≤ high.toNat ∧ high.toNat < 0xDC00) ∧ 0xDC00 ≤ low.toNat ∧ low.toNat < 0xE000 then
        Char.ofNat (2 ^ 16 + (high.toNat - 0xD800) * 2 ^ 10 + (low.toNat - 0xDC00)) ::
          written units
      else writtenUnit high :: written (low :: units)

/-- `String.replace`, by the empty string. -/
def without (unit : UInt16) (units : Units) : Units := units.filter (· != unit)

private theorem toNat_ofNat {n : ℕ} (h : n < 2 ^ 16) : (UInt16.ofNat n).toNat = n :=
  UInt16.toNat_ofNat_of_lt h

private theorem toNat_lt (c : Char) : c.toNat < 0x110000 := by
  rcases c.valid with h | h
  · exact h.trans (by decide)
  · exact h.2

theorem encodeChar_ne_nil (c : Char) : encodeChar c ≠ [] := by
  rw [encodeChar]
  split
  · exact List.cons_ne_nil _ _
  · exact List.cons_ne_nil _ _

/-- A unit is the character itself, or a surrogate of one behind the units. -/
theorem toNat_of_mem_encodeChar {c : Char} {unit : UInt16} (h : unit ∈ encodeChar c) :
    unit.toNat = c.toNat ∨ 2 ^ 16 ≤ c.toNat ∧ 0xD800 ≤ unit.toNat ∧ unit.toNat < 0xE000 := by
  rw [encodeChar] at h
  split at h
  · next hc =>
    rw [List.mem_singleton.mp h, toNat_ofNat hc]
    exact .inl rfl
  · next hc =>
    have hvalid := toNat_lt c
    right
    rcases List.mem_pair.mp h with rfl | rfl
    · rw [toNat_ofNat (by omega)]
      omega
    · rw [toNat_ofNat (by omega)]
      omega

/-- No surrogate is a character of its own. -/
theorem filter_encodeChar {c d : Char} (h : c.toNat < 0xD800) :
    (encodeChar d).filter (· != UInt16.ofNat c.toNat) = if d = c then [] else encodeChar d := by
  have hc : (UInt16.ofNat c.toNat).toNat = c.toNat := toNat_ofNat (by omega)
  rw [encodeChar]
  split
  · next hd =>
    have hd' : (UInt16.ofNat d.toNat).toNat = d.toNat := toNat_ofNat hd
    simp only [List.filter_cons, List.filter_nil, bne_iff_ne, ne_eq, ← UInt16.toNat_inj, hc, hd',
      Char.toNat_inj]
    split <;> simp_all
  · next hd =>
    have hvalid := toNat_lt d
    have hne : d ≠ c := by
      rintro rfl
      omega
    rw [if_neg hne, List.filter_eq_self]
    intro unit hunit
    rw [bne_iff_ne, ne_eq, ← UInt16.toNat_inj, hc]
    rcases List.mem_pair.mp hunit with rfl | rfl
    · rw [toNat_ofNat (by omega)]
      omega
    · rw [toNat_ofNat (by omega)]
      omega

theorem encode_without {c : Char} (h : c.toNat < 0xD800) (s : String) :
    encode (Text.without c s) = without (UInt16.ofNat c.toNat) (encode s) := by
  rw [encode, encode, Text.without, String.toList_ofList, without, List.filter_flatMap]
  induction s.toList with
  | nil => rfl
  | cons d ds ih =>
      rw [List.flatMap_cons, ← ih, filter_encodeChar h]
      by_cases hd : d = c
      · simp [hd]
      · simp [hd]

end Utf16
