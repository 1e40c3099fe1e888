import Mathlib.Algebra.Ring.Nat

/-! Letters and digits of ASCII by their code points. -/

namespace Ascii

variable {c : Char}

theorem isUpper_iff : c.isUpper = true ↔ 0x41 ≤ c.toNat ∧ c.toNat ≤ 0x5A := by
  have hfirst : 'A'.val ≤ c.val ↔ 0x41 ≤ c.toNat := UInt32.le_iff_toNat_le
  have hlast : c.val ≤ 'Z'.val ↔ c.toNat ≤ 0x5A := UInt32.le_iff_toNat_le
  rw [← hfirst, ← hlast]
  exact ⟨of_decide_eq_true, decide_eq_true⟩

theorem isLower_iff : c.isLower = true ↔ 0x61 ≤ c.toNat ∧ c.toNat ≤ 0x7A := by
  have hfirst : 'a'.val ≤ c.val ↔ 0x61 ≤ c.toNat := UInt32.le_iff_toNat_le
  have hlast : c.val ≤ 'z'.val ↔ c.toNat ≤ 0x7A := UInt32.le_iff_toNat_le
  rw [← hfirst, ← hlast]
  refine Bool.and_eq_true_iff.trans (and_congr ?_ ?_)
  · exact ⟨of_decide_eq_true, decide_eq_true⟩
  · exact ⟨of_decide_eq_true, decide_eq_true⟩

theorem isAlpha_iff :
    c.isAlpha = true ↔
      (0x41 ≤ c.toNat ∧ c.toNat ≤ 0x5A) ∨ (0x61 ≤ c.toNat ∧ c.toNat ≤ 0x7A) := by
  rw [← isUpper_iff, ← isLower_iff]
  exact Bool.or_eq_true_iff

theorem isDigit_iff : c.isDigit = true ↔ 0x30 ≤ c.toNat ∧ c.toNat ≤ 0x39 :=
  Char.isDigit_iff_toNat

theorem toNat_toUpper (c : Char) :
    c.toUpper.toNat = if 0x61 ≤ c.toNat ∧ c.toNat ≤ 0x7A then c.toNat - 0x20 else c.toNat := by
  have hfirst : 'a'.val ≤ c.val ↔ 0x61 ≤ c.toNat := UInt32.le_iff_toNat_le
  have hlast : c.val ≤ 'z'.val ↔ c.toNat ≤ 0x7A := UInt32.le_iff_toNat_le
  by_cases h : 0x61 ≤ c.toNat ∧ c.toNat ≤ 0x7A
  · rw [if_pos h]
    have hval : c.toUpper.val = c.val + ('A'.val - 'a'.val) := by
      delta Char.toUpper
      rw [dif_pos ⟨hfirst.mpr h.1, hlast.mpr h.2⟩]
    have hshift : ('A'.val - 'a'.val).toNat = 2 ^ 32 - 0x20 := by decide
    have hnat := congrArg UInt32.toNat hval
    rw [UInt32.toNat_add, hshift] at hnat
    change c.toUpper.toNat = (c.toNat + (2 ^ 32 - 0x20)) % 2 ^ 32 at hnat
    omega
  · rw [if_neg h]
    have hsame : c.toUpper = c := by
      delta Char.toUpper
      rw [dif_neg fun hlower => h ⟨hfirst.mp hlower.1, hlast.mp hlower.2⟩]
    rw [hsame]

theorem toNat_toLower (c : Char) :
    c.toLower.toNat = if 0x41 ≤ c.toNat ∧ c.toNat ≤ 0x5A then c.toNat + 0x20 else c.toNat := by
  have hfirst : 'A'.val ≤ c.val ↔ 0x41 ≤ c.toNat := UInt32.le_iff_toNat_le
  have hlast : c.val ≤ 'Z'.val ↔ c.toNat ≤ 0x5A := UInt32.le_iff_toNat_le
  by_cases h : 0x41 ≤ c.toNat ∧ c.toNat ≤ 0x5A
  · rw [if_pos h]
    have hval : c.toLower.val = c.val + ('a'.val - 'A'.val) := by
      delta Char.toLower
      rw [dif_pos ⟨hfirst.mpr h.1, hlast.mpr h.2⟩]
    have hshift : ('a'.val - 'A'.val).toNat = 0x20 := by decide
    have hnat := congrArg UInt32.toNat hval
    rw [UInt32.toNat_add, hshift] at hnat
    change c.toLower.toNat = (c.toNat + 0x20) % 2 ^ 32 at hnat
    omega
  · rw [if_neg h]
    have hsame : c.toLower = c := by
      delta Char.toLower
      rw [dif_neg fun hupper => h ⟨hfirst.mp hupper.1, hlast.mp hupper.2⟩]
    rw [hsame]

theorem toUpper_eq_self (h : ¬ (0x61 ≤ c.toNat ∧ c.toNat ≤ 0x7A)) : c.toUpper = c :=
  Char.toNat_inj.mp ((toNat_toUpper c).trans (if_neg h))

theorem toLower_eq_self (h : ¬ (0x41 ≤ c.toNat ∧ c.toNat ≤ 0x5A)) : c.toLower = c :=
  Char.toNat_inj.mp ((toNat_toLower c).trans (if_neg h))

/-! ### The digits of a number -/

open Nat (toDigits)

theorem isDigit_of_mem_toDigits {n : ℕ} (h : c ∈ toDigits 10 n) : c.isDigit = true :=
  Nat.isDigit_of_mem_toDigits (by decide) (Nat.le_refl 10) h

/-- The digits of a number start with no sign. -/
theorem toDigits_ne_cons {n : ℕ} (hc : c.isDigit = false) (cs : List Char) :
    toDigits 10 n ≠ c :: cs := by
  intro h
  have hmem : c ∈ toDigits 10 n := h ▸ List.mem_cons_self
  have hdigit : c.isDigit = true := isDigit_of_mem_toDigits hmem
  rw [hc] at hdigit
  cases hdigit

theorem digits_toDigits (n : ℕ) :
    toDigits 10 n ≠ [] ∧ (toDigits 10 n).all Char.isDigit = true :=
  ⟨Nat.toDigits_ne_nil, List.all_eq_true.mpr fun _ hc => isDigit_of_mem_toDigits hc⟩

end Ascii
