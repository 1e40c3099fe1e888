import VehiclesOnline.Library.Trimming
import VehiclesOnline.Library.Utf16
import VehiclesOnline.Wizard.TraderForms

/-! # The trimmers

A text is trimmed by two loops over the array of its code units, or dropped from the front and,
reversed, from the back. -/

namespace VehiclesOnline.FormExtensions.Jvm

open Utf16 (Units)
open Trimming (Trims)

/-! ### Arrays and strings -/

/-- What is raised for an index that is not there is of a class below this one. -/
def outOfBounds (message : String) : Throwable := ⟨.indexOutOfBoundsException, some message⟩

/-- `Array.apply`. -/
def charAt (val : Units) (index : ℤ) : Except Throwable UInt16 :=
  if index < 0 then .error (outOfBounds (toString index))
  else
    match val[index.toNat]? with
    | some char => .ok char
    | none => .error (outOfBounds (toString index))

/-- `String.substring`. -/
def substring (value : Units) (beginIndex endIndex : ℤ) : Except Throwable Units :=
  let outOfRange (index : ℤ) := outOfBounds ("String index out of range: " ++ toString index)
  if beginIndex < 0 then .error (outOfRange beginIndex)
  else if endIndex > value.length then .error (outOfRange endIndex)
  else if endIndex - beginIndex < 0 then .error (outOfRange (endIndex - beginIndex))
  else .ok ((value.take endIndex.toNat).drop beginIndex.toNat)

def space : UInt16 := UInt16.ofNat ' '.toNat

/-! ### The two functions -/

section Loops

variable (val trimChars : Units)

/-- The condition of the loops behind that of the indices. -/
def isTrimmedAt (index : ℤ) : Except Throwable Bool := do
  if (← charAt val index) ≤ space then return true
  else return trimChars.contains (← charAt val index)

/-- The first loop, which moves `st` up. -/
def skipFront (len st : ℤ) : Except Throwable ℤ :=
  if st < len then do
    if ← isTrimmedAt val trimChars st then skipFront len (st + 1)
    else return st
  else return st
termination_by (len - st).toNat

/-- The second loop, which moves `len` down. -/
def skipBack (st len : ℤ) : Except Throwable ℤ :=
  if st < len then do
    if ← isTrimmedAt val trimChars (len - 1) then skipBack st (len - 1)
    else return len
  else return len
termination_by (len - st).toNat

end Loops

def trimWithAdditionalChars (value trimChars : Units) : Except Throwable Units := do
  let st ← skipFront value trimChars value.length 0
  let len ← skipBack value trimChars st value.length
  if 0 < st ∨ len < value.length then substring value st len else return value

/-- A pattern for a single character is given by the units that it matches: the anchors around
it add nothing where the whole text has to match. -/
def trimNonWhiteListedChars (charRegEx : UInt16 → Bool) (input : Units) : Units :=
  let negativeMatch := fun char => !charRegEx char
  ((input.dropWhile negativeMatch).reverse.dropWhile negativeMatch).reverse

/-- The characters that are trimmed. -/
def isTrimmed (trimChars : Units) (char : UInt16) : Bool :=
  decide (char ≤ space) || trimChars.contains char

/-! ### The loops -/

/-- What is left between two indices. -/
def between (val : Units) (st len : ℕ) : Units := (val.take len).drop st

variable {val trimChars : Units}

theorem between_eq_cons {st len : ℕ} (h : st < len) (hlen : len ≤ val.length) :
    between val st len = val[st] :: between val (st + 1) len := by
  have hst : st < (val.take len).length := by
    rw [List.length_take]
    omega
  rw [between, List.drop_eq_getElem_cons hst, List.getElem_take, between]

theorem between_eq_concat {st len : ℕ} (h : st ≤ len) (hlen : len < val.length) :
    between val st (len + 1) = between val st len ++ [val[len]] := by
  have hst : st ≤ (val.take len).length := by
    rw [List.length_take]
    omega
  rw [between, ← List.take_append_getElem hlen, List.drop_append_of_le_length hst, between]

@[simp] theorem between_self (val : Units) (st : ℕ) : between val st st = [] := by
  rw [between, List.drop_eq_nil_iff, List.length_take]
  omega

@[simp] theorem between_zero_length (val : Units) : between val 0 val.length = val := by
  rw [between, List.take_length, List.drop_zero]

theorem isTrimmedAt_ofNat {index : ℕ} (h : index < val.length) :
    isTrimmedAt val trimChars index = .ok (isTrimmed trimChars val[index]) := by
  have hchar : charAt val index = .ok val[index] := by
    rw [charAt, if_neg (by omega), Int.toNat_natCast, List.getElem?_eq_getElem h]
  rw [isTrimmedAt, hchar, isTrimmed]
  change (if val[index] ≤ space then (Except.ok true : Except Throwable Bool)
    else .ok (trimChars.contains val[index])) = _
  by_cases hspace : val[index] ≤ space
  · simp [hspace]
  · simp [hspace]

/-- By induction on what is left between the indices. -/
theorem skipFront_eq {st len : ℕ} (h : st ≤ len) (hlen : len ≤ val.length) :
    ∃ st' : ℕ, skipFront val trimChars len st = .ok (st' : ℤ) ∧ st ≤ st' ∧ st' ≤ len ∧
      between val st' len = (between val st len).dropWhile (isTrimmed trimChars) := by
  induction hleft : len - st generalizing st with
  | zero =>
      obtain rfl : st = len := by omega
      refine ⟨st, ?_, le_rfl, le_rfl, by simp⟩
      rw [skipFront, if_neg (lt_irrefl _)]
      rfl
  | succ left ih =>
      have hst : st < len := by omega
      rw [skipFront, if_pos (by omega), isTrimmedAt_ofNat (by omega), between_eq_cons hst hlen]
      by_cases htrimmed : isTrimmed trimChars val[st] = true
      · obtain ⟨st', hloop, hge, hle, hbetween⟩ := ih hst (by omega)
        refine ⟨st', ?_, by omega, hle, ?_⟩
        · rw [htrimmed]
          exact hloop
        · rw [hbetween, List.dropWhile_cons_of_pos htrimmed]
      · refine ⟨st, ?_, le_rfl, h, ?_⟩
        · rw [Bool.not_eq_true] at htrimmed
          rw [htrimmed]
          rfl
        · rw [List.dropWhile_cons_of_neg htrimmed, between_eq_cons hst hlen]

theorem skipBack_eq {st len : ℕ} (h : st ≤ len) (hlen : len ≤ val.length) :
    ∃ len' : ℕ, skipBack val trimChars st len = .ok (len' : ℤ) ∧ st ≤ len' ∧ len' ≤ len ∧
      between val st len' = (between val st len).rdropWhile (isTrimmed trimChars) := by
  induction len with
  | zero =>
      obtain rfl : st = 0 := by omega
      refine ⟨0, ?_, le_rfl, le_rfl, by simp⟩
      rw [skipBack, if_neg (lt_irrefl _)]
      rfl
  | succ len ih =>
      by_cases hst : st ≤ len
      · have hlast : ((len + 1 : ℕ) : ℤ) - 1 = (len : ℕ) := by omega
        rw [skipBack, if_pos (by omega), hlast, isTrimmedAt_ofNat (by omega),
          between_eq_concat hst (by omega)]
        by_cases htrimmed : isTrimmed trimChars val[len] = true
        · obtain ⟨len', hloop, hge, hle, hbetween⟩ := ih hst (by omega)
          refine ⟨len', ?_, hge, by omega, ?_⟩
          · rw [htrimmed]
            exact hloop
          · rw [hbetween, List.rdropWhile_concat_pos _ _ _ htrimmed]
        · refine ⟨len + 1, ?_, h, le_rfl, ?_⟩
          · rw [Bool.not_eq_true] at htrimmed
            rw [htrimmed]
            rfl
          · rw [List.rdropWhile_concat_neg _ _ _ htrimmed, between_eq_concat hst (by omega)]
      · obtain rfl : st = len + 1 := by omega
        refine ⟨len + 1, ?_, le_rfl, le_rfl, by simp⟩
        rw [skipBack, if_neg (lt_irrefl _)]
        rfl

theorem substring_ofNat {st len : ℕ} (h : st ≤ len) (hlen : len ≤ val.length) :
    substring val st len = .ok (between val st len) := by
  rw [substring, if_neg (by omega), if_neg (by omega), if_neg (by omega), Int.toNat_natCast,
    Int.toNat_natCast, between]

/-! ### What is left -/

theorem trimWithAdditionalChars_eq (value trimChars : Units) :
    trimWithAdditionalChars value trimChars =
      .ok (Trimming.trim (isTrimmed trimChars) value) := by
  obtain ⟨st, hfront, -, hst, hdropped⟩ : ∃ st : ℕ,
      skipFront value trimChars value.length 0 = .ok (st : ℤ) ∧ _ ∧ _ ∧ _ :=
    skipFront_eq (Nat.zero_le value.length) le_rfl
  obtain ⟨len, hback, hle, hlen, hkept⟩ : ∃ len : ℕ,
      skipBack value trimChars st value.length = .ok (len : ℤ) ∧ _ ∧ _ ∧ _ :=
    skipBack_eq hst le_rfl
  have hvalue : between value st len = Trimming.trim (isTrimmed trimChars) value := by
    rw [hkept, hdropped, between_zero_length, Trimming.trim]
  rw [trimWithAdditionalChars, hfront]
  change (skipBack value trimChars st value.length >>= _) = _
  rw [hback]
  change (if 0 < (st : ℤ) ∨ (len : ℤ) < value.length then substring value st len
    else .ok value) = _
  by_cases hcut : 0 < (st : ℤ) ∨ (len : ℤ) < value.length
  · rw [if_pos hcut, substring_ofNat hle hlen, hvalue]
  · obtain rfl : st = 0 := by omega
    obtain rfl : len = value.length := by omega
    rw [if_neg hcut, ← hvalue, between_zero_length]

theorem trimNonWhiteListedChars_eq (charRegEx : UInt16 → Bool) (input : Units) :
    trimNonWhiteListedChars charRegEx input = Trimming.trim (fun char => !charRegEx char) input :=
  rfl

/-- Both functions are exact and idempotent, and they agree where the pattern matches what is
not trimmed. -/
theorem trimmers_exact :
    (∀ value trimChars : Units, ∃ kept, trimWithAdditionalChars value trimChars = .ok kept ∧
      (∀ left, Trims (isTrimmed trimChars) value left ↔ left = kept) ∧
        trimWithAdditionalChars kept trimChars = .ok kept) ∧
    (∀ (charRegEx : UInt16 → Bool) (input : Units),
      (∀ left, Trims (fun char => !charRegEx char) input left ↔
        left = trimNonWhiteListedChars charRegEx input) ∧
        trimNonWhiteListedChars charRegEx (trimNonWhiteListedChars charRegEx input) =
          trimNonWhiteListedChars charRegEx input) ∧
    ∀ (trimChars : Units) (charRegEx : UInt16 → Bool),
      (∀ char, charRegEx char = !isTrimmed trimChars char) → ∀ value,
        trimWithAdditionalChars value trimChars =
          .ok (trimNonWhiteListedChars charRegEx value) := by
  refine ⟨fun value trimChars => ?_, fun charRegEx input => ?_, ?_⟩
  · refine ⟨_, trimWithAdditionalChars_eq value trimChars, fun _ => Trimming.trims_iff, ?_⟩
    rw [trimWithAdditionalChars_eq, Trimming.trim_trim]
  · rw [trimNonWhiteListedChars_eq]
    exact ⟨fun _ => Trimming.trims_iff, Trimming.trim_trim _ _⟩
  · intro trimChars charRegEx hcomplement value
    have hmatch : (fun char => !charRegEx char) = isTrimmed trimChars := by
      funext char
      rw [hcomplement, Bool.not_not]
    rw [trimWithAdditionalChars_eq, trimNonWhiteListedChars_eq, hmatch]

theorem trimmers_exact_commas :
    trimWithAdditionalChars (Utf16.encode ",foo,") (Utf16.encode ",") =
      .ok (Utf16.encode "foo") :=
  (trimmers_exact.2.2 (Utf16.encode ",") (fun char => !isTrimmed (Utf16.encode ",") char)
    (fun _ => rfl) (Utf16.encode ",foo,")).trans (congrArg Except.ok (by decide))

/-! ### Strings of characters -/

section Characters

open Utf16 (encode encodeChar encodeChar_ne_nil toNat_of_mem_encodeChar)

theorem le_space_iff_of_mem_encodeChar {c : Char} {unit : UInt16} (h : unit ∈ encodeChar c) :
    unit ≤ space ↔ c ≤ ' ' := by
  have hspace : space.toNat = 0x20 := rfl
  have hchar : c ≤ ' ' ↔ c.toNat ≤ 0x20 := UInt32.le_iff_toNat_le
  rw [UInt16.le_iff_toNat_le, hspace, hchar]
  have hunit := toNat_of_mem_encodeChar h
  omega

/-- Without additional characters the first function is the method of strings that it was
written after. -/
theorem trimWithAdditionalChars_encode (s : String) :
    trimWithAdditionalChars (encode s) [] = .ok (encode (trim s)) := by
  have hspace : ∀ c, ∀ unit ∈ encodeChar c, isTrimmed [] unit = decide (c ≤ ' ') := by
    intro c unit hunit
    simp [isTrimmed, le_space_iff_of_mem_encodeChar hunit]
  rw [trimWithAdditionalChars_eq, encode, Trimming.trim_flatMap encodeChar_ne_nil hspace, encode,
    trim, Text.toList_trim]

theorem trimNonWhiteListedChars_encode {charRegEx : Char → Bool} {matched : UInt16 → Bool}
    (h : ∀ c, ∀ unit ∈ encodeChar c, matched unit = charRegEx c) (s : String) :
    trimNonWhiteListedChars matched (encode s) =
      encode (FormExtensions.trimNonWhiteListedChars charRegEx s) := by
  have hmatched : ∀ c, ∀ unit ∈ encodeChar c, (!matched unit) = !charRegEx c := by
    intro c unit hunit
    rw [h c unit hunit]
  rw [trimNonWhiteListedChars_eq, encode, Trimming.trim_flatMap encodeChar_ne_nil hmatched, encode,
    FormExtensions.trimNonWhiteListedChars, Text.toList_trim]

/-- The pattern `[A-Za-z0-9]`. -/
def isAlphanum (unit : UInt16) : Bool :=
  decide (0x41 ≤ unit.toNat ∧ unit.toNat ≤ 0x5A ∨ 0x61 ≤ unit.toNat ∧ unit.toNat ≤ 0x7A ∨
    0x30 ≤ unit.toNat ∧ unit.toNat ≤ 0x39)

theorem isAlphanum_of_mem_encodeChar (c : Char) (unit : UInt16) (h : unit ∈ encodeChar c) :
    isAlphanum unit = c.isAlphanum := by
  have hunit := toNat_of_mem_encodeChar h
  rw [Bool.eq_iff_iff, Char.isAlphanum, Bool.or_eq_true, Ascii.isAlpha_iff, Ascii.isDigit_iff,
    isAlphanum, decide_eq_true_iff]
  omega

/-- The lines of an address are trimmed alike by characters and by units. -/
theorem trimNonWhiteListedChars_fieldTransform (s : String) :
    trimNonWhiteListedChars isAlphanum (encode (Unicode.toUpperCase s)) =
      encode (AddressLines.fieldTransform s) :=
  trimNonWhiteListedChars_encode isAlphanum_of_mem_encodeChar _

end Characters

end VehiclesOnline.FormExtensions.Jvm
