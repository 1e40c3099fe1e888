import Mathlib.Data.List.Basic

/-! UTF-8 text as bytes. Reading never fails: the bytes of a malformed character are read as one
replacement character. -/

namespace Utf8

def encode (s : String) : List UInt8 := s.toList.flatMap String.utf8EncodeChar

def isContinuation (b : UInt8) : Bool := 0x80 ≤ b && b ≤ 0xBF

/-- The second byte may follow the first one in a character of three bytes or four. -/
def continues (first second : UInt8) : Bool :=
  isContinuation second &&
    (first == 0xE0 && 0xA0 ≤ second || 0xE1 ≤ first && first ≤ 0xEF ||
      first == 0xF0 && 0x90 ≤ second || 0xF1 ≤ first && first ≤ 0xF3 ||
        first == 0xF4 && second ≤ 0x8F)

/-- How many bytes are replaced at once: as many as begin a character, or form a surrogate. -/
def malformedLength : List UInt8 → ℕ
  | first :: second :: bytes =>
      if continues first second then 2 + ((bytes.take 1).takeWhile isContinuation).length else 1
  | _ => 1

/-- Reads characters from left to right; `skip` counts the bytes that still belong to the
character read last. -/
def decodeFrom : ℕ → List UInt8 → List Char
  | _, [] => []
  | skip + 1, _ :: bytes => decodeFrom skip bytes
  | 0, b :: bytes =>
      match (b :: bytes).toByteArray.utf8DecodeChar? 0 with
      | some c => c :: decodeFrom (c.utf8Size - 1) bytes
      | none => '\uFFFD' :: decodeFrom (malformedLength (b :: bytes) - 1) bytes

def decode (bytes : List UInt8) : String := String.ofList (decodeFrom 0 bytes)

theorem decodeFrom_append {skip : ℕ} {read : List UInt8} (h : read.length = skip)
    (rest : List UInt8) : decodeFrom skip (read ++ rest) = decodeFrom 0 rest := by
  induction read generalizing skip with
  | nil => rw [← h]; rfl
  | cons b read ih =>
      subst h
      rw [List.length_cons, List.cons_append, decodeFrom]
      exact ih rfl

theorem decodeFrom_char (c : Char) (rest : List UInt8) :
    decodeFrom 0 (String.utf8EncodeChar c ++ rest) = c :: decodeFrom 0 rest := by
  have hread := ByteArray.utf8DecodeChar?_utf8EncodeChar_append (b := rest.toByteArray) (c := c)
  rw [← List.toByteArray_append] at hread
  have hlen := String.length_utf8EncodeChar c
  cases hc : String.utf8EncodeChar c with
  | nil =>
      have hpos := c.utf8Size_pos
      rw [hc, List.length_nil] at hlen
      omega
  | cons b bytes =>
      rw [hc, List.cons_append] at hread
      rw [hc, List.length_cons] at hlen
      rw [List.cons_append, decodeFrom, hread]
      simp only
      rw [decodeFrom_append (by omega)]

/-- Well formed text at the front is read back whatever follows it. -/
theorem decode_encode_append (s : String) (rest : List UInt8) :
    decode (encode s ++ rest) = s ++ decode rest := by
  have h : ∀ cs : List Char, decodeFrom 0 (cs.flatMap String.utf8EncodeChar ++ rest) =
      cs ++ decodeFrom 0 rest := by
    intro cs
    induction cs with
    | nil => rfl
    | cons c cs ih =>
        rw [List.flatMap_cons, List.append_assoc, decodeFrom_char, ih, List.cons_append]
  apply String.toList_inj.mp
  simp [decode, encode, h, String.toList_append]

@[simp] theorem decode_encode (s : String) : decode (encode s) = s := by
  have h := decode_encode_append s []
  rw [List.append_nil] at h
  rw [h]
  apply String.toList_inj.mp
  simp [decode, decodeFrom]

@[simp] theorem encode_append (s t : String) : encode (s ++ t) = encode s ++ encode t := by
  simp [encode, String.toList_append]

/-- Bytes of which nothing is read as the replacement character are those of the text. -/
theorem encode_decode {bytes : List UInt8} (h : '\uFFFD' ∉ (decode bytes).toList) :
    encode (decode bytes) = bytes := by
  rw [decode, String.toList_ofList] at h
  rw [encode, decode, String.toList_ofList]
  induction hlen : bytes.length using Nat.strongRecOn generalizing bytes with
  | ind n ih =>
      cases bytes with
      | nil => rfl
      | cons b bytes =>
          cases hread : (b :: bytes).toByteArray.utf8DecodeChar? 0 with
          | none =>
              rw [decodeFrom, hread] at h
              exact absurd List.mem_cons_self h
          | some c =>
              obtain ⟨rest, hrest⟩ := ByteArray.exists_of_utf8DecodeChar?_eq_some hread
              have hbytes : b :: bytes = String.utf8EncodeChar c ++ rest.data.toList := by
                have hdata := congrArg (fun array => array.data.toList) hrest
                simpa using hdata
              have hshort : rest.data.toList.length < n := by
                have hlength := congrArg List.length hbytes
                have hpos := c.utf8Size_pos
                rw [List.length_append, String.length_utf8EncodeChar] at hlength
                omega
              rw [hbytes, decodeFrom_char] at h ⊢
              rw [List.flatMap_cons, ih _ hshort (fun hmem => h (List.mem_cons_of_mem c hmem)) rfl]

/-- At least one character is read from at least one byte. -/
theorem decode_ne_empty {bytes : List UInt8} (h : bytes ≠ []) : decode bytes ≠ "" := by
  intro he
  have hl := congrArg String.toList he
  rw [decode, String.toList_ofList] at hl
  cases bytes with
  | nil => exact h rfl
  | cons b bytes =>
      rw [decodeFrom] at hl
      split at hl <;> simp at hl

theorem length_decode_le (bytes : List UInt8) : (decode bytes).length ≤ bytes.length := by
  have h : ∀ skip, (decodeFrom skip bytes).length ≤ bytes.length := by
    induction bytes with
    | nil => exact fun _ => Nat.le_refl 0
    | cons b bytes ih =>
        intro skip
        cases skip with
        | zero =>
            rw [decodeFrom]
            split
            · exact Nat.succ_le_succ (ih _)
            · exact Nat.succ_le_succ (ih _)
        | succ skip => exact Nat.le_succ_of_le (ih skip)
  rw [← String.length_toList, decode, String.toList_ofList]
  exact h 0

/-- No character takes more than four bytes. -/
theorem length_encode_le (s : String) : (encode s).length ≤ 4 * s.length := by
  rw [← String.length_toList, encode]
  induction s.toList with
  | nil => simp
  | cons c cs ih =>
      have hc := c.utf8Size_le_four
      simp only [List.flatMap_cons, List.length_append, String.length_utf8EncodeChar,
        List.length_cons]
      omega

/-- Characters below 128 take one byte each. -/
theorem length_encode_of_ascii {s : String} (h : ∀ c ∈ s.toList, c.toNat < 128) :
    (encode s).length = s.length := by
  rw [← String.length_toList, encode]
  generalize s.toList = cs at h
  induction cs with
  | nil => rfl
  | cons c cs ih =>
      have hc : c.utf8Size = 1 := by
        rw [Char.utf8Size_eq_one_iff]
        have hlt := h c List.mem_cons_self
        simp only [Char.toNat, UInt32.le_iff_toNat_le] at hlt ⊢
        exact Nat.le_of_lt_succ hlt
      rw [List.flatMap_cons, List.length_append, String.length_utf8EncodeChar, hc,
        ih fun d hd => h d (List.mem_cons_of_mem c hd), List.length_cons, Nat.add_comm]

end Utf8
