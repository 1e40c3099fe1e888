import Mathlib.Data.List.Basic
import Mathlib.Data.List.OfFn
import Mathlib.Logic.Equiv.Basic

/-! Cipher block chaining over an arbitrary block permutation, with the padding that
writes the number of added bytes into each of them. -/

namespace BlockMode

/-! ### Chaining of abstract blocks -/

section Chaining

variable {B : Type*} (mix : B → B → B) (σ : Equiv.Perm B)

/-- Every plain block is mixed with the cipher block before it, the first one with the
initialization vector `prev`. -/
def encryptBlocks (prev : B) : List B → List B
  | [] => []
  | p :: ps => σ (mix p prev) :: encryptBlocks (σ (mix p prev)) ps

def decryptBlocks (prev : B) : List B → List B
  | [] => []
  | c :: cs => mix (σ.symm c) prev :: decryptBlocks c cs

theorem decryptBlocks_encryptBlocks (hmix : ∀ a b, mix (mix a b) b = a) (iv : B)
    (ps : List B) : decryptBlocks mix σ iv (encryptBlocks mix σ iv ps) = ps := by
  induction ps generalizing iv with
  | nil => rfl
  | cons p ps ih => simp only [encryptBlocks, decryptBlocks, Equiv.symm_apply_apply, hmix, ih]

theorem encryptBlocks_decryptBlocks (hmix : ∀ a b, mix (mix a b) b = a) (iv : B)
    (cs : List B) : encryptBlocks mix σ iv (decryptBlocks mix σ iv cs) = cs := by
  induction cs generalizing iv with
  | nil => rfl
  | cons c cs ih => simp only [decryptBlocks, encryptBlocks, hmix, Equiv.apply_symm_apply, ih]

@[simp] theorem length_decryptBlocks (iv : B) (cs : List B) :
    (decryptBlocks mix σ iv cs).length = cs.length := by
  induction cs generalizing iv with
  | nil => rfl
  | cons c cs ih => simp only [decryptBlocks, List.length_cons, ih]

@[simp] theorem length_encryptBlocks (iv : B) (ps : List B) :
    (encryptBlocks mix σ iv ps).length = ps.length := by
  induction ps generalizing iv with
  | nil => rfl
  | cons p ps ih => simp only [encryptBlocks, List.length_cons, ih]

/-- A cipher block only influences its own plain block and the next one. -/
theorem decryptBlocks_append (iv : B) (cs ds : List B) :
    decryptBlocks mix σ iv (cs ++ ds) =
      decryptBlocks mix σ iv cs ++ decryptBlocks mix σ (cs.getLastD iv) ds := by
  induction cs generalizing iv with
  | nil => rfl
  | cons c cs ih => simp only [List.cons_append, decryptBlocks, ih, List.getLastD_cons]

theorem take_decryptBlocks (iv : B) (cs : List B) (k : ℕ) :
    (decryptBlocks mix σ iv cs).take k = decryptBlocks mix σ iv (cs.take k) := by
  induction cs generalizing iv k with
  | nil => simp [decryptBlocks]
  | cons c cs ih => cases k <;> simp [decryptBlocks, ih]

/-- Repeating the last two cipher blocks leaves the plaintext in front, adds one block
that nobody chose and ends with the same plain block as before. -/
theorem decryptBlocks_repeat (iv c d : B) (cs : List B) :
    decryptBlocks mix σ iv (cs ++ [c, d] ++ [c, d]) =
      decryptBlocks mix σ iv (cs ++ [c, d]) ++ [mix (σ.symm c) d, mix (σ.symm d) c] := by
  rw [decryptBlocks_append mix σ iv (cs ++ [c, d]) [c, d]]
  simp [decryptBlocks]

theorem decryptBlocks_last (iv c d : B) (cs : List B) :
    decryptBlocks mix σ iv (cs ++ [c, d]) =
      decryptBlocks mix σ iv (cs ++ [c]) ++ [mix (σ.symm d) c] := by
  have h := decryptBlocks_append mix σ iv (cs ++ [c]) [d]
  simpa [decryptBlocks] using h

end Chaining

/-! ### Blocks of bytes -/

/-- A block of `n` bytes. -/
abbrev Block (n : ℕ) := Fin n → UInt8

variable {n : ℕ}

def Block.xor (a b : Block n) : Block n := fun i => a i ^^^ b i

theorem Block.xor_xor_cancel (a b : Block n) : (a.xor b).xor b = a := by
  funext i
  rw [Block.xor, Block.xor, UInt8.xor_assoc, UInt8.xor_self, UInt8.xor_zero]

def Block.ofBytes (bytes : List UInt8) : Block n := fun i => bytes.getD i 0

theorem Block.ofFn_ofBytes {bytes : List UInt8} (h : bytes.length = n) :
    List.ofFn (Block.ofBytes bytes : Block n) = bytes := by
  apply List.ext_getElem
  · simp [h]
  · intro i hi hi'
    simp [Block.ofBytes, hi']

@[simp] theorem Block.ofBytes_ofFn (b : Block n) : Block.ofBytes (List.ofFn b) = b := by
  funext i
  simp [Block.ofBytes]

def join (bs : List (Block n)) : List UInt8 := bs.flatMap fun b => List.ofFn b

@[simp] theorem join_nil : join ([] : List (Block n)) = [] := rfl

@[simp] theorem join_cons (b : Block n) (bs : List (Block n)) :
    join (b :: bs) = List.ofFn b ++ join bs := rfl

@[simp] theorem join_append (as bs : List (Block n)) : join (as ++ bs) = join as ++ join bs := by
  simp [join]

@[simp] theorem length_join (bs : List (Block n)) : (join bs).length = bs.length * n := by
  induction bs with
  | nil => simp
  | cons b bs ih => simp [ih, Nat.add_mul, Nat.add_comm]

/-- The first `k` blocks of a byte string. -/
def takeBlocks : ℕ → List UInt8 → List (Block n)
  | 0, _ => []
  | k + 1, bytes => Block.ofBytes (bytes.take n) :: takeBlocks k (bytes.drop n)

/-- All whole blocks of a byte string. -/
def blocks (bytes : List UInt8) : List (Block n) := takeBlocks (bytes.length / n) bytes

theorem takeBlocks_join (bs : List (Block n)) (rest : List UInt8) :
    takeBlocks bs.length (join bs ++ rest) = bs := by
  induction bs with
  | nil => rfl
  | cons b bs ih =>
      simp only [List.length_cons, takeBlocks, join_cons, List.append_assoc]
      rw [List.take_left' (by simp), List.drop_left' (by simp), ih, Block.ofBytes_ofFn]

theorem join_takeBlocks (k : ℕ) (bytes : List UInt8) (h : k * n ≤ bytes.length) :
    join (takeBlocks k bytes : List (Block n)) = bytes.take (k * n) := by
  induction k generalizing bytes with
  | zero => simp [takeBlocks]
  | succ k ih =>
      rw [Nat.succ_mul] at h
      have hn : (bytes.take n).length = n := by simp; omega
      rw [takeBlocks, join_cons, Block.ofFn_ofBytes hn, ih _ (by simp; omega), Nat.succ_mul,
        Nat.add_comm, List.take_add]

theorem blocks_join (hn : 0 < n) (bs : List (Block n)) : blocks (join bs) = bs := by
  have h := takeBlocks_join bs []
  rw [List.append_nil] at h
  rw [blocks, length_join, Nat.mul_div_cancel _ hn, h]

theorem join_blocks {bytes : List UInt8} (h : n ∣ bytes.length) :
    join (blocks bytes : List (Block n)) = bytes := by
  have hm : bytes.length / n * n = bytes.length := Nat.div_mul_cancel h
  rw [blocks, join_takeBlocks _ _ hm.le, hm, List.take_length]

/-! ### Padding -/

/-- Pads to a multiple of `n`, with at least one byte and at most `n` of them. -/
def pad (n : ℕ) (m : List UInt8) : List UInt8 :=
  m ++ List.replicate (n - m.length % n) (UInt8.ofNat (n - m.length % n))

/-- The last byte says how many equal bytes to remove. No bytes need no padding. -/
def unpad (n : ℕ) (m : List UInt8) : Option (List UInt8) :=
  match m.getLast? with
  | none => some []
  | some last =>
      if 0 < last.toNat ∧ last.toNat ≤ n ∧ last.toNat ≤ m.length ∧
          (m.drop (m.length - last.toNat)).all (· == last) then
        some (m.take (m.length - last.toNat))
      else none

theorem unpad_append_replicate {k : ℕ} (hk : 0 < k) (hkn : k ≤ n) (hn : n < 256)
    (m : List UInt8) : unpad n (m ++ List.replicate k (UInt8.ofNat k)) = some m := by
  have hb : (UInt8.ofNat k).toNat = k := by
    rw [UInt8.toNat_ofNat', Nat.mod_eq_of_lt (by omega)]
  have hl : (m ++ List.replicate k (UInt8.ofNat k)).getLast? = some (UInt8.ofNat k) := by
    rw [List.getLast?_append, List.getLast?_replicate, if_neg (by omega)]
    rfl
  have hd : (m ++ List.replicate k (UInt8.ofNat k)).length - k = m.length := by simp
  simp only [unpad, hl, hb, hd]
  simp [hk, hkn]

theorem pad_length_pos (hn : 0 < n) (m : List UInt8) :
    0 < n - m.length % n ∧ n - m.length % n ≤ n :=
  ⟨Nat.sub_pos_of_lt (Nat.mod_lt _ hn), Nat.sub_le _ _⟩

theorem unpad_pad (hn : 0 < n) (hn' : n < 256) (m : List UInt8) : unpad n (pad n m) = some m := by
  obtain ⟨h, h'⟩ := pad_length_pos hn m
  exact unpad_append_replicate h h' hn' m

/-- Whole blocks have one padding only. -/
theorem pad_of_unpad {bytes m : List UInt8} (hdvd : n ∣ bytes.length) (hne : bytes ≠ [])
    (h : unpad n bytes = some m) : pad n m = bytes := by
  rw [unpad] at h
  cases hlast : bytes.getLast? with
  | none => exact absurd (List.getLast?_eq_none_iff.mp hlast) hne
  | some last =>
      simp only [hlast, Option.ite_none_right_eq_some, Option.some_inj] at h
      obtain ⟨⟨hpos, hle, hlen, hall⟩, rfl⟩ := h
      have hcount : n - (bytes.length - last.toNat) % n = last.toNat := by
        obtain ⟨k, hk⟩ := hdvd
        obtain ⟨k, rfl⟩ : ∃ j, k = j + 1 := ⟨k - 1, by
          cases k with
          | zero => omega
          | succ j => rfl⟩
        have hrest : bytes.length - last.toNat = n - last.toNat + n * k := by
          rw [hk, Nat.mul_succ]
          omega
        rw [hrest, Nat.add_mul_mod_self_left, Nat.mod_eq_of_lt (by omega)]
        omega
      have htail : bytes.drop (bytes.length - last.toNat) = List.replicate last.toNat last := by
        rw [List.eq_replicate_iff]
        refine ⟨by rw [List.length_drop]; omega, fun b hb => ?_⟩
        exact beq_iff_eq.mp (List.all_eq_true.mp hall b hb)
      have hsplit := List.take_append_drop (bytes.length - last.toNat) bytes
      rw [htail] at hsplit
      rw [pad, List.length_take, Nat.min_eq_left (Nat.sub_le _ _), hcount, UInt8.ofNat_toNat,
        hsplit]

theorem dvd_length_pad (hn : 0 < n) (m : List UInt8) : n ∣ (pad n m).length := by
  have hlt := Nat.mod_lt m.length hn
  have hdiv := Nat.div_add_mod m.length n
  refine ⟨m.length / n + 1, ?_⟩
  simp only [pad, List.length_append, List.length_replicate, Nat.mul_add, Nat.mul_one]
  omega

/-! ### The byte interface -/

/-- The ways in which decryption of a byte string fails. -/
inductive CipherError
  | invalidIv
  | illegalBlockSize
  | badPadding
  deriving DecidableEq, Repr

def cbcEncrypt (σ : Equiv.Perm (Block n)) (iv : Block n) (m : List UInt8) : List UInt8 :=
  join (encryptBlocks Block.xor σ iv (blocks (pad n m)))

/-- The plain bytes of whole cipher blocks, padding included. -/
def cbcPlain (σ : Equiv.Perm (Block n)) (iv : Block n) (bytes : List UInt8) : List UInt8 :=
  join (decryptBlocks Block.xor σ iv (blocks bytes))

def cbcDecrypt (σ : Equiv.Perm (Block n)) (iv bytes : List UInt8) :
    Except CipherError (List UInt8) :=
  if iv.length ≠ n then .error .invalidIv
  else if ¬ n ∣ bytes.length then .error .illegalBlockSize
  else match unpad n (cbcPlain σ (Block.ofBytes iv) bytes) with
    | none => .error .badPadding
    | some m => .ok m

theorem cbcPlain_cbcEncrypt (hn : 0 < n) (σ : Equiv.Perm (Block n)) (iv : Block n)
    (m : List UInt8) : cbcPlain σ iv (cbcEncrypt σ iv m) = pad n m := by
  rw [cbcPlain, cbcEncrypt, blocks_join hn,
    decryptBlocks_encryptBlocks Block.xor σ Block.xor_xor_cancel,
    join_blocks (dvd_length_pad hn m)]

theorem length_cbcEncrypt (hn : 0 < n) (σ : Equiv.Perm (Block n)) (iv : Block n)
    (m : List UInt8) : (cbcEncrypt σ iv m).length = (pad n m).length := by
  have h := congrArg List.length (join_blocks (dvd_length_pad hn m))
  simpa [cbcEncrypt] using h

/-- Decryption reads back what encryption wrote, for every permutation. -/
theorem cbcDecrypt_cbcEncrypt (hn : 0 < n) (hn' : n < 256) (σ : Equiv.Perm (Block n))
    (iv : Block n) (m : List UInt8) :
    cbcDecrypt σ (List.ofFn iv) (cbcEncrypt σ iv m) = .ok m := by
  have hd : n ∣ (cbcEncrypt σ iv m).length := by
    rw [length_cbcEncrypt hn]
    exact dvd_length_pad hn m
  simp [cbcDecrypt, hd, cbcPlain_cbcEncrypt hn, unpad_pad hn hn']

theorem length_cbcPlain {σ : Equiv.Perm (Block n)} {iv : Block n} {bytes : List UInt8}
    (hdvd : n ∣ bytes.length) : (cbcPlain σ iv bytes).length = bytes.length := by
  have hlength := congrArg List.length (join_blocks (n := n) hdvd)
  rw [length_join] at hlength
  rw [cbcPlain, length_join, length_decryptBlocks, hlength]

/-- A length error is reported for exactly the inputs that do not consist of an
initialization vector and whole blocks. -/
theorem cbcDecrypt_of_lengths (σ : Equiv.Perm (Block n)) {iv bytes : List UInt8}
    (hiv : iv.length = n) (hb : n ∣ bytes.length) :
    (∃ m, cbcDecrypt σ iv bytes = .ok m) ∨ cbcDecrypt σ iv bytes = .error .badPadding := by
  cases h : unpad n (cbcPlain σ (Block.ofBytes iv) bytes) <;> simp [cbcDecrypt, hiv, hb, h]

theorem cbcDecrypt_eq_ok_iff (σ : Equiv.Perm (Block n)) {iv bytes m : List UInt8} :
    cbcDecrypt σ iv bytes = .ok m ↔ iv.length = n ∧ n ∣ bytes.length ∧
      unpad n (cbcPlain σ (Block.ofBytes iv) bytes) = some m := by
  by_cases hiv : iv.length = n
  · by_cases hb : n ∣ bytes.length
    · cases h : unpad n (cbcPlain σ (Block.ofBytes iv) bytes) <;> simp [cbcDecrypt, hiv, hb, h]
    · simp [cbcDecrypt, hiv, hb]
  · simp [cbcDecrypt, hiv]

/-- Encryption writes again what decryption read a message from. -/
theorem cbcEncrypt_of_cbcDecrypt (hn : 0 < n) (σ : Equiv.Perm (Block n)) {iv bytes m : List UInt8}
    (hne : bytes ≠ []) (h : cbcDecrypt σ iv bytes = .ok m) :
    cbcEncrypt σ (Block.ofBytes iv) m = bytes := by
  obtain ⟨-, hdvd, hunpad⟩ := (cbcDecrypt_eq_ok_iff σ).mp h
  have hlength : (cbcPlain σ (Block.ofBytes iv) bytes).length = bytes.length :=
    length_cbcPlain hdvd
  have hplain : pad n m = cbcPlain σ (Block.ofBytes iv) bytes := by
    refine pad_of_unpad (hlength ▸ hdvd) ?_ hunpad
    rwa [← List.length_pos_iff, hlength, List.length_pos_iff]
  rw [cbcEncrypt, hplain, cbcPlain, blocks_join hn,
    encryptBlocks_decryptBlocks Block.xor σ Block.xor_xor_cancel, join_blocks hdvd]

theorem cbcDecrypt_of_iv (σ : Equiv.Perm (Block n)) {iv : List UInt8} (h : iv.length ≠ n)
    (bytes : List UInt8) : cbcDecrypt σ iv bytes = .error .invalidIv := by
  simp [cbcDecrypt, h]

theorem cbcDecrypt_of_size (σ : Equiv.Perm (Block n)) {iv bytes : List UInt8}
    (hiv : iv.length = n) (hb : ¬ n ∣ bytes.length) :
    cbcDecrypt σ iv bytes = .error .illegalBlockSize := by
  simp [cbcDecrypt, hiv, hb]

/-! ### Editing of ciphertexts -/

theorem take_takeBlocks {k j : ℕ} (h : k ≤ j) (bytes : List UInt8) :
    (takeBlocks j bytes : List (Block n)).take k = takeBlocks k bytes := by
  induction k generalizing j bytes with
  | zero => rfl
  | succ k ih =>
      cases j with
      | zero => omega
      | succ j => rw [takeBlocks, List.take_succ_cons, ih (by omega), takeBlocks]

theorem takeBlocks_congr {k : ℕ} {bytes bytes' : List UInt8}
    (h : bytes.take (k * n) = bytes'.take (k * n)) :
    (takeBlocks k bytes : List (Block n)) = takeBlocks k bytes' := by
  induction k generalizing bytes bytes' with
  | zero => rfl
  | succ k ih =>
      rw [Nat.succ_mul, Nat.add_comm] at h
      have hfirst := congrArg (List.take n) h
      have hrest := congrArg (List.drop n) h
      simp only [List.take_take, Nat.min_eq_left (Nat.le_add_right n (k * n))] at hfirst
      simp only [List.drop_take, Nat.add_sub_cancel_left] at hrest
      rw [takeBlocks, takeBlocks, hfirst, ih hrest]

/-- Cipher bytes with the same first blocks decrypt to the same first blocks. -/
theorem take_cbcPlain (hn : 0 < n) (σ : Equiv.Perm (Block n)) (iv : Block n) {k : ℕ}
    {bytes bytes' : List UInt8} (hk : k * n ≤ bytes.length) (hk' : k * n ≤ bytes'.length)
    (h : bytes.take (k * n) = bytes'.take (k * n)) :
    (cbcPlain σ iv bytes).take (k * n) = (cbcPlain σ iv bytes').take (k * n) := by
  have hblocks : ∀ bs : List (Block n), (join bs).take (k * n) = join (bs.take k) := by
    intro bs
    by_cases hlen : k ≤ bs.length
    · have hsplit : join bs = join (bs.take k) ++ join (bs.drop k) := by
        rw [← join_append, List.take_append_drop]
      rw [hsplit, List.take_left' (by simp [hlen])]
    · have hle : bs.length * n ≤ k * n := Nat.mul_le_mul_right n (by omega)
      rw [List.take_of_length_le (by simpa using hle), List.take_of_length_le (by omega)]
  rw [cbcPlain, cbcPlain, hblocks, hblocks, take_decryptBlocks, take_decryptBlocks, blocks, blocks,
    take_takeBlocks ((Nat.le_div_iff_mul_le hn).mpr hk),
    take_takeBlocks ((Nat.le_div_iff_mul_le hn).mpr hk'), takeBlocks_congr h]

theorem unpad_eq_take {m p : List UInt8} (h : unpad n m = some p) : ∃ k, p = m.take k := by
  rw [unpad] at h
  cases hl : m.getLast? with
  | none =>
      rw [hl] at h
      exact ⟨0, by simpa using h.symm⟩
  | some last =>
      rw [hl] at h
      simp only at h
      split at h
      · exact ⟨_, (Option.some.inj h).symm⟩
      · cases h

/-- The last two blocks once more. -/
def repeatTail (n : ℕ) (bytes : List UInt8) : List UInt8 :=
  bytes ++ bytes.drop (bytes.length - 2 * n)

theorem repeatTail_append {as bs : List UInt8} (h : 2 * n ≤ bs.length) :
    repeatTail n (as ++ bs) = as ++ repeatTail n bs := by
  have hlen : (as ++ bs).length - 2 * n = as.length + (bs.length - 2 * n) := by
    rw [List.length_append]
    omega
  rw [repeatTail, repeatTail, hlen, List.drop_append, List.append_assoc]
  simp

theorem two_le_blocks_pad (hn : 0 < n) {m : List UInt8} (hm : n ≤ m.length) :
    2 ≤ (pad n m).length / n := by
  have hlen : (pad n m).length = m.length + (n - m.length % n) := by simp [pad]
  obtain ⟨hpos, -⟩ := pad_length_pos hn m
  obtain ⟨q, hq⟩ := dvd_length_pad hn m
  have hq2 : 1 < q := by
    by_contra hq1
    have hmul : n * q ≤ n * 1 := Nat.mul_le_mul_left n (by omega)
    omega
  have hmul : n * 2 ≤ n * q := Nat.mul_le_mul_left n hq2
  rw [Nat.le_div_iff_mul_le hn]
  omega

/-- A message of at least one block has at least two cipher blocks. -/
theorem cbcEncrypt_eq_join (hn : 0 < n) (σ : Equiv.Perm (Block n)) (iv : Block n)
    {m : List UInt8} (hm : n ≤ m.length) :
    ∃ cs c d, cbcEncrypt σ iv m = join (cs ++ [c, d]) ∧
      join (decryptBlocks Block.xor σ iv (cs ++ [c, d])) = pad n m := by
  have hlen : (encryptBlocks Block.xor σ iv (blocks (pad n m))).length = (pad n m).length / n := by
    rw [length_encryptBlocks, ← Nat.mul_right_cancel_iff hn, ← length_join,
      join_blocks (dvd_length_pad hn m), Nat.div_mul_cancel (dvd_length_pad hn m)]
  have hplain : join (decryptBlocks Block.xor σ iv
      (encryptBlocks Block.xor σ iv (blocks (pad n m)))) = pad n m := by
    rw [decryptBlocks_encryptBlocks Block.xor σ Block.xor_xor_cancel,
      join_blocks (dvd_length_pad hn m)]
  have h2 := two_le_blocks_pad hn hm
  rw [cbcEncrypt]
  generalize encryptBlocks Block.xor σ iv (blocks (pad n m)) = es at hlen hplain
  obtain ⟨c, d, hcd⟩ := List.length_eq_two.mp
    (show (es.drop (es.length - 2)).length = 2 by rw [List.length_drop]; omega)
  refine ⟨es.take (es.length - 2), c, d, ?_, ?_⟩
  · rw [← hcd, List.take_append_drop]
  · rw [← hcd, List.take_append_drop, hplain]

/-- The last block of a padded message ends with the whole padding. -/
theorem last_block_of_pad (hn : 0 < n) {m front : List UInt8} {last : Block n}
    (h : front ++ List.ofFn last = pad n m) :
    List.ofFn last = m.drop front.length ++
      List.replicate (n - m.length % n) (UInt8.ofNat (n - m.length % n)) := by
  obtain ⟨-, hle⟩ := pad_length_pos hn m
  have hlen := congrArg List.length h
  simp only [pad, List.length_append, List.length_ofFn, List.length_replicate] at hlen
  have hdrop := congrArg (List.drop front.length) h
  rw [List.drop_left, pad, List.drop_append_of_le_length (by omega)] at hdrop
  exact hdrop

/-- Appending its last two blocks to a ciphertext appends bytes to the message: the padding
becomes a part of it, and the repeated last block is padded as before. -/
theorem cbcDecrypt_repeatTail (hn : 0 < n) (hn' : n < 256) (σ : Equiv.Perm (Block n))
    (iv : Block n) {m : List UInt8} (hm : n ≤ m.length) :
    ∃ rest, rest ≠ [] ∧
      cbcDecrypt σ (List.ofFn iv) (repeatTail n (cbcEncrypt σ iv m)) = .ok (m ++ rest) := by
  obtain ⟨hpos, hle⟩ := pad_length_pos hn m
  obtain ⟨cs, c, d, hcipher, hjoin⟩ := cbcEncrypt_eq_join hn σ iv hm
  have htail : repeatTail n (cbcEncrypt σ iv m) = join (cs ++ [c, d] ++ [c, d]) := by
    have h2 : (join [c, d]).length = 2 * n := length_join [c, d]
    rw [repeatTail, hcipher, join_append, List.length_append, h2, Nat.add_sub_cancel,
      List.drop_left, join_append (cs ++ [c, d]), join_append]
  have hdvd : n ∣ (join (cs ++ [c, d] ++ [c, d])).length := by
    rw [length_join]
    exact Nat.dvd_mul_left n _
  have hplain : cbcPlain σ iv (join (cs ++ [c, d] ++ [c, d])) =
      pad n m ++ List.ofFn ((σ.symm c).xor d) ++ List.ofFn ((σ.symm d).xor c) := by
    rw [cbcPlain, blocks_join hn, decryptBlocks_repeat, join_append, hjoin]
    simp
  rw [decryptBlocks_last, join_append, join_cons, join_nil, List.append_nil] at hjoin
  rw [last_block_of_pad hn hjoin, ← List.append_assoc] at hplain
  refine ⟨List.replicate (n - m.length % n) (UInt8.ofNat (n - m.length % n)) ++
    List.ofFn ((σ.symm c).xor d) ++
      m.drop (join (decryptBlocks Block.xor σ iv (cs ++ [c]))).length, ?_, ?_⟩
  · intro hnil
    have hlen := congrArg List.length hnil
    simp only [List.length_append, List.length_replicate, List.length_nil] at hlen
    omega
  · rw [htail, cbcDecrypt, if_neg (by simp), if_neg (not_not.mpr hdvd), Block.ofBytes_ofFn, hplain,
      unpad_append_replicate hpos hle hn']
    simp only [pad, List.append_assoc]

end BlockMode
