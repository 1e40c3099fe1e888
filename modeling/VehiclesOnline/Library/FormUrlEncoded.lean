import Mathlib.Algebra.GroupWithZero.Nat
import VehiclesOnline.Library.Utf8

/-! Forms as bytes in the format `application/x-www-form-urlencoded`: pairs of names and
values, in which every byte that is not plain is written as an escape. -/

namespace FormUrlEncoded

/-- The bytes of the characters `&`, `=`, `+`, `%` and of the blank. -/
def ampersand : UInt8 := 38
def equalsSign : UInt8 := 61
def plus : UInt8 := 43
def percent : UInt8 := 37
def blank : UInt8 := 32

def hexBytes : List UInt8 := Utf8.encode "0123456789ABCDEF"

def hexByte (n : ℕ) : UInt8 := hexBytes.getD n 48

def hexValue? (b : UInt8) : Option ℕ :=
  if b ∈ Utf8.encode "abcdef" then hexBytes.idxOf? (b - 32) else hexBytes.idxOf? b

/-- Letters, digits and the four marks that stand for themselves. -/
def plain : List UInt8 :=
  Utf8.encode "ABCDEFGHIJKLMNOPQRSTUVWXYZabcdefghijklmnopqrstuvwxyz0123456789.-*_"

def renderByte (b : UInt8) : List UInt8 :=
  if b ∈ plain then [b]
  else if b = blank then [plus]
  else [percent, hexByte (b.toNat / 16), hexByte (b.toNat % 16)]

def renderText (s : String) : List UInt8 := (Utf8.encode s).flatMap renderByte

def renderPair (pair : String × String) : List UInt8 :=
  renderText pair.1 ++ equalsSign :: renderText pair.2

def render (pairs : List (String × String)) : List UInt8 :=
  [ampersand].intercalate (pairs.map renderPair)

/-- Reads escapes; a percent sign without two digits is an error. -/
def readBytes : List UInt8 → Option (List UInt8)
  | [] => some []
  | b :: bytes =>
      if b = plus then (readBytes bytes).map (blank :: ·)
      else if b = percent then
        match bytes with
        | high :: low :: bytes => do
            let h ← hexValue? high
            let l ← hexValue? low
            let rest ← readBytes bytes
            return UInt8.ofNat (h * 16 + l) :: rest
        | _ => none
      else (readBytes bytes).map (b :: ·)

def readText (bytes : List UInt8) : Option String := (readBytes bytes).map Utf8.decode

/-- A part without a name or without an equals sign is skipped; what follows a second equals
sign is ignored. -/
def readPair (part : List UInt8) : Option (List (String × String)) :=
  if equalsSign ∈ part ∧ part.head? ≠ some equalsSign then do
    let name ← readText (part.takeWhile (· != equalsSign))
    let value ← readText
      (((part.dropWhile (· != equalsSign)).drop 1).takeWhile (· != equalsSign))
    return [(name, value)]
  else some []

def parse (bytes : List UInt8) : Option (List (String × String)) :=
  ((bytes.splitOn ampersand).mapM readPair).map List.flatten

theorem hexValue?_hexByte : ∀ n < 16, hexValue? (hexByte n) = some n := by decide +kernel

theorem separators_not_mem_renderByte : ∀ n < 256,
    ampersand ∉ renderByte (UInt8.ofNat n) ∧ equalsSign ∉ renderByte (UInt8.ofNat n) := by
  decide +kernel

theorem plain_ne : ∀ b ∈ plain, b ≠ plus ∧ b ≠ percent := by decide +kernel

theorem readBytes_renderByte (b : UInt8) (bytes : List UInt8) :
    readBytes (renderByte b ++ bytes) = (readBytes bytes).map (b :: ·) := by
  rw [renderByte]
  by_cases hplain : b ∈ plain
  · obtain ⟨hplus, hpercent⟩ := plain_ne b hplain
    rw [if_pos hplain, List.singleton_append, readBytes.eq_def]
    simp [hplus, hpercent]
  · rw [if_neg hplain]
    by_cases hblank : b = blank
    · rw [if_pos hblank, List.singleton_append, readBytes.eq_def, hblank]
      rfl
    · have hb := b.toNat_lt
      have hvalue : UInt8.ofNat (b.toNat / 16 * 16 + b.toNat % 16) = b := by
        rw [Nat.div_add_mod', UInt8.ofNat_toNat]
      rw [if_neg hblank, List.cons_append, List.cons_append, List.cons_append, readBytes.eq_def]
      simp only [if_neg (show ¬ percent = plus by decide), if_true, List.nil_append,
        hexValue?_hexByte (b.toNat / 16) (by omega), hexValue?_hexByte (b.toNat % 16) (by omega),
        bind, Option.bind, hvalue]
      cases readBytes bytes <;> rfl

theorem readText_renderText (s : String) : readText (renderText s) = some s := by
  have h : ∀ bytes : List UInt8, readBytes (bytes.flatMap renderByte) = some bytes := by
    intro bytes
    induction bytes with
    | nil => rfl
    | cons b bytes ih => rw [List.flatMap_cons, readBytes_renderByte, ih, Option.map_some]
  rw [readText, renderText, h, Option.map_some, Utf8.decode_encode]

theorem not_mem_renderText (s : String) :
    ampersand ∉ renderText s ∧ equalsSign ∉ renderText s := by
  have h : ∀ b, ampersand ∉ renderByte b ∧ equalsSign ∉ renderByte b := by
    intro b
    have hb := separators_not_mem_renderByte b.toNat b.toNat_lt
    rwa [UInt8.ofNat_toNat] at hb
  simp only [renderText, List.mem_flatMap, not_exists, not_and]
  exact ⟨fun b _ => (h b).1, fun b _ => (h b).2⟩

theorem ne_of_mem_renderText {s : String} {b : UInt8} (hb : b ∈ renderText s) :
    (b != equalsSign) = true := by
  rw [bne_iff_ne]
  intro he
  exact (not_mem_renderText s).2 (he ▸ hb)

theorem takeWhile_renderText (s : String) (rest : List UInt8) :
    (renderText s ++ equalsSign :: rest).takeWhile (· != equalsSign) = renderText s ∧
      (renderText s ++ equalsSign :: rest).dropWhile (· != equalsSign) = equalsSign :: rest := by
  have h : ∀ b ∈ renderText s, (b != equalsSign) = true := fun _ => ne_of_mem_renderText
  constructor
  · rw [List.takeWhile_append_of_pos h]
    simp
  · rw [List.dropWhile_append_of_pos h]
    simp

theorem renderText_ne_nil {s : String} (h : s ≠ "") : renderText s ≠ [] := by
  intro hnil
  apply h
  have hread := readText_renderText s
  rw [hnil] at hread
  exact (Option.some.inj hread).symm

theorem readPair_renderPair {pair : String × String} (h : pair.1 ≠ "") :
    readPair (renderPair pair) = some [pair] := by
  have hmem : equalsSign ∈ renderPair pair := by simp [renderPair]
  have hhead : (renderPair pair).head? ≠ some equalsSign := by
    intro he
    rw [renderPair, List.head?_append_of_ne_nil _ (renderText_ne_nil h)] at he
    exact (not_mem_renderText pair.1).2 (List.mem_of_mem_head? he)
  obtain ⟨htake, hdrop⟩ := takeWhile_renderText pair.1 (renderText pair.2)
  have hvalue : (renderText pair.2).takeWhile (· != equalsSign) = renderText pair.2 := by
    have happend : (renderText pair.2 ++ []).takeWhile (· != equalsSign) =
        renderText pair.2 ++ [].takeWhile (· != equalsSign) :=
      List.takeWhile_append_of_pos fun b hb => ne_of_mem_renderText hb
    simpa using happend
  rw [readPair, if_pos ⟨hmem, hhead⟩, renderPair, htake, hdrop, List.drop_one, List.tail_cons,
    hvalue, readText_renderText, readText_renderText]
  rfl

theorem length_renderByte_le (b : UInt8) : (renderByte b).length ≤ 3 := by
  rw [renderByte]
  split
  · simp
  · split <;> simp

/-- A character takes at most four bytes, each of which is written as three. -/
theorem length_renderText_le (s : String) : (renderText s).length ≤ 12 * s.length := by
  have hbytes : ∀ bytes : List UInt8, (bytes.flatMap renderByte).length ≤ 3 * bytes.length := by
    intro bytes
    induction bytes with
    | nil => simp
    | cons b bytes ih =>
        have hb := length_renderByte_le b
        simp only [List.flatMap_cons, List.length_append, List.length_cons]
        omega
  have htext := hbytes (Utf8.encode s)
  have hencode := Utf8.length_encode_le s
  rw [renderText]
  omega

theorem length_render_le (pairs : List (String × String)) : (render pairs).length ≤
    (pairs.map fun pair => 12 * (pair.1.length + pair.2.length) + 2).sum := by
  have hpair : ∀ pair, (renderPair pair).length ≤ 12 * (pair.1.length + pair.2.length) + 1 := by
    intro pair
    have hname := length_renderText_le pair.1
    have hvalue := length_renderText_le pair.2
    simp only [renderPair, List.length_append, List.length_cons]
    omega
  induction pairs with
  | nil => simp [render]
  | cons pair pairs ih =>
      have hfirst := hpair pair
      cases pairs with
      | nil =>
          simp only [render, List.map_cons, List.map_nil, List.intercalate_singleton,
            List.sum_cons, List.sum_nil]
          omega
      | cons next pairs =>
          simp only [render, List.map_cons, List.sum_cons, List.intercalate_cons_cons,
            List.length_append, List.length_cons, List.length_nil] at ih ⊢
          omega

/-- A form with named fields is read back from its bytes. -/
theorem parse_render {pairs : List (String × String)} (hne : pairs ≠ [])
    (hnames : ∀ pair ∈ pairs, pair.1 ≠ "") : parse (render pairs) = some pairs := by
  have hsep : ∀ part ∈ pairs.map renderPair, ampersand ∉ part := by
    intro part hpart
    obtain ⟨pair, _, rfl⟩ := List.mem_map.mp hpart
    simp [renderPair, not_mem_renderText, show ampersand ≠ equalsSign by decide]
  rw [parse, render, List.splitOn_intercalate ampersand hsep (by simpa using hne)]
  clear hne hsep
  induction pairs with
  | nil => rfl
  | cons pair pairs ih =>
      have htail := ih fun p hp => hnames p (List.mem_cons_of_mem pair hp)
      obtain ⟨parts, hparts, hflat⟩ := Option.map_eq_some_iff.mp htail
      rw [List.map_cons, List.mapM_cons, readPair_renderPair (hnames pair List.mem_cons_self),
        hparts]
      simp [hflat]

end FormUrlEncoded
