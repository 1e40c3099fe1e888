import Mathlib.Data.List.TakeWhile
import Mathlib.Data.Option.Basic

/-! JSON values whose numbers are integers, their compact texts, and formats that write a
type as such values. Every value is read back from its text. -/

inductive Json
  | null
  | bool (b : Bool)
  | num (n : ℤ)
  | str (s : String)
  | arr (items : List Json)
  | obj (fields : List (String × Json))

namespace Json

/-! ### Texts -/

def hexDigit (n : ℕ) : Char := ['0', '1', '2', '3', '4', '5', '6', '7', '8', '9', 'A', 'B', 'C',
  'D', 'E', 'F'].getD n '0'

def hexValue (c : Char) : Option ℕ :=
  if '0' ≤ c ∧ c ≤ '9' then some (c.toNat - 48)
  else if 'A' ≤ c ∧ c ≤ 'F' then some (c.toNat - 55)
  else if 'a' ≤ c ∧ c ≤ 'f' then some (c.toNat - 87)
  else none

def quote : Char := Char.ofNat 34

def backslash : Char := Char.ofNat 92

/-- The characters that have an escape of one letter, and the letter. -/
def escapes : List (Char × Char) :=
  [(quote, quote), (backslash, backslash), (Char.ofNat 8, 'b'), (Char.ofNat 12, 'f'),
    (Char.ofNat 10, 'n'), (Char.ofNat 13, 'r'), (Char.ofNat 9, 't')]

/-- The characters of a string literal for one character. -/
def escape (c : Char) : List Char :=
  match escapes.lookup c with
  | some e => [backslash, e]
  | none =>
      if c.toNat < 32 then
        [backslash, 'u', '0', '0', hexDigit (c.toNat / 16), hexDigit (c.toNat % 16)]
      else [c]

def printString (s : String) : List Char := quote :: s.toList.flatMap escape ++ [quote]

def printInt : ℤ → List Char
  | .ofNat n => Nat.toDigits 10 n
  | .negSucc n => '-' :: Nat.toDigits 10 (n + 1)

mutual

def print : Json → List Char
  | null => ['n', 'u', 'l', 'l']
  | bool true => ['t', 'r', 'u', 'e']
  | bool false => ['f', 'a', 'l', 's', 'e']
  | num n => printInt n
  | str s => printString s
  | arr [] => ['[', ']']
  | arr (item :: items) => '[' :: print item ++ printItems items
  | obj [] => ['{', '}']
  | obj ((name, value) :: fields) =>
      '{' :: printString name ++ ':' :: print value ++ printFields fields

/-- The items of an array after the first one, and its end. -/
def printItems : List Json → List Char
  | [] => [']']
  | item :: items => ',' :: print item ++ printItems items

/-- The fields of an object after the first one, and its end. -/
def printFields : List (String × Json) → List Char
  | [] => ['}']
  | (name, value) :: fields =>
      ',' :: printString name ++ ':' :: print value ++ printFields fields

end

/-! ### Parsing -/

def unescape (e : Char) : Option Char :=
  (('/', '/') :: escapes.map Prod.swap).lookup e

def parseHex4 (a b c d : Char) : Option Char := do
  let a ← hexValue a
  let b ← hexValue b
  let c ← hexValue c
  let d ← hexValue d
  return Char.ofNat (((a * 16 + b) * 16 + c) * 16 + d)

/-- The rest of a string literal, after its opening quote. -/
def parseString : List Char → Option (List Char × List Char)
  | [] => none
  | c :: text =>
      if c = quote then some ([], text)
      else if c = backslash then
        match text with
        | 'u' :: h₃ :: h₂ :: h₁ :: h₀ :: text => do
            let c ← parseHex4 h₃ h₂ h₁ h₀
            let (cs, text) ← parseString text
            return (c :: cs, text)
        | e :: text => do
            let c ← unescape e
            let (cs, text) ← parseString text
            return (c :: cs, text)
        | [] => none
      else do
        let (cs, text) ← parseString text
        return (c :: cs, text)

def parseNat (text : List Char) : Option (ℕ × List Char) :=
  match text.takeWhile Char.isDigit with
  | [] => none
  | digits => some (Nat.ofDigitChars 10 digits 0, text.dropWhile Char.isDigit)

def parseInt : List Char → Option (ℤ × List Char)
  | '-' :: text => (parseNat text).map fun (n, text) => (-(n : ℤ), text)
  | text => (parseNat text).map fun (n, text) => (n, text)

def parseName : List Char → Option (Json × List Char)
  | 'n' :: 'u' :: 'l' :: 'l' :: text => some (null, text)
  | 't' :: 'r' :: 'u' :: 'e' :: text => some (bool true, text)
  | 'f' :: 'a' :: 'l' :: 's' :: 'e' :: text => some (bool false, text)
  | _ => none

mutual

/-- A value at the start of a text, and what follows it. The fuel bounds the nesting. -/
def parseValue : ℕ → List Char → Option (Json × List Char)
  | 0, _ => none
  | _ + 1, [] => none
  | fuel + 1, c :: text =>
      if c = quote then (parseString text).map fun (s, text) => (str (String.ofList s), text)
      else if c = '[' then
        match text with
        | ']' :: text => some (arr [], text)
        | text => do
            let (item, text) ← parseValue fuel text
            let (items, text) ← parseItems fuel text
            return (arr (item :: items), text)
      else if c = '{' then
        match text with
        | '}' :: text => some (obj [], text)
        | text => do
            let (field, text) ← parseField fuel text
            let (fields, text) ← parseFields fuel text
            return (obj (field :: fields), text)
      else if c = 'n' ∨ c = 't' ∨ c = 'f' then parseName (c :: text)
      else (parseInt (c :: text)).map fun (n, text) => (num n, text)

def parseItems : ℕ → List Char → Option (List Json × List Char)
  | 0, _ => none
  | fuel + 1, text =>
      match text with
      | ']' :: text => some ([], text)
      | ',' :: text => do
          let (item, text) ← parseValue fuel text
          let (items, text) ← parseItems fuel text
          return (item :: items, text)
      | _ => none

def parseField : ℕ → List Char → Option ((String × Json) × List Char)
  | 0, _ => none
  | fuel + 1, text =>
      match text with
      | c :: text =>
          if c = quote then
            match parseString text with
            | some (name, ':' :: text) => do
                let (value, text) ← parseValue fuel text
                return ((String.ofList name, value), text)
            | _ => none
          else none
      | [] => none

def parseFields : ℕ → List Char → Option (List (String × Json) × List Char)
  | 0, _ => none
  | fuel + 1, text =>
      match text with
      | '}' :: text => some ([], text)
      | ',' :: text => do
          let (field, text) ← parseField fuel text
          let (fields, text) ← parseFields fuel text
          return (field :: fields, text)
      | _ => none

end

/-- The value whose text is the whole string. Every nested value is shorter than the text. -/
def parse (s : String) : Option Json :=
  match parseValue s.toList.length s.toList with
  | some (value, []) => some value
  | _ => none

/-! ### The round trip -/

theorem unescape_of_lookup {c e : Char} (h : escapes.lookup c = some e) :
    unescape e = some c ∧ e ≠ 'u' := by
  have hall : escapes.all (fun p => decide (unescape p.2 = some p.1 ∧ p.2 ≠ 'u')) = true := by
    decide
  obtain ⟨l₁, l₂, heq, _⟩ := List.lookup_eq_some_iff.mp h
  have hmem : (c, e) ∈ escapes := by rw [heq]; simp
  exact of_decide_eq_true (List.all_eq_true.mp hall (c, e) hmem)

theorem hexValue_hexDigit {n : ℕ} (h : n < 16) : hexValue (hexDigit n) = some n := by
  have hall : (List.range 16).all (fun n => decide (hexValue (hexDigit n) = some n)) = true := by
    decide
  exact of_decide_eq_true (List.all_eq_true.mp hall n (List.mem_range.mpr h))

theorem parseHex4_hexDigit {c : Char} (h : c.toNat < 32) :
    parseHex4 '0' '0' (hexDigit (c.toNat / 16)) (hexDigit (c.toNat % 16)) = some c := by
  have hzero : hexValue '0' = some 0 := by decide
  have hhigh := hexValue_hexDigit (show c.toNat / 16 < 16 by omega)
  have hlow := hexValue_hexDigit (show c.toNat % 16 < 16 by omega)
  have hsum : ((0 * 16 + 0) * 16 + c.toNat / 16) * 16 + c.toNat % 16 = c.toNat := by omega
  simp only [parseHex4, hzero, hhigh, hlow, Option.bind_eq_bind, Option.bind_some, hsum,
    Char.ofNat_toNat]
  rfl

/-- An escaped character is read back, whatever follows. -/
theorem parseString_escape (c : Char) (text : List Char) :
    parseString (escape c ++ text) =
      (parseString text).map fun (cs, text) => (c :: cs, text) := by
  have hbq : backslash ≠ quote := by decide
  rw [escape]
  cases he : escapes.lookup c with
  | some e =>
      obtain ⟨hue, hne⟩ := unescape_of_lookup he
      rw [List.cons_append, parseString.eq_def]
      simp only [if_neg hbq, if_true, List.cons_append, List.nil_append]
      split
      · next h => exact absurd (List.cons.inj h).1 hne
      · next h =>
        obtain ⟨rfl, rfl⟩ := List.cons.inj h
        rw [hue]
        cases parseString text <;> rfl
      · next h => cases h
  | none =>
      have hc : c ≠ quote ∧ c ≠ backslash := by
        constructor <;> rintro rfl <;> exact absurd he (by decide)
      simp only
      split
      · next hlt =>
        rw [List.cons_append, parseString.eq_def]
        simp only [if_neg hbq, if_true, List.cons_append, List.nil_append,
          parseHex4_hexDigit hlt]
        cases parseString text <;> rfl
      · rw [List.cons_append, parseString.eq_def]
        simp only [if_neg hc.1, if_neg hc.2, List.nil_append]
        cases parseString text <;> rfl

theorem parseString_flatMap_escape (cs text : List Char) :
    parseString (cs.flatMap escape ++ quote :: text) = some (cs, text) := by
  induction cs with
  | nil => rw [List.flatMap_nil, List.nil_append, parseString.eq_def]; simp
  | cons c cs ih =>
      rw [List.flatMap_cons, List.append_assoc, parseString_escape, ih]
      rfl

theorem parseNat_toDigits (n : ℕ) {text : List Char} (h : text.head?.all (!·.isDigit)) :
    parseNat (Nat.toDigits 10 n ++ text) = some (n, text) := by
  have hdigits : ∀ c ∈ Nat.toDigits 10 n, c.isDigit = true := fun c hc =>
    Nat.isDigit_of_mem_toDigits (by decide) (by decide) hc
  have htake : text.takeWhile Char.isDigit = [] ∧ text.dropWhile Char.isDigit = text := by
    cases text with
    | nil => exact ⟨rfl, rfl⟩
    | cons c text =>
        have hc : c.isDigit = false := by simpa using h
        constructor <;> simp [hc]
  rw [parseNat, List.takeWhile_append_of_pos hdigits, List.dropWhile_append_of_pos hdigits,
    htake.1, htake.2, List.append_nil]
  cases hd : Nat.toDigits 10 n with
  | nil => exact absurd hd Nat.toDigits_ne_nil
  | cons d ds => simp only [← hd, Nat.ofDigitChars_ten_toDigits]

/-- A text that can follow a number: it does not go on with a digit. -/
def Ends (text : List Char) : Prop := text.head?.all (!·.isDigit)

theorem parseInt_printInt (n : ℤ) {text : List Char} (h : Ends text) :
    parseInt (printInt n ++ text) = some (n, text) := by
  cases n with
  | ofNat n =>
      have hminus : ∀ ds, Nat.toDigits 10 n ++ text ≠ '-' :: ds := by
        intro ds hds
        cases hd : Nat.toDigits 10 n with
        | nil => exact Nat.toDigits_ne_nil hd
        | cons d ds' =>
            rw [hd] at hds
            obtain ⟨rfl, _⟩ := List.cons.inj hds
            have hdigit : '-'.isDigit = true :=
              Nat.isDigit_of_mem_toDigits (by decide) le_rfl (by rw [hd]; simp)
            exact absurd hdigit (by decide)
      rw [printInt, parseInt.eq_def]
      split
      · next heq => exact absurd heq (hminus _)
      · rw [parseNat_toDigits n h]
        rfl
  | negSucc n =>
      rw [printInt, List.cons_append, parseInt, parseNat_toDigits (n + 1) h]
      simp only [Option.map_some, Option.some.injEq, Prod.mk.injEq, and_true]
      omega

theorem ends_printItems (items : List Json) (text : List Char) :
    Ends (printItems items ++ text) := by
  cases items with
  | nil => rw [printItems]; exact rfl
  | cons item items => rw [printItems]; exact rfl

theorem ends_printFields (fields : List (String × Json)) (text : List Char) :
    Ends (printFields fields ++ text) := by
  cases fields with
  | nil => rw [printFields]; exact rfl
  | cons field fields => obtain ⟨name, value⟩ := field; rw [printFields]; exact rfl

/-- The first character of a printed number. -/
theorem head_printInt (n : ℤ) : ∃ c cs, printInt n = c :: cs ∧ (c = '-' ∨ c.isDigit) := by
  cases n with
  | ofNat n =>
      rw [printInt]
      cases hd : Nat.toDigits 10 n with
      | nil => exact absurd hd Nat.toDigits_ne_nil
      | cons d ds =>
          have hdigit : d.isDigit = true :=
            Nat.isDigit_of_mem_toDigits (by decide) le_rfl (by rw [hd]; simp)
          exact ⟨d, ds, rfl, .inr hdigit⟩
  | negSucc n => exact ⟨_, _, rfl, .inl rfl⟩

theorem print_ne_nil (value : Json) : print value ≠ [] := by
  cases value with
  | null => simp [print]
  | bool b => cases b <;> simp [print]
  | num n =>
      obtain ⟨c, cs, hn, _⟩ := head_printInt n
      simp [print, hn]
  | str s => simp [print, printString]
  | arr items => cases items <;> simp [print]
  | obj fields => rcases fields with _ | ⟨⟨name, value⟩, fields⟩ <;> simp [print]

/-- No value starts like the end of an array. -/
theorem print_append_ne (value : Json) (text rest : List Char) :
    print value ++ text ≠ ']' :: rest := by
  intro h
  have hhead := congrArg List.head? h
  revert hhead
  cases value with
  | null => simp [print]
  | bool b => cases b <;> simp [print]
  | num n =>
      obtain ⟨c, cs, hn, hc⟩ := head_printInt n
      rw [print, hn]
      simp only [List.cons_append, List.head?_cons, Option.some.injEq]
      rintro rfl
      rcases hc with hc | hc <;> exact absurd hc (by decide)
  | str s => simp only [print, printString, List.cons_append, List.head?_cons]; decide
  | arr items => cases items <;> simp [print]
  | obj fields => rcases fields with _ | ⟨⟨name, value⟩, fields⟩ <;> simp [print]

theorem parseField_name (name : String) (text : List Char) (fuel : ℕ) :
    parseField (fuel + 1) (printString name ++ ':' :: text) =
      (parseValue fuel text).map fun (value, text) => ((name, value), text) := by
  rw [parseField.eq_def, printString]
  simp only [List.cons_append, List.append_assoc, List.nil_append, if_true,
    parseString_flatMap_escape, String.ofList_toList]
  cases parseValue fuel text <;> rfl

mutual

/-- A value is read back from its text, up to a text that can follow a number. -/
theorem parseValue_print : ∀ (value : Json) {fuel : ℕ} {text : List Char},
    (print value).length ≤ fuel → Ends text →
      parseValue fuel (print value ++ text) = some (value, text)
  | value, 0, text, h, _ => by
      have hnil : print value = [] := List.length_eq_zero_iff.mp (Nat.le_zero.mp h)
      exact absurd hnil (print_ne_nil value)
  | null, fuel + 1, _, _, _ => rfl
  | bool true, fuel + 1, _, _, _ => rfl
  | bool false, fuel + 1, _, _, _ => rfl
  | num n, fuel + 1, text, _, ht => by
      obtain ⟨c, cs, hn, hc⟩ := head_printInt n
      have hint := parseInt_printInt n ht
      rw [print]
      rw [hn, List.cons_append] at hint ⊢
      have hne : ∀ d ∈ [quote, '[', '{', 'n', 't', 'f'], c ≠ d := by
        rintro d hd rfl
        have hall : [quote, '[', '{', 'n', 't', 'f'].all
            (fun c => !decide (c = '-' ∨ c.isDigit = true)) = true := by decide
        simpa [hc] using List.all_eq_true.mp hall c hd
      simp only [List.mem_cons, List.not_mem_nil, or_false, forall_eq_or_imp, forall_eq] at hne
      rw [parseValue.eq_def]
      simp only [hne, or_self, if_false, hint]
      rfl
  | str s, fuel + 1, text, _, _ => by
      rw [print, printString, parseValue.eq_def]
      simp only [List.cons_append, List.append_assoc, List.nil_append, if_true,
        parseString_flatMap_escape, Option.map_some, String.ofList_toList]
  | arr [], fuel + 1, _, _, _ => rfl
  | arr (item :: items), fuel + 1, text, h, ht => by
      simp only [print, List.length_cons, List.length_append] at h
      have hitem : parseValue fuel (print item ++ (printItems items ++ text)) = _ :=
        parseValue_print item (by omega) (ends_printItems items text)
      have hitems : parseItems fuel (printItems items ++ text) = _ :=
        parseItems_print items (by omega)
      rw [print, List.cons_append, List.cons_append, List.append_assoc, parseValue.eq_def]
      simp only [show '[' ≠ quote by decide, if_false, if_true]
      split
      · next heq => exact absurd heq (print_append_ne item _ _)
      · rw [hitem]
        simp only [Option.bind_eq_bind, Option.bind_some, hitems]
        rfl
  | obj [], fuel + 1, _, _, _ => rfl
  | obj ((name, value) :: fields), fuel + 1, text, h, ht => by
      simp only [print, List.length_cons, List.length_append] at h
      cases fuel with
      | zero => omega
      | succ fuel =>
          have hvalue : parseValue fuel (print value ++ (printFields fields ++ text)) = _ :=
            parseValue_print value (by omega) (ends_printFields fields text)
          have hfields : parseFields (fuel + 1) (printFields fields ++ text) = _ :=
            parseFields_print fields (by omega)
          rw [print, parseValue.eq_def]
          simp only [List.cons_append, List.append_assoc, show '{' ≠ quote by decide,
            show '{' ≠ '[' by decide, if_false, if_true]
          split
          · next heq => exact absurd (List.cons.inj heq).1 (by decide)
          · rw [parseField_name, hvalue]
            simp only [Option.bind_eq_bind, Option.bind_some, Option.map_some, hfields]
            rfl

theorem parseItems_print : ∀ (items : List Json) {fuel : ℕ} {text : List Char},
    (printItems items).length ≤ fuel →
      parseItems fuel (printItems items ++ text) = some (items, text)
  | items, 0, _, h => by cases items <;> simp [printItems] at h
  | [], fuel + 1, _, _ => rfl
  | item :: items, fuel + 1, text, h => by
      simp only [printItems, List.length_cons, List.length_append] at h
      have hitem : parseValue fuel (print item ++ (printItems items ++ text)) = _ :=
        parseValue_print item (by omega) (ends_printItems items text)
      have hitems : parseItems fuel (printItems items ++ text) = _ :=
        parseItems_print items (by omega)
      rw [printItems, List.cons_append, List.cons_append, List.append_assoc, parseItems, hitem]
      simp only [Option.bind_eq_bind, Option.bind_some, hitems]
      rfl

theorem parseFields_print : ∀ (fields : List (String × Json)) {fuel : ℕ} {text : List Char},
    (printFields fields).length ≤ fuel →
      parseFields fuel (printFields fields ++ text) = some (fields, text)
  | fields, 0, _, h => by rcases fields with _ | ⟨⟨name, value⟩, fields⟩ <;>
      simp [printFields] at h
  | [], fuel + 1, _, _ => rfl
  | (name, value) :: fields, fuel + 1, text, h => by
      simp only [printFields, List.length_cons, List.length_append] at h
      cases fuel with
      | zero => omega
      | succ fuel =>
          have hvalue : parseValue fuel (print value ++ (printFields fields ++ text)) = _ :=
            parseValue_print value (by omega) (ends_printFields fields text)
          have hfields : parseFields (fuel + 1) (printFields fields ++ text) = _ :=
            parseFields_print fields (by omega)
          rw [printFields, parseFields.eq_def]
          simp only [List.cons_append, List.append_assoc, parseField_name, hvalue,
            Option.bind_eq_bind, Option.bind_some, Option.map_some, hfields]
          rfl

end

/-- Every value is read back from its text. -/
theorem parse_print (value : Json) : parse (String.ofList (print value)) = some value := by
  have h : parseValue (print value).length (print value ++ []) = _ :=
    parseValue_print value le_rfl rfl
  rw [List.append_nil] at h
  simp only [parse, String.toList_ofList, h]

/-! ### Formats -/

/-- Writes a type as values and reads it back, as `Writes` and `Reads` do. -/
structure Format (α : Type) where
  writes : α → Json
  reads : Json → Option α
  reads_writes : ∀ a, reads (writes a) = some a

attribute [simp] Format.reads_writes

namespace Format

def string : Format String where
  writes := str
  reads
    | str s => some s
    | _ => none
  reads_writes _ := rfl

def int : Format ℤ where
  writes := num
  reads
    | num n => some n
    | _ => none
  reads_writes _ := rfl

def boolean : Format Bool where
  writes := bool
  reads
    | bool b => some b
    | _ => none
  reads_writes _ := rfl

def seq {α : Type} (format : Format α) : Format (List α) where
  writes as := arr (as.map format.writes)
  reads
    | arr items => items.mapM format.reads
    | _ => none
  reads_writes as := by
    simp only
    induction as with
    | nil => rfl
    | cons a as ih => simp [List.mapM_cons, format.reads_writes, ih]

end Format

/-! ### Fields of objects -/

variable {α : Type} (format : Format α) (name : String)

@[simp] def field (a : α) : List (String × Json) := [(name, format.writes a)]

/-- A field that is left out when there is no value. -/
@[simp] def optionalField (a : Option α) : List (String × Json) :=
  (a.map fun a => (name, format.writes a)).toList

@[simp] def get : Json → Option Json
  | obj fields => fields.lookup name
  | _ => none

@[simp] def readField (value : Json) : Option α := do
  format.reads (← value.get name)

/-- An absent field reads as no value, as `readNullable` does. -/
@[simp] def readOptionalField (value : Json) : Option (Option α) :=
  match value.get name with
  | none => some none
  | some null => some none
  | some value => (format.reads value).map some

end Json
