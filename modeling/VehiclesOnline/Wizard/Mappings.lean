import Mathlib.Data.List.AList
import VehiclesOnline.Library.Ascii
import VehiclesOnline.Library.Text
import VehiclesOnline.Wizard.Forms

/-! Mappings of Play: how the values of a form are read from the data of a request, and the
constraints that they are checked against. -/

namespace VehiclesOnline

/-- The data of a submitted form, by key. -/
abbrev FormData := AList fun _ : String => String

/-- A value that was bound, or the errors of all its fields. -/
abbrev Bound (α : Type) := Except (List FormError) α

/-- What is wrong with a value, if it does not meet the constraint: the message and its
arguments. -/
abbrev Constraint (α : Type) := α → Option (String × List String)

def Constraint.check {α : Type} (holds : α → Bool) (message : String) (args : List String := []) :
    Constraint α :=
  fun a => if holds a then none else some (message, args)

namespace Bound

variable {α β : Type}

/-- `ObjectMapping.merge`. -/
def and : Bound (α → β) → Bound α → Bound β
  | .ok f, .ok a => .ok (f a)
  | .ok _, .error errors => .error errors
  | .error errors, .ok _ => .error errors
  | .error errors, .error errors' => .error (errors ++ errors')

theorem and_eq_ok_iff {f : Bound (α → β)} {a : Bound α} {b : β} :
    f.and a = .ok b ↔ ∃ g x, f = .ok g ∧ a = .ok x ∧ g x = b := by
  cases f with
  | error errors => cases a <;> simp [and]
  | ok g => cases a <;> simp [and]

end Bound

/-- A mapping, as far as binding goes. -/
structure Mapping (α : Type) where
  bindValue : String → FormData → Bound α
  constraints : List (Constraint α) := []

namespace Mapping

variable {α : Type}

/-- `Mapping.applyConstraints`. -/
def applyConstraints (mapping : Mapping α) (key : String) (a : α) : Bound α :=
  match mapping.constraints.filterMap (· a) with
  | [] => .ok a
  | errors => .error (errors.map fun e => { key := key, message := e.1, args := e.2 })

def bind (mapping : Mapping α) (key : String) (data : FormData) : Bound α := do
  mapping.applyConstraints key (← mapping.bindValue key data)

def verifying (mapping : Mapping α) (addConstraints : List (Constraint α)) : Mapping α :=
  { mapping with constraints := mapping.constraints ++ addConstraints }

/-- The key of a field inside the value under a key. -/
def fieldKey (key field : String) : String := if key = "" then field else key ++ "." ++ field

/-- A mapping as a field of an object. -/
def field (mapping : Mapping α) (name key : String) (data : FormData) : Bound α :=
  mapping.bind (fieldKey key name) data

/-- The value under the key, or a field of it, was filled in. -/
def Submitted (key : String) (data : FormData) : Prop :=
  ∃ entry ∈ data.entries, (entry.1 = key ∨ (key ++ ".").toList <+: entry.1.toList ∨
    (key ++ "[").toList <+: entry.1.toList) ∧ entry.2 ≠ ""

instance (key : String) (data : FormData) : Decidable (Submitted key data) :=
  inferInstanceAs (Decidable (∃ entry ∈ data.entries, _ ∧ _))

def optional (wrapped : Mapping α) : Mapping (Option α) where
  bindValue key data :=
    if Submitted key data then (wrapped.bind key data).map some else .ok none

/-- A constrained value is bound if the value is and meets all constraints. -/
theorem bind_eq_ok_iff {mapping : Mapping α} {key : String} {data : FormData} {a : α} :
    mapping.bind key data = .ok a ↔
      mapping.bindValue key data = .ok a ∧ ∀ constraint ∈ mapping.constraints,
        constraint a = none := by
  have happly : ∀ b, mapping.applyConstraints key b = .ok a ↔
      b = a ∧ ∀ constraint ∈ mapping.constraints, constraint a = none := by
    intro b
    rw [applyConstraints]
    cases herrors : mapping.constraints.filterMap (· b) with
    | nil =>
        rw [List.filterMap_eq_nil_iff] at herrors
        simp only [Except.ok.injEq]
        refine ⟨?_, And.left⟩
        rintro rfl
        exact ⟨rfl, herrors⟩
    | cons e es =>
        refine iff_of_false (fun h => by cases h) ?_
        rintro ⟨rfl, hall⟩
        rw [List.filterMap_eq_nil_iff.mpr hall] at herrors
        cases herrors
  rw [bind]
  cases mapping.bindValue key data with
  | error errors => exact iff_of_false (fun h => by cases h) fun h => by cases h.1
  | ok b => simp [Except.bind, Bind.bind, happly]

/-- Constraints that are added are checked behind those that were there. -/
theorem verifying_bind_eq_ok_iff {mapping : Mapping α} {constraints : List (Constraint α)}
    {key : String} {data : FormData} {a : α} :
    (mapping.verifying constraints).bind key data = .ok a ↔
      mapping.bind key data = .ok a ∧ ∀ constraint ∈ constraints, constraint a = none := by
  rw [bind_eq_ok_iff, bind_eq_ok_iff, verifying]
  simp only [List.mem_append, or_imp, forall_and, and_assoc]

theorem optional_bind_eq_ok_iff {mapping : Mapping α} {key : String} {data : FormData}
    {value : Option α} :
    mapping.optional.bind key data = .ok value ↔
      (Submitted key data ∧ ∃ a, value = some a ∧ mapping.bind key data = .ok a) ∨
        (¬ Submitted key data ∧ value = none) := by
  rw [bind_eq_ok_iff, optional]
  simp only [List.not_mem_nil, false_implies, implies_true, and_true]
  by_cases hsubmitted : Submitted key data
  · rw [if_pos hsubmitted]
    cases mapping.bind key data with
    | error errors => simp [Except.map, hsubmitted]
    | ok a => simp [Except.map, hsubmitted, eq_comm]
  · rw [if_neg hsubmitted]
    simp [hsubmitted, eq_comm]

end Mapping

/-! ### Data by key -/

theorem FormData.lookup_union {s t : FormData} {key : String} :
    (s ∪ t).lookup key = (s.lookup key).or (t.lookup key) := by
  cases hlookup : s.lookup key with
  | none => exact AList.lookup_union_right (AList.lookup_eq_none.mp hlookup)
  | some value =>
      rw [AList.lookup_union_left (AList.lookup_isSome.mp (by rw [hlookup]; rfl)), hlookup]
      rfl

/-- The data of one field. -/
def FormData.singleton (key value : String) : FormData := AList.singleton key value

theorem FormData.lookup_singleton {key key' value : String} :
    (FormData.singleton key value).lookup key' = if key' = key then some value else none := by
  split
  · next h =>
    subst h
    exact AList.lookup_insert ∅
  · next h =>
    refine AList.lookup_eq_none.mpr ?_
    rwa [FormData.singleton, AList.mem_keys, AList.keys_singleton, List.mem_singleton]

/-- Where nothing stands below a key, its own value decides. -/
theorem Mapping.submitted_iff {key : String} {data : FormData}
    (h : ∀ key' value, data.lookup key' = some value →
      ¬ ((key ++ ".").toList <+: key'.toList ∨ (key ++ "[").toList <+: key'.toList)) :
    Submitted key data ↔ ∃ value, data.lookup key = some value ∧ value ≠ "" := by
  constructor
  · rintro ⟨entry, hentry, hkey, hne⟩
    have hlookup : data.lookup entry.1 = some entry.2 := AList.mem_lookup_iff.mpr hentry
    rcases hkey with rfl | hbelow
    · exact ⟨entry.2, hlookup, hne⟩
    · exact absurd hbelow (h _ _ hlookup)
  · rintro ⟨value, hlookup, hne⟩
    exact ⟨⟨key, value⟩, AList.mem_lookup_iff.mp hlookup, .inl rfl, hne⟩

theorem Constraint.check_eq_none_iff {α : Type} {holds : α → Bool} {message : String}
    {args : List String} {a : α} :
    Constraint.check holds message args a = none ↔ holds a = true := by
  rw [check]
  split <;> simp_all

/-! ### Texts -/

/-- `text`. -/
def text : Mapping String where
  bindValue key data :=
    match data.lookup key with
    | some value => .ok value
    | none => .error [{ key := key, message := "error.required" }]

/-- The number of UTF-16 code units, which is the length of a string of the JVM. -/
def utf16Length (s : String) : ℕ := (s.toList.map fun c => if c.toNat < 2 ^ 16 then 1 else 2).sum

/-- A text of ASCII characters is as long in UTF-16 code units as it is in characters. -/
theorem utf16Length_of_ascii {s : String} (h : ∀ c ∈ s.toList, c.toNat < 2 ^ 7) :
    utf16Length s = s.toList.length := by
  rw [utf16Length]
  generalize s.toList = cs at h
  induction cs with
  | nil => rfl
  | cons c cs ih =>
      have hc := h c List.mem_cons_self
      rw [List.map_cons, List.sum_cons, ih fun d hd => h d (List.mem_cons_of_mem c hd),
        if_pos (by omega), List.length_cons, Nat.add_comm]

namespace Constraints

def nonEmpty : Constraint String := .check (fun s => s.toList.any (' ' < ·)) "error.required"

def minLength (length : ℕ) : Constraint String :=
  .check (fun s => decide (length ≤ utf16Length s)) "error.minLength" [toString length]

def maxLength (length : ℕ) : Constraint String :=
  .check (fun s => decide (utf16Length s ≤ length)) "error.maxLength" [toString length]

def min (minValue : ℤ) : Constraint ℤ :=
  .check (fun o => decide (minValue ≤ o)) "error.min" [toString minValue]

def max (maxValue : ℤ) : Constraint ℤ :=
  .check (fun o => decide (o ≤ maxValue)) "error.max" [toString maxValue]

theorem max_eq_none_iff {maxValue o : ℤ} : max maxValue o = none ↔ o ≤ maxValue := by
  rw [max, Constraint.check_eq_none_iff, decide_eq_true_eq]

end Constraints

def nonEmptyText : Mapping String := text.verifying [Constraints.nonEmpty]

/-- `nonEmptyText` with bounds on the length. -/
def nonEmptyTextBetween (minLength maxLength : ℕ) : Mapping String :=
  (text.verifying [Constraints.minLength minLength, Constraints.maxLength maxLength]).verifying
    [Constraints.nonEmpty]

/-! ### Numbers -/

/-- The code points of the digits zero of the basic multilingual plane. -/
def digitZeros : List ℕ :=
  [0x30, 0x660, 0x6F0, 0x7C0, 0x966, 0x9E6, 0xA66, 0xAE6, 0xB66, 0xBE6, 0xC66, 0xCE6, 0xD66, 0xE50,
    0xED0, 0xF20, 0x1040, 0x1090, 0x17E0, 0x1810, 0x1946, 0x19D0, 0x1A80, 0x1A90, 0x1B50, 0x1BB0,
    0x1C40, 0x1C50, 0xA620, 0xA8D0, 0xA900, 0xA9D0, 0xAA50, 0xABF0, 0xFF10]

/-- `Character.digit` in base ten. -/
def digit (c : Char) : Option ℕ :=
  (digitZeros.find? fun d => decide (d ≤ c.toNat ∧ c.toNat < d + 10)).map (c.toNat - ·)

def digits : List Char → Option ℕ
  | [] => none
  | cs => cs.foldlM (fun n c => (digit c).map (10 * n + ·)) 0

/-- `String.toInt`. -/
def toInt (s : String) : Option ℤ := do
  let n : ℤ ←
    match s.toList with
    | '-' :: cs => (digits cs).map (-·)
    | '+' :: cs => (digits cs).map (·)
    | cs => (digits cs).map (·)
  if -2 ^ 31 ≤ n ∧ n < 2 ^ 31 then some n else none

/-- The digits of ASCII are those of the first script. -/
theorem digit_of_isDigit {c : Char} (h : c.isDigit = true) : digit c = some (c.toNat - 0x30) := by
  rw [Ascii.isDigit_iff] at h
  rw [digit, digitZeros, List.find?_cons_of_pos (by simp; omega), Option.map_some]

theorem digits_eq_some {cs : List Char} (hne : cs ≠ []) (hall : ∀ c ∈ cs, c.isDigit = true) :
    digits cs = some (Nat.ofDigitChars 10 cs 0) := by
  have hfold : ∀ (cs : List Char) (n : ℕ), (∀ c ∈ cs, c.isDigit = true) →
      cs.foldlM (fun n c => (digit c).map (10 * n + ·)) n = some (Nat.ofDigitChars 10 cs n) := by
    intro cs
    induction cs with
    | nil => intro n _; rfl
    | cons c cs ih =>
        intro n hcs
        obtain ⟨hc, hrest⟩ := List.forall_mem_cons.mp hcs
        rw [List.foldlM_cons, digit_of_isDigit hc, Option.map_some, Nat.ofDigitChars_cons]
        exact ih _ hrest
  cases cs with
  | nil => exact absurd rfl hne
  | cons c cs => exact hfold _ 0 hall

theorem bind_map_some (sign : ℤ → ℤ) (next : ℤ → Option ℤ) (m : ℕ) :
    (do
      let n ← Option.map sign (do
        let a ← some m
        pure (a : ℤ))
      next n) = next (sign m) := rfl

/-- What is written of an `Int` is read again. -/
theorem toInt_toString {n : ℤ} (h : -2 ^ 31 ≤ n ∧ n < 2 ^ 31) : toInt (toString n) = some n := by
  have hdigits : ∀ m : ℕ, digits (Nat.toDigits 10 m) = some m := by
    intro m
    obtain ⟨hne, hall⟩ := Ascii.digits_toDigits m
    rw [digits_eq_some hne (List.all_eq_true.mp hall), Nat.ofDigitChars_ten_toDigits]
  cases n with
  | ofNat n =>
      have htext : (toString (Int.ofNat n)).toList = Nat.toDigits 10 n := Nat.toList_repr
      simp only [toInt, htext]
      rw [Int.ofNat_eq_natCast] at h ⊢
      split
      · next heq => exact absurd heq (Ascii.toDigits_ne_cons rfl _)
      · next heq => exact absurd heq (Ascii.toDigits_ne_cons rfl _)
      · rw [hdigits, bind_map_some, if_pos h]
  | negSucc n =>
      have htext : (toString (Int.negSucc n)).toList = '-' :: Nat.toDigits 10 (n + 1) := by
        simp [Int.repr, Nat.toList_repr]
      simp only [toInt, htext]
      rw [Int.negSucc_eq, ← Nat.cast_add_one] at h ⊢
      rw [hdigits, bind_map_some, if_pos h]

theorem bounds_of_toInt {s : String} {n : ℤ} (h : toInt s = some n) : -2 ^ 31 ≤ n ∧ n < 2 ^ 31 := by
  have hbounded : ∀ {m : ℤ}, (if -2 ^ 31 ≤ m ∧ m < 2 ^ 31 then some m else none) = some n →
      -2 ^ 31 ≤ n ∧ n < 2 ^ 31 := by
    intro m hm
    split at hm
    · next hbounds =>
      obtain rfl := Option.some.inj hm
      exact hbounds
    · cases hm
  simp only [toInt, Option.bind_eq_bind] at h
  split at h
  all_goals
    obtain ⟨m, -, hm⟩ := Option.bind_eq_some_iff.mp h
    exact hbounded hm

/-- `number`, without bounds. -/
def number : Mapping ℤ where
  bindValue key data := do
    match toInt (← text.bind key data) with
    | some n => return n
    | none => throw [{ key := key, message := "error.number" }]

theorem text_bindValue_eq_ok_iff {key : String} {data : FormData} {s : String} :
    text.bindValue key data = .ok s ↔ data.lookup key = some s := by
  simp only [text]
  cases hlookup : data.lookup key with
  | none => exact iff_of_false (fun h => by cases h) fun h => by cases h
  | some value => simp

/-- A text with bounds on its length, and the constraints added to it. -/
theorem nonEmptyTextBetween_bind_eq_ok_iff {minLength maxLength : ℕ}
    {constraints : List (Constraint String)} {key : String} {data : FormData} {s : String} :
    ((nonEmptyTextBetween minLength maxLength).verifying constraints).bind key data = .ok s ↔
      data.lookup key = some s ∧ minLength ≤ utf16Length s ∧ utf16Length s ≤ maxLength ∧
        (s.toList.any (' ' < ·)) = true ∧ ∀ constraint ∈ constraints, constraint s = none := by
  rw [Mapping.bind_eq_ok_iff, ← text_bindValue_eq_ok_iff]
  simp only [nonEmptyTextBetween, Mapping.verifying, text, List.nil_append, List.cons_append,
    List.forall_mem_cons, Constraints.minLength, Constraints.maxLength, Constraints.nonEmpty,
    Constraint.check_eq_none_iff, decide_eq_true_eq]

theorem number_bindValue_eq_ok_iff {key : String} {data : FormData} {n : ℤ} :
    number.bindValue key data = .ok n ↔ ∃ s, data.lookup key = some s ∧ toInt s = some n := by
  have htext : text.bind key data = text.bindValue key data := by
    rw [Mapping.bind]
    cases text.bindValue key data <;> rfl
  simp only [number, htext]
  cases hlookup : data.lookup key with
  | none =>
      simp only [text, hlookup]
      exact iff_of_false (fun h => by cases h) fun ⟨_, h, _⟩ => by cases h
  | some s =>
      simp only [text, hlookup, bind, Except.bind]
      cases hn : toInt s with
      | none =>
          refine iff_of_false (fun h => by cases h) ?_
          rintro ⟨_, ⟨⟩, hs⟩
          rw [hn] at hs
          cases hs
      | some m => simp [hn, Pure.pure, Except.pure]

/-! ### Forms -/

/-- `Form.bind`. -/
def Mapping.bindForm {Model : Type} (mapping : Mapping Model) (data : FormData) : Form Model :=
  match mapping.bind "" data with
  | .ok model => { value := some model }
  | .error errors => { errors := errors }

/-- A form is valid exactly with the value that was bound. -/
theorem Mapping.valid_bindForm {Model : Type} {mapping : Mapping Model} {data : FormData}
    {model : Model} :
    (mapping.bindForm data).valid = some model ↔ mapping.bind "" data = .ok model := by
  rw [bindForm]
  cases mapping.bind "" data with
  | ok m => simp [Form.valid]
  | error errors =>
      simp only [Form.valid]
      split <;> simp

end VehiclesOnline
