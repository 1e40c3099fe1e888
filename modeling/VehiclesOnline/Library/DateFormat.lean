import VehiclesOnline.Library.Ascii
import VehiclesOnline.Library.CivilCalendar
import VehiclesOnline.Library.Text

/-! # Date formats

The fields of a local time, and the texts that patterns of letters write of them: a text tells what
its pattern shows, and nothing else. -/

namespace DateFormat

open CivilCalendar (Date dateOf dateOf_injective dateOf_mem gregorian)

/-! ### The fields of a local time -/

/-- Years are counted within their era, from 1 on. -/
structure Fields where
  year : ℕ
  month : ℕ
  dayOfMonth : ℕ
  hourOfDay : ℕ
  minute : ℕ
  second : ℕ
  millisecond : ℕ
  deriving DecidableEq

def millisPerDay : ℤ := 24 * 60 * 60 * 1000

def millisPerHalf : ℤ := 12 * 60 * 60 * 1000

/-- Milliseconds are counted from the start of 1970. -/
def localDate (millis : ℤ) : Date :=
  dateOf (gregorian.dayNumber ⟨1970, 1, 1⟩ + millis / millisPerDay)

/-- The year before the first one of the common era is the first one before it. -/
def IsCommonEra (date : Date) : Prop := 1 ≤ date.year

instance (date : Date) : Decidable (IsCommonEra date) := inferInstanceAs (Decidable (1 ≤ date.year))

def yearOfEra (date : Date) : ℤ := if IsCommonEra date then date.year else 1 - date.year

def Fields.ofMillis (millis : ℤ) : Fields :=
  let date := localDate millis
  let timeOfDay := (millis % millisPerDay).toNat
  { year := (yearOfEra date).toNat
    month := date.month.toNat
    dayOfMonth := date.day.toNat
    hourOfDay := timeOfDay / 3600000
    minute := timeOfDay / 60000 % 60
    second := timeOfDay / 1000 % 60
    millisecond := timeOfDay % 1000 }

/-! ### Letters -/

/-- The letters of dates and times of day. -/
inductive Letter
  | year
  | month
  | dayOfMonth
  /-- From 0 to 23. -/
  | hourOfDay
  /-- From 1 to 24. -/
  | hourOfDayFromOne
  /-- From 0 to 11, in either half of the day. -/
  | hour
  /-- From 1 to 12, in either half of the day. -/
  | hourFromOne
  | minute
  | second
  | millisecond
  deriving DecidableEq

namespace Letter

def ofChar : Char → Option Letter
  | 'y' => some year
  | 'M' => some month
  | 'd' => some dayOfMonth
  | 'H' => some hourOfDay
  | 'k' => some hourOfDayFromOne
  | 'K' => some hour
  | 'h' => some hourFromOne
  | 'm' => some minute
  | 's' => some second
  | 'S' => some millisecond
  | _ => none

def value (fields : Fields) : Letter → ℕ
  | year => fields.year
  | month => fields.month
  | dayOfMonth => fields.dayOfMonth
  | hourOfDay => fields.hourOfDay
  | hourOfDayFromOne => if fields.hourOfDay = 0 then 24 else fields.hourOfDay
  | hour => fields.hourOfDay % 12
  | hourFromOne => if fields.hourOfDay % 12 = 0 then 12 else fields.hourOfDay % 12
  | minute => fields.minute
  | second => fields.second
  | millisecond => fields.millisecond

end Letter

/-- The names of the months. -/
structure Symbols where
  months : ℕ → String
  shortMonths : ℕ → String

/-- A number with leading zeros. -/
def zeroPadding (width n : ℕ) : List Char :=
  List.replicate (width - (Nat.toDigits 10 n).length) '0' ++ Nat.toDigits 10 n

/-- Three letters or more write the name of a month, and two the end of a year. -/
def Letter.text (symbols : Symbols) (letter : Letter) (count n : ℕ) : List Char :=
  match letter with
  | .month =>
      if count < 3 then zeroPadding count n
      else if count = 3 then (symbols.shortMonths n).toList
      else (symbols.months n).toList
  | .year => if count = 2 then zeroPadding 2 (n % 100) else zeroPadding count n
  | _ => zeroPadding count n

/-! ### Patterns -/

/-- What stands in a pattern: a character for itself, or one letter as often as it is repeated. -/
inductive Item
  | literal (c : Char)
  | field (letter : Letter) (count : ℕ)
  deriving DecidableEq

/-- A letter joins the letters behind it that are the same. -/
def Item.join (letter : Letter) : List Item → List Item
  | .field letter' count :: items =>
      if letter' = letter then .field letter (count + 1) :: items
      else .field letter 1 :: .field letter' count :: items
  | items => .field letter 1 :: items

def quote : ℕ := 0x27

/-- The pattern of a text without quotes. -/
def compile : List Char → Option (List Item)
  | [] => some []
  | c :: cs =>
      if c.isAlpha then
        match Letter.ofChar c, compile cs with
        | some letter, some items => some (Item.join letter items)
        | _, _ => none
      else if c.toNat = quote then none
      else (compile cs).map (Item.literal c :: ·)

def Item.text (symbols : Symbols) (fields : Fields) : Item → List Char
  | literal c => [c]
  | field letter count => letter.text symbols count (letter.value fields)

/-- A pattern that was compiled. -/
structure SimpleDateFormat where
  pattern : String
  items : List Item
  compile_pattern : compile pattern.toList = some items

def format (symbols : Symbols) (items : List Item) (fields : Fields) : List Char :=
  items.flatMap fun item => item.text symbols fields

def SimpleDateFormat.format (dateFormat : SimpleDateFormat) (symbols : Symbols)
    (fields : Fields) : String :=
  String.ofList (DateFormat.format symbols dateFormat.items fields)

/-! ### Numbers -/

theorem ofDigitChars_zeroPadding (width n : ℕ) :
    Nat.ofDigitChars 10 (zeroPadding width n) 0 = n := by
  rw [zeroPadding, Nat.ofDigitChars_append, Nat.ofDigitChars_replicate_zero, Nat.mul_zero,
    Nat.ofDigitChars_ten_toDigits]

/-- A number is read from its digits, however many zeros stand before them. -/
theorem zeroPadding_inj {width n n' : ℕ} : zeroPadding width n = zeroPadding width n' ↔ n = n' := by
  constructor
  · intro h
    rw [← ofDigitChars_zeroPadding width n, h, ofDigitChars_zeroPadding]
  · exact congrArg _

theorem isDigit_of_mem_zeroPadding {width n : ℕ} {c : Char} (h : c ∈ zeroPadding width n) :
    c.isDigit = true := by
  rw [zeroPadding, List.mem_append] at h
  rcases h with hzero | hdigit
  · rw [List.eq_of_mem_replicate hzero]
    rfl
  · exact Ascii.isDigit_of_mem_toDigits hdigit

/-! ### What a text tells -/

section Separated

variable (symbols : Symbols)

/-- No text of the item has the character. -/
def Item.Avoids (c : Char) (item : Item) : Prop := ∀ fields, c ∉ item.text symbols fields

/-- The texts of fields end at characters which they do not have. -/
inductive Separated : List Item → Prop
  | nil : Separated []
  | last (item : Item) : Separated [item]
  | literal (c : Char) {items : List Item} : Separated items → Separated (.literal c :: items)
  | field {item : Item} {c : Char} {items : List Item} :
      item.Avoids symbols c → Separated items → Separated (item :: .literal c :: items)

variable {symbols} {items : List Item} {fields fields' : Fields}

theorem format_cons (item : Item) :
    format symbols (item :: items) fields =
      item.text symbols fields ++ format symbols items fields := List.flatMap_cons

theorem format_literal (c : Char) :
    format symbols (.literal c :: items) fields = c :: format symbols items fields := rfl

theorem forall_mem_literal {c : Char} :
    (∀ item ∈ .literal c :: items, item.text symbols fields = item.text symbols fields') ↔
      ∀ item ∈ items, item.text symbols fields = item.text symbols fields' := by
  rw [List.forall_mem_cons]
  exact and_iff_right rfl

/-- Two texts of a separated pattern are the same if they are so item by item. -/
theorem format_eq_iff (h : Separated symbols items) :
    format symbols items fields = format symbols items fields' ↔
      ∀ item ∈ items, item.text symbols fields = item.text symbols fields' := by
  induction h with
  | nil => exact iff_of_true rfl fun item hitem => absurd hitem List.not_mem_nil
  | last item =>
      rw [format_cons, format_cons, List.forall_mem_singleton]
      exact List.append_left_inj []
  | literal c hitems ih =>
      rw [format_literal, format_literal, List.cons_inj_right, ih, forall_mem_literal]
  | @field item c items havoids hitems ih =>
      rw [format_cons item, format_cons item, format_literal, format_literal,
        Text.append_cons_inj (havoids fields) (havoids fields'), ih, List.forall_mem_cons,
        forall_mem_literal]

variable {count : ℕ} {letter : Letter}

theorem text_literal (c : Char) : (Item.literal c).text symbols fields = [c] := rfl

theorem text_number (hmonth : letter ≠ .month) (hyear : letter ≠ .year) :
    Item.text symbols fields (.field letter count) = zeroPadding count (letter.value fields) := by
  cases letter with
  | month => exact absurd rfl hmonth
  | year => exact absurd rfl hyear
  | _ => rfl

theorem text_number_eq_iff (hmonth : letter ≠ .month) (hyear : letter ≠ .year) :
    Item.text symbols fields (.field letter count) =
      Item.text symbols fields' (.field letter count) ↔
      letter.value fields = letter.value fields' := by
  rw [text_number hmonth hyear, text_number hmonth hyear, zeroPadding_inj]

theorem text_year (hcount : count ≠ 2) :
    Item.text symbols fields (.field .year count) = zeroPadding count fields.year := if_neg hcount

theorem text_year_eq_iff (hcount : count ≠ 2) :
    Item.text symbols fields (.field .year count) =
      Item.text symbols fields' (.field .year count) ↔ fields.year = fields'.year := by
  rw [text_year hcount, text_year hcount, zeroPadding_inj]

theorem text_shortMonth :
    Item.text symbols fields (.field .month 3) = (symbols.shortMonths fields.month).toList := rfl

/-- Numbers end where there is no digit. -/
theorem avoids_of_zeroPadding {item : Item} {number : Fields → ℕ} {c : Char}
    (hc : c.isDigit = false)
    (htext : ∀ fields, item.text symbols fields = zeroPadding count (number fields)) :
    item.Avoids symbols c := by
  intro fields hmem
  rw [htext] at hmem
  rw [isDigit_of_mem_zeroPadding hmem] at hc
  cases hc

theorem avoids_number {c : Char} (hc : c.isDigit = false) (hmonth : letter ≠ .month)
    (hyear : letter ≠ .year) : (Item.field letter count).Avoids symbols c :=
  avoids_of_zeroPadding hc fun _ => text_number hmonth hyear

theorem avoids_year {c : Char} (hc : c.isDigit = false) (hcount : count ≠ 2) :
    (Item.field .year count).Avoids symbols c :=
  avoids_of_zeroPadding hc fun _ => text_year hcount

end Separated

/-! ### Fields that agree -/

section Agree

variable {millis millis' : ℤ}

theorem hourFromOne_eq_iff {fields fields' : Fields} :
    Letter.hourFromOne.value fields = Letter.hourFromOne.value fields' ↔
      fields.hourOfDay % 12 = fields'.hourOfDay % 12 := by
  simp only [Letter.value]
  split <;> split <;> omega

/-- The time in its half of the day is that of the hours, minutes and so on. -/
theorem mod_half (timeOfDay : ℕ) :
    timeOfDay % 43200000 = 3600000 * (timeOfDay / 3600000 % 12) +
      60000 * (timeOfDay / 60000 % 60) + 1000 * (timeOfDay / 1000 % 60) + timeOfDay % 1000 := by
  have hhours : timeOfDay % 43200000 = timeOfDay % 3600000 + 3600000 * (timeOfDay / 3600000 % 12) :=
    Nat.mod_mul (a := 3600000) (b := 12)
  have hminutes : timeOfDay % 3600000 = timeOfDay % 60000 + 60000 * (timeOfDay / 60000 % 60) :=
    Nat.mod_mul (a := 60000) (b := 60)
  have hseconds : timeOfDay % 60000 = timeOfDay % 1000 + 1000 * (timeOfDay / 1000 % 60) :=
    Nat.mod_mul (a := 1000) (b := 60)
  omega

/-- A clock of twelve hours shows the same twice a day. -/
theorem clock_eq_iff :
    (Letter.hourFromOne.value (.ofMillis millis) = Letter.hourFromOne.value (.ofMillis millis') ∧
      (Fields.ofMillis millis).minute = (Fields.ofMillis millis').minute ∧
      (Fields.ofMillis millis).second = (Fields.ofMillis millis').second ∧
      (Fields.ofMillis millis).millisecond = (Fields.ofMillis millis').millisecond) ↔
      millis % millisPerHalf = millis' % millisPerHalf := by
  have hhalf := mod_half (millis % millisPerDay).toNat
  have hhalf' := mod_half (millis' % millisPerDay).toNat
  have htime : millis % millisPerHalf = millis' % millisPerHalf ↔
      (millis % millisPerDay).toNat % 43200000 = (millis' % millisPerDay).toNat % 43200000 := by
    rw [millisPerHalf, millisPerDay]
    omega
  rw [hourFromOne_eq_iff, htime, hhalf, hhalf']
  simp only [Fields.ofMillis]
  omega

theorem localDate_mem (millis : ℤ) :
    (1 ≤ (localDate millis).month ∧ (localDate millis).month ≤ 12) ∧ 1 ≤ (localDate millis).day :=
  dateOf_mem _

theorem yearOfEra_pos (date : Date) : 1 ≤ yearOfEra date := by
  rw [yearOfEra]
  by_cases h : IsCommonEra date
  · rw [if_pos h]
    exact h
  · rw [if_neg h]
    have hyear : ¬ 1 ≤ date.year := h
    omega

/-- The day and the month, and the year as it is counted in its era. -/
def SameDateOfEra (date date' : Date) : Prop :=
  yearOfEra date = yearOfEra date' ∧ date.month = date'.month ∧ date.day = date'.day

instance (date date' : Date) : Decidable (SameDateOfEra date date') :=
  inferInstanceAs (Decidable (_ ∧ _))

theorem date_eq_iff :
    ((Fields.ofMillis millis).year = (Fields.ofMillis millis').year ∧
      (Fields.ofMillis millis).month = (Fields.ofMillis millis').month ∧
      (Fields.ofMillis millis).dayOfMonth = (Fields.ofMillis millis').dayOfMonth) ↔
      SameDateOfEra (localDate millis) (localDate millis') := by
  have hyear := yearOfEra_pos (localDate millis)
  have hyear' := yearOfEra_pos (localDate millis')
  obtain ⟨⟨hmonth, -⟩, hday⟩ := localDate_mem millis
  obtain ⟨⟨hmonth', -⟩, hday'⟩ := localDate_mem millis'
  simp only [Fields.ofMillis, SameDateOfEra]
  omega

theorem month_mem (millis : ℤ) :
    1 ≤ (Fields.ofMillis millis).month ∧ (Fields.ofMillis millis).month ≤ 12 := by
  obtain ⟨⟨hfirst, hlast⟩, -⟩ := localDate_mem millis
  simp only [Fields.ofMillis]
  omega

/-- In one era the date tells the day. -/
theorem day_eq_of_sameDateOfEra
    (hera : IsCommonEra (localDate millis) ↔ IsCommonEra (localDate millis'))
    (h : SameDateOfEra (localDate millis) (localDate millis')) :
    millis / millisPerDay = millis' / millisPerDay := by
  obtain ⟨hyear, hmonth, hday⟩ := h
  have hyears : (localDate millis).year = (localDate millis').year := by
    simp only [yearOfEra, hera] at hyear
    split at hyear <;> omega
  have hdates : localDate millis = localDate millis' := Date.ext hyears hmonth hday
  exact add_left_cancel (dateOf_injective hdates)

end Agree

end DateFormat
