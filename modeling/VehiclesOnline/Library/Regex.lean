import VehiclesOnline.Library.Ascii
import VehiclesOnline.Library.Pattern

/-! # Regular expressions with anchors -/

/-- A regular expression. A repetition without an upper bound takes as many words as it can. -/
inductive Regex
  | empty
  | chars (accepts : Char → Bool)
  | start
  | stop
  | seq (first second : Regex)
  | alt (first second : Regex)
  | rep (body : Regex) (min : ℕ) (max : Option ℕ)

namespace Regex

/-- At the end of the text, or in front of the line terminator that ends it. -/
def AtEnd (before after : List Char) : Prop :=
  after = [] ∨ after ∈ [['\r'], ['\r', '\n'], ['\u0085'], ['\u2028'], ['\u2029']] ∨
    after = ['\n'] ∧ before.getLast? ≠ some '\r'

instance (before after : List Char) : Decidable (AtEnd before after) :=
  inferInstanceAs (Decidable (_ ∨ _ ∨ _))

/-- Some way to part a word in two. -/
def splits (word : List Char) (accepts : List Char → List Char → Bool) : Bool :=
  (List.range (word.length + 1)).any fun n => accepts (word.take n) (word.drop n)

/-- As many words, one behind the other. -/
def times (body : List Char → List Char → List Char → Bool) :
    ℕ → ℕ → List Char → List Char → List Char → Bool
  | min, 0, _, word, _ => min == 0 && word.isEmpty
  | min, max + 1, before, word, after =>
      min == 0 && word.isEmpty || splits word fun front rest =>
        body before front (rest ++ after) &&
          times body (min - 1) max (before ++ front) rest after

/-- Whether the expression matches a word that stands between two others. -/
def matchesWord : Regex → List Char → List Char → List Char → Bool
  | empty, _, word, _ => word.isEmpty
  | chars accepts, _, word, _ =>
      match word with
      | [c] => accepts c
      | _ => false
  | start, before, word, _ => before.isEmpty && word.isEmpty
  | stop, before, word, after => word.isEmpty && decide (AtEnd before after)
  | seq first second, before, word, after => splits word fun front rest =>
      first.matchesWord before front (rest ++ after) &&
        second.matchesWord (before ++ front) rest after
  | alt first second, before, word, after =>
      first.matchesWord before word after || second.matchesWord before word after
  | rep body min max, before, word, after =>
      times body.matchesWord min (max.getD (min + word.length)) before word after

/-- `Matcher.matches`: the expression matches the whole text. -/
def matchesAll (regex : Regex) (text : List Char) : Bool := regex.matchesWord [] text []

variable {first second : Regex} {accepts : Char → Bool} {before word after : List Char}

theorem splits_iff {accepts : List Char → List Char → Bool} :
    splits word accepts = true ↔
      ∃ front rest, word = front ++ rest ∧ accepts front rest = true := by
  simp only [splits, List.any_eq_true, List.mem_range]
  constructor
  · rintro ⟨n, -, h⟩
    exact ⟨word.take n, word.drop n, (List.take_append_drop n word).symm, h⟩
  · rintro ⟨front, rest, rfl, h⟩
    exact ⟨front.length, by rw [List.length_append]; omega, by simpa using h⟩

@[simp] theorem matchesWord_empty : empty.matchesWord before word after = true ↔ word = [] :=
  List.isEmpty_iff

theorem matchesWord_chars :
    (chars accepts).matchesWord before word after = true ↔ ∃ c, word = [c] ∧ accepts c = true := by
  rcases word with _ | ⟨c, _ | ⟨d, rest⟩⟩ <;> simp [matchesWord]

theorem matchesWord_seq :
    (seq first second).matchesWord before word after = true ↔
      ∃ front rest, word = front ++ rest ∧ first.matchesWord before front (rest ++ after) = true ∧
        second.matchesWord (before ++ front) rest after = true := by
  simp only [matchesWord, splits_iff, Bool.and_eq_true]

theorem matchesWord_alt :
    (alt first second).matchesWord before word after = true ↔
      first.matchesWord before word after = true ∨ second.matchesWord before word after = true :=
  Bool.or_eq_true_iff

/-- The anchor at the front of a text, -/
theorem matchesWord_start_seq :
    (seq start second).matchesWord [] word after = true ↔
      second.matchesWord [] word after = true := by
  rw [matchesWord_seq]
  constructor
  · rintro ⟨front, rest, rfl, hstart, hsecond⟩
    obtain rfl : front = [] := by simpa [matchesWord] using hstart
    exact hsecond
  · intro h
    exact ⟨[], word, rfl, rfl, h⟩

/-- and the anchor at its end. -/
theorem matchesWord_seq_stop :
    (seq first stop).matchesWord before word [] = true ↔
      first.matchesWord before word [] = true := by
  rw [matchesWord_seq]
  constructor
  · rintro ⟨front, rest, rfl, hfirst, hstop⟩
    obtain rfl : rest = [] := by
      simp only [matchesWord, Bool.and_eq_true, List.isEmpty_iff] at hstop
      exact hstop.1
    simpa using hfirst
  · intro h
    exact ⟨word, [], by simp, by simpa using h, by simp [matchesWord, AtEnd]⟩

/-! ## Repeated characters -/

theorem times_chars (min max : ℕ) :
    times (chars accepts).matchesWord min max before word after = true ↔
      min ≤ word.length ∧ word.length ≤ max ∧ ∀ c ∈ word, accepts c = true := by
  induction max generalizing min before word with
  | zero =>
      cases word with
      | nil => simp [times]
      | cons c cs => simp [times]
  | succ max ih =>
      simp only [times, Bool.or_eq_true, splits_iff, Bool.and_eq_true, matchesWord_chars, ih]
      cases word with
      | nil => simp
      | cons c cs =>
          constructor
          · rintro (⟨-, hempty⟩ | ⟨front, rest, hsplit, ⟨d, rfl, hd⟩, hmin, hmax, hall⟩)
            · cases hempty
            · obtain ⟨rfl, rfl⟩ := List.cons.inj hsplit
              simp only [List.length_cons]
              exact ⟨by omega, by omega, List.forall_mem_cons.mpr ⟨hd, hall⟩⟩
          · rintro ⟨hmin, hmax, hall⟩
            obtain ⟨hc, hcs⟩ := List.forall_mem_cons.mp hall
            simp only [List.length_cons] at hmin hmax
            exact .inr ⟨[c], cs, rfl, ⟨c, rfl, hc⟩, by omega, by omega, hcs⟩

/-- A bounded number of characters of a class. -/
theorem matchesWord_rep_chars (min max : ℕ) :
    (rep (chars accepts) min (some max)).matchesWord before word after = true ↔
      min ≤ word.length ∧ word.length ≤ max ∧ ∀ c ∈ word, accepts c = true :=
  times_chars min max

/-- Any number of characters of a class. -/
theorem matchesWord_star_chars :
    (rep (chars accepts) 0 none).matchesWord before word after = true ↔
      ∀ c ∈ word, accepts c = true := by
  rw [matchesWord, Option.getD_none, times_chars]
  simp

/-! ## Shapes -/

/-- The expression of a shape. -/
def shape : List Pattern.Piece → Regex
  | [] => empty
  | piece :: pieces => seq (rep (chars piece.accepts) piece.min (some piece.max)) (shape pieces)

/-- An expression of a shape matches the texts of the shape, wherever they stand. -/
@[simp] theorem matchesWord_shape {pieces : List Pattern.Piece} :
    (shape pieces).matchesWord before word after = Pattern.matchesAll pieces word := by
  rw [Bool.eq_iff_iff]
  induction pieces generalizing before word with
  | nil => rw [shape, matchesWord_empty, Pattern.matchesAll_nil]
  | cons piece pieces ih =>
      simp only [shape, matchesWord_seq, matchesWord_rep_chars, ih, Pattern.matchesAll_cons,
        and_assoc]

/-- A class that does not tell small from capital letters of ASCII. -/
def ignoreCase (accepts : Char → Bool) (c : Char) : Bool :=
  accepts c || accepts c.toUpper || accepts c.toLower

theorem ignoreCase_iff {c : Char} :
    ignoreCase accepts c = true ↔
      accepts c = true ∨ accepts c.toUpper = true ∨ accepts c.toLower = true := by
  rw [ignoreCase, Bool.or_eq_true, Bool.or_eq_true, or_assoc]

/-- A character that is no small letter belongs to a class of such characters already without
regard to the case. -/
theorem accepts_of_ignoreCase {c : Char} (hclass : ∀ d, accepts d = true → d.isLower = false)
    (hc : c.isLower = false) (h : ignoreCase accepts c = true) : accepts c = true := by
  have hsmall : ¬ (0x61 ≤ c.toNat ∧ c.toNat ≤ 0x7A) := by
    rw [← Ascii.isLower_iff, hc]
    exact Bool.false_ne_true
  rcases ignoreCase_iff.mp h with h | h | h
  · exact h
  · rwa [Ascii.toUpper_eq_self hsmall] at h
  · have hlower := hclass _ h
    rw [← Bool.not_eq_true, Ascii.isLower_iff, Ascii.toNat_toLower] at hlower
    have hcapital : ¬ (0x41 ≤ c.toNat ∧ c.toNat ≤ 0x5A) := by
      split at hlower <;> omega
    rwa [Ascii.toLower_eq_self hcapital] at h

end Regex
