import VehiclesOnline.Library.Regex
import VehiclesOnline.Wizard.Controllers
import VehiclesOnline.Wizard.Submissions

/-! # Registration numbers -/

namespace VehiclesOnline

namespace RegistrationNumber

/-! ## The expression -/

/-- The expression of the constraint. Its anchors belong to the first branch and to the last. -/
def pattern : Regex :=
  .alt (.seq .start (.shape [letters 3 3, digits 1 4]))
    (.alt (.shape [letters 1 1, digits 1 3, letters 3 3])
      (.alt (.shape [letters 3 3, digits 1 3, letters 1 1])
        (.alt (.shape [letters 2 2, digits 2 2, letters 3 3])
          (.alt (.shape [letters 1 3, digits 1 3])
            (.alt (.shape [digits 1 4, letters 1 3])
              (.seq (.shape [letters 1 2, digits 1 4]) .stop))))))

variable {input : String}

/-- Where a whole text is matched, the anchors change nothing. -/
theorem pattern_matchesAll_iff : pattern.matchesAll input.toList = true ↔ Matches input := by
  simp only [Regex.matchesAll, pattern, Regex.matchesWord_alt, Regex.matchesWord_start_seq,
    Regex.matchesWord_seq_stop, Regex.matchesWord_shape, Matches, whitelist, List.mem_cons,
    List.not_mem_nil, or_false, exists_eq_or_imp, exists_eq_left]

/-! ## The shapes -/

/-- The shapes of the registration numbers, of letters and digits. -/
def shapes : List (List Pattern.Piece) :=
  [[letters 1 3, digits 1 4], [digits 1 4, letters 1 3], [letters 3 3, digits 1 3, letters 1 1],
    [letters 1 1, digits 1 3, letters 3 3], [letters 2 2, digits 2 2, letters 3 3]]

def HasShape (input : String) : Prop :=
  ∃ shape ∈ shapes, Pattern.matchesAll shape input.toList = true

/-- A text of two pieces. -/
theorem matchesAll_two_pieces_iff {first second : Char → Bool} {a b c d : ℕ} {cs : List Char} :
    Pattern.matchesAll [⟨first, a, b⟩, ⟨second, c, d⟩] cs = true ↔
      ∃ front rest, cs = front ++ rest ∧ (a ≤ front.length ∧ front.length ≤ b ∧
          ∀ e ∈ front, first e = true) ∧
        c ≤ rest.length ∧ rest.length ≤ d ∧ ∀ e ∈ rest, second e = true := by
  simp only [Pattern.matchesAll_cons, Pattern.matchesAll_nil]
  constructor
  · rintro ⟨front, _, rfl, hmin, hmax, hall, rest, _, rfl, hmin', hmax', hall', rfl⟩
    exact ⟨front, rest, by rw [List.append_nil], ⟨hmin, hmax, hall⟩, hmin', hmax', hall'⟩
  · rintro ⟨front, rest, rfl, ⟨hmin, hmax, hall⟩, hmin', hmax', hall'⟩
    exact ⟨front, rest, rfl, hmin, hmax, hall, rest, [], by rw [List.append_nil], hmin', hmax',
      hall', rfl⟩

/-- Letters with digits behind them are matched by three of the branches. -/
theorem letters_digits_iff {cs : List Char} :
    Pattern.matchesAll [letters 1 3, digits 1 4] cs = true ↔
      Pattern.matchesAll [letters 3 3, digits 1 4] cs = true ∨
        Pattern.matchesAll [letters 1 3, digits 1 3] cs = true ∨
        Pattern.matchesAll [letters 1 2, digits 1 4] cs = true := by
  simp only [letters, digits, matchesAll_two_pieces_iff]
  constructor
  · rintro ⟨front, rest, rfl, ⟨hmin, hmax, hall⟩, hrest⟩
    by_cases hthree : front.length = 3
    · exact .inl ⟨front, rest, rfl, ⟨by omega, by omega, hall⟩, hrest⟩
    · exact .inr (.inr ⟨front, rest, rfl, ⟨hmin, by omega, hall⟩, hrest⟩)
  · rintro (⟨front, rest, rfl, ⟨hmin, hmax, hall⟩, hmin', hmax', hall'⟩ |
      ⟨front, rest, rfl, ⟨hmin, hmax, hall⟩, hmin', hmax', hall'⟩ |
      ⟨front, rest, rfl, ⟨hmin, hmax, hall⟩, hmin', hmax', hall'⟩)
    all_goals exact ⟨front, rest, rfl, ⟨by omega, by omega, hall⟩, hmin', by omega, hall'⟩

/-- The branches overlap, and make up the shapes. -/
theorem matches_iff_hasShape : Matches input ↔ HasShape input := by
  simp only [Matches, HasShape, whitelist, shapes, List.mem_cons, List.not_mem_nil, or_false,
    exists_eq_or_imp, exists_eq_left, letters_digits_iff]
  constructor
  · rintro (h | h | h | h | h | h | h)
    · exact .inl (.inl h)
    · exact .inr (.inr (.inr (.inl h)))
    · exact .inr (.inr (.inl h))
    · exact .inr (.inr (.inr (.inr h)))
    · exact .inl (.inr (.inl h))
    · exact .inr (.inl h)
    · exact .inl (.inr (.inr h))
  · rintro ((h | h | h) | h | h | h | h)
    · exact .inl h
    · exact .inr (.inr (.inr (.inr (.inl h))))
    · exact .inr (.inr (.inr (.inr (.inr (.inr h)))))
    · exact .inr (.inr (.inr (.inr (.inr (.inl h)))))
    · exact .inr (.inr (.inl h))
    · exact .inr (.inl h)
    · exact .inr (.inr (.inr (.inl h)))

theorem validRegistrationNumber_eq_none_iff :
    validRegistrationNumber input = none ↔ HasShape (Text.without ' ' input) := by
  rw [validRegistrationNumber, Constraint.check_eq_none_iff, decide_eq_true_iff,
    matches_iff_hasShape]

theorem length_of_matches (h : Matches input) :
    2 ≤ input.toList.length ∧ input.toList.length ≤ 7 := by
  have hbounds : ∀ shape ∈ whitelist, 2 ≤ (shape.map Pattern.Piece.min).sum ∧
      (shape.map Pattern.Piece.max).sum ≤ 7 := by
    decide
  obtain ⟨shape, hshape, hmatches⟩ := h
  obtain ⟨hmin, hmax⟩ := Pattern.length_of_matchesAll hmatches
  exact ⟨(hbounds shape hshape).1.trans hmin, hmax.trans (hbounds shape hshape).2⟩

end RegistrationNumber

namespace VehicleLookup

open RegistrationNumber (Matches HasShape validRegistrationNumber)

/-! ## The canonical form -/

variable {data : FormData} {model : VehicleLookupFormModel}

/-- The data of a form, with another registration number. -/
def withRegistrationNumber (registrationNumber : String) (data : FormData) : FormData :=
  FormData.singleton VehicleRegistrationNumberId registrationNumber ∪ data

theorem lookup_withRegistrationNumber (registrationNumber key : String) :
    (withRegistrationNumber registrationNumber data).lookup key =
      if key = VehicleRegistrationNumberId then some registrationNumber else data.lookup key := by
  rw [withRegistrationNumber, FormData.lookup_union, FormData.lookup_singleton]
  split <;> rfl

theorem valid_bindForm_iff :
    (form.bindForm data).valid = some model ↔
      DocumentReferenceNumber.referenceNumber.field DocumentReferenceNumberId "" data =
          .ok model.referenceNumber ∧
        VehicleRegistrationNumber.registrationNumber.field VehicleRegistrationNumberId "" data =
          .ok model.registrationNumber := by
  refine ⟨valid_bindForm, ?_⟩
  rintro ⟨hreference, hregistration⟩
  rw [Mapping.valid_bindForm, Mapping.bind_eq_ok_iff]
  simp only [form, Bound.and_eq_ok_iff, Except.ok.injEq, List.not_mem_nil, false_implies,
    implies_true, and_true]
  exact ⟨_, _, ⟨_, _, rfl, hreference, rfl⟩, hregistration, rfl⟩

/-- A model as it is stored and sent. -/
structure Canonical (model : VehicleLookupFormModel) : Prop where
  length : 2 ≤ model.registrationNumber.toList.length ∧
    model.registrationNumber.toList.length ≤ 7
  capitals : ∀ c ∈ model.registrationNumber.toList, c.isUpper = true ∨ c.isDigit = true
  fixed : convertToUpperCaseAndRemoveSpaces model = model

theorem matches_of_valid (h : (form.bindForm data).valid = some model) :
    Matches (Text.without ' ' model.registrationNumber) :=
  registrationNumber_of_bind (valid_bindForm h).2

theorem registrationNumber_of_valid (h : (form.bindForm data).valid = some model) :
    (convertToUpperCaseAndRemoveSpaces model).registrationNumber =
      (Text.without ' ' model.registrationNumber).toUpper :=
  RegistrationNumber.toUpperCase_of_matches (matches_of_valid h)

theorem canonical_of_valid (h : (form.bindForm data).valid = some model) :
    Canonical (convertToUpperCaseAndRemoveSpaces model) := by
  have hmatches := matches_of_valid h
  have hregistration := registrationNumber_of_valid h
  constructor
  · rw [hregistration]
    exact RegistrationNumber.length_of_matches hmatches.toUpper
  · rw [hregistration]
    exact RegistrationNumber.isUpper_or_isDigit_of_matches hmatches
  · have hsame : Unicode.toUpperCase (Text.without ' '
        (convertToUpperCaseAndRemoveSpaces model).registrationNumber) =
          (convertToUpperCaseAndRemoveSpaces model).registrationNumber := by
      rw [hregistration, RegistrationNumber.without_toUpper hmatches,
        Unicode.toUpperCase_toUpper, RegistrationNumber.toUpperCase_of_matches hmatches]
    rw [convertToUpperCaseAndRemoveSpaces, hsame]

theorem registrationNumber_bind_of_canonical {key : String} (hcanonical : Canonical model)
    (hmatches : Matches model.registrationNumber)
    (hlookup : data.lookup key = some model.registrationNumber) :
    VehicleRegistrationNumber.registrationNumber.bind key data = .ok model.registrationNumber := by
  have hascii : ∀ c ∈ model.registrationNumber.toList, 0x20 < c.toNat ∧ c.toNat < 2 ^ 7 := by
    intro c hc
    have := hcanonical.capitals c hc
    rw [Ascii.isUpper_iff, Ascii.isDigit_iff] at this
    omega
  have hwithout : Text.without ' ' model.registrationNumber = model.registrationNumber := by
    rw [Text.without, List.filter_eq_self.mpr, String.ofList_toList]
    intro c hc
    rw [bne_iff_ne]
    rintro rfl
    exact absurd (hascii ' ' hc).1 (by decide)
  obtain ⟨hmin, hmax⟩ := hcanonical.length
  rw [VehicleRegistrationNumber.registrationNumber, nonEmptyTextBetween_bind_eq_ok_iff,
    utf16Length_of_ascii fun c hc => (hascii c hc).2]
  refine ⟨hlookup, hmin, hmax.trans (Nat.le_succ 7), ?_, ?_⟩
  · obtain ⟨c, cs, hchars⟩ := List.exists_cons_of_length_pos (Nat.lt_of_lt_of_le two_pos hmin)
    rw [hchars, List.any_cons, Bool.or_eq_true]
    exact .inl (decide_eq_true (UInt32.lt_iff_toNat_lt.mpr (hascii c (by simp [hchars])).1))
  · intro constraint hconstraint
    rw [List.mem_singleton.mp hconstraint, validRegistrationNumber,
      Constraint.check_eq_none_iff, decide_eq_true_iff, hwithout]
    exact hmatches

theorem referenceNumber_canonical :
    (convertToUpperCaseAndRemoveSpaces model).referenceNumber = model.referenceNumber := by
  simp only [convertToUpperCaseAndRemoveSpaces]

/-- The form accepts the canonical form of what it accepts. -/
theorem valid_canonical (h : (form.bindForm data).valid = some model) :
    (form.bindForm (withRegistrationNumber
        (convertToUpperCaseAndRemoveSpaces model).registrationNumber data)).valid =
      some (convertToUpperCaseAndRemoveSpaces model) := by
  have hother : DocumentReferenceNumberId ≠ VehicleRegistrationNumberId := by decide
  have hkey : ∀ field, Mapping.fieldKey "" field = field := fun field => if_pos rfl
  have hmatches : Matches (convertToUpperCaseAndRemoveSpaces model).registrationNumber := by
    rw [registrationNumber_of_valid h]
    exact (matches_of_valid h).toUpper
  have hcanonical := canonical_of_valid h
  generalize hregistration :
    (convertToUpperCaseAndRemoveSpaces model).registrationNumber = registrationNumber
  obtain ⟨hreference, -⟩ := valid_bindForm h
  rw [Mapping.field, hkey] at hreference
  refine valid_bindForm_iff.mpr ?_
  rw [Mapping.field, Mapping.field, hkey, hkey]
  constructor
  · rw [DocumentReferenceNumber.referenceNumber,
      nonEmptyTextBetween_bind_eq_ok_iff] at hreference ⊢
    rw [lookup_withRegistrationNumber, if_neg hother, referenceNumber_canonical]
    exact hreference
  · refine registrationNumber_bind_of_canonical hcanonical hmatches ?_
    rw [lookup_withRegistrationNumber, if_pos rfl, hregistration]

/-- Two numbers that differ in spaces and in the case of letters. -/
def SameNumber (s s' : String) : Prop :=
  (Text.without ' ' s).toUpper = (Text.without ' ' s').toUpper

instance (s s' : String) : Decidable (SameNumber s s') := inferInstanceAs (Decidable (_ = _))

/-- The constraint accepts the shapes; what the form accepts has a canonical form that it accepts
as well, and that numbers written in different ways have in common. -/
theorem registrationNumbers_canonical :
    (∀ s, validRegistrationNumber s = none ↔ HasShape (Text.without ' ' s)) ∧
      (∀ data model, (form.bindForm data).valid = some model →
        Canonical (convertToUpperCaseAndRemoveSpaces model) ∧
          (form.bindForm (withRegistrationNumber
            (convertToUpperCaseAndRemoveSpaces model).registrationNumber data)).valid =
              some (convertToUpperCaseAndRemoveSpaces model)) ∧
      ∀ data data' model model', (form.bindForm data).valid = some model →
        (form.bindForm data').valid = some model' →
        SameNumber model.registrationNumber model'.registrationNumber →
          (convertToUpperCaseAndRemoveSpaces model).registrationNumber =
            (convertToUpperCaseAndRemoveSpaces model').registrationNumber := by
  refine ⟨fun s => RegistrationNumber.validRegistrationNumber_eq_none_iff, ?_, ?_⟩
  · intro data model h
    exact ⟨canonical_of_valid h, valid_canonical h⟩
  · intro data data' model model' h h' hsame
    rw [registrationNumber_of_valid h, registrationNumber_of_valid h']
    exact hsame

/-- A lookup of a vehicle by one document reference number. -/
def someLookup (registrationNumber : String) : VehicleLookupFormModel :=
  ⟨"12345678910", registrationNumber⟩

def someData (registrationNumber : String) : FormData :=
  withRegistrationNumber registrationNumber
    (FormData.singleton DocumentReferenceNumberId "12345678910")

theorem valid_ab12_cde :
    (form.bindForm (someData "ab12 cde")).valid = some (someLookup "ab12 cde") := by
  decide +kernel

theorem valid_AB_12CDE :
    (form.bindForm (someData "AB 12CDE")).valid = some (someLookup "AB 12CDE") := by
  decide +kernel

theorem sameNumber_ab12_cde : SameNumber "ab12 cde" "AB 12CDE" := by
  rw [SameNumber, ← String.toList_inj, String.toUpper, String.toUpper, String.toList_map,
    String.toList_map]
  decide

theorem registrationNumbers_canonical_ab12cde :
    Canonical (convertToUpperCaseAndRemoveSpaces (someLookup "ab12 cde")) ∧
      (convertToUpperCaseAndRemoveSpaces (someLookup "ab12 cde")).registrationNumber =
        (convertToUpperCaseAndRemoveSpaces (someLookup "AB 12CDE")).registrationNumber := by
  obtain ⟨-, hcanonical, hsame⟩ := registrationNumbers_canonical
  exact ⟨(hcanonical _ _ valid_ab12_cde).1,
    hsame _ _ _ _ valid_ab12_cde valid_AB_12CDE sameNumber_ab12_cde⟩

end VehicleLookup

end VehiclesOnline
