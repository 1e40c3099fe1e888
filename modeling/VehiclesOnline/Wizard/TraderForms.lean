import VehiclesOnline.Library.Regex
import VehiclesOnline.Wizard.Addresses
import VehiclesOnline.Wizard.Mappings

/-! The forms in which a trader is set up: the name and the postcode, and the address if it is
entered by hand. -/

namespace VehiclesOnline

open Mapping (optional bind_eq_ok_iff)
open Unicode (toUpperCase)

/-! ### Texts that are transformed -/

namespace FormExtensions

def transformedStringFormat (transform : String → String) : Mapping String where
  bindValue key data :=
    match data.lookup key with
    | some dataValue => .ok (transform dataValue)
    | none => .error [{ key := key, message := "error.required" }]

/-- Without a greatest length, that of a number of 32 bits stands in the source. -/
def textWithTransform (transform : String → String) (minLength : ℕ) (maxLength : Option ℕ) :
    Mapping String :=
  let formatter := transformedStringFormat transform
  match minLength, maxLength with
  | 0, none => formatter
  | min, none => formatter.verifying [Constraints.minLength min]
  | 0, some max => formatter.verifying [Constraints.maxLength max]
  | min, some max =>
      formatter.verifying [Constraints.minLength min, Constraints.maxLength max]

def nonEmptyTextWithTransform (transform : String → String) (minLength : ℕ)
    (maxLength : Option ℕ) : Mapping String :=
  (textWithTransform transform minLength maxLength).verifying [Constraints.nonEmpty]

def trimNonWhiteListedChars (charRegEx : Char → Bool) (input : String) : String :=
  Text.trim (fun char => !charRegEx char) input

end FormExtensions

open FormExtensions (textWithTransform nonEmptyTextWithTransform trimNonWhiteListedChars)

/-- `String.trim`. -/
def trim (s : String) : String := Text.trim (· ≤ ' ') s

/-- The class `\s`. -/
def isWhitespace (c : Char) : Bool := c ∈ [' ', '\t', '\n', '\x0B', '\x0C', '\r']

/-- A text that starts with a character of one class and goes on in another. -/
def startingWith (first rest : Char → Bool) : Regex :=
  .seq .start (.seq (.chars first) (.seq (.rep (.chars rest) 0 none) .stop))

/-! ### The lines of an address -/

namespace AddressLines

def AddressLinesId : String := "addressLines"

def BuildingNameOrNumberId : String := "buildingNameOrNumber"

def Line2Id : String := "line2"

def Line3Id : String := "line3"

def PostTownId : String := "postTown"

def BuildingNameOrNumberMinLength : ℕ := 4

def PostTownMinLength : ℕ := 3

def LineMaxLength : ℕ := 30

def MaxLengthOfLinesConcatenated : ℕ := 120

def fieldTransform (s : String) : String := trimNonWhiteListedChars Char.isAlphanum (toUpperCase s)

def addressLines : Mapping AddressLinesModel where
  bindValue key data :=
    ((((Bound.and (.ok AddressLinesModel.mk)
      ((nonEmptyTextWithTransform fieldTransform BuildingNameOrNumberMinLength
        (some LineMaxLength)).field BuildingNameOrNumberId key data)).and
          ((optional (textWithTransform fieldTransform 0 (some LineMaxLength))).field
            Line2Id key data)).and
              ((optional (textWithTransform fieldTransform 0 (some LineMaxLength))).field
                Line3Id key data)).and
                  ((nonEmptyTextWithTransform fieldTransform PostTownMinLength
                    (some LineMaxLength)).field PostTownId key data))

/-- The marks that a line may have behind its first character. -/
def isMark (c : Char) : Bool := isWhitespace c || c ∈ ['-', ',', '.', '/', '\\']

def addressLinesFormat : Regex := startingWith Char.isAlphanum fun c => c.isAlphanum || isMark c

def postTownFormat : Regex := startingWith Char.isAlpha fun c => c.isAlpha || isMark c

end AddressLines

def AddressLinesModel.totalCharacters (model : AddressLinesModel) : ℕ :=
  (model.toViewFormat.map utf16Length).sum

/-- The lines are checked as one text, and only then the post town. -/
def AddressLines.validAddressLines : Constraint AddressLinesModel := fun input =>
  let addressLines := String.join input.toViewFormat.dropLast
  let postTown := input.toViewFormat.getLastD ""
  if input.totalCharacters > MaxLengthOfLinesConcatenated then
    some ("error.address.maxLengthOfLinesConcatenated", [])
  else if ¬ addressLinesFormat.matchesAll addressLines.toList then
    some ("error.address.characterInvalid", [])
  else if ¬ postTownFormat.matchesAll postTown.toList then
    some ("error.postTown.characterInvalid", [])
  else none

namespace Uprn

def UprnId : String := "uprn"

def uprn : Mapping (Option ℤ) := optional number

end Uprn

namespace AddressAndPostcode

def AddressAndPostcodeId : String := "addressAndPostcode"

def addressAndPostcode : Mapping AddressAndPostcodeModel where
  bindValue key data :=
    ((Bound.and (.ok AddressAndPostcodeModel.mk)
      (Uprn.uprn.field Uprn.UprnId key data)).and
        ((AddressLines.addressLines.verifying [AddressLines.validAddressLines]).field
          AddressLines.AddressLinesId key data))

end AddressAndPostcode

def EnterAddressManually.form : Mapping EnterAddressManuallyModel where
  bindValue key data :=
    (Bound.and (.ok EnterAddressManuallyModel.mk)
      (AddressAndPostcode.addressAndPostcode.field AddressAndPostcode.AddressAndPostcodeId key
        data))

/-! ### The data of a form that is filled with an address -/

/-- `OptionalMapping.unbind`, of a text. -/
def unbindOptional (key : String) (value : Option String) : FormData :=
  value.elim ∅ (FormData.singleton key)

def AddressLines.unbind (key : String) (model : AddressLinesModel) : FormData :=
  FormData.singleton (Mapping.fieldKey key BuildingNameOrNumberId) model.buildingNameOrNumber ∪
    (unbindOptional (Mapping.fieldKey key Line2Id) model.line2 ∪
      (unbindOptional (Mapping.fieldKey key Line3Id) model.line3 ∪
        FormData.singleton (Mapping.fieldKey key PostTownId) model.postTown))

def AddressAndPostcode.unbind (key : String) (model : AddressAndPostcodeModel) : FormData :=
  unbindOptional (Mapping.fieldKey key Uprn.UprnId) (model.uprn.map toString) ∪
    AddressLines.unbind (Mapping.fieldKey key AddressLines.AddressLinesId) model.addressLinesModel

def EnterAddressManually.unbind (model : EnterAddressManuallyModel) : FormData :=
  AddressAndPostcode.unbind (Mapping.fieldKey "" AddressAndPostcode.AddressAndPostcodeId)
    model.addressAndPostcodeModel

/-! ### Trade details -/

namespace Postcode

def MinLength : ℕ := 5

def MaxLength : ℕ := 8

/-- The expression ignores the case of letters from its first branch on. -/
def characters (accepts : Char → Bool) (min max : ℕ) : Pattern.Piece :=
  ⟨Regex.ignoreCase accepts, min, max⟩

def letter : Pattern.Piece := characters Char.isUpper 1 1

/-- All letters but I and Z. -/
def secondLetter : Pattern.Piece := characters (fun c => c.isUpper && c != 'I' && c != 'Z') 1 1

def digits (min max : ℕ) : Pattern.Piece := characters Char.isDigit min max

def literal (text : String) : Regex :=
  .shape (text.toList.map fun c => characters (· == c) 1 1)

def whitelist : Regex :=
  .alt (.seq .start (literal "GIR 0AA"))
    (.seq
      (.seq
        (.alt (.shape [letter, digits 1 1, digits 0 1])
          (.alt (.shape [letter, secondLetter, digits 1 1, digits 0 1])
            (.alt (.shape [letter, digits 1 1, letter])
              (.shape [letter, secondLetter, digits 0 1, letter]))))
        (.shape [characters (· == ' ') 0 1, digits 1 1, characters Char.isUpper 2 2]))
      .stop)

def validPostcode : Constraint String :=
  .check (fun input => whitelist.matchesAll input.toList) "error.restricted.validPostcode"

def postcode : Mapping String :=
  (nonEmptyTextWithTransform (fun s => trim (toUpperCase s)) MinLength (some MaxLength)).verifying
    [validPostcode]

end Postcode

namespace TraderBusinessName

def TraderNameMinLength : ℕ := 2

def TraderNameMaxLength : ℕ := 58

def whitelist : Regex :=
  startingWith Char.isAlphanum fun c =>
    c.isAlphanum || isWhitespace c || c ∈ ['+', '-', '(', ')', '.', '&', ',', '@', '\'']

def validTraderBusinessName : Constraint String :=
  .check (fun restrictedString => whitelist.matchesAll restrictedString.toList)
    "error.validTraderBusinessName"

def traderBusinessName : Mapping String :=
  (nonEmptyTextWithTransform (fun s => trim (toUpperCase s)) TraderNameMinLength
    (some TraderNameMaxLength)).verifying [validTraderBusinessName]

end TraderBusinessName

def SetUpTradeDetails.form : Mapping SetupTradeDetailsModel where
  bindValue key data :=
    ((Bound.and (.ok SetupTradeDetailsModel.mk)
      (TraderBusinessName.traderBusinessName.field TraderNameId key data)).and
        (Postcode.postcode.field TraderPostcodeId key data))

/-! ### What the forms accept -/

section Texts

variable {transform : String → String} {minLength maxLength : ℕ} {key : String} {data : FormData}
variable {s : String}

theorem transformedStringFormat_bind_eq_ok_iff :
    (FormExtensions.transformedStringFormat transform).bind key data = .ok s ↔
      ∃ raw, data.lookup key = some raw ∧ transform raw = s := by
  rw [bind_eq_ok_iff, FormExtensions.transformedStringFormat]
  cases hlookup : data.lookup key with
  | none => simp [hlookup]
  | some raw => simp [hlookup]

theorem textWithTransform_bind_eq_ok_iff :
    (textWithTransform transform minLength (some maxLength)).bind key data = .ok s ↔
      (∃ raw, data.lookup key = some raw ∧ transform raw = s) ∧ minLength ≤ utf16Length s ∧
        utf16Length s ≤ maxLength := by
  cases minLength with
  | zero =>
      simp [textWithTransform, Mapping.verifying_bind_eq_ok_iff,
        transformedStringFormat_bind_eq_ok_iff, Constraints.maxLength,
        Constraint.check_eq_none_iff]
  | succ min =>
      simp [textWithTransform, Mapping.verifying_bind_eq_ok_iff,
        transformedStringFormat_bind_eq_ok_iff, Constraints.minLength, Constraints.maxLength,
        Constraint.check_eq_none_iff]

theorem nonEmptyTextWithTransform_bind_eq_ok_iff :
    (nonEmptyTextWithTransform transform minLength (some maxLength)).bind key data = .ok s ↔
      (∃ raw, data.lookup key = some raw ∧ transform raw = s) ∧ minLength ≤ utf16Length s ∧
        utf16Length s ≤ maxLength ∧ s.toList.any (' ' < ·) = true := by
  rw [nonEmptyTextWithTransform, Mapping.verifying_bind_eq_ok_iff,
    textWithTransform_bind_eq_ok_iff]
  simp [Constraints.nonEmpty, Constraint.check_eq_none_iff, and_assoc]

end Texts

theorem startingWith_matchesAll_iff {first rest : Char → Bool} {text : List Char} :
    (startingWith first rest).matchesAll text = true ↔
      ∃ c cs, text = c :: cs ∧ first c = true ∧ ∀ d ∈ cs, rest d = true := by
  rw [Regex.matchesAll, startingWith, Regex.matchesWord_start_seq, Regex.matchesWord_seq]
  simp only [Regex.matchesWord_chars, Regex.matchesWord_seq_stop, Regex.matchesWord_star_chars]
  constructor
  · rintro ⟨front, cs, rfl, ⟨c, rfl, hc⟩, hcs⟩
    exact ⟨c, cs, rfl, hc, hcs⟩
  · rintro ⟨c, cs, rfl, hc, hcs⟩
    exact ⟨[c], cs, rfl, ⟨c, rfl, hc⟩, hcs⟩

theorem Postcode.postcode_bind_eq_ok_iff {key : String} {data : FormData} {s : String} :
    postcode.bind key data = .ok s ↔
      (∃ raw, data.lookup key = some raw ∧ trim (toUpperCase raw) = s) ∧
        MinLength ≤ utf16Length s ∧ utf16Length s ≤ MaxLength ∧
        s.toList.any (' ' < ·) = true ∧ whitelist.matchesAll s.toList = true := by
  rw [postcode, Mapping.verifying_bind_eq_ok_iff, nonEmptyTextWithTransform_bind_eq_ok_iff]
  simp [validPostcode, Constraint.check_eq_none_iff, and_assoc]

theorem SetUpTradeDetails.valid_bindForm {data : FormData} {model : SetupTradeDetailsModel}
    (h : (form.bindForm data).valid = some model) :
    TraderBusinessName.traderBusinessName.field TraderNameId "" data =
        .ok model.traderBusinessName ∧
      Postcode.postcode.field TraderPostcodeId "" data = .ok model.traderPostcode := by
  have hbind := (bind_eq_ok_iff.mp (Mapping.valid_bindForm.mp h)).1
  simp only [form, Bound.and_eq_ok_iff, Except.ok.injEq] at hbind
  obtain ⟨_, _, ⟨_, _, rfl, hname, rfl⟩, hpostcode, rfl⟩ := hbind
  exact ⟨hname, hpostcode⟩

end VehiclesOnline
