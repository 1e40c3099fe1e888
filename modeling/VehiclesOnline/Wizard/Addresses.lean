import Mathlib.Data.List.DropRight
import VehiclesOnline.Library.UpperCase
import VehiclesOnline.Library.Utf16
import VehiclesOnline.Wizard.Models

/-! Addresses as the trader enters or chooses them, and as they are sent to the dispose
service, whose lines are short. -/

namespace VehiclesOnline

open Unicode (toUpperCase)

def AddressLinesModel.toViewFormat (model : AddressLinesModel) : List String :=
  [some (toUpperCase model.buildingNameOrNumber), model.line2.map toUpperCase,
    model.line3.map toUpperCase, some (toUpperCase model.postTown)].reduceOption

def AddressAndPostcodeModel.toViewFormat (model : AddressAndPostcodeModel) (postcode : String) :
    List String :=
  model.addressLinesModel.toViewFormat ++ [postcode]

/-- `AddressViewModel.from`. -/
def AddressViewModel.fromModel (address : AddressAndPostcodeModel) (postcode : String) :
    AddressViewModel where
  address := address.toViewFormat postcode

/-- Its texts are cut by code units, which may part a pair of surrogates. -/
structure DisposalAddressDto where
  line : List Utf16.Units
  postTown : Option Utf16.Units
  postCode : Utf16.Units
  uprn : Option ℤ
  deriving DecidableEq, Repr

namespace DisposalAddressDto

open Utf16 (Units)

def LineMaxLength : ℕ := 30

def BuildingNameOrNumberHolder : Units := Utf16.encode "No building name/num supplied"

def emptyLine : Units := []

def linesOverMaxLength : List Units → Bool
  | [] => false
  | head :: tail => if head.length > LineMaxLength then true else linesOverMaxLength tail

/-- `Seq.last` and `Seq.apply`, which raise. -/
def last (address : List Units) : Except Throwable Units :=
  match address.getLast? with
  | some line => .ok line
  | none => .error ⟨.noSuchElementException, none⟩

def lineAt (address : List Units) (index : ℕ) : Except Throwable Units :=
  match address[index]? with
  | some line => .ok line
  | none => .error ⟨.indexOutOfBoundsException, some (toString index)⟩

def withoutSpaces (postcode : Units) : Units := Utf16.without (UInt16.ofNat ' '.toNat) postcode

def buildStandardDisposalAddressDto (uprn : Option ℤ) (address : List Units) :
    Except Throwable DisposalAddressDto := do
  let postcode := withoutSpaces (← last address)
  let postTown ← lineAt (address.rtake 2) 0
  return { line := address.rdrop 2
           postTown := some postTown
           postCode := postcode
           uprn := uprn }

/-- Every address that a lookup returns has at least one address line and a postcode. -/
def assignEmptyLines : List Units → List Units
  | [building, town, postcode] => [building, emptyLine, town, postcode]
  | [building, line2, town, postcode] => [building, line2, emptyLine, town, postcode]
  | address => address

/-- An over-long building or second line overflows into an empty line behind it. -/
def addressLinesDecider (isBuildingNameOrNumberOverMax isLine2OverMax isLine2Empty
    isLine3Empty : Bool) (building line2 : Units) (address : List Units) : List Units :=
  match isBuildingNameOrNumberOverMax, isLine2OverMax, isLine2Empty, isLine3Empty with
  | true, _, true, _ =>
      [building.take LineMaxLength, building.drop LineMaxLength] ++ address.drop 2
  | true, _, false, true =>
      [building.take LineMaxLength, building.drop LineMaxLength, line2] ++ address.drop 3
  | false, true, false, true =>
      [building, line2.take LineMaxLength, line2.drop LineMaxLength] ++ address.drop 3
  | _, _, _, _ => address

def trimLines (accumulatedAddress : List Units) : List Units → List Units
  | [] => accumulatedAddress
  | head :: tail =>
      if head.length > LineMaxLength then
        trimLines (accumulatedAddress ++ [head.take LineMaxLength]) tail
      else trimLines (accumulatedAddress ++ [head]) tail

def rebuildDisposalAddressDto (uprn : Option ℤ) (addressLines : List Units) :
    Except Throwable DisposalAddressDto := do
  let address := assignEmptyLines addressLines
  let line2 ← lineAt address 1
  let line3 ← lineAt address 2
  let building ← lineAt address 0
  let amendedAddressLines := addressLinesDecider (decide (building.length > LineMaxLength))
    (decide (line2.length > LineMaxLength)) (line2 = emptyLine) (line3 = emptyLine) building line2
    address
  let legacyAddressLines := trimLines [] amendedAddressLines.dropLast
  let postcode := withoutSpaces (← last addressLines)
  let postTown ← last legacyAddressLines
  return { line := legacyAddressLines.dropLast
           postTown := some postTown
           postCode := postcode
           uprn := uprn }

/-- `DisposalAddressDto.from`, of the fields of a view model. -/
def fromLines (uprn : Option ℤ) (address : List Units) : Except Throwable DisposalAddressDto :=
  let trimRequired := linesOverMaxLength address
  let addressMandatoryLines :=
    if address.length = 2 then BuildingNameOrNumberHolder :: address else address
  if trimRequired then rebuildDisposalAddressDto uprn addressMandatoryLines
  else buildStandardDisposalAddressDto uprn addressMandatoryLines

def fromViewModel (model : AddressViewModel) : Except Throwable DisposalAddressDto :=
  fromLines model.uprn (model.address.map Utf16.encode)

/-! ### Addresses that can be sent -/

theorem last_eq_ok {address : List Units} (h : address ≠ []) :
    ∃ line, last address = .ok line := by
  rw [last, List.getLast?_eq_some_getLast h]
  exact ⟨_, rfl⟩

theorem lineAt_eq_ok {address : List Units} {index : ℕ} (h : index < address.length) :
    ∃ line, lineAt address index = .ok line := by
  rw [lineAt, List.getElem?_eq_getElem h]
  exact ⟨_, rfl⟩

theorem length_trimLines (accumulatedAddress address : List Units) :
    (trimLines accumulatedAddress address).length =
      accumulatedAddress.length + address.length := by
  induction address generalizing accumulatedAddress with
  | nil => rfl
  | cons head tail ih =>
      rw [trimLines]
      split <;> simp [ih, Nat.add_assoc, Nat.add_comm 1]

/-- An empty line that is filled by an overflow was there before. -/
theorem length_addressLinesDecider (overBuilding overLine2 emptyLine2 emptyLine3 : Bool)
    (building line2 : Units) {address : List Units} (h : 3 ≤ address.length) :
    (addressLinesDecider overBuilding overLine2 emptyLine2 emptyLine3 building line2
      address).length = address.length := by
  rw [addressLinesDecider.eq_def]
  split <;> simp <;> omega

theorem length_assignEmptyLines {address : List Units} (h : 3 ≤ address.length) :
    4 ≤ (assignEmptyLines address).length := by
  rcases address with _ | ⟨a, _ | ⟨b, _ | ⟨c, _ | ⟨d, rest⟩⟩⟩⟩
  · simp at h
  · simp at h
  · simp at h
  · simp [assignEmptyLines]
  · cases rest <;> simp [assignEmptyLines]

theorem buildStandardDisposalAddressDto_eq_ok {address : List Units} (uprn : Option ℤ)
    (h : address ≠ []) : ∃ dto, buildStandardDisposalAddressDto uprn address = .ok dto := by
  obtain ⟨postcode, hpostcode⟩ := last_eq_ok h
  have hlength : 0 < (address.rtake 2).length := by
    have hpos := List.length_pos_iff.mpr h
    rw [List.rtake, List.length_drop]
    omega
  obtain ⟨postTown, hpostTown⟩ := lineAt_eq_ok hlength
  simp only [buildStandardDisposalAddressDto, hpostcode, hpostTown]
  exact ⟨_, rfl⟩

theorem rebuildDisposalAddressDto_eq_ok {address : List Units} (uprn : Option ℤ)
    (h : 3 ≤ address.length) : ∃ dto, rebuildDisposalAddressDto uprn address = .ok dto := by
  have hlength := length_assignEmptyLines h
  have hlines : ∀ index < 4, ∃ line, lineAt (assignEmptyLines address) index = .ok line :=
    fun _ hindex => lineAt_eq_ok (hindex.trans_le hlength)
  obtain ⟨line2, hline2⟩ := hlines 1 (by decide)
  obtain ⟨line3, hline3⟩ := hlines 2 (by decide)
  obtain ⟨building, hbuilding⟩ := hlines 0 (by decide)
  obtain ⟨postcode, hpostcode⟩ := last_eq_ok (List.ne_nil_of_length_pos (Nat.zero_lt_of_lt h))
  simp only [rebuildDisposalAddressDto, hline2, hline3, hbuilding, hpostcode, bind, Except.bind]
  have hdecided := length_addressLinesDecider (decide (building.length > LineMaxLength))
    (decide (line2.length > LineMaxLength)) (line2 = emptyLine) (line3 = emptyLine) building line2
    (Nat.le_of_succ_le hlength)
  generalize addressLinesDecider _ _ _ _ building line2 _ = amended at hdecided
  obtain ⟨postTown, hpostTown⟩ : ∃ line, last (trimLines [] amended.dropLast) = .ok line := by
    apply last_eq_ok
    apply List.ne_nil_of_length_pos
    rw [length_trimLines, List.length_dropLast]
    simp only [List.length_nil]
    omega
  rw [hpostTown]
  exact ⟨_, rfl⟩

/-- The only address that cannot be sent is a single long line. -/
theorem exists_fromLines_eq_ok_iff {address : List Units} (uprn : Option ℤ) (h : address ≠ []) :
    (∃ dto, fromLines uprn address = .ok dto) ↔
      ¬ (address.length = 1 ∧ linesOverMaxLength address = true) := by
  by_cases hone : address.length = 1
  · obtain ⟨line, rfl⟩ := List.length_eq_one_iff.mp hone
    cases hover : linesOverMaxLength [line] with
    | true =>
        refine iff_of_false ?_ (by simp)
        rintro ⟨dto, hdto⟩
        simp [fromLines, hover, rebuildDisposalAddressDto, assignEmptyLines, lineAt, bind,
          Except.bind] at hdto
    | false =>
        refine iff_of_true ?_ (by simp)
        obtain ⟨dto, hdto⟩ := buildStandardDisposalAddressDto_eq_ok uprn h
        exact ⟨dto, by simpa [fromLines, hover] using hdto⟩
  · refine iff_of_true ?_ (by simp [hone])
    have hpos := List.length_pos_iff.mpr h
    have hlength : 3 ≤ (if address.length = 2 then BuildingNameOrNumberHolder :: address
        else address).length := by
      split
      · next htwo => rw [List.length_cons, htwo]
      · omega
    rw [fromLines]
    split
    · exact rebuildDisposalAddressDto_eq_ok uprn hlength
    · exact buildStandardDisposalAddressDto_eq_ok uprn
        (List.ne_nil_of_length_pos (Nat.zero_lt_of_lt hlength))

theorem exists_fromViewModel_eq_ok_iff {model : AddressViewModel} (h : model.address ≠ []) :
    (∃ dto, fromViewModel model = .ok dto) ↔
      ¬ (model.address.length = 1 ∧
        linesOverMaxLength (model.address.map Utf16.encode) = true) := by
  rw [fromViewModel, exists_fromLines_eq_ok_iff model.uprn (by simpa using h), List.length_map]

end DisposalAddressDto

end VehiclesOnline
