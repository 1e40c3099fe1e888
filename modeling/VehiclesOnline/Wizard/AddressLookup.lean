import Mathlib.Data.List.ReduceOption
import VehiclesOnline.Wizard.DisposalAddress
import VehiclesOnline.Wizard.Mappings
import VehiclesOnline.Wizard.Services

/-! # Addresses from the GDS address lookup -/

namespace VehiclesOnline

namespace Gds

open DisposalAddressDto (cut sentLines linesOverMaxLength mandatoryLines overflowed emptyLine
  LineMaxLength fromLines_append withoutSpaces)
open Utf16 (Units)

structure Presentation where
  property : Option String
  street : Option String
  town : Option String
  area : Option String
  postcode : String
  uprn : String
  deriving DecidableEq, Repr

def Presentation.toViewModel (presentation : Presentation) : List String :=
  [presentation.property, presentation.street, presentation.town, presentation.area,
    some presentation.postcode].reduceOption

/-- An address, as far as the lookups read it. -/
structure Address where
  houseName : Option String
  houseNumber : Option String
  presentation : Presentation
  deriving DecidableEq, Repr

def Address.toViewModel (address : Address) : List String := address.presentation.toViewModel

/-- `String.toLong`, of the digits of any script. -/
def toLong (s : String) : Option ℤ := do
  let n : ℤ ←
    match s.toList with
    | '-' :: cs => (digits cs).map (-·)
    | '+' :: cs => (digits cs).map (·)
    | cs => (digits cs).map (·)
  if -2 ^ 63 ≤ n ∧ n < 2 ^ 63 then some n else none

/-- No addresses, if the body is not JSON or not of addresses. -/
def extractFromJson (resp : WebResponse (List Address)) : List Address :=
  match resp.as with
  | .ok addresses => addresses
  | .error _ => []

/-- What is raised for a body without addresses or an address without a number is recovered
from. -/
def toViewModel (resp : WebResponse (List Address)) : Option AddressViewModel := do
  let head ← (extractFromJson resp).head?
  let uprn ← toLong head.presentation.uprn
  return { uprn := some uprn, address := head.toViewModel }

/-- `AddressLookupServiceImpl.fetchAddressForUprn`, given what the web service answers. -/
def fetchAddressForUprn (callUprnWebService : Except Throwable (WebResponse (List Address))) :
    Option AddressViewModel :=
  match callUprnWebService with
  | .ok resp => if resp.status = 200 then toViewModel resp else none
  | .error _ => none

/-- An address that was fetched is that of the first address of the answer. -/
theorem address_of_fetchAddressForUprn {resp : WebResponse (List Address)} {address : Address}
    {model : AddressViewModel} (hfirst : (extractFromJson resp).head? = some address)
    (h : fetchAddressForUprn (.ok resp) = some model) :
    model.address = address.presentation.toViewModel := by
  simp only [fetchAddressForUprn] at h
  split at h
  · simp only [toViewModel, hfirst, Option.bind_eq_bind, Option.bind_some] at h
    cases huprn : toLong address.presentation.uprn with
    | none => simp [huprn] at h
    | some uprn =>
        simp only [huprn, Option.bind_some, Option.pure_def, Option.some.injEq] at h
        rw [← h]
        rfl
  · cases h

/-! ## The lines that an address keeps -/

/-- The text is among the lines, cut to their length, unless it is empty. -/
def Appears (field : Units) (lines : List Units) : Prop := field ≠ [] → field.take 30 ∈ lines

instance (field : Units) (lines : List Units) : Decidable (Appears field lines) :=
  inferInstanceAs (Decidable (_ → _))

/-- Only an empty line gives its place to an overflow. -/
theorem appears_overflowed {lines : List Units} {line : Units} (hline : line ∈ lines) :
    Appears line ((overflowed lines).map cut) := by
  intro hne
  change cut line ∈ _
  rcases lines with _ | ⟨building, _ | ⟨line2, _ | ⟨line3, rest⟩⟩⟩
  · cases hline
  · obtain rfl := List.mem_singleton.mp hline
    rw [overflowed]
    split <;> simp
  · rw [overflowed]
    rcases List.mem_pair.mp hline with rfl | rfl
    · split_ifs <;> simp
    · split_ifs <;> simp
  · rw [overflowed]
    simp only [List.mem_cons] at hline
    rcases hline with rfl | rfl | rfl | hrest
    · split_ifs <;> simp
    · split_ifs with hbuilding hempty
      · exact absurd hempty hne
      all_goals simp
    · split_ifs with hbuilding hline2 hempty hlong
      · simp
      · exact absurd hempty hne
      · simp
      · exact absurd hlong.2 hne
      · simp
    · have hcut : cut line ∈ rest.map cut := List.mem_map_of_mem hrest
      split_ifs <;> simp [hcut]

theorem appears_sentLines {lines : List Units} {town postcode line : Units} (hline : line ∈ lines) :
    Appears line (sentLines (linesOverMaxLength (lines ++ [town, postcode]))
      (mandatoryLines lines)) := by
  rw [mandatoryLines, if_neg (List.ne_nil_of_mem hline), sentLines]
  split
  · exact appears_overflowed hline
  · next hover =>
    intro _
    have hlength : line.length ≤ LineMaxLength := by
      by_contra hlong
      exact hover (DisposalAddressDto.linesOverMaxLength_iff.mpr
        ⟨line, by simp [hline], Nat.lt_of_not_le hlong⟩)
    change cut line ∈ lines
    rwa [DisposalAddressDto.cut_eq_self hlength]

/-- An address that is sent with its own town, its postcode, and all of its other parts. -/
structure KeepsTown (presentation : Presentation) (town : String) (dto : DisposalAddressDto) :
    Prop where
  postTown : dto.postTown = some ((Utf16.encode town).take 30)
  postCode : dto.postCode = withoutSpaces (Utf16.encode presentation.postcode)
  others : ∀ field ∈ [presentation.property, presentation.street, presentation.area].reduceOption,
    Appears (Utf16.encode field) dto.line

variable {presentation : Presentation} {town : String}

/-- Without an area the town stands where it is looked for. -/
theorem toViewModel_of_area_none (htown : presentation.town = some town)
    (harea : presentation.area = none) :
    presentation.toViewModel = [presentation.property, presentation.street].reduceOption ++
      [town, presentation.postcode] := by
  rw [Presentation.toViewModel, htown, harea]
  exact List.reduceOption_append [presentation.property, presentation.street]
    [some town, none, some presentation.postcode]

/-- An area stands between the town and the postcode. -/
theorem toViewModel_of_area_some {area : String} (htown : presentation.town = some town)
    (harea : presentation.area = some area) :
    presentation.toViewModel = ([presentation.property, presentation.street].reduceOption ++
      [town]) ++ [area, presentation.postcode] := by
  rw [Presentation.toViewModel, htown, harea, List.append_assoc]
  exact List.reduceOption_append [presentation.property, presentation.street]
    [some town, some area, some presentation.postcode]

/-- The first two parts of an address are always among its lines. -/
theorem appears_of_mem {lines : List String} {field : String} {town postcode : Units}
    (hfield : field ∈ lines) :
    Appears (Utf16.encode field) (sentLines
      (linesOverMaxLength (lines.map Utf16.encode ++ [town, postcode]))
      (mandatoryLines (lines.map Utf16.encode))) :=
  appears_sentLines (List.mem_map_of_mem hfield)

theorem keepsTown_of_area_none {uprn : Option ℤ} (htown : presentation.town = some town)
    (harea : presentation.area = none) :
    ∃ dto, DisposalAddressDto.fromViewModel ⟨uprn, presentation.toViewModel⟩ = .ok dto ∧
      KeepsTown presentation town dto := by
  rw [DisposalAddressDto.fromViewModel, toViewModel_of_area_none htown harea, List.map_append]
  refine ⟨_, fromLines_append _ _ _ _, rfl, rfl, ?_⟩
  intro field hfield
  rw [harea, List.reduceOption_mem_iff] at hfield
  refine appears_of_mem ?_
  rw [List.reduceOption_mem_iff]
  simpa using hfield

/-- With an area behind the town, the town of what is sent is the area. -/
theorem keepsTown_iff_of_area_some {uprn : Option ℤ} {area : String}
    (htown : presentation.town = some town) (harea : presentation.area = some area) :
    (∃ dto, DisposalAddressDto.fromViewModel ⟨uprn, presentation.toViewModel⟩ = .ok dto ∧
      KeepsTown presentation town dto) ↔
    (Utf16.encode area).take 30 = (Utf16.encode town).take 30 := by
  rw [DisposalAddressDto.fromViewModel, toViewModel_of_area_some htown harea, List.map_append]
  constructor
  · rintro ⟨dto, hdto, hkeeps⟩
    have hpostTown := hkeeps.postTown
    rw [List.map_cons, List.map_singleton, fromLines_append, Except.ok.injEq] at hdto
    rw [← hdto] at hpostTown
    exact Option.some.inj hpostTown
  · intro hbegins
    refine ⟨_, fromLines_append _ _ _ _, congrArg some hbegins, rfl, ?_⟩
    intro field hfield
    rw [harea, List.reduceOption_mem_iff] at hfield
    simp only [List.mem_cons, List.not_mem_nil, or_false, Option.some.injEq] at hfield
    rw [← or_assoc] at hfield
    rcases hfield with hfield | rfl
    · refine appears_of_mem (List.mem_append_left _ ?_)
      rw [List.reduceOption_mem_iff]
      simpa using hfield
    · -- What begins like the town appears where the town is put.
      intro hne
      rw [hbegins]
      refine appears_of_mem (List.mem_append_right _ (List.mem_singleton_self town)) ?_
      intro hempty
      rw [hempty, List.take_nil, List.take_eq_nil_iff] at hbegins
      exact hbegins.elim (fun hzero => by cases hzero) hne

/-- The address that was fetched for a number is sent with its town exactly if it has no area that
begins otherwise. -/
theorem keepsTown_iff {resp : WebResponse (List Address)} {address : Address}
    {model : AddressViewModel} {town : String}
    (hfirst : (extractFromJson resp).head? = some address)
    (h : fetchAddressForUprn (.ok resp) = some model)
    (htown : address.presentation.town = some town) :
    (∃ dto, DisposalAddressDto.fromViewModel model = .ok dto ∧
      KeepsTown address.presentation town dto) ↔
    ∀ area ∈ address.presentation.area,
      (Utf16.encode area).take 30 = (Utf16.encode town).take 30 := by
  obtain ⟨uprn, lines⟩ := model
  obtain rfl : lines = address.presentation.toViewModel :=
    address_of_fetchAddressForUprn hfirst h
  cases harea : address.presentation.area with
  | none => exact iff_of_true (keepsTown_of_area_none htown harea) (by simp)
  | some area =>
      rw [keepsTown_iff_of_area_some htown harea]
      simp

def highStreet (area : Option String) : Presentation where
  property := none
  street := some "1 High Street"
  town := some "Swansea"
  area := area
  postcode := "SA1 1AA"
  uprn := "12345"

/-- The answer for one house. -/
def house (area : Option String) : WebResponse (List Address) where
  status := 200
  json := .ok (some [⟨none, none, highStreet area⟩])

theorem keepsTown_iff_withoutArea :
    (∃ dto, DisposalAddressDto.fromViewModel ⟨some 12345, (highStreet none).toViewModel⟩ = .ok dto ∧
      KeepsTown (highStreet none) "Swansea" dto) ↔
    ∀ area ∈ (highStreet none).area,
      (Utf16.encode area).take 30 = (Utf16.encode "Swansea").take 30 := by
  have hfirst : (extractFromJson (house none)).head? = some ⟨none, none, highStreet none⟩ := rfl
  exact keepsTown_iff hfirst rfl rfl

/-- The area of an address is sent as its town. -/
theorem area_sent_as_town :
    fetchAddressForUprn (.ok (house (some "Wales"))) =
        some ⟨some 12345, ["1 High Street", "Swansea", "Wales", "SA1 1AA"]⟩ ∧
      DisposalAddressDto.fromViewModel
          ⟨some 12345, ["1 High Street", "Swansea", "Wales", "SA1 1AA"]⟩ =
        .ok { line := [Utf16.encode "1 High Street", Utf16.encode "Swansea"]
              postTown := some (Utf16.encode "Wales")
              postCode := Utf16.encode "SA11AA"
              uprn := some 12345 } ∧
      ¬ ∃ dto, DisposalAddressDto.fromViewModel
          ⟨some 12345, ["1 High Street", "Swansea", "Wales", "SA1 1AA"]⟩ = .ok dto ∧
        KeepsTown (highStreet (some "Wales")) "Swansea" dto := by
  have hsent : DisposalAddressDto.fromViewModel
      ⟨some 12345, ["1 High Street", "Swansea", "Wales", "SA1 1AA"]⟩ =
        .ok { line := [Utf16.encode "1 High Street", Utf16.encode "Swansea"]
              postTown := some (Utf16.encode "Wales")
              postCode := Utf16.encode "SA11AA"
              uprn := some 12345 } := rfl
  refine ⟨rfl, hsent, ?_⟩
  rintro ⟨dto, hdto, hkeeps⟩
  rw [hsent, Except.ok.injEq] at hdto
  have hpostTown := hkeeps.postTown
  rw [← hdto] at hpostTown
  revert hpostTown
  decide

end Gds

end VehiclesOnline
