import Mathlib.Data.List.Lex
import Mathlib.Data.Prod.Lex
import Mathlib.Order.WithBot
import VehiclesOnline.Library.StableSort
import VehiclesOnline.Wizard.AddressLookup

/-! # The list of addresses for a postcode

The GDS address lookup lists one entry for each address, sorted by the house number as a text. -/

namespace VehiclesOnline

namespace Gds

open StableSort

/-! ### The service -/

/-- A text in the order of the JVM, by code units. -/
abbrev Collated := List ℕ

def collate (s : String) : Collated := (Utf16.encode s).map UInt16.toNat

/-- A text that is there or not; one that is not is less. -/
def collateOption (s : Option String) : WithBot Collated := s.elim ⊥ fun s => collate s

/-- Without a number it is `0`; of a number the digits are left. -/
def buildingNumberSanitised (address : Address) : String :=
  String.ofList ((address.houseNumber.getD "0").toList.filter Char.isDigit)

def sortKey (address : Address) : Collated ×ₗ WithBot Collated :=
  toLex (collate (buildingNumberSanitised address), collateOption address.houseName)

def sort (addresses : List Address) : List Address := sortBy sortKey addresses

/-- The number of an address, and the address in one line. -/
def entry (address : Address) : String × String :=
  (address.presentation.uprn, String.intercalate ", " address.toViewModel)

def toDropDown (resp : WebResponse (List Address)) : List (String × String) :=
  (sort (extractFromJson resp)).map entry

/-- `AddressLookupServiceImpl.fetchAddressesForPostcode`, given what the web service answers. -/
def fetchAddressesForPostcode
    (callPostcodeWebService : Except Throwable (WebResponse (List Address))) :
    List (String × String) :=
  match callPostcodeWebService with
  | .ok resp => if resp.status = 200 then toDropDown resp else []
  | .error _ => []

/-! ### The order of the numbers -/

/-- The number that the digits are written for; `0` without digits. -/
def buildingNumber (address : Address) : ℕ :=
  Nat.ofDigitChars 10 (buildingNumberSanitised address).toList 0

def numberKey (address : Address) : ℕ ×ₗ WithBot Collated :=
  toLex (buildingNumber address, collateOption address.houseName)

/-- One entry for each address, by number and name, those that are alike in both in the order of
the answer. -/
def Lists (addresses : List Address) (entries : List (String × String)) : Prop :=
  ∃ sorted, IsStableSort numberKey addresses sorted ∧ entries = sorted.map entry

/-- The later one of two addresses is before the earlier one by the texts exactly when it is by
the numbers. -/
def TextsAgree (addresses : List Address) : Prop :=
  addresses.Pairwise fun a b => sortKey b < sortKey a ↔ numberKey b < numberKey a

instance (addresses : List Address) : Decidable (TextsAgree addresses) :=
  inferInstanceAs (Decidable (List.Pairwise _ _))

variable {resp : WebResponse (List Address)} {addresses : List Address}

theorem fetchAddressesForPostcode_of_ok (hstatus : resp.status = 200)
    (hjson : resp.json = .ok (some addresses)) :
    fetchAddressesForPostcode (.ok resp) = (sort addresses).map entry := by
  have hextract : extractFromJson resp = addresses := by
    rw [extractFromJson, WebResponse.as, hjson]
    rfl
  rw [fetchAddressesForPostcode, if_pos hstatus, toDropDown, hextract]

theorem eq_of_map_entry_eq {output sorted : List Address}
    (hinj : ∀ a ∈ output, ∀ b ∈ sorted, entry a = entry b → a = b)
    (h : output.map entry = sorted.map entry) : output = sorted := by
  induction output generalizing sorted with
  | nil => exact (List.map_eq_nil_iff.mp h.symm).symm
  | cons a output ih =>
      cases sorted with
      | nil => cases h
      | cons b sorted =>
          obtain ⟨hhead, htail⟩ := List.cons.inj h
          rw [hinj a List.mem_cons_self b List.mem_cons_self hhead,
            ih (fun a ha b hb => hinj a (.tail _ ha) b (.tail _ hb)) htail]

/-- Addresses with entries of their own are listed in one order only. -/
theorem lists_map_entry_iff {output : List Address} (hperm : output.Perm addresses)
    (hnodup : (addresses.map entry).Nodup) :
    Lists addresses (output.map entry) ↔ IsStableSort numberKey addresses output := by
  constructor
  · intro h
    obtain ⟨sorted, hsorted, hentries⟩ := h
    have hsame : output = sorted := by
      refine eq_of_map_entry_eq (fun a ha b hb => ?_) hentries
      exact List.inj_on_of_nodup_map hnodup (hperm.mem_iff.mp ha) (hsorted.perm.mem_iff.mp hb)
    rw [hsame]
    exact hsorted
  · intro h
    exact ⟨output, h, rfl⟩

/-- The entries are those of the addresses as the texts sort them, which is as the numbers do
exactly when the texts agree with the numbers on each two of them. -/
theorem fetchAddressesForPostcode_sorted_iff (resp : WebResponse (List Address))
    (addresses : List Address) (hstatus : resp.status = 200)
    (hjson : resp.json = .ok (some addresses)) :
    fetchAddressesForPostcode (.ok resp) = (sort addresses).map entry ∧
      (IsStableSort numberKey addresses (sort addresses) ↔ TextsAgree addresses) ∧
      (TextsAgree addresses → Lists addresses (fetchAddressesForPostcode (.ok resp))) ∧
      ((addresses.map entry).Nodup →
        Lists addresses (fetchAddressesForPostcode (.ok resp)) → TextsAgree addresses) := by
  have hfetch := fetchAddressesForPostcode_of_ok hstatus hjson
  have hsort : IsStableSort numberKey addresses (sort addresses) ↔ TextsAgree addresses :=
    isStableSort_sortBy_iff
  have hperm : (sort addresses).Perm addresses := (isStableSort_sortBy sortKey addresses).perm
  refine ⟨hfetch, hsort, ?_, ?_⟩
  · intro hagree
    exact ⟨sort addresses, hsort.mpr hagree, hfetch⟩
  · intro hnodup hlists
    rw [hfetch, lists_map_entry_iff hperm hnodup] at hlists
    exact hsort.mp hlists

/-- A house of the high street. -/
def numbered (houseNumber : String) : Address where
  houseName := none
  houseNumber := some houseNumber
  presentation := { highStreet none with uprn := houseNumber }

def street (addresses : List Address) : WebResponse (List Address) where
  status := 200
  json := .ok (some addresses)

theorem fetchAddressesForPostcode_sorted_iff_twoDigits :
    fetchAddressesForPostcode (.ok (street [numbered "12", numbered "10"])) =
        (sort [numbered "12", numbered "10"]).map entry ∧
      (IsStableSort numberKey [numbered "12", numbered "10"]
          (sort [numbered "12", numbered "10"]) ↔
        TextsAgree [numbered "12", numbered "10"]) ∧
      Lists [numbered "12", numbered "10"]
        (fetchAddressesForPostcode (.ok (street [numbered "12", numbered "10"]))) :=
  have h := fetchAddressesForPostcode_sorted_iff (street [numbered "12", numbered "10"])
    [numbered "12", numbered "10"] rfl rfl
  ⟨h.1, h.2.1, h.2.2.1 (by decide)⟩

/-- Number 10 is listed before number 9. -/
theorem not_lists_ten_nine :
    fetchAddressesForPostcode (.ok (street [numbered "9", numbered "10"])) =
        [entry (numbered "10"), entry (numbered "9")] ∧
      ¬ Lists [numbered "9", numbered "10"]
        (fetchAddressesForPostcode (.ok (street [numbered "9", numbered "10"]))) := by
  have hperm : (sort [numbered "9", numbered "10"]).Perm [numbered "9", numbered "10"] :=
    (isStableSort_sortBy sortKey _).perm
  have hsort : sort [numbered "9", numbered "10"] = [numbered "10", numbered "9"] := by
    rw [sort, sortBy_cons, sortBy_cons, sortBy, List.mergeSort_nil]
    decide
  have hfetch : fetchAddressesForPostcode (.ok (street [numbered "9", numbered "10"])) =
      (sort [numbered "9", numbered "10"]).map entry := fetchAddressesForPostcode_of_ok rfl rfl
  refine ⟨by rw [hfetch, hsort]; rfl, ?_⟩
  rw [hfetch, lists_map_entry_iff hperm (by decide), sort, isStableSort_sortBy_iff]
  decide

end Gds

end VehiclesOnline
