import Mathlib.Data.List.ReduceOption
import VehiclesOnline.Wizard.DisposalAddress
import VehiclesOnline.Wizard.TraderForms

/-! # Addresses that are entered by hand -/

namespace VehiclesOnline

open FormExtensions (textWithTransform nonEmptyTextWithTransform)
open Mapping (optional bind_eq_ok_iff fieldKey)
open Unicode (toUpperCase)

namespace EnterAddressManually

def addressKey : String := fieldKey "" AddressAndPostcode.AddressAndPostcodeId

def uprnKey : String := fieldKey addressKey Uprn.UprnId

def lineKey (field : String) : String :=
  fieldKey (fieldKey addressKey AddressLines.AddressLinesId) field

/-- The mapping of a line that must be given, and of one that may be. -/
def mandatoryLine (minLength : ℕ) : Mapping String :=
  nonEmptyTextWithTransform AddressLines.fieldTransform minLength (some AddressLines.LineMaxLength)

def optionalLine : Mapping (Option String) :=
  optional (textWithTransform AddressLines.fieldTransform 0 (some AddressLines.LineMaxLength))

/-- The fields of an accepted form, each with the value that was bound. -/
structure Accepts (data : FormData) (model : AddressAndPostcodeModel) : Prop where
  uprn : Uprn.uprn.bind uprnKey data = .ok model.uprn
  buildingNameOrNumber :
    (mandatoryLine AddressLines.BuildingNameOrNumberMinLength).bind
      (lineKey AddressLines.BuildingNameOrNumberId) data =
        .ok model.addressLinesModel.buildingNameOrNumber
  line2 : optionalLine.bind (lineKey AddressLines.Line2Id) data = .ok model.addressLinesModel.line2
  line3 : optionalLine.bind (lineKey AddressLines.Line3Id) data = .ok model.addressLinesModel.line3
  postTown :
    (mandatoryLine AddressLines.PostTownMinLength).bind (lineKey AddressLines.PostTownId) data =
      .ok model.addressLinesModel.postTown
  valid : AddressLines.validAddressLines model.addressLinesModel = none

variable {data : FormData}

theorem addressLines_bind_eq_ok_iff {key : String} {model : AddressLinesModel} :
    AddressLines.addressLines.bind key data = .ok model ↔
      (mandatoryLine AddressLines.BuildingNameOrNumberMinLength).bind
          (fieldKey key AddressLines.BuildingNameOrNumberId) data =
            .ok model.buildingNameOrNumber ∧
        optionalLine.bind (fieldKey key AddressLines.Line2Id) data = .ok model.line2 ∧
        optionalLine.bind (fieldKey key AddressLines.Line3Id) data = .ok model.line3 ∧
        (mandatoryLine AddressLines.PostTownMinLength).bind
          (fieldKey key AddressLines.PostTownId) data = .ok model.postTown := by
  rw [bind_eq_ok_iff]
  simp only [AddressLines.addressLines, Bound.and_eq_ok_iff, Except.ok.injEq, List.not_mem_nil,
    false_implies, implies_true, and_true]
  constructor
  · rintro ⟨_, _, ⟨_, _, ⟨_, _, ⟨_, _, rfl, hbuilding, rfl⟩, hline2, rfl⟩, hline3, rfl⟩, hpostTown,
      rfl⟩
    exact ⟨hbuilding, hline2, hline3, hpostTown⟩
  · rintro ⟨hbuilding, hline2, hline3, hpostTown⟩
    exact ⟨_, _, ⟨_, _, ⟨_, _, ⟨_, _, rfl, hbuilding, rfl⟩, hline2, rfl⟩, hline3, rfl⟩, hpostTown,
      rfl⟩

theorem addressAndPostcode_bind_eq_ok_iff {key : String} {model : AddressAndPostcodeModel} :
    AddressAndPostcode.addressAndPostcode.bind key data = .ok model ↔
      Uprn.uprn.bind (fieldKey key Uprn.UprnId) data = .ok model.uprn ∧
        AddressLines.addressLines.bind (fieldKey key AddressLines.AddressLinesId) data =
          .ok model.addressLinesModel ∧
        AddressLines.validAddressLines model.addressLinesModel = none := by
  rw [bind_eq_ok_iff]
  simp only [AddressAndPostcode.addressAndPostcode, Bound.and_eq_ok_iff, Except.ok.injEq,
    List.not_mem_nil, false_implies, implies_true, and_true, Mapping.field,
    Mapping.verifying_bind_eq_ok_iff, List.mem_singleton, forall_eq]
  constructor
  · rintro ⟨_, _, ⟨_, _, rfl, huprn, rfl⟩, ⟨hlines, hvalid⟩, rfl⟩
    exact ⟨huprn, hlines, hvalid⟩
  · rintro ⟨huprn, hlines, hvalid⟩
    exact ⟨_, _, ⟨_, _, rfl, huprn, rfl⟩, ⟨hlines, hvalid⟩, rfl⟩

theorem valid_bindForm_iff {model : EnterAddressManuallyModel} :
    (form.bindForm data).valid = some model ↔ Accepts data model.addressAndPostcodeModel := by
  rw [Mapping.valid_bindForm, bind_eq_ok_iff]
  simp only [form, Bound.and_eq_ok_iff, Except.ok.injEq, List.not_mem_nil, false_implies,
    implies_true, and_true, Mapping.field, addressAndPostcode_bind_eq_ok_iff,
    addressLines_bind_eq_ok_iff]
  constructor
  · rintro ⟨_, _, rfl, ⟨huprn, ⟨hbuilding, hline2, hline3, hpostTown⟩, hvalid⟩, rfl⟩
    exact ⟨huprn, hbuilding, hline2, hline3, hpostTown, hvalid⟩
  · rintro ⟨huprn, hbuilding, hline2, hline3, hpostTown, hvalid⟩
    exact ⟨_, _, rfl, ⟨huprn, ⟨hbuilding, hline2, hline3, hpostTown⟩, hvalid⟩, rfl⟩

/-! ## The lines of an accepted address -/

/-- The lines that are given, in front of the post town. -/
def givenLines (model : AddressLinesModel) : List String :=
  [some model.buildingNameOrNumber, model.line2, model.line3].reduceOption

theorem toViewFormat_eq (model : AddressLinesModel) :
    model.toViewFormat =
      (givenLines model).map toUpperCase ++ [toUpperCase model.postTown] := by
  rw [AddressLinesModel.toViewFormat, givenLines, ← List.reduceOption_map]
  exact List.reduceOption_append [some (toUpperCase model.buildingNameOrNumber),
    model.line2.map toUpperCase, model.line3.map toUpperCase] [some (toUpperCase model.postTown)]

theorem validAddressLines_eq_none_iff {model : AddressLinesModel} :
    AddressLines.validAddressLines model = none ↔
      model.totalCharacters ≤ AddressLines.MaxLengthOfLinesConcatenated ∧
        AddressLines.addressLinesFormat.matchesAll
          (String.join ((givenLines model).map toUpperCase)).toList = true ∧
        AddressLines.postTownFormat.matchesAll (toUpperCase model.postTown).toList = true := by
  rw [AddressLines.validAddressLines, toViewFormat_eq, List.dropLast_concat, List.getLastD_concat]
  by_cases htotal : model.totalCharacters > AddressLines.MaxLengthOfLinesConcatenated
  · simp [htotal, Nat.not_le_of_lt htotal]
  · rw [if_neg htotal, and_iff_right (Nat.le_of_not_gt htotal)]
    split_ifs with hlines hpostTown
    · exact iff_of_true rfl ⟨hlines, hpostTown⟩
    · exact iff_of_false (by simp) fun h => hpostTown h.2
    · exact iff_of_false (by simp) fun h => hlines h.1

theorem lt_of_isAlphanum_or_isMark {c : Char} (h : (c.isAlphanum || AddressLines.isMark c) = true) :
    c.toNat < 2 ^ 7 := by
  rcases Bool.or_eq_true_iff.mp h with halphanum | hmark
  · rcases Bool.or_eq_true_iff.mp halphanum with halpha | hdigit
    · rw [Ascii.isAlpha_iff] at halpha
      omega
    · rw [Ascii.isDigit_iff] at hdigit
      omega
  · have hspaces : ∀ d ∈ [' ', '\t', '\n', '\x0B', '\x0C', '\r'], d.toNat < 2 ^ 7 := by simp
    have hmarks : ∀ d ∈ ['-', ',', '.', '/', '\\'], d.toNat < 2 ^ 7 := by simp
    rcases Bool.or_eq_true_iff.mp hmark with h | h
    · exact hspaces c (of_decide_eq_true h)
    · exact hmarks c (of_decide_eq_true h)

/-- The checks of the lines leave only ASCII in them. -/
theorem ascii_of_valid {model : AddressLinesModel}
    (h : AddressLines.validAddressLines model = none) :
    ∀ line ∈ givenLines model ++ [model.postTown], ∀ c ∈ (toUpperCase line).toList,
      c.toNat < 2 ^ 7 := by
  obtain ⟨-, hlines, hpostTown⟩ := validAddressLines_eq_none_iff.mp h
  obtain ⟨c, cs, htext, hc, hcs⟩ := startingWith_matchesAll_iff.mp hlines
  obtain ⟨d, ds, htown, hd, hds⟩ := startingWith_matchesAll_iff.mp hpostTown
  intro line hline e he
  rcases List.mem_append.mp hline with hmem | hmem
  · have hmem' : e ∈ c :: cs := by
      rw [← htext, String.toList_join]
      exact List.mem_flatMap_of_mem (List.mem_map_of_mem hmem) he
    apply lt_of_isAlphanum_or_isMark
    rcases List.mem_cons.mp hmem' with rfl | hrest
    · exact Bool.or_eq_true_iff.mpr (.inl hc)
    · exact hcs e hrest
  · rw [List.mem_singleton.mp hmem, htown] at he
    apply lt_of_isAlphanum_or_isMark
    have halpha : e.isAlpha = true ∨ AddressLines.isMark e = true := by
      rcases List.mem_cons.mp he with rfl | hrest
      · exact .inl hd
      · exact Bool.or_eq_true_iff.mp (hds e hrest)
    rcases halpha with halpha | hmark
    · exact Bool.or_eq_true_iff.mpr (.inl (Bool.or_eq_true_iff.mpr (.inl halpha)))
    · exact Bool.or_eq_true_iff.mpr (.inr hmark)

theorem mem_upper_of_mem_fieldTransform {raw : String} {d : Char}
    (hd : d ∈ (AddressLines.fieldTransform raw).toList) : ∃ c, d ∈ Unicode.upper c := by
  have hmem := Text.mem_of_mem_trim hd
  rw [Unicode.toList_toUpperCase] at hmem
  obtain ⟨c, -, hc⟩ := List.mem_flatMap.mp hmem
  exact ⟨c, hc⟩

/-- Where a line of an accepted address comes from. -/
structure Line (line : String) : Prop where
  exists_raw : ∃ raw, AddressLines.fieldTransform raw = line
  length_le : utf16Length line ≤ AddressLines.LineMaxLength

variable {model : AddressAndPostcodeModel}

theorem mandatoryLine_bind_eq_ok_iff {minLength : ℕ} {key line : String} :
    (mandatoryLine minLength).bind key data = .ok line ↔
      (∃ raw, data.lookup key = some raw ∧ AddressLines.fieldTransform raw = line) ∧
        minLength ≤ utf16Length line ∧ utf16Length line ≤ AddressLines.LineMaxLength ∧
        line.toList.any (' ' < ·) = true :=
  nonEmptyTextWithTransform_bind_eq_ok_iff

theorem optionalLine_bind_eq_ok_iff {key : String} {line : Option String} :
    optionalLine.bind key data = .ok line ↔
      (Mapping.Submitted key data ∧ ∃ raw, data.lookup key = some raw ∧
          line = some (AddressLines.fieldTransform raw) ∧
          utf16Length (AddressLines.fieldTransform raw) ≤ AddressLines.LineMaxLength) ∨
        (¬ Mapping.Submitted key data ∧ line = none) := by
  rw [optionalLine, Mapping.optional_bind_eq_ok_iff]
  simp only [textWithTransform_bind_eq_ok_iff, Nat.zero_le, true_and]
  constructor
  · rintro (⟨hsubmitted, _, rfl, ⟨raw, hraw, rfl⟩, hlength⟩ | hnone)
    · exact .inl ⟨hsubmitted, raw, hraw, rfl, hlength⟩
    · exact .inr hnone
  · rintro (⟨hsubmitted, raw, hraw, rfl, hlength⟩ | hnone)
    · exact .inl ⟨hsubmitted, _, rfl, ⟨raw, hraw, rfl⟩, hlength⟩
    · exact .inr hnone

theorem Accepts.line (h : Accepts data model) :
    ∀ line ∈ givenLines model.addressLinesModel ++ [model.addressLinesModel.postTown],
      Line line := by
  have hmandatory : ∀ {minLength key line},
      (mandatoryLine minLength).bind key data = .ok line → Line line := by
    intro minLength key line hbind
    obtain ⟨⟨raw, -, hraw⟩, -, hlength, -⟩ := mandatoryLine_bind_eq_ok_iff.mp hbind
    exact ⟨⟨raw, hraw⟩, hlength⟩
  have hoptional : ∀ {key line}, optionalLine.bind key data = .ok (some line) → Line line := by
    intro key line hbind
    rcases optionalLine_bind_eq_ok_iff.mp hbind with ⟨-, raw, -, hline, hlength⟩ | ⟨-, ⟨⟩⟩
    obtain rfl := Option.some.inj hline
    exact ⟨⟨raw, rfl⟩, hlength⟩
  intro line hline
  rw [List.mem_append, givenLines, List.reduceOption_mem_iff, List.mem_singleton] at hline
  simp only [List.mem_cons, List.not_mem_nil, or_false, Option.some.injEq] at hline
  rcases hline with (rfl | hline2 | hline3) | rfl
  · exact hmandatory h.buildingNameOrNumber
  · exact hoptional (hline2 ▸ h.line2)
  · exact hoptional (hline3 ▸ h.line3)
  · exact hmandatory h.postTown

/-- Each line is in upper case, and stays as it is when it is put there again. -/
theorem Accepts.toUpperCase_eq_self (h : Accepts data model) :
    ∀ line ∈ givenLines model.addressLinesModel ++ [model.addressLinesModel.postTown],
      toUpperCase line = line := by
  intro line hline
  obtain ⟨raw, rfl⟩ := (h.line line hline).exists_raw
  refine (Unicode.toUpperCase_of_mem_upper ?_ (ascii_of_valid h.valid _ hline)).1
  exact fun d hd => mem_upper_of_mem_fieldTransform hd

/-- The page shows the lines that were bound. -/
theorem Accepts.toViewFormat_eq (h : Accepts data model) :
    model.addressLinesModel.toViewFormat =
      givenLines model.addressLinesModel ++ [model.addressLinesModel.postTown] := by
  have hsame := h.toUpperCase_eq_self
  rw [EnterAddressManually.toViewFormat_eq, ← List.map_singleton, ← List.map_append,
    List.map_congr_left hsame, List.map_id']

/-! ## What is sent of an accepted address -/

theorem utf16Length_eq_length_encode (s : String) : utf16Length s = (Utf16.encode s).length := by
  rw [utf16Length, Utf16.encode, List.length_flatMap]
  congr 1
  refine List.map_congr_left fun c _ => ?_
  rw [Utf16.encodeChar]
  split <;> rfl

theorem Accepts.address_eq {address : AddressAndPostcodeModel} (h : Accepts data address)
    (postcode : String) :
    (AddressViewModel.fromModel address postcode).address =
      givenLines address.addressLinesModel ++
        [address.addressLinesModel.postTown, postcode] := by
  simp only [AddressViewModel.fromModel, AddressAndPostcodeModel.toViewFormat, h.toViewFormat_eq,
    List.append_assoc, List.singleton_append]

/-- Neither a line nor the postcode is too long for the service. -/
theorem Accepts.fits {address : AddressAndPostcodeModel} (h : Accepts data address)
    {postcode : String} (hmax : utf16Length postcode ≤ Postcode.MaxLength) :
    ∀ line ∈ ((AddressViewModel.fromModel address postcode).address).map Utf16.encode,
      line.length ≤ DisposalAddressDto.LineMaxLength := by
  intro line hline
  obtain ⟨text, htext, rfl⟩ := List.mem_map.mp hline
  rw [← utf16Length_eq_length_encode]
  simp only [AddressViewModel.fromModel, AddressAndPostcodeModel.toViewFormat,
    h.toViewFormat_eq] at htext
  rcases List.mem_append.mp htext with hmem | hmem
  · exact (h.line text hmem).length_le
  · rw [List.mem_singleton.mp hmem]
    exact hmax.trans (by decide)

/-- No line of an accepted address is cut or parted, and no line is put in. -/
theorem sent_as_accepted {trade : FormData} {model : EnterAddressManuallyModel}
    {setup : SetupTradeDetailsModel} (h : (form.bindForm data).valid = some model)
    (hsetup : (SetUpTradeDetails.form.bindForm trade).valid = some setup) :
    DisposalAddressDto.fromViewModel
        (AddressViewModel.fromModel model.addressAndPostcodeModel setup.traderPostcode) =
      .ok { line := (givenLines model.addressAndPostcodeModel.addressLinesModel).map Utf16.encode
            postTown := some
              (Utf16.encode model.addressAndPostcodeModel.addressLinesModel.postTown)
            postCode := Utf16.encode (Text.without ' ' setup.traderPostcode)
            uprn := none } := by
  have haccepts := valid_bindForm_iff.mp h
  obtain ⟨-, hpostcode⟩ := SetUpTradeDetails.valid_bindForm hsetup
  obtain ⟨-, -, hmax, -⟩ := Postcode.postcode_bind_eq_ok_iff.mp hpostcode
  have hfits := haccepts.fits hmax
  rw [haccepts.address_eq, List.map_append] at hfits
  rw [DisposalAddressDto.fromViewModel, haccepts.address_eq, List.map_append, List.map_cons,
    List.map_singleton, DisposalAddressDto.fromLines_of_fit _ (by simp [givenLines]) hfits,
    Utf16.encode_without (by decide)]
  rfl

/-- A form whose second line is given. -/
def someData (line2 : String) : FormData :=
  FormData.singleton (lineKey AddressLines.BuildingNameOrNumberId) "1 Long Road." ∪
    (FormData.singleton (lineKey AddressLines.Line2Id) line2 ∪
      FormData.singleton (lineKey AddressLines.PostTownId) "Swansea")

def someModel (line2 : String) : EnterAddressManuallyModel where
  addressAndPostcodeModel := {
    addressLinesModel :=
      { buildingNameOrNumber := "1 LONG ROAD", line2 := some line2, postTown := "SWANSEA" } }

theorem accepts_someData :
    (form.bindForm (someData "(flat 2)")).valid = some (someModel "FLAT 2") := by
  decide +kernel

def someTrade : FormData :=
  FormData.singleton SetUpTradeDetails.TraderNameId "Trader" ∪
    FormData.singleton SetUpTradeDetails.TraderPostcodeId "sa99 1bd"

theorem accepts_someTrade :
    (SetUpTradeDetails.form.bindForm someTrade).valid =
      some { traderBusinessName := "TRADER", traderPostcode := "SA99 1BD" } := by
  decide +kernel

theorem sent_as_accepted_swansea :
    DisposalAddressDto.fromViewModel
        (AddressViewModel.fromModel (someModel "FLAT 2").addressAndPostcodeModel "SA99 1BD") =
      .ok { line := ["1 LONG ROAD", "FLAT 2"].map Utf16.encode
            postTown := some (Utf16.encode "SWANSEA")
            postCode := Utf16.encode "SA991BD"
            uprn := none } :=
  (sent_as_accepted accepts_someData accepts_someTrade :)

/-! ## Filling the form again -/

def keys : List String :=
  [uprnKey, lineKey AddressLines.BuildingNameOrNumberId, lineKey AddressLines.Line2Id,
    lineKey AddressLines.Line3Id, lineKey AddressLines.PostTownId]

theorem nodup_keys : keys.Nodup := by decide +kernel

/-- No key stands below another. -/
theorem not_below_keys : ∀ key ∈ keys, ∀ key' ∈ keys,
    ¬ ((key ++ ".").toList <+: key'.toList ∨ (key ++ "[").toList <+: key'.toList) := by
  decide +kernel

theorem lookup_unbindOptional {key key' : String} {value : Option String} :
    (unbindOptional key value).lookup key' = if key' = key then value else none := by
  cases value with
  | none => simp [unbindOptional]
  | some value => exact FormData.lookup_singleton

theorem lookup_unbind (model : EnterAddressManuallyModel) (key : String) :
    (unbind model).lookup key =
      if key = uprnKey then model.addressAndPostcodeModel.uprn.map toString
      else if key = lineKey AddressLines.BuildingNameOrNumberId then
        some model.addressAndPostcodeModel.addressLinesModel.buildingNameOrNumber
      else if key = lineKey AddressLines.Line2Id then
        model.addressAndPostcodeModel.addressLinesModel.line2
      else if key = lineKey AddressLines.Line3Id then
        model.addressAndPostcodeModel.addressLinesModel.line3
      else if key = lineKey AddressLines.PostTownId then
        some model.addressAndPostcodeModel.addressLinesModel.postTown
      else none := by
  have hnodup := nodup_keys
  simp only [keys, List.nodup_cons, List.mem_cons, List.not_mem_nil, or_false, not_or] at hnodup
  simp only [unbind, AddressAndPostcode.unbind, AddressLines.unbind, FormData.lookup_union,
    lookup_unbindOptional, FormData.lookup_singleton]
  change ((if key = uprnKey then _ else none).or
    ((if key = lineKey AddressLines.BuildingNameOrNumberId then _ else none).or
      ((if key = lineKey AddressLines.Line2Id then _ else none).or
        ((if key = lineKey AddressLines.Line3Id then _ else none).or
          (if key = lineKey AddressLines.PostTownId then _ else none))))) = _
  generalize uprnKey = k1 at *
  generalize lineKey AddressLines.BuildingNameOrNumberId = k2 at *
  generalize lineKey AddressLines.Line2Id = k3 at *
  generalize lineKey AddressLines.Line3Id = k4 at *
  generalize lineKey AddressLines.PostTownId = k5 at *
  grind

theorem mem_keys_of_lookup_unbind {model : EnterAddressManuallyModel} {key value : String}
    (h : (unbind model).lookup key = some value) : key ∈ keys := by
  rw [lookup_unbind] at h
  simp only [keys, List.mem_cons, List.not_mem_nil, or_false]
  split_ifs at h <;> simp_all

theorem submitted_unbind_iff {model : EnterAddressManuallyModel} {key : String}
    (hkey : key ∈ keys) :
    Mapping.Submitted key (unbind model) ↔
      ∃ value, (unbind model).lookup key = some value ∧ value ≠ "" :=
  Mapping.submitted_iff fun key' _ hlookup =>
    not_below_keys key hkey key' (mem_keys_of_lookup_unbind hlookup)

/-- A line that was bound is bound again. -/
theorem Accepts.fieldTransform_eq_self (h : Accepts data model) :
    ∀ line ∈ givenLines model.addressLinesModel ++ [model.addressLinesModel.postTown],
      AddressLines.fieldTransform line = line := by
  intro line hline
  have hupper := h.toUpperCase_eq_self line hline
  obtain ⟨raw, hraw⟩ := (h.line line hline).exists_raw
  rw [AddressLines.fieldTransform, hupper, ← hraw]
  exact Text.trim_trim _ _

/-- A line that may be missing has a letter or a digit left, if it is submitted. -/
def Kept (data : FormData) (key : String) : Prop :=
  Mapping.Submitted key data →
    ∀ raw ∈ data.lookup key, ∃ c ∈ (toUpperCase raw).toList, c.isAlphanum = true

theorem fieldTransform_ne_empty_iff {raw : String} :
    AddressLines.fieldTransform raw ≠ "" ↔
      ∃ c ∈ (toUpperCase raw).toList, c.isAlphanum = true := by
  rw [AddressLines.fieldTransform, FormExtensions.trimNonWhiteListedChars, ne_eq,
    Text.trim_eq_empty_iff]
  simp only [not_forall, Bool.not_eq_true', Bool.not_eq_false, exists_prop]

theorem kept_iff {key : String} {line : Option String}
    (h : optionalLine.bind key data = .ok line) : Kept data key ↔ ∀ l ∈ line, l ≠ "" := by
  simp only [Kept, ← fieldTransform_ne_empty_iff]
  rcases optionalLine_bind_eq_ok_iff.mp h with ⟨hsubmitted, raw, hraw, rfl, -⟩ | ⟨hnot, rfl⟩
  · simp [hsubmitted, hraw]
  · simp [hnot]

theorem optionalLine_bind_unbind {model : EnterAddressManuallyModel} {key : String}
    {line : Option String} (hkey : key ∈ keys) (hlookup : (unbind model).lookup key = line)
    (hne : ∀ l ∈ line, l ≠ "") (hsame : ∀ l ∈ line, AddressLines.fieldTransform l = l)
    (hlength : ∀ l ∈ line, utf16Length l ≤ AddressLines.LineMaxLength) :
    optionalLine.bind key (unbind model) = .ok line := by
  rw [optionalLine_bind_eq_ok_iff, submitted_unbind_iff hkey]
  cases line with
  | none => exact .inr ⟨by simp [hlookup], rfl⟩
  | some line =>
      have hline := hsame line rfl
      refine .inl ⟨⟨line, hlookup, hne line rfl⟩, line, hlookup, by rw [hline], ?_⟩
      rw [hline]
      exact hlength line rfl

theorem uprn_bind_unbind {model : EnterAddressManuallyModel} {data : FormData} {key : String}
    (h : Uprn.uprn.bind key data = .ok model.addressAndPostcodeModel.uprn) :
    Uprn.uprn.bind uprnKey (unbind model) = .ok model.addressAndPostcodeModel.uprn := by
  have hnumber : ∀ {key data n},
      number.bind key data = .ok n ↔ ∃ s, data.lookup key = some s ∧ toInt s = some n := by
    intro key data n
    rw [← number_bindValue_eq_ok_iff, bind_eq_ok_iff]
    simp [number]
  have hlookup := lookup_unbind model uprnKey
  rw [if_pos rfl] at hlookup
  rw [Uprn.uprn, Mapping.optional_bind_eq_ok_iff] at h ⊢
  rw [submitted_unbind_iff (by simp [keys])]
  rcases h with ⟨-, n, huprn, hn⟩ | ⟨-, huprn⟩
  · obtain ⟨s, -, hs⟩ := hnumber.mp hn
    rw [huprn, Option.map_some] at hlookup
    have hne : toString n ≠ "" := by
      intro hempty
      have hread := toInt_toString (bounds_of_toInt hs)
      rw [hempty] at hread
      cases hread
    refine .inl ⟨⟨_, hlookup, hne⟩, n, huprn, hnumber.mpr ⟨_, hlookup, ?_⟩⟩
    exact toInt_toString (bounds_of_toInt hs)
  · rw [huprn, Option.map_none] at hlookup
    exact .inr ⟨by simp [hlookup], huprn⟩

/-- Every line of the address that is shown is filled in, and the form is accepted again with the
same address. -/
def ShownAgain (model : EnterAddressManuallyModel) (postcode : String) : Prop :=
  (∀ line ∈ (AddressViewModel.fromModel model.addressAndPostcodeModel postcode).address,
      line ≠ "") ∧
    (form.bindForm (unbind model)).valid = some model

theorem mem_shown_iff (h : Accepts data model) {postcode line : String} :
    line ∈ (AddressViewModel.fromModel model postcode).address ↔
      line = model.addressLinesModel.buildingNameOrNumber ∨
        line ∈ model.addressLinesModel.line2 ∨ line ∈ model.addressLinesModel.line3 ∨
        line = model.addressLinesModel.postTown ∨ line = postcode := by
  simp only [AddressViewModel.fromModel, AddressAndPostcodeModel.toViewFormat, h.toViewFormat_eq,
    List.mem_append, givenLines, List.reduceOption_mem_iff, List.mem_cons, List.not_mem_nil,
    or_false, Option.mem_def, Option.some.injEq, eq_comm, or_assoc]

theorem ne_empty_of_any {s : String} (h : s.toList.any (' ' < ·) = true) : s ≠ "" := by
  rintro rfl
  cases h

/-- A line that must be given is there, and is bound again. -/
theorem mandatoryLine_bind_unbind {minLength : ℕ} {key line : String} {other : FormData}
    (h : (mandatoryLine minLength).bind key data = .ok line)
    (hlookup : other.lookup key = some line) (hsame : AddressLines.fieldTransform line = line) :
    (mandatoryLine minLength).bind key other = .ok line := by
  rw [mandatoryLine_bind_eq_ok_iff] at h ⊢
  exact ⟨⟨line, hlookup, hsame⟩, h.2⟩

theorem Accepts.unbind {model : EnterAddressManuallyModel}
    (h : Accepts data model.addressAndPostcodeModel)
    (hline2 : ∀ line ∈ model.addressAndPostcodeModel.addressLinesModel.line2, line ≠ "")
    (hline3 : ∀ line ∈ model.addressAndPostcodeModel.addressLinesModel.line3, line ≠ "") :
    Accepts (unbind model) model.addressAndPostcodeModel := by
  have hsame := h.fieldTransform_eq_self
  have hlines := h.line
  simp only [givenLines, List.mem_append, List.reduceOption_mem_iff, List.mem_cons,
    List.not_mem_nil, or_false, Option.some.injEq, or_imp, forall_and, forall_eq] at hsame hlines
  obtain ⟨⟨hbuilding, hsame2, hsame3⟩, hpostTown⟩ := hsame
  obtain ⟨⟨-, hlines2, hlines3⟩, -⟩ := hlines
  have hnodup := nodup_keys
  simp only [keys, List.nodup_cons, List.mem_cons, List.not_mem_nil, or_false, not_or] at hnodup
  refine ⟨uprn_bind_unbind h.uprn, ?_, ?_, ?_, ?_, h.valid⟩
  · refine mandatoryLine_bind_unbind h.buildingNameOrNumber ?_ hbuilding
    simp [lookup_unbind, Ne.symm hnodup.1.1]
  · refine optionalLine_bind_unbind (by simp [keys]) ?_ hline2 (fun l hl => hsame2 l hl.symm)
      fun l hl => (hlines2 l hl.symm).length_le
    simp [lookup_unbind, Ne.symm hnodup.1.2.1, Ne.symm hnodup.2.1.1]
  · refine optionalLine_bind_unbind (by simp [keys]) ?_ hline3 (fun l hl => hsame3 l hl.symm)
      fun l hl => (hlines3 l hl.symm).length_le
    simp [lookup_unbind, Ne.symm hnodup.1.2.2.1, Ne.symm hnodup.2.1.2.1, Ne.symm hnodup.2.2.1.1]
  · refine mandatoryLine_bind_unbind h.postTown ?_ hpostTown
    simp [lookup_unbind, Ne.symm hnodup.1.2.2.2, Ne.symm hnodup.2.1.2.2, Ne.symm hnodup.2.2.1.2,
      Ne.symm hnodup.2.2.2.1]

/-- An accepted address is shown and accepted again exactly if the second and the third line were
not made empty. -/
theorem shownAgain_iff {model : EnterAddressManuallyModel} {postcode : String}
    (h : (form.bindForm data).valid = some model) (hpostcode : postcode ≠ "") :
    ShownAgain model postcode ↔
      Kept data (lineKey AddressLines.Line2Id) ∧ Kept data (lineKey AddressLines.Line3Id) := by
  have haccepts := valid_bindForm_iff.mp h
  rw [kept_iff haccepts.line2, kept_iff haccepts.line3]
  constructor
  · rintro ⟨hshown, -⟩
    constructor
    · intro line hline
      exact hshown line ((mem_shown_iff haccepts).mpr (.inr (.inl hline)))
    · intro line hline
      exact hshown line ((mem_shown_iff haccepts).mpr (.inr (.inr (.inl hline))))
  · rintro ⟨hline2, hline3⟩
    refine ⟨?_, valid_bindForm_iff.mpr (haccepts.unbind hline2 hline3)⟩
    intro line hline
    obtain ⟨-, -, -, hbuilding⟩ := mandatoryLine_bind_eq_ok_iff.mp haccepts.buildingNameOrNumber
    obtain ⟨-, -, -, hpostTown⟩ := mandatoryLine_bind_eq_ok_iff.mp haccepts.postTown
    rcases (mem_shown_iff haccepts).mp hline with rfl | hline | hline | rfl | rfl
    · exact ne_empty_of_any hbuilding
    · exact hline2 line hline
    · exact hline3 line hline
    · exact ne_empty_of_any hpostTown
    · exact hpostcode

theorem shownAgain_iff_swansea :
    ShownAgain (someModel "FLAT 2") "SA99 1BD" ↔
      Kept (someData "(flat 2)") (lineKey AddressLines.Line2Id) ∧
        Kept (someData "(flat 2)") (lineKey AddressLines.Line3Id) :=
  shownAgain_iff accepts_someData (by decide)

/-- A second line of marks alone is accepted, leaves an empty line, and is not given any more when
the form is filled again. -/
theorem blank_second_line :
    (form.bindForm (someData "---")).valid = some (someModel "") ∧
      "" ∈ (AddressViewModel.fromModel (someModel "").addressAndPostcodeModel "SA99 1BD").address ∧
      ∃ model, (form.bindForm (unbind (someModel ""))).valid = some model ∧
        model.addressAndPostcodeModel.addressLinesModel.line2 = none := by
  refine ⟨by decide +kernel, by decide +kernel, ?_⟩
  refine ⟨{ addressAndPostcodeModel := { addressLinesModel :=
    { buildingNameOrNumber := "1 LONG ROAD", postTown := "SWANSEA" } } }, ?_, rfl⟩
  decide +kernel

end EnterAddressManually

end VehiclesOnline
