import VehiclesOnline.Wizard.Addresses

/-! # The lines of an address as the dispose service takes them -/

namespace VehiclesOnline

namespace DisposalAddressDto

open Utf16 (Units)

variable {lines : List Units} {town postcode : Units}

/-! ## What becomes of the lines in front of the town -/

/-- The part of a line that the service takes. -/
def cut (line : Units) : Units := line.take LineMaxLength

/-- The lines of an address that has one that is too long, or whose town or postcode is. A long
building or second line flows into a line behind it that is empty or missing, and a missing line
is put in whether something flows into it or not. -/
def overflowed : List Units → List Units
  | [] => []
  | [building] =>
      if LineMaxLength < building.length then [cut building, building.drop LineMaxLength]
      else [building, emptyLine]
  | [building, line2] =>
      if LineMaxLength < building.length then
        [cut building, building.drop LineMaxLength, line2]
      else if LineMaxLength < line2.length then [building, cut line2, line2.drop LineMaxLength]
      else [building, line2, emptyLine]
  | building :: line2 :: line3 :: rest =>
      if LineMaxLength < building.length then
        if line2 = emptyLine then cut building :: building.drop LineMaxLength :: line3 :: rest
        else if line3 = emptyLine then
          cut building :: building.drop LineMaxLength :: line2 :: rest
        else building :: line2 :: line3 :: rest
      else if LineMaxLength < line2.length ∧ line3 = emptyLine then
        building :: cut line2 :: line2.drop LineMaxLength :: rest
      else building :: line2 :: line3 :: rest

/-- The lines that are sent for the lines of an address. -/
def sentLines (trimRequired : Bool) (lines : List Units) : List Units :=
  if trimRequired then (overflowed lines).map cut else lines

/-- An address of a town and a postcode alone is given a line. -/
def mandatoryLines (lines : List Units) : List Units :=
  if lines = [] then [BuildingNameOrNumberHolder] else lines

theorem linesOverMaxLength_iff {address : List Units} :
    linesOverMaxLength address = true ↔ ∃ line ∈ address, LineMaxLength < line.length := by
  induction address with
  | nil => simp [linesOverMaxLength]
  | cons head tail ih =>
      rw [linesOverMaxLength]
      by_cases h : head.length > LineMaxLength
      · simp [h]
      · simp [h, ih]

theorem cut_eq_self {line : Units} (h : line.length ≤ LineMaxLength) : cut line = line :=
  List.take_of_length_le h

theorem length_cut_le (line : Units) : (cut line).length ≤ LineMaxLength :=
  List.length_take_le _ _

@[simp] theorem cut_cut (line : Units) : cut (cut line) = cut line :=
  cut_eq_self (length_cut_le line)

@[simp] theorem cut_nil : cut [] = [] := rfl

theorem trimLines_eq_map (accumulatedAddress address : List Units) :
    trimLines accumulatedAddress address = accumulatedAddress ++ address.map cut := by
  induction address generalizing accumulatedAddress with
  | nil => simp [trimLines]
  | cons head tail ih =>
      rw [trimLines]
      by_cases h : head.length > LineMaxLength
      · simp [h, ih, cut]
      · simp [h, ih, cut_eq_self (Nat.le_of_not_gt h)]

/-- A rebuilt address, given what was decided about its lines. -/
theorem rebuildDisposalAddressDto_of_decided {building line2 line3 : Units}
    {rest amended : List Units} (uprn : Option ℤ)
    (hassigned : assignEmptyLines (lines ++ [town, postcode]) = building :: line2 :: line3 :: rest)
    (hdecided : addressLinesDecider (decide (building.length > LineMaxLength))
      (decide (line2.length > LineMaxLength)) (line2 = emptyLine) (line3 = emptyLine) building line2
      (building :: line2 :: line3 :: rest) = amended ++ [town, postcode]) :
    rebuildDisposalAddressDto uprn (lines ++ [town, postcode]) =
      .ok { line := amended.map cut
            postTown := some (cut town)
            postCode := withoutSpaces postcode
            uprn := uprn } := by
  have hlast : last (lines ++ [town, postcode]) = .ok postcode := by
    simp [last, List.getLast?_append]
  have htown : last ((amended ++ [town]).map cut) = .ok (cut town) := by
    simp [last, List.getLast?_append]
  have hdrop : (amended ++ [town, postcode]).dropLast = amended ++ [town] := by
    rw [List.append_cons, List.dropLast_concat]
  simp only [rebuildDisposalAddressDto, hassigned, lineAt, List.getElem?_cons_zero,
    List.getElem?_cons_succ, hlast, bind, Except.bind, hdecided, hdrop, trimLines_eq_map,
    List.nil_append, htown]
  simp [pure, Except.pure]

theorem rebuildDisposalAddressDto_append (uprn : Option ℤ) (h : lines ≠ []) :
    rebuildDisposalAddressDto uprn (lines ++ [town, postcode]) =
      .ok { line := (overflowed lines).map cut
            postTown := some (cut town)
            postCode := withoutSpaces postcode
            uprn := uprn } := by
  rcases lines with _ | ⟨building, _ | ⟨line2, _ | ⟨line3, rest⟩⟩⟩
  · exact absurd rfl h
  · refine rebuildDisposalAddressDto_of_decided uprn rfl ?_
    by_cases hbuilding : LineMaxLength < building.length
    · simp [overflowed, addressLinesDecider, hbuilding, cut]
    · simp [overflowed, addressLinesDecider, hbuilding, emptyLine]
  · refine rebuildDisposalAddressDto_of_decided uprn rfl ?_
    by_cases hbuilding : LineMaxLength < building.length
    · by_cases hline2 : line2 = emptyLine
      · simp [overflowed, addressLinesDecider, hbuilding, hline2, cut]
      · simp [overflowed, addressLinesDecider, hbuilding, hline2, cut]
    · by_cases hline2 : LineMaxLength < line2.length
      · have hne : line2 ≠ emptyLine := by
          rintro rfl
          simp [emptyLine] at hline2
        simp [overflowed, addressLinesDecider, hbuilding, hline2, hne, cut]
      · simp [overflowed, addressLinesDecider, hbuilding, hline2]
  · have hassigned : assignEmptyLines ((building :: line2 :: line3 :: rest) ++ [town, postcode]) =
        building :: line2 :: line3 :: (rest ++ [town, postcode]) := by
      rcases rest with _ | ⟨line4, rest⟩
      · rfl
      · cases rest <;> rfl
    refine rebuildDisposalAddressDto_of_decided uprn hassigned ?_
    by_cases hbuilding : LineMaxLength < building.length
    · by_cases hline2 : line2 = emptyLine
      · simp [overflowed, addressLinesDecider, hbuilding, hline2, cut]
      · by_cases hline3 : line3 = emptyLine
        · simp [overflowed, addressLinesDecider, hbuilding, hline2, hline3, cut]
        · simp [overflowed, addressLinesDecider, hbuilding, hline2, hline3]
    · by_cases hline2 : LineMaxLength < line2.length
      · have hne : line2 ≠ emptyLine := by
          rintro rfl
          simp [emptyLine] at hline2
        by_cases hline3 : line3 = emptyLine
        · simp [overflowed, addressLinesDecider, hbuilding, hline2, hne, hline3, cut]
        · simp [overflowed, addressLinesDecider, hbuilding, hline2, hne, hline3]
      · simp [overflowed, addressLinesDecider, hbuilding, hline2]

theorem buildStandardDisposalAddressDto_append (uprn : Option ℤ) :
    buildStandardDisposalAddressDto uprn (lines ++ [town, postcode]) =
      .ok { line := lines
            postTown := some town
            postCode := withoutSpaces postcode
            uprn := uprn } := by
  have hlast : last (lines ++ [town, postcode]) = .ok postcode := by
    simp [last, List.getLast?_append]
  have htown : lineAt ((lines ++ [town, postcode]).rtake 2) 0 = .ok town := by
    simp [lineAt, List.rtake]
  have hlines : (lines ++ [town, postcode]).rdrop 2 = lines := by
    simp [List.rdrop]
  simp only [buildStandardDisposalAddressDto, hlast, htown, hlines, bind, Except.bind]
  rfl

/-- An address that ends in a town and a postcode, as it is sent. -/
theorem fromLines_append (uprn : Option ℤ) (lines : List Units) (town postcode : Units) :
    fromLines uprn (lines ++ [town, postcode]) =
      .ok
        { line := sentLines (linesOverMaxLength (lines ++ [town, postcode])) (mandatoryLines lines)
          postTown := some (cut town)
          postCode := withoutSpaces postcode
          uprn := uprn } := by
  have hmandatory : (if (lines ++ [town, postcode]).length = 2 then
      BuildingNameOrNumberHolder :: (lines ++ [town, postcode])
      else lines ++ [town, postcode]) = mandatoryLines lines ++ [town, postcode] := by
    cases lines <;> simp [mandatoryLines]
  have hne : mandatoryLines lines ≠ [] := by
    rw [mandatoryLines]
    split
    · simp
    · next h => exact h
  rw [fromLines, hmandatory]
  cases hover : linesOverMaxLength (lines ++ [town, postcode]) with
  | true => exact rebuildDisposalAddressDto_append uprn hne
  | false =>
      have htown : ¬ LineMaxLength < town.length := by
        intro h
        rw [linesOverMaxLength_iff.mpr ⟨town, by simp, h⟩] at hover
        cases hover
      simp only [sentLines, cut_eq_self (Nat.le_of_not_lt htown)]
      exact buildStandardDisposalAddressDto_append uprn

/-- Every address of two entries or more ends in a town and a postcode. -/
theorem exists_eq_append {address : List Units} (h : 2 ≤ address.length) :
    ∃ lines town postcode, address = lines ++ [town, postcode] := by
  have hsplit : address = address.rdrop 2 ++ address.rtake 2 :=
    (List.take_append_drop (address.length - 2) address).symm
  have hlength : (address.rtake 2).length = 2 := by
    rw [List.rtake, List.length_drop]
    omega
  obtain ⟨town, postcode, hpair⟩ := List.length_eq_two.mp hlength
  exact ⟨address.rdrop 2, town, postcode, hpair ▸ hsplit⟩

/-- An address that fits is sent as it is. -/
theorem fromLines_of_fit (uprn : Option ℤ) (hlines : lines ≠ [])
    (h : ∀ line ∈ lines ++ [town, postcode], line.length ≤ LineMaxLength) :
    fromLines uprn (lines ++ [town, postcode]) =
      .ok { line := lines
            postTown := some town
            postCode := withoutSpaces postcode
            uprn := uprn } := by
  have hover : linesOverMaxLength (lines ++ [town, postcode]) = false := by
    rw [Bool.eq_false_iff, ne_eq, linesOverMaxLength_iff]
    rintro ⟨line, hline, hlong⟩
    exact absurd (h line hline) (Nat.not_le_of_lt hlong)
  rw [fromLines_append, hover, mandatoryLines, if_neg hlines, cut_eq_self (h town (by simp))]
  rfl

/-! ## The limits of the service -/

theorem length_le_of_mem_sentLines {line : Units}
    (hline : line ∈ sentLines (linesOverMaxLength (lines ++ [town, postcode]))
      (mandatoryLines lines)) : line.length ≤ LineMaxLength := by
  cases hover : linesOverMaxLength (lines ++ [town, postcode]) with
  | true =>
      rw [hover, sentLines, if_pos rfl] at hline
      obtain ⟨line, -, rfl⟩ := List.mem_map.mp hline
      exact length_cut_le line
  | false =>
      rw [hover, sentLines, if_neg Bool.false_ne_true, mandatoryLines] at hline
      by_cases hlines : lines = []
      · rw [if_pos hlines, List.mem_singleton] at hline
        subst hline
        decide
      · rw [if_neg hlines] at hline
        by_contra hlong
        rw [linesOverMaxLength_iff.mpr ⟨line, by simp [hline], Nat.lt_of_not_le hlong⟩] at hover
        cases hover

/-- An address of fewer than three lines gets a line more, a longer one none. -/
theorem length_overflowed (h : lines ≠ []) :
    (overflowed lines).length = if lines.length < 3 then lines.length + 1 else lines.length := by
  rcases lines with _ | ⟨building, _ | ⟨line2, _ | ⟨line3, rest⟩⟩⟩
  · exact absurd rfl h
  · simp only [overflowed]
    split <;> simp
  · rw [if_pos (by simp), overflowed]
    split_ifs <;> simp
  · rw [if_neg (by simp), overflowed]
    split_ifs <;> simp

theorem length_mandatoryLines : (mandatoryLines lines).length = max 1 lines.length := by
  cases lines <;> simp [mandatoryLines]

theorem length_sentLines (trimRequired : Bool) :
    1 ≤ (sentLines trimRequired (mandatoryLines lines)).length ∧
      (lines.length ≤ 3 → (sentLines trimRequired (mandatoryLines lines)).length ≤ 3) := by
  have hlength : (mandatoryLines lines).length = max 1 lines.length := length_mandatoryLines
  have hne : mandatoryLines lines ≠ [] := List.ne_nil_of_length_pos (by omega)
  cases trimRequired with
  | false =>
      simp only [sentLines, if_neg Bool.false_ne_true]
      omega
  | true =>
      simp only [sentLines, if_pos, List.length_map, length_overflowed hne]
      split <;> omega

/-- Whatever the lines of an address are, what is sent of them keeps to the limits. -/
theorem fromLines_respectsLimits (uprn : Option ℤ) {address : List Units}
    (h : 2 ≤ address.length) :
    ∃ dto, fromLines uprn address = .ok dto ∧
      (∀ line ∈ dto.line, line.length ≤ 30) ∧
      dto.postTown = some (address[address.length - 2].take 30) ∧
      dto.postCode = withoutSpaces address[address.length - 1] ∧
      dto.uprn = uprn ∧
      1 ≤ dto.line.length ∧ (address.length ≤ 5 → dto.line.length ≤ 3) := by
  obtain ⟨lines, town, postcode, rfl⟩ := exists_eq_append h
  refine ⟨_, fromLines_append uprn lines town postcode, fun line => length_le_of_mem_sentLines,
    ?_, ?_, rfl, (length_sentLines _).1, ?_⟩
  · simp [cut, LineMaxLength]
  · simp
  · intro hfive
    refine (length_sentLines _).2 ?_
    simp only [List.length_append, List.length_cons, List.length_nil] at hfive
    omega

/-- A long building of which the service takes half. -/
theorem fromLines_respectsLimits_long :
    ∃ dto, fromLines none [List.replicate 60 66, Utf16.encode "Town", Utf16.encode "AA1 1AA"] =
        .ok dto ∧
      (∀ line ∈ dto.line, line.length ≤ 30) ∧
      dto.postTown = some ((Utf16.encode "Town").take 30) ∧
      dto.postCode = withoutSpaces (Utf16.encode "AA1 1AA") ∧
      dto.uprn = none ∧ 1 ≤ dto.line.length ∧ (3 ≤ 5 → dto.line.length ≤ 3) :=
  fromLines_respectsLimits none (by decide)

/-! ## Overflows that have somewhere to go -/

/-- The line at a position, and the empty line where there is none. -/
def lineOrEmpty (lines : List Units) (index : ℕ) : Units := lines.getD index emptyLine

@[simp] theorem lineOrEmpty_cons_zero (line : Units) (lines : List Units) :
    lineOrEmpty (line :: lines) 0 = line := rfl

@[simp] theorem lineOrEmpty_cons_succ (line : Units) (lines : List Units) (index : ℕ) :
    lineOrEmpty (line :: lines) (index + 1) = lineOrEmpty lines index := rfl

@[simp] theorem lineOrEmpty_nil (index : ℕ) : lineOrEmpty [] index = emptyLine := rfl

/-- At most one of the first two lines is too long, and the line behind it is empty or missing; no
other line is too long. -/
structure HasRoom (lines : List Units) : Prop where
  others : ∀ line ∈ lines.drop 2, line.length ≤ 30
  overflow :
    (31 ≤ (lineOrEmpty lines 0).length ∧ (lineOrEmpty lines 0).length ≤ 60 ∧
        (lineOrEmpty lines 1 = emptyLine ∨
          (lineOrEmpty lines 1).length ≤ 30 ∧ lineOrEmpty lines 2 = emptyLine)) ∨
      ((lineOrEmpty lines 0).length ≤ 30 ∧ (lineOrEmpty lines 1).length ≤ 60 ∧
        (30 < (lineOrEmpty lines 1).length → lineOrEmpty lines 2 = emptyLine))

theorem flatten_map_cut {lines : List Units} (h : ∀ line ∈ lines, line.length ≤ LineMaxLength) :
    (lines.map cut).flatten = lines.flatten := by
  rw [List.map_congr_left fun line hline => cut_eq_self (h line hline), List.map_id']

/-- A line of at most twice the length is no longer than its two parts. -/
theorem cut_append_cut_drop {line : Units} (h : line.length ≤ 60) (rest : Units) :
    cut line ++ (cut (line.drop LineMaxLength) ++ rest) = line ++ rest := by
  have hlength : (line.drop LineMaxLength).length ≤ LineMaxLength := by
    rw [List.length_drop, LineMaxLength]
    omega
  rw [cut_eq_self hlength, ← List.append_assoc, cut, List.take_append_drop]

theorem HasRoom.building_le (h : HasRoom lines) : (lineOrEmpty lines 0).length ≤ 60 := by
  rcases h.overflow with ⟨-, hle, -⟩ | ⟨hle, -⟩
  · exact hle
  · omega

/-- A long building leaves no other line long. -/
theorem HasRoom.line2_of_building (h : HasRoom lines)
    (hbuilding : LineMaxLength < (lineOrEmpty lines 0).length) :
    (lineOrEmpty lines 1).length ≤ LineMaxLength ∧
      (lineOrEmpty lines 1 ≠ emptyLine → lineOrEmpty lines 2 = emptyLine) := by
  rcases h.overflow with ⟨-, -, hempty | ⟨hle, hline3⟩⟩ | ⟨hle, -⟩
  · exact ⟨by simp [hempty, emptyLine], fun hne => absurd hempty hne⟩
  · exact ⟨hle, fun _ => hline3⟩
  · exact absurd hle (Nat.not_le_of_lt hbuilding)

theorem HasRoom.line3_of_line2 (h : HasRoom lines)
    (hbuilding : ¬ LineMaxLength < (lineOrEmpty lines 0).length)
    (hline2 : LineMaxLength < (lineOrEmpty lines 1).length) :
    (lineOrEmpty lines 1).length ≤ 60 ∧ lineOrEmpty lines 2 = emptyLine := by
  rcases h.overflow with ⟨hlt, -, -⟩ | ⟨-, hle, hline3⟩
  · exact absurd hlt hbuilding
  · exact ⟨hle, hline3 hline2⟩

/-- No character of the lines is lost, doubled or moved. -/
theorem flatten_map_cut_overflowed (h : HasRoom lines) :
    ((overflowed lines).map cut).flatten = lines.flatten := by
  have hothers := flatten_map_cut h.others
  have hparts := cut_append_cut_drop h.building_le
  have hbuildingRoom := h.line2_of_building
  have hline2Room := h.line3_of_line2
  rcases lines with _ | ⟨building, _ | ⟨line2, _ | ⟨line3, rest⟩⟩⟩
  · rfl
  · by_cases hbuilding : LineMaxLength < building.length
    · simpa [overflowed, hbuilding] using hparts []
    · simp [overflowed, hbuilding, emptyLine, cut_eq_self (Nat.le_of_not_lt hbuilding)]
  · by_cases hbuilding : LineMaxLength < building.length
    · have hline2 : cut line2 = line2 := cut_eq_self (hbuildingRoom hbuilding).1
      simpa [overflowed, hbuilding, hline2] using hparts line2
    · by_cases hline2 : LineMaxLength < line2.length
      · obtain ⟨hle, -⟩ := hline2Room hbuilding hline2
        simpa [overflowed, hbuilding, hline2, cut_eq_self (Nat.le_of_not_lt hbuilding)] using
          cut_append_cut_drop hle []
      · simp [overflowed, hbuilding, hline2, emptyLine, cut_eq_self (Nat.le_of_not_lt hbuilding),
          cut_eq_self (Nat.le_of_not_lt hline2)]
  · simp only [List.drop_succ_cons, List.drop_zero, List.map_cons, List.flatten_cons] at hothers
    by_cases hbuilding : LineMaxLength < building.length
    · by_cases hne : line2 = emptyLine
      · rw [overflowed, if_pos hbuilding, if_pos hne]
        simpa [hothers, hne, emptyLine] using hparts (line3 ++ rest.flatten)
      · have hline2 : cut line2 = line2 := cut_eq_self (hbuildingRoom hbuilding).1
        obtain rfl : line3 = emptyLine := (hbuildingRoom hbuilding).2 hne
        rw [overflowed, if_pos hbuilding, if_neg hne, if_pos rfl]
        simp only [emptyLine, cut_nil, List.nil_append] at hothers
        simpa [hothers, hline2, emptyLine] using hparts (line2 ++ rest.flatten)
    · have hcut : cut building = building := cut_eq_self (Nat.le_of_not_lt hbuilding)
      by_cases hline2 : LineMaxLength < line2.length
      · obtain rfl : line3 = emptyLine := (hline2Room hbuilding hline2).2
        rw [overflowed, if_neg hbuilding, if_pos ⟨hline2, rfl⟩]
        simp only [emptyLine, cut_nil, List.nil_append] at hothers
        simpa [hothers, hcut, emptyLine] using
          cut_append_cut_drop (hline2Room hbuilding hline2).1 rest.flatten
      · rw [overflowed, if_neg hbuilding, if_neg fun h => hline2 h.1]
        simp [hothers, hcut, cut_eq_self (Nat.le_of_not_lt hline2)]

/-- An overflow that has somewhere to go loses nothing, however long the town and the postcode
are. -/
theorem flatten_line_of_hasRoom (uprn : Option ℤ) {lines : List Units} (hlines : lines ≠ [])
    (h : HasRoom lines) (town postcode : Units) :
    ∃ dto, fromLines uprn (lines ++ [town, postcode]) = .ok dto ∧
      dto.line.flatten = lines.flatten := by
  refine ⟨_, fromLines_append uprn lines town postcode, ?_⟩
  rw [mandatoryLines, if_neg hlines, sentLines]
  split
  · exact flatten_map_cut_overflowed h
  · rfl

/-- A building of sixty characters, which fills two lines. -/
theorem flatten_line_of_hasRoom_sixty :
    ∃ dto, fromLines none ([List.replicate 60 66] ++ [Utf16.encode "Town", Utf16.encode "AA11AA"]) =
        .ok dto ∧
      dto.line.flatten = [List.replicate 60 66].flatten :=
  flatten_line_of_hasRoom none (List.cons_ne_nil _ _) ⟨by simp, by simp [emptyLine]⟩ _ _

/-! ## Addresses all of whose lines fit -/

/-- The lines are sent as they are, and the town is cut. -/
def SentAsTheyAre (uprn : Option ℤ) (lines : List Units) (town postcode : Units) : Prop :=
  fromLines uprn (lines ++ [town, postcode]) =
    .ok { line := lines
          postTown := some (town.take 30)
          postCode := withoutSpaces postcode
          uprn := uprn }

/-- Lines that fit are put back as they are, with an empty line behind them if there are fewer
than three. -/
theorem overflowed_of_fit (h : ∀ line ∈ lines, line.length ≤ LineMaxLength) (hlines : lines ≠ []) :
    (overflowed lines).map cut = if lines.length < 3 then lines ++ [emptyLine] else lines := by
  have hcut : lines.map cut = lines := by
    rw [List.map_congr_left fun line hline => cut_eq_self (h line hline), List.map_id']
  rcases lines with _ | ⟨building, _ | ⟨line2, _ | ⟨line3, rest⟩⟩⟩
  · exact absurd rfl hlines
  · have hbuilding := h building (by simp)
    rw [overflowed, if_neg (Nat.not_lt_of_le hbuilding)]
    simp [cut_eq_self hbuilding, emptyLine]
  · have hbuilding := h building (by simp)
    have hline2 := h line2 (by simp)
    rw [overflowed, if_neg (Nat.not_lt_of_le hbuilding), if_neg (Nat.not_lt_of_le hline2)]
    simp [cut_eq_self hbuilding, cut_eq_self hline2, emptyLine]
  · have hbuilding := h building (by simp)
    have hline2 := h line2 (by simp)
    rw [overflowed, if_neg (Nat.not_lt_of_le hbuilding),
      if_neg fun hlt => Nat.not_lt_of_le hline2 hlt.1, if_neg (by simp), hcut]

/-- Lines that fit are sent as they are exactly if the town and the postcode fit as well, or no
line is put in for an overflow. -/
theorem sentAsTheyAre_iff (uprn : Option ℤ) {lines : List Units} (hlines : lines ≠ [])
    (h : ∀ line ∈ lines, line.length ≤ 30) (town postcode : Units) :
    SentAsTheyAre uprn lines town postcode ↔
      (town.length ≤ 30 ∧ postcode.length ≤ 30) ∨ 5 ≤ (lines ++ [town, postcode]).length := by
  have hover : linesOverMaxLength (lines ++ [town, postcode]) = true ↔
      ¬ (town.length ≤ 30 ∧ postcode.length ≤ 30) := by
    rw [linesOverMaxLength_iff, not_and_or, Nat.not_le, Nat.not_le]
    constructor
    · rintro ⟨line, hline, hlong⟩
      rcases List.mem_append.mp hline with hmem | hmem
      · exact absurd (h line hmem) (Nat.not_le_of_lt hlong)
      · rcases List.mem_pair.mp hmem with rfl | rfl
        · exact .inl hlong
        · exact .inr hlong
    · intro hlong
      rcases hlong with hlong | hlong
      · exact ⟨town, by simp, hlong⟩
      · exact ⟨postcode, by simp, hlong⟩
  rw [SentAsTheyAre, fromLines_append, mandatoryLines, if_neg hlines, sentLines,
    overflowed_of_fit h hlines, List.length_append]
  by_cases hfit : town.length ≤ 30 ∧ postcode.length ≤ 30
  · rw [if_neg (mt hover.mp (not_not_intro hfit))]
    exact iff_of_true rfl (.inl hfit)
  · rw [if_pos (hover.mpr hfit)]
    by_cases hlength : lines.length < 3
    · rw [if_pos hlength]
      refine iff_of_false ?_ ?_
      · intro hsent
        injection hsent with hsent
        injection hsent with hline
        simp at hline
      · simp only [List.length_cons, List.length_nil]
        omega
    · rw [if_neg hlength]
      refine iff_of_true rfl (.inr ?_)
      simp only [List.length_cons, List.length_nil]
      omega

/-- The lines of an address without a second line, with a town that is short enough. -/
theorem sentAsTheyAre_iff_short :
    SentAsTheyAre none [Utf16.encode "1 High Street"] (Utf16.encode "Town")
        (Utf16.encode "AA1 1AA") ↔
      ((Utf16.encode "Town").length ≤ 30 ∧ (Utf16.encode "AA1 1AA").length ≤ 30) ∨
        5 ≤ ([Utf16.encode "1 High Street"] ++
          [Utf16.encode "Town", Utf16.encode "AA1 1AA"]).length :=
  sentAsTheyAre_iff none (List.cons_ne_nil _ _) (by decide) _ _

/-- A town of thirty-one characters puts a blank line into an address of one line. -/
theorem blank_line_of_long_town :
    fromLines none [[49], List.replicate 31 84, [65]] =
        .ok { line := [[49], emptyLine]
              postTown := some (List.replicate 30 84)
              postCode := [65]
              uprn := none } ∧
      ¬ ∀ (lines : List Units) (town postcode : Units), lines ≠ [] →
        (∀ line ∈ lines, line.length ≤ 30) → SentAsTheyAre none lines town postcode := by
  have hblank : fromLines none [[49], List.replicate 31 84, [65]] =
      .ok { line := [[49], emptyLine]
            postTown := some (List.replicate 30 84)
            postCode := [65]
            uprn := none } := by decide
  refine ⟨hblank, fun h => ?_⟩
  have hsent := h [[49]] (List.replicate 31 84) [65] (List.cons_ne_nil _ _) (by decide)
  rw [SentAsTheyAre, List.cons_append, List.nil_append, hblank] at hsent
  cases hsent

end DisposalAddressDto

end VehiclesOnline
