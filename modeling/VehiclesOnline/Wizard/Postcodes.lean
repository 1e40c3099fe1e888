import Mathlib.Logic.Relation
import VehiclesOnline.Wizard.TraderForms

/-! # Spellings of a postcode -/

namespace VehiclesOnline

namespace Postcode

open Unicode (toUpperCase)

/-! ## The texts that the expression matches -/

/-- No letter is a small one. -/
def Capital (text : List Char) : Prop := ∀ c ∈ text, c.isLower = false

/-- The part in front of the optional space, -/
def Outward (text : List Char) : Prop :=
  Pattern.matchesAll [letter, digits 1 1, digits 0 1] text = true ∨
    Pattern.matchesAll [letter, secondLetter, digits 1 1, digits 0 1] text = true ∨
    Pattern.matchesAll [letter, digits 1 1, letter] text = true ∨
    Pattern.matchesAll [letter, secondLetter, digits 0 1, letter] text = true

/-- and the part behind it. -/
def Inward (text : List Char) : Prop :=
  Pattern.matchesAll [digits 1 1, characters Char.isUpper 2 2] text = true

instance (text : List Char) : Decidable (Capital text) :=
  List.decidableBAll (fun c : Char => c.isLower = false) text

/-- The postcode of the first branch. -/
def gir : List Char × List Char := ("GIR".toList, "0AA".toList)

theorem literal_iff {cs text : List Char} (hcs : Capital cs) (htext : Capital text) :
    Pattern.matchesAll (cs.map fun c => characters (· == c) 1 1) text = true ↔ text = cs := by
  induction cs generalizing text with
  | nil => exact Pattern.matchesAll_nil
  | cons c cs ih =>
      obtain ⟨hc, hcs⟩ := List.forall_mem_cons.mp hcs
      rw [List.map_cons, Pattern.matchesAll_cons]
      constructor
      · rintro ⟨front, rest, rfl, hmin, hmax, hall, hrest⟩
        obtain ⟨d, rfl⟩ := List.length_eq_one_iff.mp (Nat.le_antisymm hmax hmin)
        have hclass : ∀ e, (e == c) = true → e.isLower = false := by
          intro e he
          rwa [eq_of_beq he]
        have hd := Regex.accepts_of_ignoreCase hclass (htext d (by simp)) (hall d (by simp))
        rw [eq_of_beq hd, (ih hcs fun e he => htext e (by simp [he])).mp hrest]
        rfl
      · rintro rfl
        refine ⟨[c], cs, rfl, Nat.le_refl 1, Nat.le_refl 1, ?_, ?_⟩
        · intro d hd
          rw [List.mem_singleton.mp hd]
          show Regex.ignoreCase (· == c) c = true
          exact Regex.ignoreCase_iff.mpr (.inl (beq_self_eq_true c))
        · exact (ih hcs fun e he => htext e (by simp [he])).mpr rfl

theorem ignoreCase_space_iff {c : Char} : Regex.ignoreCase (· == ' ') c = true ↔ c = ' ' := by
  constructor
  · intro h
    have hspace : ∀ {d : Char}, (d == ' ') = true → d.toNat = 0x20 := by
      intro d hd
      rw [eq_of_beq hd]
      rfl
    apply Char.toNat_inj.mp
    change c.toNat = 0x20
    rcases Regex.ignoreCase_iff.mp h with h | h | h
    · exact hspace h
    · have hupper := hspace h
      rw [Ascii.toNat_toUpper] at hupper
      split at hupper <;> omega
    · have hlower := hspace h
      rw [Ascii.toNat_toLower] at hlower
      split at hlower <;> omega
  · rintro rfl
    rfl

/-- The inward part stands behind at most one space. -/
theorem space_inward_iff {text : List Char} :
    Pattern.matchesAll [characters (· == ' ') 0 1, digits 1 1, characters Char.isUpper 2 2] text =
        true ↔
      ∃ inward, Inward inward ∧ (text = inward ∨ text = ' ' :: inward) := by
  rw [Pattern.matchesAll_cons]
  constructor
  · rintro ⟨front, inward, rfl, -, hmax, hall, hinward⟩
    refine ⟨inward, hinward, ?_⟩
    rcases Nat.le_one_iff_eq_zero_or_eq_one.mp hmax with hzero | hone
    · exact .inl (by rw [List.length_eq_zero_iff.mp hzero, List.nil_append])
    · obtain ⟨c, rfl⟩ := List.length_eq_one_iff.mp hone
      rw [ignoreCase_space_iff.mp (hall c (List.mem_singleton_self c))]
      exact .inr rfl
  · rintro ⟨inward, hinward, rfl | rfl⟩
    · exact ⟨[], text, rfl, Nat.le_refl 0, Nat.zero_le 1, by simp, hinward⟩
    · refine ⟨[' '], inward, rfl, Nat.zero_le 1, Nat.le_refl 1, ?_, hinward⟩
      intro c hc
      exact ignoreCase_space_iff.mpr (List.mem_singleton.mp hc)

/-- Without regard to the anchors, which stand at the ends of the first branch and of the last. -/
theorem whitelist_iff {text : List Char} (h : Capital text) :
    whitelist.matchesAll text = true ↔
      text = gir.1 ++ ' ' :: gir.2 ∨
        ∃ outward inward, Outward outward ∧ Inward inward ∧
          (text = outward ++ inward ∨ text = outward ++ ' ' :: inward) := by
  rw [whitelist, Regex.matchesAll, Regex.matchesWord_alt, Regex.matchesWord_start_seq,
    Regex.matchesWord_seq_stop, Regex.matchesWord_seq, literal, Regex.matchesWord_shape,
    literal_iff (by decide) h]
  simp only [Regex.matchesWord_alt, Regex.matchesWord_shape, space_inward_iff]
  refine or_congr Iff.rfl ?_
  constructor
  · rintro ⟨outward, rest, rfl, houtward, inward, hinward, rfl | rfl⟩
    · exact ⟨outward, _, houtward, hinward, .inl rfl⟩
    · exact ⟨outward, inward, houtward, hinward, .inr rfl⟩
  · rintro ⟨outward, inward, houtward, hinward, rfl | rfl⟩
    · exact ⟨outward, _, rfl, houtward, inward, hinward, .inl rfl⟩
    · exact ⟨outward, _, rfl, houtward, inward, hinward, .inr rfl⟩

theorem Outward.length {text : List Char} (h : Outward text) :
    2 ≤ text.length ∧ text.length ≤ 4 := by
  rcases h with h | h | h | h
  all_goals
    obtain ⟨hmin, hmax⟩ := Pattern.length_of_matchesAll h
    exact ⟨le_trans (by decide) hmin, le_trans hmax (by decide)⟩

theorem Inward.length_eq {text : List Char} (h : Inward text) : text.length = 3 := by
  obtain ⟨hmin, hmax⟩ := Pattern.length_of_matchesAll h
  exact Nat.le_antisymm hmax hmin

/-! ## The characters of a postcode -/

/-- A text of pieces that no space belongs to. -/
theorem not_mem_space {pieces : List Pattern.Piece} {text : List Char}
    (hpieces : ∀ piece ∈ pieces, piece.accepts ' ' = false)
    (h : Pattern.matchesAll pieces text = true) : ' ' ∉ text := by
  intro hmem
  obtain ⟨piece, hpiece, haccepts⟩ := Pattern.exists_accepts_of_matchesAll h ' ' hmem
  rw [hpieces piece hpiece] at haccepts
  cases haccepts

theorem Outward.not_mem_space {text : List Char} (h : Outward text) : ' ' ∉ text := by
  rcases h with h | h | h | h <;> exact Postcode.not_mem_space (by decide) h

theorem Inward.not_mem_space {text : List Char} (h : Inward text) : ' ' ∉ text :=
  Postcode.not_mem_space (by decide) h

/-- Where a space stands, it parts a postcode. -/
theorem whitelist_spaced_iff {front last : List Char} (h : Capital (front ++ ' ' :: last)) :
    whitelist.matchesAll (front ++ ' ' :: last) = true ↔
      (front, last) = gir ∨ Outward front ∧ Inward last := by
  rw [whitelist_iff h]
  constructor
  · rintro (hgir | ⟨outward, inward, houtward, hinward, hunspaced | hspaced⟩)
    · rw [eq_comm, List.append_cons_inj_of_notMem (by decide) (by decide)] at hgir
      exact .inl (Prod.ext hgir.1.symm hgir.2.2.symm)
    · have hmem : ' ' ∈ outward ++ inward := by
        rw [← hunspaced]
        simp
      rcases List.mem_append.mp hmem with hmem | hmem
      · exact absurd hmem houtward.not_mem_space
      · exact absurd hmem hinward.not_mem_space
    · rw [eq_comm, List.append_cons_inj_of_notMem houtward.not_mem_space
        hinward.not_mem_space] at hspaced
      obtain ⟨rfl, -, rfl⟩ := hspaced
      exact .inr ⟨houtward, hinward⟩
  · rintro (hgir | ⟨hfront, hlast⟩)
    · rw [← hgir]
      exact .inl rfl
    · exact .inr ⟨front, last, hfront, hlast, .inr rfl⟩

/-- Where no space stands in front of the last three characters, they are the inward part. -/
theorem whitelist_unspaced_iff {front last : List Char} (h : Capital (front ++ last))
    (hlast : last.length = 3) (hfront : front.getLast? ≠ some ' ') :
    whitelist.matchesAll (front ++ last) = true ↔ Outward front ∧ Inward last := by
  have hspace : ∀ {outward inward}, inward.length = 3 →
      front ++ last ≠ outward ++ ' ' :: inward := by
    intro outward inward hinward hsame
    rw [← List.singleton_append, ← List.append_assoc] at hsame
    obtain ⟨rfl, -⟩ := List.append_inj' hsame (hlast.trans hinward.symm)
    exact hfront (by simp)
  rw [whitelist_iff h]
  constructor
  · rintro (hgir | ⟨outward, inward, houtward, hinward, hunspaced | hspaced⟩)
    · exact absurd hgir (hspace rfl)
    · obtain ⟨rfl, rfl⟩ := List.append_inj' hunspaced (hlast.trans hinward.length_eq.symm)
      exact ⟨houtward, hinward⟩
    · exact absurd hspaced (hspace hinward.length_eq)
  · rintro ⟨houtward, hinward⟩
    exact .inr ⟨front, last, houtward, hinward, .inl rfl⟩

/-- Characters of a piece, apart from their case, are capital letters or digits. -/
def OfCapitals (piece : Pattern.Piece) : Prop :=
  ∃ accepts, piece.accepts = Regex.ignoreCase accepts ∧
    ∀ c, accepts c = true → c.isUpper = true ∨ c.isDigit = true

theorem ofCapitals_of_mem : ∀ piece ∈ [letter, secondLetter, digits 0 1, digits 1 1,
    characters Char.isUpper 2 2], OfCapitals piece := by
  have hletters : ∀ min max, OfCapitals (characters Char.isUpper min max) :=
    fun min max => ⟨Char.isUpper, rfl, fun c hc => .inl hc⟩
  have hdigits : ∀ min max, OfCapitals (digits min max) :=
    fun min max => ⟨Char.isDigit, rfl, fun c hc => .inr hc⟩
  have hsecond : OfCapitals secondLetter := by
    refine ⟨_, rfl, fun c hc => .inl ?_⟩
    rw [Bool.and_eq_true, Bool.and_eq_true] at hc
    exact hc.1.1
  simp only [List.forall_mem_cons, List.not_mem_nil, false_implies, implies_true, and_true]
  exact ⟨hletters 1 1, hsecond, hdigits 0 1, hdigits 1 1, hletters 2 2⟩

theorem capitals_of_matchesAll {pieces : List Pattern.Piece} {text : List Char}
    (hpieces : pieces ⊆ [letter, secondLetter, digits 0 1, digits 1 1,
      characters Char.isUpper 2 2]) (htext : Capital text)
    (h : Pattern.matchesAll pieces text = true) :
    ∀ c ∈ text, c.isUpper = true ∨ c.isDigit = true := by
  intro c hc
  obtain ⟨piece, hpiece, haccepts⟩ := Pattern.exists_accepts_of_matchesAll h c hc
  obtain ⟨accepts, hpiece, hclass⟩ := ofCapitals_of_mem piece (hpieces hpiece)
  rw [hpiece] at haccepts
  refine hclass c (Regex.accepts_of_ignoreCase ?_ (htext c hc) haccepts)
  intro d hd
  rw [← Bool.not_eq_true, Ascii.isLower_iff]
  rcases hclass d hd with hupper | hdigit
  · rw [Ascii.isUpper_iff] at hupper
    omega
  · rw [Ascii.isDigit_iff] at hdigit
    omega

theorem Outward.capitals {text : List Char} (h : Outward text) (htext : Capital text) :
    ∀ c ∈ text, c.isUpper = true ∨ c.isDigit = true := by
  rcases h with h | h | h | h <;> exact capitals_of_matchesAll (by simp) htext h

theorem Inward.capitals {text : List Char} (h : Inward text) (htext : Capital text) :
    ∀ c ∈ text, c.isUpper = true ∨ c.isDigit = true :=
  capitals_of_matchesAll (by simp) htext h

/-- A matched text is made of capital letters, digits and spaces. -/
theorem whitelist_characters {text : List Char} (h : Capital text)
    (hmatches : whitelist.matchesAll text = true) :
    ∀ c ∈ text, c.isUpper = true ∨ c.isDigit = true ∨ c = ' ' := by
  intro c hc
  rw [← or_assoc]
  rcases (whitelist_iff h).mp hmatches with rfl | ⟨outward, inward, houtward, hinward, rfl | rfl⟩
  · have hgir : (gir.1 ++ ' ' :: gir.2).Forall
        fun c => (c.isUpper = true ∨ c.isDigit = true) ∨ c = ' ' := by decide
    exact List.forall_iff_forall_mem.mp hgir c hc
  · have hparts := List.forall_mem_append.mp h
    rcases List.mem_append.mp hc with hc | hc
    · exact .inl (houtward.capitals hparts.1 c hc)
    · exact .inl (hinward.capitals hparts.2 c hc)
  · have hparts := List.forall_mem_append.mp h
    rcases List.mem_append.mp hc with hc | hc
    · exact .inl (houtward.capitals hparts.1 c hc)
    · rcases List.mem_cons.mp hc with rfl | hc
      · exact .inr rfl
      · exact .inl (hinward.capitals (fun d hd => hparts.2 d (List.mem_cons_of_mem _ hd)) c hc)

/-- A matched text is as long as a postcode may be. -/
theorem whitelist_length {text : List Char} (h : Capital text)
    (hmatches : whitelist.matchesAll text = true) :
    MinLength ≤ text.length ∧ text.length ≤ MaxLength := by
  rcases (whitelist_iff h).mp hmatches with rfl | ⟨outward, inward, houtward, hinward, rfl | rfl⟩
  · decide
  · have := houtward.length
    rw [List.length_append, hinward.length_eq, MinLength, MaxLength]
    omega
  · have := houtward.length
    rw [List.length_append, List.length_cons, hinward.length_eq, MinLength, MaxLength]
    omega

/-! ## What is stored of a text -/

/-- The postcode that the form stores, if it accepts the text. -/
def stored (p : String) : Option String :=
  (postcode.bind SetUpTradeDetails.TraderPostcodeId
    (FormData.singleton SetUpTradeDetails.TraderPostcodeId p)).toOption

def upperCase (text : List Char) : List Char := text.flatMap Unicode.upper

theorem capital_upperCase (text : List Char) : Capital (upperCase text) := by
  intro d hd
  obtain ⟨c, -, hc⟩ := List.mem_flatMap.mp hd
  rw [← Bool.not_eq_true, Ascii.isLower_iff]
  exact Unicode.not_small_of_mem_upper hc

theorem toList_trim_toUpperCase (p : String) :
    (trim (toUpperCase p)).toList = upperCase (trim p).toList := by
  rw [trim, Unicode.trim_toUpperCase, Unicode.toList_toUpperCase]
  rfl

/-- The bounds on the length are met by every text that the expression matches, -/
theorem bind_eq_ok_iff {key p s : String} {data : FormData} (h : data.lookup key = some p) :
    postcode.bind key data = .ok s ↔
      trim (toUpperCase p) = s ∧ whitelist.matchesAll s.toList = true := by
  rw [postcode_bind_eq_ok_iff]
  simp only [h, Option.some.injEq, exists_eq_left']
  refine ⟨fun h => ⟨h.1, h.2.2.2.2⟩, ?_⟩
  rintro ⟨rfl, hmatches⟩
  have hcapital := capital_upperCase (trim p).toList
  rw [← toList_trim_toUpperCase] at hcapital
  have hlength := whitelist_length hcapital hmatches
  have hany : (trim (toUpperCase p)).toList.any (' ' < ·) = true := by
    cases hchars : (trim (toUpperCase p)).toList with
    | nil =>
        rw [hchars] at hlength
        exact absurd hlength.1 (by decide)
    | cons c cs =>
        have hkept : decide (c ≤ ' ') = false := Text.head?_trim (by rw [← trim, hchars]; rfl)
        rw [List.any_cons, decide_eq_true (Char.not_le.mp (of_decide_eq_false hkept)),
          Bool.true_or]
  rw [utf16Length_of_ascii]
  · exact ⟨rfl, hlength.1, hlength.2, hany, hmatches⟩
  · intro c hc
    rcases whitelist_characters hcapital hmatches c hc with hc | hc | rfl
    · rw [Ascii.isUpper_iff] at hc
      omega
    · rw [Ascii.isDigit_iff] at hc
      omega
    · decide

/-- and what is stored depends on nothing but the text. -/
theorem stored_iff {p s : String} :
    stored p = some s ↔ trim (toUpperCase p) = s ∧ whitelist.matchesAll s.toList = true := by
  have hlookup : (FormData.singleton SetUpTradeDetails.TraderPostcodeId p).lookup
      SetUpTradeDetails.TraderPostcodeId = some p :=
    FormData.lookup_singleton.trans (if_pos rfl)
  rw [← bind_eq_ok_iff hlookup, stored]
  cases postcode.bind SetUpTradeDetails.TraderPostcodeId _ <;> simp [Except.toOption]

theorem isSome_stored_iff {p : String} :
    (stored p).isSome ↔ whitelist.matchesAll (upperCase (trim p).toList) = true := by
  rw [Option.isSome_iff_exists, ← toList_trim_toUpperCase]
  simp only [stored_iff, exists_eq_left']

/-! ## Spellings -/

/-- A text in front of whose last three characters stands a single space, or none. -/
structure Parted (text front last : List Char) : Prop where
  length_last : last.length = 3
  getLast_front : ∃ c ∈ front.getLast?, c ≠ ' '
  eq_append : text = front ++ last ∨ text = front ++ ' ' :: last

/-- The same postcode, written in another way: in small or capital letters, with other characters
around it, or with or without the space. -/
inductive Respelling (p p' : String) : Prop
  | case (h : p.toUpper = p'.toUpper)
  | whitespace (h : trim p = trim p')
  | space {front last : List Char} (h : Parted (trim p).toList front last)
      (h' : Parted (trim p').toList front last)

/-- Neither the one postcode that must have its space, nor one that loses its parts in upper
case. -/
structure Plain (front last : List Char) : Prop where
  ne_gir : (upperCase front, upperCase last) ≠ gir
  not_matches : 3 < (upperCase last).length →
    ¬ whitelist.matchesAll (upperCase (front ++ last)) = true

def Regular (p : String) : Prop :=
  ∀ front last, Parted (trim p).toList front last → Plain front last

variable {front last front' last' text : List Char}

theorem Parted.unique (h : Parted text front last) (h' : Parted text front' last') :
    front = front' ∧ last = last' := by
  have hspace : ∀ {a b : List Char}, a ++ [' '] = b → ¬ ∃ c ∈ b.getLast?, c ≠ ' ' := by
    rintro a b rfl ⟨c, hc, hne⟩
    rw [List.getLast?_concat, Option.mem_def, Option.some.injEq] at hc
    exact hne hc.symm
  have hparts : ∀ a b : List Char, a ++ ' ' :: b = (a ++ [' ']) ++ b := by
    intro a b
    rw [List.append_assoc, List.singleton_append]
  have hlength : last.length = last'.length := h.length_last.trans h'.length_last.symm
  rcases h.eq_append with htext | htext <;> rcases h'.eq_append with htext' | htext'
  · exact List.append_inj' (htext.symm.trans htext') hlength
  · rw [htext, hparts front' last'] at htext'
    exact absurd h.getLast_front (hspace (List.append_inj' htext' hlength).1.symm)
  · rw [htext, hparts front last] at htext'
    exact absurd h'.getLast_front (hspace (List.append_inj' htext' hlength).1)
  · rw [htext, hparts front last, hparts front' last'] at htext'
    obtain ⟨hfront, hlast⟩ := List.append_inj' htext' hlength
    exact ⟨List.append_cancel_right hfront, hlast⟩

/-- One way to part a text tells whether it is regular. -/
theorem regular_iff {p : String} (h : Parted (trim p).toList front last) :
    Regular p ↔ Plain front last := by
  constructor
  · intro hregular
    exact hregular front last h
  · intro hplain front' last' h'
    obtain ⟨rfl, rfl⟩ := h.unique h'
    exact hplain

theorem upperCase_append (a b : List Char) : upperCase (a ++ b) = upperCase a ++ upperCase b :=
  List.flatMap_append

theorem upperCase_spaced (a b : List Char) :
    upperCase (a ++ ' ' :: b) = upperCase a ++ ' ' :: upperCase b := by
  rw [upperCase_append, upperCase, upperCase, List.flatMap_cons,
    Unicode.upper_of_le_space (c := ' ') (by decide)]
  rfl

theorem length_le_upperCase (text : List Char) : text.length ≤ (upperCase text).length := by
  induction text with
  | nil => exact Nat.zero_le 0
  | cons c cs ih =>
      have hne := List.length_pos_iff.mpr (Unicode.upper_ne_nil c)
      rw [upperCase, List.flatMap_cons, List.length_append, List.length_cons]
      rw [upperCase] at ih
      omega

theorem Parted.getLast?_upperCase (h : Parted text front last) :
    (upperCase front).getLast? ≠ some ' ' := by
  obtain ⟨c, hc, hne⟩ := h.getLast_front
  have hlast : upperCase [c] = Unicode.upper c := List.flatMap_singleton Unicode.upper c
  rw [← List.dropLast_append_getLast? c hc, upperCase_append, hlast]
  intro hspace
  rw [List.getLast?_append_of_ne_nil _ (Unicode.upper_ne_nil c)] at hspace
  exact hne ((Unicode.eq_space_iff_of_mem_upper (List.mem_of_getLast? hspace)).mp rfl)

theorem Parted.unspaced (h : Parted text front last) : Parted (front ++ last) front last :=
  { h with eq_append := .inl rfl }

theorem Parted.spaced (h : Parted text front last) : Parted (front ++ ' ' :: last) front last :=
  { h with eq_append := .inr rfl }

/-- A postcode keeps being matched when the space is put in, -/
theorem Parted.spaced_matches (h : Parted text front last) (hlength : (upperCase last).length = 3)
    (hmatches : whitelist.matchesAll (upperCase (front ++ last)) = true) :
    whitelist.matchesAll (upperCase (front ++ ' ' :: last)) = true := by
  have hcapital := capital_upperCase (front ++ last)
  have hcapital' := capital_upperCase (front ++ ' ' :: last)
  rw [upperCase_append] at hcapital hmatches
  rw [upperCase_spaced] at hcapital' ⊢
  exact (whitelist_spaced_iff hcapital').mpr
    (.inr ((whitelist_unspaced_iff hcapital hlength h.getLast?_upperCase).mp hmatches))

/-- and when it is taken out. -/
theorem Plain.unspaced_matches (hplain : Plain front last) (h : Parted text front last)
    (hmatches : whitelist.matchesAll (upperCase (front ++ ' ' :: last)) = true) :
    whitelist.matchesAll (upperCase (front ++ last)) = true := by
  have hcapital := capital_upperCase (front ++ last)
  have hcapital' := capital_upperCase (front ++ ' ' :: last)
  rw [upperCase_append] at hcapital ⊢
  rw [upperCase_spaced] at hcapital' hmatches
  rcases (whitelist_spaced_iff hcapital').mp hmatches with hgir | ⟨houtward, hinward⟩
  · exact absurd hgir hplain.ne_gir
  · exact (whitelist_unspaced_iff hcapital hinward.length_eq h.getLast?_upperCase).mpr
      ⟨houtward, hinward⟩

/-- The space is of no account exactly if the parts are plain. -/
theorem Parted.matches_iff_spaced (h : Parted text front last) :
    (whitelist.matchesAll (upperCase (front ++ last)) = true ↔
      whitelist.matchesAll (upperCase (front ++ ' ' :: last)) = true) ↔ Plain front last := by
  have hcapital := capital_upperCase (front ++ ' ' :: last)
  constructor
  · intro hsame
    constructor
    · intro hgir
      have hspaced : whitelist.matchesAll (upperCase (front ++ ' ' :: last)) = true := by
        rw [upperCase_spaced] at hcapital ⊢
        exact (whitelist_spaced_iff hcapital).mpr (.inl hgir)
      have hunspaced := hsame.mpr hspaced
      obtain ⟨hfront, hlast⟩ := Prod.mk.inj hgir
      rw [upperCase_append, hfront, hlast] at hunspaced
      exact absurd hunspaced (by decide +kernel)
    · intro hlong hunspaced
      have hspaced := hsame.mp hunspaced
      rw [upperCase_spaced] at hcapital hspaced
      rcases (whitelist_spaced_iff hcapital).mp hspaced with hgir | ⟨-, hinward⟩
      · rw [(Prod.mk.inj hgir).2] at hlong
        exact absurd hlong (by decide)
      · exact absurd hinward.length_eq hlong.ne'
  · intro hplain
    refine ⟨?_, hplain.unspaced_matches h⟩
    intro hunspaced
    have hge := length_le_upperCase last
    rw [h.length_last] at hge
    refine h.spaced_matches (Nat.le_antisymm (Nat.le_of_not_lt ?_) hge) hunspaced
    intro hlong
    exact hplain.not_matches hlong hunspaced

theorem Plain.matches_iff (hplain : Plain front last) (h : Parted text front last) :
    whitelist.matchesAll (upperCase text) = true ↔
      whitelist.matchesAll (upperCase (front ++ last)) = true := by
  rcases h.eq_append with rfl | rfl
  · exact Iff.rfl
  · exact (h.matches_iff_spaced.mpr hplain).symm

theorem Parted.filter_upperCase (h : Parted text front last) :
    (upperCase text).filter (· != ' ') = (upperCase (front ++ last)).filter (· != ' ') := by
  rcases h.eq_append with rfl | rfl
  · rfl
  · rw [upperCase_spaced, upperCase_append, List.filter_append, List.filter_append,
      List.filter_cons_of_neg (by simp)]

/-! ### One respelling -/

theorem toUpper_eq_space_iff {c : Char} : c.toUpper = ' ' ↔ c = ' ' := by
  rw [← Char.toNat_inj, ← Char.toNat_inj, Ascii.toNat_toUpper, show ' '.toNat = 0x20 from rfl]
  split <;> omega

theorem toList_trim_toUpper (p : String) :
    (trim p.toUpper).toList = (trim p).toList.map Char.toUpper := by
  have hspace : ∀ c : Char, ∀ d ∈ [c.toUpper], decide (d ≤ ' ') = decide (c ≤ ' ') := by
    intro c d hd
    have hle : ∀ e : Char, e ≤ ' ' ↔ e.toNat ≤ 0x20 := fun e => UInt32.le_iff_toNat_le
    rw [List.mem_singleton.mp hd, decide_eq_decide, hle, hle, Ascii.toNat_toUpper]
    split <;> omega
  have htext : p.toUpper = String.ofList (p.toList.flatMap fun c => [c.toUpper]) := by
    rw [← List.map_eq_flatMap]
    exact String.toList_inj.mp (by rw [String.toUpper, String.toList_map, String.toList_ofList])
  rw [trim, htext, Text.trim_flatMap (fun c => List.cons_ne_nil _ _) hspace, String.toList_ofList,
    ← List.map_eq_flatMap]
  rfl

theorem upperCase_congr (h : front.map Char.toUpper = front'.map Char.toUpper) :
    upperCase front = upperCase front' := by
  have hmap : ∀ text : List Char, upperCase (text.map Char.toUpper) = upperCase text := by
    intro text
    rw [upperCase, List.flatMap_map]
    simp only [Unicode.upper_toUpper]
    rfl
  rw [← hmap front, h, hmap]

theorem Plain.congr (h : Plain front last) (hfront : upperCase front = upperCase front')
    (hlast : upperCase last = upperCase last') : Plain front' last' := by
  obtain ⟨hne, hnot⟩ := h
  rw [upperCase_append] at hnot
  rw [hfront, hlast] at hne
  rw [hfront, hlast] at hnot
  exact ⟨hne, by rwa [upperCase_append]⟩

/-- Texts in letters of different cases are parted in one way. -/
theorem Parted.of_map_toUpper {text' : List Char} (h : Parted text front last)
    (htext : text.map Char.toUpper = text'.map Char.toUpper) :
    ∃ front' last', Parted text' front' last' ∧ upperCase front = upperCase front' ∧
      upperCase last = upperCase last' := by
  obtain ⟨c, hc, hne⟩ := h.getLast_front
  have hgetLast : ∀ {front' : List Char}, front'.map Char.toUpper = front.map Char.toUpper →
      ∃ c ∈ front'.getLast?, c ≠ ' ' := by
    intro front' hfront
    have hlast := congrArg List.getLast? hfront
    rw [List.getLast?_map, List.getLast?_map, Option.mem_def.mp hc, Option.map_some,
      Option.map_eq_some_iff] at hlast
    obtain ⟨d, hd, hsame⟩ := hlast
    refine ⟨d, hd, ?_⟩
    rintro rfl
    exact hne (toUpper_eq_space_iff.mp hsame.symm)
  have hlength : ∀ {last' : List Char}, last'.map Char.toUpper = last.map Char.toUpper →
      last'.length = 3 := by
    intro last' hlast
    rw [← List.length_map (f := Char.toUpper), hlast, List.length_map, h.length_last]
  rcases h.eq_append with rfl | rfl
  · rw [List.map_append, eq_comm, List.map_eq_append_iff] at htext
    obtain ⟨front', last', rfl, hfront, hlast⟩ := htext
    exact ⟨front', last', ⟨hlength hlast, hgetLast hfront, .inl rfl⟩,
      upperCase_congr hfront.symm, upperCase_congr hlast.symm⟩
  · rw [List.map_append, List.map_cons, eq_comm, List.map_eq_append_iff] at htext
    obtain ⟨front', rest, rfl, hfront, hrest⟩ := htext
    obtain ⟨d, last', rfl, hd, hlast⟩ := List.map_eq_cons_iff.mp hrest
    obtain rfl : d = ' ' := toUpper_eq_space_iff.mp hd
    exact ⟨front', last', ⟨hlength hlast, hgetLast hfront, .inr rfl⟩,
      upperCase_congr hfront.symm, upperCase_congr hlast.symm⟩

/-- A respelling is regular if the text is, and accepted if it is. -/
theorem Respelling.step {p p' : String} (h : Respelling p p') (hregular : Regular p) :
    Regular p' ∧ ((stored p).isSome ↔ (stored p').isSome) := by
  simp only [isSome_stored_iff]
  cases h with
  | case h =>
      have htext : (trim p').toList.map Char.toUpper = (trim p).toList.map Char.toUpper := by
        rw [← toList_trim_toUpper, ← toList_trim_toUpper, h]
      refine ⟨?_, by rw [upperCase_congr htext]⟩
      intro front' last' h'
      obtain ⟨front, last, hparted, hfront, hlast⟩ := h'.of_map_toUpper htext
      exact (hregular front last hparted).congr hfront.symm hlast.symm
  | whitespace h => exact ⟨by rwa [Regular, ← h], by rw [h]⟩
  | space h h' =>
      have hplain := (regular_iff h).mp hregular
      exact ⟨(regular_iff h').mpr hplain,
        (hplain.matches_iff h).trans (hplain.matches_iff h').symm⟩

/-- What a text has besides spaces stays the same in upper case. -/
theorem Respelling.filter_upperCase {p p' : String} (h : Respelling p p') :
    (upperCase (trim p').toList).filter (· != ' ') =
      (upperCase (trim p).toList).filter (· != ' ') := by
  cases h with
  | case h =>
      have htext : (trim p').toList.map Char.toUpper = (trim p).toList.map Char.toUpper := by
        rw [← toList_trim_toUpper, ← toList_trim_toUpper, h]
      rw [upperCase_congr htext]
  | whitespace h => rw [h]
  | space h h' =>
      rw [h.filter_upperCase, h'.filter_upperCase]

/-! ### All spellings -/

/-- However the text is spelled, it is accepted or not, and is stored in capital letters and but
for the space as the same postcode. -/
def SpelledAlike (p : String) : Prop :=
  ∀ p', Relation.ReflTransGen Respelling p p' →
    ((stored p).isSome ↔ (stored p').isSome) ∧
      ∀ s ∈ stored p, ∀ s' ∈ stored p',
        (∀ c ∈ s'.toList, c.isUpper = true ∨ c.isDigit = true ∨ c = ' ') ∧
          Text.without ' ' s' = Text.without ' ' s

theorem Regular.run {p p' : String} (hregular : Regular p)
    (h : Relation.ReflTransGen Respelling p p') :
    Regular p' ∧ ((stored p).isSome ↔ (stored p').isSome) ∧
      (upperCase (trim p').toList).filter (· != ' ') =
        (upperCase (trim p).toList).filter (· != ' ') := by
  induction h with
  | refl => exact ⟨hregular, Iff.rfl, rfl⟩
  | tail _ hstep ih =>
      obtain ⟨hregular, hsome, hfilter⟩ := ih
      obtain ⟨hregular', hsome'⟩ := hstep.step hregular
      exact ⟨hregular', hsome.trans hsome', hstep.filter_upperCase.trans hfilter⟩

/-- A text that is parted as a trimmed one is trimmed itself. -/
theorem Parted.trim_eq_self {p s : String} (h : Parted (trim p).toList front last)
    (h' : Parted s.toList front last) : trim s = s := by
  obtain ⟨c, hc, -⟩ := h.getLast_front
  have hfront : front ≠ [] := by
    rintro rfl
    cases hc
  have hlast : last ≠ [] := by
    intro hnil
    have := h.length_last
    rw [hnil] at this
    cases this
  have hends : ∀ {text}, Parted text front last →
      text.head? = front.head? ∧ text.getLast? = last.getLast? := by
    intro text hparted
    rcases hparted.eq_append with rfl | rfl
    · exact ⟨List.head?_append_of_ne_nil _ hfront, List.getLast?_append_of_ne_nil _ hlast⟩
    · exact ⟨List.head?_append_of_ne_nil _ hfront, by
        rw [List.getLast?_append_of_ne_nil _ (List.cons_ne_nil _ _),
          List.getLast?_cons_of_ne_nil hlast]⟩
  apply Text.trim_eq_self
  · intro d hd
    rw [(hends h').1, ← (hends h).1] at hd
    exact Text.head?_trim hd
  · intro d hd
    rw [(hends h').2, ← (hends h).2] at hd
    exact Text.getLast?_trim hd

/-- All spellings are treated alike exactly if the text is regular. -/
theorem spelledAlike_iff {p : String} : SpelledAlike p ↔ Regular p := by
  constructor
  · intro halike front last h
    have hspelling : ∀ {text : List Char}, Parted text front last →
        ((stored p).isSome ↔ whitelist.matchesAll (upperCase text) = true) := by
      intro text hparted
      rw [← String.toList_ofList (l := text)] at hparted
      have htrim := h.trim_eq_self hparted
      have hstep : Respelling p (String.ofList text) := .space h (by rwa [htrim])
      rw [(halike _ (.single hstep)).1, isSome_stored_iff, htrim, String.toList_ofList]
    exact h.matches_iff_spaced.mp ((hspelling h.unspaced).symm.trans (hspelling h.spaced))
  · intro hregular p' h
    obtain ⟨-, hsome, hfilter⟩ := hregular.run h
    refine ⟨hsome, ?_⟩
    intro s hs s' hs'
    obtain ⟨rfl, -⟩ := stored_iff.mp hs
    obtain ⟨rfl, hmatches⟩ := stored_iff.mp hs'
    constructor
    · rw [toList_trim_toUpperCase] at hmatches ⊢
      exact whitelist_characters (capital_upperCase _) hmatches
    · rw [Text.without, Text.without, toList_trim_toUpperCase, toList_trim_toUpperCase, hfilter]

/-- Of one postcode only the spelling with the space is accepted. -/
theorem gir_without_space :
    Respelling "GIR 0AA" "GIR0AA" ∧ stored "GIR 0AA" = some "GIR 0AA" ∧ stored "GIR0AA" = none := by
  refine ⟨?_, by decide +kernel, by decide +kernel⟩
  have hparted : ∀ text, text = gir.1 ++ gir.2 ∨ text = gir.1 ++ ' ' :: gir.2 →
      Parted text gir.1 gir.2 :=
    fun text h => ⟨rfl, ⟨'R', rfl, by decide⟩, h⟩
  exact .space (hparted _ (by decide +kernel)) (hparted _ (by decide +kernel))

end Postcode

end VehiclesOnline
