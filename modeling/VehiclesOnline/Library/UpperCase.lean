import Mathlib.Data.List.Basic
import VehiclesOnline.Library.Ascii
import VehiclesOnline.Library.Text

/-! Upper case by the default case conversion of Unicode, which does not depend on where a
character stands. The tables are those of version 6.0. -/

namespace Unicode

open Ascii (toNat_toUpper toUpper_eq_self)

/-- Characters at equal distances, with their upper cases at the same distances. -/
structure CaseRange where
  first : ℕ
  last : ℕ
  step : ℕ
  upper : ℕ

def CaseRange.covers (range : CaseRange) (n : ℕ) : Bool :=
  decide (range.first ≤ n ∧ n ≤ range.last ∧ (n - range.first) % range.step = 0)

/-- The characters beyond ASCII whose upper case is one other character. -/
def caseRanges : List CaseRange :=
  [⟨0xB5, 0xB5, 1, 0x39C⟩, ⟨0xE0, 0xF6, 1, 0xC0⟩, ⟨0xF8, 0xFE, 1, 0xD8⟩, ⟨0xFF, 0xFF, 1, 0x178⟩,
    ⟨0x101, 0x12F, 2, 0x100⟩, ⟨0x131, 0x131, 1, 0x49⟩, ⟨0x133, 0x137, 2, 0x132⟩,
    ⟨0x13A, 0x148, 2, 0x139⟩, ⟨0x14B, 0x177, 2, 0x14A⟩, ⟨0x17A, 0x17E, 2, 0x179⟩,
    ⟨0x17F, 0x17F, 1, 0x53⟩, ⟨0x180, 0x180, 1, 0x243⟩, ⟨0x183, 0x185, 2, 0x182⟩,
    ⟨0x188, 0x188, 1, 0x187⟩, ⟨0x18C, 0x18C, 1, 0x18B⟩, ⟨0x192, 0x192, 1, 0x191⟩,
    ⟨0x195, 0x195, 1, 0x1F6⟩, ⟨0x199, 0x199, 1, 0x198⟩, ⟨0x19A, 0x19A, 1, 0x23D⟩,
    ⟨0x19E, 0x19E, 1, 0x220⟩, ⟨0x1A1, 0x1A5, 2, 0x1A0⟩, ⟨0x1A8, 0x1A8, 1, 0x1A7⟩,
    ⟨0x1AD, 0x1AD, 1, 0x1AC⟩, ⟨0x1B0, 0x1B0, 1, 0x1AF⟩, ⟨0x1B4, 0x1B6, 2, 0x1B3⟩,
    ⟨0x1B9, 0x1B9, 1, 0x1B8⟩, ⟨0x1BD, 0x1BD, 1, 0x1BC⟩, ⟨0x1BF, 0x1BF, 1, 0x1F7⟩,
    ⟨0x1C5, 0x1C5, 1, 0x1C4⟩, ⟨0x1C6, 0x1C6, 1, 0x1C4⟩, ⟨0x1C8, 0x1C8, 1, 0x1C7⟩,
    ⟨0x1C9, 0x1C9, 1, 0x1C7⟩, ⟨0x1CB, 0x1CB, 1, 0x1CA⟩, ⟨0x1CC, 0x1CC, 1, 0x1CA⟩,
    ⟨0x1CE, 0x1DC, 2, 0x1CD⟩, ⟨0x1DD, 0x1DD, 1, 0x18E⟩, ⟨0x1DF, 0x1EF, 2, 0x1DE⟩,
    ⟨0x1F2, 0x1F2, 1, 0x1F1⟩, ⟨0x1F3, 0x1F3, 1, 0x1F1⟩, ⟨0x1F5, 0x1F5, 1, 0x1F4⟩,
    ⟨0x1F9, 0x21F, 2, 0x1F8⟩, ⟨0x223, 0x233, 2, 0x222⟩, ⟨0x23C, 0x23C, 1, 0x23B⟩,
    ⟨0x23F, 0x240, 1, 0x2C7E⟩, ⟨0x242, 0x242, 1, 0x241⟩, ⟨0x247, 0x24F, 2, 0x246⟩,
    ⟨0x250, 0x250, 1, 0x2C6F⟩, ⟨0x251, 0x251, 1, 0x2C6D⟩, ⟨0x252, 0x252, 1, 0x2C70⟩,
    ⟨0x253, 0x253, 1, 0x181⟩, ⟨0x254, 0x254, 1, 0x186⟩, ⟨0x256, 0x257, 1, 0x189⟩,
    ⟨0x259, 0x259, 1, 0x18F⟩, ⟨0x25B, 0x25B, 1, 0x190⟩, ⟨0x260, 0x260, 1, 0x193⟩,
    ⟨0x263, 0x263, 1, 0x194⟩, ⟨0x265, 0x265, 1, 0xA78D⟩, ⟨0x268, 0x268, 1, 0x197⟩,
    ⟨0x269, 0x269, 1, 0x196⟩, ⟨0x26B, 0x26B, 1, 0x2C62⟩, ⟨0x26F, 0x26F, 1, 0x19C⟩,
    ⟨0x271, 0x271, 1, 0x2C6E⟩, ⟨0x272, 0x272, 1, 0x19D⟩, ⟨0x275, 0x275, 1, 0x19F⟩,
    ⟨0x27D, 0x27D, 1, 0x2C64⟩, ⟨0x280, 0x280, 1, 0x1A6⟩, ⟨0x283, 0x283, 1, 0x1A9⟩,
    ⟨0x288, 0x288, 1, 0x1AE⟩, ⟨0x289, 0x289, 1, 0x244⟩, ⟨0x28A, 0x28B, 1, 0x1B1⟩,
    ⟨0x28C, 0x28C, 1, 0x245⟩, ⟨0x292, 0x292, 1, 0x1B7⟩, ⟨0x345, 0x345, 1, 0x399⟩,
    ⟨0x371, 0x373, 2, 0x370⟩, ⟨0x377, 0x377, 1, 0x376⟩, ⟨0x37B, 0x37D, 1, 0x3FD⟩,
    ⟨0x3AC, 0x3AC, 1, 0x386⟩, ⟨0x3AD, 0x3AF, 1, 0x388⟩, ⟨0x3B1, 0x3C1, 1, 0x391⟩,
    ⟨0x3C2, 0x3C2, 1, 0x3A3⟩, ⟨0x3C3, 0x3CB, 1, 0x3A3⟩, ⟨0x3CC, 0x3CC, 1, 0x38C⟩,
    ⟨0x3CD, 0x3CE, 1, 0x38E⟩, ⟨0x3D0, 0x3D0, 1, 0x392⟩, ⟨0x3D1, 0x3D1, 1, 0x398⟩,
    ⟨0x3D5, 0x3D5, 1, 0x3A6⟩, ⟨0x3D6, 0x3D6, 1, 0x3A0⟩, ⟨0x3D7, 0x3D7, 1, 0x3CF⟩,
    ⟨0x3D9, 0x3EF, 2, 0x3D8⟩, ⟨0x3F0, 0x3F0, 1, 0x39A⟩, ⟨0x3F1, 0x3F1, 1, 0x3A1⟩,
    ⟨0x3F2, 0x3F2, 1, 0x3F9⟩, ⟨0x3F5, 0x3F5, 1, 0x395⟩, ⟨0x3F8, 0x3F8, 1, 0x3F7⟩,
    ⟨0x3FB, 0x3FB, 1, 0x3FA⟩, ⟨0x430, 0x44F, 1, 0x410⟩, ⟨0x450, 0x45F, 1, 0x400⟩,
    ⟨0x461, 0x481, 2, 0x460⟩, ⟨0x48B, 0x4BF, 2, 0x48A⟩, ⟨0x4C2, 0x4CE, 2, 0x4C1⟩,
    ⟨0x4CF, 0x4CF, 1, 0x4C0⟩, ⟨0x4D1, 0x527, 2, 0x4D0⟩, ⟨0x561, 0x586, 1, 0x531⟩,
    ⟨0x1D79, 0x1D79, 1, 0xA77D⟩, ⟨0x1D7D, 0x1D7D, 1, 0x2C63⟩, ⟨0x1E01, 0x1E95, 2, 0x1E00⟩,
    ⟨0x1E9B, 0x1E9B, 1, 0x1E60⟩, ⟨0x1EA1, 0x1EFF, 2, 0x1EA0⟩, ⟨0x1F00, 0x1F07, 1, 0x1F08⟩,
    ⟨0x1F10, 0x1F15, 1, 0x1F18⟩, ⟨0x1F20, 0x1F27, 1, 0x1F28⟩, ⟨0x1F30, 0x1F37, 1, 0x1F38⟩,
    ⟨0x1F40, 0x1F45, 1, 0x1F48⟩, ⟨0x1F51, 0x1F57, 2, 0x1F59⟩, ⟨0x1F60, 0x1F67, 1, 0x1F68⟩,
    ⟨0x1F70, 0x1F71, 1, 0x1FBA⟩, ⟨0x1F72, 0x1F75, 1, 0x1FC8⟩, ⟨0x1F76, 0x1F77, 1, 0x1FDA⟩,
    ⟨0x1F78, 0x1F79, 1, 0x1FF8⟩, ⟨0x1F7A, 0x1F7B, 1, 0x1FEA⟩, ⟨0x1F7C, 0x1F7D, 1, 0x1FFA⟩,
    ⟨0x1FB0, 0x1FB1, 1, 0x1FB8⟩, ⟨0x1FBE, 0x1FBE, 1, 0x399⟩, ⟨0x1FD0, 0x1FD1, 1, 0x1FD8⟩,
    ⟨0x1FE0, 0x1FE1, 1, 0x1FE8⟩, ⟨0x1FE5, 0x1FE5, 1, 0x1FEC⟩, ⟨0x214E, 0x214E, 1, 0x2132⟩,
    ⟨0x2170, 0x217F, 1, 0x2160⟩, ⟨0x2184, 0x2184, 1, 0x2183⟩, ⟨0x24D0, 0x24E9, 1, 0x24B6⟩,
    ⟨0x2C30, 0x2C5E, 1, 0x2C00⟩, ⟨0x2C61, 0x2C61, 1, 0x2C60⟩, ⟨0x2C65, 0x2C65, 1, 0x23A⟩,
    ⟨0x2C66, 0x2C66, 1, 0x23E⟩, ⟨0x2C68, 0x2C6C, 2, 0x2C67⟩, ⟨0x2C73, 0x2C73, 1, 0x2C72⟩,
    ⟨0x2C76, 0x2C76, 1, 0x2C75⟩, ⟨0x2C81, 0x2CE3, 2, 0x2C80⟩, ⟨0x2CEC, 0x2CEE, 2, 0x2CEB⟩,
    ⟨0x2D00, 0x2D25, 1, 0x10A0⟩, ⟨0xA641, 0xA66D, 2, 0xA640⟩, ⟨0xA681, 0xA697, 2, 0xA680⟩,
    ⟨0xA723, 0xA72F, 2, 0xA722⟩, ⟨0xA733, 0xA76F, 2, 0xA732⟩, ⟨0xA77A, 0xA77C, 2, 0xA779⟩,
    ⟨0xA77F, 0xA787, 2, 0xA77E⟩, ⟨0xA78C, 0xA78C, 1, 0xA78B⟩, ⟨0xA791, 0xA791, 1, 0xA790⟩,
    ⟨0xA7A1, 0xA7A9, 2, 0xA7A0⟩, ⟨0xFF41, 0xFF5A, 1, 0xFF21⟩, ⟨0x10428, 0x1044F, 1, 0x10400⟩]

/-- The characters whose upper case is several characters. -/
def expansions : List (ℕ × List ℕ) :=
  [(0xDF, [0x53, 0x53]), (0x149, [0x2BC, 0x4E]), (0x1F0, [0x4A, 0x30C]),
    (0x390, [0x399, 0x308, 0x301]), (0x3B0, [0x3A5, 0x308, 0x301]), (0x587, [0x535, 0x552]),
    (0x1E96, [0x48, 0x331]), (0x1E97, [0x54, 0x308]), (0x1E98, [0x57, 0x30A]),
    (0x1E99, [0x59, 0x30A]), (0x1E9A, [0x41, 0x2BE]), (0x1F50, [0x3A5, 0x313]),
    (0x1F52, [0x3A5, 0x313, 0x300]), (0x1F54, [0x3A5, 0x313, 0x301]),
    (0x1F56, [0x3A5, 0x313, 0x342]), (0x1F80, [0x1F08, 0x399]), (0x1F81, [0x1F09, 0x399]),
    (0x1F82, [0x1F0A, 0x399]), (0x1F83, [0x1F0B, 0x399]), (0x1F84, [0x1F0C, 0x399]),
    (0x1F85, [0x1F0D, 0x399]), (0x1F86, [0x1F0E, 0x399]), (0x1F87, [0x1F0F, 0x399]),
    (0x1F88, [0x1F08, 0x399]), (0x1F89, [0x1F09, 0x399]), (0x1F8A, [0x1F0A, 0x399]),
    (0x1F8B, [0x1F0B, 0x399]), (0x1F8C, [0x1F0C, 0x399]), (0x1F8D, [0x1F0D, 0x399]),
    (0x1F8E, [0x1F0E, 0x399]), (0x1F8F, [0x1F0F, 0x399]), (0x1F90, [0x1F28, 0x399]),
    (0x1F91, [0x1F29, 0x399]), (0x1F92, [0x1F2A, 0x399]), (0x1F93, [0x1F2B, 0x399]),
    (0x1F94, [0x1F2C, 0x399]), (0x1F95, [0x1F2D, 0x399]), (0x1F96, [0x1F2E, 0x399]),
    (0x1F97, [0x1F2F, 0x399]), (0x1F98, [0x1F28, 0x399]), (0x1F99, [0x1F29, 0x399]),
    (0x1F9A, [0x1F2A, 0x399]), (0x1F9B, [0x1F2B, 0x399]), (0x1F9C, [0x1F2C, 0x399]),
    (0x1F9D, [0x1F2D, 0x399]), (0x1F9E, [0x1F2E, 0x399]), (0x1F9F, [0x1F2F, 0x399]),
    (0x1FA0, [0x1F68, 0x399]), (0x1FA1, [0x1F69, 0x399]), (0x1FA2, [0x1F6A, 0x399]),
    (0x1FA3, [0x1F6B, 0x399]), (0x1FA4, [0x1F6C, 0x399]), (0x1FA5, [0x1F6D, 0x399]),
    (0x1FA6, [0x1F6E, 0x399]), (0x1FA7, [0x1F6F, 0x399]), (0x1FA8, [0x1F68, 0x399]),
    (0x1FA9, [0x1F69, 0x399]), (0x1FAA, [0x1F6A, 0x399]), (0x1FAB, [0x1F6B, 0x399]),
    (0x1FAC, [0x1F6C, 0x399]), (0x1FAD, [0x1F6D, 0x399]), (0x1FAE, [0x1F6E, 0x399]),
    (0x1FAF, [0x1F6F, 0x399]), (0x1FB2, [0x1FBA, 0x399]), (0x1FB3, [0x391, 0x399]),
    (0x1FB4, [0x386, 0x399]), (0x1FB6, [0x391, 0x342]), (0x1FB7, [0x391, 0x342, 0x399]),
    (0x1FBC, [0x391, 0x399]), (0x1FC2, [0x1FCA, 0x399]), (0x1FC3, [0x397, 0x399]),
    (0x1FC4, [0x389, 0x399]), (0x1FC6, [0x397, 0x342]), (0x1FC7, [0x397, 0x342, 0x399]),
    (0x1FCC, [0x397, 0x399]), (0x1FD2, [0x399, 0x308, 0x300]), (0x1FD3, [0x399, 0x308, 0x301]),
    (0x1FD6, [0x399, 0x342]), (0x1FD7, [0x399, 0x308, 0x342]), (0x1FE2, [0x3A5, 0x308, 0x300]),
    (0x1FE3, [0x3A5, 0x308, 0x301]), (0x1FE4, [0x3A1, 0x313]), (0x1FE6, [0x3A5, 0x342]),
    (0x1FE7, [0x3A5, 0x308, 0x342]), (0x1FF2, [0x1FFA, 0x399]), (0x1FF3, [0x3A9, 0x399]),
    (0x1FF4, [0x38F, 0x399]), (0x1FF6, [0x3A9, 0x342]), (0x1FF7, [0x3A9, 0x342, 0x399]),
    (0x1FFC, [0x3A9, 0x399]), (0xFB00, [0x46, 0x46]), (0xFB01, [0x46, 0x49]),
    (0xFB02, [0x46, 0x4C]), (0xFB03, [0x46, 0x46, 0x49]), (0xFB04, [0x46, 0x46, 0x4C]),
    (0xFB05, [0x53, 0x54]), (0xFB06, [0x53, 0x54]), (0xFB13, [0x544, 0x546]),
    (0xFB14, [0x544, 0x535]), (0xFB15, [0x544, 0x53B]), (0xFB16, [0x54E, 0x546]),
    (0xFB17, [0x544, 0x53D])]

def upperCodePoints (n : ℕ) : List ℕ :=
  match expansions.lookup n with
  | some upper => upper
  | none =>
      match caseRanges.find? (·.covers n) with
      | some range => [range.upper + (n - range.first)]
      | none => [n]

def upper (c : Char) : List Char :=
  if c.toNat < 2 ^ 7 then [c.toUpper] else (upperCodePoints c.toNat).map Char.ofNat

def toUpperCase (s : String) : String := String.ofList (s.toList.flatMap upper)

/-! ### The characters of a table -/

/-- The characters beyond ASCII with an upper case of ASCII characters. -/
def becomingAscii : List ℕ :=
  [0xDF, 0x131, 0x17F, 0xFB00, 0xFB01, 0xFB02, 0xFB03, 0xFB04, 0xFB05, 0xFB06]

/-- Upper cases between two code points: none is a space, a small letter of ASCII, or has itself an
upper case of ASCII characters. -/
def Proper (first last : ℕ) : Prop :=
  0x20 < first ∧ (last < 0x61 ∨ 0x7A < first) ∧ (∀ n ∈ becomingAscii, n < first ∨ last < n) ∧
    (last < 0xD800 ∨ 0xDFFF < first ∧ last < 0x110000)

instance (first last : ℕ) : Decidable (Proper first last) :=
  inferInstanceAs (Decidable (_ ∧ _ ∧ _ ∧ _))

theorem proper_expansions : ∀ expansion ∈ expansions, expansion.2 ≠ [] ∧
    (∀ m ∈ expansion.2, Proper m m) ∧
    (expansion.1 ∈ becomingAscii ∨ ∃ m ∈ expansion.2, 2 ^ 7 ≤ m) := by
  decide +kernel

theorem proper_caseRanges : ∀ range ∈ caseRanges,
    Proper range.upper (range.upper + (range.last - range.first)) ∧
    (range.first = range.last ∧ range.first ∈ becomingAscii ∨ 2 ^ 7 ≤ range.upper) := by
  decide +kernel

theorem Proper.mono {first last m : ℕ} (h : Proper first last) (hfirst : first ≤ m)
    (hlast : m ≤ last) : Proper m m := by
  obtain ⟨hspace, hsmall, hascii, hvalid⟩ := h
  refine ⟨by omega, by omega, fun n hn => ?_, by omega⟩
  have := hascii n hn
  omega

theorem Proper.toNat_ofNat {m : ℕ} (h : Proper m m) : (Char.ofNat m).toNat = m := by
  rw [Char.ofNat, dif_pos h.2.2.2]
  rfl

/-- A character without an entry in the tables is its own upper case. -/
theorem upperCodePoints_spec (n : ℕ) :
    upperCodePoints n = [n] ∨
      upperCodePoints n ≠ [] ∧ (∀ m ∈ upperCodePoints n, Proper m m) ∧
        (n ∈ becomingAscii ∨ ∃ m ∈ upperCodePoints n, 2 ^ 7 ≤ m) := by
  rw [upperCodePoints]
  cases hlookup : expansions.lookup n with
  | some upper =>
      obtain ⟨before, after, hsplit, -⟩ := List.lookup_eq_some_iff.mp hlookup
      have hmem : (n, upper) ∈ expansions := by simp [hsplit]
      exact .inr (proper_expansions _ hmem)
  | none =>
      cases hfind : caseRanges.find? (·.covers n) with
      | some range =>
          have hcovers := List.find?_some hfind
          rw [CaseRange.covers, decide_eq_true_eq] at hcovers
          obtain ⟨hproper, hascii⟩ := proper_caseRanges range (List.mem_of_find?_eq_some hfind)
          refine .inr ⟨List.cons_ne_nil _ _, ?_, ?_⟩
          · intro m hm
            rw [List.mem_singleton.mp hm]
            exact hproper.mono (by omega) (by omega)
          · rcases hascii with ⟨hone, hmem⟩ | hlarge
            · left
              rwa [show n = range.first by omega]
            · exact .inr ⟨_, List.mem_singleton_self _, by omega⟩
      | none => exact .inl rfl

variable {c d : Char}

/-! ### The upper case of a character -/

theorem upper_of_ascii (h : c.toNat < 2 ^ 7) : upper c = [c.toUpper] := if_pos h

/-- Outside of ASCII nothing becomes a space or a small letter of ASCII. -/
theorem upper_spec (h : 2 ^ 7 ≤ c.toNat) :
    upper c = [c] ∨
      upper c ≠ [] ∧ (∀ d ∈ upper c, Proper d.toNat d.toNat) ∧
        (c.toNat ∈ becomingAscii ∨ ∃ d ∈ upper c, 2 ^ 7 ≤ d.toNat) := by
  rw [upper, if_neg (Nat.not_lt_of_le h)]
  rcases upperCodePoints_spec c.toNat with hself | ⟨hne, hproper, hascii⟩
  · rw [hself, List.map_singleton, Char.ofNat_toNat]
    exact .inl rfl
  · refine .inr ⟨by simpa using hne, ?_, ?_⟩
    · intro d hd
      obtain ⟨m, hm, rfl⟩ := List.mem_map.mp hd
      rw [(hproper m hm).toNat_ofNat]
      exact hproper m hm
    · refine hascii.imp_right ?_
      rintro ⟨m, hm, hlarge⟩
      exact ⟨Char.ofNat m, List.mem_map_of_mem hm, by rwa [(hproper m hm).toNat_ofNat]⟩

theorem upper_ne_nil (c : Char) : upper c ≠ [] := by
  rcases Nat.lt_or_ge c.toNat (2 ^ 7) with h | h
  · simp [upper_of_ascii h]
  · rcases upper_spec h with hself | ⟨hne, -⟩
    · simp [hself]
    · exact hne

/-- No character becomes a small letter of ASCII. -/
theorem not_small_of_mem_upper (hd : d ∈ upper c) : ¬ (0x61 ≤ d.toNat ∧ d.toNat ≤ 0x7A) := by
  rcases Nat.lt_or_ge c.toNat (2 ^ 7) with h | h
  · rw [upper_of_ascii h, List.mem_singleton] at hd
    rw [hd, toNat_toUpper]
    split <;> omega
  · rcases upper_spec h with hself | ⟨-, hproper, -⟩
    · rw [hself, List.mem_singleton] at hd
      rw [hd]
      omega
    · have hsmall := (hproper d hd).2.1
      omega

/-- The characters up to the space are their own upper cases, and no other's. -/
theorem le_space_iff_of_mem_upper (hd : d ∈ upper c) : d ≤ ' ' ↔ c ≤ ' ' := by
  have hle : ∀ e : Char, e ≤ ' ' ↔ e.toNat ≤ 0x20 := fun e => UInt32.le_iff_toNat_le
  rw [hle, hle]
  rcases Nat.lt_or_ge c.toNat (2 ^ 7) with h | h
  · rw [upper_of_ascii h, List.mem_singleton] at hd
    rw [hd, toNat_toUpper]
    split <;> omega
  · rcases upper_spec h with hself | ⟨-, hproper, -⟩
    · rw [hself, List.mem_singleton] at hd
      rw [hd]
    · have hspace := (hproper d hd).1
      omega

theorem upper_of_le_space (h : c ≤ ' ') : upper c = [c] := by
  have hle : c.toNat ≤ 0x20 := UInt32.le_iff_toNat_le.mp h
  rw [upper_of_ascii (by omega), toUpper_eq_self (by omega)]

theorem eq_space_iff_of_mem_upper (hd : d ∈ upper c) : d = ' ' ↔ c = ' ' := by
  constructor
  · rintro rfl
    rw [upper_of_le_space ((le_space_iff_of_mem_upper hd).mp (by decide)), List.mem_singleton] at hd
    exact hd.symm
  · rintro rfl
    rw [upper_of_le_space (by decide), List.mem_singleton] at hd
    exact hd

/-- The case of letters of ASCII is of no account. -/
theorem upper_toUpper (c : Char) : upper c.toUpper = upper c := by
  by_cases hsmall : 0x61 ≤ c.toNat ∧ c.toNat ≤ 0x7A
  · have hupper : ¬ (0x61 ≤ c.toUpper.toNat ∧ c.toUpper.toNat ≤ 0x7A) := by
      rw [toNat_toUpper, if_pos hsmall]
      omega
    rw [upper_of_ascii (c := c) (by omega), upper_of_ascii (by rw [toNat_toUpper]; split <;> omega),
      toUpper_eq_self hupper]
  · rw [toUpper_eq_self hsmall]

/-- A character of an upper case that has itself an upper case in ASCII is its own upper case. -/
theorem upper_of_mem_upper (hd : d ∈ upper c) (h : ∀ e ∈ upper d, e.toNat < 2 ^ 7) :
    d.toNat < 2 ^ 7 ∧ upper d = [d] := by
  have hascii : d.toNat < 2 ^ 7 := by
    by_contra hlarge
    have hlarge : 2 ^ 7 ≤ d.toNat := Nat.le_of_not_lt hlarge
    rcases upper_spec hlarge with hself | ⟨-, -, hbecoming | ⟨e, he, hge⟩⟩
    · exact absurd (h d (by simp [hself])) (Nat.not_lt_of_le hlarge)
    · rcases Nat.lt_or_ge c.toNat (2 ^ 7) with hc | hc
      · rw [upper_of_ascii hc, List.mem_singleton] at hd
        rw [hd, toNat_toUpper] at hlarge
        split at hlarge <;> omega
      · rcases upper_spec hc with hself | ⟨-, hproper, -⟩
        · rw [hself, List.mem_singleton] at hd
          exact absurd (h d (by simp [hd, hself])) (Nat.not_lt_of_le hlarge)
        · have := (hproper d hd).2.2.1 _ hbecoming
          omega
    · exact absurd (h e he) (Nat.not_lt_of_le hge)
  refine ⟨hascii, ?_⟩
  rw [upper_of_ascii hascii, toUpper_eq_self (not_small_of_mem_upper hd)]

/-! ### The upper case of a text -/

variable {s : String}

@[simp] theorem toList_toUpperCase : (toUpperCase s).toList = s.toList.flatMap upper :=
  String.toList_ofList

example : toUpperCase "Straße 1a" = "STRASSE 1A" := by decide +kernel

theorem toUpperCase_toUpper (s : String) : toUpperCase s.toUpper = toUpperCase s := by
  apply String.toList_inj.mp
  rw [toList_toUpperCase, toList_toUpperCase, String.toUpper, String.toList_map, List.flatMap_map]
  simp only [upper_toUpper]

/-- The conversion takes no space away and puts none in at the ends. -/
theorem trim_toUpperCase (s : String) :
    Text.trim (· ≤ ' ') (toUpperCase s) = toUpperCase (Text.trim (· ≤ ' ') s) :=
  Text.trim_flatMap upper_ne_nil (fun _ _ hd => decide_eq_decide.mpr (le_space_iff_of_mem_upper hd))
    s

/-- On ASCII the conversion is that of Lean. -/
theorem toUpperCase_of_ascii (h : ∀ c ∈ s.toList, c.toNat < 2 ^ 7) : toUpperCase s = s.toUpper := by
  apply String.toList_inj.mp
  rw [toList_toUpperCase, String.toUpper, String.toList_map]
  generalize s.toList = cs at h
  induction cs with
  | nil => rfl
  | cons c cs ih =>
      obtain ⟨hc, hcs⟩ := List.forall_mem_cons.mp h
      rw [List.flatMap_cons, List.map_cons, ih hcs, upper_of_ascii hc]
      rfl

/-- A text all of whose characters are their own upper cases. -/
theorem toUpperCase_eq_self (h : ∀ c ∈ s.toList, upper c = [c]) : toUpperCase s = s := by
  apply String.toList_inj.mp
  rw [toList_toUpperCase]
  generalize s.toList = cs at h
  induction cs with
  | nil => rfl
  | cons c cs ih =>
      obtain ⟨hc, hcs⟩ := List.forall_mem_cons.mp h
      rw [List.flatMap_cons, ih hcs, hc]
      rfl

/-- A second conversion leaves a text alone, if what it gives is ASCII. -/
theorem toUpperCase_of_mem_upper (h : ∀ d ∈ s.toList, ∃ c, d ∈ upper c)
    (hascii : ∀ e ∈ (toUpperCase s).toList, e.toNat < 2 ^ 7) :
    toUpperCase s = s ∧ ∀ d ∈ s.toList, d.toNat < 2 ^ 7 := by
  have hspec : ∀ d ∈ s.toList, d.toNat < 2 ^ 7 ∧ upper d = [d] := by
    intro d hd
    obtain ⟨c, hc⟩ := h d hd
    refine upper_of_mem_upper hc fun e he => hascii e ?_
    rw [toList_toUpperCase]
    exact List.mem_flatMap_of_mem hd he
  exact ⟨toUpperCase_eq_self fun d hd => (hspec d hd).2, fun d hd => (hspec d hd).1⟩

end Unicode
