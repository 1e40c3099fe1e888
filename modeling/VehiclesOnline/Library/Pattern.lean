import Mathlib.Algebra.Ring.Nat
import Mathlib.Data.List.TakeWhile
import Mathlib.Data.List.Basic

/-! Shapes of texts: sequences of pieces, each of which repeats characters of a class between
a least and a greatest number of times. -/

namespace Pattern

/-- Characters of a class, repeated. -/
structure Piece where
  accepts : Char → Bool
  min : ℕ
  max : ℕ

/-- The whole text is made of the pieces, one behind the other. -/
def matchesAll : List Piece → List Char → Bool
  | [], cs => cs.isEmpty
  | piece :: pieces, cs => (List.range (piece.max + 1)).any fun n =>
      decide (piece.min ≤ n ∧ n ≤ cs.length) && (cs.take n).all piece.accepts &&
        matchesAll pieces (cs.drop n)

variable {piece : Piece} {pieces : List Piece} {cs : List Char}

@[simp] theorem matchesAll_nil : matchesAll [] cs = true ↔ cs = [] := by
  simp [matchesAll]

/-- A text of a shape begins with its first piece, and the rest is of the rest of the shape. -/
theorem matchesAll_cons :
    matchesAll (piece :: pieces) cs = true ↔ ∃ front rest, cs = front ++ rest ∧
      piece.min ≤ front.length ∧ front.length ≤ piece.max ∧
      (∀ c ∈ front, piece.accepts c = true) ∧ matchesAll pieces rest = true := by
  simp only [matchesAll, List.any_eq_true, List.mem_range, Bool.and_eq_true, decide_eq_true_eq,
    List.all_eq_true]
  constructor
  · rintro ⟨n, hn, ⟨⟨hmin, hlen⟩, hall⟩, hrest⟩
    have hlength : (cs.take n).length = n := List.length_take_of_le hlen
    exact ⟨cs.take n, cs.drop n, (List.take_append_drop n cs).symm, by omega, by omega, hall,
      hrest⟩
  · rintro ⟨front, rest, rfl, hmin, hmax, hall, hrest⟩
    refine ⟨front.length, by omega, ⟨⟨hmin, by simp⟩, ?_⟩, ?_⟩
    · simpa using hall
    · simpa using hrest

theorem length_of_matchesAll (h : matchesAll pieces cs = true) :
    (pieces.map Piece.min).sum ≤ cs.length ∧ cs.length ≤ (pieces.map Piece.max).sum := by
  induction pieces generalizing cs with
  | nil => simp [matchesAll_nil.mp h]
  | cons piece pieces ih =>
      obtain ⟨front, rest, rfl, hmin, hmax, -, hrest⟩ := matchesAll_cons.mp h
      have := ih hrest
      simp only [List.map_cons, List.sum_cons, List.length_append]
      omega

/-- Every character of a text belongs to a class of its shape. -/
theorem exists_accepts_of_matchesAll (h : matchesAll pieces cs = true) :
    ∀ c ∈ cs, ∃ piece ∈ pieces, piece.accepts c = true := by
  induction pieces generalizing cs with
  | nil =>
      rw [matchesAll_nil.mp h]
      intro c hc
      cases hc
  | cons piece pieces ih =>
      obtain ⟨front, rest, rfl, -, -, hall, hrest⟩ := matchesAll_cons.mp h
      intro c hc
      rcases List.mem_append.mp hc with hc | hc
      · exact ⟨piece, List.mem_cons_self, hall c hc⟩
      · obtain ⟨piece', hmem, haccepts⟩ := ih hrest c hc
        exact ⟨piece', List.mem_cons_of_mem piece hmem, haccepts⟩

/-- A map that keeps the classes of a shape keeps the texts of the shape. -/
theorem matchesAll_map (f : Char → Char)
    (hf : ∀ piece ∈ pieces, ∀ c, piece.accepts c = true → piece.accepts (f c) = true)
    (h : matchesAll pieces cs = true) : matchesAll pieces (cs.map f) = true := by
  induction pieces generalizing cs with
  | nil => simp [matchesAll_nil.mp h]
  | cons piece pieces ih =>
      obtain ⟨front, rest, rfl, hmin, hmax, hall, hrest⟩ := matchesAll_cons.mp h
      refine matchesAll_cons.mpr ⟨front.map f, rest.map f, List.map_append, by simpa, by simpa,
        ?_, ih (fun p hp => hf p (List.mem_cons_of_mem piece hp)) hrest⟩
      intro c hc
      obtain ⟨d, hd, rfl⟩ := List.mem_map.mp hc
      exact hf piece List.mem_cons_self d (hall d hd)

end Pattern
