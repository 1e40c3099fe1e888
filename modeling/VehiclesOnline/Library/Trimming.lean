import Mathlib.Data.List.DropRight

/-! Lists that are cut at both ends: the elements that meet a condition are dropped from the
front and from the back, up to the first ones that do not. -/

namespace Trimming

variable {α β : Type*} {drop : α → Bool} {l front kept back : List α}

/-- The longest prefix whose elements are dropped. -/
structure LongestPrefix (drop : α → Bool) (l front : List α) : Prop where
  isPrefix : front <+: l
  dropped : ∀ a ∈ front, drop a = true
  longest : ∀ front', front' <+: l → (∀ a ∈ front', drop a = true) → front' <+: front

/-- The longest suffix whose elements are dropped. -/
structure LongestSuffix (drop : α → Bool) (l back : List α) : Prop where
  isSuffix : back <:+ l
  dropped : ∀ a ∈ back, drop a = true
  longest : ∀ back', back' <:+ l → (∀ a ∈ back', drop a = true) → back' <:+ back

/-- What is left without the longest prefix and the longest suffix, which overlap if all is
dropped. -/
inductive Trims (drop : α → Bool) : List α → List α → Prop
  | all {l : List α} (h : ∀ a ∈ l, drop a = true) : Trims drop l []
  | ends {l front kept back : List α} (hsplit : l = front ++ kept ++ back)
      (hfront : LongestPrefix drop l front) (hback : LongestSuffix drop l back) : Trims drop l kept

def trim (drop : α → Bool) (l : List α) : List α := (l.dropWhile drop).rdropWhile drop

/-! ### The prefix and the suffix -/

theorem LongestPrefix.unique {front' : List α} (h : LongestPrefix drop l front)
    (h' : LongestPrefix drop l front') : front = front' := by
  have hle := h'.longest front h.isPrefix h.dropped
  have hge := h.longest front' h'.isPrefix h'.dropped
  exact hle.eq_of_length_le hge.length_le

theorem LongestSuffix.unique {back' : List α} (h : LongestSuffix drop l back)
    (h' : LongestSuffix drop l back') : back = back' := by
  have hle := h'.longest back h.isSuffix h.dropped
  have hge := h.longest back' h'.isSuffix h'.dropped
  exact hle.eq_of_length_le hge.length_le

theorem longestPrefix_takeWhile : LongestPrefix drop l (l.takeWhile drop) where
  isPrefix := List.takeWhile_prefix drop
  dropped _ ha := List.mem_takeWhile_imp ha
  longest front' hprefix hdropped := by
    obtain ⟨rest, rfl⟩ := hprefix
    rw [List.takeWhile_append_of_pos hdropped]
    exact List.prefix_append _ _

theorem suffix_rtakeWhile (hsuffix : back <:+ l) (hdropped : ∀ a ∈ back, drop a = true) :
    back <:+ l.rtakeWhile drop := by
  obtain ⟨rest, rfl⟩ := hsuffix
  rw [List.rtakeWhile, List.reverse_append, List.takeWhile_append_of_pos (by simpa using hdropped),
    List.reverse_append, List.reverse_reverse]
  exact List.suffix_append _ _

/-- A suffix whose elements are dropped does not reach the first element that is kept. -/
theorem longestSuffix_rtakeWhile (h : ¬ ∀ a ∈ l, drop a = true) :
    LongestSuffix drop l ((l.dropWhile drop).rtakeWhile drop) where
  isSuffix := (List.rtakeWhile_suffix drop _).trans (List.dropWhile_suffix drop)
  dropped _ ha := List.mem_rtakeWhile_imp ha
  longest back' hsuffix hdropped := by
    rcases List.suffix_or_suffix_of_suffix hsuffix (List.dropWhile_suffix drop) with hle | hge
    · exact suffix_rtakeWhile hle hdropped
    · cases hkept : l.dropWhile drop with
      | nil => exact absurd (List.dropWhile_eq_nil_iff.mp hkept) h
      | cons a as =>
          have hmem : a ∈ back' := hge.subset (by simp [hkept])
          have hhead := List.head?_dropWhile_not drop l
          simp [hkept, hdropped a hmem] at hhead

/-! ### Trimmed lists -/

theorem trim_eq_nil_iff : trim drop l = [] ↔ ∀ a ∈ l, drop a = true := by
  rw [trim, List.rdropWhile_eq_nil_iff]
  constructor
  · intro h
    have hany : ((l.dropWhile drop).any fun a => !drop a) = false := by
      rw [List.any_eq_false]
      intro a ha
      simp [h a ha]
    rw [List.any_dropWhile, Bool.not_eq_false', List.all_eq_true] at hany
    exact hany
  · intro h a ha
    exact h a ((List.dropWhile_suffix drop).subset ha)

theorem Trims.eq_nil (h : Trims drop l kept) (hall : ∀ a ∈ l, drop a = true) : kept = [] := by
  cases h with
  | all => rfl
  | ends hsplit hfront hback =>
      have hlength := (hback.longest _ (List.suffix_refl _) hall).length_le
      simp only [hsplit, List.length_append] at hlength
      exact List.length_eq_zero_iff.mp (by omega)

theorem Trims.unique {kept' : List α} (h : Trims drop l kept) (h' : Trims drop l kept') :
    kept = kept' := by
  cases h with
  | all hall => exact (h'.eq_nil hall).symm
  | ends hsplit hfront hback =>
      cases h' with
      | all hall => exact Trims.eq_nil (.ends hsplit hfront hback) hall
      | ends hsplit' hfront' hback' =>
          rw [hfront.unique hfront', hback.unique hback'] at hsplit
          exact List.append_cancel_left (List.append_cancel_right (hsplit.symm.trans hsplit'))

theorem trims_trim (drop : α → Bool) (l : List α) : Trims drop l (trim drop l) := by
  by_cases h : ∀ a ∈ l, drop a = true
  · rw [trim_eq_nil_iff.mpr h]
    exact .all h
  · refine .ends ?_ longestPrefix_takeWhile (longestSuffix_rtakeWhile h)
    rw [trim, List.append_assoc, List.rdropWhile_append_rtakeWhile,
      List.takeWhile_append_dropWhile]

theorem trims_iff : Trims drop l kept ↔ kept = trim drop l := by
  constructor
  · intro h
    exact h.unique (trims_trim drop l)
  · rintro rfl
    exact trims_trim drop l

theorem mem_of_mem_trim {a : α} (h : a ∈ trim drop l) : a ∈ l :=
  (List.dropWhile_suffix drop).subset ((List.rdropWhile_prefix drop _).subset h)

theorem head?_trim {a : α} (h : a ∈ (trim drop l).head?) : drop a = false := by
  obtain ⟨rest, hrest⟩ := List.rdropWhile_prefix drop (l.dropWhile drop)
  have hhead := List.head?_dropWhile_not drop l
  rw [← hrest, ← trim, List.head?_append, Option.mem_def.mp h] at hhead
  simpa using hhead

theorem getLast?_trim {a : α} (h : a ∈ (trim drop l).getLast?) : drop a = false := by
  have hne : trim drop l ≠ [] := by
    intro hnil
    rw [hnil] at h
    cases h
  have hlast : ¬ drop ((trim drop l).getLast hne) = true := List.rdropWhile_last_not _ _ hne
  rw [List.getLast?_eq_some_getLast hne, Option.mem_def, Option.some.injEq] at h
  simpa [h] using hlast

/-- A list that starts and ends with elements that are kept stays as it is. -/
theorem trim_eq_self (hhead : ∀ a ∈ l.head?, drop a = false)
    (hlast : ∀ a ∈ l.getLast?, drop a = false) : trim drop l = l := by
  have hfront : l.dropWhile drop = l := by
    cases l with
    | nil => rfl
    | cons a as => exact List.dropWhile_cons_of_neg (by simp [hhead a rfl])
  rw [trim, hfront, List.rdropWhile_eq_self_iff]
  intro hne
  rw [hlast _ (List.getLast?_eq_some_getLast hne)]
  exact Bool.false_ne_true

@[simp] theorem trim_trim (drop : α → Bool) (l : List α) : trim drop (trim drop l) = trim drop l :=
  trim_eq_self (fun _ => head?_trim) fun _ => getLast?_trim

/-! ### Lists that are rewritten element by element -/

section Rewriting

variable {drop' : β → Bool} {f : α → List β}

theorem dropWhile_flatMap (hne : ∀ a, f a ≠ []) (hdrop : ∀ a, ∀ b ∈ f a, drop' b = drop a)
    (l : List α) : (l.flatMap f).dropWhile drop' = (l.dropWhile drop).flatMap f := by
  induction l with
  | nil => rfl
  | cons a as ih =>
      rw [List.flatMap_cons]
      by_cases ha : drop a = true
      · rw [List.dropWhile_append_of_pos fun b hb => (hdrop a b hb).trans ha, ih,
          List.dropWhile_cons_of_pos ha]
      · rw [List.dropWhile_cons_of_neg ha, List.flatMap_cons]
        cases hf : f a with
        | nil => exact absurd hf (hne a)
        | cons b bs =>
            have hb := hdrop a b (by simp [hf])
            exact List.dropWhile_cons_of_neg (by rwa [hb])

/-- Where no element is rewritten over the condition, trimming and rewriting commute. -/
theorem trim_flatMap (hne : ∀ a, f a ≠ []) (hdrop : ∀ a, ∀ b ∈ f a, drop' b = drop a)
    (l : List α) : trim drop' (l.flatMap f) = (trim drop l).flatMap f := by
  have hdropReverse : ∀ a, ∀ b ∈ (List.reverse ∘ f) a, drop' b = drop a := by simpa using hdrop
  rw [trim, trim, dropWhile_flatMap hne hdrop, List.rdropWhile, List.rdropWhile,
    List.reverse_flatMap, dropWhile_flatMap (by simpa using hne) hdropReverse,
    List.reverse_flatMap]
  simp [Function.comp_def]

end Rewriting

end Trimming
