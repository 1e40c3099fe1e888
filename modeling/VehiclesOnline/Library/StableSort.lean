import Mathlib.Data.List.Sort

/-! # Stable sorting

Sorts by a key that leave what has one key in its order. There is one for each key, and the sorts
by two keys are the same exactly when the keys invert the same pairs. -/

namespace StableSort

open List

variable {α κ κ' : Type} [LinearOrder κ] [LinearOrder κ']

/-- In the order of the keys, with those of one key in the order that they had. -/
structure IsStableSort (key : α → κ) (input output : List α) : Prop where
  perm : output ~ input
  sorted : output.Pairwise fun a b => key a ≤ key b
  stable : ∀ k, output.filter (fun a => key a = k) = input.filter fun a => key a = k

/-- Sorting by a key, as libraries do it. -/
def sortBy (key : α → κ) (input : List α) : List α := input.mergeSort fun a b => key a ≤ key b

variable {key : α → κ} {key' : α → κ'} {input output output' : List α}

/-! ### One sort for each key -/

/-- Lists with the same elements of each key have the same elements. -/
theorem mem_of_filter_eq {a : α}
    (hfilter : ∀ k, output.filter (fun a => key a = k) = output'.filter fun a => key a = k)
    (ha : a ∈ output) : a ∈ output' := by
  have hmem : a ∈ output.filter fun b => key b = key a := by simp [ha]
  rw [hfilter] at hmem
  exact mem_of_mem_filter hmem

/-- The first one of a sorted list has the least key. -/
theorem key_le_of_mem {a b : α} {rest : List α}
    (hsorted : (a :: rest).Pairwise fun a b => key a ≤ key b) (hb : b ∈ a :: rest) :
    key a ≤ key b := by
  rcases mem_cons.mp hb with rfl | hb
  · exact le_rfl
  · exact rel_of_pairwise_cons hsorted hb

theorem eq_of_sorted (hsorted : output.Pairwise fun a b => key a ≤ key b)
    (hsorted' : output'.Pairwise fun a b => key a ≤ key b)
    (hfilter : ∀ k, output.filter (fun a => key a = k) = output'.filter fun a => key a = k) :
    output = output' := by
  induction output generalizing output' with
  | nil =>
      refine (eq_nil_iff_forall_not_mem.mpr fun a ha => ?_).symm
      exact not_mem_nil (mem_of_filter_eq (fun k => (hfilter k).symm) ha)
  | cons a rest ih =>
      cases output' with
      | nil => exact absurd (mem_of_filter_eq hfilter mem_cons_self) not_mem_nil
      | cons b rest' =>
          have ha : a ∈ b :: rest' := mem_of_filter_eq hfilter mem_cons_self
          have hb : b ∈ a :: rest := mem_of_filter_eq (fun k => (hfilter k).symm) mem_cons_self
          have hab : key a = key b :=
            le_antisymm (key_le_of_mem hsorted hb) (key_le_of_mem hsorted' ha)
          have hhead := hfilter (key a)
          simp only [filter_cons, hab, decide_true, if_true, cons.injEq] at hhead
          obtain ⟨rfl, -⟩ := hhead
          have hrest : rest = rest' := by
            refine ih hsorted.tail hsorted'.tail fun k => ?_
            have hk := hfilter k
            by_cases ha : key a = k
            · simpa [ha] using hk
            · simpa [ha] using hk
          rw [hrest]

theorem IsStableSort.unique (h : IsStableSort key input output)
    (h' : IsStableSort key input output') : output = output' :=
  eq_of_sorted h.sorted h'.sorted fun k => (h.stable k).trans (h'.stable k).symm

theorem isStableSort_sortBy (key : α → κ) (input : List α) :
    IsStableSort key input (sortBy key input) := by
  have htrans : ∀ a b c : α, decide (key a ≤ key b) = true → decide (key b ≤ key c) = true →
      decide (key a ≤ key c) = true := by
    intro a b c hab hbc
    exact decide_eq_true ((of_decide_eq_true hab).trans (of_decide_eq_true hbc))
  have htotal : ∀ a b : α, (decide (key a ≤ key b) || decide (key b ≤ key a)) = true := by
    intro a b
    simpa using le_total (key a) (key b)
  have hperm : sortBy key input ~ input := mergeSort_perm input _
  refine ⟨hperm, (pairwise_mergeSort htrans htotal input).imp of_decide_eq_true, ?_⟩
  intro k
  -- The elements of one key are sorted as they are.
  have hsub : input.filter (fun a => key a = k) <+ sortBy key input := by
    refine sublist_mergeSort htrans htotal ?_ filter_sublist
    refine pairwise_of_forall_mem_list fun a ha b hb => ?_
    simp only [mem_filter, decide_eq_true_eq] at ha hb
    simp [ha.2, hb.2]
  have hfilter := hsub.filter fun a => decide (key a = k)
  simp only [filter_filter, Bool.and_self] at hfilter
  exact (hfilter.eq_of_length (hperm.filter _).length_eq.symm).symm

/-! ### Sorts by two keys -/

/-- Behind what is less, and before what is equal. -/
def insert (key : α → κ) (a : α) (output : List α) : List α :=
  output.orderedInsert (fun a b => key a ≤ key b) a

theorem filter_insert {a : α} (hsorted : output.Pairwise fun a b => key a ≤ key b) (k : κ) :
    (insert key a output).filter (fun b => key b = k) =
      (a :: output).filter fun b => key b = k := by
  induction output with
  | nil => rfl
  | cons b rest ih =>
      rw [insert, orderedInsert_cons]
      split
      · rfl
      · next hlt =>
        have hrest := ih hsorted.tail
        rw [insert] at hrest
        rw [filter_cons, hrest, filter_cons, filter_cons, filter_cons]
        by_cases ha : key a = k
        · have hb : key b ≠ k := fun hb => hlt (ha.trans hb.symm).le
          simp [ha, hb]
        · simp [ha]

theorem pairwise_insert {a : α} (hsorted : output.Pairwise fun a b => key a ≤ key b) :
    (insert key a output).Pairwise fun a b => key a ≤ key b := by
  have htotal : Std.Total fun a b : α => key a ≤ key b := ⟨fun a b => le_total (key a) (key b)⟩
  have htrans : IsTrans α fun a b : α => key a ≤ key b := ⟨fun _ _ _ => le_trans⟩
  exact hsorted.orderedInsert a output

theorem erase_insert [DecidableEq α] (key : α → κ) (a : α) (output : List α) :
    (insert key a output).erase a = output := by
  have hrefl : Std.Refl fun a b : α => key a ≤ key b := ⟨fun a => le_refl (key a)⟩
  exact erase_orderedInsert a output

/-- Sorting is inserting one by one, from the last. -/
theorem sortBy_cons (key : α → κ) (a : α) (input : List α) :
    sortBy key (a :: input) = insert key a (sortBy key input) := by
  have h := isStableSort_sortBy key input
  refine (isStableSort_sortBy key (a :: input)).unique ⟨?_, pairwise_insert h.sorted, fun k => ?_⟩
  · exact (perm_orderedInsert _ a _).trans (h.perm.cons a)
  · rw [filter_insert h.sorted, filter_cons, filter_cons, h.stable]

/-- An element goes to the same place by two keys exactly when the same ones are less. -/
theorem insert_eq_insert_iff {a : α} (hsorted : output.Pairwise fun a b => key a ≤ key b)
    (hsorted' : output.Pairwise fun a b => key' a ≤ key' b) :
    insert key a output = insert key' a output ↔
      ∀ b ∈ output, key b < key a ↔ key' b < key' a := by
  induction output with
  | nil => exact iff_of_true rfl nofun
  | cons b rest ih =>
      have hrest := ih hsorted.tail hsorted'.tail
      rw [insert, insert] at hrest
      rw [insert, insert, orderedInsert_cons, orderedInsert_cons, forall_mem_cons]
      by_cases h : key a ≤ key b
      · by_cases h' : key' a ≤ key' b
        · have hnot : ∀ c ∈ b :: rest, key c < key a ↔ key' c < key' a := fun c hc =>
            iff_of_false (h.trans (key_le_of_mem hsorted hc)).not_gt
              (h'.trans (key_le_of_mem hsorted' hc)).not_gt
          rw [if_pos h, if_pos h']
          exact iff_of_true rfl (forall_mem_cons.mp hnot)
        · rw [if_pos h, if_neg h']
          refine iff_of_false (fun heq => ?_) fun hless => ?_
          · exact h' ((cons.inj heq).1 ▸ le_rfl)
          · exact h.not_gt (hless.1.mpr (not_le.mp h'))
      · by_cases h' : key' a ≤ key' b
        · rw [if_neg h, if_pos h']
          refine iff_of_false (fun heq => ?_) fun hless => ?_
          · exact h ((cons.inj heq).1 ▸ le_rfl)
          · exact h'.not_gt (hless.1.mp (not_le.mp h))
        · rw [if_neg h, if_neg h', cons.injEq, eq_self, true_and, hrest]
          exact (and_iff_right (iff_of_true (not_le.mp h) (not_le.mp h'))).symm

/-- Two sorts are the same exactly when the later one of two is put before the earlier one by both
keys or by neither. -/
theorem sortBy_eq_sortBy_iff :
    sortBy key input = sortBy key' input ↔
      input.Pairwise fun a b => key b < key a ↔ key' b < key' a := by
  classical
  induction input with
  | nil => simp [sortBy]
  | cons a input ih =>
      have hsort := isStableSort_sortBy key input
      have hmem : ∀ b, b ∈ sortBy key input ↔ b ∈ input := fun b => hsort.perm.mem_iff
      rw [sortBy_cons, sortBy_cons, pairwise_cons, ← ih]
      constructor
      · intro h
        have hrest : sortBy key input = sortBy key' input := by
          rw [← erase_insert key a (sortBy key input), h, erase_insert]
        have hsort' := isStableSort_sortBy key' input
        rw [← hrest] at h hsort'
        refine ⟨fun b hb => ?_, hrest⟩
        exact (insert_eq_insert_iff hsort.sorted hsort'.sorted).mp h b ((hmem b).mpr hb)
      · rintro ⟨hless, hrest⟩
        have hsort' := isStableSort_sortBy key' input
        rw [← hrest] at hsort' ⊢
        exact (insert_eq_insert_iff hsort.sorted hsort'.sorted).mpr fun b hb =>
          hless b ((hmem b).mp hb)

/-- The sort by one key is the sort by another one exactly when they invert the same pairs. -/
theorem isStableSort_sortBy_iff :
    IsStableSort key' input (sortBy key input) ↔
      input.Pairwise fun a b => key b < key a ↔ key' b < key' a := by
  rw [← sortBy_eq_sortBy_iff]
  constructor
  · intro h
    exact h.unique (isStableSort_sortBy key' input)
  · intro h
    rw [h]
    exact isStableSort_sortBy key' input

end StableSort
