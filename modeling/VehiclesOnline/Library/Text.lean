import Mathlib.Data.List.Infix
import Mathlib.Data.List.TakeWhile
import VehiclesOnline.Library.Trimming

/-! Cutting and searching of strings by character position, and the lemmas that
put a concatenation back together. -/

namespace Text

/-- The first `n` characters and the rest. A short string is its own first part. -/
def splitAt (n : ℕ) (s : String) : String × String :=
  (String.ofList (s.toList.take n), String.ofList (s.toList.drop n))

theorem splitAt_join (n : ℕ) (s : String) : (splitAt n s).1 ++ (splitAt n s).2 = s := by
  apply String.toList_inj.mp
  simp [splitAt, String.toList_append]

theorem splitAt_append {n : ℕ} {s : String} (h : s.length = n) (t : String) :
    splitAt n (s ++ t) = (s, t) := by
  have hs : s.toList.length = n := String.length_toList.trans h
  simp [splitAt, String.toList_append, ← hs]

/-- Two concatenations with first parts of one length agree part by part. -/
theorem append_inj {s s' t t' : String} (h : s ++ t = s' ++ t') (hl : s.length = s'.length) :
    s = s' ∧ t = t' := by
  have hh := congrArg (splitAt s.length) h
  rw [splitAt_append rfl, splitAt_append hl.symm] at hh
  exact Prod.mk.inj hh

/-- `t` occurs in `s` as a block of consecutive characters. -/
def Contains (s t : String) : Prop := t.toList <:+: s.toList

instance (s t : String) : Decidable (Contains s t) :=
  inferInstanceAs (Decidable (t.toList <:+: s.toList))

theorem contains_iff {s t : String} : Contains s t ↔ ∃ a b, s = a ++ t ++ b := by
  constructor
  · rintro ⟨a, b, h⟩
    refine ⟨String.ofList a, String.ofList b, ?_⟩
    apply String.toList_inj.mp
    simp [String.toList_append, ← h]
  · rintro ⟨a, b, rfl⟩
    exact ⟨a.toList, b.toList, by simp [String.toList_append]⟩

theorem contains_append_left (s : String) {t u : String} (h : Contains t u) :
    Contains (s ++ t) u := by
  obtain ⟨a, b, rfl⟩ := contains_iff.mp h
  exact contains_iff.mpr ⟨s ++ a, b, by simp only [String.append_assoc]⟩

theorem contains_append_right {s u : String} (h : Contains s u) (t : String) :
    Contains (s ++ t) u := by
  obtain ⟨a, b, rfl⟩ := contains_iff.mp h
  exact contains_iff.mpr ⟨a, b ++ t, by simp only [String.append_assoc]⟩

/-- An occurrence cannot start in a part that its first character does not occur in. -/
theorem contains_append_iff_of_head {a t u : String} {c : Char} (hu : u.toList.head? = some c)
    (hc : c ∉ a.toList) : Contains (a ++ t) u ↔ Contains t u := by
  obtain ⟨cs, hcs⟩ : ∃ cs, u.toList = c :: cs := by
    cases h : u.toList with
    | nil => simp [h] at hu
    | cons d cs => exact ⟨cs, by simpa [h] using hu⟩
  simp only [Contains, String.toList_append, hcs]
  generalize a.toList = l at hc
  induction l with
  | nil => rfl
  | cons d l ih =>
      obtain ⟨hd, hl⟩ := not_or.mp (mt List.mem_cons.mpr hc)
      rw [List.cons_append, List.infix_cons_iff, ih hl]
      constructor
      · intro h
        rcases h with h | h
        · exact absurd (List.cons_prefix_cons.mp h).1 hd
        · exact h
      · exact .inr

/-- An occurrence in a string with one more character behind it may end with that
character. -/
theorem contains_append_singleton_iff {s u : String} (d : Char) (hu : u ≠ "") :
    Contains (s ++ String.singleton d) u ↔
      Contains s u ∨ ∃ base u', u = u' ++ String.singleton d ∧ s = base ++ u' := by
  simp only [Contains, String.toList_append, String.toList_singleton, List.infix_concat_iff,
    List.suffix_concat_iff]
  have hne : u.toList ≠ [] := fun h => hu (String.toList_inj.mp h)
  constructor
  · intro h
    rcases h with h | h
    · rcases h with h | ⟨t, ht, b, hb⟩
      · exact absurd h hne
      · refine .inr ⟨String.ofList b, String.ofList t, ?_, ?_⟩
        · apply String.toList_inj.mp
          simp [ht]
        · apply String.toList_inj.mp
          simp [String.toList_append, ← hb]
    · exact .inl h
  · intro h
    rcases h with h | ⟨base, u', rfl, rfl⟩
    · exact .inr h
    · exact .inl (.inr ⟨u'.toList, by simp, base.toList,
        by simp [String.toList_append]⟩)

/-- Everything before the first occurrence of a character, or the whole string. -/
def before (c : Char) (s : String) : String := String.ofList (s.toList.takeWhile (· != c))

/-- Everything after the first occurrence of a character, or the whole string. -/
def after (c : Char) (s : String) : String :=
  if c ∈ s.toList then String.ofList ((s.toList.dropWhile (· != c)).drop 1) else s

private theorem takeWhile_ne_append {c : Char} {l : List Char} (h : c ∉ l) (r : List Char) :
    (l ++ c :: r).takeWhile (· != c) = l := by
  rw [List.takeWhile_append_of_pos]
  · simp
  · intro a ha
    simp only [bne_iff_ne, ne_eq]
    rintro rfl
    exact h ha

private theorem dropWhile_ne_append {c : Char} {l : List Char} (h : c ∉ l) (r : List Char) :
    (l ++ c :: r).dropWhile (· != c) = c :: r := by
  rw [List.dropWhile_append_of_pos]
  · simp
  · intro a ha
    simp only [bne_iff_ne, ne_eq]
    rintro rfl
    exact h ha

/-- Two first parts free of the delimiter are told apart from what is behind it. -/
theorem append_cons_inj {c : Char} {l l' r r' : List Char} (h : c ∉ l) (h' : c ∉ l') :
    l ++ c :: r = l' ++ c :: r' ↔ l = l' ∧ r = r' := by
  constructor
  · intro heq
    have hfront := congrArg (List.takeWhile (· != c)) heq
    have hback := congrArg (List.dropWhile (· != c)) heq
    rw [takeWhile_ne_append h, takeWhile_ne_append h'] at hfront
    rw [dropWhile_ne_append h, dropWhile_ne_append h', List.cons_inj_right] at hback
    exact ⟨hfront, hback⟩
  · intro hparts
    rw [hparts.1, hparts.2]

theorem before_of_not_mem {c : Char} {s : String} (h : c ∉ s.toList) : before c s = s := by
  apply String.toList_inj.mp
  rw [before, String.toList_ofList]
  exact List.takeWhile_eq_self_iff.mpr fun d hd => by
    rw [bne_iff_ne]
    rintro rfl
    exact h hd

/-- A first part free of the delimiter is read back by `before`, the rest by `after`. -/
theorem before_append {c : Char} {s : String} (h : c ∉ s.toList) (t : String) :
    before c (s ++ String.singleton c ++ t) = s := by
  apply String.toList_inj.mp
  simp [before, String.toList_append, takeWhile_ne_append h]

theorem after_append {c : Char} {s : String} (h : c ∉ s.toList) (t : String) :
    after c (s ++ String.singleton c ++ t) = t := by
  apply String.toList_inj.mp
  simp [after, String.toList_append, dropWhile_ne_append h]

/-- Removal of every occurrence of a character. -/
def without (c : Char) (s : String) : String := String.ofList (s.toList.filter (· != c))

/-- Removal of the characters at both ends that meet the condition. -/
def trim (drop : Char → Bool) (s : String) : String :=
  String.ofList ((s.toList.dropWhile drop).reverse.dropWhile drop).reverse

theorem toList_trim (drop : Char → Bool) (s : String) :
    (trim drop s).toList = Trimming.trim drop s.toList := String.toList_ofList

theorem mem_of_mem_trim {drop : Char → Bool} {s : String} {c : Char}
    (h : c ∈ (trim drop s).toList) : c ∈ s.toList := by
  rw [toList_trim] at h
  exact Trimming.mem_of_mem_trim h

theorem trim_eq_empty_iff {drop : Char → Bool} {s : String} :
    trim drop s = "" ↔ ∀ c ∈ s.toList, drop c = true := by
  rw [← String.toList_inj, toList_trim, String.toList_empty, Trimming.trim_eq_nil_iff]

@[simp] theorem trim_trim (drop : Char → Bool) (s : String) :
    trim drop (trim drop s) = trim drop s := by
  apply String.toList_inj.mp
  rw [toList_trim, toList_trim, Trimming.trim_trim]

/-- A text that starts and ends with characters that are kept stays as it is. -/
theorem trim_eq_self {drop : Char → Bool} {s : String}
    (hhead : ∀ c ∈ s.toList.head?, drop c = false)
    (hlast : ∀ c ∈ s.toList.getLast?, drop c = false) : trim drop s = s := by
  apply String.toList_inj.mp
  rw [toList_trim, Trimming.trim_eq_self hhead hlast]

theorem head?_trim {drop : Char → Bool} {s : String} {c : Char}
    (h : c ∈ (trim drop s).toList.head?) : drop c = false := by
  rw [toList_trim] at h
  exact Trimming.head?_trim h

theorem getLast?_trim {drop : Char → Bool} {s : String} {c : Char}
    (h : c ∈ (trim drop s).toList.getLast?) : drop c = false := by
  rw [toList_trim] at h
  exact Trimming.getLast?_trim h

/-- Where no character is rewritten over the condition, trimming and rewriting commute. -/
theorem trim_flatMap {drop : Char → Bool} {f : Char → List Char} (hne : ∀ c, f c ≠ [])
    (hdrop : ∀ c, ∀ d ∈ f c, drop d = drop c) (s : String) :
    trim drop (String.ofList (s.toList.flatMap f)) =
      String.ofList ((trim drop s).toList.flatMap f) := by
  apply String.toList_inj.mp
  rw [toList_trim, String.toList_ofList, String.toList_ofList, toList_trim,
    Trimming.trim_flatMap hne hdrop]

end Text
