import Mathlib.Data.List.Forall2
import Mathlib.Data.Option.Basic
import Mathlib.Data.Set.Function
import Mathlib.Logic.Function.Basic

/-! Stores of optional values under keys, runs of assignments to them, and the coding of
one store by another whose names and raw values stand for keys and values. -/

namespace KeyValue

/-- A store; the type of a value may depend on its key. -/
abbrev Store (K : Type*) (V : K → Type*) := (k : K) → Option (V k)

/-- Writes a value under a key, or removes the value that is there. -/
abbrev Assignment (K : Type*) (V : K → Type*) := (k : K) × Option (V k)

section Assignments

variable {K : Type*} [DecidableEq K] {V : K → Type*}

def assign (m : Store K V) (a : Assignment K V) : Store K V := Function.update m a.1 a.2

def assignAll (m : Store K V) (as : List (Assignment K V)) : Store K V := as.foldl assign m

@[simp] theorem assignAll_cons (m : Store K V) (a : Assignment K V)
    (as : List (Assignment K V)) : assignAll m (a :: as) = assignAll (assign m a) as := rfl

@[simp] theorem assignAll_append (m : Store K V) (as bs : List (Assignment K V)) :
    assignAll m (as ++ bs) = assignAll (assignAll m as) bs := by
  simp [assignAll]

/-- What an assignment does to a key, if it is about that key. -/
def assigned (k : K) (a : Assignment K V) : Option (Option (V k)) :=
  if h : a.1 = k then some (h ▸ a.2) else none

@[simp] theorem assigned_self (k : K) (v : Option (V k)) : assigned k ⟨k, v⟩ = some v := by
  simp [assigned]

theorem assigned_of_ne {k : K} {a : Assignment K V} (h : a.1 ≠ k) : assigned k a = none := by
  simp [assigned, h]

/-- What the last assignment to a key did, if there was one. -/
def lastAssigned (k : K) : List (Assignment K V) → Option (Option (V k))
  | [] => none
  | a :: as => (lastAssigned k as).or (assigned k a)

theorem assign_apply (m : Store K V) (a : Assignment K V) (k : K) :
    assign m a k = (assigned k a).getD (m k) := by
  obtain ⟨j, v⟩ := a
  by_cases h : j = k
  · subst h
    simp [assign]
  · rw [assigned_of_ne h, assign, Function.update_of_ne (Ne.symm h), Option.getD_none]

/-- After a run of assignments a key holds what the last assignment to it says, and what
it held before when there was none. -/
theorem assignAll_apply (m : Store K V) (as : List (Assignment K V)) (k : K) :
    assignAll m as k = (lastAssigned k as).getD (m k) := by
  induction as generalizing m with
  | nil => rfl
  | cons a as ih =>
      rw [assignAll_cons, ih, assign_apply, lastAssigned]
      cases lastAssigned k as <;> rfl

/-- A key that no assignment is about has no last assignment. -/
theorem lastAssigned_eq_none_iff {k : K} {as : List (Assignment K V)} :
    lastAssigned k as = none ↔ ∀ a ∈ as, a.1 ≠ k := by
  induction as with
  | nil => simp [lastAssigned]
  | cons a as ih => simp [lastAssigned, assigned, ih, and_comm]

theorem assignAll_of_forall_ne {k : K} {as : List (Assignment K V)} (h : ∀ a ∈ as, a.1 ≠ k)
    (m : Store K V) : assignAll m as k = m k := by
  rw [assignAll_apply, lastAssigned_eq_none_iff.mpr h, Option.getD_none]

/-- Where two stores agree, or something is assigned, they agree after a run of assignments. -/
theorem assignAll_congr {m m' : Store K V} {as : List (Assignment K V)} {k : K}
    (h : (∀ a ∈ as, a.1 ≠ k) → m k = m' k) : assignAll m as k = assignAll m' as k := by
  rw [assignAll_apply, assignAll_apply]
  cases hlast : lastAssigned k as with
  | none => exact h (lastAssigned_eq_none_iff.mp hlast)
  | some v => rfl

/-- A key to which nothing is written holds what it held, or nothing. -/
theorem assignAll_eq_or_none {as : List (Assignment K V)} {k : K}
    (h : ∀ v, (⟨k, some v⟩ : Assignment K V) ∉ as) (m : Store K V) :
    assignAll m as k = m k ∨ assignAll m as k = none := by
  induction as generalizing m with
  | nil => exact .inl rfl
  | cons a as ih =>
      have htail := ih (fun v hv => h v (List.mem_cons_of_mem a hv)) (assign m a)
      rw [assignAll_cons]
      obtain ⟨j, v⟩ := a
      by_cases hj : j = k
      · subst hj
        cases v with
        | none =>
            rw [assign, Function.update_self, or_self] at htail
            exact .inr htail
        | some v => exact absurd List.mem_cons_self (h v)
      · rwa [assign, Function.update_of_ne (Ne.symm hj)] at htail

/-- What a key holds after a run of assignments was held before, or is written by one of them. -/
theorem eq_or_mem_of_assignAll {as : List (Assignment K V)} {m : Store K V} {k : K} {v : V k}
    (h : assignAll m as k = some v) : m k = some v ∨ (⟨k, some v⟩ : Assignment K V) ∈ as := by
  induction as generalizing m with
  | nil => exact .inl h
  | cons a as ih =>
      rw [assignAll_cons] at h
      rcases ih h with hassign | hmem
      · obtain ⟨j, w⟩ := a
        by_cases hj : j = k
        · subst hj
          rw [assign, Function.update_self] at hassign
          rw [← hassign]
          exact .inr List.mem_cons_self
        · rw [assign, Function.update_of_ne (Ne.symm hj)] at hassign
          exact .inl hassign
      · exact .inr (List.mem_cons_of_mem a hmem)

end Assignments

/-! ### Keeping the last entry of each key -/

section KeepLast

variable {K α : Type*} [DecidableEq K]

/-- Drops every entry that a later one with the same key replaces. -/
def keepLast (key : α → K) : List α → List α
  | [] => []
  | a :: as => if as.any (key · = key a) then keepLast key as else a :: keepLast key as

theorem mem_of_mem_keepLast {key : α → K} {as : List α} {a : α} (h : a ∈ keepLast key as) :
    a ∈ as := by
  induction as with
  | nil => exact h
  | cons b as ih =>
      rw [keepLast] at h
      split at h
      · exact List.mem_cons_of_mem b (ih h)
      · rcases List.mem_cons.mp h with rfl | h
        · exact List.mem_cons_self
        · exact List.mem_cons_of_mem b (ih h)

variable {V : K → Type*}

/-- Replaced entries have no influence on what was last assigned to a key. -/
theorem lastAssigned_keepLast {key : α → K} {entry : α → Assignment K V}
    (hentry : ∀ a, (entry a).1 = key a) (k : K) (as : List α) :
    lastAssigned k ((keepLast key as).map entry) = lastAssigned k (as.map entry) := by
  induction as with
  | nil => rfl
  | cons a as ih =>
      rw [keepLast]
      split
      · next hany =>
        rw [ih, List.map_cons, lastAssigned]
        by_cases hk : (entry a).1 = k
        · -- a later entry with this key hides the dropped one
          obtain ⟨b, hb, hba⟩ := List.any_eq_true.mp hany
          have hlast : lastAssigned k (as.map entry) ≠ none := by
            rw [ne_eq, lastAssigned_eq_none_iff]
            intro hne
            apply hne (entry b) (List.mem_map_of_mem hb)
            rw [hentry, ← hk, hentry, of_decide_eq_true hba]
          cases h : lastAssigned k (as.map entry) with
          | none => exact absurd h hlast
          | some v => rfl
        · rw [assigned_of_ne hk, Option.or_none]
      · rw [List.map_cons, List.map_cons, lastAssigned, lastAssigned, ih]

/-- The last entry of a key, if there is one. -/
theorem forall_ne_or_exists_last (key : α → K) (k : K) (as : List α) :
    (∀ a ∈ as, key a ≠ k) ∨
      ∃ before a after, as = before ++ a :: after ∧ key a = k ∧ ∀ b ∈ after, key b ≠ k := by
  induction as with
  | nil => exact .inl fun a ha => absurd ha List.not_mem_nil
  | cons a as ih =>
      rcases ih with hne | ⟨before, b, after, rfl, hb, hafter⟩
      · by_cases ha : key a = k
        · exact .inr ⟨[], a, as, rfl, ha, hne⟩
        · exact .inl (List.forall_mem_cons.mpr ⟨ha, hne⟩)
      · exact .inr ⟨a :: before, b, after, rfl, hb, hafter⟩

theorem assignAll_last {W : Type*} {key : α → K} (entry : α → Assignment K fun _ => W)
    (hentry : ∀ a, (entry a).1 = key a) {before after : List α} {a : α}
    (h : ∀ b ∈ after, key b ≠ key a) (m : Store K fun _ => W) :
    assignAll m ((before ++ a :: after).map entry) (key a) = (entry a).2 := by
  have hafter : ∀ c ∈ after.map entry, c.1 ≠ key a := by
    intro c hc
    obtain ⟨b, hb, rfl⟩ := List.mem_map.mp hc
    rw [hentry]
    exact h b hb
  rw [List.map_append, List.map_cons, assignAll_append, assignAll_cons,
    assignAll_of_forall_ne hafter, assign, ← hentry, Function.update_self]

end KeepLast

/-! ### Coding one store by another -/

section Coding

variable {K N W : Type*} [DecidableEq K] [DecidableEq N] {V : K → Type*}
variable (name : K → N) (Reads : (k : K) → W → V k → Prop)

/-- The raw store holds under the name of each of the given keys a raw value that reads as
the key's value. -/
def Represents (keys : Set K) (raw : Store N fun _ => W) (m : Store K V) : Prop :=
  ∀ k ∈ keys, Option.Rel (Reads k) (raw (name k)) (m k)

/-- A raw assignment that writes a coded value, or removes, under the name of the key. -/
def Codes (b : Assignment N fun _ => W) (a : Assignment K V) : Prop :=
  b.1 = name a.1 ∧ Option.Rel (Reads a.1) b.2 a.2

variable {name Reads} {keys : Set K}

theorem assigned_codes (hname : Set.InjOn name keys) {b : Assignment N fun _ => W}
    {a : Assignment K V} (hc : Codes name Reads b a) (ha : a.1 ∈ keys) {k : K}
    (hk : k ∈ keys) : Option.Rel (Option.Rel (Reads k)) (assigned (name k) b) (assigned k a) := by
  obtain ⟨n, w⟩ := b
  obtain ⟨j, v⟩ := a
  obtain ⟨hn, hr⟩ := hc
  simp only at hn hr ha
  subst hn
  by_cases hj : j = k
  · subst hj
    rw [assigned_self, assigned_self]
    exact .some hr
  · have hne : name j ≠ name k := fun h => hj (hname ha hk h)
    have hne' : (⟨j, v⟩ : Assignment K V).1 ≠ k := hj
    rw [assigned_of_ne hne, assigned_of_ne hne']
    exact .none

/-- Distinct names keep the assignments to distinct keys apart, over a whole run. -/
theorem lastAssigned_codes (hname : Set.InjOn name keys) {bs : List (Assignment N fun _ => W)}
    {as : List (Assignment K V)} (hc : List.Forall₂ (Codes name Reads) bs as)
    (has : ∀ a ∈ as, a.1 ∈ keys) {k : K} (hk : k ∈ keys) :
    Option.Rel (Option.Rel (Reads k)) (lastAssigned (name k) bs) (lastAssigned k as) := by
  induction hc with
  | nil => exact .none
  | @cons b a bs as hba _ ih =>
      have hlast := ih fun a' ha' => has a' (List.mem_cons_of_mem a ha')
      have hfirst := assigned_codes hname hba (has a List.mem_cons_self) hk
      rw [lastAssigned, lastAssigned]
      generalize lastAssigned (name k) bs = x, lastAssigned k as = y at hlast
      cases hlast with
      | none => simpa using hfirst
      | some hr => exact .some hr

omit [DecidableEq K] [DecidableEq N] in
theorem name_mem_of_codes {bs : List (Assignment N fun _ => W)} {as : List (Assignment K V)}
    (hc : List.Forall₂ (Codes name Reads) bs as) (has : ∀ a ∈ as, a.1 ∈ keys)
    {b : Assignment N fun _ => W} (hb : b ∈ bs) : b.1 ∈ name '' keys := by
  induction hc with
  | nil => cases hb
  | @cons b' a bs as hba _ ih =>
      cases hb with
      | head => exact ⟨a.1, has a List.mem_cons_self, hba.1.symm⟩
      | tail _ hb => exact ih (fun a' ha' => has a' (List.mem_cons_of_mem a ha')) hb

/-- A coded run of assignments preserves the representation. -/
theorem Represents.assignAll (hname : Set.InjOn name keys)
    {bs : List (Assignment N fun _ => W)} {as : List (Assignment K V)}
    (hc : List.Forall₂ (Codes name Reads) bs as) (has : ∀ a ∈ as, a.1 ∈ keys)
    {raw : Store N fun _ => W} {m : Store K V} (h : Represents name Reads keys raw m) :
    Represents name Reads keys (assignAll raw bs) (assignAll m as) := by
  intro k hk
  have hlast := lastAssigned_codes hname hc has hk
  rw [assignAll_apply, assignAll_apply]
  generalize lastAssigned (name k) bs = x, lastAssigned k as = y at hlast
  cases hlast with
  | none => exact h k hk
  | some hr => exact hr

end Coding

end KeyValue
