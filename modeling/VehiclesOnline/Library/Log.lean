import Mathlib.Data.List.Induction

/-! Logs of events, oldest first: what comes before an event, and what comes after it. -/

namespace Log

variable {α : Type*} {P Q : α → Prop} {H : List α → Prop} {log events : List α} {a : α}

/-- Every event of the first kind is followed by one of the second kind. -/
def Followed (P Q : α → Prop) (log : List α) : Prop :=
  ∀ before a after, log = before ++ a :: after → P a → ∃ b ∈ after, Q b

/-- The condition holds of what came before every event of the kind. -/
def Guarded (P : α → Prop) (H : List α → Prop) (log : List α) : Prop :=
  ∀ before a after, log = before ++ a :: after → P a → H before

theorem guarded_nil : Guarded P H [] := by
  intro before a after h
  exact absurd h.symm (List.append_ne_nil_of_right_ne_nil before (List.cons_ne_nil a after))

/-- How a log that was extended by one event splits at an event. -/
theorem split_concat {before after : List α} {b : α} (h : log ++ [a] = before ++ b :: after) :
    (log = before ∧ a = b ∧ after = []) ∨
      ∃ rest, after = rest ++ [a] ∧ log = before ++ b :: rest := by
  rcases List.append_eq_append_iff.mp h with ⟨rest, hbefore, hlast⟩ | ⟨rest, hlog, hlast⟩
  · cases rest with
    | nil =>
        cases hlast
        exact .inl ⟨by rw [hbefore, List.append_nil], rfl, rfl⟩
    | cons c rest =>
        have hnil := (List.cons.inj hlast).2
        exact absurd hnil.symm
          (List.append_ne_nil_of_right_ne_nil rest (List.cons_ne_nil b after))
  · cases rest with
    | nil =>
        cases hlast
        exact .inl ⟨by rw [hlog, List.append_nil], rfl, rfl⟩
    | cons c rest =>
        cases hlast
        exact .inr ⟨rest, rfl, hlog⟩

theorem followed_concat : Followed P Q (log ++ [a]) ↔ ¬ P a ∧ (Q a ∨ Followed P Q log) := by
  constructor
  · intro h
    refine ⟨fun ha => ?_, ?_⟩
    · obtain ⟨b, hb, -⟩ := h log a [] rfl ha
      cases hb
    · by_cases ha : Q a
      · exact .inl ha
      · refine .inr fun before b after hlog hb => ?_
        obtain ⟨c, hc, hq⟩ := h before b (after ++ [a]) (by rw [hlog]; simp) hb
        rcases List.mem_append.mp hc with hc | hc
        · exact ⟨c, hc, hq⟩
        · rw [List.mem_singleton.mp hc] at hq
          exact absurd hq ha
  · rintro ⟨hnot, h⟩ before b after hlog hb
    rcases split_concat hlog with ⟨-, rfl, -⟩ | ⟨rest, rfl, hrest⟩
    · exact absurd hb hnot
    · rcases h with ha | h
      · exact ⟨a, List.mem_append_right rest List.mem_cons_self, ha⟩
      · obtain ⟨c, hc, hq⟩ := h before b rest hrest hb
        exact ⟨c, List.mem_append_left [a] hc, hq⟩

theorem guarded_concat : Guarded P H (log ++ [a]) ↔ Guarded P H log ∧ (P a → H log) := by
  constructor
  · intro h
    refine ⟨fun before b after hlog hb => ?_, fun ha => h log a [] rfl ha⟩
    exact h before b (after ++ [a]) (by rw [hlog]; simp) hb
  · rintro ⟨h, hlast⟩ before b after hlog hb
    rcases split_concat hlog with ⟨rfl, rfl, -⟩ | ⟨rest, -, hrest⟩
    · exact hlast hb
    · exact h before b rest hrest hb

/-- Events of other kinds change neither. -/
theorem Followed.append (h : Followed P Q log) (hevents : ∀ a ∈ events, ¬ P a) :
    Followed P Q (log ++ events) := by
  induction events using List.reverseRecOn with
  | nil => rwa [List.append_nil]
  | append_singleton events a ih =>
      rw [← List.append_assoc]
      refine followed_concat.mpr ⟨hevents a (by simp), .inr (ih fun b hb => ?_)⟩
      exact hevents b (List.mem_append_left [a] hb)

theorem Guarded.append (h : Guarded P H log) (hevents : ∀ a ∈ events, ¬ P a) :
    Guarded P H (log ++ events) := by
  induction events using List.reverseRecOn with
  | nil => rwa [List.append_nil]
  | append_singleton events a ih =>
      rw [← List.append_assoc]
      refine guarded_concat.mpr ⟨ih fun b hb => ?_, fun ha => absurd ha (hevents a (by simp))⟩
      exact hevents b (List.mem_append_left [a] hb)

/-! ### Events since another one -/

/-- There is an event of the first kind, and none of the second kind since. -/
def Since (P Q : α → Prop) (log : List α) : Prop :=
  ∃ before a after, log = before ++ a :: after ∧ P a ∧ ∀ b ∈ after, ¬ Q b

theorem since_concat : Since P Q (log ++ [a]) ↔ P a ∨ (Since P Q log ∧ ¬ Q a) := by
  constructor
  · rintro ⟨before, b, after, hlog, hb, hafter⟩
    rcases split_concat hlog with ⟨-, rfl, -⟩ | ⟨rest, rfl, hrest⟩
    · exact .inl hb
    · exact .inr ⟨⟨before, b, rest, hrest, hb, fun c hc => hafter c (List.mem_append_left [a] hc)⟩,
        hafter a (List.mem_append_right rest (List.mem_singleton_self a))⟩
  · rintro (ha | ⟨⟨before, b, after, rfl, hb, hafter⟩, ha⟩)
    · exact ⟨log, a, [], rfl, ha, fun b hb => absurd hb List.not_mem_nil⟩
    · refine ⟨before, b, after ++ [a], by simp, hb, fun c hc => ?_⟩
      rcases List.mem_append.mp hc with hc | hc
      · exact hafter c hc
      · rwa [List.mem_singleton.mp hc]

/-- Where every event of a kind is followed by one that did not happen since, it did not happen
since either. -/
theorem Since.of_followed {R : α → Prop} (h : Since P Q log) (hfollowed : Followed R Q log) :
    Since P R log := by
  obtain ⟨before, a, after, rfl, ha, hafter⟩ := h
  refine ⟨before, a, after, rfl, ha, fun b hb hr => ?_⟩
  obtain ⟨front, rest, rfl⟩ := List.append_of_mem hb
  obtain ⟨c, hc, hq⟩ := hfollowed (before ++ a :: front) b rest (by simp) hr
  exact hafter c (List.mem_append_right front (List.mem_cons_of_mem b hc)) hq

/-! ### The last event that is read -/

section LastOf

variable {β : Type*} {read : α → Option β} {b : β}

variable (read) in
/-- What the last event that can be read is read as. -/
def lastOf (log : List α) : Option β := (log.filterMap read).getLast?

theorem lastOf_append_of_forall (h : ∀ a ∈ events, read a = none) :
    lastOf read (log ++ events) = lastOf read log := by
  rw [lastOf, List.filterMap_append, List.filterMap_eq_nil_iff.mpr h, List.append_nil, lastOf]

theorem lastOf_concat (h : read a = some b) : lastOf read (log ++ [a]) = some b := by
  rw [lastOf, List.filterMap_append, List.filterMap_cons_some h, List.filterMap_nil]
  exact List.getLast?_concat

end LastOf

end Log
