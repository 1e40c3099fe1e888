import Mathlib.Data.List.Basic

/-! Deterministic machines that read inputs and answer each with an output: runs, the
conditions that hold at every step of a run, invariants and simulations. -/

namespace Transition

/-- One step reads an input, moves to a new state and answers with an output. -/
abbrev Machine (S I O : Type*) := S → I → S × O

section Runs

variable {S I O : Type*} (step : Machine S I O)

/-- The state after a run. -/
def final (s : S) (is : List I) : S := is.foldl (fun s i => (step s i).1) s

/-- The outputs of a run, in order. -/
def outputs : S → List I → List O
  | _, [] => []
  | s, i :: is => (step s i).2 :: outputs (step s i).1 is

/-- The condition holds of every input of a run and the state that reads it. -/
def Along (P : S → I → Prop) : S → List I → Prop
  | _, [] => True
  | s, i :: is => P s i ∧ Along P (step s i).1 is

@[simp] theorem final_nil (s : S) : final step s [] = s := rfl

@[simp] theorem final_cons (s : S) (i : I) (is : List I) :
    final step s (i :: is) = final step (step s i).1 is := rfl

theorem along_append {P : S → I → Prop} {s : S} {is js : List I} :
    Along step P s (is ++ js) ↔ Along step P s is ∧ Along step P (final step s is) js := by
  induction is generalizing s with
  | nil => simp [Along]
  | cons i is ih => simp [Along, ih, and_assoc]

/-- A condition holds along a run exactly when it holds at the end of each of its proper
prefixes, for the input that comes next. -/
theorem along_iff {P : S → I → Prop} {s : S} {is : List I} :
    Along step P s is ↔ ∀ pre i post, is = pre ++ i :: post → P (final step s pre) i := by
  constructor
  · rintro h pre i post rfl
    exact ((along_append step).mp h).2.1
  · intro h
    induction is generalizing s with
    | nil => trivial
    | cons i is ih =>
        refine ⟨h [] i is rfl, ih ?_⟩
        intro pre j post hj
        exact h (i :: pre) j post (by rw [hj, List.cons_append])

/-- The machine that remembers its outputs. -/
def recording : Machine (S × List O) I O := fun s i =>
  (((step s.1 i).1, s.2 ++ [(step s.1 i).2]), (step s.1 i).2)

theorem final_recording (s : S) (os : List O) (is : List I) :
    final (recording step) (s, os) is = (final step s is, os ++ outputs step s is) := by
  induction is generalizing s os with
  | nil => simp [outputs]
  | cons i is ih =>
      rw [final_cons, recording, ih, final_cons, outputs, List.append_assoc]
      rfl

/-- The machine that remembers its inputs with its outputs. -/
def tracing : Machine (S × List (I × O)) I O := fun s i =>
  (((step s.1 i).1, s.2 ++ [(i, (step s.1 i).2)]), (step s.1 i).2)

theorem final_tracing (s : S) (history : List (I × O)) (is : List I) :
    final (tracing step) (s, history) is =
      (final step s is, history ++ is.zip (outputs step s is)) := by
  induction is generalizing s history with
  | nil => simp [outputs]
  | cons i is ih =>
      rw [final_cons, tracing, ih, final_cons, outputs, List.zip_cons_cons, List.append_assoc]
      rfl

/-- What relates every input to all later ones relates every input of a run to those that are
remembered. -/
theorem along_tracing_of_pairwise {R : I → I → Prop} {s : S} {is : List I} (h : is.Pairwise R) :
    Along (tracing step) (fun state i => ∀ entry ∈ state.2, R entry.1 i) (s, []) is := by
  rw [along_iff]
  rintro pre i post rfl ⟨j, o⟩ hentry
  rw [final_tracing, List.nil_append] at hentry
  have hpre : j ∈ pre := (List.of_mem_zip hentry).1
  exact (List.pairwise_append.mp h).2.2 j hpre i List.mem_cons_self

theorem along_of_forall {P : S → I → Prop} {s : S} {is : List I}
    (h : ∀ s, ∀ i ∈ is, P s i) : Along step P s is := by
  rw [along_iff]
  rintro pre i post rfl
  exact h _ i (by simp)

end Runs

section Invariants

variable {S I O : Type*} {step : Machine S I O} {P Q : S → I → Prop} {Inv : S → Prop}

/-- What every step that meets the condition preserves holds after the run. -/
theorem Along.invariant_final (hstep : ∀ s i, Inv s → P s i → Inv (step s i).1) {s : S}
    {is : List I} (hs : Inv s) (h : Along step P s is) : Inv (final step s is) := by
  induction is generalizing s with
  | nil => exact hs
  | cons i is ih =>
      obtain ⟨hi, his⟩ := h
      exact ih (hstep s i hs hi) his

/-- With an invariant, a condition on steps that implies another one does so along runs. -/
theorem Along.of_invariant (hstep : ∀ s i, Inv s → P s i → Inv (step s i).1)
    (himp : ∀ s i, Inv s → P s i → Q s i) {s : S} {is : List I} (hs : Inv s)
    (h : Along step P s is) : Along step Q s is := by
  induction is generalizing s with
  | nil => trivial
  | cons i is ih =>
      obtain ⟨hi, his⟩ := h
      exact ⟨himp s i hs hi, ih (hstep s i hs hi) his⟩

theorem Along.imp (himp : ∀ s i, P s i → Q s i) {s : S} {is : List I} (h : Along step P s is) :
    Along step Q s is := by
  have hinv : ∀ s i, True → P s i → True := fun _ _ _ _ => trivial
  exact h.of_invariant hinv (fun s i _ => himp s i) trivial

theorem Along.and {s : S} {is : List I} (hp : Along step P s is) (hq : Along step Q s is) :
    Along step (fun s i => P s i ∧ Q s i) s is := by
  induction is generalizing s with
  | nil => trivial
  | cons i is ih => exact ⟨⟨hp.1, hq.1⟩, ih hp.2 hq.2⟩

end Invariants

section Simulation

variable {S T I O : Type*} {step : Machine S I O} {step' : Machine T I O}
variable {P : T → I → Prop} {R : S → T → Prop}

/-- Two machines whose related states answer alike and stay related exactly on the admitted
inputs answer a run alike exactly when all of its inputs are admitted. -/
theorem Along.outputs_eq_iff {A : I → Prop}
    (hstep : ∀ s t i, R s t → A i → ((step s i).2 = (step' t i).2 ↔ P t i) ∧
      (P t i → R (step s i).1 (step' t i).1))
    {s : S} {t : T} {is : List I} (hst : R s t) (hA : ∀ i ∈ is, A i) :
    outputs step s is = outputs step' t is ↔ Along step' P t is := by
  induction is generalizing s t with
  | nil => exact iff_of_true rfl trivial
  | cons i is ih =>
      obtain ⟨hi, hr⟩ := hstep s t i hst (hA i List.mem_cons_self)
      rw [outputs, outputs, List.cons.injEq, hi, Along]
      exact and_congr_right fun hp => ih (hr hp) fun j hj => hA j (List.mem_cons_of_mem i hj)

/-- Two machines whose related states answer related inputs alike and stay related answer
related runs alike. -/
theorem outputs_eq_of_forall₂ {J : Type*} {step' : Machine T J O} {A : I → J → Prop}
    (hstep : ∀ s t i j, R s t → A i j →
      (step s i).2 = (step' t j).2 ∧ R (step s i).1 (step' t j).1)
    {s : S} {t : T} {is : List I} {js : List J} (hst : R s t) (h : List.Forall₂ A is js) :
    outputs step s is = outputs step' t js := by
  induction h generalizing s t with
  | nil => rfl
  | cons ha _ ih =>
      obtain ⟨hout, hr⟩ := hstep s t _ _ hst ha
      rw [outputs, outputs, hout, ih hr]

end Simulation

end Transition
