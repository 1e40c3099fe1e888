import VehiclesOnline.Library.Effects

/-! What an observer sees of the calls of a computation, and rules for two computations that
an observer cannot tell apart. -/

namespace Effects

universe u

namespace Outcome

variable {C D E α β : Type u}

/-- A call that is not answered. -/
def emit (c : C) : Outcome C E PUnit := ⟨[c], .ok ⟨⟩⟩

/-- The recovery of a computation that raised, by another computation. -/
def recoverWith (outcome : Outcome C E α) (f : E → Outcome C E α) : Outcome C E α :=
  match outcome.result with
  | .ok _ => outcome
  | .error cause => ⟨outcome.calls ++ (f cause).calls, (f cause).result⟩

@[simp] theorem recoverWith_error (calls : List C) (cause : E) (f : E → Outcome C E α) :
    recoverWith ⟨calls, .error cause⟩ f = ⟨calls ++ (f cause).calls, (f cause).result⟩ := rfl

/-- What was recovered from is raised again. -/
theorem recover_error_bind (outcome : Outcome C E (Except E α)) :
    (recover outcome .error >>= fun result => liftM result) =
      outcome >>= fun result => liftM result := by
  obtain ⟨calls, result⟩ := outcome
  cases result with
  | ok result => rfl
  | error cause =>
      have hcalls : calls ++ [] = calls := List.append_nil calls
      exact congrArg (Outcome.mk · (Except.error cause)) hcalls

theorem bind_bind {γ : Type u} (outcome : Outcome C E α) (f : α → Outcome C E β)
    (g : β → Outcome C E γ) : outcome >>= f >>= g = outcome >>= fun a => f a >>= g := by
  obtain ⟨calls, result⟩ := outcome
  cases result with
  | error cause => rfl
  | ok a =>
      rw [mk_ok_bind, mk_ok_bind]
      obtain ⟨calls', result'⟩ := f a
      cases result' with
      | error cause => rfl
      | ok b =>
          have hcalls : calls ++ calls' ++ (g b).calls = calls ++ (calls' ++ (g b).calls) :=
            List.append_assoc calls calls' (g b).calls
          exact congrArg (Outcome.mk · (g b).result) hcalls

/-- What is made of an answer without further calls. -/
theorem call_bind_lift (c : C) (answer : Except E α) (f : α → Except E β) :
    (call c answer >>= fun a => liftM (f a)) = call c (answer >>= f) := by
  cases answer with
  | error cause => rfl
  | ok a => rfl

/-- A computation with a call in front of it. -/
def after (c : C) (outcome : Outcome C E α) : Outcome C E α := ⟨c :: outcome.calls, outcome.result⟩

theorem emit_bind (c : C) (f : PUnit → Outcome C E β) : emit c >>= f = after c (f ⟨⟩) := rfl

theorem after_bind (c : C) (outcome : Outcome C E α) (f : α → Outcome C E β) :
    after c outcome >>= f = after c (outcome >>= f) := by
  obtain ⟨calls, result⟩ := outcome
  cases result <;> rfl

theorem recoverWith_after (c : C) (outcome : Outcome C E α) (f : E → Outcome C E α) :
    recoverWith (after c outcome) f = after c (recoverWith outcome f) := by
  obtain ⟨calls, result⟩ := outcome
  cases result <;> rfl

/-! ### Observations -/

section Observe

variable (read : C → Option D)

/-- The computation, with what an observer reads of its calls. -/
def observe (outcome : Outcome C E α) : Outcome D E α :=
  ⟨outcome.calls.filterMap read, outcome.result⟩

theorem observe_bind (outcome : Outcome C E α) (f : α → Outcome C E β) :
    observe read (outcome >>= f) = observe read outcome >>= fun a => observe read (f a) := by
  obtain ⟨calls, result⟩ := outcome
  cases result with
  | error cause => rfl
  | ok a => simp [observe, List.filterMap_append]

/-- What is recovered from is seen like any other end, if the recovery makes no calls that are
seen. -/
theorem observe_recoverWith {f : E → Outcome C E α} {g : E → α}
    (h : ∀ cause, observe read (f cause) = pure (g cause)) (outcome : Outcome C E α) :
    observe read (recoverWith outcome f) = recover (observe read outcome) g := by
  obtain ⟨calls, result⟩ := outcome
  cases result with
  | ok a => rfl
  | error cause =>
      have hf := h cause
      rw [observe, Outcome.mk.injEq] at hf
      simp [observe, List.filterMap_append, hf.1, hf.2]
      exact ⟨rfl, rfl⟩

end Observe

/-! ### Computations that are seen alike -/

/-- Two ends: both raise the same, or both return related values. -/
inductive Ends (R : α → β → Prop) : Except E α → Except E β → Prop
  | ok {a : α} {b : β} (h : R a b) : Ends R (.ok a) (.ok b)
  | error (cause : E) : Ends R (.error cause) (.error cause)

/-- An observer sees the same calls, and the ends are related. -/
structure SeenAlike (read : C → Option D) (R : α → β → Prop) (outcome : Outcome C E α)
    (outcome' : Outcome C E β) : Prop where
  calls : outcome.calls.filterMap read = outcome'.calls.filterMap read
  result : Ends R outcome.result outcome'.result

namespace SeenAlike

variable {read : C → Option D} {γ δ : Type u} {R : α → β → Prop} {S : γ → δ → Prop}

theorem pure {a : α} {b : β} (h : R a b) :
    SeenAlike read R (Pure.pure a : Outcome C E α) (Pure.pure b) := ⟨rfl, .ok h⟩

theorem lift (result : Except E α) :
    SeenAlike read Eq (liftM result : Outcome C E α) (liftM result) := by
  cases result with
  | ok a => exact ⟨rfl, .ok rfl⟩
  | error cause => exact ⟨rfl, .error cause⟩

theorem emit {c c' : C} (h : read c = read c') :
    SeenAlike read Eq (Outcome.emit c : Outcome C E PUnit) (Outcome.emit c') :=
  ⟨by simp [Outcome.emit, List.filterMap_cons, h], .ok rfl⟩

theorem call {c c' : C} (h : read c = read c') (answer : Except E α) :
    SeenAlike read Eq (Outcome.call c answer) (Outcome.call c' answer) := by
  refine ⟨by simp [Outcome.call, List.filterMap_cons, h], ?_⟩
  cases answer with
  | ok a => exact .ok rfl
  | error cause => exact .error cause

theorem bind {outcome : Outcome C E α} {outcome' : Outcome C E β} {f : α → Outcome C E γ}
    {g : β → Outcome C E δ} (h : SeenAlike read R outcome outcome')
    (hf : ∀ a b, R a b → SeenAlike read S (f a) (g b)) :
    SeenAlike read S (outcome >>= f) (outcome' >>= g) := by
  obtain ⟨calls, result⟩ := outcome
  obtain ⟨calls', result'⟩ := outcome'
  obtain ⟨hcalls, hresult⟩ := h
  cases hresult with
  | error cause => exact ⟨hcalls, .error cause⟩
  | ok hab =>
      obtain ⟨hcalls', hresult'⟩ := hf _ _ hab
      refine ⟨?_, hresult'⟩
      simp only [mk_ok_bind, List.filterMap_append]
      exact congrArg₂ (· ++ ·) hcalls hcalls'

theorem recoverWith {outcome : Outcome C E α} {outcome' : Outcome C E β}
    {f : E → Outcome C E α} {g : E → Outcome C E β} (h : SeenAlike read R outcome outcome')
    (hf : ∀ cause, SeenAlike read R (f cause) (g cause)) :
    SeenAlike read R (outcome.recoverWith f) (outcome'.recoverWith g) := by
  obtain ⟨calls, result⟩ := outcome
  obtain ⟨calls', result'⟩ := outcome'
  obtain ⟨hcalls, hresult⟩ := h
  cases hresult with
  | ok hab => exact ⟨hcalls, .ok hab⟩
  | error cause =>
      obtain ⟨hcalls', hresult'⟩ := hf cause
      refine ⟨?_, hresult'⟩
      simp only [recoverWith_error, List.filterMap_append]
      exact congrArg₂ (· ++ ·) hcalls hcalls'

theorem refl (outcome : Outcome C E α) : SeenAlike read Eq outcome outcome := by
  refine ⟨rfl, ?_⟩
  cases outcome.result with
  | ok a => exact .ok rfl
  | error cause => exact .error cause

end SeenAlike

end Outcome

end Effects
