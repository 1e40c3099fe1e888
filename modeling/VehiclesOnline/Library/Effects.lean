import Mathlib.Data.List.Basic

/-! Computations that call services and may raise: the calls in order and the end of the
computation, and rules for what holds of its calls and of what it returns. -/

namespace Effects

universe u

/-- The calls that a computation makes, in order, and how it ends. -/
structure Outcome (C E : Type u) (α : Type u) where
  calls : List C
  result : Except E α

namespace Outcome

variable {C E α β : Type u}

def ofExcept (result : Except E α) : Outcome C E α := ⟨[], result⟩

def bind (outcome : Outcome C E α) (f : α → Outcome C E β) : Outcome C E β :=
  match outcome.result with
  | .ok a => ⟨outcome.calls ++ (f a).calls, (f a).result⟩
  | .error cause => ⟨outcome.calls, .error cause⟩

instance : Monad (Outcome C E) where
  pure a := ⟨[], .ok a⟩
  bind := bind

instance : MonadLift (Except E) (Outcome C E) where
  monadLift := ofExcept

def call (c : C) (answer : Except E α) : Outcome C E α := ⟨[c], answer⟩

/-- The recovery of a computation that raised. -/
def recover (outcome : Outcome C E α) (f : E → α) : Outcome C E α :=
  match outcome.result with
  | .ok _ => outcome
  | .error cause => ⟨outcome.calls, .ok (f cause)⟩

def map (f : α → β) (outcome : Outcome C E α) : Outcome C E β :=
  ⟨outcome.calls, outcome.result.map f⟩

@[simp] theorem lift_ok_bind (a : α) (f : α → Outcome C E β) :
    (liftM (Except.ok a : Except E α) : Outcome C E α) >>= f = f a := rfl

@[simp] theorem lift_error_bind (cause : E) (f : α → Outcome C E β) :
    (liftM (Except.error cause : Except E α) : Outcome C E α) >>= f = ⟨[], .error cause⟩ := rfl

@[simp] theorem call_ok_bind (c : C) (a : α) (f : α → Outcome C E β) :
    call c (.ok a) >>= f = ⟨c :: (f a).calls, (f a).result⟩ := rfl

@[simp] theorem call_error_bind (c : C) (cause : E) (f : α → Outcome C E β) :
    call c (.error cause) >>= f = ⟨[c], .error cause⟩ := rfl

@[simp] theorem mk_ok_bind (calls : List C) (a : α) (f : α → Outcome C E β) :
    (⟨calls, .ok a⟩ : Outcome C E α) >>= f = ⟨calls ++ (f a).calls, (f a).result⟩ := rfl

@[simp] theorem mk_error_bind (calls : List C) (cause : E) (f : α → Outcome C E β) :
    (⟨calls, .error cause⟩ : Outcome C E α) >>= f = ⟨calls, .error cause⟩ := rfl

theorem result_bind (outcome : Outcome C E α) (f : α → Outcome C E β) :
    (outcome >>= f).result = outcome.result >>= fun a => (f a).result := by
  obtain ⟨calls, result⟩ := outcome
  cases result <;> rfl

@[simp] theorem recover_ok (calls : List C) (a : α) (f : E → α) :
    recover ⟨calls, .ok a⟩ f = ⟨calls, .ok a⟩ := rfl

@[simp] theorem recover_error (calls : List C) (cause : E) (f : E → α) :
    recover ⟨calls, .error cause⟩ f = ⟨calls, .ok (f cause)⟩ := rfl

end Outcome

/-! ### What a computation returns -/

section Returns

variable {E α β : Type u} {P : α → Prop} {Q : β → Prop}

/-- The condition holds of the value, if one is returned. -/
def Returns (result : Except E α) (P : α → Prop) : Prop := ∀ a, result = .ok a → P a

theorem Returns.pure {a : α} (h : P a) : Returns (Pure.pure a : Except E α) P := by
  intro b hb
  cases hb
  exact h

theorem Returns.error (cause : E) : Returns (.error cause : Except E α) P := by
  intro b hb
  cases hb

theorem Returns.mono {Q : α → Prop} {result : Except E α} (h : Returns result P)
    (hpq : ∀ a, P a → Q a) : Returns result Q := fun a ha => hpq a (h a ha)

theorem Returns.bind {result : Except E α} {f : α → Except E β} (h : Returns result P)
    (hf : ∀ a, P a → Returns (f a) Q) : Returns (result >>= f) Q := by
  cases result with
  | error cause => exact Returns.error cause
  | ok a => exact hf a (h a rfl)

theorem Returns.trivial (result : Except E α) : Returns result fun _ => True := fun _ _ => .intro

/-- Whatever was read first. -/
theorem Returns.bind' {result : Except E α} {f : α → Except E β} (hf : ∀ a, Returns (f a) Q) :
    Returns (result >>= f) Q :=
  (Returns.trivial result).bind fun a _ => hf a

theorem Returns.map {result : Except E α} {f : α → β} (h : Returns result fun a => Q (f a)) :
    Returns (result.map f) Q := by
  cases result with
  | error cause => exact Returns.error cause
  | ok a => exact Returns.pure (h a rfl)

end Returns

/-! ### What a computation calls and returns -/

section Spec

variable {C E α β : Type u} {Calls : C → Prop} {P : α → Prop} {Q : β → Prop}

/-- The conditions hold of every call, and of the value if one is returned. -/
structure Outcome.Spec (outcome : Outcome C E α) (Calls : C → Prop) (P : α → Prop) : Prop where
  calls : ∀ c ∈ outcome.calls, Calls c
  returns : Returns outcome.result P

namespace Outcome.Spec

theorem ofExcept {result : Except E α} (h : Returns result P) :
    (Outcome.ofExcept result : Outcome C E α).Spec Calls P where
  calls _ hc := absurd hc List.not_mem_nil
  returns := h

theorem lift {result : Except E α} (h : Returns result P) :
    (liftM result : Outcome C E α).Spec Calls P :=
  ofExcept h

theorem pure {a : α} (h : P a) : (Pure.pure a : Outcome C E α).Spec Calls P :=
  ofExcept (Returns.pure h)

theorem call {c : C} {answer : Except E α} (hc : Calls c) (h : Returns answer P) :
    (Outcome.call c answer).Spec Calls P where
  calls _ hmem := List.mem_singleton.mp hmem ▸ hc
  returns := h

theorem bind {outcome : Outcome C E α} {f : α → Outcome C E β} (h : outcome.Spec Calls P)
    (hf : ∀ a, P a → (f a).Spec Calls Q) : (outcome >>= f).Spec Calls Q := by
  obtain ⟨calls, result⟩ := outcome
  cases result with
  | error cause => exact ⟨h.calls, Returns.error cause⟩
  | ok a =>
      have ha := hf a (h.returns a rfl)
      refine ⟨?_, ha.returns⟩
      intro c hc
      rcases List.mem_append.mp hc with hc | hc
      · exact h.calls c hc
      · exact ha.calls c hc

theorem bind' {outcome : Outcome C E α} {f : α → Outcome C E β}
    (h : outcome.Spec Calls fun _ => True) (hf : ∀ a, (f a).Spec Calls Q) :
    (outcome >>= f).Spec Calls Q :=
  h.bind fun a _ => hf a

theorem recover {outcome : Outcome C E α} {f : E → α} (h : outcome.Spec Calls P)
    (hf : ∀ cause, P (f cause)) : (outcome.recover f).Spec Calls P := by
  obtain ⟨calls, result⟩ := outcome
  cases result with
  | error cause => exact ⟨h.calls, Returns.pure (hf cause)⟩
  | ok a => exact h

theorem map {outcome : Outcome C E α} {f : α → β} (h : outcome.Spec Calls fun a => Q (f a)) :
    (outcome.map f).Spec Calls Q where
  calls := h.calls
  returns := h.returns.map

end Outcome.Spec

end Spec

/-! ### Computations that end alike -/

section EndsAlike

variable {C E α β : Type u}

/-- Two computations whose calls may differ, and that end in the same way. -/
def Outcome.EndsAlike (outcome outcome' : Outcome C E α) : Prop := outcome.result = outcome'.result

namespace Outcome.EndsAlike

theorem refl (outcome : Outcome C E α) : outcome.EndsAlike outcome := rfl

theorem call (c c' : C) (answer : Except E α) :
    (Outcome.call c answer).EndsAlike (Outcome.call c' answer) := rfl

theorem bind {outcome outcome' : Outcome C E α} {f f' : α → Outcome C E β}
    (h : outcome.EndsAlike outcome') (hf : ∀ a, (f a).EndsAlike (f' a)) :
    (outcome >>= f).EndsAlike (outcome' >>= f') := by
  obtain ⟨calls, result⟩ := outcome
  obtain ⟨calls', result'⟩ := outcome'
  obtain rfl : result = result' := h
  cases result with
  | error cause => rfl
  | ok a => exact hf a

theorem recover {outcome outcome' : Outcome C E α} (h : outcome.EndsAlike outcome') (f : E → α) :
    (outcome.recover f).EndsAlike (outcome'.recover f) := by
  obtain ⟨calls, result⟩ := outcome
  obtain ⟨calls', result'⟩ := outcome'
  obtain rfl : result = result' := h
  cases result with
  | error cause => rfl
  | ok a => rfl

theorem map {outcome outcome' : Outcome C E α} (h : outcome.EndsAlike outcome') (f : α → β) :
    (outcome.map f).EndsAlike (outcome'.map f) :=
  congrArg (Except.map f) h

end Outcome.EndsAlike

end EndsAlike

end Effects
