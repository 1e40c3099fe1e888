import VehiclesOnline.Wizard.Forms

/-! # The errors of an invalid dispose form

What is left of any list of errors by the replacements, which are made one after the other and may
meet errors that another one has put there. -/

namespace VehiclesOnline

/-! ### Distinct elements -/

section Distinct

variable {α : Type} [BEq α] [LawfulBEq α]

/-- The distinct elements of one kind are those of the sublist. -/
theorem filter_eraseDups (p : α → Bool) (l : List α) :
    l.eraseDups.filter p = (l.filter p).eraseDups := by
  induction hlength : l.length using Nat.strongRecOn generalizing l with
  | ind n ih =>
      cases l with
      | nil => rfl
      | cons a l =>
          have hshort : (l.filter fun b => !b == a).length < n :=
            hlength ▸ Nat.lt_succ_of_le (List.length_filter_le _ l)
          have hrest := ih _ hshort _ rfl
          rw [List.eraseDups_cons, List.filter_cons, hrest, List.filter_filter, List.filter_cons]
          by_cases ha : p a = true
          · rw [if_pos ha, if_pos ha, List.eraseDups_cons, List.filter_filter]
            simp only [Bool.and_comm]
          · rw [if_neg ha, if_neg ha]
            congr 1
            refine List.filter_congr fun b _ => ?_
            by_cases hb : b = a
            · simp [hb, ha]
            · simp [hb]

theorem count_eraseDups (a : α) (l : List α) :
    l.eraseDups.count a = if a ∈ l then 1 else 0 := by
  induction hlength : l.length using Nat.strongRecOn generalizing l with
  | ind n ih =>
      cases l with
      | nil => rfl
      | cons b l =>
          have hshort : (l.filter fun c => !c == b).length < n :=
            hlength ▸ Nat.lt_succ_of_le (List.length_filter_le _ l)
          rw [List.eraseDups_cons, List.count_cons, ih _ hshort _ rfl]
          by_cases hb : b = a
          · simp [hb]
          · simp [hb, Ne.symm hb]

omit [LawfulBEq α] in
theorem eraseDups_eq_nil_iff {l : List α} : l.eraseDups = [] ↔ l = [] := by
  cases l with
  | nil => exact iff_of_true rfl rfl
  | cons a l => simp [List.eraseDups_cons]

end Distinct

/-! ### Replacements -/

namespace FormError

/-- The list that a replacement leaves. -/
def replaced (newError : FormError) (matcher : FormError → Bool) (errors : List FormError) :
    List FormError :=
  errors.filter (fun e => !matcher e) ++ if errors.any matcher then [newError] else []

variable {newError : FormError} {matcher matcher' : FormError → Bool} {errors : List FormError}

theorem replaced_of_any (h : errors.any matcher = true) :
    replaced newError matcher errors =
      errors.filter (fun e => !matcher e) ++ [newError] := by
  rw [replaced, if_pos h]

theorem replaced_of_not_any (h : errors.any matcher = false) :
    replaced newError matcher errors = errors := by
  rw [replaced, h, if_neg Bool.false_ne_true, List.append_nil, List.filter_eq_self]
  intro e he
  simpa using List.any_eq_false.mp h e he

theorem mem_replaced {e : FormError} :
    e ∈ replaced newError matcher errors ↔
      e ∈ errors ∧ matcher e = false ∨ e = newError ∧ errors.any matcher = true := by
  rw [replaced]
  cases errors.any matcher with
  | false => simp
  | true => simp

/-- An error that is replaced again by itself is put there once. -/
theorem replaced_replaced (h : matcher' newError = true) :
    replaced newError matcher' (replaced newError matcher errors) =
      replaced newError (fun e => matcher e || matcher' e) errors := by
  cases hany : errors.any matcher with
  | false =>
      have hnot : ∀ e ∈ errors, matcher e = false := by simpa using hany
      have hfilter : errors.filter (fun e => !matcher' e) =
          errors.filter fun e => !(matcher e || matcher' e) :=
        List.filter_congr fun e he => by rw [hnot e he, Bool.false_or]
      have hagain : errors.any matcher' = errors.any fun e => matcher e || matcher' e := by
        rw [Bool.eq_iff_iff, List.any_eq_true, List.any_eq_true]
        exact exists_congr fun e => and_congr_right fun he => by rw [hnot e he, Bool.false_or]
      rw [replaced_of_not_any hany, replaced, replaced, hfilter, hagain]
  | true =>
      have hagain : (errors.filter (fun e => !matcher e) ++ [newError]).any matcher' = true := by
        simp [h]
      have heither : errors.any (fun e => matcher e || matcher' e) = true := by
        obtain ⟨e, he, hmatcher⟩ := List.any_eq_true.mp hany
        exact List.any_eq_true.mpr ⟨e, he, by rw [hmatcher, Bool.true_or]⟩
      rw [replaced_of_any hany, replaced_of_any hagain, replaced_of_any heither,
        List.filter_append, List.filter_filter]
      simp [h, Bool.and_comm]

/-- Errors of another kind stay as they are. -/
theorem filter_replaced {p : FormError → Bool} (hnew : p newError = false)
    (hmatcher : ∀ e, p e = true → matcher e = false) :
    (replaced newError matcher errors).filter p = errors.filter p := by
  have hnone : (if errors.any matcher then [newError] else []).filter p = [] := by
    split
    · simp [hnew]
    · rfl
  rw [replaced, List.filter_append, hnone, List.append_nil, List.filter_filter]
  refine List.filter_congr fun e _ => ?_
  cases hp : p e with
  | false => rfl
  | true => simp [hmatcher e hp]

theorem any_replaced_of_not {p : FormError → Bool} (hnew : p newError = false)
    (hmatcher : ∀ e, p e = true → matcher e = false) :
    (replaced newError matcher errors).any p = errors.any p := by
  rw [Bool.eq_iff_iff, List.any_eq_true, List.any_eq_true]
  simp only [mem_replaced]
  constructor
  · rintro ⟨e, ⟨hmem, -⟩ | ⟨rfl, -⟩, hp⟩
    · exact ⟨e, hmem, hp⟩
    · rw [hnew] at hp
      cases hp
  · rintro ⟨e, hmem, hp⟩
    exact ⟨e, .inl ⟨hmem, hmatcher e hp⟩, hp⟩

theorem replaced_eq_nil_iff : replaced newError matcher errors = [] ↔ errors = [] := by
  cases hany : errors.any matcher with
  | false => rw [replaced_of_not_any hany]
  | true =>
      rw [replaced_of_any hany]
      refine iff_of_false (List.append_ne_nil_of_right_ne_nil _ (List.cons_ne_nil _ _)) ?_
      intro hnil
      simp [hnil] at hany

end FormError

theorem Form.errors_replaceErrorIf {Model : Type} (form : Form Model) (newError : FormError)
    (matcher : FormError → Bool) :
    (form.replaceErrorIf newError matcher).errors =
      FormError.replaced newError matcher form.errors := by
  rw [replaceErrorIf]
  split
  · next e hfind =>
    have hany : form.errors.any matcher = true :=
      List.any_eq_true.mpr ⟨e, List.mem_of_find?_eq_some hfind, List.find?_some hfind⟩
    rw [FormError.replaced_of_any hany]
    rfl
  · next hfind =>
    refine (FormError.replaced_of_not_any (List.any_eq_false.mpr fun e he => ?_)).symm
    exact List.find?_eq_none.mp hfind e he

/-! ### The dispose form -/

namespace Dispose

def consentNotGiven : FormError :=
  { key := ConsentId, message := "disposal_dispose.consent.notgiven" }

def lossOfRegistrationConsentNotGiven : FormError :=
  { key := LossOfRegistrationConsentId
    message := "disposal_dispose.loss_of_registration.consent.notgiven" }

/-- An error of the date or of a part of it. -/
def isDateError (e : FormError) : Bool :=
  e.key ∈ ["dateOfDisposal.day", "dateOfDisposal.month", "dateOfDisposal.year", "dateOfDisposal"]

/-- A field that is required and was not given. -/
def isMissing (key : String) (e : FormError) : Bool := e.key == key && e.message == "error.required"

open FormError (replaced replaced_replaced mem_replaced filter_replaced any_replaced_of_not
  replaced_eq_nil_iff)

theorem errors_formWithReplacedErrors (form : Form DisposeFormModel) :
    (formWithReplacedErrors form).errors =
      (replaced lossOfRegistrationConsentNotGiven (isMissing LossOfRegistrationConsentId)
        (replaced consentNotGiven (isMissing ConsentId)
          (replaced dateOfDisposalError isDateError form.errors))).eraseDups := by
  have hdates : replaced dateOfDisposalError (fun e => e.key == "dateOfDisposal")
      (replaced dateOfDisposalError (fun e => e.key == "dateOfDisposal.year")
        (replaced dateOfDisposalError (fun e => e.key == "dateOfDisposal.month")
          (replaced dateOfDisposalError (fun e => e.key == "dateOfDisposal.day") form.errors))) =
      replaced dateOfDisposalError isDateError form.errors := by
    rw [replaced_replaced rfl, replaced_replaced rfl, replaced_replaced rfl]
    congr 1
    funext e
    rw [Bool.eq_iff_iff]
    simp [isDateError]
  rw [← hdates, formWithReplacedErrors, Form.distinctErrors]
  simp only [Form.replaceErrorMessage, Form.replaceError, Form.errors_replaceErrorIf]
  rfl

/-- Neither a date error nor a consent that is missing or not given. -/
def isOther (e : FormError) : Bool :=
  !isDateError e && !isMissing ConsentId e && !isMissing LossOfRegistrationConsentId e &&
    e != consentNotGiven && e != lossOfRegistrationConsentNotGiven

theorem key_of_isMissing {key : String} {e : FormError} (h : isMissing key e = true) :
    e.key = key := by
  rw [isMissing, Bool.and_eq_true, beq_iff_eq] at h
  exact h.1

theorem isDateError_of_isMissing {key : String} {e : FormError}
    (hkey : key ∈ [ConsentId, LossOfRegistrationConsentId]) (h : isMissing key e = true) :
    isDateError e = false := by
  have hkeys : ∀ key ∈ [ConsentId, LossOfRegistrationConsentId], key ∉ ["dateOfDisposal.day",
      "dateOfDisposal.month", "dateOfDisposal.year", "dateOfDisposal"] := by decide
  rw [isDateError, key_of_isMissing h]
  exact decide_eq_false (hkeys key hkey)

theorem isMissing_of_isMissing {e : FormError}
    (h : isMissing LossOfRegistrationConsentId e = true) : isMissing ConsentId e = false := by
  rw [isMissing, key_of_isMissing h]
  rfl

/-- The replacements do not meet one another. -/
theorem mem_errors_formWithReplacedErrors {form : Form DisposeFormModel} {e : FormError} :
    e ∈ (formWithReplacedErrors form).errors ↔
      (e ∈ form.errors ∧ isDateError e = false ∧ isMissing ConsentId e = false ∧
          isMissing LossOfRegistrationConsentId e = false) ∨
        (e = dateOfDisposalError ∧ form.errors.any isDateError = true) ∨
        (e = consentNotGiven ∧ form.errors.any (isMissing ConsentId) = true) ∨
        (e = lossOfRegistrationConsentNotGiven ∧
          form.errors.any (isMissing LossOfRegistrationConsentId) = true) := by
  have hconsent : (replaced dateOfDisposalError isDateError form.errors).any
      (isMissing ConsentId) = form.errors.any (isMissing ConsentId) :=
    any_replaced_of_not rfl fun _ => isDateError_of_isMissing (by simp)
  have hloss : (replaced consentNotGiven (isMissing ConsentId)
      (replaced dateOfDisposalError isDateError form.errors)).any
        (isMissing LossOfRegistrationConsentId) =
      form.errors.any (isMissing LossOfRegistrationConsentId) := by
    rw [any_replaced_of_not rfl fun _ => isMissing_of_isMissing,
      any_replaced_of_not rfl fun _ => isDateError_of_isMissing (by simp)]
  rw [errors_formWithReplacedErrors, List.mem_eraseDups, mem_replaced, mem_replaced, mem_replaced,
    hconsent, hloss]
  constructor
  · rintro (⟨⟨⟨hmem, hdate⟩ | hdate, hmissing⟩ | hconsent, hmissing'⟩ | hloss)
    · exact .inl ⟨hmem, hdate, hmissing, hmissing'⟩
    · exact .inr (.inl hdate)
    · exact .inr (.inr (.inl hconsent))
    · exact .inr (.inr (.inr hloss))
  · rintro (⟨hmem, hdate, hmissing, hmissing'⟩ | ⟨rfl, hdate⟩ | ⟨rfl, hconsent⟩ | hloss)
    · exact .inl ⟨.inl ⟨.inl ⟨hmem, hdate⟩, hmissing⟩, hmissing'⟩
    · exact .inl ⟨.inl ⟨.inr ⟨rfl, hdate⟩, rfl⟩, rfl⟩
    · exact .inl ⟨.inr ⟨rfl, hconsent⟩, rfl⟩
    · exact .inr hloss

/-- An error is there once or not at all. -/
theorem count_errors_formWithReplacedErrors {form : Form DisposeFormModel} {e : FormError}
    {there : Bool} (h : e ∈ (formWithReplacedErrors form).errors ↔ there = true) :
    (formWithReplacedErrors form).errors.count e = if there then 1 else 0 := by
  rw [errors_formWithReplacedErrors, List.mem_eraseDups] at h
  rw [errors_formWithReplacedErrors, count_eraseDups]
  exact if_congr h rfl rfl

theorem filter_isOther (form : Form DisposeFormModel) :
    (formWithReplacedErrors form).errors.filter isOther =
      (form.errors.filter isOther).eraseDups := by
  have hkinds : ∀ e, isOther e = true → isDateError e = false ∧ isMissing ConsentId e = false ∧
      isMissing LossOfRegistrationConsentId e = false := by
    intro e h
    simp only [isOther, Bool.and_eq_true, Bool.not_eq_true'] at h
    exact ⟨h.1.1.1.1, h.1.1.1.2, h.1.1.2⟩
  rw [errors_formWithReplacedErrors, filter_eraseDups,
    filter_replaced rfl fun e h => (hkinds e h).2.2,
    filter_replaced rfl fun e h => (hkinds e h).2.1,
    filter_replaced rfl fun e h => (hkinds e h).1]

theorem newErrors_ne : dateOfDisposalError ≠ consentNotGiven ∧
    dateOfDisposalError ≠ lossOfRegistrationConsentNotGiven ∧
    consentNotGiven ≠ lossOfRegistrationConsentNotGiven := by decide

theorem dateOfDisposalError_mem_iff {form : Form DisposeFormModel} :
    dateOfDisposalError ∈ (formWithReplacedErrors form).errors ↔
      form.errors.any isDateError = true := by
  rw [mem_errors_formWithReplacedErrors]
  constructor
  · rintro (⟨-, hdate, -⟩ | ⟨-, hany⟩ | ⟨heq, -⟩ | ⟨heq, -⟩)
    · cases hdate
    · exact hany
    · exact absurd heq newErrors_ne.1
    · exact absurd heq newErrors_ne.2.1
  · intro hany
    exact .inr (.inl ⟨rfl, hany⟩)

/-- The error of a consent is kept from before, or replaces that of a missing field. -/
theorem consentNotGiven_mem_iff {form : Form DisposeFormModel} :
    consentNotGiven ∈ (formWithReplacedErrors form).errors ↔
      (form.errors.any (isMissing ConsentId) || form.errors.contains consentNotGiven) = true := by
  rw [mem_errors_formWithReplacedErrors, Bool.or_eq_true, List.contains_iff_mem]
  constructor
  · rintro (⟨hmem, -⟩ | ⟨heq, -⟩ | ⟨-, hany⟩ | ⟨heq, -⟩)
    · exact .inr hmem
    · exact absurd heq newErrors_ne.1.symm
    · exact .inl hany
    · exact absurd heq newErrors_ne.2.2
  · rintro (hany | hmem)
    · exact .inr (.inr (.inl ⟨rfl, hany⟩))
    · exact .inl ⟨hmem, rfl, rfl, rfl⟩

theorem lossOfRegistrationConsentNotGiven_mem_iff {form : Form DisposeFormModel} :
    lossOfRegistrationConsentNotGiven ∈ (formWithReplacedErrors form).errors ↔
      (form.errors.any (isMissing LossOfRegistrationConsentId) ||
        form.errors.contains lossOfRegistrationConsentNotGiven) = true := by
  rw [mem_errors_formWithReplacedErrors, Bool.or_eq_true, List.contains_iff_mem]
  constructor
  · rintro (⟨hmem, -⟩ | ⟨heq, -⟩ | ⟨heq, -⟩ | ⟨-, hany⟩)
    · exact .inr hmem
    · exact absurd heq newErrors_ne.2.1.symm
    · exact absurd heq newErrors_ne.2.2.symm
    · exact .inl hany
  · rintro (hany | hmem)
    · exact .inr (.inr (.inr ⟨rfl, hany⟩))
    · exact .inl ⟨hmem, rfl, rfl, rfl⟩

/-- No error of a kind that is replaced is left. -/
theorem replaced_of_mem_errors {form : Form DisposeFormModel} {e : FormError}
    (h : e ∈ (formWithReplacedErrors form).errors) :
    (isDateError e = true → e = dateOfDisposalError) ∧ isMissing ConsentId e = false ∧
      isMissing LossOfRegistrationConsentId e = false := by
  rcases mem_errors_formWithReplacedErrors.mp h with
    ⟨-, hdate, hmissing⟩ | ⟨rfl, -⟩ | ⟨rfl, -⟩ | ⟨rfl, -⟩
  · refine ⟨fun hdate' => ?_, hmissing⟩
    rw [hdate] at hdate'
    cases hdate'
  · exact ⟨fun _ => rfl, rfl, rfl⟩
  · exact ⟨fun hdate => (Bool.false_ne_true hdate).elim, rfl, rfl⟩
  · exact ⟨fun hdate => (Bool.false_ne_true hdate).elim, rfl, rfl⟩

/-- What is left of the errors of a form: one error for the date if there is any, one for each
consent that is missing or was reported already, and each other error once. -/
theorem formWithReplacedErrors_collapses (form : Form DisposeFormModel) :
    ((formWithReplacedErrors form).errors.count dateOfDisposalError =
        if form.errors.any isDateError then 1 else 0) ∧
      ((formWithReplacedErrors form).errors.count consentNotGiven =
        if form.errors.any (isMissing ConsentId) || form.errors.contains consentNotGiven then 1
        else 0) ∧
      ((formWithReplacedErrors form).errors.count lossOfRegistrationConsentNotGiven =
        if form.errors.any (isMissing LossOfRegistrationConsentId) ||
          form.errors.contains lossOfRegistrationConsentNotGiven then 1 else 0) ∧
      (∀ e ∈ (formWithReplacedErrors form).errors,
        (isDateError e = true → e = dateOfDisposalError) ∧ isMissing ConsentId e = false ∧
          isMissing LossOfRegistrationConsentId e = false) ∧
      (formWithReplacedErrors form).errors.filter isOther =
        (form.errors.filter isOther).eraseDups ∧
      ((formWithReplacedErrors form).errors = [] ↔ form.errors = []) := by
  refine ⟨count_errors_formWithReplacedErrors dateOfDisposalError_mem_iff,
    count_errors_formWithReplacedErrors consentNotGiven_mem_iff,
    count_errors_formWithReplacedErrors lossOfRegistrationConsentNotGiven_mem_iff,
    fun _ he => replaced_of_mem_errors he, filter_isOther form, ?_⟩
  rw [errors_formWithReplacedErrors, eraseDups_eq_nil_iff, replaced_eq_nil_iff,
    replaced_eq_nil_iff, replaced_eq_nil_iff]

/-- A consent that was reported already is not missing. -/
theorem consentNotGiven_kept :
    (formWithReplacedErrors { errors := [consentNotGiven] }).errors = [consentNotGiven] ∧
      ¬ ∃ e ∈ [consentNotGiven], isMissing ConsentId e = true := by
  decide

end Dispose

end VehiclesOnline
