import VehiclesOnline.Wizard.Transactions

/-! # What carries over to the next vehicle

The confirmation page is filled with the form of the last disposal that the service answered.
Over every run that is a form for the vehicle looked up last, as long as a disposal was answered
since that lookup whenever the page is shown with a form. -/

namespace VehiclesOnline

open Log (Since Followed)
open Transition (outputs)

variable {joda : Joda}

/-! ### Events of a session -/

namespace History

/-- The dispose form was submitted, and was valid. -/
def Submits (disposeFormModel : DisposeFormModel) (entry : Exchange joda × Reply) : Prop :=
  ∃ form, entry.1.request = .disposeSubmit form ∧ form.valid = some disposeFormModel

def FindsVehicle (entry : Exchange joda × Reply) : Prop :=
  ∃ call ∈ entry.2.calls, call.FindsVehicle

def AnswersDisposal (entry : Exchange joda × Reply) : Prop :=
  ∃ call ∈ entry.2.calls, call.DisposesAnswered

end History

/-- The confirmation page is filled, if at all, with a form that was submitted since a vehicle
was last found. -/
def FilledSinceLookup (history : History joda) (reply : Reply) : Prop :=
  ∀ view form today, reply.content = .ok (.dispose view form today) →
    form = {} ∨ ∃ disposeFormModel, form = .fill disposeFormModel ∧
      Since (History.Submits disposeFormModel) History.FindsVehicle history

/-- When the confirmation page is shown in a session that holds a form, every lookup that found
a vehicle was followed by a disposal that the service answered. -/
def AnsweredWhenFilled (history : History joda) (data : ApplicationData)
    (exchange : Exchange joda) : Prop :=
  exchange.request = .disposePresent → data .preventGoingToDisposePage = none →
    HoldsAll [.traderDetails, .vehicleLookupDetails, .disposeFormModel] data →
    Followed History.FindsVehicle History.AnswersDisposal history

/-! ### The form that the session holds -/

/-- The form that the session holds was submitted in the last disposal that was answered. -/
def HoldsAnsweredForm (history : History joda) (data : ApplicationData) : Prop :=
  ∀ disposeFormModel, data .disposeFormModel = some disposeFormModel →
    Since (History.Submits disposeFormModel) History.AnswersDisposal history

section HoldsAnsweredForm

variable {history : History joda} {data data' : ApplicationData} {exchange : Exchange joda}
variable {reply : Reply}

theorem HoldsAnsweredForm.frame (h : HoldsAnsweredForm history data)
    (hcalls : ∀ call ∈ reply.calls, ¬ call.DisposesAnswered)
    (hdata : data' .disposeFormModel = data .disposeFormModel ∨ data' .disposeFormModel = none) :
    HoldsAnsweredForm (history ++ [(exchange, reply)]) data' := by
  intro disposeFormModel hform
  rcases hdata with hkept | hnone
  · refine Log.since_concat.mpr (.inr ⟨h disposeFormModel (hkept.symm.trans hform), ?_⟩)
    rintro ⟨call, hc, hanswered⟩
    exact hcalls call hc hanswered
  · cases hnone.symm.trans hform

theorem HoldsAnsweredForm.submits {form : Form DisposeFormModel}
    {disposeFormModel : DisposeFormModel} (hrequest : exchange.request = .disposeSubmit form)
    (hvalid : form.valid = some disposeFormModel)
    (hform : data' .disposeFormModel = some disposeFormModel) :
    HoldsAnsweredForm (history ++ [(exchange, reply)]) data' := by
  intro disposeFormModel' hform'
  obtain rfl := Option.some.inj (hform.symm.trans hform')
  exact Log.since_concat.mpr (.inl ⟨form, hrequest, hvalid⟩)

end HoldsAnsweredForm

theorem preserves_holdsAnsweredForm (P : RunCondition joda) (kind : SessionKind)
    (config : Config) : Preserves kind config P HoldsAnsweredForm := by
  rintro history data exchange trackingId calls response h hstep -
  have hdisposal := hstep.disposalStep kind
  generalize response.data kind data = data' at hdisposal ⊢
  cases hdisposal with
  | answered hrequest hvalid hstores => exact .submits hrequest hvalid hstores.disposeFormModel
  | fails =>
      refine h.frame (fun call hc => ?_) (.inl rfl)
      rw [List.mem_singleton.mp hc]
      exact id
  | others hcalls hform =>
      exact h.frame (fun call hc hanswered => hcalls call hc hanswered.disposes) hform

theorem ensures_filledSinceLookup (config : Config) :
    Ensures config (fun history data (exchange : Exchange joda) _ =>
        AnsweredWhenFilled history data exchange)
      HoldsAnsweredForm (fun history _ _ reply => FilledSinceLookup history reply) := by
  intro history data exchange trackingId calls response h hstep hanswered view form today hpage
  have hconfirms := hstep.confirms_of_content hpage
  rw [hconfirms.form]
  cases hform : data .disposeFormModel with
  | none => exact .inl rfl
  | some disposeFormModel =>
      refine .inr ⟨disposeFormModel, rfl, (h disposeFormModel hform).of_followed ?_⟩
      exact hanswered hconfirms.requested hconfirms.opened
        (by simp [HoldsAll, hconfirms.trader, hconfirms.vehicle, hform])

/-! ### Runs -/

/-- In every run the confirmation page is filled with forms for the vehicle found last, as long
as a disposal was answered since then whenever it is filled. -/
theorem filledSinceLookup_of_answeredWhenFilled (sessions : Sessions) (config : Config)
    {jar : Jar} (hclean : Clean jar) {exchanges : List (Exchange joda)}
    (hapart : ∀ exchange ∈ exchanges, sessions.Apart exchange.draw)
    (hanswered : sessions.Throughout config
      (fun history data exchange _ => AnsweredWhenFilled history data exchange) jar exchanges) :
    sessions.Throughout config (fun history _ _ reply => FilledSinceLookup history reply) jar
      exchanges :=
  Sessions.Throughout.of_invariant (preserves_holdsAnsweredForm _ sessions.kind config)
    (ensures_filledSinceLookup config) (by rintro disposeFormModel ⟨⟩) hclean hapart hanswered

section Dealer

open Dealer

/-- The requests up to a disposal. -/
def upToDisposal : List (Exchange utc) :=
  entersDetails ++ [looksUp "1" "A1" found, disposes]

/-- The vehicle was found before it was disposed of. -/
theorem followed_upToDisposal (a b c d e : String) :
    Followed History.FindsVehicle History.AnswersDisposal
      ((upToDisposal ++ [asksForDisposePage]).zip
        (outputs (wizardRun .clearText {}) (fun _ => none)
          ((upToDisposal ++ [asksForDisposePage]).zip [a, b, c, d, e]))) := by
  obtain ⟨before, reply, reply', disposal, answer, hlog, hcalls, hcalls'⟩ :
      ∃ before reply reply' disposal answer,
        (upToDisposal ++ [asksForDisposePage]).zip
            (outputs (wizardRun .clearText {}) (fun _ => none)
              ((upToDisposal ++ [asksForDisposePage]).zip [a, b, c, d, e])) =
          before ++ [(disposes, reply)] ++ [(asksForDisposePage, reply')] ∧
        reply.calls = [.dispose disposal d (.ok answer)] ∧ reply'.calls = [] :=
    ⟨[_, _, _], _, _, _, _, rfl, rfl, rfl⟩
  rw [hlog, Log.followed_concat, Log.followed_concat]
  refine ⟨?_, .inr ⟨?_, .inl ⟨.dispose disposal d (.ok answer), ?_, trivial⟩⟩⟩
  · rintro ⟨call, hcall, -⟩
    simp only [hcalls', List.not_mem_nil] at hcall
  · rintro ⟨call, hcall, hfinds⟩
    simp only [hcalls, List.mem_singleton] at hcall
    subst hcall
    exact hfinds
  · rw [hcalls]
    exact List.mem_singleton_self _

theorem answeredWhenFilled_upToDisposal :
    (Sessions.clearText noCookieFlags).Throughout {}
      (fun history data exchange _ => AnsweredWhenFilled history data exchange) ∅
      (upToDisposal ++ [asksForDisposePage] ++ [asksForDisposePage]) := by
  obtain ⟨trackingIds, trackingId, hlength, hconcat⟩ := throughout_concat
    (fun history data exchange _ => AnsweredWhenFilled history data exchange)
    (upToDisposal ++ [asksForDisposePage]) asksForDisposePage
  obtain ⟨trackingIds', trackingId', hlength', hconcat'⟩ := throughout_concat
    (fun history data exchange _ => AnsweredWhenFilled history data exchange)
    upToDisposal asksForDisposePage
  obtain ⟨a, _, rfl⟩ := List.exists_of_length_succ trackingIds hlength
  obtain ⟨b, c, d, e, rfl⟩ := List.length_eq_four.mp (Nat.succ.inj hlength)
  obtain ⟨a', b', c', d', rfl⟩ := List.length_eq_four.mp hlength'
  refine hconcat.mpr ⟨hconcat'.mpr ⟨?_, ?_⟩, ?_⟩
  · refine Transition.along_of_forall _ fun state exchange hmem hrequest => ?_
    simp only [upToDisposal, entersDetails, List.cons_append, List.nil_append,
      List.mem_cons, List.not_mem_nil, or_false] at hmem
    rcases hmem with rfl | rfl | rfl | rfl <;> cases hrequest
  · intro _ hbarred _
    cases hbarred
  · intro _ _ _
    exact followed_upToDisposal a b c d e

/-- The page is asked for twice after a disposal, first to remove the flag, and then it is shown
with the form of the disposal. -/
theorem filledSinceLookup_of_answeredWhenFilled_dealer :
    (Sessions.clearText noCookieFlags).Throughout {}
        (fun history _ _ reply => FilledSinceLookup history reply) ∅
        (upToDisposal ++ [asksForDisposePage] ++ [asksForDisposePage]) ∧
      ∃ before reply view disposeFormModel today,
        outputs ((Sessions.clearText noCookieFlags).serve {}) ∅
            (upToDisposal ++ [asksForDisposePage] ++ [asksForDisposePage]) =
          before ++ [reply] ∧
        reply.content = .ok (.dispose view (.fill disposeFormModel) today) := by
  refine ⟨filledSinceLookup_of_answeredWhenFilled (.clearText noCookieFlags) {}
    (fun _ _ => rfl) (fun _ _ => trivial) answeredWhenFilled_upToDisposal, ?_⟩
  obtain ⟨trackingIds, hlength, -, houtputs⟩ :=
    run (upToDisposal ++ [asksForDisposePage] ++ [asksForDisposePage])
  obtain ⟨a, _, rfl⟩ := List.exists_of_length_succ trackingIds hlength
  obtain ⟨b, _, rfl⟩ := List.exists_of_length_succ _ (Nat.succ.inj hlength)
  obtain ⟨c, d, e, f, rfl⟩ := List.length_eq_four.mp (Nat.succ.inj (Nat.succ.inj hlength))
  rw [houtputs]
  exact ⟨[_, _, _, _, _], _, _, _, _, rfl, rfl⟩

/-- The last request is the lookup of the other vehicle. -/
theorem history_of_another (a b c d e : String) :
    let exchanges := entersDetails ++ [looksUp "1" "A1" found, disposes, looksUp "2" "B1" found]
    ∃ before reply call lookup,
      exchanges.zip (outputs (wizardRun .clearText {}) (fun _ => none)
          (exchanges.zip [a, b, c, d, e])) =
        before ++ [(looksUp "2" "B1" found, reply)] ∧
      reply.calls = [call, .vehicleLookup lookup e (.ok (200, some found))] :=
  ⟨[_, _, _, _], _, _, _, rfl, rfl⟩

/-- A vehicle is disposed of and another one is found: the page is filled with the consents and
the date of the first one. -/
theorem not_filledSinceLookup_another :
    ¬ (Sessions.clearText noCookieFlags).Throughout {}
      (fun history _ _ reply => FilledSinceLookup history reply) ∅
      (entersDetails ++ [looksUp "1" "A1" found, disposes, looksUp "2" "B1" found] ++
        [asksForDisposePage]) := by
  intro h
  obtain ⟨trackingIds, trackingId, hlength, hconcat⟩ := throughout_concat
    (fun history _ _ reply => FilledSinceLookup history reply)
    (entersDetails ++ [looksUp "1" "A1" found, disposes, looksUp "2" "B1" found])
    asksForDisposePage
  obtain ⟨a, _, rfl⟩ := List.exists_of_length_succ trackingIds hlength
  obtain ⟨b, c, d, e, rfl⟩ := List.length_eq_four.mp (Nat.succ.inj hlength)
  rcases (hconcat.mp h).2 _ _ _ rfl with hblank | ⟨disposeFormModel, hfilled, hsince⟩
  · cases hblank
  · obtain ⟨before, reply, call, lookup, hlast, hcalls⟩ := history_of_another a b c d e
    rw [hlast] at hsince
    rcases Log.since_concat.mp hsince with ⟨form, hrequest, -⟩ | ⟨-, hfinds⟩
    · cases hrequest
    · refine hfinds ⟨.vehicleLookup lookup e (.ok (200, some found)), ?_, Option.some_ne_none _⟩
      rw [hcalls]
      exact List.mem_cons_of_mem _ (List.mem_singleton_self _)

end Dealer

end VehiclesOnline
