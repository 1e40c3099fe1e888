import VehiclesOnline.Wizard.Disposal
import VehiclesOnline.Wizard.Steps

/-! Runs of the application, with what came before each request: conditions that hold at every
request of a run, and the rule that derives them from the steps of the wizard. -/

namespace VehiclesOnline

open Transition (Along tracing final outputs)

variable {joda : Joda}

/-- The requests so far with their replies, oldest first. -/
abbrev History (joda : Joda) := List (Exchange joda × Reply)

/-- A condition on a request and its reply, with what came before and what the session holds. -/
abbrev RunCondition (joda : Joda) :=
  History joda → ApplicationData → Exchange joda → Reply → Prop

/-- The reply to a request that leads to the calls and the response. -/
def Response.reply (response : Response) (calls : List ServiceCall) : Reply where
  content := response.content
  calls := calls

namespace Sessions

variable (sessions : Sessions) (config : Config)

/-- The condition holds at every request of a run. -/
def Throughout (P : RunCondition joda) (jar : Jar) (exchanges : List (Exchange joda)) : Prop :=
  Along (tracing (sessions.serve config))
    (fun state exchange => P state.2 (sessions.applicationData state.1) exchange
      (sessions.serve config state.1 exchange).2) (jar, []) exchanges

/-- The requests of a run with their replies. -/
def history (jar : Jar) (exchanges : List (Exchange joda)) : History joda :=
  exchanges.zip (outputs (sessions.serve config) jar exchanges)

end Sessions

variable {sessions : Sessions} {config : Config} {jar : Jar} {data : ApplicationData}
variable {exchange : Exchange joda} {exchanges : List (Exchange joda)}

variable (config) in
/-- A request to the application is a step of the wizard on what the session holds. -/
theorem Holds.step (h : Holds sessions jar data) (hapart : sessions.Apart exchange.draw) :
    ∃ trackingId calls response, WizardStep config trackingId data exchange calls response ∧
      (sessions.serve config jar exchange).2 = response.reply calls ∧
      Holds sessions (sessions.serve config jar exchange).1
        (response.data sessions.kind data) := by
  obtain ⟨trackingId, hholds, hreply⟩ := serve_simulates config h hapart
  exact ⟨trackingId, _, _, wizardStep, hreply, hholds⟩

/-! ### Invariants -/

section Invariants

variable (kind : SessionKind) (config : Config)

/-- Every step that meets the condition preserves the invariant. -/
def Preserves (P : RunCondition joda) (Inv : History joda → ApplicationData → Prop) : Prop :=
  ∀ history data exchange trackingId calls response, Inv history data →
    WizardStep config trackingId data exchange calls response →
    P history data exchange (response.reply calls) →
    Inv (history ++ [(exchange, response.reply calls)]) (response.data kind data)

/-- With the invariant, every step that meets the one condition meets the other. -/
def Ensures (P : RunCondition joda) (Inv : History joda → ApplicationData → Prop)
    (Q : RunCondition joda) : Prop :=
  ∀ history data exchange trackingId calls response, Inv history data →
    WizardStep config trackingId data exchange calls response →
    P history data exchange (response.reply calls) →
    Q history data exchange (response.reply calls)

end Invariants

variable {P Q : RunCondition joda} {Inv : History joda → ApplicationData → Prop}

/-- The jar holds data of which the invariant is true. -/
def HoldsInvariant (sessions : Sessions) (Inv : History joda → ApplicationData → Prop)
    (state : Jar × History joda) : Prop :=
  ∃ data, Holds sessions state.1 data ∧ Inv state.2 data

theorem HoldsInvariant.step {state : Jar × History joda} (h : HoldsInvariant sessions Inv state)
    (hpreserves : Preserves sessions.kind config P Inv) (hapart : sessions.Apart exchange.draw)
    (hp : P state.2 (sessions.applicationData state.1) exchange
      (sessions.serve config state.1 exchange).2) :
    HoldsInvariant sessions Inv (tracing (sessions.serve config) state exchange).1 := by
  obtain ⟨data, hholds, hinv⟩ := h
  obtain ⟨trackingId, calls, response, hstep, hreply, hholds'⟩ := hholds.step config hapart
  rw [hreply, hholds.applicationData_eq] at hp
  refine ⟨_, hholds', ?_⟩
  simp only [tracing, hreply]
  exact hpreserves _ _ _ trackingId _ _ hinv hstep hp

theorem HoldsInvariant.ensures {state : Jar × History joda}
    (h : HoldsInvariant sessions Inv state) (hensures : Ensures config P Inv Q)
    (hapart : sessions.Apart exchange.draw)
    (hp : P state.2 (sessions.applicationData state.1) exchange
      (sessions.serve config state.1 exchange).2) :
    Q state.2 (sessions.applicationData state.1) exchange
      (sessions.serve config state.1 exchange).2 := by
  obtain ⟨data, hholds, hinv⟩ := h
  obtain ⟨trackingId, calls, response, hstep, hreply, -⟩ := hholds.step config hapart
  rw [hreply, hholds.applicationData_eq] at hp ⊢
  exact hensures _ _ _ trackingId _ _ hinv hstep hp

/-- What holds before the first request and is preserved holds at the end of a run. -/
theorem Sessions.Throughout.holdsInvariant (hpreserves : Preserves sessions.kind config P Inv)
    (hinit : Inv [] fun _ => none) (hclean : Clean jar)
    (hapart : ∀ exchange ∈ exchanges, sessions.Apart exchange.draw)
    (h : sessions.Throughout config P jar exchanges) :
    HoldsInvariant sessions Inv
      (final (sessions.serve config) jar exchanges, sessions.history config jar exchanges) := by
  have hstart : HoldsInvariant sessions Inv (jar, []) := ⟨_, .of_clean hclean sessions, hinit⟩
  have hend : HoldsInvariant sessions Inv
      (final (tracing (sessions.serve config)) (jar, []) exchanges) := by
    refine Along.invariant_final ?_ hstart
      (h.and (Transition.along_of_forall _ fun _ => hapart))
    intro state exchange hinv hcondition
    exact hinv.step hpreserves hcondition.2 hcondition.1
  rwa [Transition.final_tracing, List.nil_append] at hend

theorem Preserves.and {kind : SessionKind} {Inv' : History joda → ApplicationData → Prop}
    (h : Preserves kind config P Inv) (h' : Preserves kind config P Inv') :
    Preserves kind config P fun history data => Inv history data ∧ Inv' history data :=
  fun history data exchange trackingId calls response hinv hstep hp =>
    ⟨h history data exchange trackingId calls response hinv.1 hstep hp,
      h' history data exchange trackingId calls response hinv.2 hstep hp⟩

/-- In a run whose requests all meet the one condition, they all meet what it ensures. -/
theorem Sessions.Throughout.of_invariant (hpreserves : Preserves sessions.kind config P Inv)
    (hensures : Ensures config P Inv Q) (hinit : Inv [] fun _ => none) (hclean : Clean jar)
    (hapart : ∀ exchange ∈ exchanges, sessions.Apart exchange.draw)
    (h : sessions.Throughout config P jar exchanges) :
    sessions.Throughout config Q jar exchanges := by
  have hstart : HoldsInvariant sessions Inv (jar, []) := ⟨_, .of_clean hclean sessions, hinit⟩
  refine Along.of_invariant ?_ ?_ hstart
    (h.and (Transition.along_of_forall _ fun _ => hapart))
  · intro state exchange hinv hcondition
    exact hinv.step hpreserves hcondition.2 hcondition.1
  · intro state exchange hinv hcondition
    exact hinv.ensures hensures hcondition.2 hcondition.1

/-! ### The last request of a run -/

/-- A condition holds along a run if it does before and at the last request. -/
theorem Sessions.throughout_concat :
    sessions.Throughout config Q jar (exchanges ++ [exchange]) ↔
      sessions.Throughout config Q jar exchanges ∧
        Q (sessions.history config jar exchanges)
          (sessions.applicationData (final (sessions.serve config) jar exchanges)) exchange
          (sessions.serve config (final (sessions.serve config) jar exchanges) exchange).2 := by
  rw [Sessions.Throughout, Transition.along_append, Transition.final_tracing, List.nil_append]
  exact and_congr_right fun _ => and_iff_left trivial

/-- What a dealer does last, as the machine without cookies does it. -/
theorem Dealer.throughout_concat (Q : RunCondition utc) (exchanges : List (Exchange utc))
    (exchange : Exchange utc) :
    ∃ (trackingIds : List String) (trackingId : String), trackingIds.length = exchanges.length ∧
      ((Sessions.clearText noCookieFlags).Throughout {} Q ∅ (exchanges ++ [exchange]) ↔
        (Sessions.clearText noCookieFlags).Throughout {} Q ∅ exchanges ∧
          Q (exchanges.zip
              (outputs (wizardRun .clearText {}) (fun _ => none) (exchanges.zip trackingIds)))
            (final (wizardRun .clearText {}) (fun _ => none) (exchanges.zip trackingIds)) exchange
            (wizard .clearText {} trackingId
              (final (wizardRun .clearText {}) (fun _ => none) (exchanges.zip trackingIds))
              exchange).2) := by
  obtain ⟨trackingIds, hlength, hholds, houtputs⟩ := run exchanges
  obtain ⟨trackingId, -, hreply⟩ : ∃ trackingId, Holds (.clearText noCookieFlags) _ _ ∧
      ((Sessions.clearText noCookieFlags).serve {} _ exchange).2 = _ :=
    serve_simulates {} hholds trivial
  refine ⟨trackingIds, trackingId, hlength, ?_⟩
  rw [Sessions.throughout_concat, Sessions.history, houtputs, hreply, hholds.applicationData_eq]
  exact Iff.rfl

end VehiclesOnline
