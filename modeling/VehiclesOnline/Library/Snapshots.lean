import Mathlib.Logic.Relation

/-! Clients that send a snapshot of their state with every request, and apply the responses in
whatever order they arrive: a rule for what holds of the state, of every snapshot under way and
of everything that was served, clients that keep a log of what they receive, and a rule that
erases what changes no state. -/

namespace Snapshots

/-- The state of the client, the requests and the responses under way, and what was served so
far, latest first. -/
structure Network (S R E : Type*) where
  state : S
  requests : List S := []
  responses : List R := []
  served : List E := []

/-- How a client applies a response, and with which responses a server may answer a request. An
entry tells what was served. -/
structure Protocol (S R E : Type*) where
  receive : S → R → S
  Serves : S → R → E → Prop

section Steps

variable {S R E : Type*} (protocol : Protocol S R E)

/-- Requests are served and responses are delivered in any order, or are lost. -/
inductive Step : Network S R E → Network S R E → Prop
  | send (s : Network S R E) : Step s { s with requests := s.state :: s.requests }
  | serve (s : Network S R E) (before after : List S) (request : S) (response : R) (entry : E)
      (hrequest : s.requests = before ++ request :: after)
      (hserves : protocol.Serves request response entry) :
      Step s { s with
        requests := before ++ after
        responses := response :: s.responses
        served := entry :: s.served }
  | deliver (s : Network S R E) (before after : List R) (response : R)
      (hresponse : s.responses = before ++ response :: after) :
      Step s { s with
        state := protocol.receive s.state response
        responses := before ++ after }
  | loseRequest (s : Network S R E) (before after : List S) (request : S)
      (hrequest : s.requests = before ++ request :: after) :
      Step s { s with requests := before ++ after }
  | loseResponse (s : Network S R E) (before after : List R) (response : R)
      (hresponse : s.responses = before ++ response :: after) :
      Step s { s with responses := before ++ after }

/-- What follows a client that starts with the state and nothing under way. -/
def Reachable (initial : S) (s : Network S R E) : Prop :=
  Relation.ReflTransGen (Step protocol) { state := initial } s

/-- An invariant of states, which may speak of what was served so far. Every response preserves it
whenever it arrives, and what is served to a state of which it is true is good. -/
structure Keeps (Inv : List E → S → Prop) (Good : List E → E → Prop) : Prop where
  mono : ∀ served entry state, Inv served state → Inv (entry :: served) state
  good : ∀ served request response entry, Inv served request →
    protocol.Serves request response entry → Good served entry
  receive : ∀ served request response entry, Inv served request →
    protocol.Serves request response entry → ∀ later state,
      Inv (later ++ entry :: served) state →
        Inv (later ++ entry :: served) (protocol.receive state response)

/-- The invariant of a network. -/
structure Safe (Inv : List E → S → Prop) (Good : List E → E → Prop) (s : Network S R E) :
    Prop where
  state : Inv s.served s.state
  requests : ∀ request ∈ s.requests, Inv s.served request
  responses : ∀ response ∈ s.responses, ∀ later state, Inv (later ++ s.served) state →
    Inv (later ++ s.served) (protocol.receive state response)
  served : ∀ before entry after, s.served = before ++ entry :: after → Good after entry

end Steps

section Invariant

variable {S R E : Type*} {protocol : Protocol S R E}
variable {Inv : List E → S → Prop} {Good : List E → E → Prop}

theorem mem_of_mem_removed {α : Type*} {before after : List α} {a b : α}
    (h : b ∈ before ++ after) : b ∈ before ++ a :: after := by
  rcases List.mem_append.mp h with h | h
  · exact List.mem_append.mpr (.inl h)
  · exact List.mem_append.mpr (.inr (List.mem_cons_of_mem a h))

/-- A request that is served leaves a safe network. -/
theorem Safe.serve {s : Network S R E} (hkeeps : Keeps protocol Inv Good)
    (h : Safe protocol Inv Good s) {before after : List S} {request : S} {response : R} {entry : E}
    (hrequest : s.requests = before ++ request :: after)
    (hserves : protocol.Serves request response entry) :
    Safe protocol Inv Good { s with
      requests := before ++ after
      responses := response :: s.responses
      served := entry :: s.served } := by
  have hinv : Inv s.served request := h.requests request (by rw [hrequest]; simp)
  refine ⟨hkeeps.mono _ _ _ h.state, ?_, ?_, ?_⟩
  · intro other hother
    refine hkeeps.mono _ _ _ (h.requests other ?_)
    rw [hrequest]
    exact mem_of_mem_removed hother
  · intro other hother later state hstate
    rcases List.mem_cons.mp hother with rfl | hother
    · exact hkeeps.receive _ _ _ _ hinv hserves later state hstate
    · have hlater : later ++ entry :: s.served = (later ++ [entry]) ++ s.served := by simp
      simp only [hlater] at hstate ⊢
      exact h.responses other hother _ state hstate
  · intro recent entry' rest hsplit
    cases recent with
    | nil =>
        obtain ⟨rfl, rfl⟩ := List.cons.inj hsplit
        exact hkeeps.good _ _ _ _ hinv hserves
    | cons latest recent => exact h.served recent entry' rest (List.cons.inj hsplit).2

theorem Safe.step {s s' : Network S R E} (hkeeps : Keeps protocol Inv Good)
    (h : Safe protocol Inv Good s) (hstep : Step protocol s s') : Safe protocol Inv Good s' := by
  cases hstep with
  | send =>
      refine ⟨h.state, ?_, h.responses, h.served⟩
      intro request hrequest
      rcases List.mem_cons.mp hrequest with rfl | hrequest
      · exact h.state
      · exact h.requests request hrequest
  | serve before after request response entry hrequest hserves =>
      exact h.serve hkeeps hrequest hserves
  | deliver before after response hresponse =>
      have hkept : ∀ other ∈ before ++ after, other ∈ s.responses := by
        rw [hresponse]
        exact fun _ => mem_of_mem_removed
      refine ⟨?_, h.requests, fun other hother => h.responses other (hkept other hother), h.served⟩
      exact h.responses response (by rw [hresponse]; simp) [] s.state h.state
  | loseRequest before after request hrequest =>
      refine ⟨h.state, fun other hother => h.requests other ?_, h.responses, h.served⟩
      rw [hrequest]
      exact mem_of_mem_removed hother
  | loseResponse before after response hresponse =>
      refine ⟨h.state, h.requests, fun other hother => h.responses other ?_, h.served⟩
      rw [hresponse]
      exact mem_of_mem_removed hother

/-- A client may wait for each response before it sends the next request. -/
theorem Reachable.inTurn {initial state : S} {served : List E} {response : R} {entry : E}
    (h : Reachable protocol initial { state := state, served := served })
    (hserves : protocol.Serves state response entry) :
    Reachable protocol initial
      { state := protocol.receive state response, served := entry :: served } := by
  have hsent := h.tail (.send _)
  have hserved := hsent.tail (.serve _ [] [] state response entry rfl hserves)
  exact hserved.tail (.deliver _ [] [] response rfl)

/-- A client may send a request, and another one that is answered first. -/
theorem Reachable.overtaken {initial state : S} {served : List E} {lateResponse response : R}
    {late entry : E} (h : Reachable protocol initial { state := state, served := served })
    (hlate : protocol.Serves state lateResponse late)
    (hserves : protocol.Serves state response entry) :
    Reachable protocol initial
      { state := protocol.receive state response
        responses := [lateResponse]
        served := late :: entry :: served } := by
  have hsent := (h.tail (.send _)).tail (.send _)
  have hserved := hsent.tail (.serve _ [] [state] state response entry rfl hserves)
  have hdelivered := hserved.tail (.deliver _ [] [] response rfl)
  exact hdelivered.tail (.serve _ [] [] state lateResponse late rfl hlate)

/-- What holds at the start and is kept holds whatever the order of the steps. -/
theorem Reachable.safe {initial : S} {s : Network S R E} (hkeeps : Keeps protocol Inv Good)
    (hinitial : Inv [] initial) (h : Reachable protocol initial s) :
    Safe protocol Inv Good s := by
  induction h with
  | refl =>
      refine ⟨hinitial, fun _ h => absurd h List.not_mem_nil,
        fun _ h => absurd h List.not_mem_nil, ?_⟩
      intro before entry after hsplit
      exact absurd hsplit.symm (by simp)
  | tail _ hstep ih => exact ih.step hkeeps hstep

end Invariant

/-! ### Logs of what was received -/

/-- What a client has or sends, with the entries whose responses it had received, in order. -/
structure Logged (A E : Type*) where
  value : A
  received : List E := []

section Logs

variable {S R E : Type*}

/-- The client logs every response that is delivered, and sends the log with every request; what
is served is told with the log of its request. -/
def Protocol.logged (protocol : Protocol S R E) : Protocol (Logged S E) (R × E) (Logged E E) where
  receive client response :=
    { value := protocol.receive client.value response.1
      received := client.received ++ [response.2] }
  Serves request response entry := protocol.Serves request.value response.1 entry.value ∧
    response.2 = entry.value ∧ entry.received = request.received

abbrev LoggedNetwork (S R E : Type*) := Network (Logged S E) (R × E) (Logged E E)

/-- The network without the logs. -/
def Network.unlogged (s : LoggedNetwork S R E) : Network S R E where
  state := s.state.value
  requests := s.requests.map Logged.value
  responses := s.responses.map Prod.fst
  served := s.served.map Logged.value

variable {protocol : Protocol S R E}

theorem Protocol.serves_logged {client : Logged S E} {response : R} {entry : E}
    (h : protocol.Serves client.value response entry) :
    protocol.logged.Serves client (response, entry) ⟨entry, client.received⟩ := ⟨h, rfl, rfl⟩

theorem Step.unlogged {s s' : LoggedNetwork S R E} (h : Step protocol.logged s s') :
    Step protocol s.unlogged s'.unlogged := by
  cases h with
  | send => exact .send s.unlogged
  | serve before after request response entry hrequest hserves =>
      have hstep := Step.serve s.unlogged (before.map Logged.value) (after.map Logged.value)
        request.value response.1 entry.value (by simp [Network.unlogged, hrequest]) hserves.1
      simpa [Network.unlogged] using hstep
  | deliver before after response hresponse =>
      have hstep : Step protocol s.unlogged _ := .deliver s.unlogged (before.map Prod.fst)
        (after.map Prod.fst) response.1 (by simp [Network.unlogged, hresponse])
      simpa [Network.unlogged, Protocol.logged] using hstep
  | loseRequest before after request hrequest =>
      have hstep : Step protocol s.unlogged _ := .loseRequest s.unlogged (before.map Logged.value)
        (after.map Logged.value) request.value (by simp [Network.unlogged, hrequest])
      simpa [Network.unlogged] using hstep
  | loseResponse before after response hresponse =>
      have hstep : Step protocol s.unlogged _ := .loseResponse s.unlogged (before.map Prod.fst)
        (after.map Prod.fst) response.1 (by simp [Network.unlogged, hresponse])
      simpa [Network.unlogged] using hstep

/-- Every run of a client that keeps a log is one of the client. -/
theorem Reachable.unlogged {initial : S} {s : LoggedNetwork S R E}
    (h : Reachable protocol.logged { value := initial } s) :
    Reachable protocol initial s.unlogged := by
  induction h with
  | refl => exact .refl
  | tail _ hstep ih => exact ih.tail hstep.unlogged

theorem exists_of_map_eq {α β : Type*} {f : α → β} {l : List α} {before after : List β} {b : β}
    (h : l.map f = before ++ b :: after) :
    ∃ front a back, l = front ++ a :: back ∧ front.map f = before ∧ f a = b ∧
      back.map f = after := by
  obtain ⟨front, rest, rfl, hfront, hrest⟩ := List.map_eq_append_iff.mp h
  obtain ⟨a, back, rfl, ha, hback⟩ := List.map_eq_cons_iff.mp hrest
  exact ⟨front, a, back, rfl, hfront, ha, hback⟩

theorem Step.exists_logged {s : LoggedNetwork S R E} {t : Network S R E}
    (h : Step protocol s.unlogged t) : ∃ s', Step protocol.logged s s' ∧ s'.unlogged = t := by
  cases h with
  | send => exact ⟨_, .send s, rfl⟩
  | serve before after request response entry hrequest hserves =>
      obtain ⟨front, sent, back, hsent, rfl, rfl, rfl⟩ := exists_of_map_eq hrequest
      refine ⟨_, .serve s front back sent (response, entry) _ hsent
        (Protocol.serves_logged hserves), ?_⟩
      simp [Network.unlogged]
  | deliver before after response hresponse =>
      obtain ⟨front, arrived, back, harrived, rfl, rfl, rfl⟩ := exists_of_map_eq hresponse
      refine ⟨_, .deliver s front back arrived harrived, ?_⟩
      simp [Network.unlogged, Protocol.logged]
  | loseRequest before after request hrequest =>
      obtain ⟨front, sent, back, hsent, rfl, rfl, rfl⟩ := exists_of_map_eq hrequest
      refine ⟨_, .loseRequest s front back sent hsent, ?_⟩
      simp [Network.unlogged]
  | loseResponse before after response hresponse =>
      obtain ⟨front, arrived, back, harrived, rfl, rfl, rfl⟩ := exists_of_map_eq hresponse
      refine ⟨_, .loseResponse s front back arrived harrived, ?_⟩
      simp [Network.unlogged]

/-- Every run of a client can be logged. -/
theorem Reachable.exists_logged {initial : S} {s : Network S R E}
    (h : Reachable protocol initial s) :
    ∃ s' : LoggedNetwork S R E, Reachable protocol.logged { value := initial } s' ∧
      s'.unlogged = s := by
  induction h with
  | refl => exact ⟨_, .refl, rfl⟩
  | tail _ hstep ih =>
      obtain ⟨s', hreach, rfl⟩ := ih
      obtain ⟨s'', hstep', rfl⟩ := hstep.exists_logged
      exact ⟨s'', hreach.tail hstep', rfl⟩

variable (protocol) (responseTo : E → R)

/-- The state after the responses to the entries were received in turn. -/
def Protocol.after (initial : S) (received : List E) : S :=
  received.foldl (fun state entry => protocol.receive state (responseTo entry)) initial

/-- The log is of what was served, and the state is what came of it. -/
structure Protocol.LogOf (initial : S) (served : List E) (state : S) (received : List E) :
    Prop where
  served : ∀ entry ∈ received, entry ∈ served
  state_eq : state = protocol.after responseTo initial received

variable {protocol responseTo} {initial : S}

@[simp] theorem Protocol.after_concat (received : List E) (entry : E) :
    protocol.after responseTo initial (received ++ [entry]) =
      protocol.receive (protocol.after responseTo initial received) (responseTo entry) := by
  simp [Protocol.after]

/-- If an entry tells the request and the response, then the log tells the state of the client,
and of every request when it was sent. -/
theorem keeps_log {requestOf : E → S}
    (htells : ∀ request response entry, protocol.Serves request response entry →
      request = requestOf entry ∧ response = responseTo entry) :
    Keeps protocol.logged
      (fun served client => protocol.LogOf responseTo initial (served.map Logged.value)
        client.value client.received)
      (fun served entry => protocol.LogOf responseTo initial (served.map Logged.value)
        (requestOf entry.value) entry.received) where
  mono served entry client h :=
    ⟨fun other hother => List.mem_cons_of_mem _ (h.served other hother), h.state_eq⟩
  good := by
    rintro served request response ⟨entry, received⟩ h ⟨hserves, -, rfl⟩
    obtain ⟨hrequest, -⟩ := htells _ _ _ hserves
    rw [← hrequest]
    exact h
  receive := by
    rintro served request ⟨response, answered⟩ ⟨entry, received⟩ - ⟨hserves, hanswered, -⟩ later
      client h
    obtain rfl : answered = entry := hanswered
    obtain rfl : response = responseTo answered := (htells _ _ _ hserves).2
    refine ⟨?_, ?_⟩
    · intro other hother
      rcases List.mem_append.mp hother with hother | hother
      · exact h.served other hother
      · rw [List.mem_singleton.mp hother]
        simp
    · rw [Protocol.logged, Protocol.after_concat, ← h.state_eq]

end Logs

/-! ### Erasing what changes no state -/

section Erase

variable {S R E : Type*}

/-- The protocol, as far as it serves entries of a kind. -/
def Protocol.restrict (protocol : Protocol S R E) (P : E → Prop) : Protocol S R E where
  receive := protocol.receive
  Serves request response entry := protocol.Serves request response entry ∧ P entry

variable (protocol : Protocol S R E)

/-- Responses without some of those that change no state. -/
inductive Erased : List R → List R → Prop
  | nil : Erased [] []
  | keep (response : R) {responses responses' : List R} (h : Erased responses responses') :
      Erased (response :: responses) (response :: responses')
  | erase {response : R} (hidle : ∀ state, protocol.receive state response = state)
      {responses responses' : List R} (h : Erased responses responses') :
      Erased (response :: responses) responses'

variable {protocol}

/-- A response that is taken out was kept, or it changes no state. -/
theorem Erased.of_append {before after responses : List R} {response : R}
    (h : Erased protocol (before ++ response :: after) responses) :
    (∃ before' after', responses = before' ++ response :: after' ∧
        Erased protocol (before ++ after) (before' ++ after')) ∨
      ((∀ state, protocol.receive state response = state) ∧
        Erased protocol (before ++ after) responses) := by
  induction before generalizing responses with
  | nil =>
      cases h with
      | keep _ h => exact .inl ⟨[], _, rfl, h⟩
      | erase hidle h => exact .inr ⟨hidle, h⟩
  | cons first before ih =>
      cases h with
      | keep _ h =>
          rcases ih h with ⟨before', after', rfl, hkept⟩ | ⟨hidle, herased⟩
          · exact .inl ⟨first :: before', after', rfl, .keep first hkept⟩
          · exact .inr ⟨hidle, .keep first herased⟩
      | erase hfirst h =>
          rcases ih h with ⟨before', after', rfl, hkept⟩ | ⟨hidle, herased⟩
          · exact .inl ⟨before', after', rfl, .erase hfirst hkept⟩
          · exact .inr ⟨hidle, .erase hfirst herased⟩

/-- If the responses to all other entries change no state, then a client of which only the entries
of a kind are served gets as far, with the same state and the same requests under way. -/
theorem Reachable.erase {P : E → Prop} [DecidablePred P] {initial : S} {s : Network S R E}
    (hidle : ∀ s, Reachable protocol initial s → ∀ request ∈ s.requests, ∀ response entry,
      protocol.Serves request response entry → ¬ P entry →
        ∀ state, protocol.receive state response = state)
    (h : Reachable protocol initial s) :
    ∃ responses, Erased protocol s.responses responses ∧
      Reachable (protocol.restrict P) initial { s with
        responses := responses
        served := s.served.filter fun entry => decide (P entry) } := by
  induction h with
  | refl => exact ⟨[], .nil, .refl⟩
  | @tail s s' hreach hstep ih =>
      obtain ⟨responses, herased, hreach'⟩ := ih
      cases hstep with
      | send => exact ⟨responses, herased, hreach'.tail (.send _)⟩
      | serve before after request response entry hrequest hserves =>
          by_cases hP : P entry
          · refine ⟨response :: responses, .keep response herased, ?_⟩
            simp only [List.filter_cons, decide_eq_true hP, if_true]
            exact hreach'.tail (.serve _ before after request response entry hrequest
              ⟨hserves, hP⟩)
          · have hresponse := hidle s hreach request (by rw [hrequest]; simp) response entry
              hserves hP
            refine ⟨responses, .erase hresponse herased, ?_⟩
            simp only [List.filter_cons, decide_eq_false hP, Bool.false_eq_true, if_false]
            exact hreach'.tail (.loseRequest _ before after request hrequest)
      | deliver before after response hresponse =>
          rw [hresponse] at herased
          rcases herased.of_append with ⟨before', after', rfl, hkept⟩ | ⟨hsame, herased⟩
          · exact ⟨before' ++ after', hkept, hreach'.tail (.deliver _ before' after' response rfl)⟩
          · simp only [hsame]
            exact ⟨responses, herased, hreach'⟩
      | loseRequest before after request hrequest =>
          exact ⟨responses, herased,
            hreach'.tail (.loseRequest _ before after request hrequest)⟩
      | loseResponse before after response hresponse =>
          rw [hresponse] at herased
          rcases herased.of_append with ⟨before', after', rfl, hkept⟩ | ⟨-, herased⟩
          · exact ⟨before' ++ after', hkept,
              hreach'.tail (.loseResponse _ before' after' response rfl)⟩
          · exact ⟨responses, herased, hreach'⟩

end Erase

end Snapshots
