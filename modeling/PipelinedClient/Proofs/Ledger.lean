import PipelinedClient.Event

/-! Books kept on a connection by someone who sees only what happens.

Requests are entered as they are queued, with the sink of their answer, and leave in
that order: the transport takes them, or they are dropped. Responses that arrive
while requests wait are answers, and are dealt out to the requests in the order in
which the transport took these.
-/

set_option autoImplicit false

namespace PipelinedClient

structure Entry (κ : Type) where
  message : Message
  sink : Sink κ
  deriving DecidableEq

def Entry.event {κ : Type} (entry : Entry κ) : Event κ := .queued entry.message entry.sink

namespace Event

variable {κ : Type}

def delivery? : Event κ → Option (Sink κ × Signal)
  | .signalled sink signal => some (sink, signal)
  | _ => none

def entry? : Event κ → Option (Entry κ)
  | .queued message sink => some ⟨message, sink⟩
  | _ => none

def answer? : Event κ → Option Response
  | .arrived response (_ + 1) => some response
  | _ => none

end Event

namespace Trace

variable {κ : Type}

def deliveries (trace : Trace κ) : List (Sink κ × Signal) := trace.filterMap Event.delivery?

def entries (trace : Trace κ) : List (Entry κ) := trace.filterMap Event.entry?

def answers (trace : Trace κ) : List Response := trace.filterMap Event.answer?

def summaries (trace : Trace κ) : List Response := trace.answers.filter Response.isSummary

theorem messages_append (first rest : Trace κ) :
    (first ++ rest).messages = first.messages ++ rest.messages := List.filterMap_append

theorem deliveries_append (first rest : Trace κ) :
    (first ++ rest).deliveries = first.deliveries ++ rest.deliveries := List.filterMap_append

theorem answers_append (first rest : Trace κ) :
    (first ++ rest).answers = first.answers ++ rest.answers := List.filterMap_append

theorem entries_append (first rest : Trace κ) :
    (first ++ rest).entries = first.entries ++ rest.entries := List.filterMap_append

def OnlyLogs (trace : Trace κ) : Prop := ∀ event ∈ trace, ∃ line, event = .logged line

namespace OnlyLogs

theorem nil : OnlyLogs ([] : Trace κ) := by
  intro event member
  cases member

theorem single (line : LogLine) : OnlyLogs ([.logged line] : Trace κ) := by
  intro event member
  exact ⟨line, List.mem_singleton.mp member⟩

theorem ofLines (lines : List LogLine) : OnlyLogs (Trace.ofLines lines : Trace κ) := by
  intro event member
  obtain ⟨line, _, same⟩ := List.mem_map.mp member
  exact ⟨line, same.symm⟩

theorem filterMap_eq_nil {α : Type} {find : Event κ → Option α} {trace : Trace κ}
    (logs : OnlyLogs trace) (blind : ∀ line, find (.logged line) = none) :
    trace.filterMap find = [] := by
  rw [List.filterMap_eq_nil_iff]
  intro event member
  obtain ⟨line, rfl⟩ := logs event member
  exact blind line

end OnlyLogs

def OnlyDebug (trace : Trace κ) : Prop :=
  ∀ event ∈ trace, ∃ text, event = .logged (.line .debug text)

namespace OnlyDebug

theorem onlyLogs {trace : Trace κ} (debug : trace.OnlyDebug) : trace.OnlyLogs := by
  intro event member
  obtain ⟨text, same⟩ := debug event member
  exact ⟨_, same⟩

theorem filterMap_eq_nil {α : Type} {find : Event κ → Option α} {trace : Trace κ}
    (debug : trace.OnlyDebug) (blind : ∀ text, find (.logged (.line .debug text)) = none) :
    trace.filterMap find = [] := by
  rw [List.filterMap_eq_nil_iff]
  intro event member
  obtain ⟨text, rfl⟩ := debug event member
  exact blind text

end OnlyDebug

theorem filterMap_dropped {α : Type} {find : Event κ → Option α} (messages : List Message)
    (blind : ∀ message, find (.dropped message) = none) :
    (messages.map Event.dropped).filterMap find = [] := by
  rw [List.filterMap_map, List.filterMap_eq_nil_iff]
  intro message _
  exact blind message

end Trace

structure Ledger (κ : Type) where
  /-- Queued requests that have neither been taken nor dropped, oldest first. -/
  queued : List (Entry κ)
  taken : List (Entry κ)
  /-- How many summaries have been received for them. -/
  answered : Nat
  closed : Bool
  deriving DecidableEq

namespace Ledger

variable {κ : Type}

def empty : Ledger κ := ⟨[], [], 0, false⟩

/-- Requests taken that no summary has answered; closing ends the wait for all. -/
def outstanding (ledger : Ledger κ) : List (Entry κ) :=
  if ledger.closed then [] else ledger.taken.drop ledger.answered

def observe (ledger : Ledger κ) : Event κ → Ledger κ
  | .queued message sink => { ledger with queued := ledger.queued ++ [⟨message, sink⟩] }
  | .taken _ =>
    { ledger with
      queued := ledger.queued.drop 1
      taken := ledger.taken ++ ledger.queued.take 1 }
  -- What is dropped is all that is queued, or all that the transport left behind.
  | .dropped _ => { ledger with queued := ledger.queued.drop 1 }
  | .arrived response (_ + 1) =>
    if response.isSummary then { ledger with answered := ledger.answered + 1 } else ledger
  | .called .stop => { ledger with closed := true }
  | _ => ledger

def follow (ledger : Ledger κ) (trace : Trace κ) : Ledger κ := trace.foldl observe ledger

def ofTrace (trace : Trace κ) : Ledger κ := empty.follow trace

theorem follow_append (ledger : Ledger κ) (first rest : Trace κ) :
    ledger.follow (first ++ rest) = (ledger.follow first).follow rest :=
  List.foldl_append

theorem ofTrace_append (first rest : Trace κ) :
    ofTrace (first ++ rest) = (ofTrace first).follow rest :=
  follow_append empty first rest

theorem follow_cons (ledger : Ledger κ) (event : Event κ) (rest : Trace κ) :
    ledger.follow (event :: rest) = (ledger.observe event).follow rest := rfl

theorem follow_onlyLogs (ledger : Ledger κ) {trace : Trace κ} (logs : trace.OnlyLogs) :
    ledger.follow trace = ledger := by
  induction trace with
  | nil => rfl
  | cons event rest ih =>
    obtain ⟨line, rfl⟩ := logs event List.mem_cons_self
    exact ih fun other member => logs other (List.mem_cons_of_mem _ member)

theorem follow_taken (ledger : Ledger κ) (messages : List Message) :
    ledger.follow (messages.map Event.taken) =
      { ledger with
        queued := ledger.queued.drop messages.length
        taken := ledger.taken ++ ledger.queued.take messages.length } := by
  induction messages generalizing ledger with
  | nil => simp [follow]
  | cons message rest ih =>
    rw [List.map_cons, follow_cons, ih]
    simp only [observe, List.drop_drop, List.length_cons, List.append_assoc, mk.injEq, and_true,
      List.append_cancel_left_eq]
    refine ⟨by rw [Nat.add_comm], ?_⟩
    cases ledger.queued <;> simp

theorem taken_follow (ledger : Ledger κ) {trace : Trace κ} (none : trace.messages = []) :
    (ledger.follow trace).taken = ledger.taken := by
  induction trace generalizing ledger with
  | nil => rfl
  | cons event rest ih =>
    rw [follow_cons]
    cases event with
    | taken message => cases none
    | arrived response waiting =>
      rw [ih _ none]
      cases waiting with
      | zero => rfl
      | succ waiting =>
        simp only [observe]
        split <;> rfl
    | called call =>
      rw [ih _ none]
      cases call <;> rfl
    | _ => exact ih _ none

theorem follow_dropped (ledger : Ledger κ) (messages : List Message) :
    ledger.follow (messages.map Event.dropped) =
      { ledger with queued := ledger.queued.drop messages.length } := by
  induction messages generalizing ledger with
  | nil => simp [follow]
  | cons message rest ih =>
    rw [List.map_cons, follow_cons, ih]
    simp only [observe, List.drop_drop, List.length_cons, Nat.add_comm 1]

/-- What was taken and what is queued are requests that were queued, in that order and
each once. -/
theorem requests_sublist_entries (trace : Trace κ) :
    ((ofTrace trace).taken ++ (ofTrace trace).queued).Sublist trace.entries := by
  -- A request only ever moves from queued to taken or goes away, so the two lists together
  -- stay in the order of the entries.
  suffices general : ∀ (ledger : Ledger κ) (entries : List (Entry κ)),
      (ledger.taken ++ ledger.queued).Sublist entries →
      ((ledger.follow trace).taken ++ (ledger.follow trace).queued).Sublist
        (entries ++ trace.entries) from general empty [] (List.Sublist.refl [])
  induction trace with
  | nil =>
    intro ledger entries start
    rwa [Trace.entries, List.filterMap_nil, List.append_nil]
  | cons event rest ih =>
    intro ledger entries start
    rw [follow_cons]
    cases event with
    | queued message sink =>
      have next := ih (ledger.observe (.queued message sink)) (entries ++ [⟨message, sink⟩]) (by
        simp only [observe, ← List.append_assoc]
        exact start.append_right _)
      rwa [List.append_assoc] at next
    | taken message =>
      refine ih _ entries ?_
      simpa only [observe, List.append_assoc, List.take_append_drop] using start
    | dropped message =>
      refine ih _ entries (List.Sublist.trans ?_ start)
      exact (List.Sublist.refl _).append (List.drop_sublist 1 _)
    | arrived response waiting =>
      cases waiting with
      | zero => exact ih _ entries start
      | succ waiting =>
        refine ih _ entries ?_
        simp only [observe]
        split <;> exact start
    | called call => cases call <;> exact ih _ entries start
    | _ => exact ih _ entries start

theorem answered_ofTrace (trace : Trace κ) :
    (ofTrace trace).answered = trace.summaries.length := by
  suffices general : ∀ ledger : Ledger κ,
      (ledger.follow trace).answered = ledger.answered + trace.summaries.length by
    have start := general empty
    rwa [empty, Nat.zero_add] at start
  induction trace with
  | nil => intro ledger; rfl
  | cons event rest ih =>
    intro ledger
    rw [follow_cons, ih]
    cases event with
    | arrived response waiting =>
      cases waiting with
      | zero => rfl
      | succ waiting =>
        by_cases ends : response.isSummary
        · simp [observe, Trace.summaries, Trace.answers, Event.answer?, ends, Nat.add_assoc,
            Nat.add_comm 1]
        · simp [observe, Trace.summaries, Trace.answers, Event.answer?, ends]
    | called call => cases call <;> rfl
    | _ => rfl

end Ledger

/-- Responses dealt out: each sink gets all up to its summary, then the next one does. -/
def deal {κ : Type} : List (Sink κ) → List Response → List (Sink κ × Signal)
  | _, [] => []
  | [], _ :: _ => []
  | sink :: sinks, response :: rest =>
    (sink, .ofResponse response) ::
      deal (if response.isSummary then sinks else sink :: sinks) rest

section

variable {κ : Type}

theorem deal_append_left (sinks more : List (Sink κ)) (responses : List Response)
    (served : (deal sinks responses).length = responses.length) :
    deal (sinks ++ more) responses = deal sinks responses := by
  induction responses generalizing sinks with
  | nil => simp [deal]
  | cons response rest ih =>
    cases sinks with
    | nil => simp [deal] at served
    | cons sink sinks =>
      simp only [deal, List.length_cons, Nat.add_right_cancel_iff] at served
      rw [List.cons_append, deal, deal, ← ih _ served]
      split <;> rfl

theorem deal_append (sinks : List (Sink κ)) (front rest : List Response)
    (served : (deal sinks front).length = front.length) :
    deal sinks (front ++ rest) =
      deal sinks front ++ deal (sinks.drop (front.filter Response.isSummary).length) rest := by
  induction front generalizing sinks with
  | nil => rfl
  | cons response front ih =>
    cases sinks with
    | nil => simp [deal] at served
    | cons sink sinks =>
      simp only [deal, List.length_cons, Nat.add_right_cancel_iff] at served
      rw [List.cons_append, deal, deal, ih _ served, List.cons_append]
      by_cases ends : response.isSummary
      · simp [ends]
      · simp [ends]

theorem deal_concat (sinks : List (Sink κ)) (responses : List Response) (response : Response)
    (sink : Sink κ) (next : sinks[(responses.filter Response.isSummary).length]? = some sink)
    (served : (deal sinks responses).length = responses.length) :
    deal sinks (responses ++ [response]) =
      deal sinks responses ++ [(sink, .ofResponse response)] := by
  induction responses generalizing sinks with
  | nil =>
    cases sinks with
    | nil => simp at next
    | cons first sinks =>
      obtain rfl : first = sink := by simpa using next
      simp [deal]
  | cons first rest ih =>
    cases sinks with
    | nil => simp [deal] at served
    | cons owner sinks =>
      simp only [deal, List.length_cons, Nat.add_right_cancel_iff] at served
      rw [List.cons_append, deal, deal, List.cons_append]
      rw [ih _ ?_ served]
      by_cases ends : first.isSummary
      · simpa [List.filter_cons, ends] using next
      · simpa [List.filter_cons, ends] using next

/-- An answer goes to the sink with as many sinks before it as there were summaries. -/
theorem deal_getElem? (sinks : List (Sink κ)) (front : List Response) (response : Response)
    (rest : List Response)
    (served : (deal sinks (front ++ response :: rest)).length =
      (front ++ response :: rest).length) :
    ∃ sink, sinks[(front.filter Response.isSummary).length]? = some sink ∧
      (deal sinks (front ++ response :: rest))[front.length]? =
        some (sink, .ofResponse response) := by
  induction front generalizing sinks with
  | nil =>
    cases sinks with
    | nil => simp [deal] at served
    | cons sink sinks => exact ⟨sink, rfl, rfl⟩
  | cons first front ih =>
    cases sinks with
    | nil => simp [deal] at served
    | cons owner sinks =>
      simp only [List.cons_append, deal, List.length_cons, Nat.add_right_cancel_iff] at served
      obtain ⟨sink, found, delivered⟩ := ih _ served
      refine ⟨sink, ?_, by simpa [deal] using delivered⟩
      -- A summary takes the first sink away, any other response leaves it.
      by_cases ends : first.isSummary
      · simpa [List.filter_cons, ends] using found
      · simpa [List.filter_cons, ends] using found

@[simp] theorem isTerminal_ofResponse (response : Response) :
    (Signal.ofResponse response).isTerminal = response.isSummary := by
  cases response <;> rfl

theorem terminal_deal (sinks : List (Sink κ)) (responses : List Response) :
    (deal sinks responses).filter (fun delivery => delivery.2.isTerminal) =
      List.zipWith (fun sink summary => (sink, Signal.ofResponse summary)) sinks
        (responses.filter Response.isSummary) := by
  induction responses generalizing sinks with
  | nil => simp [deal]
  | cons response rest ih =>
    cases sinks with
    | nil => simp [deal]
    | cons sink sinks =>
      by_cases ends : response.isSummary
      · simp [deal, ends, ih]
      · simp [deal, ends, ih]

end

end PipelinedClient
