import Mathlib.Data.List.DropRight
import PipelinedClient.Dispatcher.Command

/-! A dispatcher is two queues and a failure.

The sinks of sent requests stand in one queue and those of requests still to be sent in
another. A dispatcher has a single list and a count instead. Whatever commands it is given, in
any order and with counts of any size, it returns and sets off what the two queues do, and
the count tells where in the list the first queue ends.
-/

set_option autoImplicit false

namespace PipelinedClient

variable {κ : Type}

structure Queues (κ : Type) where
  /-- The sinks of sent requests that no summary has answered, oldest first. -/
  sent : List (Sink κ)
  /-- The sinks of requests not sent yet, oldest first. -/
  unsent : List (Sink κ)
  failure : Option ServerError

namespace Queues

def empty : Queues κ := ⟨[], [], none⟩

/-- Drop so many sinks at the end of the two queues, one behind the other. -/
def dropNewest (queues : Queues κ) (count : Nat) : Queues κ :=
  let kept := (queues.sent ++ queues.unsent).rdrop count
  { queues with
    sent := kept.take queues.sent.length
    unsent := kept.drop queues.sent.length }

/-- The oldest sink that waits is called, and leaves the queue if the response is a summary;
if none waits there is a warning. A failure is kept, whether or not anybody waits for it,
unless one is kept already. -/
def accept (logs : Bool) (queues : Queues κ) (response : Response) : Handled (Queues κ) κ :=
  let failure := queues.failure <|> response.reported?
  let noted : Trace κ :=
    if logs then [.logged (.line .debug ("S: " ++ response.display))] else []
  match queues.sent with
  | [] => ⟨none, { queues with failure := failure },
      noted ++ [.logged (.line .warn (response.name ++ " arrived with no request waiting for it"))]⟩
  | sink :: rest => ⟨none,
      { queues with
        sent := if response.isSummary then rest else sink :: rest
        failure := failure },
      noted ++ [.signalled sink (.ofResponse response)]⟩

def perform (logs : Bool) (queues : Queues κ) : Command κ → Handled (Queues κ) κ
  | .append sink => ⟨none, { queues with unsent := queues.unsent ++ [sink] }, []⟩
  | .markSent count => ⟨none,
      { queues with
        sent := queues.sent ++ queues.unsent.take count
        unsent := queues.unsent.drop count }, []⟩
  | .discardNewest count => ⟨none, queues.dropNewest count, []⟩
  | .accept response => queues.accept logs response
  | .takeFailure => ⟨queues.failure, { queues with failure := none }, []⟩
  | .clear => ⟨none, empty, []⟩

def history (logs : Bool) (queues : Queues κ) (commands : List (Command κ)) :
    List (Handled (Queues κ) κ) := Command.history (perform logs) queues commands

end Queues

namespace Dispatcher

def queues (dispatcher : Dispatcher κ) : Queues κ :=
  ⟨dispatcher.sent, dispatcher.unsent, dispatcher.failure⟩

/-- Dropping cuts the list at its end, and the count with it where the list gets shorter. -/
theorem queues_discardNewest (dispatcher : Dispatcher κ) (count : Nat) :
    (dispatcher.discardNewest count).queues = dispatcher.queues.dropNewest count := by
  have kept : (dispatcher.discardNewest count).sinks =
      (dispatcher.sent ++ dispatcher.unsent).rdrop count := by
    rw [dispatcher.sent_append_unsent, List.rdrop]
    rfl
  have length : (dispatcher.discardNewest count).inFlight =
      (((dispatcher.sent ++ dispatcher.unsent).rdrop count).take
        dispatcher.sent.length).length := by
    rw [← kept, List.length_take, dispatcher.length_sent]
    simp [discardNewest, waiting]
  obtain ⟨sent, unsent⟩ := sent_unsent_of_sinks _
    (kept.trans (List.take_append_drop dispatcher.sent.length _).symm) length
  rw [queues, sent, unsent]
  rfl

theorem queues_accept (dispatcher : Dispatcher κ) (response : Response) :
    (dispatcher.accept response).queues =
      (dispatcher.queues.accept dispatcher.logsResponses response).state := by
  obtain ⟨sent, unsent⟩ := dispatcher.accept_queues response
  have failure := dispatcher.failure_accept response
  simp only [queues, Queues.accept, sent, unsent, failure]
  cases dispatcher.sent <;> simp

theorem reaction_eq (dispatcher : Dispatcher κ) (response : Response) :
    dispatcher.reaction response =
      (dispatcher.queues.accept dispatcher.logsResponses response).trace := by
  simp only [reaction, queues, Queues.accept, oldest?_eq_head?]
  cases dispatcher.sent <;> rfl

end Dispatcher

/-- A command to a dispatcher comes to what it comes to with two queues. -/
structure Handled.Matches (logs : Bool) (handled : Handled (Dispatcher κ) κ)
    (model : Handled (Queues κ) κ) : Prop where
  returned : handled.returned = model.returned
  trace : handled.trace = model.trace
  sinks : handled.state.sinks = model.state.sent ++ model.state.unsent
  waiting : handled.state.waiting = model.state.sent.length
  bounded : handled.state.waiting ≤ handled.state.sinks.length
  failure : handled.state.failure = model.state.failure
  logs : handled.state.logsResponses = logs

theorem Handled.Matches.of_queues {logs : Bool} {handled : Handled (Dispatcher κ) κ}
    {model : Handled (Queues κ) κ} (returned : handled.returned = model.returned)
    (trace : handled.trace = model.trace) (state : handled.state.queues = model.state)
    (wanted : handled.state.logsResponses = logs) : handled.Matches logs model where
  returned := returned
  trace := trace
  sinks := by
    rw [← state]
    exact handled.state.sent_append_unsent.symm
  waiting := by
    rw [← state]
    exact handled.state.length_sent.symm
  bounded := handled.state.bounded
  failure := by
    rw [← state]
    rfl
  logs := wanted

theorem Handled.flatMap_trace {logs : Bool} {handled : List (Handled (Dispatcher κ) κ)}
    {models : List (Handled (Queues κ) κ)} (alike : List.Forall₂ (Matches logs) handled models) :
    handled.flatMap trace = models.flatMap trace := by
  induction alike with
  | nil => rfl
  | cons first _ ih => rw [List.flatMap_cons, List.flatMap_cons, first.trace, ih]

namespace Dispatcher

theorem queues_perform (dispatcher : Dispatcher κ) (command : Command κ) :
    (dispatcher.perform command).state.queues =
      (dispatcher.queues.perform dispatcher.logsResponses command).state := by
  cases command with
  | append sink =>
    obtain ⟨sent, unsent⟩ := dispatcher.append_queues sink
    simp only [perform, queues, Queues.perform, sent, unsent]
    rfl
  | markSent count =>
    obtain ⟨sent, unsent⟩ := dispatcher.markSent_queues count
    simp only [perform, queues, Queues.perform, sent, unsent]
    rfl
  | discardNewest count => exact dispatcher.queues_discardNewest count
  | accept response => exact dispatcher.queues_accept response
  | takeFailure => rfl
  | clear => rfl

theorem logsResponses_perform (dispatcher : Dispatcher κ) (command : Command κ) :
    (dispatcher.perform command).state.logsResponses = dispatcher.logsResponses := by
  cases command with
  | accept response => exact dispatcher.logsResponses_accept response
  | _ => rfl

theorem perform_matches (dispatcher : Dispatcher κ) (command : Command κ) :
    (dispatcher.perform command).Matches dispatcher.logsResponses
      (dispatcher.queues.perform dispatcher.logsResponses command) := by
  apply Handled.Matches.of_queues
  · cases command with
    | accept response =>
      simp only [perform, Queues.perform, Queues.accept]
      split <;> rfl
    | _ => rfl
  · cases command with
    | accept response => exact dispatcher.reaction_eq response
    | _ => rfl
  · exact dispatcher.queues_perform command
  · exact dispatcher.logsResponses_perform command

theorem history_matches (dispatcher : Dispatcher κ) (commands : List (Command κ)) :
    List.Forall₂ (Handled.Matches dispatcher.logsResponses) (dispatcher.history commands)
      (dispatcher.queues.history dispatcher.logsResponses commands) := by
  induction commands generalizing dispatcher with
  | nil => exact .nil
  | cons command rest ih =>
    -- The queues that the command leaves are those that it leaves of the queues.
    have later := ih (dispatcher.perform command).state
    rw [logsResponses_perform, queues_perform] at later
    exact .cons (dispatcher.perform_matches command) later

theorem traceOf_eq (dispatcher : Dispatcher κ) (commands : List (Command κ)) :
    dispatcher.traceOf commands =
      (dispatcher.queues.history dispatcher.logsResponses commands).flatMap Handled.trace :=
  Handled.flatMap_trace (dispatcher.history_matches commands)

end Dispatcher

/-- Whatever a dispatcher is told from the beginning, command by command it returns and sets
off what two queues do; its list is the two queues one behind the other, and as many wait as
there are in the first. -/
theorem dispatcher_refines_two_queues (logs : Bool) (commands : List (Command κ)) :
    List.Forall₂ (Handled.Matches logs) ((Dispatcher.empty logs).history commands)
      (Queues.empty.history logs commands) :=
  (Dispatcher.empty logs).history_matches commands

/-- Counts that are too large stop at the end of the list, and dropping goes on from the
requests not sent to those that wait. -/
example :
    let commands : List (Command Nat) :=
      [.append (.handle 1), .append (.handle 2), .append (.handle 3), .markSent 2,
        .discardNewest 2, .markSent 9, .accept (.failure "code" "text"), .accept .ignored]
    (((Dispatcher.empty false).history commands).map fun handled =>
      (handled.state.waiting, handled.state.sinks.length, handled.trace.length)) =
        [(0, 1, 0), (0, 2, 0), (0, 3, 0), (2, 3, 0), (1, 1, 0), (1, 1, 0), (0, 0, 1),
          (0, 0, 1)] := rfl

end PipelinedClient
