import PipelinedClient.Event

/-! Matching responses to requests.

The dispatcher queues the sink of every request, oldest first. A sink waits for
responses only once its request has been sent; responses belong to the oldest
sink that waits. The first failure reported is kept until it is taken.
-/

set_option autoImplicit false

namespace PipelinedClient

structure Dispatcher (κ : Type) where
  sinks : List (Sink κ)
  inFlight : Nat
  failure : Option ServerError
  logsResponses : Bool
  bounded : inFlight ≤ sinks.length
  deriving DecidableEq

namespace Dispatcher

variable {κ : Type}

def empty (logsResponses : Bool) : Dispatcher κ := ⟨[], 0, none, logsResponses, Nat.zero_le _⟩

def waiting (dispatcher : Dispatcher κ) : Nat := dispatcher.inFlight

def sent (dispatcher : Dispatcher κ) : List (Sink κ) := dispatcher.sinks.take dispatcher.inFlight

def unsent (dispatcher : Dispatcher κ) : List (Sink κ) :=
  dispatcher.sinks.drop dispatcher.inFlight

def hasFailure (dispatcher : Dispatcher κ) : Bool := dispatcher.failure.isSome

def append (dispatcher : Dispatcher κ) (sink : Sink κ) : Dispatcher κ :=
  { dispatcher with
    sinks := dispatcher.sinks ++ [sink]
    bounded := by
      have bounded := dispatcher.bounded
      rw [List.length_append, List.length_singleton]
      omega }

def markSent (dispatcher : Dispatcher κ) (count : Nat) : Dispatcher κ :=
  { dispatcher with
    inFlight := min (dispatcher.inFlight + count) dispatcher.sinks.length
    bounded := Nat.min_le_right _ _ }

def discardNewest (dispatcher : Dispatcher κ) (count : Nat) : Dispatcher κ :=
  let keep := dispatcher.sinks.length - count
  { dispatcher with
    sinks := dispatcher.sinks.take keep
    inFlight := min dispatcher.inFlight keep
    bounded := by
      rw [List.length_take, Nat.min_eq_left (Nat.sub_le _ _)]
      exact Nat.min_le_right _ _ }

def clear (dispatcher : Dispatcher κ) : Dispatcher κ :=
  { dispatcher with sinks := [], inFlight := 0, failure := none, bounded := Nat.zero_le _ }

def takeFailure (dispatcher : Dispatcher κ) : Option ServerError × Dispatcher κ :=
  (dispatcher.failure, { dispatcher with failure := none })

def oldest? (dispatcher : Dispatcher κ) : Option (Sink κ) :=
  if dispatcher.inFlight = 0 then none else dispatcher.sinks.head?

def advance (dispatcher : Dispatcher κ) (response : Response) : Dispatcher κ :=
  if response.isSummary && dispatcher.inFlight != 0 then
    { dispatcher with
      sinks := dispatcher.sinks.tail
      inFlight := dispatcher.inFlight - 1
      bounded := by
        have bounded := dispatcher.bounded
        rw [List.length_tail]
        omega }
  else dispatcher

/-- Keep the failure that a response reports, unless an earlier one is still kept. -/
def capture (dispatcher : Dispatcher κ) (response : Response) : Dispatcher κ :=
  { dispatcher with failure := dispatcher.failure <|> response.reported? }

def unsolicited (response : Response) : LogLine :=
  .line .warn (response.name ++ " arrived with no request waiting for it")

def reaction (dispatcher : Dispatcher κ) (response : Response) : Trace κ :=
  (if dispatcher.logsResponses then [.logged (.line .debug ("S: " ++ response.display))] else []) ++
    match dispatcher.oldest? with
    | some sink => [.signalled sink (Signal.ofResponse response)]
    | none => [.logged (unsolicited response)]

def accept (dispatcher : Dispatcher κ) (response : Response) : Dispatcher κ :=
  (dispatcher.advance response).capture response

def inspect (dispatcher : Dispatcher κ) : String :=
  Inspection.partialRecord "ResponseHandler"
    [("queued", toString dispatcher.sinks.length),
     ("in_flight", toString dispatcher.inFlight),
     ("error", Inspection.optional (dispatcher.failure.map ServerError.inspect)),
     ("log_responses", Inspection.boolean dispatcher.logsResponses)]

/-! What each operation does to the two queues that a dispatcher holds: the sinks of
sent requests in front, those of the others behind. -/

theorem sent_append_unsent (dispatcher : Dispatcher κ) :
    dispatcher.sent ++ dispatcher.unsent = dispatcher.sinks :=
  List.take_append_drop _ _

@[simp] theorem length_sent (dispatcher : Dispatcher κ) :
    dispatcher.sent.length = dispatcher.waiting := by
  rw [sent, List.length_take, waiting, Nat.min_eq_left dispatcher.bounded]

theorem length_sinks (dispatcher : Dispatcher κ) :
    dispatcher.sinks.length = dispatcher.waiting + dispatcher.unsent.length := by
  rw [← dispatcher.sent_append_unsent, List.length_append, dispatcher.length_sent]

/-- The queues are found by their lengths alone. -/
theorem sent_unsent_of_sinks (dispatcher : Dispatcher κ) {front rest : List (Sink κ)}
    (whole : dispatcher.sinks = front ++ rest) (length : dispatcher.inFlight = front.length) :
    dispatcher.sent = front ∧ dispatcher.unsent = rest := by
  rw [sent, unsent, whole, length]
  exact ⟨List.take_left, List.drop_left⟩

theorem append_queues (dispatcher : Dispatcher κ) (sink : Sink κ) :
    (dispatcher.append sink).sent = dispatcher.sent ∧
      (dispatcher.append sink).unsent = dispatcher.unsent ++ [sink] := by
  apply sent_unsent_of_sinks
  · rw [append, ← List.append_assoc, dispatcher.sent_append_unsent]
  · exact dispatcher.length_sent.symm

theorem markSent_queues (dispatcher : Dispatcher κ) (count : Nat) :
    (dispatcher.markSent count).sent = dispatcher.sent ++ dispatcher.unsent.take count ∧
      (dispatcher.markSent count).unsent = dispatcher.unsent.drop count := by
  apply sent_unsent_of_sinks
  · rw [List.append_assoc, List.take_append_drop, dispatcher.sent_append_unsent]
    rfl
  · have length := dispatcher.length_sinks
    rw [waiting] at length
    rw [List.length_append, List.length_take, dispatcher.length_sent, waiting]
    simp only [markSent]
    omega

/-- As long as no more is dropped than is unsent, what waits stays. -/
theorem discardNewest_queues (dispatcher : Dispatcher κ) (count : Nat)
    (unsent : count ≤ dispatcher.unsent.length) :
    (dispatcher.discardNewest count).sent = dispatcher.sent ∧
      (dispatcher.discardNewest count).unsent =
        dispatcher.unsent.take (dispatcher.unsent.length - count) := by
  have length := dispatcher.length_sinks
  apply sent_unsent_of_sinks
  · have keep : dispatcher.sinks.length - count =
        dispatcher.sent.length + (dispatcher.unsent.length - count) := by
      rw [dispatcher.length_sent]
      omega
    calc dispatcher.sinks.take (dispatcher.sinks.length - count)
        = (dispatcher.sent ++ dispatcher.unsent).take
            (dispatcher.sent.length + (dispatcher.unsent.length - count)) := by
          rw [keep, dispatcher.sent_append_unsent]
      _ = dispatcher.sent ++ dispatcher.unsent.take (dispatcher.unsent.length - count) :=
          List.take_length_add_append _
  · rw [waiting] at length
    rw [dispatcher.length_sent, waiting]
    simp only [discardNewest]
    omega

theorem filterMap_reaction (dispatcher : Dispatcher κ) (response : Response) {α : Type}
    {find : Event κ → Option α} (noLine : ∀ line, find (.logged line) = none)
    (noSignal : ∀ sink signal, find (.signalled sink signal) = none) :
    (dispatcher.reaction response).filterMap find = [] := by
  unfold reaction
  split <;> split <;> simp [noLine, noSignal]

theorem oldest?_eq_head? (dispatcher : Dispatcher κ) :
    dispatcher.oldest? = dispatcher.sent.head? := by
  rw [oldest?, sent, List.head?_take]

theorem oldest?_eq_none (dispatcher : Dispatcher κ) :
    dispatcher.oldest? = none ↔ dispatcher.waiting = 0 := by
  rw [oldest?_eq_head?, List.head?_eq_none_iff, ← List.length_eq_zero_iff, length_sent]

theorem accept_queues (dispatcher : Dispatcher κ) (response : Response) :
    (dispatcher.accept response).sent =
        (if response.isSummary then dispatcher.sent.tail else dispatcher.sent) ∧
      (dispatcher.accept response).unsent = dispatcher.unsent := by
  by_cases ends : response.isSummary
  · rw [if_pos ends]
    by_cases idle : dispatcher.inFlight = 0
    · simp [accept, capture, advance, ends, idle, sent, unsent]
    · have length : dispatcher.sent.length = dispatcher.inFlight := dispatcher.length_sent
      have waits : dispatcher.sent ≠ [] := by
        intro none
        rw [none] at length
        exact idle length.symm
      apply sent_unsent_of_sinks
      · rw [← List.tail_append_of_ne_nil waits, dispatcher.sent_append_unsent]
        simp [accept, capture, advance, ends, idle]
      · rw [List.length_tail, length]
        simp [accept, capture, advance, ends, idle]
  · simp [accept, capture, advance, ends, sent, unsent]

theorem failure_accept (dispatcher : Dispatcher κ) (response : Response) :
    (dispatcher.accept response).failure = (dispatcher.failure <|> response.reported?) := by
  simp only [accept, capture, advance]
  split <;> rfl

theorem logsResponses_accept (dispatcher : Dispatcher κ) (response : Response) :
    (dispatcher.accept response).logsResponses = dispatcher.logsResponses := by
  simp only [accept, capture, advance]
  split <;> rfl

theorem waiting_accept (dispatcher : Dispatcher κ) (response : Response) :
    (dispatcher.accept response).waiting =
      if response.isSummary then dispatcher.waiting - 1 else dispatcher.waiting := by
  rw [← length_sent, (dispatcher.accept_queues response).1]
  split <;> simp

end Dispatcher

end PipelinedClient
