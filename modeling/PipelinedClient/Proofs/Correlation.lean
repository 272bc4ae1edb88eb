import PipelinedClient.Proofs.Accounting
import PipelinedClient.Proofs.Recovery

/-! Answers reach the requests that they belong to.

Every answer goes to the oldest request that was taken and has no summary yet, so the
summaries go one by one to the requests in the order in which the transport took them.
What holds of the queues at any moment makes the guards in the arithmetic of sending
idle: nothing underflows, and no minimum cuts anything off.
-/

set_option autoImplicit false

namespace PipelinedClient

variable {σ κ : Type} [Transport σ]

/-- In any run, every answer is delivered once, to the request with as many requests
taken before it as summaries came before the answer; so the summaries end the requests
one by one, in the order in which the transport took these. -/
theorem answers_follow_taken_requests (transport : σ) (debugEnabled legacyNames : Bool)
    (operations : List (Operation κ)) :
    let start : Connection σ κ := .fresh transport debugEnabled legacyNames
    let trace := start.traceOf operations
    let taken := (Ledger.ofTrace trace).taken
    taken.map Entry.message = trace.messages ∧
    taken.Sublist trace.entries ∧
    trace.deliveries.length = trace.answers.length ∧
    (∀ front response rest, trace.answers = front ++ response :: rest →
      ∃ entry, taken[(front.filter Response.isSummary).length]? = some entry ∧
        trace.deliveries[front.length]? = some (entry.sink, .ofResponse response)) ∧
    trace.summaries.length ≤ taken.length ∧
    trace.deliveries.filter (fun delivery => delivery.2.isTerminal) =
      List.zipWith (fun entry summary => (entry.sink, .ofResponse summary)) taken
        trace.summaries := by
  intro start trace taken
  obtain ⟨aligned, faithful⟩ := Accounted.run transport debugEnabled legacyNames operations
  have deliveries := faithful.deliveries
  have served := faithful.served
  have requests := Ledger.requests_sublist_entries trace
  refine ⟨faithful.messages.symm, (List.sublist_append_left _ _).trans requests, served, ?_, ?_, ?_⟩
  · intro front response rest split
    rw [deliveries, split] at served
    obtain ⟨sink, owner, delivered⟩ := deal_getElem? _ front response rest served
    rw [List.getElem?_map] at owner
    obtain ⟨entry, found, rfl⟩ := Option.map_eq_some_iff.mp owner
    refine ⟨entry, found, ?_⟩
    rw [deliveries, split]
    exact delivered
  · have answered := aligned.answered
    rwa [Ledger.answered_ofTrace] at answered
  · rw [deliveries, terminal_deal, List.zipWith_map_left]
    rfl

namespace Connection

/-- The guards in the arithmetic of sending cut nothing off, however many requests the
transport leaves. -/
structure Exact (connection : Connection σ κ) : Prop where
  taken : (Transport.sendAll connection.transport connection.pending).1.unsent.length ≤
    connection.pending.length
  subtraction : ∀ left ≤ connection.pending.length, left ≤ connection.dispatcher.sinks.length
  dropped : ∀ left ≤ connection.pending.length,
    min connection.dispatcher.inFlight (connection.dispatcher.sinks.length - left) =
      connection.dispatcher.inFlight
  marked : ∀ left ≤ connection.pending.length,
    let kept := connection.dispatcher.discardNewest left
    kept.inFlight + (connection.pending.length - left) = kept.sinks.length
  summed : ∀ greatest, connection.dispatcher.sinks.length ≤ greatest →
    ∀ left ≤ connection.pending.length,
      (connection.dispatcher.discardNewest left).inFlight + (connection.pending.length - left) ≤
        greatest

theorem Paired.exact {connection : Connection σ κ} (paired : connection.Paired) :
    connection.Exact := by
  -- All bounds come from one count: what waits and what is pending make up the queue.
  have length := connection.dispatcher.length_sinks
  rw [paired, Dispatcher.waiting] at length
  have marked : ∀ left ≤ connection.pending.length,
      (connection.dispatcher.discardNewest left).inFlight + (connection.pending.length - left) =
        (connection.dispatcher.discardNewest left).sinks.length := by
    intro left few
    simp only [Dispatcher.discardNewest, List.length_take]
    omega
  refine ⟨?_, ?_, ?_, marked, ?_⟩
  · exact (Transport.unsent_suffix connection.transport connection.pending).length_le
  · intro left few
    omega
  · intro left few
    omega
  · intro greatest fits left few
    rw [marked left few]
    exact Nat.le_trans (List.take_prefix _ connection.dispatcher.sinks).length_le fits

end Connection

/-- At the end of any run the sinks queued are those of the requests that were taken and
wait, oldest first, and behind them those of the pending requests; while the connection
is open, the requests that wait are as many as were taken less the summaries received.
Wherever the next operation enters sending, the arithmetic there is exact. -/
theorem queues_match_requests (transport : σ) (debugEnabled legacyNames : Bool)
    (operations : List (Operation κ)) :
    let start : Connection σ κ := .fresh transport debugEnabled legacyNames
    let trace := start.traceOf operations
    let ledger := Ledger.ofTrace trace
    let reached := start.runFrom operations
    reached.dispatcher.sinks.length = reached.waiting + reached.pendingCount ∧
    reached.dispatcher.sinks.take reached.waiting = ledger.outstanding.map Entry.sink ∧
    reached.dispatcher.sinks.drop reached.waiting = ledger.queued.map Entry.sink ∧
    reached.pending = ledger.queued.map Entry.message ∧
    ledger.taken.map Entry.message = trace.messages ∧
    (ledger.taken ++ ledger.queued).Sublist trace.entries ∧
    (reached.closed = false →
      ledger.outstanding = ledger.taken.drop trace.summaries.length ∧
      reached.waiting + trace.summaries.length = trace.messages.length) ∧
    (reached.closed = true → ledger.outstanding = [] ∧ reached.waiting = 0) ∧
    ∀ operation, ∀ entry ∈ reached.sendEntries operation, entry.Exact := by
  intro start trace ledger reached
  have accounted : Accounted reached trace :=
    Accounted.run transport debugEnabled legacyNames operations
  have aligned := accounted.aligned
  have messages : trace.messages = ledger.taken.map Entry.message := accounted.faithful.messages
  have answered : ledger.answered = trace.summaries.length := Ledger.answered_ofTrace trace
  refine ⟨?_, aligned.sent, aligned.unsent, aligned.pending, messages.symm,
    Ledger.requests_sublist_entries trace, ?_, ?_, ?_⟩
  · rw [reached.dispatcher.length_sinks, aligned.paired]
    rfl
  · intro isOpen
    have outstanding : ledger.outstanding = ledger.taken.drop ledger.answered :=
      aligned.outstanding_of_open isOpen
    have waiting : reached.waiting = ledger.outstanding.length := aligned.waiting
    have bound : ledger.answered ≤ ledger.taken.length := aligned.answered
    rw [outstanding, List.length_drop] at waiting
    rw [messages, List.length_map, outstanding, ← answered]
    exact ⟨rfl, by omega⟩
  · intro isClosed
    have idle : ledger.outstanding = [] := by
      rw [Ledger.outstanding, aligned.closed, isClosed, if_pos rfl]
    have waiting : reached.waiting = ledger.outstanding.length := aligned.waiting
    rw [idle] at waiting
    exact ⟨idle, waiting⟩
  · intro operation entry entered
    -- The books agree after every step, so also in the middle of an operation.
    obtain ⟨more, steps⟩ := Connection.sendEntries_steps entered
    exact (accounted.steps steps).aligned.paired.exact

end PipelinedClient
