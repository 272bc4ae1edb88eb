import PipelinedClient.Proofs.Steps
import PipelinedClient.Proofs.Transmission

/-! The books kept on what happens agree with the queues of the connection.

What is pending is what was queued and has not left, and the sinks that wait are
those of the requests that the transport took and no summary has answered. Each step
keeps the agreement, so it holds at every moment of every run.
-/

set_option autoImplicit false

namespace PipelinedClient

structure Aligned {σ κ : Type} (connection : Connection σ κ) (ledger : Ledger κ) : Prop where
  pending : connection.pending = ledger.queued.map Entry.message
  unsent : connection.dispatcher.unsent = ledger.queued.map Entry.sink
  sent : connection.dispatcher.sent = ledger.outstanding.map Entry.sink
  closed : ledger.closed = connection.closed
  answered : ledger.answered ≤ ledger.taken.length

namespace Aligned

variable {σ κ : Type} {connection : Connection σ κ} {ledger : Ledger κ}

theorem fresh (transport : σ) (debugEnabled legacyNames : Bool) :
    Aligned (.fresh transport debugEnabled legacyNames : Connection σ κ) .empty where
  pending := rfl
  unsent := rfl
  sent := rfl
  closed := rfl
  answered := Nat.le_refl 0

theorem paired (aligned : Aligned connection ledger) : connection.Paired := by
  rw [Connection.Paired, aligned.unsent, aligned.pending, List.length_map, List.length_map]

theorem waiting (aligned : Aligned connection ledger) :
    connection.waiting = ledger.outstanding.length := by
  rw [Connection.waiting, ← connection.dispatcher.length_sent, aligned.sent, List.length_map]

theorem outstanding_of_open (aligned : Aligned connection ledger)
    (isOpen : connection.closed = false) :
    ledger.outstanding = ledger.taken.drop ledger.answered := by
  rw [Ledger.outstanding, aligned.closed, isOpen, if_neg Bool.false_ne_true]

theorem enqueue (aligned : Aligned connection ledger) (message : Message) (sink : Sink κ) :
    Aligned (connection.enqueue message sink) (ledger.observe (.queued message sink)) := by
  obtain ⟨sent, unsent⟩ := connection.dispatcher.append_queues sink
  refine ⟨?_, unsent.trans ?_, sent.trans aligned.sent, aligned.closed, aligned.answered⟩
  · simp [Connection.enqueue, Ledger.observe, aligned.pending]
  · simp [Ledger.observe, aligned.unsent]

theorem drop_pending (aligned : Aligned connection ledger) {after : Connection σ κ}
    (pending : after.pending = []) (unsent : after.dispatcher.unsent = [])
    (sent : after.dispatcher.sent = connection.dispatcher.sent)
    (closed : after.closed = connection.closed) :
    Aligned after (ledger.follow connection.dropping) := by
  have all : ledger.queued.drop connection.pending.length = [] := by
    rw [aligned.pending, List.length_map, List.drop_length]
  rw [Connection.dropping, Ledger.follow_dropped, all]
  exact ⟨pending, unsent, sent.trans aligned.sent, aligned.closed.trans closed.symm,
    aligned.answered⟩

theorem refuseWrite (aligned : Aligned connection ledger) :
    Aligned connection.refuseWrite.connection (ledger.follow connection.dropping) := by
  obtain ⟨sent, unsent⟩ := Connection.refuseWrite_queues aligned.paired
  exact aligned.drop_pending rfl unsent sent rfl

theorem forget (aligned : Aligned connection ledger) (isClosed : connection.closed = true) :
    Aligned connection.forget (ledger.follow connection.dropping) := by
  have idle : ledger.outstanding = [] := by
    rw [Ledger.outstanding, aligned.closed, isClosed, if_pos rfl]
  refine aligned.drop_pending rfl rfl ?_ rfl
  rw [aligned.sent, idle]
  rfl

theorem arrive (aligned : Aligned connection ledger) (isOpen : connection.closed = false)
    (response : Response) (after : σ) :
    Aligned
      { connection with
        transport := after
        dispatcher := connection.dispatcher.accept response }
      (ledger.observe (.arrived response connection.waiting)) := by
  obtain ⟨sent, unsent⟩ := connection.dispatcher.accept_queues response
  have waiting := aligned.waiting
  have outstanding := aligned.outstanding_of_open isOpen
  -- With nothing waiting the response is nobody's, and the books leave it out.
  cases count : connection.waiting with
  | zero =>
    have idle : connection.dispatcher.sent = [] := by
      rw [← List.length_eq_zero_iff, connection.dispatcher.length_sent]
      exact count
    refine ⟨aligned.pending, unsent.trans aligned.unsent, ?_, aligned.closed, aligned.answered⟩
    rw [sent, idle, List.tail_nil, ite_self, ← idle]
    exact aligned.sent
  | succ rest =>
    by_cases ends : response.isSummary
    · have more : ledger.answered < ledger.taken.length := by
        rw [count, outstanding, List.length_drop] at waiting
        omega
      simp only [Ledger.observe, ends, if_true]
      refine ⟨aligned.pending, unsent.trans aligned.unsent, ?_, aligned.closed, more⟩
      rw [sent, if_pos ends, aligned.sent, outstanding, Ledger.outstanding, aligned.closed, isOpen,
        if_neg Bool.false_ne_true, ← List.map_tail, List.tail_drop]
    · simp only [Ledger.observe, ends, Bool.false_eq_true, if_false]
      refine ⟨aligned.pending, unsent.trans aligned.unsent, ?_, aligned.closed, aligned.answered⟩
      rw [sent, if_neg ends]
      exact aligned.sent

variable [Transport σ]

theorem close (aligned : Aligned connection ledger) (isOpen : connection.closed = false) :
    Aligned connection.close.connection (ledger.follow connection.close.trace) := by
  have all : ledger.queued.drop connection.pending.length = [] := by
    rw [aligned.pending, List.length_map, List.drop_length]
  simp only [Connection.close, isOpen, Bool.false_eq_true, if_false, Ledger.follow_cons,
    Connection.dropping, Ledger.follow_dropped, Ledger.observe, all]
  exact ⟨rfl, rfl, rfl, rfl, aligned.answered⟩

theorem transmit (aligned : Aligned connection ledger) (isOpen : connection.closed = false)
    {taken unsent : List Message} {failure : Option IoError}
    (transmits : connection.Transmits taken unsent failure) :
    ledger.follow connection.transmit.trace =
        { ledger with
          queued := []
          taken := ledger.taken ++ ledger.queued.take taken.length } ∧
      Aligned connection.transmit.connection (ledger.follow connection.transmit.trace) := by
  have length : ledger.queued.length = taken.length + unsent.length := by
    rw [← List.length_append, ← transmits.pending, aligned.pending, List.length_map]
  -- The books enter what was taken and then what was dropped, which is all that was queued.
  have books : ledger.follow connection.transmit.trace =
      { ledger with
        queued := []
        taken := ledger.taken ++ ledger.queued.take taken.length } := by
    rw [transmits.trace, List.append_assoc, Ledger.follow_append,
      Ledger.follow_onlyLogs _ connection.onlyDebug_announced.onlyLogs, List.cons_append,
      Ledger.follow_cons, Ledger.follow_append, Ledger.follow_append,
      Ledger.follow_onlyLogs _ (connection.onlyDebug_sendReport _ _).onlyLogs]
    simp only [Ledger.observe, Ledger.follow_taken, Ledger.follow_dropped, List.drop_drop]
    rw [← length, List.drop_length]
  obtain ⟨sent, none⟩ := transmits.queues aligned.paired
  refine ⟨books, ?_⟩
  rw [books]
  refine ⟨?_, none, ?_, ?_, ?_⟩
  · rw [transmits.after]
    rfl
  · rw [sent, aligned.sent, aligned.unsent, ← List.map_take, ← List.map_append]
    simp only [Ledger.outstanding, aligned.closed, isOpen, Bool.false_eq_true, if_false]
    rw [List.drop_append_of_le_length aligned.answered]
  · rw [transmits.after]
    exact aligned.closed
  · rw [List.length_append]
    exact Nat.le_add_right_of_le aligned.answered

end Aligned

/-- The trace tells of the messages taken and of the answers dealt out. -/
structure Faithful {κ : Type} (trace : Trace κ) : Prop where
  messages : trace.messages = (Ledger.ofTrace trace).taken.map Entry.message
  deliveries :
    trace.deliveries = deal ((Ledger.ofTrace trace).taken.map Entry.sink) trace.answers
  served : trace.deliveries.length = trace.answers.length

namespace Faithful

variable {κ : Type} {past shown : Trace κ}

theorem nil : Faithful ([] : Trace κ) := ⟨rfl, rfl, rfl⟩

/-- More was taken: it comes behind, and gets none of the answers so far. -/
theorem taking (faithful : Faithful past) (more : List (Entry κ))
    (taken : ((Ledger.ofTrace past).follow shown).taken = (Ledger.ofTrace past).taken ++ more)
    (messages : shown.messages = more.map Entry.message) (deliveries : shown.deliveries = [])
    (answers : shown.answers = []) : Faithful (past ++ shown) := by
  refine ⟨?_, ?_, ?_⟩
  · rw [Trace.messages_append, messages, Ledger.ofTrace_append, taken, List.map_append,
      faithful.messages]
  · rw [Trace.deliveries_append, deliveries, Trace.answers_append, answers, List.append_nil,
      List.append_nil, Ledger.ofTrace_append, taken, List.map_append, deal_append_left]
    · exact faithful.deliveries
    · rw [← faithful.deliveries]
      exact faithful.served
  · rw [Trace.deliveries_append, deliveries, Trace.answers_append, answers, List.append_nil,
      List.append_nil]
    exact faithful.served

theorem idle (faithful : Faithful past)
    (taken : ((Ledger.ofTrace past).follow shown).taken = (Ledger.ofTrace past).taken)
    (messages : shown.messages = []) (deliveries : shown.deliveries = [])
    (answers : shown.answers = []) : Faithful (past ++ shown) :=
  faithful.taking [] (by rw [taken, List.append_nil]) messages deliveries answers

theorem answering (faithful : Faithful past) (response : Response) (sink : Sink κ)
    (taken : ((Ledger.ofTrace past).follow shown).taken = (Ledger.ofTrace past).taken)
    (next : ((Ledger.ofTrace past).taken.map Entry.sink)[(Ledger.ofTrace past).answered]? =
      some sink)
    (messages : shown.messages = [])
    (deliveries : shown.deliveries = [(sink, .ofResponse response)])
    (answers : shown.answers = [response]) : Faithful (past ++ shown) := by
  refine ⟨?_, ?_, ?_⟩
  · rw [Trace.messages_append, messages, List.append_nil, Ledger.ofTrace_append, taken]
    exact faithful.messages
  · rw [Trace.deliveries_append, deliveries, Trace.answers_append, answers, Ledger.ofTrace_append,
      taken, deal_concat _ _ response sink]
    · rw [faithful.deliveries]
    · rw [Ledger.answered_ofTrace] at next
      exact next
    · rw [← faithful.deliveries]
      exact faithful.served
  · rw [Trace.deliveries_append, deliveries, Trace.answers_append, answers, List.length_append,
      List.length_append, faithful.served]
    rfl

end Faithful

section

variable {κ : Type} (dispatcher : Dispatcher κ) (response : Response)

theorem messages_reaction : (dispatcher.reaction response).messages = [] :=
  dispatcher.filterMap_reaction response (fun _ => rfl) fun _ _ => rfl

theorem answers_reaction : (dispatcher.reaction response).answers = [] :=
  dispatcher.filterMap_reaction response (fun _ => rfl) fun _ _ => rfl

theorem deliveries_reaction :
    (dispatcher.reaction response).deliveries =
      (dispatcher.sent.head?.map fun sink => (sink, Signal.ofResponse response)).toList := by
  rw [← dispatcher.oldest?_eq_head?]
  unfold Dispatcher.reaction
  split <;> split <;> rename_i oldest <;> rw [oldest] <;> rfl

theorem follow_reaction (ledger : Ledger κ) :
    ledger.follow (dispatcher.reaction response) = ledger := by
  unfold Dispatcher.reaction
  split <;> split <;> rfl

end

/-- Books, queues and trace agree at some moment. -/
structure Accounted {σ κ : Type} (connection : Connection σ κ) (trace : Trace κ) : Prop where
  aligned : Aligned connection (Ledger.ofTrace trace)
  faithful : Faithful trace

namespace Accounted

variable {σ κ : Type} {before after : Connection σ κ} {past shown : Trace κ}

theorem fresh (transport : σ) (debugEnabled legacyNames : Bool) :
    Accounted (.fresh transport debugEnabled legacyNames : Connection σ κ) [] :=
  ⟨.fresh transport debugEnabled legacyNames, .nil⟩

theorem quiet (accounted : Accounted before past)
    (books : (Ledger.ofTrace past).follow shown = Ledger.ofTrace past)
    (messages : shown.messages = []) (deliveries : shown.deliveries = [])
    (answers : shown.answers = []) (pending : after.pending = before.pending)
    (sent : after.dispatcher.sent = before.dispatcher.sent)
    (unsent : after.dispatcher.unsent = before.dispatcher.unsent)
    (closed : after.closed = before.closed) : Accounted after (past ++ shown) := by
  obtain ⟨aligned, faithful⟩ := accounted
  refine ⟨?_, faithful.idle (by rw [books]) messages deliveries answers⟩
  rw [Ledger.ofTrace_append, books]
  exact ⟨pending.trans aligned.pending, unsent.trans aligned.unsent, sent.trans aligned.sent,
    aligned.closed.trans closed.symm, aligned.answered⟩

theorem dropping (accounted : Accounted before past)
    (aligned : Aligned after ((Ledger.ofTrace past).follow before.dropping)) :
    Accounted after (past ++ before.dropping) := by
  rw [← Ledger.ofTrace_append] at aligned
  refine ⟨aligned, accounted.faithful.idle ?_ ?_ ?_ ?_⟩
  · rw [Connection.dropping, Ledger.follow_dropped]
  all_goals exact Trace.filterMap_dropped _ fun _ => rfl

theorem arrive (accounted : Accounted before past) (isOpen : before.closed = false)
    (response : Response) (transport : σ) :
    Accounted
      { before with
        transport := transport
        dispatcher := before.dispatcher.accept response }
      (past ++ .arrived response before.waiting :: before.dispatcher.reaction response) := by
  obtain ⟨aligned, faithful⟩ := accounted
  have books : (Ledger.ofTrace past).follow
      (.arrived response before.waiting :: before.dispatcher.reaction response) =
        (Ledger.ofTrace past).observe (.arrived response before.waiting) := by
    rw [Ledger.follow_cons, follow_reaction]
  have taken : ((Ledger.ofTrace past).observe (.arrived response before.waiting)).taken =
      (Ledger.ofTrace past).taken := by
    cases before.waiting with
    | zero => rfl
    | succ rest =>
      simp only [Ledger.observe]
      split <;> rfl
  have messages : Trace.messages
      (.arrived response before.waiting :: before.dispatcher.reaction response) = [] :=
    messages_reaction before.dispatcher response
  have deliveries : Trace.deliveries
      (.arrived response before.waiting :: before.dispatcher.reaction response) =
        (before.dispatcher.sent.head?.map fun sink => (sink, Signal.ofResponse response)).toList :=
    deliveries_reaction before.dispatcher response
  refine ⟨?_, ?_⟩
  · rw [Ledger.ofTrace_append, books]
    exact aligned.arrive isOpen response transport
  · have sent := aligned.sent
    rw [aligned.outstanding_of_open isOpen] at sent
    cases waits : before.dispatcher.sent with
    | nil =>
      have idle : before.waiting = 0 := by
        rw [Connection.waiting, ← before.dispatcher.length_sent, waits, List.length_nil]
      rw [waits] at deliveries
      refine faithful.idle (by rw [books, taken]) messages deliveries ?_
      rw [idle]
      exact answers_reaction before.dispatcher response
    | cons sink rest =>
      have count : before.waiting = rest.length + 1 := by
        rw [Connection.waiting, ← before.dispatcher.length_sent, waits, List.length_cons]
      rw [waits] at deliveries
      refine faithful.answering response sink (by rw [books, taken]) ?_ messages deliveries ?_
      · rw [← Nat.add_zero (Ledger.ofTrace past).answered, ← List.getElem?_drop, ← List.map_drop,
          ← sent, waits, List.getElem?_cons_zero]
      · rw [count]
        exact congrArg (response :: ·) (answers_reaction before.dispatcher response)

variable [Transport σ]

theorem close (accounted : Accounted before past) (isOpen : before.closed = false) :
    Accounted before.close.connection (past ++ before.close.trace) := by
  have aligned := accounted.aligned.close isOpen
  have shown := Connection.trace_close isOpen
  rw [← Ledger.ofTrace_append] at aligned
  refine ⟨aligned, accounted.faithful.idle ?_ ?_ ?_ ?_⟩
  · rw [shown, Ledger.follow_cons, Connection.dropping, Ledger.follow_dropped]
    rfl
  all_goals
    rw [shown]
    exact Trace.filterMap_dropped _ fun _ => rfl

theorem transmit (accounted : Accounted before past) (isOpen : before.closed = false) :
    Accounted before.transmit.connection (past ++ before.transmit.trace) := by
  obtain ⟨taken, unsent, failure, transmits⟩ := before.transmit_transmits
  obtain ⟨books, aligned⟩ := accounted.aligned.transmit isOpen transmits
  -- The transport took a front part of what is pending, hence of what the books have queued.
  have front : ((Ledger.ofTrace past).queued.take taken.length).map Entry.message = taken := by
    rw [List.map_take, ← accounted.aligned.pending, transmits.pending, List.take_left]
  refine ⟨?_, accounted.faithful.taking ((Ledger.ofTrace past).queued.take taken.length)
    ?_ ?_ ?_ ?_⟩
  · rwa [Ledger.ofTrace_append]
  · rw [books]
  · rw [transmits.messages_trace, front]
  all_goals
    exact transmits.filterMap_trace_eq_nil (fun _ => rfl) rfl (fun _ => rfl) fun _ => rfl

theorem step (accounted : Accounted before past) (step : before.Step shown after) :
    Accounted after (past ++ shown) := by
  cases step with
  | log line => exact accounted.quiet rfl rfl rfl rfl rfl rfl rfl rfl
  | ask isOpen reads =>
    obtain rfl | rfl := reads <;> exact accounted.quiet rfl rfl rfl rfl rfl rfl rfl rfl
  | enqueue message sink =>
    have aligned := accounted.aligned.enqueue message sink
    exact ⟨by rwa [Ledger.ofTrace_append], accounted.faithful.idle rfl rfl rfl rfl⟩
  | transmit isOpen writable something => exact accounted.transmit isOpen
  | refuseWrite isOpen failed => exact accounted.dropping accounted.aligned.refuseWrite
  | fail isOpen read => exact accounted.quiet rfl rfl rfl rfl rfl rfl rfl rfl
  | arrive isOpen read => exact accounted.arrive isOpen _ _
  | surface => exact accounted.quiet rfl rfl rfl rfl rfl rfl rfl rfl
  | forget isClosed => exact accounted.dropping (accounted.aligned.forget isClosed)
  | close isOpen => exact accounted.close isOpen

theorem steps {first last : Connection σ κ} {trace : Trace κ} (accounted : Accounted first past)
    (steps : first.Steps trace last) : Accounted last (past ++ trace) :=
  steps.carry step accounted

theorem run (transport : σ) (debugEnabled legacyNames : Bool) (operations : List (Operation κ)) :
    let start : Connection σ κ := .fresh transport debugEnabled legacyNames
    Accounted (start.runFrom operations) (start.traceOf operations) :=
  (fresh transport debugEnabled legacyNames).steps (Connection.run_steps _ operations)

end Accounted

end PipelinedClient
