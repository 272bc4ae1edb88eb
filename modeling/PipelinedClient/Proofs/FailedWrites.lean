import PipelinedClient.Proofs.Accounting
import PipelinedClient.Proofs.Recovery
import PipelinedClient.Transport.Scripted

/-! A write that fails, and what comes after it.

The send in which a write fails keeps the sinks of the requests that the transport
took and drops the others. From then on the transport is asked to send nothing more,
while reading goes on for the requests that wait.
-/

set_option autoImplicit false

namespace PipelinedClient

variable {σ κ : Type}

namespace Trace

theorem calls_append (first rest : Trace κ) :
    (first ++ rest).calls = first.calls ++ rest.calls := List.filterMap_append

end Trace

/-! Neither a response nor a request that is dropped calls the transport. -/

theorem Dispatcher.calls_arrival (dispatcher : Dispatcher κ) (response : Response)
    (waiting : Nat) :
    Trace.calls (.arrived response waiting :: dispatcher.reaction response) = [] :=
  dispatcher.filterMap_reaction response (fun _ => rfl) fun _ _ => rfl

theorem Connection.calls_dropping (connection : Connection σ κ) :
    connection.dropping.calls = [] := Trace.filterMap_dropped _ fun _ => rfl

theorem Connection.calls_close [Transport σ] {connection : Connection σ κ}
    (isOpen : connection.closed = false) : connection.close.trace.calls = [.stop] := by
  rw [Connection.trace_close isOpen]
  exact congrArg (TransportCall.stop :: ·) connection.calls_dropping

/-- As long as nothing more is taken, answers go to the requests that wait already. -/
theorem Accounted.untaken {first last : Connection σ κ} {past more : Trace κ}
    (before : Accounted first past) (after : Accounted last (past ++ more))
    (isOpen : first.closed = false) (none : more.messages = []) :
    more.deliveries = deal first.dispatcher.sent more.answers ∧
      more.deliveries.length = more.answers.length ∧
      (last.closed = false →
        last.dispatcher.sent = first.dispatcher.sent.drop more.summaries.length) := by
  have taken : (Ledger.ofTrace (past ++ more)).taken = (Ledger.ofTrace past).taken := by
    rw [Ledger.ofTrace_append, Ledger.taken_follow _ none]
  have waits : first.dispatcher.sent =
      ((Ledger.ofTrace past).taken.map Entry.sink).drop past.summaries.length := by
    rw [before.aligned.sent, before.aligned.outstanding_of_open isOpen, Ledger.answered_ofTrace,
      List.map_drop]
  have served := before.faithful.served
  have all := after.faithful.deliveries
  have lengths := after.faithful.served
  rw [Trace.deliveries_append, Trace.answers_append, List.length_append, List.length_append,
    served, Nat.add_left_cancel_iff] at lengths
  rw [before.faithful.deliveries] at served
  rw [Trace.deliveries_append, Trace.answers_append, taken, deal_append _ _ _ served,
    before.faithful.deliveries, List.append_cancel_left_eq] at all
  refine ⟨?_, lengths, ?_⟩
  · rw [waits]
    exact all
  · intro stillOpen
    rw [after.aligned.sent, after.aligned.outstanding_of_open stillOpen, taken,
      Ledger.answered_ofTrace, waits, List.drop_drop, List.map_drop, Trace.summaries,
      Trace.summaries, Trace.summaries, Trace.answers_append, List.filter_append,
      List.length_append]

namespace Connection

variable [Transport σ]

theorem Step.silent_of_failed {before after : Connection σ κ} {shown : Trace κ}
    (step : Step before shown after) (failed : before.writeFailed = true) :
    shown.messages = [] ∧ .sendAll ∉ shown.calls := by
  cases step with
  | transmit isOpen writable something =>
    rw [writable] at failed
    cases failed
  | ask isOpen reads =>
    refine ⟨rfl, ?_⟩
    rcases reads with rfl | rfl <;> simp [Trace.calls, Event.call?]
  | arrive isOpen read =>
    rename_i response _
    refine ⟨messages_reaction before.dispatcher response, ?_⟩
    exact before.dispatcher.calls_arrival response before.waiting ▸ List.not_mem_nil
  | refuseWrite | forget =>
    refine ⟨Trace.filterMap_dropped _ fun _ => rfl, ?_⟩
    exact before.calls_dropping ▸ List.not_mem_nil
  | close isOpen =>
    rw [calls_close isOpen, trace_close isOpen]
    exact ⟨Trace.filterMap_dropped _ fun _ => rfl, by simp⟩
  | _ => exact ⟨rfl, List.not_mem_nil⟩

theorem Steps.silent_of_failed {first last : Connection σ κ} {trace : Trace κ}
    (steps : Steps first trace last) (failed : first.writeFailed = true) :
    trace.messages = [] ∧ .sendAll ∉ trace.calls := by
  induction steps with
  | refl => exact ⟨rfl, List.not_mem_nil⟩
  | head step _ ih =>
    obtain ⟨here, uncalled⟩ := step.silent_of_failed failed
    obtain ⟨later, neverCalled⟩ := ih (step.writeFailed failed)
    rw [Trace.messages_append, here, later, Trace.calls_append, List.mem_append]
    exact ⟨rfl, not_or.mpr ⟨uncalled, neverCalled⟩⟩

/-! Only closing closes. -/

theorem closed_conclude {base : Connection σ κ} (isOpen : base.closed = false)
    (receipt : Receipt σ κ) : (base.conclude receipt).connection.closed = false := by
  cases read : receipt.outcome with
  | error failure =>
    rw [conclude_of_error base read]
    exact isOpen
  | ok count =>
    cases kept : receipt.dispatcher.failure with
    | none =>
      rw [conclude_of_none base read kept]
      exact isOpen
    | some failure =>
      rw [conclude_of_some isOpen read kept]
      exact (base.recovery receipt).closed_sendAll.trans isOpen

theorem closed_perform (connection : Connection σ κ) {operation : Operation κ}
    (stays : operation ≠ .close) :
    (connection.perform operation).connection.closed = connection.closed := by
  cases found : connection.read? operation with
  | some read =>
    obtain ⟨base, receipt⟩ := read
    have ends := read?_ends found
    rw [ends.after, closed_conclude ends.isOpen, ends.wasOpen]
  | none =>
    cases unread_cases found with
    | queues notices _ _ queued =>
      rw [queued]
      rfl
    | sends _ _ sent =>
      rw [sent]
      exact connection.closed_sendAll
    | refuses _ _ _ refused =>
      rw [refused]
      rfl
    | closes close => exact absurd close stays

theorem closed_runFrom (connection : Connection σ κ) {operations : List (Operation κ)}
    (stays : .close ∉ operations) :
    (connection.runFrom operations).closed = connection.closed := by
  induction operations generalizing connection with
  | nil => rfl
  | cons operation rest ih =>
    rw [List.mem_cons, not_or] at stays
    exact (ih _ stays.2).trans (connection.closed_perform fun same => stays.1 same.symm)

/-- The transport takes so many of the pending requests, and then a write fails. -/
structure Interrupted (connection : Connection σ κ) (count : Nat) (failure : IoError) : Prop where
  isOpen : connection.closed = false
  writable : connection.writeFailed = false
  something : connection.pending ≠ []
  few : count ≤ connection.pending.length
  answer : (Transport.sendAll connection.transport connection.pending).1 =
    ⟨connection.pending.drop count, some failure⟩

/-- A send that ends early. The requests taken join those that wait, with their sinks;
the others are gone with theirs, and nobody is told. -/
structure BreaksOff (before : Connection σ κ) (performed : Performed σ κ Reply) (count : Nat)
    (failure : IoError) : Prop where
  result : performed.result = .failed (.sendFailed failure)
  kind : (Error.sendFailed failure).kind? = some .send
  messages : performed.trace.messages = before.pending.take count
  pending : performed.connection.pending = []
  sinks : performed.connection.dispatcher.sinks =
    before.dispatcher.sent ++ before.dispatcher.unsent.take count
  waiting : performed.connection.waiting = performed.connection.dispatcher.sinks.length
  failure : performed.connection.dispatcher.failure = before.dispatcher.failure
  deliveries : performed.trace.deliveries = []

theorem Interrupted.transmits {connection : Connection σ κ} {count : Nat} {failure : IoError}
    (interrupted : connection.Interrupted count failure) :
    connection.Transmits (connection.pending.take count) (connection.pending.drop count)
      (some failure) := by
  obtain ⟨taken, unsent, outcome, transmits⟩ := connection.transmit_transmits
  have same := transmits.answer.symm.trans interrupted.answer
  rw [Transmission.mk.injEq] at same
  obtain ⟨rfl, rfl⟩ := same
  have front : taken = connection.pending.take count := by
    apply List.append_cancel_right
    rw [List.take_append_drop]
    exact transmits.pending.symm
  rwa [front] at transmits

theorem Interrupted.breaksOff {connection : Connection σ κ} {count : Nat} {failure : IoError}
    (interrupted : connection.Interrupted count failure) (paired : connection.Paired) :
    connection.BreaksOff (connection.perform .sendAll) count failure ∧
      (connection.perform .sendAll).connection.writeFailed = true ∧
      (connection.perform .sendAll).connection.closed = false := by
  have transmits := interrupted.transmits
  have handed := sendAll_of_writable interrupted.isOpen interrupted.something interrupted.writable
  obtain ⟨sent, unsent⟩ := transmits.queues paired
  rw [List.length_take, Nat.min_eq_left interrupted.few] at sent
  have sinks : connection.transmit.connection.dispatcher.sinks =
      connection.dispatcher.sent ++ connection.dispatcher.unsent.take count := by
    rw [← Dispatcher.sent_append_unsent, sent, unsent, List.append_nil]
  have waiting := connection.transmit.connection.dispatcher.length_sinks
  rw [unsent, List.length_nil, Nat.add_zero] at waiting
  simp only [perform, handed]
  refine ⟨⟨?_, rfl, transmits.messages_trace, ?_, sinks, waiting.symm, ?_, ?_⟩, ?_, ?_⟩
  · rw [transmits.result]
    rfl
  · rw [transmits.after]
  · rw [transmits.after]
    rfl
  · exact transmits.filterMap_trace_eq_nil (fun _ => rfl) rfl (fun _ => rfl) fun _ => rfl
  · rw [transmits.after]
    exact Bool.or_true _
  · rw [transmits.after]
    exact interrupted.isOpen

/-- A send that is refused because of an earlier write: exactly what was queued is gone,
with its sinks, and what waits goes on waiting. -/
structure RefusesWrite (before : Connection σ κ) (performed : Performed σ κ Reply) : Prop where
  result : performed.result = .failed .writeRefused
  kind : Error.writeRefused.kind? = some .send
  trace : performed.trace = before.pending.map .dropped
  pending : performed.connection.pending = []
  sinks : performed.connection.dispatcher.sinks = before.dispatcher.sent
  waiting : performed.connection.waiting = before.waiting
  failure : performed.connection.dispatcher.failure = before.dispatcher.failure
  transport : performed.connection.transport = before.transport

theorem refusesWrite {connection : Connection σ κ} (isOpen : connection.closed = false)
    (failed : connection.writeFailed = true) (something : connection.pending ≠ [])
    (paired : connection.Paired) : connection.RefusesWrite (connection.perform .sendAll) := by
  obtain ⟨sent, unsent⟩ := refuseWrite_queues paired
  have sinks : connection.refuseWrite.connection.dispatcher.sinks = connection.dispatcher.sent := by
    rw [← Dispatcher.sent_append_unsent, sent, unsent, List.append_nil]
  have waiting : connection.refuseWrite.connection.waiting = connection.waiting := by
    rw [Connection.waiting, Connection.waiting, ← Dispatcher.length_sent, ← Dispatcher.length_sent,
      sent]
  simp only [perform, sendAll_of_failed isOpen something failed]
  exact ⟨rfl, rfl, rfl, rfl, sinks, waiting, rfl, rfl⟩

/-- Reading goes on: a response that comes is read, and a read of all answers that does
not fail leaves nothing waiting. -/
structure ReadsOn (connection : Connection σ κ) : Prop where
  one : ∀ response after, Transport.receiveOne connection.transport = (.ok response, after) →
    (connection.perform .receiveOne).trace.responses = [response]
  all : (∀ failure, (connection.perform .receiveAll).result ≠ .failed (.receiveFailed failure)) →
    (connection.perform .receiveAll).connection.waiting = 0

theorem waiting_sendAll_of_failed {connection : Connection σ κ}
    (isOpen : connection.closed = false) (failed : connection.writeFailed = true)
    (paired : connection.Paired) :
    connection.sendAll.connection.waiting = connection.waiting := by
  by_cases nothing : connection.pending = []
  · rw [sendAll_of_nothing isOpen nothing]
  · have refuses := refusesWrite isOpen failed nothing paired
    exact refuses.waiting

theorem readsOn {connection : Connection σ κ} (isOpen : connection.closed = false)
    (failed : connection.writeFailed = true) (paired : connection.Paired) :
    connection.ReadsOn := by
  refine ⟨?_, ?_⟩
  · intro response after read
    rw [responses_perform]
    simp only [read?, isOpen, Bool.false_eq_true, if_false, Transport.receiveInto, read]
    exact Transport.responses_arrival _ response _
  · intro succeeds
    have ends := read?_ends (read?_receiveAll isOpen)
    rw [ends.after]
    cases read : (Transport.receiveAll connection.transport connection.dispatcher).outcome with
    | error failure =>
      refine absurd ((ends.failed _).mpr ?_) (succeeds failure)
      rw [conclude_of_error connection read]
    | ok count =>
      have idle := Transport.waiting_receiveAll _ _ read
      cases kept : (Transport.receiveAll connection.transport
          connection.dispatcher).dispatcher.failure with
      | none =>
        rw [conclude_of_none connection read kept]
        exact idle
      | some first =>
        -- The reset is refused, and with it nothing new waits.
        have entry : (connection.recovery (Transport.receiveAll connection.transport
            connection.dispatcher)).closed = false := isOpen
        have still := paired_recovery paired ends.reads
        rw [conclude_of_some isOpen read kept]
        exact (waiting_sendAll_of_failed entry failed still).trans idle

structure WritesNoMore (failed : Connection σ κ) (continuation : List (Operation κ)) : Prop where
  calls : .sendAll ∉ (failed.traceOf continuation).calls
  messages : (failed.traceOf continuation).messages = []
  notOpen : (failed.runFrom continuation).isOpen = false
  deliveries : (failed.traceOf continuation).deliveries =
    deal failed.dispatcher.sinks (failed.traceOf continuation).answers
  served : (failed.traceOf continuation).deliveries.length =
    (failed.traceOf continuation).answers.length

/-- What a connection comes to after a failed write as long as nobody closes it. -/
structure Drains (failed : Connection σ κ) (continuation : List (Operation κ)) : Prop where
  sent : (failed.runFrom continuation).dispatcher.sent =
    failed.dispatcher.sinks.drop (failed.traceOf continuation).summaries.length
  refuses : (failed.runFrom continuation).pending ≠ [] →
    (failed.runFrom continuation).RefusesWrite ((failed.runFrom continuation).perform .sendAll)
  idles : (failed.runFrom continuation).pending = [] →
    (failed.runFrom continuation).perform .sendAll = ⟨.count 0, failed.runFrom continuation, []⟩
  reads : (failed.runFrom continuation).ReadsOn

end Connection

/-- A send in which a write fails, after any run, keeps exactly the sinks of the requests
taken. Whatever is done then, the transport is not asked to send again, and all that is
delivered are the answers to the requests that wait, in their order; while the connection
is not closed, sends are refused and reading goes on. -/
theorem failed_write_latches [Transport σ] (transport : σ) (debugEnabled legacyNames : Bool)
    (operations : List (Operation κ)) (count : Nat) (failure : IoError)
    (interrupted : ((Connection.fresh transport debugEnabled legacyNames).runFrom
      operations).Interrupted count failure) :
    let reached := (Connection.fresh transport debugEnabled legacyNames).runFrom operations
    let performed := reached.perform .sendAll
    let failed := performed.connection
    reached.dispatcher.unsent.length = reached.pending.length ∧
    reached.BreaksOff performed count failure ∧
    ∀ continuation, failed.WritesNoMore continuation ∧
      (.close ∉ continuation → failed.Drains continuation) := by
  intro reached performed failed
  have before : Accounted reached _ :=
    Accounted.run transport debugEnabled legacyNames operations
  have paired : reached.Paired := before.aligned.paired
  obtain ⟨breaksOff, latched, isOpen⟩ := interrupted.breaksOff paired
  have start : Accounted failed _ := before.steps (reached.perform_steps .sendAll)
  have all : failed.dispatcher.inFlight = failed.dispatcher.sinks.length := breaksOff.waiting
  have waits : failed.dispatcher.sent = failed.dispatcher.sinks := by
    rw [Dispatcher.sent, all, List.take_length]
  refine ⟨paired, breaksOff, ?_⟩
  intro continuation
  have steps := failed.run_steps continuation
  have accounted := start.steps steps
  have stillFailed := steps.writeFailed latched
  obtain ⟨silent, uncalled⟩ := steps.silent_of_failed latched
  obtain ⟨deliveries, served, sent⟩ := start.untaken accounted isOpen silent
  rw [waits] at deliveries sent
  refine ⟨⟨uncalled, silent, ?_, deliveries, served⟩, ?_⟩
  · simp [Connection.isOpen, stillFailed]
  · intro stays
    have stillOpen : (failed.runFrom continuation).closed = false :=
      (failed.closed_runFrom stays).trans isOpen
    have stillPaired := accounted.aligned.paired
    refine ⟨sent stillOpen, ?_, ?_, Connection.readsOn stillOpen stillFailed stillPaired⟩
    · intro something
      exact Connection.refusesWrite stillOpen stillFailed something stillPaired
    · intro nothing
      simp only [Connection.perform, Connection.sendAll_of_nothing stillOpen nothing]
      rfl

section

def brokenAfterTwo : ScriptedTransport :=
  .ofReplies [.ok (.success .empty), .ok (.record []), .ok (.success .empty)]
    (some ⟨2, .bare .brokenPipe⟩) none

def threeBehindOne : List (Operation Nat) :=
  [.run "RETURN 1" .empty (.handle 1), .sendAll, .pullAll (.handle 2),
    .run "RETURN 2" .empty (.handle 3), .pullAll (.handle 4)]

/-- The second of four requests is the last one taken; the answers to the first two can
still be read. -/
theorem failed_write_latches_three_behind_one :
    let reached := (Connection.fresh brokenAfterTwo false true).runFrom threeBehindOne
    let failed := (reached.perform .sendAll).connection
    reached.Interrupted 1 (.bare .brokenPipe) ∧
      reached.BreaksOff (reached.perform .sendAll) 1 (.bare .brokenPipe) ∧
      failed.dispatcher.sinks = [.handle 1, .handle 2] ∧
      failed.WritesNoMore [.commit (.handle 5), .sendAll, .receiveAll] ∧
      failed.Drains [.commit (.handle 5), .sendAll, .receiveAll] := by
  have interrupted : ((Connection.fresh brokenAfterTwo false true).runFrom
      threeBehindOne).Interrupted 1 (.bare .brokenPipe) :=
    ⟨rfl, rfl, List.cons_ne_nil _ _, Nat.le_add_left 1 2, rfl⟩
  obtain ⟨_, breaksOff, follows⟩ :=
    failed_write_latches brokenAfterTwo false true threeBehindOne 1 (.bare .brokenPipe) interrupted
  obtain ⟨noMore, drains⟩ := follows [.commit (.handle 5), .sendAll, .receiveAll]
  exact ⟨interrupted, breaksOff, rfl, noMore, drains (by simp)⟩

end

end PipelinedClient
