import Mathlib.Data.List.Forall2
import PipelinedClient.Proofs.Transmission

/-! Debug lines are a transcript, and nothing depends on them.

A connection that writes debug lines is compared with the same connection muted: every
operation returns, signals, hands over and leaves the same, and its log loses the debug
lines alone. What these lines say is read off the exchanges with the transport.
-/

set_option autoImplicit false

namespace PipelinedClient

variable {σ κ : Type}

/-! Without debug lines. -/

def Event.isDebug : Event κ → Bool
  | .logged line => line.isDebug
  | _ => false

theorem Event.eq_of_isDebug {event : Event κ} (debug : event.isDebug = true) :
    ∃ text, event = .logged (.line .debug text) := by
  unfold isDebug LogLine.isDebug at debug
  split at debug
  · split at debug
    · exact ⟨_, rfl⟩
    · cases debug
  · cases debug

namespace Trace

def withoutDebug (trace : Trace κ) : Trace κ := trace.filter fun event => !event.isDebug

@[simp] theorem withoutDebug_nil : withoutDebug ([] : Trace κ) = [] := rfl

@[simp] theorem withoutDebug_append (first rest : Trace κ) :
    withoutDebug (first ++ rest) = withoutDebug first ++ withoutDebug rest :=
  List.filter_append ..

theorem withoutDebug_cons (event : Event κ) (rest : Trace κ) (plain : event.isDebug = false) :
    withoutDebug (event :: rest) = event :: withoutDebug rest := by
  simp [withoutDebug, plain]

theorem withoutDebug_eq_self {trace : Trace κ} (plain : ∀ event ∈ trace, event.isDebug = false) :
    trace.withoutDebug = trace := by
  rw [withoutDebug, List.filter_eq_self]
  intro event member
  rw [plain event member]
  rfl

theorem OnlyDebug.withoutDebug_eq_nil {trace : Trace κ} (debug : trace.OnlyDebug) :
    trace.withoutDebug = [] := by
  rw [withoutDebug, List.filter_eq_nil_iff]
  intro event member
  obtain ⟨text, rfl⟩ := debug event member
  simp [Event.isDebug, LogLine.isDebug]

@[simp] theorem withoutDebug_taken (messages : List Message) :
    withoutDebug (messages.map Event.taken : Trace κ) = messages.map Event.taken := by
  apply withoutDebug_eq_self
  simp [Event.isDebug]

@[simp] theorem withoutDebug_dropped (messages : List Message) :
    withoutDebug (messages.map Event.dropped : Trace κ) = messages.map Event.dropped := by
  apply withoutDebug_eq_self
  simp [Event.isDebug]

theorem filterMap_withoutDebug {α : Type} {find : Event κ → Option α} (trace : Trace κ)
    (blind : ∀ text, find (.logged (.line .debug text)) = none) :
    trace.withoutDebug.filterMap find = trace.filterMap find := by
  rw [withoutDebug, List.filterMap_filter]
  refine congrArg (trace.filterMap ·) (funext fun event => ?_)
  cases debug : event.isDebug with
  | true =>
    obtain ⟨text, rfl⟩ := Event.eq_of_isDebug debug
    rw [blind text]
    rfl
  | false => rfl

theorem log_withoutDebug (trace : Trace κ) :
    trace.withoutDebug.log = trace.log.filter fun line => !line.isDebug := by
  rw [log, log, withoutDebug, List.filterMap_filter, List.filter_filterMap]
  refine congrArg (trace.filterMap ·) (funext fun event => ?_)
  cases event with
  | logged line => simp [Event.isDebug, Event.logLine?, Option.filter]
  | _ => rfl

end Trace

/-! The same with debug lines switched off. -/

namespace Dispatcher

def muted (dispatcher : Dispatcher κ) : Dispatcher κ := { dispatcher with logsResponses := false }

@[simp] theorem muted_append (dispatcher : Dispatcher κ) (sink : Sink κ) :
    dispatcher.muted.append sink = (dispatcher.append sink).muted := rfl

@[simp] theorem muted_markSent (dispatcher : Dispatcher κ) (count : Nat) :
    dispatcher.muted.markSent count = (dispatcher.markSent count).muted := rfl

@[simp] theorem muted_discardNewest (dispatcher : Dispatcher κ) (count : Nat) :
    dispatcher.muted.discardNewest count = (dispatcher.discardNewest count).muted := rfl

@[simp] theorem muted_accept (dispatcher : Dispatcher κ) (response : Response) :
    dispatcher.muted.accept response = (dispatcher.accept response).muted := by
  cases ends : response.isSummary && dispatcher.inFlight != 0 <;>
    simp [accept, capture, advance, muted, ends]

theorem muted_reaction (dispatcher : Dispatcher κ) (response : Response) :
    dispatcher.muted.reaction response = (dispatcher.reaction response).withoutDebug := by
  have oldest : dispatcher.muted.oldest? = dispatcher.oldest? := rfl
  simp only [reaction, oldest]
  cases dispatcher.oldest? <;> cases dispatcher.logsResponses <;> rfl

end Dispatcher

def Receipt.muted (receipt : Receipt σ κ) : Receipt σ κ :=
  { receipt with dispatcher := receipt.dispatcher.muted, trace := receipt.trace.withoutDebug }

def Connection.muted (connection : Connection σ κ) : Connection σ κ :=
  { connection with debugEnabled := false, dispatcher := connection.dispatcher.muted }

def Performed.muted {α : Type} (performed : Performed σ κ α) : Performed σ κ α :=
  ⟨performed.result, performed.connection.muted, performed.trace.withoutDebug⟩

def Opening.muted (opening : Opening σ κ) : Opening σ κ :=
  ⟨opening.outcome.map Connection.muted, opening.trace.withoutDebug⟩

namespace Transport

variable [Transport σ]

theorem receiveInto_muted (transport : σ) (dispatcher : Dispatcher κ) :
    receiveInto transport dispatcher.muted = (receiveInto transport dispatcher).muted := by
  unfold receiveInto
  split
  · rfl
  · rw [Dispatcher.muted_accept, Dispatcher.muted_reaction]
    rfl

theorem receiveAll_muted (transport : σ) (dispatcher : Dispatcher κ) :
    receiveAll transport dispatcher.muted = (receiveAll transport dispatcher).muted := by
  refine receiveAll_induction (motive := fun transport dispatcher receipt =>
    receiveAll transport dispatcher.muted = receipt.muted) ?idle ?error ?response _ _
  case idle =>
    intro transport dispatcher idle
    have idle : dispatcher.muted.waiting = 0 := idle
    exact receiveAll_of_idle transport idle
  case error =>
    intro transport after dispatcher failure waits read
    have waits : dispatcher.muted.waiting ≠ 0 := waits
    exact receiveAll_of_error waits read
  case response =>
    intro transport after dispatcher response rest waits read ih
    have waits : dispatcher.muted.waiting ≠ 0 := waits
    have arrival := Trace.withoutDebug_cons (.arrived response dispatcher.waiting)
      (dispatcher.reaction response ++ rest.trace) rfl
    rw [receiveAll_of_response waits read, Dispatcher.muted_accept, Dispatcher.muted_reaction, ih,
      Receipt.muted, Receipt.muted]
    simp only [List.cons_append, arrival, Trace.withoutDebug_append]
    rfl

end Transport

namespace Connection

@[simp] theorem muted_enqueue (connection : Connection σ κ) (message : Message) (sink : Sink κ) :
    connection.muted.enqueue message sink = (connection.enqueue message sink).muted := rfl

@[simp] theorem withoutDebug_dropping (connection : Connection σ κ) :
    connection.dropping.withoutDebug = connection.dropping :=
  Trace.withoutDebug_dropped _

theorem muted_refuse {α : Type} (connection : Connection σ κ) :
    (connection.muted.refuse : Performed σ κ (Except Error α)) = connection.refuse.muted := by
  simp only [refuse, Performed.muted, withoutDebug_dropping]
  rfl

theorem muted_refuseWrite (connection : Connection σ κ) :
    connection.muted.refuseWrite = connection.refuseWrite.muted := by
  simp only [refuseWrite, Performed.muted, withoutDebug_dropping]
  rfl

theorem muted_announced (connection : Connection σ κ) : connection.muted.announced = [] :=
  List.flatMap_eq_nil_iff.mpr fun _ _ => rfl

theorem muted_sendReport (connection : Connection σ κ) (unsent : Nat) (failure : Option IoError) :
    connection.muted.sendReport unsent failure = [] := by
  cases failure <;> rfl

variable [Transport σ]

theorem muted_establish (transport : σ) (legacyNames : Bool) :
    (establish transport false legacyNames : Opening σ κ) =
      (establish transport true legacyNames).muted := by
  unfold establish
  split <;> rfl

theorem muted_transmit (connection : Connection σ κ) :
    connection.muted.transmit = connection.transmit.muted := by
  obtain ⟨taken, unsent, failure, transmits⟩ := connection.transmit_transmits
  obtain ⟨taken', unsent', failure', transmits'⟩ := connection.muted.transmit_transmits
  have same : (⟨unsent, failure⟩ : Transmission) = ⟨unsent', failure'⟩ :=
    transmits.answer.symm.trans transmits'.answer
  obtain ⟨rfl, rfl⟩ := Transmission.mk.inj same
  have whole : taken ++ unsent = taken' ++ unsent := transmits.pending.symm.trans transmits'.pending
  obtain rfl := List.append_cancel_right whole
  have trace : connection.muted.transmit.trace = connection.transmit.trace.withoutDebug := by
    rw [transmits.trace, transmits'.trace, muted_announced, muted_sendReport]
    simp only [Trace.withoutDebug_append, Trace.withoutDebug_cons (.called .sendAll) _ rfl,
      connection.onlyDebug_announced.withoutDebug_eq_nil,
      (connection.onlyDebug_sendReport _ _).withoutDebug_eq_nil, Trace.withoutDebug_taken,
      Trace.withoutDebug_dropped]
  have after : connection.muted.transmit.connection = connection.transmit.connection.muted := by
    rw [transmits.after, transmits'.after]
    rfl
  have result : connection.muted.transmit.result = connection.transmit.result :=
    transmits'.result.trans transmits.result.symm
  rw [Performed.muted, ← result, ← after, ← trace]

@[simp] theorem muted_sendAll (connection : Connection σ κ) :
    connection.muted.sendAll = connection.sendAll.muted := by
  have isClosed : connection.muted.closed = connection.closed := rfl
  have pending : connection.muted.pending = connection.pending := rfl
  have failed : connection.muted.writeFailed = connection.writeFailed := rfl
  rw [sendAll, isClosed, pending, failed, sendAll]
  split
  · exact connection.muted_refuse
  · split
    · rfl
    · split
      · exact connection.muted_refuseWrite
      · exact connection.muted_transmit

theorem withoutDebug_resetWarnings (result : Except Error Nat) :
    (resetWarnings result : Trace κ).withoutDebug = resetWarnings result := by
  cases result <;> rfl

theorem muted_surfaceFailure (connection : Connection σ κ) :
    connection.muted.surfaceFailure = connection.surfaceFailure.muted := by
  cases kept : connection.dispatcher.failure with
  | none =>
    have muted : connection.muted.dispatcher.failure = none := kept
    rw [surfaceFailure_of_none kept, surfaceFailure_of_none muted]
    rfl
  | some failure =>
    have muted : connection.muted.dispatcher.failure = some failure := kept
    rw [surfaceFailure_of_some kept, surfaceFailure_of_some muted]
    simp only [muted_enqueue, muted_sendAll, Performed.muted, Trace.withoutDebug_append,
      withoutDebug_resetWarnings, List.cons_append,
      Trace.withoutDebug_cons (.queued .reset .discard) _ rfl]
    rfl

theorem muted_conclude (connection : Connection σ κ) (receipt : Receipt σ κ) :
    connection.muted.conclude receipt.muted = (connection.conclude receipt).muted := by
  have outcome : receipt.muted.outcome = receipt.outcome := rfl
  have after : connection.muted.withReceipt receipt.muted =
    (connection.withReceipt receipt).muted := rfl
  simp only [conclude, outcome, after, muted_surfaceFailure]
  split
  · rfl
  · simp only [Performed.muted, Trace.withoutDebug_append]
    rfl

@[simp] theorem muted_receiveAll (connection : Connection σ κ) :
    connection.muted.receiveAll = connection.receiveAll.muted := by
  cases isOpen : connection.closed with
  | true =>
    have muted : connection.muted.closed = true := isOpen
    rw [receiveAll, receiveAll, if_pos isOpen, if_pos muted]
    exact connection.muted_refuse
  | false =>
    have muted : connection.muted.closed = false := isOpen
    have read : Transport.receiveAll connection.muted.transport connection.muted.dispatcher =
        (Transport.receiveAll connection.transport connection.dispatcher).muted :=
      Transport.receiveAll_muted _ _
    rw [receiveAll_of_open isOpen, receiveAll_of_open muted, read, muted_conclude]
    simp only [Performed.muted, Trace.withoutDebug_cons (.called .receiveAll) _ rfl]

@[simp] theorem muted_receiveOne (connection : Connection σ κ) :
    connection.muted.receiveOne = connection.receiveOne.muted := by
  cases isOpen : connection.closed with
  | true =>
    have muted : connection.muted.closed = true := isOpen
    rw [receiveOne, receiveOne, if_pos isOpen, if_pos muted]
    exact connection.muted_refuse
  | false =>
    have muted : connection.muted.closed = false := isOpen
    have read : Transport.receiveInto connection.muted.transport connection.muted.dispatcher =
        (Transport.receiveInto connection.transport connection.dispatcher).muted :=
      Transport.receiveInto_muted _ _
    rw [receiveOne_of_open isOpen, receiveOne_of_open muted, read, muted_conclude]
    simp only [Performed.muted, Trace.withoutDebug_cons (.called .receiveOne) _ rfl]

@[simp] theorem muted_sync (connection : Connection σ κ) :
    connection.muted.sync = connection.sync.muted := by
  have sent : connection.muted.sendAll.result = connection.sendAll.result := by
    rw [muted_sendAll]
    rfl
  cases result : connection.sendAll.result with
  | error error =>
    rw [sync_of_error result, sync_of_error (sent.trans result), muted_sendAll]
    rfl
  | ok count =>
    cases count with
    | zero =>
      rw [sync_of_none result, sync_of_none (sent.trans result), muted_sendAll]
      rfl
    | succ count =>
      rw [sync_of_some result, sync_of_some (sent.trans result), muted_sendAll]
      simp only [Performed.muted, muted_receiveAll, Trace.withoutDebug_append]

@[simp] theorem muted_close (connection : Connection σ κ) :
    connection.muted.close = connection.close.muted := by
  have same : connection.muted.dropping = connection.dropping := rfl
  cases isOpen : connection.closed with
  | true =>
    have muted : connection.muted.closed = true := isOpen
    simp only [close, isOpen, muted, if_true, Performed.muted, same, withoutDebug_dropping]
    rfl
  | false =>
    have muted : connection.muted.closed = false := isOpen
    simp only [close, isOpen, muted, Bool.false_eq_true, if_false, Performed.muted, same,
      Trace.withoutDebug_cons (.called .stop) _ rfl, withoutDebug_dropping]
    rfl

end Connection

theorem MetadataBuilder.notices_plain (builder : MetadataBuilder) :
    ∀ line ∈ builder.notices, line.isDebug = false := by
  unfold notices TransactionSettings.notices
  split
  · simp
  · unfold TransactionSettings.timeoutNotices TransactionSettings.notice
    split <;> split <;> simp [LogLine.isDebug]

namespace Connection

variable [Transport σ]

theorem muted_perform (connection : Connection σ κ) (operation : Operation κ) :
    connection.muted.perform operation = (connection.perform operation).muted := by
  cases operation with
  | begin builder sink =>
    have plain : (Trace.ofLines builder.notices : Trace κ).withoutDebug =
        Trace.ofLines builder.notices := by
      apply Trace.withoutDebug_eq_self
      intro event member
      obtain ⟨line, told, rfl⟩ := List.mem_map.mp member
      exact builder.notices_plain line told
    simp only [perform, queue, Performed.muted, Trace.withoutDebug_append, plain]
    rfl
  | sendAll => simp only [perform, muted_sendAll, Performed.muted]
  | receiveAll => simp only [perform, muted_receiveAll, Performed.muted]
  | receiveOne => simp only [perform, muted_receiveOne, Performed.muted]
  | sync => simp only [perform, muted_sync, Performed.muted]
  | close => simp only [perform, muted_close, Performed.muted]
  | _ => rfl

theorem muted_history (connection : Connection σ κ) (operations : List (Operation κ)) :
    connection.muted.history operations = (connection.history operations).map Performed.muted := by
  induction operations generalizing connection with
  | nil => rfl
  | cons operation rest ih =>
    simp only [history, List.map_cons, muted_perform]
    exact congrArg _ (ih _)

end Connection
end PipelinedClient
