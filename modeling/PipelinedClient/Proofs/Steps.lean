import PipelinedClient.Connection.Operation

/-! Operations in steps.

A step is the least that a connection does at a time, with the events that show it:
it writes a line, queues a request, hands over or drops what is queued, reads one
response, gives up a failure that it kept, or closes. Every operation is a sequence
of steps, so what each step preserves holds at any moment of any run.
-/

set_option autoImplicit false

namespace PipelinedClient
namespace Connection

variable {σ κ : Type} [Transport σ]

inductive Step : Connection σ κ → Trace κ → Connection σ κ → Prop where
  | log {connection : Connection σ κ} (line : LogLine) : Step connection [.logged line] connection
  | ask {connection : Connection σ κ} {call : TransportCall} :
      connection.closed = false → call = .receiveAll ∨ call = .receiveOne →
      Step connection [.called call] connection
  | enqueue {connection : Connection σ κ} (message : Message) (sink : Sink κ) :
      Step connection [.queued message sink] (connection.enqueue message sink)
  | transmit {connection : Connection σ κ} :
      connection.closed = false → connection.writeFailed = false → connection.pending ≠ [] →
      Step connection connection.transmit.trace connection.transmit.connection
  | refuseWrite {connection : Connection σ κ} :
      connection.closed = false → connection.writeFailed = true →
      Step connection connection.dropping connection.refuseWrite.connection
  | fail {connection : Connection σ κ} {failure : IoError} {after : σ} :
      connection.closed = false →
      Transport.receiveOne connection.transport = (.error failure, after) →
      Step connection [] { connection with transport := after }
  | arrive {connection : Connection σ κ} {response : Response} {after : σ} :
      connection.closed = false →
      Transport.receiveOne connection.transport = (.ok response, after) →
      Step connection
        (.arrived response connection.waiting :: connection.dispatcher.reaction response)
        { connection with
          transport := after
          dispatcher := connection.dispatcher.accept response }
  | surface {connection : Connection σ κ} :
      Step connection [] { connection with dispatcher := connection.dispatcher.takeFailure.2 }
  | forget {connection : Connection σ κ} : connection.closed = true →
      Step connection connection.dropping connection.forget
  | close {connection : Connection σ κ} : connection.closed = false →
      Step connection connection.close.trace connection.close.connection

inductive Steps : Connection σ κ → Trace κ → Connection σ κ → Prop where
  | refl (connection : Connection σ κ) : Steps connection [] connection
  | head {first second last : Connection σ κ} {trace rest : Trace κ} :
      Step first trace second → Steps second rest last → Steps first (trace ++ rest) last

namespace Steps

variable {first second last : Connection σ κ} {trace rest : Trace κ}

theorem single (step : Step first trace second) : Steps first trace second := by
  rw [← List.append_nil trace]
  exact .head step (.refl second)

theorem trans (front : Steps first trace second) (back : Steps second rest last) :
    Steps first (trace ++ rest) last := by
  induction front with
  | refl => exact back
  | head step _ ih =>
    rw [List.append_assoc]
    exact .head step (ih back)

/-- What every step carries over from the trace so far, steps carry over. -/
theorem carry {holds : Connection σ κ → Trace κ → Prop}
    (each : ∀ {before after : Connection σ κ} {past shown : Trace κ},
      holds before past → Step before shown after → holds after (past ++ shown))
    (steps : Steps first trace last) {past : Trace κ} (start : holds first past) :
    holds last (past ++ trace) := by
  induction steps generalizing past with
  | refl => rwa [List.append_nil]
  | head step _ ih =>
    rw [← List.append_assoc]
    exact ih (each start step)

end Steps

theorem Step.writeFailed {before after : Connection σ κ} {shown : Trace κ}
    (step : Step before shown after) (failed : before.writeFailed = true) :
    after.writeFailed = true := by
  cases step with
  | transmit isOpen writable something =>
    rw [writable] at failed
    cases failed
  | close isOpen =>
    simp only [Connection.close, isOpen, Bool.false_eq_true, if_false]
    exact failed
  | _ => exact failed

theorem Steps.writeFailed {first last : Connection σ κ} {trace : Trace κ}
    (steps : Steps first trace last) (failed : first.writeFailed = true) :
    last.writeFailed = true := by
  induction steps with
  | refl => exact failed
  | head step _ ih => exact ih (step.writeFailed failed)

/-! Reading. -/

theorem receiveInto_steps {connection : Connection σ κ} (isOpen : connection.closed = false) :
    let receipt := Transport.receiveInto connection.transport connection.dispatcher
    Steps connection receipt.trace (connection.withReceipt receipt) := by
  unfold Transport.receiveInto
  split
  · rename_i failure after read
    exact .single (.fail isOpen read)
  · rename_i response after read
    exact .single (.arrive isOpen read)

theorem receiveAll_read_steps {connection : Connection σ κ} (isOpen : connection.closed = false) :
    let receipt := Transport.receiveAll connection.transport connection.dispatcher
    Steps connection receipt.trace (connection.withReceipt receipt) := by
  -- The loop moves on from connection to connection, so it is followed for all of them.
  refine Transport.receiveAll_induction (motive := fun transport dispatcher receipt =>
    ∀ current : Connection σ κ, current.closed = false → current.transport = transport →
      current.dispatcher = dispatcher →
      Steps current receipt.trace (current.withReceipt receipt))
    ?idle ?error ?response _ _ connection isOpen rfl rfl
  case idle =>
    rintro transport dispatcher idle current isOpen rfl rfl
    exact .refl current
  case error =>
    rintro transport after dispatcher failure waits read current isOpen rfl rfl
    exact .single (.fail isOpen read)
  case response =>
    rintro transport after dispatcher response rest waits read ih current isOpen rfl rfl
    exact .head (.arrive isOpen read) (ih _ isOpen rfl rfl)

/-! Sending, and raising a failure. -/

theorem sendAll_steps (connection : Connection σ κ) :
    Steps connection connection.sendAll.trace connection.sendAll.connection := by
  unfold sendAll
  split
  · rename_i isClosed
    exact .single (.forget isClosed)
  · rename_i isOpen
    rw [Bool.not_eq_true] at isOpen
    split
    · exact .refl connection
    · rename_i some
      split
      · rename_i failed
        exact .single (.refuseWrite isOpen failed)
      · rename_i writable
        rw [Bool.not_eq_true] at writable
        exact .single (.transmit isOpen writable (mt List.isEmpty_iff.mpr some))

theorem resetWarnings_steps (connection : Connection σ κ) (result : Except Error Nat) :
    Steps connection (resetWarnings result) connection := by
  cases result with
  | ok count => exact .refl connection
  | error error => exact .single (.log (resetWarning error))

theorem surfaceFailure_steps (connection : Connection σ κ) :
    Steps connection connection.surfaceFailure.trace connection.surfaceFailure.connection := by
  cases kept : connection.dispatcher.failure with
  | none =>
    rw [surfaceFailure_of_none kept]
    exact .refl connection
  | some failure =>
    rw [surfaceFailure_of_some kept]
    have queued := Steps.head (.enqueue Message.reset Sink.discard)
      (connection.enqueue .reset .discard).sendAll_steps
    have warned := queued.trans
      (resetWarnings_steps _ (connection.enqueue .reset .discard).sendAll.result)
    have surfaced := warned.trans (.single .surface)
    rwa [List.append_nil] at surfaced

theorem conclude_steps {connection : Connection σ κ} {receipt : Receipt σ κ}
    (read : Steps connection receipt.trace (connection.withReceipt receipt)) :
    Steps connection (connection.conclude receipt).trace
      (connection.conclude receipt).connection := by
  unfold conclude
  split
  · exact read
  · exact read.trans (surfaceFailure_steps _)

/-! Operations and runs. -/

theorem receiveAll_steps (connection : Connection σ κ) :
    Steps connection connection.receiveAll.trace connection.receiveAll.connection := by
  unfold receiveAll
  split
  · rename_i isClosed
    exact .single (.forget isClosed)
  · rename_i isOpen
    rw [Bool.not_eq_true] at isOpen
    exact .head (.ask isOpen (.inl rfl))
      (conclude_steps (receiveAll_read_steps isOpen))

theorem receiveOne_steps (connection : Connection σ κ) :
    Steps connection connection.receiveOne.trace connection.receiveOne.connection := by
  unfold receiveOne
  split
  · rename_i isClosed
    exact .single (.forget isClosed)
  · rename_i isOpen
    rw [Bool.not_eq_true] at isOpen
    exact .head (.ask isOpen (.inr rfl)) (conclude_steps (receiveInto_steps isOpen))

theorem sync_steps (connection : Connection σ κ) :
    Steps connection connection.sync.trace connection.sync.connection := by
  have sent := connection.sendAll_steps
  cases result : connection.sendAll.result with
  | error error =>
    rw [sync_of_error result]
    exact sent
  | ok count =>
    cases count with
    | zero =>
      rw [sync_of_none result]
      exact sent
    | succ count =>
      rw [sync_of_some result]
      exact sent.trans (receiveAll_steps _)

theorem close_steps (connection : Connection σ κ) :
    Steps connection connection.close.trace connection.close.connection := by
  cases isClosed : connection.closed with
  | false => exact .single (.close isClosed)
  | true =>
    simp only [close, isClosed, if_true]
    exact .single (.forget isClosed)

theorem log_steps (connection : Connection σ κ) (lines : List LogLine) :
    Steps connection (Trace.ofLines lines) connection := by
  induction lines with
  | nil => exact .refl connection
  | cons line rest ih => exact .head (.log line) ih

theorem perform_steps (connection : Connection σ κ) (operation : Operation κ) :
    Steps connection (connection.perform operation).trace
      (connection.perform operation).connection := by
  cases operation with
  | begin builder sink =>
    exact (connection.log_steps builder.notices).trans (.single (.enqueue _ sink))
  | sendAll => exact connection.sendAll_steps
  | receiveAll => exact connection.receiveAll_steps
  | receiveOne => exact connection.receiveOne_steps
  | sync => exact connection.sync_steps
  | close => exact connection.close_steps
  | _ => exact .single (.enqueue _ _)

theorem run_steps (connection : Connection σ κ) (operations : List (Operation κ)) :
    Steps connection (connection.traceOf operations) (connection.runFrom operations) := by
  induction operations generalizing connection with
  | nil => exact .refl connection
  | cons operation rest ih => exact (connection.perform_steps operation).trans (ih _)

theorem traceOf_append (connection : Connection σ κ) (before after : List (Operation κ)) :
    connection.traceOf (before ++ after) =
      connection.traceOf before ++ (connection.runFrom before).traceOf after := by
  induction before generalizing connection with
  | nil => rfl
  | cons operation rest ih =>
    have first (operations : List (Operation κ)) : connection.traceOf (operation :: operations) =
        (connection.perform operation).trace ++
          (connection.perform operation).connection.traceOf operations := rfl
    rw [List.cons_append, first, first, ih, List.append_assoc]
    rfl

end Connection
end PipelinedClient
