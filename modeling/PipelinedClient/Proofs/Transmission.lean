import PipelinedClient.Connection.Operation
import PipelinedClient.Proofs.Ledger

/-! Handing the queue to the transport.

By its contract the transport takes a front part of what is queued. The rest is
dropped with its sinks, and what was taken waits for answers behind what waited
before.
-/

set_option autoImplicit false

namespace PipelinedClient
namespace Connection

variable {σ κ : Type}

theorem onlyDebug_debugLine (connection : Connection σ κ) (text : String) :
    (connection.debugLine text).OnlyDebug := by
  intro event member
  unfold debugLine at member
  split at member
  · exact ⟨text, List.mem_singleton.mp member⟩
  · cases member

theorem onlyDebug_announced (connection : Connection σ κ) : connection.announced.OnlyDebug := by
  intro event member
  obtain ⟨message, _, inside⟩ := List.mem_flatMap.mp member
  exact connection.onlyDebug_debugLine _ event inside

theorem onlyDebug_sendReport (connection : Connection σ κ) (unsent : Nat)
    (failure : Option IoError) : (connection.sendReport unsent failure).OnlyDebug := by
  cases failure with
  | none =>
    intro event member
    cases member
  | some failure => exact connection.onlyDebug_debugLine _

/-- There are as many sinks of unsent requests as there are pending requests. -/
def Paired (connection : Connection σ κ) : Prop :=
  connection.dispatcher.unsent.length = connection.pending.length

theorem refuseWrite_queues {connection : Connection σ κ} (paired : connection.Paired) :
    connection.refuseWrite.connection.dispatcher.sent = connection.dispatcher.sent ∧
      connection.refuseWrite.connection.dispatcher.unsent = [] := by
  have dropped := connection.dispatcher.discardNewest_queues connection.pending.length
    (Nat.le_of_eq paired.symm)
  rw [paired, Nat.sub_self, List.take_zero] at dropped
  exact dropped

variable [Transport σ]

def sendResult (taken : Nat) : Option IoError → Except Error Nat
  | none => .ok taken
  | some failure => .error (.sendFailed failure)

/-- All that handing over the queue comes to, told by what the transport took. -/
structure Transmits (connection : Connection σ κ) (taken unsent : List Message)
    (failure : Option IoError) : Prop where
  pending : connection.pending = taken ++ unsent
  complete : failure = none → unsent = []
  answer : (Transport.sendAll connection.transport connection.pending).1 = ⟨unsent, failure⟩
  result : connection.transmit.result = sendResult taken.length failure
  after : connection.transmit.connection = { connection with
    transport := (Transport.sendAll connection.transport connection.pending).2
    pending := []
    dispatcher := (connection.dispatcher.discardNewest unsent.length).markSent taken.length
    writeFailed := connection.writeFailed || failure.isSome }
  trace : connection.transmit.trace =
    connection.announced ++ .called .sendAll ::
      (taken.map Event.taken ++ unsent.map Event.dropped) ++
        connection.sendReport unsent.length failure

theorem transmit_transmits (connection : Connection σ κ) :
    ∃ taken unsent failure, connection.Transmits taken unsent failure := by
  obtain ⟨taken, whole⟩ := Transport.unsent_suffix connection.transport connection.pending
  have complete := Transport.unsent_eq_nil connection.transport connection.pending
  generalize sent : Transport.sendAll connection.transport connection.pending = answer at *
  obtain ⟨⟨unsent, failure⟩, transport⟩ := answer
  have count : connection.pending.length - unsent.length = taken.length := by
    rw [← whole, List.length_append, Nat.add_sub_cancel]
  -- The trace names what was taken by a count, the contract by the suffix that is left.
  have front : connection.pending.take taken.length = taken := by
    rw [← whole, List.take_left]
  refine ⟨taken, unsent, failure, whole.symm, complete, by rw [sent], ?_, ?_, ?_⟩
  · cases failure <;> simp [transmit, sendResult, sent, count]
  · cases failure <;> simp [transmit, sent, count]
  · cases failure <;> simp [transmit, sent, count, front]

theorem Transmits.filterMap_trace {connection : Connection σ κ} {taken unsent : List Message}
    {failure : Option IoError} (transmits : connection.Transmits taken unsent failure)
    {α : Type} (find : Event κ → Option α)
    (blind : ∀ text, find (.logged (.line .debug text)) = none) :
    connection.transmit.trace.filterMap find =
      (find (.called .sendAll)).toList ++
        (taken.filterMap (fun message => find (.taken message)) ++
          unsent.filterMap (fun message => find (.dropped message))) := by
  rw [transmits.trace, List.filterMap_append, List.filterMap_append, List.filterMap_cons,
    connection.onlyDebug_announced.filterMap_eq_nil blind,
    (connection.onlyDebug_sendReport _ _).filterMap_eq_nil blind, List.filterMap_append,
    List.filterMap_map, List.filterMap_map, List.nil_append, List.append_nil]
  cases find (.called .sendAll) <;> rfl

theorem Transmits.filterMap_trace_eq_nil {connection : Connection σ κ}
    {taken unsent : List Message} {failure : Option IoError}
    (transmits : connection.Transmits taken unsent failure) {α : Type}
    {find : Event κ → Option α} (noDebug : ∀ text, find (.logged (.line .debug text)) = none)
    (noCall : find (.called .sendAll) = none)
    (noTaken : ∀ message, find (.taken message) = none)
    (noDropped : ∀ message, find (.dropped message) = none) :
    connection.transmit.trace.filterMap find = [] := by
  rw [transmits.filterMap_trace find noDebug, noCall]
  simp [noTaken, noDropped]

theorem Transmits.messages_trace {connection : Connection σ κ} {taken unsent : List Message}
    {failure : Option IoError} (transmits : connection.Transmits taken unsent failure) :
    connection.transmit.trace.messages = taken := by
  rw [Trace.messages, transmits.filterMap_trace Event.message? fun _ => rfl]
  simp [Event.message?]

theorem Transmits.queues {connection : Connection σ κ} {taken unsent : List Message}
    {failure : Option IoError} (transmits : connection.Transmits taken unsent failure)
    (paired : connection.Paired) :
    connection.transmit.connection.dispatcher.sent =
        connection.dispatcher.sent ++ connection.dispatcher.unsent.take taken.length ∧
      connection.transmit.connection.dispatcher.unsent = [] := by
  have length : connection.dispatcher.unsent.length = taken.length + unsent.length := by
    rw [paired, transmits.pending, List.length_append]
  -- Dropping first leaves exactly as many unsent sinks as there are requests to mark.
  have dropped := connection.dispatcher.discardNewest_queues unsent.length (by omega)
  have marked := (connection.dispatcher.discardNewest unsent.length).markSent_queues taken.length
  rw [dropped.1, dropped.2, length, Nat.add_sub_cancel] at marked
  rw [transmits.after]
  refine ⟨marked.1.trans ?_, marked.2.trans ?_⟩
  · rw [List.take_take, Nat.min_self]
  · exact List.drop_take_self

/-! What sending leaves, whether or not the transport is asked. -/

theorem pending_sendAll (connection : Connection σ κ) :
    connection.sendAll.connection.pending = [] := by
  unfold sendAll
  split
  · rfl
  · split
    · rename_i nothing
      exact List.isEmpty_iff.mp nothing
    · split
      · rfl
      · obtain ⟨taken, unsent, failure, transmits⟩ := connection.transmit_transmits
        rw [transmits.after]

theorem closed_sendAll (connection : Connection σ κ) :
    connection.sendAll.connection.closed = connection.closed := by
  unfold sendAll
  split
  · rfl
  · split
    · rfl
    · split
      · rfl
      · obtain ⟨taken, unsent, failure, transmits⟩ := connection.transmit_transmits
        rw [transmits.after]

theorem failure_sendAll {connection : Connection σ κ} (isOpen : connection.closed = false) :
    connection.sendAll.connection.dispatcher.failure = connection.dispatcher.failure := by
  unfold sendAll
  rw [isOpen, if_neg Bool.false_ne_true]
  split
  · rfl
  · split
    · rfl
    · obtain ⟨taken, unsent, failure, transmits⟩ := connection.transmit_transmits
      rw [transmits.after]
      rfl

/-- Sending shows debug lines, a call, and what became of the requests. -/
theorem filterMap_sendAll (connection : Connection σ κ) {α : Type} (find : Event κ → Option α)
    (noDebug : ∀ text, find (.logged (.line .debug text)) = none)
    (noCall : find (.called .sendAll) = none)
    (noTaken : ∀ message, find (.taken message) = none)
    (noDropped : ∀ message, find (.dropped message) = none) :
    connection.sendAll.trace.filterMap find = [] := by
  unfold sendAll
  split
  · exact Trace.filterMap_dropped _ noDropped
  · split
    · rfl
    · split
      · exact Trace.filterMap_dropped _ noDropped
      · obtain ⟨taken, unsent, failure, transmits⟩ := connection.transmit_transmits
        exact transmits.filterMap_trace_eq_nil noDebug noCall noTaken noDropped

theorem trace_close {connection : Connection σ κ} (isOpen : connection.closed = false) :
    connection.close.trace = .called .stop :: connection.dropping := by
  simp [Connection.close, isOpen]

theorem unsent_sendAll {connection : Connection σ κ} (paired : connection.Paired) :
    connection.sendAll.connection.dispatcher.unsent = [] := by
  unfold sendAll
  split
  · rfl
  · split
    · rename_i nothing
      rw [Paired, List.isEmpty_iff.mp nothing, List.length_nil] at paired
      exact List.eq_nil_of_length_eq_zero paired
    · split
      · exact (refuseWrite_queues paired).2
      · obtain ⟨taken, unsent, failure, transmits⟩ := connection.transmit_transmits
        exact (transmits.queues paired).2

structure SendsAll (connection : Connection σ κ) : Prop where
  result : connection.sendAll.result = .ok connection.pending.length
  messages : connection.sendAll.trace.messages = connection.pending
  writable : connection.writeFailed = false
  stays : connection.sendAll.connection.writeFailed = false
  sent : connection.Paired → connection.sendAll.connection.dispatcher.sent =
    connection.dispatcher.sent ++ connection.dispatcher.unsent

structure SendFails (connection : Connection σ κ) : Prop where
  result : ∃ error, connection.sendAll.result = .error error ∧ error.kind? = some .send
  messages : connection.sendAll.trace.messages <+: connection.pending
  failed : connection.sendAll.connection.writeFailed = true

theorem messages_sendAll_of_failed {connection : Connection σ κ}
    (failed : connection.writeFailed = true) : connection.sendAll.trace.messages = [] := by
  cases isOpen : connection.closed with
  | true =>
    rw [sendAll_of_closed isOpen]
    exact Trace.filterMap_dropped _ fun _ => rfl
  | false =>
    by_cases nothing : connection.pending = []
    · rw [sendAll_of_nothing isOpen nothing]
      rfl
    · rw [sendAll_of_failed isOpen nothing failed]
      exact Trace.filterMap_dropped _ fun _ => rfl

/-- On an open connection sending hands over everything, or a write has failed. -/
theorem sends_or_fails {connection : Connection σ κ} (isOpen : connection.closed = false)
    (something : connection.pending ≠ []) : connection.SendsAll ∨ connection.SendFails := by
  cases writable : connection.writeFailed with
  | true =>
    have refused := sendAll_of_failed isOpen something writable
    have messages := messages_sendAll_of_failed writable
    right
    refine ⟨⟨.writeRefused, ?_, rfl⟩, ?_, ?_⟩
    · rw [refused]
      rfl
    · rw [messages]
      exact List.nil_prefix
    · rw [refused]
      exact writable
  | false =>
    have handed := sendAll_of_writable isOpen something writable
    obtain ⟨taken, unsent, failure, transmits⟩ := connection.transmit_transmits
    have messages := transmits.messages_trace
    have result := transmits.result
    have after := transmits.after
    have whole := transmits.pending
    cases failure with
    | none =>
      have complete : unsent = [] := transmits.complete rfl
      rw [complete, List.append_nil] at whole
      left
      refine ⟨?_, ?_, writable, ?_, ?_⟩
      · rw [handed, result, whole]
        rfl
      · rw [handed, messages, whole]
      · rw [handed, after, writable]
        rfl
      · intro paired
        rw [handed, (transmits.queues paired).1, ← whole, ← paired, List.take_length]
    | some failure =>
      right
      refine ⟨⟨.sendFailed failure, ?_, rfl⟩, ?_, ?_⟩
      · rw [handed, result]
        rfl
      · rw [handed, messages, whole]
        exact List.prefix_append taken unsent
      · rw [handed, after]
        exact Bool.or_true _

theorem sendAll_result_ne_server (connection : Connection σ κ) (failure : ServerError) :
    connection.sendAll.result ≠ .error (.server failure) := by
  intro result
  cases isOpen : connection.closed with
  | true =>
    rw [sendAll_of_closed isOpen] at result
    cases result
  | false =>
    by_cases nothing : connection.pending = []
    · rw [sendAll_of_nothing isOpen nothing] at result
      cases result
    · rcases sends_or_fails isOpen nothing with sends | fails
      · rw [sends.result] at result
        cases result
      · obtain ⟨error, failed, kind⟩ := fails.result
        rw [failed, Except.error.injEq] at result
        rw [result] at kind
        cases kind

end Connection
end PipelinedClient
