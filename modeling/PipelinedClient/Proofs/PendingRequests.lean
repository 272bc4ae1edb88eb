import PipelinedClient.Proofs.Accounting
import PipelinedClient.Proofs.Recovery
import PipelinedClient.Transport.Scripted

/-! Reading and the requests that are pending.

A read that returns no failure of the server leaves alone what is pending. One that
does return a failure sends what is pending before the reset, where a server that has
failed ignores it.
-/

set_option autoImplicit false

namespace PipelinedClient

variable {σ κ : Type} [Transport σ]

namespace Connection

/-- An operation hands over a reset at most, and what was pending stays pending with
its sinks. -/
structure LeavesPending (before : Connection σ κ) (performed : Performed σ κ Reply) : Prop where
  messages : performed.trace.messages = [] ∨ performed.trace.messages = [.reset]
  pending : performed.connection.pending = before.pending
  sinks : performed.connection.dispatcher.unsent = before.dispatcher.unsent

/-- An operation hands over what was pending with a reset behind it, as far as writing
succeeds; nothing stays pending. -/
structure FlushesPending (before : Connection σ κ) (performed : Performed σ κ Reply) : Prop where
  pending : performed.connection.pending = []
  sinks : performed.connection.dispatcher.unsent = []
  messages : performed.trace.messages <+: before.pending ++ [.reset]
  refused : before.writeFailed = true → performed.trace.messages = []
  complete : performed.connection.writeFailed = false →
    performed.trace.messages = before.pending ++ [.reset] ∧
      before.dispatcher.unsent ++ [.discard] <:+ performed.connection.dispatcher.sent

theorem read?_of_receives {connection : Connection σ κ} {operation : Operation κ}
    (receives : operation = .receiveAll ∨ operation = .receiveOne)
    (isOpen : connection.closed = false) :
    ∃ receipt, connection.read? operation = some (connection, receipt) := by
  rcases receives with rfl | rfl <;> simp [read?, isOpen]

theorem messages_of_receives {connection : Connection σ κ} {operation : Operation κ}
    {receipt : Receipt σ κ} (receives : operation = .receiveAll ∨ operation = .receiveOne)
    (found : connection.read? operation = some (connection, receipt)) :
    (connection.perform operation).trace.messages =
      (connection.resets receipt).flatMap fun entry => entry.sendAll.trace.messages := by
  rw [messages_perform, sendEntries, sendsReset, found]
  rcases receives with rfl | rfl <;> rfl

theorem leavesPending_of_silent {connection : Connection σ κ} {operation : Operation κ}
    (receives : operation = .receiveAll ∨ operation = .receiveOne)
    (isOpen : connection.closed = false)
    (silent : ∀ failure, (connection.perform operation).result ≠ .failed (.server failure)) :
    connection.LeavesPending (connection.perform operation) ∧
      (connection.perform operation).trace.messages = [] := by
  obtain ⟨receipt, found⟩ := read?_of_receives receives isOpen
  have ends := read?_ends found
  obtain ⟨after, trace, none⟩ := ends.silent silent
  have messages : (connection.perform operation).trace.messages = [] := by
    rw [messages_of_receives receives found, none]
    rfl
  refine ⟨⟨.inl messages, ?_, ?_⟩, messages⟩
  · rw [after]
    rfl
  · rw [after]
    exact ends.reads.unsent

theorem flushesPending_of_surfaced {connection : Connection σ κ} {operation : Operation κ}
    (paired : connection.Paired) (receives : operation = .receiveAll ∨ operation = .receiveOne)
    (isOpen : connection.closed = false) {failure : ServerError}
    (surfaced : (connection.perform operation).result = .failed (.server failure)) :
    connection.FlushesPending (connection.perform operation) := by
  obtain ⟨receipt, found⟩ := read?_of_receives receives isOpen
  obtain ⟨_, _, count, same, read, kept⟩ := (surfaces_iff connection operation failure).mp surfaced
  rw [found, Option.some.injEq, Prod.mk.injEq] at same
  obtain ⟨rfl, rfl⟩ := same
  have ends := read?_ends found
  obtain ⟨after, trace, one⟩ := ends.surfaced read kept
  have messages : (connection.perform operation).trace.messages =
      (connection.recovery receipt).sendAll.trace.messages := by
    rw [messages_of_receives receives found, one, List.flatMap_singleton]
  have pending : (connection.recovery receipt).pending = connection.pending ++ [.reset] := rfl
  have still : (connection.recovery receipt).Paired := paired_recovery paired ends.reads
  have nothing : (connection.perform operation).connection.pending = [] := by
    rw [after]
    exact pending_sendAll _
  have noSink : (connection.perform operation).connection.dispatcher.unsent = [] := by
    rw [after]
    exact unsent_sendAll still
  have written : (connection.perform operation).connection.writeFailed =
      (connection.recovery receipt).sendAll.connection.writeFailed := by
    rw [after]
  -- The reset is queued last, so sending it sends everything in front of it as well.
  rcases recovery_sends_or_fails isOpen receipt with sends | fails
  · have whole : (connection.perform operation).trace.messages =
        connection.pending ++ [.reset] := by
      rw [messages, sends.messages, pending]
    refine ⟨nothing, noSink, ⟨[], (List.append_nil _).trans whole⟩, ?_, ?_⟩
    · intro failed
      exact messages_perform_of_failed failed operation
    · intro _
      refine ⟨whole, ?_⟩
      have all : (connection.perform operation).connection.dispatcher.sent =
          (connection.recovery receipt).dispatcher.sent ++
            (connection.recovery receipt).dispatcher.unsent := by
        rw [after, ← sends.sent still]
        rfl
      rw [all, unsent_recovery ends.reads]
      exact List.suffix_append _ _
  · refine ⟨nothing, noSink, ?_, ?_, ?_⟩
    · rw [messages]
      exact fails.messages
    · intro failed
      exact messages_perform_of_failed failed operation
    · intro writable
      rw [written, fails.failed] at writable
      cases writable

end Connection

/-- In every open state that a run can reach, an operation that receives leaves what is
pending alone if and only if nothing is pending or no failure of the server is returned.
If one is, what was pending is handed over with the reset behind it; if none is, nothing
is handed over. -/
theorem receive_leaves_pending_iff (transport : σ) (debugEnabled legacyNames : Bool)
    (operations : List (Operation κ)) (operation : Operation κ)
    (receives : operation = .receiveAll ∨ operation = .receiveOne)
    (isOpen : ((Connection.fresh transport debugEnabled legacyNames).runFrom operations).closed =
      false) :
    let reached := (Connection.fresh transport debugEnabled legacyNames).runFrom operations
    let performed := reached.perform operation
    (reached.LeavesPending performed ↔
      reached.pending = [] ∨ ∀ failure, performed.result ≠ .failed (.server failure)) ∧
    ((∃ failure, performed.result = .failed (.server failure)) →
      reached.FlushesPending performed) ∧
    ((∀ failure, performed.result ≠ .failed (.server failure)) →
      performed.trace.messages = []) := by
  intro reached performed
  have paired : reached.Paired :=
    (Accounted.run transport debugEnabled legacyNames operations).aligned.paired
  have flushes : (∃ failure, performed.result = .failed (.server failure)) →
      reached.FlushesPending performed := by
    rintro ⟨failure, surfaced⟩
    exact Connection.flushesPending_of_surfaced paired receives isOpen surfaced
  have leaves : (∀ failure, performed.result ≠ .failed (.server failure)) →
      reached.LeavesPending performed ∧ performed.trace.messages = [] :=
    Connection.leavesPending_of_silent receives isOpen
  refine ⟨⟨?_, ?_⟩, flushes, fun silent => (leaves silent).2⟩
  · intro stays
    by_cases surfaced : ∃ failure, performed.result = .failed (.server failure)
    · left
      rw [← stays.pending]
      exact (flushes surfaced).pending
    · right
      intro failure result
      exact surfaced ⟨failure, result⟩
  · intro harmless
    by_cases surfaced : ∃ failure, performed.result = .failed (.server failure)
    · have flushed := flushes surfaced
      have empty : reached.pending = [] := by
        refine harmless.resolve_right ?_
        intro silent
        obtain ⟨failure, result⟩ := surfaced
        exact silent failure result
      have noSink : reached.dispatcher.unsent = [] := by
        rw [Connection.Paired, empty, List.length_nil] at paired
        exact List.eq_nil_of_length_eq_zero paired
      refine ⟨?_, flushed.pending.trans empty.symm, flushed.sinks.trans noSink.symm⟩
      have messages := flushed.messages
      rw [empty, List.prefix_concat_iff, List.prefix_nil] at messages
      exact messages.symm
    · refine (leaves ?_).1
      intro failure result
      exact surfaced ⟨failure, result⟩

section

def failedOnce : ScriptedTransport :=
  .ofReplies [.ok (.failure "Neo.ClientError.Statement.SyntaxError" "bad")] none none

def halfSent : List (Operation Nat) :=
  [.run "RETRUN 1" .empty (.handle 1), .sendAll, .pullAll (.handle 2)]

/-- The failure is returned, and the queued request went out before the reset. -/
theorem receive_flushes_pending_half_sent :
    let reached := (Connection.fresh failedOnce false true).runFrom halfSent
    let performed := reached.perform .receiveOne
    reached.closed = false ∧
      (reached.LeavesPending performed ↔
        reached.pending = [] ∨ ∀ failure, performed.result ≠ .failed (.server failure)) ∧
      reached.FlushesPending performed := by
  have isOpen : ((Connection.fresh failedOnce false true).runFrom halfSent).closed = false := rfl
  obtain ⟨exactly, flushes, _⟩ :=
    receive_leaves_pending_iff failedOnce false true halfSent .receiveOne (.inr rfl) isOpen
  exact ⟨isOpen, exactly, flushes ⟨_, rfl⟩⟩

/-- What was pending is not left alone: it is handed over and is pending no more. -/
theorem pending_not_left_half_sent :
    let reached := (Connection.fresh failedOnce false true).runFrom halfSent
    let performed := reached.perform .receiveOne
    reached.closed = false ∧ reached.pending = [.pullAll] ∧
      performed.trace.messages = [.pullAll, .reset] ∧ performed.connection.pending = [] ∧
      ¬reached.LeavesPending performed := by
  refine ⟨rfl, rfl, rfl, rfl, ?_⟩
  intro leaves
  have pending := leaves.pending
  cases pending

end

end PipelinedClient
