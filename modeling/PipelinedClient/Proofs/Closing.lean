import PipelinedClient.Proofs.FailedWrites

/-! Closing is final.

Once a connection was closed nothing waits, no failure is kept, and no step calls the
transport or signals to anybody. Requests can still be queued, and are dropped by whatever
would have sent them.
-/

set_option autoImplicit false

namespace PipelinedClient
namespace Connection

variable {σ κ : Type} [Transport σ]

structure Shut (connection : Connection σ κ) : Prop where
  closed : connection.closed = true
  waiting : connection.waiting = 0
  failure : connection.dispatcher.failure = none

theorem Step.shut {before after : Connection σ κ} {shown : Trace κ}
    (step : Step before shown after) (shut : before.Shut) :
    after.Shut ∧ shown.calls = [] ∧ shown.deliveries = [] := by
  have never {absurdity : Prop} (isOpen : before.closed = false) : absurdity := by
    rw [shut.closed] at isOpen
    cases isOpen
  cases step with
  | log | enqueue => exact ⟨⟨shut.closed, shut.waiting, shut.failure⟩, rfl, rfl⟩
  | surface => exact ⟨⟨shut.closed, shut.waiting, rfl⟩, rfl, rfl⟩
  | forget =>
    exact ⟨⟨shut.closed, rfl, rfl⟩, before.calls_dropping, Trace.filterMap_dropped _ fun _ => rfl⟩
  | ask isOpen | transmit isOpen | refuseWrite isOpen | fail isOpen | arrive isOpen
  | close isOpen => exact never isOpen

theorem Steps.shut {first last : Connection σ κ} {trace : Trace κ}
    (steps : Steps first trace last) (shut : first.Shut) :
    last.Shut ∧ trace.calls = [] ∧ trace.deliveries = [] := by
  induction steps with
  | refl => exact ⟨shut, rfl, rfl⟩
  | head step _ ih =>
    obtain ⟨still, calls, deliveries⟩ := step.shut shut
    obtain ⟨last, moreCalls, moreDeliveries⟩ := ih still
    rw [Trace.calls_append, Trace.deliveries_append, calls, deliveries]
    exact ⟨last, moreCalls, moreDeliveries⟩

/-- As long as a connection is open, its transport has not been stopped. -/
theorem Step.unstopped {before after : Connection σ κ} {shown : Trace κ}
    (step : Step before shown after) (isOpen : after.closed = false) :
    before.closed = false ∧ .stop ∉ shown.calls := by
  cases step with
  | transmit wasOpen =>
    obtain ⟨taken, unsent, failure, transmits⟩ := before.transmit_transmits
    refine ⟨wasOpen, ?_⟩
    rw [Trace.calls, transmits.filterMap_trace Event.call? fun _ => rfl]
    simp [Event.call?]
  | ask wasOpen reads =>
    refine ⟨wasOpen, ?_⟩
    rcases reads with rfl | rfl <;> simp [Trace.calls, Event.call?]
  | arrive wasOpen =>
    rename_i response _ _
    exact ⟨wasOpen, before.dispatcher.calls_arrival response before.waiting ▸ List.not_mem_nil⟩
  | refuseWrite | forget => exact ⟨isOpen, before.calls_dropping ▸ List.not_mem_nil⟩
  | close wasOpen => simp [Connection.close, wasOpen] at isOpen
  | _ => exact ⟨isOpen, List.not_mem_nil⟩

theorem Steps.unstopped {first last : Connection σ κ} {trace : Trace κ}
    (steps : Steps first trace last) (isOpen : last.closed = false) :
    first.closed = false ∧ .stop ∉ trace.calls := by
  -- Openness is passed on from the last connection to the first.
  induction steps with
  | refl => exact ⟨isOpen, List.not_mem_nil⟩
  | head step _ ih =>
    obtain ⟨stays, later⟩ := ih isOpen
    obtain ⟨wasOpen, here⟩ := step.unstopped stays
    rw [Trace.calls_append, List.mem_append]
    exact ⟨wasOpen, not_or.mpr ⟨here, later⟩⟩

/-! Operations on a connection that was closed. -/

theorem receiveAll_of_closed {connection : Connection σ κ} (isClosed : connection.closed = true) :
    connection.receiveAll = connection.refuse := by
  rw [receiveAll, if_pos isClosed]

theorem receiveOne_of_closed {connection : Connection σ κ} (isClosed : connection.closed = true) :
    connection.receiveOne = connection.refuse := by
  rw [receiveOne, if_pos isClosed]

theorem sync_of_closed {connection : Connection σ κ} (isClosed : connection.closed = true) :
    connection.sync = connection.refuse := by
  have sent : connection.sendAll.result = .error .closed := by rw [sendAll_of_closed isClosed]; rfl
  rw [sync_of_error sent, sendAll_of_closed isClosed]
  rfl

def exchanges : List (Operation κ) := [.sendAll, .receiveAll, .receiveOne, .sync]

theorem perform_of_closed {connection : Connection σ κ} (isClosed : connection.closed = true)
    {operation : Operation κ} (exchange : operation ∈ exchanges) :
    connection.perform operation =
      ⟨.failed .closed, connection.forget, connection.dropping⟩ := by
  simp only [exchanges, List.mem_cons, List.not_mem_nil, or_false] at exchange
  rcases exchange with rfl | rfl | rfl | rfl
  · rw [perform, sendAll_of_closed isClosed]
    rfl
  · rw [perform, receiveAll_of_closed isClosed]
    rfl
  · rw [perform, receiveOne_of_closed isClosed]
    rfl
  · rw [perform, sync_of_closed isClosed]
    rfl

theorem reply_of_closed {connection : Connection σ κ} (isClosed : connection.closed = true)
    (operation : Operation κ) :
    (connection.perform operation).result = .none ∨
      (connection.perform operation).result = .failed .closed := by
  cases operation with
  | sendAll | receiveAll | receiveOne | sync =>
    refine .inr ?_
    rw [perform_of_closed isClosed (by simp [exchanges])]
  | _ => exact .inl rfl

theorem replies_of_shut {connection : Connection σ κ} (shut : connection.Shut)
    (operations : List (Operation κ)) :
    ∀ reply ∈ connection.replies operations, reply = .none ∨ reply = .failed .closed := by
  induction operations generalizing connection with
  | nil =>
    intro reply member
    cases member
  | cons operation rest ih =>
    have still := ((connection.perform_steps operation).shut shut).1
    have all : connection.replies (operation :: rest) = (connection.perform operation).result ::
        (connection.perform operation).connection.replies rest := rfl
    rw [all]
    intro reply member
    rcases List.mem_cons.mp member with rfl | later
    · exact reply_of_closed shut.closed operation
    · exact ih still reply later

theorem shut_close {connection : Connection σ κ} (isOpen : connection.closed = false) :
    (connection.perform .close).connection.Shut ∧
      (connection.perform .close).trace = .called .stop :: connection.dropping := by
  refine ⟨?_, trace_close isOpen⟩
  simp only [perform, close, isOpen, Bool.false_eq_true, if_false]
  exact ⟨rfl, rfl, rfl⟩

structure StaysShut (connection : Connection σ κ) (continuation : List (Operation κ)) : Prop where
  calls : (connection.traceOf continuation).calls = []
  deliveries : (connection.traceOf continuation).deliveries = []
  replies : ∀ reply ∈ connection.replies continuation, reply = .none ∨ reply = .failed .closed
  waiting : (connection.runFrom continuation).waiting = 0
  isOpen : (connection.runFrom continuation).isOpen = false
  refuses : ∀ operation ∈ exchanges,
    let refused := (connection.runFrom continuation).perform operation
    refused.result = .failed .closed ∧ refused.connection.pendingCount = 0 ∧
      refused.connection.waiting = 0

theorem Shut.stays {connection : Connection σ κ} (shut : connection.Shut)
    (continuation : List (Operation κ)) : connection.StaysShut continuation := by
  obtain ⟨still, calls, deliveries⟩ := (connection.run_steps continuation).shut shut
  refine ⟨calls, deliveries, replies_of_shut shut continuation, still.waiting, ?isOpen, ?refuses⟩
  case isOpen => simp [Connection.isOpen, still.closed]
  case refuses =>
    intro operation exchange
    rw [perform_of_closed still.closed exchange]
    exact ⟨rfl, rfl, rfl⟩

end Connection

/-- Wherever a connection stands when it is closed for the first time: closing stops the
transport, this is the only time, and nothing is called, signalled or raised afterwards,
whatever is asked for. -/
theorem closing_is_final {σ κ : Type} [Transport σ] (connection : Connection σ κ)
    (before after : List (Operation κ)) (isOpen : connection.closed = false)
    (first : .close ∉ before) :
    let closing := (connection.runFrom before).perform .close
    (connection.traceOf (before ++ .close :: after)).calls.count .stop = 1 ∧
      closing.trace.calls = [.stop] ∧ closing.trace.deliveries = [] ∧
      closing.connection.StaysShut after := by
  have stillOpen : (connection.runFrom before).closed = false :=
    (connection.closed_runFrom first).trans isOpen
  obtain ⟨shut, shown⟩ := Connection.shut_close stillOpen
  have stays := shut.stays after
  have calls : ((connection.runFrom before).perform .close).trace.calls = [.stop] :=
    Connection.calls_close stillOpen
  refine ⟨?_, calls, ?_, stays⟩
  · have unstopped := ((connection.run_steps before).unstopped stillOpen).2
    have rest : (connection.runFrom before).traceOf (.close :: after) =
        ((connection.runFrom before).perform .close).trace ++
          ((connection.runFrom before).perform .close).connection.traceOf after := rfl
    rw [Connection.traceOf_append, rest, Trace.calls_append, Trace.calls_append, calls,
      stays.calls, List.count_append, List.count_eq_zero.mpr unstopped]
    rfl
  · rw [shown]
    exact Trace.filterMap_dropped _ fun _ => rfl

section

/-- One request waits for an answer, another is queued, a failure was read but not raised, and
a write has failed. -/
def unsettled : Connection ScriptedTransport Nat where
  transport := .ofReplies [.ok .ignored] none none
  pending := [.commit]
  dispatcher := ⟨[.handle 1, .handle 2], 1,
    some (.ofReport "Neo.ClientError.Statement.SyntaxError" "bad"), true, by decide⟩
  debugEnabled := true
  legacyNames := true
  writeFailed := true
  closed := false

/-- One more request is queued before the close; what follows queues, reads, closes again and
sends. -/
theorem closing_is_final_unsettled :
    let after : List (Operation Nat) :=
      [.run "RETURN 1" .empty (.handle 4), .receiveAll, .close, .pullAll (.handle 5), .sync]
    let closing := (unsettled.runFrom [.pullAll (.handle 3)]).perform .close
    (unsettled.traceOf ([.pullAll (.handle 3)] ++ .close :: after)).calls.count .stop = 1 ∧
      closing.trace.calls = [.stop] ∧ closing.trace.deliveries = [] ∧
      closing.connection.StaysShut after :=
  closing_is_final unsettled [.pullAll (.handle 3)] _ rfl (by simp)

end

end PipelinedClient
