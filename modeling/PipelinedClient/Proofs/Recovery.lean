import PipelinedClient.Proofs.Reading
import PipelinedClient.Proofs.Steps
import PipelinedClient.Proofs.Transmission

/-! Operations that read, and how they end.

If the read succeeds and a failure is kept, the operation queues a reset, sends it with
all that is pending, and returns the failure. It returns no failure of the server
otherwise, and no other operation ever does.
-/

set_option autoImplicit false

namespace PipelinedClient

namespace Connection

variable {σ κ : Type}

/-- The reset that recovers from a failure, behind all that is pending already. -/
def recovery (connection : Connection σ κ) (receipt : Receipt σ κ) : Connection σ κ :=
  (connection.withReceipt receipt).enqueue .reset .discard

theorem unsent_recovery {base : Connection σ κ} {receipt : Receipt σ κ}
    (reads : receipt.Reads base.dispatcher) :
    (base.recovery receipt).dispatcher.unsent = base.dispatcher.unsent ++ [.discard] := by
  rw [← reads.unsent]
  exact (receipt.dispatcher.append_queues .discard).2

theorem paired_recovery {base : Connection σ κ} {receipt : Receipt σ κ} (paired : base.Paired)
    (reads : receipt.Reads base.dispatcher) : (base.recovery receipt).Paired := by
  have pending : (base.recovery receipt).pending = base.pending ++ [.reset] := rfl
  rw [Paired, unsent_recovery reads, pending, List.length_append, List.length_append, paired]
  rfl

variable [Transport σ]

theorem conclude_of_error (connection : Connection σ κ) {receipt : Receipt σ κ} {failure : IoError}
    (failed : receipt.outcome = .error failure) :
    connection.conclude receipt =
      ⟨.error (.receiveFailed failure), connection.withReceipt receipt, receipt.trace⟩ := by
  simp [conclude, failed]

theorem conclude_of_none (connection : Connection σ κ) {receipt : Receipt σ κ} {count : Nat}
    (read : receipt.outcome = .ok count) (none : receipt.dispatcher.failure = none) :
    connection.conclude receipt =
      ⟨.ok count, connection.withReceipt receipt, receipt.trace⟩ := by
  have surfaced : (connection.withReceipt receipt).surfaceFailure =
      ⟨.none, connection.withReceipt receipt, []⟩ := surfaceFailure_of_none none
  simp [conclude, read, surfaced]

theorem conclude_of_some {connection : Connection σ κ} {receipt : Receipt σ κ} {count : Nat}
    {failure : ServerError} (isOpen : connection.closed = false)
    (read : receipt.outcome = .ok count) (kept : receipt.dispatcher.failure = some failure) :
    connection.conclude receipt =
      let reset := (connection.recovery receipt).sendAll
      ⟨.error (.server failure),
        { reset.connection with dispatcher := reset.connection.dispatcher.takeFailure.2 },
        receipt.trace ++
          (.queued .reset .discard :: reset.trace ++ resetWarnings reset.result)⟩ := by
  -- The failure is taken from the connection that sending leaves, where it is still kept.
  have still : (connection.withReceipt receipt).dispatcher.failure = some failure := kept
  have stays : (connection.recovery receipt).sendAll.connection.dispatcher.failure =
      (connection.recovery receipt).dispatcher.failure := failure_sendAll isOpen
  have same : (connection.recovery receipt).dispatcher.failure = some failure := kept
  rw [same] at stays
  simp only [recovery] at stays ⊢
  simp only [conclude, read, surfaceFailure_of_some still, stays]

/-- The read that an operation makes, if it makes one: on which connection, and what
comes of it. -/
def read? (connection : Connection σ κ) : Operation κ → Option (Connection σ κ × Receipt σ κ)
  | .receiveAll =>
    if connection.closed then none
    else some (connection, Transport.receiveAll connection.transport connection.dispatcher)
  | .receiveOne =>
    if connection.closed then none
    else some (connection, Transport.receiveInto connection.transport connection.dispatcher)
  | .sync =>
    match connection.sendAll.result with
    | .ok (_ + 1) =>
      let sent := connection.sendAll.connection
      some (sent, Transport.receiveAll sent.transport sent.dispatcher)
    | _ => none
  | _ => none

def resets (connection : Connection σ κ) (receipt : Receipt σ κ) : List (Connection σ κ) :=
  match receipt.outcome, receipt.dispatcher.failure with
  | .ok _, some _ => [connection.recovery receipt]
  | _, _ => []

def request? (connection : Connection σ κ) : Operation κ → Option (Entry κ)
  | .init clientName authToken => some ⟨.init clientName authToken, .discard⟩
  | .run statement parameters sink => some ⟨.run statement parameters, sink⟩
  | .discardAll => some ⟨.discardAll, .discard⟩
  | .pullAll sink => some ⟨.pullAll, sink⟩
  | .reset sink => some ⟨.reset, sink⟩
  | .begin builder sink => some ⟨.begin (connection.transactionMetadata builder), sink⟩
  | .beginWith metadata sink => some ⟨.begin metadata, sink⟩
  | .commit sink => some ⟨.commit, sink⟩
  | .rollback sink => some ⟨.rollback, sink⟩
  | _ => none

def sendsFirst (connection : Connection σ κ) : Operation κ → List (Connection σ κ)
  | .sendAll | .sync => [connection]
  | _ => []

def sendsReset (connection : Connection σ κ) (operation : Operation κ) :
    List (Connection σ κ) :=
  match connection.read? operation with
  | some (base, receipt) => base.resets receipt
  | none => []

def sendEntries (connection : Connection σ κ) (operation : Operation κ) :
    List (Connection σ κ) :=
  connection.sendsFirst operation ++ connection.sendsReset operation

def lead (connection : Connection σ κ) (operation : Operation κ) : Trace κ :=
  (connection.sendsFirst operation).flatMap (fun entry => entry.sendAll.trace) ++
    match operation with
    | .receiveOne => [.called .receiveOne]
    | _ => [.called .receiveAll]

/-- An operation that reads is the end of a read, after events that concern no response. -/
structure Ends (connection : Connection σ κ) (operation : Operation κ) (base : Connection σ κ)
    (receipt : Receipt σ κ) : Prop where
  wasOpen : connection.closed = false
  isOpen : base.closed = false
  reads : receipt.Reads base.dispatcher
  before : Steps connection (connection.lead operation) base
  read : Steps base receipt.trace (base.withReceipt receipt)
  kept : base.dispatcher.failure = connection.dispatcher.failure
  after : (connection.perform operation).connection = (base.conclude receipt).connection
  trace : (connection.perform operation).trace =
    connection.lead operation ++ (base.conclude receipt).trace
  failed : ∀ error, (connection.perform operation).result = .failed error ↔
    (base.conclude receipt).result = .error error
  noRequest : connection.request? operation = none

theorem isOpen_of_sent {connection : Connection σ κ} {count : Nat}
    (sent : connection.sendAll.result = .ok count) : connection.closed = false := by
  cases isClosed : connection.closed with
  | false => rfl
  | true =>
    rw [sendAll_of_closed isClosed] at sent
    cases sent

theorem read?_ends {connection base : Connection σ κ} {operation : Operation κ}
    {receipt : Receipt σ κ} (found : connection.read? operation = some (base, receipt)) :
    connection.Ends operation base receipt := by
  cases operation with
  | receiveAll =>
    cases isOpen : connection.closed with
    | true => simp [read?, isOpen] at found
    | false =>
      obtain ⟨rfl, rfl⟩ : connection = base ∧ _ = receipt := by simpa [read?, isOpen] using found
      refine ⟨isOpen, isOpen, Transport.receiveAll_reads _ _, .single (.ask isOpen (.inl rfl)),
        receiveAll_read_steps isOpen, rfl, ?_, ?_, ?_, rfl⟩
      · simp only [perform, receiveAll_of_open isOpen]
      · simp only [perform, receiveAll_of_open isOpen]
        rfl
      · intro error
        simp only [perform, receiveAll_of_open isOpen, Reply.ofCount_eq_failed]
  | receiveOne =>
    cases isOpen : connection.closed with
    | true => simp [read?, isOpen] at found
    | false =>
      obtain ⟨rfl, rfl⟩ : connection = base ∧ _ = receipt := by simpa [read?, isOpen] using found
      refine ⟨isOpen, isOpen, Transport.receiveInto_reads _ _, .single (.ask isOpen (.inr rfl)),
        receiveInto_steps isOpen, rfl, ?_, ?_, ?_, rfl⟩
      · simp only [perform, receiveOne_of_open isOpen]
      · simp only [perform, receiveOne_of_open isOpen]
        rfl
      · intro error
        simp only [perform, receiveOne_of_open isOpen, Reply.ofUnit_eq_failed]
  | sync =>
    simp only [read?] at found
    split at found
    · rename_i count sent
      obtain ⟨rfl, rfl⟩ : connection.sendAll.connection = base ∧ _ = receipt := by
        simpa using found
      -- Something was sent, so the second half of the operation does not find it closed.
      have wasOpen := isOpen_of_sent sent
      have isOpen : connection.sendAll.connection.closed = false :=
        connection.closed_sendAll.trans wasOpen
      have before : connection.lead .sync = connection.sendAll.trace ++ [.called .receiveAll] := by
        simp only [lead, sendsFirst, List.flatMap_singleton]
      refine ⟨wasOpen, isOpen, Transport.receiveAll_reads _ _, ?_, receiveAll_read_steps isOpen,
        failure_sendAll wasOpen, ?_, ?_, ?_, rfl⟩
      · rw [before]
        exact connection.sendAll_steps.trans (.single (.ask isOpen (.inl rfl)))
      · simp only [perform, sync_of_some sent, receiveAll_of_open isOpen]
      · simp only [perform, sync_of_some sent, receiveAll_of_open isOpen, before,
          List.append_assoc, List.singleton_append]
      · intro error
        simp only [perform, sync_of_some sent, receiveAll_of_open isOpen, Reply.ofUnit_eq_failed]
    · cases found
  | _ => cases found

theorem read?_receiveAll {connection : Connection σ κ} (isOpen : connection.closed = false) :
    connection.read? .receiveAll =
      some (connection, Transport.receiveAll connection.transport connection.dispatcher) := by
  simp [read?, isOpen]

theorem sendEntries_steps {connection entry : Connection σ κ} {operation : Operation κ}
    (entered : entry ∈ connection.sendEntries operation) :
    ∃ trace, Steps connection trace entry := by
  rcases List.mem_append.mp entered with first | reset
  · have same : entry = connection := by
      unfold sendsFirst at first
      split at first
      · exact List.mem_singleton.mp first
      · exact List.mem_singleton.mp first
      · cases first
    exact ⟨[], same ▸ .refl connection⟩
  · unfold sendsReset at reset
    split at reset
    · rename_i base receipt found
      have ends := read?_ends found
      unfold resets at reset
      split at reset
      · rw [List.mem_singleton.mp reset]
        exact ⟨_, ends.before.trans (ends.read.trans (.single (.enqueue .reset .discard)))⟩
      · cases reset
    · cases reset

inductive Unread (connection : Connection σ κ) (operation : Operation κ) : Prop where
  | queues {entry : Entry κ} (notices : List LogLine) :
      connection.request? operation = some entry → connection.sendsFirst operation = [] →
      connection.perform operation =
        ⟨.none, connection.enqueue entry.message entry.sink,
          Trace.ofLines notices ++ [entry.event]⟩ →
      Unread connection operation
  | sends {result : Reply} :
      connection.request? operation = none → connection.sendsFirst operation = [connection] →
      connection.perform operation =
        ⟨result, connection.sendAll.connection, connection.sendAll.trace⟩ →
      (∀ error, result = .failed error → connection.sendAll.result = .error error) →
      Unread connection operation
  | refuses :
      connection.request? operation = none → connection.sendsFirst operation = [] →
      connection.closed = true →
      connection.perform operation =
        ⟨.failed .closed, connection.forget, connection.dropping⟩ →
      Unread connection operation
  | closes : operation = .close → Unread connection operation

theorem unread_cases {connection : Connection σ κ} {operation : Operation κ}
    (unread : connection.read? operation = none) : connection.Unread operation := by
  cases operation with
  | begin builder sink => exact .queues builder.notices rfl rfl rfl
  | sendAll =>
    exact .sends rfl rfl rfl fun error failed => (Reply.ofCount_eq_failed _ error).mp failed
  | receiveAll =>
    cases isClosed : connection.closed with
    | true =>
      refine .refuses rfl rfl isClosed ?_
      simp [perform, receiveAll, isClosed, refuse, Reply.ofCount]
    | false => simp [read?, isClosed] at unread
  | receiveOne =>
    cases isClosed : connection.closed with
    | true =>
      refine .refuses rfl rfl isClosed ?_
      simp [perform, receiveOne, isClosed, refuse, Reply.ofUnit]
    | false => simp [read?, isClosed] at unread
  | sync =>
    cases sent : connection.sendAll.result with
    | error error =>
      refine .sends rfl rfl (by simp only [perform, sync_of_error sent]; rfl) ?_
      rintro other ⟨⟩
      exact sent
    | ok count =>
      cases count with
      | zero =>
        refine .sends rfl rfl (by simp only [perform, sync_of_none sent]; rfl) ?_
        rintro other ⟨⟩
      | succ count => simp [read?, sent] at unread
  | close => exact .closes rfl
  | _ => exact .queues [] rfl rfl rfl

theorem conclude_surfaces_iff {connection : Connection σ κ} (isOpen : connection.closed = false)
    (receipt : Receipt σ κ) (failure : ServerError) :
    (connection.conclude receipt).result = .error (.server failure) ↔
      ∃ count, receipt.outcome = .ok count ∧ receipt.dispatcher.failure = some failure := by
  cases read : receipt.outcome with
  | error failed =>
    rw [conclude_of_error connection read]
    constructor
    · intro same
      rw [Error.receiveFailed] at same
      split at same <;> cases same
    · rintro ⟨count, impossible, _⟩
      cases impossible
  | ok count =>
    cases kept : receipt.dispatcher.failure with
    | none =>
      rw [conclude_of_none connection read kept]
      simp
    | some first =>
      rw [conclude_of_some isOpen read kept]
      simp

/-- A failure of the server is returned exactly by the operations that read, if the read
succeeds and leaves that failure kept. -/
theorem surfaces_iff (connection : Connection σ κ) (operation : Operation κ)
    (failure : ServerError) :
    (connection.perform operation).result = .failed (.server failure) ↔
      ∃ base receipt count, connection.read? operation = some (base, receipt) ∧
        receipt.outcome = .ok count ∧ receipt.dispatcher.failure = some failure := by
  cases found : connection.read? operation with
  | some read =>
    obtain ⟨base, receipt⟩ := read
    have ends := read?_ends found
    rw [ends.failed, conclude_surfaces_iff ends.isOpen]
    constructor
    · rintro ⟨count, succeeded, kept⟩
      exact ⟨base, receipt, count, rfl, succeeded, kept⟩
    · rintro ⟨_, _, count, same, succeeded, kept⟩
      cases same
      exact ⟨count, succeeded, kept⟩
  | none =>
    refine iff_of_false ?_ (by simp)
    intro result
    cases unread_cases found with
    | queues notices _ _ queued => rw [queued] at result; cases result
    | sends _ _ sent failed =>
      rw [sent] at result
      exact connection.sendAll_result_ne_server failure (failed _ result)
    | refuses _ _ _ refused => rw [refused] at result; cases result
    | closes close => subst close; cases result

variable {connection base : Connection σ κ} {operation : Operation κ} {receipt : Receipt σ κ}

theorem Ends.silent (ends : connection.Ends operation base receipt)
    (silent : ∀ failure, (connection.perform operation).result ≠ .failed (.server failure)) :
    (connection.perform operation).connection = base.withReceipt receipt ∧
      (connection.perform operation).trace = connection.lead operation ++ receipt.trace ∧
      base.resets receipt = [] := by
  rw [ends.after, ends.trace]
  cases read : receipt.outcome with
  | error failed =>
    rw [conclude_of_error base read]
    simp [resets, read]
  | ok count =>
    cases kept : receipt.dispatcher.failure with
    | none =>
      rw [conclude_of_none base read kept]
      simp [resets, read, kept]
    | some failure =>
      refine absurd ?_ (silent failure)
      rw [ends.failed, conclude_surfaces_iff ends.isOpen]
      exact ⟨count, read, kept⟩

theorem Ends.surfaced (ends : connection.Ends operation base receipt) {count : Nat}
    {failure : ServerError} (read : receipt.outcome = .ok count)
    (kept : receipt.dispatcher.failure = some failure) :
    let reset := (base.recovery receipt).sendAll
    (connection.perform operation).connection =
        { reset.connection with dispatcher := reset.connection.dispatcher.takeFailure.2 } ∧
      (connection.perform operation).trace = connection.lead operation ++ receipt.trace ++
        .queued .reset .discard :: reset.trace ++ resetWarnings reset.result ∧
      base.resets receipt = [base.recovery receipt] := by
  refine ⟨?_, ?_, by simp [resets, read, kept]⟩
  · rw [ends.after, conclude_of_some ends.isOpen read kept]
  · rw [ends.trace, conclude_of_some ends.isOpen read kept]
    simp only [List.append_assoc, List.cons_append]

theorem recovery_sends_or_fails (isOpen : base.closed = false) (receipt : Receipt σ κ) :
    (base.recovery receipt).SendsAll ∨ (base.recovery receipt).SendFails := by
  have entry : (base.recovery receipt).closed = false := isOpen
  have something : (base.recovery receipt).pending ≠ [] :=
    List.append_ne_nil_of_right_ne_nil base.pending (List.cons_ne_nil Message.reset [])
  exact sends_or_fails entry something

/-! What an operation shows, besides lines in the log, calls, and requests dropped. -/

theorem onlyLogs_resetWarnings (result : Except Error Nat) :
    (resetWarnings result : Trace κ).OnlyLogs := by
  cases result with
  | ok count => exact .nil
  | error error => exact .single _

theorem filterMap_lead (connection : Connection σ κ) (operation : Operation κ) {α : Type}
    {find : Event κ → Option α} (noCall : ∀ call, find (.called call) = none) :
    (connection.lead operation).filterMap find =
      (connection.sendsFirst operation).flatMap fun entry =>
        entry.sendAll.trace.filterMap find := by
  cases operation <;> simp [lead, sendsFirst, noCall]

section

variable {α : Type} {find : Event κ → Option α} (noLine : ∀ line, find (.logged line) = none)
  (noCall : ∀ call, find (.called call) = none)
  (noDropped : ∀ message, find (.dropped message) = none)

include noLine

theorem filterMap_conclude (isOpen : base.closed = false) (receipt : Receipt σ κ) :
    (base.conclude receipt).trace.filterMap find =
      receipt.trace.filterMap find ++ (base.resets receipt).flatMap fun entry =>
        (find (.queued .reset .discard)).toList ++ entry.sendAll.trace.filterMap find := by
  cases read : receipt.outcome with
  | error failed =>
    rw [conclude_of_error base read]
    simp [resets, read]
  | ok count =>
    cases kept : receipt.dispatcher.failure with
    | none =>
      rw [conclude_of_none base read kept]
      simp [resets, read, kept]
    | some first =>
      have logs : Trace.OnlyLogs (resetWarnings (base.recovery receipt).sendAll.result : Trace κ) :=
        onlyLogs_resetWarnings _
      have warnings := logs.filterMap_eq_nil noLine
      rw [conclude_of_some isOpen read kept, List.filterMap_append, List.filterMap_append,
        List.filterMap_cons, warnings, List.append_nil]
      simp only [resets, read, kept, List.flatMap_singleton]
      cases find (.queued .reset .discard) <;> rfl

include noCall noDropped

theorem filterMap_perform_of_unread (unread : connection.read? operation = none) :
    (connection.perform operation).trace.filterMap find =
      ((connection.request? operation).toList.map Entry.event).filterMap find ++
        (connection.sendsFirst operation).flatMap fun entry =>
          entry.sendAll.trace.filterMap find := by
  have dropped : connection.dropping.filterMap find = [] :=
    Trace.filterMap_dropped connection.pending noDropped
  cases unread_cases unread with
  | queues notices request first queued =>
    have lines := (Trace.OnlyLogs.ofLines notices).filterMap_eq_nil noLine
    rw [queued, request, first, List.filterMap_append, lines]
    simp
  | sends request first sent =>
    rw [sent, request, first]
    simp
  | refuses request first _ refused =>
    rw [refused, request, first]
    simp [dropped]
  | closes close =>
    subst close
    cases isClosed : connection.closed <;>
      simp [perform, close, isClosed, dropped, noCall, request?, sendsFirst]

end

/-- Requests reach the transport only where sending is entered. -/
theorem messages_perform (connection : Connection σ κ) (operation : Operation κ) :
    (connection.perform operation).trace.messages =
      (connection.sendEntries operation).flatMap fun entry => entry.sendAll.trace.messages := by
  rw [sendEntries, List.flatMap_append, sendsReset]
  cases found : connection.read? operation with
  | some read =>
    obtain ⟨base, receipt⟩ := read
    have ends := read?_ends found
    have quiet : receipt.trace.filterMap Event.message? = [] :=
      ends.reads.trace.filterMap_eq_nil (fun _ => rfl) (fun _ _ => rfl) fun _ _ => rfl
    rw [ends.trace, Trace.messages_append, Trace.messages, Trace.messages,
      filterMap_lead connection operation fun _ => rfl,
      filterMap_conclude (fun _ => rfl) ends.isOpen, quiet]
    rfl
  | none =>
    rw [Trace.messages,
      filterMap_perform_of_unread (fun _ => rfl) (fun _ => rfl) (fun _ => rfl) found]
    cases connection.request? operation <;> simp [Entry.event, Event.message?, Trace.messages]

theorem messages_perform_of_failed (failed : connection.writeFailed = true)
    (operation : Operation κ) : (connection.perform operation).trace.messages = [] := by
  rw [messages_perform, List.flatMap_eq_nil_iff]
  intro entry entered
  obtain ⟨trace, steps⟩ := sendEntries_steps entered
  exact messages_sendAll_of_failed (steps.writeFailed failed)

/-- An operation queues its own request, and a reset for every failure that it returns. -/
theorem entries_perform (connection : Connection σ κ) (operation : Operation κ) :
    (connection.perform operation).trace.entries =
      (connection.request? operation).toList ++
        (connection.sendsReset operation).map fun _ => ⟨.reset, .discard⟩ := by
  have noEntry : ∀ entry : Connection σ κ, entry.sendAll.trace.filterMap Event.entry? = [] :=
    fun entry => entry.filterMap_sendAll _ (fun _ => rfl) rfl (fun _ => rfl) fun _ => rfl
  have first : (connection.sendsFirst operation).flatMap
      (fun entry => entry.sendAll.trace.filterMap Event.entry?) = [] :=
    List.flatMap_eq_nil_iff.mpr fun entry _ => noEntry entry
  rw [sendsReset, Trace.entries]
  cases found : connection.read? operation with
  | some read =>
    obtain ⟨base, receipt⟩ := read
    have ends := read?_ends found
    have quiet : receipt.trace.filterMap Event.entry? = [] :=
      ends.reads.trace.filterMap_eq_nil (fun _ => rfl) (fun _ _ => rfl) fun _ _ => rfl
    rw [ends.trace, List.filterMap_append, filterMap_lead connection operation fun _ => rfl, first,
      filterMap_conclude (fun _ => rfl) ends.isOpen, quiet, ends.noRequest]
    simp [noEntry, Event.entry?, List.map_eq_flatMap]
  | none =>
    rw [filterMap_perform_of_unread (fun _ => rfl) (fun _ => rfl) (fun _ => rfl) found, first]
    cases connection.request? operation <;> simp [Entry.event, Event.entry?]

theorem responses_perform (connection : Connection σ κ) (operation : Operation κ) :
    (connection.perform operation).trace.responses =
      match connection.read? operation with
      | some (_, receipt) => receipt.trace.responses
      | none => [] := by
  have noResponse : ∀ entries : List (Connection σ κ),
      entries.flatMap (fun entry => entry.sendAll.trace.filterMap Event.response?) = [] := by
    intro entries
    rw [List.flatMap_eq_nil_iff]
    intro entry _
    exact entry.filterMap_sendAll _ (fun _ => rfl) rfl (fun _ => rfl) fun _ => rfl
  rw [Trace.responses]
  cases found : connection.read? operation with
  | some read =>
    obtain ⟨base, receipt⟩ := read
    have ends := read?_ends found
    rw [ends.trace, List.filterMap_append, filterMap_lead connection operation fun _ => rfl,
      noResponse, filterMap_conclude (fun _ => rfl) ends.isOpen]
    simp [noResponse, Event.response?, Trace.responses]
  | none =>
    rw [filterMap_perform_of_unread (fun _ => rfl) (fun _ => rfl) (fun _ => rfl) found, noResponse]
    cases connection.request? operation <;> simp [Entry.event, Event.response?]

end Connection

end PipelinedClient
