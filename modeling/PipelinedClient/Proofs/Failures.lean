import PipelinedClient.Proofs.Accounting
import PipelinedClient.Proofs.Recovery

/-! Failures of the server are returned once, with a reset.

Between two failures that are returned the connection keeps the first one that the
server reports. It is returned by the next read that succeeds, and is gone then; only
closing loses it.
-/

set_option autoImplicit false

namespace PipelinedClient

variable {σ κ : Type}

def Event.warning? : Event κ → Option LogLine
  | .logged (.line .warn text) => some (.line .warn text)
  | _ => none

def Performed.surfaced? (performed : Performed σ κ Reply) : Option ServerError :=
  match performed.result with
  | .failed (.server failure) => some failure
  | _ => none

theorem Performed.surfaced?_eq_some_iff (performed : Performed σ κ Reply) (failure : ServerError) :
    performed.surfaced? = some failure ↔ performed.result = .failed (.server failure) := by
  unfold surfaced?
  split
  · rename_i other result
    rw [result]
    simp
  · rename_i other
    simp only [reduceCtorEq, false_iff]
    exact other failure

theorem Performed.silent_of_surfaced? {performed : Performed σ κ Reply}
    (none : performed.surfaced? = none) (failure : ServerError) :
    performed.result ≠ .failed (.server failure) := by
  intro result
  rw [← surfaced?_eq_some_iff, none] at result
  cases result

namespace Trace

def warnings (trace : Trace κ) : List LogLine := trace.filterMap Event.warning?

theorem warnings_append (first rest : Trace κ) :
    (first ++ rest).warnings = first.warnings ++ rest.warnings := List.filterMap_append

end Trace

/-- What happened since a failure was last returned, once one more operation is done. -/
def sinceSurfaced (since : Trace κ) (performed : Performed σ κ Reply) : Trace κ :=
  match performed.surfaced? with
  | some _ => []
  | none => since ++ performed.trace

namespace Connection

/-- The failure kept is the first one reported since one was returned. -/
def Keeps (connection : Connection σ κ) (since : Trace κ) : Prop :=
  connection.dispatcher.failure = if connection.closed then none else since.failures.head?

theorem Keeps.fresh (transport : σ) (debugEnabled legacyNames : Bool) :
    (fresh transport debugEnabled legacyNames : Connection σ κ).Keeps [] := by
  rw [Keeps]
  rfl

theorem Keeps.of_open {connection : Connection σ κ} {since : Trace κ}
    (keeps : connection.Keeps since) (isOpen : connection.closed = false) :
    connection.dispatcher.failure = since.failures.head? := by
  rw [Keeps, isOpen, if_neg Bool.false_ne_true] at keeps
  exact keeps

variable [Transport σ]

/-- Without a read the failure stays, unless the connection is closed by then. -/
theorem failure_of_unread {connection : Connection σ κ} {operation : Operation κ}
    (unread : connection.read? operation = none) :
    let after := (connection.perform operation).connection
    (after.closed = connection.closed ∧
        after.dispatcher.failure = connection.dispatcher.failure) ∨
      ((operation = .close ∨ connection.closed = true) ∧ after.closed = true ∧
        after.dispatcher.failure = none) := by
  intro after
  cases unread_cases unread with
  | queues notices _ _ queued =>
    left
    simp only [after, queued]
    exact ⟨rfl, rfl⟩
  | sends _ _ sent =>
    simp only [after, sent]
    cases isClosed : connection.closed with
    | false => exact .inl ⟨connection.closed_sendAll.trans isClosed, failure_sendAll isClosed⟩
    | true =>
      rw [sendAll_of_closed isClosed]
      exact .inr ⟨.inr rfl, isClosed, rfl⟩
  | refuses _ _ isClosed refused =>
    right
    simp only [after, refused]
    exact ⟨.inr isClosed, isClosed, rfl⟩
  | closes close =>
    right
    refine ⟨.inl close, ?_⟩
    subst close
    cases isClosed : connection.closed <;>
      simp [after, perform, Connection.close, isClosed, forget, Dispatcher.clear]

theorem failures_perform (connection : Connection σ κ) (operation : Operation κ) :
    (connection.perform operation).trace.failures =
      match connection.read? operation with
      | some (_, receipt) => receipt.trace.failures
      | none => [] := by
  rw [Trace.failures, responses_perform]
  cases connection.read? operation <;> rfl

theorem Keeps.failure_receipt {connection base : Connection σ κ} {operation : Operation κ}
    {receipt : Receipt σ κ} {since : Trace κ} (keeps : connection.Keeps since)
    (found : connection.read? operation = some (base, receipt)) :
    receipt.dispatcher.failure =
      (since ++ (connection.perform operation).trace).failures.head? := by
  have ends := read?_ends found
  rw [ends.reads.failure, ends.kept, keeps.of_open ends.wasOpen, Trace.failures_append,
    failures_perform, found, List.head?_append]
  cases since.failures.head? <;> rfl

def ReadSucceeds (connection : Connection σ κ) (operation : Operation κ) : Prop :=
  ∃ base receipt count, connection.read? operation = some (base, receipt) ∧
    receipt.outcome = .ok count

/-- A failure is returned exactly if a read succeeds and it is the first one reported
since one was returned. -/
theorem Keeps.surfaced?_iff {connection : Connection σ κ} {since : Trace κ}
    (keeps : connection.Keeps since) (operation : Operation κ) (failure : ServerError) :
    (connection.perform operation).surfaced? = some failure ↔
      connection.ReadSucceeds operation ∧
        (since ++ (connection.perform operation).trace).failures.head? = some failure := by
  rw [Performed.surfaced?_eq_some_iff, surfaces_iff]
  constructor
  · rintro ⟨base, receipt, count, found, read, kept⟩
    refine ⟨⟨base, receipt, count, found, read⟩, ?_⟩
    rw [← keeps.failure_receipt found, kept]
  · rintro ⟨⟨base, receipt, count, found, read⟩, first⟩
    rw [← keeps.failure_receipt found] at first
    exact ⟨base, receipt, count, found, read, first⟩

theorem failure_of_surfaced {connection : Connection σ κ} {operation : Operation κ}
    {failure : ServerError}
    (surfaced : (connection.perform operation).surfaced? = some failure) :
    (connection.perform operation).connection.dispatcher.failure = none := by
  rw [Performed.surfaced?_eq_some_iff, surfaces_iff] at surfaced
  obtain ⟨base, receipt, count, found, read, kept⟩ := surfaced
  rw [((read?_ends found).surfaced read kept).1]
  rfl

theorem surfaced?_of_unread {connection : Connection σ κ} {operation : Operation κ}
    (unread : connection.read? operation = none) :
    (connection.perform operation).surfaced? = none := by
  cases surfaced : (connection.perform operation).surfaced? with
  | none => rfl
  | some failure =>
    rw [Performed.surfaced?_eq_some_iff, surfaces_iff] at surfaced
    obtain ⟨base, receipt, count, found, _⟩ := surfaced
    rw [unread] at found
    cases found

theorem Keeps.perform {connection : Connection σ κ} {since : Trace κ}
    (keeps : connection.Keeps since) (operation : Operation κ) :
    (connection.perform operation).connection.Keeps
      (sinceSurfaced since (connection.perform operation)) := by
  cases found : connection.read? operation with
  | none =>
    -- No response arrived, so nothing was reported; only closing can lose what is kept.
    have same : (sinceSurfaced since (connection.perform operation)).failures = since.failures := by
      rw [sinceSurfaced, surfaced?_of_unread found, Trace.failures_append, failures_perform, found]
      exact List.append_nil _
    rcases failure_of_unread found with ⟨closed, stays⟩ | ⟨_, closed, lost⟩
    · rw [Keeps, same, closed, stays]
      exact keeps
    · rw [Keeps, closed, lost, if_pos rfl]
  | some read =>
    obtain ⟨base, receipt⟩ := read
    have ends := read?_ends found
    cases surfaced : (connection.perform operation).surfaced? with
    | none =>
      have after := (ends.silent (Performed.silent_of_surfaced? surfaced)).1
      have isOpen : (connection.perform operation).connection.closed = false := by
        rw [after]
        exact ends.isOpen
      rw [Keeps, isOpen, if_neg Bool.false_ne_true, sinceSurfaced, surfaced, after]
      exact keeps.failure_receipt found
    | some failure =>
      rw [Keeps, sinceSurfaced, surfaced, failure_of_surfaced surfaced]
      exact (ite_self none).symm

theorem Keeps.run {connection : Connection σ κ} {since : Trace κ} (keeps : connection.Keeps since)
    (operations : List (Operation κ)) :
    (connection.runFrom operations).Keeps
      ((connection.history operations).foldl sinceSurfaced since) := by
  induction operations generalizing connection since with
  | nil => exact keeps
  | cons operation rest ih => exact ih (keeps.perform operation)

/-- The reset behind a failure that is returned: it is queued once, after all responses,
and is the last request handed over, unless a write fails and a warning tells so. -/
structure Resets (performed : Performed σ κ Reply) (earlier later : Trace κ) : Prop where
  trace : performed.trace = earlier ++ .queued .reset .discard :: later
  responses : later.responses = []
  pending : performed.connection.pending = []
  unsent : performed.connection.dispatcher.unsent = []
  written : performed.connection.writeFailed = false →
    performed.trace.messages.getLast? = some .reset ∧
      performed.connection.dispatcher.sent.getLast? = some .discard ∧ later.warnings = []
  warned : performed.connection.writeFailed = true →
    ∃ error, error.kind? = some .send ∧ later.warnings = [resetWarning error]

theorem resets_of_read {connection base : Connection σ κ} {operation : Operation κ}
    {receipt : Receipt σ κ} (found : connection.read? operation = some (base, receipt))
    (paired : base.Paired) {count : Nat} {failure : ServerError}
    (read : receipt.outcome = .ok count) (kept : receipt.dispatcher.failure = some failure) :
    ∃ earlier later, Resets (connection.perform operation) earlier later := by
  have ends := read?_ends found
  obtain ⟨after, trace, one⟩ := ends.surfaced read kept
  have still := paired_recovery paired ends.reads
  have noResponse : (base.recovery receipt).sendAll.trace.responses = [] :=
    filterMap_sendAll _ _ (fun _ => rfl) rfl (fun _ => rfl) fun _ => rfl
  have noWarning : (base.recovery receipt).sendAll.trace.warnings = [] :=
    filterMap_sendAll _ _ (fun _ => rfl) rfl (fun _ => rfl) fun _ => rfl
  have written : (connection.perform operation).connection.writeFailed =
      (base.recovery receipt).sendAll.connection.writeFailed := by
    rw [after]
  refine ⟨connection.lead operation ++ receipt.trace,
    (base.recovery receipt).sendAll.trace ++ resetWarnings (base.recovery receipt).sendAll.result,
    ?_, ?_, ?_, ?_, ?_, ?_⟩
  · rw [trace]
    simp only [List.append_assoc, List.cons_append]
  · rw [Trace.responses_append, noResponse]
    exact (onlyLogs_resetWarnings _).filterMap_eq_nil fun _ => rfl
  · rw [after]
    exact pending_sendAll _
  · rw [after]
    exact unsent_sendAll still
  · intro writable
    rcases recovery_sends_or_fails ends.isOpen receipt with sends | fails
    · refine ⟨?_, ?_, ?_⟩
      · have pending : (base.recovery receipt).pending = base.pending ++ [.reset] := rfl
        rw [messages_perform, sendEntries, List.flatMap_append, sendsReset, found]
        simp only [one, List.flatMap_singleton]
        rw [sends.messages, pending, ← List.append_assoc, List.getLast?_concat]
      · have sent : (connection.perform operation).connection.dispatcher.sent =
            (base.recovery receipt).dispatcher.sent ++
              (base.recovery receipt).dispatcher.unsent := by
          rw [after, ← sends.sent still]
          rfl
        rw [sent, unsent_recovery ends.reads, ← List.append_assoc, List.getLast?_concat]
      · rw [Trace.warnings_append, noWarning, sends.result]
        rfl
    · rw [written, fails.failed] at writable
      cases writable
  · intro failed
    rcases recovery_sends_or_fails ends.isOpen receipt with sends | fails
    · rw [written, sends.stays] at failed
      cases failed
    · obtain ⟨error, result, kind⟩ := fails.result
      refine ⟨error, kind, ?_⟩
      rw [Trace.warnings_append, noWarning, result]
      rfl

theorem entries_perform_of_surfaced? (connection : Connection σ κ) (operation : Operation κ) :
    (connection.perform operation).trace.entries =
      (connection.request? operation).toList ++
        (connection.perform operation).surfaced?.toList.map fun _ => ⟨.reset, .discard⟩ := by
  rw [entries_perform, sendsReset]
  cases found : connection.read? operation with
  | none =>
    rw [surfaced?_of_unread found]
    rfl
  | some read =>
    obtain ⟨base, receipt⟩ := read
    have ends := read?_ends found
    cases surfaced : (connection.perform operation).surfaced? with
    | none =>
      have none := (ends.silent (Performed.silent_of_surfaced? surfaced)).2.2
      simp only [none]
      rfl
    | some failure =>
      rw [Performed.surfaced?_eq_some_iff, ends.failed,
        conclude_surfaces_iff ends.isOpen] at surfaced
      obtain ⟨count, read, kept⟩ := surfaced
      have one := (ends.surfaced read kept).2.2
      simp only [one]
      rfl

structure SurfacesOnce (connection : Connection σ κ) (since : Trace κ) (operation : Operation κ) :
    Prop where
  kept : connection.dispatcher.failure =
    if connection.closed then none else since.failures.head?
  returned : ∀ failure, (connection.perform operation).surfaced? = some failure ↔
    connection.ReadSucceeds operation ∧
      (since ++ (connection.perform operation).trace).failures.head? = some failure
  /-- A failure kept is returned by a read that succeeds, and stays kept otherwise. -/
  carried : ∀ failure, connection.dispatcher.failure = some failure → operation ≠ .close →
    (connection.ReadSucceeds operation →
      (connection.perform operation).surfaced? = some failure) ∧
    (¬connection.ReadSucceeds operation →
      (connection.perform operation).connection.dispatcher.failure = some failure)
  taken : ∀ failure, (connection.perform operation).surfaced? = some failure →
    (connection.perform operation).connection.dispatcher.failure = none
  requests : (connection.perform operation).trace.entries =
    (connection.request? operation).toList ++
      (connection.perform operation).surfaced?.toList.map fun _ => ⟨.reset, .discard⟩
  recovers : ∀ failure, (connection.perform operation).surfaced? = some failure →
    ∃ earlier later, Resets (connection.perform operation) earlier later
  blocked : connection.writeFailed = true → (connection.perform operation).trace.messages = []

theorem Keeps.carried {connection : Connection σ κ} {since : Trace κ}
    (keeps : connection.Keeps since) {operation : Operation κ} {failure : ServerError}
    (kept : connection.dispatcher.failure = some failure) (stays : operation ≠ .close) :
    (connection.ReadSucceeds operation →
      (connection.perform operation).surfaced? = some failure) ∧
    (¬connection.ReadSucceeds operation →
      (connection.perform operation).connection.dispatcher.failure = some failure) := by
  -- A closed connection keeps no failure.
  have isOpen : connection.closed = false := by
    cases isClosed : connection.closed with
    | false => rfl
    | true =>
      rw [Keeps, kept, isClosed, if_pos rfl] at keeps
      cases keeps
  have first : since.failures.head? = some failure := by
    rw [← keeps.of_open isOpen, kept]
  -- Later reports come behind the one that is kept.
  have still : (since ++ (connection.perform operation).trace).failures.head? = some failure := by
    rw [Trace.failures_append, List.head?_append, first]
    rfl
  refine ⟨fun succeeds => (keeps.surfaced?_iff operation failure).mpr ⟨succeeds, still⟩, ?_⟩
  intro fails
  cases found : connection.read? operation with
  | none =>
    rcases failure_of_unread found with ⟨_, same⟩ | ⟨closing, _⟩
    · rw [same, kept]
    · rcases closing with close | closed
      · exact absurd close stays
      · rw [isOpen] at closed
        cases closed
  | some read =>
    obtain ⟨base, receipt⟩ := read
    have silent : (connection.perform operation).surfaced? = none := by
      cases surfaced : (connection.perform operation).surfaced? with
      | none => rfl
      | some other => exact absurd ((keeps.surfaced?_iff operation other).mp surfaced).1 fails
    rw [((read?_ends found).silent (Performed.silent_of_surfaced? silent)).1]
    exact (keeps.failure_receipt found).trans still

end Connection

/-- After any run, whatever operation comes next: a failure of the server is returned by
the first read that succeeds once it is reported, in the order of reports it is the first
since a failure was returned, and a single reset goes with it. -/
theorem server_failures_surface_once [Transport σ] (transport : σ) (debugEnabled legacyNames : Bool)
    (operations : List (Operation κ)) (operation : Operation κ) :
    let start : Connection σ κ := .fresh transport debugEnabled legacyNames
    let since := (start.history operations).foldl sinceSurfaced []
    (start.runFrom operations).SurfacesOnce since operation := by
  intro start since
  have keeps : (start.runFrom operations).Keeps since :=
    (Connection.Keeps.fresh transport debugEnabled legacyNames).run operations
  have accounted := Accounted.run transport debugEnabled legacyNames operations
  refine ⟨keeps, keeps.surfaced?_iff operation, fun failure kept stays => keeps.carried kept stays,
    fun failure surfaced => Connection.failure_of_surfaced surfaced,
    Connection.entries_perform_of_surfaced? _ operation, ?_,
    fun failed => Connection.messages_perform_of_failed failed operation⟩
  intro failure surfaced
  rw [Performed.surfaced?_eq_some_iff, Connection.surfaces_iff] at surfaced
  obtain ⟨base, receipt, count, found, read, kept⟩ := surfaced
  have paired : base.Paired :=
    (accounted.steps (Connection.read?_ends found).before).aligned.paired
  exact Connection.resets_of_read found paired read kept

end PipelinedClient
