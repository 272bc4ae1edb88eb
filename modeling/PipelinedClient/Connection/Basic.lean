import PipelinedClient.Transaction.Builder
import PipelinedClient.Transport.Basic

/-! A pipelined connection.

Requests are queued with the sinks of their answers and reach the transport only
when sending is asked for; responses are read only when receiving is asked for.
After a failure the server ignores what follows until it is reset, so the reset is
sent before the failure is returned. A write that failed may have left part of a
message behind: from then on nothing more is written.
-/

set_option autoImplicit false

namespace PipelinedClient

structure Connection (σ κ : Type) where
  transport : σ
  pending : List Message
  dispatcher : Dispatcher κ
  debugEnabled : Bool
  legacyNames : Bool
  writeFailed : Bool
  closed : Bool

/-- What an operation returns, the connection it leaves, and what happened. -/
structure Performed (σ κ α : Type) where
  result : α
  connection : Connection σ κ
  trace : Trace κ

structure Opening (σ κ : Type) where
  outcome : Except (Error × σ) (Connection σ κ)
  trace : Trace κ

namespace Connection

variable {σ κ : Type}

def loggerName : String := "SocketConnection"

def fresh (transport : σ) (debugEnabled legacyNames : Bool) : Connection σ κ :=
  ⟨transport, [], .empty debugEnabled, debugEnabled, legacyNames, false, false⟩

def pendingCount (connection : Connection σ κ) : Nat := connection.pending.length

def waiting (connection : Connection σ κ) : Nat := connection.dispatcher.waiting

def enqueue (connection : Connection σ κ) (message : Message) (sink : Sink κ) : Connection σ κ :=
  { connection with
    pending := connection.pending ++ [message]
    dispatcher := connection.dispatcher.append sink }

def forget (connection : Connection σ κ) : Connection σ κ :=
  { connection with pending := [], dispatcher := connection.dispatcher.clear }

def withReceipt (connection : Connection σ κ) (receipt : Receipt σ κ) : Connection σ κ :=
  { connection with transport := receipt.transport, dispatcher := receipt.dispatcher }

/-- Metadata of a transaction begun here: the connection decides on key names. -/
def transactionMetadata (connection : Connection σ κ) (builder : MetadataBuilder) :
    TransactionMetadata :=
  (builder.set (.legacyNames connection.legacyNames)).build

def debugLine (connection : Connection σ κ) (text : String) : Trace κ :=
  if connection.debugEnabled then [.logged (.line .debug text)] else []

def announced (connection : Connection σ κ) : Trace κ :=
  connection.pending.flatMap fun message => connection.debugLine ("C: " ++ message.display)

def sendReport (connection : Connection σ κ) (unsent : Nat) : Option IoError → Trace κ
  | none => []
  | some failure => connection.debugLine
      ("Send failed with " ++ toString unsent ++ " message(s) unsent: " ++ failure.display)

def dropping (connection : Connection σ κ) : Trace κ := connection.pending.map .dropped

def refuse {α : Type} (connection : Connection σ κ) : Performed σ κ (Except Error α) :=
  ⟨.error .closed, connection.forget, connection.dropping⟩

/-- Sending after a failed write drops what is queued. -/
def refuseWrite (connection : Connection σ κ) : Performed σ κ (Except Error Nat) :=
  ⟨.error .writeRefused,
    { connection with
      pending := []
      dispatcher := connection.dispatcher.discardNewest connection.pending.length },
    connection.dropping⟩

def inspect (connection : Connection σ κ) : String :=
  Inspection.partialRecord "SocketConnection"
    [("pending", toString connection.pending.length),
     ("handler", connection.dispatcher.inspect),
     ("write_failed", Inspection.boolean connection.writeFailed),
     ("closed", Inspection.boolean connection.closed)]

variable [Transport σ]

/-- Start a transport; a logger is asked for only once it has started. -/
def establish (transport : σ) (debugEnabled legacyNames : Bool) : Opening σ κ :=
  match Transport.start transport with
  | (some error, after) => ⟨.error (error, after), [.called .start]⟩
  | (none, after) =>
    ⟨.ok (fresh after debugEnabled legacyNames),
      [.called .start, .logged (.lookup loggerName)]⟩

def isOpen (connection : Connection σ κ) : Bool :=
  !connection.closed && !connection.writeFailed && Transport.isOpen connection.transport

/-- Hand what is queued to the transport. What it takes waits for answers; what it
leaves is dropped. -/
def transmit (connection : Connection σ κ) : Performed σ κ (Except Error Nat) :=
  let queued := connection.pending.length
  let (transmission, transport) := Transport.sendAll connection.transport connection.pending
  let unsent := transmission.unsent.length
  let handled := (connection.pending.take (queued - unsent)).map Event.taken ++
    transmission.unsent.map Event.dropped
  -- The sinks of dropped requests go first, so that every sink left without an
  -- answer belongs to a request that was taken.
  let after := { connection with
    transport := transport
    pending := []
    dispatcher := (connection.dispatcher.discardNewest unsent).markSent (queued - unsent) }
  let trace := connection.announced ++ .called .sendAll :: handled ++
    connection.sendReport unsent transmission.failure
  match transmission.failure with
  | none => ⟨.ok (queued - unsent), after, trace⟩
  | some failure => ⟨.error (.sendFailed failure), { after with writeFailed := true }, trace⟩

def sendAll (connection : Connection σ κ) : Performed σ κ (Except Error Nat) :=
  if connection.closed then connection.refuse
  else if connection.pending.isEmpty then ⟨.ok 0, connection, []⟩
  else if connection.writeFailed then connection.refuseWrite
  else connection.transmit

def resetWarning (error : Error) : LogLine :=
  .line .warn ("Unable to send RESET after server failure: " ++ error.display)

def resetWarnings (result : Except Error Nat) : Trace κ :=
  match result with
  | .ok _ => []
  | .error error => [.logged (resetWarning error)]

/-- Take the failure that was kept, if any, after sending a reset of the server. -/
def surfaceFailure (connection : Connection σ κ) : Performed σ κ (Option ServerError) :=
  if !connection.dispatcher.hasFailure then ⟨none, connection, []⟩
  else
    -- The reset goes out behind whatever is queued already.
    let reset := (connection.enqueue .reset .discard).sendAll
    let (failure, dispatcher) := reset.connection.dispatcher.takeFailure
    ⟨failure, { reset.connection with dispatcher := dispatcher },
      .queued .reset .discard :: reset.trace ++ resetWarnings reset.result⟩

/-- End a read: a read that failed is an error, otherwise a failure kept is one. -/
def conclude (connection : Connection σ κ) (receipt : Receipt σ κ) :
    Performed σ κ (Except Error Nat) :=
  let after := connection.withReceipt receipt
  match receipt.outcome with
  | .error failure => ⟨.error (.receiveFailed failure), after, receipt.trace⟩
  | .ok count =>
    let surfaced := after.surfaceFailure
    let result : Except Error Nat := match surfaced.result with
      | some failure => .error (.server failure)
      | none => .ok count
    ⟨result, surfaced.connection, receipt.trace ++ surfaced.trace⟩

def receiveAll (connection : Connection σ κ) : Performed σ κ (Except Error Nat) :=
  if connection.closed then connection.refuse
  else
    let read := connection.conclude
      (Transport.receiveAll connection.transport connection.dispatcher)
    { read with trace := .called .receiveAll :: read.trace }

def receiveOne (connection : Connection σ κ) : Performed σ κ (Except Error Unit) :=
  if connection.closed then connection.refuse
  else
    let read := connection.conclude
      (Transport.receiveInto connection.transport connection.dispatcher)
    ⟨read.result.map fun _ => (), read.connection, .called .receiveOne :: read.trace⟩

def sync (connection : Connection σ κ) : Performed σ κ (Except Error Unit) :=
  let sent := connection.sendAll
  match sent.result with
  | .error error => ⟨.error error, sent.connection, sent.trace⟩
  | .ok 0 => ⟨.ok (), sent.connection, sent.trace⟩
  | .ok _ =>
    let received := sent.connection.receiveAll
    ⟨received.result.map fun _ => (), received.connection, sent.trace ++ received.trace⟩

def close (connection : Connection σ κ) : Performed σ κ Unit :=
  if connection.closed then ⟨(), connection.forget, connection.dropping⟩
  else
    ⟨(), { connection.forget with
        transport := Transport.stop connection.transport
        closed := true }, .called .stop :: connection.dropping⟩

/-! What the operations come to, case by case. -/

theorem sendAll_of_closed {connection : Connection σ κ} (isClosed : connection.closed = true) :
    connection.sendAll = connection.refuse := by
  rw [sendAll, if_pos isClosed]

theorem sendAll_of_nothing {connection : Connection σ κ} (isOpen : connection.closed = false)
    (nothing : connection.pending = []) : connection.sendAll = ⟨.ok 0, connection, []⟩ := by
  simp [sendAll, isOpen, nothing]

theorem sendAll_of_failed {connection : Connection σ κ} (isOpen : connection.closed = false)
    (something : connection.pending ≠ []) (failed : connection.writeFailed = true) :
    connection.sendAll = connection.refuseWrite := by
  simp [sendAll, isOpen, something, failed]

theorem sendAll_of_writable {connection : Connection σ κ} (isOpen : connection.closed = false)
    (something : connection.pending ≠ []) (writable : connection.writeFailed = false) :
    connection.sendAll = connection.transmit := by
  simp [sendAll, isOpen, something, writable]

theorem surfaceFailure_of_none {connection : Connection σ κ}
    (none : connection.dispatcher.failure = none) :
    connection.surfaceFailure = ⟨.none, connection, []⟩ := by
  simp [surfaceFailure, Dispatcher.hasFailure, none]

theorem surfaceFailure_of_some {connection : Connection σ κ} {failure : ServerError}
    (kept : connection.dispatcher.failure = some failure) :
    connection.surfaceFailure =
      let reset := (connection.enqueue .reset .discard).sendAll
      ⟨reset.connection.dispatcher.failure,
        { reset.connection with dispatcher := reset.connection.dispatcher.takeFailure.2 },
        .queued .reset .discard :: reset.trace ++ resetWarnings reset.result⟩ := by
  simp [surfaceFailure, Dispatcher.hasFailure, Dispatcher.takeFailure, kept]

theorem receiveAll_of_open {connection : Connection σ κ} (isOpen : connection.closed = false) :
    connection.receiveAll =
      let read := connection.conclude
        (Transport.receiveAll connection.transport connection.dispatcher)
      { read with trace := .called .receiveAll :: read.trace } := by
  simp [receiveAll, isOpen]

theorem receiveOne_of_open {connection : Connection σ κ} (isOpen : connection.closed = false) :
    connection.receiveOne =
      let read := connection.conclude
        (Transport.receiveInto connection.transport connection.dispatcher)
      ⟨read.result.map fun _ => (), read.connection, .called .receiveOne :: read.trace⟩ := by
  simp [receiveOne, isOpen]

theorem sync_of_error {connection : Connection σ κ} {error : Error}
    (sent : connection.sendAll.result = .error error) :
    connection.sync = ⟨.error error, connection.sendAll.connection, connection.sendAll.trace⟩ := by
  simp [sync, sent]

theorem sync_of_none {connection : Connection σ κ} (sent : connection.sendAll.result = .ok 0) :
    connection.sync = ⟨.ok (), connection.sendAll.connection, connection.sendAll.trace⟩ := by
  simp [sync, sent]

theorem sync_of_some {connection : Connection σ κ} {count : Nat}
    (sent : connection.sendAll.result = .ok (count + 1)) :
    connection.sync =
      let received := connection.sendAll.connection.receiveAll
      ⟨received.result.map fun _ => (), received.connection,
        connection.sendAll.trace ++ received.trace⟩ := by
  simp [sync, sent]

end Connection

end PipelinedClient
