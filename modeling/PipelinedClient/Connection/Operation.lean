import PipelinedClient.Connection.Basic

/-! Operations on a connection as data, and runs of them. -/

set_option autoImplicit false

namespace PipelinedClient

inductive Operation (κ : Type) where
  | init (clientName : String) (authToken : SortedMap Value)
  | run (statement : String) (parameters : SortedMap Value) (sink : Sink κ)
  | discardAll
  | pullAll (sink : Sink κ)
  | reset (sink : Sink κ)
  | begin (builder : MetadataBuilder) (sink : Sink κ)
  | beginWith (metadata : TransactionMetadata) (sink : Sink κ)
  | commit (sink : Sink κ)
  | rollback (sink : Sink κ)
  | sendAll
  | receiveAll
  | receiveOne
  | sync
  | close

inductive Reply where
  | none
  | done
  | count (responses : Nat)
  | failed (error : Error)

namespace Reply

def ofCount : Except Error Nat → Reply
  | .ok responses => .count responses
  | .error error => .failed error

def ofUnit : Except Error Unit → Reply
  | .ok () => .done
  | .error error => .failed error

theorem ofCount_eq_failed (result : Except Error Nat) (error : Error) :
    ofCount result = .failed error ↔ result = .error error := by
  cases result <;> simp [ofCount]

theorem ofUnit_eq_failed {α : Type} (result : Except Error α) (error : Error) :
    ofUnit (result.map fun _ => ()) = .failed error ↔ result = .error error := by
  cases result <;> simp [ofUnit, Except.map]

end Reply

namespace Connection

variable {σ κ : Type} [Transport σ]

def queue (connection : Connection σ κ) (message : Message) (sink : Sink κ) :
    Performed σ κ Reply := ⟨.none, connection.enqueue message sink, [.queued message sink]⟩

def perform (connection : Connection σ κ) : Operation κ → Performed σ κ Reply
  | .init clientName authToken => connection.queue (.init clientName authToken) .discard
  | .run statement parameters sink => connection.queue (.run statement parameters) sink
  | .discardAll => connection.queue .discardAll .discard
  | .pullAll sink => connection.queue .pullAll sink
  | .reset sink => connection.queue .reset sink
  | .begin builder sink =>
    let queued := connection.queue (.begin (connection.transactionMetadata builder)) sink
    { queued with trace := Trace.ofLines builder.notices ++ queued.trace }
  | .beginWith metadata sink => connection.queue (.begin metadata) sink
  | .commit sink => connection.queue .commit sink
  | .rollback sink => connection.queue .rollback sink
  | .sendAll =>
    let sent := connection.sendAll
    { sent with result := .ofCount sent.result }
  | .receiveAll =>
    let received := connection.receiveAll
    { received with result := .ofCount received.result }
  | .receiveOne =>
    let received := connection.receiveOne
    { received with result := .ofUnit received.result }
  | .sync =>
    let synced := connection.sync
    { synced with result := .ofUnit synced.result }
  | .close => { connection.close with result := .none }

/-- What comes of each operation of a run, one after the other. -/
def history (connection : Connection σ κ) : List (Operation κ) → List (Performed σ κ Reply)
  | [] => []
  | operation :: rest =>
    let first := connection.perform operation
    first :: first.connection.history rest

def runFrom (connection : Connection σ κ) (operations : List (Operation κ)) : Connection σ κ :=
  operations.foldl (fun current operation => (current.perform operation).connection) connection

def traceOf (connection : Connection σ κ) (operations : List (Operation κ)) : Trace κ :=
  (connection.history operations).flatMap Performed.trace

def replies (connection : Connection σ κ) (operations : List (Operation κ)) : List Reply :=
  (connection.history operations).map Performed.result

end Connection

end PipelinedClient
