import PipelinedClient.Log
import PipelinedClient.Message
import PipelinedClient.Recorder
import PipelinedClient.Response

/-! What can be observed of a client while it works.

Operations leave a trace of events in the order in which they happen: lines in
the log, requests that were queued, calls of the transport, messages that it took
and messages that were dropped instead, responses that arrived, and signals to the
owners of requests.
-/

set_option autoImplicit false

namespace PipelinedClient

/-- Where the answers to a request go: nowhere, or to the holder of a handle. -/
inductive Sink (κ : Type) where
  | discard
  | handle (key : κ)
  deriving DecidableEq

inductive TransportCall where
  | start
  | stop
  | sendAll
  | receiveAll
  | receiveOne
  deriving DecidableEq

inductive Event (κ : Type) where
  | logged (line : LogLine)
  | queued (message : Message) (sink : Sink κ)
  | called (call : TransportCall)
  | taken (message : Message)
  | dropped (message : Message)
  | arrived (response : Response) (waiting : Nat)
  | signalled (sink : Sink κ) (signal : Signal)
  deriving DecidableEq

namespace Event

variable {κ : Type}

def logLine? : Event κ → Option LogLine
  | .logged line => some line
  | _ => none

def call? : Event κ → Option TransportCall
  | .called call => some call
  | _ => none

def message? : Event κ → Option Message
  | .taken message => some message
  | _ => none

def response? : Event κ → Option Response
  | .arrived response _ => some response
  | _ => none

def signal? : Event κ → Option (κ × Signal)
  | .signalled (.handle key) signal => some (key, signal)
  | _ => none

end Event

abbrev Trace (κ : Type) := List (Event κ)

namespace Trace

variable {κ : Type}

def log (trace : Trace κ) : List LogLine := trace.filterMap Event.logLine?

def calls (trace : Trace κ) : List TransportCall := trace.filterMap Event.call?

def messages (trace : Trace κ) : List Message := trace.filterMap Event.message?

def responses (trace : Trace κ) : List Response := trace.filterMap Event.response?

def signals (trace : Trace κ) : List (κ × Signal) := trace.filterMap Event.signal?

def ofLines (lines : List LogLine) : Trace κ := lines.map .logged

end Trace

def Shelf.follow {κ : Type} [DecidableEq κ] (shelf : Shelf κ) (trace : Trace κ) : Shelf κ :=
  trace.signals.foldl (fun shelf entry => shelf.accept entry.1 entry.2) shelf

end PipelinedClient
