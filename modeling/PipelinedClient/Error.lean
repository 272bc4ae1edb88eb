import PipelinedClient.IoError
import PipelinedClient.Text.Inspection

/-! Errors of client operations: trouble with the connection, a failure that the
server reported, or a breach of the protocol. -/

set_option autoImplicit false

namespace PipelinedClient

inductive ConnectionErrorKind where
  | connect
  | send
  | responseTimeout
  | responseRead
  | closed
  deriving DecidableEq

structure ConnectionError where
  kind : ConnectionErrorKind
  message : String
  source : Option IoError
  deriving DecidableEq

inductive FailureClass where
  | client
  | transient
  | database
  | unknown
  deriving DecidableEq

namespace FailureClass

def label : FailureClass → String
  | .client => "Client"
  | .transient => "Transient"
  | .database => "Database"
  | .unknown => "Unknown"

/-- What stands between the first dot and the next one, or the end. -/
def secondSegment? (code : List Char) : Option (List Char) :=
  match code.dropWhile fun c => c != '.' with
  | [] => none
  | _ :: rest => some (rest.takeWhile fun c => c != '.')

/-- The second dotted segment of a status code tells the class. -/
def ofCode (code : String) : FailureClass :=
  match (secondSegment? code.toList).map String.ofList with
  | some "ClientError" => .client
  | some "TransientError" => .transient
  | some "DatabaseError" => .database
  | _ => .unknown

end FailureClass

structure ServerError where
  code : String
  message : String
  failureClass : FailureClass
  deriving DecidableEq

namespace ServerError

def ofReport (code message : String) : ServerError := ⟨code, message, FailureClass.ofCode code⟩

def inspect (failure : ServerError) : String :=
  Inspection.record "ServerError"
    [("code", Inspection.quoted failure.code), ("message", Inspection.quoted failure.message),
     ("classification", failure.failureClass.label)]

end ServerError

structure ProtocolError where
  message : String
  source : Option IoError
  deriving DecidableEq

inductive Error where
  | connection (error : ConnectionError)
  | server (error : ServerError)
  | protocol (error : ProtocolError)
  deriving DecidableEq

namespace ConnectionErrorKind

def label : ConnectionErrorKind → String
  | .connect => "Connect"
  | .send => "Send"
  | .responseTimeout => "ResponseTimeout"
  | .responseRead => "ResponseRead"
  | .closed => "Closed"

def all : List ConnectionErrorKind := [.connect, .send, .responseTimeout, .responseRead, .closed]

def ofLabel? (text : String) : Option ConnectionErrorKind :=
  all.find? fun kind => kind.label == text

end ConnectionErrorKind

namespace Error

def message : Error → String
  | .connection error => error.message
  | .server error => error.message
  | .protocol error => error.message

def detail : Error → String
  | .connection error => error.message
  | .server error => error.message ++ " (" ++ error.code ++ ")"
  | .protocol error => error.message

def display : Error → String
  | .connection error => "Connection error: " ++ error.message
  | .server error => "Server error (" ++ error.code ++ "): " ++ error.message
  | .protocol error => "Protocol error: " ++ error.message

def source? : Error → Option IoError
  | .connection error => error.source
  | .server _ => none
  | .protocol error => error.source

def kind? : Error → Option ConnectionErrorKind
  | .connection error => some error.kind
  | _ => none

def serverCode? : Error → Option String
  | .server error => some error.code
  | _ => none

def failureClass? : Error → Option FailureClass
  | .server error => some error.failureClass
  | _ => none

/-- Trying again may succeed: a transient failure, or trouble while talking. -/
def isRetryable : Error → Bool
  | .connection error =>
    match error.kind with
    | .send | .responseTimeout | .responseRead => true
    | .connect | .closed => false
  | .server error => error.failureClass = .transient
  | .protocol _ => false

def isConnectionError : Error → Bool
  | .connection _ | .protocol _ => true
  | .server _ => false

def isResponseTimeout (error : Error) : Bool := error.kind? = some .responseTimeout

def connect (message : String) (source : Option IoError) : Error :=
  .connection ⟨.connect, message, source⟩

def closed : Error := .connection ⟨.closed, "Connection has been closed", none⟩

def writeRefused : Error :=
  .connection ⟨.send, "Unable to send messages to server: an earlier write failed part way through; the connection must be closed", none⟩

def sendFailed (failure : IoError) : Error :=
  .connection ⟨.send, "Unable to send messages to server: " ++ failure.describe, some failure⟩

/-- A read that failed; a time limit that passed is an error of its own. -/
def receiveFailed (failure : IoError) : Error :=
  if failure.isTimeout then
    .connection ⟨.responseTimeout, "Server did not reply within the network timeout limit.",
      some failure⟩
  else
    .connection ⟨.responseRead, "Unable to read response from server: " ++ failure.describe,
      some failure⟩

end Error

end PipelinedClient
