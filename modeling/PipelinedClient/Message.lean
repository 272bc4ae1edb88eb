import PipelinedClient.Transaction.Metadata

/-! Requests to the server: what each carries, its name and its tag byte, and the
line that stands for it in the log. -/

set_option autoImplicit false

namespace PipelinedClient

inductive Message where
  | init (clientName : String) (authToken : SortedMap Value)
  | run (statement : String) (parameters : SortedMap Value)
  | pullAll
  | discardAll
  | reset
  | begin (metadata : TransactionMetadata)
  | commit
  | rollback
  deriving DecidableEq

namespace Message

def name : Message → String
  | .init _ _ => "INIT"
  | .run _ _ => "RUN"
  | .pullAll => "PULL_ALL"
  | .discardAll => "DISCARD_ALL"
  | .reset => "RESET"
  | .begin _ => "BEGIN"
  | .commit => "COMMIT"
  | .rollback => "ROLLBACK"

def signature : Message → UInt8
  | .init _ _ => 0x01
  | .run _ _ => 0x10
  | .pullAll => 0x3F
  | .discardAll => 0x2F
  | .reset => 0x0F
  | .begin _ => 0x11
  | .commit => 0x12
  | .rollback => 0x13

/-- The line for the log, which never shows an authentication token. -/
def display : Message → String
  | .init clientName _ => "INIT \"" ++ clientName ++ "\" " ++ Inspection.braces "..."
  | .run statement parameters =>
    "RUN \"" ++ statement ++ "\" " ++ Value.inspectMap parameters.entries
  | .begin metadata => "BEGIN " ++ Value.inspectMap metadata.map.entries
  | message => message.name

def inspect : Message → String
  | .init clientName authToken => Inspection.record "Init"
    [("client_name", Inspection.quoted clientName),
     ("auth_token", Value.inspectMap authToken.entries)]
  | .run statement parameters => Inspection.record "Run"
    [("statement", Inspection.quoted statement),
     ("parameters", Value.inspectMap parameters.entries)]
  | .pullAll => "PullAll"
  | .discardAll => "DiscardAll"
  | .reset => "Reset"
  | .begin metadata => Inspection.record "Begin" [("metadata", metadata.inspect)]
  | .commit => "Commit"
  | .rollback => "Rollback"

end Message

end PipelinedClient
