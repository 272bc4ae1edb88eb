import PipelinedClient.Error
import PipelinedClient.Value.Inspection

/-! Responses of the server, and the signals by which they reach whoever asked.

A request is answered by any number of records and then one summary: success,
failure, or ignored because an earlier request failed.
-/

set_option autoImplicit false

namespace PipelinedClient

inductive Response where
  | success (metadata : SortedMap Value)
  | record (fields : List Value)
  | failure (code message : String)
  | ignored
  deriving DecidableEq

namespace Response

def name : Response → String
  | .success _ => "SUCCESS"
  | .record _ => "RECORD"
  | .failure _ _ => "FAILURE"
  | .ignored => "IGNORED"

def isSummary : Response → Bool
  | .record _ => false
  | _ => true

def reported? : Response → Option ServerError
  | .failure code message => some (ServerError.ofReport code message)
  | _ => none

def display : Response → String
  | .success metadata => "SUCCESS " ++ Value.inspectMap metadata.entries
  | .record fields => "RECORD " ++ Value.inspectList fields
  | .failure code message => "FAILURE " ++ code ++ " \"" ++ message ++ "\""
  | .ignored => "IGNORED"

end Response

inductive Signal where
  | success (metadata : SortedMap Value)
  | record (fields : List Value)
  | failure (error : ServerError)
  | ignored
  deriving DecidableEq

namespace Signal

def ofResponse : Response → Signal
  | .success metadata => .success metadata
  | .record fields => .record fields
  | .failure code message => .failure (ServerError.ofReport code message)
  | .ignored => .ignored

def isTerminal : Signal → Bool
  | .record _ => false
  | _ => true

end Signal

end PipelinedClient
