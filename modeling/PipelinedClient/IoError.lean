import PipelinedClient.IoError.System

/-! Failures of input and output. A failure is known by its kind, comes with a text of
its own, or is an error number of the operating system, which fixes both. -/

set_option autoImplicit false

namespace PipelinedClient

/-- A failure; fixed wording only spells out the kind, a custom text says more. -/
inductive IoError where
  | bare (kind : IoErrorKind)
  | fixed (kind : IoErrorKind) (text : String)
  | custom (kind : IoErrorKind) (text : String)
  | system (number : Int)
  deriving DecidableEq

namespace IoError

def kind : IoError → IoErrorKind
  | .bare kind | .fixed kind _ | .custom kind _ => kind
  | .system number => (SystemError.ofNumber number).kind

def display : IoError → String
  | .bare kind => kind.description
  | .fixed _ text | .custom _ text => text
  | .system number => (SystemError.ofNumber number).display

/-- The text of a failure that has one of its own, otherwise the label of its kind. -/
def describe : IoError → String
  | .bare kind | .fixed kind _ => kind.label
  | failure => failure.display

def isTimeout (failure : IoError) : Bool :=
  failure.kind = .timedOut || failure.kind = .wouldBlock

end IoError

end PipelinedClient
