/-! Logging.

Components ask a provider for a logger under their own name and write lines to
it. What a component asked for and wrote is kept as a list of `LogLine`s. Where
the lines go is the provider's concern: a subscriber takes those up to its level,
labelled with the logger's name, and a silent provider takes none.
-/

set_option autoImplicit false

namespace PipelinedClient

inductive LogLevel where
  | error
  | warn
  | info
  | debug
  deriving DecidableEq

namespace LogLevel

def name : LogLevel → String
  | .error => "ERROR"
  | .warn => "WARN"
  | .info => "INFO"
  | .debug => "DEBUG"

def verbosity : LogLevel → Nat
  | .error => 1
  | .warn => 2
  | .info => 3
  | .debug => 4

end LogLevel

/-- One use of logging: a logger was asked for, or a line was written. -/
inductive LogLine where
  | lookup (name : String)
  | line (level : LogLevel) (text : String)
  deriving DecidableEq

namespace LogLine

def isDebug : LogLine → Bool
  | .line .debug _ => true
  | _ => false

def render : LogLine → String
  | .lookup name => "GET " ++ name
  | .line level text => level.name ++ " " ++ text

end LogLine

inductive LogProvider where
  | subscribed (verbosity : Nat)
  | silent
  deriving DecidableEq

structure LogEvent where
  level : LogLevel
  logger : String
  text : String
  deriving DecidableEq

namespace LogProvider

def takes (provider : LogProvider) (level : LogLevel) : Bool :=
  match provider with
  | .subscribed verbosity => level.verbosity ≤ verbosity
  | .silent => false

def isDebugEnabled (provider : LogProvider) : Bool := provider.takes .debug

def events (provider : LogProvider) (logger : String) (lines : List (LogLevel × String)) :
    List LogEvent :=
  (lines.filter fun line => provider.takes line.1).map fun line => ⟨line.1, logger, line.2⟩

def inspect (_ : LogProvider) : String := "Logging"

end LogProvider

end PipelinedClient
