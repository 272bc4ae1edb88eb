import PipelinedClient.Json.Form
import PipelinedClient.Text.Inspection

/-! What a transaction is aimed at: how it accesses data and in which database. -/

set_option autoImplicit false

namespace PipelinedClient

inductive AccessMode where
  | read
  | write
  deriving DecidableEq, Inhabited

namespace AccessMode

def all : List AccessMode := [.read, .write]

def label : AccessMode → String
  | .read => "Read"
  | .write => "Write"

def ofLabel? (text : String) : Option AccessMode := all.find? fun mode => mode.label == text

instance : Json.Form AccessMode where
  toTree mode := Json.bareTag mode.label
  ofTree? tree := (Json.bareTag? tree).bind ofLabel?

end AccessMode

/-- The server's default database or one with a name; an empty name is a name. -/
inductive DatabaseName where
  | default
  | named (name : String)
  deriving DecidableEq

namespace DatabaseName

def name? : DatabaseName → Option String
  | .default => none
  | .named name => some name

def isDefault : DatabaseName → Bool
  | .default => true
  | .named _ => false

def display : DatabaseName → String
  | .default => "<default database>"
  | .named name => name

def inspect : DatabaseName → String
  | .default => "Default"
  | .named name => Inspection.variant "Named" [Inspection.quoted name]

instance : Json.Form DatabaseName where
  toTree
    | .default => Json.bareTag "Default"
    | .named name => Json.tagged "Named" (.text (some name))
  ofTree?
    | .object [(some "Named", .text (some name))] => some (.named name)
    | tree => if Json.bareTag? tree = some "Default" then some .default else none

end DatabaseName

end PipelinedClient
