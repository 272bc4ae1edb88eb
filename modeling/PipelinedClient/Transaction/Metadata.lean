import PipelinedClient.Value.Inspection
import PipelinedClient.Value.Json

/-! The metadata that a request to begin a transaction carries. -/

set_option autoImplicit false

namespace PipelinedClient

structure TransactionMetadata where
  map : SortedMap Value
  deriving DecidableEq

namespace TransactionMetadata

def ofList (entries : List (String × Value)) : TransactionMetadata := ⟨SortedMap.ofList entries⟩

def find? (metadata : TransactionMetadata) (key : String) : Option Value := metadata.map.find? key

def contains (metadata : TransactionMetadata) (key : String) : Bool := metadata.map.contains key

def keys (metadata : TransactionMetadata) : List String := metadata.map.keys

def size (metadata : TransactionMetadata) : Nat := metadata.map.size

def isEmpty (metadata : TransactionMetadata) : Bool := metadata.map.isEmpty

def toValue (metadata : TransactionMetadata) : Value := Value.ofMap metadata.map

def inspect (metadata : TransactionMetadata) : String :=
  Inspection.variant "TransactionMetadata" [Value.inspectMap metadata.map.entries]

instance : Json.Form TransactionMetadata where
  toTree metadata := Json.Form.toTree metadata.map
  ofTree? tree := (Json.Form.ofTree? tree).map TransactionMetadata.mk

end TransactionMetadata

end PipelinedClient
