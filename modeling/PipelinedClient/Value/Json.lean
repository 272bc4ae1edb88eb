import PipelinedClient.Decimal.Layout
import PipelinedClient.Json.Document
import PipelinedClient.Json.Form
import PipelinedClient.Value.Basic

/-! Values and JSON.

Values have a tagged JSON form of their own, which tells bytes from lists and
integers from floats. Foreign documents convert too: their numbers become
integers where they are stored as integers that fit, and floats otherwise.
-/

set_option autoImplicit false

namespace PipelinedClient

open Json (Tree Document)

def int64? (value : Int) : Option Int64 :=
  if Int64.minValue.toInt ≤ value ∧ value ≤ Int64.maxValue.toInt then some (Int64.ofInt value)
  else none

def Json.Number.word? : Json.Number → Option Int64
  | .integer value => int64? value
  | .double _ => none

def Json.Number.double? : Json.Number → Option Binary64
  | .integer value => some (Binary64.ofInt value)
  | .double value => some value

def byte? (value : Int) : Option UInt8 :=
  if 0 ≤ value ∧ value < 256 then some (UInt8.ofNat value.toNat) else none

/-- Doubles in JSON are positional from a hundred-thousandth up to ten to the
sixteenth; a draw between digits goes to the even one. -/
def jsonDoubleLayout : DoubleLayout := ⟨-5, 15, .even⟩

/-- JSON has no notation for infinities and NaN. -/
def Binary64.toTree (double : Binary64) : Tree :=
  if double.isFinite then .number (jsonDoubleLayout.numeral double.negative double.magnitude)
  else .null

def integerOfTree? : Tree → Option Int
  | .number numeral => Json.integer? numeral
  | _ => none

def doubleOfTree? : Tree → Option Binary64
  | .number numeral =>
    match Json.number? numeral with
    | some (.integer value) => some (Binary64.ofInt value)
    | some (.double value) => some value
    | none => none
  | _ => none

def bytesOfTrees? (items : List Tree) : Option (List UInt8) :=
  items.mapM fun item => (integerOfTree? item).bind byte?

namespace Value

mutual

def toTree : Value → Tree
  | .null => Json.bareTag "Null"
  | .boolean value => Json.tagged "Boolean" (.boolean value)
  | .integer value => Json.tagged "Integer" (.number (Numeral.ofInt value.toInt))
  | .float value => Json.tagged "Float" value.toTree
  | .string value => Json.tagged "String" (.text (some value))
  | .bytes value =>
    Json.tagged "Bytes" (.array (value.map fun byte => .number (Numeral.ofInt byte.toNat)))
  | .list items => Json.tagged "List" (.array (itemsToTrees items))
  | .map entries => Json.tagged "Map" (.object (entriesToFields entries))

def itemsToTrees : List Value → List Tree
  | [] => []
  | item :: rest => item.toTree :: itemsToTrees rest

def entriesToFields : List (String × Value) → List (Option String × Tree)
  | [] => []
  | (key, value) :: rest => (some key, value.toTree) :: entriesToFields rest

end

mutual

def ofTree? : Tree → Option Value
  | .text (some "Null") => some .null
  | .object [(some "Null", .null)] => some .null
  | .object [(some "Boolean", .boolean value)] => some (.boolean value)
  | .object [(some "Integer", payload)] =>
    (integerOfTree? payload).bind fun value => (int64? value).map .integer
  | .object [(some "Float", payload)] => (doubleOfTree? payload).map .float
  | .object [(some "String", .text (some value))] => some (.string value)
  | .object [(some "Bytes", .array items)] => (bytesOfTrees? items).map .bytes
  | .object [(some "List", .array items)] => (itemsOfTrees? items).map .list
  | .object [(some "Map", .object fields)] => (entriesOfFields? fields).map ofEntries
  | _ => none

def itemsOfTrees? : List Tree → Option (List Value)
  | [] => some []
  | item :: rest => do
    let item ← ofTree? item
    let rest ← itemsOfTrees? rest
    return item :: rest

def entriesOfFields? : List (Option String × Tree) → Option (List (String × Value))
  | [] => some []
  | (key, value) :: rest => do
    let key ← key
    let value ← ofTree? value
    let rest ← entriesOfFields? rest
    return (key, value) :: rest

end

instance : Json.Form Value where
  toTree := toTree
  ofTree? tree := if tree.depth ≤ Json.nestingLimit then ofTree? tree else none

/-- A number becomes an integer when it is stored as one that fits a signed word, else a
float; one that has no double would become null. -/
def ofNumber (number : Json.Number) : Value :=
  match number.word? with
  | some word => .integer word
  | none => (number.double?.map .float).getD .null

mutual

def ofDocument : Document → Value
  | .null => .null
  | .boolean value => .boolean value
  | .number value => ofNumber value
  | .text content => .string content
  | .array items => .list (itemsOfDocuments items)
  | .object fields => .map (entriesOfFields fields)

def itemsOfDocuments : List Document → List Value
  | [] => []
  | item :: rest => ofDocument item :: itemsOfDocuments rest

def entriesOfFields : List (String × Document) → List (String × Value)
  | [] => []
  | (key, value) :: rest => (key, ofDocument value) :: entriesOfFields rest

end

end Value

instance : Json.Form (SortedMap Value) where
  toTree map := .object (Value.entriesToFields map.entries)
  ofTree?
    | .object fields =>
      if (Tree.object fields).depth ≤ Json.nestingLimit then
        (Value.entriesOfFields? fields).map SortedMap.ofList
      else none
    | _ => none

end PipelinedClient
