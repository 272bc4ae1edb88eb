import PipelinedClient.Json.Number
import PipelinedClient.Json.Parse
import PipelinedClient.Ordered.Map

/-! JSON documents: trees whose every literal has a value, with the members of an
object in key order. Of repeated keys the last one counts. -/

set_option autoImplicit false

namespace PipelinedClient.Json

inductive Document where
  | null
  | boolean (value : Bool)
  | number (value : Number)
  | text (content : String)
  | array (items : List Document)
  | object (fields : List (String × Document))

mutual

/-- The document of a tree, if every numeral is finite and every text well formed. -/
def documentOf? : Tree → Option Document
  | .null => some .null
  | .boolean value => some (.boolean value)
  | .number numeral => (number? numeral).map .number
  | .text content => content.map .text
  | .array items => (itemsOf? items).map .array
  | .object fields => (fieldsOf? fields).map fun entries => .object (Entries.ofList entries)

def itemsOf? : List Tree → Option (List Document)
  | [] => some []
  | item :: rest => do
    let item ← documentOf? item
    let rest ← itemsOf? rest
    return item :: rest

def fieldsOf? : List (Option String × Tree) → Option (List (String × Document))
  | [] => some []
  | (key, value) :: rest => do
    let key ← key
    let value ← documentOf? value
    let rest ← fieldsOf? rest
    return (key, value) :: rest

end

def Document.parse? (text : String) : Option Document := do
  let tree ← Tree.parse? text
  if tree.depth ≤ nestingLimit then documentOf? tree else none

end PipelinedClient.Json
