import PipelinedClient.Text.Inspection
import PipelinedClient.Value.Basic

/-! Inspection text of values. -/

set_option autoImplicit false

namespace PipelinedClient.Value

mutual

def inspect : Value → String
  | .null => "Null"
  | .boolean value => Inspection.variant "Boolean" [Inspection.boolean value]
  | .integer value => Inspection.variant "Integer" [toString value.toInt]
  | .float value => Inspection.variant "Float" [Inspection.double value]
  | .string value => Inspection.variant "String" [Inspection.quoted value]
  | .bytes value =>
    Inspection.variant "Bytes" [Inspection.list (value.map fun byte => toString byte.toNat)]
  | .list items => Inspection.variant "List" [Inspection.list (inspectItems items)]
  | .map entries => Inspection.variant "Map" [Inspection.map (inspectEntries entries)]

def inspectItems : List Value → List String
  | [] => []
  | item :: rest => item.inspect :: inspectItems rest

def inspectEntries : List (String × Value) → List (String × String)
  | [] => []
  | (key, value) :: rest => (key, value.inspect) :: inspectEntries rest

end

def inspectList (items : List Value) : String := Inspection.list (inspectItems items)

def inspectMap (entries : List (String × Value)) : String := Inspection.map (inspectEntries entries)

end PipelinedClient.Value
