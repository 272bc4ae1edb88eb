import PipelinedClient.Json.Parse

/-! JSON forms of data types.

A type with several shapes is tagged by the name of the shape: the name alone
when it carries nothing, otherwise an object with the name as its only key.
-/

set_option autoImplicit false

namespace PipelinedClient.Json

class Form (α : Type) where
  toTree : α → Tree
  ofTree? : Tree → Option α

def encode {α : Type} [Form α] (value : α) : String := (Form.toTree value).render

def decode? (α : Type) [Form α] (text : String) : Option α :=
  (Tree.parse? text).bind Form.ofTree?

def bareTag (name : String) : Tree := .text (some name)

def tagged (name : String) (payload : Tree) : Tree := .object [(some name, payload)]

/-- The name of a shape that carries nothing; an explicit null counts as nothing. -/
def bareTag? : Tree → Option String
  | .text (some name) => some name
  | .object [(some name, .null)] => some name
  | _ => none

def optionTree {α : Type} [Form α] : Option α → Tree
  | none => .null
  | some value => Form.toTree value

def optionOfTree? {α : Type} [Form α] : Tree → Option (Option α)
  | .null => some none
  | tree => (Form.ofTree? tree).map some

instance : Form String where
  toTree content := .text (some content)
  ofTree?
    | .text content => content
    | _ => none

end PipelinedClient.Json
