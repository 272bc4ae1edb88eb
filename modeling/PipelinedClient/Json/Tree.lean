import PipelinedClient.Decimal.Numeral

/-! JSON texts as syntax trees, and their compact written form.

A tree keeps what the text says: object members in order with repeated keys, and
numbers as numerals. A string literal whose escapes leave a surrogate unpaired is
grammatical but denotes no text; it is kept as `none`.
-/

set_option autoImplicit false

namespace PipelinedClient.Json

inductive Tree where
  | null
  | boolean (value : Bool)
  | number (numeral : Numeral)
  | text (content : Option String)
  | array (items : List Tree)
  | object (fields : List (Option String × Tree))
  deriving Inhabited

def literalChar (c : Char) : List Char :=
  match c with
  | '"' => ['\\', '"']
  | '\\' => ['\\', '\\']
  | '\x08' => ['\\', 'b']
  | '\x0c' => ['\\', 'f']
  | '\n' => ['\\', 'n']
  | '\r' => ['\\', 'r']
  | '\t' => ['\\', 't']
  | c =>
    if c.toNat < 0x20 then
      ['\\', 'u', '0', '0', Nat.digitChar (c.toNat / 16), Nat.digitChar (c.toNat % 16)]
    else [c]

/-- A string literal; where there is no text, one with an unpaired surrogate. -/
def literal : Option String → List Char
  | some content => '"' :: content.toList.flatMap literalChar ++ ['"']
  | none => ['"', '\\', 'u', 'd', '8', '0', '0', '"']

mutual

def Tree.chars : Tree → List Char
  | .null => ['n', 'u', 'l', 'l']
  | .boolean true => ['t', 'r', 'u', 'e']
  | .boolean false => ['f', 'a', 'l', 's', 'e']
  | .number numeral => numeral.chars true
  | .text content => literal content
  | .array items => '[' :: itemsChars items ++ [']']
  | .object fields => '\x7b' :: fieldsChars fields ++ ['\x7d']

def itemsChars : List Tree → List Char
  | [] => []
  | [item] => item.chars
  | item :: rest => item.chars ++ ',' :: itemsChars rest

def fieldsChars : List (Option String × Tree) → List Char
  | [] => []
  | [(key, value)] => literal key ++ ':' :: value.chars
  | (key, value) :: rest => literal key ++ ':' :: value.chars ++ ',' :: fieldsChars rest

end

mutual

def Tree.depth : Tree → Nat
  | .array items => itemsDepth items + 1
  | .object fields => fieldsDepth fields + 1
  | _ => 0

def itemsDepth : List Tree → Nat
  | [] => 0
  | item :: rest => max item.depth (itemsDepth rest)

def fieldsDepth : List (Option String × Tree) → Nat
  | [] => 0
  | (_, value) :: rest => max value.depth (fieldsDepth rest)

end

/-- The deepest nesting that readers follow. -/
def nestingLimit : Nat := 127

def Tree.render (tree : Tree) : String := String.ofList tree.chars

end PipelinedClient.Json
