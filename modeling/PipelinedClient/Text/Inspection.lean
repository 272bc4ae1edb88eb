import PipelinedClient.Decimal.Layout
import PipelinedClient.Text.Concealed

/-! Inspection text: the notation in which values are shown to developers.

A record shows its name and fields, a variant its name and arguments, a
container its members; strings are quoted, with escapes for what would not be
visible. Numbers, lists and maps look the same wherever they occur.
-/

set_option autoImplicit false

namespace PipelinedClient.Inspection

/-- Doubles are positional from a ten-thousandth up to ten to the sixteenth;
a draw between digits goes up. -/
def doubleLayout : DoubleLayout := ⟨-4, 15, .up⟩

def double (value : Binary64) : String :=
  if value.isNaN then "NaN"
  else if value.isFinite then
    String.ofList ((doubleLayout.numeral value.negative value.magnitude).chars false)
  else if value.negative then "-inf" else "inf"

def boolean : Bool → String
  | true => "true"
  | false => "false"

def braces (text : String) : String := "\x7b" ++ text ++ "\x7d"

def quotedChar (c : Char) : List Char :=
  match c with
  | '\x00' => ['\\', '0']
  | '\t' => ['\\', 't']
  | '\r' => ['\\', 'r']
  | '\n' => ['\\', 'n']
  | '"' => ['\\', '"']
  | '\\' => ['\\', '\\']
  | c =>
    if Text.concealed c then ['\\', 'u', '\x7b'] ++ Nat.toDigits 16 c.toNat ++ ['\x7d'] else [c]

def quoted (text : String) : String :=
  String.ofList ('"' :: text.toList.flatMap quotedChar ++ ['"'])

def commaSeparated (items : List String) : String := ", ".intercalate items

def list (items : List String) : String := "[" ++ commaSeparated items ++ "]"

def set (items : List String) : String := braces (commaSeparated items)

def map (entries : List (String × String)) : String :=
  braces (commaSeparated (entries.map fun entry => quoted entry.1 ++ ": " ++ entry.2))

def variant (name : String) (arguments : List String) : String :=
  name ++ "(" ++ commaSeparated arguments ++ ")"

def optional : Option String → String
  | none => "None"
  | some text => variant "Some" [text]

def fieldTexts (fields : List (String × String)) : List String :=
  fields.map fun field => field.1 ++ ": " ++ field.2

def record (name : String) (fields : List (String × String)) : String :=
  name ++ " " ++ braces (" " ++ commaSeparated (fieldTexts fields) ++ " ")

def partialRecord (name : String) (fields : List (String × String)) : String :=
  name ++ " " ++ braces (" " ++ commaSeparated (fieldTexts fields ++ [".."]) ++ " ")

end PipelinedClient.Inspection
