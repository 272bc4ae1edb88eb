import PipelinedClient.Json.Tree

/-! Reading JSON texts: the strict grammar, with blanks around every token and
nothing after the document. Scanners take the rest of the text and return what
they read with what is left; `none` means that the text is not grammatical. -/

set_option autoImplicit false

namespace PipelinedClient.Json

def isBlank (c : Char) : Bool := c == ' ' || c == '\t' || c == '\n' || c == '\r'

def skipBlanks (chars : List Char) : List Char := chars.dropWhile isBlank

def hexDigit? (c : Char) : Option Nat :=
  if c.isDigit then some (c.toNat - '0'.toNat)
  else if 'a' ≤ c ∧ c ≤ 'f' then some (c.toNat - 'a'.toNat + 10)
  else if 'A' ≤ c ∧ c ≤ 'F' then some (c.toNat - 'A'.toNat + 10)
  else none

def shortEscape? (c : Char) : Option Char :=
  match c with
  | '"' => some '"'
  | '\\' => some '\\'
  | '/' => some '/'
  | 'b' => some '\x08'
  | 'f' => some '\x0c'
  | 'n' => some '\n'
  | 'r' => some '\r'
  | 't' => some '\t'
  | _ => none

/-- The code points of a string literal after its opening quote; an escape may
give a surrogate, a raw character cannot. -/
def scanLiteral : List Char → Option (List Nat × List Char)
  | [] => none
  | '"' :: rest => some ([], rest)
  | '\\' :: 'u' :: a :: b :: c :: d :: rest => do
    let a ← hexDigit? a
    let b ← hexDigit? b
    let c ← hexDigit? c
    let d ← hexDigit? d
    let (codes, rest) ← scanLiteral rest
    return ((((a * 16 + b) * 16 + c) * 16 + d) :: codes, rest)
  | '\\' :: letter :: rest => do
    let escaped ← shortEscape? letter
    let (codes, rest) ← scanLiteral rest
    return (escaped.toNat :: codes, rest)
  | c :: rest =>
    if c.toNat < 0x20 then none
    else (scanLiteral rest).map fun (codes, rest) => (c.toNat :: codes, rest)

def joinSurrogates : List Nat → Option (List Char)
  | [] => some []
  | high :: low :: rest =>
    if 0xD800 ≤ high ∧ high ≤ 0xDBFF then
      if 0xDC00 ≤ low ∧ low ≤ 0xDFFF then
        (joinSurrogates rest).map
          (Char.ofNat (0x10000 + (high - 0xD800) * 0x400 + (low - 0xDC00)) :: ·)
      else none
    else if 0xDC00 ≤ high ∧ high ≤ 0xDFFF then none
    else (joinSurrogates (low :: rest)).map (Char.ofNat high :: ·)
  | [code] => if 0xD800 ≤ code ∧ code ≤ 0xDFFF then none else some [Char.ofNat code]

def textOfCodes (codes : List Nat) : Option String := (joinSurrogates codes).map String.ofList

def scanFraction : List Char → Option (List Char × List Char)
  | '.' :: rest =>
    let digits := rest.takeWhile Char.isDigit
    if digits.isEmpty then none else some (digits, rest.dropWhile Char.isDigit)
  | rest => some ([], rest)

def scanPowerDigits (negative : Bool) (chars : List Char) : Option (Option Int × List Char) :=
  let digits := chars.takeWhile Char.isDigit
  if digits.isEmpty then none
  else
    let size : Int := Nat.ofDigitChars 10 digits 0
    some (some (if negative then -size else size), chars.dropWhile Char.isDigit)

def scanPower : List Char → Option (Option Int × List Char)
  | 'e' :: '-' :: rest | 'E' :: '-' :: rest => scanPowerDigits true rest
  | 'e' :: '+' :: rest | 'E' :: '+' :: rest => scanPowerDigits false rest
  | 'e' :: rest | 'E' :: rest => scanPowerDigits false rest
  | rest => some (none, rest)

/-- An unsigned numeral; a zero at the front stands alone. -/
def scanUnsigned (negative : Bool) (chars : List Char) : Option (Numeral × List Char) := do
  let digits := chars.takeWhile Char.isDigit
  if digits.isEmpty || (digits.head? == some '0' && digits.length != 1) then none
  let (fraction, rest) ← scanFraction (chars.dropWhile Char.isDigit)
  let (power, rest) ← scanPower rest
  return (⟨negative, Nat.ofDigitChars 10 digits 0, fraction, power⟩, rest)

def scanNumeral : List Char → Option (Numeral × List Char)
  | '-' :: rest => scanUnsigned true rest
  | rest => scanUnsigned false rest

mutual

def parseTree : Nat → List Char → Option (Tree × List Char)
  | 0, _ => none
  | fuel + 1, chars =>
    match skipBlanks chars with
    | 'n' :: 'u' :: 'l' :: 'l' :: rest => some (.null, rest)
    | 't' :: 'r' :: 'u' :: 'e' :: rest => some (.boolean true, rest)
    | 'f' :: 'a' :: 'l' :: 's' :: 'e' :: rest => some (.boolean false, rest)
    | '"' :: rest => (scanLiteral rest).map fun (codes, rest) => (.text (textOfCodes codes), rest)
    | '[' :: rest =>
      match skipBlanks rest with
      | ']' :: rest => some (.array [], rest)
      | rest => (parseItems fuel rest).map fun (items, rest) => (.array items, rest)
    | '\x7b' :: rest =>
      match skipBlanks rest with
      | '\x7d' :: rest => some (.object [], rest)
      | rest => (parseFields fuel rest).map fun (fields, rest) => (.object fields, rest)
    | rest => (scanNumeral rest).map fun (numeral, rest) => (.number numeral, rest)

def parseItems : Nat → List Char → Option (List Tree × List Char)
  | 0, _ => none
  | fuel + 1, chars => do
    let (item, rest) ← parseTree fuel chars
    match skipBlanks rest with
    | ',' :: rest =>
      let (items, rest) ← parseItems fuel rest
      return (item :: items, rest)
    | ']' :: rest => return ([item], rest)
    | _ => none

def parseFields : Nat → List Char → Option (List (Option String × Tree) × List Char)
  | 0, _ => none
  | fuel + 1, chars =>
    match skipBlanks chars with
    | '"' :: rest => do
      let (codes, rest) ← scanLiteral rest
      match skipBlanks rest with
      | ':' :: rest =>
        let (value, rest) ← parseTree fuel rest
        match skipBlanks rest with
        | ',' :: rest =>
          let (fields, rest) ← parseFields fuel rest
          return ((textOfCodes codes, value) :: fields, rest)
        | '\x7d' :: rest => return ([(textOfCodes codes, value)], rest)
        | _ => none
      | _ => none
    | _ => none

end

/-- The tree of a whole text. Every second call reads a character, so twice the
length is fuel enough. -/
def Tree.parse? (text : String) : Option Tree :=
  match parseTree (2 * text.length + 2) text.toList with
  | some (tree, rest) => if (skipBlanks rest).isEmpty then some tree else none
  | none => none

end PipelinedClient.Json
