import Mathlib.Data.Nat.Digits.Defs
import PipelinedClient.Json.Form

/-! Reading back what was written.

The compact text of a tree is read as that tree, whatever stands behind it: every scanner
takes exactly what the writer of its part wrote and leaves the rest of the text. So two
trees never have the same text.
-/

set_option autoImplicit false

namespace PipelinedClient

def Numeral.Written (numeral : Numeral) : Prop := ∀ c ∈ numeral.fraction, c.isDigit = true

namespace Json

/-! Numerals. -/

/-- Nothing that could go on a numeral comes next. -/
def Stops (rest : List Char) : Prop :=
  ∀ c ∈ rest.head?, c.isDigit = false ∧ c ≠ '.' ∧ c ≠ 'e' ∧ c ≠ 'E'

theorem stops_nil : Stops [] := nofun

theorem stops_cons {c : Char} (rest : List Char)
    (stops : c.isDigit = false ∧ c ≠ '.' ∧ c ≠ 'e' ∧ c ≠ 'E') : Stops (c :: rest) := by
  intro other member
  rw [List.head?_cons, Option.mem_some_iff] at member
  exact member ▸ stops

theorem span_digits {digits rest : List Char} (all : ∀ c ∈ digits, c.isDigit = true)
    (next : ∀ c ∈ rest.head?, c.isDigit = false) :
    (digits ++ rest).takeWhile Char.isDigit = digits ∧
      (digits ++ rest).dropWhile Char.isDigit = rest := by
  rw [List.takeWhile_append_of_pos all, List.dropWhile_append_of_pos all]
  cases rest with
  | nil => exact ⟨List.append_nil _, rfl⟩
  | cons c rest =>
    have other : c.isDigit = false := next c rfl
    rw [List.takeWhile_cons, List.dropWhile_cons, other]
    exact ⟨List.append_nil _, rfl⟩

theorem isDigit_toDigits (size : Nat) : ∀ c ∈ Nat.toDigits 10 size, c.isDigit = true :=
  fun _ => Nat.isDigit_of_mem_toDigits (by decide) (by decide)

theorem head?_toDigits {size : Nat} (zero : (Nat.toDigits 10 size).head? = some '0') :
    size = 0 := by
  induction size using Nat.strongRecOn with
  | _ size ih =>
    rw [Nat.toDigits_eq_if (by decide)] at zero
    split at zero
    · rename_i small
      have single : ∀ digit < 10, [Nat.digitChar digit].head? = some '0' → digit = 0 := by decide
      exact single size small zero
    · rename_i large
      have first : (Nat.toDigits 10 (size / 10)).head? = some '0' := by
        have some : Nat.toDigits 10 (size / 10) ≠ [] := Nat.toDigits_ne_nil
        obtain ⟨c, tail, whole⟩ := List.exists_cons_of_ne_nil some
        rw [whole] at zero ⊢
        exact zero
      have none := ih (size / 10) (by omega) first
      omega

/-- The digits of a number do not start with a zero unless they are just that. -/
theorem toDigits_canonical (size : Nat) :
    ((Nat.toDigits 10 size).isEmpty || ((Nat.toDigits 10 size).head? == some '0' &&
      (Nat.toDigits 10 size).length != 1)) = false := by
  have some : (Nat.toDigits 10 size).isEmpty = false := by
    rw [List.isEmpty_eq_false_iff]
    exact Nat.toDigits_ne_nil
  rw [some, Bool.false_or]
  by_cases zero : (Nat.toDigits 10 size).head? = .some '0'
  · rw [head?_toDigits zero]
    rfl
  · rw [beq_eq_false_iff_ne.mpr zero, Bool.false_and]

theorem scanFraction_written {fraction rest : List Char}
    (all : ∀ c ∈ fraction, c.isDigit = true)
    (next : ∀ c ∈ rest.head?, c.isDigit = false ∧ c ≠ '.') :
    scanFraction ((if fraction.isEmpty then [] else '.' :: fraction) ++ rest) =
      some (fraction, rest) := by
  cases fraction with
  | nil =>
    cases rest with
    | nil => rfl
    | cons c rest =>
      have other := (next c rfl).2
      simp [scanFraction, other]
  | cons digit digits =>
    obtain ⟨taken, left⟩ := span_digits all fun c member => (next c member).1
    simp only [List.isEmpty_cons, Bool.false_eq_true, if_false, List.cons_append, scanFraction]
    rw [← List.cons_append, taken, left]
    rfl

theorem scanPowerDigits_written (negative : Bool) (size : Nat) {rest : List Char}
    (next : ∀ c ∈ rest.head?, c.isDigit = false) :
    scanPowerDigits negative (Nat.toDigits 10 size ++ rest) =
      some (some (if negative then -(size : Int) else size), rest) := by
  obtain ⟨taken, left⟩ := span_digits (isDigit_toDigits size) next
  have some : (Nat.toDigits 10 size).isEmpty = false := by
    rw [List.isEmpty_eq_false_iff]
    exact Nat.toDigits_ne_nil
  rw [scanPowerDigits, taken, left, some, Nat.ofDigitChars_ten_toDigits]
  rfl

theorem scanPower_written (power : Option Int) {rest : List Char} (stops : Stops rest) :
    scanPower (Numeral.powerText true power ++ rest) = some (power, rest) := by
  have next : ∀ c ∈ rest.head?, c.isDigit = false := fun c member => (stops c member).1
  cases power with
  | none =>
    cases rest with
    | nil => rfl
    | cons c rest =>
      obtain ⟨_, _, lower, upper⟩ := stops c rfl
      simp [Numeral.powerText, scanPower, lower, upper]
  | some power =>
    by_cases negative : power < 0
    · have size : -(power.natAbs : Int) = power := by omega
      simp only [Numeral.powerText, negative, if_true, List.cons_append, List.nil_append, scanPower]
      rw [scanPowerDigits_written true _ next, if_pos rfl, size]
    · have size : (power.natAbs : Int) = power := by omega
      simp only [Numeral.powerText, negative, if_false, if_true, List.cons_append, List.nil_append,
        scanPower]
      rw [scanPowerDigits_written false _ next, if_neg Bool.false_ne_true, size]

theorem scanUnsigned_written {numeral : Numeral} (written : numeral.Written) {rest : List Char}
    (stops : Stops rest) :
    scanUnsigned numeral.negative (Nat.toDigits 10 numeral.whole ++
        ((if numeral.fraction.isEmpty then [] else '.' :: numeral.fraction) ++
          (Numeral.powerText true numeral.power ++ rest))) = some (numeral, rest) := by
  -- What follows a part is either the part behind it or the rest of the text.
  have power : ∀ c ∈ (Numeral.powerText true numeral.power ++ rest).head?,
      c.isDigit = false ∧ c ≠ '.' := by
    cases numeral.power with
    | none => exact fun c member => ⟨(stops c member).1, (stops c member).2.1⟩
    | some power =>
      intro c member
      obtain rfl : 'e' = c := by simpa [Numeral.powerText] using member
      decide
  have fraction : ∀ c ∈ ((if numeral.fraction.isEmpty then [] else '.' :: numeral.fraction) ++
      (Numeral.powerText true numeral.power ++ rest)).head?, c.isDigit = false := by
    cases numeral.fraction with
    | nil => exact fun c member => (power c member).1
    | cons digit digits =>
      intro c member
      obtain rfl : '.' = c := by simpa using member
      decide
  obtain ⟨taken, left⟩ := span_digits (isDigit_toDigits numeral.whole) fraction
  simp only [scanUnsigned, taken, left, toDigits_canonical, Bool.false_eq_true, if_false,
    scanFraction_written written power, Nat.ofDigitChars_ten_toDigits, Option.bind_eq_bind,
    Option.bind_some, scanPower_written _ stops]
  rfl

theorem head_toDigits (size : Nat) :
    ∃ digit digits, Nat.toDigits 10 size = digit :: digits ∧ digit.isDigit = true := by
  obtain ⟨digit, digits, whole⟩ := List.exists_cons_of_ne_nil
    (Nat.toDigits_ne_nil : Nat.toDigits 10 size ≠ [])
  exact ⟨digit, digits, whole, isDigit_toDigits size digit (whole ▸ List.mem_cons_self)⟩

theorem head_numeral (numeral : Numeral) :
    ∃ c tail, numeral.chars true = c :: tail ∧ (c = '-' ∨ c.isDigit = true) := by
  obtain ⟨digit, digits, whole, isDigit⟩ := head_toDigits numeral.whole
  rw [Numeral.chars, whole]
  cases numeral.negative with
  | true => exact ⟨'-', _, rfl, .inl rfl⟩
  | false => exact ⟨digit, _, rfl, .inr isDigit⟩

theorem scanNumeral_of_digit {digit : Char} (isDigit : digit.isDigit = true) (rest : List Char) :
    scanNumeral (digit :: rest) = scanUnsigned false (digit :: rest) := by
  rw [scanNumeral]
  rintro _ minus
  obtain ⟨rfl, _⟩ := List.cons.inj minus
  cases isDigit

theorem scanNumeral_written {numeral : Numeral} (written : numeral.Written) {rest : List Char}
    (stops : Stops rest) : scanNumeral (numeral.chars true ++ rest) = some (numeral, rest) := by
  have unsigned := scanUnsigned_written written stops
  simp only [Numeral.chars, List.append_assoc]
  cases negative : numeral.negative with
  | true =>
    rw [negative] at unsigned
    exact unsigned
  | false =>
    rw [negative] at unsigned
    obtain ⟨digit, digits, whole, isDigit⟩ := head_toDigits numeral.whole
    rw [whole] at unsigned ⊢
    exact (scanNumeral_of_digit isDigit _).trans unsigned

/-! Literals. -/

theorem scanLiteral_short {letter c : Char} (rest : List Char) (notCode : letter ≠ 'u')
    (escape : shortEscape? letter = some c) :
    scanLiteral ('\\' :: letter :: rest) =
      (scanLiteral rest).map fun (codes, rest) => (c.toNat :: codes, rest) := by
  rw [scanLiteral, escape]
  · cases scanLiteral rest <;> rfl
  · exact fun _ _ _ _ _ same _ => notCode same

theorem scanLiteral_plain {c : Char} (rest : List Char) (quote : c ≠ '"') (backslash : c ≠ '\\')
    (plain : ¬ c.toNat < 0x20) :
    scanLiteral (c :: rest) =
      (scanLiteral rest).map fun (codes, rest) => (c.toNat :: codes, rest) := by
  rw [scanLiteral, if_neg plain]
  · exact quote
  · exact fun _ _ _ _ _ same _ => backslash same
  · exact fun _ _ same _ => backslash same

theorem hexDigit?_digitChar {digit : Nat} (small : digit < 16) :
    hexDigit? (Nat.digitChar digit) = some digit := by
  have all : ∀ digit < 16, hexDigit? (Nat.digitChar digit) = some digit := by decide
  exact all digit small

theorem scanLiteral_literalChar (c : Char) (rest : List Char) :
    scanLiteral (literalChar c ++ rest) =
      (scanLiteral rest).map fun (codes, rest) => (c.toNat :: codes, rest) := by
  unfold literalChar
  split
  case h_8 quote backslash _ _ _ _ _ =>
    split
    · rename_i control
      have high : c.toNat / 16 < 16 := by omega
      have low : c.toNat % 16 < 16 := by omega
      have code : ((0 * 16 + 0) * 16 + c.toNat / 16) * 16 + c.toNat % 16 = c.toNat := by omega
      have zero : hexDigit? '0' = some 0 := by decide
      simp only [List.cons_append, List.nil_append, scanLiteral, zero, hexDigit?_digitChar high,
        hexDigit?_digitChar low, Option.bind_eq_bind, Option.bind_some, code]
      cases scanLiteral rest <;> rfl
    · rename_i plain
      exact scanLiteral_plain rest quote backslash plain
  all_goals exact scanLiteral_short rest (by decide) rfl

theorem scanLiteral_written (chars rest : List Char) :
    scanLiteral (chars.flatMap literalChar ++ '"' :: rest) = some (chars.map Char.toNat, rest) := by
  induction chars with
  | nil => rfl
  | cons c chars ih =>
    rw [List.flatMap_cons, List.append_assoc, scanLiteral_literalChar, ih]
    rfl

theorem joinSurrogates_written (chars : List Char) :
    joinSurrogates (chars.map Char.toNat) = some chars := by
  have apart (c : Char) : ¬ (0xD800 ≤ c.toNat ∧ c.toNat ≤ 0xDFFF) := by
    have valid : c.toNat < 0xD800 ∨ 0xDFFF < c.toNat ∧ c.toNat < 0x110000 := c.valid
    omega
  induction chars with
  | nil => rfl
  | cons c chars ih =>
    have outside := apart c
    cases chars with
    | nil =>
      rw [List.map_cons, List.map_nil, joinSurrogates, if_neg outside, Char.ofNat_toNat]
    | cons next chars =>
      have high : ¬ (0xD800 ≤ c.toNat ∧ c.toNat ≤ 0xDBFF) := by omega
      have low : ¬ (0xDC00 ≤ c.toNat ∧ c.toNat ≤ 0xDFFF) := by omega
      rw [List.map_cons] at ih ⊢
      rw [List.map_cons, joinSurrogates, if_neg high, if_neg low, ih, Char.ofNat_toNat]
      rfl

theorem scanLiteral_literal (content : Option String) (rest : List Char) :
    ∃ codes tail, literal content ++ rest = '"' :: tail ∧
      scanLiteral tail = some (codes, rest) ∧ textOfCodes codes = content := by
  cases content with
  | none => exact ⟨[0xD800], _, rfl, rfl, rfl⟩
  | some text =>
    refine ⟨text.toList.map Char.toNat, text.toList.flatMap literalChar ++ '"' :: rest, ?_,
      scanLiteral_written _ _, ?_⟩
    · simp [literal]
    · rw [textOfCodes, joinSurrogates_written]
      simp

/-! Trees. -/

mutual

def Tree.Written : Tree → Prop
  | .number numeral => numeral.Written
  | .array items => ItemsWritten items
  | .object fields => FieldsWritten fields
  | _ => True

def ItemsWritten : List Tree → Prop
  | [] => True
  | item :: rest => item.Written ∧ ItemsWritten rest

def FieldsWritten : List (Option String × Tree) → Prop
  | [] => True
  | (_, value) :: rest => value.Written ∧ FieldsWritten rest

end

/-- No blank comes first, and no bracket that ends an array. -/
def Starts (chars : List Char) : Prop :=
  ∃ c tail, chars = c :: tail ∧ isBlank c = false ∧ c ≠ ']'

theorem Starts.append {chars : List Char} (starts : Starts chars) (rest : List Char) :
    Starts (chars ++ rest) := by
  obtain ⟨c, tail, rfl, solid⟩ := starts
  exact ⟨c, tail ++ rest, rfl, solid⟩

theorem skipBlanks_of_starts {chars : List Char} (starts : Starts chars) :
    skipBlanks chars = chars := by
  obtain ⟨c, tail, rfl, solid, _⟩ := starts
  rw [skipBlanks, List.dropWhile_cons, solid]
  rfl

theorem isBlank_of_numeric {c : Char} (numeric : c = '-' ∨ c.isDigit = true) :
    isBlank c = false := by
  cases blank : isBlank c with
  | false => rfl
  | true =>
    simp only [isBlank, Bool.or_eq_true, beq_iff_eq] at blank
    rcases blank with ((rfl | rfl) | rfl) | rfl <;> revert numeric <;> decide

theorem starts_tree (tree : Tree) : Starts tree.chars := by
  cases tree with
  | null => exact ⟨'n', _, rfl, by decide⟩
  | boolean value => cases value <;> exact ⟨_, _, rfl, by decide⟩
  | number numeral =>
    obtain ⟨c, tail, whole, numeric⟩ := head_numeral numeral
    refine ⟨c, tail, whole, isBlank_of_numeric numeric, ?_⟩
    rintro rfl
    revert numeric
    decide
  | text content => cases content <;> exact ⟨'"', _, rfl, by decide⟩
  | array items => exact ⟨'[', _, rfl, by decide⟩
  | object fields => exact ⟨'\x7b', _, rfl, by decide⟩

theorem starts_items {items : List Tree} (some : items ≠ []) : Starts (itemsChars items) := by
  cases items with
  | nil => cases some rfl
  | cons item rest =>
    cases rest with
    | nil => exact starts_tree item
    | cons next rest => exact (starts_tree item).append _

theorem itemsChars_more (item next : Tree) (rest : List Tree) :
    itemsChars (item :: next :: rest) = item.chars ++ ',' :: itemsChars (next :: rest) := rfl

theorem fieldsChars_more (key : Option String) (value : Tree) (next : Option String × Tree)
    (rest : List (Option String × Tree)) :
    fieldsChars ((key, value) :: next :: rest) =
      literal key ++ ':' :: value.chars ++ ',' :: fieldsChars (next :: rest) := rfl

theorem head_fields (key : Option String) (value : Tree) (fields : List (Option String × Tree)) :
    ∃ tail, fieldsChars ((key, value) :: fields) = '"' :: tail := by
  cases key <;> cases fields <;> exact ⟨_, rfl⟩

theorem stops_comma (rest : List Char) : Stops (',' :: rest) := stops_cons rest (by decide)

theorem stops_bracket (rest : List Char) : Stops (']' :: rest) := stops_cons rest (by decide)

theorem stops_brace (rest : List Char) : Stops ('\x7d' :: rest) := stops_cons rest (by decide)

/-! One step of the reader for each way on. -/

theorem parseTree_numeral {fuel : Nat} {c : Char} {tail rest : List Char} {numeral : Numeral}
    (numeric : c = '-' ∨ c.isDigit = true)
    (scanned : scanNumeral (c :: tail) = some (numeral, rest)) :
    parseTree (fuel + 1) (c :: tail) = some (.number numeral, rest) := by
  have solid : skipBlanks (c :: tail) = c :: tail := by
    rw [skipBlanks, List.dropWhile_cons, isBlank_of_numeric numeric]
    rfl
  have other (token : Char) (different : ¬ (token = '-' ∨ token.isDigit = true)) : c ≠ token := by
    rintro rfl
    exact different numeric
  rw [parseTree, solid]
  split
  case h_7 => rw [scanned]; rfl
  all_goals
    rename_i same
    exact absurd (List.cons.inj same).1 (other _ (by decide))

theorem parseTree_text {fuel : Nat} {tail rest : List Char} {codes : List Nat}
    (scanned : scanLiteral tail = some (codes, rest)) :
    parseTree (fuel + 1) ('"' :: tail) = some (.text (textOfCodes codes), rest) := by
  have step : parseTree (fuel + 1) ('"' :: tail) =
    (scanLiteral tail).map fun read => (.text (textOfCodes read.1), read.2) := rfl
  rw [step, scanned]
  rfl

theorem parseTree_array {fuel : Nat} {tail rest : List Char} {items : List Tree}
    (starts : Starts tail) (parsed : parseItems fuel tail = some (items, rest)) :
    parseTree (fuel + 1) ('[' :: tail) = some (.array items, rest) := by
  have solid := skipBlanks_of_starts starts
  obtain ⟨c, after, rfl, _, notEnd⟩ := starts
  have bracket : skipBlanks ('[' :: c :: after) = '[' :: c :: after := rfl
  rw [parseTree, bracket]
  simp only [solid]
  split
  · rename_i ends
    exact absurd (List.cons.inj ends).1 notEnd
  · rw [parsed]
    rfl

theorem parseTree_object {fuel : Nat} {tail rest : List Char}
    {fields : List (Option String × Tree)}
    (parsed : parseFields fuel ('"' :: tail) = some (fields, rest)) :
    parseTree (fuel + 1) ('\x7b' :: '"' :: tail) = some (.object fields, rest) := by
  have step : parseTree (fuel + 1) ('\x7b' :: '"' :: tail) =
    (parseFields fuel ('"' :: tail)).map fun read => (.object read.1, read.2) := rfl
  rw [step, parsed]
  rfl

theorem parseItems_last {fuel : Nat} {chars rest : List Char} {item : Tree}
    (parsed : parseTree fuel chars = some (item, ']' :: rest)) :
    parseItems (fuel + 1) chars = some ([item], rest) := by
  rw [parseItems, parsed]
  rfl

theorem parseItems_more {fuel : Nat} {chars next rest : List Char} {item : Tree}
    {items : List Tree} (parsed : parseTree fuel chars = some (item, ',' :: next))
    (others : parseItems fuel next = some (items, rest)) :
    parseItems (fuel + 1) chars = some (item :: items, rest) := by
  have comma : skipBlanks (',' :: next) = ',' :: next := rfl
  rw [parseItems, parsed]
  simp only [Option.bind_eq_bind, Option.bind_some, comma, others]
  rfl

theorem parseFields_last {fuel : Nat} {tail next rest : List Char} {codes : List Nat}
    {value : Tree} (key : scanLiteral tail = some (codes, ':' :: next))
    (parsed : parseTree fuel next = some (value, '\x7d' :: rest)) :
    parseFields (fuel + 1) ('"' :: tail) = some ([(textOfCodes codes, value)], rest) := by
  have quote : skipBlanks ('"' :: tail) = '"' :: tail := rfl
  have colon : skipBlanks (':' :: next) = ':' :: next := rfl
  have brace : skipBlanks ('\x7d' :: rest) = '\x7d' :: rest := rfl
  rw [parseFields, quote]
  simp only [key, Option.bind_eq_bind, Option.bind_some, colon, parsed, brace]
  rfl

theorem parseFields_more {fuel : Nat} {tail next more rest : List Char} {codes : List Nat}
    {value : Tree} {fields : List (Option String × Tree)}
    (key : scanLiteral tail = some (codes, ':' :: next))
    (parsed : parseTree fuel next = some (value, ',' :: more))
    (others : parseFields fuel more = some (fields, rest)) :
    parseFields (fuel + 1) ('"' :: tail) =
      some ((textOfCodes codes, value) :: fields, rest) := by
  have quote : skipBlanks ('"' :: tail) = '"' :: tail := rfl
  have colon : skipBlanks (':' :: next) = ':' :: next := rfl
  have comma : skipBlanks (',' :: more) = ',' :: more := rfl
  rw [parseFields, quote]
  simp only [key, Option.bind_eq_bind, Option.bind_some, colon, parsed, comma, others]
  rfl

/-! Reading inverts writing. Two units of fuel a character are enough, as one call in two
reads one. -/

mutual

theorem parseTree_written : ∀ (tree : Tree) (fuel : Nat) (rest : List Char), tree.Written →
    Stops rest → 2 * tree.chars.length ≤ fuel →
    parseTree fuel (tree.chars ++ rest) = some (tree, rest)
  | tree, 0, rest, _, _, enough => by
    obtain ⟨c, tail, whole, _⟩ := starts_tree tree
    rw [whole, List.length_cons] at enough
    omega
  | .null, fuel + 1, rest, _, _, _ => rfl
  | .boolean true, fuel + 1, rest, _, _, _ => rfl
  | .boolean false, fuel + 1, rest, _, _, _ => rfl
  | .number numeral, fuel + 1, rest, written, stops, _ => by
    obtain ⟨c, tail, whole, numeric⟩ := head_numeral numeral
    have scanned := scanNumeral_written written stops
    rw [Tree.chars]
    rw [whole] at scanned ⊢
    exact parseTree_numeral numeric scanned
  | .text content, fuel + 1, rest, _, _, _ => by
    obtain ⟨codes, tail, whole, scanned, rfl⟩ := scanLiteral_literal content rest
    rw [Tree.chars, whole]
    exact parseTree_text scanned
  | .array [], fuel + 1, rest, _, _, _ => rfl
  | .array (item :: items), fuel + 1, rest, written, _, enough => by
    have starts : Starts (itemsChars (item :: items)) := starts_items (List.cons_ne_nil _ _)
    simp only [Tree.chars, List.length_append, List.length_cons, List.length_nil] at enough
    have parsed := parseItems_written (item :: items) fuel rest (List.cons_ne_nil _ _) written
      (by omega)
    rw [Tree.chars, List.cons_append, List.cons_append, List.append_assoc]
    exact parseTree_array (starts.append _) parsed
  | .object [], fuel + 1, rest, _, _, _ => rfl
  | .object ((key, value) :: fields), fuel + 1, rest, written, _, enough => by
    simp only [Tree.chars, List.length_append, List.length_cons, List.length_nil] at enough
    have parsed := parseFields_written ((key, value) :: fields) fuel rest (List.cons_ne_nil _ _)
      written (by omega)
    obtain ⟨tail, quote⟩ := head_fields key value fields
    rw [quote] at parsed
    rw [Tree.chars, List.cons_append, List.cons_append, List.append_assoc, quote]
    exact parseTree_object parsed

theorem parseItems_written : ∀ (items : List Tree) (fuel : Nat) (rest : List Char), items ≠ [] →
    ItemsWritten items → 2 * (itemsChars items).length + 1 ≤ fuel →
    parseItems fuel (itemsChars items ++ ']' :: rest) = some (items, rest)
  | _, 0, _, _, _, enough => by omega
  | [], _ + 1, _, nonempty, _, _ => absurd rfl nonempty
  | [item], fuel + 1, rest, _, written, enough => by
    rw [itemsChars] at enough ⊢
    exact parseItems_last
      (parseTree_written item fuel (']' :: rest) written.1 (stops_bracket rest) (by omega))
  | item :: next :: items, fuel + 1, rest, _, written, enough => by
    rw [itemsChars_more, List.length_append, List.length_cons] at enough
    rw [itemsChars_more, List.append_assoc]
    exact parseItems_more
      (parseTree_written item fuel _ written.1 (stops_comma _) (by omega))
      (parseItems_written (next :: items) fuel rest (List.cons_ne_nil _ _) written.2 (by omega))

theorem parseFields_written : ∀ (fields : List (Option String × Tree)) (fuel : Nat)
    (rest : List Char), fields ≠ [] → FieldsWritten fields →
    2 * (fieldsChars fields).length + 1 ≤ fuel →
    parseFields fuel (fieldsChars fields ++ '\x7d' :: rest) = some (fields, rest)
  | _, 0, _, _, _, enough => by omega
  | [], _ + 1, _, nonempty, _, _ => absurd rfl nonempty
  | [(key, value)], fuel + 1, rest, _, written, enough => by
    rw [fieldsChars, List.length_append, List.length_cons] at enough
    obtain ⟨codes, tail, whole, scanned, rfl⟩ :=
      scanLiteral_literal key (':' :: (value.chars ++ '\x7d' :: rest))
    rw [fieldsChars, List.append_assoc, List.cons_append, whole]
    exact parseFields_last scanned
      (parseTree_written value fuel _ written.1 (stops_brace rest) (by omega))
  | (key, value) :: next :: fields, fuel + 1, rest, _, written, enough => by
    rw [fieldsChars_more, List.length_append, List.length_append, List.length_cons,
      List.length_cons] at enough
    obtain ⟨codes, tail, whole, scanned, rfl⟩ := scanLiteral_literal key
      (':' :: (value.chars ++ ',' :: (fieldsChars (next :: fields) ++ '\x7d' :: rest)))
    rw [fieldsChars_more, List.append_assoc, List.append_assoc, List.cons_append,
      List.cons_append, whole]
    exact parseFields_more scanned
      (parseTree_written value fuel _ written.1 (stops_comma _) (by omega))
      (parseFields_written (next :: fields) fuel rest (List.cons_ne_nil _ _) written.2 (by omega))

end

theorem Tree.parse?_render {tree : Tree} (written : tree.Written) :
    Tree.parse? tree.render = some tree := by
  have length : tree.render.length = tree.chars.length := String.length_ofList
  have parsed := parseTree_written tree (2 * tree.render.length + 2) [] written stops_nil
    (by omega)
  rw [List.append_nil] at parsed
  rw [Tree.parse?, Tree.render, String.toList_ofList, ← Tree.render, parsed]
  rfl

theorem Tree.render_inj {first second : Tree} (written : first.Written)
    (written' : second.Written) (same : first.render = second.render) : first = second := by
  have read := Tree.parse?_render written
  rw [same, Tree.parse?_render written'] at read
  exact (Option.some.inj read).symm

end Json
end PipelinedClient
