import Mathlib.Data.List.Forall2
import PipelinedClient.Proofs.RoundTrips

/-! Documents become values of the same structure.

A path of item indices and member keys leads to one place in a tree, a document or a value.
Reading a document from a tree and making it a value both keep every place. What stands at a
place of the value tells what stood there: integers are the numbers stored as integers that
fit a word, floats are the other numbers, and every other kind has a kind of its own. So
documents whose numbers all fit are told apart by their values.
-/

set_option autoImplicit false

namespace PipelinedClient

open Json (Document Number Tree)

/-! Paths. -/

namespace Json

inductive Place where
  | item (index : Nat)
  | member (key : String)

variable {α β : Type}

def follow (child? : α → Place → Option α) (root : α) (path : List Place) : Option α :=
  path.foldlM child? root

theorem follow_rel {related : α → β → Prop} {child? : α → Place → Option α}
    {child'? : β → Place → Option β}
    (steps : ∀ first second, related first second →
      ∀ place, Option.Rel related (child? first place) (child'? second place))
    {first : α} {second : β} (start : related first second) (path : List Place) :
    Option.Rel related (follow child? first path) (follow child'? second path) := by
  induction path generalizing first second with
  | nil => exact .some start
  | cons place rest ih =>
    have step := steps first second start place
    rw [follow, follow, List.foldlM_cons, List.foldlM_cons]
    generalize child? first place = before, child'? second place = after at step
    cases step with
    | none => exact .none
    | some inside => exact ih inside

theorem origin_of_rel {related : α → β → Prop} {first : Option α} {second : Option β}
    (alike : Option.Rel related first second) {image : β} (found : second = some image) :
    ∃ origin, first = some origin ∧ related origin image := by
  subst found
  cases alike with
  | some same => exact ⟨_, rfl, same⟩

theorem image_of_rel {related : α → β → Prop} {first : Option α} {second : Option β}
    (alike : Option.Rel related first second) {origin : α} (found : first = some origin) :
    ∃ image, second = some image ∧ related origin image := by
  subst found
  cases alike with
  | some same => exact ⟨_, rfl, same⟩

theorem eq_map_of_rel {convert : α → β} {first : Option α} {second : Option β}
    (alike : Option.Rel (fun origin image => convert origin = image) first second) :
    second = first.map convert := by
  cases alike with
  | none => rfl
  | some same => rw [Option.map_some, same]

theorem getElem?_rel {related : α → β → Prop} {first : List α} {second : List β}
    (alike : List.Forall₂ related first second) (index : Nat) :
    Option.Rel related first[index]? second[index]? := by
  induction alike generalizing index with
  | nil => exact .none
  | cons head _ ih =>
    cases index with
    | zero => exact .some head
    | succ index => exact ih index

/-- Of members with the same key the last one counts. -/
def Tree.child? : Tree → Place → Option Tree
  | .array items, .item index => items[index]?
  | .object fields, .member key => fields.reverse.lookup (some key)
  | _, _ => none

def Document.child? : Document → Place → Option Document
  | .array items, .item index => items[index]?
  | .object fields, .member key => Entries.find? key fields
  | _, _ => none

def Tree.at? (tree : Tree) (path : List Place) : Option Tree := follow Tree.child? tree path

def Document.at? (document : Document) (path : List Place) : Option Document :=
  follow Document.child? document path

end Json

open Json (Place)

def Value.child? : Value → Place → Option Value
  | .list items, .item index => items[index]?
  | .map entries, .member key => Entries.find? key entries
  | _, _ => none

def Value.at? (value : Value) (path : List Place) : Option Value :=
  Json.follow Value.child? value path

/-! Numbers. -/

theorem int64?_eq_some_iff {value : Int} {word : Int64} :
    int64? value = some word ↔ word.toInt = value := by
  constructor
  · intro converted
    rw [int64?] at converted
    split at converted
    · rename_i bounds
      rw [← Option.some.inj converted]
      exact Int64.toInt_ofInt_of_le bounds.1 (Int.lt_add_one_of_le bounds.2)
    · cases converted
  · intro same
    rw [← same]
    exact int64?_toInt word

namespace Json.Number

def FitsWord : Number → Prop
  | .integer value => Int64.minValue.toInt ≤ value ∧ value ≤ Int64.maxValue.toInt
  | .double _ => False

theorem fitsWord_toInt (word : Int64) : (integer word.toInt).FitsWord :=
  ⟨word.minValue_le_toInt, word.toInt_le⟩

theorem word?_eq_some_iff {number : Number} {word : Int64} :
    number.word? = some word ↔ number = .integer word.toInt := by
  cases number with
  | integer value => rw [word?, int64?_eq_some_iff, Number.integer.injEq, eq_comm]
  | double value => simp [word?]

theorem word?_eq_none_iff {number : Number} : number.word? = none ↔ ¬number.FitsWord := by
  constructor
  · intro absent fits
    cases number with
    | integer value =>
      have found : (integer value).word? = some (Int64.ofInt value) := if_pos fits
      rw [absent] at found
      cases found
    | double value => exact fits
  · intro outside
    cases found : number.word? with
    | none => rfl
    | some word =>
      rw [word?_eq_some_iff] at found
      subst found
      exact absurd (fitsWord_toInt word) outside

theorem double?_isSome (number : Number) : number.double?.isSome := by
  cases number <;> rfl

end Json.Number

namespace Value

theorem ofNumber_of_integer (word : Int64) :
    ofNumber (.integer word.toInt) = .integer word := by
  have found := Number.word?_eq_some_iff.mpr (Eq.refl (Number.integer word.toInt))
  rw [ofNumber, found]

theorem ofNumber_of_not_fits {number : Number} {double : Binary64}
    (outside : ¬number.FitsWord) (found : number.double? = some double) :
    ofNumber number = .float double := by
  rw [ofNumber, Number.word?_eq_none_iff.mpr outside, found]
  rfl

/-- There is no third case: every number that is no word has a double. -/
theorem ofNumber_cases (number : Number) :
    (∃ word : Int64, number = .integer word.toInt ∧ ofNumber number = .integer word) ∨
    ∃ double, ¬number.FitsWord ∧ number.double? = some double ∧
      ofNumber number = .float double := by
  cases found : number.word? with
  | some word =>
    rw [Number.word?_eq_some_iff] at found
    subst found
    exact .inl ⟨word, rfl, ofNumber_of_integer word⟩
  | none =>
    have outside := Number.word?_eq_none_iff.mp found
    obtain ⟨double, measured⟩ := Option.isSome_iff_exists.mp number.double?_isSome
    exact .inr ⟨double, outside, measured, ofNumber_of_not_fits outside measured⟩

/-! From documents to values. -/

@[simp] theorem itemsOfDocuments_eq_map (items : List Document) :
    itemsOfDocuments items = items.map ofDocument := by
  induction items with
  | nil => rfl
  | cons item rest ih => rw [itemsOfDocuments, ih, List.map_cons]

@[simp] theorem entriesOfFields_eq_map (fields : List (String × Document)) :
    entriesOfFields fields = fields.map fun field => (field.1, ofDocument field.2) := by
  induction fields with
  | nil => rfl
  | cons field rest ih => rw [entriesOfFields, ih, List.map_cons]

/-- The document that a value may have come from, told by its outermost kind. -/
def StemsFrom (document : Document) : Value → Prop
  | .null => document = .null
  | .boolean value => document = .boolean value
  | .integer word => document = .number (.integer word.toInt)
  | .float double => ∃ number, document = .number number ∧
      ¬number.FitsWord ∧ number.double? = some double
  | .string content => document = .text content
  | .bytes _ => False
  | .list values => ∃ items, document = .array items ∧ values = items.map ofDocument
  | .map entries => ∃ fields, document = .object fields ∧
      entries = fields.map fun field => (field.1, ofDocument field.2)

theorem stemsFrom_ofNumber (number : Number) :
    (ofNumber number).StemsFrom (.number number) := by
  rcases ofNumber_cases number with ⟨word, rfl, integer⟩ | ⟨double, outside, measured, float⟩
  · rw [integer]
    rfl
  · rw [float]
    exact ⟨number, rfl, outside, measured⟩

theorem stemsFrom_ofDocument (document : Document) :
    (ofDocument document).StemsFrom document := by
  cases document with
  | null | boolean _ | text _ => rfl
  | number number => exact stemsFrom_ofNumber number
  | array items => exact ⟨items, rfl, itemsOfDocuments_eq_map items⟩
  | object fields => exact ⟨fields, rfl, entriesOfFields_eq_map fields⟩

theorem ofDocument_eq_iff {document : Document} {value : Value} :
    ofDocument document = value ↔ value.StemsFrom document := by
  constructor
  · intro same
    rw [← same]
    exact stemsFrom_ofDocument document
  · intro stems
    cases value with
    | null | boolean _ | string _ => rw [show document = _ from stems, ofDocument]
    | integer word =>
      rw [show document = _ from stems, ofDocument]
      exact ofNumber_of_integer word
    | float double =>
      obtain ⟨number, rfl, outside, measured⟩ := stems
      exact ofNumber_of_not_fits outside measured
    | bytes _ => cases stems
    | list values =>
      obtain ⟨items, rfl, rfl⟩ := stems
      rw [ofDocument, itemsOfDocuments_eq_map]
    | map entries =>
      obtain ⟨fields, rfl, rfl⟩ := stems
      rw [ofDocument, entriesOfFields_eq_map]

theorem find?_ofDocument (key : String) (fields : List (String × Document)) :
    Option.Rel (fun document value => ofDocument document = value) (Entries.find? key fields)
      (Entries.find? key (fields.map fun field => (field.1, ofDocument field.2))) := by
  induction fields with
  | nil => exact .none
  | cons field rest ih =>
    rw [List.map_cons, Entries.find?, Entries.find?]
    split
    · exact .some rfl
    · exact ih

theorem child?_ofDocument (document : Document) (value : Value) (same : ofDocument document = value)
    (place : Place) :
    Option.Rel (fun document value => ofDocument document = value) (document.child? place)
      (value.child? place) := by
  subst same
  cases document with
  | null | boolean _ | text _ => exact .none
  | number number =>
    rcases ofNumber_cases number with ⟨word, -, kind⟩ | ⟨double, -, -, kind⟩
    all_goals
      rw [ofDocument, kind]
      exact .none
  | array items =>
    rw [ofDocument, itemsOfDocuments_eq_map]
    cases place with
    | member key => exact .none
    | item index =>
      refine Json.getElem?_rel ?_ index
      simp [List.forall₂_map_right_iff, List.forall₂_same]
  | object fields =>
    rw [ofDocument, entriesOfFields_eq_map]
    cases place with
    | item index => exact .none
    | member key => exact find?_ofDocument key fields

theorem at?_ofDocument (document : Document) (path : List Place) :
    (ofDocument document).at? path = (document.at? path).map ofDocument :=
  Json.eq_map_of_rel (Json.follow_rel child?_ofDocument rfl path)

theorem at?_ofDocument_eq_some_iff {document : Document} {path : List Place}
    {value : Value} : (ofDocument document).at? path = some value ↔
      ∃ origin, document.at? path = some origin ∧ value.StemsFrom origin := by
  simp only [at?_ofDocument, Option.map_eq_some_iff, ofDocument_eq_iff]

end Value

/-! From trees to documents. -/

namespace Json

theorem itemsOf?_rel {trees : List Tree} {items : List Document}
    (read : itemsOf? trees = some items) :
    List.Forall₂ (fun tree item => documentOf? tree = some item) trees items := by
  induction trees generalizing items with
  | nil =>
    cases read
    exact .nil
  | cons tree trees ih =>
    simp only [itemsOf?, Option.bind_eq_bind, Option.bind_eq_some_iff] at read
    obtain ⟨item, head, rest, tail, same⟩ := read
    cases same
    exact .cons head (ih tail)

def SameMember (field : Option String × Tree) (entry : String × Document) : Prop :=
  field.1 = some entry.1 ∧ documentOf? field.2 = some entry.2

theorem fieldsOf?_rel {fields : List (Option String × Tree)} {entries : List (String × Document)}
    (read : fieldsOf? fields = some entries) : List.Forall₂ SameMember fields entries := by
  induction fields generalizing entries with
  | nil =>
    cases read
    exact .nil
  | cons field fields ih =>
    obtain ⟨key, tree⟩ := field
    simp only [fieldsOf?, Option.bind_eq_bind, Option.bind_eq_some_iff] at read
    obtain ⟨name, named, document, head, rest, tail, same⟩ := read
    cases same
    exact .cons ⟨named, head⟩ (ih tail)

theorem lookup_rel {fields : List (Option String × Tree)} {entries : List (String × Document)}
    (alike : List.Forall₂ SameMember fields entries) (key : String) :
    Option.Rel (fun tree document => documentOf? tree = some document)
      (fields.lookup (some key)) (entries.lookup key) := by
  induction alike with
  | nil => exact .none
  | @cons field entry fields entries member _ ih =>
    obtain ⟨name, value⟩ := entry
    obtain ⟨name', tree⟩ := field
    obtain ⟨rfl, read⟩ := member
    rw [List.lookup_cons, List.lookup_cons, Option.some_beq_some]
    cases key == name with
    | true => exact .some read
    | false => exact ih

theorem child?_documentOf? (tree : Tree) (document : Document)
    (read : documentOf? tree = some document) (place : Place) :
    Option.Rel (fun tree document => documentOf? tree = some document) (tree.child? place)
      (document.child? place) := by
  cases tree with
  | null | boolean _ =>
    cases read
    exact .none
  | number numeral =>
    obtain ⟨number, -, rfl⟩ := Option.map_eq_some_iff.mp read
    exact .none
  | text content =>
    obtain ⟨content, -, rfl⟩ := Option.map_eq_some_iff.mp read
    exact .none
  | array trees =>
    obtain ⟨items, inside, rfl⟩ := Option.map_eq_some_iff.mp read
    cases place with
    | member key => exact .none
    | item index => exact getElem?_rel (itemsOf?_rel inside) index
  | object fields =>
    obtain ⟨entries, inside, rfl⟩ := Option.map_eq_some_iff.mp read
    cases place with
    | item index => exact .none
    | member key =>
      rw [Tree.child?, Document.child?, Entries.find?_ofList]
      exact lookup_rel (List.forall₂_reverse_iff.mpr (fieldsOf?_rel inside)) key

theorem at?_documentOf? {tree : Tree} {document : Document}
    (read : documentOf? tree = some document) (path : List Place) :
    Option.Rel (fun tree document => documentOf? tree = some document) (tree.at? path)
      (document.at? path) := follow_rel child?_documentOf? read path

theorem documentOf?_eq_null_iff {tree : Tree} :
    documentOf? tree = some .null ↔ tree = .null := by
  cases tree <;> simp [documentOf?]

theorem documentOf?_eq_number_iff {tree : Tree} {number : Number} :
    documentOf? tree = some (.number number) ↔
      ∃ numeral, tree = .number numeral ∧ number? numeral = some number := by
  cases tree <;> simp [documentOf?]

theorem ascending_of_documentOf? {tree : Tree} {fields : List (String × Document)}
    (read : documentOf? tree = some (.object fields)) : Ascending fields := by
  cases tree with
  | object members =>
    obtain ⟨entries, -, same⟩ := Option.map_eq_some_iff.mp read
    cases same
    exact Entries.ascending_ofList entries
  | null | boolean _ => cases read
  | number _ | text _ | array _ =>
    obtain ⟨_, -, same⟩ := Option.map_eq_some_iff.mp read
    cases same

end Json

/-- The integer of a numeral that has neither point nor exponent and is not negative zero. -/
structure Numeral.Denotes (numeral : Numeral) (value : Int) : Prop where
  whole : numeral.isWhole = true
  signed : value = if numeral.negative then -(numeral.whole : Int) else numeral.whole
  proper : numeral.negative = true → value ≠ 0

namespace Json

theorem integer?_eq_some_iff {numeral : Numeral} {value : Int} :
    integer? numeral = some value ↔
      numeral.Denotes value ∧ Int64.minValue.toInt ≤ value ∧ value < UInt64.size := by
  have bottom : Int64.minValue.toInt ≤ 0 := by decide
  rw [integer?]
  constructor
  · intro read
    split at read
    · cases read
    · rename_i whole
      have bare : numeral.isWhole = true := by simpa using whole
      split at read
      · rename_i sign
        split at read
        · rename_i bounds
          cases read
          exact ⟨⟨bare, (if_pos sign).symm, fun _ => by omega⟩, bounds.2, by omega⟩
        · cases read
      · rename_i sign
        split at read
        · cases read
          exact ⟨⟨bare, (if_neg sign).symm, fun negative => absurd negative sign⟩,
            by omega, by omega⟩
        · cases read
  · rintro ⟨⟨whole, signed, proper⟩, least, most⟩
    simp only [whole, Bool.not_true, Bool.false_eq_true, if_false]
    split at signed
    · rename_i sign
      have := proper sign
      rw [if_pos sign, if_pos (by omega), signed]
    · rename_i sign
      rw [if_neg sign, if_pos (by omega), signed]

theorem number?_eq_integer_iff {numeral : Numeral} {value : Int} :
    number? numeral = some (.integer value) ↔ integer? numeral = some value := by
  rw [number?]
  cases integer? numeral <;> simp

theorem number?_eq_word_iff {numeral : Numeral} {word : Int64} :
    number? numeral = some (.integer word.toInt) ↔ numeral.Denotes word.toInt := by
  have top : Int64.maxValue.toInt < (UInt64.size : Int) := by decide
  have most := word.toInt_le
  rw [number?_eq_integer_iff, integer?_eq_some_iff]
  constructor
  · exact And.left
  · intro denotes
    exact ⟨denotes, word.minValue_le_toInt, by omega⟩

end Json

/-- What a document and its value have of the tree that the document is read from. -/
structure Json.Document.ReadFrom (document : Document) (tree : Tree) : Prop where
  objects : ∀ path fields, document.at? path = some (.object fields) → Ascending fields
  nulls : ∀ path, (Value.ofDocument document).at? path = some .null ↔ tree.at? path = some .null
  integers : ∀ path (word : Int64), (Value.ofDocument document).at? path = some (.integer word) ↔
    ∃ numeral, tree.at? path = some (.number numeral) ∧ numeral.Denotes word.toInt
  floats : ∀ path, (∃ double, (Value.ofDocument document).at? path = some (.float double)) ↔
    ∃ numeral, tree.at? path = some (.number numeral) ∧
      ∀ word : Int64, ¬numeral.Denotes word.toInt

namespace Json

theorem at?_eq_number_iff {tree : Tree} {document : Document}
    (read : documentOf? tree = some document) {path : List Place} {number : Number} :
    document.at? path = some (.number number) ↔
      ∃ numeral, tree.at? path = some (.number numeral) ∧ number? numeral = some number := by
  have kept := at?_documentOf? read path
  constructor
  · intro found
    obtain ⟨origin, placed, same⟩ := origin_of_rel kept found
    obtain ⟨numeral, rfl, denoted⟩ := documentOf?_eq_number_iff.mp same
    exact ⟨numeral, placed, denoted⟩
  · rintro ⟨numeral, found, denoted⟩
    obtain ⟨image, placed, same⟩ := image_of_rel kept found
    rw [documentOf?_eq_number_iff.mpr ⟨numeral, rfl, denoted⟩] at same
    rw [placed, ← same]

theorem readFrom_of_documentOf? {tree : Tree} {document : Document}
    (read : documentOf? tree = some document) : document.ReadFrom tree where
  objects path fields found := by
    obtain ⟨origin, -, same⟩ := origin_of_rel (at?_documentOf? read path) found
    exact ascending_of_documentOf? same
  nulls path := by
    have kept := at?_documentOf? read path
    rw [Value.at?_ofDocument_eq_some_iff]
    constructor
    · rintro ⟨origin, found, rfl⟩
      obtain ⟨origin, placed, same⟩ := origin_of_rel kept found
      rw [placed, documentOf?_eq_null_iff.mp same]
    · intro found
      obtain ⟨image, placed, same⟩ := image_of_rel kept found
      exact ⟨image, placed, (Option.some.inj same).symm⟩
  integers path word := by
    simp only [← number?_eq_word_iff, ← at?_eq_number_iff read]
    rw [Value.at?_ofDocument_eq_some_iff]
    constructor
    · rintro ⟨origin, found, rfl⟩
      exact found
    · intro found
      exact ⟨_, found, rfl⟩
  floats path := by
    -- A number is a word exactly if its numeral denotes one.
    have outside : ∀ {numeral number}, number? numeral = some number →
        (¬number.FitsWord ↔ ∀ word : Int64, ¬numeral.Denotes word.toInt) := by
      intro numeral number denoted
      rw [← Number.word?_eq_none_iff, Option.eq_none_iff_forall_ne_some]
      refine forall_congr' fun word => not_congr ?_
      rw [Number.word?_eq_some_iff, ← number?_eq_word_iff, denoted, Option.some.injEq]
    constructor
    · rintro ⟨double, found⟩
      obtain ⟨origin, found, number, rfl, bare, -⟩ := Value.at?_ofDocument_eq_some_iff.mp found
      obtain ⟨numeral, found, denoted⟩ := (at?_eq_number_iff read).mp found
      exact ⟨numeral, found, (outside denoted).mp bare⟩
    · rintro ⟨numeral, found, bare⟩
      obtain ⟨image, placed, same⟩ := image_of_rel (at?_documentOf? read path) found
      obtain ⟨number, denoted, rfl⟩ := Option.map_eq_some_iff.mp same
      obtain ⟨double, measured⟩ := Option.isSome_iff_exists.mp number.double?_isSome
      exact ⟨double, Value.at?_ofDocument_eq_some_iff.mpr
        ⟨_, placed, number, rfl, (outside denoted).mpr bare, measured⟩⟩

/-! Documents whose numbers are words. -/

mutual

def Document.FitsWords : Document → Prop
  | .number number => number.FitsWord
  | .array items => ItemsFitWords items
  | .object fields => FieldsFitWords fields
  | _ => True

def ItemsFitWords : List Document → Prop
  | [] => True
  | item :: rest => item.FitsWords ∧ ItemsFitWords rest

def FieldsFitWords : List (String × Document) → Prop
  | [] => True
  | (_, value) :: rest => value.FitsWords ∧ FieldsFitWords rest

end

end Json

namespace Value

mutual

/-- The document that has a value, where no float and no bytes occur. -/
def toDocument : Value → Document
  | .null | .bytes _ => .null
  | .boolean value => .boolean value
  | .integer word => .number (.integer word.toInt)
  | .float double => .number (.double double)
  | .string content => .text content
  | .list items => .array (itemsToDocuments items)
  | .map entries => .object (entriesToMembers entries)

def itemsToDocuments : List Value → List Document
  | [] => []
  | item :: rest => item.toDocument :: itemsToDocuments rest

def entriesToMembers : List (String × Value) → List (String × Document)
  | [] => []
  | (key, value) :: rest => (key, value.toDocument) :: entriesToMembers rest

end

mutual

theorem toDocument_ofDocument : ∀ document : Document, document.FitsWords →
    (ofDocument document).toDocument = document
  | .null, _ | .boolean _, _ | .text _, _ => rfl
  | .number number, fits => by
    rcases ofNumber_cases number with ⟨word, rfl, integer⟩ | ⟨_, outside, -, -⟩
    · rw [ofDocument, integer, toDocument]
    · exact absurd fits outside
  | .array items, fits => by
    rw [ofDocument, toDocument, itemsToDocuments_itemsOfDocuments items fits]
  | .object fields, fits => by
    rw [ofDocument, toDocument, entriesToMembers_entriesOfFields fields fits]

theorem itemsToDocuments_itemsOfDocuments : ∀ items : List Document,
    Json.ItemsFitWords items → itemsToDocuments (itemsOfDocuments items) = items
  | [], _ => rfl
  | item :: rest, fits => by
    rw [itemsOfDocuments, itemsToDocuments, toDocument_ofDocument item fits.1,
      itemsToDocuments_itemsOfDocuments rest fits.2]

theorem entriesToMembers_entriesOfFields : ∀ fields : List (String × Document),
    Json.FieldsFitWords fields → entriesToMembers (entriesOfFields fields) = fields
  | [], _ => rfl
  | (key, value) :: rest, fits => by
    rw [entriesOfFields, entriesToMembers, toDocument_ofDocument value fits.1,
      entriesToMembers_entriesOfFields rest fits.2]

end

end Value

/-- Documents become values of the same structure, place by place; what stands in the value
tells what stood in the document, and with words for numbers the whole document. -/
theorem documents_convert_without_loss :
    (∀ (document : Document) (path : List Place),
      (Value.ofDocument document).at? path = (document.at? path).map Value.ofDocument) ∧
    (∀ (document : Document) (path : List Place) (value : Value),
      (Value.ofDocument document).at? path = some value ↔
        ∃ origin, document.at? path = some origin ∧ value.StemsFrom origin) ∧
    (∀ (text : String) (document : Document), Document.parse? text = some document →
      ∃ tree, Tree.parse? text = some tree ∧ document.ReadFrom tree) ∧
    ∀ first second : Document, first.FitsWords → second.FitsWords →
      Value.ofDocument first = Value.ofDocument second → first = second := by
  refine ⟨Value.at?_ofDocument, fun _ _ _ => Value.at?_ofDocument_eq_some_iff, ?_, ?_⟩
  · intro text document parsed
    obtain ⟨tree, found, read⟩ := Option.bind_eq_some_iff.mp parsed
    split at read
    · exact ⟨tree, found, Json.readFrom_of_documentOf? read⟩
    · cases read
  · -- Each document is found again from its value.
    intro first second fits fits' same
    rw [← Value.toDocument_ofDocument first fits, same, Value.toDocument_ofDocument second fits']

example :
    let converted (text : String) := (Document.parse? text).map Value.ofDocument
    converted "\x7b\"a\":0,\"a\":[-9223372036854775808,9223372036854775807]\x7d" =
        some (.map [("a", .list [.integer Int64.minValue, .integer Int64.maxValue])]) ∧
      converted "9223372036854775808" = some (.float ⟨0x43e0000000000000⟩) ∧
      converted "-0" = some (.float ⟨0x8000000000000000⟩) := by
  decide +kernel

end PipelinedClient
