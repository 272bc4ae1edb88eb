import PipelinedClient.Bookmark
import PipelinedClient.Notification
import PipelinedClient.Proofs.Membership
import PipelinedClient.Proofs.WrittenTexts
import PipelinedClient.Transaction.Metadata
import PipelinedClient.Transaction.Target

/-! Nothing is lost in JSON.

What is written of values, metadata, bookmarks, names of databases and filters of
notifications is read back as it was. Floats are left out: JSON has no infinities, and the
digits of a float are not always read as that float.
-/

set_option autoImplicit false

namespace PipelinedClient

open Json (Tree Form)

namespace Json

variable {α : Type} [Form α]

def Readable (value : α) : Prop := (Form.toTree value).depth ≤ nestingLimit

/-- What is readable of these values is read back, and no two of them have one text. -/
structure Lossless (α : Type) [Form α] (proper readable : α → Prop) : Prop where
  decode_encode : ∀ value, proper value → readable value → decode? α (encode value) = some value
  encode_inj : ∀ first second, proper first → proper second → encode first = encode second →
    first = second

theorem decode?_encode {value : α} (written : (Form.toTree value).Written) :
    decode? α (encode value) = Form.ofTree? (Form.toTree value) := by
  rw [decode?, encode, Tree.parse?_render written]
  rfl

namespace Lossless

variable {proper readable : α → Prop}

/-- It is enough to say what happens to trees. -/
theorem of_trees (written : ∀ value : α, proper value → (Form.toTree value).Written)
    (read : ∀ value : α, proper value → readable value →
      Form.ofTree? (Form.toTree value) = some value)
    (apart : ∀ first second : α, proper first → proper second →
      (Form.toTree first : Tree) = Form.toTree second → first = second) :
    Lossless α proper readable := by
  refine ⟨fun value isProper isReadable => ?_, fun first second isProper isProper' same => ?_⟩
  · rw [decode?_encode (written value isProper)]
    exact read value isProper isReadable
  · exact apart first second isProper isProper'
      (Tree.render_inj (written first isProper) (written second isProper') same)

theorem of_read (written : ∀ value : α, (Form.toTree value).Written)
    (read : ∀ value : α, Form.ofTree? (Form.toTree value) = some value) :
    Lossless α (fun _ => True) (fun _ => True) := by
  refine of_trees (fun value _ => written value) (fun value _ _ => read value) ?_
  intro first second _ _ same
  have found := read first
  rw [same, read second] at found
  exact (Option.some.inj found).symm

end Lossless

theorem itemsWritten_of_forall {items : List Tree} (each : ∀ item ∈ items, item.Written) :
    ItemsWritten items := by
  induction items with
  | nil => trivial
  | cons item rest ih =>
    exact ⟨each item List.mem_cons_self, ih fun other member =>
      each other (List.mem_cons_of_mem _ member)⟩

theorem optionOfTree?_optionTree {value : Option α}
    (read : ∀ present : α, Form.ofTree? (Form.toTree present) = some present)
    (notNull : ∀ present : α, (Form.toTree present : Tree) ≠ .null) :
    optionOfTree? (optionTree value) = some value := by
  cases value with
  | none => rfl
  | some present =>
    rw [optionTree, optionOfTree?, read present]
    · rfl
    · exact notNull present

end Json

/-! Integers. -/

theorem integer?_ofInt {value : Int} (least : Int64.minValue.toInt ≤ value)
    (most : value ≤ Int64.maxValue.toInt) : Json.integer? (Numeral.ofInt value) = some value := by
  have top : Int64.maxValue.toInt < (UInt64.size : Int) := by decide
  have whole : (Numeral.ofInt value).isWhole = true := rfl
  rw [Json.integer?, whole]
  by_cases negative : value < 0
  · have size : -(value.natAbs : Int) = value := by omega
    simp only [Numeral.ofInt, negative, decide_true, Bool.not_true, Bool.false_eq_true, if_false,
      if_true, size]
    rw [if_pos ⟨by omega, least⟩]
  · have size : (value.natAbs : Int) = value := by omega
    simp only [Numeral.ofInt, negative, decide_false, Bool.not_true, Bool.false_eq_true, if_false,
      size]
    rw [if_pos (by omega)]

theorem int64?_toInt (value : Int64) : int64? value.toInt = some value := by
  rw [int64?, if_pos ⟨Int64.minValue_le_toInt value, Int64.toInt_le value⟩, Int64.ofInt_toInt]

theorem byte?_toNat (byte : UInt8) : byte? (byte.toNat : Int) = some byte := by
  have small := byte.toNat_lt
  rw [byte?, if_pos (by omega), Int.toNat_natCast, UInt8.ofNat_toNat]

theorem byteOfTree?_ofInt (byte : UInt8) :
    (integerOfTree? (.number (Numeral.ofInt byte.toNat))).bind byte? = some byte := by
  have bottom : Int64.minValue.toInt ≤ 0 := by decide
  have top : (256 : Int) ≤ Int64.maxValue.toInt := by decide
  have small := byte.toNat_lt
  have read : integerOfTree? (.number (Numeral.ofInt byte.toNat)) = some (byte.toNat : Int) :=
    integer?_ofInt (by omega) (by omega)
  rw [read, Option.bind_some, byte?_toNat]

theorem mapM_map_of_read {α β : Type} {write : α → β} {read? : β → Option α}
    (read : ∀ item, read? (write item) = some item) (items : List α) :
    (items.map write).mapM read? = some items := by
  induction items with
  | nil => rfl
  | cons item rest ih =>
    rw [List.map_cons, List.mapM_cons, read item, ih]
    rfl

namespace Value

mutual

theorem ofTree?_toTree : ∀ value : Value, value.Canonical → value.FloatFree →
    ofTree? value.toTree = some value
  | .null, _, _ => rfl
  | .boolean value, _, _ => rfl
  | .integer value, _, _ => by
    have read : integerOfTree? (.number (Numeral.ofInt value.toInt)) = some value.toInt :=
      integer?_ofInt value.minValue_le_toInt value.toInt_le
    rw [toTree, Json.tagged, ofTree?, read, Option.bind_some, int64?_toInt]
    rfl
  | .string value, _, _ => rfl
  | .bytes value, _, _ => by
    rw [toTree, Json.tagged, ofTree?, bytesOfTrees?,
      mapM_map_of_read byteOfTree?_ofInt]
    rfl
  | .list items, canonical, free => by
    rw [toTree, Json.tagged, ofTree?, itemsOfTrees?_itemsToTrees items canonical free]
    rfl
  | .map entries, canonical, free => by
    have kept := SortedMap.ofList_entries ⟨entries, canonical.1⟩
    rw [toTree, Json.tagged, ofTree?, entriesOfFields?_entriesToFields entries canonical.2 free,
      Option.map_some]
    exact congrArg (fun map => some (ofMap map)) kept

theorem itemsOfTrees?_itemsToTrees : ∀ items : List Value, CanonicalItems items →
    FloatFreeItems items → itemsOfTrees? (itemsToTrees items) = some items
  | [], _, _ => rfl
  | item :: rest, canonical, free => by
    rw [itemsToTrees, itemsOfTrees?, ofTree?_toTree item canonical.1 free.1,
      itemsOfTrees?_itemsToTrees rest canonical.2 free.2]
    rfl

theorem entriesOfFields?_entriesToFields : ∀ entries : List (String × Value),
    CanonicalEntries entries → FloatFreeEntries entries →
    entriesOfFields? (entriesToFields entries) = some entries
  | [], _, _ => rfl
  | (key, value) :: rest, canonical, free => by
    rw [entriesToFields, entriesOfFields?, ofTree?_toTree value canonical.1 free.1,
      entriesOfFields?_entriesToFields rest canonical.2 free.2]
    rfl

end

mutual

theorem written_toTree : ∀ value : Value, value.FloatFree → value.toTree.Written
  | .null, _ => trivial
  | .boolean value, _ => ⟨trivial, trivial⟩
  | .integer value, _ => ⟨nofun, trivial⟩
  | .string value, _ => ⟨trivial, trivial⟩
  | .bytes value, _ => by
    refine ⟨Json.itemsWritten_of_forall fun item member => ?_, trivial⟩
    obtain ⟨byte, _, rfl⟩ := List.mem_map.mp member
    exact nofun
  | .list items, free => ⟨written_itemsToTrees items free, trivial⟩
  | .map entries, free => ⟨written_entriesToFields entries free, trivial⟩

theorem written_itemsToTrees : ∀ items : List Value, FloatFreeItems items →
    Json.ItemsWritten (itemsToTrees items)
  | [], _ => trivial
  | item :: rest, free => ⟨written_toTree item free.1, written_itemsToTrees rest free.2⟩

theorem written_entriesToFields : ∀ entries : List (String × Value), FloatFreeEntries entries →
    Json.FieldsWritten (entriesToFields entries)
  | [], _ => trivial
  | (_, value) :: rest, free => ⟨written_toTree value free.1, written_entriesToFields rest free.2⟩

end

structure Plain (value : Value) : Prop where
  canonical : value.Canonical
  floatFree : value.FloatFree

theorem lossless : Json.Lossless Value Plain Json.Readable := by
  refine .of_trees (fun value plain => written_toTree value plain.floatFree) ?_ ?_
  · intro value plain readable
    exact (if_pos readable).trans (ofTree?_toTree value plain.canonical plain.floatFree)
  · intro first second plain plain' same
    have read := ofTree?_toTree first plain.canonical plain.floatFree
    have same : first.toTree = second.toTree := same
    rw [same, ofTree?_toTree second plain'.canonical plain'.floatFree] at read
    exact (Option.some.inj read).symm

end Value

namespace TransactionMetadata

structure Plain (metadata : TransactionMetadata) : Prop where
  canonical : Value.CanonicalEntries metadata.map.entries
  floatFree : Value.FloatFreeEntries metadata.map.entries

theorem lossless : Json.Lossless TransactionMetadata Plain Json.Readable := by
  refine .of_trees (fun metadata plain => Value.written_entriesToFields _ plain.floatFree) ?_ ?_
  · intro metadata plain readable
    have read := Value.entriesOfFields?_entriesToFields _ plain.canonical plain.floatFree
    have kept : (Form.ofTree? (Form.toTree metadata.map) : Option (SortedMap Value)) =
        some metadata.map := by
      refine (if_pos readable).trans ?_
      rw [read]
      exact congrArg some metadata.map.ofList_entries
    exact congrArg (Option.map TransactionMetadata.mk) kept
  · rintro ⟨first⟩ ⟨second⟩ plain plain' same
    have fields : Value.entriesToFields first.entries = Value.entriesToFields second.entries :=
      Tree.object.inj same
    have read := Value.entriesOfFields?_entriesToFields _ plain.canonical plain.floatFree
    rw [fields, Value.entriesOfFields?_entriesToFields _ plain'.canonical plain'.floatFree] at read
    exact congrArg _ (SortedMap.ext (Option.some.inj read).symm)

end TransactionMetadata

theorem Bookmark.lossless : Json.Lossless Bookmark (fun _ => True) (fun _ => True) :=
  .of_read (fun _ => trivial) fun _ => rfl

theorem DatabaseName.lossless : Json.Lossless DatabaseName (fun _ => True) (fun _ => True) := by
  refine .of_read (fun database => ?_) fun database => ?_
  · cases database with
    | default => trivial
    | named name => exact ⟨trivial, trivial⟩
  · cases database <;> rfl

namespace NotificationConfig

theorem ofTree?_severity (severity : Severity) :
    Form.ofTree? (Form.toTree severity) = some severity := by
  cases severity <;> rfl

theorem ofTree?_classification (classification : Classification) :
    Form.ofTree? (Form.toTree classification) = some classification := by
  cases classification <;> rfl

theorem ofTree?_disabled (set : SortedSet Classification) :
    Form.ofTree? (Form.toTree set) = some set := by
  have read : (set.elements.map Form.toTree).mapM Form.ofTree? = some set.elements :=
    mapM_map_of_read ofTree?_classification set.elements
  have parsed : (Form.ofTree? (Form.toTree set) : Option (SortedSet Classification)) =
      ((set.elements.map Form.toTree).mapM (Form.ofTree? : Tree → Option Classification)).map
        SortedSet.ofList := rfl
  rw [parsed, read, Option.map_some, set.ofList_elements]

theorem written_toTree (config : NotificationConfig) :
    (Form.toTree config : Tree).Written := by
  obtain ⟨severity, disabled⟩ := config
  refine ⟨?_, ?_, trivial⟩
  · cases severity <;> trivial
  · cases disabled with
    | none => trivial
    | some set =>
      refine Json.itemsWritten_of_forall fun item member => ?_
      obtain ⟨classification, _, rfl⟩ := List.mem_map.mp member
      trivial

theorem ofTree?_toTree (config : NotificationConfig) :
    Form.ofTree? (Form.toTree config) = some config := by
  have severity : Json.optionOfTree? (Json.optionTree config.minimumSeverity) =
      some config.minimumSeverity :=
    Json.optionOfTree?_optionTree ofTree?_severity fun _ => nofun
  have disabled : Json.optionOfTree? (Json.optionTree config.disabled) = some config.disabled :=
    Json.optionOfTree?_optionTree ofTree?_disabled fun _ => nofun
  have fields : (Form.toTree config : Tree) = .object
    [(some "minimum_severity", Json.optionTree config.minimumSeverity),
     (some "disabled_classifications", Json.optionTree config.disabled)] := rfl
  rw [fields]
  -- Either key stands once in what was written, so each member is found.
  simp [Form.ofTree?, memberOption?, member?, severity, disabled]

theorem lossless : Json.Lossless NotificationConfig (fun _ => True) (fun _ => True) :=
  .of_read written_toTree ofTree?_toTree

end NotificationConfig

/-- What is written of each type that travels is read back. -/
theorem wire_types_round_trip :
    Json.Lossless Value Value.Plain Json.Readable ∧
      Json.Lossless TransactionMetadata TransactionMetadata.Plain Json.Readable ∧
      Json.Lossless Bookmark (fun _ => True) (fun _ => True) ∧
      Json.Lossless DatabaseName (fun _ => True) (fun _ => True) ∧
      Json.Lossless NotificationConfig (fun _ => True) (fun _ => True) :=
  ⟨Value.lossless, TransactionMetadata.lossless, Bookmark.lossless, DatabaseName.lossless,
    NotificationConfig.lossless⟩

/-- Every kind of value that is no float, with characters that are escaped. -/
def assortment : Value :=
  .map
    [("", .list []),
     ("a\"b\\\n", .list
       [.null, .boolean false, .integer Int64.minValue, .string "\u0001/\u2028", .bytes [0, 255]]),
     ("k", .map [])]

theorem wire_types_round_trip_assortment :
    assortment.Plain ∧ Json.Readable assortment ∧
      Json.decode? Value (Json.encode assortment) = some assortment ∧
      Json.encode (DatabaseName.named "") ≠ Json.encode DatabaseName.default ∧
      Json.encode (NotificationConfig.unset.withDisabled []) ≠
        Json.encode NotificationConfig.unset := by
  obtain ⟨values, _, _, databases, notifications⟩ := wire_types_round_trip
  have plain : assortment.Plain := by
    refine ⟨⟨by decide, ?_⟩, ?_⟩
    · exact ⟨trivial, ⟨trivial, trivial, trivial, trivial, trivial, trivial⟩,
        ⟨List.Pairwise.nil, trivial⟩, trivial⟩
    · exact ⟨trivial, ⟨trivial, trivial, trivial, trivial, trivial, trivial⟩, trivial, trivial⟩
  have readable : Json.Readable assortment := by
    unfold Json.Readable
    decide
  refine ⟨plain, readable, values.decode_encode _ plain readable, ?_, ?_⟩
  · intro same
    cases databases.encode_inj _ _ trivial trivial same
  · intro same
    cases notifications.encode_inj _ _ trivial trivial same

end PipelinedClient
