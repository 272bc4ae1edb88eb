import PipelinedClient.Binary64
import PipelinedClient.Ordered.Map
import PipelinedClient.Ordered.Set

/-! Values carried by messages.

A value is a scalar, a list, or a map from strings. Maps nested in a value are
bare entry lists; `Canonical` says that every one of them strictly ascends, which
holds of all values made by `ofEntries` and by reading.
-/

set_option autoImplicit false

namespace PipelinedClient

inductive Value where
  | null
  | boolean (value : Bool)
  | integer (value : Int64)
  | float (value : Binary64)
  | string (value : String)
  | bytes (value : List UInt8)
  | list (items : List Value)
  | map (entries : List (String × Value))
  deriving Inhabited

instance stringTrichotomous : Std.Trichotomous (α := String) (· < ·) where
  trichotomous _ _ first second := String.le_antisymm (String.not_lt.mp second) (String.not_lt.mp first)

instance stringTrans : Trans (α := String) (· < ·) (· < ·) (· < ·) where
  trans := String.lt_trans

namespace Value

def ofEntries (entries : List (String × Value)) : Value := .map (Entries.ofList entries)

def ofMap (map : SortedMap Value) : Value := .map map.entries

def ofOption (present : Option Value) : Value := present.getD .null

/-- A set of strings travels as the ascending list of its elements. -/
def ofStrings (set : SortedSet String) : Value := .list (set.elements.map .string)

def stringSet (strings : List String) : Value := ofStrings (SortedSet.ofList strings)

def typeName : Value → String
  | .null => "NULL"
  | .boolean _ => "BOOLEAN"
  | .integer _ => "INTEGER"
  | .float _ => "FLOAT"
  | .string _ => "STRING"
  | .bytes _ => "BYTES"
  | .list _ => "LIST"
  | .map _ => "MAP"

def isNull : Value → Bool
  | .null => true
  | _ => false

def asBoolean? : Value → Option Bool
  | .boolean value => some value
  | _ => none

def asInteger? : Value → Option Int64
  | .integer value => some value
  | _ => none

/-- Integers count as the double nearest to them. -/
def asFloat? : Value → Option Binary64
  | .float value => some value
  | .integer value => some (Binary64.ofInt value.toInt)
  | _ => none

def asString? : Value → Option String
  | .string value => some value
  | _ => none

def asList? : Value → Option (List Value)
  | .list items => some items
  | _ => none

def asMap? : Value → Option (List (String × Value))
  | .map entries => some entries
  | _ => none

mutual

def Canonical : Value → Prop
  | .list items => CanonicalItems items
  | .map entries => Ascending entries ∧ CanonicalEntries entries
  | _ => True

def CanonicalItems : List Value → Prop
  | [] => True
  | item :: rest => item.Canonical ∧ CanonicalItems rest

def CanonicalEntries : List (String × Value) → Prop
  | [] => True
  | (_, value) :: rest => value.Canonical ∧ CanonicalEntries rest

end

mutual

def FloatFree : Value → Prop
  | .float _ => False
  | .list items => FloatFreeItems items
  | .map entries => FloatFreeEntries entries
  | _ => True

def FloatFreeItems : List Value → Prop
  | [] => True
  | item :: rest => item.FloatFree ∧ FloatFreeItems rest

def FloatFreeEntries : List (String × Value) → Prop
  | [] => True
  | (_, value) :: rest => value.FloatFree ∧ FloatFreeEntries rest

end

mutual

def matchesBy (sameFloat : Binary64 → Binary64 → Bool) : Value → Value → Bool
  | .null, .null => true
  | .boolean first, .boolean second => first == second
  | .integer first, .integer second => first == second
  | .float first, .float second => sameFloat first second
  | .string first, .string second => first == second
  | .bytes first, .bytes second => first == second
  | .list first, .list second => itemsMatchBy sameFloat first second
  | .map first, .map second => entriesMatchBy sameFloat first second
  | _, _ => false

def itemsMatchBy (sameFloat : Binary64 → Binary64 → Bool) : List Value → List Value → Bool
  | [], [] => true
  | first :: rest, second :: others =>
    first.matchesBy sameFloat second && itemsMatchBy sameFloat rest others
  | _, _ => false

def entriesMatchBy (sameFloat : Binary64 → Binary64 → Bool) :
    List (String × Value) → List (String × Value) → Bool
  | [], [] => true
  | (key, first) :: rest, (name, second) :: others =>
    key == name && first.matchesBy sameFloat second && entriesMatchBy sameFloat rest others
  | _, _ => false

end

/-- Equality with numeric comparison of floats, so a value that holds a NaN does not
agree with itself. -/
def agrees (first second : Value) : Bool := first.matchesBy Binary64.agrees second

mutual

theorem matchesBy_beq_iff : ∀ first second : Value,
    first.matchesBy (fun left right => left == right) second = true ↔ first = second
  | .list first, .list second => by
    simpa only [matchesBy, Value.list.injEq] using itemsMatchBy_beq_iff first second
  | .map first, .map second => by
    simpa only [matchesBy, Value.map.injEq] using entriesMatchBy_beq_iff first second
  | .null, second | .boolean _, second | .integer _, second | .float _, second
  | .string _, second | .bytes _, second => by cases second <;> simp [matchesBy]
  | .list _, .null | .list _, .boolean _ | .list _, .integer _ | .list _, .float _
  | .list _, .string _ | .list _, .bytes _ | .list _, .map _ => by simp [matchesBy]
  | .map _, .null | .map _, .boolean _ | .map _, .integer _ | .map _, .float _
  | .map _, .string _ | .map _, .bytes _ | .map _, .list _ => by simp [matchesBy]

theorem itemsMatchBy_beq_iff : ∀ first second : List Value,
    itemsMatchBy (fun left right => left == right) first second = true ↔ first = second
  | [], second => by cases second <;> simp [itemsMatchBy]
  | _ :: _, [] => by simp [itemsMatchBy]
  | first :: rest, second :: others => by
    rw [itemsMatchBy, Bool.and_eq_true, matchesBy_beq_iff first second,
      itemsMatchBy_beq_iff rest others, List.cons.injEq]

theorem entriesMatchBy_beq_iff : ∀ first second : List (String × Value),
    entriesMatchBy (fun left right => left == right) first second = true ↔ first = second
  | [], second => by cases second <;> simp [entriesMatchBy]
  | _ :: _, [] => by simp [entriesMatchBy]
  | (key, first) :: rest, (name, second) :: others => by
    rw [entriesMatchBy, Bool.and_eq_true, Bool.and_eq_true, matchesBy_beq_iff first second,
      entriesMatchBy_beq_iff rest others, List.cons.injEq, Prod.mk.injEq, beq_iff_eq]

end

instance : DecidableEq Value := fun first second =>
  decidable_of_iff _ (matchesBy_beq_iff first second)

end Value

end PipelinedClient
