/-! String-keyed maps kept as lists of entries whose keys strictly ascend.

Keys are ordered by code point, so a map has one representation: two maps with
the same bindings are the same list. The operations on bare entry lists are
separate from the bundled type because a recursive value can only nest the list.
-/

set_option autoImplicit false

namespace PipelinedClient

variable {α β : Type}

/-- The keys strictly ascend, hence no key occurs twice. -/
def Ascending (entries : List (String × α)) : Prop :=
  entries.Pairwise fun first second => first.1 < second.1

instance (entries : List (String × α)) : Decidable (Ascending entries) :=
  inferInstanceAs (Decidable (entries.Pairwise fun first second => first.1 < second.1))

namespace Entries

def insert (key : String) (value : α) : List (String × α) → List (String × α)
  | [] => [(key, value)]
  | (head, old) :: rest =>
    if key < head then (key, value) :: (head, old) :: rest
    else if key = head then (key, value) :: rest
    else (head, old) :: insert key value rest

/-- Of several bindings of one key the last one counts. -/
def ofList (entries : List (String × α)) : List (String × α) :=
  entries.foldl (fun kept entry => insert entry.1 entry.2 kept) []

def find? (key : String) : List (String × α) → Option α
  | [] => none
  | (head, value) :: rest => if key = head then some value else find? key rest

theorem mem_insert {key : String} {value : α} {entry : String × α} {entries : List (String × α)}
    (member : entry ∈ insert key value entries) : entry = (key, value) ∨ entry ∈ entries := by
  induction entries with
  | nil => simpa [insert] using member
  | cons head rest ih =>
    unfold insert at member
    split at member
    · simpa using member
    · split at member
      · rcases List.mem_cons.mp member with same | inside
        · exact .inl same
        · exact .inr (List.mem_cons_of_mem _ inside)
      · rcases List.mem_cons.mp member with same | inside
        · exact .inr (same ▸ List.mem_cons_self)
        · exact (ih inside).imp id (List.mem_cons_of_mem _)

theorem ascending_insert (key : String) (value : α) {entries : List (String × α)}
    (ascending : Ascending entries) : Ascending (insert key value entries) := by
  induction entries with
  | nil => simp [insert, Ascending]
  | cons head rest ih =>
    obtain ⟨name, old⟩ := head
    obtain ⟨above, tail⟩ := List.pairwise_cons.mp ascending
    unfold insert
    split
    · rename_i before
      refine List.pairwise_cons.mpr ⟨fun entry member => ?_, ascending⟩
      rcases List.mem_cons.mp member with same | inside
      · exact same ▸ before
      · exact String.lt_trans before (above entry inside)
    · split
      · rename_i same
        subst same
        exact List.pairwise_cons.mpr ⟨above, tail⟩
      · rename_i notBefore different
        refine List.pairwise_cons.mpr ⟨fun entry member => ?_, ih tail⟩
        rcases mem_insert member with same | inside
        · subst same
          exact Std.lt_of_le_of_ne (String.not_lt.mp notBefore) (Ne.symm different)
        · exact above entry inside

theorem ascending_foldl_insert (added : List (String × α)) {entries : List (String × α)}
    (ascending : Ascending entries) :
    Ascending (added.foldl (fun kept entry => insert entry.1 entry.2 kept) entries) := by
  induction added generalizing entries with
  | nil => exact ascending
  | cons head rest ih => exact ih (ascending_insert head.1 head.2 ascending)

theorem ascending_ofList (entries : List (String × α)) : Ascending (ofList entries) :=
  ascending_foldl_insert entries List.Pairwise.nil

theorem find?_insert_self (key : String) (value : α) (entries : List (String × α)) :
    find? key (insert key value entries) = some value := by
  induction entries with
  | nil => simp [insert, find?]
  | cons head rest ih =>
    unfold insert
    split
    · simp [find?]
    · split
      · simp [find?]
      · rename_i different
        simp [find?, different, ih]

theorem find?_insert_of_ne {key other : String} (value : α) (different : other ≠ key)
    (entries : List (String × α)) :
    find? other (insert key value entries) = find? other entries := by
  induction entries with
  | nil => simp [insert, find?, different]
  | cons head rest ih =>
    unfold insert
    split
    · simp [find?, different]
    · split
      · rename_i same
        simp [find?, ← same, different]
      · simp [find?, ih]

end Entries

structure SortedMap (α : Type) where
  entries : List (String × α)
  ascending : Ascending entries

namespace SortedMap

theorem ext {first second : SortedMap α} (same : first.entries = second.entries) :
    first = second := by
  cases first
  cases second
  cases same
  rfl

instance [DecidableEq α] : DecidableEq (SortedMap α) := fun first second =>
  decidable_of_iff (first.entries = second.entries) ⟨ext, fun same => same ▸ rfl⟩

def empty : SortedMap α := ⟨[], List.Pairwise.nil⟩

instance : EmptyCollection (SortedMap α) := ⟨empty⟩

instance : Inhabited (SortedMap α) := ⟨empty⟩

def insert (map : SortedMap α) (key : String) (value : α) : SortedMap α :=
  ⟨Entries.insert key value map.entries, Entries.ascending_insert key value map.ascending⟩

def ofList (entries : List (String × α)) : SortedMap α :=
  ⟨Entries.ofList entries, Entries.ascending_ofList entries⟩

def find? (map : SortedMap α) (key : String) : Option α := Entries.find? key map.entries

def contains (map : SortedMap α) (key : String) : Bool := (map.find? key).isSome

def keys (map : SortedMap α) : List String := map.entries.map Prod.fst

def size (map : SortedMap α) : Nat := map.entries.length

def isEmpty (map : SortedMap α) : Bool := map.entries.isEmpty

@[simp] theorem find?_insert_self (map : SortedMap α) (key : String) (value : α) :
    (map.insert key value).find? key = some value :=
  Entries.find?_insert_self key value map.entries

theorem find?_insert_of_ne (map : SortedMap α) {key other : String} (value : α)
    (different : other ≠ key) : (map.insert key value).find? other = map.find? other :=
  Entries.find?_insert_of_ne value different map.entries

end SortedMap

end PipelinedClient
