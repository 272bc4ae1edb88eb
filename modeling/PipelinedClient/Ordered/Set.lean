/-! Finite sets kept as strictly ascending lists, so that equal sets are equal lists. -/

set_option autoImplicit false

namespace PipelinedClient

structure SortedSet (α : Type) [LT α] where
  elements : List α
  ascending : elements.Pairwise (· < ·)

namespace SortedSet

variable {α : Type} [LT α]

theorem ext {first second : SortedSet α} (same : first.elements = second.elements) :
    first = second := by
  cases first
  cases second
  cases same
  rfl

instance [DecidableEq α] : DecidableEq (SortedSet α) := fun first second =>
  decidable_of_iff (first.elements = second.elements) ⟨ext, fun same => same ▸ rfl⟩

def empty : SortedSet α := ⟨[], List.Pairwise.nil⟩

instance : EmptyCollection (SortedSet α) := ⟨empty⟩

instance : Inhabited (SortedSet α) := ⟨empty⟩

instance : Membership α (SortedSet α) := ⟨fun set element => element ∈ set.elements⟩

theorem mem_elements {set : SortedSet α} {element : α} :
    element ∈ set.elements ↔ element ∈ set := Iff.rfl

instance [DecidableEq α] (element : α) (set : SortedSet α) : Decidable (element ∈ set) :=
  inferInstanceAs (Decidable (element ∈ set.elements))

def isEmpty (set : SortedSet α) : Bool := set.elements.isEmpty

variable [DecidableLT α] [DecidableEq α]

/-- Place an element in an ascending list that may already hold it. -/
def place (element : α) : List α → List α
  | [] => [element]
  | head :: rest =>
    if element < head then element :: head :: rest
    else if element = head then head :: rest
    else head :: place element rest

@[simp] theorem mem_place {element other : α} {elements : List α} :
    other ∈ place element elements ↔ other = element ∨ other ∈ elements := by
  induction elements with
  | nil => simp [place]
  | cons head rest ih =>
    unfold place
    split
    · simp
    · split
      · rename_i same
        subst same
        simp
      · simp only [List.mem_cons, ih]
        constructor <;> (rintro (h | h | h) <;> simp [h])

variable [Trans (α := α) (· < ·) (· < ·) (· < ·)] [Std.Trichotomous (α := α) (· < ·)]

theorem ascending_place (element : α) {elements : List α}
    (ascending : elements.Pairwise (· < ·)) : (place element elements).Pairwise (· < ·) := by
  induction elements with
  | nil => simp [place]
  | cons head rest ih =>
    obtain ⟨above, tail⟩ := List.pairwise_cons.mp ascending
    unfold place
    split
    · rename_i before
      refine List.pairwise_cons.mpr ⟨fun other member => ?_, ascending⟩
      rcases List.mem_cons.mp member with same | inside
      · exact same ▸ before
      · exact Trans.trans before (above other inside)
    · split
      · exact ascending
      · rename_i notBefore different
        refine List.pairwise_cons.mpr ⟨fun other member => ?_, ih tail⟩
        rcases mem_place.mp member with same | inside
        · subst same
          exact Decidable.byContradiction fun notAfter =>
            different (Std.Trichotomous.trichotomous _ _ notBefore notAfter)
        · exact above other inside

def insert (set : SortedSet α) (element : α) : SortedSet α :=
  ⟨place element set.elements, ascending_place element set.ascending⟩

def insertAll (set : SortedSet α) (added : List α) : SortedSet α := added.foldl insert set

def ofList (elements : List α) : SortedSet α := insertAll empty elements

@[simp] theorem mem_insert {set : SortedSet α} {element other : α} :
    other ∈ set.insert element ↔ other = element ∨ other ∈ set := mem_place

@[simp] theorem mem_insertAll {set : SortedSet α} {added : List α} {other : α} :
    other ∈ set.insertAll added ↔ other ∈ set ∨ other ∈ added := by
  induction added generalizing set with
  | nil => simp [insertAll]
  | cons head rest ih =>
    have step : set.insertAll (head :: rest) = (set.insert head).insertAll rest := rfl
    rw [step, ih, mem_insert, List.mem_cons]
    constructor
    · rintro ((h | h) | h) <;> simp [h]
    · rintro (h | h | h) <;> simp [h]

@[simp] theorem mem_ofList {elements : List α} {other : α} :
    other ∈ ofList elements ↔ other ∈ elements := by
  have none : other ∉ (empty : SortedSet α) := List.not_mem_nil
  simp [ofList, none]

end SortedSet

end PipelinedClient
