import Mathlib.Data.List.Sort
import PipelinedClient.Ordered.Map
import PipelinedClient.Ordered.Set

/-! Ordered collections told by their members.

A set is known by its elements. Bindings of different keys make the same map exactly if
they are the same bindings, in whatever order they come. A list of keys some of which are
bound is found again in the map that it makes.
-/

set_option autoImplicit false

namespace PipelinedClient

variable {α : Type}

theorem SortedSet.eq_of_mem_iff [LT α] [Trans (α := α) (· < ·) (· < ·) (· < ·)]
    [Std.Irrefl (α := α) (· < ·)] {first second : SortedSet α}
    (same : ∀ element, element ∈ first ↔ element ∈ second) : first = second := by
  have : Std.Antisymm (α := α) (· < ·) := ⟨fun left right before after =>
    absurd (Trans.trans before after) (Std.Irrefl.irrefl left)⟩
  exact ext (first.ascending.eq_of_mem_iff second.ascending same)

theorem SortedSet.ofList_eq_iff [LT α] [DecidableLT α] [DecidableEq α]
    [Trans (α := α) (· < ·) (· < ·) (· < ·)] [Std.Trichotomous (α := α) (· < ·)]
    [Std.Irrefl (α := α) (· < ·)] (first second : List α) :
    ofList first = ofList second ↔ ∀ element, element ∈ first ↔ element ∈ second := by
  constructor
  · intro same element
    rw [← mem_ofList, same, mem_ofList]
  · intro same
    refine eq_of_mem_iff fun element => ?_
    rw [mem_ofList, mem_ofList]
    exact same element

theorem SortedSet.ofList_elements [LT α] [DecidableLT α] [DecidableEq α]
    [Trans (α := α) (· < ·) (· < ·) (· < ·)] [Std.Trichotomous (α := α) (· < ·)]
    [Std.Irrefl (α := α) (· < ·)] (set : SortedSet α) : ofList set.elements = set :=
  eq_of_mem_iff fun _ => mem_ofList

namespace Entries

theorem nodup_keys_of_ascending {entries : List (String × α)} (ascending : Ascending entries) :
    (entries.map Prod.fst).Nodup :=
  ascending.map _ fun _ _ before same => String.lt_irrefl _ (same ▸ before)

theorem insert_perm {key : String} {entries : List (String × α)} (value : α)
    (unbound : key ∉ entries.map Prod.fst) :
    (insert key value entries).Perm ((key, value) :: entries) := by
  induction entries with
  | nil => exact .refl _
  | cons head rest ih =>
    obtain ⟨name, old⟩ := head
    rw [List.map_cons, List.mem_cons, not_or] at unbound
    unfold insert
    split
    · exact .refl _
    · rw [if_neg unbound.1]
      exact ((ih unbound.2).cons _).trans (.swap _ _ _)

theorem ofList_perm {entries : List (String × α)} (distinct : (entries.map Prod.fst).Nodup) :
    (ofList entries).Perm entries := by
  -- What was bound before stands in front of what is still to be bound.
  suffices general : ∀ kept : List (String × α), ((kept ++ entries).map Prod.fst).Nodup →
      (entries.foldl (fun kept entry => insert entry.1 entry.2 kept) kept).Perm
        (kept ++ entries) from general [] distinct
  clear distinct
  induction entries with
  | nil =>
    intro kept _
    rw [List.append_nil]
    exact .refl kept
  | cons entry rest ih =>
    intro kept distinct
    have moved : (kept ++ entry :: rest).Perm (entry :: kept ++ rest) := List.perm_middle
    have apart := (moved.map Prod.fst).nodup_iff.mp distinct
    have unbound : entry.1 ∉ kept.map Prod.fst := by
      rw [List.cons_append, List.map_cons, List.nodup_cons, List.map_append,
        List.mem_append, not_or] at apart
      exact apart.1.1
    have placed := (insert_perm entry.2 unbound).append_right rest
    exact (ih _ ((placed.map Prod.fst).nodup_iff.mpr apart)).trans (placed.trans moved.symm)

theorem find?_ofList (key : String) (entries : List (String × α)) :
    find? key (ofList entries) = entries.reverse.lookup key := by
  rw [ofList, ← List.foldr_reverse]
  induction entries.reverse with
  | nil => rfl
  | cons entry rest ih =>
    obtain ⟨name, value⟩ := entry
    rw [List.foldr_cons, List.lookup_cons]
    by_cases same : key = name
    · subst same
      rw [find?_insert_self, beq_self_eq_true]
    · rw [find?_insert_of_ne value same, ih, beq_false_of_ne same]

theorem find?_eq_some_iff {entries : List (String × α)} (distinct : (entries.map Prod.fst).Nodup)
    {key : String} {value : α} : find? key entries = some value ↔ (key, value) ∈ entries := by
  induction entries with
  | nil => simp [find?]
  | cons head rest ih =>
    obtain ⟨name, old⟩ := head
    rw [List.map_cons, List.nodup_cons] at distinct
    rw [find?, List.mem_cons, Prod.mk.injEq]
    split
    · rename_i same
      subst same
      have elsewhere : (key, value) ∉ rest := fun member =>
        distinct.1 (List.mem_map.mpr ⟨_, member, rfl⟩)
      simp [elsewhere, eq_comm]
    · rename_i different
      simp [different, ih distinct.2]

end Entries

namespace SortedMap

theorem find?_eq_some_iff {map : SortedMap α} {key : String} {value : α} :
    map.find? key = some value ↔ (key, value) ∈ map.entries :=
  Entries.find?_eq_some_iff (Entries.nodup_keys_of_ascending map.ascending)

theorem eq_of_perm {first second : SortedMap α} (same : first.entries.Perm second.entries) :
    first = second :=
  ext (same.eq_of_pairwise
    (fun _ _ _ _ before after => absurd (String.lt_trans before after) (String.lt_irrefl _))
    first.ascending second.ascending)

theorem ofList_entries (map : SortedMap α) : ofList map.entries = map :=
  eq_of_perm (Entries.ofList_perm (Entries.nodup_keys_of_ascending map.ascending))

/-- Bindings of different keys make the same map exactly if they are the same. -/
theorem ofList_eq_iff_perm {first second : List (String × α)}
    (distinct : (first.map Prod.fst).Nodup) (distinct' : (second.map Prod.fst).Nodup) :
    ofList first = ofList second ↔ first.Perm second := by
  have all := Entries.ofList_perm distinct
  have all' := Entries.ofList_perm distinct'
  constructor
  · intro same
    have entries : Entries.ofList first = Entries.ofList second := congrArg SortedMap.entries same
    rw [entries] at all
    exact all.symm.trans all'
  · intro same
    exact eq_of_perm (all.trans (same.trans all'.symm))

end SortedMap

abbrev Slots (α : Type) := List (String × Option α)

namespace Slots

def present (slots : Slots α) : List (String × α) :=
  slots.filterMap fun slot => slot.2.map fun value => (slot.1, value)

theorem keys_present_sublist (slots : Slots α) :
    (slots.present.map Prod.fst).Sublist (slots.map Prod.fst) := by
  induction slots with
  | nil => exact .slnil
  | cons slot rest ih =>
    obtain ⟨key, value⟩ := slot
    cases value with
    | none => exact ih.cons key
    | some value => exact ih.cons_cons key

theorem find?_present {slots : Slots α} (distinct : (slots.map Prod.fst).Nodup) {key : String}
    {value : Option α} (member : (key, value) ∈ slots) :
    (SortedMap.ofList slots.present).find? key = value := by
  have kept := Entries.ofList_perm (distinct.sublist slots.keys_present_sublist)
  refine Option.ext fun found => ?_
  rw [SortedMap.find?_eq_some_iff]
  have bound : (key, found) ∈ slots.present ↔ (key, some found) ∈ slots := by
    simp [present]
  refine kept.mem_iff.trans (bound.trans ⟨fun other => ?_, fun same => same ▸ member⟩)
  have same := List.inj_on_of_nodup_map distinct member other rfl
  exact (Prod.mk.inj same).2

/-- The map tells what every key is bound to. -/
theorem ofList_present_inj {first second : Slots α} (distinct : (first.map Prod.fst).Nodup)
    (keys : first.map Prod.fst = second.map Prod.fst)
    (same : SortedMap.ofList first.present = SortedMap.ofList second.present) :
    first = second := by
  have length : first.length = second.length := by
    simpa using congrArg List.length keys
  refine List.ext_getElem length fun index bound bound' => ?_
  have key : first[index].1 = second[index].1 := by
    have there := congrArg (·[index]?) keys
    simpa [bound, bound'] using there
  have found : (SortedMap.ofList first.present).find? first[index].1 = first[index].2 :=
    find?_present distinct (List.getElem_mem bound)
  have found' : (SortedMap.ofList second.present).find? second[index].1 = second[index].2 :=
    find?_present (keys ▸ distinct) (List.getElem_mem bound')
  rw [same, key] at found
  exact Prod.ext key (found.symm.trans found')

end Slots

end PipelinedClient
