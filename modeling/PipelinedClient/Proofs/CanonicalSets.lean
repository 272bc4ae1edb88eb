import PipelinedClient.Proofs.BuilderSteps
import PipelinedClient.Proofs.ByteOrder

/-! Sets travel as ascending lists.

A set of strings has one encoding: the list of its elements in the order of their bytes. The
bookmarks that a builder is given in any number of steps travel in this way, and not at all if
there are none. Parsed tokens are dropped if they are empty, all others are kept.
-/

set_option autoImplicit false

namespace PipelinedClient

/-- A list of exactly the given strings, strictly ascending in the order of bytes. -/
structure Enumerates (listed strings : List String) : Prop where
  ascending : listed.Pairwise fun first second => Text.utf8 first < Text.utf8 second
  members : ∀ string, string ∈ listed ↔ string ∈ strings

theorem SortedSet.enumerates (set : SortedSet String) {strings : List String}
    (same : ∀ string, string ∈ set ↔ string ∈ strings) : Enumerates set.elements strings :=
  ⟨set.ascending.imp fun before => (Text.lt_iff_utf8_lt _ _).mp before, same⟩

structure TravelAsSet (strings : List String) : Prop where
  listed : ∃ listed, Enumerates listed strings ∧
    Value.stringSet strings = .list (listed.map .string)
  same_iff : ∀ others, Value.stringSet strings = Value.stringSet others ↔
    ∀ string, string ∈ strings ↔ string ∈ others
  ordered : ∀ set : SortedSet String, (∀ string, string ∈ set ↔ string ∈ strings) →
    Value.ofStrings set = Value.stringSet strings ∧
      Value.stringSet set.elements = Value.stringSet strings
  unordered : ∀ visited : List String, visited.Nodup →
    (∀ string, string ∈ visited ↔ string ∈ strings) →
    Value.stringSet visited = Value.stringSet strings

theorem Value.travelAsSet (strings : List String) : TravelAsSet strings := by
  refine ⟨⟨(SortedSet.ofList strings).elements, ?_, rfl⟩, stringSet_eq_iff strings, ?_, ?_⟩
  · exact SortedSet.enumerates _ fun string => SortedSet.mem_ofList
  · intro set same
    have all : SortedSet.ofList strings = set := SortedSet.eq_of_mem_iff fun string => by
      rw [SortedSet.mem_ofList, same]
    refine ⟨?_, (stringSet_eq_iff _ _).mpr same⟩
    rw [← all]
    rfl
  · intro visited _ same
    exact (stringSet_eq_iff visited strings).mpr same

/-- A step with a builder that may add bookmarks: made of tokens as they stand or parsed from
them. -/
inductive BookmarkStep where
  | made (tokens : List String)
  | parsed (tokens : List String)
  | other (setting : Setting) (apart : setting.subject ≠ .bookmarks)

namespace BookmarkStep

def setting : BookmarkStep → Setting
  | .made tokens => .bookmarks (tokens.map Bookmark.mk)
  | .parsed tokens => .bookmarks (Bookmark.parse tokens).elements
  | .other setting _ => setting

def kept : BookmarkStep → List String
  | .made tokens => tokens
  | .parsed tokens => tokens.filter fun token => token ≠ ""
  | .other _ _ => []

theorem mem_added_setting (step : BookmarkStep) (bookmark : Bookmark) :
    bookmark ∈ Setting.added [step.setting] ↔ bookmark.token ∈ step.kept := by
  obtain ⟨token⟩ := bookmark
  cases step with
  | made tokens =>
    have all : Setting.added [setting (.made tokens)] = tokens.map Bookmark.mk :=
      List.append_nil _
    rw [all]
    simp [kept]
  | parsed tokens =>
    have all : Setting.added [setting (.parsed tokens)] = (Bookmark.parse tokens).elements :=
      List.append_nil _
    rw [all, SortedSet.mem_elements, Bookmark.parse, SortedSet.mem_ofList]
    simp [kept]
  | other step apart =>
    -- A step about anything else adds no bookmark.
    have none : Setting.added [step] = [] := by
      cases step with
      | bookmarks added => exact absurd rfl apart
      | _ => rfl
    rw [setting, none]
    simp [kept]

theorem mem_added (steps : List BookmarkStep) (bookmark : Bookmark) :
    bookmark ∈ Setting.added (steps.map setting) ↔ bookmark.token ∈ steps.flatMap kept := by
  induction steps with
  | nil => exact iff_of_false List.not_mem_nil List.not_mem_nil
  | cons step rest ih =>
    have split : (step :: rest).map setting = [step.setting] ++ rest.map setting := rfl
    rw [split, Setting.added_append, List.mem_append, mem_added_setting, ih, List.flatMap_cons,
      List.mem_append]

end BookmarkStep

structure BookmarksTravel (origin : Origin) (steps : List BookmarkStep) : Prop where
  listed : ∃ listed, Enumerates listed (steps.flatMap BookmarkStep.kept) ∧
    (origin.builder.setAll (steps.map BookmarkStep.setting)).build.find? "bookmarks" =
      if listed = [] then none else some (.list (listed.map .string))
  absent_iff :
    (origin.builder.setAll (steps.map BookmarkStep.setting)).build.contains "bookmarks" = false ↔
      ∀ step ∈ steps, step.kept = []

/-- The entry is there exactly if it would list something. -/
theorem TransactionSettings.find?_bookmarks (settings : TransactionSettings) (legacy : Bool) :
    let listed := (SortedSet.ofList (Bookmark.tokens settings.bookmarks)).elements
    (settings.toMetadata legacy).find? "bookmarks" =
      if listed = [] then none else some (.list (listed.map .string)) := by
  intro listed
  have bound : ("bookmarks", settings.bookmarksEntry.map Prod.snd) ∈ settings.slots legacy := by
    simp [slots]
  -- The tokens are put in order once more, so that there are none is seen from their members.
  have nothing : listed = [] ↔ settings.bookmarks.isEmpty = true := by
    rw [List.eq_nil_iff_forall_not_mem, SortedSet.isEmpty, List.isEmpty_iff,
      ← List.map_eq_nil_iff (f := Bookmark.token), List.eq_nil_iff_forall_not_mem]
    exact forall_congr' fun token => not_congr SortedSet.mem_ofList
  rw [find?_toMetadata bound, bookmarksEntry]
  cases isEmpty : settings.bookmarks.isEmpty with
  | true =>
    rw [if_pos rfl, if_pos (nothing.mpr isEmpty)]
    rfl
  | false =>
    have lists : listed ≠ [] := fun blank => by
      rw [nothing, isEmpty] at blank
      cases blank
    rw [if_neg lists]
    rfl

namespace Origin

variable (origin : Origin) (steps : List BookmarkStep)

theorem mem_tokens (token : String) :
    token ∈ Bookmark.tokens
        (origin.builder.setAll (steps.map BookmarkStep.setting)).settings.bookmarks ↔
      token ∈ steps.flatMap BookmarkStep.kept := by
  have held (bookmark : Bookmark) :
      bookmark ∈ (origin.builder.setAll (steps.map BookmarkStep.setting)).settings.bookmarks ↔
        bookmark.token ∈ steps.flatMap BookmarkStep.kept := by
    rw [MetadataBuilder.settings_setAll, origin.holdsLast.bookmarks, BookmarkStep.mem_added]
  rw [Bookmark.tokens, List.mem_map]
  constructor
  · rintro ⟨bookmark, mem, rfl⟩
    exact (held bookmark).mp mem
  · intro mem
    exact ⟨⟨token⟩, (held ⟨token⟩).mpr mem, rfl⟩

theorem bookmarksTravel : BookmarksTravel origin steps := by
  let builder := origin.builder.setAll (steps.map BookmarkStep.setting)
  let listed := (SortedSet.ofList (Bookmark.tokens builder.settings.bookmarks)).elements
  have enumerates : Enumerates listed (steps.flatMap BookmarkStep.kept) :=
    SortedSet.enumerates _ fun token => SortedSet.mem_ofList.trans (origin.mem_tokens steps token)
  have found : builder.build.find? "bookmarks" =
      if listed = [] then none else some (.list (listed.map .string)) :=
    builder.settings.find?_bookmarks builder.legacyNames
  refine ⟨⟨listed, enumerates, found⟩, ?_⟩
  have absent : builder.build.contains "bookmarks" = false ↔ listed = [] := by
    have looked : builder.build.contains "bookmarks" =
        (builder.build.find? "bookmarks").isSome := rfl
    rw [looked, found]
    split <;> simp [*]
  rw [absent, List.eq_nil_iff_forall_not_mem, ← List.flatMap_eq_nil_iff,
    List.eq_nil_iff_forall_not_mem]
  exact forall_congr' fun token => not_congr (enumerates.members token)

end Origin

/-- Strings travel as the ascending list of those there are, whether they come as a sequence
or as a set; and so do the bookmarks that a builder is given, with the parsed ones that are
empty left out, and no entry for none. -/
theorem string_sets_are_canonical (strings : List String) (origin : Origin)
    (steps : List BookmarkStep) : TravelAsSet strings ∧ BookmarksTravel origin steps :=
  ⟨Value.travelAsSet strings, origin.bookmarksTravel steps⟩

/-- An empty token is kept if it is made as it stands, and dropped if it is parsed. -/
example :
    let travelled (steps : List BookmarkStep) :=
      (Origin.start.builder.setAll (steps.map BookmarkStep.setting)).build.find? "bookmarks"
    travelled [.parsed ["b", "", "a"], .made ["b"]] = some (.list [.string "a", .string "b"]) ∧
      travelled [.made ["", "a"]] = some (.list [.string "", .string "a"]) ∧
      travelled [.parsed [""]] = none :=
  ⟨rfl, rfl, rfl⟩

end PipelinedClient
