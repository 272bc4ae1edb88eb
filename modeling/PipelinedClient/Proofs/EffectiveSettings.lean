import Mathlib.Data.Set.List
import PipelinedClient.Proofs.Membership
import PipelinedClient.Transaction.Settings

/-! What metadata tell about settings.

Settings that come to the same for a server travel as the same map, and no others do: the
map can be read back up to the timeout's fraction of a millisecond and what is set but
empty.
-/

set_option autoImplicit false

namespace PipelinedClient

/-- What is left of settings once those that come to the same are identified. -/
structure EffectiveSettings where
  /-- In milliseconds, rounded up, and no more than a signed word holds. -/
  timeout : Option Nat
  metadata : SortedMap Value
  database : DatabaseName
  mode : AccessMode
  bookmarks : SortedSet Bookmark
  impersonatedUser : Option String
  bookmarkManager : Option String
  minimumSeverity : Option Severity
  disabled : SortedSet Classification
  deriving DecidableEq

def Duration.effectiveMillis (timeout : Duration) : Nat :=
  min ((timeout.totalNanos + 999999) / 1000000) Int64.maxValue.toInt.toNat

/-! Names are found again. -/

theorem Severity.ofName_name (severity : Severity) : ofName severity.name = .ok severity := by
  cases severity <;> decide

theorem Severity.name_injective : Function.Injective Severity.name := fun one other same =>
  Except.ok.inj ((ofName_name one).symm.trans (same ▸ ofName_name other))

theorem Classification.ofName_name (classification : Classification) :
    ofName classification.name = .ok classification := by
  cases classification <;> decide

theorem Classification.name_injective : Function.Injective Classification.name :=
  fun one other same =>
    Except.ok.inj ((ofName_name one).symm.trans (same ▸ ofName_name other))

/-! A set of strings is known by the value it travels as. -/

theorem Value.ofStrings_injective : Function.Injective ofStrings := fun _ _ same =>
  SortedSet.ext (List.map_injective_iff.mpr (fun _ _ => Value.string.inj) (Value.list.inj same))

theorem Value.stringSet_eq_iff (first second : List String) :
    stringSet first = stringSet second ↔ ∀ string, string ∈ first ↔ string ∈ second :=
  ofStrings_injective.eq_iff.trans (SortedSet.ofList_eq_iff first second)

namespace TransactionSettings

def effective (settings : TransactionSettings) : EffectiveSettings where
  timeout := settings.timeout.map Duration.effectiveMillis
  metadata := settings.metadata.getD .empty
  database := settings.database
  mode := settings.mode
  bookmarks := settings.bookmarks
  impersonatedUser := settings.impersonatedUser
  bookmarkManager := settings.bookmarkManager
  minimumSeverity := settings.notifications.bind NotificationConfig.minimumSeverity
  disabled := (settings.notifications.bind NotificationConfig.disabled).getD .empty

def slots (legacy : Bool) (settings : TransactionSettings) : Slots Value :=
  [("tx_timeout", settings.timeoutEntry.map Prod.snd),
    ("tx_metadata", settings.metadataEntry.map Prod.snd),
    ("db", settings.databaseEntry.map Prod.snd),
    ("mode", settings.modeEntry.map Prod.snd),
    ("bookmarks", settings.bookmarksEntry.map Prod.snd),
    ("imp_user", settings.userEntry.map Prod.snd),
    ("bookmark_manager", settings.managerEntry.map Prod.snd),
    ("notifications_minimum_severity", settings.severityEntry.map Prod.snd),
    (disabledKey legacy, (settings.disabledEntry legacy).map Prod.snd)]

def keys (legacy : Bool) : List String :=
  ["tx_timeout", "tx_metadata", "db", "mode", "bookmarks", "imp_user", "bookmark_manager",
    "notifications_minimum_severity", disabledKey legacy]

theorem nodup_keys (legacy : Bool) : (keys legacy).Nodup := by
  cases legacy <;> decide

theorem present_slots (legacy : Bool) (settings : TransactionSettings) :
    (settings.slots legacy).present = settings.entries legacy := by
  have bindings :
      (settings.slots legacy).map (fun slot => slot.2.map fun value => (slot.1, value)) =
      [settings.timeoutEntry, settings.metadataEntry, settings.databaseEntry, settings.modeEntry,
        settings.bookmarksEntry, settings.userEntry, settings.managerEntry, settings.severityEntry,
        settings.disabledEntry legacy] := by
    -- Mode and bookmarks are bound by cases, all other settings by mapping what is set.
    cases mode : settings.mode <;> cases none : settings.bookmarks.isEmpty <;>
      simp [slots, timeoutEntry, metadataEntry, databaseEntry, modeEntry, bookmarksEntry, userEntry,
        managerEntry, severityEntry, disabledEntry, mode, none, Function.comp_def]
  rw [entries, ← bindings, List.filterMap_map]
  rfl

/-! Each binding tells one setting. -/

theorem timeoutMillis_eq (timeout : Duration) :
    timeoutMillis timeout = (timeout.totalNanos + 999999) / 1000000 := by
  -- Division is linear only by a numeral, so the unit is written out last.
  have unit : nanosPerMilli = 1000000 := rfl
  unfold timeoutMillis
  by_cases whole : timeout.totalNanos % nanosPerMilli = 0
  · simp only [whole, ↓reduceIte]
    rw [unit] at whole ⊢
    omega
  · simp only [whole, ↓reduceIte]
    rw [unit] at whole ⊢
    omega

theorem toInt_timeoutWord (timeout : Duration) :
    (timeoutWord timeout).toInt = timeout.effectiveMillis := by
  have greatest : Int64.maxValue.toInt = 9223372036854775807 := by decide
  unfold timeoutWord Duration.effectiveMillis
  rw [timeoutMillis_eq]
  split
  · rename_i fits
    rw [Int64.toInt_ofInt_of_le] <;> omega
  · omega

theorem bound_eq_iff {α : Type} {encode : α → Value} (injective : Function.Injective encode)
    (key : String) (one other : Option α) :
    (one.map fun value => (key, encode value)).map Prod.snd =
        (other.map fun value => (key, encode value)).map Prod.snd ↔ one = other := by
  rw [Option.map_map, Option.map_map]
  exact (Option.map_injective injective).eq_iff

variable (first second : TransactionSettings)

theorem timeout_eq_iff :
    first.timeoutEntry.map Prod.snd = second.timeoutEntry.map Prod.snd ↔
      first.effective.timeout = second.effective.timeout := by
  have word (one other : Duration) :
      timeoutWord one = timeoutWord other ↔ one.effectiveMillis = other.effectiveMillis := by
    rw [← Int64.toInt_inj, toInt_timeoutWord, toInt_timeoutWord, Int.ofNat_inj]
  unfold timeoutEntry effective
  cases first.timeout <;> cases second.timeout <;> simp [word]

/-- To leave out what is empty is to take what is absent for empty. -/
theorem filter_eq_iff {α : Type} {isEmpty : α → Bool} {empty : α}
    (only : ∀ value, isEmpty value = true ↔ value = empty) (one other : Option α) :
    (one.filter fun value => !isEmpty value) = (other.filter fun value => !isEmpty value) ↔
      one.getD empty = other.getD empty := by
  have kept (value : Option α) : (value.filter fun value => !isEmpty value) =
      if isEmpty (value.getD empty) then none else some (value.getD empty) := by
    cases value with
    | none => simp [(only empty).mpr rfl]
    | some value => cases blank : isEmpty value <;> simp [Option.filter, blank]
  rw [kept, kept]
  constructor
  · intro same
    split at same <;> split at same
    · rename_i blank blank'
      rw [(only _).mp blank, (only _).mp blank']
    · cases same
    · cases same
    · exact Option.some.inj same
  · intro same
    rw [same]

theorem isEmpty_map_iff (map : SortedMap Value) : map.isEmpty = true ↔ map = .empty := by
  constructor
  · intro blank
    exact SortedMap.ext (List.isEmpty_iff.mp blank)
  · rintro rfl
    rfl

theorem isEmpty_set_iff {α : Type} [LT α] (set : SortedSet α) :
    set.isEmpty = true ↔ set = .empty := by
  constructor
  · intro blank
    exact SortedSet.ext (List.isEmpty_iff.mp blank)
  · rintro rfl
    rfl

theorem metadata_eq_iff :
    first.metadataEntry.map Prod.snd = second.metadataEntry.map Prod.snd ↔
      first.effective.metadata = second.effective.metadata := by
  have injective : Function.Injective Value.ofMap := fun one other same =>
    SortedMap.ext (Value.map.inj same)
  exact (bound_eq_iff injective "tx_metadata" _ _).trans
    (filter_eq_iff isEmpty_map_iff first.metadata second.metadata)

theorem database_eq_iff :
    first.databaseEntry.map Prod.snd = second.databaseEntry.map Prod.snd ↔
      first.effective.database = second.effective.database := by
  have injective : Function.Injective DatabaseName.name? := fun one other same => by
    cases one <;> cases other <;> simp_all [DatabaseName.name?]
  exact (bound_eq_iff (fun _ _ => Value.string.inj) "db" _ _).trans injective.eq_iff

theorem mode_eq_iff :
    first.modeEntry.map Prod.snd = second.modeEntry.map Prod.snd ↔
      first.effective.mode = second.effective.mode := by
  unfold modeEntry effective
  cases first.mode <;> cases second.mode <;> simp

theorem stringSet_map_eq_iff {α : Type} [LT α] [Trans (α := α) (· < ·) (· < ·) (· < ·)]
    [Std.Irrefl (α := α) (· < ·)] {text : α → String} (injective : Function.Injective text)
    (one other : SortedSet α) :
    Value.stringSet (one.elements.map text) = Value.stringSet (other.elements.map text) ↔
      one = other := by
  constructor
  · intro same
    refine SortedSet.eq_of_mem_iff fun element => ?_
    have member := (Value.stringSet_eq_iff _ _).mp same (text element)
    rwa [List.mem_map_of_injective injective, List.mem_map_of_injective injective] at member
  · intro same
    rw [same]

theorem token_injective : Function.Injective Bookmark.token := fun one other same => by
  cases one
  cases other
  cases same
  rfl

theorem bookmarks_eq_iff :
    first.bookmarksEntry.map Prod.snd = second.bookmarksEntry.map Prod.snd ↔
      first.effective.bookmarks = second.effective.bookmarks := by
  have entry (settings : TransactionSettings) : settings.bookmarksEntry =
      ((some settings.bookmarks).filter fun bookmarks => !bookmarks.isEmpty).map
        fun bookmarks => ("bookmarks", Value.stringSet (Bookmark.tokens bookmarks)) := by
    unfold bookmarksEntry
    cases none : settings.bookmarks.isEmpty <;> simp [Option.filter, none]
  have injective : Function.Injective fun bookmarks : SortedSet Bookmark =>
      Value.stringSet (Bookmark.tokens bookmarks) := fun one other =>
    (stringSet_map_eq_iff token_injective one other).mp
  rw [entry, entry]
  exact (bound_eq_iff injective "bookmarks" _ _).trans
    (filter_eq_iff isEmpty_set_iff (some first.bookmarks) (some second.bookmarks))

theorem user_eq_iff :
    first.userEntry.map Prod.snd = second.userEntry.map Prod.snd ↔
      first.effective.impersonatedUser = second.effective.impersonatedUser :=
  bound_eq_iff (fun _ _ => Value.string.inj) "imp_user" _ _

theorem manager_eq_iff :
    first.managerEntry.map Prod.snd = second.managerEntry.map Prod.snd ↔
      first.effective.bookmarkManager = second.effective.bookmarkManager :=
  bound_eq_iff (fun _ _ => Value.string.inj) "bookmark_manager" _ _

theorem severity_eq_iff :
    first.severityEntry.map Prod.snd = second.severityEntry.map Prod.snd ↔
      first.effective.minimumSeverity = second.effective.minimumSeverity := by
  have injective : Function.Injective fun severity : Severity => Value.string severity.name :=
    fun _ _ same => Severity.name_injective (Value.string.inj same)
  exact bound_eq_iff injective "notifications_minimum_severity" _ _

theorem disabled_eq_iff (legacy : Bool) :
    (first.disabledEntry legacy).map Prod.snd = (second.disabledEntry legacy).map Prod.snd ↔
      first.effective.disabled = second.effective.disabled := by
  have injective : Function.Injective fun disabled : SortedSet Classification =>
      Value.stringSet (disabled.elements.map Classification.name) := fun one other =>
    (stringSet_map_eq_iff Classification.name_injective one other).mp
  exact (bound_eq_iff injective (disabledKey legacy) _ _).trans
    (filter_eq_iff isEmpty_set_iff _ _)

theorem slots_eq_iff (legacy : Bool) :
    first.slots legacy = second.slots legacy ↔ first.effective = second.effective := by
  simp only [slots, List.cons.injEq, Prod.mk.injEq, true_and, and_true, timeout_eq_iff,
    metadata_eq_iff, database_eq_iff, mode_eq_iff, bookmarks_eq_iff, user_eq_iff, manager_eq_iff,
    severity_eq_iff, disabled_eq_iff]
  rw [EffectiveSettings.mk.injEq]

theorem toMetadata_eq_iff (legacy : Bool) :
    first.toMetadata legacy = second.toMetadata legacy ↔ first.effective = second.effective := by
  rw [← slots_eq_iff first second legacy]
  constructor
  · intro same
    refine Slots.ofList_present_inj (nodup_keys legacy) rfl ?_
    rw [present_slots, present_slots]
    exact congrArg TransactionMetadata.map same
  · intro same
    rw [toMetadata, toMetadata, ← present_slots, ← present_slots, same]

variable {first}

theorem find?_toMetadata {legacy : Bool} {key : String} {value : Option Value}
    (bound : (key, value) ∈ first.slots legacy) :
    (first.toMetadata legacy).find? key = value := by
  have distinct : ((first.slots legacy).map Prod.fst).Nodup := nodup_keys legacy
  have found := Slots.find?_present distinct bound
  rwa [present_slots] at found

end TransactionSettings

/-! Reading the names in a map back. -/

namespace TransactionMetadata

def severity? (metadata : TransactionMetadata) : Option (Except UnknownName Severity) :=
  ((metadata.find? "notifications_minimum_severity").bind Value.asString?).map Severity.ofName

/-- The classifications that are named, if they come as a list of strings; an absent list is
empty. -/
def disabled? (legacy : Bool) (metadata : TransactionMetadata) :
    Option (Except UnknownName (SortedSet Classification)) :=
  match metadata.find? (TransactionSettings.disabledKey legacy) with
  | none => some (.ok .empty)
  | some value => do
    let names ← (← value.asList?).mapM Value.asString?
    return (names.mapM Classification.ofName).map SortedSet.ofList

def rename (metadata : TransactionMetadata) (old new : String) : TransactionMetadata :=
  ofList (metadata.map.entries.map fun entry => (if entry.1 = old then new else entry.1, entry.2))

end TransactionMetadata

namespace TransactionSettings

variable (settings : TransactionSettings)

theorem severity?_toMetadata (legacy : Bool) :
    (settings.toMetadata legacy).severity? = settings.effective.minimumSeverity.map .ok := by
  have bound : ("notifications_minimum_severity", settings.severityEntry.map Prod.snd) ∈
      settings.slots legacy := by simp [slots]
  rw [TransactionMetadata.severity?, find?_toMetadata bound, severityEntry]
  unfold effective
  cases settings.notifications.bind NotificationConfig.minimumSeverity with
  | none => rfl
  | some severity => exact congrArg some severity.ofName_name

/-- The names of a set of classifications, whatever their order, name that set. -/
theorem ofList_ofNames (disabled : SortedSet Classification) (names : List String)
    (same : ∀ name, name ∈ names ↔ name ∈ disabled.elements.map Classification.name) :
    (names.mapM Classification.ofName).map SortedSet.ofList = .ok disabled := by
  obtain ⟨named, rfl⟩ :
      ∃ named : List Classification, named.map Classification.name = names := by
    have range := Set.range_list_map Classification.name
    have each : ∀ name ∈ names, name ∈ Set.range Classification.name := by
      intro name member
      obtain ⟨classification, -, rfl⟩ := List.mem_map.mp ((same name).mp member)
      exact ⟨classification, rfl⟩
    exact range.ge each
  have read : (named.map Classification.name).mapM Classification.ofName = .ok named := by
    clear same
    induction named with
    | nil => rfl
    | cons classification rest ih =>
      rw [List.map_cons, List.mapM_cons, ih, Classification.ofName_name]
      rfl
  rw [read]
  -- Names travel in the order of their text, classifications are kept in that of their ranks.
  refine congrArg Except.ok (SortedSet.eq_of_mem_iff fun classification => ?_)
  have member := same classification.name
  rw [List.mem_map_of_injective Classification.name_injective,
    List.mem_map_of_injective Classification.name_injective] at member
  rw [SortedSet.mem_ofList]
  exact member

theorem mapM_asString? (strings : List String) :
    (strings.map Value.string).mapM Value.asString? = some strings := by
  induction strings with
  | nil => rfl
  | cons string rest ih =>
    rw [List.map_cons, List.mapM_cons, ih]
    rfl

theorem disabled?_toMetadata (legacy : Bool) :
    (settings.toMetadata legacy).disabled? legacy = some (.ok settings.effective.disabled) := by
  have bound : (disabledKey legacy, (settings.disabledEntry legacy).map Prod.snd) ∈
      settings.slots legacy := by simp [slots]
  rw [TransactionMetadata.disabled?, find?_toMetadata bound, disabledEntry]
  unfold effective
  cases settings.notifications.bind NotificationConfig.disabled with
  | none => rfl
  | some disabled =>
    by_cases blank : disabled = .empty
    · subst blank
      rfl
    · have kept : (some disabled).filter (fun disabled => !disabled.isEmpty) = some disabled := by
        have present := mt (isEmpty_set_iff disabled).mp blank
        simp [Option.filter, present]
      rw [kept]
      simp only [Option.map_some, Value.stringSet, Value.ofStrings, Value.asList?, bind,
        Option.bind_some, mapM_asString?, Option.getD_some]
      refine congrArg some (ofList_ofNames disabled _ fun name => ?_)
      exact SortedSet.mem_ofList

def olderKey (key : String) : String :=
  if key = disabledKey false then disabledKey true else key

theorem entries_older :
    (settings.entries false).map (fun entry => (olderKey entry.1, entry.2)) =
      settings.entries true := by
  have slots : (settings.slots false).map (fun slot => (olderKey slot.1, slot.2)) =
      settings.slots true := by
    have bound : (settings.disabledEntry false).map Prod.snd =
        (settings.disabledEntry true).map Prod.snd := by
      simp only [disabledEntry, Option.map_map, Function.comp_def]
    have named : (keys false).map olderKey = keys true := by decide
    simp only [keys, List.map_cons, List.cons.injEq] at named
    simp only [TransactionSettings.slots, List.map_cons, List.map_nil, named, bound]
  rw [← present_slots, ← present_slots, ← slots, Slots.present, Slots.present,
    List.map_filterMap, List.filterMap_map]
  simp only [Option.map_map, Function.comp_def]

theorem toMetadata_renamed :
    settings.toMetadata true = (settings.toMetadata false).rename
      "notifications_disabled_classifications" "notifications_disabled_categories" := by
  have distinct (legacy : Bool) : ((settings.entries legacy).map Prod.fst).Nodup := by
    rw [← present_slots]
    exact (nodup_keys legacy).sublist (Slots.keys_present_sublist _)
  -- The renamed key may sort elsewhere, so both maps are compared by what they bind.
  have kept := (Entries.ofList_perm (distinct false)).map
    fun entry => (olderKey entry.1, entry.2)
  rw [entries_older] at kept
  have distinct' := (kept.map Prod.fst).nodup_iff.mpr (distinct true)
  have same := (SortedMap.ofList_eq_iff_perm (distinct true) distinct').mpr kept.symm
  exact congrArg TransactionMetadata.mk same

end TransactionSettings

/-- Settings make the same map exactly if they come to the same; severity and disabled
classifications are found again by their names, and older key names change one key only. -/
theorem metadata_determines_settings (legacy : Bool) (first second : TransactionSettings) :
    (first.toMetadata legacy = second.toMetadata legacy ↔ first.effective = second.effective) ∧
      (first.toMetadata legacy).severity? = first.effective.minimumSeverity.map .ok ∧
      (first.toMetadata legacy).disabled? legacy = some (.ok first.effective.disabled) ∧
      first.toMetadata true = (first.toMetadata false).rename
        "notifications_disabled_classifications" "notifications_disabled_categories" :=
  ⟨TransactionSettings.toMetadata_eq_iff first second legacy,
    TransactionSettings.severity?_toMetadata first legacy,
    TransactionSettings.disabled?_toMetadata first legacy,
    TransactionSettings.toMetadata_renamed first⟩

/-- A nanosecond counts as a millisecond, and empty metadata as none. -/
example : { TransactionSettings.unset with
      timeout := some ⟨0, 1, by decide⟩, metadata := some .empty }.effective =
    { TransactionSettings.unset with timeout := some ⟨0, 1000000, by decide⟩ }.effective := by
  decide

end PipelinedClient
