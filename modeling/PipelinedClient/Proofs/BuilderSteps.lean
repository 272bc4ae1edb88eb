import PipelinedClient.Connection.Operation
import PipelinedClient.Proofs.EffectiveSettings

/-! What a builder holds after any steps.

Every setting has the value of the last step about it, or else the one that the builder was
begun with; bookmarks are all that were ever added. So the order of steps about different
settings does not matter, and building in between changes nothing. A connection on which a
transaction is begun decides on key names, whatever the builder says about them.
-/

set_option autoImplicit false

namespace PipelinedClient

inductive Subject where
  | timeout
  | metadata
  | database
  | mode
  | bookmarks
  | impersonatedUser
  | bookmarkManager
  | notifications
  | legacyNames
  deriving DecidableEq

abbrev Subject.Content : Subject → Type
  | .timeout => Duration
  | .metadata => SortedMap Value
  | .database => DatabaseName
  | .mode => AccessMode
  | .bookmarks => List Bookmark
  | .impersonatedUser => String
  | .bookmarkManager => String
  | .notifications => NotificationConfig
  | .legacyNames => Bool

namespace Setting

def subject : Setting → Subject
  | .timeout _ => .timeout
  | .metadata _ => .metadata
  | .database _ => .database
  | .mode _ => .mode
  | .bookmarks _ => .bookmarks
  | .impersonatedUser _ => .impersonatedUser
  | .bookmarkManager _ => .bookmarkManager
  | .notifications _ => .notifications
  | .legacyNames _ => .legacyNames

def about : (subject : Subject) → Setting → Option subject.Content
  | .timeout, .timeout value => some value
  | .metadata, .metadata value => some value
  | .database, .database value => some value
  | .mode, .mode value => some value
  | .bookmarks, .bookmarks value => some value
  | .impersonatedUser, .impersonatedUser value => some value
  | .bookmarkManager, .bookmarkManager value => some value
  | .notifications, .notifications value => some value
  | .legacyNames, .legacyNames value => some value
  | _, _ => none

def latest (subject : Subject) (steps : List Setting) : Option subject.Content :=
  (steps.filterMap (about subject)).getLast?

def added (steps : List Setting) : List Bookmark := (steps.filterMap (about .bookmarks)).flatten

theorem latest_append (subject : Subject) (first rest : List Setting) :
    latest subject (first ++ rest) = (latest subject rest).or (latest subject first) := by
  rw [latest, List.filterMap_append, List.getLast?_append]
  rfl

theorem added_append (first rest : List Setting) :
    added (first ++ rest) = added first ++ added rest := by
  rw [added, List.filterMap_append, List.flatten_append]
  rfl

end Setting

theorem SortedSet.insertAll_append {α : Type} [LT α] [DecidableLT α] [DecidableEq α]
    [Trans (α := α) (· < ·) (· < ·) (· < ·)] [Std.Trichotomous (α := α) (· < ·)]
    (set : SortedSet α) (first rest : List α) :
    set.insertAll (first ++ rest) = (set.insertAll first).insertAll rest := List.foldl_append

namespace TransactionSettings

/-- The settings that steps leave: what the last step about each holds, or what was there. -/
def after (base : TransactionSettings) (steps : List Setting) : TransactionSettings where
  timeout := (Setting.latest .timeout steps).or base.timeout
  metadata := (Setting.latest .metadata steps).or base.metadata
  database := (Setting.latest .database steps).getD base.database
  mode := (Setting.latest .mode steps).getD base.mode
  bookmarks := base.bookmarks.insertAll (Setting.added steps)
  impersonatedUser := (Setting.latest .impersonatedUser steps).or base.impersonatedUser
  bookmarkManager := (Setting.latest .bookmarkManager steps).or base.bookmarkManager
  notifications := (Setting.latest .notifications steps).or base.notifications

theorem after_append (base : TransactionSettings) (first rest : List Setting) :
    base.after (first ++ rest) = (base.after first).after rest := by
  simp only [after, Setting.latest_append, Setting.added_append, SortedSet.insertAll_append,
    Option.or_assoc, Option.getD_or]

end TransactionSettings

namespace MetadataBuilder

theorem settings_set (builder : MetadataBuilder) (step : Setting) :
    (builder.set step).settings = builder.settings.after [step] := by
  cases step with
  | bookmarks added =>
    -- The only step that adds to what is there.
    have all : Setting.added [.bookmarks added] = added := List.append_nil added
    rw [TransactionSettings.after, all]
    rfl
  | _ => rfl

theorem legacyNames_set (builder : MetadataBuilder) (step : Setting) :
    (builder.set step).legacyNames =
      (Setting.latest .legacyNames [step]).getD builder.legacyNames := by
  cases step <;> rfl

/-- After any steps every setting has the value of the last step about it. -/
theorem settings_setAll (builder : MetadataBuilder) (steps : List Setting) :
    (builder.setAll steps).settings = builder.settings.after steps := by
  induction steps generalizing builder with
  | nil => rfl
  | cons step rest ih =>
    have next : builder.setAll (step :: rest) = (builder.set step).setAll rest := rfl
    rw [next, ih, settings_set, ← TransactionSettings.after_append]
    rfl

theorem legacyNames_setAll (builder : MetadataBuilder) (steps : List Setting) :
    (builder.setAll steps).legacyNames =
      (Setting.latest .legacyNames steps).getD builder.legacyNames := by
  induction steps generalizing builder with
  | nil => rfl
  | cons step rest ih =>
    have next : builder.setAll (step :: rest) = (builder.set step).setAll rest := rfl
    have split : step :: rest = [step] ++ rest := rfl
    rw [next, ih, legacyNames_set, split, Setting.latest_append, Option.getD_or]

theorem set_comm (builder : MetadataBuilder) {first second : Setting}
    (different : first.subject ≠ second.subject) :
    (builder.set first).set second = (builder.set second).set first := by
  -- Each step writes the field of its subject and no other.
  cases first <;> cases second <;> first | rfl | exact absurd rfl different

theorem setAll_append (builder : MetadataBuilder) (first rest : List Setting) :
    builder.setAll (first ++ rest) = (builder.setAll first).setAll rest := List.foldl_append

def outcome (builder : MetadataBuilder) : TransactionMetadata × List LogLine :=
  (builder.build, builder.notices)

theorem outcome_setAll (builder : MetadataBuilder) (steps : List Setting) :
    (builder.setAll steps).outcome =
      ((builder.settings.after steps).toMetadata
        ((Setting.latest .legacyNames steps).getD builder.legacyNames),
        (builder.settings.after steps).notices) := by
  rw [outcome, build, notices, settings_setAll, legacyNames_setAll]

end MetadataBuilder

inductive BuilderUse where
  | set (setting : Setting)
  | build
  deriving DecidableEq

def BuilderUse.setting? : BuilderUse → Option Setting
  | .set setting => some setting
  | .build => none

namespace MetadataBuilder

def outcomes (builder : MetadataBuilder) :
    List BuilderUse → List (TransactionMetadata × List LogLine)
  | [] => []
  | .set setting :: rest => (builder.set setting).outcomes rest
  | .build :: rest => builder.outcome :: builder.outcomes rest

/-- Building leaves nothing behind that later uses could see. -/
theorem outcomes_append (builder : MetadataBuilder) (first rest : List BuilderUse) :
    builder.outcomes (first ++ rest) = builder.outcomes first ++
      (builder.setAll (first.filterMap BuilderUse.setting?)).outcomes rest := by
  induction first generalizing builder with
  | nil => rfl
  | cons use uses ih =>
    cases use with
    | set setting => exact ih (builder.set setting)
    | build => exact congrArg (List.cons builder.outcome) (ih builder)

end MetadataBuilder

/-- Two sequences of steps leave the same settings, key names apart. -/
structure SameChoices (first second : List Setting) : Prop where
  latest : ∀ subject, subject ≠ .bookmarks → subject ≠ .legacyNames →
    Setting.latest subject first = Setting.latest subject second
  bookmarks : ∀ bookmark, bookmark ∈ Setting.added first ↔ bookmark ∈ Setting.added second

theorem SameChoices.after {first second : List Setting} (same : SameChoices first second)
    (base : TransactionSettings) : base.after first = base.after second := by
  have bookmarks : base.bookmarks.insertAll (Setting.added first) =
      base.bookmarks.insertAll (Setting.added second) :=
    SortedSet.eq_of_mem_iff fun bookmark => by
      rw [SortedSet.mem_insertAll, SortedSet.mem_insertAll, same.bookmarks]
  have single := fun subject => same.latest subject
  simp only [TransactionSettings.after, bookmarks, single .timeout, single .metadata,
    single .database, single .mode, single .impersonatedUser, single .bookmarkManager,
    single .notifications, ne_eq, reduceCtorEq, not_false_eq_true]

inductive Origin where
  | start
  | blank
  | configured (config : TransactionConfig)

namespace Origin

def builder : Origin → MetadataBuilder
  | .start => .start
  | .blank => .blank
  | .configured config => .ofConfig config

def config : Origin → TransactionConfig
  | .start => .unset
  | .blank => .unset
  | .configured config => config

theorem bookmarks_builder (origin : Origin) : origin.builder.settings.bookmarks = .empty := by
  cases origin <;> rfl

theorem effective_after (origin : Origin) (steps : List Setting) :
    (origin.builder.settings.after steps).effective =
      ((MetadataBuilder.ofConfig origin.config).settings.after steps).effective := by
  -- Without a configuration no metadata are set, with one that is unset empty metadata are.
  have blank : (((Setting.latest .metadata steps).or none).getD SortedMap.empty : SortedMap Value) =
      ((Setting.latest .metadata steps).or (some SortedMap.empty)).getD SortedMap.empty := by
    cases Setting.latest .metadata steps <;> rfl
  cases origin with
  | configured config => rfl
  | start | blank =>
    unfold TransactionSettings.effective
    congr 1

theorem timeout_after (origin : Origin) (steps : List Setting) :
    (origin.builder.settings.after steps).timeout =
      ((MetadataBuilder.ofConfig origin.config).settings.after steps).timeout := by
  cases origin <;> rfl

end Origin

namespace Connection

variable {σ κ : Type} [Transport σ]

theorem perform_begin (connection : Connection σ κ) (origin : Origin) (steps : List Setting)
    (sink : Sink κ) :
    let settings := (MetadataBuilder.ofConfig origin.config).settings.after steps
    connection.perform (.begin (origin.builder.setAll steps) sink) =
      { connection.queue (.begin (settings.toMetadata connection.legacyNames)) sink with
        trace := Trace.ofLines settings.notices ++
          [.queued (.begin (settings.toMetadata connection.legacyNames)) sink] } := by
  intro settings
  have held : (origin.builder.setAll steps).settings = origin.builder.settings.after steps :=
    origin.builder.settings_setAll steps
  have metadata : connection.transactionMetadata (origin.builder.setAll steps) =
      settings.toMetadata connection.legacyNames := by
    have named : connection.transactionMetadata (origin.builder.setAll steps) =
        (origin.builder.setAll steps).settings.toMetadata connection.legacyNames := rfl
    rw [named, held, TransactionSettings.toMetadata_eq_iff]
    exact origin.effective_after steps
  have notices : (origin.builder.setAll steps).notices = settings.notices := by
    rw [MetadataBuilder.notices, held, TransactionSettings.notices, origin.timeout_after]
    rfl
  rw [perform, metadata, notices]
  rfl

end Connection

structure Origin.HoldsLast (origin : Origin) : Prop where
  /-- Every build comes to what the last steps hold, and later builds do not depend on it. -/
  builds : ∀ first rest : List BuilderUse,
    let steps := first.filterMap BuilderUse.setting?
    let settings := origin.builder.settings.after steps
    let legacy := (Setting.latest .legacyNames steps).getD origin.builder.legacyNames
    origin.builder.outcomes (first ++ .build :: rest) = origin.builder.outcomes first ++
      (settings.toMetadata legacy, settings.notices) ::
        (origin.builder.setAll steps).outcomes rest
  bookmarks : ∀ steps bookmark,
    bookmark ∈ (origin.builder.settings.after steps).bookmarks ↔ bookmark ∈ Setting.added steps
  determined : ∀ first second, SameChoices first second →
    Setting.latest .legacyNames first = Setting.latest .legacyNames second →
    (origin.builder.setAll first).outcome = (origin.builder.setAll second).outcome
  commutes : ∀ first one other rest, one.subject ≠ other.subject →
    origin.builder.setAll (first ++ one :: other :: rest) =
      origin.builder.setAll (first ++ other :: one :: rest)

theorem Origin.holdsLast (origin : Origin) : origin.HoldsLast := by
  refine ⟨?_, ?_, ?_, ?_⟩
  · intro first rest steps settings legacy
    have built : (settings.toMetadata legacy, settings.notices) =
        (origin.builder.setAll steps).outcome := (origin.builder.outcome_setAll steps).symm
    rw [origin.builder.outcomes_append, built]
    rfl
  · intro steps bookmark
    have none : bookmark ∉ (SortedSet.empty : SortedSet Bookmark) := List.not_mem_nil
    rw [TransactionSettings.after, origin.bookmarks_builder, SortedSet.mem_insertAll]
    exact or_iff_right none
  · intro first second same names
    rw [origin.builder.outcome_setAll, origin.builder.outcome_setAll, same.after, names]
  · intro first one other rest different
    have swapped := (origin.builder.setAll first).set_comm different
    rw [origin.builder.setAll_append, origin.builder.setAll_append]
    exact congrArg (MetadataBuilder.setAll · rest) swapped

structure Connection.BeginsWith {σ κ : Type} [Transport σ] (connection : Connection σ κ)
    (origin : Origin) : Prop where
  queued : ∀ steps sink,
    let settings := (MetadataBuilder.ofConfig origin.config).settings.after steps
    let message := Message.begin (settings.toMetadata connection.legacyNames)
    let begun := connection.perform (.begin (origin.builder.setAll steps) sink)
    begun.connection.pending = connection.pending ++ [message] ∧
      begun.trace = Trace.ofLines settings.notices ++ [.queued message sink]
  /-- Two connections that agree on key names do alike with builders that differ in what they
  say about them, and in how they are begun, the configuration apart. -/
  alike : ∀ (another : Connection σ κ) (other : Origin) first second sink,
    connection.legacyNames = another.legacyNames → origin.config = other.config →
    SameChoices first second →
    (connection.perform (.begin (origin.builder.setAll first) sink)).trace =
      (another.perform (.begin (other.builder.setAll second) sink)).trace

/-- However a builder is begun and whatever steps are taken, every build comes to what the
last step about each setting holds, with all bookmarks added, and changes nothing for later
builds; the order of steps about different settings does not matter. A transaction that is
begun with the builder has these settings under the key names of the connection. -/
theorem builders_hold_last_choices {σ κ : Type} [Transport σ] (origin : Origin)
    (connection : Connection σ κ) : origin.HoldsLast ∧ connection.BeginsWith origin := by
  refine ⟨origin.holdsLast, ?_, ?_⟩
  · intro steps sink settings message begun
    have performed : begun = _ := connection.perform_begin origin steps sink
    rw [performed]
    exact ⟨rfl, rfl⟩
  · intro another other first second sink names config same
    rw [connection.perform_begin, another.perform_begin, names, config, same.after]

end PipelinedClient
