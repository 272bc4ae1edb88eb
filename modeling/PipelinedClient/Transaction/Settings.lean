import PipelinedClient.Bookmark
import PipelinedClient.Duration
import PipelinedClient.Log
import PipelinedClient.Notification
import PipelinedClient.Transaction.Metadata
import PipelinedClient.Transaction.Target

/-! Settings of a transaction and the sparse map in which they travel.

Each rule is independent of the others: a key is present exactly when its setting
differs from what the server assumes.
-/

set_option autoImplicit false

namespace PipelinedClient

structure TransactionSettings where
  timeout : Option Duration
  metadata : Option (SortedMap Value)
  database : DatabaseName
  mode : AccessMode
  bookmarks : SortedSet Bookmark
  impersonatedUser : Option String
  bookmarkManager : Option String
  notifications : Option NotificationConfig
  deriving DecidableEq

namespace TransactionSettings

def unset : TransactionSettings := ⟨none, none, .default, .write, .empty, none, none, none⟩

instance : Inhabited TransactionSettings := ⟨unset⟩

def loggerName : String := "TransactionMetadataBuilder"

def roundedNotice : String :=
  "The transaction timeout has been rounded up to next millisecond value since the config had a fractional millisecond value"

def clampedNotice : String :=
  "The transaction timeout exceeds i64::MAX milliseconds and has been clamped to i64::MAX"

/-- A line at the settings' own logger, which is asked for each time. -/
def notice (level : LogLevel) (text : String) : List LogLine :=
  [.lookup loggerName, .line level text]

def nanosPerMilli : Nat := 1000000

def timeoutMillis (timeout : Duration) : Nat :=
  let millis := timeout.totalNanos / nanosPerMilli
  if timeout.totalNanos % nanosPerMilli = 0 then millis else millis + 1

/-- The encoded timeout, clamped to the greatest signed word. -/
def timeoutWord (timeout : Duration) : Int64 :=
  if timeoutMillis timeout ≤ Int64.maxValue.toInt then Int64.ofInt (timeoutMillis timeout) else Int64.maxValue

def timeoutNotices (timeout : Duration) : List LogLine :=
  (if timeout.totalNanos % nanosPerMilli = 0 then [] else notice .info roundedNotice) ++
    (if timeoutMillis timeout ≤ Int64.maxValue.toInt then [] else notice .warn clampedNotice)

def timeoutEntry (settings : TransactionSettings) : Option (String × Value) :=
  settings.timeout.map fun timeout => ("tx_timeout", .integer (timeoutWord timeout))

def metadataEntry (settings : TransactionSettings) : Option (String × Value) :=
  (settings.metadata.filter fun metadata => !metadata.isEmpty).map fun metadata =>
    ("tx_metadata", Value.ofMap metadata)

def databaseEntry (settings : TransactionSettings) : Option (String × Value) :=
  settings.database.name?.map fun name => ("db", .string name)

def modeEntry (settings : TransactionSettings) : Option (String × Value) :=
  match settings.mode with
  | .read => some ("mode", .string "r")
  | .write => none

def bookmarksEntry (settings : TransactionSettings) : Option (String × Value) :=
  if settings.bookmarks.isEmpty then none
  else some ("bookmarks", Value.stringSet (Bookmark.tokens settings.bookmarks))

def userEntry (settings : TransactionSettings) : Option (String × Value) :=
  settings.impersonatedUser.map fun user => ("imp_user", .string user)

def managerEntry (settings : TransactionSettings) : Option (String × Value) :=
  settings.bookmarkManager.map fun manager => ("bookmark_manager", .string manager)

def severityEntry (settings : TransactionSettings) : Option (String × Value) :=
  (settings.notifications.bind NotificationConfig.minimumSeverity).map fun severity =>
    ("notifications_minimum_severity", .string severity.name)

def disabledKey (legacy : Bool) : String :=
  if legacy then "notifications_disabled_categories"
  else "notifications_disabled_classifications"

def disabledEntry (legacy : Bool) (settings : TransactionSettings) : Option (String × Value) :=
  ((settings.notifications.bind NotificationConfig.disabled).filter fun disabled =>
    !disabled.isEmpty).map fun disabled =>
      (disabledKey legacy, Value.stringSet (disabled.elements.map Classification.name))

def entries (legacy : Bool) (settings : TransactionSettings) : List (String × Value) :=
  [settings.timeoutEntry, settings.metadataEntry, settings.databaseEntry, settings.modeEntry,
    settings.bookmarksEntry, settings.userEntry, settings.managerEntry, settings.severityEntry,
    settings.disabledEntry legacy].filterMap id

def toMetadata (legacy : Bool) (settings : TransactionSettings) : TransactionMetadata :=
  TransactionMetadata.ofList (settings.entries legacy)

def notices (settings : TransactionSettings) : List LogLine :=
  match settings.timeout with
  | none => []
  | some timeout => timeoutNotices timeout

end TransactionSettings

end PipelinedClient
