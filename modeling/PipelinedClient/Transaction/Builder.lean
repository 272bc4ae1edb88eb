import PipelinedClient.Transaction.Settings

/-! Building transaction metadata setting by setting.

Each setting replaces the one made before, except that bookmarks accumulate. A
builder also holds which name the key of disabled classifications gets.
-/

set_option autoImplicit false

namespace PipelinedClient

structure TransactionConfig where
  timeout : Option Duration
  metadata : SortedMap Value
  impersonatedUser : Option String
  bookmarkManager : Option String
  notifications : Option NotificationConfig
  deriving DecidableEq

namespace TransactionConfig

def unset : TransactionConfig := ⟨none, .empty, none, none, none⟩

instance : Inhabited TransactionConfig := ⟨unset⟩

def withTimeout (config : TransactionConfig) (timeout : Duration) : TransactionConfig :=
  { config with timeout := some timeout }

def withMetadataEntry (config : TransactionConfig) (key : String) (value : Value) :
    TransactionConfig :=
  { config with metadata := config.metadata.insert key value }

def withMetadata (config : TransactionConfig) (metadata : SortedMap Value) : TransactionConfig :=
  { config with metadata := metadata }

def withImpersonatedUser (config : TransactionConfig) (user : String) : TransactionConfig :=
  { config with impersonatedUser := some user }

def withBookmarkManager (config : TransactionConfig) (manager : String) : TransactionConfig :=
  { config with bookmarkManager := some manager }

def withNotifications (config : TransactionConfig) (notifications : NotificationConfig) :
    TransactionConfig :=
  { config with notifications := some notifications }

end TransactionConfig

inductive Setting where
  | timeout (timeout : Duration)
  | metadata (metadata : SortedMap Value)
  | database (database : DatabaseName)
  | mode (mode : AccessMode)
  | bookmarks (added : List Bookmark)
  | impersonatedUser (user : String)
  | bookmarkManager (manager : String)
  | notifications (config : NotificationConfig)
  | legacyNames (legacy : Bool)
  deriving DecidableEq

structure MetadataBuilder where
  settings : TransactionSettings
  legacyNames : Bool
  deriving DecidableEq

namespace MetadataBuilder

/-- Nothing set, older key names. -/
def start : MetadataBuilder := ⟨.unset, true⟩

/-- Nothing set at all, hence current key names. -/
def blank : MetadataBuilder := ⟨.unset, false⟩

instance : Inhabited MetadataBuilder := ⟨blank⟩

def ofConfig (config : TransactionConfig) : MetadataBuilder :=
  { start with settings := { TransactionSettings.unset with
      timeout := config.timeout
      metadata := some config.metadata
      impersonatedUser := config.impersonatedUser
      bookmarkManager := config.bookmarkManager
      notifications := config.notifications } }

def set (builder : MetadataBuilder) (setting : Setting) : MetadataBuilder :=
  let settings := builder.settings
  match setting with
  | .timeout timeout => { builder with settings := { settings with timeout := some timeout } }
  | .metadata metadata => { builder with settings := { settings with metadata := some metadata } }
  | .database database => { builder with settings := { settings with database := database } }
  | .mode mode => { builder with settings := { settings with mode := mode } }
  | .bookmarks added =>
    { builder with settings := { settings with bookmarks := settings.bookmarks.insertAll added } }
  | .impersonatedUser user =>
    { builder with settings := { settings with impersonatedUser := some user } }
  | .bookmarkManager manager =>
    { builder with settings := { settings with bookmarkManager := some manager } }
  | .notifications config =>
    { builder with settings := { settings with notifications := some config } }
  | .legacyNames legacy => { builder with legacyNames := legacy }

def setAll (builder : MetadataBuilder) (settings : List Setting) : MetadataBuilder :=
  settings.foldl set builder

def build (builder : MetadataBuilder) : TransactionMetadata :=
  builder.settings.toMetadata builder.legacyNames

def notices (builder : MetadataBuilder) : List LogLine := builder.settings.notices

end MetadataBuilder

end PipelinedClient
