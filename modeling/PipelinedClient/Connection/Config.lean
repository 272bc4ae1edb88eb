import PipelinedClient.Duration

/-! Configuration of a connection to a server. -/

set_option autoImplicit false

namespace PipelinedClient

structure ProposedVersions where
  first : UInt32
  second : UInt32
  third : UInt32
  fourth : UInt32
  deriving DecidableEq

namespace ProposedVersions

def toList (versions : ProposedVersions) : List UInt32 :=
  [versions.first, versions.second, versions.third, versions.fourth]

/-- Version one alone; zero fills the places that are not used. -/
def standard : ProposedVersions := ⟨1, 0, 0, 0⟩

end ProposedVersions

structure ConnectionConfig where
  host : String
  port : UInt16
  userAgent : String
  connectTimeout : Duration
  /-- Limit for reading and writing; without one both wait for ever. -/
  networkTimeout : Option Duration
  versions : ProposedVersions
  legacyNames : Bool
  deriving DecidableEq

namespace ConnectionConfig

def standardPort : UInt16 := 7687

def packageVersion : String := "0.1.0"

def standard : ConnectionConfig where
  host := "localhost"
  port := standardPort
  userAgent := "boltwire/" ++ packageVersion
  connectTimeout := .ofSeconds 30
  networkTimeout := none
  versions := .standard
  legacyNames := true

instance : Inhabited ConnectionConfig := ⟨standard⟩

def address (config : ConnectionConfig) : String :=
  config.host ++ ":" ++ toString config.port.toNat

def inspect (config : ConnectionConfig) : String :=
  Inspection.partialRecord "ConnectionConfig"
    [("host", Inspection.quoted config.host),
     ("port", toString config.port.toNat),
     ("user_agent", Inspection.quoted config.userAgent),
     ("connect_timeout", config.connectTimeout.inspect),
     ("network_timeout", Inspection.optional (config.networkTimeout.map Duration.inspect)),
     ("protocol_versions",
       Inspection.list (config.versions.toList.map fun version => toString version.toNat)),
     ("legacy_notifications", Inspection.boolean config.legacyNames)]

end ConnectionConfig

end PipelinedClient
