import PipelinedClient.Json.Form
import PipelinedClient.Ordered.Set
import PipelinedClient.Text.Inspection

/-! Which notifications a server is asked to report: a least severity and a set of
classifications that are switched off. Both have a written name, in capitals on
the wire, and are found again by that name whatever its case. -/

set_option autoImplicit false

namespace PipelinedClient

/-- The least severity reported; `off` reports nothing. -/
inductive Severity where
  | off
  | warning
  | information
  deriving DecidableEq

inductive Classification where
  | hint
  | unrecognized
  | unsupported
  | performance
  | deprecation
  | security
  | topology
  | generic
  | schema
  deriving DecidableEq

/-- A name that was looked up, in capitals, and not found. -/
inductive UnknownName where
  | severity (name : String)
  | classification (name : String)
  deriving DecidableEq

def UnknownName.message : UnknownName → String
  | .severity name => "unknown notification severity: " ++ name
  | .classification name => "unknown notification classification: " ++ name

/-- ASCII letters in upper case; all other characters stay. -/
def capitals (text : String) : String := String.ofList (text.toList.map Char.toUpper)

namespace Severity

def all : List Severity := [.off, .warning, .information]

def label : Severity → String
  | .off => "Off"
  | .warning => "Warning"
  | .information => "Information"

def name : Severity → String
  | .off => "OFF"
  | .warning => "WARNING"
  | .information => "INFORMATION"

def ofName (text : String) : Except UnknownName Severity :=
  match all.find? fun severity => severity.name == capitals text with
  | some severity => .ok severity
  | none => .error (.severity (capitals text))

def ofLabel? (text : String) : Option Severity := all.find? fun severity => severity.label == text

instance : Json.Form Severity where
  toTree severity := Json.bareTag severity.label
  ofTree? tree := (Json.bareTag? tree).bind ofLabel?

end Severity

namespace Classification

def all : List Classification :=
  [.hint, .unrecognized, .unsupported, .performance, .deprecation, .security, .topology,
    .generic, .schema]

def label : Classification → String
  | .hint => "Hint"
  | .unrecognized => "Unrecognized"
  | .unsupported => "Unsupported"
  | .performance => "Performance"
  | .deprecation => "Deprecation"
  | .security => "Security"
  | .topology => "Topology"
  | .generic => "Generic"
  | .schema => "Schema"

def name : Classification → String
  | .hint => "HINT"
  | .unrecognized => "UNRECOGNIZED"
  | .unsupported => "UNSUPPORTED"
  | .performance => "PERFORMANCE"
  | .deprecation => "DEPRECATION"
  | .security => "SECURITY"
  | .topology => "TOPOLOGY"
  | .generic => "GENERIC"
  | .schema => "SCHEMA"

def rank : Classification → Nat
  | .hint => 0
  | .unrecognized => 1
  | .unsupported => 2
  | .performance => 3
  | .deprecation => 4
  | .security => 5
  | .topology => 6
  | .generic => 7
  | .schema => 8

instance : LT Classification := ⟨fun first second => first.rank < second.rank⟩

instance : DecidableLT Classification := fun first second =>
  inferInstanceAs (Decidable (first.rank < second.rank))

instance : Trans (α := Classification) (· < ·) (· < ·) (· < ·) where
  trans first second := Nat.lt_trans first second

instance : Std.Trichotomous (α := Classification) (· < ·) where
  trichotomous first second notBefore notAfter := by
    have same : first.rank = second.rank :=
      Nat.le_antisymm (Nat.le_of_not_lt notAfter) (Nat.le_of_not_lt notBefore)
    cases first <;> cases second <;> simp_all [rank]

instance : Std.Irrefl (α := Classification) (· < ·) where
  irrefl classification := Nat.lt_irrefl classification.rank

def ofName (text : String) : Except UnknownName Classification :=
  match all.find? fun classification => classification.name == capitals text with
  | some classification => .ok classification
  | none => .error (.classification (capitals text))

def ofLabel? (text : String) : Option Classification :=
  all.find? fun classification => classification.label == text

instance : Json.Form Classification where
  toTree classification := Json.bareTag classification.label
  ofTree? tree := (Json.bareTag? tree).bind ofLabel?

end Classification

instance : Json.Form (SortedSet Classification) where
  toTree set := .array (set.elements.map Json.Form.toTree)
  ofTree?
    | .array items => (items.mapM Json.Form.ofTree?).map SortedSet.ofList
    | _ => none

/-- A filter; what is absent is left to the server. -/
structure NotificationConfig where
  minimumSeverity : Option Severity
  disabled : Option (SortedSet Classification)
  deriving DecidableEq

namespace NotificationConfig

def unset : NotificationConfig := ⟨none, none⟩

instance : Inhabited NotificationConfig := ⟨unset⟩

def withMinimumSeverity (config : NotificationConfig) (severity : Severity) : NotificationConfig :=
  { config with minimumSeverity := some severity }

def withDisabled (config : NotificationConfig) (classifications : List Classification) :
    NotificationConfig :=
  { config with disabled := some (SortedSet.ofList classifications) }

def of (severity : Severity) (classifications : List Classification) : NotificationConfig :=
  (unset.withMinimumSeverity severity).withDisabled classifications

def disableAll : NotificationConfig := unset.withMinimumSeverity .off

def inspect (config : NotificationConfig) : String :=
  Inspection.record "NotificationConfig"
    [("minimum_severity", Inspection.optional (config.minimumSeverity.map Severity.label)),
     ("disabled_classifications", Inspection.optional (config.disabled.map fun set =>
        Inspection.set (set.elements.map Classification.label)))]

/-- The only payload under a key, if the key occurs at most once. -/
def member? (key : String) (fields : List (Option String × Json.Tree)) :
    Option (Option Json.Tree) :=
  match fields.filter fun field => field.1 == some key with
  | [] => some none
  | [(_, payload)] => some (some payload)
  | _ => none

def memberOption? {α : Type} [Json.Form α] (key : String)
    (fields : List (Option String × Json.Tree)) : Option (Option α) := do
  let payload ← member? key fields
  Json.optionOfTree? (payload.getD .null)

instance : Json.Form NotificationConfig where
  toTree config := .object
    [(some "minimum_severity", Json.optionTree config.minimumSeverity),
     (some "disabled_classifications", Json.optionTree config.disabled)]
  ofTree?
    | .array [severity, disabled] => do
      let severity ← Json.optionOfTree? severity
      let disabled ← Json.optionOfTree? disabled
      return ⟨severity, disabled⟩
    | .object fields => do
      if fields.any fun field => field.1.isNone then none
      let severity ← memberOption? "minimum_severity" fields
      let disabled ← memberOption? "disabled_classifications" fields
      return ⟨severity, disabled⟩
    | _ => none

end NotificationConfig

end PipelinedClient
