import KeyGadget.Files.Access
import KeyGadget.Session.Plan
import KeyGadget.Toml.Document

/-!
# The configuration

Where the device and the scripts are, how fast keys are pressed, and how much is logged. A file
gives any of these; what it does not give has a default, and keys that mean nothing are passed
over. A group of settings is a table, or an array of its values in order.
-/
namespace KeyGadget

/-- The times of the configuration, in milliseconds. -/
structure TimingSettings where
  keyPressMs : Nat
  keyGapMs : Nat
  comboHoldMs : Nat
  charDelayMs : Nat
  deriving DecidableEq, Repr

namespace TimingSettings

def defaultKeyPress : Nat := 50

def defaultKeyGap : Nat := 10

def defaultComboHold : Nat := 100

def defaultCharDelay : Nat := 50

/-- The times that hold if nothing is said about them. -/
def standard : TimingSettings where
  keyPressMs := defaultKeyPress
  keyGapMs := defaultKeyGap
  comboHoldMs := defaultComboHold
  charDelayMs := defaultCharDelay

/-- The timing of a session under the settings. -/
def toTiming (settings : TimingSettings) : Timing where
  keyPress := settings.keyPressMs
  keyGap := settings.keyGapMs
  comboHold := settings.comboHoldMs
  charDelay := settings.charDelayMs

end TimingSettings

structure Config where
  logLevel : String
  devicePath : String
  timingSettings : TimingSettings
  scriptsDirectory : String
  deriving DecidableEq, Repr

def Config.timing (config : Config) : Timing :=
  config.timingSettings.toTiming

inductive ConfigError
  | inaccessible (path : String) (error : FileError)
  | malformed

namespace ConfigError

/-- What is wrong with a file that cannot be used. -/
def malformedReason : String := "not a table of the expected values"

def message : ConfigError → String
  | .inaccessible path error => "I/O error accessing config at " ++ path ++ ": " ++ error.message
  | .malformed => "failed to parse config TOML: " ++ malformedReason

/-- The reasons beneath the error, outermost first. -/
def causes : ConfigError → List String
  | .inaccessible _ error => [error.message]
  | .malformed => [malformedReason]

end ConfigError

namespace Config

open Toml

/-! ### Defaults -/

def defaultLogLevel : String := "info"

def defaultDevicePath : String := "/dev/hidg0"

def defaultScriptsDirectory : String := "/etc/picycle/scripts"

/-- The settings that hold without a file. -/
def standard : Config :=
  { logLevel := defaultLogLevel
    devicePath := defaultDevicePath
    timingSettings := .standard
    scriptsDirectory := defaultScriptsDirectory }

/-! ### Settings and groups of settings -/

def asText : Value → Option String
  | .text value => some value
  | _ => none

/-- A setting that is a number of milliseconds. -/
def asMillis : Value → Option Nat
  | .integer value => if 0 ≤ value then some value.toNat else none
  | _ => none

/-- The settings of a group, which are named in order if they come in an array. -/
def asGroup (names : List String) : Value → Option Entries
  | .table _ entries => some entries
  | .array items => some (names.zip items)
  | .tables elements => some (names.zip (elements.map (.table .header)))
  | .moment _ => some []
  | _ => none

/-- A setting, or its default if it is not given. -/
def setting {α : Type} (read : Value → Option α) (default : α) (entries : Entries)
    (name : String) : Option α :=
  match entries.lookup name with
  | none => some default
  | some value => read value

/-- What a group of settings says, or what holds if the group is not given. The group has names for
its settings in their order. -/
def group {α : Type} (names : List String) (read : Entries → Option α) (default : α)
    (entries : Entries) (name : String) : Option α :=
  setting (fun value => (asGroup names value).bind read) default entries name

def devicePathOf (entries : Entries) : Option String :=
  setting asText defaultDevicePath entries "path"

def timingOf (entries : Entries) : Option TimingSettings := do
  let keyPressMs ← setting asMillis TimingSettings.defaultKeyPress entries "key_press_ms"
  let keyGapMs ← setting asMillis TimingSettings.defaultKeyGap entries "key_gap_ms"
  let comboHoldMs ← setting asMillis TimingSettings.defaultComboHold entries "combo_hold_ms"
  let charDelayMs ← setting asMillis TimingSettings.defaultCharDelay entries "char_delay_ms"
  return ⟨keyPressMs, keyGapMs, comboHoldMs, charDelayMs⟩

def scriptsDirectoryOf (entries : Entries) : Option String :=
  setting asText defaultScriptsDirectory entries "directory"

def ofEntries (entries : Entries) : Option Config := do
  let logLevel ← setting asText defaultLogLevel entries "log_level"
  let devicePath ← group ["path"] devicePathOf standard.devicePath entries "device"
  let timingSettings ← group ["key_press_ms", "key_gap_ms", "combo_hold_ms", "char_delay_ms"]
    timingOf standard.timingSettings entries "timing"
  let scriptsDirectory ← group ["directory"] scriptsDirectoryOf standard.scriptsDirectory entries
    "scripts"
  return ⟨logLevel, devicePath, timingSettings, scriptsDirectory⟩

/-- Reads the configuration from a file; if there is none, the defaults hold. What table the file
defines is left to a reader of its format. -/
def loadWith {m : Type → Type} [Monad m] (toml : String → Option Entries) (files : Files m)
    (path : String) : m (Except ConfigError Config) := do
  match ← files.readText path with
  | .ok text =>
    match (toml text).bind ofEntries with
    | some config => pure (.ok config)
    | none => pure (.error .malformed)
  | .error .missing => pure (.ok standard)
  | .error error => pure (.error (.inaccessible path error))

/-- Reads the configuration from a TOML file. -/
def load {m : Type → Type} [Monad m] (files : Files m) (path : String) :
    m (Except ConfigError Config) :=
  loadWith Toml.parse files path

end Config
end KeyGadget
