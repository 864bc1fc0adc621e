import KeyGadget.Config
import KeyGadget.Cli.Failure
import KeyGadget.Library.Store
import KeyGadget.Session.Run

/-!
# The machine

What the program needs of the machine it runs on: files, readers and writers of their formats, a
device to attach to, a clock, a flag that is lowered from outside when a session is to end, its
input and its two outputs, and a way to repeat a step as long as it takes.
-/
namespace KeyGadget.Cli

structure Machine (m : Type → Type) where
  files : Files m
  /-- The table that a text in the TOML format defines, if it defines one. -/
  toml : String → Option Toml.Entries
  /-- The text of a JSON value. -/
  render : Json → String
  /-- Opens the device at a path; what is given back writes reports to it. -/
  attach : String → m (Except DeviceError (Report → m (Except DeviceError Unit)))
  sleep : Nat → m Unit
  /-- Whether the flag is up, so that keys may go on being pressed. -/
  running : m Bool
  /-- Raises the flag. -/
  resume : m Unit
  /-- The next line of the input with its end; there is none at the end of the input. -/
  readLine : m (Except FileError (Option String))
  readRest : m (Except FileError String)
  print : String → m Unit
  printError : String → m Unit
  /-- Repeats a step until it gives a result. -/
  iterate : m (Option (Except Failure Unit)) → m (Except Failure Unit)

namespace Failure

def ofSend (error : SendError) : Failure :=
  ⟨error.message, error.causes⟩

def ofLibrary (failure : Library.Failure) : Failure :=
  ⟨failure.message, failure.causes⟩

def ofFile (error : FileError) : Failure :=
  ⟨error.message, []⟩

def ofDevice (error : DeviceError) : Failure :=
  ⟨error.message, error.causes⟩

def ofStop (stop : Stop) : Failure :=
  ⟨stop.message, stop.causes⟩

def ofConfig (error : ConfigError) : Failure :=
  ⟨error.message, error.causes⟩

end Failure

/-- A keyboard that is ready to be used: a host and the timing for it. -/
structure Keyboard (m : Type → Type) where
  host : Host m
  timing : Timing

namespace Machine

variable {m : Type → Type} [Monad m]

def openKeyboard (machine : Machine m) (config : Config) : m (Except Failure (Keyboard m)) := do
  match ← machine.attach config.devicePath with
  | .error error => return .error ((Failure.ofDevice error).during "cannot open HID gadget")
  | .ok write => return .ok ⟨⟨write, machine.sleep, machine.running⟩, config.timing⟩

/-- The text of a script: the rest of the input if the path is a single dash, or else a file. -/
def readSource (machine : Machine m) (path : String) : m (Except Failure String) := do
  if Path.components path == ["-"] then
    match ← machine.readRest with
    | .ok text => return .ok text
    | .error error => return .error ((Failure.ofFile error).during "reading script from stdin")
  else
    match ← machine.files.readText path with
    | .ok text => return .ok text
    | .error error => return .error ((Failure.ofFile error).during ("reading " ++ path))

def tellSkipped (machine : Machine m) (typed : Typed) : m Unit :=
  if typed.skipped.isEmpty then pure ()
  else
    machine.printError
      ("skipped characters with no key: " ++ Text.quoted (String.ofList typed.skipped) ++ "\n")

end Machine
end KeyGadget.Cli
