import KeyGadget.Cli.Arguments
import KeyGadget.Cli.Shell

/-!
# The program

The program reads its arguments and its configuration and does what it is asked for. The device is
opened only for tasks that need it, and for the run of a script only when the script has been read.
A failure is told at the end.
-/
namespace KeyGadget.Cli

open Machine

variable {m : Type → Type} [Monad m]

/-- Where the configuration is if nothing is said about it. -/
def defaultConfigPath : String := "/etc/picycle/config.toml"

/-- Reads the configuration. The device may be said otherwise. -/
def settings (machine : Machine m) (invocation : Invocation) : m (Except Failure Config) := do
  let path := invocation.config.getD defaultConfigPath
  match ← Config.loadWith machine.toml machine.files path with
  | .error error => return .error ((Failure.ofConfig error).during ("loading config " ++ path))
  | .ok config =>
    return .ok { config with devicePath := invocation.device.getD config.devicePath }

def withKeyboard (machine : Machine m) (config : Config)
    (use : Keyboard m → m (Except Failure Unit)) : m (Except Failure Unit) := do
  match ← machine.openKeyboard config with
  | .error failure => return .error failure
  | .ok keyboard => use keyboard

def perform (machine : Machine m) (config : Config) (task : Task) : m (Except Failure Unit) :=
  let library : Library := ⟨config.scriptsDirectory⟩
  match task with
  | .shell => withKeyboard machine config fun keyboard => shell machine keyboard library
  | .type words => withKeyboard machine config fun keyboard => typeWords machine keyboard words
  | .key name => withKeyboard machine config fun keyboard => pressNamed keyboard name
  | .combo tokens => withKeyboard machine config fun keyboard => do
    return (← pressCombo machine keyboard tokens).map fun _ => ()
  | .runFile file json => do
    match ← machine.readSource file with
    | .error failure => return .error failure
    | .ok source =>
      withKeyboard machine config fun keyboard => runScript machine keyboard source json
  | .runSaved script json => do
    match ← library.load machine.files script with
    | .error failure => return .error (.ofLibrary failure)
    | .ok source =>
      withKeyboard machine config fun keyboard => runScript machine keyboard source json
  | .check file => checkScript machine file
  | .list => listScripts machine library
  | .showScript name => showScript machine library name
  | .save name file => saveScript machine library name file
  | .delete name => deleteScript machine library name

def usage : String :=
  "\n".intercalate [
    "Usage: picycle-hid [OPTIONS] [TEXT]...",
    "       picycle-hid [OPTIONS] <COMMAND>",
    "",
    "Commands:",
    "  type <TEXT>...    type text verbatim",
    "  key <NAME>        press and release one key",
    "  combo <TOKEN>...  press keys together",
    "  ducky <FILE>      run a script file, or the input if the file is a dash",
    "  run <SCRIPT>      run a script of the library",
    "  check <FILE>      show how a script is read",
    "  scripts <ACTION>  list, show, save or delete scripts of the library",
    "  shell             take commands line by line",
    "",
    "Options:",
    "  --config <PATH>   where the configuration is",
    "  --device <PATH>   where the device is",
    ""]

def run (machine : Machine m) (environment : Environment) (arguments : List String) : m Nat := do
  match Arguments.parse environment arguments with
  | .error .help =>
    machine.print usage
    return 0
  | .error .version =>
    machine.print "picycle-hid\n"
    return 0
  | .error .usage =>
    machine.printError usage
    return 2
  | .ok invocation =>
    let result ← do
      match ← settings machine invocation with
      | .error failure => pure (.error failure)
      | .ok config => perform machine config invocation.task
    match result with
    | .ok () => return 0
    | .error failure =>
      machine.printError failure.report
      return 1

end KeyGadget.Cli
