import KeyGadget.Cli.Task
import KeyGadget.Shell.Command

/-!
# The shell

The shell reads one command a line until it is left or the input ends. What goes wrong with a
command is told, and the shell goes on with the next line.
-/
namespace KeyGadget.Cli

open Machine

variable {m : Type → Type} [Monad m]

/-- The text of the script that a command of the shell names. A file goes before a script of the
library. -/
def shellSource (machine : Machine m) (library : Library) (target : String) :
    m (Except Failure String) := do
  if ← machine.files.isFile target then machine.readSource target
  else
    match ← library.load machine.files target with
    | .ok text => return .ok text
    | .error failure => return .error (.ofLibrary failure)

def outcomeOf {α : Type} : Except SendError α → Except Failure Unit
  | .ok _ => .ok ()
  | .error error => .error (.ofSend error)

def obey (machine : Machine m) (keyboard : Keyboard m) (library : Library) :
    Shell.Command → m (Except Failure Unit)
  | .empty => return .ok ()
  | .quit => return .ok ()
  | .help => do
    machine.print (Shell.help ++ "\n")
    return .ok ()
  | .test => do
    match ← keyboard.host.carryOut Plan.release with
    | .error error => return .error (.ofSend error)
    | .ok () =>
      machine.print "device accepted a report\n"
      return .ok ()
  | .typeText text => do
    match ← keyboard.host.carryOut (Plan.type keyboard.timing text) with
    | .error error => return .error (.ofSend error)
    | .ok typed =>
      machine.tellSkipped typed
      return .ok ()
  | .key name => return outcomeOf (← keyboard.host.attempt (Plan.tap keyboard.timing name))
  | .combo names => return outcomeOf (← keyboard.host.attempt (Plan.combo keyboard.timing names))
  | .run target => do
    match ← shellSource machine library target with
    | .error failure => return .error failure
    | .ok source => runScript machine keyboard source false

/-- Answers a line, and tells whether the shell goes on. -/
def answer (machine : Machine m) (keyboard : Keyboard m) (library : Library) (line : String) :
    m Bool := do
  match Shell.parse line with
  | .error mistake =>
    machine.printError (mistake.message ++ "\n")
    return true
  | .ok .quit => return false
  | .ok command =>
    match ← obey machine keyboard library command with
    | .ok () => return true
    | .error failure =>
      machine.printError failure.remark
      return true

/-- Asks for a line and answers it. A session that was to end goes on with the line. The shell is
over if there is a result. -/
def turn (machine : Machine m) (keyboard : Keyboard m) (library : Library) :
    m (Option (Except Failure Unit)) := do
  machine.print "picycle> "
  match ← machine.readLine with
  | .error error => return some (.error (.ofFile error))
  | .ok none => return some (.ok ())
  | .ok (some line) =>
    machine.resume
    if ← answer machine keyboard library line then return none else return some (.ok ())

def shell (machine : Machine m) (keyboard : Keyboard m) (library : Library) :
    m (Except Failure Unit) := do
  machine.print (Shell.help ++ "\n")
  machine.iterate (turn machine keyboard library)

end KeyGadget.Cli
