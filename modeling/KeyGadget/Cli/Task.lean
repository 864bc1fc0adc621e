import KeyGadget.Cli.Machine
import KeyGadget.Script.Line

/-!
# The tasks

What the program does once: type words, press keys, run a script, check one, and look after the
library.
-/
namespace KeyGadget.Cli

open Machine

variable {m : Type → Type} [Monad m]

/-- Types words with blanks between them. -/
def typeWords (machine : Machine m) (keyboard : Keyboard m) (words : List String) :
    m (Except Failure Unit) := do
  let plan := Plan.type keyboard.timing (" ".intercalate words)
  match ← keyboard.host.carryOut plan with
  | .ok typed =>
    machine.tellSkipped typed
    return .ok ()
  | .error error => return .error (.ofSend error)

def pressNamed (keyboard : Keyboard m) (name : String) : m (Except Failure Unit) := do
  match ← keyboard.host.attempt (Plan.tap keyboard.timing (Names.canonical name)) with
  | .ok _ => return .ok ()
  | .error error => return .error (.ofSend error)

/-- Presses several keys at once, and gives back what was pressed. -/
def pressCombo (machine : Machine m) (keyboard : Keyboard m) (tokens : List String) :
    m (Except Failure Names.Chord) := do
  match ← keyboard.host.attempt (Plan.combo keyboard.timing (tokens.map Names.canonical)) with
  | .error error => return .error (.ofSend error)
  | .ok chord =>
    if !chord.unknown.isEmpty then
      machine.printError ("skipped unknown keys: " ++ ", ".intercalate chord.unknown ++ "\n")
    return .ok chord

/-- Shows the account of a run: in full, or a line about what was not done. -/
def showAccount (machine : Machine m) (account : Account) (json : Bool) : m Unit :=
  if json then machine.print (machine.render account.toJson ++ "\n")
  else if account.isClean then pure ()
  else
    machine.printError
      (Nat.repr account.entries.length ++ " lines executed, " ++ Nat.repr account.skipped ++
        " skipped; see log for details\n")

def runScript (machine : Machine m) (keyboard : Keyboard m) (source : String) (json : Bool) :
    m (Except Failure Unit) := do
  let run ← keyboard.host.run keyboard.timing 0 source
  showAccount machine run.account json
  match run.stop with
  | none => return .ok ()
  | some stop => return .error (.ofStop stop)

/-- A line of a script that has been checked, as JSON. -/
def checkedLine (line : Script.Line) : Json :=
  .object ([("line", .number line.number), ("source", .text line.source),
    match line.parsed with
    | .ok command => ("command", command.toJson)
    | .error error => ("error", .text error.message)])

def isInvalid (line : Script.Line) : Bool :=
  match line.parsed with
  | .ok _ => false
  | .error _ => true

def checkScript (machine : Machine m) (file : String) : m (Except Failure Unit) := do
  match ← machine.readSource file with
  | .error failure => return .error failure
  | .ok source =>
    let lines := Script.parse source
    machine.print (machine.render (.list (lines.map checkedLine)) ++ "\n")
    let invalid := lines.countP isInvalid
    if 0 < invalid then
      return .error ⟨Nat.repr invalid ++ " line(s) failed to parse", []⟩
    else return .ok ()

/-- A script in the list of the library: the name and the size, each in a column. -/
def listed (script : Library.Listed) : String :=
  script.name ++ String.ofList (List.replicate (40 - script.name.length) ' ') ++ " " ++
    Failure.alignRight 8 (Nat.repr script.size) ++ "\n"

def listScripts (machine : Machine m) (library : Library) : m (Except Failure Unit) := do
  match ← library.list machine.files with
  | .error failure => return .error (.ofLibrary failure)
  | .ok scripts =>
    machine.print (String.join (scripts.map listed))
    return .ok ()

def showScript (machine : Machine m) (library : Library) (name : String) :
    m (Except Failure Unit) := do
  match ← library.load machine.files name with
  | .error failure => return .error (.ofLibrary failure)
  | .ok text =>
    machine.print text
    return .ok ()

def saveScript (machine : Machine m) (library : Library) (name file : String) :
    m (Except Failure Unit) := do
  match ← machine.readSource file with
  | .error failure => return .error failure
  | .ok text =>
    match ← library.save machine.files name text with
    | .error failure => return .error (.ofLibrary failure)
    | .ok stored =>
      machine.print ("saved " ++ stored ++ "\n")
      return .ok ()

def deleteScript (machine : Machine m) (library : Library) (name : String) :
    m (Except Failure Unit) := do
  match ← library.delete machine.files name with
  | .error failure => return .error (.ofLibrary failure)
  | .ok () => return .ok ()

end KeyGadget.Cli
