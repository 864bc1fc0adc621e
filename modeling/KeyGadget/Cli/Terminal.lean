import KeyGadget.Cli.Program
import KeyGadget.Session.Bench

/-!
# The program at a terminal

A machine as a value: a disk, the input that is left, what has been written to the outputs, the file
that stands for the device, and the flag, which nothing lowers. Waiting takes no time. A run of the
program is then a function of these, and the shell comes to an end because every line that it reads
is taken from the input.
-/
namespace KeyGadget.Cli

/-- What a run of the program finds and leaves behind. -/
structure Terminal where
  disk : Disk
  input : List UInt8
  output : String
  errors : String
  device : Option Disk.Handle
  running : Bool

namespace Terminal

/-- A terminal with files and an input, at which nothing has run yet. -/
def start (disk : Disk) (input : ByteArray) : Terminal :=
  ⟨disk, input.toList, "", "", none, true⟩

def attach (path : String) (terminal : Terminal) : Except DeviceError Unit × Terminal :=
  match terminal.disk.openDevice path with
  | .ok handle => (.ok (), { terminal with device := some handle })
  | .error error => (.error error, terminal)

def write (report : Report) (terminal : Terminal) : Except DeviceError Unit × Terminal :=
  match terminal.device with
  | none => (.error (.writeFailed (FileError.message .missing)), terminal)
  | some handle =>
    match terminal.disk.writeReport handle report with
    | .ok (disk, handle) => (.ok (), { terminal with disk := disk, device := some handle })
    | .error error => (.error error, terminal)

/-- The bytes of the first line, with its end, and those behind it. -/
def splitLine : List UInt8 → List UInt8 × List UInt8
  | [] => ([], [])
  | byte :: rest =>
    if byte = 0x0A then ([byte], rest)
    else
      let (line, behind) := splitLine rest
      (byte :: line, behind)

def readLine (terminal : Terminal) : Except FileError (Option String) × Terminal :=
  match splitLine terminal.input with
  | ([], _) => (.ok none, terminal)
  | (line, rest) => ((decodeText line.toByteArray).map some, { terminal with input := rest })

def readRest (terminal : Terminal) : Except FileError String × Terminal :=
  (decodeText terminal.input.toByteArray, { terminal with input := [] })

/-- What is told of a step that has been repeated too often. -/
def unending : Failure := ⟨"the input does not come to an end", []⟩

/-- Repeats a step up to `fuel` times, until it gives a result. If there is none by then, that is a
failure. -/
def iterate {m : Type → Type} [Monad m] (step : m (Option (Except Failure Unit))) :
    Nat → m (Except Failure Unit)
  | 0 => return .error unending
  | fuel + 1 => do
    match ← step with
    | some result => return result
    | none => iterate step fuel

/-- The terminal as a machine. A step that is repeated takes a line from the input each time but the
last, so there are no more steps than bytes and one. -/
def machine : Machine (StateM Terminal) where
  files := Disk.files (·.disk) fun disk terminal => { terminal with disk := disk }
  toml := Toml.parse
  render := Json.pretty
  attach path := do
    match ← modifyGet (attach path) with
    | .ok () => return .ok fun report => modifyGet (write report)
    | .error error => return .error error
  sleep _ := return ()
  running := return (← get).running
  resume := modify fun terminal => { terminal with running := true }
  readLine := modifyGet readLine
  readRest := modifyGet readRest
  print text := modify fun terminal => { terminal with output := terminal.output ++ text }
  printError text := modify fun terminal => { terminal with errors := terminal.errors ++ text }
  iterate step := do iterate step ((← get).input.length + 1)

def run (environment : Environment) (arguments : List String) (terminal : Terminal) :
    Nat × Terminal :=
  (Cli.run machine environment arguments).run terminal

end Terminal
end KeyGadget.Cli
