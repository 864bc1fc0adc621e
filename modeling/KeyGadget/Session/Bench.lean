import KeyGadget.Files.Disk
import KeyGadget.Session.Operation

/-!
# A bench for sessions

A host whose device and clock are on the bench: a device that records what it is sent, up to a limit
if it is to fail, or a file that stands for one, and a clock that records the waits. Writes are
counted, writes with given numbers can be made to fail before they reach the device, and the session
can be told to end after a write.
-/
namespace KeyGadget

/-- Why a path cannot be opened as a device. -/
def DeviceError.ofOpening (path : String) : FileError → DeviceError
  | .missing => .unavailable path
  | error => .writeFailed error.message

/-- Opens the file that stands for a device. -/
def Disk.openDevice (disk : Disk) (path : String) : Except DeviceError Disk.Handle :=
  match disk.open? path with
  | .ok handle => .ok handle
  | .error error => .error (DeviceError.ofOpening path error)

/-- Writes a report to the file that stands for a device. -/
def Disk.writeReport (disk : Disk) (handle : Disk.Handle) (report : Report) :
    Except DeviceError (Disk × Disk.Handle) :=
  match disk.writeTo handle report.bytes.toList.toByteArray with
  | .ok result => .ok result
  | .error error => .error (.writeFailed error.message)

namespace Bench

/-- What the bench records. -/
inductive Event
  | report (report : Report)
  | sleep (ms : Nat)
  deriving DecidableEq, Repr

namespace Event

def isReport : Event → Bool
  | .report _ => true
  | .sleep _ => false

def describe : Event → String
  | .report sent => "R " ++ sent.describe
  | .sleep ms => "S " ++ Nat.repr ms

end Event

/-- What takes the reports. -/
inductive Device
  /-- Records reports, as many as there is room for. -/
  | recorder (room : Option Nat)
  /-- Writes reports to a file. -/
  | file (handle : Disk.Handle)

/-- What is planned to go wrong. Writes are counted from one. -/
structure Faults where
  /-- The writes that fail before they reach the device. -/
  failing : List Nat
  error : DeviceError
  /-- The write after which the session is told to end. -/
  endAfter : Option Nat

end Bench

structure Bench where
  disk : Disk
  device : Bench.Device
  faults : Bench.Faults
  /-- Whether waits are recorded. -/
  recordsSleeps : Bool
  /-- Whether the session looks at the flag. -/
  watched : Bool
  /-- The flag that tells the session to go on. -/
  flag : Bool
  attempts : Nat
  /-- What was recorded, the last event first. -/
  log : List Bench.Event

namespace Bench

/-- What was recorded, in order. -/
def events (bench : Bench) : List Event :=
  bench.log.reverse

/-- What was recorded after the first `seen` events, in order. -/
def eventsSince (bench : Bench) (seen : Nat) : List Event :=
  (bench.log.take (bench.log.length - seen)).reverse

/-- What a recorder says when there is no room left. -/
def outOfRoom : DeviceError := .writeFailed "mock device failure"

/-- Gives a report to the device. -/
def deliver (bench : Bench) (report : Report) : Except DeviceError Bench :=
  let recorded := .report report :: bench.log
  match bench.device with
  | .recorder none => .ok { bench with log := recorded }
  | .recorder (some 0) => .error outOfRoom
  | .recorder (some (room + 1)) =>
    .ok { bench with log := recorded, device := .recorder (some room) }
  | .file handle =>
    match bench.disk.writeReport handle report with
    | .ok (disk, handle) => .ok { bench with disk := disk, device := .file handle }
    | .error error => .error error

/-- Counts a write and gives the report to the device unless the write is planned to fail. -/
def write (report : Report) (bench : Bench) : Except DeviceError Unit × Bench :=
  let number := bench.attempts + 1
  let counted := { bench with attempts := number }
  if bench.faults.failing.contains number then (.error bench.faults.error, counted)
  else
    match counted.deliver report with
    | .error error => (.error error, counted)
    | .ok delivered =>
      (.ok (), if bench.faults.endAfter = some number then { delivered with flag := false }
        else delivered)

def sleep (ms : Nat) (bench : Bench) : Bench :=
  if bench.recordsSleeps then { bench with log := .sleep ms :: bench.log } else bench

def running (bench : Bench) : Bool :=
  !bench.watched || bench.flag

/-- The bench as a host. -/
def host : Host (StateM Bench) where
  write report := modifyGet (Bench.write report)
  sleep ms := modify (Bench.sleep ms)
  running := return (← get).running

end Bench
end KeyGadget
