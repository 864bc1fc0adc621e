import KeyGadget.Keyboard.Names

/-!
# The host of a session

A session of keystrokes is a list of actions: look whether to go on, write a report, wait. The host
carries them out one by one and stops at the first that fails. What the host is made of is left
open; it can be the device of a machine or a state that records what happens.
-/
namespace KeyGadget

inductive DeviceError
  | unavailable (path : String)
  | permissionDenied (path : String)
  | writeFailed (reason : String)
  deriving DecidableEq, Repr

namespace DeviceError

def message : DeviceError → String
  | .unavailable path => "HID device " ++ path ++ " not found; is the USB gadget configured?"
  | .permissionDenied path => "permission denied opening " ++ path ++ " for writing"
  | .writeFailed reason => "HID write failed: " ++ reason

/-- The reasons beneath the error, outermost first. -/
def causes : DeviceError → List String
  | .writeFailed reason => [reason]
  | _ => []

end DeviceError

inductive SendError
  | unknownKey (error : UnknownKey)
  | device (error : DeviceError)
  | interrupted
  deriving DecidableEq, Repr

namespace SendError

def message : SendError → String
  | .unknownKey error => error.message
  | .device error => error.message
  | .interrupted => "interrupted"

/-- The reasons beneath the error, outermost first. -/
def causes : SendError → List String
  | .device error => error.causes
  | _ => []

/-- Whether a script may go on with its next line. -/
def recoverable : SendError → Bool
  | .unknownKey _ => true
  | _ => false

end SendError

/-- A step of a session. -/
inductive Action
  /-- Stop here if the session is to end. -/
  | check
  | write (report : Report)
  | sleep (ms : Nat)
  deriving DecidableEq, Repr

/-- What a session acts on. -/
structure Host (m : Type → Type) where
  write : Report → m (Except DeviceError Unit)
  sleep : Nat → m Unit
  running : m Bool

/-- Carries out actions up to the first that fails. -/
def Host.perform {m : Type → Type} [Monad m] (host : Host m) :
    List Action → m (Except SendError Unit)
  | [] => pure (.ok ())
  | .check :: rest => do
    if ← host.running then host.perform rest else pure (.error .interrupted)
  | .write report :: rest => do
    match ← host.write report with
    | .ok () => host.perform rest
    | .error error => pure (.error (.device error))
  | .sleep ms :: rest => do
    host.sleep ms
    host.perform rest

/-- Actions behind others are carried out if the others succeed. -/
theorem Host.perform_append {m : Type → Type} [Monad m] [LawfulMonad m] (host : Host m)
    (first second : List Action) :
    host.perform (first ++ second) = (do
      match ← host.perform first with
      | .ok () => host.perform second
      | .error error => pure (.error error)) := by
  induction first with
  | nil => simp [perform]
  | cons action rest ih =>
    cases action with
    | check =>
      simp only [List.cons_append, perform, bind_assoc]
      congr 1
      funext running
      cases running <;> simp [ih]
    | write report =>
      simp only [List.cons_append, perform, bind_assoc]
      congr 1
      funext result
      cases result <;> simp [ih]
    | sleep ms => simp [perform, ih]

end KeyGadget
