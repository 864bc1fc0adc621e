import KeyGadget.Script.Line
import KeyGadget.Session.Account
import KeyGadget.Session.Plan

/-!
# Running a script

What a line of a script does is settled by the line, the timing and the current default delay: its
actions, its entry in the account, and the default delay from there on. A run performs the actions
line by line. A line that cannot be carried out is accounted for as skipped and the run goes on;
only a failing device or the end of the session stops it, and then the account holds the lines
before.
-/
namespace KeyGadget

open Script

def Script.Command.plan (timing : Timing) : Command → Except UnknownKey (Plan Status)
  | .typeText text =>
    .ok ((Plan.type timing text).map fun done => .typed done.characters done.skipped)
  | .pressKey name modifiers =>
    (Plan.press timing name modifiers timing.keyPress).map fun plan =>
      plan.map fun stroke => .pressed name stroke.modifiers
  | .combo names =>
    (Plan.combo timing names).map fun plan =>
      plan.map fun chord => .combo chord.modifiers chord.key chord.unknown
  | .delay ms => .ok ⟨[.sleep ms], .delayed ms⟩
  | .defaultDelay ms => .ok ⟨[], .defaultDelay ms⟩
  | .unsupported keyword _ => .ok ⟨[], .unsupported keyword⟩
  | .comment => .ok ⟨[], .skipped "comment"⟩

/-- The default delay after a command. -/
def Script.Command.delayAfter (delay : Nat) : Command → Nat
  | .defaultDelay ms => ms
  | _ => delay

/-- The plan of a line. A line that cannot be carried out is planned as skipped, with nothing to
do. -/
def Script.Line.plan (timing : Timing) (line : Line) : Plan Status :=
  match line.parsed with
  | .error error => ⟨[], .skipped error.message⟩
  | .ok command =>
    match command.plan timing with
    | .ok plan => plan
    | .error error => ⟨[], .skipped error.message⟩

def Script.Line.isComment (line : Line) : Bool :=
  match line.parsed with
  | .ok .comment => true
  | _ => false

def Script.Line.delayAfter (delay : Nat) (line : Line) : Nat :=
  match line.parsed with
  | .ok command => command.delayAfter delay
  | .error _ => delay

/-- The wait that follows a line. -/
def delayActions (delay : Nat) : List Action :=
  if delay = 0 then [] else [.sleep delay]

/-- All that a line does: look whether to go on, the actions of its plan, and the default delay. A
comment is only a place to stop at. -/
def Script.Line.actions (timing : Timing) (delay : Nat) (line : Line) : List Action :=
  if line.isComment then [.check]
  else .check :: (line.plan timing).actions ++ delayActions (line.delayAfter delay)

/-- The entry of a line in the account; a comment has none. -/
def Script.Line.entries (timing : Timing) (line : Line) : List Entry :=
  if line.isComment then [] else [⟨line.number, line.source, (line.plan timing).outcome⟩]

/-- Where and why a run stopped before its end. -/
structure Stop where
  line : Nat
  cause : SendError
  deriving DecidableEq, Repr

namespace Stop

def message (stop : Stop) : String :=
  "script aborted at line " ++ Nat.repr stop.line ++ ": " ++ stop.cause.message

/-- The reasons beneath the stop, outermost first. -/
def causes (stop : Stop) : List String :=
  stop.cause.message :: stop.cause.causes

end Stop

/-- What came of a run. -/
structure Run where
  account : Account
  stop : Option Stop
  /-- The default delay that holds after the run. -/
  delay : Nat
  deriving DecidableEq, Repr

/-- A run with entries for the lines before it. -/
def Run.after (entries : List Entry) (run : Run) : Run :=
  { run with account := ⟨entries ++ run.account.entries⟩ }

namespace Host

variable {m : Type → Type} [Monad m]

/-- Runs lines, starting with a default delay. -/
def runLines (host : Host m) (timing : Timing) : Nat → List Line → m Run
  | delay, [] => pure ⟨⟨[]⟩, none, delay⟩
  | delay, line :: rest => do
    match ← host.perform (line.actions timing delay) with
    | .ok () =>
      let run ← host.runLines timing (line.delayAfter delay) rest
      pure (run.after (line.entries timing))
    | .error cause => pure ⟨⟨[]⟩, some ⟨line.number, cause⟩, delay⟩

/-- Runs the text of a script, starting with a default delay. -/
def run (host : Host m) (timing : Timing) (delay : Nat) (text : String) : m Run :=
  host.runLines timing delay (Script.parse text)

/-- Carries out one command, starting with a default delay. -/
def execute (host : Host m) (timing : Timing) (delay : Nat) (command : Command) :
    m (Except SendError Status × Nat) := do
  match ← host.attempt (command.plan timing) with
  | .ok status => pure (.ok status, command.delayAfter delay)
  | .error error => pure (.error error, delay)

end Host
end KeyGadget
