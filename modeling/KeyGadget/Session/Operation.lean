import KeyGadget.Session.Run

/-!
# Operations of a session

All that a session can be asked to do, as data, with the reply that each operation gets. Commands
and lines of scripts start with a default delay and leave one behind; the other operations keep it.
-/
namespace KeyGadget

open Script

inductive Operation
  | tap (name : String)
  | press (name : String) (extra : Modifiers) (hold : Nat)
  | combo (tokens : List String)
  | type (text : String)
  | typeWithHold (text : String) (hold : Nat)
  | release
  | send (report : Report)
  | pause (ms : Nat)
  | check
  | execute (command : Command)
  | run (text : String)
  | runLines (lines : List Line)

/-- What comes of an operation. -/
inductive Reply
  | stroke (result : Except SendError Keystroke)
  | chord (result : Except SendError Names.Chord)
  | typed (result : Except SendError Typed)
  | done (result : Except SendError Unit)
  | status (result : Except SendError Status)
  | run (run : Run)

/-- Carries out an operation, starting with a default delay, and tells the default delay after it.
-/
def Host.operate {m : Type → Type} [Monad m] (host : Host m) (timing : Timing) (delay : Nat) :
    Operation → m (Reply × Nat)
  | .tap name => return (.stroke (← host.attempt (Plan.tap timing name)), delay)
  | .press name extra hold =>
    return (.stroke (← host.attempt (Plan.press timing name extra hold)), delay)
  | .combo tokens => return (.chord (← host.attempt (Plan.combo timing tokens)), delay)
  | .type text => return (.typed (← host.carryOut (Plan.type timing text)), delay)
  | .typeWithHold text hold =>
    return (.typed (← host.carryOut (Plan.typeWithHold timing hold text)), delay)
  | .release => return (.done (← host.carryOut Plan.release), delay)
  | .send report => return (.done (← host.carryOut (Plan.send report)), delay)
  | .pause ms => return (.done (← host.carryOut (Plan.pause ms)), delay)
  | .check => return (.done (← host.carryOut Plan.checkRunning), delay)
  | .execute command => do
    let (result, delay) ← host.execute timing delay command
    return (.status result, delay)
  | .run text => do
    let run ← host.run timing delay text
    return (.run run, run.delay)
  | .runLines lines => do
    let run ← host.runLines timing delay lines
    return (.run run, run.delay)

end KeyGadget
