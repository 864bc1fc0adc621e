import KeyGadget.Proofs.Input
import KeyGadget.Proofs.Operation

/-!
# A desk

A terminal beside a device that takes every report and a clock. Both keep a log of their own, so
what a program sends and how it waits is told apart from what is on the disk. Someone at the desk
may lower the flag while the program waits for a line.

## Main results

`does_runScript`: a script that is run at a desk is told as it would be in the calm world, and the
log goes on with what it leaves there. `looks_load`: to load a script is to look at the disk and to
do nothing else.
-/
namespace KeyGadget.Cli

open Script

/-- A terminal, and what the device and the clock beside it have recorded. -/
structure Desk where
  terminal : Terminal
  log : List Bench.Event
  /-- Whether the flag is lowered before the next line is read, and before those behind it. -/
  interrupts : List Bool

namespace Desk

variable {α β : Type}

/-- Does at the terminal of a desk what is done at a terminal. -/
def atTerminal (action : StateM Terminal α) : StateM Desk α :=
  modifyGet fun desk =>
    let (value, terminal) := action.run desk.terminal
    (value, { desk with terminal := terminal })

def record (event : Bench.Event) : StateM Desk Unit :=
  modify fun desk => { desk with log := desk.log ++ [event] }

/-- The device and the clock of a desk. -/
def host : Host (StateM Desk) where
  write report := do
    record (.report report)
    return .ok ()
  sleep ms := record (.sleep ms)
  running := atTerminal Terminal.machine.running

/-- Lowers the flag if this is when it is to be lowered. -/
def interrupt : StateM Desk Unit :=
  modify fun desk =>
    { desk with
      terminal :=
        { desk.terminal with running := desk.terminal.running && !desk.interrupts.headD false }
      interrupts := desk.interrupts.tail }

/-- A desk as a machine. A step is repeated as at a terminal. -/
def machine : Machine (StateM Desk) where
  files := Disk.files (·.terminal.disk) fun disk desk =>
    { desk with terminal := { desk.terminal with disk := disk } }
  toml := Terminal.machine.toml
  render := Terminal.machine.render
  attach _ := return .ok host.write
  sleep := host.sleep
  running := host.running
  resume := atTerminal Terminal.machine.resume
  readLine := do
    interrupt
    atTerminal Terminal.machine.readLine
  readRest := atTerminal Terminal.machine.readRest
  print text := atTerminal (Terminal.machine.print text)
  printError text := atTerminal (Terminal.machine.printError text)
  iterate step := do Terminal.iterate step ((← get).terminal.input.length + 1)

/-- A desk with a disk and with the flag up. -/
structure Ready (disk : Disk) (desk : Desk) : Prop where
  disk : desk.terminal.disk = disk
  running : desk.terminal.running = true

/-- A computation gives a value at every desk with a disk and with the flag up. It adds events to
the log, and leaves the disk, the flag and the input as they are. -/
def Does (disk : Disk) (action : StateM Desk α) (value : α) (events : List Bench.Event) : Prop :=
  ∀ desk : Desk, Ready disk desk → ∃ after, action.run desk = (value, after) ∧
    Ready disk after ∧ after.terminal.input = desk.terminal.input ∧
    after.log = desk.log ++ events

/-- A computation does nothing but look at the disk. -/
def Looks (disk : Disk) (action : StateM Desk α) : Prop :=
  ∃ value, Does disk action value []

theorem atTerminal_run (action : StateM Terminal α) (desk : Desk) :
    (atTerminal action).run desk =
      ((action.run desk.terminal).1, { desk with terminal := (action.run desk.terminal).2 }) := rfl

section rules

variable {disk : Disk}

theorem does_pure (value : α) : Does disk (pure value) value [] :=
  fun desk ready => ⟨desk, rfl, ready, rfl, (List.append_nil _).symm⟩

theorem does_bind {action : StateM Desk α} {next : α → StateM Desk β} {value : α} {result : β}
    {events others : List Bench.Event} (first : Does disk action value events)
    (second : Does disk (next value) result others) :
    Does disk (action >>= next) result (events ++ others) := by
  intro desk ready
  obtain ⟨middle, began, kept, left, recorded⟩ := first desk ready
  obtain ⟨after, went, stays, remains, added⟩ := second middle kept
  refine ⟨after, ?_, stays, remains.trans left, ?_⟩
  · rw [StateT.run_bind, began]
    exact went
  · rw [added, recorded, List.append_assoc]

/-- The rule for a computation behind one that records nothing. -/
theorem does_then {action : StateM Desk α} {next : α → StateM Desk β} {value : α} {result : β}
    {events : List Bench.Event} (first : Does disk action value [])
    (second : Does disk (next value) result events) : Does disk (action >>= next) result events :=
  does_bind first second

/-- The rule for what is made of a value in the end. -/
theorem does_return {action : StateM Desk α} {next : α → StateM Desk β} {value : α} {result : β}
    {events : List Bench.Event} (first : Does disk action value events)
    (second : next value = pure result) : Does disk (action >>= next) result events := by
  rw [← List.append_nil events]
  exact does_bind first (second ▸ does_pure result)

theorem looks_pure (value : α) : Looks disk (pure value : StateM Desk α) :=
  ⟨value, does_pure value⟩

theorem looks_then {action : StateM Desk α} {next : α → StateM Desk β} {value : α}
    (first : Does disk action value []) (second : Looks disk (next value)) :
    Looks disk (action >>= next) := by
  obtain ⟨result, follows⟩ := second
  exact ⟨result, does_then first follows⟩

theorem looks_bind {action : StateM Desk α} {next : α → StateM Desk β}
    (first : Looks disk action) (second : ∀ value, Looks disk (next value)) :
    Looks disk (action >>= next) := by
  obtain ⟨value, does⟩ := first
  exact looks_then does (second value)

theorem does_print (text : String) : Does disk (machine.print text) () [] :=
  fun _ ready => ⟨_, rfl, ⟨ready.disk, ready.running⟩, rfl, (List.append_nil _).symm⟩

theorem does_printError (text : String) : Does disk (machine.printError text) () [] :=
  fun _ ready => ⟨_, rfl, ⟨ready.disk, ready.running⟩, rfl, (List.append_nil _).symm⟩

private theorem does_record (event : Bench.Event) : Does disk (record event) () [event] :=
  fun _ ready => ⟨_, rfl, ⟨ready.disk, ready.running⟩, rfl, rfl⟩

private theorem does_running : Does disk host.running true [] := by
  intro desk ready
  refine ⟨desk, ?_, ready, rfl, (List.append_nil _).symm⟩
  rw [← ready.running]
  rfl

/-! ### The keyboard -/

/-- The device takes all reports and the flag is up, so nothing fails. -/
theorem does_perform (actions : List Action) :
    Does disk (host.perform actions) (.ok ()) (actions.filterMap Action.event?) := by
  induction actions with
  | nil => exact does_pure _
  | cons action rest ih =>
    cases action with
    | check => exact does_then does_running ih
    | write report =>
      have written : Does disk (host.write report) (.ok ()) [.report report] :=
        does_return (does_record (.report report)) rfl
      exact does_bind written ih
    | sleep ms =>
      have slept : Does disk (host.sleep ms) () [.sleep ms] := does_record (.sleep ms)
      exact does_bind slept ih

theorem does_carryOut (plan : Plan α) :
    Does disk (host.carryOut plan) (.ok plan.outcome) (plan.actions.filterMap Action.event?) :=
  does_return (does_perform plan.actions) rfl

theorem does_attempt (planned : Except UnknownKey (Plan α)) :
    Does disk (host.attempt planned) (Plan.promise planned)
      ((Plan.actionsOf planned).filterMap Action.event?) := by
  cases planned with
  | ok plan => exact does_carryOut plan
  | error error => exact does_pure _

theorem does_refused {planned : Except UnknownKey (Plan α)} {error : UnknownKey}
    (unknown : planned = .error error) :
    Does disk (host.attempt planned) (.error (.unknownKey error)) [] := by
  rw [unknown]
  exact does_pure _

private theorem does_runLines (timing : Timing) (delay : Nat) (lines : List Line) :
    Does disk (host.runLines timing delay lines)
      ⟨⟨Script.entries timing lines⟩, none, Script.delayAfter delay lines⟩
      ((Script.actions timing delay lines).filterMap Action.event?) := by
  induction lines generalizing delay with
  | nil => exact does_pure _
  | cons line rest ih =>
    rw [Script.actions, List.filterMap_append]
    exact does_bind (does_perform (line.actions timing delay)) (does_return (ih _) rfl)

/-- What is told and recorded of a script is what is told and recorded of it in the calm world. -/
theorem does_run (timing : Timing) (delay : Nat) (text : String) :
    Does disk (host.run timing delay text) (World.calm.run timing delay text).1
      (Happening.log (World.calm.run timing delay text).2) := by
  -- The calm world grants all actions, so its log is what the actions leave at a desk.
  rw [World.calm_run, Happening.log_granted]
  exact does_runLines timing delay (Script.parse text)

theorem does_tellSkipped (typed : Typed) : Does disk (machine.tellSkipped typed) () [] := by
  rw [Machine.tellSkipped]
  split
  · exact does_pure ()
  · exact does_printError _

theorem does_showAccount (account : Account) (json : Bool) :
    Does disk (showAccount machine account json) () [] := by
  rw [showAccount]
  split
  · exact does_print _
  · split
    · exact does_pure ()
    · exact does_printError _

theorem does_runScript (timing : Timing) (text : String) (json : Bool) :
    Does disk (runScript machine ⟨host, timing⟩ text json) (.ok ())
      (Happening.log (World.calm.run timing 0 text).2) := by
  -- The account is shown behind the run, which adds nothing to the log.
  rw [← List.append_nil (Happening.log _)]
  refine does_bind (does_run timing 0 text) (does_then (does_showAccount _ json) ?_)
  rw [World.calm_run]
  exact does_pure _

/-! ### The disk -/

theorem does_isFile (path : String) :
    Does disk (machine.files.isFile path) (disk.isFile path) [] :=
  fun desk ready => ⟨desk, ready.disk ▸ rfl, ready, rfl, (List.append_nil _).symm⟩

theorem looks_readText (path : String) : Looks disk (machine.files.readText path) := by
  have reads : Does disk (machine.files.read path) (disk.read path) [] :=
    fun desk ready => ⟨desk, ready.disk ▸ rfl, ready, rfl, (List.append_nil _).symm⟩
  refine looks_bind ⟨_, reads⟩ fun found => ?_
  cases found <;> exact looks_pure _

theorem looks_firstFile (paths : List String) :
    Looks disk (Library.firstFile machine.files paths) := by
  induction paths with
  | nil => exact looks_pure none
  | cons path rest ih =>
    refine looks_bind ⟨_, does_isFile path⟩ fun found => ?_
    cases found with
    | true => exact looks_pure _
    | false => exact ih

theorem looks_locate (library : Library) (name : String) :
    Looks disk (library.locate machine.files name) := by
  rw [Library.locate]
  split
  · exact looks_pure _
  · refine looks_bind (looks_firstFile _) fun found => ?_
    cases found <;> exact looks_pure _

theorem looks_load (library : Library) (name : String) :
    Looks disk (library.load machine.files name) := by
  refine looks_bind (looks_locate library name) fun located => ?_
  cases located with
  | error failure => exact looks_pure _
  | ok path =>
    refine looks_bind (looks_readText path) fun text => ?_
    cases text <;> exact looks_pure _

end rules

end Desk
end KeyGadget.Cli
