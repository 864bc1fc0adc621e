import KeyGadget.Proofs.Desk

/-!
# Sessions of the shell

The shell takes its lines one after the other from the input, and a line leaves nothing behind for
the next: the disk stays as it is, a default delay ends with its script, and the flag, which may
have been lowered while the shell waited for a line, is up again when the line is answered. So a
session is the sum of its lines. A line is compared with a session that consists of it alone, at a
desk with the same disk, at which the flag is left alone.

## Main result

`shell_lines_are_independent`: whenever the flag is lowered between the lines, a session succeeds,
and records what its lines record alone, up to the line at which the shell is left, or to the end of
the input. Lines that come to nothing record nothing. There is one exception: a line that names a
file with the name of a dash takes the rest of the input for its script, and no line behind it is a
command; `dash_takes_the_session` is such a session.
-/
namespace KeyGadget.Cli

open Text (wholeLines)

namespace Desk

/-- The lines of a text with their ends. -/
def inputLines (text : String) : List String :=
  (wholeLines text.toList).map String.ofList

/-- A line of a text is all the lines there are in it. -/
theorem inputLines_of_mem {text line : String} (member : line ∈ inputLines text) :
    inputLines line = [line] := by
  obtain ⟨s, isLine, rfl⟩ := List.mem_map.mp member
  rw [inputLines, String.toList_ofList, Text.wholeLines_of_mem isLine]
  rfl

/-- A desk at which nothing has been done, with a text for the input, and with the flag lowered
between its lines at some times. -/
def start (disk : Disk) (text : String) (interrupts : List Bool) : Desk :=
  ⟨.start disk text.toUTF8, [], interrupts⟩

theorem start_input (disk : Disk) (text : String) (interrupts : List Bool) :
    (start disk text interrupts).terminal.input = encoded text.toList :=
  toUTF8_toList text

theorem start_ready (disk : Disk) (text : String) (interrupts : List Bool) :
    Ready disk (start disk text interrupts) :=
  ⟨rfl, rfl⟩

/-- A session of the shell at a desk with a disk, and the desk after it. -/
def session (config : Config) (disk : Disk) (text : String) (interrupts : List Bool) :
    Except Failure Unit × Desk :=
  (Cli.perform machine config .shell).run (start disk text interrupts)

/-- Whether a line leaves the shell. -/
def leaves (line : String) : Bool :=
  match Shell.parse line with
  | .ok .quit => true
  | _ => false

/-- Whether what a command runs is the rest of the input: the target is a file, so that it is not
looked for in the library, but a single dash is not read as a file. -/
def standsForInput (disk : Disk) (target : String) : Bool :=
  disk.isFile target && Path.components target == ["-"]

/-- Whether a line takes the rest of the input for a script. -/
def takesInput (disk : Disk) (line : String) : Bool :=
  match Shell.parse line with
  | .ok (.run target) => standsForInput disk target
  | _ => false

/-- Whether the line behind a line is the next command. -/
def goesOn (disk : Disk) (line : String) : Bool :=
  !leaves line && !takesInput disk line

/-- A line that comes to nothing: it cannot be read, it names no key, or the script that it names
cannot be had. -/
inductive Idle (library : Library) (disk : Disk) (line : String) : Prop
  | unread {mistake : Shell.Mistake} (parsed : Shell.parse line = .error mistake)
  | unknownKey {name : String} {error : UnknownKey} (parsed : Shell.parse line = .ok (.key name))
    (unknown : Names.resolve name = .error error)
  | unknownKeys {names : List String} {error : UnknownKey}
    (parsed : Shell.parse line = .ok (.combo names)) (unknown : Names.chord names = .error error)
  | noScript {target : String} {failure : Failure} (parsed : Shell.parse line = .ok (.run target))
    (missing : ((shellSource machine library target).run (start disk "" [])).1 = .error failure)

/-- How a session ends, by the lines that are left: what else is recorded, and what input is left
then. -/
inductive Ends (timing : Timing) (disk : Disk) :
    List String → List Bench.Event → List UInt8 → Prop
  /-- At the end of the input. -/
  | over : Ends timing disk [] [] []
  /-- At a line that leaves the shell. What stands behind it is not read. -/
  | left {line : String} (leaves : leaves line = true) (behind : List String) :
    Ends timing disk (line :: behind) [] (String.join behind).toUTF8.toList
  /-- At a line that takes what stands behind it for a script. -/
  | taken {line : String} (takes : takesInput disk line = true) (behind : List String) :
    Ends timing disk (line :: behind)
      (Happening.log (World.calm.run timing 0 (String.join behind)).2) []

/-! ### One line -/

section line

variable {disk : Disk} {timing : Timing} {library : Library} {line : String}

theorem looks_shellSource (library : Library) (target : String)
    (plain : standsForInput disk target = false) :
    Looks disk (shellSource machine library target) := by
  refine looks_then (does_isFile target) ?_
  cases found : disk.isFile target with
  | true =>
    have named : (Path.components target == ["-"]) = false := by
      simpa [standsForInput, found] using plain
    rw [if_pos rfl, Machine.readSource, named]
    refine looks_bind (looks_readText target) fun text => ?_
    cases text <;> exact looks_pure _
  | false =>
    refine looks_bind (looks_load library target) fun text => ?_
    cases text <;> exact looks_pure _

/-- A single dash stands for the rest of the input, whatever the file holds. -/
theorem shellSource_input (library : Library) (target : String) (desk : Desk) (s : List Char)
    (dash : standsForInput desk.terminal.disk target = true)
    (input : desk.terminal.input = encoded s) :
    (shellSource machine library target).run desk =
      (.ok (String.ofList s), { desk with terminal := { desk.terminal with input := [] } }) := by
  obtain ⟨found, named⟩ := Bool.and_eq_true_iff.mp dash
  have probed : (machine.files.isFile target).run desk = (true, desk) := by
    rw [← found]
    rfl
  have rest : machine.readRest.run desk =
      (.ok (String.ofList s), { desk with terminal := { desk.terminal with input := [] } }) := by
    have read : Terminal.machine.readRest.run desk.terminal = _ :=
      Terminal.readRest_encoded desk.terminal s input
    exact (atTerminal_run Terminal.machine.readRest desk).trans (by rw [read])
  have chosen : (shellSource machine library target).run desk =
      (machine.readSource target).run desk := by
    rw [shellSource, StateT.run_bind, probed]
    rfl
  rw [chosen]
  exact machine.readSource_dash target _ desk _ (beq_iff_eq.mp named) rest

/-- Every command but that which takes the input does the same at all desks with the disk. -/
theorem does_obey (timing : Timing) (library : Library) (command : Shell.Command)
    (plain : ∀ target, command = .run target → standsForInput disk target = false) :
    ∃ result events, Does disk (obey machine ⟨host, timing⟩ library command) result events := by
  cases command with
  | empty | quit => exact ⟨_, _, does_pure _⟩
  | help => exact ⟨_, _, does_then (does_print _) (does_pure _)⟩
  | test =>
    exact ⟨_, _, does_bind (does_carryOut Plan.release) (does_then (does_print _) (does_pure _))⟩
  | typeText text =>
    exact ⟨_, _, does_bind (does_carryOut (Plan.type timing text))
      (does_then (does_tellSkipped _) (does_pure _))⟩
  | key name => exact ⟨_, _, does_return (does_attempt (Plan.tap timing name)) rfl⟩
  | combo names => exact ⟨_, _, does_return (does_attempt (Plan.combo timing names)) rfl⟩
  | run target =>
    obtain ⟨source, looked⟩ := looks_shellSource library target (plain target rfl)
    cases source with
    | error failure => exact ⟨_, _, does_then looked (does_pure _)⟩
    | ok text => exact ⟨_, _, does_then looked (does_runScript timing text false)⟩

theorem answer_of_command {command : Shell.Command} (parsed : Shell.parse line = .ok command)
    (stays : command ≠ .quit) :
    answer machine ⟨host, timing⟩ library line = (do
      match ← obey machine ⟨host, timing⟩ library command with
      | .ok () => return true
      | .error failure =>
        machine.printError failure.remark
        return true) := by
  rw [answer, parsed]
  cases command <;> first | rfl | exact absurd rfl stays

/-- What goes wrong with a command is told, and the shell goes on. -/
theorem does_answer {command : Shell.Command} (parsed : Shell.parse line = .ok command)
    (stays : command ≠ .quit) {result : Except Failure Unit} {events : List Bench.Event}
    (obeys : Does disk (obey machine ⟨host, timing⟩ library command) result events) :
    Does disk (answer machine ⟨host, timing⟩ library line) true events := by
  rw [answer_of_command parsed stays, ← List.append_nil events]
  refine does_bind obeys ?_
  cases result with
  | ok _ => exact does_pure true
  | error failure => exact does_then (does_printError _) (does_pure true)

theorem does_mistake {mistake : Shell.Mistake} (parsed : Shell.parse line = .error mistake) :
    Does disk (answer machine ⟨host, timing⟩ library line) true [] := by
  rw [answer, parsed]
  exact does_then (does_printError _) (does_pure true)

theorem answer_leaves (leave : leaves line = true) :
    answer machine ⟨host, timing⟩ library line = pure false := by
  rw [leaves] at leave
  split at leave
  · next parsed => rw [answer, parsed]
  · cases leave

/-- What a line records that is answered at a desk with a disk. -/
def lineEvents (timing : Timing) (library : Library) (disk : Disk) (line : String) :
    List Bench.Event :=
  ((answer machine ⟨host, timing⟩ library line).run (start disk "" [])).2.log

theorem lineEvents_eq {on : Bool} {events : List Bench.Event}
    (does : Does disk (answer machine ⟨host, timing⟩ library line) on events) :
    lineEvents timing library disk line = events := by
  obtain ⟨after, answered, -, -, recorded⟩ := does (start disk "" []) (start_ready disk "" [])
  rw [lineEvents, answered]
  exact recorded

/-- A line behind which the shell goes on records the same at all desks with a disk. -/
theorem does_line (timing : Timing) (library : Library) (on : goesOn disk line = true) :
    Does disk (answer machine ⟨host, timing⟩ library line) true
      (lineEvents timing library disk line) := by
  have answers : ∃ events, Does disk (answer machine ⟨host, timing⟩ library line) true events := by
    cases parsed : Shell.parse line with
    | error mistake => exact ⟨[], does_mistake parsed⟩
    | ok command =>
      have stays : command ≠ .quit := by
        rintro rfl
        simp [goesOn, leaves, parsed] at on
      have plain : ∀ target, command = .run target → standsForInput disk target = false := by
        rintro target rfl
        simpa [goesOn, leaves, takesInput, parsed] using on
      obtain ⟨result, events, obeys⟩ := does_obey timing library command plain
      exact ⟨events, does_answer parsed stays obeys⟩
  -- The events are the same at every desk, so they are those at a desk with no input.
  obtain ⟨events, does⟩ := answers
  rwa [lineEvents_eq does]

theorem answer_takes (timing : Timing) (library : Library) (takes : takesInput disk line = true)
    (desk : Desk) (s : List Char) (ready : Ready disk desk)
    (input : desk.terminal.input = encoded s) :
    ∃ after, (answer machine ⟨host, timing⟩ library line).run desk = (true, after) ∧
      Ready disk after ∧ after.terminal.input = [] ∧
      after.log = desk.log ++ Happening.log (World.calm.run timing 0 (String.ofList s)).2 := by
  rw [takesInput] at takes
  split at takes
  · next target parsed =>
    have source := shellSource_input library target desk s (ready.disk ▸ takes) input
    have runs : Does disk (runScript machine ⟨host, timing⟩ (String.ofList s) false) (.ok ()) _ :=
      does_runScript timing (String.ofList s) false
    -- The script runs at a desk with no input left.
    obtain ⟨after, ran, kept, left, recorded⟩ :=
      runs { desk with terminal := { desk.terminal with input := [] } } ⟨ready.disk, ready.running⟩
    refine ⟨after, ?_, kept, left, recorded⟩
    have obeyed : (obey machine ⟨host, timing⟩ library (.run target)).run desk =
        (.ok (), after) := by
      rw [obey, StateT.run_bind, source]
      exact ran
    rw [answer_of_command parsed nofun, StateT.run_bind, obeyed]
    rfl
  · cases takes

theorem goesOn_of_idle (idle : Idle library disk line) : goesOn disk line = true := by
  cases idle with
  | unread parsed | unknownKey parsed _ | unknownKeys parsed _ =>
    simp [goesOn, leaves, takesInput, parsed]
  | @noScript target failure parsed missing =>
    cases dash : standsForInput disk target with
    | false => simp [goesOn, leaves, takesInput, parsed, dash]
    | true =>
      -- The rest of the input can always be had.
      rw [shellSource_input library target (start disk "" []) [] dash
        (start_input disk "" [])] at missing
      cases missing

/-- A line that comes to nothing records nothing. -/
theorem lineEvents_of_idle (timing : Timing) (idle : Idle library disk line) :
    lineEvents timing library disk line = [] := by
  have on := goesOn_of_idle idle
  cases idle with
  | unread parsed => exact lineEvents_eq (does_mistake parsed)
  | @unknownKey name error parsed unknown =>
    have planned : Plan.tap timing name = .error error := by
      rw [Plan.tap, Plan.press, unknown]
      rfl
    exact lineEvents_eq (does_answer parsed nofun (does_return (does_refused planned) rfl))
  | @unknownKeys names error parsed unknown =>
    have planned : Plan.combo timing names = .error error := by
      rw [Plan.combo, unknown]
      rfl
    exact lineEvents_eq (does_answer parsed nofun (does_return (does_refused planned) rfl))
  | @noScript target failure parsed missing =>
    have plain : standsForInput disk target = false := by
      simpa [goesOn, leaves, takesInput, parsed] using on
    obtain ⟨source, looked⟩ := looks_shellSource library target plain
    obtain ⟨after, ran, -⟩ := looked (start disk "" []) (start_ready disk "" [])
    rw [ran] at missing
    obtain rfl : source = .error failure := missing
    exact lineEvents_eq (does_answer parsed nofun (does_then looked (does_pure _)))

end line

/-! ### Line by line -/

section turns

variable {disk : Disk} (timing : Timing) (library : Library)

/-- A desk that has been asked for a line has the same disk, input and log. The flag may be down. -/
private theorem read_prompted (desk : Desk) (prompt : String) :
    ∃ asked : Desk, (machine.print prompt >>= fun _ => machine.readLine).run desk =
        (asked.terminal.readLine.1, { asked with terminal := asked.terminal.readLine.2 }) ∧
      asked.terminal.disk = desk.terminal.disk ∧ asked.terminal.input = desk.terminal.input ∧
      asked.log = desk.log :=
  ⟨⟨{ desk.terminal with
      output := desk.terminal.output ++ prompt
      running := desk.terminal.running && !desk.interrupts.headD false },
    desk.log, desk.interrupts.tail⟩, rfl, rfl, rfl, rfl⟩

private theorem resume_run (desk : Desk) :
    machine.resume.run desk =
      ((), { desk with terminal := { desk.terminal with running := true } }) := rfl

private theorem turn_run (desk : Desk) :
    (turn machine ⟨host, timing⟩ library).run desk =
      (do
        match ← (machine.print "picycle> " >>= fun _ => machine.readLine) with
        | .error error => return some (.error (.ofFile error))
        | .ok none => return some (.ok ())
        | .ok (some line) =>
          machine.resume
          if ← answer machine ⟨host, timing⟩ library line then return none
          else return some (.ok ()) : StateM Desk (Option (Except Failure Unit))).run desk := rfl

/-- At the end of the input the session is over. -/
theorem turn_end (desk : Desk) (input : desk.terminal.input = []) :
    ∃ after, (turn machine ⟨host, timing⟩ library).run desk = (some (.ok ()), after) ∧
      after.terminal.disk = desk.terminal.disk ∧ after.terminal.input = [] ∧
      after.log = desk.log := by
  obtain ⟨asked, read, kept, left, unrecorded⟩ := read_prompted desk "picycle> "
  rw [Terminal.readLine_end asked.terminal (left.trans input)] at read
  refine ⟨asked, ?_, kept, left.trans input, unrecorded⟩
  rw [turn_run, StateT.run_bind, read]
  rfl

/-- A line is taken from the input and answered with the flag up, and the answer tells whether there
is another turn. -/
theorem turn_line (desk : Desk) (s line : List Char) (others : List (List Char))
    (lines : wholeLines s = line :: others) (input : desk.terminal.input = encoded s) :
    ∃ read : Desk, Ready desk.terminal.disk read ∧
      read.terminal.input = encoded others.flatten ∧ read.log = desk.log ∧
      ∀ on after,
        (answer machine ⟨host, timing⟩ library (String.ofList line)).run read = (on, after) →
        (turn machine ⟨host, timing⟩ library).run desk =
          (if on then none else some (.ok ()), after) := by
  obtain ⟨asked, read, kept, left, unrecorded⟩ := read_prompted desk "picycle> "
  rw [Terminal.readLine_encoded asked.terminal s line others lines (left.trans input)] at read
  refine ⟨{ asked with terminal :=
    { asked.terminal with input := encoded others.flatten, running := true } },
    ⟨kept, rfl⟩, rfl, unrecorded, fun on after answered => ?_⟩
  rw [turn_run, StateT.run_bind, read]
  change (machine.resume >>= _).run _ = _
  rw [StateT.run_bind, resume_run]
  change (answer machine ⟨host, timing⟩ library (String.ofList line) >>= _).run _ = _
  rw [StateT.run_bind, answered]
  cases on <;> rfl

private theorem iterate_over {step : StateM Desk (Option (Except Failure Unit))} {desk after : Desk}
    {result : Except Failure Unit} (fuel : Nat) (ended : step.run desk = (some result, after)) :
    (Terminal.iterate step (fuel + 1)).run desk = (result, after) := by
  rw [Terminal.iterate, StateT.run_bind, ended]
  rfl

private theorem iterate_next {step : StateM Desk (Option (Except Failure Unit))} {desk after : Desk}
    (fuel : Nat) (went : step.run desk = (none, after)) :
    (Terminal.iterate step (fuel + 1)).run desk = (Terminal.iterate step fuel).run after := by
  rw [Terminal.iterate, StateT.run_bind, went]
  rfl

private theorem join_lines (lines : List (List Char)) :
    String.join (lines.map String.ofList) = String.ofList lines.flatten := by
  rw [← String.toList_inj, String.toList_join, List.flatMap_map, String.toList_ofList]
  simp only [String.toList_ofList, List.flatMap_id']

/-- What a turn leaves to the next is the rest of the lines and nothing else. The fuel is not used
up, for every turn but the last takes a line from the input; if it were, the result would be a
failure. -/
theorem iterate_turn (lines : List (List Char)) (whole : wholeLines lines.flatten = lines)
    (fuel : Nat) (desk : Desk) (same : desk.terminal.disk = disk)
    (input : desk.terminal.input = encoded lines.flatten)
    (enough : desk.terminal.input.length < fuel) :
    ∃ after last,
      (Terminal.iterate (turn machine ⟨host, timing⟩ library) fuel).run desk = (.ok (), after) ∧
      after.terminal.disk = disk ∧
      Ends timing disk ((lines.map String.ofList).dropWhile (goesOn disk)) last
        after.terminal.input ∧
      after.log = desk.log ++ (((lines.map String.ofList).takeWhile (goesOn disk)).flatMap
        (lineEvents timing library disk) ++ last) := by
  induction lines generalizing fuel desk with
  | nil =>
    obtain ⟨fuel, rfl⟩ := Nat.exists_eq_add_one_of_ne_zero (Nat.ne_zero_of_lt enough)
    obtain ⟨after, ended, kept, left, recorded⟩ := turn_end timing library desk input
    exact ⟨after, [], iterate_over fuel ended, kept.trans same, left ▸ .over, by simp [recorded]⟩
  | cons line others ih =>
    obtain ⟨fuel, rfl⟩ := Nat.exists_eq_add_one_of_ne_zero (Nat.ne_zero_of_lt enough)
    obtain ⟨read, ready, left, unrecorded, turned⟩ :=
      turn_line timing library desk _ line others whole input
    rw [same] at ready
    have shorter : (encoded others.flatten).length < fuel := by
      have taken := List.length_pos_iff.mpr (encoded_ne_nil (Text.ne_nil_of_wholeLines whole))
      rw [input, List.flatten_cons, encoded_append, List.length_append] at enough
      omega
    rw [List.map_cons, List.takeWhile_cons, List.dropWhile_cons]
    cases on : goesOn disk (String.ofList line) with
    | true =>
      -- The next turn finds the disk as it was and the input behind the line.
      obtain ⟨next, answered, kept, remains, added⟩ := does_line timing library on read ready
      have input := remains.trans left
      obtain ⟨after, last, went, keeps, ends, recorded⟩ :=
        ih (Text.wholeLines_tail whole) fuel next kept.disk input (input ▸ shorter)
      refine ⟨after, last, ?_, keeps, ends, ?_⟩
      · rw [iterate_next fuel (turned true next answered)]
        exact went
      · simp [recorded, added, unrecorded]
    | false =>
      cases leave : leaves (String.ofList line) with
      | true =>
        have answered : (answer machine ⟨host, timing⟩ library (String.ofList line)).run read =
            (false, read) := by
          rw [answer_leaves leave]
          rfl
        refine ⟨read, [], iterate_over fuel (turned false read answered), ready.disk, ?_, ?_⟩
        · rw [left, ← @String.toList_ofList others.flatten, ← toUTF8_toList, ← join_lines]
          exact .left leave _
        · simp [unrecorded]
      | false =>
        have takes : takesInput disk (String.ofList line) = true := by
          simpa [goesOn, leave] using on
        obtain ⟨next, answered, kept, empty, added⟩ :=
          answer_takes timing library takes read _ ready left
        -- There is no line left for the last turn.
        obtain ⟨after, ended, keeps, nothing, recorded⟩ := turn_end timing library next empty
        obtain ⟨fuel, rfl⟩ := Nat.exists_eq_add_one_of_ne_zero (Nat.ne_zero_of_lt shorter)
        refine ⟨after, Happening.log (World.calm.run timing 0 (String.ofList others.flatten)).2,
          ?_, keeps.trans kept.disk, ?_, ?_⟩
        · rw [iterate_next _ (turned true next answered)]
          exact iterate_over fuel ended
        · rw [nothing, ← join_lines]
          exact .taken takes _
        · simp [recorded, added, unrecorded]

end turns

/-! ### Sessions -/

theorem session_ends (config : Config) (disk : Disk) (text : String) (interrupts : List Bool) :
    ∃ after last, session config disk text interrupts = (.ok (), after) ∧
      after.terminal.disk = disk ∧
      Ends config.timing disk ((inputLines text).dropWhile (goesOn disk)) last
        after.terminal.input ∧
      after.log = ((inputLines text).takeWhile (goesOn disk)).flatMap
        (lineEvents config.timing ⟨config.scriptsDirectory⟩ disk) ++ last := by
  obtain ⟨greeted, helped, ready, left, unrecorded⟩ :=
    does_print (Shell.help ++ "\n") _ (start_ready disk text interrupts)
  -- The help is printed, and nothing is read yet.
  have input : greeted.terminal.input = encoded (wholeLines text.toList).flatten := by
    rw [left, start_input, Text.flatten_wholeLines]
  have whole : wholeLines (wholeLines text.toList).flatten = wholeLines text.toList := by
    rw [Text.flatten_wholeLines]
  obtain ⟨after, last, went, keeps, ends, recorded⟩ :=
    iterate_turn config.timing ⟨config.scriptsDirectory⟩ _ whole _ greeted ready.disk input
      (Nat.lt_succ_self _)
  refine ⟨after, last, ?_, keeps, ends, recorded.trans (by rw [unrecorded]; rfl)⟩
  have opened : session config disk text interrupts =
      (shell machine ⟨host, config.timing⟩ ⟨config.scriptsDirectory⟩).run
        (start disk text interrupts) := rfl
  rw [opened, shell, StateT.run_bind, helped]
  exact went

/-- A session of a single line records what the line records. -/
theorem session_line (config : Config) (disk : Disk) (line : String)
    (single : inputLines line = [line]) (on : goesOn disk line = true) :
    (session config disk line []).2.log =
      lineEvents config.timing ⟨config.scriptsDirectory⟩ disk line := by
  obtain ⟨after, last, session, -, ends, recorded⟩ := session_ends config disk line []
  rw [single, List.dropWhile_cons_of_pos on] at ends
  rw [single, List.takeWhile_cons_of_pos on] at recorded
  generalize after.terminal.input = input at ends
  cases ends
  rw [session, recorded]
  simp

/-- **A session is the sum of its lines**: it succeeds, and what is recorded in it, reports and
waits, is what its lines record in sessions of their own, up to the line that leaves the shell or
takes the rest of the input, whenever the flag is lowered before a line is read. A line that comes
to nothing records nothing and is passed over. A session whose turns did not come to an end would
use up the fuel and fail. -/
theorem shell_lines_are_independent (config : Config) (disk : Disk) (text : String)
    (interrupts : List Bool) :
    let lines := inputLines text
    let alone := fun line => (session config disk line []).2.log
    let (result, desk) := session config disk text interrupts
    result = .ok () ∧ desk.terminal.disk = disk ∧
    (∀ line ∈ lines, Idle ⟨config.scriptsDirectory⟩ disk line →
      goesOn disk line = true ∧ alone line = []) ∧
    ∃ last, Ends config.timing disk (lines.dropWhile (goesOn disk)) last desk.terminal.input ∧
      desk.log = (lines.takeWhile (goesOn disk)).flatMap alone ++ last := by
  intro lines alone
  have each : ∀ line ∈ lines, goesOn disk line = true →
      alone line = lineEvents config.timing ⟨config.scriptsDirectory⟩ disk line := by
    intro line member on
    exact session_line config disk line (inputLines_of_mem member) on
  obtain ⟨after, last, session, keeps, ends, recorded⟩ := session_ends config disk text interrupts
  rw [session]
  refine ⟨rfl, keeps, fun line member idle => ?_, last, ends, ?_⟩
  · have on := goesOn_of_idle idle
    exact ⟨on, (each line member on).trans (lineEvents_of_idle config.timing idle)⟩
  · rw [recorded, List.flatMap_def, List.flatMap_def]
    congr 2
    refine List.map_congr_left fun line member => ?_
    have on := List.all_eq_true.mp List.all_takeWhile line member
    exact (each line ((List.takeWhile_sublist _).mem member) on).symm

/-- A file with the name of a dash is not run. What would be typed behind it is run instead, as a
line of a script, which names no keys. -/
theorem dash_takes_the_session :
    let config : Config := ⟨"info", "/dev/hidg0", .standard, "scripts"⟩
    let disk := Disk.fresh.put ["work", "-"] (.file .empty)
    let lines := ["ducky -\n", "type ab\n"]
    let alone := fun line => (session config disk line []).2.log
    inputLines "ducky -\ntype ab\n" = lines ∧ (∀ line ∈ lines, leaves line = false) ∧
    (session config disk "ducky -\ntype ab\n" []).2.log = [] ∧ lines.flatMap alone ≠ [] := by
  intro config disk lines alone
  have split : inputLines "ducky -\ntype ab\n" = lines := by decide +kernel
  have parsed : Shell.parse "ducky -\n" = .ok (.run "-") := rfl
  -- The dash leads to a file, so the library is not asked, but it is the input that is read.
  have found : disk.isFile "-" = true := by
    rw [Disk.isFile, Disk.find, Disk.locate, String.contains_char_eq]
    decide +kernel
  have takes : takesInput disk "ducky -\n" = true := by
    simp only [takesInput, parsed, standsForInput, found]
    decide +kernel
  have stops : ¬goesOn disk "ducky -\n" = true := by simp [goesOn, takes]
  have typed : alone "type ab\n" = lineEvents .standard ⟨"scripts"⟩ disk "type ab\n" :=
    session_line config disk "type ab\n" (by decide +kernel) (by decide +kernel)
  obtain ⟨after, last, session, -, ends, recorded⟩ :=
    session_ends config disk "ducky -\ntype ab\n" []
  rw [split, List.dropWhile_cons_of_neg stops] at ends
  rw [split, List.takeWhile_cons_of_neg stops] at recorded
  refine ⟨split, by decide +kernel, ?_, ?_⟩
  · rw [session, recorded]
    generalize after.terminal.input = input at ends
    cases ends with
    | left leave _ => exact absurd leave (by decide +kernel)
    | taken takes _ => decide +kernel
  · have reports : lineEvents .standard ⟨"scripts"⟩ disk "type ab\n" ≠ [] := by decide +kernel
    intro silent
    rw [List.flatMap_eq_nil_iff] at silent
    exact reports (typed ▸ silent "type ab\n" (by decide))

end Desk
end KeyGadget.Cli
