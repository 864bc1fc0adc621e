import KeyGadget.Cli.Shell
import KeyGadget.Proofs.Keystroke
import KeyGadget.Proofs.OneLine
import KeyGadget.Proofs.Steady

/-!
# Front ends

The same keys can be asked for in a script, in the shell and on the command line. Each of the three
takes its words apart in its own way and calls the session in its own way. They are compared behind
the same history, with the same timing, and in a world that does not care how often a session looks
at the flag, for a script looks once more than the others.

## Main result

`front_ends_agree`: the three send the same and end the same, with one exception. A script does not
begin a line when the flag is down, even if there is nothing to send for it, and the others find
out only when they are about to press something; `script_interrupted_before_unknown_key` is such a
script.
-/
namespace KeyGadget

open Script
open Text (IsWord Trimmed)
open Happening (deeds)

/-! ### A session that is watched -/

/-- What is seen of a front end: all that happens in a world, and the remarks that are printed. -/
abbrev Watched := StateT (List String) (StateM (List Happening))

/-- A world as a host for a front end that prints remarks. -/
def World.watched (world : World) : Host Watched where
  write report := StateT.lift (world.host.write report)
  sleep ms := StateT.lift (world.host.sleep ms)
  running := StateT.lift world.host.running

/-- A machine with the remarks kept. -/
def Cli.Machine.watched (machine : Cli.Machine Watched) : Cli.Machine Watched :=
  { machine with printError := fun text => modify (· ++ [text]) }

namespace World

variable (world : World) (remarks : List String) (past : List Happening)

theorem watched_perform (actions : List Action) :
    ((world.watched.perform actions).run remarks).run past =
      (((world.perform actions past).1, remarks), (world.perform actions past).2) := by
  induction actions generalizing past with
  | nil => rfl
  | cons action rest ih =>
    rw [perform_cons]
    cases action with
    | check =>
      have looked : (world.watched.running.run remarks).run past =
          ((world.going past, remarks), past ++ [.look (world.going past)]) := rfl
      rw [Host.perform, StateT.run_bind, StateT.run_bind, looked]
      cases up : world.going past with
      | true =>
        simp only [respond, up, Happening.failure]
        exact ih _
      | false =>
        simp only [respond, up, Happening.failure]
        rfl
    | write report =>
      have wrote : ((world.watched.write report).run remarks).run past =
          ((world.answer past report, remarks),
            past ++ [world.respond past (.write report)]) := rfl
      rw [Host.perform, StateT.run_bind, StateT.run_bind, wrote]
      cases answer : world.answer past report with
      | ok _ =>
        simp only [respond, answer, Happening.failure]
        exact ih _
      | error error =>
        simp only [respond, answer, Happening.failure]
        rfl
    | sleep ms => exact ih _

theorem watched_attempt {α : Type} (planned : Except UnknownKey (Plan α)) :
    ((world.watched.attempt planned).run remarks).run past =
      ((((world.host.attempt planned).run past).1, remarks),
        ((world.host.attempt planned).run past).2) := by
  cases planned with
  | error error => rfl
  | ok plan =>
    rw [attempt_eq, Host.attempt, Host.carryOut, StateT.run_bind, StateT.run_bind,
      watched_perform, Plan.actionsOf]
    rcases world.perform plan.actions past with ⟨_ | _, after⟩ <;> rfl

end World

/-! ### Ways to ask for keys -/

namespace FrontEnd

/-- A front end comes to the same as a request to the session: it writes and waits as the session
does, and what comes of the request is what it gives back and prints. -/
def Follows {α β : Type} (world : World) (past : List Happening)
    (planned : Except UnknownKey (Plan α)) (gives : α → β) (prints : α → List String)
    (frontEnd : Watched (Except Cli.Failure β)) : Prop :=
  ∀ remarks, (frontEnd.run remarks).run past =
    match (world.host.attempt planned).run past with
    | (.ok value, after) => ((.ok (gives value), remarks ++ prints value), after)
    | (.error cause, after) => ((.error (.ofSend cause), remarks), after)

/-- The run of a new script with one line, of which this has come. -/
def settled (text : String) : Except SendError Status → Run
  | .ok status => ⟨⟨[⟨1, text, status⟩]⟩, none, 0⟩
  | .error (.unknownKey error) => ⟨⟨[⟨1, text, .skipped error.message⟩]⟩, none, 0⟩
  | .error cause => ⟨⟨[]⟩, some ⟨1, cause⟩, 0⟩

/-- A new script comes to the same as a request to the session: it writes and waits as the session
does, and what comes of the request stands in its account or stops it. If the flag is down from the
start, the script is stopped, also if there is nothing to send. -/
structure ScriptFollows {α : Type} (world : World) (timing : Timing) (past : List Happening)
    (planned : Except UnknownKey (Plan α)) (status : α → Status) (text : String) : Prop where
  deeds : deeds ((world.host.run timing 0 text).run past).2 =
    deeds ((world.host.attempt planned).run past).2
  run : world.going past = true ∨ Plan.actionsOf planned ≠ [] →
    ((world.host.run timing 0 text).run past).1 =
      settled text (((world.host.attempt planned).run past).1.map status)
  stop : world.going past = false →
    ((world.host.run timing 0 text).run past).1 = ⟨⟨[]⟩, some ⟨1, .interrupted⟩, 0⟩

/-- The line of a script that asks for what is planned. -/
structure Asks {α : Type} (timing : Timing) (planned : Except UnknownKey (Plan α))
    (status : α → Status) (command : Command) : Prop where
  plan : command.plan timing = planned.map fun plan => plan.map status
  keeps : command.delayAfter 0 = 0
  counts : command ≠ .comment
  sends : ∃ hold gap strokes, Plan.actionsOf planned = Plan.strokesActions hold gap strokes

variable {α : Type} {timing : Timing} {planned : Except UnknownKey (Plan α)} {status : α → Status}
  {command : Command}

private theorem Asks.uncommented (asks : Asks timing planned status command) (text : String) :
    (Line.mk 1 text (.ok command)).isComment = false := by
  have counts := asks.counts
  cases command with
  | comment => exact absurd rfl counts
  | _ => rfl

private theorem Asks.actions (asks : Asks timing planned status command) (text : String) :
    (Line.mk 1 text (.ok command)).actions timing 0 = .check :: Plan.actionsOf planned := by
  have settled : (Line.mk 1 text (.ok command)).delayAfter 0 = 0 := asks.keeps
  have own : ((Line.mk 1 text (.ok command)).plan timing).actions = Plan.actionsOf planned := by
    simp only [Line.plan, asks.plan]
    cases planned <;> rfl
  rw [Line.actions, asks.uncommented text, settled, own]
  exact List.append_nil _

private theorem Asks.entries (asks : Asks timing planned status command) (text : String) :
    Run.after ((Line.mk 1 text (.ok command)).entries timing) ⟨⟨[]⟩, none, 0⟩ =
      settled text ((Plan.promise planned).map status) := by
  have own : ((Line.mk 1 text (.ok command)).plan timing).outcome =
      match planned with
      | .ok plan => status plan.outcome
      | .error error => .skipped error.message := by
    simp only [Line.plan, asks.plan]
    cases planned <;> rfl
  rw [Line.entries, asks.uncommented text, own]
  cases planned <;> rfl

/-- A run of one line looks at the flag and then does what is planned. -/
private theorem Asks.run (asks : Asks timing planned status command) (world : World)
    (text : String) (parsed : Script.parse text = [⟨1, text, .ok command⟩])
    (past : List Happening) :
    (world.host.run timing 0 text).run past =
      match world.perform (.check :: Plan.actionsOf planned) past with
      | (.ok (), after) => (settled text ((Plan.promise planned).map status), after)
      | (.error cause, after) => (⟨⟨[]⟩, some ⟨1, cause⟩, 0⟩, after) := by
  have lines : (world.host.run timing 0 text).run past =
      world.runLines timing 0 [⟨1, text, .ok command⟩] past := by
    rw [Host.run, parsed]
    rfl
  rw [lines, World.runLines_cons, asks.actions text]
  rcases world.perform (.check :: Plan.actionsOf planned) past with ⟨cause | _, after⟩
  · rfl
  · have settled : (Line.mk 1 text (.ok command)).delayAfter 0 = 0 := asks.keeps
    rw [← asks.entries text, settled]
    rfl

private theorem settled_refused (world : World) (actions : List Action)
    (past after : List Happening) (cause : SendError) (text : String)
    (performed : world.perform actions past = (.error cause, after)) :
    settled text (.error cause) = ⟨⟨[]⟩, some ⟨1, cause⟩, 0⟩ := by
  obtain ⟨_, _, _, _, _, refusal, _⟩ := world.perform_error actions past after cause performed
  cases refusal <;> rfl

/-- A script of one line follows the request that it asks for. -/
theorem Asks.follows (asks : Asks timing planned status command) {world : World}
    (steady : world.Steady) (text : String)
    (parsed : Script.parse text = [⟨1, text, .ok command⟩]) (past : List Happening) :
    ScriptFollows world timing past planned status text := by
  suffices both : let request := (world.host.attempt planned).run past
      let script := (world.host.run timing 0 text).run past
      deeds script.2 = deeds request.2 ∧
      (world.going past = true ∨ Plan.actionsOf planned ≠ [] →
        script.1 = settled text (request.1.map status)) ∧
      (world.going past = false → script.1 = ⟨⟨[]⟩, some ⟨1, .interrupted⟩, 0⟩) from
    ⟨both.1, both.2.1, both.2.2⟩
  intro request script
  have requested : request = _ := World.attempt_eq world planned past
  have scripted : script = _ := asks.run world text parsed past
  rw [requested, scripted]
  cases up : world.going past with
  | true =>
    -- The look of the script is all by which the two histories differ.
    rw [world.perform_look _ past up]
    obtain ⟨same, done⟩ := steady.perform (Plan.actionsOf planned) (past ++ [.look true]) past
      (Happening.deeds_look past true)
    rcases begun : world.perform (Plan.actionsOf planned) (past ++ [.look true]) with ⟨result, ran⟩
    rcases performed : world.perform (Plan.actionsOf planned) past with ⟨_, after⟩
    rw [begun, performed] at same done
    rw [begun]
    cases same
    rcases result with cause | ⟨⟩
    · have refused := settled_refused world _ past after cause text performed
      exact ⟨done, fun _ => refused.symm, nofun⟩
    · exact ⟨done, fun _ => rfl, nofun⟩
  | false =>
    rw [world.perform_down _ past up]
    obtain ⟨hold, gap, strokes, sends⟩ := asks.sends
    rw [sends]
    -- With nothing to send the request does not even find that the flag is down.
    cases strokes with
    | nil => exact ⟨Happening.deeds_look past false, by simp [Plan.strokesActions], fun _ => rfl⟩
    | cons stroke later =>
      rw [Plan.strokesActions_cons, world.perform_down _ past up]
      exact ⟨rfl, fun _ => rfl, fun _ => rfl⟩

theorem asks_key (timing : Timing) (name : String) :
    Asks timing (Plan.tap timing name) (fun stroke => .pressed name stroke.modifiers)
      (.pressKey name .none) :=
  ⟨rfl, rfl, nofun, _, _, _, Plan.press_actions timing name .none timing.keyPress⟩

private theorem asks_combo (timing : Timing) (names : List String) :
    Asks timing (Plan.combo timing names)
      (fun chord => .combo chord.modifiers chord.key chord.unknown) (.combo names) :=
  ⟨rfl, rfl, nofun, _, _, _, Plan.combo_actions timing names⟩

private theorem asks_type (timing : Timing) (text : String) :
    Asks timing (.ok (Plan.type timing text)) (fun typed => .typed typed.characters typed.skipped)
      (.typeText text) :=
  ⟨rfl, rfl, nofun, _, _, _, Plan.typeWithHold_actions timing timing.charDelay text⟩

section front

variable {β : Type} (world : World) (machine : Cli.Machine Watched) (library : Library)
  (timing : Timing) (past : List Happening)

/-- A front end that passes a request on follows it. -/
private theorem follows_bind {planned : Except UnknownKey (Plan α)} {gives : α → β}
    {prints : α → List String} (tell : Except SendError α → Watched (Except Cli.Failure β))
    (told : ∀ value remarks after, ((tell (.ok value)).run remarks).run after =
      ((.ok (gives value), remarks ++ prints value), after))
    (refused : ∀ cause remarks after, ((tell (.error cause)).run remarks).run after =
      ((.error (.ofSend cause), remarks), after)) :
    Follows world past planned gives prints (world.watched.attempt planned >>= tell) := by
  intro remarks
  rw [StateT.run_bind, StateT.run_bind, World.watched_attempt]
  rcases (world.host.attempt planned).run past with ⟨cause | value, after⟩
  · exact refused cause remarks after
  · exact told value remarks after

def silent (_ : α) : List String := []

/-- The remark about characters that were not typed. -/
def missedRemark (typed : Typed) : List String :=
  if typed.skipped.isEmpty then []
  else ["skipped characters with no key: " ++ Text.quoted (String.ofList typed.skipped) ++ "\n"]

/-- The remark about names that were not known. -/
def unknownRemark (chord : Names.Chord) : List String :=
  if chord.unknown.isEmpty then []
  else ["skipped unknown keys: " ++ ", ".intercalate chord.unknown ++ "\n"]

private theorem follows_outcome (planned : Except UnknownKey (Plan α)) :
    Follows world past planned (fun _ => ()) silent
      (world.watched.attempt planned >>= fun result => pure (Cli.outcomeOf result)) := by
  apply follows_bind
  · intro value remarks after
    rw [silent, List.append_nil]
    rfl
  · intros
    rfl

theorem shell_key (name : String) :
    Follows world past (Plan.tap timing name) (fun _ => ()) silent
      (Cli.obey machine.watched ⟨world.watched, timing⟩ library (.key name)) :=
  follows_outcome world past _

private theorem shell_combo (names : List String) :
    Follows world past (Plan.combo timing names) (fun _ => ()) silent
      (Cli.obey machine.watched ⟨world.watched, timing⟩ library (.combo names)) :=
  follows_outcome world past _

private theorem tellSkipped_watched (typed : Typed) (remarks : List String)
    (after : List Happening) :
    ((machine.watched.tellSkipped typed).run remarks).run after =
      (((), remarks ++ missedRemark typed), after) := by
  rw [Cli.Machine.tellSkipped, missedRemark]
  cases typed.skipped.isEmpty with
  | true =>
    simp only [if_true, List.append_nil]
    rfl
  | false => rfl

/-- A front end that types a text and tells what it missed follows the request. -/
private theorem follows_type (text : String)
    (tell : Except SendError Typed → Watched (Except Cli.Failure Unit))
    (told : ∀ typed, tell (.ok typed) = do
      machine.watched.tellSkipped typed
      return .ok ())
    (refused : ∀ cause, tell (.error cause) = return .error (.ofSend cause)) :
    Follows world past (.ok (Plan.type timing text)) (fun _ => ()) missedRemark
      (world.watched.carryOut (Plan.type timing text) >>= tell) := by
  apply follows_bind
  · intro typed remarks after
    rw [told, StateT.run_bind, StateT.run_bind, tellSkipped_watched]
    rfl
  · intro cause remarks after
    rw [refused]
    rfl

private theorem shell_type (text : String) :
    Follows world past (.ok (Plan.type timing text)) (fun _ => ()) missedRemark
      (Cli.obey machine.watched ⟨world.watched, timing⟩ library (.typeText text)) :=
  follows_type world machine timing past text _ (fun _ => rfl) fun _ => rfl

private theorem program_type (words : List String) :
    Follows world past (.ok (Plan.type timing (" ".intercalate words))) (fun _ => ()) missedRemark
      (Cli.typeWords machine.watched ⟨world.watched, timing⟩ words) :=
  follows_type world machine timing past _ _ (fun _ => rfl) fun _ => rfl

theorem program_key (token : String) :
    Follows world past (Plan.tap timing (Names.canonical token)) (fun _ => ()) silent
      (Cli.pressNamed ⟨world.watched, timing⟩ token) := by
  apply follows_bind
  · intro stroke remarks after
    rw [silent, List.append_nil]
    rfl
  · intros
    rfl

private theorem program_combo (tokens : List String) :
    Follows world past (Plan.combo timing (tokens.map Names.canonical)) id unknownRemark
      (Cli.pressCombo machine.watched ⟨world.watched, timing⟩ tokens) := by
  apply follows_bind
  · intro chord remarks after
    rw [unknownRemark]
    cases known : chord.unknown.isEmpty with
    | true =>
      simp only [known, Bool.not_true, Bool.false_eq_true, if_false, if_true, List.append_nil]
      rfl
    | false =>
      simp only [known, Bool.not_false, Bool.false_eq_true, if_false, if_true]
      rfl
  · intros
    rfl

end front

/-- A machine with nothing on it. -/
def bare : Cli.Machine Watched where
  files :=
    { isFile := fun _ => pure false
      read := fun _ => pure (.error .missing)
      write := fun _ _ => pure (.error .missing)
      remove := fun _ => pure (.error .missing)
      makeDirectories := fun _ => pure (.error .missing)
      list := fun _ => pure (.error .missing) }
  toml := Toml.parse
  render := Json.pretty
  attach path := pure (.error (.unavailable path))
  sleep _ := pure ()
  running := pure true
  resume := pure ()
  readLine := pure (.ok none)
  readRest := pure (.ok "")
  print _ := pure ()
  printError _ := pure ()
  iterate _ := pure (.ok ())

end FrontEnd

open FrontEnd

/-- **The front ends agree.** A name, a list of names or a text is asked for in a script of one
line, in a line of the shell and on the command line. All three write and wait in the same way, and
tell what comes of one and the same request to the session: the keystroke, the chord with the names
that are not known, what was typed and missed, or the reason why there was nothing to press or why
it stopped. The one exception is a script that is run with the flag down and has nothing to send. -/
theorem front_ends_agree (world : World) (steady : world.Steady) (machine : Cli.Machine Watched)
    (library : Library) (timing : Timing) (past : List Happening) :
    let keyboard : Cli.Keyboard Watched := ⟨world.watched, timing⟩
    let obey := Cli.obey machine.watched keyboard library
    (∀ token, StartsKeys token.toList →
      let name := Names.canonical token
      let request := Plan.tap timing name
      ScriptFollows world timing past request (fun stroke => .pressed name stroke.modifiers) token ∧
      (∃ command, Shell.parse ("key " ++ token) = .ok command ∧
        Follows world past request (fun _ => ()) silent (obey command)) ∧
      Follows world past request (fun _ => ()) silent (Cli.pressNamed keyboard token)) ∧
    (∀ first second others, StartsKeys first.toList →
      (∀ other ∈ second :: others, IsWord other.toList) →
      let tokens := first :: second :: others
      let line := " ".intercalate tokens
      let request := Plan.combo timing (tokens.map Names.canonical)
      ScriptFollows world timing past request
        (fun chord => .combo chord.modifiers chord.key chord.unknown) line ∧
      (∃ command, Shell.parse ("combo " ++ line) = .ok command ∧
        Follows world past request (fun _ => ()) silent (obey command)) ∧
      Follows world past request id unknownRemark
        (Cli.pressCombo machine.watched keyboard tokens)) ∧
    (∀ text, text ≠ "" → '\n' ∉ text.toList → Trimmed text.toList →
      let request : Except UnknownKey (Plan Typed) := .ok (Plan.type timing text)
      ScriptFollows world timing past request
        (fun typed => .typed typed.characters typed.skipped) ("STRING " ++ text) ∧
      (∃ command, Shell.parse ("type " ++ text) = .ok command ∧
        Follows world past request (fun _ => ()) missedRemark (obey command)) ∧
      ∀ words, " ".intercalate words = text →
        Follows world past request (fun _ => ()) missedRemark
          (Cli.typeWords machine.watched keyboard words)) := by
  intro keyboard obey
  -- The line of the script and that of the shell are read as the request that the program makes.
  refine ⟨?key, ?combo, ?type⟩
  case key =>
    intro token starts name request
    have parsed := Script.parse_words token [] starts (by simp)
    rw [String.intercalate_singleton] at parsed
    exact ⟨(asks_key timing name).follows steady token parsed past,
      ⟨_, Shell.parse_key token starts.toIsWord,
        shell_key world machine library timing past name⟩,
      program_key world timing past token⟩
  case combo =>
    intro first second others starts every tokens line request
    have parsed := Script.parse_words first (second :: others) starts every
    have all : ∀ token ∈ tokens, IsWord token.toList :=
      List.forall_mem_cons.mpr ⟨starts.toIsWord, every⟩
    exact ⟨(asks_combo timing _).follows steady line parsed past,
      ⟨_, Shell.parse_combo tokens (List.cons_ne_nil _ _) all,
        shell_combo world machine library timing past _⟩,
      program_combo world machine timing past tokens⟩
  case type =>
    intro text some single trimmed request
    refine ⟨?script, ⟨_, Shell.parse_type text some trimmed,
      shell_type world machine library timing past text⟩, ?program⟩
    case script =>
      have parsed := Script.parse_string text some single trimmed
      exact (asks_type timing text).follows steady _ parsed past
    case program =>
      rintro words rfl
      exact program_type world machine timing past words

/-- What the front ends do about `ESCAPE` in the world that grants everything. -/
theorem front_ends_agree_on_escape :
    World.calm.Steady ∧ StartsKeys "ESCAPE".toList ∧
      let request := Plan.tap .standard "esc"
      ScriptFollows World.calm .standard [] request
        (fun stroke => .pressed "esc" stroke.modifiers) "ESCAPE" ∧
      (∃ command, Shell.parse "key ESCAPE" = .ok command ∧
        Follows World.calm [] request (fun _ => ()) silent
          (Cli.obey bare.watched ⟨World.calm.watched, .standard⟩ ⟨"scripts"⟩ command)) ∧
      Follows World.calm [] request (fun _ => ()) silent
        (Cli.pressNamed ⟨World.calm.watched, .standard⟩ "ESCAPE") := by
  have steady : World.calm.Steady := ⟨fun _ _ => rfl, fun _ => rfl⟩
  have starts : StartsKeys "ESCAPE".toList :=
    ⟨Text.isWord_of_all (by decide) (by decide), by decide, by decide, by decide⟩
  exact ⟨steady, starts,
    (front_ends_agree World.calm steady bare ⟨"scripts"⟩ .standard []).1 "ESCAPE" starts⟩

/-- With the flag down, a script with a name that is not known is interrupted, and the program finds
that the name is not known. -/
theorem script_interrupted_before_unknown_key :
    StartsKeys "xyzzy".toList ∧
    ((Cli.pressNamed ⟨(World.calm.endedAfter 0).watched, .standard⟩ "xyzzy").run []).run [] =
      ((.error (.ofSend (.unknownKey ⟨"xyzzy"⟩)), []), []) ∧
    ((World.calm.endedAfter 0).host.run .standard 0 "xyzzy").run [] =
      (⟨⟨[]⟩, some ⟨1, .interrupted⟩, 0⟩, [.look false]) :=
  ⟨⟨Text.isWord_of_all (by decide) (by decide), by decide, by decide, by decide⟩, rfl, rfl⟩

end KeyGadget
