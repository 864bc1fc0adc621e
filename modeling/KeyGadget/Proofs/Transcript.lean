import KeyGadget.Proofs.Keystroke

/-!
# The transcript of a script

The transcript of a script is what a recording device and clock hold when it has been run in a calm
world, written down from the commands alone: how each kind of line is held and which pause follows
it, and where the default delay comes in.

## Main result

`run_transcript`: a run in the calm world comes to its end, leaves exactly the transcript, and has
exactly one entry for every line that is not a comment.
-/
namespace KeyGadget

open Script

namespace Transcript

/-- A pause is taken only if it is longer than nothing. -/
def pause (ms : Nat) : List Bench.Event :=
  if 0 < ms then [.sleep ms] else []

/-- A keystroke: the press, the hold, the release and the gap. -/
def stroke (held : Keystroke) (hold gap : Nat) : List Bench.Event :=
  [.report (.press held), .sleep hold, .report .release] ++ pause gap

/-- A typed character. One that has no key leaves nothing. -/
def character (timing : Timing) (c : Char) : List Bench.Event :=
  match Layout.keyFor c with
  | some (key, modifiers) => stroke ⟨modifiers, some key⟩ timing.charDelay timing.keyGap
  | none => []

/-- What a command leaves. -/
def command (timing : Timing) : Command → List Bench.Event
  | .typeText text => (text.toList.filter (· ≠ '\r')).flatMap (character timing)
  | .pressKey name extra =>
    match Names.resolve name with
    | .ok named => stroke ⟨named.modifiers ||| extra, named.key⟩ timing.keyPress timing.keyGap
    | .error _ => []
  | .combo names =>
    match Names.chord names with
    | .ok chord =>
      [.report (.press ⟨chord.modifiers, chord.key⟩), .sleep timing.comboHold, .report .release]
    | .error _ => []
  | .delay ms => [.sleep ms]
  | .defaultDelay _ | .comment | .unsupported _ _ => []

/-- What a line leaves. One that cannot be read leaves nothing. -/
def line (timing : Timing) (line : Line) : List Bench.Event :=
  match line.parsed with
  | .ok parsed => command timing parsed
  | .error _ => []

/-- The default delay from a line on. -/
def delayFrom (delay : Nat) (line : Line) : Nat :=
  match line.parsed with
  | .ok (.defaultDelay ms) => ms
  | _ => delay

/-- What lines leave that are run one after the other: each its own part, and then the default delay
as it is by then. -/
def script (timing : Timing) : Nat → List Line → List Bench.Event
  | _, [] => []
  | delay, next :: rest =>
    line timing next ++ pause (delayFrom delay next) ++ script timing (delayFrom delay next) rest

/-- What is said of a command. -/
def status : Command → Status
  | .typeText text =>
    let characters := text.toList.filter (· ≠ '\r')
    .typed (characters.countP fun c => (Layout.keyFor c).isSome)
      (characters.filter fun c => (Layout.keyFor c).isNone)
  | .pressKey name extra =>
    match Names.resolve name with
    | .ok named => .pressed name (named.modifiers ||| extra)
    | .error error => .skipped error.message
  | .combo names =>
    match Names.chord names with
    | .ok chord => .combo chord.modifiers chord.key chord.unknown
    | .error error => .skipped error.message
  | .delay ms => .delayed ms
  | .defaultDelay ms => .defaultDelay ms
  | .comment => .skipped "comment"
  | .unsupported keyword _ => .unsupported keyword

/-- The entry of a line. -/
def entry (line : Line) : Entry :=
  { line := line.number
    source := line.source
    status :=
      match line.parsed with
      | .ok parsed => status parsed
      | .error error => .skipped error.message }

end Transcript

private theorem pause_eq (ms : Nat) :
    (if ms = 0 then [] else [Action.sleep ms]).filterMap Action.event? = Transcript.pause ms := by
  unfold Transcript.pause
  split <;> split <;> first | rfl | omega

private theorem strokeActions_event (stroke : Keystroke) (hold gap : Nat) :
    (Plan.strokeActions stroke hold gap).filterMap Action.event? =
      Transcript.stroke stroke hold gap := by
  rw [Plan.strokeActions, List.filterMap_append, pause_eq]
  rfl

private theorem strokesActions_event (hold gap : Nat) (strokes : List Keystroke) :
    (Plan.strokesActions hold gap strokes).filterMap Action.event? =
      strokes.flatMap fun stroke => Transcript.stroke stroke hold gap := by
  induction strokes with
  | nil => rfl
  | cons stroke rest ih =>
    rw [Plan.strokesActions, List.flatMap_cons, List.filterMap_append, strokeActions_event,
      List.flatMap_cons, ← ih, Plan.strokesActions]

private theorem characters_event (timing : Timing) (characters : List Char) :
    ((characters.filterMap Layout.strokeFor).flatMap fun stroke =>
        Transcript.stroke stroke timing.charDelay timing.keyGap) =
      characters.flatMap (Transcript.character timing) := by
  induction characters with
  | nil => rfl
  | cons c rest ih =>
    rw [List.filterMap_cons, List.flatMap_cons, ← ih, Transcript.character, Layout.strokeFor]
    cases Layout.keyFor c with
    | none => rfl
    | some found => rfl

theorem Script.Command.actions_event (timing : Timing) (command : Command) :
    (Plan.actionsOf (command.plan timing)).filterMap Action.event? =
      Transcript.command timing command := by
  rw [Command.actions_eq, List.filterMap_append, strokesActions_event]
  cases command with
  | typeText text =>
    rw [Transcript.command, ← characters_event]
    exact List.append_nil _
  | pressKey name extra =>
    simp only [Command.strokes, Transcript.command]
    cases Names.resolve name <;> simp [Command.waits, Command.hold, Command.gap]
  | combo names =>
    simp only [Command.strokes, Transcript.command]
    cases Names.chord names <;> rfl
  | delay ms | defaultDelay ms | comment | unsupported keyword argument => rfl

theorem Script.Line.outcome_eq (timing : Timing) (line : Line) :
    (line.plan timing).outcome = (Transcript.entry line).status := by
  rcases line with ⟨number, source, error | command⟩
  · rfl
  cases command with
  | typeText text =>
    simp [Line.plan, Command.plan, Plan.map, Plan.type, Plan.typeWithHold, Plan.typedCharacters,
      Transcript.entry, Transcript.status, Layout.strokeFor]
  | pressKey name extra =>
    simp only [Line.plan, Command.plan, Plan.press, Transcript.entry, Transcript.status]
    cases Names.resolve name <;> rfl
  | combo names =>
    simp only [Line.plan, Command.plan, Plan.combo, Transcript.entry, Transcript.status]
    cases Names.chord names <;> rfl
  | delay ms | defaultDelay ms | comment | unsupported keyword argument => rfl

private theorem delayAfter_eq (delay : Nat) (line : Line) :
    line.delayAfter delay = Transcript.delayFrom delay line := by
  rcases line with ⟨number, source, error | command⟩
  · rfl
  · cases command <;> rfl

private theorem line_event (timing : Timing) (delay : Nat) (line : Line)
    (counts : line.isComment = false) :
    (line.actions timing delay).filterMap Action.event? =
      Transcript.line timing line ++ Transcript.pause (Transcript.delayFrom delay line) := by
  have planned : (line.plan timing).actions.filterMap Action.event? =
      Transcript.line timing line := by
    rcases line with ⟨number, source, error | command⟩
    · rfl
    · simp only [Line.plan, Transcript.line, ← Command.actions_event]
      cases command.plan timing <;> rfl
  rw [Line.actions, counts, delayActions, delayAfter_eq]
  simp only [Bool.false_eq_true, if_false, List.filterMap_append, pause_eq]
  exact congrArg (· ++ _) planned

private theorem delayFrom_comment (delay : Nat) (line : Line) (comment : line.isComment = true) :
    Transcript.delayFrom delay line = delay := by
  rcases line with ⟨number, source, error | command⟩
  · rfl
  · cases command <;> first | rfl | cases comment

private theorem delayAfter_filter (delay : Nat) (lines : List Line) :
    Script.delayAfter delay lines =
      (lines.filter fun line => !line.isComment).foldl Transcript.delayFrom delay := by
  induction lines generalizing delay with
  | nil => rfl
  | cons line rest ih =>
    rw [Script.delayAfter, List.foldl_cons, ← Script.delayAfter, ih, delayAfter_eq,
      List.filter_cons]
    cases counts : line.isComment with
    | true => rw [delayFrom_comment delay line counts]; rfl
    | false => rfl

private theorem script_event (timing : Timing) (delay : Nat) (lines : List Line) :
    (Script.actions timing delay lines).filterMap Action.event? =
      Transcript.script timing delay (lines.filter fun line => !line.isComment) := by
  induction lines generalizing delay with
  | nil => rfl
  | cons line rest ih =>
    rw [Script.actions, List.filterMap_append, ih, List.filter_cons, delayAfter_eq]
    cases counts : line.isComment with
    | true =>
      -- A comment is only a look at the flag, which leaves no event.
      rw [Line.actions, counts, delayFrom_comment delay line counts]
      rfl
    | false =>
      rw [line_event timing delay line counts]
      rfl

/-- Every line that is not a comment has its entry, and there are no others. -/
theorem Script.entries_eq (timing : Timing) (lines : List Line) :
    entries timing lines = (lines.filter fun line => !line.isComment).map Transcript.entry := by
  induction lines with
  | nil => rfl
  | cons line rest ih =>
    rw [entries, List.flatMap_cons, List.filter_cons, Line.entries, Line.outcome_eq]
    cases line.isComment with
    | true => exact ih
    | false => exact congrArg (Transcript.entry line :: ·) ih

/-- Where nothing fails, the run of a script comes to its end, an entry is made for every line that
is not a comment, and what is recorded is the transcript of these lines. -/
theorem run_transcript (timing : Timing) (delay : Nat) (text : String) :
    let lines := (Script.parse text).filter fun line => !line.isComment
    let (run, history) := World.calm.run timing delay text
    run = ⟨⟨lines.map Transcript.entry⟩, none, lines.foldl Transcript.delayFrom delay⟩ ∧
      Happening.log history = Transcript.script timing delay lines := by
  intro lines
  have run := World.runLines_ok .calm timing delay (Script.parse text) [] _
    (World.calm_perform _ [])
  rw [Script.entries_eq, delayAfter_filter] at run
  have whole : World.calm.run timing delay text =
      World.calm.runLines timing delay (Script.parse text) [] := rfl
  rw [whole, run]
  refine ⟨rfl, ?_⟩
  rw [List.nil_append, Happening.log_granted, script_event]

-- The default delay is slept for from its own line on, and not for the comment.
example : Happening.log (World.calm.run .standard 0 "DEFAULT_DELAY 5\nREM wait\nDELAY 7").2 =
    [.sleep 5, .sleep 7, .sleep 5] := by
  decide +kernel

end KeyGadget
