import KeyGadget.Proofs.Failure
import KeyGadget.Proofs.Transcript

/-!
# The account as an audit

What the account of a run says is set against what the device took. An entry tells of keystrokes: as
many as characters were typed, or one that was pressed, or one for a combination. Going through the
entries in order uses up the reports of the device exactly, whatever the device refuses and whenever
the flag goes down.

## Main result

`account_audits_device`: the account of a run that comes to its end tells of all reports that were
taken. The account of a run that stops tells of those that were taken before the line in which it
stops, and whatever was written later was written for that line.
-/
namespace KeyGadget

open Script

/-- The usage number in the place of a key that may be missing. -/
def Keystroke.usage (stroke : Keystroke) : UInt8 :=
  match stroke.key with
  | some key => key.usage
  | none => 0

namespace Status

/-- How many keystrokes a line with this status has sent. -/
def keystrokes : Status → Nat
  | .typed characters _ => characters
  | .pressed _ _ | .combo _ _ _ => 1
  | _ => 0

/-- Whether a status tells of these presses: their number, and for a key or a combination the two
bytes that the press carries. -/
inductive Tells : Status → List Report → Prop
  | typed (presses : List Report) (missed : List Char) :
    Tells (.typed presses.length missed) presses
  | pressed {name : String} {named : Keystroke} (press : Report)
    (resolved : Names.resolve name = .ok named) (usage : press.usage = named.usage) :
    Tells (.pressed name press.modifiers) [press]
  | combo {key : Option Key} (press : Report) (unknown : List String)
    (usage : press.usage = Keystroke.usage ⟨press.modifiers, key⟩) :
    Tells (.combo press.modifiers key unknown) [press]
  | delayed (ms : Nat) : Tells (.delayed ms) []
  | defaultDelay (ms : Nat) : Tells (.defaultDelay ms) []
  | unsupported (keyword : String) : Tells (.unsupported keyword) []
  | skipped (reason : String) : Tells (.skipped reason) []

theorem Tells.length {status : Status} {presses : List Report} (tells : Tells status presses) :
    presses.length = status.keystrokes := by
  cases tells <;> rfl

end Status

/-- Entries that tell of reports, each of its own presses, every one with the release behind it. -/
inductive Audited : List Entry → List Report → Prop
  | done : Audited [] []
  | entry {entries : List Entry} {reports : List Report} (entry : Entry) (presses : List Report)
    (tells : entry.status.Tells presses) (pressed : ∀ press ∈ presses, press.IsPress) :
    Audited entries reports →
      Audited (entry :: entries) (Report.released presses ++ reports)

/-- How many keystrokes an account tells of. -/
def Account.keystrokes (account : Account) : Nat :=
  account.entries.foldr (fun entry later => entry.status.keystrokes + later) 0

/-- The reports that an account tells of, and their number. -/
structure Account.Audits (account : Account) (reports : List Report) : Prop where
  audited : Audited account.entries reports
  count : reports.length = 2 * account.keystrokes

theorem Audited.audits {entries : List Entry} {reports : List Report}
    (audited : Audited entries reports) : Account.Audits ⟨entries⟩ reports := by
  refine ⟨audited, ?_⟩
  induction audited with
  | done => rfl
  | @entry entries reports entry presses tells _ _ ih =>
    have own := Report.length_released presses
    rw [tells.length] at own
    rw [List.length_append, own, ih, Account.keystrokes, Account.keystrokes, List.foldr_cons,
      Nat.mul_add]

/-! ### Lines -/

private theorem length_filterMap_strokeFor (characters : List Char) :
    (characters.filterMap Layout.strokeFor).length =
      characters.countP fun c => (Layout.keyFor c).isSome := by
  simp only [List.length_filterMap_eq_countP, Layout.strokeFor, Option.isSome_map]

theorem Script.Command.status_tells (command : Command) :
    (Transcript.status command).Tells (command.strokes.map Report.press) := by
  cases command with
  | typeText text =>
    -- The number of typed characters is the number of their keystrokes.
    have typed := Status.Tells.typed ((Command.strokes (.typeText text)).map Report.press)
      ((text.toList.filter (· ≠ '\r')).filter fun c => (Layout.keyFor c).isNone)
    rwa [List.length_map, Command.strokes, length_filterMap_strokeFor] at typed
  | pressKey name extra =>
    simp only [Transcript.status, Command.strokes]
    cases resolved : Names.resolve name with
    | error error => exact .skipped _
    | ok named => exact .pressed (.press ⟨named.modifiers ||| extra, named.key⟩) resolved rfl
  | combo names =>
    simp only [Transcript.status, Command.strokes]
    cases Names.chord names with
    | error error => exact .skipped _
    | ok chord => exact .combo (.press chord.stroke) chord.unknown rfl
  | delay ms => exact .delayed ms
  | defaultDelay ms => exact .defaultDelay ms
  | comment => exact .skipped _
  | unsupported keyword argument => exact .unsupported keyword

theorem Script.Line.outcome_tells (timing : Timing) (line : Line) :
    (line.plan timing).outcome.Tells (line.strokes.map Report.press) := by
  rw [Line.outcome_eq]
  rcases line with ⟨number, source, error | command⟩
  · exact .skipped _
  · exact command.status_tells

private theorem strokes_of_comment (line : Line) (comment : line.isComment = true) :
    line.strokes = [] := by
  rcases line with ⟨number, source, error | command⟩
  · cases comment
  · cases command <;> first | rfl | cases comment

/-- The entry of a line goes before those of later lines, and so do its reports. -/
private theorem audited_line (timing : Timing) (line : Line) (entries : List Entry)
    (reports : List Report) (later : Audited entries reports) :
    Audited (line.entries timing ++ entries) (Keystroke.reports line.strokes ++ reports) := by
  rw [Line.entries]
  -- A comment has no entry, and it sends nothing.
  by_cases comment : line.isComment = true
  · rw [if_pos comment, strokes_of_comment line comment]
    exact later
  · rw [if_neg comment]
    refine .entry _ _ (line.outcome_tells timing) (fun press member => ?_) later
    obtain ⟨stroke, sent, rfl⟩ := List.mem_map.mp member
    exact Report.press_isPress stroke (line.holds_of_mem_strokes stroke sent)

theorem Script.audited_entries (timing : Timing) (delay : Nat) (lines : List Line) :
    Audited (entries timing lines)
      (Happening.accepted ((actions timing delay lines).map Action.granted)) := by
  induction lines generalizing delay with
  | nil => exact .done
  | cons line rest ih =>
    -- The delay of the later lines may be another one, but no wait is a report.
    rw [actions, List.map_append, Happening.accepted_append, line_reports]
    exact audited_line timing line _ _ (ih _)

theorem Script.entries_sorted (timing : Timing) (lines : List Line)
    (sorted : lines.Pairwise fun a b => a.number < b.number) :
    (entries timing lines).Pairwise fun a b => a.line < b.line := by
  rw [entries, List.pairwise_flatMap]
  refine ⟨fun line _ => ?_, sorted.imp fun before a inFirst b inSecond => ?_⟩
  · rw [Line.entries]
    split
    · exact .nil
    · exact List.pairwise_singleton _ _
  · rw [Line.number_of_mem_entries timing _ a inFirst,
      Line.number_of_mem_entries timing _ b inSecond]
    exact before

/-- What is attempted comes from the actions, in their order. -/
theorem World.perform_attempts (world : World) (actions : List Action) (past : List Happening) :
    ∃ new, (world.perform actions past).2 = past ++ new ∧
      (Happening.attempts new).map Attempt.report <+:
        Happening.accepted (actions.map Action.granted) := by
  rw [Happening.accepted_granted]
  rcases performed : world.perform actions past with ⟨cause | _, after⟩
  · obtain ⟨done, action, rest, happening, rfl, refusal, rfl⟩ :=
      perform_error world actions past after cause performed
    refine ⟨done.map Action.granted ++ [happening], by simp, ?_⟩
    -- A write that is refused is still the write of its action.
    have last : (Happening.attempts [happening]).map Attempt.report =
        (Happening.attempts [action.granted]).map Attempt.report := by
      cases refusal <;> rfl
    have split : (done ++ action :: rest).map Action.granted =
        done.map Action.granted ++ [action.granted] ++ rest.map Action.granted := by simp
    simp only [split, Happening.attempts_append, List.map_append, last]
    exact List.prefix_append _ _
  · obtain rfl := perform_ok world actions past after performed
    exact ⟨_, rfl, List.prefix_refl _⟩

/-- The account of a run tells of all that the device took, up to the line in which the run stops;
what is written from there on belongs to that line. -/
theorem account_audits_device (world : World) (timing : Timing) (delay : Nat) (text : String) :
    let (run, history) := world.run timing delay text
    run.account.entries.Pairwise (fun a b => a.line < b.line) ∧
    match run.stop with
    | none => run.account.Audits (Happening.accepted history)
    | some stop => ∃ done line rest before within,
        Script.parse text = done ++ line :: rest ∧ stop.line = line.number ∧
        history = before ++ within ∧
        world.runLines timing delay done [] = (⟨run.account, none, run.delay⟩, before) ∧
        world.perform (line.actions timing run.delay) before = (.error stop.cause, history) ∧
        run.account.Audits (Happening.accepted before) ∧
        (Happening.attempts within).map Attempt.report <+: Keystroke.reports line.strokes := by
  have sorted := Script.parse_sorted text
  have whole : world.run timing delay text =
      world.runLines timing delay (Script.parse text) [] := rfl
  rw [whole]
  rcases performed : world.perform (Script.actions timing delay (Script.parse text)) [] with
    ⟨cause | _, history⟩
  · -- The run is split at the line that fails: those before it have been done in full.
    obtain ⟨done, line, rest, before, lines, succeeded, failed, run⟩ :=
      World.runLines_error world timing delay _ [] history cause performed
    rw [run]
    rw [lines] at sorted
    have granted := World.perform_ok world _ [] before succeeded
    rw [List.nil_append] at granted
    obtain ⟨within, after, attempted⟩ :=
      world.perform_attempts (line.actions timing (Script.delayAfter delay done)) before
    rw [failed] at after
    refine ⟨Script.entries_sorted timing done (List.pairwise_append.mp sorted).1, done, line, rest,
      before, within, lines, rfl, after,
      World.runLines_ok world timing delay done [] before succeeded, failed, ?_, ?_⟩
    · rw [granted]
      exact (Script.audited_entries timing delay done).audits
    · rwa [line_reports] at attempted
  · rw [World.runLines_ok world timing delay _ [] history performed]
    refine ⟨Script.entries_sorted timing _ sorted, ?_⟩
    have granted := World.perform_ok world _ [] history performed
    rw [List.nil_append] at granted
    rw [granted]
    exact (Script.audited_entries timing delay _).audits

end KeyGadget
