import Mathlib.Data.List.Forall2
import KeyGadget.Proofs.Input
import KeyGadget.Proofs.JsonText
import KeyGadget.Proofs.Transcript

/-!
# What a check foretells

A script can be checked before it is run. The check shows how every line has been read, and the run
of the same script accounts for what was done about every line. Both are handed out as JSON, and
they are compared there, by the members of their objects.

## Main result

`check_foretells_run`: apart from the comments, which have no entry, the lines of the check are
those of the account. A line that cannot be read is skipped with the error that the check shows, and
of those that can be read only one that presses keys may be skipped, for want of a known key.
-/
namespace KeyGadget

open Script

namespace Json

/-- The member of an object with a name. -/
def member? (name : String) : Json → Option Json
  | .object members => members.lookup name
  | _ => none

/-- The text of the member of an object with a name. -/
def text? (name : String) (object : Json) : Option String :=
  match object.member? name with
  | some (.text value) => some value
  | _ => none

end Json

namespace Cli

/-- The word for the command that a checked line shows. -/
def shownCommand (checked : Json) : Option String :=
  (checked.member? "command").bind (·.text? "command")

def showsComment (checked : Json) : Bool :=
  shownCommand checked == some "comment"

def showsError (checked : Json) : Bool :=
  (checked.member? "error").isSome

/-- The statuses that the entry of a line may have, by the word for the command of the line. -/
def statusesFor : String → List String
  | "type_text" => ["typed"]
  | "press_key" => ["pressed", "skipped"]
  | "combo" => ["combo", "skipped"]
  | "delay" => ["delayed"]
  | "default_delay" => ["default_delay"]
  | "unsupported" => ["unsupported"]
  | _ => []

/-- A checked line and an entry of an account are about the same line, and what the one shows is
what becomes of the line according to the other. -/
structure Foretells (checked entry : Json) : Prop where
  line : ∃ number, checked.member? "line" = some (.number number) ∧
    entry.member? "line" = some (.number number)
  source : ∃ source, checked.text? "source" = some source ∧ entry.text? "source" = some source
  outcome :
    (∃ message, checked.text? "error" = some message ∧ checked.member? "command" = none ∧
      entry.text? "status" = some "skipped" ∧ entry.text? "reason" = some message) ∨
    (∃ command, showsError checked = false ∧ shownCommand checked = some command ∧
      ∃ status ∈ statusesFor command, entry.text? "status" = some status)

/-- What comes of a check in which some number of lines show an error. -/
def verdict (failed : Nat) : Except Failure Unit :=
  if failed = 0 then .ok () else .error ⟨Nat.repr failed ++ " line(s) failed to parse", []⟩

theorem shownCommand_eq (number : Nat) (source : String) (command : Command) :
    shownCommand (checkedLine ⟨number, source, .ok command⟩) = some command.tag := by
  cases command <;> rfl

theorem showsComment_eq (line : Line) : showsComment (checkedLine line) = line.isComment := by
  rcases line with ⟨number, source, error | command⟩
  · rfl
  · cases command <;> rfl

theorem showsError_eq (line : Line) : showsError (checkedLine line) = isInvalid line := by
  rcases line with ⟨number, source, error | command⟩ <;> rfl

/-- The word for a status, as it stands in an entry. -/
private theorem toJson_status (number : Nat) (source : String) (command : Command)
    (counts : command ≠ .comment) :
    ∃ status ∈ statusesFor command.tag,
      (Transcript.entry ⟨number, source, .ok command⟩).toJson.text? "status" = some status := by
  cases command with
  | typeText text => exact ⟨"typed", .head _, rfl⟩
  | pressKey name extra =>
    simp only [Transcript.entry, Transcript.status]
    cases Names.resolve name with
    | ok named => exact ⟨"pressed", .head _, rfl⟩
    | error error => exact ⟨"skipped", .tail _ (.head _), rfl⟩
  | combo names =>
    simp only [Transcript.entry, Transcript.status]
    cases Names.chord names with
    | ok chord => exact ⟨"combo", .head _, rfl⟩
    | error error => exact ⟨"skipped", .tail _ (.head _), rfl⟩
  | delay ms => exact ⟨"delayed", .head _, rfl⟩
  | defaultDelay ms => exact ⟨"default_delay", .head _, rfl⟩
  | comment => exact absurd rfl counts
  | unsupported keyword argument => exact ⟨"unsupported", .head _, rfl⟩

/-- A line that is not a comment is shown as its entry has it. -/
theorem line_foretells (line : Line) (counts : line.isComment = false) :
    Foretells (checkedLine line) (Transcript.entry line).toJson := by
  rcases line with ⟨number, source, error | command⟩
  · exact ⟨⟨number, rfl, rfl⟩, ⟨source, rfl, rfl⟩, Or.inl ⟨error.message, rfl, rfl, rfl, rfl⟩⟩
  · have counts : command ≠ .comment := by
      rintro rfl
      cases counts
    exact ⟨⟨number, rfl, rfl⟩, ⟨source, rfl, rfl⟩, Or.inr ⟨command.tag, rfl,
      shownCommand_eq number source command, toJson_status number source command counts⟩⟩

theorem lines_foretell (lines : List Line) :
    List.Forall₂ Foretells ((lines.map checkedLine).filter fun checked => !showsComment checked)
      (((lines.filter fun line => !line.isComment).map Transcript.entry).map Entry.toJson) := by
  induction lines with
  | nil => exact .nil
  | cons line rest ih =>
    rw [List.map_cons, List.filter_cons, List.filter_cons, showsComment_eq]
    cases counts : line.isComment with
    | true => exact ih
    | false => exact .cons (line_foretells line counts) ih

theorem countP_showsError (lines : List Line) :
    (lines.map checkedLine).countP showsError = lines.countP isInvalid := by
  rw [List.countP_map]
  congr 1
  funext line
  exact showsError_eq line

/-- The check of a text that has been read prints its lines, and fails if one of them shows an
error. -/
theorem checkScript_run {σ : Type} (machine : Machine (StateM σ)) (file text : String)
    (before after : σ) (read : (machine.readSource file).run before = (.ok text, after)) :
    (checkScript machine file).run before =
      (verdict (((Script.parse text).map checkedLine).countP showsError),
        ((machine.print (machine.render (.list ((Script.parse text).map checkedLine)) ++
          "\n")).run after).2) := by
  have shown : (checkScript machine file).run before =
      ((do
        machine.print (machine.render (.list ((Script.parse text).map checkedLine)) ++ "\n")
        let invalid := (Script.parse text).countP isInvalid
        if 0 < invalid then
          return .error ⟨Nat.repr invalid ++ " line(s) failed to parse", []⟩
        else return .ok ()) : StateM σ (Except Failure Unit)).run after := by
    rw [checkScript, StateT.run_bind, read]
    rfl
  rw [countP_showsError, shown, StateT.run_bind, verdict]
  -- The lines are printed in any case, and how many show an error decides what comes of it.
  rcases Nat.eq_zero_or_pos ((Script.parse text).countP isInvalid) with none | some
  · rw [none]
    rfl
  · rw [if_pos some, if_neg (Nat.ne_of_gt some)]
    rfl

/-- **What is checked is what is run**: line by line, the text that the check of a script prints
says, to any reader of what the machine writes, what the run of the script, with nothing to stop it,
has in its account. A line shows an error if and only if it cannot be read, and the check fails,
with the number of these lines, if there are any. -/
theorem check_foretells_run {σ : Type} (machine : Machine (StateM σ))
    (reader : String → Option Json)
    (reads : ∀ value, reader (machine.render value) = some value) (file text : String)
    (before after : σ) (read : (machine.readSource file).run before = (.ok text, after))
    (timing : Timing) (delay : Nat) :
    let run := (World.calm.run timing delay text).1
    ∃ printed checked, reader printed = some (.list checked) ∧
      (checkScript machine file).run before =
        (verdict (checked.countP showsError),
          ((machine.print (printed ++ "\n")).run after).2) ∧
      List.Forall₂ (fun line shown => showsError shown = true ↔ ∃ error, line.parsed = .error error)
        (Script.parse text) checked ∧
      run.stop = none ∧
      List.Forall₂ Foretells (checked.filter fun line => !showsComment line)
        (run.account.entries.map Entry.toJson) := by
  intro run
  have whole : run =
      ⟨⟨Script.entries timing (Script.parse text)⟩, none,
        Script.delayAfter delay (Script.parse text)⟩ :=
    congrArg Prod.fst (World.calm_run timing delay text)
  refine ⟨_, (Script.parse text).map checkedLine, reads _,
    checkScript_run machine file text before after read, ?errors, ?ends, ?foretold⟩
  case errors =>
    refine List.forall₂_map_right_iff.mpr (List.forall₂_same.mpr fun line _ => ?_)
    rw [showsError_eq, isInvalid]
    cases line.parsed <;> simp
  case ends => rw [whole]
  case foretold =>
    rw [whole, Script.entries_eq]
    exact lines_foretell (Script.parse text)

/-- A script from the input, of which one line cannot be read and one names no key. -/
theorem check_foretells_run_of_input :
    let text := "DELAY soon\nREM x\nnokey"
    let terminal := Terminal.start .fresh text.toUTF8
    let run := (World.calm.run .standard 0 text).1
    (∀ value, Json.read (Terminal.machine.render value) = some value) ∧
    (Terminal.machine.readSource "-").run terminal = (.ok text, { terminal with input := [] }) ∧
    ∃ printed checked, Json.read printed = some (.list checked) ∧
      (checkScript Terminal.machine "-").run terminal =
        (.error ⟨"1 line(s) failed to parse", []⟩,
          { terminal with input := [], output := printed ++ "\n" }) ∧
      checked.length = 3 ∧
      List.Forall₂ Foretells (checked.filter fun line => !showsComment line)
        (run.account.entries.map Entry.toJson) := by
  intro text terminal run
  have reads : ∀ value, Json.read (Terminal.machine.render value) = some value := Json.read_pretty
  have read : (Terminal.machine.readSource "-").run terminal =
      (.ok text, { terminal with input := [] }) := by
    have rest := Terminal.readRest_encoded terminal text.toList (toUTF8_toList text)
    rw [String.ofList_toList] at rest
    exact Terminal.machine.readSource_dash "-" text terminal _ (by decide +kernel) rest
  obtain ⟨printed, checked, told, checks, errors, -, foretold⟩ :=
    check_foretells_run Terminal.machine Json.read reads "-" text terminal _ read .standard 0
  -- One line for each line of the script, and only the first of them shows an error.
  have lines : Script.parse "DELAY soon\nREM x\nnokey" =
      [⟨1, "DELAY soon", .error ⟨"DELAY", "soon"⟩⟩, ⟨2, "REM x", .ok .comment⟩,
        ⟨3, "nokey", .ok (.pressKey "nokey" .none)⟩] := rfl
  rw [lines] at errors
  simp only [List.forall₂_cons_left_iff, List.forall₂_nil_left_iff] at errors
  obtain ⟨wrong, _, unreadable, ⟨remark, _, comment, ⟨unknown, _, keyless, rfl, rfl⟩, rfl⟩, rfl⟩ :=
    errors
  have failed : [wrong, remark, unknown].countP showsError = 1 := by
    simp [unreadable, comment, keyless]
  have shown : (Terminal.machine.print (printed ++ "\n")).run { terminal with input := [] } =
      ((), { terminal with input := [], output := "" ++ (printed ++ "\n") }) := rfl
  rw [failed, shown, String.empty_append] at checks
  exact ⟨reads, read, printed, _, told, checks, rfl, foretold⟩

end Cli
end KeyGadget
