import KeyGadget.Proofs.Grammar
import KeyGadget.Proofs.PhysicalLines
import KeyGadget.Proofs.Resolution
import KeyGadget.Proofs.Transcript

/-!
# Clean runs

An account is clean if nothing had to be left out: no line was skipped, every character of a text
was typed and every token of a chord was pressed. The text of a script tells whether it will be, and
how many lines will be skipped. Timing and delays have no part in it, nor has the world, as long as
the run comes to its end.

## Main result

`clean_run_iff`: the account of a run that comes to its end is clean if every line of the script can
be done in full, and it skips the lines that are hopeless.
-/
namespace KeyGadget

open Script

namespace Script

/-- Whether there is a key for all that a command asks for. -/
def Command.Complete : Command → Prop
  | .typeText text => ∀ c ∈ text.toList, c = '\r' ∨ (Layout.keyFor c).isSome = true
  | .pressKey name _ => Names.KnownAlone name
  | .combo names => ∀ name ∈ names, Names.Listed (Names.lowered name)
  | .delay _ | .defaultDelay _ | .comment | .unsupported _ _ => True

/-- Whether a command asks for keys and there is none that it asks for. -/
def Command.Hopeless : Command → Prop
  | .pressKey name _ => ¬ Names.KnownAlone name
  | .combo names => ∀ name ∈ names, ¬ Names.Listed (Names.lowered name)
  | .typeText _ | .delay _ | .defaultDelay _ | .comment | .unsupported _ _ => False

/-- Whether a line can be read and be done in full. -/
def Line.Complete (line : Line) : Prop :=
  ∃ command, line.parsed = .ok command ∧ command.Complete

/-- Whether a line cannot be read, or asks for keys in vain. -/
def Line.Hopeless (line : Line) : Prop :=
  ∀ command, line.parsed = .ok command → command.Hopeless

instance : DecidablePred Command.Hopeless
  | .pressKey name _ => inferInstanceAs (Decidable ¬ Names.KnownAlone name)
  | .combo names =>
    inferInstanceAs (Decidable (∀ name ∈ names, ¬ Names.Listed (Names.lowered name)))
  | .typeText _ | .delay _ | .defaultDelay _ | .comment | .unsupported _ _ => .isFalse id

instance : DecidablePred Line.Hopeless
  | ⟨_, _, .error _⟩ => .isTrue nofun
  | ⟨number, source, .ok command⟩ =>
    decidable_of_iff command.Hopeless (by simp [Line.Hopeless])

/-! ### One line -/

/-- What is said of a command is clean if the command is complete. Only a chord of no tokens would
have all of them known and be skipped. -/
theorem status_isClean_iff (command : Command) (counts : command ≠ .comment)
    (filled : command ≠ .combo []) :
    (Transcript.status command).isClean = true ↔ command.Complete := by
  cases command with
  | typeText text =>
    simp only [Transcript.status, Status.isClean, Command.Complete, List.isEmpty_iff,
      List.filter_eq_nil_iff, List.mem_filter, decide_eq_true_eq, and_imp,
      Option.isNone_iff_eq_none, ← ne_eq, Option.isSome_iff_ne_none, or_iff_not_imp_left]
  | pressKey name extra =>
    simp only [Transcript.status, Command.Complete]
    cases resolved : Names.resolve name with
    | ok named => exact iff_of_true rfl ((Names.exists_resolve_iff name).mp ⟨named, resolved⟩)
    | error error =>
      exact iff_of_false Bool.false_ne_true ((Names.resolve_eq_error_iff name error).mp resolved).1
  | combo names =>
    simp only [Transcript.status, Command.Complete]
    cases made : Names.chord names with
    | ok chord =>
      rw [← Names.unknownOf_eq_nil_iff, ← Names.unknown_of_chord made]
      exact List.isEmpty_iff
    | error error =>
      -- A chord is refused if none of its tokens is known, and it has a token.
      have unknown := ((Names.chord_eq_error_iff names error).mp made).1
      refine iff_of_false Bool.false_ne_true fun all => ?_
      obtain ⟨name, rest, rfl⟩ := List.exists_cons_of_ne_nil (l := names) (by simpa using filled)
      exact unknown name List.mem_cons_self (all name List.mem_cons_self)
  | comment => exact absurd rfl counts
  | delay ms | defaultDelay ms | unsupported keyword argument => exact iff_of_true rfl trivial

/-- A command is skipped if it is hopeless. -/
theorem status_isSkipped_iff (command : Command) (counts : command ≠ .comment) :
    (Transcript.status command).isSkipped = true ↔ command.Hopeless := by
  cases command with
  | pressKey name extra =>
    simp only [Transcript.status, Command.Hopeless]
    cases resolved : Names.resolve name with
    | ok named =>
      have known := (Names.exists_resolve_iff name).mp ⟨named, resolved⟩
      exact iff_of_false Bool.false_ne_true (not_not_intro known)
    | error error => exact iff_of_true rfl ((Names.resolve_eq_error_iff name error).mp resolved).1
  | combo names =>
    simp only [Transcript.status, Command.Hopeless]
    cases made : Names.chord names with
    | ok chord =>
      obtain ⟨name, member, listed⟩ := (Names.exists_chord_iff names).mp ⟨chord, made⟩
      exact iff_of_false Bool.false_ne_true fun unknown => unknown name member listed
    | error error => exact iff_of_true rfl ((Names.chord_eq_error_iff names error).mp made).1
  | comment => exact absurd rfl counts
  | typeText text | delay ms | defaultDelay ms | unsupported keyword argument =>
    exact iff_of_false Bool.false_ne_true id

/-- A line is a comment, or its entry is clean, if the line is complete. -/
theorem Line.complete_iff (line : Line) (filled : line.parsed ≠ .ok (.combo [])) :
    (line.isComment || (Transcript.entry line).status.isClean) = true ↔ line.Complete := by
  rcases line with ⟨number, source, error | command⟩
  · exact iff_of_false Bool.false_ne_true nofun
  · have own : Line.Complete ⟨number, source, .ok command⟩ ↔ command.Complete := by
      simp [Line.Complete]
    rw [own]
    by_cases comment : command = .comment
    · subst comment
      exact iff_of_true rfl trivial
    · rw [← status_isClean_iff command comment (by simpa using filled)]
      cases command <;> first | rfl | exact absurd rfl comment

/-- A line has an entry and is skipped in it if the line is hopeless. -/
theorem Line.hopeless_iff (line : Line) :
    ((Transcript.entry line).status.isSkipped && !line.isComment) = true ↔ line.Hopeless := by
  rcases line with ⟨number, source, error | command⟩
  · exact iff_of_true rfl nofun
  · have own : Line.Hopeless ⟨number, source, .ok command⟩ ↔ command.Hopeless := by
      simp [Line.Hopeless]
    rw [own]
    by_cases comment : command = .comment
    · subst comment
      exact iff_of_false Bool.false_ne_true id
    · rw [← status_isSkipped_iff command comment, Bool.and_eq_true]
      refine and_iff_left ?_
      cases command <;> first | rfl | exact absurd rfl comment

/-! ### The chords of a script -/

theorem CommandMeans.keysMean {text word argument : List Char} {names : List String}
    (means : CommandMeans text word argument (.ok (.combo names))) :
    KeysMean text (.combo names) := by
  generalize read : (Except.ok (.combo names) : Except InvalidInteger Command) = result at means
  cases means with
  | types | repeats => cases read
  | @waits number | @waitsBehindEach number => cases number <;> cases read
  | presses unreserved keys =>
    cases read
    exact keys

/-- A chord of a script has tokens. -/
theorem parse_combo_filled (text : String) :
    ∀ line ∈ parse text, line.parsed ≠ .ok (.combo []) := by
  intro line member parsed
  -- The words of a chord are several, and there is a token for each of them.
  have read := parse_again text line member
  rw [parsed, parseLine_eq_iff] at read
  cases read with
  | command trims filled unremarked split means =>
    cases means.keysMean with
    | together wordsOf several canonize =>
      rw [canonize.length_eq] at several
      cases several

end Script

/-! ### The whole run -/

/-- The entries of a run that comes to its end are those of its lines, whatever it has met. -/
theorem World.run_entries (world : World) (timing : Timing) (delay : Nat) (text : String)
    (ended : (world.run timing delay text).1.stop = none) :
    (world.run timing delay text).1.account.entries =
      ((Script.parse text).filter fun line => !line.isComment).map Transcript.entry := by
  have whole : world.run timing delay text =
      world.runLines timing delay (Script.parse text) [] := rfl
  rw [← Script.entries_eq timing, whole]
  rw [whole] at ended
  -- A run comes to its end only if all actions succeed.
  rcases performed : world.perform (Script.actions timing delay (Script.parse text)) [] with
    ⟨cause | _, after⟩
  · obtain ⟨done, line, rest, middle, -, -, -, run⟩ :=
      runLines_error world timing delay _ [] after cause performed
    rw [run] at ended
    cases ended
  · rw [runLines_ok world timing delay _ [] after performed]

/-- **Whether a run is clean stands in the script.** Where nothing fails the run comes to its end,
and wherever it does its account is clean just when every line of the script is complete, and it
skips as many lines as are hopeless. -/
theorem clean_run_iff (timing : Timing) (delay : Nat) (text : String) :
    (World.calm.run timing delay text).1.stop = none ∧
    ∀ world : World, (world.run timing delay text).1.stop = none →
      let account := (world.run timing delay text).1.account
      (account.isClean = true ↔ ∀ line ∈ Script.parse text, line.Complete) ∧
      account.skipped = (Script.parse text).countP fun line => line.Hopeless := by
  refine ⟨by rw [World.calm_run], fun world ended => ?_⟩
  intro account
  have entries : account.entries = _ := world.run_entries timing delay text ended
  -- Both parts are about the lines one by one, so each is settled for one line.
  rw [Account.isClean, Account.skipped, entries, List.all_map, List.countP_map, List.all_filter,
    List.countP_filter]
  constructor
  · rw [List.all_eq_true]
    refine forall₂_congr fun line member => ?_
    rw [← line.complete_iff (parse_combo_filled text line member), Bool.not_not]
    rfl
  · refine List.countP_congr fun line _ => ?_
    rw [decide_eq_true_eq, ← line.hopeless_iff]
    rfl

/-- The device has room for just the four reports of this script, of which two lines are skipped and
two are done in part. -/
theorem clean_run_iff_in_part :
    let text := "STRING a\u00E9\nDELAY soon\nCTRL nokey\nnokey"
    let world : World := .limited 4 fun _ _ => .writeFailed "full"
    let run := (world.run .standard 5 text).1
    run.stop = none ∧ run.account.skipped = 2 ∧ run.account.isClean = false ∧
    ¬ ∀ line ∈ Script.parse text, line.Complete := by
  intro text world run
  have ended : run.stop = none := by decide +kernel
  have unclean : run.account.isClean = false := by decide +kernel
  obtain ⟨clean, skipped⟩ := (clean_run_iff .standard 5 text).2 world ended
  refine ⟨ended, skipped.trans (by decide +kernel), unclean, fun all => ?_⟩
  exact absurd (clean.mpr all) (by rw [unclean]; exact Bool.false_ne_true)

end KeyGadget
