import KeyGadget.Proofs.Composition
import KeyGadget.Proofs.Steady

/-!
# Comments and blank lines

A blank line has no place in a script, and a comment is only a place to stop at. While the flag is
up neither is seen in what a run does: nothing is sent for them, nothing is waited behind them, and
no entry is made. They count as lines, so the numbers behind them are larger.

## Main result

`asides_are_inert`: with comments and blank lines put in between two parts of a script, everything
is written, answered, waited and accounted for as without them, under later numbers behind them.
-/
namespace KeyGadget

open Happening (deeds)
open Script

namespace Script

/-- Whether a line asks for nothing: it is blank, or a comment. -/
def isAside (line : List Char) : Bool :=
  let text := Text.trim line
  text.isEmpty || isComment text

private theorem numberedLines_asides (number : Nat) (texts : List (List Char))
    (asides : ∀ text ∈ texts, isAside text = true) :
    ∀ line ∈ numberedLines number texts, line.isComment = true := by
  induction texts generalizing number with
  | nil => simp [numberedLines]
  | cons raw rest ih =>
    obtain ⟨own, others⟩ := List.forall_mem_cons.mp asides
    have later := ih (number + 1) others
    simp only [isAside, Bool.or_eq_true] at own
    rw [numberedLines]
    -- A blank line is left out, a comment is read as one.
    by_cases blank : (Text.trim raw).isEmpty = true
    · simpa only [readTrimmed, blank, if_true] using later
    · have comment : isComment (Text.trim raw) = true := own.resolve_left blank
      simp only [readTrimmed, blank, comment, if_true, Bool.false_eq_true, if_false]
      exact List.forall_mem_cons.mpr ⟨rfl, later⟩

/-- A text of asides holds no line but comments. -/
theorem parse_asides (text : String)
    (asides : ∀ line ∈ Text.lines text.toList, isAside line = true) :
    ∀ line ∈ parse text, line.isComment = true :=
  numberedLines_asides 1 _ asides

theorem Line.delayAfter_comment (line : Line) (delay : Nat) (comment : line.isComment = true) :
    line.delayAfter delay = delay := by
  rcases line with ⟨number, source, error | command⟩
  · rfl
  · cases command with
    | defaultDelay ms => cases comment
    | _ => rfl

/-- The place of a line after `count` lines have been put in behind the first `place` lines. -/
def movedBehind (place count number : Nat) : Nat :=
  if number ≤ place then number else number + count

/-- What is behind the lines of `first` in a script is moved on by what is put in between. -/
private theorem parse_inserted (first aside second : String) :
    let place := first.toList.count '\n' + 1
    let count := aside.toList.count '\n' + 1
    parse (first ++ "\n" ++ aside ++ "\n" ++ second) =
      parse first ++ ((parse aside).map (Line.raised place) ++
        ((parse second).map (Line.raised place)).map
          (Line.renumbered (movedBehind place count))) := by
  intro place count
  have feeds : (first ++ "\n" ++ aside).toList.count '\n' + 1 = place + count := by
    simp only [String.toList_append, List.count_append, place, count]
    have feed : "\n".toList.count '\n' = 1 := rfl
    omega
  rw [parse_join, parse_join, feeds, List.append_assoc, List.map_map]
  congr 2
  refine List.map_congr_left fun line member => ?_
  have positive := (parse_number second line member).1
  have behind : ¬ line.number + place ≤ place := by omega
  have moved : movedBehind place count (line.number + place) = line.number + (place + count) := by
    rw [movedBehind, if_neg behind, Nat.add_assoc]
  simp only [Function.comp_apply, Line.raised, Line.renumbered, moved]

/-- The lines of `first` stay where they are. -/
private theorem parse_unmoved (first : String) (count : Nat) :
    (parse first).map (Line.renumbered (movedBehind (first.toList.count '\n' + 1) count)) =
      parse first := by
  have stays : ∀ line ∈ parse first,
      line.renumbered (movedBehind (first.toList.count '\n' + 1) count) = line := by
    intro line member
    have bounds := (parse_number first line member).2
    simp only [Line.renumbered, movedBehind, if_pos bounds]
  rw [List.map_congr_left stays, List.map_id']

/-- With asides put in, a script has the same lines but for comments and numbers. -/
private theorem uncommented_inserted (first aside second : String)
    (asides : ∀ line ∈ Text.lines aside.toList, isAside line = true) :
    let renumber := movedBehind (first.toList.count '\n' + 1) (aside.toList.count '\n' + 1)
    (parse (first ++ "\n" ++ aside ++ "\n" ++ second)).filter (fun line => !line.isComment) =
      ((parse (first ++ "\n" ++ second)).map (Line.renumbered renumber)).filter
        fun line => !line.isComment := by
  intro renumber
  have none : ((parse aside).map (Line.raised (first.toList.count '\n' + 1))).filter
      (fun line => !line.isComment) = [] := by
    simp only [List.filter_eq_nil_iff, List.forall_mem_map]
    intro line member
    have comment : (line.raised (first.toList.count '\n' + 1)).isComment = true :=
      parse_asides aside asides line member
    simp [comment]
  rw [parse_inserted, parse_join, List.map_append, parse_unmoved]
  simp only [List.filter_append, none, List.nil_append, renumber]

/-- Which lines of two scripts, one behind the other, are of the first one is told by their
numbers. -/
private theorem parse_apart (first second : String) :
    let place := first.toList.count '\n' + 1
    ∀ line ∈ parse (first ++ "\n" ++ second),
      line ∈ parse first ∧ line.number ≤ place ∨
        line ∈ (parse second).map (Line.raised place) ∧ place < line.number := by
  intro place line member
  rw [parse_join, List.mem_append] at member
  rcases member with before | behind
  · exact Or.inl ⟨before, (parse_number first line before).2⟩
  · obtain ⟨own, member, rfl⟩ := List.mem_map.mp behind
    have positive := (parse_number second own member).1
    refine Or.inr ⟨behind, ?_⟩
    simp only [Line.raised]
    omega

end Script

namespace World

variable {world : World}

/-- Without its comments a script does the same, and gives the same account of it. -/
theorem Steady.runLines_uncommented (steady : world.Steady)
    (up : ∀ past, world.going past = true) (timing : Timing) (delay : Nat) (lines : List Line)
    (past other : List Happening) (same : deeds past = deeds other) :
    let commented := world.runLines timing delay lines past
    let plain := world.runLines timing delay (lines.filter fun line => !line.isComment) other
    deeds commented.2 = deeds plain.2 ∧ commented.1 = plain.1 := by
  induction lines generalizing delay past other with
  | nil => exact ⟨same, rfl⟩
  | cons line rest ih =>
    rw [runLines_cons]
    cases comment : line.isComment with
    | true =>
      -- All that is done for a comment is to look at the flag, which is up.
      have looked : world.perform (line.actions timing delay) past =
          (.ok (), past ++ [.look true]) := by
        rw [Line.actions, if_pos comment, world.perform_look [] past (up past), perform_nil]
      have silent : line.entries timing = [] := by
        rw [Line.entries, if_pos comment]
      have next : deeds (past ++ [.look true]) = deeds other := by
        rw [Happening.deeds_look, same]
      have later := ih delay (past ++ [.look true]) other next
      simpa [looked, silent, comment, Line.delayAfter_comment line delay comment] using later
    | false =>
      obtain ⟨result, done⟩ := steady.perform (line.actions timing delay) past other same
      rw [List.filter_cons_of_pos (by simp [comment]), runLines_cons]
      rcases performed : world.perform (line.actions timing delay) past with ⟨outcome, after⟩
      rcases performed' : world.perform (line.actions timing delay) other with ⟨outcome', after'⟩
      rw [performed, performed'] at result done
      subst result
      cases outcome with
      | error cause => exact ⟨done, rfl⟩
      | ok _ =>
        obtain ⟨later, run⟩ := ih (line.delayAfter delay) after after' done
        exact ⟨later, congrArg (Run.after (line.entries timing)) run⟩

end World

/-- **Comments and blank lines are inert**: put in between two parts of a script, they change
nothing in what is written and waited while the flag is up, whatever the device answers. The run
ends in the same way, with the same entries and the same default delay; only the numbers of what
stands behind them are larger. -/
theorem asides_are_inert (world : World) (steady : world.Steady)
    (up : ∀ past, world.going past = true) (timing : Timing) (delay : Nat)
    (past : List Happening) (first aside second : String)
    (asides : ∀ line ∈ Text.lines aside.toList, isAside line = true) :
    let place := first.toList.count '\n' + 1
    let count := aside.toList.count '\n' + 1
    let inserted :=
      (world.host.run timing delay (first ++ "\n" ++ aside ++ "\n" ++ second)).run past
    let plain := (world.host.run timing delay (first ++ "\n" ++ second)).run past
    deeds inserted.2 = deeds plain.2 ∧ inserted.1 = plain.1.renumbered (movedBehind place count) ∧
      ∀ line ∈ Script.parse (first ++ "\n" ++ second),
        line ∈ Script.parse first ∧ line.number ≤ place ∨
          line ∈ (Script.parse second).map (Line.raised place) ∧ place < line.number := by
  intro place count inserted plain
  let renumber := movedBehind place count
  have renumbered : world.runLines timing delay
      ((Script.parse (first ++ "\n" ++ second)).map (Line.renumbered renumber)) past =
        (plain.1.renumbered renumber, plain.2) := by
    rw [World.runLines, Host.runLines_renumbered, StateT.run_map]
    rfl
  -- Both scripts are compared with the one that is left without comments.
  obtain ⟨same, run⟩ := steady.runLines_uncommented up timing delay
    (Script.parse (first ++ "\n" ++ aside ++ "\n" ++ second)) past past rfl
  obtain ⟨same', run'⟩ := steady.runLines_uncommented up timing delay
    ((Script.parse (first ++ "\n" ++ second)).map (Line.renumbered renumber)) past past rfl
  rw [uncommented_inserted first aside second asides, ← same', renumbered] at same
  rw [uncommented_inserted first aside second asides, ← run', renumbered] at run
  exact ⟨same, run, parse_apart first second⟩

/-- The device has room for the first key only. The asides are not waited for, and the line that
fails has moved on by three. -/
theorem asides_are_inert_cut :
    let world : World := .limited 2 fun _ _ => .writeFailed "unplugged"
    let first := "DEFAULT_DELAY 5\na"
    let aside := "Remark\n\t\n # b\r"
    let place := first.toList.count '\n' + 1
    let count := aside.toList.count '\n' + 1
    let inserted := (world.host.run .standard 0 (first ++ "\n" ++ aside ++ "\n" ++ "b")).run []
    let plain := (world.host.run .standard 0 (first ++ "\n" ++ "b")).run []
    (world.Steady ∧ (∀ past, world.going past = true) ∧
      ∀ line ∈ Text.lines aside.toList, isAside line = true) ∧
    deeds inserted.2 = deeds plain.2 ∧ inserted.1 = plain.1.renumbered (movedBehind place count) ∧
    inserted.1.stop = some ⟨6, .device (.writeFailed "unplugged")⟩ ∧
    plain.1.stop = some ⟨3, .device (.writeFailed "unplugged")⟩ := by
  intro world first aside place count inserted plain
  have steady : world.Steady := World.limited_steady 2 (.writeFailed "unplugged")
  have up : ∀ past, world.going past = true := fun _ => rfl
  have asides : ∀ line ∈ Text.lines aside.toList, isAside line = true := by decide +kernel
  obtain ⟨same, run, -⟩ :=
    asides_are_inert world steady up .standard 0 [] first aside "b" asides
  exact ⟨⟨steady, up, asides⟩, same, run, by decide +kernel, by decide +kernel⟩

end KeyGadget
