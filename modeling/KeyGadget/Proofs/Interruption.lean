import KeyGadget.Proofs.Failure
import KeyGadget.Proofs.Keystroke

/-!
# A flag that goes down

The flag goes down for good as soon as the device has taken some number of reports. The last of
them belongs to a keystroke of one line. What is still carried out is settled by that place: the
rest of the keystroke, the waits of its line, and nothing else.

## Main result

`interruption_stops`: at most the release of a key that is down is still written. No keystroke and
no line is begun, and the run stops at the first of them that there is.
-/
namespace KeyGadget

open Script

namespace World

variable (world : World) (timing : Timing) (count : Nat)

theorem ended_check (rest : List Action) (past : List Happening)
    (ended : count ≤ (Happening.accepted past).length) :
    (world.endedAfter count).perform (.check :: rest) past =
      (.error .interrupted, past ++ [.look false]) := by
  have down : (world.endedAfter count).going past = false := by
    simp [endedAfter, Nat.not_lt.mpr ended]
  rw [perform_cons]
  simp only [respond, down]
  rfl

/-- Once the flag is down no line is begun. -/
theorem ended_runLines (delay : Nat) (lines : List Line) (past : List Happening)
    (ended : count ≤ (Happening.accepted past).length) :
    ∃ behind, (world.endedAfter count).runLines timing delay lines past =
        (⟨⟨[]⟩, lines.head?.map fun next => ⟨next.number, .interrupted⟩, delay⟩, past ++ behind) ∧
      Happening.attempts behind = [] ∧ Happening.log behind = [] := by
  cases lines with
  | nil => exact ⟨[], by simp, rfl, rfl⟩
  | cons first rest =>
    refine ⟨[.look false], ?_, rfl, rfl⟩
    rw [runLines_cons, Line.actions_eq, ended_check _ _ _ _ ended]
    rfl

end World

/-- Where the flag goes down: `report` is the `count`-th report that the device takes, and a report
of the keystroke. Behind a press the release is still written, with `answer`; nothing else is. -/
structure Halt (count : Nat) (stroke : Keystroke) (before : List Happening) (report : Report)
    (behind : List Happening) (answer : Except DeviceError Unit) : Prop where
  counted : (Happening.accepted before).length + 1 = count
  written : report = .press stroke ∧ Happening.attempts behind = [⟨.release, answer⟩] ∨
    report = .release ∧ Happening.attempts behind = [] ∧ answer = .ok ()

/-- What comes of a line in which the flag goes down: the release fails, the line had nothing left
to send, or its next keystroke is not begun. -/
def Halt.outcome (later : List Keystroke) : Except DeviceError Unit → Except SendError Unit
  | .error error => .error (.device error)
  | .ok () =>
    match later with
    | [] => .ok ()
    | _ :: _ => .error .interrupted

namespace World

variable (world : World) (count hold gap : Nat) (waits : List Nat)

private theorem ended_strokes (later : List Keystroke) (past : List Happening)
    (ended : count ≤ (Happening.accepted past).length) :
    ∃ behind, Happening.attempts behind = [] ∧
      (world.endedAfter count).perform
          (Plan.strokesActions hold gap later ++ waits.map .sleep) past =
        (Halt.outcome later (.ok ()), past ++ behind) := by
  cases later with
  | nil =>
    refine ⟨waits.map .sleep, by simp, ?_⟩
    have waited := (world.endedAfter count).perform_waits waits [] past
    simpa [Plan.strokesActions, Halt.outcome] using waited
  | cons stroke later =>
    refine ⟨[.look false], rfl, ?_⟩
    rw [Plan.strokesActions_cons]
    exact world.ended_check count _ past ended

/-- An action behind which the device takes more reports was granted. -/
private theorem granted_of_reached (action : Action) (rest : List Action) (past : List Happening)
    (free : (Happening.accepted past).length < count)
    (reached : count ≤ (Happening.accepted (world.perform (action :: rest) past).2).length) :
    world.perform (action :: rest) past = world.perform rest (past ++ [action.granted]) := by
  rcases world.perform_cons_cases action rest past with
    granted | ⟨happening, cause, refusal, refused⟩
  · exact granted
  · have none : Happening.accepted [happening] = [] := by
      cases refusal <;> rfl
    rw [refused] at reached
    simp only [Happening.accepted_append, none, List.append_nil] at reached
    omega

private theorem begun_of_reached (stroke : Keystroke) (later : List Keystroke)
    (past : List Happening) (free : (Happening.accepted past).length < count)
    (reached : count ≤ (Happening.accepted ((world.endedAfter count).perform
      (Plan.strokesActions hold gap (stroke :: later) ++ waits.map .sleep) past).2).length) :
    (world.endedAfter count).perform
        (Plan.strokesActions hold gap (stroke :: later) ++ waits.map .sleep) past =
      (world.endedAfter count).perform
        (.write .release :: ((delayWaits gap).map .sleep ++
          (Plan.strokesActions hold gap later ++ waits.map .sleep)))
        (past ++ [.look true, .write (.press stroke) (.ok ()), .sleep hold]) := by
  rw [Plan.strokesActions_cons] at reached ⊢
  simp only [List.cons_append, List.append_assoc] at reached ⊢
  have looked := granted_of_reached (world.endedAfter count) count .check _ past free reached
  rw [looked] at reached ⊢
  have pressed := granted_of_reached (world.endedAfter count) count (.write (.press stroke)) _ _
    (by simpa using free) reached
  rw [pressed, perform_sleep]
  simp

/-- The flag goes down with a release. Only the pause is left of the keystroke. -/
private theorem halt_release (stroke : Keystroke) (later : List Keystroke)
    (before : List Happening) (last : (Happening.accepted before).length + 1 = count) :
    ∃ behind, (world.endedAfter count).perform
          ((delayWaits gap).map .sleep ++
            (Plan.strokesActions hold gap later ++ waits.map .sleep))
          (before ++ [.write .release (.ok ())]) =
        (Halt.outcome later (.ok ()), before ++ .write .release (.ok ()) :: behind) ∧
      Happening.attempts behind = [] ∧ Halt count stroke before .release behind (.ok ()) := by
  obtain ⟨behind, quiet, performed⟩ := world.ended_strokes count hold gap waits later
    (before ++ [.write .release (.ok ())] ++ (delayWaits gap).map .sleep) (by simp [last])
  have silent : Happening.attempts ((delayWaits gap).map .sleep ++ behind) = [] := by
    simp [quiet]
  refine ⟨(delayWaits gap).map .sleep ++ behind, ?_, silent, last, Or.inr ⟨rfl, silent, rfl⟩⟩
  rw [perform_waits, performed]
  simp

/-- The flag goes down with a press. The release is attempted all the same. -/
private theorem halt_press (stroke : Keystroke) (later : List Keystroke)
    (before : List Happening) (last : (Happening.accepted before).length + 1 = count) :
    ∃ behind answer, (world.endedAfter count).perform
          (.write .release :: ((delayWaits gap).map .sleep ++
            (Plan.strokesActions hold gap later ++ waits.map .sleep)))
          (before ++ [.write (.press stroke) (.ok ()), .sleep hold]) =
        (Halt.outcome later answer, before ++ .write (.press stroke) (.ok ()) :: behind) ∧
      Happening.attempts behind = [⟨.release, answer⟩] ∧
      Halt count stroke before (.press stroke) behind answer := by
  -- The release is granted, and what is behind it meets the flag, or it is refused.
  rcases (world.endedAfter count).perform_cons_cases (.write .release)
      ((delayWaits gap).map .sleep ++ (Plan.strokesActions hold gap later ++ waits.map .sleep))
      (before ++ [.write (.press stroke) (.ok ()), .sleep hold]) with
    released | ⟨happening, cause, refusal, refused⟩
  · have taken : (Happening.accepted (before ++ [.write (.press stroke) (.ok ()), .sleep hold] ++
        [.write .release (.ok ())] ++ (delayWaits gap).map .sleep)).length =
          (Happening.accepted before).length + 2 := by simp
    obtain ⟨behind, quiet, performed⟩ :=
      world.ended_strokes count hold gap waits later _ (by rw [taken]; omega)
    have written : Happening.attempts (.sleep hold :: .write .release (.ok ()) ::
        ((delayWaits gap).map .sleep ++ behind)) = [⟨.release, .ok ()⟩] := by
      simp [quiet]
    refine ⟨_, .ok (), ?_, written, last, Or.inl ⟨rfl, written⟩⟩
    rw [released, perform_waits, Action.granted, performed]
    simp
  · cases refusal with
    | device _ error =>
      have written : Happening.attempts [.sleep hold, .write .release (.error error)] =
          [⟨.release, .error error⟩] := rfl
      refine ⟨_, .error error, ?_, written, last, Or.inl ⟨rfl, written⟩⟩
      rw [refused]
      simp [Halt.outcome]

/-- The flag goes down in the course of keystrokes: one of them is the last that is begun. -/
private theorem halt_strokes (strokes : List Keystroke) (past : List Happening)
    (free : (Happening.accepted past).length < count)
    (reached : count ≤ (Happening.accepted ((world.endedAfter count).perform
      (Plan.strokesActions hold gap strokes ++ waits.map .sleep) past).2).length) :
    ∃ sent stroke later before report behind answer, strokes = sent ++ stroke :: later ∧
      (world.endedAfter count).perform
          (Plan.strokesActions hold gap strokes ++ waits.map .sleep) past =
        (Halt.outcome later answer, before ++ .write report (.ok ()) :: behind) ∧
      Halt count stroke before report behind answer ∧
      (Happening.accepted past).length + 2 * strokes.length =
        count + (Happening.attempts behind).length + 2 * later.length := by
  induction strokes generalizing past with
  | nil =>
    have waited := (world.endedAfter count).perform_waits waits [] past
    simp only [Plan.strokesActions, List.flatMap_nil, List.nil_append, List.append_nil]
      at reached waited
    rw [waited, perform_nil] at reached
    simp only [Happening.accepted_append, Happening.accepted_waits, List.append_nil] at reached
    omega
  | cons stroke later ih =>
    have begun := begun_of_reached world count hold gap waits stroke later past free reached
    rw [begun] at reached ⊢
    have looked : (Happening.accepted (past ++ [.look true])).length =
        (Happening.accepted past).length := by simp
    have pressed : (Happening.accepted
        (past ++ [.look true, .write (.press stroke) (.ok ()), .sleep hold])).length =
          (Happening.accepted past).length + 1 := by simp
    -- The `count`-th report is the press, or the release, or belongs to a later keystroke.
    rcases Nat.lt_or_ge ((Happening.accepted past).length + 1) count with free | full
    · have released := granted_of_reached (world.endedAfter count) count (.write .release) _ _
        (by rwa [pressed]) reached
      rw [released] at reached ⊢
      rcases Nat.lt_or_ge ((Happening.accepted past).length + 2) count with free | full
      · rw [perform_waits] at reached ⊢
        obtain ⟨sent, last, rest, before, report, behind, answer, rfl, performed, halt, total⟩ :=
          ih _ (by simpa using free) reached
        refine ⟨stroke :: sent, last, rest, before, report, behind, answer, rfl, performed, halt,
          ?_⟩
        simp only [Action.granted, List.append_assoc, List.cons_append, List.nil_append,
          Happening.accepted_append, Happening.accepted_look, Happening.accepted_write_ok,
          Happening.accepted_sleep, Happening.accepted_waits, List.length_append,
          List.length_cons, List.length_nil] at total ⊢
        omega
      · obtain ⟨behind, performed, silent, halt⟩ := halt_release world count hold gap waits stroke
          later (past ++ [.look true, .write (.press stroke) (.ok ()), .sleep hold])
          (by rw [pressed]; omega)
        refine ⟨[], stroke, later, _, .release, behind, .ok (), rfl, performed, halt, ?_⟩
        rw [silent, List.length_cons, List.length_nil]
        omega
    · obtain ⟨behind, answer, performed, written, halt⟩ := halt_press world count hold gap waits
        stroke later (past ++ [.look true]) (by rw [looked]; omega)
      rw [List.append_assoc] at performed
      refine ⟨[], stroke, later, _, .press stroke, behind, answer, rfl, performed, halt, ?_⟩
      rw [written, List.length_cons, List.length_singleton]
      omega

private theorem halt_line (timing : Timing) (delay : Nat) (line : Line) (past : List Happening)
    (free : (Happening.accepted past).length < count)
    (reached : count ≤ (Happening.accepted
      ((world.endedAfter count).perform (line.actions timing delay) past).2).length) :
    ∃ sent stroke later before report behind answer, line.strokes = sent ++ stroke :: later ∧
      (world.endedAfter count).perform (line.actions timing delay) past =
        (Halt.outcome later answer, before ++ .write report (.ok ()) :: behind) ∧
      Halt count stroke before report behind answer ∧
      (Happening.accepted past).length + 2 * line.strokes.length =
        count + (Happening.attempts behind).length + 2 * later.length := by
  rw [Line.actions_eq] at reached ⊢
  have looked := granted_of_reached (world.endedAfter count) count .check _ past free reached
  rw [looked] at reached ⊢
  have halted := halt_strokes world count (line.hold timing) (line.gap timing) (line.waits delay)
    line.strokes _ (by simpa using free) reached
  simpa using halted

/-- The line in whose course the device takes its `count`-th report. -/
theorem line_of_reached (timing : Timing) (delay : Nat) (lines : List Line)
    (past : List Happening) (free : (Happening.accepted past).length < count)
    (reached : count ≤ (Happening.accepted (world.runLines timing delay lines past).2).length) :
    ∃ done line rest middle, lines = done ++ line :: rest ∧
      world.perform (Script.actions timing delay done) past = (.ok (), middle) ∧
      (Happening.accepted middle).length < count ∧
      count ≤ (Happening.accepted (world.perform
        (line.actions timing (Script.delayAfter delay done)) middle).2).length := by
  induction lines generalizing delay past with
  | nil => exact absurd reached (Nat.not_le.mpr free)
  | cons line rest ih =>
    -- The report is one of this line, or the line is done before it is taken.
    by_cases inside : count ≤
        (Happening.accepted (world.perform (line.actions timing delay) past).2).length
    · exact ⟨[], line, rest, past, rfl, rfl, free, inside⟩
    · rw [runLines_cons] at reached
      rcases performed : world.perform (line.actions timing delay) past with ⟨cause | _, after⟩
      · rw [performed] at reached inside
        exact absurd reached inside
      · rw [performed] at reached inside
        obtain ⟨done, last, later, middle, rfl, succeeded, before, within⟩ :=
          ih _ after (Nat.lt_of_not_le inside) reached
        refine ⟨line :: done, last, later, middle, rfl, ?_, before, within⟩
        rw [Script.actions, perform_append, performed]
        exact succeeded

end World

theorem Script.reports_line (timing : Timing) (delay : Nat) (done : List Line) (line : Line) :
    reports timing delay (done ++ [line]) =
      reports timing delay done + 2 * line.strokes.length := by
  rw [reports_eq, reports_eq, actions_append, List.map_append, Happening.accepted_append,
    List.length_append, ← Plan.strokesActions_accepted (line.hold timing) (line.gap timing)]
  simp [actions, Line.actions_eq, Function.comp_def]

private theorem Halt.append {count : Nat} {stroke : Keystroke} {before behind : List Happening}
    {report : Report} {answer : Except DeviceError Unit}
    (halt : Halt count stroke before report behind answer) (tail : List Happening)
    (quiet : Happening.attempts tail = []) :
    Halt count stroke before report (behind ++ tail) answer := by
  obtain ⟨counted, written⟩ := halt
  refine ⟨counted, ?_⟩
  rwa [Happening.attempts_append, quiet, List.append_nil]

/-- Where a run stops if the flag goes down in the course of `line`, and the entries of the lines
that are done: in that line, if the release fails or the line has a further keystroke, and else at
the next line, if there is one. -/
def Halt.ending (timing : Timing) (done : List Line) (line : Line) (rest : List Line)
    (later : List Keystroke) : Except DeviceError Unit → Option Stop × List Entry
  | .error error => (some ⟨line.number, .device error⟩, Script.entries timing done)
  | .ok () =>
    match later with
    | _ :: _ => (some ⟨line.number, .interrupted⟩, Script.entries timing done)
    | [] => (rest.head?.map fun next => ⟨next.number, .interrupted⟩,
      Script.entries timing (done ++ [line]))

private theorem World.run_of_halt (world : World) (count : Nat) (timing : Timing) (delay : Nat)
    (done : List Line) (line : Line) (rest : List Line) (middle after : List Happening)
    (later : List Keystroke) (answer : Except DeviceError Unit)
    (succeeded : (world.endedAfter count).perform (Script.actions timing delay done) [] =
      (.ok (), middle))
    (performed : (world.endedAfter count).perform
      (line.actions timing (Script.delayAfter delay done)) middle =
        (Halt.outcome later answer, after))
    (kept : line.delayAfter (Script.delayAfter delay done) = Script.delayAfter delay done)
    (ended : count ≤ (Happening.accepted after).length) :
    ∃ run tail, (world.endedAfter count).runLines timing delay (done ++ line :: rest) [] =
        (run, after ++ tail) ∧
      Happening.attempts tail = [] ∧ Happening.log tail = [] ∧
      run.delay = Script.delayAfter delay (done ++ [line]) ∧
      (run.stop, run.account.entries) = Halt.ending timing done line rest later answer := by
  have settled : Script.delayAfter delay (done ++ [line]) = Script.delayAfter delay done := by
    simpa [Script.delayAfter] using kept
  rw [runLines_append _ timing delay done (line :: rest) [] middle succeeded, runLines_cons,
    performed, settled]
  -- Only a line that is done hands over to the rest, and the rest does nothing but look once.
  rcases answer with error | ⟨⟩
  · exact ⟨_, [], by rw [List.append_nil]; rfl, rfl, rfl, rfl, by simp [Run.after, Halt.ending]⟩
  · cases later with
    | cons next later =>
      exact ⟨_, [], by rw [List.append_nil]; rfl, rfl, rfl, rfl, by simp [Run.after, Halt.ending]⟩
    | nil =>
      obtain ⟨tail, run, quiet, unmarked⟩ :=
        world.ended_runLines timing count (Script.delayAfter delay done) rest after ended
      simp only [Halt.outcome, kept, run]
      exact ⟨_, tail, rfl, quiet, unmarked, rfl, by simp [Run.after, Script.entries, Halt.ending]⟩

/-- Once the flag is down, at most the release of a key that is down is still written, and the run
stops at the next keystroke or line that there is. -/
theorem interruption_stops (world : World) (timing : Timing) (delay count : Nat) (text : String)
    (reached : count ≤
      (Happening.accepted ((world.endedAfter count).run timing delay text).2).length) :
    let (run, history) := (world.endedAfter count).run timing delay text
    (count = 0 → Happening.attempts history = [] ∧ Happening.log history = [] ∧
      run.account.entries = [] ∧ run.delay = delay ∧
      run.stop = (Script.parse text).head?.map fun first => ⟨first.number, .interrupted⟩) ∧
    (0 < count → ∃ done line rest sent stroke later before report behind answer,
      Script.parse text = done ++ line :: rest ∧ line.strokes = sent ++ stroke :: later ∧
      history = before ++ .write report (.ok ()) :: behind ∧
      Halt count stroke before report behind answer ∧ (Report.press stroke).IsPress ∧
      Script.reports timing delay done < count ∧
      Script.reports timing delay (done ++ [line]) =
        count + (Happening.attempts behind).length + 2 * later.length ∧
      Happening.log history <+:
        Happening.log (World.calm.runLines timing delay (done ++ [line]) []).2 ∧
      run.delay = Script.delayAfter delay (done ++ [line]) ∧
      (run.stop, run.account.entries) = Halt.ending timing done line rest later answer) := by
  have same : (world.endedAfter count).run timing delay text =
      (world.endedAfter count).runLines timing delay (Script.parse text) [] := rfl
  rw [same] at reached ⊢
  rcases met : (world.endedAfter count).runLines timing delay (Script.parse text) [] with
    ⟨run, history⟩
  refine ⟨?_, fun positive => ?_⟩
  · rintro rfl
    obtain ⟨behind, begun, quiet, unmarked⟩ :=
      world.ended_runLines timing 0 delay (Script.parse text) [] (Nat.le_refl 0)
    obtain ⟨rfl, rfl⟩ := Prod.mk.inj (met.symm.trans begun)
    exact ⟨quiet, unmarked, rfl, rfl, rfl⟩
  -- First the line in which the report is taken, then the keystroke in it, then the lines behind.
  · obtain ⟨done, line, rest, middle, lines, succeeded, free, within⟩ :=
      (world.endedAfter count).line_of_reached count timing delay (Script.parse text) [] positive
        reached
    obtain ⟨sent, stroke, later, before, report, behind, answer, strokes, performed, halt, total⟩ :=
      world.halt_line count timing (Script.delayAfter delay done) line middle free within
    have sends : line.strokes ≠ [] := by simp [strokes]
    rw [performed] at within
    obtain ⟨stopped, tail, whole, quiet, unmarked, settled, ending⟩ :=
      world.run_of_halt count timing delay done line rest middle _ later answer succeeded performed
        (line.delayAfter_of_strokes _ sends) within
    rw [lines] at met ⊢
    obtain ⟨rfl, rfl⟩ := Prod.mk.inj (met.symm.trans whole)
    have granted : middle = (Script.actions timing delay done).map Action.granted := by
      simpa using World.perform_ok _ _ _ _ succeeded
    have sentBefore : Script.reports timing delay done = (Happening.accepted middle).length := by
      rw [Script.reports_eq, granted]
    refine ⟨done, line, rest, sent, stroke, later, before, report, behind ++ tail, answer, rfl,
      strokes, by simp, halt.append tail quiet, ?_, by rwa [sentBefore], ?_, ?_, settled, ending⟩
    · exact Report.press_isPress stroke (line.holds_of_mem_strokes stroke (by simp [strokes]))
    · rw [Script.reports_line, sentBefore, total, Happening.attempts_append, quiet, List.append_nil]
    · have marked := (world.endedAfter count).perform_log
        (line.actions timing (Script.delayAfter delay done)) middle
      rw [performed] at marked
      rw [Happening.log_append, unmarked, List.append_nil,
        World.runLines_ok .calm timing delay _ [] _ (World.calm_perform _ []), List.nil_append,
        Script.actions_append, List.map_append, ← granted]
      simpa [Script.actions] using marked

/-- The flag goes down with the first press of a text. -/
theorem interruption_stops_first_press :
    let (run, history) := (World.calm.endedAfter 1).run .standard 0 "STRING ab"
    1 ≤ (Happening.accepted history).length ∧
    ∃ done line rest stroke later before report behind answer,
      Script.parse "STRING ab" = done ++ line :: rest ∧
      history = before ++ .write report (.ok ()) :: behind ∧
      Halt 1 stroke before report behind answer ∧
      (run.stop, run.account.entries) = Halt.ending .standard done line rest later answer := by
  have reached : 1 ≤ (Happening.accepted
      ((World.calm.endedAfter 1).run .standard 0 "STRING ab").2).length := by decide +kernel
  obtain ⟨done, line, rest, _, stroke, later, before, report, behind, answer, lines, _, split, halt,
    _, _, _, _, _, ending⟩ :=
      (interruption_stops .calm .standard 0 1 "STRING ab" reached).2 Nat.one_pos
  exact ⟨reached, done, line, rest, stroke, later, before, report, behind, answer, lines, split,
    halt, ending⟩

-- With the last release of the first line the flag stops the run at the comment behind it.
example : ((World.calm.endedAfter 4).run .standard 0 "STRING ab\nREM done").1.stop =
    some ⟨2, .interrupted⟩ := by
  decide +kernel

end KeyGadget
