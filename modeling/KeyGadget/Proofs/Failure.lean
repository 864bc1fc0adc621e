import KeyGadget.Proofs.Lines
import KeyGadget.Proofs.Operation

/-!
# A device that fails

A device that takes some reports and then fails is compared with one that takes them all. The two
see the same session up to the first report that is refused; the session ends with that report.

## Main result

`failure_cuts`: with room for all reports nothing changes, and with less room the session is cut
right at the first report for which there is none, with the failure as its reply. A run of a script
names the line that sent this report and keeps the entries of the lines before it.
-/
namespace KeyGadget

open Script

namespace World

private theorem limited_check (room : Nat) (refusal : List Happening → Report → DeviceError)
    (rest : List Action) (past : List Happening) :
    (limited room refusal).perform (.check :: rest) past =
      (limited room refusal).perform rest (past ++ [.look true]) :=
  perform_cons _ .check rest past

private theorem limited_write (room : Nat) (refusal : List Happening → Report → DeviceError)
    (report : Report) (rest : List Action) (past : List Happening)
    (fits : (Happening.accepted past).length < room) :
    (limited room refusal).perform (.write report :: rest) past =
      (limited room refusal).perform rest (past ++ [.write report (.ok ())]) := by
  rw [perform_cons]
  simp only [respond, limited, if_pos fits]
  rfl

private theorem limited_refuse (room : Nat) (refusal : List Happening → Report → DeviceError)
    (report : Report) (rest : List Action) (past : List Happening)
    (full : room ≤ (Happening.accepted past).length) :
    (limited room refusal).perform (.write report :: rest) past =
      (.error (.device (refusal past report)),
        past ++ [.write report (.error (refusal past report))]) := by
  rw [perform_cons]
  simp only [respond, limited, if_neg (Nat.not_lt.mpr full)]
  rfl

/-- What becomes of actions behind a history on a device with room for `room` reports: all of them
are granted, or they are cut at the first report for which there is no room. -/
inductive Limited (room : Nat) (past : List Happening) :
    List Action → Except SendError Unit × List Happening → Prop
  | whole {actions : List Action}
    (fits : (Happening.accepted (past ++ actions.map Action.granted)).length ≤ room) :
    Limited room past actions (.ok (), past ++ actions.map Action.granted)
  | cut (done : List Action) (report : Report) (rest : List Action) (error : DeviceError)
    (full : (Happening.accepted (past ++ done.map Action.granted)).length = room) :
    Limited room past (done ++ .write report :: rest)
      (.error (.device error),
        past ++ done.map Action.granted ++ [.write report (.error error)])

private theorem Limited.cons {room : Nat} {past : List Happening} {action : Action}
    {rest : List Action} {outcome : Except SendError Unit × List Happening}
    (limited : Limited room (past ++ [action.granted]) rest outcome) :
    Limited room past (action :: rest) outcome := by
  cases limited with
  | whole fits =>
    have whole := @Limited.whole room past (action :: rest)
    simp only [List.map_cons, List.append_assoc, List.singleton_append] at whole fits ⊢
    exact whole fits
  | cut done report rest error full =>
    have cut := @Limited.cut room past (action :: done) report rest error
    simp only [List.map_cons, List.append_assoc, List.cons_append, List.nil_append] at cut full ⊢
    exact cut full

theorem limited_perform (room : Nat) (refusal : List Happening → Report → DeviceError)
    (actions : List Action) (past : List Happening)
    (fits : (Happening.accepted past).length ≤ room) :
    Limited room past actions ((limited room refusal).perform actions past) := by
  induction actions generalizing past with
  | nil =>
    have whole := @Limited.whole room past []
    simp only [List.map_nil, List.append_nil] at whole
    exact whole fits
  | cons action rest ih =>
    cases action with
    | check =>
      rw [limited_check]
      exact (ih _ (by simpa using fits)).cons
    | sleep ms =>
      rw [perform_sleep]
      exact (ih _ (by simpa using fits)).cons
    | write report =>
      rcases Nat.lt_or_ge (Happening.accepted past).length room with free | full
      · rw [limited_write room refusal report rest past free]
        have taken : (Happening.accepted (past ++ [.write report (.ok ())])).length ≤ room := by
          rw [Happening.accepted_append, List.length_append]
          exact free
        exact (ih _ taken).cons
      · rw [limited_refuse room refusal report rest past full]
        have cut := @Limited.cut room past [] report rest (refusal past report)
        simp only [List.map_nil, List.append_nil, List.nil_append] at cut
        exact cut (Nat.le_antisymm fits full)

theorem limited_ok (room : Nat) (refusal : List Happening → Report → DeviceError)
    (actions : List Action) (after : List Happening)
    (performed : (limited room refusal).perform actions [] = (.ok (), after)) :
    (Happening.accepted (actions.map Action.granted)).length ≤ room := by
  have outcome := limited_perform room refusal actions [] (Nat.zero_le room)
  rw [performed] at outcome
  cases outcome with
  | whole fits => exact fits

/-- Actions that fail on a device with limited room are cut at the first report that does not
fit. -/
theorem limited_error (room : Nat) (refusal : List Happening → Report → DeviceError)
    (actions : List Action) (after : List Happening) (cause : SendError)
    (performed : (limited room refusal).perform actions [] = (.error cause, after)) :
    ∃ done report rest error, actions = done ++ .write report :: rest ∧
      (Happening.accepted (done.map Action.granted)).length = room ∧ cause = .device error ∧
      after = done.map Action.granted ++ [.write report (.error error)] := by
  have outcome := limited_perform room refusal actions [] (Nat.zero_le room)
  rw [performed] at outcome
  cases outcome with
  | cut done report rest error full => exact ⟨done, report, rest, error, rfl, full, rfl, rfl⟩

theorem accepted_lt (done rest : List Action) (report : Report) :
    (Happening.accepted (done.map Action.granted)).length <
      (Happening.accepted ((done ++ .write report :: rest).map Action.granted)).length := by
  rw [List.map_append, Happening.accepted_append, List.length_append, List.map_cons, Action.granted,
    Happening.accepted_write_ok, List.length_cons]
  omega

end World

/-- How many reports lines send that are run one after the other, if nothing fails. -/
def Script.reports (timing : Timing) (delay : Nat) (lines : List Line) : Nat :=
  (Happening.accepted (World.calm.runLines timing delay lines []).2).length

theorem Script.reports_eq (timing : Timing) (delay : Nat) (lines : List Line) :
    reports timing delay lines =
      (Happening.accepted ((Script.actions timing delay lines).map Action.granted)).length := by
  rw [reports, World.runLines_ok .calm timing delay lines [] _ (World.calm_perform _ []),
    List.nil_append]

theorem Script.Line.number_of_mem_entries (timing : Timing) (line : Line) (entry : Entry)
    (member : entry ∈ line.entries timing) : entry.line = line.number := by
  rw [Line.entries] at member
  split at member
  · cases member
  · rw [List.mem_singleton.mp member]

theorem Script.line_of_mem_entries (timing : Timing) (lines : List Line) (entry : Entry)
    (member : entry ∈ entries timing lines) : ∃ line ∈ lines, entry.line = line.number := by
  obtain ⟨line, inside, member⟩ := List.mem_flatMap.mp member
  exact ⟨line, inside, line.number_of_mem_entries timing entry member⟩

/-- The entries of the lines before a line are those with a smaller number. -/
theorem Script.entries_before (timing : Timing) (done rest : List Line) (line : Line)
    (sorted : (done ++ line :: rest).Pairwise fun a b => a.number < b.number) :
    (entries timing (done ++ line :: rest)).filter (fun entry => entry.line < line.number) =
      entries timing done := by
  -- Numbers grow along the lines, so the filter keeps `done` and drops all from `line` on.
  obtain ⟨_, behind, before⟩ := List.pairwise_append.mp sorted
  have kept : (entries timing done).filter (fun entry => entry.line < line.number) =
      entries timing done := by
    apply List.filter_eq_self.mpr
    intro entry member
    obtain ⟨earlier, inside, same⟩ := line_of_mem_entries timing done entry member
    rw [same]
    exact decide_eq_true (before earlier inside line List.mem_cons_self)
  have dropped : (entries timing (line :: rest)).filter (fun entry => entry.line < line.number) =
      [] := by
    apply List.filter_eq_nil_iff.mpr
    intro entry member
    obtain ⟨later, inside, same⟩ := line_of_mem_entries timing (line :: rest) entry member
    have reached : line.number ≤ later.number := by
      rcases List.mem_cons.mp inside with rfl | inside
      · exact Nat.le_refl _
      · exact Nat.le_of_lt ((List.pairwise_cons.mp behind).1 later inside)
    rw [same, decide_eq_true_eq]
    exact Nat.not_lt.mpr reached
  have split : entries timing (done ++ line :: rest) =
      entries timing done ++ entries timing (line :: rest) := List.flatMap_append
  rw [split, List.filter_append, kept, dropped, List.append_nil]

/-- A run that is cut stops in the line whose reports do not fit. -/
theorem Script.cut_in_line (timing : Timing) (delay room : Nat)
    (refusal : List Happening → Report → DeviceError) (lines : List Line)
    (after : List Happening) (cause : SendError)
    (performed : (World.limited room refusal).perform (actions timing delay lines) [] =
      (.error cause, after)) :
    ∃ done line rest, lines = done ++ line :: rest ∧ reports timing delay done ≤ room ∧
      room < reports timing delay (done ++ [line]) ∧
      ((World.limited room refusal).runLines timing delay lines []).1 =
        ⟨⟨entries timing done⟩, some ⟨line.number, cause⟩, delayAfter delay done⟩ := by
  obtain ⟨done, line, rest, middle, rfl, succeeded, failed, run⟩ :=
    World.runLines_error _ timing delay lines [] after cause performed
  refine ⟨done, line, rest, rfl, ?_, ?_, by rw [run]⟩
  · rw [reports_eq]
    exact World.limited_ok room refusal _ middle succeeded
  · -- The lines up to this one fail too, and only a report beyond the room can have failed.
    rw [reports_eq]
    have performed : (World.limited room refusal).perform
        (actions timing delay (done ++ [line])) [] = (.error cause, after) := by
      rw [actions_append, World.perform_append, succeeded]
      simpa [actions] using failed
    obtain ⟨sent, report, later, _, parts, full, _⟩ :=
      World.limited_error room refusal _ after cause performed
    rw [parts, ← full]
    exact World.accepted_lt sent later report

/-- A device that fails cuts the session at the write that fails, and nowhere else. -/
theorem failure_cuts (timing : Timing) (delay room : Nat)
    (refusal : List Happening → Report → DeviceError) (operation : Operation) :
    let (full, whole) := World.calm.operate timing delay operation []
    let (reply, history) := (World.limited room refusal).operate timing delay operation []
    ((Happening.accepted whole).length ≤ room → reply = full ∧ history = whole) ∧
    (room < (Happening.accepted whole).length →
      ∃ before report after error, whole = before ++ .write report (.ok ()) :: after ∧
        (Happening.accepted before).length = room ∧
        history = before ++ [.write report (.error error)] ∧
        (Happening.attempts history).length = room + 1 ∧
        Happening.log whole = Happening.log history ++ .report report :: Happening.log after ∧
        reply.1.failure = some (.device error) ∧
        ∀ text, operation = .run text → ∃ done line rest run cut,
          Script.parse text = done ++ line :: rest ∧
          Script.reports timing delay done ≤ room ∧
          room < Script.reports timing delay (done ++ [line]) ∧
          full.1 = .run run ∧ reply.1 = .run cut ∧
          cut.stop = some ⟨line.number, .device error⟩ ∧
          cut.account.entries =
            run.account.entries.filter fun entry => entry.line < line.number) := by
  rw [World.calm_operate, List.nil_append]
  -- The actions are cut at a write, or all of them are granted.
  rcases performed : (World.limited room refusal).perform (operation.actions timing delay) [] with
    ⟨cause | _, history⟩
  · obtain ⟨reply, after, operated, failure⟩ :=
      World.operate_error _ timing delay operation [] history cause performed
    obtain ⟨done, report, rest, error, parts, full, rfl, rfl⟩ :=
      World.limited_error room refusal _ history cause performed
    rw [operated, parts]
    have exceeds := World.accepted_lt done rest report
    refine ⟨fun fits => absurd fits (by omega), fun _ => ?_⟩
    refine ⟨done.map Action.granted, report, rest.map Action.granted, error, by simp, full, rfl,
      ?_, ?_, failure, ?_⟩
    · rw [Happening.accepted_granted, List.length_map] at full
      rw [Happening.attempts_append, List.length_append, full]
      rfl
    · rw [List.map_append, Happening.log_append, Happening.log_append, List.append_assoc]
      rfl
    · rintro text rfl
      -- What is left of the account are the entries of the lines before the one that is cut.
      obtain ⟨before, line, later, lines, within, beyond, cut⟩ :=
        Script.cut_in_line timing delay room refusal (Script.parse text) _ _ performed
      rw [World.operate_run] at operated
      obtain ⟨rfl, rfl⟩ := Prod.mk.inj (congrArg Prod.fst operated)
      refine ⟨before, line, later, _, _, lines, within, beyond, rfl, rfl, ?_, ?_⟩
      · rw [cut]
      · have sorted := Script.parse_sorted text
        rw [cut, lines] at *
        exact (Script.entries_before timing before later line sorted).symm
  · rw [World.operate_ok _ timing delay operation [] history performed]
    have fits := World.limited_ok room refusal _ history performed
    have same := World.perform_ok _ _ _ _ performed
    exact ⟨fun _ => ⟨rfl, by simpa using same⟩, fun exceeds => absurd fits (by omega)⟩

end KeyGadget
