import KeyGadget.Proofs.Lines
import Mathlib.Control.Monad.Basic
import KeyGadget.Proofs.Transcript

/-!
# A device that cannot tell the time

How long keys are held, how long the pauses are and where a script waits is not seen in what is
sent. Two scripts are run with any two timings, in a world that answers a write by what has been
attempted before and not by what was waited in between. If the scripts differ in their waits and
comments only, then a line of the one that sends something meets the same answers as its counterpart
in the other.

## Main result

`timing_is_unseen`: the attempts are the same, the lines that the scripts have in common get the
same statuses, and both runs come to their end, or both stop at the same of these lines.
-/
namespace KeyGadget

open Script

/-- The writes among actions. -/
def Action.writes (actions : List Action) : List Action :=
  (Happening.accepted (actions.map Action.granted)).map .write

namespace World

/-- A world that cannot tell the time: the flag stays up, and an answer depends on the attempts
before it only. -/
structure Untimed (world : World) : Prop where
  answer : ∀ past other report, Happening.attempts past = Happening.attempts other →
    world.answer past report = world.answer other report
  going : ∀ past, world.going past = true

/-- The world that answers a write by the number of writes attempted before. -/
def counting (answers : Nat → Except DeviceError Unit) : World where
  answer past _ := answers (Happening.attempts past).length
  going _ := true

theorem counting_untimed (answers : Nat → Except DeviceError Unit) :
    (counting answers).Untimed :=
  ⟨fun _ _ _ same => congrArg answers (congrArg List.length same), fun _ => rfl⟩

variable {world : World}

/-- Only the writes among actions decide what comes of them and what is attempted. -/
private theorem Untimed.perform_writes (untimed : world.Untimed) (actions : List Action)
    (past other : List Happening) (same : Happening.attempts past = Happening.attempts other) :
    (world.perform actions past).1 = (world.perform (Action.writes actions) other).1 ∧
      Happening.attempts (world.perform actions past).2 =
        Happening.attempts (world.perform (Action.writes actions) other).2 := by
  induction actions generalizing past other with
  | nil => exact ⟨rfl, same⟩
  | cons action rest ih =>
    cases action with
    -- Looks and waits are no attempts, so the world answers behind them as it does before.
    | check =>
      rw [perform_cons]
      simp only [respond, untimed.going, Happening.failure]
      exact ih _ _ (by simpa using same)
    | sleep ms =>
      rw [perform_sleep]
      exact ih _ _ (by simpa using same)
    | write report =>
      have writes : Action.writes (.write report :: rest) =
          .write report :: Action.writes rest := rfl
      have next : ∀ answer : Except DeviceError Unit,
          Happening.attempts (past ++ [.write report answer]) =
            Happening.attempts (other ++ [.write report answer]) := by
        intro answer
        rw [Happening.attempts_append, Happening.attempts_append, same]
      rw [writes, perform_cons, perform_cons]
      simp only [respond, untimed.answer past other report same]
      cases world.answer other report with
      | ok _ => exact ih _ _ (next _)
      | error error => exact ⟨rfl, next _⟩

/-- Actions that write the same meet the same answers. -/
theorem Untimed.perform (untimed : world.Untimed) (actions others : List Action)
    (past other : List Happening) (same : Happening.attempts past = Happening.attempts other)
    (writes : Action.writes actions = Action.writes others) :
    (world.perform actions past).1 = (world.perform others other).1 ∧
      Happening.attempts (world.perform actions past).2 =
        Happening.attempts (world.perform others other).2 := by
  obtain ⟨result, attempts⟩ := untimed.perform_writes actions past past rfl
  obtain ⟨result', attempts'⟩ := untimed.perform_writes others other past same.symm
  rw [writes] at result attempts
  exact ⟨result.trans result'.symm, attempts.trans attempts'.symm⟩

end World

namespace Script

/-- Whether a line is there for its wait only. -/
def Line.isWait (line : Line) : Bool :=
  match line.parsed with
  | .ok (.delay _) | .ok (.defaultDelay _) => true
  | _ => false

/-- Whether a line is neither a comment nor there for its wait. -/
def Line.remains (line : Line) : Bool :=
  !line.isComment && !line.isWait

/-- The lines that remain if the comments and the waits are taken out. -/
def remaining (lines : List Line) : List Line :=
  lines.filter Line.remains

theorem Line.remains_congr {line other : Line} (same : line.parsed = other.parsed) :
    line.remains = other.remains := by
  rw [Line.remains, Line.remains, Line.isComment, Line.isComment, Line.isWait, Line.isWait, same]

/-- Lines that are read alike write the same, whatever they are waited for. -/
theorem Line.writes_congr (timing otherTiming : Timing) (delay later : Nat) {line other : Line}
    (same : line.parsed = other.parsed) :
    Action.writes (line.actions timing delay) =
      Action.writes (other.actions otherTiming later) := by
  have strokes : line.strokes = other.strokes := by rw [Line.strokes, Line.strokes, same]
  rw [Action.writes, Action.writes, line_reports, line_reports, strokes]

theorem Line.writes_of_not_remains (timing : Timing) (delay : Nat) (line : Line)
    (idle : line.remains = false) : Action.writes (line.actions timing delay) = [] := by
  have strokes : line.strokes = [] := by
    rcases line with ⟨number, source, error | command⟩
    · rfl
    · cases command <;> first | rfl | cases idle
  rw [Action.writes, line_reports, strokes]
  rfl

/-- Lines that are alike but for comments and waits. -/
inductive Alike : List Line → List Line → Prop
  | done : Alike [] []
  | left (line : Line) {lines others : List Line} (idle : line.remains = false) :
    Alike lines others → Alike (line :: lines) others
  | right (other : Line) {lines others : List Line} (idle : other.remains = false) :
    Alike lines others → Alike lines (other :: others)
  | both (line other : Line) {lines others : List Line} (counts : line.remains = true)
    (same : line.parsed = other.parsed) :
    Alike lines others → Alike (line :: lines) (other :: others)

theorem alike_of_remaining (lines others : List Line)
    (same : (remaining lines).map Line.parsed = (remaining others).map Line.parsed) :
    Alike lines others := by
  -- A line that does not remain is passed over, on the left first.
  induction lines generalizing others with
  | nil =>
    induction others with
    | nil => exact .done
    | cons other others ih =>
      cases counts : other.remains with
      | true => simp [remaining, counts] at same
      | false => exact .right other counts (ih (by simpa [remaining, counts] using same))
  | cons line lines ih =>
    cases counts : line.remains with
    | false => exact .left line counts (ih others (by simpa [remaining, counts] using same))
    | true =>
      induction others with
      | nil => simp [remaining, counts] at same
      | cons other others later =>
        cases countsOther : other.remains with
        | false =>
          exact .right other countsOther (later (by simpa [remaining, countsOther] using same))
        | true =>
          simp only [remaining, List.filter_cons, counts, countsOther, if_true, List.map_cons,
            List.cons.injEq] at same
          exact .both line other counts same.1 (ih others same.2)

end Script

/-- How two runs of lines end that see the same: both at the end of their lines, or both at a line,
with the same lines done before it as far as these remain. -/
inductive EndAlike (timing other : Timing) (lines others : List Line) : Run → Run → Prop
  | completed (delay later : Nat) :
    EndAlike timing other lines others ⟨⟨Script.entries timing lines⟩, none, delay⟩
      ⟨⟨Script.entries other others⟩, none, later⟩
  | stopped (delay later : Nat) (cause : SendError) {done rest done' rest' : List Line}
    {line line' : Line} (parts : lines = done ++ line :: rest)
    (parts' : others = done' ++ line' :: rest')
    (before : (remaining done).map Line.parsed = (remaining done').map Line.parsed)
    (same : line.parsed = line'.parsed) (counts : line.remains = true) :
    EndAlike timing other lines others
      ⟨⟨Script.entries timing done⟩, some ⟨line.number, cause⟩, delay⟩
      ⟨⟨Script.entries other done'⟩, some ⟨line'.number, cause⟩, later⟩

namespace EndAlike

variable {timing other : Timing} {lines others : List Line} {run run' : Run}

theorem left (line : Line) (idle : line.remains = false)
    (alike : EndAlike timing other lines others run run') :
    EndAlike timing other (line :: lines) others (run.after (line.entries timing)) run' := by
  cases alike with
  | completed delay later => exact .completed delay later
  | @stopped delay later cause done rest _ _ last _ parts parts' before same counts =>
    have split : line :: lines = (line :: done) ++ last :: rest := congrArg (line :: ·) parts
    exact .stopped delay later cause split parts' (by simpa [remaining, idle] using before) same
      counts

theorem right (line : Line) (idle : line.remains = false)
    (alike : EndAlike timing other lines others run run') :
    EndAlike timing other lines (line :: others) run (run'.after (line.entries other)) := by
  cases alike with
  | completed delay later => exact .completed delay later
  | @stopped delay later cause _ _ done rest _ last parts parts' before same counts =>
    have split : line :: others = (line :: done) ++ last :: rest := congrArg (line :: ·) parts'
    exact .stopped delay later cause parts split (by simpa [remaining, idle] using before) same
      counts

theorem both (line line' : Line) (counts : line.remains = true)
    (same : line.parsed = line'.parsed) (alike : EndAlike timing other lines others run run') :
    EndAlike timing other (line :: lines) (line' :: others) (run.after (line.entries timing))
      (run'.after (line'.entries other)) := by
  have counts' : line'.remains = true := Line.remains_congr same ▸ counts
  cases alike with
  | completed delay later => exact .completed delay later
  | @stopped delay later cause done rest done' rest' last last' parts parts' before sameLast
      countsLast =>
    have split : line :: lines = (line :: done) ++ last :: rest := congrArg (line :: ·) parts
    have split' : line' :: others = (line' :: done') ++ last' :: rest' :=
      congrArg (line' :: ·) parts'
    exact .stopped delay later cause split split'
      (by simpa [remaining, counts, counts', same] using before) sameLast countsLast

end EndAlike

namespace World

variable {world : World}

private theorem Untimed.idle_line (untimed : world.Untimed) (timing : Timing) (delay : Nat)
    (line : Line) (idle : line.remains = false) (past : List Happening) :
    ∃ after, world.perform (line.actions timing delay) past = (.ok (), after) ∧
      Happening.attempts after = Happening.attempts past := by
  obtain ⟨result, attempts⟩ := untimed.perform (line.actions timing delay) [] past past rfl
    (line.writes_of_not_remains timing delay idle)
  exact ⟨(world.perform _ past).2, Prod.ext result rfl, attempts⟩

/-- The runs of lines that are alike attempt the same and end alike. -/
theorem Untimed.runLines (untimed : world.Untimed) (timing other : Timing) (delay later : Nat)
    {lines others : List Line} (alike : Alike lines others) (past before : List Happening)
    (same : Happening.attempts past = Happening.attempts before) :
    let (run, history) := world.runLines timing delay lines past
    let (run', history') := world.runLines other later others before
    Happening.attempts history = Happening.attempts history' ∧
      EndAlike timing other lines others run run' := by
  induction alike generalizing delay later past before with
  | done => exact ⟨same, .completed delay later⟩
  -- What is there on one side only adds nothing to what has been attempted.
  | left line idle alike ih =>
    obtain ⟨after, performed, attempts⟩ := untimed.idle_line timing delay line idle past
    rw [runLines_cons, performed]
    obtain ⟨attempted, ended⟩ := ih (line.delayAfter delay) later after before (attempts.trans same)
    exact ⟨attempted, ended.left line idle⟩
  | right line idle alike ih =>
    obtain ⟨after, performed, attempts⟩ := untimed.idle_line other later line idle before
    rw [runLines_cons, performed]
    obtain ⟨attempted, ended⟩ :=
      ih delay (line.delayAfter later) past after (same.trans attempts.symm)
    exact ⟨attempted, ended.right line idle⟩
  | both line line' counts sameLine alike ih =>
    obtain ⟨result, attempts⟩ := untimed.perform (line.actions timing delay)
      (line'.actions other later) past before same
      (Line.writes_congr timing other delay later sameLine)
    rw [runLines_cons, runLines_cons]
    -- Either both lines succeed or both fail, with the same error.
    rcases performed : world.perform (line.actions timing delay) past with ⟨_ | _, after⟩ <;>
      rcases performed' : world.perform (line'.actions other later) before with ⟨_ | _, after'⟩ <;>
      rw [performed, performed'] at result attempts <;> cases result
    · exact ⟨attempts, .stopped delay later _ (List.nil_append _).symm (List.nil_append _).symm rfl
        sameLine counts⟩
    · obtain ⟨attempted, ended⟩ :=
        ih (line.delayAfter delay) (line'.delayAfter later) after after' attempts
      exact ⟨attempted, ended.both line line' counts sameLine⟩

end World

/-- The status that an account gives to the line with a number, if the line was reached. -/
def Account.statusAt (account : Account) (number : Nat) : Option Status :=
  (account.entries.find? fun entry => entry.line == number).map (·.status)

/-- The statuses that an account gives to lines. -/
def Account.statuses (account : Account) (lines : List Line) : List (Option Status) :=
  lines.map fun line => account.statusAt line.number

namespace Script

private theorem find?_number (lines : List Line)
    (sorted : lines.Pairwise fun a b => a.number < b.number) (line : Line) (member : line ∈ lines) :
    lines.find? (fun other => other.number == line.number) = some line := by
  induction lines with
  | nil => cases member
  | cons first rest ih =>
    rw [List.pairwise_cons] at sorted
    rcases List.mem_cons.mp member with rfl | later
    · exact List.find?_cons_of_pos (beq_self_eq_true _)
    · have before := sorted.1 line later
      rw [List.find?_cons_of_neg (by simp; omega)]
      exact ih sorted.2 later

/-- An account of the lines that are done gives a status to these and to no later line. -/
theorem statuses_eq (timing : Timing) (done rest : List Line)
    (sorted : (done ++ rest).Pairwise fun a b => a.number < b.number) :
    (Account.mk (entries timing done)).statuses (remaining (done ++ rest)) =
      (remaining done).map (fun line => some (Transcript.entry line).status) ++
        (remaining rest).map fun _ => none := by
  obtain ⟨sortedDone, -, apart⟩ := List.pairwise_append.mp sorted
  have statusAt : ∀ number, (Account.mk (entries timing done)).statusAt number =
      ((done.filter fun line => !line.isComment).find? fun line => line.number == number).map
        fun line => (Transcript.entry line).status := by
    intro number
    rw [Account.statusAt, entries_eq, List.find?_map, Option.map_map]
    rfl
  rw [Account.statuses, remaining, List.filter_append, List.map_append]
  congr 1
  · refine List.map_congr_left fun line member => ?_
    rw [List.mem_filter, Line.remains, Bool.and_eq_true] at member
    have counts : line ∈ done.filter fun line => !line.isComment :=
      List.mem_filter.mpr ⟨member.1, member.2.1⟩
    rw [statusAt, find?_number _ (sortedDone.filter _) line counts]
    rfl
  · refine List.map_congr_left fun line member => ?_
    have absent : (done.filter fun line => !line.isComment).find?
        (fun other => other.number == line.number) = none := by
      rw [List.find?_eq_none]
      intro other counts same
      have before := apart other (List.mem_filter.mp counts).1 line (List.mem_filter.mp member).1
      exact absurd (beq_iff_eq.mp same) (Nat.ne_of_lt before)
    rw [statusAt, absent]
    rfl

/-- Lines that are read alike have the same status. -/
private theorem statuses_congr {lines others : List Line}
    (same : lines.map Line.parsed = others.map Line.parsed) :
    lines.map (fun line => some (Transcript.entry line).status) =
      others.map fun line => some (Transcript.entry line).status := by
  have read : ∀ lines : List Line, lines.map (fun line => some (Transcript.entry line).status) =
      (lines.map Line.parsed).map fun parsed => some (Transcript.entry ⟨0, "", parsed⟩).status := by
    intro lines
    rw [List.map_map]
    rfl
  rw [read, read, same]

private theorem getElem?_remaining (done rest : List Line) (line : Line)
    (counts : line.remains = true) :
    (remaining (done ++ line :: rest))[(remaining done).length]? = some line := by
  simp [remaining, counts]

end Script

/-- What the ends of two runs have in common is seen in their statuses and stops. -/
theorem EndAlike.seen {timing other : Timing} {lines others : List Line} {run run' : Run}
    (alike : EndAlike timing other lines others run run')
    (same : (remaining lines).map Line.parsed = (remaining others).map Line.parsed)
    (sorted : lines.Pairwise fun a b => a.number < b.number)
    (sorted' : others.Pairwise fun a b => a.number < b.number) :
    run.account.statuses (remaining lines) = run'.account.statuses (remaining others) ∧
    (run.stop = none ∧ run'.stop = none ∨
      ∃ (index : Nat) (line line' : Line) (cause : SendError),
        (remaining lines)[index]? = some line ∧ (remaining others)[index]? = some line' ∧
        run.stop = some ⟨line.number, cause⟩ ∧ run'.stop = some ⟨line'.number, cause⟩) := by
  cases alike with
  | completed delay later =>
    have statuses := statuses_eq timing lines [] (by rwa [List.append_nil])
    have statuses' := statuses_eq other others [] (by rwa [List.append_nil])
    rw [List.append_nil] at statuses statuses'
    rw [statuses, statuses', statuses_congr same]
    exact ⟨rfl, Or.inl ⟨rfl, rfl⟩⟩
  | @stopped _ _ cause done rest done' rest' line line' parts parts' before sameLine counts =>
    subst parts parts'
    have counts' : line'.remains = true := Line.remains_congr sameLine ▸ counts
    have count : (remaining done').length = (remaining done).length := by
      simpa using (congrArg List.length before).symm
    -- As many lines are left behind the ones that are done.
    have left : (remaining (line :: rest)).length = (remaining (line' :: rest')).length := by
      have total := congrArg List.length same
      simp only [remaining, List.filter_append, List.map_append, List.length_append,
        List.length_map] at total count ⊢
      omega
    refine ⟨?_, Or.inr ⟨(remaining done).length, line, line', cause,
      getElem?_remaining done rest line counts, ?_, rfl, rfl⟩⟩
    · rw [statuses_eq timing done _ sorted, statuses_eq other done' _ sorted',
        statuses_congr before, List.map_const', List.map_const', left]
    · rw [← count]
      exact getElem?_remaining done' rest' line' counts'

/-- **Timing does not show**: two scripts that differ in comments and waits only, run with any
timings and default delays in a world that cannot tell the time, make the same attempts, give the
same statuses to the lines that remain, and end alike. -/
theorem timing_is_unseen (world : World) (untimed : world.Untimed) (timing other : Timing)
    (delay later : Nat) (first second : String)
    (same : (remaining (Script.parse first)).map Line.parsed =
      (remaining (Script.parse second)).map Line.parsed) :
    let (run, history) := world.run timing delay first
    let (run', history') := world.run other later second
    Happening.attempts history = Happening.attempts history' ∧
    run.account.statuses (remaining (Script.parse first)) =
      run'.account.statuses (remaining (Script.parse second)) ∧
    (run.stop = none ∧ run'.stop = none ∨
      ∃ (index : Nat) (line line' : Line) (cause : SendError),
        (remaining (Script.parse first))[index]? = some line ∧
        (remaining (Script.parse second))[index]? = some line' ∧
        run.stop = some ⟨line.number, cause⟩ ∧ run'.stop = some ⟨line'.number, cause⟩) := by
  obtain ⟨attempted, ended⟩ :=
    untimed.runLines timing other delay later (alike_of_remaining _ _ same) [] [] rfl
  exact ⟨attempted, ended.seen same (Script.parse_sorted first) (Script.parse_sorted second)⟩

/-- The device fails at the third attempt, which is the press of the second key. -/
theorem timing_is_unseen_counting :
    let world := World.counting fun attempts =>
      if attempts < 2 then .ok () else .error (.writeFailed "unplugged")
    let other : Timing := ⟨0, 0, 7, 1⟩
    let first := "DEFAULT_DELAY 5\nREM x\na\nnokey\nb"
    let second := "a\nnokey\nDELAY 7\nb"
    let (run, history) := world.run .standard 0 first
    let (run', history') := world.run other 3 second
    (world.Untimed ∧ (remaining (Script.parse first)).map Line.parsed =
      (remaining (Script.parse second)).map Line.parsed) ∧
    Happening.attempts history = Happening.attempts history' ∧
    run.account.statuses (remaining (Script.parse first)) =
      run'.account.statuses (remaining (Script.parse second)) ∧
    run.stop = some ⟨5, .device (.writeFailed "unplugged")⟩ ∧
    run'.stop = some ⟨4, .device (.writeFailed "unplugged")⟩ := by
  intro world other first second
  have untimed : world.Untimed := World.counting_untimed _
  have same : (remaining (Script.parse first)).map Line.parsed =
      (remaining (Script.parse second)).map Line.parsed := by decide +kernel
  obtain ⟨attempts, statuses, -⟩ :=
    timing_is_unseen world untimed .standard other 0 3 first second same
  exact ⟨⟨untimed, same⟩, attempts, statuses, by decide +kernel, by decide +kernel⟩

end KeyGadget
