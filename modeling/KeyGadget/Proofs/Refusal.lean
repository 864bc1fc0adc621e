import KeyGadget.Proofs.Composition
import KeyGadget.Proofs.Keystroke
import KeyGadget.Proofs.Resolution

/-!
# Names that nobody knows

A request whose names are all unknown is refused before anything happens: nothing is written,
nothing is waited, and the flag is not even looked at. A script steps over such a line. It waits the
default delay behind it as behind any other line, and the lines that follow are run as they are run
without it.

## Main results

`operate_unknown_iff`: which requests are refused, in every world. `runLines_missed` and
`Heedless.runLines`: what becomes of the lines behind. `unknown_names_are_harmless` puts these
together.
-/
namespace KeyGadget

open Script

/-! ### Requests that are refused -/

private theorem map_eq_error_iff {ε α β : Type} (f : α → β) (result : Except ε α) (error : ε) :
    result.map f = .error error ↔ result = .error error := by
  cases result <;> simp [Except.map]

/-- Whether a command asks for names and none of them is known, and what is told of it then. -/
def Script.Command.Misses (command : Command) (error : UnknownKey) : Prop :=
  match command with
  | .pressKey name _ => ¬ Names.KnownAlone name ∧ error = ⟨name⟩
  | .combo names =>
    (∀ name ∈ names, ¬ Names.Listed (Names.lowered name)) ∧
      error = ⟨(names.map Names.lowered).headD ""⟩
  | _ => False

/-- Whether an operation asks for names and none of them is known, and what is told of it then.
Texts are not names, and a script is not refused for the names in it. -/
def Operation.Misses (operation : Operation) (error : UnknownKey) : Prop :=
  match operation with
  | .tap name | .press name _ _ => ¬ Names.KnownAlone name ∧ error = ⟨name⟩
  | .combo tokens =>
    (∀ token ∈ tokens, ¬ Names.Listed (Names.lowered token)) ∧
      error = ⟨(tokens.map Names.lowered).headD ""⟩
  | .execute command => command.Misses error
  | _ => False

theorem Plan.press_eq_error_iff (timing : Timing) (name : String) (extra : Modifiers) (hold : Nat)
    (error : UnknownKey) :
    press timing name extra hold = .error error ↔ ¬ Names.KnownAlone name ∧ error = ⟨name⟩ := by
  rw [press, map_eq_error_iff, Names.resolve_eq_error_iff]

theorem Plan.combo_eq_error_iff (timing : Timing) (tokens : List String) (error : UnknownKey) :
    combo timing tokens = .error error ↔
      (∀ token ∈ tokens, ¬ Names.Listed (Names.lowered token)) ∧
        error = ⟨(tokens.map Names.lowered).headD ""⟩ := by
  rw [combo, map_eq_error_iff, Names.chord_eq_error_iff]

/-- A command has no plan if its names are all unknown, and only then. -/
theorem Script.Command.plan_eq_error_iff (timing : Timing) (command : Command)
    (error : UnknownKey) : command.plan timing = .error error ↔ command.Misses error := by
  cases command with
  | pressKey name extra =>
    rw [Command.plan, map_eq_error_iff, Plan.press_eq_error_iff, Misses]
  | combo names => rw [Command.plan, map_eq_error_iff, Plan.combo_eq_error_iff, Misses]
  | _ => simp [Command.plan, Misses]

/-- A reply that gives back the result of what was planned tells of an unknown name if there is no
plan. -/
private theorem promise_unknown_iff {α : Type} (reply : Except SendError α → Reply)
    (fails : ∀ cause, (reply (.error cause)).failure = some cause)
    (succeeds : ∀ value, (reply (.ok value)).failure = none)
    (planned : Except UnknownKey (Plan α)) (error : UnknownKey) :
    (reply (Plan.promise planned)).failure = some (.unknownKey error) ↔
      planned = .error error := by
  cases planned with
  | ok plan => simp [Plan.promise, succeeds]
  | error other => simp [Plan.promise, fails]

/-- What is promised tells of an unknown name if nothing is known, and only then. -/
theorem Operation.promise_failure_iff (timing : Timing) (delay : Nat) (operation : Operation)
    (error : UnknownKey) :
    (operation.promise timing delay).1.failure = some (.unknownKey error) ↔
      operation.Misses error := by
  cases operation with
  | tap name | press name extra hold =>
    rw [promise, promise_unknown_iff .stroke (fun _ => rfl) fun _ => rfl]
    exact Plan.press_eq_error_iff timing name _ _ error
  | combo tokens =>
    rw [promise, promise_unknown_iff .chord (fun _ => rfl) fun _ => rfl]
    exact Plan.combo_eq_error_iff timing tokens error
  | execute command =>
    rw [promise, promise_unknown_iff .status (fun _ => rfl) fun _ => rfl]
    exact command.plan_eq_error_iff timing error
  | _ => simp [promise, Reply.failure, Misses]

/-- Nothing is done for names that are all unknown. -/
theorem Operation.Misses.actions_eq {operation : Operation} {error : UnknownKey}
    (misses : operation.Misses error) (timing : Timing) (delay : Nat) :
    operation.actions timing delay = [] := by
  cases operation with
  | tap name =>
    exact congrArg Plan.actionsOf
      ((Plan.press_eq_error_iff timing name .none timing.keyPress error).mpr misses)
  | press name extra hold =>
    exact congrArg Plan.actionsOf
      ((Plan.press_eq_error_iff timing name extra hold error).mpr misses)
  | combo tokens =>
    exact congrArg Plan.actionsOf ((Plan.combo_eq_error_iff timing tokens error).mpr misses)
  | execute command =>
    exact congrArg Plan.actionsOf ((command.plan_eq_error_iff timing error).mpr misses)
  | _ => cases misses

@[simp] theorem Run.after_after (first second : List Entry) (run : Run) :
    (run.after second).after first = run.after (first ++ second) := by
  simp [Run.after]

namespace World

/-- What a session meets in the world is never that a name is unknown. -/
theorem perform_ne_unknown (world : World) (actions : List Action) (past : List Happening)
    (error : UnknownKey) : (world.perform actions past).1 ≠ .error (.unknownKey error) := by
  intro failed
  obtain ⟨_, _, _, _, _, refusal, _⟩ :=
    perform_error world actions past _ (.unknownKey error) (Prod.ext failed rfl)
  cases refusal

/-- A reply tells of an unknown name if the operation misses, whatever the world is like. -/
theorem operate_unknown_iff (world : World) (timing : Timing) (delay : Nat) (operation : Operation)
    (past : List Happening) (error : UnknownKey) :
    (world.operate timing delay operation past).1.1.failure = some (.unknownKey error) ↔
      operation.Misses error := by
  rcases performed : world.perform (operation.actions timing delay) past with ⟨cause | _, after⟩
  · -- The device or the flag has failed, so there was something to do.
    obtain ⟨reply, delay', operated, failure⟩ :=
      operate_error world timing delay operation past after cause performed
    rw [operated, failure]
    constructor
    · intro unknown
      cases unknown
      exact absurd (congrArg Prod.fst performed) (perform_ne_unknown world _ past error)
    · intro misses
      rw [misses.actions_eq timing delay, perform_nil] at performed
      cases performed
  · rw [operate_ok world timing delay operation past after performed]
    exact operation.promise_failure_iff timing delay error

theorem operate_misses (world : World) (timing : Timing) (delay : Nat) (operation : Operation)
    (past : List Happening) (error : UnknownKey) (misses : operation.Misses error) :
    (world.operate timing delay operation past).2 = past := by
  rw [operate_history, misses.actions_eq timing delay, perform_nil]

/-! ### Lines that are stepped over -/

/-- Lines behind others, if nothing has stopped the others. -/
theorem runLines_behind (world : World) (timing : Timing) (delay : Nat) (done rest : List Line)
    (past : List Happening) (ended : (world.runLines timing delay done past).1.stop = none) :
    let before := world.runLines timing delay done past
    let later := world.runLines timing before.1.delay rest before.2
    world.runLines timing delay (done ++ rest) past =
      (later.1.after before.1.account.entries, later.2) := by
  have split := congrArg (StateT.run · past)
    (world.host.runLines_append timing delay done rest)
  rcases begun : world.runLines timing delay done past with ⟨⟨account, stop, after⟩, middle⟩
  rw [begun] at ended
  obtain rfl : stop = none := ended
  rw [StateT.run_bind, ← runLines, ← runLines, begun] at split
  exact split

/-- A line whose names are all unknown looks at the flag and waits. -/
theorem runLines_missed (world : World) (timing : Timing) (delay : Nat) (line : Line)
    (command : Command) (error : UnknownKey) (rest : List Line) (past : List Happening)
    (parsed : line.parsed = .ok command) (misses : command.Misses error)
    (up : world.going past = true) :
    let waited := past ++ [.look true] ++ (delayWaits delay).map .sleep
    let later := world.runLines timing delay rest waited
    world.runLines timing delay (line :: rest) past =
      (later.1.after [⟨line.number, line.source, .skipped error.message⟩], later.2) := by
  have unplanned := (command.plan_eq_error_iff timing error).mpr misses
  have plan : line.plan timing = ⟨[], .skipped error.message⟩ := by
    rw [Line.plan, parsed]
    dsimp only
    rw [unplanned]
  have noComment : line.isComment = false := by
    rw [Line.isComment, parsed]
    cases command <;> first | rfl | cases misses
  -- Only a command that sets the default delay changes it, and that one has no names.
  have kept : line.delayAfter delay = delay := by
    rw [Line.delayAfter, parsed]
    exact delayAfter_of_error timing delay command error unplanned
  have actions : line.actions timing delay = .check :: (delayWaits delay).map .sleep := by
    rw [Line.actions, noComment, plan, kept, if_neg Bool.false_ne_true, delayActions_eq]
    rfl
  have performed : world.perform (line.actions timing delay) past =
      (.ok (), past ++ [.look true] ++ (delayWaits delay).map .sleep) := by
    have waited := perform_waits world (delayWaits delay) [] (past ++ [.look true])
    rw [List.append_nil, perform_nil] at waited
    rw [actions, perform_look world _ past up, waited]
  rw [runLines_cons, performed, Line.entries, noComment, plan, kept]
  rfl

/-- A world that heeds the attempts to write only: neither looks nor waits make a difference to the
device and the flag. -/
structure Heedless (world : World) : Prop where
  answer : ∀ past other report, Happening.attempts past = Happening.attempts other →
    world.answer past report = world.answer other report
  going : ∀ past other, Happening.attempts past = Happening.attempts other →
    world.going past = world.going other

theorem limited_heedless (room : Nat) (error : DeviceError) :
    (limited room fun _ _ => error).Heedless where
  answer past other report same := by
    have taken : Happening.accepted past = Happening.accepted other :=
      congrArg Attempt.taken same
    simp only [limited, taken]
  going _ _ _ := rfl

variable {world : World}

/-- Behind histories with the same attempts the same happens. -/
theorem Heedless.perform (heedless : world.Heedless) (actions : List Action)
    (past other : List Happening) (same : Happening.attempts past = Happening.attempts other) :
    ∃ result added, world.perform actions past = (result, past ++ added) ∧
      world.perform actions other = (result, other ++ added) := by
  -- The answer to the first action is the same, so the histories stay alike for the others.
  induction actions generalizing past other with
  | nil => exact ⟨.ok (), [], by simp, by simp⟩
  | cons action rest ih =>
    have answered : world.respond past action = world.respond other action := by
      cases action with
      | check => simp only [respond, heedless.going past other same]
      | write report => simp only [respond, heedless.answer past other report same]
      | sleep ms => rfl
    rw [perform_cons, perform_cons, answered]
    cases (world.respond other action).failure with
    | some error => exact ⟨.error error, [world.respond other action], rfl, rfl⟩
    | none =>
      have next : Happening.attempts (past ++ [world.respond other action]) =
          Happening.attempts (other ++ [world.respond other action]) := by
        rw [Happening.attempts_append, Happening.attempts_append, same]
      obtain ⟨result, added, first, second⟩ := ih _ _ next
      exact ⟨result, world.respond other action :: added, by simpa using first,
        by simpa using second⟩

theorem Heedless.runLines (heedless : world.Heedless) (timing : Timing) (delay : Nat)
    (lines : List Line) (past other : List Happening)
    (same : Happening.attempts past = Happening.attempts other) :
    ∃ run added, world.runLines timing delay lines past = (run, past ++ added) ∧
      world.runLines timing delay lines other = (run, other ++ added) := by
  induction lines generalizing delay past other with
  | nil => exact ⟨⟨⟨[]⟩, none, delay⟩, [], by simp, by simp⟩
  | cons line rest ih =>
    obtain ⟨result, added, first, second⟩ :=
      heedless.perform (line.actions timing delay) past other same
    rw [runLines_cons, runLines_cons, first, second]
    cases result with
    | error cause => exact ⟨_, added, rfl, rfl⟩
    | ok _ =>
      have next : Happening.attempts (past ++ added) = Happening.attempts (other ++ added) := by
        rw [Happening.attempts_append, Happening.attempts_append, same]
      obtain ⟨run, more, first', second'⟩ := ih (line.delayAfter delay) _ _ next
      refine ⟨run.after (line.entries timing), added ++ more, ?_, ?_⟩
      · simp [first']
      · simp [second']

end World

/-- **Unknown names are harmless.** An operation is refused for its names if none of them is known,
and only then, whatever the device and the flag do; nothing at all happens then. A script never
stops for that. A line that is refused is accounted for as skipped and is followed by the default
delay, and the lines behind it are run with the default delay that they have without it: in a world
that does not heed looks and waits they do the same and end the same. -/
theorem unknown_names_are_harmless (world : World) (timing : Timing) (delay : Nat)
    (past : List Happening) :
    (∀ (operation : Operation) (error : UnknownKey),
      ((world.operate timing delay operation past).1.1.failure = some (.unknownKey error) ↔
        operation.Misses error) ∧
      (operation.Misses error → (world.operate timing delay operation past).2 = past)) ∧
    (∀ (lines : List Line) (error : UnknownKey),
      ∀ stop ∈ (world.runLines timing delay lines past).1.stop, stop.cause ≠ .unknownKey error) ∧
    ∀ (done rest : List Line) (line : Line) (command : Command) (error : UnknownKey),
      let before := world.runLines timing delay done past
      let started := before.2 ++ [.look true]
      let waited := started ++ (delayWaits before.1.delay).map .sleep
      let skipped : Entry := ⟨line.number, line.source, .skipped error.message⟩
      let others := before.1.account.entries
      let later := world.runLines timing before.1.delay rest waited
      before.1.stop = none → world.going before.2 = true → line.parsed = .ok command →
      (world.operate timing before.1.delay (.execute command) started).1.1.failure =
        some (.unknownKey error) →
      world.runLines timing delay (done ++ line :: rest) past =
        (later.1.after (others ++ [skipped]), later.2) ∧
      (world.Heedless → ∃ added, later.2 = waited ++ added ∧
        world.runLines timing delay (done ++ rest) past =
          (later.1.after others, before.2 ++ added)) := by
  refine ⟨fun operation error =>
    ⟨world.operate_unknown_iff timing delay operation past error,
      world.operate_misses timing delay operation past error⟩, ?_, ?_⟩
  · intro lines error stop stopped unknown
    have failure : (world.operate timing delay (.runLines lines) past).1.1.failure =
        some (.unknownKey error) := by
      have told : (world.operate timing delay (.runLines lines) past).1.1.failure =
          (world.runLines timing delay lines past).1.stop.map (·.cause) := rfl
      rw [told, Option.mem_def.mp stopped, Option.map_some, unknown]
    exact (world.operate_unknown_iff timing delay (.runLines lines) past error).mp failure
  · intro done rest line command error before started waited skipped others later ended up parsed
      refused
    have misses : command.Misses error :=
      (world.operate_unknown_iff timing before.1.delay (.execute command) started error).mp refused
    have skips : world.runLines timing delay (done ++ line :: rest) past =
        (later.1.after (others ++ [skipped]), later.2) := by
      rw [world.runLines_behind timing delay done (line :: rest) past ended,
        world.runLines_missed timing before.1.delay line command error rest before.2 parsed misses
          up]
      exact congrArg (·, later.2) (Run.after_after _ _ _)
    refine ⟨skips, fun heedless => ?_⟩
    -- Only a look and waits lie between the two histories behind which the rest is run.
    have same : Happening.attempts waited = Happening.attempts before.2 := by
      simp [waited, started]
    obtain ⟨run, added, first, second⟩ :=
      heedless.runLines timing before.1.delay rest waited before.2 same
    refine ⟨added, congrArg Prod.snd first, ?_⟩
    rw [world.runLines_behind timing delay done rest past ended, second]
    exact congrArg (fun run : Run => (run.after others, before.2 ++ added))
      (congrArg Prod.fst first).symm

/-- A name in the second line that nobody knows, and a device that fails in the third. With the flag
down the name is still what a request is refused for. -/
theorem unknown_names_are_harmless_xyzzy :
    let world := World.limited 3 fun _ _ => .writeFailed "unplugged"
    let down : World := { world with going := fun _ => false }
    let first : Line := ⟨1, "a", .ok (.pressKey "a" .none)⟩
    let missed : Line := ⟨2, "XYZZY", .ok (.pressKey "xyzzy" .none)⟩
    let last : Line := ⟨3, "b", .ok (.pressKey "b" .none)⟩
    let before := world.runLines .standard 5 [first] []
    let waited := before.2 ++ [.look true] ++ (delayWaits before.1.delay).map .sleep
    let later := world.runLines .standard before.1.delay [last] waited
    Operation.Misses (.tap "xyzzy") ⟨"xyzzy"⟩ ∧
    (down.operate .standard 5 (.tap "xyzzy") []).2 = [] ∧
    later.1.stop = some ⟨3, .device (.writeFailed "unplugged")⟩ ∧
    world.runLines .standard 5 [first, missed, last] [] =
      (later.1.after (before.1.account.entries ++
        [⟨2, "XYZZY", .skipped "unknown key: \"xyzzy\""⟩]), later.2) ∧
    ∃ added, later.2 = waited ++ added ∧
      world.runLines .standard 5 [first, last] [] =
        (later.1.after before.1.account.entries, before.2 ++ added) := by
  intro world down first missed last before waited later
  obtain ⟨refused, quiet⟩ :=
    (unknown_names_are_harmless down .standard 5 []).1 (.tap "xyzzy") ⟨"xyzzy"⟩
  have misses : Operation.Misses (.tap "xyzzy") ⟨"xyzzy"⟩ := refused.mp (by decide +kernel)
  obtain ⟨skips, absent⟩ :=
    (unknown_names_are_harmless world .standard 5 []).2.2 [first] [last] missed
      (.pressKey "xyzzy" .none) ⟨"xyzzy"⟩ (by decide +kernel) rfl rfl (by decide +kernel)
  exact ⟨misses, quiet misses, by decide +kernel, skips,
    absent (World.limited_heedless 3 (.writeFailed "unplugged"))⟩

end KeyGadget
