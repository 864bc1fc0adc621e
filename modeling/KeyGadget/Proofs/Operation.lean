import KeyGadget.Proofs.World

/-!
# Operations in a world

Every operation is a list of actions that is settled beforehand. The world decides only how far it
is carried out: to its end, with the reply that was promised, or up to the action that fails. A run
of a script that fails stops in one line, with the entries of the lines before it.
-/
namespace KeyGadget

open Script

variable {α : Type}

/-- The actions of what was planned. Without a plan there are none. -/
def Plan.actionsOf : Except UnknownKey (Plan α) → List Action
  | .ok plan => plan.actions
  | .error _ => []

/-- The result of what was planned, if no action fails. -/
def Plan.promise : Except UnknownKey (Plan α) → Except SendError α
  | .ok plan => .ok plan.outcome
  | .error error => .error (.unknownKey error)

namespace Script

/-- All actions of lines that are run one after the other. -/
def actions (timing : Timing) : Nat → List Line → List Action
  | _, [] => []
  | delay, line :: rest => line.actions timing delay ++ actions timing (line.delayAfter delay) rest

/-- The default delay after lines. -/
def delayAfter (delay : Nat) (lines : List Line) : Nat :=
  lines.foldl (fun delay line => line.delayAfter delay) delay

/-- The entries of lines. -/
def entries (timing : Timing) (lines : List Line) : List Entry :=
  lines.flatMap fun line => line.entries timing

theorem actions_append (timing : Timing) (delay : Nat) (first second : List Line) :
    actions timing delay (first ++ second) =
      actions timing delay first ++ actions timing (delayAfter delay first) second := by
  induction first generalizing delay with
  | nil => rfl
  | cons line rest ih => simp [actions, ih, delayAfter]

end Script

namespace World

/-- Runs lines behind a history. -/
def runLines (world : World) (timing : Timing) (delay : Nat) (lines : List Line)
    (past : List Happening) : Run × List Happening :=
  (world.host.runLines timing delay lines).run past

/-- Runs the text of a script from the start of the world. -/
def run (world : World) (timing : Timing) (delay : Nat) (text : String) : Run × List Happening :=
  (world.host.run timing delay text).run []

/-- Carries out an operation behind a history. -/
def operate (world : World) (timing : Timing) (delay : Nat) (operation : Operation)
    (past : List Happening) : (Reply × Nat) × List Happening :=
  (world.host.operate timing delay operation).run past

theorem delayAfter_of_error (timing : Timing) (delay : Nat) (command : Command)
    (error : UnknownKey) (unknown : command.plan timing = .error error) :
    command.delayAfter delay = delay := by
  cases command with
  | defaultDelay ms => cases unknown
  | _ => rfl

theorem carryOut_eq (world : World) (plan : Plan α) (past : List Happening) :
    (world.host.carryOut plan).run past =
      match world.perform plan.actions past with
      | (.ok (), after) => (.ok plan.outcome, after)
      | (.error cause, after) => (.error cause, after) := by
  rw [Host.carryOut, StateT.run_bind, ← perform]
  rcases world.perform plan.actions past with ⟨_ | _, after⟩ <;> rfl

theorem attempt_eq (world : World) (planned : Except UnknownKey (Plan α)) (past : List Happening) :
    (world.host.attempt planned).run past =
      match world.perform (Plan.actionsOf planned) past with
      | (.ok (), after) => (Plan.promise planned, after)
      | (.error cause, after) => (.error cause, after) := by
  cases planned with
  | ok plan => exact carryOut_eq world plan past
  | error error => rfl

theorem execute_eq (world : World) (timing : Timing) (delay : Nat) (command : Command)
    (past : List Happening) :
    (world.host.execute timing delay command).run past =
      match world.perform (Plan.actionsOf (command.plan timing)) past with
      | (.ok (), after) =>
        ((Plan.promise (command.plan timing), command.delayAfter delay), after)
      | (.error cause, after) => ((.error cause, delay), after) := by
  rw [Host.execute, StateT.run_bind, attempt_eq]
  rcases world.perform (Plan.actionsOf (command.plan timing)) past with ⟨_ | _, after⟩
  · rfl
  · cases planned : command.plan timing with
    | ok plan => rfl
    | error error =>
      -- A command whose name is unknown keeps the delay in `execute`; here it is the same delay.
      rw [delayAfter_of_error timing delay command error planned]
      rfl

theorem runLines_cons (world : World) (timing : Timing) (delay : Nat) (line : Line)
    (rest : List Line) (past : List Happening) :
    world.runLines timing delay (line :: rest) past =
      match world.perform (line.actions timing delay) past with
      | (.ok (), after) =>
        let (run, after) := world.runLines timing (line.delayAfter delay) rest after
        (run.after (line.entries timing), after)
      | (.error cause, after) => (⟨⟨[]⟩, some ⟨line.number, cause⟩, delay⟩, after) := by
  rw [runLines, Host.runLines, StateT.run_bind, ← perform]
  rcases world.perform (line.actions timing delay) past with ⟨_ | _, after⟩ <;> rfl

@[simp] theorem runLines_nil (world : World) (timing : Timing) (delay : Nat)
    (past : List Happening) :
    world.runLines timing delay [] past = (⟨⟨[]⟩, none, delay⟩, past) := rfl

/-- Lines that succeed stand before the rest of the run with their entries. -/
theorem runLines_append (world : World) (timing : Timing) (delay : Nat) (done rest : List Line)
    (past after : List Happening)
    (performed : world.perform (Script.actions timing delay done) past = (.ok (), after)) :
    world.runLines timing delay (done ++ rest) past =
      let (run, after) := world.runLines timing (Script.delayAfter delay done) rest after
      (run.after (Script.entries timing done), after) := by
  induction done generalizing delay past with
  | nil =>
    obtain rfl : past = after := congrArg Prod.snd performed
    rfl
  | cons line done ih =>
    rw [Script.actions, perform_append] at performed
    rw [List.cons_append, runLines_cons]
    rcases h : world.perform (line.actions timing delay) past with ⟨_ | _, middle⟩
    · simp [h] at performed
    · rw [h] at performed
      simp only [ih _ _ performed]
      simp [Run.after, Script.entries, Script.delayAfter]

theorem runLines_ok (world : World) (timing : Timing) (delay : Nat) (lines : List Line)
    (past after : List Happening)
    (performed : world.perform (Script.actions timing delay lines) past = (.ok (), after)) :
    world.runLines timing delay lines past =
      (⟨⟨Script.entries timing lines⟩, none, Script.delayAfter delay lines⟩, after) := by
  have run := runLines_append world timing delay lines [] past after performed
  simpa [Run.after] using run

/-- A run in which an action fails stops in the line of that action. -/
theorem runLines_error (world : World) (timing : Timing) (delay : Nat) (lines : List Line)
    (past after : List Happening) (cause : SendError)
    (performed : world.perform (Script.actions timing delay lines) past = (.error cause, after)) :
    ∃ done line rest middle, lines = done ++ line :: rest ∧
      world.perform (Script.actions timing delay done) past = (.ok (), middle) ∧
      world.perform (line.actions timing (Script.delayAfter delay done)) middle =
        (.error cause, after) ∧
      world.runLines timing delay lines past =
        (⟨⟨Script.entries timing done⟩, some ⟨line.number, cause⟩,
          Script.delayAfter delay done⟩, after) := by
  induction lines generalizing delay past with
  | nil => simp [Script.actions] at performed
  | cons line rest ih =>
    rw [Script.actions, perform_append] at performed
    rw [runLines_cons]
    rcases h : world.perform (line.actions timing delay) past with ⟨_ | _, middle⟩
    · rw [h] at performed
      obtain ⟨same, rfl⟩ := Prod.mk.inj performed
      cases same
      exact ⟨[], line, rest, past, rfl, rfl, h, rfl⟩
    · rw [h] at performed
      obtain ⟨done, stopped, later, reached, rfl, succeeded, failed, run⟩ := ih _ _ performed
      refine ⟨line :: done, stopped, later, reached, rfl, ?_, failed, ?_⟩
      · rw [Script.actions, perform_append, h]
        exact succeeded
      · simp [run, Run.after, Script.entries, Script.delayAfter]

end World

/-- The actions of an operation. -/
def Operation.actions (timing : Timing) (delay : Nat) : Operation → List Action
  | .tap name => Plan.actionsOf (Plan.tap timing name)
  | .press name extra hold => Plan.actionsOf (Plan.press timing name extra hold)
  | .combo tokens => Plan.actionsOf (Plan.combo timing tokens)
  | .type text => (Plan.type timing text).actions
  | .typeWithHold text hold => (Plan.typeWithHold timing hold text).actions
  | .release => Plan.release.actions
  | .send report => (Plan.send report).actions
  | .pause ms => (Plan.pause ms).actions
  | .check => Plan.checkRunning.actions
  | .execute command => Plan.actionsOf (command.plan timing)
  | .run text => Script.actions timing delay (Script.parse text)
  | .runLines lines => Script.actions timing delay lines

/-- The reply to an operation if no action fails, and the default delay after it. -/
def Operation.promise (timing : Timing) (delay : Nat) : Operation → Reply × Nat
  | .tap name => (.stroke (Plan.promise (Plan.tap timing name)), delay)
  | .press name extra hold => (.stroke (Plan.promise (Plan.press timing name extra hold)), delay)
  | .combo tokens => (.chord (Plan.promise (Plan.combo timing tokens)), delay)
  | .type text => (.typed (.ok (Plan.type timing text).outcome), delay)
  | .typeWithHold text hold => (.typed (.ok (Plan.typeWithHold timing hold text).outcome), delay)
  | .release | .send _ | .pause _ | .check => (.done (.ok ()), delay)
  | .execute command =>
    (.status (Plan.promise (command.plan timing)), command.delayAfter delay)
  | .run text =>
    let lines := Script.parse text
    (.run ⟨⟨Script.entries timing lines⟩, none, Script.delayAfter delay lines⟩,
      Script.delayAfter delay lines)
  | .runLines lines =>
    (.run ⟨⟨Script.entries timing lines⟩, none, Script.delayAfter delay lines⟩,
      Script.delayAfter delay lines)

/-- The error that a reply tells of, if it does. -/
def Reply.failure : Reply → Option SendError
  | .stroke (.error error) => some error
  | .chord (.error error) => some error
  | .typed (.error error) => some error
  | .done (.error error) => some error
  | .status (.error error) => some error
  | .run whole => whole.stop.map (·.cause)
  | _ => none

namespace World

private theorem reply_eq {β : Type} (action : StateM (List Happening) α) (reply : α → β)
    (past : List Happening) :
    (do return reply (← action) : StateM (List Happening) β).run past =
      (reply (action.run past).1, (action.run past).2) := rfl

/-- An operation whose actions all succeed gets the reply that was promised. -/
theorem operate_ok (world : World) (timing : Timing) (delay : Nat) (operation : Operation)
    (past after : List Happening)
    (performed : world.perform (operation.actions timing delay) past = (.ok (), after)) :
    world.operate timing delay operation past = (operation.promise timing delay, after) := by
  -- An operation is a plan that may be refused, a plan, a command or a script.
  cases operation with
  | tap name | press name extra hold | combo tokens =>
    simp only [operate, Host.operate, reply_eq, attempt_eq]
    rw [Operation.actions] at performed
    rw [performed]
    rfl
  | type text | typeWithHold text hold | release | send report | pause ms | check =>
    simp only [operate, Host.operate, reply_eq, carryOut_eq]
    rw [Operation.actions] at performed
    rw [performed]
    rfl
  | execute command =>
    rw [Operation.actions] at performed
    simp only [operate, Host.operate, StateT.run_bind, execute_eq, performed]
    rfl
  | run text | runLines lines =>
    rw [Operation.actions] at performed
    have run := runLines_ok world timing delay _ past after performed
    simp only [operate, Host.operate, Host.run, StateT.run_bind]
    rw [runLines] at run
    rw [run]
    rfl

/-- An operation in which an action fails replies with the failure. -/
theorem operate_error (world : World) (timing : Timing) (delay : Nat) (operation : Operation)
    (past after : List Happening) (cause : SendError)
    (performed : world.perform (operation.actions timing delay) past = (.error cause, after)) :
    ∃ reply delay', world.operate timing delay operation past = ((reply, delay'), after) ∧
      reply.failure = some cause := by
  cases operation with
  | tap name | press name extra hold | combo tokens =>
    simp only [operate, Host.operate, reply_eq, attempt_eq]
    rw [Operation.actions] at performed
    rw [performed]
    exact ⟨_, _, rfl, rfl⟩
  | type text | typeWithHold text hold | release | send report | pause ms | check =>
    simp only [operate, Host.operate, reply_eq, carryOut_eq]
    rw [Operation.actions] at performed
    rw [performed]
    exact ⟨_, _, rfl, rfl⟩
  | execute command =>
    rw [Operation.actions] at performed
    simp only [operate, Host.operate, StateT.run_bind, execute_eq, performed]
    exact ⟨_, _, rfl, rfl⟩
  | run text | runLines lines =>
    rw [Operation.actions] at performed
    obtain ⟨_, _, _, _, _, _, _, run⟩ :=
      runLines_error world timing delay _ past after cause performed
    simp only [operate, Host.operate, Host.run, StateT.run_bind]
    rw [runLines] at run
    rw [run]
    exact ⟨_, _, rfl, rfl⟩

theorem operate_history (world : World) (timing : Timing) (delay : Nat) (operation : Operation)
    (past : List Happening) :
    (world.operate timing delay operation past).2 =
      (world.perform (operation.actions timing delay) past).2 := by
  rcases performed : world.perform (operation.actions timing delay) past with ⟨cause | _, after⟩
  · obtain ⟨_, _, operated, _⟩ :=
      operate_error world timing delay operation past after cause performed
    rw [operated]
  · rw [operate_ok world timing delay operation past after performed]

theorem calm_operate (timing : Timing) (delay : Nat) (operation : Operation)
    (past : List Happening) :
    calm.operate timing delay operation past =
      (operation.promise timing delay,
        past ++ (operation.actions timing delay).map Action.granted) :=
  operate_ok calm timing delay operation past _ (calm_perform _ past)

theorem calm_run (timing : Timing) (delay : Nat) (text : String) :
    calm.run timing delay text =
      (⟨⟨Script.entries timing (Script.parse text)⟩, none,
        Script.delayAfter delay (Script.parse text)⟩,
        (Script.actions timing delay (Script.parse text)).map Action.granted) :=
  runLines_ok calm timing delay (Script.parse text) [] _ (calm_perform _ [])

theorem operate_run (world : World) (timing : Timing) (delay : Nat) (text : String)
    (past : List Happening) :
    world.operate timing delay (.run text) past =
      let (run, after) := world.runLines timing delay (Script.parse text) past
      ((.run run, run.delay), after) := rfl

end World
end KeyGadget
