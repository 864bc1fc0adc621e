import KeyGadget.Session.Bench

/-!
# Worlds

A world is all that a session meets: the device, the clock and the flag. It answers every write and
every look at the flag, and an answer may depend on all that happened before, so every pattern of
accepted and failed writes and every moment at which the flag changes is the history of some world.

## Main results

`perform_ok` and `perform_error` say what becomes of a list of actions: either all of them are
granted, or a first part of them is granted, the next one fails, and nothing happens behind it.
-/
namespace KeyGadget

/-- An action that was carried out, with the answer to it. -/
inductive Happening
  | look (going : Bool)
  | write (report : Report) (answer : Except DeviceError Unit)
  | sleep (ms : Nat)

/-- A report that was written, and whether the device took it. -/
structure Attempt where
  report : Report
  answer : Except DeviceError Unit

/-- The reports that the device took in the course of attempts. -/
def Attempt.taken (attempts : List Attempt) : List Report :=
  attempts.filterMap fun attempt =>
    match attempt.answer with
    | .ok () => some attempt.report
    | .error _ => none

namespace Happening

/-- The error with which the session stops, if it stops there. -/
def failure : Happening → Option SendError
  | .look true => none
  | .look false => some .interrupted
  | .write _ (.ok ()) => none
  | .write _ (.error error) => some (.device error)
  | .sleep _ => none

/-- The attempt to write, if it is one. -/
def attempt? : Happening → Option Attempt
  | .write report answer => some ⟨report, answer⟩
  | _ => none

/-- What a recording device or clock keeps of it. A write that fails leaves no mark. -/
def event? : Happening → Option Bench.Event
  | .write report (.ok ()) => some (.report report)
  | .sleep ms => some (.sleep ms)
  | _ => none

/-- All attempts to write, in order. -/
def attempts (history : List Happening) : List Attempt :=
  history.filterMap attempt?

/-- All reports that reached the device, in order. -/
def accepted (history : List Happening) : List Report :=
  Attempt.taken (attempts history)

/-- All that a recording device and clock keep, in order. -/
def log (history : List Happening) : List Bench.Event :=
  history.filterMap event?

@[simp] theorem attempts_nil : attempts [] = [] := rfl

@[simp] theorem attempts_append (first second : List Happening) :
    attempts (first ++ second) = attempts first ++ attempts second :=
  List.filterMap_append

@[simp] theorem accepted_nil : accepted [] = [] := rfl

@[simp] theorem accepted_append (first second : List Happening) :
    accepted (first ++ second) = accepted first ++ accepted second := by
  simp [accepted, Attempt.taken]

@[simp] theorem log_nil : log [] = [] := rfl

@[simp] theorem log_append (first second : List Happening) :
    log (first ++ second) = log first ++ log second :=
  List.filterMap_append

section cons

variable (report : Report) (error : DeviceError) (going : Bool) (ms : Nat) (rest : List Happening)

@[simp] theorem attempts_look : attempts (.look going :: rest) = attempts rest := rfl

@[simp] theorem attempts_sleep : attempts (.sleep ms :: rest) = attempts rest := rfl

@[simp] theorem attempts_write (answer : Except DeviceError Unit) :
    attempts (.write report answer :: rest) = ⟨report, answer⟩ :: attempts rest := rfl

@[simp] theorem accepted_look : accepted (.look going :: rest) = accepted rest := rfl

@[simp] theorem accepted_sleep : accepted (.sleep ms :: rest) = accepted rest := rfl

@[simp] theorem accepted_write_ok :
    accepted (.write report (.ok ()) :: rest) = report :: accepted rest := rfl

@[simp] theorem accepted_write_error :
    accepted (.write report (.error error) :: rest) = accepted rest := rfl

end cons

@[simp] theorem attempts_waits (waits : List Nat) :
    attempts (waits.map .sleep) = [] := by
  simp [attempts, attempt?]

@[simp] theorem accepted_waits (waits : List Nat) :
    accepted (waits.map .sleep) = [] := by
  rw [accepted, attempts_waits]
  rfl

end Happening

/-- What happens if an action is granted: the flag is up, the device takes the report. -/
@[simp] def Action.granted : Action → Happening
  | .check => .look true
  | .write report => .write report (.ok ())
  | .sleep ms => .sleep ms

/-- What a session meets. An answer may depend on all that happened before. -/
@[ext] structure World where
  answer : List Happening → Report → Except DeviceError Unit
  going : List Happening → Bool

namespace World

/-- The world that grants every action. -/
def calm : World :=
  ⟨fun _ _ => .ok (), fun _ => true⟩

/-- The world whose device takes `room` reports and then fails, in whatever way. -/
def limited (room : Nat) (refusal : List Happening → Report → DeviceError) : World where
  answer past report :=
    if (Happening.accepted past).length < room then .ok () else .error (refusal past report)
  going _ := true

/-- The same world, but once the device has taken `count` reports the flag is down for good. -/
def endedAfter (world : World) (count : Nat) : World :=
  { world with going := fun past => world.going past && (Happening.accepted past).length < count }

/-- What comes of an action. -/
def respond (world : World) (past : List Happening) : Action → Happening
  | .check => .look (world.going past)
  | .write report => .write report (world.answer past report)
  | .sleep ms => .sleep ms

/-- A world as a host. Its state is the history. -/
def host (world : World) : Host (StateM (List Happening)) where
  write report := modifyGet fun past =>
    (world.answer past report, past ++ [world.respond past (.write report)])
  sleep ms := modify fun past => past ++ [world.respond past (.sleep ms)]
  running := modifyGet fun past => (world.going past, past ++ [world.respond past .check])

/-- Carries out actions behind a history. -/
def perform (world : World) (actions : List Action) (past : List Happening) :
    Except SendError Unit × List Happening :=
  (world.host.perform actions).run past

@[simp] theorem perform_nil (world : World) (past : List Happening) :
    world.perform [] past = (.ok (), past) := rfl

theorem perform_cons (world : World) (action : Action) (rest : List Action)
    (past : List Happening) :
    world.perform (action :: rest) past =
      match (world.respond past action).failure with
      | none => world.perform rest (past ++ [world.respond past action])
      | some error => (.error error, past ++ [world.respond past action]) := by
  -- Each equation holds by computation once the first action is known, but not before.
  cases action with
  | check =>
    have unfolded : world.perform (.check :: rest) past =
        (if world.going past then world.host.perform rest else pure (.error .interrupted)).run
          (past ++ [.look (world.going past)]) := rfl
    rw [unfolded]
    cases h : world.going past <;> simp only [respond, h, Happening.failure] <;> rfl
  | write report =>
    have unfolded : world.perform (.write report :: rest) past =
        (match world.answer past report with
          | .ok () => world.host.perform rest
          | .error error => pure (.error (.device error))).run
          (past ++ [world.respond past (.write report)]) := rfl
    rw [unfolded]
    cases h : world.answer past report <;> simp only [respond, h, Happening.failure] <;> rfl
  | sleep ms => rfl

theorem perform_look (world : World) (rest : List Action) (past : List Happening)
    (up : world.going past = true) :
    world.perform (.check :: rest) past = world.perform rest (past ++ [.look true]) := by
  rw [perform_cons]
  simp only [respond, up, Happening.failure]

theorem perform_down (world : World) (rest : List Action) (past : List Happening)
    (down : world.going past = false) :
    world.perform (.check :: rest) past = (.error .interrupted, past ++ [.look false]) := by
  rw [perform_cons]
  simp only [respond, down, Happening.failure]

@[simp] theorem perform_sleep (world : World) (ms : Nat) (rest : List Action)
    (past : List Happening) :
    world.perform (.sleep ms :: rest) past = world.perform rest (past ++ [.sleep ms]) := rfl

theorem perform_append (world : World) (first second : List Action) (past : List Happening) :
    world.perform (first ++ second) past =
      match world.perform first past with
      | (.ok (), past) => world.perform second past
      | (.error error, past) => (.error error, past) := by
  rw [perform, Host.perform_append, StateT.run_bind, ← perform]
  rcases world.perform first past with ⟨_ | _, after⟩ <;> rfl

theorem perform_waits (world : World) (waits : List Nat) (rest : List Action)
    (past : List Happening) :
    world.perform (waits.map .sleep ++ rest) past =
      world.perform rest (past ++ waits.map .sleep) := by
  induction waits generalizing past with
  | nil => simp
  | cons ms waits ih =>
    rw [List.map_cons, List.cons_append, perform_sleep, ih]
    simp

/-- What a session meets where it stops: the flag is down, or the device fails. -/
inductive Refusal : Action → Happening → SendError → Prop
  | interrupted : Refusal .check (.look false) .interrupted
  | device (report : Report) (error : DeviceError) :
    Refusal (.write report) (.write report (.error error)) (.device error)

/-- An action is granted, and the others are carried out behind it, or it is refused and the last
that happens. -/
theorem perform_cons_cases (world : World) (action : Action) (rest : List Action)
    (past : List Happening) :
    world.perform (action :: rest) past = world.perform rest (past ++ [action.granted]) ∨
      ∃ happening cause, Refusal action happening cause ∧
        world.perform (action :: rest) past = (.error cause, past ++ [happening]) := by
  rw [perform_cons]
  cases action with
  | check =>
    cases going : world.going past with
    | true => exact Or.inl (by simp only [respond, going]; rfl)
    | false => exact Or.inr ⟨_, _, .interrupted, by simp only [respond, going]; rfl⟩
  | write report =>
    cases answer : world.answer past report with
    | ok _ => exact Or.inl (by simp only [respond, answer]; rfl)
    | error error => exact Or.inr ⟨_, _, .device report error, by simp only [respond, answer]; rfl⟩
  | sleep ms => exact Or.inl rfl

/-- Actions that all succeed are all granted. -/
theorem perform_ok (world : World) (actions : List Action) (past after : List Happening)
    (performed : world.perform actions past = (.ok (), after)) :
    after = past ++ actions.map Action.granted := by
  induction actions generalizing past with
  | nil => simpa using (congrArg Prod.snd performed).symm
  | cons action rest ih =>
    rcases world.perform_cons_cases action rest past with granted | ⟨_, _, _, refused⟩
    · rw [granted] at performed
      simpa using ih _ performed
    · simp [refused] at performed

/-- Actions that do not all succeed are granted up to the one that is refused, which is the last
that happens. -/
theorem perform_error (world : World) (actions : List Action) (past after : List Happening)
    (cause : SendError) (performed : world.perform actions past = (.error cause, after)) :
    ∃ done action rest happening, actions = done ++ action :: rest ∧
      Refusal action happening cause ∧ after = past ++ done.map Action.granted ++ [happening] := by
  induction actions generalizing past with
  | nil => simp at performed
  | cons action rest ih =>
    rcases world.perform_cons_cases action rest past with
      granted | ⟨happening, stopped, refusal, refused⟩
    · rw [granted] at performed
      obtain ⟨done, last, later, happening, rfl, refusal, rfl⟩ := ih _ performed
      exact ⟨action :: done, last, later, happening, rfl, refusal, by simp⟩
    · rw [refused, Prod.mk.injEq, Except.error.injEq] at performed
      obtain ⟨rfl, rfl⟩ := performed
      exact ⟨[], action, rest, happening, rfl, refusal, by simp⟩

/-- Nothing is recorded but what the actions have in them, in their order. -/
theorem perform_log (world : World) (actions : List Action) (past : List Happening) :
    Happening.log (world.perform actions past).2 <+:
      Happening.log (past ++ actions.map Action.granted) := by
  rcases performed : world.perform actions past with ⟨cause | _, after⟩
  · obtain ⟨done, action, rest, happening, rfl, refusal, rfl⟩ :=
      perform_error world actions past after cause performed
    -- What is refused leaves nothing in the log.
    have unmarked : Happening.log [happening] = [] := by
      cases refusal <;> rfl
    simp [unmarked]
  · obtain rfl := perform_ok world actions past after performed
    exact List.prefix_refl _

theorem calm_perform (actions : List Action) (past : List Happening) :
    calm.perform actions past = (.ok (), past ++ actions.map Action.granted) := by
  induction actions generalizing past with
  | nil => simp
  | cons action rest ih =>
    have granted : calm.perform (action :: rest) past =
        calm.perform rest (past ++ [action.granted]) := by
      rw [perform_cons]
      cases action <;> rfl
    rw [granted, ih]
    simp

end World

/-- What a recording device and clock keep of an action that is granted. -/
def Action.event? : Action → Option Bench.Event
  | .check => none
  | .write report => some (.report report)
  | .sleep ms => some (.sleep ms)

theorem Happening.log_granted (actions : List Action) :
    log (actions.map Action.granted) = actions.filterMap Action.event? := by
  rw [log, List.filterMap_map]
  congr 1
  funext action
  cases action <;> rfl

theorem Happening.accepted_granted (actions : List Action) :
    accepted (actions.map Action.granted) =
      (attempts (actions.map Action.granted)).map Attempt.report := by
  induction actions with
  | nil => rfl
  | cons action rest ih =>
    cases action with
    | check | sleep ms => exact ih
    | write report => exact congrArg (report :: ·) ih

end KeyGadget
