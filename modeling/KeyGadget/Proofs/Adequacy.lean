import KeyGadget.Proofs.Operation

/-!
# Hosts and worlds

A host may have a state of any kind. Whatever it does in a session is what some world does: the
history says what was asked of the host, so its state can be replayed from the history, and the
world answers as the host does in that state. What is shown of every world is shown of every host.

## Main results

`operate_eq_world`: an operation on a host is the same operation in its world.
`Matches.operate`: hosts that answer alike are one world, so an operation gets the same reply.
`Bench.events_operate`: a bench with a recording device keeps the log of the history, and
`Bench.world_eq_calm`: without faults its world is the calm one.
-/
namespace KeyGadget

variable {σ α β : Type}

namespace Host

/-- What a host is asked to do in the course of a happening. -/
def step (host : Host (StateM σ)) (state : σ) : Happening → σ
  | .look _ => (host.running.run state).2
  | .write report _ => ((host.write report).run state).2
  | .sleep ms => ((host.sleep ms).run state).2

/-- The state of a host after a history. -/
def replay (host : Host (StateM σ)) (start : σ) (history : List Happening) : σ :=
  history.foldl host.step start

/-- The world that answers as a host does that begins in a state. -/
def world (host : Host (StateM σ)) (start : σ) : World where
  answer past report := ((host.write report).run (host.replay start past)).1
  going past := (host.running.run (host.replay start past)).1

variable (host : Host (StateM σ)) (start : σ)

theorem replay_append (past : List Happening) (happening : Happening) :
    host.replay start (past ++ [happening]) = host.step (host.replay start past) happening := by
  simp [replay]

/-- A computation on the state of a host and one on the history that belong together. -/
def Mirrors (action : StateM σ α) (mirror : StateM (List Happening) α) : Prop :=
  ∀ past, action.run (host.replay start past) =
    ((mirror.run past).1, host.replay start (mirror.run past).2)

private theorem mirrors_pure (value : α) : host.Mirrors start (pure value) (pure value) :=
  fun _ => rfl

private theorem mirrors_bind {action : StateM σ α} {mirror : StateM (List Happening) α}
    {next : α → StateM σ β} {reflected : α → StateM (List Happening) β}
    (first : host.Mirrors start action mirror)
    (second : ∀ value, host.Mirrors start (next value) (reflected value)) :
    host.Mirrors start (action >>= next) (mirror >>= reflected) := by
  intro past
  have composed : (action >>= next).run (host.replay start past) =
      (next (action.run (host.replay start past)).1).run
        (action.run (host.replay start past)).2 := rfl
  rw [composed, first past]
  exact second _ _

private theorem mirrors_write (report : Report) :
    host.Mirrors start (host.write report) ((host.world start).host.write report) := by
  intro past
  have written : ((host.world start).host.write report).run past =
      ((host.world start).answer past report,
        past ++ [(host.world start).respond past (.write report)]) := rfl
  rw [written, replay_append]
  rfl

private theorem mirrors_sleep (ms : Nat) :
    host.Mirrors start (host.sleep ms) ((host.world start).host.sleep ms) := by
  intro past
  have slept : ((host.world start).host.sleep ms).run past =
      ((), past ++ [(host.world start).respond past (.sleep ms)]) := rfl
  rw [slept, replay_append]
  rfl

private theorem mirrors_running :
    host.Mirrors start host.running (host.world start).host.running := by
  intro past
  have looked : (host.world start).host.running.run past =
      ((host.world start).going past, past ++ [(host.world start).respond past .check]) := rfl
  rw [looked, replay_append]
  rfl

theorem mirrors_perform (actions : List Action) :
    host.Mirrors start (host.perform actions) ((host.world start).host.perform actions) := by
  -- Both sides go on, or stop, by the answer to the first action, and it is the same answer.
  induction actions with
  | nil => exact mirrors_pure host start _
  | cons action rest ih =>
    cases action with
    | check =>
      apply mirrors_bind host start (mirrors_running host start)
      intro going
      cases going with
      | true => exact ih
      | false => exact mirrors_pure host start _
    | write report =>
      apply mirrors_bind host start (mirrors_write host start report)
      intro answer
      cases answer with
      | ok => exact ih
      | error => exact mirrors_pure host start _
    | sleep ms =>
      exact mirrors_bind host start (mirrors_sleep host start ms) fun _ => ih

private theorem mirrors_carryOut (plan : Plan α) :
    host.Mirrors start (host.carryOut plan) ((host.world start).host.carryOut plan) := by
  apply mirrors_bind host start (mirrors_perform host start plan.actions)
  intro outcome
  cases outcome <;> exact mirrors_pure host start _

private theorem mirrors_attempt (planned : Except UnknownKey (Plan α)) :
    host.Mirrors start (host.attempt planned) ((host.world start).host.attempt planned) := by
  cases planned with
  | ok plan => exact mirrors_carryOut host start plan
  | error error => exact mirrors_pure host start _

private theorem mirrors_execute (timing : Timing) (delay : Nat) (command : Script.Command) :
    host.Mirrors start (host.execute timing delay command)
      ((host.world start).host.execute timing delay command) := by
  apply mirrors_bind host start (mirrors_attempt host start (command.plan timing))
  intro result
  cases result <;> exact mirrors_pure host start _

private theorem mirrors_runLines (timing : Timing) (delay : Nat) (lines : List Script.Line) :
    host.Mirrors start (host.runLines timing delay lines)
      ((host.world start).host.runLines timing delay lines) := by
  induction lines generalizing delay with
  | nil => exact mirrors_pure host start _
  | cons line rest ih =>
    apply mirrors_bind host start (mirrors_perform host start (line.actions timing delay))
    intro outcome
    cases outcome with
    | ok => exact mirrors_bind host start (ih _) fun _ => mirrors_pure host start _
    | error => exact mirrors_pure host start _

theorem mirrors_operate (timing : Timing) (delay : Nat) (operation : Operation) :
    host.Mirrors start (host.operate timing delay operation)
      ((host.world start).host.operate timing delay operation) := by
  cases operation with
  | tap | press | combo =>
    exact mirrors_bind host start (mirrors_attempt host start _) fun _ => mirrors_pure host start _
  | type | typeWithHold | release | send | pause | check =>
    exact mirrors_bind host start (mirrors_carryOut host start _) fun _ => mirrors_pure host start _
  | execute command =>
    exact mirrors_bind host start (mirrors_execute host start timing delay command) fun _ =>
      mirrors_pure host start _
  | run | runLines =>
    exact mirrors_bind host start (mirrors_runLines host start timing delay _) fun _ =>
      mirrors_pure host start _

/-- An operation on a host is the same operation in its world, and the history leads to the state in
which it leaves the host. -/
theorem operate_eq_world (timing : Timing) (delay : Nat) (operation : Operation) :
    (host.operate timing delay operation).run start =
      let (reply, history) := (host.world start).operate timing delay operation []
      (reply, host.replay start history) :=
  mirrors_operate host start timing delay operation []

/-- Two hosts answer alike in states that belong together, and go on to states that do. -/
structure Matches {τ : Type} (host : Host (StateM σ)) (other : Host (StateM τ))
    (related : σ → τ → Prop) : Prop where
  write : ∀ state state' report, related state state' →
    ((host.write report).run state).1 = ((other.write report).run state').1 ∧
      related ((host.write report).run state).2 ((other.write report).run state').2
  sleep : ∀ state state' ms, related state state' →
    related ((host.sleep ms).run state).2 ((other.sleep ms).run state').2
  running : ∀ state state', related state state' →
    (host.running.run state).1 = (other.running.run state').1 ∧
      related (host.running.run state).2 (other.running.run state').2

variable {host} {start} {τ : Type} {other : Host (StateM τ)} {start' : τ} {related : σ → τ → Prop}

theorem Matches.replay (alike : host.Matches other related) (belong : related start start')
    (history : List Happening) :
    related (host.replay start history) (other.replay start' history) := by
  induction history generalizing start start' with
  | nil => exact belong
  | cons happening rest ih =>
    cases happening with
    | look going => exact ih (alike.running start start' belong).2
    | write report answer => exact ih (alike.write start start' report belong).2
    | sleep ms => exact ih (alike.sleep start start' ms belong)

/-- Hosts that answer alike are one world to a session. -/
theorem Matches.world_eq (alike : host.Matches other related) (belong : related start start') :
    host.world start = other.world start' := by
  apply World.ext
  · funext past report
    exact (alike.write _ _ report (alike.replay belong past)).1
  · funext past
    exact (alike.running _ _ (alike.replay belong past)).1

/-- An operation gets the same reply from hosts that answer alike. -/
theorem Matches.operate (alike : host.Matches other related) (belong : related start start')
    (timing : Timing) (delay : Nat) (operation : Operation) :
    let done := (host.operate timing delay operation).run start
    let done' := (other.operate timing delay operation).run start'
    done.1 = done'.1 ∧ related done.2 done'.2 := by
  simp only [operate_eq_world, alike.world_eq belong, true_and]
  exact alike.replay belong _

end Host
namespace World

/-- What holds of a history and is kept by every answer holds after an operation. -/
theorem operate_preserves (world : World) (invariant : List Happening → Prop)
    (kept : ∀ past action, invariant past → invariant (past ++ [world.respond past action]))
    (timing : Timing) (delay : Nat) (operation : Operation) (past : List Happening)
    (holds : invariant past) : invariant (world.operate timing delay operation past).2 := by
  rw [operate_history]
  -- The history grows by one answer at a time, until an action fails or none is left.
  generalize operation.actions timing delay = actions
  induction actions generalizing past with
  | nil => exact holds
  | cons action rest ih =>
    have next := kept past action holds
    rw [perform_cons]
    cases (world.respond past action).failure with
    | none => exact ih _ next
    | some error => exact next

end World

namespace Bench

/-- A bench that records all that it is sent and all waits. -/
structure Records (bench : Bench) : Prop where
  sleeps : bench.recordsSleeps = true
  device : ∃ room, bench.device = .recorder room

private theorem deliver_records (report : Report) (bench : Bench) (records : bench.Records) :
    (∃ error, bench.deliver report = .error error) ∨
      ∃ delivered, bench.deliver report = .ok delivered ∧ delivered.Records ∧
        delivered.log = .report report :: bench.log := by
  obtain ⟨sleeps, room, device⟩ := records
  rw [deliver, device]
  rcases room with _ | _ | room
  · exact Or.inr ⟨_, rfl, ⟨sleeps, none, rfl⟩, rfl⟩
  · exact Or.inl ⟨_, rfl⟩
  · exact Or.inr ⟨_, rfl, ⟨sleeps, some room, rfl⟩, rfl⟩

/-- A recorder keeps a report that it takes, and nothing of one that it does not take. -/
private theorem write_records (report : Report) (bench : Bench) (records : bench.Records) :
    (bench.write report).2.Records ∧
      (bench.write report).2.events =
        bench.events ++ Happening.log [.write report (bench.write report).1] := by
  have counted : { bench with attempts := bench.attempts + 1 }.Records :=
    ⟨records.sleeps, records.device⟩
  rw [write]
  split
  · exact ⟨counted, (List.append_nil _).symm⟩
  · rcases deliver_records report _ counted with ⟨error, refused⟩ | ⟨delivered, taken, kept, log⟩
    · rw [refused]
      exact ⟨counted, (List.append_nil _).symm⟩
    · rw [taken]
      -- What is taken is in the log, also if the flag goes down with it.
      have recorded : delivered.events = bench.events ++ [.report report] := by
        simp [events, log]
      dsimp only
      split
      · exact ⟨⟨kept.sleeps, kept.device⟩, recorded⟩
      · exact ⟨kept, recorded⟩

private theorem step_records (start : Bench) (past : List Happening) (action : Action)
    (records : (host.replay start past).Records) :
    (host.replay start (past ++ [(host.world start).respond past action])).Records ∧
      (host.replay start (past ++ [(host.world start).respond past action])).events =
        (host.replay start past).events ++
          Happening.log [(host.world start).respond past action] := by
  rw [Host.replay_append]
  cases action with
  | check => exact ⟨records, (List.append_nil _).symm⟩
  | write report => exact write_records report _ records
  | sleep ms =>
    have slept : host.step (host.replay start past) (.sleep ms) =
        { host.replay start past with log := .sleep ms :: (host.replay start past).log } :=
      if_pos records.sleeps
    rw [World.respond, slept]
    exact ⟨⟨records.sleeps, records.device⟩, by simp [events, Happening.log, Happening.event?]⟩

/-- What a recording bench keeps of an operation is the log of what happens. -/
theorem events_operate (start : Bench) (records : start.Records) (timing : Timing) (delay : Nat)
    (operation : Operation) :
    ((host.operate timing delay operation).run start).2.events = start.events ++
      Happening.log ((host.world start).operate timing delay operation []).2 := by
  rw [Host.operate_eq_world]
  have kept := World.operate_preserves (host.world start)
    (fun past => (host.replay start past).Records ∧
      (host.replay start past).events = start.events ++ Happening.log past)
    (fun past action ⟨records, same⟩ => by
      obtain ⟨next, recorded⟩ := step_records start past action records
      exact ⟨next, by rw [recorded, same, Happening.log_append, List.append_assoc]⟩)
    timing delay operation [] ⟨records, (List.append_nil _).symm⟩
  exact kept.2

/-- A bench on which nothing is planned to go wrong. -/
structure Obliging (bench : Bench) : Prop where
  device : bench.device = .recorder none
  failing : bench.faults.failing = []
  endAfter : bench.faults.endAfter = none
  going : bench.running = true

private theorem write_obliging (report : Report) (bench : Bench) (obliging : bench.Obliging) :
    (bench.write report).1 = .ok () ∧ (bench.write report).2.Obliging := by
  obtain ⟨device, failing, endAfter, going⟩ := obliging
  have written : bench.write report =
      (.ok (),
        { bench with attempts := bench.attempts + 1, log := .report report :: bench.log }) := by
    simp [write, failing, deliver, device, endAfter]
  rw [written]
  exact ⟨rfl, device, failing, endAfter, going⟩

private theorem replay_obliging (start : Bench) (obliging : start.Obliging)
    (past : List Happening) : (host.replay start past).Obliging := by
  induction past generalizing start with
  | nil => exact obliging
  | cons happening rest ih =>
    apply ih
    cases happening with
    | look going => exact obliging
    | write report answer => exact (write_obliging report start obliging).2
    | sleep ms =>
      obtain ⟨device, failing, endAfter, going⟩ := obliging
      change (start.sleep ms).Obliging
      rw [Bench.sleep]
      split <;> exact ⟨device, failing, endAfter, going⟩

/-- A bench on which nothing is planned to go wrong is the calm world. -/
theorem world_eq_calm (start : Bench) (obliging : start.Obliging) :
    host.world start = World.calm := by
  have answers : (host.world start).answer = World.calm.answer := by
    funext past report
    exact (write_obliging report _ (replay_obliging start obliging past)).1
  have goes : (host.world start).going = World.calm.going := by
    funext past
    exact (replay_obliging start obliging past).going
  exact World.ext answers goes

end Bench
end KeyGadget
