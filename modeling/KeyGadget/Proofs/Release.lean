import KeyGadget.Proofs.Keystroke

/-!
# No key is left held

A session serves requests one after the other: operations, and calls for a new interpreter of
scripts, which starts without a default delay. What is kept of it is the list of exchanges, each an
operation with its reply and with all that happened in between.

## Main result

`no_key_left_held`: in every world, the attempts to write are presses that are taken with the
attempt to release right behind them, presses that are not taken, and releases that were asked for.
The host holds a key at the end only if the attempt to release it was made and failed, and the
operation that made it replied with that failure.
-/
namespace KeyGadget

/-- What a session can be asked for. -/
inductive Request
  | operation (operation : Operation)
  /-- Scripts are run by a new interpreter from here on. -/
  | renew

/-- An operation that was asked for, the reply, and what happened in between. -/
structure Exchange where
  operation : Operation
  reply : Reply
  happened : List Happening

namespace Exchange

/-- The attempts to write during an exchange. -/
def attempts (exchange : Exchange) : List Attempt :=
  Happening.attempts exchange.happened

/-- The reports that reached the device during an exchange. -/
def accepted (exchange : Exchange) : List Report :=
  Attempt.taken exchange.attempts

end Exchange

namespace World

/-- Serves requests behind a history, starting with a default delay. -/
def serve (world : World) (timing : Timing) : Nat → List Happening → List Request → List Exchange
  | _, _, [] => []
  | _, past, .renew :: rest => world.serve timing 0 past rest
  | delay, past, .operation operation :: rest =>
    let ((reply, delay), after) := world.operate timing delay operation past
    ⟨operation, reply, after.drop past.length⟩ :: world.serve timing delay after rest

/-- A property that every exchange has behind every history, all exchanges of a session have. -/
theorem serve_forall (world : World) (timing : Timing) (property : Exchange → Prop)
    (allowed : Operation → Prop)
    (each : ∀ delay past operation, allowed operation →
      property ⟨operation, (world.operate timing delay operation past).1.1,
        (world.operate timing delay operation past).2.drop past.length⟩)
    (delay : Nat) (past : List Happening) (requests : List Request)
    (all : ∀ operation, .operation operation ∈ requests → allowed operation) :
    ∀ exchange ∈ world.serve timing delay past requests, property exchange := by
  induction requests generalizing delay past with
  | nil => simp [serve]
  | cons request rest ih =>
    have later := fun operation member => all operation (List.mem_cons_of_mem _ member)
    cases request with
    | renew => exact ih 0 past later
    | operation operation =>
      intro exchange member
      rw [serve] at member
      rcases List.mem_cons.mp member with rfl | member
      · exact each delay past operation (all operation List.mem_cons_self)
      · exact ih _ _ later exchange member

end World

/-! ### Actions made of whole keystrokes -/

/-- Actions in which every press is followed by its hold and its release. -/
inductive Strokewise : List Action → Prop
  | done : Strokewise []
  | check {rest : List Action} : Strokewise rest → Strokewise (.check :: rest)
  | sleep {rest : List Action} (ms : Nat) : Strokewise rest → Strokewise (.sleep ms :: rest)
  | stroke {rest : List Action} {press : Report} (pressed : press.IsPress) (hold : Nat) :
    Strokewise rest →
      Strokewise (.write press :: .sleep hold :: .write .release :: rest)

namespace Strokewise

theorem append {first second : List Action} (before : Strokewise first)
    (behind : Strokewise second) : Strokewise (first ++ second) := by
  induction before with
  | done => exact behind
  | check _ ih => exact .check ih
  | sleep ms _ ih => exact .sleep ms ih
  | stroke pressed hold _ ih => exact .stroke pressed hold ih

theorem sleeps (waits : List Nat) : Strokewise (waits.map .sleep) := by
  induction waits with
  | nil => exact .done
  | cons ms rest ih => exact .sleep ms ih

theorem strokes (hold gap : Nat) (strokes : List Keystroke)
    (holds : ∀ stroke ∈ strokes, stroke.Holds) :
    Strokewise (Plan.strokesActions hold gap strokes) := by
  induction strokes with
  | nil => exact .done
  | cons stroke rest ih =>
    have pressed := Report.press_isPress stroke (holds stroke List.mem_cons_self)
    have later := ih fun stroke member => holds stroke (List.mem_cons_of_mem _ member)
    rw [Plan.strokesActions_cons]
    exact .check (.stroke pressed hold ((sleeps _).append later))

theorem line (timing : Timing) (delay : Nat) (line : Script.Line) :
    Strokewise (line.actions timing delay) := by
  rw [Script.Line.actions_eq]
  exact .check ((strokes _ _ _ line.holds_of_mem_strokes).append (sleeps _))

theorem script (timing : Timing) (delay : Nat) (lines : List Script.Line) :
    Strokewise (Script.actions timing delay lines) := by
  induction lines generalizing delay with
  | nil => exact .done
  | cons next rest ih => exact (line timing delay next).append (ih _)

end Strokewise

/-- The operations that press keys or wait: all but a release by itself and a raw report. -/
def Operation.isKeyed : Operation → Bool
  | .release | .send _ => false
  | _ => true

theorem Operation.strokewise (timing : Timing) (delay : Nat) (operation : Operation)
    (keyed : operation.isKeyed = true) : Strokewise (operation.actions timing delay) := by
  cases operation with
  | tap name =>
    rw [Operation.actions, Plan.tap, Plan.press_actions]
    exact .strokes _ _ _ (Script.Command.holds_of_mem_strokes _)
  | press name extra hold =>
    rw [Operation.actions, Plan.press_actions]
    exact .strokes _ _ _ (Script.Command.holds_of_mem_strokes _)
  | combo tokens =>
    rw [Operation.actions, Plan.combo_actions]
    exact .strokes _ _ _ (Script.Command.holds_of_mem_strokes _)
  | type text =>
    rw [Operation.actions, Plan.type, Plan.typeWithHold_actions]
    exact .strokes _ _ _ (Script.Command.holds_of_mem_strokes (.typeText text))
  | typeWithHold text hold =>
    rw [Operation.actions, Plan.typeWithHold_actions]
    exact .strokes _ _ _ (Script.Command.holds_of_mem_strokes (.typeText text))
  | release | send report => cases keyed
  | pause ms => exact .sleep ms .done
  | check => exact .check .done
  | execute command =>
    rw [Operation.actions, Script.Command.actions_eq]
    exact (Strokewise.strokes _ _ _ command.holds_of_mem_strokes).append (.sleeps _)
  | run text | runLines lines => exact .script timing delay _

/-! ### Attempts made of whole keystrokes -/

/-- The attempts to write that whole keystrokes come to, and how they end: complete keystrokes, and
behind them one at most that failed with its press or with its release. -/
inductive Stroked : List Attempt → Except SendError Unit → Prop
  | done (result : Except SendError Unit) : Stroked [] result
  | stroke {rest : List Attempt} {result : Except SendError Unit} {press : Report}
    (pressed : press.IsPress) :
    Stroked rest result → Stroked (⟨press, .ok ()⟩ :: ⟨.release, .ok ()⟩ :: rest) result
  | refused {press : Report} (pressed : press.IsPress) (error : DeviceError) :
    Stroked [⟨press, .error error⟩] (.error (.device error))
  | unreleased {press : Report} (pressed : press.IsPress) (error : DeviceError) :
    Stroked [⟨press, .ok ()⟩, ⟨.release, .error error⟩] (.error (.device error))

theorem World.perform_stroked (world : World) {actions : List Action}
    (strokewise : Strokewise actions) (past : List Happening) :
    ∃ new, (world.perform actions past).2 = past ++ new ∧
      Stroked (Happening.attempts new) (world.perform actions past).1 := by
  -- A keystroke may be refused at its press or at its release, and then nothing follows.
  induction strokewise generalizing past with
  | done => exact ⟨[], by simp, .done _⟩
  | @check rest _ ih =>
    rcases world.perform_cons_cases .check rest past with granted | ⟨_, _, refusal, refused⟩
    · obtain ⟨new, after, stroked⟩ := ih (past ++ [.look true])
      rw [granted, Action.granted]
      exact ⟨.look true :: new, by rw [after]; simp, stroked⟩
    · cases refusal
      exact ⟨[.look false], by rw [refused], .done _⟩
  | @sleep rest ms _ ih =>
    obtain ⟨new, after, stroked⟩ := ih (past ++ [.sleep ms])
    rw [perform_sleep]
    exact ⟨.sleep ms :: new, by rw [after]; simp, stroked⟩
  | @stroke rest press pressed hold _ ih =>
    rcases world.perform_cons_cases (.write press) _ past with granted | ⟨_, _, refusal, refused⟩
    · rw [granted, Action.granted, perform_sleep]
      rcases world.perform_cons_cases (.write .release) rest _ with
        released | ⟨_, _, refusal, refused⟩
      · rw [released, Action.granted]
        obtain ⟨new, after, stroked⟩ :=
          ih (past ++ [.write press (.ok ())] ++ [.sleep hold] ++ [.write .release (.ok ())])
        exact ⟨.write press (.ok ()) :: .sleep hold :: .write .release (.ok ()) :: new,
          by rw [after]; simp, .stroke pressed stroked⟩
      · cases refusal with
        | device _ error =>
          rw [refused]
          exact ⟨[.write press (.ok ()), .sleep hold, .write .release (.error error)],
            by simp, .unreleased pressed error⟩
    · cases refusal with
      | device _ error =>
        rw [refused]
        exact ⟨[.write press (.error error)], rfl, .refused pressed error⟩

/-- A group of attempts to write that an operation makes. -/
inductive Block : Operation → List Attempt → Prop
  /-- A press that is taken, and right behind it the attempt to release. -/
  | stroke {operation : Operation} {press : Report} (pressed : press.IsPress)
    (answer : Except DeviceError Unit) :
    Block operation [⟨press, .ok ()⟩, ⟨.release, answer⟩]
  /-- A press that is not taken. -/
  | refused {operation : Operation} {press : Report} (pressed : press.IsPress)
    (error : DeviceError) : Block operation [⟨press, .error error⟩]
  /-- A release that was asked for. -/
  | release (answer : Except DeviceError Unit) : Block .release [⟨.release, answer⟩]

theorem Stroked.blocks {attempts : List Attempt} {result : Except SendError Unit}
    (stroked : Stroked attempts result) (operation : Operation) :
    ∃ blocks : List (List Attempt), attempts = blocks.flatten ∧
      ∀ block ∈ blocks, Block operation block := by
  induction stroked with
  | done result => exact ⟨[], rfl, by simp⟩
  | stroke pressed _ ih =>
    obtain ⟨blocks, rfl, all⟩ := ih
    refine ⟨[⟨_, .ok ()⟩, ⟨.release, .ok ()⟩] :: blocks, rfl, ?_⟩
    exact List.forall_mem_cons.mpr ⟨.stroke pressed (.ok ()), all⟩
  | refused pressed error =>
    exact ⟨[_], rfl, List.forall_mem_singleton.mpr (.refused pressed error)⟩
  | unreleased pressed error =>
    exact ⟨[_], rfl, List.forall_mem_singleton.mpr (.stroke pressed (.error error))⟩

/-- Whole keystrokes leave a key held only where its release failed. -/
theorem Stroked.unreleased_of_last {attempts : List Attempt} {result : Except SendError Unit}
    (stroked : Stroked attempts result) (report : Report)
    (last : (Attempt.taken attempts).getLast? = some report) (held : report ≠ .release) :
    ∃ front error, attempts = front ++ [⟨report, .ok ()⟩, ⟨.release, .error error⟩] ∧
      report.IsPress ∧ result = .error (.device error) := by
  induction stroked with
  | done result => simp [Attempt.taken] at last
  | @stroke rest result press pressed _ ih =>
    have split : Attempt.taken (⟨press, .ok ()⟩ :: ⟨.release, .ok ()⟩ :: rest) =
        [press, .release] ++ Attempt.taken rest := rfl
    rw [split, List.getLast?_append] at last
    -- If nothing is taken behind this keystroke, the last report is its release.
    cases behind : (Attempt.taken rest).getLast? with
    | none =>
      rw [behind] at last
      exact absurd (Option.some.inj last).symm held
    | some reached =>
      rw [behind] at last
      obtain rfl := Option.some.inj last
      obtain ⟨front, error, rfl, isPress, failed⟩ := ih behind
      exact ⟨_ :: _ :: front, error, rfl, isPress, failed⟩
  | refused pressed error => simp [Attempt.taken] at last
  | @unreleased press pressed error =>
    obtain rfl : press = report := Option.some.inj last
    exact ⟨[], error, rfl, pressed, rfl⟩

/-! ### Sessions -/

/-- How an exchange leaves the keyboard: its attempts are blocks, and if the last report that was
taken holds a key, the release right behind it failed and the reply says so. -/
structure Exchange.Sound (exchange : Exchange) : Prop where
  blocks : ∃ blocks : List (List Attempt), exchange.attempts = blocks.flatten ∧
    ∀ block ∈ blocks, Block exchange.operation block
  unreleased : ∀ report, exchange.accepted.getLast? = some report → report ≠ .release →
    ∃ front error, exchange.attempts = front ++ [⟨report, .ok ()⟩, ⟨.release, .error error⟩] ∧
      report.IsPress ∧ exchange.reply.failure = some (.device error)

theorem World.perform_release (world : World) (past : List Happening) :
    ∃ answer, (world.perform [.write .release] past).2 = past ++ [.write .release answer] := by
  rcases world.perform_cons_cases (.write .release) [] past with granted | ⟨_, _, refusal, refused⟩
  · exact ⟨.ok (), by rw [granted]; rfl⟩
  · cases refusal with
    | device _ error => exact ⟨.error error, by rw [refused]⟩

theorem World.operate_sound (world : World) (timing : Timing) (delay : Nat)
    (past : List Happening) (operation : Operation)
    (cooked : ∀ report, operation ≠ .send report) :
    Exchange.Sound ⟨operation, (world.operate timing delay operation past).1.1,
      (world.operate timing delay operation past).2.drop past.length⟩ := by
  -- What is not made of keystrokes is a release, or a report as it is, which is not asked for.
  by_cases keyed : operation.isKeyed = true
  · obtain ⟨new, after, stroked⟩ :=
      world.perform_stroked (operation.strokewise timing delay keyed) past
    rw [operate_history, after, List.drop_left]
    refine ⟨stroked.blocks operation, fun report last held => ?_⟩
    -- The release that failed is the action that failed, so the reply has its error.
    obtain ⟨front, error, attempts, isPress, failed⟩ := stroked.unreleased_of_last report last held
    refine ⟨front, error, attempts, isPress, ?_⟩
    obtain ⟨reply, _, operated, failure⟩ := operate_error world timing delay operation past _ _
      (Prod.ext failed rfl)
    rw [operated]
    exact failure
  · cases operation with
    | release =>
      obtain ⟨answer, after⟩ := world.perform_release past
      rw [operate_history, Operation.actions, Plan.release, after, List.drop_left]
      refine ⟨⟨[_], rfl, List.forall_mem_singleton.mpr (.release answer)⟩, ?_⟩
      intro report last held
      cases answer with
      | ok _ => exact absurd (Option.some.inj last).symm held
      | error error => cases last
    | send report => exact absurd rfl (cooked report)
    | _ => exact absurd rfl keyed

/-- In a session whose last report holds a key, the release that failed is followed by nothing that
reached the device. -/
theorem unreleased_exchange (session : List Exchange) (sound : ∀ exchange ∈ session, exchange.Sound)
    (report : Report) (last : (session.flatMap Exchange.accepted).getLast? = some report)
    (held : report ≠ .release) :
    ∃ earlier exchange later front error, session = earlier ++ exchange :: later ∧
      exchange.attempts = front ++ [⟨report, .ok ()⟩, ⟨.release, .error error⟩] ∧
      report.IsPress ∧ exchange.reply.failure = some (.device error) ∧
      ∀ next ∈ later, next.accepted = [] := by
  induction session with
  | nil => cases last
  | cons exchange rest ih =>
    obtain ⟨first, others⟩ := List.forall_mem_cons.mp sound
    rw [List.flatMap_cons, List.getLast?_append] at last
    -- The last report of all is the last of the later exchanges, unless they are silent.
    cases behind : (rest.flatMap Exchange.accepted).getLast? with
    | some reached =>
      rw [behind] at last
      obtain rfl := Option.some.inj last
      obtain ⟨earlier, found, later, front, error, rfl, facts⟩ := ih others behind
      exact ⟨exchange :: earlier, found, later, front, error, rfl, facts⟩
    | none =>
      rw [behind] at last
      obtain ⟨front, error, attempts, isPress, failed⟩ := first.unreleased report last held
      have silent := List.flatMap_eq_nil_iff.mp (List.getLast?_eq_none_iff.mp behind)
      exact ⟨[], exchange, rest, front, error, rfl, attempts, isPress, failed, silent⟩

/-- The report that the host received last. Before the first one nothing is held. -/
def lastReport (session : List Exchange) : Report :=
  (session.flatMap Exchange.accepted).getLast?.getD .release

/-- No key is left held. Whatever the device and the flag do, the attempts to write are blocks: a
press that is taken with the attempt to release right behind it, a press that is not taken, or a
release that was asked for. If the host holds a key in the end, the last report that it received is
a press whose release failed right behind it, and the operation replied with that failure. -/
theorem no_key_left_held (world : World) (timing : Timing) (delay : Nat) (requests : List Request)
    (cooked : ∀ report, .operation (.send report) ∉ requests) :
    let session := world.serve timing delay [] requests
    (∀ exchange ∈ session, ∃ blocks : List (List Attempt),
      exchange.attempts = blocks.flatten ∧ ∀ block ∈ blocks, Block exchange.operation block) ∧
    (lastReport session ≠ .release →
      ∃ earlier exchange later front error, session = earlier ++ exchange :: later ∧
        exchange.attempts = front ++ [⟨lastReport session, .ok ()⟩, ⟨.release, .error error⟩] ∧
        (lastReport session).IsPress ∧ exchange.reply.failure = some (.device error) ∧
        ∀ next ∈ later, next.accepted = []) := by
  intro session
  have sound : ∀ exchange ∈ session, exchange.Sound := by
    apply world.serve_forall timing Exchange.Sound
      (fun operation => ∀ report, operation ≠ .send report)
    · intro delay past operation allowed
      exact world.operate_sound timing delay past operation allowed
    · rintro operation member report rfl
      exact cooked report member
  refine ⟨fun exchange member => (sound exchange member).blocks, fun held => ?_⟩
  cases last : (session.flatMap Exchange.accepted).getLast? with
  | none => simp [lastReport, last] at held
  | some report =>
    have same : lastReport session = report := by simp [lastReport, last]
    rw [same] at held ⊢
    exact unreleased_exchange session sound report last held

/-- A device that takes one report only keeps the key that was tapped, and the reply says so. -/
theorem no_key_left_held_one_report :
    let world : World := .limited 1 fun _ _ => .writeFailed "gone"
    let requests : List Request := [.operation (.tap "a"), .renew, .operation .release]
    let session := world.serve .standard 0 [] requests
    (∀ report, .operation (.send report) ∉ requests) ∧ lastReport session ≠ .release ∧
    (∀ exchange ∈ session, ∃ blocks : List (List Attempt),
      exchange.attempts = blocks.flatten ∧ ∀ block ∈ blocks, Block exchange.operation block) ∧
    (lastReport session ≠ .release →
      ∃ earlier exchange later front error, session = earlier ++ exchange :: later ∧
        exchange.attempts = front ++ [⟨lastReport session, .ok ()⟩, ⟨.release, .error error⟩] ∧
        (lastReport session).IsPress ∧ exchange.reply.failure = some (.device error) ∧
        ∀ next ∈ later, next.accepted = []) := by
  refine ⟨by simp, by decide +kernel, ?_⟩
  exact no_key_left_held (.limited 1 fun _ _ => .writeFailed "gone") .standard 0
    [.operation (.tap "a"), .renew, .operation .release] (by simp)

end KeyGadget
