import KeyGadget.Proofs.Operation

/-!
# The keystrokes of commands and lines

A line that is not a comment is a look at the flag, some keystrokes with one hold and one gap, and
some waits; a comment is only the look at the flag. Every keystroke that a name, a chord or a
character comes to holds a key or a modifier key, so its report is never the report that releases.

## Main results

`Line.actions_eq` is the shape of a line, `press_isPress` the shape of a press report, and
`Command.holds_of_mem_strokes` says that no name leads to an empty press.
-/
namespace KeyGadget

open Script

/-- The actions of keystrokes that follow each other. -/
def Plan.strokesActions (hold gap : Nat) (strokes : List Keystroke) : List Action :=
  strokes.flatMap fun stroke => strokeActions stroke hold gap

private theorem characters_actions (hold gap : Nat) (characters : List Char) :
    characters.flatMap (Plan.characterActions hold gap) =
      Plan.strokesActions hold gap (characters.filterMap Layout.strokeFor) := by
  induction characters with
  | nil => rfl
  | cons c rest ih =>
    rw [List.flatMap_cons, ih, List.filterMap_cons, Plan.characterActions]
    cases Layout.strokeFor c <;> rfl

theorem Plan.typeWithHold_actions (timing : Timing) (hold : Nat) (text : String) :
    (typeWithHold timing hold text).actions =
      strokesActions hold timing.keyGap ((typedCharacters text).filterMap Layout.strokeFor) :=
  characters_actions hold timing.keyGap (typedCharacters text)

namespace Script

/-- The keystrokes that a command sends. -/
def Command.strokes : Command → List Keystroke
  | .typeText text => (Plan.typedCharacters text).filterMap Layout.strokeFor
  | .pressKey name extra =>
    match Names.resolve name with
    | .ok named => [⟨named.modifiers ||| extra, named.key⟩]
    | .error _ => []
  | .combo names =>
    match Names.chord names with
    | .ok chord => [chord.stroke]
    | .error _ => []
  | _ => []

/-- How long the keystrokes of a command are held. -/
def Command.hold (timing : Timing) : Command → Nat
  | .typeText _ => timing.charDelay
  | .combo _ => timing.comboHold
  | _ => timing.keyPress

/-- The pause after a keystroke of a command. -/
def Command.gap (timing : Timing) : Command → Nat
  | .combo _ => 0
  | _ => timing.keyGap

/-- How long a command waits by itself. -/
def Command.waits : Command → List Nat
  | .delay ms => [ms]
  | _ => []

/-- The keystrokes that a line sends. -/
def Line.strokes (line : Line) : List Keystroke :=
  match line.parsed with
  | .ok command => command.strokes
  | .error _ => []

/-- How long the keystrokes of a line are held. -/
def Line.hold (timing : Timing) (line : Line) : Nat :=
  match line.parsed with
  | .ok command => command.hold timing
  | .error _ => 0

/-- The pause after a keystroke of a line. -/
def Line.gap (timing : Timing) (line : Line) : Nat :=
  match line.parsed with
  | .ok command => command.gap timing
  | .error _ => 0

/-- The wait for a default delay. -/
def delayWaits (delay : Nat) : List Nat :=
  if delay = 0 then [] else [delay]

/-- How long a line waits behind its keystrokes, the default delay last. A comment does not wait. -/
def Line.waits (delay : Nat) (line : Line) : List Nat :=
  match line.parsed with
  | .error _ => delayWaits delay
  | .ok .comment => []
  | .ok command => command.waits ++ delayWaits (command.delayAfter delay)

end Script

theorem Plan.press_actions (timing : Timing) (name : String) (extra : Modifiers) (hold : Nat) :
    actionsOf (press timing name extra hold) =
      strokesActions hold timing.keyGap (Command.strokes (.pressKey name extra)) := by
  simp only [press, Command.strokes]
  cases Names.resolve name <;> simp [actionsOf, Except.map, strokesActions]

theorem Plan.combo_actions (timing : Timing) (names : List String) :
    actionsOf (combo timing names) =
      strokesActions timing.comboHold 0 (Command.strokes (.combo names)) := by
  simp only [combo, Command.strokes]
  cases Names.chord names <;> simp [actionsOf, Except.map, strokesActions]

private theorem actionsOf_map {α β : Type} (f : α → β) (planned : Except UnknownKey (Plan α)) :
    Plan.actionsOf (planned.map fun plan => plan.map f) = Plan.actionsOf planned := by
  cases planned <;> rfl

namespace Script

theorem Command.actions_eq (timing : Timing) (command : Command) :
    Plan.actionsOf (command.plan timing) =
      Plan.strokesActions (command.hold timing) (command.gap timing) command.strokes ++
        command.waits.map .sleep := by
  cases command with
  | typeText text =>
    simpa [Command.plan, Plan.type, Plan.map, Plan.actionsOf, Command.strokes, Command.hold,
      Command.gap, Command.waits] using Plan.typeWithHold_actions timing timing.charDelay text
  | pressKey name extra =>
    rw [Command.plan, actionsOf_map, Plan.press_actions]
    exact (List.append_nil _).symm
  | combo names =>
    rw [Command.plan, actionsOf_map, Plan.combo_actions]
    exact (List.append_nil _).symm
  | delay ms | defaultDelay ms | comment | unsupported keyword argument => rfl

theorem delayActions_eq (delay : Nat) :
    delayActions delay = (delayWaits delay).map .sleep := by
  rw [delayActions, delayWaits]
  split <;> rfl

/-- A line looks at the flag, sends its keystrokes and waits. -/
theorem Line.actions_eq (timing : Timing) (delay : Nat) (line : Line) :
    line.actions timing delay =
      .check :: (Plan.strokesActions (line.hold timing) (line.gap timing) line.strokes ++
        (line.waits delay).map .sleep) := by
  rcases line with ⟨number, source, error | command⟩
  · rw [Line.actions, delayActions_eq]
    rfl
  · have planned : (Line.plan timing ⟨number, source, .ok command⟩).actions =
        Plan.actionsOf (command.plan timing) := by
      simp only [Line.plan]
      cases command.plan timing <;> rfl
    rw [Line.actions, planned, Command.actions_eq, delayActions_eq]
    cases command with
    | comment => rfl
    | _ =>
      simp [Line.isComment, Line.strokes, Line.hold, Line.gap, Line.waits, Line.delayAfter]

end Script

theorem Plan.strokesActions_cons (hold gap : Nat) (stroke : Keystroke) (later : List Keystroke) :
    strokesActions hold gap (stroke :: later) =
      .check :: .write (.press stroke) :: .sleep hold :: .write .release ::
        ((delayWaits gap).map .sleep ++ strokesActions hold gap later) := by
  simp only [strokesActions, List.flatMap_cons, strokeActions, delayWaits]
  split <;> rfl

/-- Presses with the release right behind each. -/
def Report.released (presses : List Report) : List Report :=
  presses.flatMap fun press => [press, .release]

theorem Report.length_released (presses : List Report) :
    (released presses).length = 2 * presses.length := by
  induction presses with
  | nil => rfl
  | cons press rest ih =>
    rw [released, List.flatMap_cons, List.length_append, ← released, ih, List.length_cons]
    exact Nat.add_comm 2 _

/-- The reports of keystrokes. -/
def Keystroke.reports (strokes : List Keystroke) : List Report :=
  Report.released (strokes.map Report.press)

theorem Plan.strokesActions_reports (hold gap : Nat) (strokes : List Keystroke) :
    Happening.accepted ((strokesActions hold gap strokes).map Action.granted) =
      Keystroke.reports strokes := by
  induction strokes with
  | nil => rfl
  | cons stroke later ih =>
    rw [strokesActions_cons]
    simp [Function.comp_def, ih, Keystroke.reports, Report.released]

theorem Plan.strokesActions_accepted (hold gap : Nat) (strokes : List Keystroke) :
    (Happening.accepted ((strokesActions hold gap strokes).map Action.granted)).length =
      2 * strokes.length := by
  rw [strokesActions_reports, Keystroke.reports, Report.length_released, List.length_map]

/-- The reports of a line are those of its keystrokes, whatever it waits. -/
theorem line_reports (timing : Timing) (delay : Nat) (line : Line) :
    Happening.accepted ((line.actions timing delay).map Action.granted) =
      Keystroke.reports line.strokes := by
  rw [Line.actions_eq]
  simp [Plan.strokesActions_reports, Function.comp_def]

theorem Script.Line.delayAfter_of_strokes (line : Line) (delay : Nat)
    (sends : line.strokes ≠ []) : line.delayAfter delay = delay := by
  rcases line with ⟨number, source, error | command⟩
  · rfl
  · cases command with
    | defaultDelay ms => exact absurd rfl sends
    | _ => rfl

/-- A keystroke that holds a modifier key or another key. -/
def Keystroke.Holds (stroke : Keystroke) : Prop :=
  stroke.modifiers.bits ≠ 0 ∨ stroke.key.isSome

/-- A report that holds something: modifier keys and at most one key that there is. -/
structure Report.IsPress (report : Report) : Prop where
  reserved : report.bytes[1] = 0
  unused : ∀ slot : Fin 8, 3 ≤ slot.val → report.bytes[slot] = 0
  usage : report.usage = 0 ∨ ∃ key : Key, report.usage = key.usage
  held : report.modifiers.bits ≠ 0 ∨ report.usage ≠ 0

theorem Key.usage_ne_zero (key : Key) : key.usage ≠ 0 := by
  cases key <;> decide

theorem Report.press_isPress (stroke : Keystroke) (holds : stroke.Holds) :
    (press stroke).IsPress := by
  obtain ⟨modifiers, key⟩ := stroke
  refine ⟨rfl, ?_, ?_, ?_⟩
  · intro slot behind
    -- The bytes behind the key are constants, so each slot is closed by computation.
    have free : ∀ slot : Fin 8, 3 ≤ slot.val → slot = 3 ∨ slot = 4 ∨ slot = 5 ∨ slot = 6 ∨
      slot = 7 := by decide
    rcases free slot behind with rfl | rfl | rfl | rfl | rfl <;> rfl
  · cases key with
    | none => exact Or.inl rfl
    | some key => exact Or.inr ⟨key, rfl⟩
  · rcases holds with modified | keyed
    · exact Or.inl modified
    · cases key with
      | none => cases keyed
      | some key => exact Or.inr key.usage_ne_zero

theorem Modifiers.ofName?_bits (name : String) (modifiers : Modifiers)
    (found : ofName? name = some modifiers) : modifiers.bits ≠ 0 := by
  obtain ⟨entry, listed, rfl⟩ := Option.map_eq_some_iff.mp found
  have all : ∀ entry ∈ named, entry.2.bits ≠ 0 := by decide
  exact all entry (List.mem_of_find?_eq_some listed)

theorem Layout.strokeFor_holds (c : Char) (stroke : Keystroke) (typed : strokeFor c = some stroke) :
    stroke.Holds := by
  obtain ⟨⟨key, modifiers⟩, _, rfl⟩ := Option.map_eq_some_iff.mp typed
  exact Or.inr rfl

theorem Names.resolve_holds (name : String) (stroke : Keystroke)
    (resolved : resolve name = .ok stroke) : stroke.Holds := by
  simp only [resolve] at resolved
  split at resolved
  · split at resolved
    next c _ typed =>
      cases resolved
      exact Layout.strokeFor_holds _ _ typed
    · cases resolved
  · split at resolved
    · cases resolved
      exact Or.inr rfl
    next modifiers _ found =>
      cases resolved
      exact Or.inl (Modifiers.ofName?_bits _ _ found)
    · cases resolved

private theorem add_holds (chord : Names.Chord) (lower : String)
    (holds : chord.stroke.Holds ∨ Names.isKnown lower = true) :
    (chord.add lower).stroke.Holds := by
  unfold Names.Chord.add
  split
  next modifiers found =>
    left
    have some := Modifiers.ofName?_bits _ _ found
    intro none
    exact some (UInt8.or_eq_zero_iff.mp none).2
  · exact Or.inr rfl
  next noModifiers noKey =>
    rcases holds with holds | known
    · exact holds
    · simp [Names.isKnown, noModifiers, noKey] at known

private theorem foldl_add_holds (names : List String) (chord : Names.Chord)
    (holds : chord.stroke.Holds ∨ names.any Names.isKnown = true) :
    (names.foldl Names.Chord.add chord).stroke.Holds := by
  -- A chord that holds something may be extended by names that are not known.
  induction names generalizing chord with
  | nil => simpa using holds
  | cons lower rest ih =>
    apply ih
    rw [List.any_cons, Bool.or_eq_true, ← or_assoc] at holds
    exact holds.imp_left (add_holds chord lower)

theorem Names.chord_holds (tokens : List String) (chord : Chord)
    (resolved : Names.chord tokens = .ok chord) : chord.stroke.Holds := by
  simp only [Names.chord] at resolved
  split at resolved
  next known =>
    cases resolved
    exact foldl_add_holds _ _ (Or.inr known)
  · cases resolved

theorem Keystroke.Holds.or (stroke : Keystroke) (extra : Modifiers) (holds : stroke.Holds) :
    Keystroke.Holds ⟨stroke.modifiers ||| extra, stroke.key⟩ := by
  rcases holds with modified | keyed
  · left
    intro none
    exact modified (UInt8.or_eq_zero_iff.mp none).1
  · exact Or.inr keyed

/-- No command sends an empty press. -/
theorem Script.Command.holds_of_mem_strokes (command : Command) (stroke : Keystroke)
    (member : stroke ∈ command.strokes) : stroke.Holds := by
  cases command with
  | typeText text =>
    obtain ⟨c, _, typed⟩ := List.mem_filterMap.mp member
    exact Layout.strokeFor_holds c stroke typed
  | pressKey name extra =>
    simp only [Command.strokes] at member
    cases resolved : Names.resolve name with
    | error error => simp [resolved] at member
    | ok named =>
      rw [resolved, List.mem_singleton] at member
      rw [member]
      exact (Names.resolve_holds name named resolved).or named extra
  | combo names =>
    simp only [Command.strokes] at member
    cases resolved : Names.chord names with
    | error error => simp [resolved] at member
    | ok chord =>
      rw [resolved, List.mem_singleton] at member
      rw [member]
      exact Names.chord_holds names chord resolved
  | delay | defaultDelay | comment | unsupported => cases member

theorem Script.Line.holds_of_mem_strokes (line : Line) (stroke : Keystroke)
    (member : stroke ∈ line.strokes) : stroke.Holds := by
  rcases line with ⟨number, source, error | command⟩
  · cases member
  · exact command.holds_of_mem_strokes stroke member

end KeyGadget
