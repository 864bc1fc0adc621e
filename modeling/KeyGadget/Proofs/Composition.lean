import KeyGadget.Proofs.Lines
import KeyGadget.Proofs.Operation

/-!
# Scripts one behind the other

Two texts with a line feed between them are one script. It is run as the first text is run, and then
the second one on the same interpreter, if there was nothing to stop the first. The lines of the
second text have moved on, and so have the numbers in what is told about them.

## Main result

`run_composes`: this holds on every host, so it holds for all that the host is asked for and for the
state that it is left in, whatever the device answers and whenever the flag changes.
-/
namespace KeyGadget

open Script

/-- The entry of a line under another number. -/
def Entry.renumbered (renumber : Nat → Nat) (entry : Entry) : Entry :=
  { entry with line := renumber entry.line }

/-- A stop in a line under another number. -/
def Stop.renumbered (renumber : Nat → Nat) (stop : Stop) : Stop :=
  { stop with line := renumber stop.line }

/-- A run of lines under other numbers. -/
def Run.renumbered (renumber : Nat → Nat) (run : Run) : Run where
  account := ⟨run.account.entries.map (Entry.renumbered renumber)⟩
  stop := run.stop.map (Stop.renumbered renumber)
  delay := run.delay

/-- The entry of a line with `count` more lines before it. -/
def Entry.raised (count : Nat) (entry : Entry) : Entry :=
  { entry with line := entry.line + count }

/-- A stop in a line with `count` more lines before it. -/
def Stop.raised (count : Nat) (stop : Stop) : Stop :=
  { stop with line := stop.line + count }

/-- A run of lines with `count` more lines before them. -/
def Run.raised (count : Nat) (run : Run) : Run where
  account := ⟨run.account.entries.map (Entry.raised count)⟩
  stop := run.stop.map (Stop.raised count)
  delay := run.delay

theorem Run.renumbered_after (renumber : Nat → Nat) (entries : List Entry) (run : Run) :
    (run.after entries).renumbered renumber =
      (run.renumbered renumber).after (entries.map (.renumbered renumber)) := by
  simp [Run.after, Run.renumbered]

@[simp] theorem Run.after_nil (run : Run) : run.after [] = run := rfl

namespace Script

/-- The number of a line has no part in what the line does. -/
theorem Line.actions_renumbered (renumber : Nat → Nat) (timing : Timing) (delay : Nat)
    (line : Line) :
    (line.renumbered renumber).actions timing delay = line.actions timing delay := rfl

theorem Line.entries_renumbered (renumber : Nat → Nat) (timing : Timing) (line : Line) :
    (line.renumbered renumber).entries timing =
      (line.entries timing).map (.renumbered renumber) := by
  have comment : (line.renumbered renumber).isComment = line.isComment := rfl
  rw [Line.entries, Line.entries, comment]
  split <;> rfl

end Script

namespace Host

variable {m : Type → Type} [Monad m] [LawfulMonad m]

/-- A run tells of lines by their numbers, and does nothing else with the numbers. -/
theorem runLines_renumbered (host : Host m) (timing : Timing) (renumber : Nat → Nat) (delay : Nat)
    (lines : List Line) :
    host.runLines timing delay (lines.map (Line.renumbered renumber)) =
      Run.renumbered renumber <$> host.runLines timing delay lines := by
  induction lines generalizing delay with
  | nil => simp [runLines, Run.renumbered]
  | cons line rest ih =>
    have settled : (line.renumbered renumber).delayAfter delay = line.delayAfter delay := rfl
    rw [List.map_cons, runLines, runLines, Line.actions_renumbered, settled,
      Line.entries_renumbered, map_bind]
    congr 1
    funext result
    cases result with
    | ok _ => simp [ih, Run.renumbered_after]
    | error cause => simp [Run.renumbered, Line.renumbered, Stop.renumbered]

theorem runLines_raised (host : Host m) (timing : Timing) (count delay : Nat) (lines : List Line) :
    host.runLines timing delay (lines.map (Line.raised count)) =
      Run.raised count <$> host.runLines timing delay lines :=
  host.runLines_renumbered timing (· + count) delay lines

/-- Lines behind others are run on the same interpreter if nothing has stopped the others. -/
theorem runLines_append (host : Host m) (timing : Timing) (delay : Nat)
    (first second : List Line) :
    host.runLines timing delay (first ++ second) = (do
      let run ← host.runLines timing delay first
      match run.stop with
      | some _ => pure run
      | none => (·.after run.account.entries) <$> host.runLines timing run.delay second) := by
  induction first generalizing delay with
  | nil => simp [runLines]
  | cons line rest ih =>
    rw [List.cons_append, runLines, runLines, bind_assoc]
    congr 1
    funext result
    cases result with
    | error cause => simp
    | ok _ =>
      -- The entries of the first line go before all that the others have.
      simp only [ih, bind_assoc, pure_bind]
      congr 1
      funext run
      cases stopped : run.stop with
      | some stop => simp [Run.after, stopped]
      | none => simp [Run.after, stopped]

end Host

/-- **A script behind another one**: the two are run like one script, with the default delay handed
on from the first to the second and the numbers of the second raised by the lines of the first. -/
theorem run_composes {m : Type → Type} [Monad m] [LawfulMonad m] (host : Host m)
    (timing : Timing) (delay : Nat) (first second : String) :
    host.run timing delay (first ++ "\n" ++ second) = (do
      let run ← host.run timing delay first
      match run.stop with
      | some _ => pure run
      | none =>
        let later ← host.run timing run.delay second
        pure ((later.raised (first.toList.count '\n' + 1)).after run.account.entries)) := by
  rw [Host.run, Script.parse_join, Host.runLines_append, Host.run]
  congr 1
  funext run
  cases run.stop with
  | some stop => rfl
  | none => simp [Host.runLines_raised, Host.run]

/-- The device fails in the second line of the second text, behind three lines of the first. -/
theorem run_composes_cut :
    let world := World.limited 2 fun _ _ => .writeFailed "unplugged"
    let first := "DEFAULT_DELAY 5\n\nREM one\r"
    let second := "a\nb"
    LawfulMonad (StateM (List Happening)) ∧
    (world.host.run .standard 0 (first ++ "\n" ++ second) = do
      let run ← world.host.run .standard 0 first
      match run.stop with
      | some _ => pure run
      | none =>
        let later ← world.host.run .standard run.delay second
        pure ((later.raised (first.toList.count '\n' + 1)).after run.account.entries)) ∧
    (world.run .standard 0 (first ++ "\n" ++ second)).1 =
      ⟨⟨[⟨1, "DEFAULT_DELAY 5", .defaultDelay 5⟩, ⟨4, "a", .pressed "a" .none⟩]⟩,
        some ⟨5, .device (.writeFailed "unplugged")⟩, 5⟩ :=
  ⟨inferInstance, run_composes _ _ _ _ _, by decide +kernel⟩

end KeyGadget
