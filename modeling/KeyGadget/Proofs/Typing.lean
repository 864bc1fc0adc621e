import KeyGadget.Proofs.Keystroke
import Mathlib.Control.Monad.Basic

/-!
# Texts one behind the other

Typing a text and then another one is typing the two as one text, also if the device fails or the
flag goes down in either of them. A text that is typed to its end is accounted for character by
character: each was typed, or is told of as skipped, or was a carriage return.

## Main results

`Host.type_append`: on every host, texts are typed one behind the other. `typing_adds_up` says this
of all that happens in a world, and what there is to show for a text that was typed.
-/
namespace KeyGadget

/-- What came of typing a text and more behind it. -/
def Typed.add (typed more : Typed) : Typed :=
  ⟨typed.characters + more.characters, typed.skipped ++ more.skipped⟩

namespace Plan

theorem typedCharacters_append (first second : String) :
    typedCharacters (first ++ second) = typedCharacters first ++ typedCharacters second := by
  simp only [typedCharacters, String.toList_append, List.filter_append]

theorem typeWithHold_append_actions (timing : Timing) (hold : Nat) (first second : String) :
    (typeWithHold timing hold (first ++ second)).actions =
      (typeWithHold timing hold first).actions ++ (typeWithHold timing hold second).actions := by
  simp only [typeWithHold, typedCharacters_append, List.flatMap_append]

theorem typeWithHold_append_outcome (timing : Timing) (hold : Nat) (first second : String) :
    (typeWithHold timing hold (first ++ second)).outcome =
      (typeWithHold timing hold first).outcome.add (typeWithHold timing hold second).outcome := by
  simp only [typeWithHold, typedCharacters_append, List.countP_append, List.filter_append,
    Typed.add]

/-- All characters but the carriage returns count. -/
theorem length_typedCharacters (text : String) :
    (typedCharacters text).length + text.toList.count '\r' = text.length := by
  have parted := List.length_eq_countP_add_countP (· == '\r') (l := text.toList)
  rw [String.length_toList] at parted
  rw [parted, List.count_eq_countP, typedCharacters, ← List.countP_eq_length_filter, Nat.add_comm]
  simp

/-- Every character of a text is typed, or skipped, or a carriage return. -/
theorem typeWithHold_accounts (timing : Timing) (hold : Nat) (text : String) :
    let typed := (typeWithHold timing hold text).outcome
    typed.characters + typed.skipped.length + text.toList.count '\r' = text.length := by
  have parted := List.length_eq_countP_add_countP (fun c => (Layout.strokeFor c).isSome)
    (l := typedCharacters text)
  have missed : (fun c => (Layout.strokeFor c).isNone) =
      fun c => decide ¬((Layout.strokeFor c).isSome = true) := by
    funext c
    cases Layout.strokeFor c <;> rfl
  dsimp only [typeWithHold]
  rw [missed, ← List.countP_eq_length_filter, ← parted, length_typedCharacters]

theorem typeWithHold_skipped (timing : Timing) (hold : Nat) (text : String) :
    (typeWithHold timing hold text).outcome.skipped =
      text.toList.filter fun c => c ≠ '\r' && (Layout.keyFor c).isNone := by
  dsimp only [typeWithHold]
  rw [typedCharacters, List.filter_filter]
  apply List.filter_congr
  intro c _
  rw [Layout.strokeFor, Option.isNone_map, Bool.and_comm]

/-- A carriage return has no keystroke, so it makes no difference that it is not typed. -/
theorem filterMap_typedCharacters (text : String) :
    (typedCharacters text).filterMap Layout.strokeFor = text.toList.filterMap Layout.strokeFor := by
  have noKey : Layout.strokeFor '\r' = none := by decide
  rw [typedCharacters, List.filterMap_filter]
  congr 1
  funext c
  by_cases back : c = '\r'
  · rw [back, noKey]
    rfl
  · simp [back]

end Plan

/-- Texts are typed one behind the other. -/
theorem Host.type_append {m : Type → Type} [Monad m] [LawfulMonad m] (host : Host m)
    (timing : Timing) (hold : Nat) (first second : String) :
    host.carryOut (Plan.typeWithHold timing hold (first ++ second)) = (do
      match ← host.carryOut (Plan.typeWithHold timing hold first) with
      | .error cause => pure (.error cause)
      | .ok typed =>
        match ← host.carryOut (Plan.typeWithHold timing hold second) with
        | .error cause => pure (.error cause)
        | .ok more => pure (.ok (typed.add more))) := by
  rw [carryOut, carryOut, Plan.typeWithHold_append_actions, perform_append, bind_assoc, bind_assoc]
  congr 1
  funext begun
  cases begun with
  | error cause => simp
  | ok _ =>
    simp only [Plan.typeWithHold_append_outcome, pure_bind, carryOut, bind_assoc]
    congr 1
    funext ended
    cases ended <;> simp

/-- The attempts that are made where nothing fails. -/
theorem Happening.attempts_granted (actions : List Action) :
    attempts (actions.map Action.granted) =
      (accepted (actions.map Action.granted)).map fun report => ⟨report, .ok ()⟩ := by
  induction actions with
  | nil => rfl
  | cons action rest ih =>
    cases action with
    | check | sleep ms => exact ih
    | write report => exact congrArg (⟨report, .ok ()⟩ :: ·) ih

/-- Types a text behind a history, holding every character for some time. -/
def World.type (world : World) (timing : Timing) (hold : Nat) (text : String)
    (past : List Happening) : Except SendError Typed × List Happening :=
  (world.host.carryOut (Plan.typeWithHold timing hold text)).run past

/-- What there is to show for a text that was typed to its end. -/
structure Accounts (text : String) (past after : List Happening) (typed : Typed) : Prop where
  characters : typed.characters + typed.skipped.length + text.toList.count '\r' = text.length
  skipped : typed.skipped = text.toList.filter fun c => c ≠ '\r' && (Layout.keyFor c).isNone
  reports : Happening.attempts after = Happening.attempts past ++
    (Keystroke.reports (text.toList.filterMap Layout.strokeFor)).map fun report => ⟨report, .ok ()⟩
  count : (Happening.attempts after).length =
    (Happening.attempts past).length + 2 * typed.characters

theorem World.accounts_of_type (world : World) (timing : Timing) (hold : Nat) (text : String)
    (past after : List Happening) (typed : Typed)
    (done : world.type timing hold text past = (.ok typed, after)) :
    Accounts text past after typed := by
  rw [World.type, World.carryOut_eq] at done
  rcases performed : world.perform (Plan.typeWithHold timing hold text).actions past with
    ⟨cause | _, reached⟩
  · rw [performed] at done
    cases done
  rw [performed] at done
  obtain ⟨same, rfl⟩ := Prod.mk.inj done
  obtain rfl := Except.ok.inj same
  have granted := World.perform_ok world _ past reached performed
  have attempted : Happening.attempts reached = Happening.attempts past ++
      (Keystroke.reports (text.toList.filterMap Layout.strokeFor)).map
        fun report => ⟨report, .ok ()⟩ := by
    rw [granted, Happening.attempts_append, Happening.attempts_granted,
      Plan.typeWithHold_actions, Plan.strokesActions_reports, Plan.filterMap_typedCharacters]
  refine ⟨Plan.typeWithHold_accounts timing hold text, Plan.typeWithHold_skipped timing hold text,
    attempted, ?_⟩
  -- There is a keystroke for every typed character, and two reports for every keystroke.
  rw [attempted, List.length_append, List.length_map, Keystroke.reports, Report.length_released,
    List.length_map, ← Plan.filterMap_typedCharacters, List.length_filterMap_eq_countP]
  rfl

/-- **Typing adds up.** A text in two parts is typed as the first part is typed and then, if nothing
has failed, the second: the device and the clock get the same, a failure in either part is the
failure of the whole, and what was typed and skipped is put together. A text that is typed to its
end leaves no character out, and each typed character is two reports. Where nothing fails, every
text is typed to its end. -/
theorem typing_adds_up (world : World) (timing : Timing) (hold : Nat) (past : List Happening) :
    (∀ first second : String,
      world.type timing hold (first ++ second) past =
        match world.type timing hold first past with
        | (.error cause, after) => (.error cause, after)
        | (.ok typed, middle) =>
          match world.type timing hold second middle with
          | (.error cause, after) => (.error cause, after)
          | (.ok more, after) => (.ok (typed.add more), after)) ∧
    (∀ (text : String) (typed : Typed) (after : List Happening),
      world.type timing hold text past = (.ok typed, after) → Accounts text past after typed) ∧
    ∀ text : String, ∃ typed after, World.calm.type timing hold text past = (.ok typed, after) := by
  refine ⟨?_, ?_, ?_⟩
  · intro first second
    rw [World.type, world.host.type_append timing hold first second, StateT.run_bind, ← World.type]
    rcases world.type timing hold first past with ⟨cause | typed, middle⟩
    · rfl
    · dsimp only
      change (world.host.carryOut (Plan.typeWithHold timing hold second) >>= _).run middle = _
      rw [StateT.run_bind, ← World.type]
      rcases world.type timing hold second middle with ⟨cause | more, after⟩ <;> rfl
  · intro text typed after done
    exact world.accounts_of_type timing hold text past after typed done
  · intro text
    rw [World.type, World.carryOut_eq, World.calm_perform]
    exact ⟨_, _, rfl⟩

/-- The device fails when it is to release the key of the second part. -/
theorem typing_adds_up_cut :
    let world := World.limited 3 fun _ _ => .writeFailed "unplugged"
    ∃ middle after, world.type .standard 20 "a\ré" [] = (.ok ⟨1, ['é']⟩, middle) ∧
      Accounts "a\ré" [] middle ⟨1, ['é']⟩ ∧
      world.type .standard 20 "b" middle = (.error (.device (.writeFailed "unplugged")), after) ∧
      world.type .standard 20 ("a\ré" ++ "b") [] =
        (.error (.device (.writeFailed "unplugged")), after) := by
  intro world
  have typed : (world.type .standard 20 "a\ré" []).1 = .ok ⟨1, ['é']⟩ := by decide +kernel
  have cut : (world.type .standard 20 "b" (world.type .standard 20 "a\ré" []).2).1 =
      .error (.device (.writeFailed "unplugged")) := by decide +kernel
  obtain ⟨parts, accounts, -⟩ := typing_adds_up world .standard 20 []
  rcases first : world.type .standard 20 "a\ré" [] with ⟨result, middle⟩
  rw [first] at typed cut
  obtain rfl : result = .ok ⟨1, ['é']⟩ := typed
  rcases second : world.type .standard 20 "b" middle with ⟨result, after⟩
  rw [second] at cut
  obtain rfl : result = .error (.device (.writeFailed "unplugged")) := cut
  refine ⟨middle, after, rfl, accounts "a\ré" ⟨1, ['é']⟩ middle first, second, ?_⟩
  rw [parts "a\ré" "b", first]
  dsimp only
  rw [second]

end KeyGadget
