import KeyGadget.Proofs.Adequacy

/-!
# Worlds in which a look changes nothing

A session looks at the flag more often in one way of asking for keys than in another. In a steady
world that makes no difference: the device and the flag answer by what was written and waited, so
two histories that differ in looks only are gone on with in the same way.

## Main results

`Steady.perform`: actions do the same behind two histories that differ in looks only.
`Bench.world_steady` and `World.limited_steady`: a bench makes a steady world, and so does a device
with room for some reports only.
-/
namespace KeyGadget

namespace Happening

/-- Whether nothing is done but to look at the flag. -/
def isLook : Happening → Bool
  | .look _ => true
  | _ => false

/-- The writes, with their answers, and the waits. -/
def deeds (history : List Happening) : List Happening :=
  history.filter fun happening => !happening.isLook

theorem deeds_append (first second : List Happening) :
    deeds (first ++ second) = deeds first ++ deeds second :=
  List.filter_append first second

theorem deeds_look (past : List Happening) (going : Bool) :
    deeds (past ++ [.look going]) = deeds past := by
  rw [deeds_append]
  exact List.append_nil _

end Happening

open Happening (deeds)

namespace World

/-- A world in which nothing depends on how often a session has looked at the flag. -/
structure Steady (world : World) : Prop where
  answer : ∀ past report, world.answer past report = world.answer (deeds past) report
  going : ∀ past, world.going past = world.going (deeds past)

variable {world : World}

theorem Steady.respond (steady : world.Steady) (past other : List Happening)
    (same : deeds past = deeds other) (action : Action) :
    world.respond past action = world.respond other action := by
  cases action with
  | check =>
    have going : world.going past = world.going other := by
      rw [steady.going past, steady.going other, same]
    simp only [World.respond, going]
  | write report =>
    have answer : world.answer past report = world.answer other report := by
      rw [steady.answer past, steady.answer other, same]
    simp only [World.respond, answer]
  | sleep ms => rfl

/-- Actions do the same behind histories that differ in looks only. -/
theorem Steady.perform (steady : world.Steady) (actions : List Action)
    (past other : List Happening) (same : deeds past = deeds other) :
    (world.perform actions past).1 = (world.perform actions other).1 ∧
      deeds (world.perform actions past).2 = deeds (world.perform actions other).2 := by
  induction actions generalizing past other with
  | nil => exact ⟨rfl, same⟩
  | cons action rest ih =>
    -- The same answer is added to both histories, so they still differ in looks only.
    have next : deeds (past ++ [world.respond other action]) =
        deeds (other ++ [world.respond other action]) := by
      rw [Happening.deeds_append, Happening.deeds_append, same]
    rw [perform_cons, perform_cons, steady.respond past other same action]
    cases (world.respond other action).failure with
    | none => exact ih _ _ next
    | some error => exact ⟨rfl, next⟩

end World

/-- A device that takes some reports and then fails counts what it takes, and not the looks. -/
theorem World.limited_steady (room : Nat) (error : DeviceError) :
    (World.limited room fun _ _ => error).Steady := by
  have counted : ∀ past, Happening.accepted (deeds past) = Happening.accepted past := by
    intro past
    induction past with
    | nil => rfl
    | cons happening rest ih =>
      cases happening with
      | look going => exact ih
      | write report answer =>
        cases answer with
        | ok _ => exact congrArg (report :: ·) ih
        | error _ => exact ih
      | sleep ms => exact ih
  constructor
  · intro past report
    simp only [limited, counted]
  · intro past
    rfl

theorem Bench.world_steady (start : Bench) : (Bench.host.world start).Steady := by
  -- A bench keeps count of its writes, not of the looks at its flag.
  have replayed : ∀ past, Bench.host.replay start past = Bench.host.replay start (deeds past) := by
    intro past
    induction past generalizing start with
    | nil => rfl
    | cons happening rest ih =>
      cases happening with
      | look going => exact ih start
      | write report answer => exact ih _
      | sleep ms => exact ih _
  constructor
  · intro past report
    simp only [Host.world, replayed past]
  · intro past
    simp only [Host.world, replayed past]

end KeyGadget
