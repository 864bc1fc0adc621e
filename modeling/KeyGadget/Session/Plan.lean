import KeyGadget.Session.Host

/-!
# Plans

What a request to press or type something comes to is settled before anything is sent: a plan is
the list of actions and the outcome if all of them succeed. A keystroke is planned as a look at the
flag, the press, the hold, the release and the gap, so every press has its release right behind it.
A name that is not known leaves no plan, and nothing is sent for it.
-/
namespace KeyGadget

/-- How long keys are held and how long the pauses are, in milliseconds. -/
structure Timing where
  /-- How long a key that stands alone is held. -/
  keyPress : Nat
  /-- The pause after a key or a typed character. -/
  keyGap : Nat
  /-- How long a chord is held. -/
  comboHold : Nat
  /-- How long a typed character is held. -/
  charDelay : Nat
  deriving DecidableEq, Repr

def Timing.standard : Timing := ⟨50, 10, 100, 50⟩

/-- Actions, and what they achieve if none of them fails. -/
structure Plan (α : Type) where
  actions : List Action
  outcome : α

/-- The same actions with another account of what they achieve. -/
def Plan.map {α β : Type} (f : α → β) (plan : Plan α) : Plan β :=
  ⟨plan.actions, f plan.outcome⟩

/-- What came of typing a text. -/
structure Typed where
  characters : Nat
  /-- The characters that no keystroke makes, in order. -/
  skipped : List Char
  deriving DecidableEq, Repr

namespace Plan

/-- Press a keystroke, hold it, release it, and pause. -/
def strokeActions (stroke : Keystroke) (hold gap : Nat) : List Action :=
  [.check, .write (.press stroke), .sleep hold, .write .release] ++
    if gap = 0 then [] else [.sleep gap]

/-- Press the key with a name for some time, together with further modifier keys. -/
def press (timing : Timing) (name : String) (extra : Modifiers) (hold : Nat) :
    Except UnknownKey (Plan Keystroke) :=
  (Names.resolve name).map fun named =>
    let stroke : Keystroke := ⟨named.modifiers ||| extra, named.key⟩
    ⟨strokeActions stroke hold timing.keyGap, stroke⟩

/-- Press the key with a name for the usual time. -/
def tap (timing : Timing) (name : String) : Except UnknownKey (Plan Keystroke) :=
  press timing name .none timing.keyPress

/-- Press all keys of a chord at once. No pause follows. -/
def combo (timing : Timing) (tokens : List String) : Except UnknownKey (Plan Names.Chord) :=
  (Names.chord tokens).map fun chord =>
    ⟨strokeActions chord.stroke timing.comboHold 0, chord⟩

/-- What it takes to type a character: nothing if no keystroke makes it. -/
def characterActions (hold gap : Nat) (c : Char) : List Action :=
  match Layout.strokeFor c with
  | some stroke => strokeActions stroke hold gap
  | none => []

/-- The characters of a text that count. A carriage return is not typed and not missed. -/
def typedCharacters (text : String) : List Char :=
  text.toList.filter (· ≠ '\r')

/-- Type a text, holding every character for some time. -/
def typeWithHold (timing : Timing) (hold : Nat) (text : String) : Plan Typed :=
  let characters := typedCharacters text
  { actions := characters.flatMap (characterActions hold timing.keyGap)
    outcome :=
      { characters := characters.countP fun c => (Layout.strokeFor c).isSome
        skipped := characters.filter fun c => (Layout.strokeFor c).isNone } }

/-- Type a text, holding every character for the usual time. -/
def type (timing : Timing) (text : String) : Plan Typed :=
  typeWithHold timing timing.charDelay text

def release : Plan Unit :=
  ⟨[.write .release], ()⟩

/-- Write a report as it is. -/
def send (report : Report) : Plan Unit :=
  ⟨[.write report], ()⟩

def pause (ms : Nat) : Plan Unit :=
  ⟨[.sleep ms], ()⟩

def checkRunning : Plan Unit :=
  ⟨[.check], ()⟩

end Plan

namespace Host

variable {m : Type → Type} [Monad m] {α : Type}

def carryOut (host : Host m) (plan : Plan α) : m (Except SendError α) := do
  match ← host.perform plan.actions with
  | .ok () => pure (.ok plan.outcome)
  | .error error => pure (.error error)

/-- Carries out a plan if there is one. -/
def attempt (host : Host m) : Except UnknownKey (Plan α) → m (Except SendError α)
  | .ok plan => host.carryOut plan
  | .error error => pure (.error (.unknownKey error))

end Host
end KeyGadget
