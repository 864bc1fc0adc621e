import KeyGadget.Keyboard.Key
import KeyGadget.Keyboard.Modifiers

/-!
# Keyboard reports

A report is the state of the keyboard as the host sees it: eight bytes, the modifier keys in the
first and the usage number of a key in the third. The other bytes stay zero, because keys are
pressed one at a time. The report of zeros releases everything.
-/
namespace KeyGadget

/-- What is pressed at once: modifier keys and at most one other key. -/
structure Keystroke where
  modifiers : Modifiers
  key : Option Key
  deriving DecidableEq, Repr

/-- The eight bytes that tell the host what is held. -/
structure Report where
  bytes : Vector UInt8 8
  deriving DecidableEq, Repr

namespace Report

/-- The report of a keyboard on which nothing is held. -/
def release : Report :=
  ⟨#v[0, 0, 0, 0, 0, 0, 0, 0]⟩

/-- The report of a keyboard on which a keystroke is held. -/
def press (stroke : Keystroke) : Report :=
  let usage := match stroke.key with
    | some key => key.usage
    | none => 0
  ⟨#v[stroke.modifiers.bits, 0, usage, 0, 0, 0, 0, 0]⟩

def modifiers (r : Report) : Modifiers :=
  ⟨r.bytes[0]⟩

/-- The usage number in the place of the key, zero if there is none. -/
def usage (r : Report) : UInt8 :=
  r.bytes[2]

def isRelease (r : Report) : Bool :=
  r == release

/-- Two lowercase hexadecimal digits. -/
def hexByte (b : UInt8) : String :=
  String.ofList [Nat.digitChar (b.toNat / 16), Nat.digitChar (b.toNat % 16)]

/-- The bytes in hexadecimal, a blank between two of them. -/
def describe (r : Report) : String :=
  " ".intercalate (r.bytes.toList.map hexByte)

end Report
end KeyGadget
