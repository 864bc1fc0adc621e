/-!
# Modifier keys

The eight modifier keys are the bits of one byte, the first of a report. A set of them is shown by
the names of its members in the order of the bits.
-/
namespace KeyGadget

/-- A set of modifier keys, one bit for each. -/
structure Modifiers where
  bits : UInt8
  deriving DecidableEq, Repr

namespace Modifiers

def none : Modifiers := ⟨0⟩

def ctrl : Modifiers := ⟨0x01⟩

def shift : Modifiers := ⟨0x02⟩

def alt : Modifiers := ⟨0x04⟩

def gui : Modifiers := ⟨0x08⟩

def rightCtrl : Modifiers := ⟨0x10⟩

def rightShift : Modifiers := ⟨0x20⟩

def rightAlt : Modifiers := ⟨0x40⟩

def rightGui : Modifiers := ⟨0x80⟩

/-- The keys held in either of two sets. -/
instance : OrOp Modifiers where
  or a b := ⟨a.bits ||| b.bits⟩

/-- Each modifier key with its name, in the order of the bits. -/
def named : List (String × Modifiers) := [
  ("ctrl", ctrl), ("shift", shift), ("alt", alt), ("gui", gui),
  ("right_ctrl", rightCtrl), ("right_shift", rightShift), ("right_alt", rightAlt),
  ("right_gui", rightGui)]

def isEmpty (m : Modifiers) : Bool :=
  m.bits == 0

def contains (m other : Modifiers) : Bool :=
  m.bits &&& other.bits == other.bits

/-- The modifier key with a name, which has to be spelled in lower case. -/
def ofName? (s : String) : Option Modifiers :=
  (named.find? (·.1 == s)).map (·.2)

def names (m : Modifiers) : List String :=
  (named.filter fun entry => m.contains entry.2).map (·.1)

/-- The names of the keys held, joined by plus signs. -/
def describe (m : Modifiers) : String :=
  if m.isEmpty then "none" else "+".intercalate m.names

end Modifiers
end KeyGadget
