import KeyGadget.Keyboard.Layout
import KeyGadget.Text.Case
import KeyGadget.Text.Quoted

/-!
# Names of keys

People write keys in several ways. A *canonical* name is what the tables of keys and modifier keys
know: the usual long names have a canonical one each, in any ASCII case, and every other name is
only brought to lower case. A name that stands alone is a character of the layout if it is one
character long; in a combination of keys every name is taken from the tables.
-/
namespace KeyGadget

structure UnknownKey where
  name : String
  deriving DecidableEq, Repr

namespace UnknownKey

/-- The name in quotes, for the reader of a message. -/
def message (e : UnknownKey) : String :=
  "unknown key: " ++ Text.quoted e.name

end UnknownKey

namespace Names

/-- Names in upper case, each with the canonical name that it stands for. -/
def aliases : List (String × String) := [
  ("GUI", "gui"), ("WINDOWS", "gui"), ("CTRL", "ctrl"), ("CONTROL", "ctrl"), ("SHIFT", "shift"),
  ("ALT", "alt"), ("ENTER", "enter"), ("ESCAPE", "esc"), ("ESC", "esc"), ("TAB", "tab"),
  ("SPACE", "space"), ("BACKSPACE", "backspace"), ("DELETE", "delete"), ("HOME", "home"),
  ("END", "end"), ("PAGEUP", "pageup"), ("PAGEDOWN", "pagedown"), ("UP", "up"),
  ("UPARROW", "up"), ("DOWN", "down"), ("DOWNARROW", "down"), ("LEFT", "left"),
  ("LEFTARROW", "left"), ("RIGHT", "right"), ("RIGHTARROW", "right"), ("F1", "f1"), ("F2", "f2"),
  ("F3", "f3"), ("F4", "f4"), ("F5", "f5"), ("F6", "f6"), ("F7", "f7"), ("F8", "f8"),
  ("F9", "f9"), ("F10", "f10"), ("F11", "f11"), ("F12", "f12"), ("CAPSLOCK", "caps"),
  ("PRINTSCREEN", "print"), ("SCROLLLOCK", "scroll"), ("PAUSE", "pause"), ("BREAK", "pause"),
  ("INSERT", "insert"), ("MENU", "app"), ("APP", "app")]

/-- The canonical name that a name in upper case stands for. -/
def aliasOf? (upper : String) : Option String :=
  (aliases.find? (·.1 == upper)).map (·.2)

def lowered (s : String) : String :=
  String.ofList (Text.lowercase s.toList)

/-- The canonical name for what someone wrote. -/
def canonical (token : String) : String :=
  match aliasOf? (String.ofList (Text.asciiUpper token.toList)) with
  | some name => name
  | none => lowered token

def lookup (name : String) : Except UnknownKey Key :=
  match Key.ofName? name with
  | some key => .ok key
  | none => .error ⟨name⟩

/-- The keystroke for a name that stands alone. A single character is typed; a longer name is looked
up in lower case, among the keys first and then among the modifier keys. -/
def resolve (name : String) : Except UnknownKey Keystroke :=
  match name.toList with
  | [c] =>
    match Layout.strokeFor c with
    | some stroke => .ok stroke
    | none => .error ⟨name⟩
  | _ =>
    let lower := lowered name
    match Key.ofName? lower, Modifiers.ofName? lower with
    | some key, _ => .ok ⟨.none, some key⟩
    | none, some modifiers => .ok ⟨modifiers, none⟩
    | none, none => .error ⟨name⟩

/-- What a list of names comes to when all are pressed at once. -/
structure Chord where
  modifiers : Modifiers
  key : Option Key
  unknown : List String
  deriving DecidableEq, Repr

def Chord.stroke (chord : Chord) : Keystroke :=
  ⟨chord.modifiers, chord.key⟩

/-- Whether a name in lower case is the name of a key or of a modifier key. -/
def isKnown (lower : String) : Bool :=
  (Modifiers.ofName? lower).isSome || (Key.ofName? lower).isSome

/-- A chord with one more name, given in lower case. Modifier keys add up and the last key wins. -/
def Chord.add (chord : Chord) (lower : String) : Chord :=
  match Modifiers.ofName? lower, Key.ofName? lower with
  | some modifiers, _ => { chord with modifiers := chord.modifiers ||| modifiers }
  | none, some key => { chord with key := some key }
  | none, none => { chord with unknown := chord.unknown ++ [lower] }

/-- The chord of a list of names. If no name is known, the first one is reported. -/
def chord (tokens : List String) : Except UnknownKey Chord :=
  let names := tokens.map lowered
  if names.any isKnown then
    .ok (names.foldl Chord.add ⟨.none, none, []⟩)
  else
    .error ⟨names.headD ""⟩

end Names
end KeyGadget
