import KeyGadget.Keyboard.Report

/-!
# The layout

Which keystroke makes a character on a keyboard with the US layout. A capital letter and the upper
sign of a key need the shift key; blank, tab and line feed have keys of their own; any other
character is typed by the key that bears it as its name.
-/
namespace KeyGadget.Layout

/-- The character on the same key as `c`, for a sign `c` that needs the shift key. -/
def shiftedBase : Char → Option Char
  | '!' => some '1'
  | '@' => some '2'
  | '#' => some '3'
  | '$' => some '4'
  | '%' => some '5'
  | '^' => some '6'
  | '&' => some '7'
  | '*' => some '8'
  | '(' => some '9'
  | ')' => some '0'
  | '_' => some '-'
  | '+' => some '='
  | '\x7b' => some '['
  | '\x7d' => some ']'
  | '|' => some '\x5c'
  | ':' => some ';'
  | '\x22' => some '\x27'
  | '<' => some ','
  | '>' => some '.'
  | '?' => some '/'
  | '~' => some '\x60'
  | _ => none

/-- The key that makes a character without the shift key. -/
def plainKey (c : Char) : Option Key :=
  if c = ' ' then some .space
  else if c = '\t' then some .tab
  else if c = '\n' then some .enter
  else Key.ofName? (String.singleton c)

/-- The key that makes a character, and the modifier keys to hold with it. -/
def keyFor (c : Char) : Option (Key × Modifiers) :=
  if c.isUpper then (plainKey c.toLower).map (·, .shift)
  else
    match shiftedBase c with
    | some base => (plainKey base).map (·, .shift)
    | none => (plainKey c).map (·, .none)

/-- The keystroke that makes a character. -/
def strokeFor (c : Char) : Option Keystroke :=
  (keyFor c).map fun (key, modifiers) => ⟨modifiers, some key⟩

end KeyGadget.Layout
