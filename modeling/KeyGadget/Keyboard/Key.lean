/-!
# Keys

The keys of the keyboard. A key has a usage number, which is what a report carries, a short
lowercase name, under which it is looked up, and a label, under which it is shown in results. All
three tell the keys apart.
-/
namespace KeyGadget

inductive Key
  | keyA | keyB | keyC | keyD | keyE | keyF | keyG | keyH | keyI | keyJ | keyK | keyL | keyM
  | keyN | keyO | keyP | keyQ | keyR | keyS | keyT | keyU | keyV | keyW | keyX | keyY | keyZ
  | digit1 | digit2 | digit3 | digit4 | digit5 | digit6 | digit7 | digit8 | digit9 | digit0
  | enter | escape | backspace | tab | space | minus | equal | bracketLeft | bracketRight
  | backslash | semicolon | quote | backquote | comma | period | slash | capsLock | f1 | f2
  | f3 | f4 | f5 | f6 | f7 | f8 | f9 | f10 | f11 | f12 | printScreen | scrollLock | pause
  | insert | home | pageUp | delete | endKey | pageDown | arrowRight | arrowLeft | arrowDown
  | arrowUp | contextMenu
  deriving DecidableEq, Repr

namespace Key

/-- Every key, in the order of the usage numbers. -/
def all : List Key := [
  .keyA, .keyB, .keyC, .keyD, .keyE, .keyF, .keyG, .keyH, .keyI, .keyJ, .keyK, .keyL, .keyM,
  .keyN, .keyO, .keyP, .keyQ, .keyR, .keyS, .keyT, .keyU, .keyV, .keyW, .keyX, .keyY, .keyZ,
  .digit1, .digit2, .digit3, .digit4, .digit5, .digit6, .digit7, .digit8, .digit9, .digit0,
  .enter, .escape, .backspace, .tab, .space, .minus, .equal, .bracketLeft, .bracketRight,
  .backslash, .semicolon, .quote, .backquote, .comma, .period, .slash, .capsLock, .f1, .f2,
  .f3, .f4, .f5, .f6, .f7, .f8, .f9, .f10, .f11, .f12, .printScreen, .scrollLock, .pause,
  .insert, .home, .pageUp, .delete, .endKey, .pageDown, .arrowRight, .arrowLeft, .arrowDown,
  .arrowUp, .contextMenu]

/-- The number of the key on the keyboard usage page. -/
def usage : Key → UInt8
  | .keyA => 0x04
  | .keyB => 0x05
  | .keyC => 0x06
  | .keyD => 0x07
  | .keyE => 0x08
  | .keyF => 0x09
  | .keyG => 0x0A
  | .keyH => 0x0B
  | .keyI => 0x0C
  | .keyJ => 0x0D
  | .keyK => 0x0E
  | .keyL => 0x0F
  | .keyM => 0x10
  | .keyN => 0x11
  | .keyO => 0x12
  | .keyP => 0x13
  | .keyQ => 0x14
  | .keyR => 0x15
  | .keyS => 0x16
  | .keyT => 0x17
  | .keyU => 0x18
  | .keyV => 0x19
  | .keyW => 0x1A
  | .keyX => 0x1B
  | .keyY => 0x1C
  | .keyZ => 0x1D
  | .digit1 => 0x1E
  | .digit2 => 0x1F
  | .digit3 => 0x20
  | .digit4 => 0x21
  | .digit5 => 0x22
  | .digit6 => 0x23
  | .digit7 => 0x24
  | .digit8 => 0x25
  | .digit9 => 0x26
  | .digit0 => 0x27
  | .enter => 0x28
  | .escape => 0x29
  | .backspace => 0x2A
  | .tab => 0x2B
  | .space => 0x2C
  | .minus => 0x2D
  | .equal => 0x2E
  | .bracketLeft => 0x2F
  | .bracketRight => 0x30
  | .backslash => 0x31
  | .semicolon => 0x33
  | .quote => 0x34
  | .backquote => 0x35
  | .comma => 0x36
  | .period => 0x37
  | .slash => 0x38
  | .capsLock => 0x39
  | .f1 => 0x3A
  | .f2 => 0x3B
  | .f3 => 0x3C
  | .f4 => 0x3D
  | .f5 => 0x3E
  | .f6 => 0x3F
  | .f7 => 0x40
  | .f8 => 0x41
  | .f9 => 0x42
  | .f10 => 0x43
  | .f11 => 0x44
  | .f12 => 0x45
  | .printScreen => 0x46
  | .scrollLock => 0x47
  | .pause => 0x48
  | .insert => 0x49
  | .home => 0x4A
  | .pageUp => 0x4B
  | .delete => 0x4C
  | .endKey => 0x4D
  | .pageDown => 0x4E
  | .arrowRight => 0x4F
  | .arrowLeft => 0x50
  | .arrowDown => 0x51
  | .arrowUp => 0x52
  | .contextMenu => 0x65

def name : Key → String
  | .keyA => "a"
  | .keyB => "b"
  | .keyC => "c"
  | .keyD => "d"
  | .keyE => "e"
  | .keyF => "f"
  | .keyG => "g"
  | .keyH => "h"
  | .keyI => "i"
  | .keyJ => "j"
  | .keyK => "k"
  | .keyL => "l"
  | .keyM => "m"
  | .keyN => "n"
  | .keyO => "o"
  | .keyP => "p"
  | .keyQ => "q"
  | .keyR => "r"
  | .keyS => "s"
  | .keyT => "t"
  | .keyU => "u"
  | .keyV => "v"
  | .keyW => "w"
  | .keyX => "x"
  | .keyY => "y"
  | .keyZ => "z"
  | .digit1 => "1"
  | .digit2 => "2"
  | .digit3 => "3"
  | .digit4 => "4"
  | .digit5 => "5"
  | .digit6 => "6"
  | .digit7 => "7"
  | .digit8 => "8"
  | .digit9 => "9"
  | .digit0 => "0"
  | .enter => "enter"
  | .escape => "esc"
  | .backspace => "backspace"
  | .tab => "tab"
  | .space => "space"
  | .minus => "-"
  | .equal => "="
  | .bracketLeft => "["
  | .bracketRight => "]"
  | .backslash => "\x5c"
  | .semicolon => ";"
  | .quote => "\x27"
  | .backquote => "\x60"
  | .comma => ","
  | .period => "."
  | .slash => "/"
  | .capsLock => "caps"
  | .f1 => "f1"
  | .f2 => "f2"
  | .f3 => "f3"
  | .f4 => "f4"
  | .f5 => "f5"
  | .f6 => "f6"
  | .f7 => "f7"
  | .f8 => "f8"
  | .f9 => "f9"
  | .f10 => "f10"
  | .f11 => "f11"
  | .f12 => "f12"
  | .printScreen => "print"
  | .scrollLock => "scroll"
  | .pause => "pause"
  | .insert => "insert"
  | .home => "home"
  | .pageUp => "pageup"
  | .delete => "delete"
  | .endKey => "end"
  | .pageDown => "pagedown"
  | .arrowRight => "right"
  | .arrowLeft => "left"
  | .arrowDown => "down"
  | .arrowUp => "up"
  | .contextMenu => "app"

/-- The label under which results show the key. -/
def label : Key → String
  | .keyA => "KeyA"
  | .keyB => "KeyB"
  | .keyC => "KeyC"
  | .keyD => "KeyD"
  | .keyE => "KeyE"
  | .keyF => "KeyF"
  | .keyG => "KeyG"
  | .keyH => "KeyH"
  | .keyI => "KeyI"
  | .keyJ => "KeyJ"
  | .keyK => "KeyK"
  | .keyL => "KeyL"
  | .keyM => "KeyM"
  | .keyN => "KeyN"
  | .keyO => "KeyO"
  | .keyP => "KeyP"
  | .keyQ => "KeyQ"
  | .keyR => "KeyR"
  | .keyS => "KeyS"
  | .keyT => "KeyT"
  | .keyU => "KeyU"
  | .keyV => "KeyV"
  | .keyW => "KeyW"
  | .keyX => "KeyX"
  | .keyY => "KeyY"
  | .keyZ => "KeyZ"
  | .digit1 => "Digit1"
  | .digit2 => "Digit2"
  | .digit3 => "Digit3"
  | .digit4 => "Digit4"
  | .digit5 => "Digit5"
  | .digit6 => "Digit6"
  | .digit7 => "Digit7"
  | .digit8 => "Digit8"
  | .digit9 => "Digit9"
  | .digit0 => "Digit0"
  | .enter => "Enter"
  | .escape => "Escape"
  | .backspace => "Backspace"
  | .tab => "Tab"
  | .space => "Space"
  | .minus => "Minus"
  | .equal => "Equal"
  | .bracketLeft => "BracketLeft"
  | .bracketRight => "BracketRight"
  | .backslash => "Backslash"
  | .semicolon => "Semicolon"
  | .quote => "Quote"
  | .backquote => "Backquote"
  | .comma => "Comma"
  | .period => "Period"
  | .slash => "Slash"
  | .capsLock => "CapsLock"
  | .f1 => "F1"
  | .f2 => "F2"
  | .f3 => "F3"
  | .f4 => "F4"
  | .f5 => "F5"
  | .f6 => "F6"
  | .f7 => "F7"
  | .f8 => "F8"
  | .f9 => "F9"
  | .f10 => "F10"
  | .f11 => "F11"
  | .f12 => "F12"
  | .printScreen => "PrintScreen"
  | .scrollLock => "ScrollLock"
  | .pause => "Pause"
  | .insert => "Insert"
  | .home => "Home"
  | .pageUp => "PageUp"
  | .delete => "Delete"
  | .endKey => "End"
  | .pageDown => "PageDown"
  | .arrowRight => "ArrowRight"
  | .arrowLeft => "ArrowLeft"
  | .arrowDown => "ArrowDown"
  | .arrowUp => "ArrowUp"
  | .contextMenu => "ContextMenu"

/-- The names under which keys are looked up, each with its key. -/
def named : List (String × Key) := [
  ("a", .keyA), ("b", .keyB), ("c", .keyC), ("d", .keyD), ("e", .keyE), ("f", .keyF), ("g", .keyG),
  ("h", .keyH), ("i", .keyI), ("j", .keyJ), ("k", .keyK), ("l", .keyL), ("m", .keyM), ("n", .keyN),
  ("o", .keyO), ("p", .keyP), ("q", .keyQ), ("r", .keyR), ("s", .keyS), ("t", .keyT), ("u", .keyU),
  ("v", .keyV), ("w", .keyW), ("x", .keyX), ("y", .keyY), ("z", .keyZ), ("1", .digit1),
  ("2", .digit2), ("3", .digit3), ("4", .digit4), ("5", .digit5), ("6", .digit6), ("7", .digit7),
  ("8", .digit8), ("9", .digit9), ("0", .digit0), ("enter", .enter), ("esc", .escape),
  ("backspace", .backspace), ("tab", .tab), ("space", .space), ("-", .minus), ("=", .equal),
  ("[", .bracketLeft), ("]", .bracketRight), ("\x5c", .backslash), (";", .semicolon),
  ("\x27", .quote), ("\x60", .backquote), (",", .comma), (".", .period), ("/", .slash),
  ("caps", .capsLock), ("f1", .f1), ("f2", .f2), ("f3", .f3), ("f4", .f4), ("f5", .f5), ("f6", .f6),
  ("f7", .f7), ("f8", .f8), ("f9", .f9), ("f10", .f10), ("f11", .f11), ("f12", .f12),
  ("print", .printScreen), ("scroll", .scrollLock), ("pause", .pause), ("insert", .insert),
  ("home", .home), ("pageup", .pageUp), ("delete", .delete), ("end", .endKey),
  ("pagedown", .pageDown), ("right", .arrowRight), ("left", .arrowLeft), ("down", .arrowDown),
  ("up", .arrowUp), ("app", .contextMenu)]

def ofUsage? (n : UInt8) : Option Key :=
  all.find? (·.usage == n)

/-- The key with a name, which has to be spelled in lower case. -/
def ofName? (s : String) : Option Key :=
  (named.find? (·.1 == s)).map (·.2)

def ofLabel? (s : String) : Option Key :=
  all.find? (·.label == s)

theorem mem_all (key : Key) : key ∈ all := by
  cases key <;> decide

theorem ofUsage?_usage (key : Key) : ofUsage? key.usage = some key := by
  cases key <;> decide

theorem ofName?_name (key : Key) : ofName? key.name = some key := by
  cases key <;> decide

/-- The names in the list are those of the keys. -/
theorem name_of_mem_named : ∀ entry ∈ named, entry.2.name = entry.1 := by
  decide

theorem ofName?_eq_some_iff (s : String) (key : Key) : ofName? s = some key ↔ key.name = s := by
  constructor
  · intro found
    obtain ⟨entry, listed, rfl⟩ := Option.map_eq_some_iff.mp found
    have same : entry.1 = s := by simpa using List.find?_some listed
    rw [← same]
    exact name_of_mem_named entry (List.mem_of_find?_eq_some listed)
  · rintro rfl
    exact ofName?_name key

theorem ofLabel?_label (key : Key) : ofLabel? key.label = some key := by
  cases key <;> decide

end Key
end KeyGadget
