import KeyGadget.Keyboard.Modifiers
import KeyGadget.Text.Quoted
import KeyGadget.Json

/-!
# Script commands

A script is a text of lines, and each line that is not blank holds one command. A line whose number
cannot be read keeps its place in the script and says what was wrong with it.
-/
namespace KeyGadget.Script

inductive Command
  | typeText (text : String)
  | pressKey (name : String) (modifiers : Modifiers)
  | combo (names : List String)
  | delay (ms : Nat)
  /-- Wait after every later line. -/
  | defaultDelay (ms : Nat)
  /-- Nothing: the line is for people. -/
  | comment
  /-- A known keyword that has no effect. -/
  | unsupported (keyword argument : String)
  deriving DecidableEq, Repr

/-- A keyword that needs a number and a value that is none. -/
structure InvalidInteger where
  keyword : String
  value : String
  deriving DecidableEq, Repr

def InvalidInteger.message (e : InvalidInteger) : String :=
  e.keyword ++ " expects a whole number of milliseconds, got " ++ Text.quoted e.value

/-- A line with its place in the script. -/
structure Line where
  number : Nat
  source : String
  parsed : Except InvalidInteger Command

namespace Command

/-- The word that stands for the kind of a command. -/
def tag : Command → String
  | .typeText _ => "type_text"
  | .pressKey _ _ => "press_key"
  | .combo _ => "combo"
  | .delay _ => "delay"
  | .defaultDelay _ => "default_delay"
  | .comment => "comment"
  | .unsupported _ _ => "unsupported"

/-- The argument of a command, if its kind has one. -/
def argument : Command → Option Json
  | .typeText text => some (.text text)
  | .pressKey name modifiers =>
    some (.object [("name", .text name), ("modifiers", .number modifiers.bits.toNat)])
  | .combo names => some (.list (names.map .text))
  | .delay ms => some (.number ms)
  | .defaultDelay ms => some (.number ms)
  | .comment => none
  | .unsupported keyword argument =>
    some (.object [("keyword", .text keyword), ("argument", .text argument)])

def toJson (command : Command) : Json :=
  .object (("command", .text command.tag) ::
    (command.argument.toList.map fun value => ("argument", value)))

end Command
end KeyGadget.Script
