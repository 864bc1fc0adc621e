import KeyGadget.Keyboard.Names
import KeyGadget.Text.Blank

/-!
# Commands of the shell

The shell takes one command a line. The first word, up to a space, tells the command in any ASCII
case. A text to type is everything behind that space; other arguments lose the blanks around them.
-/
namespace KeyGadget.Shell

inductive Command
  /-- Type a text as it stands. -/
  | typeText (text : String)
  | key (name : String)
  | combo (names : List String)
  /-- Run a script from a file or from the library. -/
  | run (target : String)
  /-- Write one report on which nothing is held. -/
  | test
  | help
  | quit
  | empty
  deriving DecidableEq, Repr

inductive Mistake
  | unknownCommand (word : String)
  | missingArgument (command : String)
  deriving DecidableEq, Repr

def Mistake.message : Mistake → String
  | .unknownCommand word =>
    "unknown command " ++ Text.quoted word ++ "; type \x60help\x60 for a list"
  | .missingArgument command => "\x60" ++ command ++ "\x60 needs an argument"

def help : String :=
  "\n".intercalate [
    "Commands:",
    "  type <text>          type text verbatim",
    "  key <name>           press one key (enter, esc, f5, a, ...)",
    "  combo <tokens...>    press keys together (combo ctrl alt delete)",
    "  ducky <file|script>  run a DuckyScript file or a saved script",
    "  test                 write one empty report to the device",
    "  help                 show this help",
    "  quit | exit          leave the shell"]

/-- A line without its end and without the blanks in front. -/
def contentOf (line : List Char) : List Char :=
  Text.trimStart (Text.dropEnd (fun c => c == '\r' || c == '\n') line)

/-- An argument that must not be blank, without the blanks around it. -/
def trimmedArgument (command : String) (rest : List Char) : Except Mistake String :=
  match Text.trim rest with
  | [] => .error (.missingArgument command)
  | argument => .ok (String.ofList argument)

def namesIn (rest : List Char) : Except Mistake (List String) :=
  match Text.words rest with
  | [] => .error (.missingArgument "combo")
  | words => .ok (words.map fun word => Names.canonical (String.ofList word))

/-- The command of a word and the text behind it. -/
def readCommand (word rest : List Char) : Except Mistake Command :=
  match String.ofList (Text.asciiLower word) with
  | "type" =>
    if rest.isEmpty then .error (.missingArgument "type")
    else .ok (.typeText (String.ofList rest))
  | "key" => (trimmedArgument "key" rest).map fun name => .key (Names.canonical name)
  | "combo" => (namesIn rest).map .combo
  | "ducky" => (trimmedArgument "ducky" rest).map .run
  | "test" => .ok .test
  | "help" => .ok .help
  | "?" => .ok .help
  | "quit" => .ok .quit
  | "exit" => .ok .quit
  | lower => .error (.unknownCommand lower)

def parse (line : String) : Except Mistake Command :=
  let content := contentOf line.toList
  if content.isEmpty then .ok .empty
  else
    let (word, rest) := Text.splitFirst (· == ' ') content
    readCommand word rest

end KeyGadget.Shell
