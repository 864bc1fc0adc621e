import KeyGadget.Keyboard.Names
import KeyGadget.Script.Command
import KeyGadget.Text.Blank
import KeyGadget.Text.Decimal

/-!
# Reading a script

Blanks around a line mean nothing. A line is a comment if it starts with a number sign or with the
letters REM, whatever follows them. Otherwise its first word may be a keyword, in any ASCII case,
and what follows the blanks after it is the argument; with no keyword, the words of the line are
names of keys. Blank lines are left out of a script, but they count in the numbers of the others.
-/
namespace KeyGadget.Script

def isComment (line : List Char) : Bool :=
  line.head? == some '#' || Text.sameAsciiCase (line.take 3) ['R', 'E', 'M']

/-- The first word of a trimmed line and its argument. -/
def splitKeyword (line : List Char) : List Char × List Char :=
  let (keyword, rest) := Text.splitFirst Text.isBlank line
  (keyword, Text.trimStart rest)

/-- The number of milliseconds that a keyword takes. -/
def readMillis (keyword : String) (argument : List Char) : Except InvalidInteger Nat :=
  match Text.readDecimal argument with
  | some ms => .ok ms
  | none => .error ⟨keyword, String.ofList argument⟩

/-- The command of a line of names: one name is pressed alone, several are pressed together. -/
def keyCommand (names : List String) : Command :=
  match names.map Names.canonical with
  | [name] => .pressKey name .none
  | names => .combo names

/-- The command of a trimmed line that is neither blank nor a comment. -/
def readCommand (line : List Char) : Except InvalidInteger Command :=
  let (word, argument) := splitKeyword line
  match String.ofList (Text.asciiUpper word) with
  | "STRING" => .ok (.typeText (String.ofList argument))
  | "DELAY" => (readMillis "DELAY" argument).map .delay
  | "DEFAULT_DELAY" => (readMillis "DEFAULT_DELAY" argument).map .defaultDelay
  | "DEFAULTDELAY" => (readMillis "DEFAULTDELAY" argument).map .defaultDelay
  | "REPEAT" => .ok (.unsupported "REPEAT" (String.ofList argument))
  | _ => .ok (keyCommand ((Text.words line).map String.ofList))

/-- Reads a trimmed line; a blank one holds nothing. -/
def readTrimmed (line : List Char) : Option (Except InvalidInteger Command) :=
  if line.isEmpty then none
  else if isComment line then some (.ok .comment)
  else some (readCommand line)

/-- Reads a line; a blank one holds nothing. -/
def parseLine (line : String) : Option (Except InvalidInteger Command) :=
  readTrimmed (Text.trim line.toList)

/-- Reads lines that are numbered from `number` on. -/
def numberedLines (number : Nat) : List (List Char) → List Line
  | [] => []
  | raw :: rest =>
    let source := Text.trim raw
    match readTrimmed source with
    | some parsed => ⟨number, String.ofList source, parsed⟩ :: numberedLines (number + 1) rest
    | none => numberedLines (number + 1) rest

def parse (text : String) : List Line :=
  numberedLines 1 (Text.lines text.toList)

end KeyGadget.Script
