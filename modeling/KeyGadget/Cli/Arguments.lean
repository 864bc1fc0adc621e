/-!
# Arguments of the program

The arguments are options, the name of a task, and what the task works on. The first word that is no
option decides: it is the name of a task, or else the arguments from there on are text to type. The
options for the files of the program may stand before the name of a task or behind it; of two that
say the same the inner one holds, and all of them go before the environment.

Arguments are read level by level: those of the program, those of a task, and for the library those
of an action. A level that takes free text takes everything from the first word on. Behind the word
for help there are only names, which lead down to the level that help is wanted on.
-/
namespace KeyGadget.Cli

/-- What the program is asked to do. -/
inductive Task
  | shell
  | type (words : List String)
  | key (name : String)
  | combo (tokens : List String)
  | runFile (file : String) (json : Bool)
  | runSaved (script : String) (json : Bool)
  | check (file : String)
  | list
  | showScript (name : String)
  | save (name file : String)
  | delete (name : String)
  deriving DecidableEq, Repr

/-- A task, and where the configuration and the device are, as far as that is said. -/
structure Invocation where
  config : Option String
  device : Option String
  task : Task
  deriving DecidableEq, Repr

/-- Why there is no task. -/
inductive Refusal
  | usage
  | help
  | version
  deriving DecidableEq, Repr

/-- What the environment says about the files of the program. -/
structure Environment where
  config : Option String
  device : Option String
  deriving DecidableEq, Repr

namespace Arguments

/-- An option with a value. -/
inductive Setting
  | config
  | device
  deriving DecidableEq, Repr

/-- What a word is for. -/
inductive Place
  | text
  | file
  deriving DecidableEq, Repr

/-- Whether a word may stand at a place. The name of a file must not be empty. -/
def Place.accepts (place : Place) (word : String) : Bool :=
  match place with
  | .text => true
  | .file => !word.isEmpty

/-- Whether there is a place for each word. -/
def fits : List Place → List String → Bool
  | _, [] => true
  | [], _ :: _ => false
  | place :: places, word :: words => place.accepts word && fits places words

/-- What the arguments of a level may be. -/
structure Level where
  /-- Whether words may look like options. -/
  free : Bool
  /-- The places for words, if their number is limited. -/
  places : Option (List Place)
  /-- Whether a result may be asked for as JSON. -/
  json : Bool
  /-- Whether the version may be asked for. -/
  version : Bool
  /-- The words that lead to a level below. -/
  names : List String

/-- What the arguments of a level say. -/
structure Given where
  config : Option String
  device : Option String
  json : Bool
  words : List String

/-- What an argument looks like at a level. -/
inductive Shape
  /-- All that follows are words. -/
  | rest
  /-- An option whose value is attached to it or comes next. -/
  | setting (setting : Setting) (attached : Option String)
  | json
  | help
  | version
  | word
  | unknown

/-- What a long option looks like, given its name and what is attached to it. -/
def longShape (level : Level) (name : String) (attached : Option String) : Shape :=
  let flag (shape : Shape) : Shape := if attached.isSome then .unknown else shape
  if name == "config" then .setting .config attached
  else if name == "device" then .setting .device attached
  else if name == "json" && level.json then flag .json
  else if name == "help" then flag .help
  else if name == "version" && level.version then flag .version
  else if level.free then .word
  else .unknown

def isShort (level : Level) (c : Char) : Bool :=
  c == 'h' || (c == 'V' && level.version)

/-- What letters behind a dash look like. -/
def shortShape (level : Level) (letters : List Char) : Shape :=
  if level.free && letters.any fun c => !isShort level c then .word
  else
    match letters.head? with
    | some 'h' => .help
    | some 'V' => if level.version then .version else .unknown
    | _ => .unknown

/-- The name of a long option and what is attached to it. -/
def splitAttached : List Char → List Char × Option (List Char)
  | [] => ([], none)
  | '=' :: rest => ([], some rest)
  | c :: rest =>
    let (name, attached) := splitAttached rest
    (c :: name, attached)

def shape (level : Level) (argument : String) : Shape :=
  match argument.toList with
  | '-' :: '-' :: [] => .rest
  | '-' :: '-' :: long =>
    let (name, attached) := splitAttached long
    longShape level (String.ofList name) (attached.map String.ofList)
  | '-' :: c :: letters => shortShape level (c :: letters)
  | _ => .word

/-- What is given with words added, if there are places for them. -/
def Given.addWords (level : Level) (given : Given) (words : List String) : Except Refusal Given :=
  let all := given.words ++ words
  if level.places.all (fits · all) then .ok { given with words := all } else .error .usage

/-- What is given with an option set. It must not be set yet, and not to nothing. -/
def Given.set (given : Given) (setting : Setting) (value : String) : Except Refusal Given :=
  if value.isEmpty then .error .usage
  else
    match setting with
    | .config =>
      if given.config.isSome then .error .usage else .ok { given with config := some value }
    | .device =>
      if given.device.isSome then .error .usage else .ok { given with device := some value }

/-- Reads the arguments of a level up to the name of a level below. `awaiting` is the option whose
value comes next. -/
def read (level : Level) (awaiting : Option Setting) (given : Given) :
    List String → Except Refusal (Given × Option (String × List String))
  | [] => if awaiting.isSome then .error .usage else .ok (given, none)
  | argument :: rest =>
    if level.free && !given.words.isEmpty then
      (given.addWords level (argument :: rest)).map (·, none)
    else if awaiting.isNone && given.words.isEmpty && level.names.contains argument then
      .ok (given, some (argument, rest))
    else
      match shape level argument, awaiting with
      | .word, some setting =>
        match given.set setting argument with
        | .ok given => read level none given rest
        | .error refusal => .error refusal
      | .word, none =>
        match given.addWords level [argument] with
        | .ok given => read level none given rest
        | .error refusal => .error refusal
      | _, some _ => .error .usage
      | .rest, none => (given.addWords level rest).map (·, none)
      | .setting setting (some value), none =>
        match given.set setting value with
        | .ok given => read level none given rest
        | .error refusal => .error refusal
      | .setting setting none, none => read level (some setting) given rest
      | .json, none =>
        if given.json then .error .usage else read level none { given with json := true } rest
      | .help, none => .error .help
      | .version, none => .error .version
      | .unknown, none => .error .usage

def readLevel (level : Level) (arguments : List String) :
    Except Refusal (Given × Option (String × List String)) :=
  read level none ⟨none, none, false, []⟩ arguments

/-- The level of a task that takes words at some places. -/
def plainLevel (places : List Place) : Level := ⟨false, some places, false, false, []⟩

def taskNames : List String :=
  ["type", "key", "combo", "ducky", "run", "check", "scripts", "shell", "help"]

def actionNames : List String := ["list", "show", "save", "delete", "help"]

def programLevel : Level := ⟨true, none, false, true, taskNames⟩

def taskLevel (name : String) : Level :=
  match name with
  | "type" => ⟨true, none, false, false, []⟩
  | "combo" => ⟨false, none, false, false, []⟩
  | "ducky" => ⟨false, some [.file], true, false, []⟩
  | "run" => ⟨false, some [.text], true, false, []⟩
  | "check" => plainLevel [.file]
  | "scripts" => ⟨false, some [], false, false, actionNames⟩
  | "shell" => plainLevel []
  | _ => plainLevel [.text]

def actionLevel (name : String) : Level :=
  match name with
  | "list" => plainLevel []
  | "save" => plainLevel [.text, .file]
  | _ => plainLevel [.text]

def taskOf (name : String) (given : Given) : Except Refusal Task :=
  match name, given.words with
  | "type", word :: words => .ok (.type (word :: words))
  | "key", [name] => .ok (.key name)
  | "combo", token :: tokens => .ok (.combo (token :: tokens))
  | "ducky", [file] => .ok (.runFile file given.json)
  | "run", [script] => .ok (.runSaved script given.json)
  | "check", [file] => .ok (.check file)
  | "shell", [] => .ok .shell
  | _, _ => .error .usage

/-- The action on the library with a name, given its arguments. -/
def actionOf (name : String) (given : Given) : Except Refusal Task :=
  match name, given.words with
  | "list", [] => .ok .list
  | "show", [name] => .ok (.showScript name)
  | "save", [name, file] => .ok (.save name file)
  | "delete", [name] => .ok (.delete name)
  | _, _ => .error .usage

/-- What holds of one setting, given what each level says about it, the innermost level last, and
what the environment says. A level that says nothing asks the environment, which must then not say
nothing at all. -/
def settle (said : List (Option String)) (environment : Option String) :
    Except Refusal (Option String) :=
  if environment = some "" && said.any Option.isNone then .error .usage
  else .ok ((said.filterMap id).getLast?.or environment)

/-- The invocation for a task, given what each level says, the innermost level last. -/
def invocation (environment : Environment) (levels : List Given) (task : Task) :
    Except Refusal Invocation := do
  let config ← settle (levels.map (·.config)) environment.config
  let device ← settle (levels.map (·.device)) environment.device
  return ⟨config, device, task⟩

def leadsToLevel : List String → Bool
  | [] => true
  | [task] => taskNames.contains task
  | ["scripts", action] => actionNames.contains action
  | _ => false

/-- What comes of asking for the help of a level by the names that lead to it. -/
def helpOn (names : List String) : Refusal :=
  if leadsToLevel names then .help else .usage

/-- Reads the arguments of the program. -/
def parse (environment : Environment) (arguments : List String) : Except Refusal Invocation := do
  let (program, next) ← readLevel programLevel arguments
  match next with
  | none =>
    let task := if program.words.isEmpty then Task.shell else .type program.words
    invocation environment [program] task
  | some ("help", names) => .error (helpOn names)
  | some (name, rest) =>
    let (given, next) ← readLevel (taskLevel name) rest
    match next with
    | none => invocation environment [program, given] (← taskOf name given)
    | some ("help", names) => .error (helpOn (name :: names))
    | some (action, rest) =>
      let (inner, _) ← readLevel (actionLevel action) rest
      invocation environment [program, given, inner] (← actionOf action inner)

end Arguments
end KeyGadget.Cli
