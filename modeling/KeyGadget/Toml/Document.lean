import KeyGadget.Toml.Moment
import KeyGadget.Toml.Table

/-!
# Reading a file

A file is a list of lines: pairs of a key and a value, headers, comments and blank lines. Arrays
may run over several lines. How deep arrays and braces lie in one another is limited, and so is the
number of parts of a key.
-/
namespace KeyGadget.Toml

/-- The least depth of arrays and braces, and the least number of parts of a key, that is too much.
-/
def depthLimit : Nat := 80

def isBareChar (c : Char) : Bool :=
  c.isAlphanum || c == '_' || c == '-'

def readPart (s : List Char) : Option (String × List Char) :=
  match s with
  | [] => none
  | c :: _ =>
    if c = '\x22' || c = '\x27' then readShort s
    else
      match s.takeWhile isBareChar with
      | [] => none
      | bare => some (String.ofList bare, s.dropWhile isBareChar)

/-- Reads the parts of a key, at most `fuel` of them. -/
def readParts : Nat → Reader (List String)
  | 0, _ => none
  | fuel + 1, s =>
    match readPart (skipBlanks s) with
    | none => none
    | some (part, behind) =>
      match skipBlanks behind with
      | '.' :: rest => (readParts fuel rest).map fun (parts, rest) => (part :: parts, rest)
      | rest => some ([part], rest)

def readKey (s : List Char) : Option (KeyPath × List Char) :=
  match readParts (depthLimit - 1) s with
  | none => none
  | some (parts, rest) => parts.getLast?.map fun last => (⟨parts.dropLast, last⟩, rest)

/-- Reads a value that does not hold others. -/
def readScalar (s : List Char) : Option (Value × List Char) :=
  match s with
  | [] => none
  | 't' :: 'r' :: 'u' :: 'e' :: rest => some (.boolean true, rest)
  | 'f' :: 'a' :: 'l' :: 's' :: 'e' :: rest => some (.boolean false, rest)
  | c :: _ =>
    if c = '\x22' || c = '\x27' then (readQuoted s).map fun (text, rest) => (.text text, rest)
    else if c.isDigit || c = '+' || c = '-' then
      (readMoment s).or ((readFloat s).or (readInteger s))
    else readSpelled s

/-- Reads the items of an array behind its opening bracket, at most `fuel` of them. -/
def readItems (item : Reader Value) : Nat → Reader (List Value)
  | 0, _ => none
  | fuel + 1, s =>
    match skipLines false s with
    | ']' :: rest => some ([], rest)
    | start =>
      match item start with
      | none => none
      | some (value, behind) =>
        match skipLines false behind with
        | ',' :: rest => (readItems item fuel rest).map fun (items, rest) => (value :: items, rest)
        | ']' :: rest => some ([value], rest)
        | _ => none

def readPair (value : Reader Value) (s : List Char) : Option ((KeyPath × Value) × List Char) :=
  match readKey s with
  | some (key, '=' :: rest) =>
    (value (skipBlanks rest)).map fun (value, rest) => ((key, value), rest)
  | _ => none

/-- Reads the pairs between braces behind the opening one, at most `fuel` of them. -/
def readPairs (value : Reader Value) : Nat → Reader (List (KeyPath × Value))
  | 0, _ => none
  | fuel + 1, s =>
    match readPair value s with
    | none => none
    | some (pair, behind) =>
      match skipBlanks behind with
      | ',' :: rest => (readPairs value fuel rest).map fun (pairs, rest) => (pair :: pairs, rest)
      | '\x7d' :: rest => some ([pair], rest)
      | _ => none

def readInline (value : Reader Value) (s : List Char) : Option (Value × List Char) :=
  match skipBlanks s with
  | '\x7d' :: rest => some (.table .inline [], rest)
  | start =>
    match readPairs value (start.length + 1) start with
    | none => none
    | some (pairs, rest) =>
      (Entries.addPairs [] pairs).map fun entries => (.table .inline entries, rest)

/-- Reads a value in which arrays and braces lie at most `depth` deep. -/
def readValue : Nat → Reader Value
  | 0, s => readScalar s
  | depth + 1, s =>
    match s with
    | '[' :: rest =>
      (readItems (readValue depth) (rest.length + 1) rest).map fun (items, rest) =>
        (.array items, rest)
    | '\x7b' :: rest => readInline (readValue depth) rest
    | s => readScalar s

/-- A line that says something. -/
inductive Statement
  | pair (pair : KeyPath × Value)
  | header (header : Header)

def readHeader (s : List Char) : Option (Header × List Char) :=
  match s with
  | '[' :: rest =>
    match readKey rest with
    | some (key, ']' :: ']' :: rest) => some (⟨key, true⟩, rest)
    | _ => none
  | s =>
    match readKey s with
    | some (key, ']' :: rest) => some (⟨key, false⟩, rest)
    | _ => none

def readStatement (s : List Char) : Option (Statement × List Char) :=
  match s with
  | '[' :: rest => do
    let (header, behind) ← readHeader rest
    let rest ← finishLine behind
    return (.header header, rest)
  | s => do
    let (pair, behind) ← readPair (readValue (depthLimit - 1)) s
    let rest ← finishLine behind
    return (.pair pair, rest)

/-- Reads statements to the end of the file, in at most `fuel` lines. -/
def readStatements : Nat → List Char → Option (List Statement)
  | 0, _ => none
  | fuel + 1, s =>
    match skipLines false s with
    | [] => some []
    | start =>
      match readStatement start with
      | none => none
      | some (statement, rest) => (readStatements fuel rest).map (statement :: ·)

/-- The pairs in front of the first header, and the sections behind them. -/
def sectionsOf : List Statement → List (KeyPath × Value) × List Section
  | [] => ([], [])
  | .pair pair :: rest =>
    let (pairs, sections) := sectionsOf rest
    (pair :: pairs, sections)
  | .header header :: rest =>
    let (pairs, sections) := sectionsOf rest
    ([], ⟨header, pairs⟩ :: sections)

/-- The table that statements define. -/
def entriesOf (statements : List Statement) : Option Entries :=
  let (pairs, sections) := sectionsOf statements
  match Entries.addPairs [] pairs with
  | none => none
  | some entries => sections.foldlM Entries.addSection entries

/-- The table that a file defines. A mark of the byte order may come first. -/
def parse (text : String) : Option Entries :=
  let s := text.toList
  let content := if s.head? = some '\uFEFF' then s.drop 1 else s
  (readStatements (content.length + 1) content).bind entriesOf

end KeyGadget.Toml
