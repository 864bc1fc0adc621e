import KeyGadget.Toml.Space

/-!
# Texts between quotes

A text stands between double quotes, with escapes, or between single quotes, as it is. Between three
quotes of a kind it may run over several lines; then a line end right behind the opening quotes does
not count, one or two of the quotes may stand in the text, also right before its end, and between
double quotes a backslash at the end of a line joins it to the next character that is not blank.
-/
namespace KeyGadget.Toml

def hexDigit? (c : Char) : Option Nat :=
  if c.isDigit then some (c.toNat - '0'.toNat)
  else if 'a' ≤ c && c ≤ 'f' then some (c.toNat - 'a'.toNat + 10)
  else if 'A' ≤ c && c ≤ 'F' then some (c.toNat - 'A'.toNat + 10)
  else none

def hexValue? (digits : List Char) : Option Nat :=
  digits.foldlM (fun value c => (hexDigit? c).map (16 * value + ·)) 0

/-- The character whose code point is written in hexadecimal. -/
def codePoint? (digits : List Char) : Option Char :=
  match hexValue? digits with
  | some n => if n.isValidChar then some (Char.ofNat n) else none
  | none => none

/-- The character that a letter stands for behind a backslash. -/
def shortEscape? : Char → Option Char
  | 'b' => some '\x08'
  | 't' => some '\t'
  | 'n' => some '\n'
  | 'f' => some '\x0c'
  | 'r' => some '\r'
  | '\x22' => some '\x22'
  | '\x5c' => some '\x5c'
  | _ => none

/-- The character that is written behind a backslash, and how many characters it takes. -/
def escape? (s : List Char) : Option (Char × Nat) :=
  match s with
  | 'u' :: rest => if rest.length < 4 then none else (codePoint? (rest.take 4)).map (·, 5)
  | 'U' :: rest => if rest.length < 8 then none else (codePoint? (rest.take 8)).map (·, 9)
  | c :: _ => (shortEscape? c).map (·, 1)
  | [] => none

/-- A read character in front of what is read after it. -/
def before (c : Char) (read : Option (List Char × List Char)) : Option (List Char × List Char) :=
  read.map fun (text, rest) => (c :: text, rest)

/-- Reads to the closing double quote; the first `skip` characters belong to an escape. -/
def basicText (skip : Nat) : Reader (List Char)
  | [] => none
  | c :: rest =>
    if 0 < skip then basicText (skip - 1) rest
    else if c = '\x22' then some ([], rest)
    else if c = '\x5c' then
      match escape? rest with
      | some (escaped, length) => before escaped (basicText length rest)
      | none => none
    else if isCommentChar c then before c (basicText 0 rest)
    else none

def literalText : Reader (List Char)
  | [] => none
  | c :: rest =>
    if c = '\x27' then some ([], rest)
    else if isCommentChar c then before c (literalText rest)
    else none

/-- The text in quotes that ends here, and what is behind it: three quotes end a text, and up to two
more in front of them belong to it. -/
def closing? (quote : Char) (s : List Char) : Option (List Char × List Char) :=
  match (s.takeWhile (· = quote)).length with
  | 0 => none
  | 1 => none
  | 2 => none
  | 3 => some ([], s.drop 3)
  | 4 => some ([quote], s.drop 4)
  | _ => some ([quote, quote], s.drop 5)

/-- What is being passed over in a text of several lines. -/
inductive Passing
  | nothing
  | escape (length : Nat)
  /-- Blanks and line ends behind a backslash. -/
  | space
  deriving DecidableEq, Repr

def endsLine (s : List Char) : Bool :=
  (lineEnd? (skipBlanks s)).isSome

/-- Reads to the closing three double quotes. -/
def basicLines (passing : Passing) : Reader (List Char)
  | [] => none
  | '\r' :: '\n' :: rest =>
    match passing with
    | .space => basicLines .space rest
    | _ => before '\n' (basicLines .nothing rest)
  | c :: rest =>
    match passing with
    | .escape (length + 1) => basicLines (.escape length) rest
    | _ =>
      if passing = .space && (isBlank c || c = '\n') then basicLines .space rest
      else
        match closing? '\x22' (c :: rest) with
        | some closed => some closed
        | none =>
          if c = '\x5c' then
            if endsLine rest then basicLines .space rest
            else
              match escape? rest with
              | some (escaped, length) => before escaped (basicLines (.escape length) rest)
              | none => none
          else if c = '\n' || isCommentChar c then before c (basicLines .nothing rest)
          else none

/-- Reads to the closing three single quotes. -/
def literalLines : Reader (List Char)
  | [] => none
  | '\r' :: '\n' :: rest => before '\n' (literalLines rest)
  | c :: rest =>
    match closing? '\x27' (c :: rest) with
    | some closed => some closed
    | none =>
      if c = '\n' || isCommentChar c then before c (literalLines rest)
      else none

/-- A text without the line end at its start. -/
def skipLineEnd (s : List Char) : List Char :=
  (lineEnd? s).getD s

/-- Reads a text between quotes that stays on its line. -/
def readShort : Reader String
  | '\x22' :: rest => (basicText 0 rest).map fun (text, rest) => (String.ofList text, rest)
  | '\x27' :: rest => (literalText rest).map fun (text, rest) => (String.ofList text, rest)
  | _ => none

/-- Reads a text between quotes of any kind. -/
def readQuoted : Reader String
  | '\x22' :: '\x22' :: '\x22' :: rest =>
    (basicLines .nothing (skipLineEnd rest)).map fun (text, rest) => (String.ofList text, rest)
  | '\x27' :: '\x27' :: '\x27' :: rest =>
    (literalLines (skipLineEnd rest)).map fun (text, rest) => (String.ofList text, rest)
  | s => readShort s

end KeyGadget.Toml
