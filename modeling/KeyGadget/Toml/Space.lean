import KeyGadget.Toml.Value

/-!
# Blanks, comments and line ends

Blanks are spaces and tabs. A line ends with LF or CRLF. A comment reaches from a number sign to the
end of its line and holds no control characters but tabs.
-/
namespace KeyGadget.Toml

def isBlank (c : Char) : Bool :=
  c == ' ' || c == '\t'

def isCommentChar (c : Char) : Bool :=
  c == '\t' || (' ' ≤ c && c ≤ '~') || 0x80 ≤ c.toNat

def skipBlanks (s : List Char) : List Char :=
  s.dropWhile isBlank

def lineEnd? : List Char → Option (List Char)
  | '\n' :: rest => some rest
  | '\r' :: '\n' :: rest => some rest
  | _ => none

/-- A text without the comment at its start. -/
def skipComment (s : List Char) : List Char :=
  match s with
  | '#' :: rest => rest.dropWhile isCommentChar
  | s => s

/-- What is behind the rest of a line that holds nothing more. The last line may lack its end. -/
def finishLine (s : List Char) : Option (List Char) :=
  match skipComment (skipBlanks s) with
  | [] => some []
  | rest => lineEnd? rest

/-- A text without the blanks, comments and line ends at its start. -/
def skipLines (inComment : Bool) : List Char → List Char
  | [] => []
  | '\n' :: rest => skipLines false rest
  | '\r' :: '\n' :: rest => skipLines false rest
  | c :: rest =>
    if inComment then if isCommentChar c then skipLines true rest else c :: rest
    else if c = '#' then skipLines true rest
    else if isBlank c then skipLines false rest
    else c :: rest

end KeyGadget.Toml
