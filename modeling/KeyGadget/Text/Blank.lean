/-!
# Blank characters, pieces, words and lines

Texts are taken apart as lists of characters. Everything here loses only what it is asked to drop:
the blank ends of a text, the characters that separate pieces, and the ends of lines.
-/
namespace KeyGadget.Text

/-- The characters with the property `White_Space`. -/
def isBlank (c : Char) : Bool :=
  let n := c.toNat
  (0x09 ≤ n && n ≤ 0x0D) || n == 0x20 || n == 0x85 || n == 0xA0 || n == 0x1680 ||
    (0x2000 ≤ n && n ≤ 0x200A) || n == 0x2028 || n == 0x2029 || n == 0x202F || n == 0x205F ||
    n == 0x3000

/-- A text without the characters at its end that satisfy `p`. -/
def dropEnd (p : Char → Bool) (s : List Char) : List Char :=
  (s.reverse.dropWhile p).reverse

def trimStart (s : List Char) : List Char :=
  s.dropWhile isBlank

/-- A text without blanks at either end. -/
def trim (s : List Char) : List Char :=
  dropEnd isBlank (trimStart s)

/-- The pieces of a text between the characters that satisfy `p`; there is always one more piece
than there are such characters. -/
def pieces (p : Char → Bool) : List Char → List (List Char)
  | [] => [[]]
  | c :: rest =>
    if p c then [] :: pieces p rest
    else
      match pieces p rest with
      | [] => [[c]]
      | piece :: others => (c :: piece) :: others

theorem pieces_ne_nil (p : Char → Bool) (s : List Char) : pieces p s ≠ [] := by
  cases s with
  | nil => simp [pieces]
  | cons c rest =>
    simp only [pieces]
    split
    · simp
    · split <;> simp

/-- A separator ends the last piece before it and starts the first piece behind it. -/
theorem pieces_append_cons (p : Char → Bool) (s t : List Char) (c : Char) (separates : p c = true) :
    pieces p (s ++ c :: t) = pieces p s ++ pieces p t := by
  induction s with
  | nil => simp [pieces, separates]
  | cons d rest ih =>
    simp only [List.cons_append, pieces, ih]
    split
    · simp
    · cases h : pieces p rest with
      | nil => exact absurd h (pieces_ne_nil p rest)
      | cons piece others => simp

def words (s : List Char) : List (List Char) :=
  (pieces isBlank s).filter fun word => !word.isEmpty

/-- The text before the first character that satisfies `p` and the text after it. -/
def splitFirst (p : Char → Bool) : List Char → List Char × List Char
  | [] => ([], [])
  | c :: rest =>
    if p c then ([], rest)
    else
      let (before, after) := splitFirst p rest
      (c :: before, after)

/-- A line without the carriage return that belongs to its end. -/
def dropReturn (line : List Char) : List Char :=
  if line.getLast? = some '\r' then line.dropLast else line

/-- The lines of a text. A line ends with LF or CRLF; the last one may lack its end, and then a
carriage return there is part of the line. -/
def lines (s : List Char) : List (List Char) :=
  let all := pieces (· == '\n') s
  all.dropLast.map dropReturn ++ (all.getLast?.toList.filter fun line => !line.isEmpty)

end KeyGadget.Text
