import KeyGadget.Text.Decimal
import KeyGadget.Toml.Quoted

/-!
# Numbers

Single underscores may stand between the digits of a number. A whole number has a sign, or else it
may be written in base sixteen, eight or two; it has to fit sixty-four bits with a sign. A number
with a fraction or an exponent has to be finite when it is rounded to a double, unless it is
negative.
-/
namespace KeyGadget.Toml

/-- Reads digits with single underscores between them, behind a first digit. -/
def moreDigits (isDigit : Char → Bool) : Reader (List Char)
  | '_' :: c :: rest => if isDigit c then before c (moreDigits isDigit rest) else none
  | c :: rest =>
    if isDigit c then before c (moreDigits isDigit rest)
    else if c = '_' then none
    else some ([], c :: rest)
  | [] => some ([], [])

/-- Reads digits with single underscores between them. -/
def digits (isDigit : Char → Bool) : Reader (List Char)
  | c :: rest => if isDigit c then before c (moreDigits isDigit rest) else none
  | [] => none

/-- A sign: whether it is minus, and what is behind it. Plus may be left out. -/
def sign (s : List Char) : Bool × List Char :=
  match s with
  | '-' :: rest => (true, rest)
  | '+' :: rest => (false, rest)
  | rest => (false, rest)

/-- Reads the digits of a whole number in base ten, in which no zero leads. -/
def wholeDigits : Reader (List Char)
  | '0' :: rest => some (['0'], rest)
  | s => digits Char.isDigit s

/-- One more than the largest whole number of sixty-four bits with a sign. -/
def integerBound : Nat := Nat.pow 2 63

/-- A whole number if it fits sixty-four bits with a sign. -/
def fitting (n : Int) : Option Value :=
  if -integerBound ≤ n ∧ n < integerBound then some (.integer n) else none

def valueIn (base : Nat) (digits : List Char) : Nat :=
  digits.foldl (fun value c => base * value + (hexDigit? c).getD 0) 0

/-- Reads a whole number in another base than ten, behind the letter that tells it. -/
def readBased (base : Nat) (s : List Char) : Option (Value × List Char) :=
  match digits (fun c => (hexDigit? c).any (· < base)) s with
  | some (ds, rest) => (fitting (valueIn base ds)).map (·, rest)
  | none => none

def readInteger : Reader Value
  | '0' :: 'x' :: rest => readBased 16 rest
  | '0' :: 'o' :: rest => readBased 8 rest
  | '0' :: 'b' :: rest => readBased 2 rest
  | s =>
    let (minus, unsigned) := sign s
    match wholeDigits unsigned with
    | some (ds, rest) =>
      let n : Int := Text.decimalValue ds
      (fitting (if minus then -n else n)).map (·, rest)
    | none => none

/-- The least number that is rounded to infinity. -/
def doubleLimit : Nat := Nat.pow 2 1024 - Nat.pow 2 970

/-- Whether digits times a power of ten are rounded to infinity. Numbers that are far from the limit
are told by their number of digits. -/
def isInfinite (digits : List Char) (exponent : Int) : Bool :=
  let significant := digits.dropWhile (· = '0')
  let top : Int := significant.length + exponent
  if significant.isEmpty || top < 300 then false
  else if 310 < top then true
  else
    let n := Text.decimalValue significant
    if 0 ≤ exponent then doubleLimit ≤ n * Nat.pow 10 exponent.toNat
    else doubleLimit * Nat.pow 10 (-exponent).toNat ≤ n

/-- Reads a fraction, which may be absent. -/
def fraction (s : List Char) : Option (List Char × List Char) :=
  match s with
  | '.' :: rest => digits Char.isDigit rest
  | rest => some ([], rest)

/-- Reads an exponent, which may be absent. -/
def exponent (s : List Char) : Option (Int × List Char) :=
  match s with
  | c :: rest =>
    if c = 'e' || c = 'E' then
      let (minus, unsigned) := sign rest
      match digits Char.isDigit unsigned with
      | some (ds, rest) =>
        let n : Int := Text.decimalValue ds
        some (if minus then -n else n, rest)
      | none => none
    else some (0, s)
  | [] => some (0, [])

/-- The start of a text up to the rest of it. -/
def upTo (s rest : List Char) : String :=
  String.ofList (s.take (s.length - rest.length))

/-- Reads a number that is spelled out: infinite or none. -/
def readSpelled (s : List Char) : Option (Value × List Char) :=
  match (sign s).2 with
  | 'i' :: 'n' :: 'f' :: rest => some (.float (upTo s rest), rest)
  | 'n' :: 'a' :: 'n' :: rest => some (.float (upTo s rest), rest)
  | _ => none

def readFloat (s : List Char) : Option (Value × List Char) :=
  let (minus, unsigned) := sign s
  match wholeDigits unsigned with
  | none => readSpelled s
  | some (whole, behind) =>
    match fraction behind with
    | none => none
    | some (part, behindPart) =>
      match exponent behindPart with
      | none => none
      | some (power, rest) =>
        if rest.length = behind.length then none
        else if !minus && isInfinite (whole ++ part) (power - part.length) then none
        else some (.float (upTo s rest), rest)

end KeyGadget.Toml
