import KeyGadget.Toml.Number

/-!
# Moments in time

A date, a time of day, or both with a letter or a blank between them, and then perhaps the distance
to universal time.
-/
namespace KeyGadget.Toml

/-- Reads a number of so many digits that lies between two others. -/
def fixedDigits (count least most : Nat) (s : List Char) : Option (Nat × List Char) :=
  let ds := s.take count
  if ds.length = count && ds.all Char.isDigit then
    let n := Text.decimalValue ds
    if least ≤ n && n ≤ most then some (n, s.drop count) else none
  else none

def expect (c : Char) : List Char → Option (List Char)
  | d :: rest => if d = c then some rest else none
  | [] => none

def isLeap (year : Nat) : Bool :=
  year % 4 == 0 && (year % 100 != 0 || year % 400 == 0)

def daysIn (year month : Nat) : Nat :=
  if month = 2 then if isLeap year then 29 else 28
  else if month = 4 || month = 6 || month = 9 || month = 11 then 30
  else 31

def passDate (s : List Char) : Option (List Char) := do
  let (year, s) ← fixedDigits 4 0 9999 s
  let s ← expect '-' s
  let (month, s) ← fixedDigits 2 1 12 s
  let s ← expect '-' s
  let (_, s) ← fixedDigits 2 1 (daysIn year month) s
  return s

/-- Passes over fractions of a second, which may be absent. -/
def passFraction (s : List Char) : Option (List Char) :=
  match s with
  | '.' :: c :: rest => if c.isDigit then some (rest.dropWhile Char.isDigit) else none
  | '.' :: [] => none
  | rest => some rest

def passTime (s : List Char) : Option (List Char) := do
  let (_, s) ← fixedDigits 2 0 23 s
  let s ← expect ':' s
  let (_, s) ← fixedDigits 2 0 59 s
  let s ← expect ':' s
  let (_, s) ← fixedDigits 2 0 60 s
  passFraction s

/-- Passes over the distance to universal time. -/
def passOffset (s : List Char) : Option (List Char) :=
  match s with
  | [] => none
  | c :: rest =>
    if c = 'Z' || c = 'z' then some rest
    else if c = '+' || c = '-' then do
      let (_, rest) ← fixedDigits 2 0 23 rest
      let rest ← expect ':' rest
      let (_, rest) ← fixedDigits 2 0 59 rest
      return rest
    else none

/-- Passes over a time of day behind a date. -/
def passTimeOfDate (s : List Char) : Option (List Char) :=
  match s with
  | [] => none
  | c :: rest =>
    if c = 'T' || c = 't' || c = ' ' then
      (passTime rest).map fun rest => (passOffset rest).getD rest
    else none

def readMoment (s : List Char) : Option (Value × List Char) :=
  match passDate s with
  | some behind =>
    let rest := (passTimeOfDate behind).getD behind
    some (.moment (upTo s rest), rest)
  | none => (passTime s).map fun rest => (.moment (upTo s rest), rest)

end KeyGadget.Toml
