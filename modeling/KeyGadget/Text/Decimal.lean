/-!
# Whole numbers in decimal

Numbers of milliseconds are read from texts: an optional plus sign, then ASCII digits, with a value
that fits sixty-four bits. Leading zeros are allowed, a value that does not fit is refused.
-/
namespace KeyGadget.Text

def decimalValue (digits : List Char) : Nat :=
  digits.foldl (fun value c => 10 * value + (c.toNat - '0'.toNat)) 0

/-- One more than the largest number of milliseconds. -/
def decimalBound : Nat := Nat.pow 2 64

def unsignedDigits (s : List Char) : List Char :=
  match s with
  | '+' :: digits => digits
  | digits => digits

/-- Reads a whole number below `decimalBound`. -/
def readDecimal (s : List Char) : Option Nat :=
  let digits := unsignedDigits s
  if digits.isEmpty || !digits.all Char.isDigit then none
  else
    let value := decimalValue digits
    if value < decimalBound then some value else none

end KeyGadget.Text
