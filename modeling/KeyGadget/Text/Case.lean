import KeyGadget.Text.CaseTable

/-!
# Case

ASCII case, which leaves every other character alone, and full lowercase. Full lowercase is a map on
characters but for two letters: the dotted capital I becomes two characters, and a capital sigma
becomes a final sigma where it ends a word.
-/
namespace KeyGadget.Text

def asciiUpper (s : List Char) : List Char :=
  s.map Char.toUpper

def asciiLower (s : List Char) : List Char :=
  s.map Char.toLower

def sameAsciiCase (s t : List Char) : Bool :=
  asciiLower s == asciiLower t

/-- The lowercase of a character that stands alone. -/
def lowerChar (c : Char) : List Char :=
  if c.toNat < 0x80 then [c.toLower]
  else if c.toNat = 0x130 then ['i', '\u0307']
  else
    match lowerRuns.find? (·.covers c.toNat) with
    | some run => [Char.ofNat (run.target + (c.toNat - run.first))]
    | none => [c]

/-- Whether the first character that bears on case, if there is one, has case. -/
def meetsCased (s : List Char) : Bool :=
  match s.dropWhile (inRanges caseIgnorableRanges) with
  | [] => false
  | c :: _ => inRanges casedRanges c

/-- Full lowercase of what follows `before`, which is given last character first. A capital sigma is
final if a cased letter comes before it and none after it. -/
def lowerAfter (before : List Char) : List Char → List Char
  | [] => []
  | c :: rest =>
    let lowered :=
      if c.toNat = 0x3A3 then
        [if meetsCased before && !meetsCased rest then '\u03C2' else '\u03C3']
      else lowerChar c
    lowered ++ lowerAfter (c :: before) rest

def lowercase (s : List Char) : List Char :=
  lowerAfter [] s

end KeyGadget.Text
