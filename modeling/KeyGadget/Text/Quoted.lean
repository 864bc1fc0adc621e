import KeyGadget.Text.PrintTable

/-!
# Quoted text

How names are shown in messages: between double quotes, with a backslash before quotes and
backslashes, short escapes for four controls, and the code point of every other character that would
not show or that would join with its neighbour.
-/
namespace KeyGadget.Text

/-- The code point of a character in lowercase hexadecimal between braces. -/
def codePointEscape (c : Char) : List Char :=
  ['\x5c', 'u', '\x7b'] ++ Nat.toDigits 16 c.toNat ++ ['\x7d']

/-- Whether a character would not show or would join with the one before it. -/
def isHidden (c : Char) : Bool :=
  inRanges unprintableRanges c || inRanges extenderRanges c || inRanges fillerRanges c

def escapeChar (c : Char) : List Char :=
  if c = '\x00' then ['\x5c', '0']
  else if c = '\t' then ['\x5c', 't']
  else if c = '\n' then ['\x5c', 'n']
  else if c = '\r' then ['\x5c', 'r']
  else if c = '\x22' || c = '\x5c' then ['\x5c', c]
  else if 0x20 ≤ c.toNat && c.toNat < 0x7F then [c]
  else if isHidden c then codePointEscape c
  else [c]

/-- A text between double quotes with what cannot be shown escaped. -/
def quoted (s : String) : String :=
  String.ofList (['\x22'] ++ s.toList.flatMap escapeChar ++ ['\x22'])

end KeyGadget.Text
