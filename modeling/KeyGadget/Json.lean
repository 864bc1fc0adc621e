/-!
# JSON values and their indented form

Reports and commands are handed out as JSON. Objects keep their members in the order they were
given, and numbers are whole.
-/
namespace KeyGadget

/-- A JSON value; the members of an object are in order. -/
inductive Json
  | null
  | bool (value : Bool)
  | number (value : Nat)
  | text (value : String)
  | list (items : List Json)
  | object (members : List (String × Json))
  deriving Repr

namespace Json

/-- Lowercase hexadecimal of four places. -/
def hexFour (n : Nat) : List Char :=
  let digits := Nat.toDigits 16 n
  List.replicate (4 - digits.length) '0' ++ digits

/-- A character as it stands between the quotes of a JSON string. -/
def escapeChar (c : Char) : List Char :=
  if c = '\x22' || c = '\x5c' then ['\x5c', c]
  else if c = '\x08' then ['\x5c', 'b']
  else if c = '\t' then ['\x5c', 't']
  else if c = '\n' then ['\x5c', 'n']
  else if c = '\x0c' then ['\x5c', 'f']
  else if c = '\r' then ['\x5c', 'r']
  else if c.toNat < 0x20 then ['\x5c', 'u'] ++ hexFour c.toNat
  else [c]

def quote (s : String) : String :=
  String.ofList (['\x22'] ++ s.toList.flatMap escapeChar ++ ['\x22'])

/-- The start of a line at a depth of nesting: two blanks for each level. -/
def newLine (depth : Nat) : String :=
  String.ofList ('\n' :: List.replicate (2 * depth) ' ')

mutual

/-- The indented form of a value that stands at a depth of nesting. -/
def prettyAt (depth : Nat) : Json → String
  | .null => "null"
  | .bool value => if value then "true" else "false"
  | .number value => Nat.repr value
  | .text value => quote value
  | .list [] => "[]"
  | .list items => "[" ++ prettyItems (depth + 1) items ++ newLine depth ++ "]"
  | .object [] => "\x7b\x7d"
  | .object members => "\x7b" ++ prettyMembers (depth + 1) members ++ newLine depth ++ "\x7d"

/-- The items of a list, each on a line of its own. -/
def prettyItems (depth : Nat) : List Json → String
  | [] => ""
  | [item] => newLine depth ++ prettyAt depth item
  | item :: items => newLine depth ++ prettyAt depth item ++ "," ++ prettyItems depth items

/-- The members of an object, each on a line of its own. -/
def prettyMembers (depth : Nat) : List (String × Json) → String
  | [] => ""
  | [(name, value)] => newLine depth ++ quote name ++ ": " ++ prettyAt depth value
  | (name, value) :: members =>
    newLine depth ++ quote name ++ ": " ++ prettyAt depth value ++ "," ++
      prettyMembers depth members

end

def pretty (value : Json) : String :=
  prettyAt 0 value

end Json
end KeyGadget
