/-!
# Values of a configuration file

A file in the TOML format is a table of values under keys. How a table came about is kept with it,
for that decides what later lines may add to it. Numbers with a fraction and moments in time are
kept as they are written.
-/
namespace KeyGadget.Toml

inductive Origin
  /-- It was written between braces, and is complete. -/
  | inline
  /-- It has a header of its own. -/
  | header
  /-- It lies on the way to a table that has a header. -/
  | implied
  /-- It lies on the way to a key with dots. -/
  | dotted
  deriving DecidableEq, Repr

inductive Value
  | text (value : String)
  | integer (value : Int)
  | float (literal : String)
  | boolean (value : Bool)
  | moment (literal : String)
  | array (items : List Value)
  | table (origin : Origin) (entries : List (String × Value))
  /-- Tables that have one header each under the same key. -/
  | tables (elements : List (List (String × Value)))
  deriving Repr

abbrev Entries := List (String × Value)

/-- A key with dots: the keys of the tables that lead to it, and the last part. -/
structure KeyPath where
  above : List String
  last : String
  deriving DecidableEq, Repr

/-- What reads a value from the start of a text, and leaves the rest. -/
abbrev Reader (α : Type) := List Char → Option (α × List Char)

end KeyGadget.Toml
