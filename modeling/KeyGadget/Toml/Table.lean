import KeyGadget.Toml.Value

/-!
# Building tables

A key is defined once. A key with dots may add to tables that came about by keys with dots, and the
header of a table may only name a table that no line has filled yet; a header in double brackets
adds an element to the tables under its key. What is on the way to a header or to a key with dots
comes about by the way; of tables with one header each the last one is meant.
-/
namespace KeyGadget.Toml

namespace Entries

/-- The entries with a value under a key that is not defined yet. -/
def add (entries : Entries) (key : String) (value : Value) : Option Entries :=
  if (entries.lookup key).isSome then none else some (entries ++ [(key, value)])

/-- The entries with another value under a key. -/
def replace (entries : Entries) (key : String) (value : Value) : Entries :=
  entries.map fun entry => if entry.1 == key then (key, value) else entry

/-- The entries with a value under a key, whether or not it is defined. -/
def put (entries : Entries) (key : String) (value : Value) : Entries :=
  if (entries.lookup key).isSome then entries.replace key value else entries ++ [(key, value)]

/-- Adds a value below a table with some origin, under the last part of a key with dots. A table
that came about otherwise than by such keys takes none. -/
def addBelow (origin : Origin) (entries : Entries) (key : String) (value : Value) :
    List String → Option Entries
  | [] => if origin = .dotted then entries.add key value else none
  | first :: path =>
    match entries.lookup first with
    | none =>
      (addBelow .dotted [] key value path).map fun inner => entries.put first (.table .dotted inner)
    | some (.table .dotted inner) =>
      (addBelow .dotted inner key value path).map fun inner =>
        entries.put first (.table .dotted inner)
    | some (.table .implied inner) =>
      (addBelow .implied inner key value path).map fun inner =>
        entries.put first (.table .implied inner)
    | some (.tables elements) =>
      match elements.getLast? with
      | none => none
      | some last =>
        (addBelow .header last key value path).map fun changed =>
          entries.put first (.tables (elements.dropLast ++ [changed]))
    | some _ => none

def addPair (entries : Entries) (pair : KeyPath × Value) : Option Entries :=
  match pair.1.above with
  | [] => entries.add pair.1.last pair.2
  | above => entries.addBelow .header pair.1.last pair.2 above

def addPairs (entries : Entries) (pairs : List (KeyPath × Value)) : Option Entries :=
  pairs.foldlM addPair entries

/-- Changes what is under the key of a header. -/
def change (f : Option Value → Option Value) (key : String) (entries : Entries) :
    List String → Option Entries
  | [] => (f (entries.lookup key)).map (entries.put key)
  | first :: path =>
    match entries.lookup first with
    | none =>
      (change f key [] path).map fun inner => entries.put first (.table .implied inner)
    | some (.table .inline _) => none
    | some (.table origin inner) =>
      (change f key inner path).map fun inner => entries.put first (.table origin inner)
    | some (.tables elements) =>
      match elements.getLast? with
      | none => none
      | some last =>
        (change f key last path).map fun changed =>
          entries.put first (.tables (elements.dropLast ++ [changed]))
    | some _ => none

end Entries

/-- What starts a section of the file. -/
structure Header where
  key : KeyPath
  /-- Whether the section is one of several tables under the key. -/
  isElement : Bool

/-- A header and the pairs of keys and values up to the next one. -/
structure Section where
  header : Header
  pairs : List (KeyPath × Value)

/-- What stands under the key of a section, given what stood there before it. -/
def Section.valueAfter (part : Section) (old : Option Value) : Option Value :=
  if part.header.isElement then
    match old with
    | none => (Entries.addPairs [] part.pairs).map fun element => .tables [element]
    | some (.tables elements) =>
      (Entries.addPairs [] part.pairs).map fun element => .tables (elements ++ [element])
    | some _ => none
  else
    match old with
    | none => (Entries.addPairs [] part.pairs).map (.table .header)
    | some (.table .implied inner) => (Entries.addPairs inner part.pairs).map (.table .header)
    | some _ => none

/-- The entries of a file with one more section. -/
def Entries.addSection (entries : Entries) (part : Section) : Option Entries :=
  entries.change part.valueAfter part.header.key.last part.header.key.above

end KeyGadget.Toml
