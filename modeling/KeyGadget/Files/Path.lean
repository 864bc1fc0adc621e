import KeyGadget.Text.Blank

/-!
# Paths

A path is a text in which slashes stand between the names. It starts at the root if its first
character is a slash, and elsewhere otherwise.
-/
namespace KeyGadget.Path

def join (root name : String) : String :=
  if root.isEmpty || root.toList.getLast? == some '/' then root ++ name else root ++ "/" ++ name

def isAbsolute (path : String) : Bool :=
  path.toList.head? == some '/'

/-- Whether a path ends in a slash, which asks for a directory. -/
def endsInSlash (path : String) : Bool :=
  path.toList.getLast? == some '/'

/-- The names between the slashes. -/
def names (path : String) : List String :=
  ((Text.pieces (· == '/') path.toList).filter fun name => !name.isEmpty).map String.ofList

/-- The names of a path without those that stay where they are; a first one that does is kept, for
it tells a relative path. -/
def components (path : String) : List String :=
  let names := names path
  if isAbsolute path then "/" :: names.filter (· != ".")
  else names.take 1 ++ (names.drop 1).filter (· != ".")

end KeyGadget.Path
