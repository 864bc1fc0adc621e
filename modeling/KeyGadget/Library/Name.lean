import KeyGadget.Files.Access
import KeyGadget.Text.Blank
import KeyGadget.Text.Case
import KeyGadget.Text.Quoted

/-!
# Names of scripts

A library holds its scripts in one directory, so of a name only the part behind the last slash or
backslash counts. A script is stored under a name of plain characters that ends in `.txt` and does
not start with a dot; what remains of a name without the other characters is what it is stored
under.
-/
namespace KeyGadget.Library

inductive Failure
  | notFound (name : String)
  | invalidName (name : String)
  | inaccessible (path : String) (error : FileError)
  deriving DecidableEq, Repr

namespace Failure

def message : Failure → String
  | .notFound name => "script " ++ Text.quoted name ++ " not found"
  | .invalidName name => "invalid script name " ++ Text.quoted name
  | .inaccessible path error => "I/O error accessing " ++ path ++ ": " ++ error.message

/-- The reasons beneath the failure, outermost first. -/
def causes : Failure → List String
  | .inaccessible _ error => [error.message]
  | _ => []

end Failure

def isSeparator (c : Char) : Bool :=
  c == '/' || c == '\x5c'

/-- The last part of a name without the blanks around it. -/
def lastPart (name : List Char) : List Char :=
  Text.trim ((Text.pieces isSeparator name).getLastD [])

/-- The last part of a name, unless nothing is left or it would lead to a directory. -/
def baseName (name : List Char) : Option (List Char) :=
  let base := lastPart name
  if base == [] || base == ['.'] || base == ['.', '.'] then none else some base

/-- Whether a character may stand in the name of a stored script. -/
def isPlain (c : Char) : Bool :=
  c.isAlphanum || c == '_' || c == '.' || c == '-'

def extension : List Char := ['.', 't', 'x', 't']

/-- A name with the extension, unless it ends in it already, in any ASCII case. -/
def withExtension (name : List Char) : List Char :=
  if (extension.isSuffixOf (Text.asciiLower name)) then name else name ++ extension

def storedName (name : String) : Except Failure String :=
  let base := (baseName name.toList).getD []
  let plain := (base.filter isPlain).dropWhile (· == '.')
  if plain.isEmpty then .error (.invalidName name)
  else .ok (String.ofList (withExtension plain))

end KeyGadget.Library
