import KeyGadget.Files.Path
import KeyGadget.Library.Name

/-!
# The library of scripts

Scripts that are kept under names in a directory. The directory is created when the first script is
saved; until then the library is empty. A script is found under the last part of a name, as it is or
with the extension added.
-/
namespace KeyGadget

structure Library where
  root : String
  deriving DecidableEq, Repr

namespace Library

/-- A script as it is listed. -/
structure Listed where
  name : String
  size : Nat
  deriving DecidableEq, Repr

/-- Whether a member of the directory is listed: a file with the extension that is not hidden. -/
def isListed (member : Member) : Bool :=
  let name := member.name.toList
  member.isFile && name.head? != some '.' && extension.isSuffixOf name

/-- The name of a script in full lowercase. -/
def Listed.folded (entry : Listed) : String :=
  String.ofList (Text.lowercase entry.name.toList)

/-- What scripts are sorted by: the name in lower case, and nothing else. -/
def precedes (a b : Listed) : Bool :=
  a.folded ≤ b.folded

/-- The scripts among the members of a directory, sorted. Scripts with the same name in lower case
stay in the order in which the directory tells of them. -/
def scriptsOf (members : List Member) : List Listed :=
  ((members.filter isListed).map fun member => (⟨member.name, member.size⟩ : Listed)).mergeSort
    precedes

/-- The paths under which a script with a name is looked for. -/
def candidates (library : Library) (base : List Char) : List String :=
  [Path.join library.root (String.ofList base),
    Path.join library.root (String.ofList (base ++ extension))]

variable {m : Type → Type} [Monad m]

/-- The first path that leads to a file. -/
def firstFile (files : Files m) : List String → m (Option String)
  | [] => pure none
  | path :: rest => do
    if ← files.isFile path then pure (some path) else firstFile files rest

def locate (library : Library) (files : Files m) (name : String) : m (Except Failure String) :=
  match baseName name.toList with
  | none => pure (.error (.invalidName name))
  | some base => do
    match ← firstFile files (library.candidates base) with
    | some path => pure (.ok path)
    | none => pure (.error (.notFound (String.ofList base)))

def list (library : Library) (files : Files m) : m (Except Failure (List Listed)) := do
  match ← files.list library.root with
  | .ok members => pure (.ok (scriptsOf members))
  | .error .missing => pure (.ok [])
  | .error error => pure (.error (.inaccessible library.root error))

def load (library : Library) (files : Files m) (name : String) : m (Except Failure String) := do
  match ← library.locate files name with
  | .error failure => pure (.error failure)
  | .ok path =>
    match ← files.readText path with
    | .ok text => pure (.ok text)
    | .error error => pure (.error (.inaccessible path error))

/-- Stores a text as a script, and tells the name under which it is stored. -/
def save (library : Library) (files : Files m) (name text : String) :
    m (Except Failure String) := do
  match storedName name with
  | .error failure => pure (.error failure)
  | .ok stored =>
    match ← files.makeDirectories library.root with
    | .error error => pure (.error (.inaccessible library.root error))
    | .ok () =>
      let path := Path.join library.root stored
      match ← files.write path text.toUTF8 with
      | .ok () => pure (.ok stored)
      | .error error => pure (.error (.inaccessible path error))

def delete (library : Library) (files : Files m) (name : String) : m (Except Failure Unit) := do
  match ← library.locate files name with
  | .error failure => pure (.error failure)
  | .ok path =>
    match ← files.remove path with
    | .ok () => pure (.ok ())
    | .error error => pure (.error (.inaccessible path error))

end Library
end KeyGadget
