/-!
# Access to files

What the program needs of files, with no word on where they are: a machine has them on its disk,
and `Files.Disk` has them as a value. Contents are bytes; a text is read from bytes that are valid
UTF-8.
-/
namespace KeyGadget

inductive FileError
  | missing
  | exists
  | notDirectory
  | isDirectory
  | noSpace
  | nameTooLong
  | notText
  | nulInName
  | other (message : String)
  deriving DecidableEq, Repr

/-- What the user is told; what the system reports has its number there. -/
def FileError.message : FileError → String
  | .missing => "No such file or directory (os error 2)"
  | .exists => "File exists (os error 17)"
  | .notDirectory => "Not a directory (os error 20)"
  | .isDirectory => "Is a directory (os error 21)"
  | .noSpace => "No space left on device (os error 28)"
  | .nameTooLong => "File name too long (os error 36)"
  | .notText => "stream did not contain valid UTF-8"
  | .nulInName => "file name contained an unexpected NUL byte"
  | .other message => message

/-- What a directory tells about a member. -/
structure Member where
  name : String
  isFile : Bool
  size : Nat
  deriving DecidableEq, Repr

/-- Files that are reached by paths. -/
structure Files (m : Type → Type) where
  /-- Whether the path leads to a regular file. -/
  isFile : String → m Bool
  read : String → m (Except FileError ByteArray)
  /-- Gives a file new content; the file is created if it does not exist. -/
  write : String → ByteArray → m (Except FileError Unit)
  remove : String → m (Except FileError Unit)
  /-- Creates a directory and those above it, as far as they do not exist. -/
  makeDirectories : String → m (Except FileError Unit)
  /-- The members of a directory, in any order. -/
  list : String → m (Except FileError (List Member))

def decodeText (bytes : ByteArray) : Except FileError String :=
  match String.fromUTF8? bytes with
  | some text => .ok text
  | none => .error .notText

def Files.readText {m : Type → Type} [Monad m] (files : Files m) (path : String) :
    m (Except FileError String) := do
  match ← files.read path with
  | .ok bytes => pure (decodeText bytes)
  | .error error => pure (.error error)

end KeyGadget
