import KeyGadget.Files.Access
import KeyGadget.Files.Path

/-!
# A disk as a value

Directories, files, and devices that are always full, each at a place below the root. A path is
followed name by name from the root or from the working directory, and all that can go wrong on the
way is reported as a system reports it.
-/
namespace KeyGadget

/-- The names that lead from the root to something. -/
abbrev Place := List String

inductive Node
  | directory
  | file (content : ByteArray)
  /-- A device on which there is never room for another byte. -/
  | full

/-- What is on a disk, and the directory in which relative paths start. -/
structure Disk where
  entries : List (Place × Node)
  work : Place

namespace Disk

def at? (disk : Disk) (place : Place) : Option Node :=
  if place.isEmpty then some .directory else disk.entries.lookup place

def put (disk : Disk) (place : Place) (node : Node) : Disk :=
  { disk with entries := (disk.entries.filter fun entry => entry.1 != place) ++ [(place, node)] }

theorem lookup_filter_ne {entries : List (Place × Node)} {place other : Place}
    (different : place ≠ other) :
    (entries.filter fun entry => entry.1 != other).lookup place = entries.lookup place := by
  induction entries with
  | nil => rfl
  | cons entry rest ih =>
    obtain ⟨key, node⟩ := entry
    by_cases same : key = other
    · subst same
      simp [List.lookup_cons, ih, beq_eq_false_iff_ne.mpr different]
    · simp [List.lookup_cons, same, ih]

theorem lookup_filter_self (entries : List (Place × Node)) (place : Place) :
    (entries.filter fun entry => entry.1 != place).lookup place = none := by
  induction entries with
  | nil => rfl
  | cons entry rest ih =>
    obtain ⟨key, node⟩ := entry
    by_cases same : key = place
    · simp [same, ih]
    · have other : (place == key) = false := beq_eq_false_iff_ne.mpr fun equal => same equal.symm
      simp [List.lookup_cons, same, ih, other]

/-- What has been put at a place is there, unless it is the root. -/
theorem at?_put_self (disk : Disk) (place : Place) (node : Node) (below : place ≠ []) :
    (disk.put place node).at? place = some node := by
  simp [at?, put, below, List.lookup_append, lookup_filter_self]

theorem at?_put_of_ne (disk : Disk) {place other : Place} (node : Node)
    (different : place ≠ other) : (disk.put other node).at? place = disk.at? place := by
  have unmatched : (place == other) = false := beq_eq_false_iff_ne.mpr different
  simp [at?, put, List.lookup_append, lookup_filter_ne different, List.lookup_cons, unmatched]

def erase (disk : Disk) (place : Place) : Disk :=
  { disk with entries := disk.entries.filter fun entry => entry.1 != place }

theorem at?_erase_self (disk : Disk) (place : Place) (below : place ≠ []) :
    (disk.erase place).at? place = none := by
  simp [at?, erase, below, lookup_filter_self]

theorem at?_erase_of_ne (disk : Disk) {place other : Place} (different : place ≠ other) :
    (disk.erase other).at? place = disk.at? place := by
  simp [at?, erase, lookup_filter_ne different]

def nameLimit : Nat := 255

/-- The number of bytes that a path has to stay below. -/
def pathLimit : Nat := 4096

/-- What a name leads to from a directory. -/
inductive Target
  | present (place : Place) (node : Node)
  | absent (place : Place)

/-- Follows one name from a directory. -/
def step (disk : Disk) (here : Place) (name : String) : Except FileError Target :=
  if name == "." then .ok (.present here .directory)
  else if name == ".." then .ok (.present here.dropLast .directory)
  else if nameLimit < name.utf8ByteSize then .error .nameTooLong
  else
    let place := here ++ [name]
    match disk.at? place with
    | some node => .ok (.present place node)
    | none => .ok (.absent place)

/-- Follows names from what a name has led to. Only a directory leads on. -/
def follow (disk : Disk) : Target → List String → Except FileError Target
  | target, [] => .ok target
  | .absent _, _ :: _ => .error .missing
  | .present here .directory, name :: rest =>
    match disk.step here name with
    | .ok target => disk.follow target rest
    | .error error => .error error
  | .present _ _, _ :: _ => .error .notDirectory

/-- What a path leads to, whether or not it ends in a slash. -/
def locate (disk : Disk) (path : String) : Except FileError Target :=
  if path.contains '\x00' then .error .nulInName
  else if path.isEmpty then .error .missing
  else if pathLimit ≤ path.utf8ByteSize then .error .nameTooLong
  else
    let start := if Path.isAbsolute path then [] else disk.work
    disk.follow (.present start .directory) (Path.names path)

/-- What a path leads to. A path that ends in a slash leads to no file. -/
def find (disk : Disk) (path : String) : Except FileError Target :=
  match disk.locate path with
  | .ok (.present place .directory) => .ok (.present place .directory)
  | .ok (.present place node) =>
    if Path.endsInSlash path then .error .notDirectory else .ok (.present place node)
  | result => result

def isFile (disk : Disk) (path : String) : Bool :=
  match disk.find path with
  | .ok (.present _ (.file _)) => true
  | _ => false

def isDirectory (disk : Disk) (path : String) : Bool :=
  match disk.find path with
  | .ok (.present _ .directory) => true
  | _ => false

def read (disk : Disk) (path : String) : Except FileError ByteArray :=
  match disk.find path with
  | .ok (.present _ (.file content)) => .ok content
  | .ok (.present _ .full) => .ok ByteArray.empty
  | .ok (.present _ .directory) => .error .isDirectory
  | .ok (.absent _) => .error .missing
  | .error error => .error error

/-- The disk after a file got new content. A path that ends in a slash asks for a directory. -/
def write (disk : Disk) (path : String) (content : ByteArray) : Except FileError Disk :=
  match disk.locate path with
  | .error error => .error error
  | .ok (.present _ .directory) => .error .isDirectory
  | .ok target =>
    if Path.endsInSlash path then .error .isDirectory
    else
      match target with
      | .present _ .full => if content.isEmpty then .ok disk else .error .noSpace
      | .present place _ => .ok (disk.put place (.file content))
      | .absent place => .ok (disk.put place (.file content))

def remove (disk : Disk) (path : String) : Except FileError Disk :=
  match disk.find path with
  | .ok (.present place (.file _)) => .ok (disk.erase place)
  | .ok (.present place .full) => .ok (disk.erase place)
  | .ok (.present _ .directory) => .error .isDirectory
  | .ok (.absent _) => .error .missing
  | .error error => .error error

def makeDirectory (disk : Disk) (path : String) : Except FileError Disk :=
  match disk.locate path with
  | .ok (.present _ _) => .error .exists
  | .ok (.absent place) => .ok (disk.put place .directory)
  | .error error => .error error

/-- The disk with a directory that may be there already. -/
def ensureDirectory (disk : Disk) (path : String) : Except FileError Disk :=
  match disk.makeDirectory path with
  | .ok made => .ok made
  | .error error => if disk.isDirectory path then .ok disk else .error error

/-- The path of some components, of which the first may be the root. -/
def pathOf : List String → String
  | "/" :: rest => "/" ++ "/".intercalate rest
  | components => "/".intercalate components

/-- Makes a directory and all those above it. If something above is missing, the path without its
last component is made first, and what has been made stays even if the rest fails. The components
are given last one first. -/
def makeAll (disk : Disk) (path : String) : List String → Except FileError Unit × Disk
  | [] => (.ok (), disk)
  | _ :: above =>
    match disk.ensureDirectory path with
    | .ok made => (.ok (), made)
    | .error .missing =>
      match disk.makeAll (pathOf above.reverse) above with
      | (.ok (), made) =>
        match made.ensureDirectory path with
        | .ok done => (.ok (), done)
        | .error error => (.error error, made)
      | failed => failed
    | .error error => (.error error, disk)

def makeDirectories (path : String) (disk : Disk) : Except FileError Unit × Disk :=
  disk.makeAll path (Path.components path).reverse

/-- What a directory tells about something in it. -/
def memberOf (directory : Place) (entry : Place × Node) : Option Member :=
  match entry.1.getLast? with
  | none => none
  | some name =>
    if entry.1.dropLast == directory then
      match entry.2 with
      | .file content => some ⟨name, true, content.size⟩
      | _ => some ⟨name, false, 0⟩
    else none

/-- The members of a directory, in the order of their names. -/
def membersIn (disk : Disk) (directory : Place) : List Member :=
  (disk.entries.filterMap (memberOf directory)).mergeSort fun a b => a.name ≤ b.name

def list (disk : Disk) (path : String) : Except FileError (List Member) :=
  match disk.find path with
  | .ok (.present place .directory) => .ok (disk.membersIn place)
  | .ok (.present _ _) => .error .notDirectory
  | .ok (.absent _) => .error .missing
  | .error error => .error error

/-- Replaces the disk that is a part of a state if the change succeeds. -/
def change {σ : Type} (disk : σ → Disk) (setDisk : Disk → σ → σ)
    (f : Disk → Except FileError Disk) (state : σ) : Except FileError Unit × σ :=
  match f (disk state) with
  | .ok changed => (.ok (), setDisk changed state)
  | .error error => (.error error, state)

/-- The files of a state that has a disk as a part of it. -/
def files {σ : Type} (disk : σ → Disk) (setDisk : Disk → σ → σ) : Files (StateM σ) where
  isFile path := return (disk (← get)).isFile path
  read path := return (disk (← get)).read path
  write path content := modifyGet (change disk setDisk fun d => d.write path content)
  remove path := modifyGet (change disk setDisk fun d => d.remove path)
  makeDirectories path := modifyGet fun state =>
    let (result, changed) := makeDirectories path (disk state)
    (result, setDisk changed state)
  list path := return (disk (← get)).list path

/-- A file that has been opened, and how far it has been written. -/
structure Handle where
  place : Place
  offset : Nat

def open? (disk : Disk) (path : String) : Except FileError Handle :=
  match disk.find path with
  | .ok (.present place (.file _)) => .ok ⟨place, 0⟩
  | .ok (.present place .full) => .ok ⟨place, 0⟩
  | .ok (.present _ .directory) => .error .isDirectory
  | .ok (.absent _) => .error .missing
  | .error error => .error error

/-- Bytes with others written over them from an offset on. -/
def overwrite (content : ByteArray) (offset : Nat) (bytes : ByteArray) : ByteArray :=
  content.extract 0 offset ++ bytes ++ content.extract (offset + bytes.size) content.size

/-- Writes bytes to an open file, over what is there. -/
def writeTo (disk : Disk) (handle : Handle) (bytes : ByteArray) :
    Except FileError (Disk × Handle) :=
  match disk.at? handle.place with
  | some (.file content) =>
    .ok (disk.put handle.place (.file (overwrite content handle.offset bytes)),
      { handle with offset := handle.offset + bytes.size })
  | some .full => .error .noSpace
  | _ => .error .missing

/-- A disk with the usual directories and an empty working directory. -/
def fresh : Disk :=
  { entries := [(["dev"], .directory), (["dev", "full"], .full), (["etc"], .directory),
      (["tmp"], .directory), (["work"], .directory)]
    work := ["work"] }

/-- The path of the directory in which the last component of a path lies. -/
def parentOf (path : String) : String :=
  pathOf (Path.components path).dropLast

/-- The disk with a file, or with a directory if no content is given, and the directories above it.
-/
def place (disk : Disk) (path : String) (content : Option ByteArray) : Except FileError Disk :=
  match content with
  | none =>
    match makeDirectories path disk with
    | (.ok (), made) => .ok made
    | (.error error, _) => .error error
  | some bytes =>
    match makeDirectories (parentOf path) disk with
    | (.ok (), made) => made.write path bytes
    | (.error error, _) => .error error

/-- All that is below the working directory, by relative paths; a directory has no content. -/
def workContents (disk : Disk) : List (String × Option ByteArray) :=
  disk.entries.filterMap fun (place, node) =>
    if disk.work.isPrefixOf place && disk.work != place then
      let path := "/".intercalate (place.drop disk.work.length)
      match node with
      | .file content => some (path, some content)
      | _ => some (path, none)
    else none

end Disk
end KeyGadget
