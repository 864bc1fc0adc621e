import KeyGadget.Library.Store
import KeyGadget.Proofs.Bytes
import KeyGadget.Proofs.NewDirectory
import KeyGadget.Proofs.ScriptName

/-!
# The library as a map

A library answers calls to save, load and delete scripts as a map from names to texts would. Names
come in two ways: a script is stored under what is left of a name when all but plain characters are
dropped, and it is looked for under the last part of a name as it stands. What is stored is always
found under the name that it has been stored under.

## Main results

`Library.Holds.answer` and `Library.Holds.serve`: every reply and all that lies in the directory is
what the map says, and a call that fails changes nothing at all, as long as the system has no error
to report.

`absent_of_missing`: a directory that is not found is empty once it has been made, unless its path
is empty or goes up. A path that goes up may lead to a directory that has been there before, as soon
as what it goes up from is made.
-/
namespace KeyGadget

open KeyGadget.Path (IsName)

/-- The files of a disk that is the whole state. -/
def Disk.own : Files (StateM Disk) :=
  Disk.files id fun disk _ => disk

namespace Disk

variable (disk : Disk) (path : String)

theorem own_read : (own.read path).run disk = (disk.read path, disk) := rfl

theorem own_write (content : ByteArray) :
    (own.write path content).run disk =
      match disk.write path content with
      | .ok after => (.ok (), after)
      | .error error => (.error error, disk) := rfl

theorem own_remove :
    (own.remove path).run disk =
      match disk.remove path with
      | .ok after => (.ok (), after)
      | .error error => (.error error, disk) := rfl

theorem own_makeDirectories :
    (own.makeDirectories path).run disk = makeDirectories path disk := rfl

end Disk

namespace Library

inductive Call
  | save (name text : String)
  | load (name : String)
  | delete (name : String)

inductive Reply
  | saved (result : Except Failure String)
  | loaded (result : Except Failure String)
  | deleted (result : Except Failure Unit)

/-- Why a call failed, if it did. -/
def Reply.failure? : Reply → Option Failure
  | .saved (.error failure) => some failure
  | .loaded (.error failure) => some failure
  | .deleted (.error failure) => some failure
  | _ => none

/-- The system had no error to report. -/
def Reply.Undisturbed (reply : Reply) : Prop :=
  ∀ path error, reply.failure? ≠ some (.inaccessible path error)

section serve

variable {m : Type → Type} [Monad m]

def answer (library : Library) (files : Files m) : Call → m Reply
  | .save name text => return .saved (← library.save files name text)
  | .load name => return .loaded (← library.load files name)
  | .delete name => return .deleted (← library.delete files name)

def serve (library : Library) (files : Files m) : List Call → m (List Reply)
  | [] => pure []
  | call :: rest => do
    let reply ← library.answer files call
    let replies ← library.serve files rest
    return reply :: replies

end serve

end Library

open Library (Call Reply Failure)

/-- Scripts under names. -/
abbrev Shelf := String → Option String

namespace Shelf

def empty : Shelf := fun _ => none

/-- The same scripts, but with another one, or none, under a name. -/
def set (shelf : Shelf) (name : String) (entry : Option String) : Shelf := fun other =>
  if other = name then entry else shelf other

@[simp]
theorem set_self (shelf : Shelf) (name : String) (entry : Option String) :
    shelf.set name entry name = entry := if_pos rfl

theorem set_of_ne (shelf : Shelf) {name other : String} (entry : Option String)
    (different : other ≠ name) : shelf.set name entry other = shelf other := if_neg different

/-- The script that a name is taken for, with the name that it is stored under. -/
def find (shelf : Shelf) (name : String) : Except Failure (String × String) :=
  let base := Library.base name
  if base ∈ ["", ".", ".."] then .error (.invalidName name)
  else
    match shelf base, shelf (base ++ ".txt") with
    | some text, _ => .ok (base, text)
    | none, some text => .ok (base ++ ".txt", text)
    | none, none => .error (.notFound base)

/-- The reply to a call, and the scripts after it. -/
def answer (shelf : Shelf) : Call → Reply × Shelf
  | .save name text =>
    match Library.storedName name with
    | .ok stored => (.saved (.ok stored), shelf.set stored (some text))
    | .error _ => (.saved (.error (.invalidName name)), shelf)
  | .load name => (.loaded ((shelf.find name).map (·.2)), shelf)
  | .delete name =>
    match shelf.find name with
    | .ok (stored, _) => (.deleted (.ok ()), shelf.set stored none)
    | .error failure => (.deleted (.error failure), shelf)

/-- The replies to calls, and the scripts after them. -/
def serve (shelf : Shelf) : List Call → List Reply × Shelf
  | [] => ([], shelf)
  | call :: rest =>
    let (reply, next) := shelf.answer call
    let (replies, last) := serve next rest
    (reply :: replies, last)

end Shelf

/-- A name is taken for a name that a script lies under. -/
theorem Shelf.find_ok {shelf : Shelf} {name stored text : String}
    (found : shelf.find name = .ok (stored, text)) : IsName stored ∧ shelf stored = some text := by
  rw [find] at found
  split at found
  next => cases found
  next usable =>
    have isName := Library.isName_base name usable
    split at found
    next _ own =>
      rw [Except.ok.injEq, Prod.mk.injEq] at found
      obtain ⟨rfl, rfl⟩ := found
      exact ⟨isName, own⟩
    next _ _ extended =>
      rw [Except.ok.injEq, Prod.mk.injEq] at found
      obtain ⟨rfl, rfl⟩ := found
      exact ⟨Library.isName_extended isName, extended⟩
    next => cases found

namespace Shelf

variable {shelf : Shelf}

/-- Scripts lie under names that scripts are stored under. -/
def Proper (shelf : Shelf) : Prop :=
  ∀ name, shelf name ≠ none → Library.IsScript name

theorem Proper.isScript {name text : String} (proper : shelf.Proper)
    (own : shelf name = some text) : Library.IsScript name := by
  apply proper
  rw [own]
  nofun

theorem empty_proper : empty.Proper :=
  fun _ filled => absurd rfl filled

theorem Proper.add {stored : String} (proper : shelf.Proper)
    (isScript : Library.IsScript stored) (text : String) :
    (shelf.set stored (some text)).Proper := by
  intro other filled
  by_cases same : other = stored
  · rw [same]
    exact isScript
  · rw [set_of_ne shelf _ same] at filled
    exact proper other filled

theorem Proper.drop (proper : shelf.Proper) (removed : String) :
    (shelf.set removed none).Proper := by
  intro other filled
  by_cases same : other = removed
  · rw [same, set_self] at filled
    exact absurd rfl filled
  · rw [set_of_ne shelf _ same] at filled
    exact proper other filled

theorem Proper.answer (proper : shelf.Proper) (call : Call) : (shelf.answer call).2.Proper := by
  cases call with
  | save name text =>
    rw [Shelf.answer]
    cases accepted : Library.storedName name with
    | error failure => exact proper
    | ok stored => exact proper.add (Library.storedName_isScript accepted) text
  | load name => exact proper
  | delete name =>
    rw [Shelf.answer]
    cases shelf.find name with
    | error failure => exact proper
    | ok entry => exact proper.drop entry.1

/-- Whatever calls come, scripts lie under names that scripts are stored under. -/
theorem Proper.serve (proper : shelf.Proper) (calls : List Call) :
    (shelf.serve calls).2.Proper := by
  induction calls generalizing shelf with
  | nil => exact proper
  | cons call rest ih => exact ih (proper.answer call)

end Shelf

/-! ### The directory of a library -/

namespace Library

/-- What lies in the directory of a library are these scripts and nothing else. -/
def Shows (library : Library) (disk : Disk) (shelf : Shelf) : Prop :=
  ∀ name, IsName name →
    disk.look library.root name = (shelf name).map fun text => .file text.toUTF8

/-- The directory of a library does not exist, and it is empty when it has been made. -/
structure Absent (library : Library) (disk : Disk) : Prop where
  missing : disk.isDirectory library.root = false
  fresh : ∀ made, Disk.makeDirectories library.root disk = (.ok (), made) →
    library.Shows made Shelf.empty

/-- A library has these scripts, now and after its directory has been made if need be. -/
structure Holds (library : Library) (disk : Disk) (shelf : Shelf) : Prop where
  shows : library.Shows disk shelf
  ready : ∀ made, Disk.makeDirectories library.root disk = (.ok (), made) →
    library.Shows made shelf
  named : ∀ name, ¬IsName name → shelf name = none

variable {library : Library} {disk after : Disk} {shelf : Shelf} {name : String} {here : Place}

theorem absent_of_missing (nested : disk.Nested) (missing : disk.isDirectory library.root = false)
    (some : library.root ≠ "") (level : ".." ∉ Path.names library.root) : library.Absent disk :=
  ⟨missing, fun _ makes _ isName => Disk.look_made nested missing some level makes isName⟩

theorem Absent.holds (absent : library.Absent disk) : library.Holds disk Shelf.empty := by
  refine ⟨?shows, absent.fresh, fun _ _ => rfl⟩
  case shows =>
    intro name isName
    by_cases empty : library.root = ""
    · -- The empty path leads nowhere, but its names are found in the working directory.
      apply absent.fresh disk _ name isName
      rw [empty]
      rfl
    · cases found : disk.look library.root name with
      | none => rfl
      | some node =>
        obtain ⟨here, enters, _⟩ := (Disk.look_eq_some_iff isName node).mp found
        have missing := absent.missing
        rw [enters.isDirectory empty] at missing
        cases missing

/-- A change under one name is a change of one script. -/
theorem Holds.change (holds : library.Holds disk shelf) (isName : IsName name)
    (enters : disk.Enters library.root name here) (changes : disk.Changes after (here ++ [name]))
    (entry : Option String)
    (own : after.at? (here ++ [name]) = entry.map fun text => .file text.toUTF8) :
    library.Holds after (shelf.set name entry) := by
  -- The changed disk can still be entered, so what it shows is read off its places.
  have entered := changes.enters enters
  have shows : library.Shows after (shelf.set name entry) := by
    intro other isOther
    by_cases same : other = name
    · rw [same, entered.look isName, own, Shelf.set_self]
    · rw [Disk.look_of_change enters changes isOther same, Shelf.set_of_ne shelf entry same]
      exact holds.shows other isOther
  refine ⟨shows, ?ready, ?named⟩
  case ready =>
    intro made making
    rw [Disk.makeDirectories_entered entered] at making
    cases making
    exact shows
  case named =>
    intro other unnamed
    have different : other ≠ name := by
      rintro rfl
      exact unnamed isName
    rw [Shelf.set_of_ne shelf entry different]
    exact holds.named other unnamed

private theorem run_bind {σ α β : Type} (first : StateM σ α) (next : α → StateM σ β) (state : σ) :
    (first >>= next).run state = (next (first.run state).1).run (first.run state).2 := rfl

private theorem run_return {σ α β : Type} (first : StateM σ α) (tell : α → β) (state : σ) :
    (do return tell (← first) : StateM σ β).run state =
      (tell (first.run state).1, (first.run state).2) := rfl

private theorem firstFile_own (disk : Disk) (paths : List String) :
    (firstFile Disk.own paths).run disk = (paths.find? disk.isFile, disk) := by
  induction paths with
  | nil => rfl
  | cons path rest ih =>
    have unfolded : (firstFile Disk.own (path :: rest)).run disk =
        (if disk.isFile path then pure (some path) else firstFile Disk.own rest).run disk := rfl
    rw [unfolded, List.find?_cons]
    cases disk.isFile path with
    | true => rfl
    | false => exact ih

theorem candidates_eq (library : Library) (base : String) :
    library.candidates base.toList =
      [Path.join library.root base, Path.join library.root (base ++ ".txt")] := by
  have extended : String.ofList (base.toList ++ extension) = base ++ ".txt" := by
    rw [← String.toList_inj, String.toList_ofList, String.toList_append]
    rfl
  rw [candidates, extended, String.ofList_toList]

private theorem Shows.isFile (shows : library.Shows disk shelf) (isName : IsName name) :
    disk.isFile (Path.join library.root name) = (shelf name).isSome := by
  rw [Disk.isFile_join, shows name isName]
  cases shelf name <;> rfl

/-- The library finds what the shelf has. -/
theorem Shows.locate (shows : library.Shows disk shelf) (name : String) :
    (library.locate Disk.own name).run disk =
      ((shelf.find name).map fun entry => Path.join library.root entry.1, disk) := by
  rw [Library.locate, baseName_eq, Shelf.find]
  by_cases bad : base name ∈ ["", ".", ".."]
  · rw [if_pos bad, if_pos bad]
    rfl
  · rw [if_neg bad, if_neg bad]
    have isName := isName_base name bad
    generalize base name = base at isName
    dsimp only
    -- The two paths that are tried are those of the two names that the shelf looks up.
    rw [StateT.run_bind, firstFile_own, candidates_eq, List.find?_cons, List.find?_cons,
      List.find?_nil, shows.isFile isName, shows.isFile (isName_extended isName)]
    cases shelf base with
    | some text => rfl
    | none =>
      cases shelf (base ++ ".txt") with
      | some text => rfl
      | none =>
        rw [String.ofList_toList]
        rfl

private theorem Shows.readText (shows : library.Shows disk shelf) (isName : IsName name)
    (text : String) (own : shelf name = some text) :
    (Disk.own.readText (Path.join library.root name)).run disk = (.ok text, disk) := by
  have content : disk.read (Path.join library.root name) = .ok text.toUTF8 := by
    apply Disk.read_join
    rw [shows name isName, own]
    rfl
  rw [Files.readText, run_bind, Disk.own_read, content]
  dsimp only
  rw [decodeText_toUTF8]
  rfl

theorem Shows.load (shows : library.Shows disk shelf) (name : String) :
    (library.load Disk.own name).run disk = ((shelf.find name).map (·.2), disk) := by
  rw [Library.load, run_bind, shows.locate]
  cases found : shelf.find name with
  | error failure => rfl
  | ok entry =>
    obtain ⟨stored, text⟩ := entry
    obtain ⟨isName, own⟩ := Shelf.find_ok found
    dsimp only [Except.map]
    rw [run_bind, shows.readText isName text own]
    rfl

theorem Shows.delete_missing (shows : library.Shows disk shelf) {failure : Failure}
    (missing : shelf.find name = .error failure) :
    (library.delete Disk.own name).run disk = (.error failure, disk) := by
  rw [Library.delete, run_bind, shows.locate, missing]
  rfl

/-- A script that the shelf has lies in the directory. -/
theorem Holds.lies (holds : library.Holds disk shelf) {text : String}
    (own : shelf name = some text) :
    ∃ here, disk.Enters library.root name here ∧
      disk.at? (here ++ [name]) = some (.file text.toUTF8) := by
  have isName : IsName name := by
    by_cases named : IsName name
    · exact named
    · rw [holds.named name named] at own
      cases own
  have shown : disk.look library.root name = some (.file text.toUTF8) := by
    rw [holds.shows name isName, own]
    rfl
  exact (Disk.look_eq_some_iff isName _).mp shown

/-- A script that the shelf has is taken from its place in the directory. -/
theorem Holds.delete_erases (holds : library.Holds disk shelf) {stored text : String}
    (found : shelf.find name = .ok (stored, text)) :
    ∃ here, disk.Enters library.root stored here ∧
      disk.at? (here ++ [stored]) ≠ some .directory ∧
      (library.delete Disk.own name).run disk = (.ok (), disk.erase (here ++ [stored])) := by
  obtain ⟨isName, own⟩ := Shelf.find_ok found
  obtain ⟨here, enters, lies⟩ := holds.lies own
  have removed : disk.remove (Path.join library.root stored) =
      .ok (disk.erase (here ++ [stored])) := enters.remove isName _ lies
  refine ⟨here, enters, ?undirected, ?run⟩
  case undirected =>
    rw [lies]
    nofun
  case run =>
    rw [Library.delete, run_bind, holds.shows.locate, found]
    dsimp only [Except.map]
    rw [run_bind, Disk.own_remove, removed]
    rfl

theorem Holds.delete_found (holds : library.Holds disk shelf) {stored text : String}
    (found : shelf.find name = .ok (stored, text)) :
    ∃ after, (library.delete Disk.own name).run disk = (.ok (), after) ∧
      library.Holds after (shelf.set stored none) := by
  obtain ⟨here, enters, undirected, deleted⟩ := holds.delete_erases found
  exact ⟨_, deleted, holds.change (Shelf.find_ok found).1 enters (Disk.changes_erase undirected)
    none (disk.at?_erase_self _ (by simp))⟩

theorem save_run {stored : String} (accepted : storedName name = .ok stored)
    (text : String) :
    (library.save Disk.own name text).run disk =
      match Disk.makeDirectories library.root disk with
      | (.error error, made) => (.error (.inaccessible library.root error), made)
      | (.ok (), made) =>
        match made.write (Path.join library.root stored) text.toUTF8 with
        | .ok after => (.ok stored, after)
        | .error error =>
          (.error (.inaccessible (Path.join library.root stored) error), made) := by
  rw [save, accepted]
  dsimp only
  rw [run_bind, Disk.own_makeDirectories]
  rcases Disk.makeDirectories library.root disk with ⟨error | _, made⟩
  · rfl
  · dsimp only
    rw [run_bind, Disk.own_write]
    cases made.write (Path.join library.root stored) text.toUTF8 <;> rfl

theorem save_refused {failure : Failure} (refused : storedName name = .error failure)
    (text : String) (disk : Disk) :
    (library.save Disk.own name text).run disk = (.error (.invalidName name), disk) := by
  obtain rfl := storedName_error refused
  rw [save, refused]
  rfl

/-- A script is put at its place in the directory, which is made if need be, or the system has an
error to report. -/
theorem Holds.save_puts (holds : library.Holds disk shelf) {stored : String}
    (accepted : storedName name = .ok stored) (text : String) :
    (∃ path error after, (library.save Disk.own name text).run disk =
      (.error (.inaccessible path error), after)) ∨
    ∃ made here, Disk.makeDirectories library.root disk = (.ok (), made) ∧
      made.Enters library.root stored here ∧ made.at? (here ++ [stored]) ≠ some .directory ∧
      (library.save Disk.own name text).run disk =
        (.ok stored, made.put (here ++ [stored]) (.file text.toUTF8)) := by
  have isName := (storedName_ok accepted).isName
  rw [save_run accepted]
  rcases making : Disk.makeDirectories library.root disk with ⟨error | _, made⟩
  · exact Or.inl ⟨_, _, _, rfl⟩
  · dsimp only
    cases written : made.write (Path.join library.root stored) text.toUTF8 with
    | error error => exact Or.inl ⟨_, _, _, rfl⟩
    | ok after =>
      obtain ⟨here, enters, undirected, rfl | full⟩ := Disk.enters_of_write isName _ written
      · exact Or.inr ⟨made, here, rfl, enters, undirected, rfl⟩
      · -- There is nothing but scripts in the directory, and so no device.
        have device := holds.ready made making stored isName
        rw [enters.look isName, full] at device
        cases own : shelf stored <;> rw [own] at device <;> cases device

/-- A directory that is there now is not made again by a later call. -/
theorem Holds.made (holds : library.Holds disk shelf) {made : Disk}
    (making : Disk.makeDirectories library.root disk = (.ok (), made))
    (enters : made.Enters library.root name here) : library.Holds made shelf := by
  have shows := holds.ready made making
  refine ⟨shows, ?_, holds.named⟩
  intro again remade
  rw [Disk.makeDirectories_entered enters] at remade
  cases remade
  exact shows

/-- The library saves what the shelf gets, or the system has an error to report. -/
theorem Holds.save_stored (holds : library.Holds disk shelf) {stored : String}
    (accepted : storedName name = .ok stored) (text : String) :
    (∃ path error after, (library.save Disk.own name text).run disk =
      (.error (.inaccessible path error), after)) ∨
    ∃ after, (library.save Disk.own name text).run disk = (.ok stored, after) ∧
      library.Holds after (shelf.set stored (some text)) := by
  have isName := (storedName_ok accepted).isName
  rcases holds.save_puts accepted text with
    disturbed | ⟨made, here, making, enters, undirected, saved⟩
  · exact Or.inl disturbed
  · exact Or.inr ⟨_, saved, (holds.made making enters).change isName enters
      (Disk.changes_put _ undirected) (some text) (made.at?_put_self _ _ (by simp))⟩

theorem answer_save (library : Library) (name text : String) (disk : Disk) :
    (library.answer Disk.own (.save name text)).run disk =
      (.saved ((library.save Disk.own name text).run disk).1,
        ((library.save Disk.own name text).run disk).2) := run_return _ _ _

theorem answer_load (library : Library) (name : String) (disk : Disk) :
    (library.answer Disk.own (.load name)).run disk =
      (.loaded ((library.load Disk.own name).run disk).1,
        ((library.load Disk.own name).run disk).2) := run_return _ _ _

theorem answer_delete (library : Library) (name : String) (disk : Disk) :
    (library.answer Disk.own (.delete name)).run disk =
      (.deleted ((library.delete Disk.own name).run disk).1,
        ((library.delete Disk.own name).run disk).2) := run_return _ _ _

/-- A call is answered by the library as by the shelf, if the system has no error to report. -/
theorem Holds.answer (holds : library.Holds disk shelf) (call : Call)
    (undisturbed : ((library.answer Disk.own call).run disk).1.Undisturbed) :
    ((library.answer Disk.own call).run disk).1 = (shelf.answer call).1 ∧
    library.Holds ((library.answer Disk.own call).run disk).2 (shelf.answer call).2 ∧
    ∀ failure, ((library.answer Disk.own call).run disk).1.failure? = some failure →
      ((library.answer Disk.own call).run disk).2 = disk := by
  -- A call that succeeds is one change of the shelf, and one that fails is no change of the disk.
  cases call with
  | save name text =>
    rw [answer_save] at undisturbed ⊢
    rw [Shelf.answer]
    cases accepted : storedName name with
    | error failure =>
      rw [save_refused accepted]
      exact ⟨rfl, holds, fun _ _ => rfl⟩
    | ok stored =>
      rcases holds.save_stored accepted text with
        ⟨path, error, after, disturbed⟩ | ⟨after, saved, held⟩
      · rw [disturbed] at undisturbed
        exact absurd rfl (undisturbed path error)
      · rw [saved]
        exact ⟨rfl, held, nofun⟩
  | load name =>
    rw [answer_load, holds.shows.load, Shelf.answer]
    generalize shelf.find name = found
    exact ⟨rfl, holds, fun _ _ => rfl⟩
  | delete name =>
    rw [answer_delete, Shelf.answer]
    cases found : shelf.find name with
    | error failure =>
      rw [holds.shows.delete_missing found]
      exact ⟨rfl, holds, fun _ _ => rfl⟩
    | ok entry =>
      obtain ⟨after, deleted, held⟩ := holds.delete_found found
      rw [deleted]
      exact ⟨rfl, held, nofun⟩

theorem serve_cons (library : Library) (call : Call) (rest : List Call) (disk : Disk) :
    (library.serve Disk.own (call :: rest)).run disk =
      (((library.answer Disk.own call).run disk).1 ::
        ((library.serve Disk.own rest).run ((library.answer Disk.own call).run disk).2).1,
      ((library.serve Disk.own rest).run ((library.answer Disk.own call).run disk).2).2) := rfl

/-- Calls are answered by the library as by the shelf, as long as the system has no error to report.
-/
theorem Holds.serve (holds : library.Holds disk shelf) (calls : List Call)
    (undisturbed : ∀ reply ∈ ((library.serve Disk.own calls).run disk).1, reply.Undisturbed) :
    ((library.serve Disk.own calls).run disk).1 = (shelf.serve calls).1 ∧
    library.Holds ((library.serve Disk.own calls).run disk).2 (shelf.serve calls).2 := by
  -- The disk of each call holds the shelf of that call.
  induction calls generalizing disk shelf with
  | nil => exact ⟨rfl, holds⟩
  | cons call rest ih =>
    have expected : shelf.serve (call :: rest) =
        ((shelf.answer call).1 :: ((shelf.answer call).2.serve rest).1,
          ((shelf.answer call).2.serve rest).2) := rfl
    rw [serve_cons] at undisturbed ⊢
    rw [expected]
    obtain ⟨first, later⟩ := List.forall_mem_cons.mp undisturbed
    obtain ⟨same, held, _⟩ := holds.answer call first
    obtain ⟨others, last⟩ := ih held later
    exact ⟨by rw [same, others], last⟩

theorem find_stored {stored text : String} (isStored : IsStored stored)
    (own : shelf stored = some text) : shelf.find stored = .ok (stored, text) := by
  have usable : stored ∉ ["", ".", ".."] := by
    have isName := isStored.isName
    simp [isName.nonempty, isName.notHere, isName.notAbove]
  rw [Shelf.find, isStored.base_eq, if_neg usable, own]

/-- A script that has been saved is on the shelf, under the name that was told. -/
theorem Holds.saved (holds : library.Holds disk shelf) {text stored : String}
    (saved : ((library.answer Disk.own (.save name text)).run disk).1 = .saved (.ok stored)) :
    storedName name = .ok stored ∧
      library.Holds ((library.answer Disk.own (.save name text)).run disk).2
        (shelf.set stored (some text)) := by
  have undisturbed : ((library.answer Disk.own (.save name text)).run disk).1.Undisturbed := by
    rw [saved]
    nofun
  obtain ⟨same, held, _⟩ := holds.answer (.save name text) undisturbed
  -- The shelf gave the same reply, so the name was accepted there too.
  rw [saved, Shelf.answer] at same
  rw [Shelf.answer] at held
  cases accepted : storedName name with
  | error failure =>
    rw [accepted] at same
    cases same
  | ok own =>
    rw [accepted] at same held
    cases same
    exact ⟨rfl, held⟩

/-- A script that has been deleted was on the shelf, and is no longer. -/
theorem Holds.deleted (holds : library.Holds disk shelf)
    (deleted : ((library.answer Disk.own (.delete name)).run disk).1 = .deleted (.ok ())) :
    ∃ removed text, shelf.find name = .ok (removed, text) ∧
      library.Holds ((library.answer Disk.own (.delete name)).run disk).2
        (shelf.set removed none) := by
  have undisturbed : ((library.answer Disk.own (.delete name)).run disk).1.Undisturbed := by
    rw [deleted]
    nofun
  obtain ⟨same, held, _⟩ := holds.answer (.delete name) undisturbed
  rw [deleted, Shelf.answer] at same
  rw [Shelf.answer] at held
  cases found : shelf.find name with
  | error failure =>
    rw [found] at same
    cases same
  | ok entry =>
    rw [found] at held
    exact ⟨entry.1, entry.2, rfl, held⟩

/-- What has just been saved is loaded as it was saved. -/
theorem Holds.load_saved (holds : library.Holds disk shelf) (name text stored : String)
    (saved : ((library.answer Disk.own (.save name text)).run disk).1 = .saved (.ok stored)) :
    ((library.answer Disk.own (.load stored)).run
      ((library.answer Disk.own (.save name text)).run disk).2).1 = .loaded (.ok text) := by
  obtain ⟨accepted, held⟩ := holds.saved saved
  have found : (shelf.set stored (some text)).find stored = .ok (stored, text) :=
    find_stored (storedName_ok accepted) (shelf.set_self stored _)
  rw [answer_load, held.shows.load, found]
  rfl

end Library

end KeyGadget
