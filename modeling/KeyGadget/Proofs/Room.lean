import KeyGadget.Proofs.Shelf

/-!
# A library that has room

The system has an error to report if a directory cannot be made or entered, if a path is too long,
or if something other than a file lies in the way. A library has room if its directory can be made
and its path is short enough for any name that a directory takes. Then a call can still ask for a
script that is not there, or give a name that is of no use, but the system never has an error to
report.

## Main result

`Roomy.serve`: no call to a library that has room disturbs the system if scripts are stored under
names that a directory takes.
-/
namespace KeyGadget

open KeyGadget.Path (IsName)

namespace Library

/-- The directory of a library can be entered once it has been made, and its path leaves room for
any name that a directory takes. -/
structure Roomy (library : Library) (disk : Disk) : Prop where
  opened : ∃ made here, Disk.makeDirectories library.root disk = (.ok (), made) ∧
    made.reach library.root = .ok (.present here .directory)
  clean : '\x00' ∉ library.root.toList
  short : library.root.utf8ByteSize + 1 + Disk.nameLimit < Disk.pathLimit

/-- Whether a call stores nothing under a name that is too long for a directory. -/
def Call.isBrief : Call → Bool
  | .save name _ =>
    match storedName name with
    | .ok stored => stored.utf8ByteSize ≤ Disk.nameLimit
    | .error _ => true
  | _ => true

variable {library : Library} {disk after : Disk} {shelf : Shelf} {name stored : String}
  {here : Place}

private theorem Roomy.enters (roomy : library.Roomy disk) {made : Disk}
    (reached : made.reach library.root = .ok (.present here .directory))
    (isStored : IsStored stored) (brief : stored.utf8ByteSize ≤ Disk.nameLimit) :
    made.Enters library.root stored here := by
  refine ⟨reached, ?clean, ?short, brief⟩
  case clean =>
    intro nul
    rcases Path.mem_or_mem_of_mem_join nul with root | slash | own
    · exact roomy.clean root
    · exact absurd slash (by decide)
    · exact absurd (isStored.plain _ own) (by decide)
  case short =>
    calc (Path.join library.root stored).utf8ByteSize
      _ ≤ library.root.utf8ByteSize + 1 + stored.utf8ByteSize := Path.utf8ByteSize_join_le
      _ ≤ library.root.utf8ByteSize + 1 + Disk.nameLimit := Nat.add_le_add_left brief _
      _ < Disk.pathLimit := roomy.short

/-- A directory that can be entered does not have to be made. -/
private theorem Roomy.entered (roomy : library.Roomy disk)
    (enters : after.Enters library.root name here) : library.Roomy after :=
  ⟨⟨after, here, Disk.makeDirectories_entered enters, enters.reached⟩, roomy.clean, roomy.short⟩

theorem Roomy.save (roomy : library.Roomy disk) (holds : library.Holds disk shelf)
    (accepted : storedName name = .ok stored) (brief : stored.utf8ByteSize ≤ Disk.nameLimit)
    (text : String) :
    ∃ after, (library.save Disk.own name text).run disk = (.ok stored, after) ∧
      library.Roomy after := by
  have isStored := storedName_ok accepted
  obtain ⟨made, here, making, reached⟩ := roomy.opened
  have enters := roomy.enters reached isStored brief
  -- Nothing but scripts lies in the directory, so nothing is in the way of a file.
  have lies := holds.ready made making stored isStored.isName
  rw [enters.look isStored.isName] at lies
  have undirected : made.at? (here ++ [stored]) ≠ some .directory := by
    rw [lies]
    cases shelf stored <;> nofun
  have hollow : made.at? (here ++ [stored]) ≠ some .full := by
    rw [lies]
    cases shelf stored <;> nofun
  have written := enters.write isStored.isName text.toUTF8 undirected hollow
  refine ⟨made.put (here ++ [stored]) (.file text.toUTF8), ?run, ?roomy⟩
  case run =>
    rw [save_run accepted, making]
    dsimp only
    rw [written]
  case roomy => exact roomy.entered ((Disk.changes_put _ undirected).enters enters)

private theorem find_undisturbed {failure : Failure}
    (missing : shelf.find name = .error failure) (path : String) (error : FileError) :
    failure ≠ .inaccessible path error := by
  rw [Shelf.find] at missing
  split at missing
  next =>
    cases missing
    simp
  next =>
    split at missing
    next => cases missing
    next => cases missing
    next =>
      cases missing
      simp

/-- What lies in the directory can always be read. -/
theorem Holds.load_undisturbed (holds : library.Holds disk shelf) (name : String) :
    ((library.answer Disk.own (.load name)).run disk).1.Undisturbed := by
  rw [answer_load, holds.shows.load]
  cases found : shelf.find name with
  | error failure =>
    intro path error disturbed
    exact find_undisturbed found path error (Option.some.inj disturbed)
  | ok entry => nofun

/-- What lies in the directory can always be removed. -/
theorem Holds.delete_undisturbed (holds : library.Holds disk shelf) (name : String) :
    ((library.answer Disk.own (.delete name)).run disk).1.Undisturbed := by
  rw [answer_delete]
  cases found : shelf.find name with
  | error failure =>
    rw [holds.shows.delete_missing found]
    intro path error disturbed
    exact find_undisturbed found path error (Option.some.inj disturbed)
  | ok entry =>
    obtain ⟨after, deleted, _⟩ := holds.delete_found found
    rw [deleted]
    nofun

theorem Roomy.delete (roomy : library.Roomy disk) (holds : library.Holds disk shelf)
    (name : String) : library.Roomy ((library.delete Disk.own name).run disk).2 := by
  cases found : shelf.find name with
  | error failure =>
    rw [holds.shows.delete_missing found]
    exact roomy
  | ok entry =>
    obtain ⟨here, enters, undirected, deleted⟩ := holds.delete_erases found
    rw [deleted]
    exact roomy.entered ((Disk.changes_erase undirected).enters enters)

/-- A call to a library that has room does not disturb the system, and leaves room. -/
theorem Roomy.answer (roomy : library.Roomy disk) (holds : library.Holds disk shelf) (call : Call)
    (brief : call.isBrief = true) :
    ((library.answer Disk.own call).run disk).1.Undisturbed ∧
      library.Roomy ((library.answer Disk.own call).run disk).2 := by
  cases call with
  | save name text =>
    rw [answer_save]
    cases accepted : storedName name with
    | error failure =>
      rw [save_refused accepted]
      exact ⟨nofun, roomy⟩
    | ok stored =>
      rw [Call.isBrief, accepted, decide_eq_true_eq] at brief
      obtain ⟨after, saved, next⟩ := roomy.save holds accepted brief text
      rw [saved]
      exact ⟨nofun, next⟩
  | load name =>
    refine ⟨holds.load_undisturbed name, ?_⟩
    rw [answer_load, holds.shows.load]
    exact roomy
  | delete name =>
    refine ⟨holds.delete_undisturbed name, ?_⟩
    rw [answer_delete]
    exact roomy.delete holds name

/-- No call to a library that has room disturbs the system. -/
theorem Roomy.serve (roomy : library.Roomy disk) (holds : library.Holds disk shelf)
    (calls : List Call) (brief : ∀ call ∈ calls, call.isBrief = true) :
    (∀ reply ∈ ((library.serve Disk.own calls).run disk).1, reply.Undisturbed) ∧
      library.Roomy ((library.serve Disk.own calls).run disk).2 := by
  -- A call that does not disturb the system leaves the scripts of the shelf, so the next has both.
  induction calls generalizing disk shelf with
  | nil => exact ⟨nofun, roomy⟩
  | cons call rest ih =>
    obtain ⟨first, later⟩ := List.forall_mem_cons.mp brief
    obtain ⟨quiet, room⟩ := roomy.answer holds call first
    obtain ⟨_, held, _⟩ := holds.answer call quiet
    obtain ⟨others, last⟩ := ih room held later
    rw [serve_cons, List.forall_mem_cons]
    exact ⟨⟨quiet, others⟩, last⟩

/-! ### A library on a fresh disk -/

/-- The scripts of a user, in the working directory of a fresh disk. -/
def scripts : Library := ⟨"scripts"⟩

private theorem locate_scripts :
    Disk.fresh.locate "scripts" = .ok (.absent ["work", "scripts"]) := by
  rw [Disk.locate, String.contains_char_eq]
  rfl

theorem scripts_absent : scripts.Absent Disk.fresh := by
  have missing : Disk.fresh.isDirectory "scripts" = false := by
    rw [Disk.isDirectory, Disk.find, locate_scripts]
  exact absent_of_missing Disk.fresh_nested missing (by decide) (by decide)

theorem scripts_roomy : scripts.Roomy Disk.fresh := by
  refine ⟨⟨Disk.fresh.put ["work", "scripts"] .directory, ["work", "scripts"], ?made, ?reached⟩,
    by decide, by decide⟩
  case made =>
    have parts : (Path.components "scripts").reverse = ["scripts"] := rfl
    rw [scripts, Disk.makeDirectories, parts, Disk.makeAll, Disk.ensureDirectory,
      Disk.makeDirectory, locate_scripts]
  case reached => rfl

section scripts

variable (calls : List Call) (brief : ∀ call ∈ calls, call.isBrief = true)
include brief

/-- Nothing disturbs the system when scripts are kept on a fresh disk under names that a directory
takes. -/
theorem scripts_undisturbed :
    ∀ reply ∈ ((scripts.serve Disk.own calls).run Disk.fresh).1, reply.Undisturbed :=
  (scripts_roomy.serve scripts_absent.holds calls brief).1

theorem scripts_serve :
    ((scripts.serve Disk.own calls).run Disk.fresh).1 = (Shelf.empty.serve calls).1 :=
  (scripts_absent.holds.serve calls (scripts_undisturbed calls brief)).1

theorem scripts_answer (call : Call) (last : call.isBrief = true) :
    ((scripts.answer Disk.own call).run ((scripts.serve Disk.own calls).run Disk.fresh).2).1 =
      ((Shelf.empty.serve calls).2.answer call).1 := by
  obtain ⟨undisturbed, room⟩ := scripts_roomy.serve scripts_absent.holds calls brief
  have held := (scripts_absent.holds.serve calls undisturbed).2
  exact (held.answer call (room.answer held call last).1).1

end scripts

end Library
end KeyGadget
