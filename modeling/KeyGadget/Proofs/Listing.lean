import KeyGadget.Proofs.Room

/-!
# What is listed

A directory tells of everything that lies in it, once, and a library lists the scripts among it.
A script may be stored under a name that has the extension in capitals, for then no other extension
is added to it; but only the extension in small letters makes a listed script, so such a script is
stored and not listed. Neither is anything that a library with an empty path stores, for the empty
path leads to no directory.

## Main results

`mem_members_iff` says of what a directory tells, and `mem_scriptsOf` which of it is listed.

`stored_scripts_are_listed`: what is listed are the stored scripts whose names have the extension in
small letters, each of them once, with its size.
-/
namespace KeyGadget

open KeyGadget.Path (IsName)

namespace Disk

/-- There is one thing at a place. -/
def Unique (disk : Disk) : Prop :=
  (disk.entries.map Prod.fst).Nodup

variable {disk made : Disk} {here place : Place}

private theorem filter_places (disk : Disk) (place : Place) :
    (disk.entries.filter fun entry => entry.1 != place).map Prod.fst =
      (disk.entries.map Prod.fst).filter (· != place) := by
  rw [List.filter_map]
  rfl

theorem Unique.erase (unique : disk.Unique) (place : Place) : (disk.erase place).Unique := by
  rw [Unique, Disk.erase, filter_places]
  exact List.Nodup.sublist List.filter_sublist unique

theorem Unique.put (unique : disk.Unique) (place : Place) (node : Node) :
    (disk.put place node).Unique := by
  rw [Unique, Disk.put, List.map_append, filter_places, List.nodup_append]
  refine ⟨List.Nodup.sublist List.filter_sublist unique, by simp, ?_⟩
  intro other member last same
  obtain rfl : last = place := by simpa using same
  rintro rfl
  simp at member

private theorem Unique.ensureDirectory (unique : disk.Unique) {path : String}
    (ensured : disk.ensureDirectory path = .ok made) : made.Unique := by
  rcases ensureDirectory_cases ensured with rfl | ⟨place, _, rfl⟩
  · exact unique
  · exact unique.put place _

private theorem Unique.makeAll (unique : disk.Unique) (path : String) (parts : List String) :
    (disk.makeAll path parts).2.Unique := by
  induction parts generalizing path disk with
  | nil => exact unique
  | cons last above ih =>
    rw [Disk.makeAll]
    split
    next made ensured => exact unique.ensureDirectory ensured
    next =>
      have first := ih unique (pathOf above.reverse)
      split
      next between began =>
        rw [began] at first
        split
        next done ensured => exact first.ensureDirectory ensured
        next => exact first
      next => exact first
    next => exact unique

theorem Unique.makeDirectories (unique : disk.Unique) (path : String) :
    (Disk.makeDirectories path disk).2.Unique :=
  unique.makeAll path _

theorem Unique.mem_entries_iff (unique : disk.Unique) (below : place ≠ []) (node : Node) :
    (place, node) ∈ disk.entries ↔ disk.at? place = some node := by
  have looked : disk.at? place = disk.entries.lookup place := by simp [at?, below]
  rw [looked, List.lookup_eq_some_iff]
  constructor
  · intro member
    obtain ⟨before, behind, entries⟩ := List.append_of_mem member
    refine ⟨before, behind, entries, ?_⟩
    -- An entry for the same place before this one would be a second one.
    intro other earlier
    rw [bne_iff_ne]
    rintro rfl
    rw [Unique, entries, List.map_append, List.nodup_append] at unique
    exact unique.2.2 _ (List.mem_map_of_mem earlier) _ List.mem_cons_self rfl
  · rintro ⟨before, behind, entries, _⟩
    simp [entries]

end Disk

/-- What a directory tells about something that lies in it under a name. -/
def Member.ofNode (name : String) : Node → Member
  | .file content => ⟨name, true, content.size⟩
  | _ => ⟨name, false, 0⟩

namespace Disk

variable {disk : Disk} {here : Place}

private theorem memberOf_eq_some_iff (here : Place) (entry : Place × Node) (member : Member) :
    memberOf here entry = some member ↔
      entry.1 = here ++ [member.name] ∧ member = Member.ofNode member.name entry.2 := by
  obtain ⟨place, node⟩ := entry
  rw [memberOf]
  -- Only what is one name deeper than the directory is told of.
  rcases List.eq_nil_or_concat place with rfl | ⟨front, name, rfl⟩
  · simp
  · rw [List.concat_eq_append, List.getLast?_concat, List.dropLast_concat]
    dsimp only
    by_cases own : front = here
    · subst own
      rw [if_pos (by simp)]
      cases node
      all_goals
        simp only [Option.some.injEq, List.append_cancel_left_eq, List.cons.injEq, and_true]
        constructor
        · rintro rfl
          exact ⟨rfl, rfl⟩
        · rintro ⟨rfl, same⟩
          exact same.symm
    · rw [if_neg (by simpa using own)]
      simp [own]

/-- A directory tells of what lies in it, and of nothing else. -/
theorem mem_members_iff (unique : disk.Unique) (here : Place) (member : Member) :
    member ∈ disk.membersIn here ↔
      ∃ node, disk.at? (here ++ [member.name]) = some node ∧
        member = Member.ofNode member.name node := by
  rw [membersIn, List.mem_mergeSort, List.mem_filterMap]
  constructor
  · rintro ⟨⟨place, node⟩, entry, told⟩
    obtain ⟨rfl, shape⟩ := (memberOf_eq_some_iff here _ member).mp told
    exact ⟨node, (unique.mem_entries_iff (by simp) node).mp entry, shape⟩
  · rintro ⟨node, lies, shape⟩
    exact ⟨(here ++ [member.name], node), (unique.mem_entries_iff (by simp) node).mpr lies,
      (memberOf_eq_some_iff here _ member).mpr ⟨rfl, shape⟩⟩

/-- A directory tells of a name once. -/
theorem members_nodup (unique : disk.Unique) (here : Place) :
    ((disk.membersIn here).map (·.name)).Nodup := by
  rw [Unique, List.Nodup, List.pairwise_map] at unique
  rw [membersIn, ((List.mergeSort_perm _ _).map _).nodup_iff, List.Nodup, List.pairwise_map]
  refine unique.filterMap _ ?_
  intro first second different member told other toldOther same
  obtain ⟨place, _⟩ := (memberOf_eq_some_iff here first member).mp told
  obtain ⟨otherPlace, _⟩ := (memberOf_eq_some_iff here second other).mp toldOther
  exact different (by rw [place, otherPlace, same])

theorem list_directory {path : String}
    (located : disk.locate path = .ok (.present here .directory)) :
    disk.list path = .ok (disk.membersIn here) := by
  rw [list, find, located]

/-- What is not a directory is not listed. -/
theorem list_error {path : String}
    (closed : ∀ here, disk.locate path ≠ .ok (.present here .directory)) :
    ∃ error, disk.list path = .error error := by
  rw [list, find]
  rcases located : disk.locate path with error | ⟨place, _ | _ | _⟩ | place
  case ok.present.directory => exact absurd located (closed place)
  case error => exact ⟨error, rfl⟩
  case ok.absent => exact ⟨_, rfl⟩
  all_goals cases Path.endsInSlash path <;> exact ⟨_, rfl⟩

/-- The empty path leads nowhere, not even to the working directory. -/
theorem list_empty (disk : Disk) : disk.list "" = .error .missing := by
  rw [list, find, locate, String.contains_char_eq]
  rfl

theorem own_list (disk : Disk) (path : String) :
    (own.list path).run disk = (disk.list path, disk) := rfl

end Disk

/-! ### Scripts among the members of a directory -/

namespace Library

theorem mem_scriptsOf (members : List Member) (entry : Listed) :
    entry ∈ scriptsOf members ↔
      ∃ member ∈ members, isListed member = true ∧ entry = ⟨member.name, member.size⟩ := by
  rw [scriptsOf, List.mem_mergeSort, List.mem_map]
  simp only [List.mem_filter, and_assoc]
  exact exists_congr fun member => and_congr_right fun _ => and_congr_right fun _ => eq_comm

theorem scriptsOf_nodup (members : List Member) (unique : (members.map (·.name)).Nodup) :
    ((scriptsOf members).map (·.name)).Nodup := by
  rw [scriptsOf, (List.Perm.map _ (List.mergeSort_perm _ _)).nodup_iff, List.map_map]
  exact List.Nodup.sublist (List.Sublist.map _ List.filter_sublist) unique

/-- The names under which files are listed: they are not hidden, and have the extension in small
letters. -/
structure IsShown (name : String) : Prop where
  visible : name.toList.head? ≠ some '.'
  extended : extension <:+ name.toList

theorem isListed_iff (member : Member) :
    isListed member = true ↔ member.isFile = true ∧ IsShown member.name := by
  simp only [isListed, Bool.and_eq_true, bne_iff_ne, List.isSuffixOf_iff_suffix, and_assoc]
  exact and_congr_right fun _ => ⟨fun ⟨visible, extended⟩ => ⟨visible, extended⟩,
    fun shown => ⟨shown.visible, shown.extended⟩⟩

/-- What is listed of a directory are the files in it that have such names, with their sizes. -/
theorem mem_listing_iff {disk : Disk} (unique : disk.Unique) (here : Place) (entry : Listed) :
    entry ∈ scriptsOf (disk.membersIn here) ↔
      IsShown entry.name ∧ ∃ content,
        disk.at? (here ++ [entry.name]) = some (.file content) ∧ entry.size = content.size := by
  rw [mem_scriptsOf]
  constructor
  · rintro ⟨member, told, listed, rfl⟩
    obtain ⟨isFile, shown⟩ := (isListed_iff member).mp listed
    obtain ⟨node, lies, shape⟩ := (Disk.mem_members_iff unique here member).mp told
    refine ⟨shown, ?_⟩
    rw [shape] at isFile ⊢
    -- Of what can lie in a directory, only a file is told of as one.
    cases node with
    | file content => exact ⟨content, lies, rfl⟩
    | directory => cases isFile
    | full => cases isFile
  · rintro ⟨shown, content, lies, size⟩
    refine ⟨⟨entry.name, true, content.size⟩, ?_, (isListed_iff _).mpr ⟨rfl, shown⟩, ?_⟩
    · exact (Disk.mem_members_iff unique here _).mpr ⟨_, lies, rfl⟩
    · rw [← size]

/-! ### A library and all that lies in its directory -/

/-- All that lies in the directory of a library are these scripts, whatever its name. -/
def Covers (library : Library) (disk : Disk) (shelf : Shelf) : Prop :=
  ∀ here, disk.locate library.root = .ok (.present here .directory) →
    ∀ name, disk.at? (here ++ [name]) ≠ none → shelf name ≠ none

/-- A library has these scripts, and there is nothing else that its directory could tell of. -/
structure Stocks (library : Library) (disk : Disk) (shelf : Shelf) : Prop
    extends library.Holds disk shelf where
  unique : disk.Unique
  covers : library.Covers disk shelf
  renewed : ∀ made, Disk.makeDirectories library.root disk = (.ok (), made) →
    library.Covers made shelf
  proper : shelf.Proper

/-- The directory of a library does not exist, and nothing at all lies in it when it has been made.
-/
structure Vacant (library : Library) (disk : Disk) : Prop extends library.Absent disk where
  unique : disk.Unique
  bare : ∀ made, Disk.makeDirectories library.root disk = (.ok (), made) →
    library.Covers made Shelf.empty

variable {library : Library} {disk after : Disk} {shelf : Shelf} {name : String} {here : Place}

theorem vacant_of_missing (nested : disk.Nested) (unique : disk.Unique)
    (missing : disk.isDirectory library.root = false) (some : library.root ≠ "")
    (level : ".." ∉ Path.names library.root) : library.Vacant disk := by
  refine ⟨absent_of_missing nested missing some level, unique, ?_⟩
  intro made makes here located name filled
  exact absurd (Disk.at?_made nested missing level makes located name) filled

theorem Vacant.stocks (vacant : library.Vacant disk) : library.Stocks disk Shelf.empty := by
  refine ⟨vacant.toAbsent.holds, vacant.unique, ?_, vacant.bare, Shelf.empty_proper⟩
  intro here located
  have missing := vacant.missing
  rw [Disk.isDirectory, Disk.find, located] at missing
  cases missing

/-- The directory is there now, so what it holds does not depend on making it. -/
private theorem Stocks.made (stocks : library.Stocks disk shelf) {made : Disk}
    (making : Disk.makeDirectories library.root disk = (.ok (), made))
    (enters : made.Enters library.root name here) : library.Stocks made shelf := by
  have covers := stocks.renewed made making
  have unique := stocks.unique.makeDirectories library.root
  rw [making] at unique
  refine ⟨stocks.toHolds.made making enters, unique, covers, ?_, stocks.proper⟩
  intro again remade
  rw [Disk.makeDirectories_entered enters] at remade
  cases remade
  exact covers

/-- A change under one name is a change of one script. -/
private theorem Stocks.change (stocks : library.Stocks disk shelf) (isName : IsName name)
    (enters : disk.Enters library.root name here) (changes : disk.Changes after (here ++ [name]))
    (unique : after.Unique) (entry : Option String)
    (own : after.at? (here ++ [name]) = entry.map fun text => .file text.toUTF8)
    (proper : (shelf.set name entry).Proper) : library.Stocks after (shelf.set name entry) := by
  have entered := changes.enters enters
  have covers : library.Covers after (shelf.set name entry) := by
    intro there located other filled
    obtain ⟨isPath, reached⟩ := (Disk.locate_eq_ok_iff after library.root _).mp located
    -- The path leads to the same directory as before, where nothing else has changed.
    obtain rfl := Disk.eq_of_reach entered.reached reached
    by_cases same : other = name
    · subst same
      rw [own] at filled
      rw [Shelf.set_self]
      rintro rfl
      exact filled rfl
    · have elsewhere : here ++ [other] ≠ here ++ [name] := by simpa using same
      rw [changes.others _ elsewhere] at filled
      rw [Shelf.set_of_ne shelf entry same]
      exact stocks.covers here ((Disk.locate_eq_ok_iff disk library.root _).mpr
        ⟨isPath, enters.reached⟩) other filled
  refine ⟨stocks.toHolds.change isName enters changes entry own, unique, covers, ?_, proper⟩
  intro made making
  rw [Disk.makeDirectories_entered entered] at making
  cases making
  exact covers

/-- A call leaves a library with the scripts that it leaves on the shelf. -/
theorem Stocks.answer (stocks : library.Stocks disk shelf) (call : Call)
    (undisturbed : ((library.answer Disk.own call).run disk).1.Undisturbed) :
    library.Stocks ((library.answer Disk.own call).run disk).2 (shelf.answer call).2 := by
  have proper := stocks.proper.answer call
  cases call with
  | save name text =>
    rw [answer_save] at undisturbed ⊢
    rw [Shelf.answer] at proper ⊢
    cases accepted : storedName name with
    | error failure =>
      rw [save_refused accepted]
      exact stocks
    | ok stored =>
      rw [accepted] at proper
      rcases stocks.save_puts accepted text with
        ⟨path, error, after, disturbed⟩ | ⟨made, here, making, enters, undirected, saved⟩
      · rw [disturbed] at undisturbed
        exact absurd rfl (undisturbed path error)
      · rw [saved]
        have made := stocks.made making enters
        exact made.change (storedName_ok accepted).isName enters (Disk.changes_put _ undirected)
          (made.unique.put _ _) (some text) (Disk.at?_put_self _ _ _ (by simp)) proper
  | load name =>
    rw [answer_load, stocks.shows.load]
    exact stocks
  | delete name =>
    rw [answer_delete]
    rw [Shelf.answer] at proper ⊢
    cases found : shelf.find name with
    | error failure =>
      rw [stocks.shows.delete_missing found]
      exact stocks
    | ok entry =>
      rw [found] at proper
      obtain ⟨here, enters, undirected, deleted⟩ := stocks.delete_erases found
      rw [deleted]
      exact stocks.change (Shelf.find_ok found).1 enters (Disk.changes_erase undirected)
        (stocks.unique.erase _) none (Disk.at?_erase_self _ _ (by simp)) proper

/-- Calls leave a library with the scripts that they leave on the shelf. -/
theorem Stocks.serve (stocks : library.Stocks disk shelf) (calls : List Call)
    (undisturbed : ∀ reply ∈ ((library.serve Disk.own calls).run disk).1, reply.Undisturbed) :
    library.Stocks ((library.serve Disk.own calls).run disk).2 (shelf.serve calls).2 := by
  -- The disk of each call stocks the shelf of that call.
  induction calls generalizing disk shelf with
  | nil => exact stocks
  | cons call rest ih =>
    rw [serve_cons] at undisturbed ⊢
    obtain ⟨first, later⟩ := List.forall_mem_cons.mp undisturbed
    exact ih (stocks.answer call first) later

/-! ### What a library lists -/

/-- What a directory can tell of under a name is the script that is stored under it. -/
private theorem Stocks.lies_iff (stocks : library.Stocks disk shelf)
    (located : disk.locate library.root = .ok (.present here .directory)) (name : String)
    (node : Node) :
    disk.at? (here ++ [name]) = some node ↔
      ∃ text, shelf name = some text ∧ node = .file text.toUTF8 := by
  have stored (text : String) (own : shelf name = some text) :
      disk.at? (here ++ [name]) = some (.file text.toUTF8) := by
    obtain ⟨there, enters, lies⟩ := stocks.lies own
    obtain ⟨_, reached⟩ := (Disk.locate_eq_ok_iff disk library.root _).mp located
    obtain rfl := Disk.eq_of_reach reached enters.reached
    exact lies
  constructor
  · intro lies
    have filled : shelf name ≠ none := stocks.covers here located name (by
      rw [lies]
      nofun)
    obtain ⟨text, own⟩ := Option.ne_none_iff_exists'.mp filled
    refine ⟨text, own, ?_⟩
    rw [stored text own] at lies
    exact (Option.some.inj lies).symm
  · rintro ⟨text, own, rfl⟩
    exact stored text own

/-- The scripts that a library lists, if its directory is there. -/
private theorem Stocks.mem_listed_iff (stocks : library.Stocks disk shelf)
    (located : disk.locate library.root = .ok (.present here .directory)) (entry : Listed) :
    entry ∈ scriptsOf (disk.membersIn here) ↔
      ∃ text, shelf entry.name = some text ∧ entry.size = text.utf8ByteSize ∧
        extension <:+ entry.name.toList := by
  rw [mem_listing_iff stocks.unique]
  simp only [stocks.lies_iff located]
  constructor
  · rintro ⟨shown, content, ⟨text, own, same⟩, size⟩
    cases same
    exact ⟨text, own, size, shown.extended⟩
  · rintro ⟨text, own, size, extended⟩
    -- A script is not hidden, so it is left to its extension whether it is listed.
    obtain ⟨c, rest, chars, other⟩ := (stocks.proper.isScript own).visible
    exact ⟨⟨by simpa [chars] using other, extended⟩, _, ⟨text, own, rfl⟩, size⟩

/-- What a library makes of what the files tell of its directory. -/
def listing (library : Library) : Except FileError (List Member) → Except Failure (List Listed)
  | .ok members => .ok (scriptsOf members)
  | .error .missing => .ok []
  | .error error => .error (.inaccessible library.root error)

theorem list_run {files : Files (StateM Disk)} {found : Except FileError (List Member)}
    (tells : (files.list library.root).run disk = (found, disk)) :
    (library.list files).run disk = (library.listing found, disk) := by
  rw [Library.list, StateT.run_bind, tells]
  rcases found with error | members
  · cases error <;> rfl
  · rfl

/-- What is listed are the scripts with the extension in small letters. The system has an error to
report only if there are no scripts at all. -/
theorem Stocks.list (stocks : library.Stocks disk shelf) :
    (∃ error, (library.list Disk.own).run disk = (.error (.inaccessible library.root error), disk) ∧
      ∀ name, shelf name = none) ∨
    ∃ listed, (library.list Disk.own).run disk = (.ok listed, disk) ∧
      (listed.map (·.name)).Nodup ∧
      ∀ entry, entry ∈ listed ↔ library.root ≠ "" ∧ ∃ text, shelf entry.name = some text ∧
        entry.size = text.utf8ByteSize ∧ extension <:+ entry.name.toList := by
  rw [list_run (Disk.own_list disk _)]
  by_cases opens : ∃ here, disk.locate library.root = .ok (.present here .directory)
  · obtain ⟨here, located⟩ := opens
    have some : library.root ≠ "" := ((Disk.locate_eq_ok_iff disk library.root _).mp located).1.2.1
    rw [Disk.list_directory located]
    refine Or.inr ⟨_, rfl, scriptsOf_nodup _ (Disk.members_nodup stocks.unique here), ?_⟩
    intro entry
    rw [stocks.mem_listed_iff located]
    exact (and_iff_right some).symm
  · -- Nothing is stored then, unless the path of the library is empty.
    have empty (name : String) (text : String) (own : shelf name = some text) :
        library.root = "" := by
      by_contra some
      obtain ⟨here, enters, _⟩ := stocks.lies own
      exact opens ⟨here, enters.locate_root some⟩
    have nothing : ∀ entry : Listed, entry ∈ ([] : List Listed) ↔ library.root ≠ "" ∧
        ∃ text, shelf entry.name = some text ∧ entry.size = text.utf8ByteSize ∧
          extension <:+ entry.name.toList := by
      intro entry
      constructor
      · nofun
      · rintro ⟨some, text, own, _⟩
        exact absurd (empty entry.name text own) some
    obtain ⟨error, failed⟩ := Disk.list_error fun here located => opens ⟨here, located⟩
    rw [failed]
    cases error
    case missing => exact Or.inr ⟨[], rfl, List.nodup_nil, nothing⟩
    all_goals
      refine Or.inl ⟨_, rfl, fun name => ?_⟩
      cases own : shelf name with
      | none => rfl
      | some text =>
        rw [empty name text own, Disk.list_empty] at failed
        cases failed

private theorem scripts_vacant : scripts.Vacant Disk.fresh := by
  have unique : Disk.fresh.Unique := by
    rw [Disk.Unique]
    decide
  exact vacant_of_missing Disk.fresh_nested unique scripts_absent.missing (by decide) (by decide)

end Library

open Library (Call extension)

/-- **Stored scripts are listed.** Behind any calls to a library whose directory does not exist at
first, all of them answered as the shelf answers them, a listing changes nothing and has one entry
for each script on the shelf whose name ends in the extension in small letters, with the size of its
text, and no other entry. A library with an empty path lists nothing. The system has no error to
report if there is a script on the shelf. -/
theorem stored_scripts_are_listed (library : Library) (disk : Disk) (vacant : library.Vacant disk)
    (calls : List Call)
    (undisturbed : ∀ reply ∈ ((library.serve Disk.own calls).run disk).1, reply.Undisturbed) :
    let (replies, after) := (library.serve Disk.own calls).run disk
    let (expected, shelf) := Shelf.empty.serve calls
    let (result, next) := (library.list Disk.own).run after
    replies = expected ∧ next = after ∧
    ((∃ name, shelf name ≠ none) → ∃ listed, result = .ok listed) ∧
    ((∀ path error, result ≠ .error (.inaccessible path error)) →
      ∃ listed, result = .ok listed ∧ (listed.map (·.name)).Nodup ∧
        ∀ entry, entry ∈ listed ↔ library.root ≠ "" ∧ ∃ text, shelf entry.name = some text ∧
          entry.size = text.utf8ByteSize ∧ extension <:+ entry.name.toList) := by
  have same := (vacant.toAbsent.holds.serve calls undisturbed).1
  have stocks := vacant.stocks.serve calls undisturbed
  rcases served : (library.serve Disk.own calls).run disk with ⟨replies, after⟩
  rcases kept : Shelf.empty.serve calls with ⟨expected, shelf⟩
  rw [served, kept] at same stocks
  dsimp only at same stocks ⊢
  rcases stocks.list with ⟨error, failed, bare⟩ | ⟨listed, succeeded, unique, exact⟩
  · rw [failed]
    refine ⟨same, rfl, ?_, ?_⟩
    · rintro ⟨name, filled⟩
      exact absurd (bare name) filled
    · intro calm
      exact absurd rfl (calm library.root error)
  · rw [succeeded]
    exact ⟨same, rfl, fun _ => ⟨listed, rfl⟩, fun _ => ⟨listed, rfl, unique, exact⟩⟩

/-- What is listed behind two scripts that are saved and one that is deleted. -/
theorem stored_scripts_are_listed_one_left :
    let calls : List Call :=
      [.save "docs/hello" "STRING hi", .save "B.txt" "STRING é", .delete "hello.txt"]
    Library.scripts.Vacant Disk.fresh ∧
    (∀ reply ∈ ((Library.scripts.serve Disk.own calls).run Disk.fresh).1, reply.Undisturbed) ∧
    ∃ listed, ((Library.scripts.list Disk.own).run
        ((Library.scripts.serve Disk.own calls).run Disk.fresh).2).1 = .ok listed ∧
      ⟨"B.txt", 9⟩ ∈ listed ∧ ∀ size, ⟨"hello.txt", size⟩ ∉ listed := by
  intro calls
  have undisturbed := Library.scripts_undisturbed calls (by decide)
  have told :=
    stored_scripts_are_listed Library.scripts Disk.fresh Library.scripts_vacant calls undisturbed
  refine ⟨Library.scripts_vacant, undisturbed, ?_⟩
  have added : (Shelf.empty.serve calls).2 "B.txt" = some "STRING é" := rfl
  have dropped : (Shelf.empty.serve calls).2 "hello.txt" = none := rfl
  rcases served : (Library.scripts.serve Disk.own calls).run Disk.fresh with ⟨replies, after⟩
  rcases kept : Shelf.empty.serve calls with ⟨expected, shelf⟩
  rw [kept] at added dropped
  rw [served, kept] at told
  dsimp only at told added dropped ⊢
  rcases listing : (Library.scripts.list Disk.own).run after with ⟨result, next⟩
  rw [listing] at told
  obtain ⟨_, _, succeeds, exact⟩ := told
  have filled : ∃ name, shelf name ≠ none := ⟨"B.txt", by
    rw [added]
    nofun⟩
  obtain ⟨listed, rfl⟩ := succeeds filled
  obtain ⟨_, same, _, members⟩ := exact nofun
  cases same
  refine ⟨listed, rfl, ?_, ?_⟩
  · exact (members _).mpr ⟨by decide, _, added, rfl, by decide⟩
  · intro size member
    obtain ⟨_, text, own, _⟩ := (members _).mp member
    rw [dropped] at own
    cases own

/-- A script with the extension in capitals is stored, but not listed. -/
theorem script_in_capitals_is_not_listed :
    let calls : List Call := [.save "a.TXT" "ENTER", .load "a.TXT"]
    Library.scripts.Vacant Disk.fresh ∧
    (∀ reply ∈ ((Library.scripts.serve Disk.own calls).run Disk.fresh).1, reply.Undisturbed) ∧
    ((Library.scripts.serve Disk.own calls).run Disk.fresh).1 =
      [.saved (.ok "a.TXT"), .loaded (.ok "ENTER")] ∧
    ((Library.scripts.list Disk.own).run
      ((Library.scripts.serve Disk.own calls).run Disk.fresh).2).1 = .ok [] := by
  intro calls
  have brief : ∀ call ∈ calls, call.isBrief = true := by decide
  have undisturbed := Library.scripts_undisturbed calls brief
  refine ⟨Library.scripts_vacant, undisturbed, ?stored, ?unlisted⟩
  case stored =>
    rw [Library.scripts_serve calls brief]
    rfl
  case unlisted =>
    have stocks := Library.scripts_vacant.stocks.serve calls undisturbed
    have shelved : (Shelf.empty.serve calls).2 = Shelf.empty.set "a.TXT" (some "ENTER") := rfl
    rw [shelved] at stocks
    rcases stocks.list with ⟨_, _, bare⟩ | ⟨listed, succeeded, _, exact⟩
    · exact absurd (bare "a.TXT") (by decide)
    · have nothing : ∀ entry, entry ∉ listed := by
        intro entry member
        obtain ⟨_, text, own, _, extended⟩ := (exact entry).mp member
        by_cases only : entry.name = "a.TXT"
        · rw [only] at extended
          exact absurd extended (by decide)
        · rw [Shelf.set_of_ne _ _ only] at own
          cases own
      rw [succeeded, List.eq_nil_iff_forall_not_mem.mpr nothing]

end KeyGadget
