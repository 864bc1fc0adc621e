import KeyGadget.Files.Disk
import KeyGadget.Proofs.Words

/-!
# What lies in a directory

The path of a name in a directory leads to the directory first and then, by one more name, to what
lies there. A file that is put there or taken away changes nothing else that is found in the
directory, and a directory that can be reached is not made again.

## Main results

`look_eq_some_iff` says what is found under a name, `look_of_change` what a change under a name
leaves as it was.
-/
namespace KeyGadget

namespace Path

/-- A name between the slashes of a path. -/
structure IsPart (name : String) : Prop where
  nonempty : name ≠ ""
  plain : '/' ∉ name.toList

/-- A name under which something can lie in a directory. -/
structure IsName (name : String) : Prop extends IsPart name where
  notHere : name ≠ "."
  notAbove : name ≠ ".."

variable {root name : String}

private theorem pieces_plain (plain : '/' ∉ name.toList) :
    Text.pieces (· == '/') name.toList = [name.toList] :=
  Text.pieces_of_none name.toList (Text.beq_of_not_mem plain)

theorem names_join (isName : IsName name) : names (join root name) = names root ++ [name] := by
  have own := pieces_plain isName.plain
  have kept : name.toList ≠ [] := by simpa using isName.nonempty
  -- A slash is put in unless the path ends in one or is empty.
  by_cases ends : root.toList.getLast? = some '/'
  · obtain ⟨front, split⟩ := List.getLast?_eq_some_iff.mp ends
    have joined : (join root name).toList = front ++ '/' :: name.toList := by
      simp [join, String.toList_append, split]
    rw [names, names, joined, split, Text.pieces_append_cons _ front name.toList '/' rfl,
      Text.pieces_append_cons _ front [] '/' rfl, own]
    simp [Text.pieces, kept]
  · by_cases empty : root = ""
    · subst empty
      have joined : join "" name = name := by simp [join]
      rw [joined, names, own]
      simp [names, Text.pieces, kept]
    · have joined : (join root name).toList = root.toList ++ '/' :: name.toList := by
        simp [join, ends, empty, String.toList_append]
      rw [names, names, joined, Text.pieces_append_cons _ root.toList name.toList '/' rfl, own]
      simp [kept]

theorem join_ne_empty (isName : IsName name) : join root name ≠ "" := by
  rw [join]
  split <;> simp [isName.nonempty]

theorem isAbsolute_join (isName : IsName name) : isAbsolute (join root name) = isAbsolute root := by
  by_cases empty : root = ""
  · subst empty
    have relative : name.toList.head? ≠ some '/' := fun head =>
      isName.plain (List.mem_of_head? head)
    simpa [join, isAbsolute] using relative
  · obtain ⟨c, rest, chars⟩ : ∃ c rest, root.toList = c :: rest :=
      List.exists_cons_of_ne_nil (by simpa using empty)
    rw [isAbsolute, isAbsolute, join]
    split <;> simp [String.toList_append, chars]

private theorem join_chars (root name : String) :
    ∃ front, (join root name).toList = front ++ name.toList := by
  rw [join]
  split
  · exact ⟨root.toList, String.toList_append⟩
  · exact ⟨(root ++ "/").toList, String.toList_append⟩

theorem endsInSlash_join (isName : IsName name) : endsInSlash (join root name) = false := by
  obtain ⟨before, joined⟩ := join_chars root name
  obtain ⟨front, c, chars⟩ : ∃ front c, name.toList = front ++ [c] :=
    ⟨_, _, (List.dropLast_concat_getLast (by simpa using isName.nonempty)).symm⟩
  have other : c ≠ '/' := by
    rintro rfl
    exact isName.plain (by simp [chars])
  rw [endsInSlash, joined, chars, ← List.append_assoc, List.getLast?_concat]
  simpa using other

theorem mem_join_of_mem (c : Char) (member : c ∈ root.toList) : c ∈ (join root name).toList := by
  rw [join]
  split <;> simp [String.toList_append, member]

theorem mem_or_mem_of_mem_join {c : Char} (member : c ∈ (join root name).toList) :
    c ∈ root.toList ∨ c = '/' ∨ c ∈ name.toList := by
  rw [join] at member
  split at member
  · rw [String.toList_append, List.mem_append] at member
    exact member.imp_right Or.inr
  · rw [String.toList_append, String.toList_append, List.mem_append, List.mem_append] at member
    rcases member with (first | slash) | second
    · exact Or.inl first
    · exact Or.inr (Or.inl (by simpa using slash))
    · exact Or.inr (Or.inr second)

theorem utf8ByteSize_join_le :
    (join root name).utf8ByteSize ≤ root.utf8ByteSize + 1 + name.utf8ByteSize := by
  have slash : "/".utf8ByteSize = 1 := rfl
  rw [join]
  split <;> simp only [String.utf8ByteSize_append] <;> omega

theorem utf8ByteSize_le_join : root.utf8ByteSize ≤ (join root name).utf8ByteSize := by
  rw [join]
  split <;> simp only [String.utf8ByteSize_append] <;> omega

end Path

namespace Disk

/-- What the names of a path lead to. -/
def reach (disk : Disk) (path : String) : Except FileError Target :=
  disk.follow (.present (if Path.isAbsolute path then [] else disk.work) .directory)
    (Path.names path)

/-- A path is followed if it is a path at all. -/
theorem locate_eq_ok_iff (disk : Disk) (path : String) (target : Target) :
    disk.locate path = .ok target ↔
      ('\x00' ∉ path.toList ∧ path ≠ "" ∧ path.utf8ByteSize < pathLimit) ∧
        disk.reach path = .ok target := by
  rw [locate, String.contains_char_eq]
  by_cases clean : '\x00' ∈ path.toList
  · simp [clean]
  by_cases some : path = ""
  · simp [some]
  by_cases short : path.utf8ByteSize < pathLimit
  · simp [clean, some, short, Nat.not_le.mpr short, reach]
  · simp [clean, some, short, Nat.not_lt.mp short]

/-- The names of a path lead to one directory. -/
theorem eq_of_reach {disk : Disk} {root : String} {here there : Place}
    (first : disk.reach root = .ok (.present here .directory))
    (second : disk.reach root = .ok (.present there .directory)) : here = there := by
  simpa using first.symm.trans second

theorem follow_append (disk : Disk) (target : Target) (first second : List String) :
    disk.follow target (first ++ second) =
      match disk.follow target first with
      | .ok target => disk.follow target second
      | .error error => .error error := by
  induction first generalizing target with
  | nil => rw [List.nil_append, follow]
  | cons name rest ih =>
    rcases target with ⟨here, _ | _ | _⟩ | place
    -- What is not a directory gives the same error for the first name as for all.
    · rw [List.cons_append, follow, follow]
      cases disk.step here name with
      | ok target => exact ih target
      | error error => rfl
    all_goals rfl

/-- The way from a path to a name is open. -/
structure Enters (disk : Disk) (root name : String) (here : Place) : Prop where
  reached : disk.reach root = .ok (.present here .directory)
  clean : '\x00' ∉ (Path.join root name).toList
  short : (Path.join root name).utf8ByteSize < pathLimit
  brief : name.utf8ByteSize ≤ nameLimit

variable {disk after : Disk} {root name : String} {here : Place}

private theorem step_isName (isName : Path.IsName name) (disk : Disk) (here : Place) :
    disk.step here name =
      if nameLimit < name.utf8ByteSize then .error .nameTooLong
      else
        match disk.at? (here ++ [name]) with
        | some node => .ok (.present (here ++ [name]) node)
        | none => .ok (.absent (here ++ [name])) := by
  rw [step, beq_eq_false_iff_ne.mpr isName.notHere, beq_eq_false_iff_ne.mpr isName.notAbove]
  rfl

private theorem locate_clean (isName : Path.IsName name)
    (clean : '\x00' ∉ (Path.join root name).toList)
    (short : (Path.join root name).utf8ByteSize < pathLimit) :
    disk.locate (Path.join root name) =
      match disk.reach root with
      | .ok target => disk.follow target [name]
      | .error error => .error error := by
  have filled : (Path.join root name).isEmpty = false := by
    simpa using Path.join_ne_empty isName
  rw [locate, String.contains_char_eq, decide_eq_false clean, filled,
    if_neg (by decide), if_neg (by decide), if_neg (Nat.not_le.mpr short),
    Path.names_join isName, Path.isAbsolute_join isName, follow_append, ← reach]

theorem Enters.locate (enters : disk.Enters root name here) (isName : Path.IsName name) :
    disk.locate (Path.join root name) =
      match disk.at? (here ++ [name]) with
      | some node => .ok (.present (here ++ [name]) node)
      | none => .ok (.absent (here ++ [name])) := by
  rw [locate_clean isName enters.clean enters.short, enters.reached]
  simp only [follow, step_isName isName, if_neg (Nat.not_lt.mpr enters.brief)]
  cases disk.at? (here ++ [name]) <;> rfl

theorem enters_of_locate (isName : Path.IsName name) (target : Target)
    (located : disk.locate (Path.join root name) = .ok target) :
    ∃ here, disk.Enters root name here := by
  by_cases clean : '\x00' ∈ (Path.join root name).toList
  · simp [Disk.locate, String.contains_char_eq, clean] at located
  by_cases short : (Path.join root name).utf8ByteSize < pathLimit
  · -- Only a directory has names in it, and only names that are not too long are looked up.
    rw [locate_clean isName clean short] at located
    rcases reached : disk.reach root with error | ⟨here, _ | _ | _⟩ | place
    case ok.present.directory =>
      rw [reached] at located
      by_cases brief : name.utf8ByteSize ≤ nameLimit
      · exact ⟨here, reached, clean, short, brief⟩
      · simp [follow, step_isName isName, Nat.lt_of_not_le brief] at located
    all_goals
      rw [reached] at located
      cases located
  · simp [Disk.locate, String.contains_char_eq, clean, Nat.not_lt.mp short,
      Path.join_ne_empty isName] at located

theorem find_join (isName : Path.IsName name) :
    disk.find (Path.join root name) = disk.locate (Path.join root name) := by
  rw [find, Path.endsInSlash_join isName]
  rcases disk.locate (Path.join root name) with _ | ⟨_, _ | _ | _⟩ | _ <;> rfl

/-- What is found under a name in a directory. -/
def look (disk : Disk) (root name : String) : Option Node :=
  match disk.find (Path.join root name) with
  | .ok (.present _ node) => some node
  | _ => none

theorem Enters.look (enters : disk.Enters root name here) (isName : Path.IsName name) :
    disk.look root name = disk.at? (here ++ [name]) := by
  rw [Disk.look, find_join isName, enters.locate isName]
  cases disk.at? (here ++ [name]) <;> rfl

theorem look_eq_some_iff (isName : Path.IsName name) (node : Node) :
    disk.look root name = some node ↔
      ∃ here, disk.Enters root name here ∧ disk.at? (here ++ [name]) = some node := by
  constructor
  · intro found
    have located : ∃ target, disk.locate (Path.join root name) = .ok target := by
      rw [Disk.look, find_join isName] at found
      split at found
      next place other located => exact ⟨_, located⟩
      next => cases found
    obtain ⟨target, located⟩ := located
    obtain ⟨here, enters⟩ := enters_of_locate isName target located
    exact ⟨here, enters, by rw [← enters.look isName, found]⟩
  · rintro ⟨here, enters, found⟩
    rw [enters.look isName, found]

theorem isFile_join (disk : Disk) (root name : String) :
    disk.isFile (Path.join root name) =
      match disk.look root name with
      | some (.file _) => true
      | _ => false := by
  rw [isFile, Disk.look]
  rcases disk.find (Path.join root name) with _ | ⟨_, _ | _ | _⟩ | _ <;> rfl

theorem read_join (content : ByteArray) (found : disk.look root name = some (.file content)) :
    disk.read (Path.join root name) = .ok content := by
  rw [read]
  rw [Disk.look] at found
  split at found
  next place node located =>
    cases found
    rw [located]
  next => cases found

theorem Enters.remove (enters : disk.Enters root name here) (isName : Path.IsName name)
    (content : ByteArray) (found : disk.at? (here ++ [name]) = some (.file content)) :
    disk.remove (Path.join root name) = .ok (disk.erase (here ++ [name])) := by
  rw [Disk.remove, find_join isName, enters.locate isName, found]

/-- A file can be written under a name if neither a directory nor a device lies there. -/
theorem Enters.write (enters : disk.Enters root name here) (isName : Path.IsName name)
    (content : ByteArray) (undirected : disk.at? (here ++ [name]) ≠ some .directory)
    (hollow : disk.at? (here ++ [name]) ≠ some .full) :
    disk.write (Path.join root name) content = .ok (disk.put (here ++ [name]) (.file content)) := by
  rw [Disk.write, enters.locate isName, Path.endsInSlash_join isName]
  rcases found : disk.at? (here ++ [name]) with _ | _ | _ | _
  case some.directory => exact absurd found undirected
  case some.full => exact absurd found hollow
  all_goals rfl

/-- What is written under a name lies there, unless a device does. -/
theorem enters_of_write (isName : Path.IsName name) (content : ByteArray)
    (written : disk.write (Path.join root name) content = .ok after) :
    ∃ here, disk.Enters root name here ∧ disk.at? (here ++ [name]) ≠ some .directory ∧
      (after = disk.put (here ++ [name]) (.file content) ∨
        disk.at? (here ++ [name]) = some .full) := by
  have located : ∃ target, disk.locate (Path.join root name) = .ok target := by
    rw [write] at written
    split at written
    next => cases written
    next place located => exact ⟨_, located⟩
    next target _ located => exact ⟨_, located⟩
  obtain ⟨target, located⟩ := located
  obtain ⟨here, enters⟩ := enters_of_locate isName target located
  refine ⟨here, enters, ?_⟩
  rw [write, enters.locate isName, Path.endsInSlash_join isName] at written
  rcases found : disk.at? (here ++ [name]) with _ | _ | _ | _
  case none =>
    rw [found] at written
    cases written
    exact ⟨nofun, Or.inl rfl⟩
  case some.directory =>
    rw [found] at written
    cases written
  case some.file =>
    rw [found] at written
    cases written
    exact ⟨nofun, Or.inl rfl⟩
  case some.full => exact ⟨nofun, Or.inr rfl⟩

/-! ### Changes at one place -/

/-- Two disks differ at one place only, where there has been no directory. -/
structure Changes (disk after : Disk) (place : Place) : Prop where
  work : after.work = disk.work
  others : ∀ other, other ≠ place → after.at? other = disk.at? other
  undirected : disk.at? place ≠ some .directory

theorem changes_put (node : Node) {place : Place} (undirected : disk.at? place ≠ some .directory) :
    disk.Changes (disk.put place node) place :=
  ⟨rfl, fun _ different => at?_put_of_ne disk node different, undirected⟩

theorem changes_erase {place : Place} (undirected : disk.at? place ≠ some .directory) :
    disk.Changes (disk.erase place) place :=
  ⟨rfl, fun _ different => at?_erase_of_ne disk different, undirected⟩

private theorem Changes.directory {place : Place} (changes : disk.Changes after place)
    (other : Place) (directory : disk.at? other = some .directory) :
    after.at? other = some .directory := by
  rw [changes.others other, directory]
  rintro rfl
  exact changes.undirected directory

/-- Only a directory leads to a directory. -/
theorem follow_directory {target : Target} {names : List String}
    (followed : disk.follow target names = .ok (.present here .directory)) :
    ∃ place, target = .present place .directory := by
  cases names with
  | nil =>
    rw [follow] at followed
    cases followed
    exact ⟨here, rfl⟩
  | cons name rest =>
    rcases target with ⟨place, _ | _ | _⟩ | place
    case present.directory => exact ⟨place, rfl⟩
    all_goals cases followed

/-- A step to a directory is the same on a disk that has the directory too. -/
theorem step_kept {start next : Place}
    (stepped : disk.step start name = .ok (.present next .directory))
    (kept : disk.at? next = some .directory → after.at? next = some .directory) :
    after.step start name = .ok (.present next .directory) := by
  rw [Disk.step] at stepped ⊢
  split at stepped
  next stays =>
    rw [if_pos stays]
    exact stepped
  next moves =>
    rw [if_neg moves]
    split at stepped
    next rises =>
      rw [if_pos rises]
      exact stepped
    next descends =>
      rw [if_neg descends]
      split at stepped
      next => cases stepped
      next brief =>
        rw [if_neg brief]
        dsimp only at stepped ⊢
        split at stepped
        next node found =>
          cases stepped
          rw [kept found]
        next => cases stepped

/-- A way to a directory leads through directories only, so it stays open. -/
private theorem Changes.follow {place : Place} (changes : disk.Changes after place)
    (target : Target) (names : List String)
    (followed : disk.follow target names = .ok (.present here .directory)) :
    after.follow target names = .ok (.present here .directory) := by
  induction names generalizing target with
  | nil => exact followed
  | cons name rest ih =>
    obtain ⟨start, rfl⟩ := follow_directory followed
    rw [Disk.follow] at followed ⊢
    cases stepped : disk.step start name with
    | error error =>
      rw [stepped] at followed
      cases followed
    | ok next =>
      rw [stepped] at followed
      obtain ⟨between, rfl⟩ := follow_directory followed
      rw [step_kept stepped (changes.directory between)]
      exact ih _ followed

theorem Changes.enters {place : Place} (changes : disk.Changes after place)
    (enters : disk.Enters root name here) : after.Enters root name here := by
  refine ⟨?_, enters.clean, enters.short, enters.brief⟩
  rw [reach, changes.work]
  exact changes.follow _ _ enters.reached

/-- A change under one name changes nothing under the others. -/
theorem look_of_change (enters : disk.Enters root name here)
    (changes : disk.Changes after (here ++ [name])) {other : String} (isName : Path.IsName other)
    (different : other ≠ name) : after.look root other = disk.look root other := by
  have elsewhere : here ++ [other] ≠ here ++ [name] := by simpa using different
  have reached := (changes.enters enters).reached
  -- The way into the directory is open before and after, and leads to one place.
  apply Option.ext
  intro node
  rw [look_eq_some_iff isName, look_eq_some_iff isName]
  constructor
  · rintro ⟨there, opened, found⟩
    obtain rfl := eq_of_reach reached opened.reached
    rw [changes.others _ elsewhere] at found
    exact ⟨here, ⟨enters.reached, opened.clean, opened.short, opened.brief⟩, found⟩
  · rintro ⟨there, opened, found⟩
    obtain rfl := eq_of_reach enters.reached opened.reached
    rw [← changes.others _ elsewhere] at found
    exact ⟨here, ⟨reached, opened.clean, opened.short, opened.brief⟩, found⟩

theorem Enters.locate_root (enters : disk.Enters root name here) (some : root ≠ "") :
    disk.locate root = .ok (.present here .directory) := by
  have clean : '\x00' ∉ root.toList := fun member =>
    enters.clean (Path.mem_join_of_mem '\x00' member)
  have short : root.utf8ByteSize < pathLimit :=
    Nat.lt_of_le_of_lt Path.utf8ByteSize_le_join enters.short
  exact (locate_eq_ok_iff disk root _).mpr ⟨⟨clean, some, short⟩, enters.reached⟩

theorem Enters.isDirectory (enters : disk.Enters root name here) (some : root ≠ "") :
    disk.isDirectory root = true := by
  rw [Disk.isDirectory, find, enters.locate_root some]

/-- A directory that names can be entered in is not made again. -/
theorem makeDirectories_entered (enters : disk.Enters root name here) :
    makeDirectories root disk = (.ok (), disk) := by
  rw [makeDirectories]
  cases parts : (Path.components root).reverse with
  | nil => rfl
  | cons last above =>
    have some : root ≠ "" := by
      rintro rfl
      simp [Path.components, Path.names, Text.pieces, Path.isAbsolute] at parts
    have ensured : disk.ensureDirectory root = .ok disk := by
      rw [ensureDirectory, makeDirectory, enters.locate_root some]
      simp only [enters.isDirectory some, if_true]
    rw [makeAll, ensured]

end Disk
end KeyGadget
