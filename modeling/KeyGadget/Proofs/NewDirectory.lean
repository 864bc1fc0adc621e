import KeyGadget.Proofs.Directory

/-!
# Making directories

A directory that does not exist is made together with those above it. On a disk on which everything
lies in a directory, nothing can lie in the new one: all that is made on the way is no deeper than
the directory itself, and what is not new has been found before.

## Main result

`at?_made`: nothing lies in a directory that has just been made, unless its path goes up.
-/
namespace KeyGadget

namespace Text

theorem inside_pieces (p : Char → Bool) (s : List Char) :
    ∀ part ∈ pieces p s, ∀ c ∈ part, p c = false := by
  induction s with
  | nil => simp [pieces]
  | cons d rest ih =>
    rw [pieces]
    split
    next => simpa using ih
    next inside =>
      split
      next none => exact absurd none (pieces_ne_nil p rest)
      next piece others found =>
        rw [found, List.forall_mem_cons] at ih
        rw [List.forall_mem_cons, List.forall_mem_cons]
        exact ⟨⟨by simpa using inside, ih.1⟩, ih.2⟩

end Text

namespace Path

theorem isPart_of_mem_names {path name : String} (member : name ∈ names path) : IsPart name := by
  rw [names, List.mem_map] at member
  obtain ⟨part, found, rfl⟩ := member
  rw [List.mem_filter] at found
  constructor
  · simpa using found.2
  · intro slash
    rw [String.toList_ofList] at slash
    exact absurd (Text.inside_pieces _ _ part found.1 '/' slash) (by decide)

private theorem pieces_intercalate_parts (parts : List String) (some : parts ≠ [])
    (every : ∀ part ∈ parts, IsPart part) :
    Text.pieces (· == '/') ("/".intercalate parts).toList = parts.map String.toList := by
  have joined : ("/".intercalate parts).toList = ['/'].intercalate (parts.map String.toList) :=
    String.toList_intercalate
  rw [joined]
  apply Text.pieces_intercalate '/' rfl _ (by simpa using some)
  rw [List.forall_mem_map]
  intro part member
  exact Text.beq_of_not_mem (every part member).plain

private theorem filter_parts (parts : List String) (every : ∀ part ∈ parts, IsPart part) :
    ((parts.map String.toList).filter fun name => !name.isEmpty).map String.ofList = parts := by
  have kept : (parts.map String.toList).filter (fun name => !name.isEmpty) =
      parts.map String.toList := by
    rw [List.filter_eq_self, List.forall_mem_map]
    intro part member
    simpa using (every part member).nonempty
  rw [kept, List.map_map]
  simp [Function.comp_def]

theorem names_intercalate (parts : List String) (every : ∀ part ∈ parts, IsPart part) :
    names ("/".intercalate parts) = parts := by
  by_cases some : parts = []
  · subst some
    rfl
  · rw [names, pieces_intercalate_parts parts some every, filter_parts parts every]

theorem names_slash_intercalate (parts : List String) (every : ∀ part ∈ parts, IsPart part) :
    names ("/" ++ "/".intercalate parts) = parts := by
  by_cases some : parts = []
  · subst some
    rfl
  · have rooted : ("/" ++ "/".intercalate parts).toList =
        [] ++ '/' :: ("/".intercalate parts).toList := by
      rw [String.toList_append]
      rfl
    rw [names, rooted, Text.pieces_append_cons _ [] _ '/' rfl,
      pieces_intercalate_parts parts some every]
    exact filter_parts parts every

/-- The names of a path that lead on. -/
def moves (names : List String) : List String :=
  names.filter (· != ".")

end Path

namespace Disk

open KeyGadget.Path (moves)

/-- The place that a name has led to, with something there or not. -/
def Target.place : Target → Place
  | .present place _ => place
  | .absent place => place

variable {disk made : Disk} {path root : String}

private theorem step_level {start : Place} {name : String} {next : Target} (level : name ≠ "..")
    (stepped : disk.step start name = .ok next) : next.place = start ++ moves [name] := by
  rw [step, beq_eq_false_iff_ne.mpr level] at stepped
  by_cases stays : name = "."
  · subst stays
    cases stepped
    simp [moves, Target.place]
  · have led : moves [name] = [name] := by simp [moves, stays]
    rw [beq_eq_false_iff_ne.mpr stays] at stepped
    dsimp only at stepped
    rw [if_neg (by decide), if_neg (by decide)] at stepped
    split at stepped
    next => cases stepped
    next =>
      split at stepped <;> cases stepped <;> rw [led] <;> rfl

/-- A path that does not go up leads to where its names say. -/
theorem follow_level {names : List String} (level : ".." ∉ names) {start target : Target}
    (followed : disk.follow start names = .ok target) :
    target.place = start.place ++ moves names := by
  induction names generalizing start with
  | nil =>
    rw [follow] at followed
    cases followed
    exact (List.append_nil _).symm
  | cons name rest ih =>
    rw [List.mem_cons, not_or] at level
    rcases start with ⟨here, _ | _ | _⟩ | place
    case present.directory =>
      rw [follow] at followed
      cases stepped : disk.step here name with
      | error error =>
        rw [stepped] at followed
        cases followed
      | ok next =>
        rw [stepped] at followed
        have later := ih level.2 followed
        rw [step_level (Ne.symm level.1) stepped] at later
        rw [later, List.append_assoc]
        congr 1
        exact (List.filter_append [name] rest).symm
    all_goals cases followed

/-- A path that does not go up, to a place of at most this many names. -/
structure Within (disk : Disk) (depth : Nat) (path : String) : Prop where
  level : ".." ∉ Path.names path
  bound : (if Path.isAbsolute path then [] else disk.work).length +
    (moves (Path.names path)).length ≤ depth

/-- Nothing has changed deeper than this. -/
structure KeptBelow (disk made : Disk) (depth : Nat) : Prop where
  work : made.work = disk.work
  deeper : ∀ place, depth < place.length → made.at? place = disk.at? place

private theorem KeptBelow.trans {between : Disk} {depth : Nat}
    (first : disk.KeptBelow between depth) (second : between.KeptBelow made depth) :
    disk.KeptBelow made depth :=
  ⟨second.work.trans first.work,
    fun place deep => (second.deeper place deep).trans (first.deeper place deep)⟩

/-- A directory that has been ensured was there, or it is the one thing that is new. -/
theorem ensureDirectory_cases (ensured : disk.ensureDirectory path = .ok made) :
    made = disk ∨
      ∃ place, disk.locate path = .ok (.absent place) ∧ made = disk.put place .directory := by
  rw [ensureDirectory, makeDirectory] at ensured
  rcases located : disk.locate path with error | ⟨place, node⟩ | place
  case ok.absent =>
    rw [located] at ensured
    cases ensured
    exact Or.inr ⟨place, rfl, rfl⟩
  all_goals
    rw [located] at ensured
    dsimp only at ensured
    split at ensured <;> cases ensured
    exact Or.inl rfl

private theorem ensureDirectory_kept {depth : Nat} (within : disk.Within depth path)
    (ensured : disk.ensureDirectory path = .ok made) : disk.KeptBelow made depth := by
  rcases ensureDirectory_cases ensured with rfl | ⟨place, located, rfl⟩
  · exact ⟨rfl, fun _ _ => rfl⟩
  · -- The new directory lies where the path leads.
    have followed := ((locate_eq_ok_iff disk path _).mp located).2
    have led := follow_level within.level followed
    have short : place.length ≤ depth := by
      have length := congrArg List.length led
      rw [List.length_append] at length
      have bound := within.bound
      simp only [Target.place] at length
      omega
    refine ⟨rfl, fun other deep => at?_put_of_ne disk _ ?_⟩
    rintro rfl
    omega

private theorem makeAll_kept {depth : Nat} (parts : List String)
    (every : ∀ above, above <:+ parts → above ≠ [] →
      disk.Within depth (pathOf above.reverse))
    (own : parts ≠ [] → disk.Within depth path)
    (makes : disk.makeAll path parts = (.ok (), made)) : disk.KeptBelow made depth := by
  induction parts generalizing path made with
  | nil =>
    cases makes
    exact ⟨rfl, fun _ _ => rfl⟩
  | cons last above ih =>
    have within := own (List.cons_ne_nil _ _)
    rw [makeAll] at makes
    cases ensured : disk.ensureDirectory path with
    | ok done =>
      rw [ensured] at makes
      cases makes
      exact ensureDirectory_kept within ensured
    | error error =>
      rw [ensured] at makes
      cases error
      case missing =>
        -- The directories above are made first, and then this one is tried again.
        dsimp only at makes
        rcases began : disk.makeAll (pathOf above.reverse) above with ⟨_ | _, between⟩
        · rw [began] at makes
          cases makes
        · have first := ih (fun higher suffix => every higher (suffix.trans (List.suffix_cons _ _)))
            (every above (List.suffix_cons _ _)) began
          have again : between.Within depth path := ⟨within.level, by
            rw [first.work]
            exact within.bound⟩
          rw [began] at makes
          dsimp only at makes
          cases done : between.ensureDirectory path with
          | error error =>
            rw [done] at makes
            cases makes
          | ok last =>
            rw [done] at makes
            cases makes
            exact first.trans (ensureDirectory_kept again done)
      all_goals cases makes

private theorem pathOf_cons {first : String} (isPart : Path.IsPart first) (rest : List String) :
    pathOf (first :: rest) = "/".intercalate (first :: rest) := by
  rw [pathOf]
  rintro others same
  rw [List.cons.injEq] at same
  exact isPart.plain (by simp [same.1])

private theorem isAbsolute_intercalate {first : String} (isPart : Path.IsPart first)
    (rest : List String) : Path.isAbsolute ("/".intercalate (first :: rest)) = false := by
  obtain ⟨c, chars, started⟩ : ∃ c chars, first.toList = c :: chars :=
    List.exists_cons_of_ne_nil (by simpa using isPart.nonempty)
  have other : c ≠ '/' := by
    rintro rfl
    exact isPart.plain (by simp [started])
  have head : ("/".intercalate (first :: rest)).toList.head? = some c := by
    rw [String.toList_intercalate, List.map_cons, started]
    cases rest <;> simp
  rw [Path.isAbsolute, head]
  simpa using other

/-- The path of the first components of a path leads less deep. -/
private theorem within_components (disk : Disk) (level : ".." ∉ Path.names root)
    (parts : List String) (front : parts <+: Path.components root) (some : parts ≠ []) :
    disk.Within ((if Path.isAbsolute root then [] else disk.work).length +
      (moves (Path.names root)).length) (pathOf parts) := by
  -- It starts where the path starts, and it has no names that the path has not.
  suffices facts : Path.isAbsolute (pathOf parts) = Path.isAbsolute root ∧
      (∀ name ∈ Path.names (pathOf parts), name ∈ Path.names root) ∧
      (moves (Path.names (pathOf parts))).length ≤ (moves (Path.names root)).length by
    obtain ⟨starts, known, fewer⟩ := facts
    exact ⟨fun rises => level (known _ rises), by rw [starts]; omega⟩
  cases absolute : Path.isAbsolute root with
  | true =>
    rw [Path.components, absolute, if_pos rfl, List.prefix_cons_iff] at front
    rcases front with rfl | ⟨rest, rfl, front⟩
    · exact absurd rfl some
    have known : ∀ name ∈ rest, name ∈ Path.names root := fun name member =>
      (List.mem_filter.mp (front.subset member)).1
    have named : Path.names (pathOf ("/" :: rest)) = rest :=
      Path.names_slash_intercalate rest fun name member =>
        Path.isPart_of_mem_names (known name member)
    have rooted : Path.isAbsolute (pathOf ("/" :: rest)) = true := by
      rw [pathOf, Path.isAbsolute, String.toList_append]
      rfl
    rw [named]
    refine ⟨rooted, known, ?_⟩
    calc (moves rest).length
      _ ≤ rest.length := List.length_filter_le _ _
      _ ≤ (moves (Path.names root)).length := front.length_le
  | false =>
    -- A relative path may keep a dot as its first component, and no other.
    rw [Path.components, absolute, if_neg (by decide)] at front
    have known : ∀ name ∈ parts, name ∈ Path.names root := by
      intro name member
      rcases List.mem_append.mp (front.subset member) with first | later
      · exact List.mem_of_mem_take first
      · exact List.mem_of_mem_drop (List.mem_filter.mp later).1
    have every : ∀ name ∈ parts, Path.IsPart name := fun name member =>
      Path.isPart_of_mem_names (known name member)
    cases parts with
    | nil => exact absurd rfl some
    | cons first rest =>
      have isPart := every first List.mem_cons_self
      rw [pathOf_cons isPart rest, Path.names_intercalate (first :: rest) every]
      refine ⟨isAbsolute_intercalate isPart rest, known, ?_⟩
      have settled : moves ((Path.names root).take 1 ++ moves ((Path.names root).drop 1)) =
          moves (Path.names root) := by
        simp only [moves, List.filter_append, List.filter_filter, Bool.and_self]
        rw [← List.filter_append, List.take_append_drop]
      have fewer := (front.sublist.filter (· != ".")).length_le
      rwa [← moves, ← moves, ← moves, settled] at fewer

/-- Everything on a disk lies in a directory. -/
def Nested (disk : Disk) : Prop :=
  ∀ place name node, disk.at? (place ++ [name]) = some node → disk.at? place = some .directory

theorem fresh_nested : fresh.Nested := by
  have above : ∀ entry ∈ fresh.entries, fresh.at? entry.1.dropLast = some .directory := by
    intro entry member
    simp only [fresh, List.mem_cons, List.not_mem_nil, or_false] at member
    rcases member with rfl | rfl | rfl | rfl | rfl <;> rfl
  intro place name node found
  have filled : (place ++ [name]).isEmpty = false := by simp
  rw [at?, filled, if_neg (by decide)] at found
  obtain ⟨before, behind, entries, _⟩ := List.lookup_eq_some_iff.mp found
  have member : (place ++ [name], node) ∈ fresh.entries := by simp [entries]
  simpa using above _ member

private theorem Nested.above (nested : disk.Nested) {place : Place} (below : Place)
    (directory : disk.at? (place ++ below) = some .directory) :
    disk.at? place = some .directory := by
  induction below generalizing place with
  | nil => simpa using directory
  | cons name rest ih =>
    have next : disk.at? (place ++ [name]) = some .directory := ih (by simpa using directory)
    exact nested place name _ next

/-- A way that is open after directories have been made was open before, if the directory to which
it leads has been there. -/
private theorem follow_before (nested : disk.Nested) {names : List String} (level : ".." ∉ names)
    {start here : Place} (directory : disk.at? here = some .directory)
    (followed : made.follow (.present start .directory) names = .ok (.present here .directory)) :
    disk.follow (.present start .directory) names = .ok (.present here .directory) := by
  induction names generalizing start with
  | nil => exact followed
  | cons name rest ih =>
    rw [List.mem_cons, not_or] at level
    rw [follow] at followed ⊢
    cases stepped : made.step start name with
    | error error =>
      rw [stepped] at followed
      cases followed
    | ok next =>
      rw [stepped] at followed
      obtain ⟨place, rfl⟩ := follow_directory followed
      -- The path goes down from here on, so this place lies above the one that it leads to.
      have led : here = place ++ moves rest := follow_level level.2 followed
      have there : disk.at? place = some .directory := nested.above (moves rest) (led ▸ directory)
      rw [step_kept stepped fun _ => there]
      exact ih level.2 followed

/-- Nothing lies in a directory that has just been made, whatever the name. -/
theorem at?_made (nested : disk.Nested) (missing : disk.isDirectory root = false)
    (level : ".." ∉ Path.names root) (makes : makeDirectories root disk = (.ok (), made))
    {here : Place} (located : made.locate root = .ok (.present here .directory)) (name : String) :
    made.at? (here ++ [name]) = none := by
  obtain ⟨isPath, followed⟩ := (locate_eq_ok_iff made root _).mp located
  have kept := makeAll_kept (Path.components root).reverse
    (fun above suffix some => within_components disk level above.reverse
      (by simpa using List.reverse_prefix.mpr suffix) (by simpa using some))
    (fun _ => ⟨level, Nat.le_refl _⟩) makes
  cases lies : made.at? (here ++ [name]) with
  | none => rfl
  | some node =>
    -- A node in the directory would have been there before, and so would the directory.
    rw [reach, kept.work] at followed
    have led : here = _ ++ moves (Path.names root) := follow_level level followed
    have deep : (if Path.isAbsolute root then [] else disk.work).length +
        (moves (Path.names root)).length < (here ++ [name]).length := by
      rw [led]
      simp [Target.place]
    have directory : disk.at? here = Option.some .directory := by
      rw [kept.deeper _ deep] at lies
      exact nested here name node lies
    have before : disk.locate root = .ok (.present here .directory) :=
      (locate_eq_ok_iff disk root _).mpr ⟨isPath, follow_before nested level directory followed⟩
    rw [isDirectory, find, before] at missing
    cases missing

/-- Nothing is found in a directory that has just been made. -/
theorem look_made (nested : disk.Nested) (missing : disk.isDirectory root = false)
    (some : root ≠ "") (level : ".." ∉ Path.names root)
    (makes : makeDirectories root disk = (.ok (), made)) {name : String}
    (isName : Path.IsName name) : made.look root name = none := by
  cases found : made.look root name with
  | none => rfl
  | some node =>
    obtain ⟨here, enters, lies⟩ := (look_eq_some_iff isName node).mp found
    have bare := at?_made nested missing level makes (enters.locate_root some) name
    rw [lies] at bare
    cases bare

end Disk
end KeyGadget
