import KeyGadget.Proofs.Shelf

/-!
# What a library touches

A name may come from anywhere, with slashes, backslashes, dots and blanks at any place. Whatever it
is, and whatever the files answer, a library asks them for nothing but its directory and what lies
in it under one proper name. The files are watched: they keep a record of what they are asked for,
and answer as they do without it.

## Main result

`library_stays_in_directory`: of all that a call asks for, every path is that of the directory,
which only saving makes, or leads from it to one name; and a call with a name of no use asks for
nothing.
-/
namespace KeyGadget

open KeyGadget.Path (IsName)

/-- The ways in which files are asked for something. -/
inductive Use
  | probe
  | read
  | write
  | remove
  | makeDirectories
  | list

/-- What files were asked for, and at which path. -/
structure Access where
  use : Use
  path : String

variable {σ α β : Type}

/-- A question to files, with a record of it. -/
def noting (access : Access) (ask : StateM σ α) : StateT (List Access) (StateM σ) α := do
  modify (· ++ [access])
  StateT.lift ask

/-- The same files, with a record of all that they are asked for. -/
def Files.watched (files : Files (StateM σ)) : Files (StateT (List Access) (StateM σ)) where
  isFile path := noting ⟨.probe, path⟩ (files.isFile path)
  read path := noting ⟨.read, path⟩ (files.read path)
  write path content := noting ⟨.write, path⟩ (files.write path content)
  remove path := noting ⟨.remove, path⟩ (files.remove path)
  makeDirectories path := noting ⟨.makeDirectories, path⟩ (files.makeDirectories path)
  list path := noting ⟨.list, path⟩ (files.list path)

/-- A watched computation does what the plain one does, asks for nothing but what is allowed, and
has a result as expected. -/
def Watches (allowed : Access → Prop) (expected : α → Prop) (plain : StateM σ α)
    (watched : StateT (List Access) (StateM σ) α) : Prop :=
  ∀ past state, expected (plain.run state).1 ∧ ∃ accesses,
    (watched.run past).run state =
      (((plain.run state).1, past ++ accesses), (plain.run state).2) ∧
    ∀ access ∈ accesses, allowed access

section watches

variable {allowed : Access → Prop} {expected : α → Prop} {wanted : β → Prop}

private theorem watches_pure (value : α) (fits : expected value) :
    Watches allowed expected (pure value : StateM σ α) (pure value) := by
  intro past state
  refine ⟨fits, [], ?_, by simp⟩
  rw [List.append_nil]
  rfl

private theorem watches_noting (access : Access) (ask : StateM σ α) (allows : allowed access) :
    Watches allowed (fun _ => True) ask (noting access ask) := by
  intro past state
  refine ⟨trivial, [access], rfl, ?_⟩
  rintro other member
  rw [List.mem_singleton.mp member]
  exact allows

private theorem watches_bind {plain : StateM σ α} {watched : StateT (List Access) (StateM σ) α}
    {next : α → StateM σ β} {seen : α → StateT (List Access) (StateM σ) β}
    (first : Watches allowed expected plain watched)
    (second : ∀ value, expected value → Watches allowed wanted (next value) (seen value)) :
    Watches allowed wanted (plain >>= next) (watched >>= seen) := by
  intro past state
  obtain ⟨fits, accesses, began, allows⟩ := first past state
  obtain ⟨wants, others, went, allowsOthers⟩ :=
    second (plain.run state).1 fits (past ++ accesses) (plain.run state).2
  refine ⟨wants, accesses ++ others, ?_, ?_⟩
  · -- The second computation goes on from the record and the state that the first one leaves.
    have composed : ((watched >>= seen).run past).run state =
        ((seen ((watched.run past).run state).1.1).run ((watched.run past).run state).1.2).run
          ((watched.run past).run state).2 := rfl
    rw [composed, began, went, List.append_assoc]
    rfl
  · intro access member
    exact (List.mem_append.mp member).elim (allows access) (allowsOthers access)

end watches

namespace Library

/-- A name that leads from a directory to something that lies right in it, on any system. -/
structure IsComponent (name : String) : Prop extends IsName name where
  unescaped : '\x5c' ∉ name.toList

/-- The name that a call is about. -/
def Call.name : Call → String
  | .save name _ => name
  | .load name => name
  | .delete name => name

/-- What a call asks of a file in the directory. -/
def Call.uses : Call → List Use
  | .save _ _ => [.write]
  | .load _ => [.probe, .read]
  | .delete _ => [.probe, .remove]

/-- No name in the directory can be made of the name that a call is about. -/
def Call.Unusable : Call → Prop
  | .save name _ => ∀ c ∈ (base name).toList, isPlain c = true → c = '.'
  | .load name => base name ∈ ["", ".", ".."]
  | .delete name => base name ∈ ["", ".", ".."]

instance (call : Call) : Decidable call.Unusable :=
  match call with
  | .save name _ => decidable_of_iff (remainder name = []) (remainder_eq_nil_iff name)
  | .load name => inferInstanceAs (Decidable (base name ∈ ["", ".", ".."]))
  | .delete name => inferInstanceAs (Decidable (base name ∈ ["", ".", ".."]))

/-- What a call may ask for: saving makes the directory, and all else lies right in it. -/
inductive Allows (library : Library) : Call → Access → Prop
  | directory (name text : String) :
    Allows library (.save name text) ⟨.makeDirectories, library.root⟩
  | script {call : Call} {use : Use} (used : use ∈ call.uses) {component : String}
    (isComponent : IsComponent component) :
    Allows library call ⟨use, Path.join library.root component⟩

theorem isComponent_base (name : String) (usable : base name ∉ ["", ".", ".."]) :
    IsComponent (base name) := by
  refine ⟨isName_base name usable, fun backslash => ?_⟩
  exact absurd (unseparated_base name _ backslash) (by decide)

theorem IsComponent.extended {name : String} (isComponent : IsComponent name) :
    IsComponent (name ++ ".txt") := by
  refine ⟨isName_extended isComponent.toIsName, ?_⟩
  rw [String.toList_append, List.mem_append, not_or]
  exact ⟨isComponent.unescaped, by decide⟩

theorem IsStored.isComponent {stored : String} (isStored : IsStored stored) :
    IsComponent stored := by
  refine ⟨isStored.isName, fun backslash => ?_⟩
  exact absurd (isStored.plain _ backslash) (by decide)

section asks

variable {library : Library} {files : Files (StateM σ)} {name : String} {allowed : Access → Prop}

private theorem watches_firstFile (paths : List String)
    (allows : ∀ path ∈ paths, allowed ⟨.probe, path⟩) :
    Watches allowed (fun found => ∀ path, found = some path → path ∈ paths)
      (firstFile files paths) (firstFile files.watched paths) := by
  induction paths with
  | nil => exact watches_pure _ (by simp)
  | cons path rest ih =>
    obtain ⟨own, others⟩ := List.forall_mem_cons.mp allows
    apply watches_bind (watches_noting ⟨.probe, path⟩ (files.isFile path) own)
    intro isFile _
    -- The path is taken, or the paths behind it are tried with the record so far.
    cases isFile with
    | true =>
      apply watches_pure
      rintro found ⟨⟩
      exact List.mem_cons_self
    | false =>
      intro past state
      obtain ⟨fits, ran⟩ := ih others past state
      exact ⟨fun found same => List.mem_cons_of_mem path (fits found same), ran⟩

/-- A path that a name is looked for under, if it has a name of use. -/
private theorem watches_locate (usable : base name ∉ ["", ".", ".."])
    (allows : ∀ component, IsComponent component →
      allowed ⟨.probe, Path.join library.root component⟩) :
    Watches allowed
      (fun result => (∃ component, IsComponent component ∧
        result = .ok (Path.join library.root component)) ∨
        result = .error (.notFound (base name)))
      (library.locate files name) (library.locate files.watched name) := by
  have isComponent := isComponent_base name usable
  -- Both paths that are tried lead to one name in the directory, so the one that is found does.
  rw [locate, locate, baseName_eq, if_neg usable]
  dsimp only
  rw [candidates_eq]
  refine watches_bind (watches_firstFile _ ?probes) ?ends
  case probes =>
    intro path member
    rw [List.mem_cons, List.mem_singleton] at member
    rcases member with rfl | rfl
    · exact allows _ isComponent
    · exact allows _ isComponent.extended
  case ends =>
    intro found among
    cases found with
    | none =>
      apply watches_pure
      rw [String.ofList_toList]
      exact Or.inr rfl
    | some path =>
      apply watches_pure
      have member := among path rfl
      rw [List.mem_cons, List.mem_singleton] at member
      rcases member with rfl | rfl
      · exact Or.inl ⟨_, isComponent, rfl⟩
      · exact Or.inl ⟨_, isComponent.extended, rfl⟩

private theorem watches_readText (path : String) (allows : allowed ⟨.read, path⟩) :
    Watches allowed (fun _ => True) (files.readText path) (files.watched.readText path) := by
  apply watches_bind (watches_noting ⟨.read, path⟩ (files.read path) allows)
  intro content _
  cases content with
  | ok bytes => exact watches_pure _ trivial
  | error error => exact watches_pure _ trivial

private theorem watches_load (usable : base name ∉ ["", ".", ".."]) :
    Watches (library.Allows (.load name)) (· ≠ .error (.invalidName name))
      (library.load files name) (library.load files.watched name) := by
  refine watches_bind
    (watches_locate usable fun _ component => .script (by simp [Call.uses]) component) ?_
  intro located found
  rcases found with ⟨component, isComponent, rfl⟩ | rfl
  · apply watches_bind (watches_readText _ (.script (by simp [Call.uses]) isComponent))
    intro content _
    cases content with
    | ok text => exact watches_pure _ (by simp)
    | error error => exact watches_pure _ (by simp)
  · exact watches_pure _ (by simp)

private theorem watches_delete (usable : base name ∉ ["", ".", ".."]) :
    Watches (library.Allows (.delete name)) (· ≠ .error (.invalidName name))
      (library.delete files name) (library.delete files.watched name) := by
  refine watches_bind
    (watches_locate usable fun _ component => .script (by simp [Call.uses]) component) ?_
  intro located found
  rcases found with ⟨component, isComponent, rfl⟩ | rfl
  · apply watches_bind (watches_noting ⟨.remove, _⟩ _ (.script (by simp [Call.uses]) isComponent))
    intro removed _
    cases removed with
    | ok done => exact watches_pure _ (by simp)
    | error error => exact watches_pure _ (by simp)
  · exact watches_pure _ (by simp)

private theorem watches_save {stored : String} (accepted : storedName name = .ok stored)
    (text : String) :
    Watches (library.Allows (.save name text)) (· ≠ .error (.invalidName name))
      (library.save files name text) (library.save files.watched name text) := by
  -- The name is settled before the directory is made, so nothing is made for a name of no use.
  have isComponent := (storedName_ok accepted).isComponent
  rw [save, save, accepted]
  apply watches_bind (watches_noting ⟨.makeDirectories, _⟩ _ (.directory name text))
  intro made _
  cases made with
  | error error => exact watches_pure _ (by simp)
  | ok done =>
    apply watches_bind (watches_noting ⟨.write, _⟩ _ (.script (by simp [Call.uses]) isComponent))
    intro written _
    cases written with
    | ok done => exact watches_pure _ (by simp)
    | error error => exact watches_pure _ (by simp)

end asks

/-! ### Calls -/

/-- The reply to a call with a name of no use. -/
def Call.refusal : Call → Reply
  | .save name _ => .saved (.error (.invalidName name))
  | .load name => .loaded (.error (.invalidName name))
  | .delete name => .deleted (.error (.invalidName name))

theorem Call.failure?_refusal (call : Call) :
    call.refusal.failure? = some (.invalidName call.name) := by
  cases call <;> rfl

/-- A call with a name of no use is answered without the files. -/
theorem answer_unusable {m : Type → Type} [Monad m] [LawfulMonad m] (library : Library)
    (files : Files m) {call : Call} (unusable : call.Unusable) :
    library.answer files call = pure call.refusal := by
  cases call with
  | save name text =>
    have nothing : remainder name = [] := (remainder_eq_nil_iff name).mpr unusable
    rw [answer, save, storedName_eq, if_pos nothing, pure_bind]
    rfl
  | load name =>
    have bad : base name ∈ ["", ".", ".."] := unusable
    rw [answer, load, locate, baseName_eq, if_pos bad, pure_bind, pure_bind]
    rfl
  | delete name =>
    have bad : base name ∈ ["", ".", ".."] := unusable
    rw [answer, delete, locate, baseName_eq, if_pos bad, pure_bind, pure_bind]
    rfl

/-- A last part that leads up is seen between blanks, and what is dropped between dots leaves only
the dots, under which nothing is stored. -/
example : Call.Unusable (.load "a/\u00a0.. ") ∧ Call.Unusable (.save "a\\.!.?" "ENTER") ∧
    ¬Call.Unusable (.load ".!.?") := by
  decide

/-- A result is told as it is, so a failure that it is not is not told. -/
private theorem watches_told {allowed : Access → Prop} {plain : StateM σ (Except Failure α)}
    {watched : StateT (List Access) (StateM σ) (Except Failure α)} {failure : Failure}
    (watches : Watches allowed (· ≠ .error failure) plain watched) (tell : Except Failure α → Reply)
    (done : ∀ value, (tell (.ok value)).failure? = none)
    (failed : ∀ failure, (tell (.error failure)).failure? = some failure) :
    Watches allowed (·.failure? ≠ some failure) (do return tell (← plain))
      (do return tell (← watched)) := by
  apply watches_bind watches
  intro result unlike
  apply watches_pure
  cases result with
  | ok value => simp [done]
  | error other => simpa [failed] using unlike

/-- A call with a name of use asks for what it may ask for, and the name is not refused. -/
theorem watches_answer (library : Library) (files : Files (StateM σ)) {call : Call}
    (usable : ¬call.Unusable) :
    Watches (library.Allows call) (·.failure? ≠ some (.invalidName call.name))
      (library.answer files call) (library.answer files.watched call) := by
  cases call with
  | save name text =>
    have left : remainder name ≠ [] := fun nothing =>
      usable ((remainder_eq_nil_iff name).mp nothing)
    have accepted := storedName_eq name
    rw [if_neg left] at accepted
    exact watches_told (watches_save accepted text) .saved (fun _ => rfl) fun _ => rfl
  | load name =>
    exact watches_told (watches_load usable) .loaded (fun _ => rfl) fun _ => rfl
  | delete name =>
    exact watches_told (watches_delete usable) .deleted (fun _ => rfl) fun _ => rfl

end Library

/-- **A library stays in its directory.** Whatever the files answer and whatever name a call comes
with, every path that they are asked for is that of the directory, to make it when a script is
saved, or leads from the directory to one name that is neither empty nor `.` nor `..` and has no
slash or backslash. If there is no such name, and only then, the name is refused, and the files are
asked for nothing at all. -/
theorem library_stays_in_directory (library : Library) (files : Files (StateM σ))
    (call : Library.Call) (state : σ) :
    let ((reply, accesses), after) := ((library.answer files.watched call).run []).run state
    (library.answer files call).run state = (reply, after) ∧
    (∀ access ∈ accesses, library.Allows call access) ∧
    (reply.failure? = some (.invalidName call.name) ↔ call.Unusable) ∧
    (call.Unusable → accesses = [] ∧ after = state) := by
  by_cases unusable : call.Unusable
  · rw [library.answer_unusable files unusable, library.answer_unusable files.watched unusable]
    exact ⟨rfl, nofun, ⟨fun _ => unusable, fun _ => call.failure?_refusal⟩, fun _ => ⟨rfl, rfl⟩⟩
  · obtain ⟨unlike, accesses, ran, allows⟩ :=
      library.watches_answer files unusable [] state
    rw [ran]
    exact ⟨rfl, allows, ⟨fun refused => absurd refused unlike, fun bad => absurd bad unusable⟩,
      fun bad => absurd bad unusable⟩

end KeyGadget
