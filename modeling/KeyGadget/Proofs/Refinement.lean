import KeyGadget.Proofs.Room

/-!
# The library refines a map

A library whose directory does not exist at first does what a map from names to texts does, as long
as the system has no error to report. That is for the files to say: they answer as they do, and a
record is kept of the errors among their answers. A reply of the library that tells of an error of
the system comes from such an answer, for what the library has stored can be read and removed again.

## Main results

`Library.Holds.errors_eq_nil_iff`: the files answer without errors if no reply tells of one, and the
other way round.

`library_refines_shelf`: from a directory that does not exist at first, every reply and all that
lies in the directory is what the map says, and a call that fails changes nothing at all.
-/
namespace KeyGadget

variable {σ α β : Type}

/-- The error that an answer of the files is, if it is one. -/
def errorsIn : Except FileError α → List FileError
  | .ok _ => []
  | .error error => [error]

/-- A question to files, with a record of the error that they answer with. -/
def reporting (ask : StateM σ (Except FileError α)) :
    StateT (List FileError) (StateM σ) (Except FileError α) := do
  let answer ← StateT.lift ask
  modify (· ++ errorsIn answer)
  return answer

/-- The same files, with a record of the errors that they answer with. -/
def Files.reporting (files : Files (StateM σ)) : Files (StateT (List FileError) (StateM σ)) where
  isFile path := StateT.lift (files.isFile path)
  read path := KeyGadget.reporting (files.read path)
  write path content := KeyGadget.reporting (files.write path content)
  remove path := KeyGadget.reporting (files.remove path)
  makeDirectories path := KeyGadget.reporting (files.makeDirectories path)
  list path := KeyGadget.reporting (files.list path)

/-- A computation with a record does what the plain one does, and puts some errors on record. -/
def Reports (plain : StateM σ α) (recorded : StateT (List FileError) (StateM σ) α) (state : σ)
    (errors : List FileError) : Prop :=
  ∀ past, (recorded.run past).run state =
    (((plain.run state).1, past ++ errors), (plain.run state).2)

private theorem reports_pure (value : α) (state : σ) :
    Reports (pure value) (pure value) state [] := by
  intro past
  rw [List.append_nil]
  rfl

private theorem reports_lift (ask : StateM σ α) (state : σ) :
    Reports ask (StateT.lift ask) state [] := by
  intro past
  rw [List.append_nil]
  rfl

private theorem reports_ask {ask : StateM σ (Except FileError α)} {state after : σ}
    {answer : Except FileError α} (asked : ask.run state = (answer, after)) :
    Reports ask (reporting ask) state (errorsIn answer) := by
  intro past
  rw [asked]
  exact congrArg (fun told : Except FileError α × σ => ((told.1, past ++ errorsIn told.1), told.2))
    asked

private theorem reports_bind {plain : StateM σ α}
    {recorded : StateT (List FileError) (StateM σ) α} {next : α → StateM σ β}
    {further : α → StateT (List FileError) (StateM σ) β} {state after : σ} {value : α}
    {errors others : List FileError} (first : Reports plain recorded state errors)
    (began : plain.run state = (value, after))
    (second : Reports (next value) (further value) after others) :
    Reports (plain >>= next) (recorded >>= further) state (errors ++ others) := by
  intro past
  have composed : ((recorded >>= further).run past).run state =
      ((further ((recorded.run past).run state).1.1).run ((recorded.run past).run state).1.2).run
        ((recorded.run past).run state).2 := rfl
  have goesOn : (plain >>= next).run state =
      (next (plain.run state).1).run (plain.run state).2 := rfl
  rw [composed, goesOn, first past, began, second (past ++ errors), List.append_assoc]

namespace Library

/-- What comes of a call is not an error of the system. -/
def Calm (result : Except Failure α) : Prop :=
  ∀ path error, result ≠ .error (.inaccessible path error)

/-- A computation with a record puts errors on it that fit its result. -/
private def Heard (fits : List FileError → Except Failure α → Prop)
    (plain : StateM σ (Except Failure α))
    (recorded : StateT (List FileError) (StateM σ) (Except Failure α)) (state : σ) : Prop :=
  ∃ errors, Reports plain recorded state errors ∧ fits errors (plain.run state).1

private theorem heard_pure {fits : List FileError → Except Failure α → Prop}
    {result : Except Failure α} (silent : fits [] result) (state : σ) :
    Heard fits (pure result) (pure result) state :=
  ⟨[], reports_pure result state, silent⟩

private theorem heard_bind {fits : List FileError → Except Failure β → Prop}
    {plain : StateM σ α} {recorded : StateT (List FileError) (StateM σ) α}
    {next : α → StateM σ (Except Failure β)}
    {further : α → StateT (List FileError) (StateM σ) (Except Failure β)} {state after : σ}
    {value : α} (first : Reports plain recorded state []) (began : plain.run state = (value, after))
    (second : Heard fits (next value) (further value) after) :
    Heard fits (plain >>= next) (recorded >>= further) state := by
  have composed : (plain >>= next).run state = (next (plain.run state).1).run (plain.run state).2 :=
    rfl
  obtain ⟨errors, reports, fit⟩ := second
  refine ⟨errors, reports_bind first began reports, ?_⟩
  rwa [composed, began]

/-- The rule for a question whose error is the result. -/
private theorem heard_ask {fits : List FileError → Except Failure β → Prop}
    {ask : StateM σ (Except FileError α)} {next : Except FileError α → StateM σ (Except Failure β)}
    {further : Except FileError α → StateT (List FileError) (StateM σ) (Except Failure β)}
    {state : σ}
    (failed : ∀ error, ∃ result, next (.error error) = pure result ∧
      further (.error error) = pure result ∧ fits [error] result)
    (done : ∀ value after, Heard fits (next (.ok value)) (further (.ok value)) after) :
    Heard fits (ask >>= next) (KeyGadget.reporting ask >>= further) state := by
  rcases asked : ask.run state with ⟨error | value, after⟩
  · obtain ⟨result, told, told', fit⟩ := failed error
    have composed : (ask >>= next).run state = (result, after) := by
      rw [StateT.run_bind, asked]
      exact congrArg (StateT.run · after) told
    have second : Reports (next (.error error)) (further (.error error)) after [] := by
      rw [told, told']
      exact reports_pure _ _
    refine ⟨[error], reports_bind (reports_ask asked) asked second, ?_⟩
    rwa [composed]
  · exact heard_bind (reports_ask asked) asked (done value after)

section calls

variable (library : Library) (files : Files (StateM σ)) {name : String}

/-- An error of the files is told of, and no other error of the system. -/
private theorem heard_save (text : String) (state : σ) :
    Heard (fun errors result => errors = [] ↔ Calm result) (library.save files name text)
      (library.save files.reporting name text) state := by
  have blamed (path : String) (error : FileError) :
      [error] = [] ↔ Calm (.error (.inaccessible path error) : Except Failure String) :=
    iff_of_false (List.cons_ne_nil _ _) fun calm => calm path error rfl
  rw [save, save]
  cases accepted : storedName name with
  | error failure =>
    obtain rfl := storedName_error accepted
    exact heard_pure (iff_of_true rfl fun _ _ same => by cases same) state
  | ok stored =>
    refine heard_ask (fun error => ⟨_, rfl, rfl, blamed _ error⟩) fun _ after => ?_
    refine heard_ask (fun error => ⟨_, rfl, rfl, blamed _ error⟩) fun _ next => ?_
    exact heard_pure (iff_of_true rfl fun _ _ same => by cases same) next

private theorem reports_firstFile (paths : List String) (state : σ) :
    Reports (firstFile files paths) (firstFile files.reporting paths) state [] := by
  induction paths generalizing state with
  | nil => exact reports_pure none state
  | cons path rest ih =>
    rcases asked : (files.isFile path).run state with ⟨_ | _, after⟩
    case false => exact reports_bind (reports_lift (files.isFile path) state) asked (ih after)
    case true =>
      exact reports_bind (reports_lift (files.isFile path) state) asked (reports_pure _ after)

/-- To look for a script is not to be told of errors. -/
private theorem reports_locate (state : σ) :
    Reports (library.locate files name) (library.locate files.reporting name) state [] := by
  rw [locate, locate]
  split
  · exact reports_pure _ state
  · next base _ =>
    rcases tried : (firstFile files (library.candidates base)).run state with ⟨_ | path, after⟩
    all_goals exact reports_bind (reports_firstFile files _ state) tried (reports_pure _ after)

/-- An error of the files is told of. What is told of besides is that a content is no text. -/
private theorem heard_load (state : σ) :
    Heard (fun errors result => Calm result → errors = []) (library.load files name)
      (library.load files.reporting name) state := by
  rcases looked : (library.locate files name).run state with ⟨failure | path, after⟩
  · exact heard_bind (reports_locate library files state) looked (heard_pure (fun _ => rfl) after)
  · refine heard_bind (reports_locate library files state) looked ?_
    dsimp only
    -- Only to read the file is to hear of an error; what comes behind asks for nothing.
    rw [Files.readText, Files.readText, bind_assoc, bind_assoc]
    refine heard_ask (fun error => ⟨_, rfl, rfl, fun calm => absurd rfl (calm path error)⟩)
      fun bytes next => ?_
    rw [pure_bind, pure_bind]
    cases decodeText bytes <;> exact heard_pure (fun _ => rfl) next

private theorem heard_delete (state : σ) :
    Heard (fun errors result => Calm result → errors = []) (library.delete files name)
      (library.delete files.reporting name) state := by
  rcases looked : (library.locate files name).run state with ⟨failure | path, after⟩
  · exact heard_bind (reports_locate library files state) looked (heard_pure (fun _ => rfl) after)
  · refine heard_bind (reports_locate library files state) looked ?_
    refine heard_ask (fun error => ⟨_, rfl, rfl, fun calm => absurd rfl (calm path error)⟩)
      fun _ next => ?_
    exact heard_pure (fun _ => rfl) next

end calls

/-! ### Histories -/

variable {library : Library} {disk : Disk} {shelf : Shelf}

/-- The errors with which the files answer in the course of calls. -/
def errors (library : Library) (disk : Disk) (calls : List Call) : List FileError :=
  (((library.serve Disk.own.reporting calls).run []).run disk).1.2

private theorem reports_told {plain : StateM σ (Except Failure α)}
    {recorded : StateT (List FileError) (StateM σ) (Except Failure α)} {state : σ}
    {errors : List FileError} (reports : Reports plain recorded state errors)
    (tell : Except Failure α → Reply) :
    Reports (do return tell (← plain)) (do return tell (← recorded)) state errors := by
  rcases ended : plain.run state with ⟨result, after⟩
  rw [← List.append_nil errors]
  exact reports_bind reports ended (reports_pure _ after)

private theorem undisturbed_iff_calm (tell : Except Failure α → Reply)
    (done : ∀ value, (tell (.ok value)).failure? = none)
    (failed : ∀ failure, (tell (.error failure)).failure? = some failure)
    (result : Except Failure α) : (tell result).Undisturbed ↔ Calm result := by
  cases result <;> simp [Calm, Reply.Undisturbed, done, failed]

/-- The files answer a call with errors if and only if the reply tells of one, for a script that the
library has can be read and removed. -/
private theorem reports_answer (library : Library) (disk : Disk) (call : Call) :
    ∃ errors, Reports (library.answer Disk.own call) (library.answer Disk.own.reporting call) disk
        errors ∧
      ∀ shelf, library.Holds disk shelf →
        (errors = [] ↔ ((library.answer Disk.own call).run disk).1.Undisturbed) := by
  cases call with
  | save name text =>
    obtain ⟨errors, reports, fits⟩ := heard_save library Disk.own text disk
    refine ⟨errors, reports_told reports .saved, fun _ _ => ?_⟩
    rw [answer_save, undisturbed_iff_calm .saved (fun _ => rfl) fun _ => rfl]
    exact fits
  | load name =>
    obtain ⟨errors, reports, fits⟩ := heard_load library Disk.own disk
    refine ⟨errors, reports_told reports .loaded, fun shelf holds => ?_⟩
    -- What is stored is a text that can be read, so there is no error either way.
    have calm := holds.load_undisturbed name
    rw [answer_load] at calm ⊢
    refine iff_of_true (fits ?_) calm
    exact (undisturbed_iff_calm .loaded (fun _ => rfl) (fun _ => rfl) _).mp calm
  | delete name =>
    obtain ⟨errors, reports, fits⟩ := heard_delete library Disk.own disk
    refine ⟨errors, reports_told reports .deleted, fun shelf holds => ?_⟩
    have calm := holds.delete_undisturbed name
    rw [answer_delete] at calm ⊢
    refine iff_of_true (fits ?_) calm
    exact (undisturbed_iff_calm .deleted (fun _ => rfl) (fun _ => rfl) _).mp calm

private theorem reports_serve (library : Library) (disk : Disk) (calls : List Call) :
    ∃ errors, Reports (library.serve Disk.own calls) (library.serve Disk.own.reporting calls) disk
        errors ∧
      ∀ shelf, library.Holds disk shelf →
        (errors = [] ↔
          ∀ reply ∈ ((library.serve Disk.own calls).run disk).1, reply.Undisturbed) := by
  induction calls generalizing disk with
  | nil => exact ⟨[], reports_pure [] disk, fun _ _ => iff_of_true rfl nofun⟩
  | cons call rest ih =>
    obtain ⟨errors, first, fits⟩ := reports_answer library disk call
    obtain ⟨others, later, fit⟩ := ih ((library.answer Disk.own call).run disk).2
    refine ⟨errors ++ (others ++ []),
      reports_bind first rfl (reports_bind later rfl (reports_pure _ _)), fun shelf holds => ?_⟩
    rw [serve_cons, List.forall_mem_cons, List.append_nil, List.append_eq_nil_iff, fits shelf holds]
    -- A call that does not disturb the system leaves the scripts of the shelf.
    exact and_congr_right fun quiet => fit _ (holds.answer call quiet).2.1

/-- The files answer without errors in the course of calls if and only if no reply tells of one. -/
theorem Holds.errors_eq_nil_iff (holds : library.Holds disk shelf) (calls : List Call) :
    library.errors disk calls = [] ↔
      ∀ reply ∈ ((library.serve Disk.own calls).run disk).1, reply.Undisturbed := by
  obtain ⟨errors, reports, fits⟩ := reports_serve library disk calls
  rw [Library.errors, reports []]
  exact fits shelf holds

end Library

open Library (Call)

/-- **The library refines a map.** Calls to a library whose directory does not exist at first are
answered as a map from names to texts answers them, as long as the files answer without errors, and
in the end there are in the directory the scripts of the map and nothing else. Behind any such
calls, a call that fails leaves the disk as it was, and what has just been saved is loaded unchanged
under the name that it was given. -/
theorem library_refines_shelf (library : Library) (disk : Disk) (absent : library.Absent disk)
    (calls : List Call) (quiet : library.errors disk calls = []) :
    let (replies, after) := (library.serve Disk.own calls).run disk
    let (expected, shelf) := Shelf.empty.serve calls
    replies = expected ∧
    library.Shows after shelf ∧
    (∀ call failure, let (reply, next) := (library.answer Disk.own call).run after
      library.errors after [call] = [] → reply.failure? = some failure → next = after) ∧
    (∀ name text stored, let (reply, next) := (library.answer Disk.own (.save name text)).run after
      reply = .saved (.ok stored) →
        ((library.answer Disk.own (.load stored)).run next).1 = .loaded (.ok text)) := by
  obtain ⟨same, held⟩ :=
    absent.holds.serve calls ((absent.holds.errors_eq_nil_iff calls).mp quiet)
  rcases served : (library.serve Disk.own calls).run disk with ⟨replies, after⟩
  rcases kept : Shelf.empty.serve calls with ⟨expected, shelf⟩
  rw [served, kept] at same held
  refine ⟨same, held.shows, ?fails, ?loads⟩
  case fails =>
    intro call failure
    have answer := held.answer call
    have heard := (held.errors_eq_nil_iff [call]).mp
    rw [Library.serve_cons, List.forall_mem_cons] at heard
    rcases answered : (library.answer Disk.own call).run after with ⟨reply, next⟩
    rw [answered] at answer heard
    intro unmoved failed
    obtain ⟨_, _, unchanged⟩ := answer (heard unmoved).1
    exact unchanged failure failed
  case loads =>
    intro name text stored
    have loaded := held.load_saved name text stored
    rcases saved : (library.answer Disk.own (.save name text)).run after with ⟨reply, next⟩
    rw [saved] at loaded
    exact loaded

/-- A script is saved on a fresh disk, saved over under a shorter name, found and deleted. -/
theorem library_refines_shelf_hello :
    let calls : List Call := [.save "docs/hello" "STRING hi", .save "hello" "STRING ho",
      .load "hello", .delete "hello.txt", .load "hello"]
    Library.scripts.Absent Disk.fresh ∧ Library.scripts.errors Disk.fresh calls = [] ∧
    ((Library.scripts.serve Disk.own calls).run Disk.fresh).1 =
      [.saved (.ok "hello.txt"), .saved (.ok "hello.txt"), .loaded (.ok "STRING ho"),
        .deleted (.ok ()), .loaded (.error (.notFound "hello"))] := by
  intro calls
  have absent := Library.scripts_absent
  have quiet : Library.scripts.errors Disk.fresh calls = [] :=
    (absent.holds.errors_eq_nil_iff calls).mpr (Library.scripts_undisturbed calls (by decide))
  refine ⟨absent, quiet, ?_⟩
  have served := (library_refines_shelf Library.scripts Disk.fresh absent calls quiet).1
  exact served.trans rfl

end KeyGadget
