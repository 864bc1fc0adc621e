import KeyGadget.Proofs.Room

/-!
# Finding scripts again

A script is stored under what is left of a name, but it is looked for under the last part of the
name as it stands, with the extension added if nothing is found. So a script is found again under
the name that it was saved under only if nothing was dropped from that name. The extension is added
even to a name that has it, so a name may stand for a second script, whose name is longer, when the
first one is gone.

## Main results

`saved_script_is_found`: a script that has been saved is found under the name that the library told,
and under the name that was given just when nothing was dropped from it.

`deleted_script_stays_deleted`: after a deletion nothing is found under the name, unless the script
with the longer name was there too; then that one is found, and deleted next.
-/
namespace KeyGadget

open Library (Call Reply IsScript Fits HasExtension base storedName)

variable {shelf : Shelf} {name stored text removed : String}

namespace Shelf

theorem usable_of_find {entry : String × String} (found : shelf.find name = .ok entry) :
    base name ∉ ["", ".", ".."] := by
  intro unusable
  rw [find, if_pos unusable] at found
  cases found

theorem find_missing (usable : base name ∉ ["", ".", ".."]) (own : shelf (base name) = none)
    (extended : shelf (base name ++ ".txt") = none) :
    shelf.find name = .error (.notFound (base name)) := by
  rw [find, if_neg usable, own, extended]

theorem find_own (usable : base name ∉ ["", ".", ".."]) (own : shelf (base name) = some text) :
    shelf.find name = .ok (base name, text) := by
  rw [find, if_neg usable, own]

theorem find_extended (usable : base name ∉ ["", ".", ".."]) (own : shelf (base name) = none)
    (extended : shelf (base name ++ ".txt") = some text) :
    shelf.find name = .ok (base name ++ ".txt", text) := by
  rw [find, if_neg usable, own, extended]

private theorem ne_extended (name : String) : name ≠ name ++ ".txt" := by
  intro same
  have lengths := congrArg String.length same
  rw [String.length_append] at lengths
  exact absurd lengths (Nat.ne_of_lt (Nat.lt_add_of_pos_right (by decide)))

/-- No script lies under a name without the extension. -/
theorem Proper.none_of_bare (proper : shelf.Proper) (bare : ¬HasExtension name) :
    shelf name = none := by
  by_contra filled
  exact bare (proper name filled).extended

/-- A script that has been saved is found under the name that was given if nothing was dropped from
it, and nothing is found under it if something was. -/
theorem Proper.find_saved (proper : shelf.Proper) (accepted : storedName name = .ok stored)
    (text : String) :
    (shelf.set stored (some text)).find name =
      if Fits name then .ok (stored, text) else .error (.notFound (base name)) := by
  have usable := Library.usable_of_storedName accepted
  have some : base name ≠ "" := fun empty => usable (by simp [empty])
  have added := proper.add (Library.storedName_isScript accepted) text
  split
  next fits =>
    rw [fits.storedName_eq some, Except.ok.injEq] at accepted
    by_cases has : HasExtension (base name)
    · rw [if_pos has] at accepted
      subst accepted
      exact find_own usable (set_self shelf _ _)
    · rw [if_neg has] at accepted
      subst accepted
      refine find_extended usable ?_ (set_self shelf _ _)
      rw [set_of_ne shelf _ (ne_extended _), proper.none_of_bare has]
  next unfit =>
    -- If a script lay under either name that is tried, nothing could have been dropped.
    apply find_missing usable
    · by_contra filled
      exact unfit (added _ filled).fits
    · by_contra filled
      exact unfit ((added _ filled).fits_of_extended some)

/-- What is found under a name when a script has been deleted under it: the script with the longer
name, if both were there. -/
theorem find_deleted (found : shelf.find name = .ok (removed, text)) :
    (shelf.set removed none).find name =
      match shelf (base name), shelf (base name ++ ".txt") with
      | some _, some other => .ok (base name ++ ".txt", other)
      | _, _ => .error (.notFound (base name)) := by
  have usable := usable_of_find found
  cases own : shelf (base name) with
  | none =>
    cases extended : shelf (base name ++ ".txt") with
    | none =>
      rw [find_missing usable own extended] at found
      cases found
    | some other =>
      rw [find_extended usable own extended, Except.ok.injEq, Prod.mk.injEq] at found
      obtain ⟨rfl, rfl⟩ := found
      refine find_missing usable ?_ (set_self shelf _ _)
      rw [set_of_ne shelf _ (ne_extended _), own]
  | some first =>
    -- The script under the name itself is deleted first, whatever lies under the longer name.
    rw [find_own usable own, Except.ok.injEq, Prod.mk.injEq] at found
    obtain ⟨rfl, rfl⟩ := found
    have kept : (shelf.set (base name) none) (base name ++ ".txt") =
        shelf (base name ++ ".txt") := set_of_ne shelf _ (ne_extended _).symm
    cases extended : shelf (base name ++ ".txt") with
    | none => exact find_missing usable (set_self shelf _ _) (kept.trans extended)
    | some other => exact find_extended usable (set_self shelf _ _) (kept.trans extended)

end Shelf

namespace Library

/-- A name leads to a script with this text, and these scripts are left when it is deleted. -/
structure Finds (library : Library) (disk : Disk) (name text : String) (rest : Shelf) : Prop where
  loads : (library.answer Disk.own (.load name)).run disk = (.loaded (.ok text), disk)
  deletes : ∃ after,
    (library.answer Disk.own (.delete name)).run disk = (.deleted (.ok ()), after) ∧
      library.Shows after rest

/-- A name leads to no script, neither to load nor to delete it, and nothing is changed. -/
structure Misses (library : Library) (disk : Disk) (name : String) : Prop where
  loads : (library.answer Disk.own (.load name)).run disk =
    (.loaded (.error (.notFound (base name))), disk)
  deletes : (library.answer Disk.own (.delete name)).run disk =
    (.deleted (.error (.notFound (base name))), disk)

variable {library : Library} {disk : Disk}

theorem Holds.finds (holds : library.Holds disk shelf)
    (found : shelf.find name = .ok (stored, text)) :
    library.Finds disk name text (shelf.set stored none) := by
  constructor
  · rw [answer_load, holds.shows.load, found]
    rfl
  · obtain ⟨after, deleted, held⟩ := holds.delete_found found
    refine ⟨after, ?_, held.shows⟩
    rw [answer_delete, deleted]

theorem Holds.misses (holds : library.Holds disk shelf)
    (missing : shelf.find name = .error (.notFound (base name))) : library.Misses disk name := by
  constructor
  · rw [answer_load, holds.shows.load, missing]
    rfl
  · rw [answer_delete, holds.shows.delete_missing missing]

theorem Holds.finds_saved (holds : library.Holds disk shelf) (proper : shelf.Proper)
    (name text stored : String)
    (saved : ((library.answer Disk.own (.save name text)).run disk).1 = .saved (.ok stored)) :
    let next := ((library.answer Disk.own (.save name text)).run disk).2
    library.Shows next (shelf.set stored (some text)) ∧
      library.Finds next stored text (shelf.set stored none) ∧
      (Fits name → library.Finds next name text (shelf.set stored none)) ∧
      (¬Fits name → library.Misses next name) := by
  obtain ⟨accepted, held⟩ := holds.saved saved
  -- Of what is on the shelf now, the script itself is taken away by a deletion.
  have replaced : (shelf.set stored (some text)).set stored none = shelf.set stored none := by
    funext other
    by_cases same : other = stored
    · rw [same, Shelf.set_self, Shelf.set_self]
    · rw [Shelf.set_of_ne _ _ same, Shelf.set_of_ne _ _ same, Shelf.set_of_ne _ _ same]
  have found := proper.find_saved accepted text
  rw [← replaced]
  refine ⟨held.shows, ?own, ?fits, ?unfit⟩
  case own => exact held.finds (find_stored (storedName_ok accepted) (shelf.set_self _ _))
  case fits =>
    intro fits
    exact held.finds (found.trans (if_pos fits))
  case unfit =>
    intro unfit
    exact held.misses (found.trans (if_neg unfit))

/-- A name that stood for one script stands for none when that is deleted. -/
theorem Holds.misses_deleted (holds : library.Holds disk shelf) (name : String)
    (deleted : ((library.answer Disk.own (.delete name)).run disk).1 = .deleted (.ok ()))
    (lone : shelf (base name) = none ∨ shelf (base name ++ ".txt") = none) :
    library.Misses ((library.answer Disk.own (.delete name)).run disk).2 name := by
  obtain ⟨removed, text, found, held⟩ := holds.deleted deleted
  apply held.misses
  rw [Shelf.find_deleted found]
  rcases lone with own | extended
  · rw [own]
  · rw [extended]
    cases shelf (base name) <;> rfl

/-- A name that stood for two scripts stands for the second one when the first one is deleted. -/
theorem Holds.finds_deleted (holds : library.Holds disk shelf) (name : String)
    (deleted : ((library.answer Disk.own (.delete name)).run disk).1 = .deleted (.ok ()))
    (first second : String) (own : shelf (base name) = some first)
    (extended : shelf (base name ++ ".txt") = some second) :
    library.Finds ((library.answer Disk.own (.delete name)).run disk).2 name second
      ((shelf.set (base name) none).set (base name ++ ".txt") none) := by
  obtain ⟨removed, text, found, held⟩ := holds.deleted deleted
  have left := Shelf.find_deleted found
  rw [own, extended] at left
  -- The script that was found is the one under the name itself.
  rw [Shelf.find_own (Shelf.usable_of_find found) own, Except.ok.injEq, Prod.mk.injEq] at found
  obtain ⟨rfl, _⟩ := found
  exact held.finds left

end Library

/-- **A saved script is found.** Behind any calls to a library whose directory does not exist at
first, a script that has been saved is loaded and deleted under the name that it is stored under,
and all other scripts stay as they are.
Under the name that it was saved under it is found too if nothing had to be dropped from the last
part of that name; if something had to be, nothing is found under that name. -/
theorem saved_script_is_found (library : Library) (disk : Disk) (absent : library.Absent disk)
    (calls : List Call)
    (undisturbed : ∀ reply ∈ ((library.serve Disk.own calls).run disk).1, reply.Undisturbed)
    (name text stored : String) :
    let (_, after) := (library.serve Disk.own calls).run disk
    let (_, shelf) := Shelf.empty.serve calls
    let (reply, next) := (library.answer Disk.own (.save name text)).run after
    reply = .saved (.ok stored) →
      library.Shows next (shelf.set stored (some text)) ∧
      library.Finds next stored text (shelf.set stored none) ∧
      (Fits name → library.Finds next name text (shelf.set stored none)) ∧
      (¬Fits name → library.Misses next name) := by
  obtain ⟨_, held⟩ := absent.holds.serve calls undisturbed
  have proper := Shelf.empty_proper.serve calls
  rcases served : (library.serve Disk.own calls).run disk with ⟨_, after⟩
  rcases kept : Shelf.empty.serve calls with ⟨_, shelf⟩
  rw [served, kept] at held
  rw [kept] at proper
  dsimp only at held proper ⊢
  have found := held.finds_saved proper name text stored
  rcases answered : (library.answer Disk.own (.save name text)).run after with ⟨reply, next⟩
  rw [answered] at found
  exact found

/-- A script is found under a name of which only the last part counts. -/
theorem saved_script_is_found_hello :
    let calls : List Call := [.save "hello.TXT" "ENTER", .delete "hello"]
    let after := ((Library.scripts.serve Disk.own calls).run Disk.fresh).2
    let (reply, next) :=
      (Library.scripts.answer Disk.own (.save "docs/hello" "STRING hi")).run after
    Library.scripts.Absent Disk.fresh ∧
    (∀ reply ∈ ((Library.scripts.serve Disk.own calls).run Disk.fresh).1, reply.Undisturbed) ∧
    reply = .saved (.ok "hello.txt") ∧ Fits "docs/hello" ∧
    ∃ rest, Library.scripts.Finds next "docs/hello" "STRING hi" rest := by
  intro calls after
  have brief : ∀ call ∈ calls, call.isBrief = true := by decide
  have undisturbed := Library.scripts_undisturbed calls brief
  have saved : ((Library.scripts.answer Disk.own (.save "docs/hello" "STRING hi")).run after).1 =
      .saved (.ok "hello.txt") := by
    rw [Library.scripts_answer calls brief _ (by decide)]
    rfl
  have fits : Fits "docs/hello" := by decide
  have found := saved_script_is_found Library.scripts Disk.fresh Library.scripts_absent calls
    undisturbed "docs/hello" "STRING hi" "hello.txt" saved
  exact ⟨Library.scripts_absent, undisturbed, saved, fits, _, found.2.2.1 fits⟩

/-- A script is not found under the name that it was saved under when a blank and a mark had to be
dropped from it. -/
theorem saved_script_is_missed_open_term :
    let calls : List Call :=
      [.save "open term!" "ENTER", .load "open term!", .delete "open term!", .load "openterm"]
    Library.scripts.Absent Disk.fresh ∧
    (∀ reply ∈ ((Library.scripts.serve Disk.own calls).run Disk.fresh).1, reply.Undisturbed) ∧
    ((Library.scripts.serve Disk.own calls).run Disk.fresh).1 =
      [.saved (.ok "openterm.txt"), .loaded (.error (.notFound "open term!")),
        .deleted (.error (.notFound "open term!")), .loaded (.ok "ENTER")] := by
  intro calls
  have brief : ∀ call ∈ calls, call.isBrief = true := by decide
  refine ⟨Library.scripts_absent, Library.scripts_undisturbed calls brief, ?_⟩
  rw [Library.scripts_serve calls brief]
  rfl

/-- **A deleted script stays deleted.** Behind any calls to a library whose directory does not exist
at first, a name under which a script has been deleted leads to no script, so to load it or to
delete it again fails and changes nothing. The exception is a name whose last part had a script of
its own and another one under it with the extension added: that other script is loaded next, and
deleted next. A name without the extension is no such name. -/
theorem deleted_script_stays_deleted (library : Library) (disk : Disk)
    (absent : library.Absent disk) (calls : List Call)
    (undisturbed : ∀ reply ∈ ((library.serve Disk.own calls).run disk).1, reply.Undisturbed)
    (name : String) :
    let (_, after) := (library.serve Disk.own calls).run disk
    let (_, shelf) := Shelf.empty.serve calls
    let (reply, next) := (library.answer Disk.own (.delete name)).run after
    library.Shows after shelf ∧
    (reply = .deleted (.ok ()) →
      (shelf (base name) = none ∨ shelf (base name ++ ".txt") = none →
        library.Misses next name) ∧
      (∀ first second, shelf (base name) = some first → shelf (base name ++ ".txt") = some second →
        library.Finds next name second
          ((shelf.set (base name) none).set (base name ++ ".txt") none)) ∧
      (¬HasExtension (base name) → library.Misses next name)) := by
  obtain ⟨_, held⟩ := absent.holds.serve calls undisturbed
  have proper := Shelf.empty_proper.serve calls
  rcases served : (library.serve Disk.own calls).run disk with ⟨_, after⟩
  rcases kept : Shelf.empty.serve calls with ⟨_, shelf⟩
  rw [served, kept] at held
  rw [kept] at proper
  dsimp only at held proper ⊢
  have single := held.misses_deleted name
  have both := held.finds_deleted name
  rcases answered : (library.answer Disk.own (.delete name)).run after with ⟨reply, next⟩
  rw [answered] at single both
  refine ⟨held.shows, fun deleted => ⟨single deleted, both deleted, fun bare => ?_⟩⟩
  exact single deleted (Or.inl (proper.none_of_bare bare))

/-- Nothing is found under a name whose script has been deleted. -/
theorem deleted_script_stays_deleted_hello :
    let calls : List Call := [.save "hello" "STRING hi"]
    let after := ((Library.scripts.serve Disk.own calls).run Disk.fresh).2
    let (reply, next) := (Library.scripts.answer Disk.own (.delete "docs/hello")).run after
    Library.scripts.Absent Disk.fresh ∧
    (∀ reply ∈ ((Library.scripts.serve Disk.own calls).run Disk.fresh).1, reply.Undisturbed) ∧
    reply = .deleted (.ok ()) ∧ ¬HasExtension (base "docs/hello") ∧
    Library.scripts.Misses next "docs/hello" := by
  intro calls after
  have brief : ∀ call ∈ calls, call.isBrief = true := by decide
  have undisturbed := Library.scripts_undisturbed calls brief
  have deleted : ((Library.scripts.answer Disk.own (.delete "docs/hello")).run after).1 =
      .deleted (.ok ()) := by
    rw [Library.scripts_answer calls brief _ rfl]
    rfl
  have bare : ¬HasExtension (base "docs/hello") := by decide
  have gone := deleted_script_stays_deleted Library.scripts Disk.fresh Library.scripts_absent calls
    undisturbed "docs/hello"
  exact ⟨Library.scripts_absent, undisturbed, deleted, bare, (gone.2 deleted).2.2 bare⟩

/-- A deletion uncovers a script with a longer name, which is loaded and deleted next. -/
theorem deletion_uncovers_longer_name :
    let calls : List Call :=
      [.save "a.txt" "ENTER", .save "a.txt.txt" "TAB", .delete "a.txt", .load "a.txt",
        .delete "a.txt", .load "a.txt.txt"]
    Library.scripts.Absent Disk.fresh ∧
    (∀ reply ∈ ((Library.scripts.serve Disk.own calls).run Disk.fresh).1, reply.Undisturbed) ∧
    ((Library.scripts.serve Disk.own calls).run Disk.fresh).1 =
      [.saved (.ok "a.txt"), .saved (.ok "a.txt.txt"), .deleted (.ok ()), .loaded (.ok "TAB"),
        .deleted (.ok ()), .loaded (.error (.notFound "a.txt.txt"))] := by
  intro calls
  have brief : ∀ call ∈ calls, call.isBrief = true := by decide
  refine ⟨Library.scripts_absent, Library.scripts_undisturbed calls brief, ?_⟩
  rw [Library.scripts_serve calls brief]
  rfl

end KeyGadget
