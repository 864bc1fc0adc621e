import KeyGadget.Proofs.Listing
import Mathlib.Data.String.Basic

/-!
# Listings in order

Whatever lies in the directory of a library, hidden files, files of other kinds and directories
with the names of scripts, a listing is exactly the scripts in it, sorted by their names in lower
case. The order in which the system tells of a directory is its own. It makes no difference to what
is listed, and it decides only between scripts whose names are the same in lower case.

## Main results

`scriptsOf_sorted`, `scriptsOf_perm` and `scriptsOf_stable` say so of the members of a directory, in
whatever order they are told of, and `directory_is_listed_in_order` of a library on any disk.
-/
namespace KeyGadget

namespace Disk

variable {disk : Disk}

/-- Nothing lies where a path leads to, if it leads anywhere. -/
def Misses (disk : Disk) (path : String) : Prop :=
  disk.locate path = .error .missing ∨ ∃ place, disk.locate path = .ok (.absent place)

theorem list_missing {path : String} (misses : disk.Misses path) :
    disk.list path = .error .missing := by
  rcases misses with located | ⟨place, located⟩ <;> rw [list, find, located]

/-- The files of a disk that tells of its directories in an order of its own. -/
def told (order : List Member → List Member) : Files (StateM Disk) :=
  { own with list := fun path => return (← own.list path).map order }

theorem told_list (order : List Member → List Member) (disk : Disk) (path : String) :
    ((told order).list path).run disk = ((disk.list path).map order, disk) := rfl

end Disk

namespace Library

/-! ### The order of scripts -/

private theorem precedes_trans (a b c : Listed) (first : precedes a b) (second : precedes b c) :
    precedes a c := by
  simp only [precedes, decide_eq_true_eq] at first second ⊢
  exact le_trans first second

private theorem precedes_total (a b : Listed) : precedes a b || precedes b a := by
  simp only [precedes, Bool.or_eq_true, decide_eq_true_eq]
  exact le_total a.folded b.folded

theorem scriptsOf_sorted (members : List Member) :
    (scriptsOf members).Pairwise fun a b => a.folded ≤ b.folded :=
  (List.pairwise_mergeSort precedes_trans precedes_total _).imp of_decide_eq_true

/-- The order in which members are told of does not bear on which of them are listed. -/
theorem scriptsOf_perm {members others : List Member} (same : members.Perm others) :
    (scriptsOf members).Perm (scriptsOf others) :=
  (List.mergeSort_perm _ _).trans
    (((same.filter _).map _).trans (List.mergeSort_perm _ _).symm)

/-- Of two scripts with the same name in lower case, the one that is told of first comes first. -/
theorem scriptsOf_stable {members : List Member} {first second : Member}
    (told : [first, second].Sublist members) (one : isListed first = true)
    (other : isListed second = true)
    (same : Listed.folded ⟨first.name, first.size⟩ = Listed.folded ⟨second.name, second.size⟩) :
    [⟨first.name, first.size⟩, ⟨second.name, second.size⟩].Sublist (scriptsOf members) := by
  have before : precedes ⟨first.name, first.size⟩ ⟨second.name, second.size⟩ = true :=
    decide_eq_true (le_of_eq same)
  have kept : [first, second].Sublist (members.filter isListed) := by
    simpa [one, other] using told.filter isListed
  have shown := kept.map fun member => (⟨member.name, member.size⟩ : Listed)
  exact List.pair_sublist_mergeSort precedes_trans precedes_total before shown

end Library

open Library (Listed IsShown scriptsOf scriptsOf_perm list_run)

/-- **A directory is listed in order.** In whatever order the disk tells of it, a library whose
directory is there lists the files that lie in it under names that are shown, each of them once,
with its size, and nothing else; the listing is sorted by the names in lower case, and it has the
same entries in any other order of telling. A library whose directory is missing lists nothing.
Nothing is changed. -/
theorem directory_is_listed_in_order (library : Library) (disk : Disk) (unique : disk.Unique)
    (order : List Member → List Member) (whole : ∀ members, (order members).Perm members) :
    (∀ here, disk.locate library.root = .ok (.present here .directory) →
      ∃ listed, (library.list (Disk.told order)).run disk = (.ok listed, disk) ∧
        (listed.map (·.name)).Nodup ∧
        (∀ entry, entry ∈ listed ↔ IsShown entry.name ∧ ∃ content,
          disk.at? (here ++ [entry.name]) = some (.file content) ∧ entry.size = content.size) ∧
        (listed.Pairwise fun a b => a.folded ≤ b.folded) ∧
        ∀ reorder : List Member → List Member, (∀ members, (reorder members).Perm members) →
          ∃ again, (library.list (Disk.told reorder)).run disk = (.ok again, disk) ∧
            again.Perm listed) ∧
    (disk.Misses library.root →
      (library.list (Disk.told order)).run disk = (.ok [], disk)) := by
  constructor
  · intro here located
    -- What is told of is what lies there, in some order.
    have reordered := scriptsOf_perm (whole (disk.membersIn here))
    refine ⟨scriptsOf (order (disk.membersIn here)), ?listed, ?once, fun entry => ?exact,
      Library.scriptsOf_sorted _, fun reorder all => ?again⟩
    case listed =>
      rw [list_run (Disk.told_list order disk _), Disk.list_directory located]
      rfl
    case once =>
      rw [(reordered.map _).nodup_iff]
      exact Library.scriptsOf_nodup _ (Disk.members_nodup unique here)
    case exact => rw [reordered.mem_iff, Library.mem_listing_iff unique here]
    case again =>
      refine ⟨_, ?_, (scriptsOf_perm (all (disk.membersIn here))).trans reordered.symm⟩
      rw [list_run (Disk.told_list reorder disk _), Disk.list_directory located]
      rfl
  · intro misses
    rw [list_run (Disk.told_list order disk _), Disk.list_missing misses]
    rfl

/-- A directory with two scripts, a hidden file, a file of another kind and a directory that has
the name of a script, told of backwards, and a directory that is not there. -/
theorem directory_is_listed_in_order_assorted :
    let disk : Disk := ⟨[(["lib"], .directory), (["lib", "b.txt"], .file "x".toUTF8),
      (["lib", "A.txt"], .file "é".toUTF8), (["lib", ".a.txt"], .file "x".toUTF8),
      (["lib", "c.TXT"], .file "x".toUTF8), (["lib", "d.txt"], .directory)], []⟩
    (disk.Unique ∧ (∀ members : List Member, members.reverse.Perm members) ∧
      disk.locate "/lib" = .ok (.present ["lib"] .directory) ∧ disk.Misses "/none") ∧
    (∃ listed again,
      ((⟨"/lib"⟩ : Library).list (Disk.told List.reverse)).run disk = (.ok listed, disk) ∧
      ((⟨"/lib"⟩ : Library).list (Disk.told id)).run disk = (.ok again, disk) ∧
      again.Perm listed ∧ (listed.Pairwise fun a b => a.folded ≤ b.folded) ∧
      ⟨"A.txt", 2⟩ ∈ listed ∧ ⟨"b.txt", 1⟩ ∈ listed ∧
      ∀ size, ⟨".a.txt", size⟩ ∉ listed ∧ ⟨"c.TXT", size⟩ ∉ listed ∧ ⟨"d.txt", size⟩ ∉ listed) ∧
    ((⟨"/none"⟩ : Library).list (Disk.told List.reverse)).run disk = (.ok [], disk) := by
  intro disk
  have unique : disk.Unique := by
    rw [Disk.Unique]
    decide
  have backwards (members : List Member) : members.reverse.Perm members :=
    List.reverse_perm members
  have located : disk.locate "/lib" = .ok (.present ["lib"] .directory) := by
    rw [Disk.locate, String.contains_char_eq]
    rfl
  have misses : disk.Misses "/none" := by
    refine .inr ⟨["none"], ?_⟩
    rw [Disk.locate, String.contains_char_eq]
    rfl
  have hidden : ¬ IsShown ".a.txt" := fun shown => absurd shown.visible (by decide)
  have capital : ¬ IsShown "c.TXT" := fun shown => absurd shown.extended (by decide)
  obtain ⟨listed, succeeded, _, exact, sorted, other⟩ :=
    (directory_is_listed_in_order ⟨"/lib"⟩ disk unique _ backwards).1 ["lib"] located
  obtain ⟨again, succeeded', same⟩ := other id List.Perm.refl
  refine ⟨⟨unique, backwards, located, misses⟩,
    ⟨listed, again, succeeded, succeeded', same, sorted,
      (exact _).mpr ⟨⟨by decide, by decide⟩, _, rfl, rfl⟩,
      (exact _).mpr ⟨⟨by decide, by decide⟩, _, rfl, rfl⟩,
      fun size => ⟨fun member => hidden ((exact _).mp member).1,
        fun member => capital ((exact _).mp member).1, ?directory⟩⟩,
    (directory_is_listed_in_order ⟨"/none"⟩ disk unique _ backwards).2 misses⟩
  case directory =>
    intro member
    obtain ⟨_, _, lies, _⟩ := (exact _).mp member
    cases lies

end KeyGadget
