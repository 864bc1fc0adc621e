import KeyGadget.Proofs.Grammar
import KeyGadget.Proofs.Lowercase

/-!
# Canonical names and case

Canonical names are meant to be the same for all ways to write a name in capitals and small letters,
and to be their own canonical names. The list of long names is read in ASCII case only, and all
other names in full lowercase, so a name can be in the list while one with the same lowercase is
not: the Kelvin sign is no letter to the list, but it is a k in lower case. For three names of the
list this makes a difference.

## Main result

`canonical_folds_case`: names with the same lowercase have the same canonical name, and canonical
names are their own, but for these three names with a Kelvin sign.
-/
namespace KeyGadget.Names

open Text (kelvin)

theorem lowered_lowered (token : String) : lowered (lowered token) = lowered token := by
  rw [lowered, lowered, String.toList_ofList, Text.lowercase_lowercase]

/-! ### The list of long names -/

/-- A name in upper case of ASCII, as the list has it. -/
def raised (token : String) : String :=
  String.ofList (Text.asciiUpper token.toList)

theorem canonical_eq (token : String) :
    canonical token = (aliasOf? (raised token)).getD (lowered token) := by
  rw [canonical, ← raised]
  cases aliasOf? (raised token) <;> rfl

/-- The list has letters of ASCII only. -/
theorem aliasOf?_of_beyond (token : String) (c : Char) (member : c ∈ token.toList)
    (beyond : 0x80 ≤ c.toNat) : aliasOf? (raised token) = none := by
  have ascii : ∀ pair ∈ aliases, pair.1.toList.all (·.toNat < 0x80) = true := by decide
  rw [Option.eq_none_iff_forall_ne_some]
  intro name found
  have listed := List.all_eq_true.mp (ascii _ ((aliasOf?_eq_some_iff _ _).mp found)) c.toUpper
  rw [raised, String.toList_ofList, Text.toUpper_of_beyond c beyond] at listed
  have below : c.toNat < 0x80 :=
    of_decide_eq_true (listed (List.mem_map.mpr ⟨c, member, Text.toUpper_of_beyond c beyond⟩))
  omega

/-- The list does not tell a name from its lowercase, unless there is a Kelvin sign in it. -/
theorem aliasOf?_lowered (token : String) (plain : kelvin ∉ token.toList) :
    aliasOf? (raised (lowered token)) = aliasOf? (raised token) := by
  by_cases ascii : ∀ c ∈ token.toList, c.toNat < 0x80
  · rw [raised, lowered, String.toList_ofList, Text.lowercase_of_ascii _ ascii,
      Text.asciiUpper_asciiLower, raised]
  · -- What is beyond ASCII is beyond it in lower case too, so neither is in the list.
    push Not at ascii
    obtain ⟨c, member, beyond⟩ := ascii
    have other : c ≠ kelvin := fun same => plain (same ▸ member)
    obtain ⟨d, kept, beyond'⟩ := Text.exists_beyond_of_mem token.toList c member beyond other
    have kept' : d ∈ (lowered token).toList := by rwa [lowered, String.toList_ofList]
    rw [aliasOf?_of_beyond token c member beyond,
      aliasOf?_of_beyond (lowered token) d kept' beyond']

theorem canonical_lowered (token : String) (plain : kelvin ∉ token.toList) :
    canonical (lowered token) = canonical token := by
  rw [canonical_eq, canonical_eq, aliasOf?_lowered token plain, lowered_lowered]

theorem canonical_of_kelvin (token : String) (sign : kelvin ∈ token.toList) :
    canonical token = lowered token := by
  rw [canonical_eq, aliasOf?_of_beyond token kelvin sign (by decide)]
  rfl

/-! ### Names that the list does not find -/

/-- The names with a k in them that stand for another name. -/
def strays : List String :=
  ["break", "capslock", "scrolllock"]

/-- A name that is written with a Kelvin sign, and with a k would stand for another name. -/
def Stray (token : String) : Prop :=
  kelvin ∈ token.toList ∧ lowered token ∈ strays

instance (token : String) : Decidable (Stray token) :=
  inferInstanceAs (Decidable (_ ∧ _))

/-- In ASCII, upper case is lowered to what it was raised from. -/
theorem lowered_raised (token : String) (ascii : ∀ c ∈ token.toList, c.toNat < 0x80) :
    lowered (raised token) = lowered token := by
  have lower : ∀ n : Fin 0x80, (Char.ofNat n).toUpper.toNat < 0x80 ∧
      (Char.ofNat n).toUpper.toLower = (Char.ofNat n).toLower := by decide
  have own := fun c member =>
    Text.forall_ascii (p := fun c => c.toUpper.toNat < 0x80 ∧ c.toUpper.toLower = c.toLower) lower
      c (ascii c member)
  have ascii' : ∀ c ∈ Text.asciiUpper token.toList, c.toNat < 0x80 := by
    rw [Text.asciiUpper, List.forall_mem_map]
    exact fun c member => (own c member).1
  rw [lowered, lowered, raised, String.toList_ofList, Text.lowercase_of_ascii _ ascii,
    Text.lowercase_of_ascii _ ascii', Text.asciiLower, Text.asciiUpper, List.map_map]
  exact congrArg String.ofList (List.map_congr_left fun c member => (own c member).2)

/-- A name in lower case that stands for another name is in the list. -/
private theorem listed_of_canonical_ne (token : String)
    (moved : canonical (lowered token) ≠ lowered token) :
    ∃ pair ∈ aliases, lowered pair.1 = lowered token ∧ pair.2 ≠ lowered token := by
  rw [canonical_eq, lowered_lowered] at moved
  cases found : aliasOf? (raised (lowered token)) with
  | none => simp [found] at moved
  | some name =>
    rw [found, Option.getD_some] at moved
    have ascii : ∀ c ∈ (lowered token).toList, c.toNat < 0x80 := by
      intro c member
      by_contra beyond
      rw [aliasOf?_of_beyond _ c member (by omega)] at found
      cases found
    refine ⟨_, (aliasOf?_eq_some_iff _ _).mp found, ?_, moved⟩
    rw [lowered_raised _ ascii, lowered_lowered]

/-- Where a k is written as a Kelvin sign, the name that it is a k of may be another one. -/
theorem canonical_lowered_eq_iff (token : String) (sign : kelvin ∈ token.toList) :
    canonical (lowered token) = lowered token ↔ lowered token ∉ strays := by
  have stand : ∀ name ∈ strays, canonical name ≠ name := by decide +kernel
  have others : ∀ pair ∈ aliases, 'k' ∈ (lowered pair.1).toList → pair.2 ≠ lowered pair.1 →
      lowered pair.1 ∈ strays := by decide +kernel
  constructor
  · exact fun own stray => stand _ stray own
  · intro known
    by_contra moved
    obtain ⟨pair, listed, same, differs⟩ := listed_of_canonical_ne token moved
    have letter : 'k' ∈ (lowered token).toList := by
      rw [lowered, String.toList_ofList]
      exact Text.k_mem_lowercase _ sign
    rw [← same] at known letter differs
    exact known (others pair listed letter differs)

/-- A name has the canonical name of its lowercase, unless it is stray. -/
theorem canonical_eq_canonical_lowered_iff (token : String) :
    canonical token = canonical (lowered token) ↔ ¬ Stray token := by
  by_cases sign : kelvin ∈ token.toList
  · rw [canonical_of_kelvin token sign, eq_comm, canonical_lowered_eq_iff token sign, Stray]
    simp only [sign, true_and]
  · rw [canonical_lowered token sign, Stray]
    simp only [sign, false_and, not_false_eq_true]

theorem canonical_canonical_iff (token : String) :
    canonical (canonical token) = canonical token ↔ ¬ Stray token := by
  by_cases sign : kelvin ∈ token.toList
  · rw [canonical_of_kelvin token sign, canonical_lowered_eq_iff token sign, Stray]
    simp only [sign, true_and]
  · -- A name of the list is its own canonical name, and any other is in lower case already.
    have fixed : canonical (canonical token) = canonical token := by
      cases found : aliasOf? (raised token) with
      | none =>
        have own : canonical token = lowered token := by rw [canonical_eq, found, Option.getD_none]
        rw [own, canonical_lowered token sign, own]
      | some name =>
        have stays : ∀ pair ∈ aliases, canonical pair.2 = pair.2 := by decide +kernel
        have own : canonical token = name := by rw [canonical_eq, found, Option.getD_some]
        rw [own]
        exact stays (raised token, name) ((aliasOf?_eq_some_iff _ _).mp found)
    simp only [fixed, Stray, sign, false_and, not_false_eq_true]

theorem Stray.canonical_eq {token : String} (stray : Stray token) :
    canonical token = lowered token :=
  canonical_of_kelvin token stray.1

/-- What a stray name comes to stands for another name. -/
theorem Stray.moves {token : String} (stray : Stray token) :
    canonical (lowered token) ≠ lowered token :=
  fun own => (canonical_lowered_eq_iff token stray.1).mp own stray.2

/-- **Canonical names are a normal form** for all ways to write a name in either case, with one
exception. Two names with the same lowercase have the same canonical name, and a canonical name is
its own, unless there is a Kelvin sign in a name whose lowercase is one of the strays: such a name
keeps its lowercase, which stands for another name when it is read again. -/
theorem canonical_folds_case (token other : String) :
    (lowered token = lowered other →
      (canonical token = canonical other ↔ (Stray token ↔ Stray other))) ∧
    (canonical (canonical token) = canonical token ↔ ¬ Stray token) ∧
    (Stray token →
      canonical token = lowered token ∧ canonical (lowered token) ≠ lowered token) := by
  refine ⟨fun same => ?_, canonical_canonical_iff token,
    fun stray => ⟨stray.canonical_eq, stray.moves⟩⟩
  have first := canonical_eq_canonical_lowered_iff token
  have second := canonical_eq_canonical_lowered_iff other
  -- A name that is not stray is read as its lowercase is, and the two have that in common.
  by_cases stray : Stray token <;> by_cases stray' : Stray other
  · refine iff_of_true ?_ (iff_of_true stray stray')
    rw [stray.canonical_eq, stray'.canonical_eq, same]
  · refine iff_of_false ?_ fun both => stray' (both.mp stray)
    rw [stray.canonical_eq, second.mpr stray', ← same]
    exact stray.moves.symm
  · refine iff_of_false ?_ fun both => stray (both.mpr stray')
    rw [stray'.canonical_eq, first.mpr stray, same]
    exact stray'.moves
  · refine iff_of_true ?_ (iff_of_false stray stray')
    rw [first.mpr stray, second.mpr stray', same]

/-- The sign stands for the last letter of the key that breaks. -/
theorem canonical_folds_case_break :
    lowered "BREAK" = lowered "BREA\u212A" ∧ Stray "BREA\u212A" ∧ ¬ Stray "BREAK" ∧
    canonical "BREAK" ≠ canonical "BREA\u212A" := by
  have same : lowered "BREAK" = lowered "BREA\u212A" := by decide +kernel
  have stray : Stray "BREA\u212A" := by decide +kernel
  have plain : ¬ Stray "BREAK" := by decide +kernel
  refine ⟨same, stray, plain, fun equal => ?_⟩
  exact plain ((((canonical_folds_case _ _).1 same).mp equal).mpr stray)

/-- Neither half holds of the name of the key that breaks, written with the sign. -/
theorem kelvin_sign_breaks_case :
    (lowered "BREAK" = lowered "BREA\u212A" ∧
      canonical "BREAK" = "pause" ∧ canonical "BREA\u212A" = "break") ∧
    canonical (canonical "BREA\u212A") = "pause" := by
  decide +kernel

end KeyGadget.Names
