import KeyGadget.Proofs.Lowercase
import KeyGadget.Proofs.Parts
import KeyGadget.Proofs.ScriptName

/-!
# Safe names

The name that a script is stored under is made of what stands behind the last separator of the name
that was given: the plain characters of it, without the dots in front, and with the extension. It is
a safe name for a file, and a name that is safe already is left as it is. The only names that a
script cannot be stored under are those that have nothing but dots and dropped characters there.

## Main result

`stored_name_is_safe`: which names are refused, and what the others are made into.
-/
namespace KeyGadget.Library

open Text (IsGap)

/-! ### The last part of a name -/

/-- A name has one last part. -/
theorem LastOf.eq_iff {name part : List Char} (lastOf : LastOf name part) (other : List Char) :
    LastOf name other ↔ other = part := by
  constructor
  · intro lastOf'
    rw [← lastOf.getLastD_pieces, lastOf'.getLastD_pieces]
  · rintro rfl
    exact lastOf

/-- Trimming takes no plain character away. -/
theorem filter_isPlain_trim (part : List Char) :
    (Text.trim part).filter isPlain = part.filter isPlain := by
  obtain ⟨before, behind, split, front, back, -⟩ := Text.trims_trim part
  have none : ∀ gap, IsGap gap → gap.filter isPlain = [] := by
    intro gap isGap
    rw [List.filter_eq_nil_iff]
    intro c member plain
    have blank := isGap c member
    rw [unblank_of_plain plain] at blank
    cases blank
  calc (Text.trim part).filter isPlain
      = (before ++ Text.trim part ++ behind).filter isPlain := by
        rw [List.filter_append, List.filter_append, none before front, none behind back,
          List.nil_append, List.append_nil]
    _ = part.filter isPlain := by rw [← split]

theorem LastOf.remainder_eq {name : String} {part : List Char} (lastOf : LastOf name.toList part) :
    remainder name = (part.filter isPlain).dropWhile (· == '.') := by
  rw [remainder, lastOf.base_eq, filter_isPlain_trim]

/-! ### What is left of it -/

/-- A character that makes a name, which no number of dots does. -/
def IsSolid (c : Char) : Prop :=
  c.isAlphanum = true ∨ c = '_' ∨ c = '-'

instance : DecidablePred IsSolid := fun c =>
  inferInstanceAs (Decidable (c.isAlphanum = true ∨ c = '_' ∨ c = '-'))

theorem isPlain_iff (c : Char) : isPlain c = true ↔ IsSolid c ∨ c = '.' := by
  simp only [isPlain, IsSolid, Bool.or_eq_true, beq_iff_eq]
  tauto

theorem isSolid_iff (c : Char) : IsSolid c ↔ isPlain c = true ∧ c ≠ '.' := by
  rw [isPlain_iff]
  constructor
  · intro solid
    refine ⟨.inl solid, ?_⟩
    rintro rfl
    exact absurd solid (by decide)
  · rintro ⟨solid | rfl, other⟩
    · exact solid
    · exact absurd rfl other

theorem filter_isPlain (part : List Char) :
    part.filter isPlain = part.filter fun c => IsSolid c ∨ c = '.' :=
  List.filter_congr fun c _ => by rw [Bool.eq_iff_iff, decide_eq_true_eq, isPlain_iff]

theorem LastOf.remainder_eq_nil_iff {name : String} {part : List Char}
    (lastOf : LastOf name.toList part) : remainder name = [] ↔ ∀ c ∈ part, ¬ IsSolid c := by
  rw [lastOf.remainder_eq, List.dropWhile_eq_nil_iff]
  simp only [List.mem_filter, beq_iff_eq, isSolid_iff, and_imp, not_and, not_not]

theorem storedName_eq_error_iff (name : String) :
    storedName name = .error (.invalidName name) ↔ remainder name = [] := by
  rw [storedName_eq]
  split <;> simp_all

/-! ### Names that scripts are stored under -/

/-- The name of a stored script has something in front of its extension. -/
theorem IsScript.split {stored : String} (isScript : IsScript stored) :
    ∃ front ending, front ≠ [] ∧ stored.toList = front ++ ending ∧
      Text.asciiLower ending = extension := by
  have suffix := isScript.extended
  rw [HasExtension, List.isSuffixOf_iff_suffix, Text.asciiLower] at suffix
  obtain ⟨lower, split⟩ := suffix
  obtain ⟨front, ending, chars, -, lowered⟩ := List.map_eq_append_iff.mp split.symm
  refine ⟨front, ending, ?_, chars, lowered⟩
  -- Otherwise the name would start with the dot of the extension.
  rintro rfl
  obtain ⟨c, rest, visible, other⟩ := isScript.visible
  rw [List.nil_append, visible] at chars
  rw [← chars, List.map_cons] at lowered
  have dot : c.toLower = '.' := (List.cons.inj lowered).1
  rw [← Char.toNat_inj, Text.toNat_toLower] at dot
  apply other
  rw [← Char.toNat_inj]
  have value : '.'.toNat = 46 := rfl
  split at dot <;> omega

/-- A script is stored under the name of a stored script without a change. -/
theorem IsScript.storedName_eq {stored : String} (isScript : IsScript stored) :
    storedName stored = .ok stored := by
  have own := isScript.base_eq
  have fits : Fits stored := IsStored.fits (own.symm ▸ isScript.toIsStored)
  rw [fits.storedName_eq (own.symm ▸ isScript.isName.nonempty), own, if_pos isScript.extended]

theorem IsScript.baseName_eq {stored : String} (isScript : IsScript stored) :
    baseName stored.toList = some stored.toList := by
  have isName := isScript.isName
  rw [Library.baseName_eq, isScript.base_eq, if_neg]
  simp [isName.nonempty, isName.notHere, isName.notAbove]

theorem IsScript.undotted {stored : String} (isScript : IsScript stored) :
    stored.toList.head? ≠ some '.' := by
  obtain ⟨c, rest, chars, other⟩ := isScript.visible
  rw [chars, List.head?_cons, ne_eq, Option.some.injEq]
  exact other

/-- **A script is stored under a safe name.** A name is refused just when there is no letter, digit,
underscore or hyphen behind its last slash. Any other name is made into one of such characters and
dots that does not start with a dot and has something in front of its extension, and that is left as
it is when a script is stored under it again. In front of an extension that was missing stands what
is kept of the part behind the last slash, without the dots in front. -/
theorem stored_name_is_safe (name : String) :
    ∃ part, (∀ other, LastOf name.toList other ↔ other = part) ∧
      (storedName name = .error (.invalidName name) ↔ ∀ c ∈ part, ¬ IsSolid c) ∧
      ((∃ c ∈ part, IsSolid c) → ∃ stored, storedName name = .ok stored ∧
        (∀ c ∈ stored.toList, IsSolid c ∨ c = '.') ∧ stored.toList.head? ≠ some '.' ∧
        (∃ front ending, front ≠ [] ∧ stored.toList = front ++ ending ∧
          Text.asciiLower ending = ".txt".toList) ∧
        storedName stored = .ok stored ∧ baseName stored.toList = some stored.toList ∧
        let kept := (part.filter fun c => IsSolid c ∨ c = '.').dropWhile (· == '.')
        stored = if HasExtension (String.ofList kept) then String.ofList kept
          else String.ofList kept ++ ".txt") := by
  obtain ⟨part, lastOf⟩ := exists_lastOf name.toList
  refine ⟨part, lastOf.eq_iff, ?_, fun ⟨c, member, solid⟩ => ?_⟩
  · rw [storedName_eq_error_iff, lastOf.remainder_eq_nil_iff]
  · have left : remainder name ≠ [] :=
      fun none => lastOf.remainder_eq_nil_iff.mp none c member solid
    have accepted := storedName_eq name
    rw [if_neg left, lastOf.remainder_eq, filter_isPlain] at accepted
    have isScript := storedName_isScript accepted
    refine ⟨_, accepted, fun c member => (isPlain_iff c).mp (isScript.plain c member),
      isScript.undotted, isScript.split, isScript.storedName_eq, isScript.baseName_eq, ?_⟩
    intro kept
    rw [← ofList_withExtension, String.toList_ofList]

/-- The dots in front are dropped although a blank stands between them, and those within the name
stay. -/
theorem stored_name_is_safe_dotted :
    let name := "scripts\x5c. ..my plan.v2.TXT\t"
    ∃ part, LastOf name.toList part ∧ (∃ c ∈ part, IsSolid c) ∧
      ∃ stored, storedName name = .ok stored ∧ storedName stored = .ok stored ∧
        stored = "myplan.v2.TXT" := by
  intro name
  obtain ⟨part, lastOf, -, accepted⟩ := stored_name_is_safe name
  have own : LastOf name.toList ". ..my plan.v2.TXT\t".toList :=
    ⟨by simp [IsSlash], .inr ⟨"scripts".toList, '\x5c', .inr rfl, by decide⟩⟩
  obtain rfl := (lastOf _).mp own
  have solid : ∃ c ∈ ". ..my plan.v2.TXT\t".toList, IsSolid c := ⟨'m', by decide, by decide⟩
  obtain ⟨stored, same, -, -, -, again, -, kept⟩ := accepted solid
  exact ⟨_, own, solid, stored, same, again, kept.trans (by decide)⟩

end KeyGadget.Library
