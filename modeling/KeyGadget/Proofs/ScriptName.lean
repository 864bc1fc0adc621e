import Mathlib.Data.List.TakeWhile
import KeyGadget.Library.Name
import KeyGadget.Proofs.Directory

/-!
# Names of scripts

A library stores a script under what is left of a name when all but plain characters are dropped,
and looks for it under the last part of a name as it stands. The two ways meet in the names that
scripts are stored under: the last part of such a name is the whole name.

## Main results

`baseName_eq` says under which name a script is looked for, and `base_eq` that this is the name
itself if a script can be stored under it.
-/
namespace KeyGadget.Library

open KeyGadget.Path (IsName)

/-- What stands behind the last separator of a name, without the blanks around it. -/
def base (name : String) : String :=
  String.ofList (Text.trim (name.toList.reverse.takeWhile (!isSeparator ·)).reverse)

/-- A slash of either kind, which parts a name. -/
def IsSlash (c : Char) : Prop :=
  c = '/' ∨ c = '\x5c'

theorem isSeparator_iff (c : Char) : isSeparator c = true ↔ IsSlash c := by
  rw [isSeparator, Bool.or_eq_true, beq_iff_eq, beq_iff_eq, IsSlash]

theorem isSeparator_eq_false_iff (c : Char) : isSeparator c = false ↔ ¬ IsSlash c := by
  rw [← isSeparator_iff, Bool.not_eq_true]

/-- What stands behind the last slash of a name, or the whole of a name without one. -/
def LastOf (name part : List Char) : Prop :=
  (∀ c ∈ part, ¬ IsSlash c) ∧ (name = part ∨ ∃ front c, IsSlash c ∧ name = front ++ c :: part)

theorem exists_lastOf (name : List Char) : ∃ part, LastOf name part := by
  induction name with
  | nil => exact ⟨[], by simp, .inl rfl⟩
  | cons c rest ih =>
    obtain ⟨part, inside, rfl | ⟨front, d, slash, rfl⟩⟩ := ih
    · by_cases slash : IsSlash c
      · exact ⟨rest, inside, .inr ⟨[], c, slash, rfl⟩⟩
      · exact ⟨c :: rest, List.forall_mem_cons.mpr ⟨slash, inside⟩, .inl rfl⟩
    · exact ⟨part, inside, .inr ⟨c :: front, d, slash, rfl⟩⟩

theorem LastOf.getLastD_pieces {name part : List Char} (lastOf : LastOf name part) :
    (Text.pieces isSeparator name).getLastD [] = part := by
  obtain ⟨inside, whole⟩ := lastOf
  have own : Text.pieces isSeparator part = [part] :=
    Text.pieces_of_none part fun c member => (isSeparator_eq_false_iff c).mpr (inside c member)
  rcases whole with rfl | ⟨front, c, slash, rfl⟩
  · rw [own]
    rfl
  · rw [Text.pieces_append_cons isSeparator front part c ((isSeparator_iff c).mpr slash), own,
      List.getLastD_concat]

theorem LastOf.base_eq {name : String} {part : List Char} (lastOf : LastOf name.toList part) :
    (base name).toList = Text.trim part := by
  obtain ⟨inside, whole⟩ := lastOf
  have kept : ∀ c ∈ part.reverse, (!isSeparator c) = true := by
    simpa [isSeparator_eq_false_iff] using inside
  rw [base, String.toList_ofList]
  -- Read from its end, the name goes on without a slash as long as the part does.
  rcases whole with whole | ⟨front, c, slash, whole⟩
  · rw [whole, List.takeWhile_eq_self_iff.mpr kept, List.reverse_reverse]
  · rw [whole, List.reverse_append, List.reverse_cons, List.append_assoc,
      List.takeWhile_append_of_pos kept, List.singleton_append,
      List.takeWhile_cons_of_neg (by simp [(isSeparator_iff c).mpr slash]), List.append_nil,
      List.reverse_reverse]

theorem lastPart_eq (name : String) : lastPart name.toList = (base name).toList := by
  obtain ⟨part, lastOf⟩ := exists_lastOf name.toList
  rw [lastPart, lastOf.getLastD_pieces, lastOf.base_eq]

theorem baseName_eq (name : String) :
    baseName name.toList =
      if base name ∈ ["", ".", ".."] then none else some (base name).toList := by
  have same : ∀ text : String, ((base name).toList == text.toList) =
      decide (base name = text) := by
    intro text
    rw [Bool.eq_iff_iff, beq_iff_eq, decide_eq_true_eq, String.toList_inj]
  have condition : ((base name).toList == [] || (base name).toList == ['.'] ||
      (base name).toList == ['.', '.']) = decide (base name ∈ ["", ".", ".."]) := by
    have empty : ((base name).toList == []) = _ := same ""
    have here : ((base name).toList == ['.']) = _ := same "."
    have above : ((base name).toList == ['.', '.']) = _ := same ".."
    rw [empty, here, above]
    simp [Bool.or_assoc]
  rw [baseName, lastPart_eq]
  simp only [condition, decide_eq_true_eq]

theorem unseparated_base (name : String) (c : Char) (member : c ∈ (base name).toList) :
    isSeparator c = false := by
  rw [base, String.toList_ofList] at member
  have behind := Text.mem_of_mem_trim member
  rw [List.mem_reverse] at behind
  simpa using List.all_eq_true.mp List.all_takeWhile c behind

theorem isName_base (name : String) (usable : base name ∉ ["", ".", ".."]) :
    IsName (base name) := by
  simp only [List.mem_cons, List.not_mem_nil, or_false, not_or] at usable
  have plain : '/' ∉ (base name).toList := fun slash =>
    absurd (unseparated_base name '/' slash) (by decide)
  exact ⟨⟨usable.1, plain⟩, usable.2.1, usable.2.2⟩

theorem isName_extended {name : String} (isName : IsName name) : IsName (name ++ ".txt") := by
  have long : 4 ≤ (name ++ ".txt").length := by
    rw [String.length_append]
    exact Nat.le_add_left 4 _
  have plain : '/' ∉ (name ++ ".txt").toList := by
    rw [String.toList_append, List.mem_append, not_or]
    exact ⟨isName.plain, by decide⟩
  refine ⟨⟨?_, plain⟩, ?_, ?_⟩
  all_goals
    intro short
    rw [short] at long
    exact absurd long (by decide)

/-- A stored name is made of plain characters, at least one of them, and does not start with a dot.
-/
structure IsStored (stored : String) : Prop where
  plain : ∀ c ∈ stored.toList, isPlain c = true
  visible : ∃ c rest, stored.toList = c :: rest ∧ c ≠ '.'

/-- What is left of a name when all but plain characters are dropped, and then the dots in front. -/
def remainder (name : String) : List Char :=
  ((base name).toList.filter isPlain).dropWhile (· == '.')

/-- Nothing is left of a name that leads to a directory, for it is made of dots. -/
theorem remainder_eq_nil {name : String} (unusable : base name ∈ ["", ".", ".."]) :
    remainder name = [] := by
  simp only [List.mem_cons, List.not_mem_nil, or_false] at unusable
  rcases unusable with same | same | same <;> rw [remainder, same] <;> rfl

theorem storedName_eq (name : String) :
    storedName name =
      if remainder name = [] then .error (.invalidName name)
      else .ok (String.ofList (withExtension (remainder name))) := by
  have left : (((baseName name.toList).getD []).filter isPlain).dropWhile (· == '.') =
      remainder name := by
    rw [baseName_eq]
    split
    next unusable => exact (remainder_eq_nil unusable).symm
    next => rfl
  rw [storedName, left]
  cases remainder name <;> rfl

theorem remainder_eq_nil_iff (name : String) :
    remainder name = [] ↔ ∀ c ∈ (base name).toList, isPlain c = true → c = '.' := by
  rw [remainder, List.dropWhile_eq_nil_iff]
  simp

theorem storedName_error {name : String} {failure : Failure}
    (refused : storedName name = .error failure) : failure = .invalidName name := by
  rw [storedName_eq] at refused
  split at refused <;> cases refused
  rfl

/-- The filter makes the characters plain, whatever the base of the name is. -/
private theorem plain_remainder (name : String) : ∀ c ∈ remainder name, isPlain c = true :=
  fun _ member => (List.mem_filter.mp (List.dropWhile_subset _ member)).2

private theorem visible_remainder (name : String) (c : Char) (rest : List Char)
    (left : remainder name = c :: rest) : c ≠ '.' := by
  rw [remainder] at left
  generalize (base name).toList.filter isPlain = plain at left
  have visible := List.head?_dropWhile_not (· == '.') plain
  rw [left] at visible
  simpa using visible

theorem storedName_ok {name stored : String} (accepted : storedName name = .ok stored) :
    IsStored stored := by
  rw [storedName_eq] at accepted
  have plain := plain_remainder name
  have visible := visible_remainder name
  generalize remainder name = rest at accepted plain visible
  cases rest with
  | nil =>
    rw [if_pos rfl] at accepted
    cases accepted
  | cons c rest =>
    have other : c ≠ '.' := visible c rest rfl
    rw [if_neg (List.cons_ne_nil c rest), withExtension, Except.ok.injEq] at accepted
    subst accepted
    constructor
    · intro d member
      rw [String.toList_ofList] at member
      split at member
      next => exact plain d member
      next =>
        rw [List.mem_append] at member
        rcases member with member | member
        · exact plain d member
        · exact List.all_eq_true.mp (by decide : extension.all isPlain = true) d member
    · rw [String.toList_ofList]
      split
      next => exact ⟨c, rest, rfl, other⟩
      next => exact ⟨c, rest ++ extension, rfl, other⟩

theorem IsStored.isName {stored : String} (isStored : IsStored stored) : IsName stored := by
  obtain ⟨c, rest, chars, other⟩ := isStored.visible
  have plain : '/' ∉ stored.toList := fun slash =>
    absurd (isStored.plain '/' slash) (by decide)
  refine ⟨⟨?_, plain⟩, ?_, ?_⟩
  all_goals
    rintro rfl
    cases chars
  all_goals exact other rfl

private theorem unseparated_of_plain {c : Char} (plain : isPlain c = true) :
    isSeparator c = false := by
  rw [isSeparator, Bool.or_eq_false_iff, beq_eq_false_iff_ne, beq_eq_false_iff_ne]
  constructor <;> rintro rfl <;> exact absurd plain (by decide)

private theorem isAlphanum_bounds {c : Char} (alphanum : c.isAlphanum = true) :
    48 ≤ c.toNat ∧ c.toNat ≤ 122 := by
  have kinds : c.isAlpha = true ∨ c.isDigit = true := (Bool.or_eq_true _ _).mp alphanum
  rcases kinds with alpha | digit
  · have cases : c.isUpper = true ∨ c.isLower = true := (Bool.or_eq_true _ _).mp alpha
    rcases cases with upper | lower
    · have range : 'A'.val ≤ c.val ∧ c.val ≤ 'Z'.val := of_decide_eq_true upper
      have low : 65 ≤ c.toNat := range.1
      have high : c.toNat ≤ 90 := range.2
      omega
    · have range : 'a'.val ≤ c.val ∧ c.val ≤ 'z'.val := by
        simpa only [decide_eq_true_eq] using (Bool.and_eq_true _ _).mp lower
      have low : 97 ≤ c.toNat := range.1
      have high : c.toNat ≤ 122 := range.2
      omega
  · have range : '0'.val ≤ c.val ∧ c.val ≤ '9'.val := by
      simpa only [decide_eq_true_eq] using (Bool.and_eq_true _ _).mp digit
    have low : 48 ≤ c.toNat := range.1
    have high : c.toNat ≤ 57 := range.2
    omega

theorem unblank_of_plain {c : Char} (plain : isPlain c = true) :
    Text.isBlank c = false := by
  simp only [isPlain, Bool.or_eq_true, beq_iff_eq] at plain
  rcases plain with ((alphanum | rfl) | rfl) | rfl
  case inl.inl.inl =>
    obtain ⟨low, high⟩ := isAlphanum_bounds alphanum
    rw [Bool.eq_false_iff]
    intro blank
    simp only [Text.isBlank, Bool.or_eq_true, Bool.and_eq_true, decide_eq_true_eq, beq_iff_eq]
      at blank
    omega
  all_goals rfl

/-- What is stored is looked for under the name that it is stored under. -/
theorem IsStored.base_eq {stored : String} (isStored : IsStored stored) :
    base stored = stored := by
  obtain ⟨c, rest, chars, _⟩ := isStored.visible
  have isWord : Text.IsWord stored.toList :=
    ⟨by simp [chars], fun c member => unblank_of_plain (isStored.plain c member)⟩
  have whole : Text.pieces isSeparator stored.toList = [stored.toList] :=
    Text.pieces_of_none _ fun c member => unseparated_of_plain (isStored.plain c member)
  rw [← String.toList_inj, ← lastPart_eq, lastPart, whole]
  exact isWord.trimmed.trim

/-! ### Names that are stored as they are -/

/-- A name ends in the extension, in any ASCII case. -/
def HasExtension (name : String) : Prop :=
  extension.isSuffixOf (Text.asciiLower name.toList) = true

instance (name : String) : Decidable (HasExtension name) :=
  inferInstanceAs (Decidable (_ = true))

/-- The name of a stored script is a stored name with the extension. -/
structure IsScript (stored : String) : Prop extends IsStored stored where
  extended : HasExtension stored

theorem ofList_withExtension (name : String) :
    String.ofList (withExtension name.toList) =
      if HasExtension name then name else name ++ ".txt" := by
  rw [withExtension, ← String.toList_inj, String.toList_ofList]
  by_cases extended : extension.isSuffixOf (Text.asciiLower name.toList) = true
  · have has : HasExtension name := extended
    rw [if_pos extended, if_pos has]
  · have lacks : ¬HasExtension name := extended
    rw [if_neg extended, if_neg lacks, String.toList_append]
    rfl

theorem storedName_isScript {name stored : String} (accepted : storedName name = .ok stored) :
    IsScript stored := by
  refine ⟨storedName_ok accepted, ?_⟩
  rw [storedName_eq] at accepted
  split at accepted
  next => cases accepted
  next =>
    rw [Except.ok.injEq] at accepted
    subst accepted
    rw [HasExtension, String.toList_ofList, withExtension]
    -- What is left ends in the extension, or it gets the extension.
    split
    next extended => exact extended
    next =>
      rw [List.isSuffixOf_iff_suffix, Text.asciiLower, List.map_append]
      exact List.suffix_append _ _

/-- Nothing is dropped from the last part of a name when a script is stored under it. -/
structure Fits (name : String) : Prop where
  plain : ∀ c ∈ (base name).toList, isPlain c = true
  undotted : (base name).toList.head? ≠ some '.'

instance (name : String) : Decidable (Fits name) :=
  decidable_of_iff
    ((base name).toList.all isPlain = true ∧ (base name).toList.head? ≠ some '.')
    ⟨fun both => ⟨List.all_eq_true.mp both.1, both.2⟩,
      fun fits => ⟨List.all_eq_true.mpr fits.plain, fits.undotted⟩⟩

theorem Fits.storedName_eq {name : String} (fits : Fits name) (some : base name ≠ "") :
    storedName name =
      .ok (if HasExtension (base name) then base name else base name ++ ".txt") := by
  -- Neither the filter nor the dots in front take anything away.
  have whole : remainder name = (base name).toList := by
    rw [remainder, List.filter_eq_self.mpr fits.plain]
    apply Text.dropWhile_of_head
    intro c head
    rw [beq_eq_false_iff_ne]
    rintro rfl
    exact fits.undotted head
  rw [Library.storedName_eq, whole, if_neg (by simpa using some), ofList_withExtension]

theorem IsStored.fits {name : String} (isStored : IsStored (base name)) : Fits name := by
  obtain ⟨c, rest, chars, other⟩ := isStored.visible
  refine ⟨isStored.plain, ?_⟩
  rw [chars]
  simpa using other

theorem IsStored.fits_of_extended {name : String} (isStored : IsStored (base name ++ ".txt"))
    (some : base name ≠ "") : Fits name := by
  obtain ⟨c, rest, chars⟩ := List.exists_cons_of_ne_nil (l := (base name).toList)
    (by simpa using some)
  -- The longer name starts with the same character.
  obtain ⟨d, later, extended, other⟩ := isStored.visible
  rw [String.toList_append, chars, List.cons_append, List.cons.injEq] at extended
  refine IsStored.fits ⟨fun e member => isStored.plain e ?_, c, rest, chars, ?_⟩
  · rw [String.toList_append]
    exact List.mem_append_left _ member
  · rw [extended.1]
    exact other

/-- A name that a script can be stored under leads to no directory. -/
theorem usable_of_storedName {name stored : String} (accepted : storedName name = .ok stored) :
    base name ∉ ["", ".", ".."] := by
  intro unusable
  rw [storedName_eq, if_pos (remainder_eq_nil unusable)] at accepted
  cases accepted

end KeyGadget.Library
