import KeyGadget.Proofs.Words
import KeyGadget.Script.Line
import Mathlib.Data.List.TakeWhile
import Mathlib.Data.Nat.Digits.Defs

/-!
# The parts of a line

What trimming leaves of a line, what is its first word and what its argument, which words it has and
which number is written in it. Each of these is a relation that says what the parts have to be, and
the functions that take a line apart find them, and find nothing else.

## Main results

`trim_eq_iff`, `splitKeyword_eq_iff`, `words_eq_iff`, `readDecimal_eq_some_iff`: each function finds
the parts that its relation asks for.
-/
namespace KeyGadget.Text

/-- Nothing but blanks, or nothing at all. -/
def IsGap (s : List Char) : Prop :=
  ∀ c ∈ s, isBlank c = true

instance (s : List Char) : Decidable (IsGap s) :=
  decidable_of_iff (s.all isBlank = true) List.all_eq_true

theorem isGap_nil : IsGap [] := by
  simp [IsGap]

/-- A text in the middle of a line, with blanks around it and none at its own ends. -/
def Trims (line text : List Char) : Prop :=
  ∃ before behind, line = before ++ text ++ behind ∧ IsGap before ∧ IsGap behind ∧ Trimmed text

theorem isGap_takeWhile (s : List Char) : IsGap (s.takeWhile isBlank) := by
  intro c member
  exact List.all_eq_true.mp List.all_takeWhile c member

theorem head?_trimStart (s : List Char) (c : Char) (found : (trimStart s).head? = some c) :
    isBlank c = false := by
  have stopped := List.head?_dropWhile_not isBlank s
  rw [trimStart] at found
  simpa [found] using stopped

/-- Nothing is dropped at the end of a text but what is to be dropped. -/
theorem exists_dropEnd_append (p : Char → Bool) (s : List Char) :
    ∃ ending, s = dropEnd p s ++ ending ∧ ∀ c ∈ ending, p c = true := by
  refine ⟨(s.reverse.takeWhile p).reverse, ?_, fun c member => ?_⟩
  · rw [dropEnd, ← List.reverse_append, List.takeWhile_append_dropWhile, List.reverse_reverse]
  · exact List.all_eq_true.mp List.all_takeWhile c (List.mem_reverse.mp member)

theorem getLast?_dropEnd (p : Char → Bool) (s : List Char) (c : Char)
    (found : (dropEnd p s).getLast? = some c) : p c = false := by
  have stopped := List.head?_dropWhile_not p s.reverse
  rw [dropEnd, List.getLast?_reverse] at found
  simpa [found] using stopped

theorem dropEnd_append (p : Char → Bool) (s ending : List Char)
    (all : ∀ c ∈ ending, p c = true) : dropEnd p (s ++ ending) = dropEnd p s := by
  rw [dropEnd, List.reverse_append, List.dropWhile_append_of_pos, dropEnd]
  exact fun c member => all c (List.mem_reverse.mp member)

theorem trims_trim (line : List Char) : Trims line (trim line) := by
  obtain ⟨behind, split, isGap⟩ := exists_dropEnd_append isBlank (trimStart line)
  refine ⟨line.takeWhile isBlank, behind, ?_, isGap_takeWhile line, isGap, ?_, ?_⟩
  · rw [List.append_assoc, trim, ← split, trimStart, List.takeWhile_append_dropWhile]
  · -- Unless nothing is left, the text starts where the line without its front does.
    intro c found
    apply head?_trimStart line c
    rw [split, List.head?_append]
    rw [trim] at found
    simp [found]
  · exact getLast?_dropEnd isBlank (trimStart line)

theorem Trims.trimmed {line text : List Char} (trims : Trims line text) : Trimmed text := by
  obtain ⟨-, -, -, -, -, trimmed⟩ := trims
  exact trimmed

/-- More blanks around a line leave its text where it is. -/
theorem Trims.between {line text before behind : List Char} (trims : Trims line text)
    (front : IsGap before) (back : IsGap behind) : Trims (before ++ line ++ behind) text := by
  obtain ⟨first, last, rfl, isFirst, isLast, trimmed⟩ := trims
  refine ⟨before ++ first, last ++ behind, by simp, ?_, ?_, trimmed⟩
  · exact List.forall_mem_append.mpr ⟨front, isFirst⟩
  · exact List.forall_mem_append.mpr ⟨isLast, back⟩

/-- A text with blanks around it is found by trimming. -/
theorem Trims.trim_eq {line text : List Char} (trims : Trims line text) : trim line = text := by
  obtain ⟨before, behind, rfl, front, back, trimmed⟩ := trims
  rw [trim, trimStart, List.append_assoc, List.dropWhile_append_of_pos front]
  cases text with
  | nil =>
    -- The line is blank.
    rw [List.nil_append, List.dropWhile_eq_nil_iff.mpr back]
    rfl
  | cons c rest =>
    have start : isBlank c = false := trimmed.head c rfl
    have kept : (c :: rest ++ behind).dropWhile isBlank = c :: rest ++ behind := by
      rw [List.cons_append, List.dropWhile_cons_of_neg (by simp [start])]
    rw [kept, dropEnd_append isBlank _ behind back]
    exact dropEnd_of_last trimmed.last

theorem trim_eq_iff (line text : List Char) : trim line = text ↔ Trims line text := by
  constructor
  · rintro rfl
    exact trims_trim line
  · exact Trims.trim_eq

theorem trim_eq_nil_iff (line : List Char) : trim line = [] ↔ IsGap line := by
  rw [trim_eq_iff]
  constructor
  · rintro ⟨before, behind, rfl, front, back, -⟩
    rw [List.append_nil]
    exact List.forall_mem_append.mpr ⟨front, back⟩
  · intro blank
    exact ⟨line, [], by simp, blank, isGap_nil, by simp, by simp⟩

/-! ### First word and argument -/

/-- The longest start of a text without a blank, and what is behind the blanks that follow it. -/
structure Split (text word argument : List Char) : Prop where
  parts : ∃ gap, text = word ++ gap ++ argument ∧ IsGap gap ∧ (gap = [] → argument = [])
  unbroken : ∀ c ∈ word, isBlank c = false
  starts : ∀ c, argument.head? = some c → isBlank c = false

theorem unbroken_takeWhile (s : List Char) : ∀ c ∈ s.takeWhile (!isBlank ·), isBlank c = false := by
  intro c member
  simpa using List.all_eq_true.mp List.all_takeWhile c member

/-- A text is split at its first blank. -/
theorem splitKeyword_eq_iff (text word argument : List Char) :
    Script.splitKeyword text = (word, argument) ↔ Split text word argument := by
  constructor
  · intro split
    have whole : text.takeWhile (!isBlank ·) ++ text.dropWhile (!isBlank ·) = text :=
      List.takeWhile_append_dropWhile
    have unbroken := unbroken_takeWhile text
    rw [Script.splitKeyword] at split
    cases behind : text.dropWhile (!isBlank ·) with
    | nil =>
      -- There is no blank in the text, so all of it is one word.
      rw [behind, List.append_nil] at whole
      rw [whole] at unbroken
      rw [splitFirst_of_none text unbroken] at split
      cases split
      exact ⟨⟨[], by simp [trimStart], isGap_nil, by simp [trimStart]⟩, unbroken,
        by simp [trimStart]⟩
    | cons c rest =>
      have blank : isBlank c = true := by
        have stopped := List.head?_dropWhile_not (!isBlank ·) text
        simpa [behind] using stopped
      rw [behind] at whole
      rw [← whole, splitFirst_append _ rest c unbroken blank] at split
      cases split
      refine ⟨⟨c :: rest.takeWhile isBlank, ?_, ?_, by simp⟩, unbroken, head?_trimStart rest⟩
      · simp [trimStart, whole]
      · exact List.forall_mem_cons.mpr ⟨blank, isGap_takeWhile rest⟩
  · rintro ⟨⟨gap, rfl, isGap, bare⟩, unbroken, starts⟩
    rw [Script.splitKeyword]
    cases gap with
    | nil =>
      rw [bare rfl, List.append_nil, List.append_nil, splitFirst_of_none word unbroken]
      rfl
    | cons c more =>
      obtain ⟨blank, later⟩ := List.forall_mem_cons.mp isGap
      rw [List.append_assoc, List.cons_append, splitFirst_append word _ c unbroken blank]
      dsimp only
      rw [trimStart, List.dropWhile_append_of_pos later, dropWhile_of_head starts]

/-! ### Words -/

/-- The words of a text that has no blanks at its ends. -/
inductive WordsOf : List Char → List (List Char) → Prop
  | last {word : List Char} (isWord : IsWord word) : WordsOf word [word]
  | more {word gap rest : List Char} {others : List (List Char)} (isWord : IsWord word)
    (isGap : IsGap gap) (some : gap ≠ []) (behind : WordsOf rest others) :
    WordsOf (word ++ gap ++ rest) (word :: others)

/-- No word reaches across a blank. -/
theorem words_append_cons (s t : List Char) (c : Char) (blank : isBlank c = true) :
    words (s ++ c :: t) = words s ++ words t := by
  rw [words, pieces_append_cons isBlank s t c blank, List.filter_append, words, words]

theorem words_append_gap (gap s : List Char) (isGap : IsGap gap) : words (gap ++ s) = words s := by
  induction gap with
  | nil => rfl
  | cons c rest ih =>
    obtain ⟨blank, later⟩ := List.forall_mem_cons.mp isGap
    rw [← ih later]
    exact words_append_cons [] (rest ++ s) c blank

theorem IsGap.words_eq {gap : List Char} (isGap : IsGap gap) : words gap = [] := by
  have none := words_append_gap gap [] isGap
  rwa [List.append_nil] at none

/-- Blanks around a text do not change its words. -/
theorem Trims.words_eq {line text : List Char} (trims : Trims line text) :
    words line = words text := by
  obtain ⟨before, behind, rfl, front, back, -⟩ := trims
  rw [List.append_assoc, words_append_gap before _ front]
  cases behind with
  | nil => rw [List.append_nil]
  | cons c rest =>
    obtain ⟨blank, later⟩ := List.forall_mem_cons.mp back
    rw [words_append_cons text rest c blank, IsGap.words_eq later, List.append_nil]

theorem IsWord.words_eq {word : List Char} (isWord : IsWord word) : words word = [word] := by
  simpa using words_intercalate [word] (by simp) (by simpa using isWord)

theorem WordsOf.words_eq {text : List Char} {parts : List (List Char)}
    (wordsOf : WordsOf text parts) : words text = parts := by
  induction wordsOf with
  | last isWord => exact isWord.words_eq
  | @more word gap rest others isWord isGap some behind ih =>
    obtain ⟨c, later, rfl⟩ := List.exists_cons_of_ne_nil some
    obtain ⟨blank, blanks⟩ := List.forall_mem_cons.mp isGap
    rw [List.append_assoc, List.cons_append, words_append_cons word _ c blank, isWord.words_eq,
      words_append_gap later rest blanks, ih]
    rfl

theorem WordsOf.ne_nil {text : List Char} {parts : List (List Char)}
    (wordsOf : WordsOf text parts) : parts ≠ [] := by
  cases wordsOf <;> exact List.cons_ne_nil _ _

/-- What stands behind the first word has no blanks at its end, and no gap stands in front of
nothing. -/
theorem Split.trimmed_argument {text word argument : List Char} (split : Split text word argument)
    (trimmed : Trimmed text) : Trimmed argument := by
  refine ⟨split.starts, ?_⟩
  intro c found
  obtain ⟨gap, rfl, -, -⟩ := split.parts
  apply trimmed.last c
  rw [List.getLast?_append, found]
  rfl

/-- A text without blanks at its ends starts with a word, unless it is empty. -/
theorem Split.isWord {text word argument : List Char} (split : Split text word argument)
    (trimmed : Trimmed text) (some : text ≠ []) : IsWord word := by
  refine ⟨?_, split.unbroken⟩
  rintro rfl
  obtain ⟨gap, whole, isGap, bare⟩ := split.parts
  rw [List.nil_append] at whole
  cases gap with
  | nil => exact some (by rw [whole, bare rfl, List.nil_append])
  | cons c rest =>
    -- A gap at the start would be a blank there.
    have blank := isGap c List.mem_cons_self
    rw [trimmed.head c (by rw [whole]; rfl)] at blank
    cases blank

/-- A text without blanks at its ends has words, unless it is empty. -/
theorem exists_wordsOf (text : List Char) (trimmed : Trimmed text) (some : text ≠ []) :
    ∃ parts, WordsOf text parts := by
  -- By induction on the length: the argument is shorter than the text by the first word.
  obtain ⟨⟨word, argument⟩, found⟩ : ∃ split, Script.splitKeyword text = split := ⟨_, rfl⟩
  have split := (splitKeyword_eq_iff text word argument).mp found
  have isWord := split.isWord trimmed some
  obtain ⟨gap, whole, isGap, bare⟩ := split.parts
  by_cases more : argument = []
  · subst more
    rw [List.append_nil] at whole
    have empty : gap = [] := by
      cases last : gap.getLast? with
      | none => exact List.getLast?_eq_none_iff.mp last
      | some c =>
        have blank := isGap c (List.mem_of_getLast? last)
        rw [trimmed.last c (by rw [whole, List.getLast?_append, last]; rfl)] at blank
        cases blank
    rw [empty, List.append_nil] at whole
    rw [whole]
    exact ⟨[word], .last isWord⟩
  · have shorter : argument.length < text.length := by
      have filled := List.length_pos_iff.mpr isWord.nonempty
      rw [whole, List.length_append, List.length_append]
      omega
    obtain ⟨others, behind⟩ := exists_wordsOf argument (split.trimmed_argument trimmed) more
    rw [whole]
    exact ⟨word :: others, .more isWord isGap (fun empty => more (bare empty)) behind⟩
termination_by text.length

/-- The words of a text without blanks at its ends are the ones it is made of. -/
theorem words_eq_iff (text : List Char) (trimmed : Trimmed text) (some : text ≠ [])
    (parts : List (List Char)) : words text = parts ↔ WordsOf text parts := by
  constructor
  · rintro rfl
    obtain ⟨parts, wordsOf⟩ := exists_wordsOf text trimmed some
    rwa [wordsOf.words_eq]
  · exact WordsOf.words_eq

/-! ### Numbers -/

/-- The number that is written in a text: an optional plus sign and digits of ASCII, with a value
that fits sixty-four bits. -/
def Writes (text : List Char) (number : Nat) : Prop :=
  ∃ digits, (text = digits ∨ text = '+' :: digits) ∧ digits ≠ [] ∧
    (∀ c ∈ digits, c.isDigit = true) ∧
    Nat.ofDigits 10 (digits.reverse.map fun c => c.toNat - '0'.toNat) = number ∧ number < 2 ^ 64

/-- The digits are read from the one that counts most. -/
theorem decimalValue_eq (digits : List Char) :
    decimalValue digits = Nat.ofDigits 10 (digits.reverse.map fun c => c.toNat - '0'.toNat) := by
  rw [decimalValue, Nat.ofDigits_eq_foldr, List.foldr_map, List.foldr_reverse]
  congr
  funext value c
  simp [Nat.add_comm]

theorem unsignedDigits_eq_iff (text digits : List Char) (all : ∀ c ∈ digits, c.isDigit = true) :
    unsignedDigits text = digits ↔ text = digits ∨ text = '+' :: digits := by
  constructor
  · intro found
    unfold unsignedDigits at found
    split at found
    next rest => exact .inr (by rw [found])
    next => exact .inl found
  · rintro (rfl | rfl)
    · unfold unsignedDigits
      split
      next rest =>
        -- A sign is not a digit.
        exact absurd (all '+' List.mem_cons_self) (by decide)
      next => rfl
    · rfl

theorem readDecimal_eq_some_iff (text : List Char) (number : Nat) :
    readDecimal text = some number ↔ Writes text number := by
  constructor
  · intro read
    unfold readDecimal at read
    dsimp only at read
    split at read
    next => cases read
    next digits =>
      split at read
      next fits =>
        cases read
        rw [Bool.not_eq_true, Bool.or_eq_false_iff, Bool.not_eq_false', List.all_eq_true,
          List.isEmpty_eq_false_iff] at digits
        obtain ⟨some, all⟩ := digits
        exact ⟨unsignedDigits text, (unsignedDigits_eq_iff text _ all).mp rfl, some, all,
          (decimalValue_eq _).symm, fits⟩
      next => cases read
  · rintro ⟨digits, signed, some, all, value, fits⟩
    rw [← decimalValue_eq] at value
    have accepted : (digits.isEmpty || !digits.all Char.isDigit) = false := by
      simpa [some] using all
    unfold readDecimal
    rw [(unsignedDigits_eq_iff text digits all).mpr signed]
    dsimp only
    rw [accepted, value, if_neg Bool.false_ne_true]
    exact if_pos fits

end KeyGadget.Text
