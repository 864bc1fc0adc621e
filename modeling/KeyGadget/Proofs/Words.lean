import KeyGadget.Text.Blank

/-!
# Words and what is made of them

Words that hold no separator are found again when they have been put together with one separator
between two of them. A text without blank ends is not changed by trimming, and a text without a line
feed is one line.
-/
namespace KeyGadget.Text

variable {p : Char → Bool}

theorem beq_of_not_mem {s : List Char} {c : Char} (absent : c ∉ s) :
    ∀ d ∈ s, (d == c) = false := by
  intro d member
  rw [beq_eq_false_iff_ne]
  rintro rfl
  exact absent member

theorem pieces_of_none (s : List Char) (inside : ∀ c ∈ s, p c = false) : pieces p s = [s] := by
  induction s with
  | nil => rfl
  | cons c rest ih =>
    have later := ih fun d member => inside d (List.mem_cons_of_mem c member)
    rw [pieces, inside c List.mem_cons_self, later]
    rfl

/-- Parts that are put together with a separator between two of them are found again. -/
theorem pieces_intercalate (separator : Char) (separates : p separator = true)
    (parts : List (List Char)) (some : parts ≠ [])
    (inside : ∀ part ∈ parts, ∀ c ∈ part, p c = false) :
    pieces p ([separator].intercalate parts) = parts := by
  -- The first part ends where the first separator stands.
  induction parts with
  | nil => exact absurd rfl some
  | cons part rest ih =>
    have own := pieces_of_none part (inside part List.mem_cons_self)
    cases rest with
    | nil => rw [List.intercalate_singleton, own]
    | cons next later =>
      have behind := ih (List.cons_ne_nil _ _)
        fun other member => inside other (List.mem_cons_of_mem part member)
      rw [List.intercalate_cons_cons, List.append_assoc, List.singleton_append,
        pieces_append_cons p part _ separator separates, own, behind]
      rfl

/-- A word: characters that are not blank, at least one. -/
structure IsWord (word : List Char) : Prop where
  nonempty : word ≠ []
  unbroken : ∀ c ∈ word, isBlank c = false

theorem isWord_of_all {word : List Char} (some : word ≠ []) (all : word.all (!isBlank ·) = true) :
    IsWord word :=
  ⟨some, fun c member => by simpa using List.all_eq_true.mp all c member⟩

theorem words_intercalate (parts : List (List Char)) (some : parts ≠ [])
    (every : ∀ part ∈ parts, IsWord part) : words ([' '].intercalate parts) = parts := by
  have inside := fun part member => (every part member).unbroken
  rw [words, pieces_intercalate ' ' (by decide) parts some inside, List.filter_eq_self]
  intro part member
  simpa using (every part member).nonempty

/-- No blank at either end. -/
structure Trimmed (s : List Char) : Prop where
  head : ∀ c, s.head? = some c → isBlank c = false
  last : ∀ c, s.getLast? = some c → isBlank c = false

theorem dropWhile_of_head {s : List Char} (head : ∀ c, s.head? = some c → p c = false) :
    s.dropWhile p = s := by
  cases s with
  | nil => rfl
  | cons c rest => rw [List.dropWhile_cons, head c rfl]; rfl

theorem dropEnd_of_last {s : List Char} (last : ∀ c, s.getLast? = some c → p c = false) :
    dropEnd p s = s := by
  rw [dropEnd, dropWhile_of_head, List.reverse_reverse]
  intro c found
  exact last c (by rwa [List.head?_reverse] at found)

theorem Trimmed.trimStart {s : List Char} (trimmed : Trimmed s) : trimStart s = s :=
  dropWhile_of_head trimmed.head

theorem Trimmed.trim {s : List Char} (trimmed : Trimmed s) : trim s = s := by
  rw [Text.trim, trimmed.trimStart, dropEnd_of_last trimmed.last]

theorem mem_of_mem_trim {c : Char} {s : List Char} (member : c ∈ trim s) : c ∈ s := by
  rw [trim, dropEnd, List.mem_reverse] at member
  have front := List.dropWhile_subset _ member
  rw [List.mem_reverse] at front
  exact List.dropWhile_subset _ front

/-- What starts with something trimmed and ends with something trimmed is trimmed. -/
theorem Trimmed.append {first second : List Char} (before : Trimmed first)
    (behind : Trimmed second) (middle : List Char) (starts : first ≠ []) (ends : second ≠ []) :
    Trimmed (first ++ middle ++ second) := by
  constructor
  · intro c found
    obtain ⟨d, rest, rfl⟩ := List.exists_cons_of_ne_nil starts
    exact before.head c found
  · intro c found
    rw [List.getLast?_append] at found
    cases last : second.getLast? with
    | none => exact absurd (List.getLast?_eq_none_iff.mp last) ends
    | some d =>
      rw [last] at found
      exact behind.last c (last.trans found)

theorem IsWord.trimmed {word : List Char} (isWord : IsWord word) : Trimmed word :=
  ⟨fun c found => isWord.unbroken c (List.mem_of_head? found),
    fun c found => isWord.unbroken c (List.mem_of_getLast? found)⟩

theorem trimmed_intercalate (parts : List (List Char)) (some : parts ≠ [])
    (every : ∀ part ∈ parts, IsWord part) :
    Trimmed ([' '].intercalate parts) ∧ [' '].intercalate parts ≠ [] := by
  induction parts with
  | nil => exact absurd rfl some
  | cons part rest ih =>
    have own := every part List.mem_cons_self
    cases rest with
    | nil => simpa using And.intro own.trimmed own.nonempty
    | cons next later =>
      obtain ⟨trimmed, filled⟩ := ih (List.cons_ne_nil _ _)
        fun other member => every other (List.mem_cons_of_mem part member)
      rw [List.intercalate_cons_cons]
      exact ⟨own.trimmed.append trimmed [' '] own.nonempty filled, by simp [own.nonempty]⟩

/-- The only blanks in words that are put together are the spaces between them. -/
theorem blank_of_mem_intercalate (parts : List (List Char)) (every : ∀ part ∈ parts, IsWord part)
    (c : Char) (blank : isBlank c = true) (member : c ∈ [' '].intercalate parts) : c = ' ' := by
  induction parts with
  | nil => cases member
  | cons part rest ih =>
    have own : c ∉ part := by
      intro inside
      rw [(every part List.mem_cons_self).unbroken c inside] at blank
      cases blank
    cases rest with
    | nil => exact absurd (by simpa using member) own
    | cons next later =>
      rw [List.intercalate_cons_cons, List.mem_append, List.mem_append,
        List.mem_singleton] at member
      rcases member with (inside | space) | behind
      · exact absurd inside own
      · exact space
      · exact ih (fun other member => every other (List.mem_cons_of_mem part member)) behind

theorem splitFirst_append (before rest : List Char) (c : Char)
    (inside : ∀ d ∈ before, p d = false) (separates : p c = true) :
    splitFirst p (before ++ c :: rest) = (before, rest) := by
  induction before with
  | nil => simp [splitFirst, separates]
  | cons d later ih =>
    have own := inside d List.mem_cons_self
    have found := ih fun e member => inside e (List.mem_cons_of_mem d member)
    simp [splitFirst, own, found]

theorem splitFirst_of_none (s : List Char) (inside : ∀ c ∈ s, p c = false) :
    splitFirst p s = (s, []) := by
  induction s with
  | nil => rfl
  | cons c rest ih =>
    have own := inside c List.mem_cons_self
    have found := ih fun d member => inside d (List.mem_cons_of_mem c member)
    simp [splitFirst, own, found]

/-- A text without a line feed is one line, unless it is empty. -/
theorem lines_of_no_feed (s : List Char) (some : s ≠ []) (single : '\n' ∉ s) : lines s = [s] := by
  have whole : pieces (· == '\n') s = [s] := pieces_of_none s (beq_of_not_mem single)
  simp [lines, whole, some]

end KeyGadget.Text
