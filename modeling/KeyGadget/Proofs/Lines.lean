import KeyGadget.Script.Line

/-!
# The lines of a script

The lines that are read from a text are numbered upwards, so a number tells which lines come before
a line. A text is read piece by piece between its line feeds: that some of its lines may end in a
carriage return as well, and that the last one needs no end, makes no difference to what is read.

## Main result

`parse_join`: a script behind another one, with a line feed between them, is read as it is read
alone, and every line feed before it moves its numbers on by one.
-/
namespace KeyGadget

namespace Text

theorem length_pieces (p : Char → Bool) (s : List Char) :
    (pieces p s).length = s.countP p + 1 := by
  induction s with
  | nil => rfl
  | cons c rest ih =>
    rw [pieces, List.countP_cons]
    split
    · rw [List.length_cons, ih]
    · -- The character goes to the front of the first piece.
      cases parts : pieces p rest with
      | nil => exact absurd parts (pieces_ne_nil p rest)
      | cons piece others => simpa [parts] using ih

theorem trim_append_blank (s : List Char) (c : Char) (blank : isBlank c = true) :
    trim (s ++ [c]) = trim s := by
  rw [trim, trim, trimStart, trimStart, List.dropWhile_append]
  split
  · next none =>
    rw [List.isEmpty_iff] at none
    simp [none, blank]
  · simp [dropEnd, blank]

/-- The carriage return that may belong to the end of a line is a blank like others. -/
theorem trim_dropReturn (line : List Char) : trim (dropReturn line) = trim line := by
  rw [dropReturn]
  split
  · next last =>
    obtain ⟨front, rfl⟩ := List.getLast?_eq_some_iff.mp last
    rw [List.dropLast_concat, trim_append_blank front '\r' (by decide)]
  · rfl

end Text

namespace Script

/-- Lines are numbered from the first number on, and there is one number for each. -/
private theorem numberedLines_number (number : Nat) (texts : List (List Char)) :
    ∀ line ∈ numberedLines number texts,
      number ≤ line.number ∧ line.number < number + texts.length := by
  induction texts generalizing number with
  | nil => simp [numberedLines]
  | cons raw rest ih =>
    have later : ∀ line ∈ numberedLines (number + 1) rest,
        number ≤ line.number ∧ line.number < number + (rest.length + 1) := by
      intro line member
      have bounds := ih (number + 1) line member
      omega
    rw [numberedLines, List.length_cons]
    cases readTrimmed (Text.trim raw) with
    | none => exact later
    | some parsed => exact List.forall_mem_cons.mpr ⟨by simp, later⟩

private theorem numberedLines_sorted (number : Nat) (texts : List (List Char)) :
    (numberedLines number texts).Pairwise fun a b => a.number < b.number := by
  induction texts generalizing number with
  | nil => exact .nil
  | cons raw rest ih =>
    rw [numberedLines]
    cases readTrimmed (Text.trim raw) with
    | none => exact ih (number + 1)
    | some parsed =>
      exact .cons (fun line member => (numberedLines_number (number + 1) rest line member).1)
        (ih (number + 1))

/-- Lines are numbered upwards. -/
theorem parse_sorted (text : String) :
    (parse text).Pairwise fun a b => a.number < b.number :=
  numberedLines_sorted 1 _

/-- The same line under another number. -/
def Line.renumbered (renumber : Nat → Nat) (line : Line) : Line :=
  { line with number := renumber line.number }

/-- The same line with `count` more lines before it. -/
def Line.raised (count : Nat) (line : Line) : Line :=
  { line with number := line.number + count }

theorem numberedLines_append (number : Nat) (first second : List (List Char)) :
    numberedLines number (first ++ second) =
      numberedLines number first ++ numberedLines (number + first.length) second := by
  induction first generalizing number with
  | nil => rfl
  | cons raw rest ih =>
    -- A blank line has no place in the script, but it counts like any other.
    have later : numberedLines (number + 1) (rest ++ second) = numberedLines (number + 1) rest ++
        numberedLines (number + (rest.length + 1)) second := by
      rw [ih, Nat.add_assoc, Nat.add_comm 1]
    rw [List.cons_append, numberedLines, numberedLines, List.length_cons, later]
    cases readTrimmed (Text.trim raw) <;> rfl

theorem numberedLines_raised (number count : Nat) (texts : List (List Char)) :
    numberedLines (number + count) texts =
      (numberedLines number texts).map (Line.raised count) := by
  induction texts generalizing number with
  | nil => rfl
  | cons raw rest ih =>
    rw [numberedLines, numberedLines, Nat.add_right_comm, ih]
    cases readTrimmed (Text.trim raw) <;> rfl

theorem numberedLines_dropReturn (number : Nat) (texts : List (List Char)) :
    numberedLines number (texts.map Text.dropReturn) = numberedLines number texts := by
  induction texts generalizing number with
  | nil => rfl
  | cons raw rest ih => rw [List.map_cons, numberedLines, numberedLines, Text.trim_dropReturn, ih]

private theorem numberedLines_last (number : Nat) (last : List Char) :
    numberedLines number ([last].filter fun line => !line.isEmpty) =
      numberedLines number [last] := by
  cases last with
  | nil => rfl
  | cons c rest => rfl

/-- The lines of a script stand between the line feeds of its text. -/
theorem parse_eq (text : String) :
    parse text = numberedLines 1 (Text.pieces (· == '\n') text.toList) := by
  rw [parse, Text.lines]
  rcases List.eq_nil_or_concat (Text.pieces (· == '\n') text.toList) with none | ⟨front, last, all⟩
  · exact absurd none (Text.pieces_ne_nil _ _)
  · rw [all, List.concat_eq_append, List.dropLast_concat, List.getLast?_concat,
      numberedLines_append, numberedLines_append, numberedLines_dropReturn, List.length_map]
    exact congrArg _ (numberedLines_last _ last)

/-- A text has a line for each line feed and one more. -/
theorem parse_number (text : String) (line : Line) (member : line ∈ parse text) :
    1 ≤ line.number ∧ line.number ≤ text.toList.count '\n' + 1 := by
  rw [parse_eq] at member
  have bounds := numberedLines_number 1 _ line member
  rw [Text.length_pieces] at bounds
  simp only [List.count]
  omega

/-- A script behind another one is read as it is read alone, with larger numbers. -/
theorem parse_join (first second : String) :
    parse (first ++ "\n" ++ second) =
      parse first ++ (parse second).map (Line.raised (first.toList.count '\n' + 1)) := by
  have chars : (first ++ "\n" ++ second).toList = first.toList ++ '\n' :: second.toList := by
    rw [String.toList_append, String.toList_append, List.append_assoc]
    rfl
  rw [parse_eq, parse_eq, parse_eq, chars, Text.pieces_append_cons _ _ _ '\n' rfl,
    numberedLines_append, numberedLines_raised, Text.length_pieces]
  rfl

end Script
end KeyGadget
