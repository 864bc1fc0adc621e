import KeyGadget.Cli.Terminal
import KeyGadget.Proofs.Bytes

/-!
# The input of a terminal

An input that is the encoding of a text is read line by line, each line with its end, or all that is
left of it at once.

## Main results

`Terminal.readLine_encoded` takes the first line from the input, and `Terminal.readRest_encoded` all
of it; what is read is the text that was encoded.
-/
namespace KeyGadget

namespace Text

/-- The lines of a text with their ends. -/
def wholeLines : List Char → List (List Char)
  | [] => []
  | c :: rest =>
    if c = '\n' then [c] :: wholeLines rest
    else
      match wholeLines rest with
      | [] => [[c]]
      | line :: others => (c :: line) :: others

theorem flatten_wholeLines (s : List Char) : (wholeLines s).flatten = s := by
  induction s with
  | nil => rfl
  | cons c rest ih =>
    rw [wholeLines]
    split
    · rw [List.flatten_cons, ih]
      rfl
    · cases lines : wholeLines rest <;> simpa [lines] using ih

/-- What stands behind the first line is taken apart as it is in the whole. -/
theorem wholeLines_tail {s line : List Char} {others : List (List Char)}
    (lines : wholeLines s = line :: others) : wholeLines others.flatten = others := by
  induction s generalizing line with
  | nil => cases lines
  | cons c rest ih =>
    rw [wholeLines] at lines
    split at lines
    · cases lines
      rw [flatten_wholeLines]
    · cases later : wholeLines rest <;> rw [later] at lines <;> cases lines
      · rfl
      · exact ih later

/-- A line of a text is one line by itself. -/
theorem wholeLines_of_mem {s line : List Char} (member : line ∈ wholeLines s) :
    wholeLines line = [line] := by
  induction s generalizing line with
  | nil => cases member
  | cons c rest ih =>
    rw [wholeLines] at member
    split at member
    · next feed =>
      rcases List.mem_cons.mp member with rfl | later
      · rw [feed]
        rfl
      · exact ih later
    · next other =>
      cases lines : wholeLines rest with
      | nil =>
        rw [lines] at member
        obtain rfl := List.mem_singleton.mp member
        simp [wholeLines, other]
      | cons first others =>
        rw [lines] at member ih
        rcases List.mem_cons.mp member with rfl | later
        · simp [wholeLines, other, ih (.head _)]
        · exact ih (.tail _ later)

theorem ne_nil_of_wholeLines {s line : List Char} {others : List (List Char)}
    (lines : wholeLines s = line :: others) : line ≠ [] := by
  rintro rfl
  cases wholeLines_of_mem (lines ▸ List.mem_cons_self)

end Text

namespace Cli

open Text (wholeLines)

namespace Terminal

private theorem splitLine_append (front rest : List UInt8) (single : 0x0A ∉ front) :
    splitLine (front ++ rest) = (front ++ (splitLine rest).1, (splitLine rest).2) := by
  induction front with
  | nil => rfl
  | cons byte later ih =>
    rw [List.mem_cons, not_or] at single
    rw [List.cons_append, splitLine, if_neg (Ne.symm single.1), ih single.2]
    rfl

private theorem splitLine_encoded (s : List Char) :
    splitLine (encoded s) =
      (encoded ((wholeLines s).headD []), encoded (wholeLines s).tail.flatten) := by
  induction s with
  | nil => rfl
  | cons c rest ih =>
    rw [wholeLines, encoded_cons]
    split
    · next feed =>
      rw [feed, List.tail_cons, Text.flatten_wholeLines]
      rfl
    · next other =>
      rw [splitLine_append _ _ (feed_not_mem_encodeChar c other), ih]
      cases wholeLines rest <;> rfl

theorem readLine_encoded (terminal : Terminal) (s line : List Char) (others : List (List Char))
    (lines : wholeLines s = line :: others) (input : terminal.input = encoded s) :
    terminal.readLine =
      (.ok (some (String.ofList line)), { terminal with input := encoded others.flatten }) := by
  have parts : splitLine terminal.input = (encoded line, encoded others.flatten) := by
    rw [input, splitLine_encoded, lines]
    rfl
  rw [readLine, parts]
  split
  · next none =>
    exact absurd (Prod.mk.inj none).1 (encoded_ne_nil (Text.ne_nil_of_wholeLines lines))
  · next taken =>
    cases taken
    rw [decodeText_encoded]
    rfl

theorem readLine_end (terminal : Terminal) (input : terminal.input = []) :
    terminal.readLine = (.ok none, terminal) := by
  rw [readLine, input]
  rfl

theorem readRest_encoded (terminal : Terminal) (s : List Char)
    (input : terminal.input = encoded s) :
    terminal.readRest = (.ok (String.ofList s), { terminal with input := [] }) := by
  rw [readRest, input, decodeText_encoded]

end Terminal

/-- A dash stands for what is left of the input. -/
theorem Machine.readSource_dash {σ : Type} (machine : Machine (StateM σ)) (path text : String)
    (before after : σ) (dash : Path.components path = ["-"])
    (rest : machine.readRest.run before = (.ok text, after)) :
    (machine.readSource path).run before = (.ok text, after) := by
  rw [readSource, dash, if_pos (beq_self_eq_true _), StateT.run_bind, rest]
  rfl

end Cli
end KeyGadget
