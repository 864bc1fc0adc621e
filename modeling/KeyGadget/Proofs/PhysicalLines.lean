import KeyGadget.Proofs.Lines
import KeyGadget.Proofs.Parts
import Mathlib.Data.List.Forall2

/-!
# The physical lines of a script

A text is lines that end with a line feed, which may have a carriage return in front of it, and the
last one may lack its end. A script lists the lines that are not blank. The blank ones leave only
their places in the numbering, so no line is lost and none is there twice.

## Main results

`lines_eq_iff`: a text has the lines that it is made of, and no others.
`script_lists_physical_lines`: a script lists those that are not blank, each under its place, and
carriage returns at their ends make no difference to it.
-/
namespace KeyGadget

namespace Text

/-- The lines that a text is made of. A carriage return belongs to a line like any other character,
unless the line feed that ends the line stands right behind it. -/
inductive LinesOf : List Char → List (List Char) → Prop
  | none : LinesOf [] []
  | last {line : List Char} (filled : line ≠ []) (single : '\n' ∉ line) : LinesOf line [line]
  | fed {line rest : List Char} {others : List (List Char)} (single : '\n' ∉ line)
    (bare : line.getLast? ≠ some '\r') (behind : LinesOf rest others) :
    LinesOf (line ++ '\n' :: rest) (line :: others)
  | returned {line rest : List Char} {others : List (List Char)} (single : '\n' ∉ line)
    (behind : LinesOf rest others) : LinesOf (line ++ '\r' :: '\n' :: rest) (line :: others)

theorem lines_feed (line rest : List Char) (single : '\n' ∉ line) :
    lines (line ++ '\n' :: rest) = dropReturn line :: lines rest := by
  have own : pieces (· == '\n') line = [line] := pieces_of_none line (beq_of_not_mem single)
  obtain ⟨front, last, later⟩ :=
    (List.eq_nil_or_concat (pieces (· == '\n') rest)).resolve_left (pieces_ne_nil _ rest)
  rw [List.concat_eq_append] at later
  rw [lines, lines, pieces_append_cons _ line rest '\n' rfl, own, later, ← List.append_assoc,
    List.dropLast_concat, List.getLast?_concat, List.dropLast_concat, List.getLast?_concat]
  rfl

theorem dropReturn_of_bare {line : List Char} (bare : line.getLast? ≠ some '\r') :
    dropReturn line = line :=
  if_neg bare

theorem dropReturn_append (line : List Char) : dropReturn (line ++ ['\r']) = line := by
  simp [dropReturn]

theorem LinesOf.lines_eq {text : List Char} {all : List (List Char)} (linesOf : LinesOf text all) :
    lines text = all := by
  induction linesOf with
  | none => rfl
  | last filled single => exact lines_of_no_feed _ filled single
  | @fed line rest others single bare behind ih =>
    rw [lines_feed line rest single, dropReturn_of_bare bare, ih]
  | @returned line rest others single behind ih =>
    -- The carriage return is in front of the line feed, so it is dropped with it.
    have split : line ++ '\r' :: '\n' :: rest = (line ++ ['\r']) ++ '\n' :: rest := by simp
    have single' : '\n' ∉ line ++ ['\r'] := by simpa using single
    rw [split, lines_feed _ rest single', dropReturn_append, ih]

/-- Every text is made of lines. -/
theorem linesOf_lines (text : List Char) : LinesOf text (lines text) := by
  -- By induction on the length: what is behind the first line feed is shorter than the text.
  by_cases feed : '\n' ∈ text
  · obtain ⟨line, rest, rfl, single⟩ := List.eq_append_cons_of_mem feed
    have behind := linesOf_lines rest
    rw [lines_feed line rest single]
    by_cases last : line.getLast? = some '\r'
    · obtain ⟨front, rfl⟩ := List.getLast?_eq_some_iff.mp last
      rw [dropReturn_append, List.append_assoc]
      exact .returned (fun inside => single (List.mem_append_left _ inside)) behind
    · rw [dropReturn_of_bare last]
      exact .fed single last behind
  · by_cases empty : text = []
    · rw [empty]
      exact .none
    · rw [lines_of_no_feed text empty feed]
      exact .last empty feed
termination_by text.length
decreasing_by
  rename_i same
  rw [same, List.length_append, List.length_cons]
  omega

theorem lines_eq_iff (text : List Char) (all : List (List Char)) :
    lines text = all ↔ LinesOf text all := by
  constructor
  · rintro rfl
    exact linesOf_lines text
  · exact LinesOf.lines_eq

/-! ### Carriage returns in front of line feeds -/

/-- A text with a carriage return in front of every line feed. -/
def returned (text : List Char) : List Char :=
  text.flatMap fun c => if c = '\n' then ['\r', '\n'] else [c]

/-- The pieces between the line feeds stay what they are, or get a carriage return at their end. -/
theorem pieces_returned (text : List Char) :
    List.Forall₂ (fun piece other => other = piece ∨ other = piece ++ ['\r'])
      (pieces (· == '\n') text) (pieces (· == '\n') (returned text)) := by
  induction text with
  | nil => exact .cons (.inl rfl) .nil
  | cons c rest ih =>
    by_cases feed : c = '\n'
    · subst feed
      have split : returned ('\n' :: rest) = ['\r'] ++ '\n' :: returned rest := rfl
      have own : pieces (· == '\n') ['\r'] = [['\r']] := by decide
      rw [split, pieces_append_cons _ _ _ '\n' rfl, own]
      exact .cons (.inr rfl) ih
    · have split : returned (c :: rest) = c :: returned rest := by
        rw [returned, List.flatMap_cons, if_neg feed]
        rfl
      have kept : (c == '\n') = false := beq_eq_false_iff_ne.mpr feed
      -- The character goes to the front of the first piece in both texts.
      rw [split, pieces, pieces, kept]
      generalize pieces (· == '\n') rest = parts, pieces (· == '\n') (returned rest) = others at ih
      cases ih with
      | nil => exact .cons (.inl rfl) .nil
      | cons same others =>
        refine .cons ?_ others
        rcases same with rfl | rfl
        · exact .inl rfl
        · exact .inr rfl

end Text

namespace Script

open Text (IsGap Trims LinesOf)

/-- A line as the listing of a physical line in its place: it has the number of the place and the
physical line without the blanks around it, and it is read alike from either. -/
structure Line.Lists (line : Line) (place : List Char × Nat) : Prop where
  number : line.number = place.2
  source : Trims place.1 line.source.toList
  parsed : parseLine (String.ofList place.1) = some line.parsed
  again : parseLine line.source = some line.parsed

theorem readTrimmed_isSome (text : List Char) (filled : text ≠ []) :
    ∃ parsed, readTrimmed text = some parsed := by
  rw [readTrimmed, List.isEmpty_eq_false_iff.mpr filled]
  cases isComment text with
  | true => exact ⟨_, rfl⟩
  | false => exact ⟨_, rfl⟩

/-- Lines that are numbered from a number on are listed in their places, and all but the blank ones
are. -/
theorem numberedLines_lists (number : Nat) (texts : List (List Char)) :
    List.Forall₂ Line.Lists (numberedLines number texts)
      ((texts.zipIdx number).filter fun place => ¬ IsGap place.1) := by
  induction texts generalizing number with
  | nil => exact .nil
  | cons raw rest ih =>
    have later := ih (number + 1)
    rw [numberedLines, List.zipIdx_cons, List.filter_cons]
    by_cases blank : IsGap raw
    · rw [(Text.trim_eq_nil_iff raw).mpr blank, if_neg (by simpa using blank)]
      exact later
    · have filled := mt (Text.trim_eq_nil_iff raw).mp blank
      have trims := Text.trims_trim raw
      obtain ⟨parsed, read⟩ := readTrimmed_isSome (Text.trim raw) filled
      rw [if_pos (by simpa using blank), read]
      refine .cons ⟨rfl, ?_, ?_, ?_⟩ later
      · rwa [String.toList_ofList]
      · rwa [parseLine, String.toList_ofList]
      · rwa [parseLine, String.toList_ofList, trims.trimmed.trim]

/-- A line of a script is read as it is read alone. -/
theorem parse_again (text : String) :
    ∀ line ∈ parse text, parseLine line.source = some line.parsed := by
  have lists := numberedLines_lists 1 (Text.lines text.toList)
  exact ((List.forall₂_and_left _ _).mp (lists.imp fun _ _ own => ⟨own.again, own⟩)).1

/-- Of the lines of a text it only matters what is left of them when they are trimmed. -/
theorem numberedLines_congr (number : Nat) {texts others : List (List Char)}
    (same : List.Forall₂ (fun raw other => Text.trim other = Text.trim raw) texts others) :
    numberedLines number others = numberedLines number texts := by
  induction same generalizing number with
  | nil => rfl
  | cons own _ ih => rw [numberedLines, numberedLines, own, ih]

theorem parse_returned (text : String) :
    parse (String.ofList (Text.returned text.toList)) = parse text := by
  rw [parse_eq, parse_eq, String.toList_ofList]
  refine numberedLines_congr 1 ((Text.pieces_returned text.toList).imp fun piece other same => ?_)
  rcases same with rfl | rfl
  · rfl
  · exact Text.trim_append_blank piece '\r' (by decide)

/-- **A script lists the lines of its text**, without loss or addition: those that are not blank, in
their order, each once and under its place among all of them. A carriage return in front of every
line feed makes no difference. -/
theorem script_lists_physical_lines (text : String) :
    ∃ lines, (∀ other, LinesOf text.toList other ↔ other = lines) ∧
      List.Forall₂ Line.Lists (parse text)
        ((lines.zipIdx 1).filter fun place => ¬ IsGap place.1) ∧
      ((parse text).Pairwise fun a b => a.number < b.number) ∧
      parse (String.ofList (Text.returned text.toList)) = parse text := by
  refine ⟨Text.lines text.toList, fun other => ?_, numberedLines_lists 1 _, parse_sorted text,
    parse_returned text⟩
  rw [← Text.lines_eq_iff]
  exact eq_comm

-- The carriage return in the middle of the last line does not end it, and the blank line counts.
example : (parse "a\r\n \r\nSTRING x\ry\r").map (fun line => (line.number, line.parsed)) =
    [(1, .ok (.pressKey "a" .none)), (3, .ok (.typeText "x\ry"))] := by decide

end Script
end KeyGadget
