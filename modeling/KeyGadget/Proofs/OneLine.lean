import KeyGadget.Proofs.Words
import KeyGadget.Script.Line
import KeyGadget.Shell.Command

/-!
# One line, read as a script and by the shell

Scripts and the shell take a line apart in different ways: a script trims it and splits it at any
blank, the shell splits it at the first space and trims what is behind. On lines that are made of
words with a space between two of them, and on texts without blank ends, they come to the same.
-/
namespace KeyGadget

open Text (IsWord Trimmed)

namespace Script

/-- The words that a line may not start with if it is to name keys, in any ASCII case. -/
def keywords : List String := ["STRING", "DELAY", "DEFAULT_DELAY", "DEFAULTDELAY", "REPEAT"]

/-- A word that makes a line that starts with it a line of keys. -/
structure StartsKeys (word : List Char) : Prop extends IsWord word where
  unsigned : word.head? ≠ some '#'
  unremarked : Text.sameAsciiCase (word.take 3) ['R', 'E', 'M'] = false
  unreserved : String.ofList (Text.asciiUpper word) ∉ keywords

private theorem remark_unbroken (line : List Char)
    (remark : Text.sameAsciiCase (line.take 3) ['R', 'E', 'M'] = true) : ' ' ∉ line.take 3 := by
  intro member
  rw [Text.sameAsciiCase, beq_iff_eq] at remark
  have lowered : ' '.toLower ∈ Text.asciiLower (line.take 3) := List.mem_map_of_mem member
  rw [remark] at lowered
  exact absurd lowered (by decide)

/-- What stands behind the first word does not make a comment of a line. -/
private theorem isComment_append (word behind : List Char) (starts : StartsKeys word) :
    isComment (word ++ ' ' :: behind) = false := by
  obtain ⟨c, rest, rfl⟩ := List.exists_cons_of_ne_nil starts.nonempty
  have unsigned : c ≠ '#' := by simpa using starts.unsigned
  rw [isComment, Bool.or_eq_false_iff]
  refine ⟨by simpa using unsigned, ?_⟩
  by_cases long : 3 ≤ (c :: rest).length
  · rw [List.take_append_of_le_length long]
    exact starts.unremarked
  · -- A shorter word brings the space into the first three characters.
    rw [Bool.eq_false_iff]
    intro remark
    apply remark_unbroken _ remark
    rw [List.take_append, List.mem_append]
    right
    have room : 3 - (c :: rest).length = (2 - (c :: rest).length) + 1 := by omega
    rw [room, List.take_succ_cons]
    exact List.mem_cons_self

private theorem isComment_word (word : List Char) (starts : StartsKeys word) :
    isComment word = false := by
  rw [isComment, starts.unremarked, Bool.or_false]
  simpa using starts.unsigned

/-- A line whose first word is not a keyword is a line of keys. -/
theorem readCommand_keys (line word argument : List Char)
    (unreserved : String.ofList (Text.asciiUpper word) ∉ keywords)
    (split : splitKeyword line = (word, argument)) :
    readCommand line = .ok (keyCommand ((Text.words line).map String.ofList)) := by
  simp only [keywords, List.mem_cons, List.not_mem_nil, or_false, not_or] at unreserved
  obtain ⟨noString, noDelay, noDefault, noShort, noRepeat⟩ := unreserved
  rw [readCommand, split]
  dsimp only
  -- One case for each keyword, and the last for a line of keys.
  split
  next upper => exact absurd upper noString
  next upper => exact absurd upper noDelay
  next upper => exact absurd upper noDefault
  next upper => exact absurd upper noShort
  next upper => exact absurd upper noRepeat
  next => rfl

/-- A line of words is a line of keys if its first word is not a keyword. -/
theorem readTrimmed_words (word : List Char) (others : List (List Char)) (starts : StartsKeys word)
    (every : ∀ other ∈ others, IsWord other) :
    readTrimmed ([' '].intercalate (word :: others)) =
      some (.ok (keyCommand ((word :: others).map String.ofList))) := by
  have allWords : ∀ part ∈ word :: others, IsWord part :=
    List.forall_mem_cons.mpr ⟨starts.toIsWord, every⟩
  have filled := (Text.trimmed_intercalate (word :: others) (List.cons_ne_nil _ _) allWords).2
  have found := Text.words_intercalate (word :: others) (List.cons_ne_nil _ _) allWords
  rw [readTrimmed, List.isEmpty_eq_false_iff.mpr filled]
  -- With no further word there is no space at which the keyword could end.
  cases others with
  | nil =>
    rw [List.intercalate_singleton] at found ⊢
    have split : splitKeyword word = (word, []) := by
      rw [splitKeyword, Text.splitFirst_of_none word starts.unbroken]
      rfl
    rw [isComment_word word starts, readCommand_keys word word [] starts.unreserved split, found]
    rfl
  | cons next later =>
    have joined : [' '].intercalate (word :: next :: later) =
        word ++ ' ' :: [' '].intercalate (next :: later) := by
      rw [List.intercalate_cons_cons, List.append_assoc, List.singleton_append]
    have split : splitKeyword ([' '].intercalate (word :: next :: later)) =
        (word, Text.trimStart ([' '].intercalate (next :: later))) := by
      rw [joined, splitKeyword, Text.splitFirst_append word _ ' ' starts.unbroken (by decide)]
    have uncommented : isComment ([' '].intercalate (word :: next :: later)) = false := by
      rw [joined]
      exact isComment_append word _ starts
    rw [uncommented, readCommand_keys _ word _ starts.unreserved split, found]
    rfl

private theorem keyword_isWord : IsWord "STRING".toList :=
  Text.isWord_of_all (by decide) (by decide)

/-- What stands behind the keyword for texts is typed as it is. -/
theorem readTrimmed_string (text : List Char) (trimmed : Trimmed text) :
    readTrimmed ("STRING".toList ++ ' ' :: text) =
      some (.ok (.typeText (String.ofList text))) := by
  have split : splitKeyword ("STRING".toList ++ ' ' :: text) = ("STRING".toList, text) := by
    rw [splitKeyword,
      Text.splitFirst_append "STRING".toList text ' ' keyword_isWord.unbroken (by decide)]
    simp only [trimmed.trimStart]
  have uncommented : isComment ("STRING".toList ++ ' ' :: text) = false := rfl
  have reads : readCommand ("STRING".toList ++ ' ' :: text) =
      .ok (.typeText (String.ofList text)) := by
    rw [readCommand, split]
    rfl
  rw [readTrimmed, uncommented, reads]
  rfl

/-- A trimmed text without a line feed is a script of one line. -/
theorem parse_line (text : String) (command : Command) (single : '\n' ∉ text.toList)
    (trimmed : Trimmed text.toList) (read : readTrimmed text.toList = some (.ok command)) :
    parse text = [⟨1, text, .ok command⟩] := by
  have some : text.toList ≠ [] := by
    intro empty
    rw [empty] at read
    cases read
  rw [parse, Text.lines_of_no_feed _ some single, numberedLines, trimmed.trim, read,
    String.ofList_toList]
  rfl

/-- The script of a line of words. -/
theorem parse_words (word : String) (others : List String) (starts : StartsKeys word.toList)
    (every : ∀ other ∈ others, IsWord other.toList) :
    parse (" ".intercalate (word :: others)) =
      [⟨1, " ".intercalate (word :: others), .ok (keyCommand (word :: others))⟩] := by
  have parts : (" ".intercalate (word :: others)).toList =
      [' '].intercalate (word.toList :: others.map String.toList) := String.toList_intercalate
  have allWords : ∀ part ∈ word.toList :: others.map String.toList, IsWord part := by
    rw [List.forall_mem_cons, List.forall_mem_map]
    exact ⟨starts.toIsWord, every⟩
  apply parse_line
  · intro feed
    rw [parts] at feed
    exact absurd (Text.blank_of_mem_intercalate _ allWords '\n' (by decide) feed) (by decide)
  · rw [parts]
    exact (Text.trimmed_intercalate _ (List.cons_ne_nil _ _) allWords).1
  · rw [parts, readTrimmed_words word.toList _ starts fun part member =>
      allWords part (List.mem_cons_of_mem _ member)]
    simp [Function.comp_def]

/-- The script of a line that types a text. -/
theorem parse_string (text : String) (some : text ≠ "") (single : '\n' ∉ text.toList)
    (trimmed : Trimmed text.toList) :
    parse ("STRING " ++ text) = [⟨1, "STRING " ++ text, .ok (.typeText text)⟩] := by
  have parts : ("STRING " ++ text).toList = "STRING".toList ++ ' ' :: text.toList := by
    rw [String.toList_append]
    rfl
  apply parse_line
  · rw [parts, List.mem_append, List.mem_cons, not_or, not_or]
    exact ⟨by decide, by decide, single⟩
  · rw [parts]
    simpa using keyword_isWord.trimmed.append trimmed [' '] (by decide) (by simpa using some)
  · rw [parts, readTrimmed_string text.toList trimmed, String.ofList_toList]

end Script

namespace Shell

/-- The shell splits a line behind its first word. -/
theorem parse_word (line : String) (word rest : List Char)
    (chars : line.toList = word ++ ' ' :: rest) (isWord : IsWord word) (some : rest ≠ [])
    (trimmed : Trimmed rest) : parse line = readCommand word rest := by
  have whole := isWord.trimmed.append trimmed [' '] isWord.nonempty some
  rw [List.append_assoc, List.singleton_append] at whole
  -- A line that does not end in a blank does not end in what the shell takes from its end.
  have ends : ∀ c, (word ++ ' ' :: rest).getLast? = Option.some c →
      (c == '\r' || c == '\n') = false := by
    intro c last
    have unblank := whole.last c last
    rw [Bool.eq_false_iff]
    intro ends
    rw [Bool.or_eq_true, beq_iff_eq, beq_iff_eq] at ends
    rcases ends with rfl | rfl <;> exact absurd unblank (by decide)
  have content : contentOf (word ++ ' ' :: rest) = word ++ ' ' :: rest := by
    rw [contentOf, Text.dropEnd_of_last ends, whole.trimStart]
  have unspaced : ' ' ∉ word := fun space => absurd (isWord.unbroken ' ' space) (by decide)
  have filled : (word ++ ' ' :: rest).isEmpty = false := by simp
  rw [parse, chars, content, filled,
    Text.splitFirst_append word rest ' ' (Text.beq_of_not_mem unspaced) (by decide)]
  rfl

theorem parse_key (name : String) (isWord : IsWord name.toList) :
    parse ("key " ++ name) = .ok (.key (Names.canonical name)) := by
  have argument : trimmedArgument "key" name.toList = .ok name := by
    rw [trimmedArgument, isWord.trimmed.trim]
    split
    next empty => exact absurd empty isWord.nonempty
    next => rw [String.ofList_toList]
  have reads : readCommand "key".toList name.toList =
      (trimmedArgument "key" name.toList).map fun name => .key (Names.canonical name) := rfl
  rw [parse_word _ "key".toList name.toList (by rw [String.toList_append]; rfl)
    (Text.isWord_of_all (by decide) (by decide)) isWord.nonempty isWord.trimmed, reads, argument]
  rfl

theorem parse_combo (tokens : List String) (some : tokens ≠ [])
    (every : ∀ token ∈ tokens, IsWord token.toList) :
    parse ("combo " ++ " ".intercalate tokens) = .ok (.combo (tokens.map Names.canonical)) := by
  have parts : (" ".intercalate tokens).toList = [' '].intercalate (tokens.map String.toList) :=
    String.toList_intercalate
  have someParts : tokens.map String.toList ≠ [] := by simpa using some
  have allWords : ∀ part ∈ tokens.map String.toList, IsWord part := List.forall_mem_map.mpr every
  obtain ⟨trimmed, filled⟩ := Text.trimmed_intercalate _ someParts allWords
  have names : namesIn ([' '].intercalate (tokens.map String.toList)) =
      .ok (tokens.map Names.canonical) := by
    rw [namesIn, Text.words_intercalate _ someParts allWords]
    split
    next empty => exact absurd empty someParts
    next => simp [Function.comp_def]
  have reads : ∀ rest, readCommand "combo".toList rest = (namesIn rest).map .combo := fun _ => rfl
  rw [parse_word _ "combo".toList _ (by rw [String.toList_append, parts]; rfl)
    (Text.isWord_of_all (by decide) (by decide)) filled trimmed, reads, names]
  rfl

theorem parse_type (text : String) (some : text ≠ "") (trimmed : Trimmed text.toList) :
    parse ("type " ++ text) = .ok (.typeText text) := by
  have filled : text.toList ≠ [] := by simpa using some
  have reads : readCommand "type".toList text.toList =
      if text.toList.isEmpty then .error (.missingArgument "type")
      else .ok (.typeText (String.ofList text.toList)) := rfl
  rw [parse_word _ "type".toList text.toList (by rw [String.toList_append]; rfl)
    (Text.isWord_of_all (by decide) (by decide)) filled trimmed, reads,
    List.isEmpty_eq_false_iff.mpr filled, String.ofList_toList]
  rfl

end Shell
end KeyGadget
