import KeyGadget.Proofs.Bytes
import KeyGadget.Proofs.Lowercase
import KeyGadget.Proofs.OneLine
import KeyGadget.Proofs.Parts
import Mathlib.Data.List.Basic
import Mathlib.Data.List.Forall2

/-!
# The grammar of lines

What a line of a script means, as rules on its parts: which lines are blank or comments, which
keyword takes what, and which keys are named. For every line there is one meaning, and it is the one
that the line is read with.

## Main results

`lines_are_read_by_grammar`: a line is read with its meaning; blanks around it do not change this,
and whether it is a remark can be told from its first three bytes.
-/
namespace KeyGadget

open Text (IsGap Trims Split WordsOf Writes Trimmed)

namespace Names

/-- The canonical names of what someone wrote. -/
inductive Canonizes (token : String) : String → Prop
  | listed {name : String}
    (listed : (String.ofList (Text.asciiUpper token.toList), name) ∈ aliases) : Canonizes token name
  | own (unlisted : ∀ name, (String.ofList (Text.asciiUpper token.toList), name) ∉ aliases) :
    Canonizes token (lowered token)

/-- No name is listed twice. -/
theorem aliasOf?_listed : ∀ pair ∈ aliases, aliasOf? pair.1 = some pair.2 := by
  decide

theorem aliasOf?_eq_some_iff (upper name : String) :
    aliasOf? upper = some name ↔ (upper, name) ∈ aliases := by
  constructor
  · intro found
    rw [aliasOf?, Option.map_eq_some_iff] at found
    obtain ⟨⟨key, value⟩, found, rfl⟩ := found
    have same : key = upper := by simpa using List.find?_some found
    rw [← same]
    exact List.mem_of_find?_eq_some found
  · exact aliasOf?_listed (upper, name)

theorem canonical_eq_iff (token name : String) : canonical token = name ↔ Canonizes token name := by
  constructor
  · rintro rfl
    unfold canonical
    split
    next name found => exact .listed ((aliasOf?_eq_some_iff _ _).mp found)
    next none =>
      refine .own fun name listed => ?_
      rw [(aliasOf?_eq_some_iff _ name).mpr listed] at none
      cases none
  · intro canonizes
    unfold canonical
    cases canonizes with
    | listed listed => rw [(aliasOf?_eq_some_iff _ name).mpr listed]
    | own unlisted =>
      split
      next name found => exact absurd ((aliasOf?_eq_some_iff _ name).mp found) (unlisted name)
      next => rfl

end Names

namespace Script

/-! ### Comments -/

/-- The letters R, E and M in front, each in either case. -/
def OpensRemark (text : List Char) : Prop :=
  ∃ r e m rest, text = r :: e :: m :: rest ∧
    (r = 'R' ∨ r = 'r') ∧ (e = 'E' ∨ e = 'e') ∧ (m = 'M' ∨ m = 'm')

/-- Whether the first three bytes of a text are characters, and these are the letters R, E and M. -/
def bytesOpenRemark (bytes : ByteArray) : Bool :=
  match decodeText (bytes.extract 0 3) with
  | .ok front => Text.sameAsciiCase front.toList ['R', 'E', 'M']
  | .error _ => false

theorem sameAsciiCase_remark_iff (s : List Char) :
    Text.sameAsciiCase s ['R', 'E', 'M'] = true ↔
      ∃ r e m, s = [r, e, m] ∧ (r = 'R' ∨ r = 'r') ∧ (e = 'E' ∨ e = 'e') ∧ (m = 'M' ∨ m = 'm') := by
  have letterR := fun c => Text.toLower_eq_iff c 'R' 'r' (by decide) rfl
  have letterE := fun c => Text.toLower_eq_iff c 'E' 'e' (by decide) rfl
  have letterM := fun c => Text.toLower_eq_iff c 'M' 'm' (by decide) rfl
  rw [Text.sameAsciiCase, beq_iff_eq]
  constructor
  · intro same
    have long : s.length = 3 := by simpa [Text.asciiLower] using congrArg List.length same
    obtain ⟨r, e, m, rfl⟩ := List.length_eq_three.mp long
    simp only [Text.asciiLower, List.map_cons, List.map_nil, List.cons.injEq, and_true] at same
    obtain ⟨r', e', m'⟩ := same
    exact ⟨r, e, m, rfl, (letterR r).mp r', (letterE e).mp e', (letterM m).mp m'⟩
  · rintro ⟨r, e, m, rfl, r', e', m'⟩
    rw [Text.asciiLower, List.map_cons, List.map_cons, List.map_cons, (letterR r).mpr r',
      (letterE e).mpr e', (letterM m).mpr m']
    rfl

theorem opensRemark_iff (text : List Char) :
    OpensRemark text ↔ Text.sameAsciiCase (text.take 3) ['R', 'E', 'M'] = true := by
  rw [sameAsciiCase_remark_iff]
  constructor
  · rintro ⟨r, e, m, rest, rfl, letters⟩
    exact ⟨r, e, m, rfl, letters⟩
  · rintro ⟨r, e, m, front, letters⟩
    refine ⟨r, e, m, text.drop 3, ?_, letters⟩
    have whole := List.take_append_drop 3 text
    rw [front] at whole
    exact whole.symm

theorem isComment_iff (text : List Char) :
    isComment text = true ↔ text.head? = some '#' ∨ OpensRemark text := by
  rw [isComment, Bool.or_eq_true, opensRemark_iff, beq_iff_eq]

theorem ne_nil_of_isComment {text : List Char} (comment : isComment text = true) : text ≠ [] := by
  rintro rfl
  cases comment

/-- The letters are three bytes. -/
theorem encoded_remark {r e m : Char} (r' : r = 'R' ∨ r = 'r') (e' : e = 'E' ∨ e = 'e')
    (m' : m = 'M' ∨ m = 'm') : (encoded [r, e, m]).length = 3 := by
  rcases r' with rfl | rfl <;> rcases e' with rfl | rfl <;> rcases m' with rfl | rfl <;> rfl

/-- Whatever characters the text has, it is a remark if its first three bytes say so: three bytes
that end inside of a character are not the letters. -/
theorem opensRemark_iff_bytes (text : String) :
    OpensRemark text.toList ↔ bytesOpenRemark text.toUTF8 = true := by
  constructor
  · rintro ⟨r, e, m, rest, chars, r', e', m'⟩
    have front : text.toUTF8.extract 0 3 = (encoded [r, e, m]).toByteArray := by
      rw [toUTF8_eq, chars]
      exact extract_encoded [r, e, m] rest 3 (encoded_remark r' e' m')
    rw [bytesOpenRemark, front, decodeText_encoded]
    dsimp only
    rw [String.toList_ofList, sameAsciiCase_remark_iff]
    exact ⟨r, e, m, rfl, r', e', m'⟩
  · intro opens
    unfold bytesOpenRemark at opens
    split at opens
    next front read =>
      -- What is read from the first bytes is in front of the text, because it is encoded to them.
      obtain ⟨r, e, m, letters, r', e', m'⟩ := (sameAsciiCase_remark_iff _).mp opens
      have bytes := eq_toUTF8_of_decodeText _ _ read
      rw [toUTF8_eq, toUTF8_eq, letters] at bytes
      obtain ⟨rest, whole⟩ := prefix_of_extract _ _ 3 bytes
      exact ⟨r, e, m, rest, whole.symm, r', e', m'⟩
    next => cases opens

/-! ### Commands -/

/-- What stands for the number behind a keyword. -/
inductive NumberMeans (keyword : String) (argument : List Char) : Except InvalidInteger Nat → Prop
  | number {n : Nat} (writes : Writes argument n) : NumberMeans keyword argument (.ok n)
  | none (unwritten : ∀ n, ¬ Writes argument n) :
    NumberMeans keyword argument (.error ⟨keyword, String.ofList argument⟩)

theorem readMillis_eq_iff (keyword : String) (argument : List Char)
    (read : Except InvalidInteger Nat) :
    readMillis keyword argument = read ↔ NumberMeans keyword argument read := by
  constructor
  · rintro rfl
    unfold readMillis
    split
    next n found => exact .number ((Text.readDecimal_eq_some_iff _ _).mp found)
    next none =>
      refine .none fun n writes => ?_
      rw [(Text.readDecimal_eq_some_iff _ n).mpr writes] at none
      cases none
  · intro means
    unfold readMillis
    cases means with
    | number writes => rw [(Text.readDecimal_eq_some_iff _ _).mpr writes]
    | none unwritten =>
      split
      next n found => exact absurd ((Text.readDecimal_eq_some_iff _ n).mp found) (unwritten n)
      next => rfl

/-- What a line of names presses. -/
inductive KeysMean (text : List Char) : Command → Prop
  | alone {word : List Char} {name : String} (words : WordsOf text [word])
    (canonizes : Names.Canonizes (String.ofList word) name) : KeysMean text (.pressKey name .none)
  | together {words : List (List Char)} {names : List String} (wordsOf : WordsOf text words)
    (several : 2 ≤ words.length)
    (canonize : List.Forall₂ (fun word => Names.Canonizes (String.ofList word)) words names) :
    KeysMean text (.combo names)

theorem canonical_words_iff (words : List (List Char)) (names : List String) :
    (words.map String.ofList).map Names.canonical = names ↔
      List.Forall₂ (fun word => Names.Canonizes (String.ofList word)) words names := by
  rw [List.map_map, ← List.forall₂_eq_eq_eq, List.forall₂_map_left_iff]
  simp only [Function.comp_apply, Names.canonical_eq_iff]

theorem keyCommand_eq_iff (text : List Char) (trimmed : Trimmed text) (some : text ≠ [])
    (command : Command) :
    keyCommand ((Text.words text).map String.ofList) = command ↔ KeysMean text command := by
  have wordsOf := fun parts => Text.words_eq_iff text trimmed some parts
  constructor
  · rintro rfl
    have own := (wordsOf _).mp rfl
    generalize Text.words text = words at own
    -- There is always a first word; it matters whether there is a second.
    cases words with
    | nil => cases own
    | cons word others =>
      cases others with
      | nil => exact .alone own ((Names.canonical_eq_iff _ _).mp rfl)
      | cons next later =>
        refine .together own (by simp) ?_
        exact (canonical_words_iff _ _).mp rfl
  · intro means
    cases means with
    | alone single canonizes =>
      rw [(wordsOf _).mpr single, ← (Names.canonical_eq_iff _ _).mpr canonizes]
      rfl
    | together several two canonize =>
      rw [(wordsOf _).mpr several]
      have names := (canonical_words_iff _ _).mpr canonize
      unfold keyCommand
      rw [names]
      split
      next name =>
        -- There are as many names as words, so there is not just one.
        have long := canonize.length_eq
        rw [List.length_singleton] at long
        omega
      next => rfl

/-- What a line that is neither blank nor a comment means, by its first word and what is behind
it. -/
inductive CommandMeans (text word argument : List Char) : Except InvalidInteger Command → Prop
  | types (keyword : String.ofList (Text.asciiUpper word) = "STRING") :
    CommandMeans text word argument (.ok (.typeText (String.ofList argument)))
  | waits {read : Except InvalidInteger Nat}
    (keyword : String.ofList (Text.asciiUpper word) = "DELAY")
    (number : NumberMeans "DELAY" argument read) :
    CommandMeans text word argument (read.map .delay)
  | waitsBehindEach {read : Except InvalidInteger Nat} {upper : String}
    (keyword : String.ofList (Text.asciiUpper word) = upper)
    (either : upper = "DEFAULT_DELAY" ∨ upper = "DEFAULTDELAY")
    (number : NumberMeans upper argument read) :
    CommandMeans text word argument (read.map .defaultDelay)
  | repeats (keyword : String.ofList (Text.asciiUpper word) = "REPEAT") :
    CommandMeans text word argument (.ok (.unsupported "REPEAT" (String.ofList argument)))
  | presses {command : Command} (unreserved : String.ofList (Text.asciiUpper word) ∉ keywords)
    (keys : KeysMean text command) : CommandMeans text word argument (.ok command)

theorem readCommand_eq_iff {text word argument : List Char} (trimmed : Trimmed text)
    (some : text ≠ []) (split : Split text word argument) (read : Except InvalidInteger Command) :
    readCommand text = read ↔ CommandMeans text word argument read := by
  have parts := (Text.splitKeyword_eq_iff text word argument).mpr split
  constructor
  · rintro rfl
    -- One case for each keyword, and the last for a line of keys.
    by_cases reserved : String.ofList (Text.asciiUpper word) ∈ keywords
    · rw [readCommand, parts]
      simp only [keywords, List.mem_cons, List.not_mem_nil, or_false] at reserved
      rcases reserved with upper | upper | upper | upper | upper
      all_goals simp only [upper]
      · exact .types upper
      · exact .waits upper ((readMillis_eq_iff _ _ _).mp rfl)
      · exact .waitsBehindEach upper (.inl rfl) ((readMillis_eq_iff _ _ _).mp rfl)
      · exact .waitsBehindEach upper (.inr rfl) ((readMillis_eq_iff _ _ _).mp rfl)
      · exact .repeats upper
    · rw [readCommand_keys text word argument reserved parts]
      exact .presses reserved ((keyCommand_eq_iff text trimmed some _).mp rfl)
  · intro means
    cases means with
    | types upper =>
      rw [readCommand, parts]
      simp only [upper]
    | waits upper number =>
      rw [readCommand, parts]
      simp only [upper, (readMillis_eq_iff _ _ _).mpr number]
    | waitsBehindEach upper either number =>
      rw [← upper] at either number
      rw [readCommand, parts]
      rcases either with upper | upper
      all_goals
        rw [upper] at number
        simp only [upper, (readMillis_eq_iff _ _ _).mpr number]
    | repeats upper =>
      rw [readCommand, parts]
      simp only [upper]
    | presses unreserved keys =>
      rw [readCommand_keys text word argument unreserved parts,
        (keyCommand_eq_iff text trimmed some _).mpr keys]

/-! ### Lines -/

/-- What a line means. -/
inductive LineMeans (line : List Char) : Option (Except InvalidInteger Command) → Prop
  | blank (trims : Trims line []) : LineMeans line none
  | comment {text : List Char} (trims : Trims line text)
    (remark : text.head? = some '#' ∨ OpensRemark text) : LineMeans line (some (.ok .comment))
  | command {text word argument : List Char} {read : Except InvalidInteger Command}
    (trims : Trims line text) (some : text ≠ [])
    (unremarked : ¬ (text.head? = Option.some '#' ∨ OpensRemark text))
    (split : Split text word argument) (means : CommandMeans text word argument read) :
    LineMeans line (Option.some read)

theorem parseLine_eq_iff (line : String) (result : Option (Except InvalidInteger Command)) :
    parseLine line = result ↔ LineMeans line.toList result := by
  constructor
  · rintro rfl
    have trims := Text.trims_trim line.toList
    unfold parseLine readTrimmed
    split
    next empty =>
      rw [List.isEmpty_iff.mp empty] at trims
      exact .blank trims
    next filled =>
      split
      next remark => exact .comment trims ((isComment_iff _).mp remark)
      next unremarked =>
        have parts := (Text.splitKeyword_eq_iff (Text.trim line.toList) _ _).mp rfl
        have some : Text.trim line.toList ≠ [] := by simpa using filled
        have trimmed := trims.trimmed
        rw [isComment_iff] at unremarked
        exact .command trims some unremarked parts
          ((readCommand_eq_iff trimmed some parts _).mp rfl)
  · intro means
    cases means with
    | blank trims =>
      rw [parseLine, trims.trim_eq]
      rfl
    | comment trims remark =>
      have comment := (isComment_iff _).mpr remark
      rw [parseLine, trims.trim_eq, readTrimmed,
        List.isEmpty_eq_false_iff.mpr (ne_nil_of_isComment comment), comment]
      rfl
    | command trims some unremarked split means =>
      rename_i text word argument read
      have uncommented : isComment text = false := by
        rw [Bool.eq_false_iff, ne_eq, isComment_iff]
        exact unremarked
      rw [parseLine, trims.trim_eq, readTrimmed, List.isEmpty_eq_false_iff.mpr some, uncommented,
        (readCommand_eq_iff trims.trimmed some split read).mpr means]
      rfl

/-- Blanks around a line are not seen. -/
theorem parseLine_between (before line behind : String) (front : IsGap before.toList)
    (back : IsGap behind.toList) : parseLine (before ++ line ++ behind) = parseLine line := by
  have trims := (Text.trims_trim line.toList).between front back
  rw [parseLine, String.toList_append, String.toList_append, trims.trim_eq]
  rfl

/-- A line is read with its meaning. Blanks around it do not change what is read, and it takes no
more than the first three bytes of its text to tell whether it is a remark, even if they end inside
of a character. -/
theorem lines_are_read_by_grammar (line : String) :
    (∀ result, parseLine line = result ↔ LineMeans line.toList result) ∧
    (∀ before behind : String, IsGap before.toList → IsGap behind.toList →
      parseLine (before ++ line ++ behind) = parseLine line) ∧
    (OpensRemark (Text.trim line.toList) ↔
      bytesOpenRemark (String.ofList (Text.trim line.toList)).toUTF8 = true) := by
  refine ⟨parseLine_eq_iff line, fun before behind => parseLine_between before line behind, ?_⟩
  rw [← opensRemark_iff_bytes, String.toList_ofList]

theorem lines_are_read_by_grammar_signed :
    (IsGap "\u3000".toList ∧ IsGap "\r".toList) ∧
    LineMeans "Delay\t+007 ".toList (some (.ok (.delay 7))) ∧
    parseLine ("\u3000" ++ "Delay\t+007 " ++ "\r") = some (.ok (.delay 7)) := by
  have front : IsGap "\u3000".toList := by decide
  have back : IsGap "\r".toList := by decide
  have read : parseLine "Delay\t+007 " = some (.ok (.delay 7)) := by decide
  obtain ⟨means, between, -⟩ := lines_are_read_by_grammar "Delay\t+007 "
  refine ⟨⟨front, back⟩, (means _).mp read, ?_⟩
  rw [between _ _ front back, read]

/-- The third byte of this line is the first half of a character. -/
example : parseLine "re\u00E9" = some (.ok (.pressKey "re\u00E9" .none)) := by decide

end Script
end KeyGadget
