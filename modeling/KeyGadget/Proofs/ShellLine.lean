import KeyGadget.Proofs.Lowercase
import KeyGadget.Proofs.Parts
import KeyGadget.Shell.Command

/-!
# The language of the shell

What a line means to the shell, as rules on its parts. What ends the line and the blanks in front of
it are taken off, the first space parts the word that tells the command from the text behind it, and
every command has its own way with that text: a text to type is kept as it stands, an argument is
trimmed, and names are the words of it. Only the space parts a word from its text. Other blanks
belong to the word, and no command has one in its word.

## Main result

`shell_reads_its_language`: a line is read with its meaning, and a text to type is read back from
any line that is made of it.
-/
namespace KeyGadget.Shell

open Text (IsGap Trims WordsOf)

/-! ### The content of a line -/

/-- Nothing but carriage returns and line feeds. -/
def IsEnding (s : List Char) : Prop :=
  ∀ c ∈ s, c = '\r' ∨ c = '\n'

instance (s : List Char) : Decidable (IsEnding s) :=
  decidable_of_iff (s.all (fun c => c = '\r' ∨ c = '\n') = true) (by simp [IsEnding])

/-- The content of a line, between the blanks in front and all that ends the line. -/
structure Content (line content : List Char) : Prop where
  parts : ∃ gap ending, line = gap ++ content ++ ending ∧ IsGap gap ∧ IsEnding ending
  starts : ∀ c, content.head? = some c → Text.isBlank c = false
  stops : ∀ c, content.getLast? = some c → c ≠ '\r' ∧ c ≠ '\n'

theorem IsEnding.isGap {s : List Char} (isEnding : IsEnding s) : IsGap s := by
  intro c member
  rcases isEnding c member with rfl | rfl <;> rfl

private theorem ends_iff (c : Char) : (c == '\r' || c == '\n') = true ↔ c = '\r' ∨ c = '\n' := by
  rw [Bool.or_eq_true, beq_iff_eq, beq_iff_eq]

private theorem ends_false_iff (c : Char) :
    (c == '\r' || c == '\n') = false ↔ c ≠ '\r' ∧ c ≠ '\n' := by
  rw [Bool.or_eq_false_iff, beq_eq_false_iff_ne, beq_eq_false_iff_ne]

theorem content_contentOf (line : List Char) : Content line (contentOf line) := by
  obtain ⟨ending, split, all⟩ := Text.exists_dropEnd_append (fun c => c == '\r' || c == '\n') line
  have stops := Text.getLast?_dropEnd (fun c => c == '\r' || c == '\n') line
  rw [contentOf]
  generalize Text.dropEnd (fun c => c == '\r' || c == '\n') line = front at split stops ⊢
  have whole : front.takeWhile Text.isBlank ++ Text.trimStart front = front :=
    List.takeWhile_append_dropWhile
  refine ⟨⟨front.takeWhile Text.isBlank, ending, ?_, Text.isGap_takeWhile front, ?_⟩,
    Text.head?_trimStart front, fun c found => ?_⟩
  · rw [whole, split]
  · exact fun c member => (ends_iff c).mp (all c member)
  · -- What is left of the front has the same last character.
    apply (ends_false_iff c).mp
    apply stops c
    rw [← whole, List.getLast?_append, found]
    rfl

theorem contentOf_eq_iff (line content : List Char) :
    contentOf line = content ↔ Content line content := by
  constructor
  · rintro rfl
    exact content_contentOf line
  · rintro ⟨⟨gap, ending, rfl, isGap, isEnding⟩, starts, stops⟩
    have all : ∀ c ∈ ending, (c == '\r' || c == '\n') = true :=
      fun c member => (ends_iff c).mpr (isEnding c member)
    rw [contentOf, Text.dropEnd_append _ _ ending all, Text.trimStart]
    cases content with
    | nil =>
      -- What ends the line may start within the gap.
      rw [List.append_nil, List.dropWhile_eq_nil_iff]
      intro c member
      obtain ⟨more, split, -⟩ :=
        Text.exists_dropEnd_append (fun c => c == '\r' || c == '\n') gap
      apply isGap c
      rw [split]
      exact List.mem_append_left _ member
    | cons d rest =>
      have kept : Text.dropEnd (fun c => c == '\r' || c == '\n') (gap ++ d :: rest) =
          gap ++ d :: rest := by
        apply Text.dropEnd_of_last
        intro c found
        rw [List.getLast?_append, List.getLast?_cons, Option.some_or] at found
        rw [ends_false_iff]
        exact stops c (by rw [List.getLast?_cons, found])
      rw [kept, List.dropWhile_append_of_pos isGap, Text.dropWhile_of_head starts]

/-- Nothing is left of a line if it is blank. -/
theorem content_nil_iff (line : List Char) : Content line [] ↔ IsGap line := by
  constructor
  · rintro ⟨⟨gap, ending, rfl, isGap, isEnding⟩, -, -⟩
    rw [List.append_nil]
    exact List.forall_mem_append.mpr ⟨isGap, isEnding.isGap⟩
  · intro blank
    exact ⟨⟨line, [], by simp, blank, by simp [IsEnding]⟩, by simp, by simp⟩

/-- The part of a text before its first space and the part behind it. Without a space all of it is
before, and nothing behind. -/
def Cuts (text word rest : List Char) : Prop :=
  ' ' ∉ word ∧ (text = word ++ ' ' :: rest ∨ text = word ∧ rest = [])

theorem splitFirst_space_iff (text word rest : List Char) :
    Text.splitFirst (· == ' ') text = (word, rest) ↔ Cuts text word rest := by
  have behind := fun (before after : List Char) (unspaced : ' ' ∉ before) =>
    Text.splitFirst_append before after ' ' (Text.beq_of_not_mem unspaced) (by decide)
  have none := fun (text : List Char) (unspaced : ' ' ∉ text) =>
    Text.splitFirst_of_none text (Text.beq_of_not_mem unspaced)
  constructor
  · intro split
    by_cases space : ' ' ∈ text
    · obtain ⟨before, after, rfl, unspaced⟩ := List.eq_append_cons_of_mem space
      rw [behind before after unspaced] at split
      cases split
      exact ⟨unspaced, .inl rfl⟩
    · rw [none text space] at split
      cases split
      exact ⟨space, .inr ⟨rfl, rfl⟩⟩
  · rintro ⟨unspaced, rfl | ⟨rfl, rfl⟩⟩
    · exact behind word rest unspaced
    · exact none text unspaced

/-! ### Arguments -/

/-- The argument of a command in the text behind its word. -/
inductive ArgumentMeans (command : String) (rest : List Char) : Except Mistake String → Prop
  | given {argument : List Char} (trims : Trims rest argument) (filled : argument ≠ []) :
    ArgumentMeans command rest (.ok (String.ofList argument))
  | missing (blank : IsGap rest) : ArgumentMeans command rest (.error (.missingArgument command))

theorem trimmedArgument_eq_iff (command : String) (rest : List Char)
    (read : Except Mistake String) :
    trimmedArgument command rest = read ↔ ArgumentMeans command rest read := by
  constructor
  · rintro rfl
    have trims := Text.trims_trim rest
    unfold trimmedArgument
    split
    next empty => exact .missing ((Text.trim_eq_nil_iff rest).mp empty)
    next filled => exact .given trims filled
  · intro means
    unfold trimmedArgument
    cases means with
    | given trims filled =>
      rw [trims.trim_eq]
      split
      next empty => exact absurd rfl filled
      next => rfl
    | missing blank => rw [(Text.trim_eq_nil_iff rest).mpr blank]

/-- The names in the text behind the word for a chord. -/
inductive NamesMean (rest : List Char) : Except Mistake (List String) → Prop
  | given {text : List Char} {words : List (List Char)} (trims : Trims rest text)
    (wordsOf : WordsOf text words) :
    NamesMean rest (.ok (words.map fun word => Names.canonical (String.ofList word)))
  | missing (blank : IsGap rest) : NamesMean rest (.error (.missingArgument "combo"))

theorem namesIn_eq_iff (rest : List Char) (read : Except Mistake (List String)) :
    namesIn rest = read ↔ NamesMean rest read := by
  constructor
  · rintro rfl
    have trims := Text.trims_trim rest
    by_cases blank : IsGap rest
    · rw [namesIn, blank.words_eq]
      exact .missing blank
    · obtain ⟨words, wordsOf⟩ := Text.exists_wordsOf (Text.trim rest) trims.trimmed
        (mt (Text.trim_eq_nil_iff rest).mp blank)
      have found := trims.words_eq.trans wordsOf.words_eq
      unfold namesIn
      split
      next none => exact absurd (found.symm.trans none) wordsOf.ne_nil
      next => exact found ▸ .given trims wordsOf
  · intro means
    unfold namesIn
    cases means with
    | @given text words trims wordsOf =>
      rw [trims.words_eq, wordsOf.words_eq]
      split
      next => exact absurd rfl wordsOf.ne_nil
      next => rfl
    | missing blank => rw [blank.words_eq]

/-! ### Commands -/

/-- The words that tell a command. -/
def commandWords : List String :=
  ["type", "key", "combo", "ducky", "test", "help", "?", "quit", "exit"]

/-- What a word in small letters means with the text behind it. -/
inductive CommandMeans (rest : List Char) : String → Except Mistake Command → Prop
  | types (filled : rest ≠ []) : CommandMeans rest "type" (.ok (.typeText (String.ofList rest)))
  | untyped (empty : rest = []) : CommandMeans rest "type" (.error (.missingArgument "type"))
  | presses {read : Except Mistake String} (argument : ArgumentMeans "key" rest read) :
    CommandMeans rest "key" (read.map fun name => .key (Names.canonical name))
  | combines {read : Except Mistake (List String)} (names : NamesMean rest read) :
    CommandMeans rest "combo" (read.map .combo)
  | runs {read : Except Mistake String} (argument : ArgumentMeans "ducky" rest read) :
    CommandMeans rest "ducky" (read.map .run)
  | tests : CommandMeans rest "test" (.ok .test)
  | helps {word : String} (either : word = "help" ∨ word = "?") : CommandMeans rest word (.ok .help)
  | quits {word : String} (either : word = "quit" ∨ word = "exit") :
    CommandMeans rest word (.ok .quit)
  | unknown {word : String} (unlisted : word ∉ commandWords) :
    CommandMeans rest word (.error (.unknownCommand word))

theorem readCommand_eq_iff (word rest : List Char) (result : Except Mistake Command) :
    readCommand word rest = result ↔
      CommandMeans rest (String.ofList (Text.asciiLower word)) result := by
  unfold readCommand
  generalize String.ofList (Text.asciiLower word) = lower
  constructor
  · rintro rfl
    -- One case for each word that tells a command, and the last for all others.
    split
    next =>
      split
      next empty => exact .untyped (List.isEmpty_iff.mp empty)
      next filled => exact .types (by simpa using filled)
    next => exact .presses ((trimmedArgument_eq_iff _ _ _).mp rfl)
    next => exact .combines ((namesIn_eq_iff _ _).mp rfl)
    next => exact .runs ((trimmedArgument_eq_iff _ _ _).mp rfl)
    next => exact .tests
    next => exact .helps (.inl rfl)
    next => exact .helps (.inr rfl)
    next => exact .quits (.inl rfl)
    next => exact .quits (.inr rfl)
    next => exact .unknown (by simp_all [commandWords])
  · intro means
    cases means with
    | types filled => exact if_neg (by simpa using filled)
    | untyped empty => exact if_pos (by simpa using empty)
    | presses argument | runs argument =>
      rw [← (trimmedArgument_eq_iff _ _ _).mpr argument]
      rfl
    | combines names =>
      rw [← (namesIn_eq_iff _ _).mpr names]
      rfl
    | tests => rfl
    | helps either => rcases either with rfl | rfl <;> rfl
    | quits either => rcases either with rfl | rfl <;> rfl
    | unknown unlisted =>
      simp only [commandWords, List.mem_cons, List.not_mem_nil, or_false, not_or] at unlisted
      split <;> first | rfl | simp_all

/-! ### Lines -/

/-- What a line means. -/
inductive LineMeans (line : List Char) : Except Mistake Command → Prop
  | blank (empty : Content line []) : LineMeans line (.ok .empty)
  | command {content word rest : List Char} {result : Except Mistake Command}
    (holds : Content line content) (filled : content ≠ []) (cuts : Cuts content word rest)
    (means : CommandMeans rest (String.ofList (Text.asciiLower word)) result) :
    LineMeans line result

theorem parse_eq_iff (line : String) (result : Except Mistake Command) :
    parse line = result ↔ LineMeans line.toList result := by
  constructor
  · rintro rfl
    have holds := content_contentOf line.toList
    unfold parse
    dsimp only
    split
    next empty =>
      rw [List.isEmpty_iff.mp empty] at holds
      exact .blank holds
    next filled =>
      exact .command holds (by simpa using filled) ((splitFirst_space_iff _ _ _).mp rfl)
        ((readCommand_eq_iff _ _ _).mp rfl)
  · intro means
    unfold parse
    dsimp only
    cases means with
    | blank empty =>
      rw [(contentOf_eq_iff _ _).mpr empty]
      rfl
    | command holds filled cuts means =>
      rw [(contentOf_eq_iff _ _).mpr holds, List.isEmpty_eq_false_iff.mpr filled,
        (splitFirst_space_iff _ _ _).mpr cuts]
      exact (readCommand_eq_iff _ _ _).mpr means

/-- No word stands for the empty command. -/
theorem CommandMeans.ne_empty {rest : List Char} {lower : String} {result : Except Mistake Command}
    (means : CommandMeans rest lower result) : result ≠ .ok .empty := by
  cases means with
  | presses argument | runs argument => cases argument <;> nofun
  | combines names => cases names <;> nofun
  | _ => nofun

theorem parse_eq_empty_iff (line : String) : parse line = .ok .empty ↔ IsGap line.toList := by
  rw [parse_eq_iff, ← content_nil_iff]
  constructor
  · intro means
    generalize read : (Except.ok .empty : Except Mistake Command) = result at means
    cases means with
    | blank empty => exact empty
    | command holds filled cuts means => exact absurd read.symm means.ne_empty
  · exact .blank

theorem toLower_of_blank (c : Char) (blank : Text.isBlank c = true) : c.toLower = c := by
  simp only [Text.isBlank, Bool.or_eq_true, Bool.and_eq_true, decide_eq_true_eq, beq_iff_eq]
    at blank
  rw [← Char.toNat_inj, Text.toNat_toLower, if_neg (by omega)]

/-- A word has no blanks in any case if it has none in small letters. -/
theorem unbroken_of_asciiLower {word : List Char}
    (lower : ∀ c ∈ Text.asciiLower word, Text.isBlank c = false) :
    ∀ c ∈ word, Text.isBlank c = false := by
  intro c member
  by_contra broken
  have blank : Text.isBlank c = true := by simpa using broken
  have kept : c ∈ Text.asciiLower word :=
    List.mem_map.mpr ⟨c, member, toLower_of_blank c blank⟩
  exact broken (lower c kept)

/-- A text to type is read back from a line that is made of it. -/
theorem parse_typed (gap word text ending : String) (isGap : IsGap gap.toList)
    (isType : Text.asciiLower word.toList = "type".toList) (some : text ≠ "")
    (stops : ∀ c, text.toList.getLast? = Option.some c → c ≠ '\r' ∧ c ≠ '\n')
    (isEnding : IsEnding ending.toList) :
    parse (gap ++ word ++ " " ++ text ++ ending) = .ok (.typeText text) := by
  have filled : text.toList ≠ [] := by simpa using some
  have unbroken : ∀ c ∈ word.toList, Text.isBlank c = false :=
    unbroken_of_asciiLower (by simp [isType, Text.isBlank])
  have cuts : Cuts (word.toList ++ ' ' :: text.toList) word.toList text.toList :=
    ⟨fun space => absurd (unbroken ' ' space) (by decide), .inl rfl⟩
  have holds : Content (gap ++ word ++ " " ++ text ++ ending).toList
      (word.toList ++ ' ' :: text.toList) := by
    refine ⟨⟨gap.toList, ending.toList, ?_, isGap, isEnding⟩, fun c found => ?_, fun c found => ?_⟩
    · simp [String.toList_append]
    · -- The word is not empty, so the line starts with it.
      cases chars : word.toList with
      | nil => rw [chars] at isType; cases isType
      | cons d rest =>
        rw [chars] at found unbroken
        cases found
        exact unbroken _ List.mem_cons_self
    · rw [List.getLast?_append, List.getLast?_cons, Option.some_or] at found
      obtain ⟨front, last, chars⟩ := (List.eq_nil_or_concat text.toList).resolve_left filled
      rw [chars, List.concat_eq_append, List.getLast?_concat] at found stops
      exact stops c found
  rw [parse_eq_iff]
  refine .command holds (by simp) cuts ?_
  have means := CommandMeans.types filled
  rw [String.ofList_toList] at means
  rwa [isType, String.ofList_toList]

/-- **The shell reads its language**, and nothing else: a line is read with its meaning, and it is
empty just when it is blank. A text to type is read back as it was written, whatever blanks are in
it or at its ends, as long as it does not end like a line. -/
theorem shell_reads_its_language :
    (∀ (line : String) (result : Except Mistake Command),
      parse line = result ↔ LineMeans line.toList result) ∧
    (∀ line : String, parse line = .ok .empty ↔ IsGap line.toList) ∧
    ∀ gap word text ending : String, IsGap gap.toList →
      Text.asciiLower word.toList = "type".toList → text ≠ "" →
      (∀ c, text.toList.getLast? = some c → c ≠ '\r' ∧ c ≠ '\n') → IsEnding ending.toList →
      parse (gap ++ word ++ " " ++ text ++ ending) = .ok (.typeText text) :=
  ⟨parse_eq_iff, parse_eq_empty_iff, parse_typed⟩

/-- The second space, the tab and the wide blank at the end belong to the text. -/
theorem shell_reads_its_language_spaced :
    let text := " a\tb\u2003"
    (IsGap "\u3000\t".toList ∧ Text.asciiLower "tYPe".toList = "type".toList ∧ text ≠ "" ∧
      (∀ c, text.toList.getLast? = some c → c ≠ '\r' ∧ c ≠ '\n') ∧ IsEnding "\r\n\n\r".toList) ∧
    parse ("\u3000\t" ++ "tYPe" ++ " " ++ text ++ "\r\n\n\r") = .ok (.typeText text) := by
  intro text
  have gap : IsGap "\u3000\t".toList := by decide
  have word : Text.asciiLower "tYPe".toList = "type".toList := by decide
  have filled : text ≠ "" := by decide
  have stops : ∀ c, text.toList.getLast? = some c → c ≠ '\r' ∧ c ≠ '\n' := by
    have last : text.toList.getLast? = some '\u2003' := by decide
    intro c found
    rw [last, Option.some.injEq] at found
    subst found
    decide
  have ending : IsEnding "\r\n\n\r".toList := by decide
  exact ⟨⟨gap, word, filled, stops, ending⟩,
    shell_reads_its_language.2.2 _ _ text _ gap word filled stops ending⟩

-- A tab does not part the word from its text.
example : parse "key\tF5\r\n" = .error (.unknownCommand "key\tf5") := by decide

end KeyGadget.Shell
