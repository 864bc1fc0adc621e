import KeyGadget.Json
import KeyGadget.Toml.Quoted

/-!
# The text of a JSON value

A JSON value is printed over several lines. Nothing of it is lost: a reader that passes over the
blanks between the parts of a text gives the value back. Where a number ends is told only by what
stands behind it, so a value is read back in front of anything that does not go on with a digit.

## Main result

`read_pretty`: the text of a value is read as the value.

## Proof strategy

The induction is on the steps of the reader, for values, items and members at once. Every step that
goes into a part leaves a character behind, a bracket or the start of a line, so a text with fewer
characters than there are steps is read to its end.
-/
namespace KeyGadget.Json

open Toml (before codePoint? shortEscape?)

/-! ### A reader -/

/-- Whether a character may stand between the parts of a text. -/
def isGap (c : Char) : Bool :=
  c = ' ' || c = '\n' || c = '\r' || c = '\t'

def skipGap (s : List Char) : List Char :=
  s.dropWhile isGap

/-- Reads to the closing quote. -/
def readText : List Char → Option (List Char × List Char)
  | [] => none
  | '\x22' :: rest => some ([], rest)
  | '\x5c' :: 'u' :: a :: b :: c :: d :: rest =>
    match codePoint? [a, b, c, d] with
    | some char => before char (readText rest)
    | none => none
  | '\x5c' :: letter :: rest =>
    match shortEscape? letter with
    | some char => before char (readText rest)
    | none => none
  | c :: rest => before c (readText rest)

def readNumber (s : List Char) : Option (Json × List Char) :=
  let digits := s.takeWhile Char.isDigit
  if digits.isEmpty then none
  else some (.number (Nat.ofDigitChars 10 digits 0), s.dropWhile Char.isDigit)

mutual

/-- Reads a value from the start of a text in at most `fuel` steps, and leaves the rest. -/
def readValue : Nat → List Char → Option (Json × List Char)
  | 0, _ => none
  | fuel + 1, s =>
    match skipGap s with
    | 'n' :: 'u' :: 'l' :: 'l' :: rest => some (.null, rest)
    | 't' :: 'r' :: 'u' :: 'e' :: rest => some (.bool true, rest)
    | 'f' :: 'a' :: 'l' :: 's' :: 'e' :: rest => some (.bool false, rest)
    | '\x22' :: rest => (readText rest).map fun (chars, rest) => (.text (String.ofList chars), rest)
    | '[' :: ']' :: rest => some (.list [], rest)
    | '[' :: rest => (readItems fuel rest).map fun (items, rest) => (.list items, rest)
    | '\x7b' :: '\x7d' :: rest => some (.object [], rest)
    | '\x7b' :: rest => (readMembers fuel rest).map fun (members, rest) => (.object members, rest)
    | s => readNumber s

/-- Reads the items of a list to its end. -/
def readItems : Nat → List Char → Option (List Json × List Char)
  | 0, _ => none
  | fuel + 1, s =>
    match readValue fuel s with
    | none => none
    | some (item, rest) =>
      match skipGap rest with
      | ',' :: rest => (readItems fuel rest).map fun (items, rest) => (item :: items, rest)
      | ']' :: rest => some ([item], rest)
      | _ => none

/-- Reads a member of an object: a name and a value with a colon between them. -/
def readMember : Nat → List Char → Option ((String × Json) × List Char)
  | 0, _ => none
  | fuel + 1, s =>
    match skipGap s with
    | '\x22' :: rest =>
      match readText rest with
      | some (name, ':' :: rest) =>
        (readValue fuel rest).map fun (value, rest) => ((String.ofList name, value), rest)
      | _ => none
    | _ => none

/-- Reads the members of an object to its end. -/
def readMembers : Nat → List Char → Option (List (String × Json) × List Char)
  | 0, _ => none
  | fuel + 1, s =>
    match readMember fuel s with
    | none => none
    | some (member, rest) =>
      match skipGap rest with
      | ',' :: rest => (readMembers fuel rest).map fun (members, rest) => (member :: members, rest)
      | '\x7d' :: rest => some ([member], rest)
      | _ => none

end

/-- The value that a text is for, if it is for one. There is a step for every character. -/
def read (text : String) : Option Json :=
  match readValue (text.toList.length + 1) text.toList with
  | some (value, rest) => if (skipGap rest).isEmpty then some value else none
  | none => none

/-! ### Strings -/

/-- The code point of a control character is four digits, and they are read back. -/
private theorem hexFour_control (n : Nat) (control : n < 0x20) :
    hexFour n = ['0', '0', if n < 0x10 then '0' else '1', Nat.digitChar (n % 0x10)] ∧
      codePoint? (hexFour n) = some (Char.ofNat n) := by
  revert n
  decide

/-- A character that does not need to be escaped is read as it is. -/
private theorem readText_plain {c : Char} (rest : List Char) (plain : c ≠ '\x22')
    (other : c ≠ '\x5c') : readText (c :: rest) = before c (readText rest) := by
  rw [readText.eq_def]
  split <;> simp_all

/-- A character is read back from what stands for it. -/
theorem readText_escapeChar (c : Char) (rest : List Char) :
    readText (escapeChar c ++ rest) = before c (readText rest) := by
  -- The characters with a short form are read back one by one.
  by_cases short : c ∈ ['\x22', '\x5c', '\x08', '\t', '\n', '\x0c', '\r']
  · simp only [List.mem_cons, List.not_mem_nil, or_false] at short
    rcases short with rfl | rfl | rfl | rfl | rfl | rfl | rfl <;> rfl
  · simp only [List.mem_cons, List.not_mem_nil, or_false, not_or] at short
    obtain ⟨quote, backslash, back, tab, feed, form, carriage⟩ := short
    have escaped : escapeChar c =
        if c.toNat < 0x20 then ['\x5c', 'u'] ++ hexFour c.toNat else [c] := by
      simp [escapeChar, quote, backslash, back, tab, feed, form, carriage]
    rw [escaped]
    split
    · next control =>
      obtain ⟨digits, read⟩ := hexFour_control c.toNat control
      rw [digits] at read ⊢
      rw [Char.ofNat_toNat] at read
      simp only [List.cons_append, List.nil_append, readText, read]
    · exact readText_plain rest quote backslash

theorem readText_quoted (s rest : List Char) :
    readText (s.flatMap escapeChar ++ '\x22' :: rest) = some (s, rest) := by
  induction s with
  | nil => rfl
  | cons c s ih =>
    rw [List.flatMap_cons, List.append_assoc, readText_escapeChar, ih]
    rfl

/-! ### Numbers -/

/-- Nothing that goes on with a digit. -/
def Stops (rest : List Char) : Prop :=
  ∀ c, rest.head? = some c → c.isDigit = false

private theorem isDigit_toDigits (n : Nat) : ∀ c ∈ Nat.toDigits 10 n, c.isDigit = true :=
  fun _ => Nat.isDigit_of_mem_toDigits (by decide) (by decide)

theorem readNumber_repr (n : Nat) (rest : List Char) (stops : Stops rest) :
    readNumber ((Nat.repr n).toList ++ rest) = some (.number n, rest) := by
  have digits := isDigit_toDigits n
  have behind : rest.takeWhile Char.isDigit = [] ∧ rest.dropWhile Char.isDigit = rest := by
    cases rest with
    | nil => exact ⟨rfl, rfl⟩
    | cons c rest => simp [stops c rfl]
  rw [Nat.toList_repr, readNumber, List.takeWhile_append_of_pos digits,
    List.dropWhile_append_of_pos digits, behind.1, behind.2, List.append_nil,
    Nat.ofDigitChars_toDigits (by decide) (by decide)]
  simp [Nat.toDigits_ne_nil]

/-! ### Values -/

private theorem skipGap_newLine (depth : Nat) (s : List Char) :
    skipGap ((newLine depth).toList ++ s) = skipGap s := by
  refine List.dropWhile_append_of_pos fun c member => ?_
  rw [newLine, String.toList_ofList, List.mem_cons, List.mem_replicate] at member
  rcases member with rfl | ⟨-, rfl⟩ <;> rfl

/-- What stands in front of a value and is passed over makes no difference. -/
private theorem readValue_congr (fuel : Nat) {s t : List Char} (same : skipGap s = skipGap t) :
    readValue fuel s = readValue fuel t := by
  cases fuel with
  | zero => rw [readValue, readValue]
  | succ fuel => rw [readValue, readValue, same]

private theorem readMember_congr (fuel : Nat) {s t : List Char} (same : skipGap s = skipGap t) :
    readMember fuel s = readMember fuel t := by
  cases fuel with
  | zero => rw [readMember, readMember]
  | succ fuel => rw [readMember, readMember, same]

private theorem length_newLine_pos (depth : Nat) : 0 < (newLine depth).toList.length := by
  simp [newLine]

private theorem stops_newLine (depth : Nat) (s : List Char) :
    Stops ((newLine depth).toList ++ s) := by
  simp [Stops, newLine]

/-- What starts with a digit is a number. -/
private theorem readValue_digit (fuel : Nat) {c : Char} (digit : c.isDigit = true)
    (rest : List Char) : readValue (fuel + 1) (c :: rest) = readNumber (c :: rest) := by
  have kept : skipGap (c :: rest) = c :: rest := by
    rw [skipGap, List.dropWhile_cons_of_neg]
    rintro gap
    simp only [isGap, Bool.or_eq_true, decide_eq_true_eq] at gap
    rcases gap with ((rfl | rfl) | rfl) | rfl <;> cases digit
  rw [readValue, kept]
  -- No other value starts with a digit.
  split
  all_goals first | rfl | (next same => cases same; cases digit)

private theorem toList_quote (s : String) :
    (quote s).toList = '\x22' :: (s.toList.flatMap escapeChar ++ ['\x22']) := by
  simp [quote]

/-- A number is told from other values by its first digit. -/
private theorem readValue_repr (fuel n : Nat) (rest : List Char) (stops : Stops rest) :
    readValue (fuel + 1) ((Nat.repr n).toList ++ rest) = some (.number n, rest) := by
  rw [← readNumber_repr n rest stops, Nat.toList_repr]
  have digits := isDigit_toDigits n
  have some : Nat.toDigits 10 n ≠ [] := Nat.toDigits_ne_nil
  generalize Nat.toDigits 10 n = written at digits some
  cases written with
  | nil => exact absurd rfl some
  | cons c others => exact readValue_digit fuel (digits c List.mem_cons_self) (others ++ rest)

private theorem readValue_text (fuel depth : Nat) (s : String) (rest : List Char) :
    readValue (fuel + 1) ((prettyAt depth (.text s)).toList ++ rest) = some (.text s, rest) := by
  have read : readValue (fuel + 1) ((prettyAt depth (.text s)).toList ++ rest) =
      (readText (s.toList.flatMap escapeChar ++ '\x22' :: rest)).map
        fun (chars, rest) => (.text (String.ofList chars), rest) := by
    rw [prettyAt, toList_quote, List.cons_append, List.append_assoc]
    rfl
  rw [read, readText_quoted]
  simp only [Option.map_some, String.ofList_toList]

/-! ### Lists and objects -/

section parts

variable (depth : Nat) (rest : List Char)

private theorem list_text (item : Json) (items : List Json) :
    (prettyAt depth (.list (item :: items))).toList ++ rest =
      '[' :: ((prettyItems (depth + 1) (item :: items)).toList ++
        ((newLine depth).toList ++ ']' :: rest)) := by
  simp [prettyAt, String.toList_append]

private theorem object_text (member : String × Json) (members : List (String × Json)) :
    (prettyAt depth (.object (member :: members))).toList ++ rest =
      '\x7b' :: ((prettyMembers (depth + 1) (member :: members)).toList ++
        ((newLine depth).toList ++ '\x7d' :: rest)) := by
  simp [prettyAt, String.toList_append]

private theorem last_item_text (item : Json) :
    (prettyItems depth [item]).toList ++ rest =
      (newLine depth).toList ++ ((prettyAt depth item).toList ++ rest) := by
  simp [prettyItems, String.toList_append]

private theorem item_text (item next : Json) (items : List Json) :
    (prettyItems depth (item :: next :: items)).toList ++ rest =
      (newLine depth).toList ++ ((prettyAt depth item).toList ++
        ',' :: ((prettyItems depth (next :: items)).toList ++ rest)) := by
  simp [prettyItems, String.toList_append]

/-- The text of a member of an object. -/
private def memberText (name : String) (value : Json) : List Char :=
  (quote name).toList ++ (':' :: ' ' :: (prettyAt depth value).toList)

private theorem last_member_text (name : String) (value : Json) :
    (prettyMembers depth [(name, value)]).toList ++ rest =
      (newLine depth).toList ++ (memberText depth name value ++ rest) := by
  simp [prettyMembers, memberText, String.toList_append]

private theorem member_text (name : String) (value : Json) (next : String × Json)
    (members : List (String × Json)) :
    (prettyMembers depth ((name, value) :: next :: members)).toList ++ rest =
      (newLine depth).toList ++ (memberText depth name value ++
        ',' :: ((prettyMembers depth (next :: members)).toList ++ rest)) := by
  simp [prettyMembers, memberText, String.toList_append]

end parts

private theorem stops_comma {s : List Char} : Stops (',' :: s) := by
  simp [Stops]

/-- A list that does not end at once is a list of items. -/
private theorem readValue_items (fuel : Nat) {s : List Char} (started : s.head? = some '\n') :
    readValue (fuel + 1) ('[' :: s) =
      (readItems fuel s).map fun (items, rest) => (.list items, rest) := by
  obtain ⟨t, rfl⟩ := List.head?_eq_some_iff.mp started
  rfl

private theorem readValue_members (fuel : Nat) {s : List Char} (started : s.head? = some '\n') :
    readValue (fuel + 1) ('\x7b' :: s) =
      (readMembers fuel s).map fun (members, rest) => (.object members, rest) := by
  obtain ⟨t, rfl⟩ := List.head?_eq_some_iff.mp started
  rfl

private theorem head_items (depth : Nat) (item : Json) (items : List Json) (rest : List Char) :
    ((prettyItems depth (item :: items)).toList ++ rest).head? = some '\n' := by
  cases items <;> simp [prettyItems, newLine]

private theorem head_members (depth : Nat) (member : String × Json)
    (members : List (String × Json)) (rest : List Char) :
    ((prettyMembers depth (member :: members)).toList ++ rest).head? = some '\n' := by
  cases members <;> simp [prettyMembers, newLine]

/-! One item or member is read, and it is the last or others follow. -/

section one

variable {depth outer fuel : Nat} {rest : List Char}

private theorem readItems_last {item : Json}
    (read : readValue fuel ((prettyAt depth item).toList ++
      ((newLine outer).toList ++ ']' :: rest)) =
        some (item, (newLine outer).toList ++ ']' :: rest)) :
    readItems (fuel + 1) ((newLine depth).toList ++ ((prettyAt depth item).toList ++
      ((newLine outer).toList ++ ']' :: rest))) = some ([item], rest) := by
  have closed : skipGap (']' :: rest) = ']' :: rest := rfl
  rw [readItems, readValue_congr fuel (skipGap_newLine depth _), read]
  simp only [skipGap_newLine, closed]

private theorem readItems_more {item : Json} {items : List Json} {more : List Char}
    (read : readValue fuel ((prettyAt depth item).toList ++ ',' :: more) = some (item, ',' :: more))
    (others : readItems fuel more = some (items, rest)) :
    readItems (fuel + 1) ((newLine depth).toList ++ ((prettyAt depth item).toList ++ ',' :: more)) =
      some (item :: items, rest) := by
  have divided : skipGap (',' :: more) = ',' :: more := rfl
  rw [readItems, readValue_congr fuel (skipGap_newLine depth _), read]
  simp only [divided, others, Option.map_some]

private theorem readMember_memberText (name : String) {value : Json}
    (read : readValue fuel ((prettyAt depth value).toList ++ rest) = some (value, rest)) :
    readMember (fuel + 1) (memberText depth name value ++ rest) = some ((name, value), rest) := by
  have started : memberText depth name value ++ rest =
      '\x22' :: (name.toList.flatMap escapeChar ++
        '\x22' :: ':' :: ' ' :: ((prettyAt depth value).toList ++ rest)) := by
    simp [memberText, toList_quote]
  have opened (s : List Char) : skipGap ('\x22' :: s) = '\x22' :: s := rfl
  have blank (s : List Char) : readValue fuel (' ' :: s) = readValue fuel s :=
    readValue_congr fuel rfl
  rw [started, readMember, opened]
  simp only [readText_quoted, blank, read, Option.map_some, String.ofList_toList]

private theorem readMembers_last (name : String) {value : Json}
    (read : readValue fuel ((prettyAt depth value).toList ++
      ((newLine outer).toList ++ '\x7d' :: rest)) =
        some (value, (newLine outer).toList ++ '\x7d' :: rest)) :
    readMembers (fuel + 2) ((newLine depth).toList ++ (memberText depth name value ++
      ((newLine outer).toList ++ '\x7d' :: rest))) = some ([(name, value)], rest) := by
  have closed : skipGap ('\x7d' :: rest) = '\x7d' :: rest := rfl
  rw [readMembers, readMember_congr _ (skipGap_newLine depth _), readMember_memberText name read]
  simp only [skipGap_newLine, closed]

private theorem readMembers_more (name : String) {value : Json} {members : List (String × Json)}
    {more : List Char}
    (read : readValue fuel ((prettyAt depth value).toList ++ ',' :: more) =
      some (value, ',' :: more))
    (others : readMembers (fuel + 1) more = some (members, rest)) :
    readMembers (fuel + 2) ((newLine depth).toList ++
      (memberText depth name value ++ ',' :: more)) = some ((name, value) :: members, rest) := by
  have divided : skipGap (',' :: more) = ',' :: more := rfl
  rw [readMembers, readMember_congr _ (skipGap_newLine depth _), readMember_memberText name read]
  simp only [divided, others, Option.map_some]

end one

/-! The text has a character for each step, so the steps do not run out before the text does. -/

mutual

/-- A value is read back in front of anything that does not go on with a digit. -/
theorem readValue_prettyAt (depth fuel : Nat) (value : Json) (rest : List Char)
    (enough : ((prettyAt depth value).toList ++ rest).length < fuel) (stops : Stops rest) :
    readValue fuel ((prettyAt depth value).toList ++ rest) = some (value, rest) := by
  obtain ⟨fuel, rfl⟩ := Nat.exists_eq_add_one_of_ne_zero (Nat.ne_zero_of_lt enough)
  rcases value with _ | ⟨_ | _⟩ | n | s | ⟨_ | ⟨item, items⟩⟩ | ⟨_ | ⟨member, members⟩⟩
  case number =>
    rw [prettyAt]
    exact readValue_repr fuel n rest stops
  case text => exact readValue_text fuel depth s rest
  case list.cons =>
    rw [list_text] at enough ⊢
    rw [readValue_items fuel (head_items _ _ _ _),
      readItems_prettyItems (depth + 1) depth fuel item items rest (Nat.lt_of_succ_lt_succ enough)]
    rfl
  case object.cons =>
    rw [object_text] at enough ⊢
    rw [readValue_members fuel (head_members _ _ _ _),
      readMembers_prettyMembers (depth + 1) depth fuel member members rest
        (Nat.lt_of_succ_lt_succ enough)]
    rfl
  all_goals
    rw [prettyAt]
    rfl
termination_by fuel
decreasing_by all_goals omega

theorem readItems_prettyItems (depth outer fuel : Nat) (item : Json) (items : List Json)
    (rest : List Char)
    (enough : ((prettyItems depth (item :: items)).toList ++
      ((newLine outer).toList ++ ']' :: rest)).length < fuel) :
    readItems fuel ((prettyItems depth (item :: items)).toList ++
      ((newLine outer).toList ++ ']' :: rest)) = some (item :: items, rest) := by
  obtain ⟨fuel, rfl⟩ := Nat.exists_eq_add_one_of_ne_zero (Nat.ne_zero_of_lt enough)
  -- The start of the line is what this step takes from the text.
  have gap := length_newLine_pos depth
  cases items with
  | nil =>
    rw [last_item_text, List.length_append] at enough
    rw [last_item_text]
    exact readItems_last (readValue_prettyAt depth fuel item _ (by omega) (stops_newLine outer _))
  | cons next items =>
    rw [item_text, List.length_append, List.length_append, List.length_cons] at enough
    have read := readValue_prettyAt depth fuel item
      (',' :: ((prettyItems depth (next :: items)).toList ++
        ((newLine outer).toList ++ ']' :: rest)))
      (by rw [List.length_append, List.length_cons]; omega) stops_comma
    have others := readItems_prettyItems depth outer fuel next items rest (by omega)
    rw [item_text]
    exact readItems_more read others
termination_by fuel
decreasing_by all_goals omega

theorem readMembers_prettyMembers (depth outer fuel : Nat) (member : String × Json)
    (members : List (String × Json)) (rest : List Char)
    (enough : ((prettyMembers depth (member :: members)).toList ++
      ((newLine outer).toList ++ '\x7d' :: rest)).length < fuel) :
    readMembers fuel ((prettyMembers depth (member :: members)).toList ++
      ((newLine outer).toList ++ '\x7d' :: rest)) = some (member :: members, rest) := by
  obtain ⟨name, value⟩ := member
  -- A member takes two steps, and its text has at least two characters before that of its value.
  have gap := length_newLine_pos depth
  have within : (prettyAt depth value).toList.length < (memberText depth name value).length := by
    simp only [memberText, List.length_append, List.length_cons]
    omega
  cases members with
  | nil =>
    rw [last_member_text, List.length_append, List.length_append] at enough
    obtain ⟨fuel, rfl⟩ : ∃ more, fuel = more + 2 := ⟨fuel - 2, by omega⟩
    have read := readValue_prettyAt depth fuel value
      ((newLine outer).toList ++ '\x7d' :: rest) (by rw [List.length_append]; omega)
      (stops_newLine outer _)
    rw [last_member_text]
    exact readMembers_last name read
  | cons next members =>
    rw [member_text, List.length_append, List.length_append, List.length_cons] at enough
    obtain ⟨fuel, rfl⟩ : ∃ more, fuel = more + 2 := ⟨fuel - 2, by omega⟩
    have read := readValue_prettyAt depth fuel value
      (',' :: ((prettyMembers depth (next :: members)).toList ++
        ((newLine outer).toList ++ '\x7d' :: rest)))
      (by rw [List.length_append, List.length_cons]; omega) stops_comma
    have others := readMembers_prettyMembers depth outer (fuel + 1) next members rest (by omega)
    rw [member_text]
    exact readMembers_more name read others
termination_by fuel
decreasing_by all_goals omega

end

/-- The text of a value is read as the value. -/
theorem read_pretty (value : Json) : read value.pretty = some value := by
  have whole := readValue_prettyAt 0 ((prettyAt 0 value).toList.length + 1) value []
    (by rw [List.append_nil]; exact Nat.lt_succ_self _) nofun
  rw [List.append_nil] at whole
  rw [read, pretty, whole]
  rfl

end KeyGadget.Json
