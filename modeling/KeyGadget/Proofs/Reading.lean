import KeyGadget.Proofs.Keystroke
import KeyGadget.Proofs.Lowercase

/-!
# What the host reads

A host with the US layout makes characters of the reports that it takes. Its table goes from keys to
characters and is written down here without the table that goes the other way. Typing followed by
reading gives back the text, so no two texts that differ in what can be typed look the same to the
host.

## Main result

`typed_text_is_read`: the presses of a typed text are read as the characters of the text that have a
key, in order. These are the printable characters of ASCII, the tab and the line feed.
-/
namespace KeyGadget

namespace Layout

/-- The characters that a key makes on a host, without the shift key and with it. -/
def signs : List (Key × Char × Char) := [
  (.keyA, 'a', 'A'), (.keyB, 'b', 'B'), (.keyC, 'c', 'C'), (.keyD, 'd', 'D'), (.keyE, 'e', 'E'),
  (.keyF, 'f', 'F'), (.keyG, 'g', 'G'), (.keyH, 'h', 'H'), (.keyI, 'i', 'I'), (.keyJ, 'j', 'J'),
  (.keyK, 'k', 'K'), (.keyL, 'l', 'L'), (.keyM, 'm', 'M'), (.keyN, 'n', 'N'), (.keyO, 'o', 'O'),
  (.keyP, 'p', 'P'), (.keyQ, 'q', 'Q'), (.keyR, 'r', 'R'), (.keyS, 's', 'S'), (.keyT, 't', 'T'),
  (.keyU, 'u', 'U'), (.keyV, 'v', 'V'), (.keyW, 'w', 'W'), (.keyX, 'x', 'X'), (.keyY, 'y', 'Y'),
  (.keyZ, 'z', 'Z'), (.digit1, '1', '!'), (.digit2, '2', '@'), (.digit3, '3', '#'),
  (.digit4, '4', '$'), (.digit5, '5', '%'), (.digit6, '6', '^'), (.digit7, '7', '&'),
  (.digit8, '8', '*'), (.digit9, '9', '('), (.digit0, '0', ')'), (.enter, '\n', '\n'),
  (.tab, '\t', '\t'), (.space, ' ', ' '), (.minus, '-', '_'), (.equal, '=', '+'),
  (.bracketLeft, '[', '\x7b'), (.bracketRight, ']', '\x7d'), (.backslash, '\x5c', '|'),
  (.semicolon, ';', ':'), (.quote, '\x27', '\x22'), (.backquote, '\x60', '~'),
  (.comma, ',', '<'), (.period, '.', '>'), (.slash, '/', '?')]

/-- The character that a host makes of the modifier byte and the key byte of a report. -/
def read (modifiers usage : UInt8) : Option Char := do
  let key ← Key.ofUsage? usage
  let (_, plain, shifted) ← signs.find? (·.1 == key)
  if modifiers == 0 then some plain
  else if modifiers == Modifiers.shift.bits then some shifted
  else none

end Layout

/-- The character that a host makes of a report. -/
def Report.sign (report : Report) : Option Char :=
  Layout.read report.modifiers.bits report.usage

namespace Layout

/-- The printable characters of ASCII, the tab and the line feed. -/
def isTypeable (c : Char) : Bool :=
  (0x20 ≤ c.toNat && c.toNat ≤ 0x7E) || c == '\t' || c == '\n'

theorem name_ascii (key : Key) : ∀ c ∈ key.name.toList, c.toNat < 0x80 := by
  have all : key.name.toList.all (fun c => decide (c.toNat < 0x80)) = true := by
    cases key <;> decide
  simpa using all

private theorem plainKey_ascii (c : Char) (key : Key) (found : plainKey c = some key) :
    c.toNat < 0x80 := by
  unfold plainKey at found
  split at found
  next blank => rw [blank]; decide
  split at found
  next tab => rw [tab]; decide
  split at found
  next feed => rw [feed]; decide
  -- Any other character is the whole name of its key, and names are plain ASCII.
  have named : key.name = String.singleton c := (Key.ofName?_eq_some_iff _ key).mp found
  exact name_ascii key c (by rw [named]; simp)

theorem isUpper_ascii (c : Char) (upper : c.isUpper = true) : c.toNat < 0x80 := by
  have range : 'A'.val ≤ c.val ∧ c.val ≤ 'Z'.val := of_decide_eq_true upper
  have bound : c.toNat ≤ 90 := range.2
  omega

theorem shiftedBase_ascii (c : Char) (shifted : (shiftedBase c).isSome = true) :
    c.toNat < 0x80 := by
  unfold shiftedBase at shifted
  split at shifted <;> first | decide | cases shifted

theorem keyFor_ascii (c : Char) (has : (keyFor c).isSome = true) : c.toNat < 0x80 := by
  unfold keyFor at has
  split at has
  next upper => exact isUpper_ascii c upper
  split at has
  next base shifted => exact shiftedBase_ascii c (by rw [shifted]; rfl)
  · rw [Option.isSome_map] at has
    obtain ⟨key, found⟩ := Option.isSome_iff_exists.mp has
    exact plainKey_ascii c key found

/-- Whether a character is typeable if it has a key, and only then, and is read from that key. -/
private def isReadBack (c : Char) : Bool :=
  match keyFor c with
  | none => !isTypeable c
  | some (key, modifiers) => isTypeable c && (Report.press ⟨modifiers, some key⟩).sign == some c

private theorem isReadBack_all (c : Char) : isReadBack c = true := by
  by_cases ascii : c.toNat < 0x80
  · -- There are few enough of these to go through them all.
    have all : ∀ n : Fin 0x80, isReadBack (Char.ofNat n) = true := by decide +kernel
    exact Text.forall_ascii (p := fun c => isReadBack c = true) all c ascii
  · have keyless : keyFor c = none := by
      rw [← Option.not_isSome_iff_eq_none]
      exact fun has => ascii (keyFor_ascii c has)
    -- The typeable characters are characters of ASCII too.
    have untypeable : isTypeable c = false := by
      rw [Bool.eq_false_iff]
      intro typeable
      simp only [isTypeable, Bool.or_eq_true, Bool.and_eq_true, decide_eq_true_eq, beq_iff_eq]
        at typeable
      rcases typeable with (⟨_, top⟩ | rfl) | rfl
      · omega
      · exact ascii (by decide)
      · exact ascii (by decide)
    rw [isReadBack, keyless, untypeable]
    rfl

theorem keyFor_isSome (c : Char) : (keyFor c).isSome = isTypeable c := by
  have back := isReadBack_all c
  rw [isReadBack] at back
  cases found : keyFor c with
  | none =>
    rw [found] at back
    simpa using back
  | some held =>
    rw [found, Bool.and_eq_true] at back
    exact back.1.symm

theorem strokeFor_isSome (c : Char) : (strokeFor c).isSome = isTypeable c := by
  rw [← keyFor_isSome, strokeFor, Option.isSome_map]

/-- A host reads the keystroke of a character as that character. -/
theorem sign_press (c : Char) (stroke : Keystroke) (typed : strokeFor c = some stroke) :
    (Report.press stroke).sign = some c := by
  obtain ⟨⟨key, modifiers⟩, found, rfl⟩ := Option.map_eq_some_iff.mp typed
  have back := isReadBack_all c
  rw [isReadBack, found, Bool.and_eq_true, beq_iff_eq] at back
  exact back.2

end Layout

theorem Report.IsPress.not_isRelease {report : Report} (press : report.IsPress) :
    report.isRelease = false := by
  rw [isRelease, beq_eq_false_iff_ne]
  rintro rfl
  rcases press.held with modified | keyed
  · exact modified rfl
  · exact keyed rfl

theorem Keystroke.presses (strokes : List Keystroke) (holds : ∀ stroke ∈ strokes, stroke.Holds) :
    ((reports strokes).filter fun report => !report.isRelease) = strokes.map Report.press := by
  induction strokes with
  | nil => rfl
  | cons stroke rest ih =>
    -- Every keystroke gives a press, which is kept, and a release, which is not.
    have pressed := (Report.press_isPress stroke (holds stroke List.mem_cons_self)).not_isRelease
    have later := ih fun other member => holds other (List.mem_cons_of_mem _ member)
    have split : reports (stroke :: rest) = .press stroke :: .release :: reports rest := rfl
    have released : Report.release.isRelease = true := by decide
    rw [split, List.filter_cons, List.filter_cons, pressed, released, List.map_cons, ← later]
    rfl

theorem Layout.signs_strokes (characters : List Char) :
    ((characters.filterMap strokeFor).map fun stroke => (Report.press stroke).sign) =
      (characters.filter isTypeable).map some := by
  induction characters with
  | nil => rfl
  | cons c rest ih =>
    rw [List.filterMap_cons, List.filter_cons, ← strokeFor_isSome]
    cases typed : strokeFor c with
    | none => exact ih
    | some stroke =>
      have reads := sign_press c stroke typed
      simpa [reads] using ih

/-- The reports of a text that is typed where nothing fails. -/
def typedReports (timing : Timing) (delay : Nat) (text : String) : List Report :=
  Happening.accepted (World.calm.operate timing delay (.type text) []).2

theorem typedReports_eq (timing : Timing) (delay : Nat) (text : String) :
    typedReports timing delay text =
      Keystroke.reports ((Plan.typedCharacters text).filterMap Layout.strokeFor) := by
  rw [typedReports, World.calm_operate, List.nil_append, Operation.actions, Plan.type,
    Plan.typeWithHold_actions, Plan.strokesActions_reports]

/-- The characters of a text that have a key. A carriage return has none. -/
theorem Plan.typedCharacters_typeable (text : String) :
    (typedCharacters text).filter Layout.isTypeable = text.toList.filter Layout.isTypeable := by
  have unreturned : ∀ c, Layout.isTypeable c = true → c ≠ '\r' := by
    rintro c typeable rfl
    exact absurd typeable (by decide)
  rw [typedCharacters, List.filter_filter]
  apply List.filter_congr
  intro c _
  cases typeable : Layout.isTypeable c with
  | false => rfl
  | true => simpa using unreturned c typeable

/-- What typing says of a text, in terms of the characters that have a key. -/
theorem Plan.type_outcome (timing : Timing) (text : String) :
    (type timing text).outcome =
      ⟨(text.toList.filter Layout.isTypeable).length,
        text.toList.filter fun c => c ≠ '\r' && !Layout.isTypeable c⟩ := by
  have typed : (typedCharacters text).countP (fun c => (Layout.strokeFor c).isSome) =
      (text.toList.filter Layout.isTypeable).length := by
    simp only [Layout.strokeFor_isSome, List.countP_eq_length_filter, ← typedCharacters_typeable]
  have missed : (typedCharacters text).filter (fun c => (Layout.strokeFor c).isNone) =
      text.toList.filter fun c => c ≠ '\r' && !Layout.isTypeable c := by
    rw [typedCharacters, List.filter_filter]
    apply List.filter_congr
    intro c _
    rw [← Layout.strokeFor_isSome, Option.not_isSome, Bool.and_comm]
  rw [type, typeWithHold, typed, missed]

private theorem typedStrokes_holds (text : String) :
    ∀ stroke ∈ (Plan.typedCharacters text).filterMap Layout.strokeFor, stroke.Holds :=
  (Script.Command.typeText text).holds_of_mem_strokes

/-- The presses of a typed text are read as the characters that have a key. -/
theorem typedReports_read (timing : Timing) (delay : Nat) (text : String) :
    ((typedReports timing delay text).filter fun report => !report.isRelease).map Report.sign =
      (text.toList.filter Layout.isTypeable).map some := by
  rw [typedReports_eq, Keystroke.presses _ (typedStrokes_holds text), List.map_map,
    ← Plan.typedCharacters_typeable, ← Layout.signs_strokes]
  rfl

theorem typedReports_congr (timing : Timing) (delay : Nat) (text other : String)
    (same : text.toList.filter Layout.isTypeable = other.toList.filter Layout.isTypeable) :
    typedReports timing delay text = typedReports timing delay other := by
  -- A character without a key gives no keystroke, so it may be dropped before it is typed.
  have keyed : ∀ text : String, (Plan.typedCharacters text).filterMap Layout.strokeFor =
      (text.toList.filter Layout.isTypeable).filterMap Layout.strokeFor := by
    intro text
    rw [← Plan.typedCharacters_typeable, List.filterMap_filter]
    congr 1
    funext c
    cases typed : Layout.strokeFor c with
    | none => simp
    | some stroke => rw [← Layout.strokeFor_isSome, typed]; rfl
  rw [typedReports_eq, typedReports_eq, keyed, keyed, same]

/-- What is typed is what the host reads: the characters of the text that have a key, in order. The
others are told of, but for carriage returns. Two texts look alike to the device only if they are
read alike. -/
theorem typed_text_is_read (timing : Timing) (delay : Nat) (text : String) :
    let sent := text.toList.filter Layout.isTypeable
    let missed := text.toList.filter fun c => c ≠ '\r' && !Layout.isTypeable c
    (World.calm.operate timing delay (.type text) []).1 =
      (.typed (.ok ⟨sent.length, missed⟩), delay) ∧
    ((typedReports timing delay text).filter fun report => !report.isRelease).map Report.sign =
      sent.map some ∧
    (∀ c, (Layout.keyFor c).isSome = Layout.isTypeable c) ∧
    ∀ other : String, typedReports timing delay text = typedReports timing delay other ↔
      sent = other.toList.filter Layout.isTypeable := by
  intro sent missed
  refine ⟨?_, typedReports_read timing delay text, Layout.keyFor_isSome, fun other => ⟨?_, ?_⟩⟩
  · rw [World.calm_operate, Operation.promise, Plan.type_outcome]
  · intro same
    -- Equal reports are read as equal texts.
    have read := typedReports_read timing delay text
    rw [same, typedReports_read] at read
    exact ((List.map_inj_right fun _ _ => Option.some.inj).mp read).symm
  · exact typedReports_congr timing delay text other

-- The accented letter and the carriage return leave nothing that the host could read.
example : (typedReports .standard 0 "Né\r\n").filterMap Report.sign = ['N', '\n'] := by
  decide +kernel

end KeyGadget
