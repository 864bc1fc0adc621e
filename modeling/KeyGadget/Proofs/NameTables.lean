import KeyGadget.Proofs.Alone
import KeyGadget.Proofs.Canonical
import KeyGadget.Proofs.FrontEnd
import KeyGadget.Proofs.ShellLine

/-!
# The tables of names

Names are looked up in a table of keys, a table of modifier keys and a list of long names. No name
is in both tables, and no long name stands in the way of a name of a table, so a key is found under
its own name in any ASCII case, by all that read names of keys.

## Main results

`Names.canonical_of_listed`: a name of a table is canonical in any ASCII case.

`names_reach_their_keys`: what is in the tables, and that all of it can be asked for.
-/
namespace KeyGadget

open Script (StartsKeys)
open Text (asciiUpper)

namespace Names

/-- What holds of all names in the tables. -/
theorem forall_listed {p : String → Prop} (keys : ∀ key ∈ Key.all, p key.name)
    (modifiers : ∀ entry ∈ Modifiers.named, p entry.1) {lower : String} (listed : Listed lower) :
    p lower := by
  rcases listed with ⟨key, rfl⟩ | ⟨held, named⟩
  · exact keys key key.mem_all
  · exact modifiers _ named

theorem Listed.asciiLower {lower : String} (listed : Listed lower) :
    Text.asciiLower lower.toList = lower.toList :=
  forall_listed (p := fun lower => Text.asciiLower lower.toList = lower.toList)
    (by decide +kernel) (by decide +kernel) listed

theorem Listed.lowered {lower : String} (listed : Listed lower) : lowered lower = lower := by
  rw [Names.lowered, Text.lowercase_of_ascii _ listed.ascii, listed.asciiLower,
    String.ofList_toList]

/-- A name in lower case of ASCII, whatever else is in it. -/
def asciiLowered (token : String) : String :=
  String.ofList (Text.asciiLower token.toList)

/-- A long name stands for itself in lower case, or else no table has that. -/
theorem own_or_unlisted :
    ∀ pair ∈ aliases, lowered pair.1 = pair.2 ∨ ¬ Listed (lowered pair.1) := by
  decide +kernel

/-- A name of a table that is a single character is typed as that key. -/
theorem Listed.not_contextual {lower : String} (listed : Listed lower) : ¬ Contextual lower := by
  rintro ⟨c, single, contextual⟩
  have found : sought? c ≠ none := by
    rw [← held?_of_char lower c single, listed.lowered, ne_eq, held?_eq_none_iff, not_not]
    exact listed
  -- Upper signs and blanks are in neither table, and the other two kinds are not in lower case.
  rcases contextual with upper | shifted | blank | sign
  · have same : c.toLower = c := by
      have whole := listed.asciiLower
      rw [single] at whole
      exact List.head_eq_of_cons_eq whole
    have range : 'A'.val ≤ c.val ∧ c.val ≤ 'Z'.val := of_decide_eq_true upper
    have letter : 65 ≤ c.toNat ∧ c.toNat ≤ 90 := range
    have moved := Text.toNat_toLower c
    rw [same, if_pos letter] at moved
    omega
  · exact found ((contrast c).sign shifted).2
  · exact found ((contrast c).blank blank).2
  · have ascii := listed.ascii c (by simp [single])
    rw [sign] at ascii
    exact absurd ascii (by decide)

theorem Listed.alone? {lower : String} (listed : Listed lower) : alone? lower = held? lower := by
  rw [(alone?_eq_held?_iff lower).mpr listed.not_contextual, listed.lowered]

theorem Listed.startsKeys {lower : String} (listed : Listed lower) : StartsKeys lower.toList := by
  obtain ⟨some, unbroken, unsigned, unremarked, unreserved⟩ :=
    forall_listed (p := fun lower => lower.toList ≠ [] ∧
      lower.toList.all (!Text.isBlank ·) = true ∧ lower.toList.head? ≠ some '#' ∧
      Text.sameAsciiCase (lower.toList.take 3) ['R', 'E', 'M'] = false ∧
      String.ofList (asciiUpper lower.toList) ∉ Script.keywords)
      (by decide +kernel) (by decide +kernel) listed
  exact ⟨Text.isWord_of_all some unbroken, unsigned, unremarked, unreserved⟩

/-! ### Names of the tables in any ASCII case -/

section token

variable {token : String}

theorem asciiLower_toList (token : String) :
    Text.asciiLower token.toList = (asciiLowered token).toList := by
  rw [asciiLowered, String.toList_ofList]

theorem ascii_of_listed (listed : Listed (asciiLowered token)) :
    ∀ c ∈ token.toList, c.toNat < 0x80 := by
  apply Text.ascii_of_asciiLower
  rw [asciiLower_toList]
  exact listed.ascii

theorem lowered_of_listed (listed : Listed (asciiLowered token)) :
    lowered token = asciiLowered token := by
  rw [lowered, Text.lowercase_of_ascii _ (ascii_of_listed listed), asciiLowered]

/-- A name of a table is canonical, in any ASCII case. -/
theorem canonical_of_listed (listed : Listed (asciiLowered token)) :
    canonical token = asciiLowered token := by
  rw [canonical_eq, lowered_of_listed listed]
  cases found : aliasOf? (raised token) with
  | none => rfl
  | some name =>
    -- The long name is the token in upper case, so it has the lowercase of the token.
    have own := own_or_unlisted _ ((aliasOf?_eq_some_iff _ _).mp found)
    rw [lowered_raised token (ascii_of_listed listed), lowered_of_listed listed] at own
    exact (own.resolve_right (not_not.mpr listed)).symm

/-- A long name has a canonical name that is in a table. -/
theorem listed_canonical (pair : String × String) (long : pair ∈ aliases)
    (same : asciiUpper token.toList = pair.1.toList) : Listed (canonical token) := by
  have all : ∀ pair ∈ aliases, Listed pair.2 := by decide +kernel
  have key : raised token = pair.1 := by rw [raised, same, String.ofList_toList]
  have found : aliasOf? (raised token) = some pair.2 := by
    rw [key]
    exact aliasOf?_listed pair long
  rw [canonical_eq, found]
  exact all pair long

/-- What makes a line of keys of a name does not depend on the case of its letters. -/
theorem startsKeys_of_listed (listed : Listed (asciiLowered token)) : StartsKeys token.toList := by
  have starts := listed.startsKeys
  rw [← asciiLower_toList] at starts
  refine ⟨⟨fun empty => starts.nonempty (by rw [empty]; rfl),
    Shell.unbroken_of_asciiLower starts.unbroken⟩, fun sign => starts.unsigned ?_, ?_, ?_⟩
  · rw [Text.asciiLower, List.head?_map, sign]
    rfl
  · rw [Bool.eq_false_iff]
    intro remark
    have lower : (Text.asciiLower token.toList).take 3 = Text.asciiLower ['R', 'E', 'M'] := by
      rw [Text.asciiLower, ← List.map_take]
      exact beq_iff_eq.mp remark
    have kept := starts.unremarked
    rw [lower] at kept
    exact absurd kept (by decide)
  · rw [← Text.asciiUpper_asciiLower]
    exact starts.unreserved

end token

end Names

/-! ### Asking for a key -/

theorem Plan.tap_of_listed (timing : Timing) {name : String} (listed : Names.Listed name)
    {stroke : Keystroke} (held : Names.held? name = some stroke) :
    Plan.tap timing name =
      .ok ⟨Plan.strokeActions stroke timing.keyPress timing.keyGap, stroke⟩ := by
  rw [Plan.tap, Plan.press, Names.resolve_eq, listed.alone?, held]
  simp only [Except.map, Modifiers.or_none]

namespace FrontEnd

/-- A request for a keystroke. -/
def pressing (timing : Timing) (stroke : Keystroke) : Except UnknownKey (Plan Keystroke) :=
  .ok ⟨Plan.strokeActions stroke timing.keyPress timing.keyGap, stroke⟩

/-- A token asks for a keystroke in a line of a script, in the shell and on the command line, and it
stands for the keystroke in a chord. -/
structure Reaches (token : String) (stroke : Keystroke) : Prop where
  script : ∀ (world : World) (timing : Timing) (past : List Happening), world.Steady →
    ScriptFollows world timing past (pressing timing stroke)
      (fun pressed => .pressed (Names.canonical token) pressed.modifiers) token
  shell : ∃ command, Shell.parse ("key " ++ token) = .ok command ∧
    ∀ (world : World) (machine : Cli.Machine Watched) (library : Library) (timing : Timing)
      (past : List Happening), Follows world past (pressing timing stroke) (fun _ => ()) silent
        (Cli.obey machine.watched ⟨world.watched, timing⟩ library command)
  program : ∀ (world : World) (timing : Timing) (past : List Happening),
    Follows world past (pressing timing stroke) (fun _ => ()) silent
      (Cli.pressNamed ⟨world.watched, timing⟩ token)
  chord : Names.chord [Names.canonical token] = .ok ⟨stroke.modifiers, stroke.key, []⟩

theorem reaches_of_listed {token : String} (listed : Names.Listed (Names.asciiLowered token))
    {stroke : Keystroke} (held : Names.held? (Names.asciiLowered token) = some stroke) :
    Reaches token stroke := by
  have starts := Names.startsKeys_of_listed listed
  have own := Names.canonical_of_listed listed
  have tap (timing : Timing) :
      Plan.tap timing (Names.canonical token) = pressing timing stroke := by
    rw [own]
    exact Plan.tap_of_listed timing listed held
  refine ⟨fun world timing past steady => ?_, ⟨_, Shell.parse_key token starts.toIsWord, ?_⟩,
    fun world timing past => ?_, ?_⟩
  · have parsed := Script.parse_words token [] starts (by simp)
    rw [String.intercalate_singleton] at parsed
    rw [← tap timing]
    exact (asks_key timing _).follows steady token parsed past
  · intro world machine library timing past
    rw [← tap timing]
    exact shell_key world machine library timing past _
  · rw [← tap timing]
    exact program_key world timing past token
  · rw [Names.chord_singleton, own, listed.lowered, held]

end FrontEnd

open FrontEnd (Reaches)

/-- **The tables of names are exact, and nothing in them is out of reach.** A name is that of one
key or of one modifier key and never of both. In any ASCII case it is canonical, and so the key can
be asked for by all that read names; long names stand for names of the tables. -/
theorem names_reach_their_keys :
    (∀ s key, Key.ofName? s = some key ↔ s = key.name) ∧
    (∀ s modifiers, Modifiers.ofName? s = some modifiers ↔ (s, modifiers) ∈ Modifiers.named) ∧
    (∀ (key : Key) modifiers, (key.name, modifiers) ∉ Modifiers.named) ∧
    (∀ token, Names.Listed (Names.asciiLowered token) →
      Names.canonical token = Names.asciiLowered token) ∧
    (∀ token : String, ∀ pair ∈ Names.aliases, Text.asciiUpper token.toList = pair.1.toList →
      Names.Listed (Names.canonical token)) ∧
    (∀ token (key : Key), Names.asciiLowered token = key.name →
      Reaches token ⟨.none, some key⟩) ∧
    ∀ token, ∀ entry ∈ Modifiers.named, Names.asciiLowered token = entry.1 →
      Reaches token ⟨entry.2, none⟩ := by
  refine ⟨fun s key => ?keys, Modifiers.ofName?_eq_some_iff, ?apart,
    fun token => Names.canonical_of_listed, fun token => Names.listed_canonical,
    fun token key same => ?key, fun token entry named same => ?modifier⟩
  case keys => rw [Key.ofName?_eq_some_iff, eq_comm]
  case apart =>
    intro key modifiers named
    have none := Names.ofName?_eq_none_of_modifier _ _
      ((Modifiers.ofName?_eq_some_iff _ _).mpr named)
    rw [Key.ofName?_name] at none
    cases none
  case key =>
    have listed : Names.Listed (Names.asciiLowered token) := .inl ⟨key, same.symm⟩
    refine FrontEnd.reaches_of_listed listed ?_
    rw [same, Names.held?, Key.ofName?_name]
  case modifier =>
    have listed : Names.Listed (Names.asciiLowered token) := .inr ⟨entry.2, same ▸ named⟩
    have found := (Modifiers.ofName?_eq_some_iff _ _).mpr named
    refine FrontEnd.reaches_of_listed listed ?_
    rw [same, Names.held?, Names.ofName?_eq_none_of_modifier _ _ found, found]
    rfl

/-- A key and a modifier key in mixed case, and a long name. -/
theorem names_reach_their_keys_mixed :
    Names.canonical "eSc" = "esc" ∧ Reaches "eSc" ⟨.none, some .escape⟩ ∧
    Reaches "Right_CTRL" ⟨.rightCtrl, none⟩ ∧ Names.Listed (Names.canonical "Windows") := by
  obtain ⟨-, -, -, own, long, keys, modifiers⟩ := names_reach_their_keys
  exact ⟨own "eSc" (by decide +kernel), keys "eSc" .escape (by decide +kernel),
    modifiers "Right_CTRL" ("right_ctrl", .rightCtrl) (by decide) (by decide +kernel),
    long "Windows" ("WINDOWS", "gui") (by decide) (by decide +kernel)⟩

end KeyGadget
