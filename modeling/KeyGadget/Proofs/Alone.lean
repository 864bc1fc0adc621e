import KeyGadget.Proofs.Reading
import KeyGadget.Proofs.Refusal

/-!
# Alone and in a chord

A name that stands alone is read in another way than the only token of a chord: a single character
is typed when it stands alone, while a token is always looked up in lower case. The two come to the
same for all names but single characters of four kinds: capital letters, upper signs, the blank, tab
and line feed, and the Kelvin sign.

## Main results

`Names.alone?_eq_held?_iff`: which names are read alike. `tap_and_combo_agree`: which names make no
difference to the device, and what it gets of the others.
-/
namespace KeyGadget

open Text (kelvin)

/-! ### What is typed and what is looked up -/

/-- The same key without modifier keys. -/
def Keystroke.bare (stroke : Keystroke) : Keystroke :=
  ⟨.none, stroke.key⟩

/-- The blanks that have a key of their own. -/
def Layout.blanks : List Char :=
  [' ', '\t', '\n']

/-- The characters that mean something else when they stand alone. -/
def Layout.Contextual (c : Char) : Prop :=
  c.isUpper = true ∨ (shiftedBase c).isSome = true ∨ c ∈ blanks ∨ c = kelvin

instance (c : Char) : Decidable (Layout.Contextual c) :=
  inferInstanceAs (Decidable (_ ∨ _))

namespace Names

/-- A name of one such character. -/
def Contextual (token : String) : Prop :=
  ∃ c, token.toList = [c] ∧ Layout.Contextual c

/-- The names in the tables are plain ASCII. -/
theorem Listed.ascii {lower : String} (listed : Listed lower) :
    ∀ c ∈ lower.toList, c.toNat < 0x80 := by
  rcases listed with ⟨key, rfl⟩ | ⟨modifiers, named⟩
  · exact Layout.name_ascii key
  · have all : ∀ entry ∈ Modifiers.named, entry.1.toList.all (·.toNat < 0x80) = true := by decide
    simpa using all _ named

/-- What is looked up for a single character. -/
def sought? (c : Char) : Option Keystroke :=
  held? (lowered (String.singleton c))

/-- How what a character types differs from what is looked up for it. -/
structure Contrast (c : Char) : Prop where
  capital : c.isUpper = true →
    (Layout.strokeFor c).map (·.modifiers) = some .shift ∧
      sought? c = (Layout.strokeFor c).map Keystroke.bare
  sign : (Layout.shiftedBase c).isSome = true →
    (Layout.strokeFor c).map (·.modifiers) = some .shift ∧ sought? c = none
  blank : c ∈ Layout.blanks →
    (Layout.strokeFor c).map (·.modifiers) = some .none ∧ sought? c = none
  kelvin : c = Text.kelvin →
    Layout.strokeFor c = none ∧ sought? c = some ⟨.none, some .keyK⟩
  other : ¬ Layout.Contextual c → Layout.strokeFor c = sought? c

private theorem contrast_ascii (n : Fin 0x80) : Contrast (Char.ofNat n) := by
  -- Each kind is gone through by itself, because the tables are looked up for its members only.
  have capital : ∀ n : Fin 0x80, (Char.ofNat n).isUpper = true →
      (Layout.strokeFor (Char.ofNat n)).map (·.modifiers) = some .shift ∧
        sought? (Char.ofNat n) = (Layout.strokeFor (Char.ofNat n)).map Keystroke.bare := by
    decide +kernel
  have sign : ∀ n : Fin 0x80, (Layout.shiftedBase (Char.ofNat n)).isSome = true →
      (Layout.strokeFor (Char.ofNat n)).map (·.modifiers) = some .shift ∧
        sought? (Char.ofNat n) = none := by
    decide +kernel
  have blank : ∀ n : Fin 0x80, Char.ofNat n ∈ Layout.blanks →
      (Layout.strokeFor (Char.ofNat n)).map (·.modifiers) = some .none ∧
        sought? (Char.ofNat n) = none := by
    decide +kernel
  have below : ∀ n : Fin 0x80, Char.ofNat n ≠ Text.kelvin := by decide
  have other : ∀ n : Fin 0x80, ¬ Layout.Contextual (Char.ofNat n) →
      Layout.strokeFor (Char.ofNat n) = sought? (Char.ofNat n) := by
    decide +kernel
  exact ⟨capital n, sign n, blank n, fun same => absurd same (below n), other n⟩

/-- Nothing is typed beyond ASCII, and nothing is found there but the key for the Kelvin sign. -/
private theorem contrast_beyond (c : Char) (beyond : 0x80 ≤ c.toNat) : Contrast c := by
  have keyless : Layout.keyFor c = none := by
    rw [← Option.not_isSome_iff_eq_none]
    intro has
    have ascii := Layout.keyFor_ascii c has
    omega
  have untyped : Layout.strokeFor c = none := by rw [Layout.strokeFor, keyless, Option.map_none]
  refine ⟨fun upper => ?_, fun shifted => ?_, fun blank => ?_, ?_, fun plain => ?_⟩
  · have ascii := Layout.isUpper_ascii c upper
    omega
  · have ascii := Layout.shiftedBase_ascii c shifted
    omega
  · have ascii : Layout.blanks.all (·.toNat < 0x80) = true := by decide
    have below : c.toNat < 0x80 := of_decide_eq_true (List.all_eq_true.mp ascii c blank)
    omega
  · rintro rfl
    exact ⟨untyped, by decide +kernel⟩
  · -- The lowercase has something beyond ASCII in it, so it is in neither table.
    have noKelvin : c ≠ Text.kelvin := fun same => plain (.inr (.inr (.inr same)))
    have single : c ∈ [c] := List.mem_singleton_self c
    obtain ⟨d, member, above⟩ := Text.exists_beyond_of_mem [c] c single beyond noKelvin
    have letters : (lowered (String.singleton c)).toList = Text.lowercase [c] := by
      rw [lowered, String.toList_ofList, String.toList_singleton]
    rw [untyped, eq_comm, sought?, held?_eq_none_iff]
    intro listed
    have below := listed.ascii d (by rwa [letters])
    omega

theorem contrast (c : Char) : Contrast c := by
  by_cases ascii : c.toNat < 0x80
  · exact Text.forall_ascii contrast_ascii c ascii
  · exact contrast_beyond c (by omega)

theorem held?_of_char (token : String) (c : Char) (single : token.toList = [c]) :
    held? (lowered token) = sought? c := by
  have same : token = String.singleton c := by
    rw [← String.toList_inj, single, String.toList_singleton]
  rw [sought?, same]

/-- A character types what is looked up for it, unless it is one of the four kinds. -/
theorem strokeFor_eq_sought?_iff (c : Char) :
    Layout.strokeFor c = sought? c ↔ ¬ Layout.Contextual c := by
  have contrast := contrast c
  refine ⟨fun same kind => ?_, contrast.other⟩
  rcases kind with upper | shifted | blank | sign
  · -- The shift key is held for the one and not for the other.
    obtain ⟨held, bare⟩ := contrast.capital upper
    obtain ⟨stroke, typed, shift⟩ := Option.map_eq_some_iff.mp held
    rw [← same, typed, Option.map_some, Option.some.injEq] at bare
    rw [bare] at shift
    have apart : Modifiers.none ≠ .shift := by decide
    exact absurd shift apart
  · obtain ⟨held, nothing⟩ := contrast.sign shifted
    rw [same, nothing] at held
    cases held
  · obtain ⟨held, nothing⟩ := contrast.blank blank
    rw [same, nothing] at held
    cases held
  · obtain ⟨untyped, found⟩ := contrast.kelvin sign
    rw [← same, untyped] at found
    cases found

/-- A name is read alike in both places, unless it is one character of the four kinds. -/
theorem alone?_eq_held?_iff (token : String) :
    alone? token = held? (lowered token) ↔ ¬ Contextual token := by
  by_cases one : token.toList.length = 1
  · obtain ⟨c, single⟩ := List.length_eq_one_iff.mp one
    rw [alone?_of_char token c single, held?_of_char token c single, strokeFor_eq_sought?_iff,
      Contextual, single]
    simp
  · have several : ¬ Contextual token := by
      rintro ⟨c, single, -⟩
      exact one (by rw [single]; rfl)
    exact iff_of_true (alone?_of_word token one) several

end Names

/-! ### What the device gets -/

theorem Key.usage_inj {key other : Key} (same : key.usage = other.usage) : key = other := by
  have read := ofUsage?_usage key
  rw [same, ofUsage?_usage other] at read
  exact (Option.some.inj read).symm

/-- Different keystrokes are different reports. -/
theorem Report.press_inj {stroke other : Keystroke} (same : press stroke = press other) :
    stroke = other := by
  obtain ⟨modifiers, key⟩ := stroke
  obtain ⟨modifiers', key'⟩ := other
  have held : modifiers = modifiers' := congrArg Report.modifiers same
  have usage := congrArg Report.usage same
  -- No key has the number zero, which stands in the report if there is no key.
  have keyed : key = key' := by
    cases key with
    | none =>
      cases key' with
      | none => rfl
      | some key' => exact absurd usage.symm key'.usage_ne_zero
    | some key =>
      cases key' with
      | none => exact absurd usage key.usage_ne_zero
      | some key' => exact congrArg some (Key.usage_inj usage)
  rw [held, keyed]

theorem Plan.strokeActions_eq (stroke : Keystroke) (hold gap : Nat) :
    Plan.strokeActions stroke hold gap =
      [.check, .write (.press stroke), .sleep hold, .write .release] ++
        (Script.delayWaits gap).map .sleep := by
  rw [Plan.strokeActions, Script.delayWaits]
  split <;> rfl

namespace World

/-- An operation succeeds, and all that is written is a keystroke: its press and its release. -/
structure Sends (world : World) (timing : Timing) (delay : Nat) (past : List Happening)
    (operation : Operation) (stroke : Keystroke) : Prop where
  reply : (world.operate timing delay operation past).1.1.failure = none
  attempts : Happening.attempts (world.operate timing delay operation past).2 =
    Happening.attempts past ++ [⟨.press stroke, .ok ()⟩, ⟨.release, .ok ()⟩]

/-- An operation is refused for an unknown name, and nothing happens. -/
structure Refuses (world : World) (timing : Timing) (delay : Nat) (past : List Happening)
    (operation : Operation) : Prop where
  reply : ∃ error, (world.operate timing delay operation past).1.1.failure =
    some (.unknownKey error)
  quiet : (world.operate timing delay operation past).2 = past

/-- Two operations send the same keystroke, or both are refused. -/
def Agree (world : World) (timing : Timing) (delay : Nat) (past : List Happening)
    (first second : Operation) : Prop :=
  (∃ stroke, world.Sends timing delay past first stroke ∧
    world.Sends timing delay past second stroke) ∨
  world.Refuses timing delay past first ∧ world.Refuses timing delay past second

variable {world : World} {timing : Timing} {delay : Nat} {past : List Happening}

theorem Sends.unique {operation : Operation} {stroke other : Keystroke}
    (sends : world.Sends timing delay past operation stroke)
    (sends' : world.Sends timing delay past operation other) : stroke = other := by
  have same := sends.attempts
  rw [sends'.attempts, List.append_cancel_left_eq, List.cons.injEq, Attempt.mk.injEq] at same
  exact (Report.press_inj same.1.1).symm

theorem Sends.not_refuses {operation : Operation} {stroke : Keystroke}
    (sends : world.Sends timing delay past operation stroke) :
    ¬ world.Refuses timing delay past operation := by
  intro refuses
  obtain ⟨error, told⟩ := refuses.reply
  rw [sends.reply] at told
  cases told

theorem Sends.agree_iff {first second : Operation} {stroke : Keystroke}
    (sends : world.Sends timing delay past first stroke) :
    world.Agree timing delay past first second ↔ world.Sends timing delay past second stroke := by
  constructor
  · rintro (⟨other, sends', same⟩ | ⟨refuses, -⟩)
    · rwa [sends.unique sends']
    · exact absurd refuses sends.not_refuses
  · exact fun same => .inl ⟨stroke, sends, same⟩

theorem Refuses.agree_iff {first second : Operation}
    (refuses : world.Refuses timing delay past first) :
    world.Agree timing delay past first second ↔ world.Refuses timing delay past second := by
  constructor
  · rintro (⟨other, sends, -⟩ | ⟨-, same⟩)
    · exact absurd refuses sends.not_refuses
    · exact same
  · exact fun same => .inr ⟨refuses, same⟩

theorem refuses_of_misses {operation : Operation} {error : UnknownKey}
    (misses : operation.Misses error) : world.Refuses timing delay past operation where
  reply := ⟨error, (operate_unknown_iff world timing delay operation past error).mpr misses⟩
  quiet := operate_misses world timing delay operation past error misses

theorem tap_refuses (name : String) (found : Names.alone? name = none) :
    world.Refuses timing delay past (.tap name) :=
  refuses_of_misses ⟨(Names.alone?_eq_none_iff name).mp found, rfl⟩

theorem combo_refuses (token : String) (found : Names.held? (Names.lowered token) = none) :
    world.Refuses timing delay past (.combo [token]) := by
  have unlisted := (Names.held?_eq_none_iff _).mp found
  exact refuses_of_misses ⟨fun other member => List.mem_singleton.mp member ▸ unlisted, rfl⟩

section willing

variable (takes : ∀ past report, world.answer past report = .ok ()) (up : world.going past = true)

include takes up

/-- A keystroke is sent if the flag is up and the device takes all reports. -/
theorem sends_of_actions {operation : Operation} {stroke : Keystroke} {hold gap : Nat}
    (actions : operation.actions timing delay = Plan.strokeActions stroke hold gap)
    (promised : (operation.promise timing delay).1.failure = none) :
    world.Sends timing delay past operation stroke := by
  have grants : world.Grants past (.press stroke) hold := ⟨up, takes _ _, takes _ _⟩
  have performed : world.perform (operation.actions timing delay) past =
      (.ok (), past ++ [.look true, .write (.press stroke) (.ok ()), .sleep hold,
        .write .release (.ok ())] ++ (Script.delayWaits gap).map .sleep) := by
    have waits := world.perform_waits (Script.delayWaits gap) [] (past ++ [.look true,
      .write (.press stroke) (.ok ()), .sleep hold, .write .release (.ok ())])
    rw [List.append_nil, perform_nil] at waits
    rw [actions, Plan.strokeActions_eq, perform_append, grants.perform]
    exact waits
  have operated := operate_ok world timing delay operation past _ performed
  constructor
  · rw [operated, promised]
  · rw [operated]
    simp

theorem tap_sends (name : String) (stroke : Keystroke)
    (found : Names.alone? name = some stroke) :
    world.Sends timing delay past (.tap name) stroke := by
  have plan : Plan.tap timing name =
      .ok ⟨Plan.strokeActions stroke timing.keyPress timing.keyGap, stroke⟩ := by
    rw [Plan.tap, Plan.press, Names.resolve_eq, found]
    dsimp only [Except.map]
    rw [Modifiers.or_none]
  have actions : Operation.actions timing delay (.tap name) =
      Plan.strokeActions stroke timing.keyPress timing.keyGap := by
    rw [Operation.actions, plan, Plan.actionsOf]
  have promised : (Operation.promise timing delay (.tap name)).1.failure = none := by
    rw [Operation.promise, plan]
    rfl
  exact sends_of_actions takes up actions promised

theorem combo_sends (token : String) (stroke : Keystroke)
    (found : Names.held? (Names.lowered token) = some stroke) :
    world.Sends timing delay past (.combo [token]) stroke := by
  have plan : Plan.combo timing [token] =
      .ok ⟨Plan.strokeActions stroke timing.comboHold 0, ⟨stroke.modifiers, stroke.key, []⟩⟩ := by
    rw [Plan.combo, Names.chord_singleton, found]
    rfl
  have actions : Operation.actions timing delay (.combo [token]) =
      Plan.strokeActions stroke timing.comboHold 0 := by
    rw [Operation.actions, plan, Plan.actionsOf]
  have promised : (Operation.promise timing delay (.combo [token])).1.failure = none := by
    rw [Operation.promise, plan]
    rfl
  exact sends_of_actions takes up actions promised

theorem combo_sends_iff (token : String) (stroke : Keystroke) :
    world.Sends timing delay past (.combo [token]) stroke ↔
      Names.held? (Names.lowered token) = some stroke := by
  refine ⟨fun sends => ?_, combo_sends takes up token stroke⟩
  cases found : Names.held? (Names.lowered token) with
  | none => exact absurd (combo_refuses token found) sends.not_refuses
  | some other => rw [sends.unique (combo_sends takes up token other found)]

theorem combo_refuses_iff (token : String) :
    world.Refuses timing delay past (.combo [token]) ↔
      Names.held? (Names.lowered token) = none := by
  refine ⟨fun refuses => ?_, combo_refuses token⟩
  cases found : Names.held? (Names.lowered token) with
  | none => rfl
  | some stroke => exact absurd refuses (combo_sends takes up token stroke found).not_refuses

/-- Two requests for a name look alike if the name is read alike in both. -/
theorem agree_iff (token : String) :
    world.Agree timing delay past (.tap token) (.combo [token]) ↔
      Names.alone? token = Names.held? (Names.lowered token) := by
  cases alone : Names.alone? token with
  | none => rw [(tap_refuses token alone).agree_iff, combo_refuses_iff takes up, eq_comm]
  | some stroke =>
    rw [(tap_sends takes up token stroke alone).agree_iff, combo_sends_iff takes up, eq_comm]

end willing

end World

/-- **A name alone and in a chord.** On a device that takes all reports, with the flag up, a name
that is tapped and a name that is the only token of a chord are the same press, or both are refused,
unless the name is a single character of four kinds. A capital letter is pressed with the shift key
when it is tapped, and without it in a chord. An upper sign and a blank are pressed when they are
tapped, the sign with the shift key, and refused in a chord. The Kelvin sign is refused when it is
tapped, and is the key K in a chord. -/
theorem tap_and_combo_agree (world : World) (timing : Timing) (delay : Nat)
    (past : List Happening) (takes : ∀ past report, world.answer past report = .ok ())
    (up : world.going past = true) (token : String) :
    let tap : Operation := .tap token
    let combo : Operation := .combo [token]
    (world.Agree timing delay past tap combo ↔ ¬ Names.Contextual token) ∧
    ∀ c, token.toList = [c] →
      (c.isUpper = true → ∃ stroke, stroke.modifiers = .shift ∧
        world.Sends timing delay past tap stroke ∧
        world.Sends timing delay past combo stroke.bare) ∧
      ((Layout.shiftedBase c).isSome = true → ∃ stroke, stroke.modifiers = .shift ∧
        world.Sends timing delay past tap stroke ∧ world.Refuses timing delay past combo) ∧
      (c ∈ Layout.blanks → ∃ stroke, stroke.modifiers = .none ∧
        world.Sends timing delay past tap stroke ∧ world.Refuses timing delay past combo) ∧
      (c = kelvin → world.Refuses timing delay past tap ∧
        world.Sends timing delay past combo ⟨.none, some .keyK⟩) := by
  intro tap combo
  refine ⟨?_, fun c single => ?_⟩
  · rw [World.agree_iff takes up token, Names.alone?_eq_held?_iff]
  -- What a single character is alone and in a chord is known, and is sent in both places.
  have contrast := Names.contrast c
  have alone := Names.alone?_of_char token c single
  have held := Names.held?_of_char token c single
  refine ⟨fun upper => ?_, fun shifted => ?_, fun blank => ?_, fun sign => ?_⟩
  · obtain ⟨shift, bare⟩ := contrast.capital upper
    obtain ⟨stroke, typed, shift⟩ := Option.map_eq_some_iff.mp shift
    rw [typed, Option.map_some] at bare
    exact ⟨stroke, shift, World.tap_sends takes up token stroke (alone.trans typed),
      World.combo_sends takes up token stroke.bare (held.trans bare)⟩
  · obtain ⟨shift, nothing⟩ := contrast.sign shifted
    obtain ⟨stroke, typed, shift⟩ := Option.map_eq_some_iff.mp shift
    exact ⟨stroke, shift, World.tap_sends takes up token stroke (alone.trans typed),
      World.combo_refuses token (held.trans nothing)⟩
  · obtain ⟨unheld, nothing⟩ := contrast.blank blank
    obtain ⟨stroke, typed, unheld⟩ := Option.map_eq_some_iff.mp unheld
    exact ⟨stroke, unheld, World.tap_sends takes up token stroke (alone.trans typed),
      World.combo_refuses token (held.trans nothing)⟩
  · obtain ⟨untyped, found⟩ := contrast.kelvin sign
    exact ⟨World.tap_refuses token (alone.trans untyped),
      World.combo_sends takes up token _ (held.trans found)⟩

/-- The flag may fall between press and release. -/
theorem tap_and_combo_agree_kelvin :
    let world := World.calm.endedAfter 1
    world.Agree .standard 0 [] (.tap "Right_Alt") (.combo ["Right_Alt"]) ∧
    ¬ world.Agree .standard 0 [] (.tap "A") (.combo ["A"]) ∧
    world.Refuses .standard 0 [] (.tap "\u212A") ∧
    world.Sends .standard 0 [] (.combo ["\u212A"]) ⟨.none, some .keyK⟩ := by
  intro world
  have takes : ∀ past report, world.answer past report = .ok () := fun _ _ => rfl
  have up : world.going [] = true := rfl
  have word : ¬ Names.Contextual "Right_Alt" := by
    rintro ⟨c, single, -⟩
    have one : "Right_Alt".toList.length = 1 := by rw [single, List.length_singleton]
    exact absurd one (by decide)
  have capital : Names.Contextual "A" := ⟨'A', by decide, .inl (by decide)⟩
  have kelvin := (tap_and_combo_agree world .standard 0 [] takes up "\u212A").2 kelvin (by decide)
  exact ⟨(tap_and_combo_agree world .standard 0 [] takes up "Right_Alt").1.mpr word,
    fun alike => (tap_and_combo_agree world .standard 0 [] takes up "A").1.mp alike capital,
    kelvin.2.2.2 rfl⟩

end KeyGadget
