import KeyGadget.Proofs.Operation
import Mathlib.Data.List.Basic

/-!
# Chords

Tokens that are pressed at once are modifier keys, which add up, keys, of which the last one counts,
and words that are neither. What is sent depends only on which modifier keys there are and on the
keys in their order, so the tokens may be written in other ways without a difference to the device.

## Main results

`Names.chord_eq` is what a list of tokens comes to, `Restated.sameHeld` says which changes of the
list are not seen, and `combo_merges_tokens` is what happens when the tokens are sent.
-/
namespace KeyGadget

namespace Modifiers

/-- The keys held in any of several sets. -/
def union (sets : List Modifiers) : Modifiers :=
  sets.foldr (· ||| ·) none

theorem ext_bits {m other : Modifiers} (same : m.bits = other.bits) : m = other := by
  cases m
  cases other
  exact congrArg mk same

theorem or_comm (m other : Modifiers) : m ||| other = other ||| m :=
  ext_bits (UInt8.or_comm _ _)

theorem or_assoc (m other third : Modifiers) : m ||| other ||| third = m ||| (other ||| third) :=
  ext_bits (UInt8.or_assoc _ _ _)

theorem or_self (m : Modifiers) : m ||| m = m :=
  ext_bits UInt8.or_self

@[simp] theorem none_or (m : Modifiers) : none ||| m = m :=
  ext_bits UInt8.zero_or

@[simp] theorem or_none (m : Modifiers) : m ||| none = m :=
  ext_bits UInt8.or_zero

@[simp] theorem union_nil : union [] = none := rfl

@[simp] theorem union_cons (m : Modifiers) (sets : List Modifiers) :
    union (m :: sets) = m ||| union sets := rfl

theorem union_append (first second : List Modifiers) :
    union (first ++ second) = union first ||| union second := by
  induction first with
  | nil => simp
  | cons m rest ih => rw [List.cons_append, union_cons, union_cons, ih, or_assoc]

theorem or_union_of_mem (m : Modifiers) (sets : List Modifiers) (member : m ∈ sets) :
    m ||| union sets = union sets := by
  induction sets with
  | nil => cases member
  | cons other rest ih =>
    rcases List.mem_cons.mp member with rfl | behind
    · rw [union_cons, ← or_assoc, or_self]
    · rw [union_cons, ← or_assoc, or_comm m, or_assoc, ih behind]

theorem union_or_of_subset (first second : List Modifiers) (inside : first ⊆ second) :
    union first ||| union second = union second := by
  induction first with
  | nil => simp
  | cons m rest ih =>
    obtain ⟨member, others⟩ := List.cons_subset.mp inside
    rw [union_cons, or_assoc, ih others, or_union_of_mem m second member]

/-- Neither the order nor the number of times that a set is given makes a difference. -/
theorem union_eq_of_mem_iff (first second : List Modifiers)
    (same : ∀ m, m ∈ first ↔ m ∈ second) : union first = union second := by
  calc union first = union second ||| union first :=
        (union_or_of_subset second first fun m => (same m).mpr).symm
    _ = union first ||| union second := or_comm _ _
    _ = union second := union_or_of_subset first second fun m => (same m).mp

end Modifiers

namespace Names

/-! ### Three kinds of tokens -/

/-- The modifier keys among tokens. -/
def modifiersOf (tokens : List String) : List Modifiers :=
  tokens.filterMap fun token => Modifiers.ofName? (lowered token)

/-- The other keys among tokens, in their order. -/
def keysOf (tokens : List String) : List Key :=
  tokens.filterMap fun token => Key.ofName? (lowered token)

/-- The tokens that name nothing, in lower case and in their order. -/
def unknownOf (tokens : List String) : List String :=
  (tokens.map lowered).filter fun lower => !isKnown lower

@[simp] theorem modifiersOf_append (first second : List String) :
    modifiersOf (first ++ second) = modifiersOf first ++ modifiersOf second :=
  List.filterMap_append

@[simp] theorem keysOf_append (first second : List String) :
    keysOf (first ++ second) = keysOf first ++ keysOf second :=
  List.filterMap_append

@[simp] theorem unknownOf_append (first second : List String) :
    unknownOf (first ++ second) = unknownOf first ++ unknownOf second := by
  simp [unknownOf]

theorem modifiersOf_cons (token : String) (rest : List String) :
    modifiersOf (token :: rest) = modifiersOf [token] ++ modifiersOf rest :=
  modifiersOf_append [token] rest

theorem keysOf_cons (token : String) (rest : List String) :
    keysOf (token :: rest) = keysOf [token] ++ keysOf rest :=
  keysOf_append [token] rest

theorem unknownOf_cons (token : String) (rest : List String) :
    unknownOf (token :: rest) = unknownOf [token] ++ unknownOf rest :=
  unknownOf_append [token] rest

/-- No modifier key has the name of another key. -/
theorem ofName?_eq_none_of_modifier (lower : String) (modifiers : Modifiers)
    (found : Modifiers.ofName? lower = some modifiers) : Key.ofName? lower = none := by
  obtain ⟨entry, listed, -⟩ := Option.map_eq_some_iff.mp found
  have same : entry.1 = lower := by simpa using List.find?_some listed
  have apart : ∀ entry ∈ Modifiers.named, Key.ofName? entry.1 = none := by decide
  rw [← same]
  exact apart entry (List.mem_of_find?_eq_some listed)

/-- One more token adds what a list of this token alone has in it. -/
theorem add_lowered (chord : Chord) (token : String) :
    chord.add (lowered token) =
      ⟨chord.modifiers ||| Modifiers.union (modifiersOf [token]),
        (keysOf [token]).getLast?.or chord.key, chord.unknown ++ unknownOf [token]⟩ := by
  unfold Chord.add
  split
  next modifiers found =>
    have noKey := ofName?_eq_none_of_modifier _ _ found
    simp [modifiersOf, keysOf, unknownOf, isKnown, found, noKey]
  next key noModifier found =>
    simp [modifiersOf, keysOf, unknownOf, isKnown, noModifier, found]
  next noModifier noKey =>
    simp [modifiersOf, keysOf, unknownOf, isKnown, noModifier, noKey]

theorem foldl_add (tokens : List String) (chord : Chord) :
    (tokens.map lowered).foldl Chord.add chord =
      ⟨chord.modifiers ||| Modifiers.union (modifiersOf tokens),
        (keysOf tokens).getLast?.or chord.key, chord.unknown ++ unknownOf tokens⟩ := by
  -- A token is an addition to the chord of those before it.
  induction tokens generalizing chord with
  | nil => simp [modifiersOf, keysOf, unknownOf]
  | cons token rest ih =>
    rw [List.map_cons, List.foldl_cons, ih, add_lowered, modifiersOf_cons token rest,
      keysOf_cons token rest, unknownOf_cons token rest, Modifiers.union_append,
      Modifiers.or_assoc, List.getLast?_append, List.append_assoc, Option.or_assoc]

/-- What tokens come to when all are pressed at once. -/
theorem chord_eq (tokens : List String) :
    chord tokens =
      if (tokens.map lowered).any isKnown then
        .ok ⟨Modifiers.union (modifiersOf tokens), (keysOf tokens).getLast?, unknownOf tokens⟩
      else .error ⟨(tokens.map lowered).headD ""⟩ := by
  rw [chord, foldl_add]
  simp

/-! ### Changes that are not seen -/

/-- Tokens that name the same modifier keys, and the same keys in the same order. -/
structure SameHeld (tokens others : List String) : Prop where
  modifiers : ∀ m, m ∈ modifiersOf tokens ↔ m ∈ modifiersOf others
  keys : keysOf tokens = keysOf others

theorem isKnown_iff (token : String) :
    isKnown (lowered token) = true ↔ modifiersOf [token] ≠ [] ∨ keysOf [token] ≠ [] := by
  rw [isKnown, Bool.or_eq_true]
  cases modifier : Modifiers.ofName? (lowered token) <;>
    cases key : Key.ofName? (lowered token) <;>
    simp [modifiersOf, keysOf, modifier, key]

theorem any_isKnown_iff (tokens : List String) :
    (tokens.map lowered).any isKnown = true ↔ modifiersOf tokens ≠ [] ∨ keysOf tokens ≠ [] := by
  induction tokens with
  | nil => simp [modifiersOf, keysOf]
  | cons token rest ih =>
    rw [List.map_cons, List.any_cons, Bool.or_eq_true, ih, isKnown_iff,
      modifiersOf_cons token rest, keysOf_cons token rest]
    simp only [ne_eq, List.append_eq_nil_iff, not_and_or]
    exact or_or_or_comm

/-- Other ways to write tokens: the tokens in another order, in which the keys stand as they stood,
one more token for a modifier key that is named already, or one more that names nothing. -/
inductive Restated : List String → List String → Prop
  | reordered {tokens others : List String} (perm : tokens.Perm others)
    (keys : keysOf tokens = keysOf others) : Restated tokens others
  | repeated {before behind : List String} {token : String} {modifiers : Modifiers}
    (names : Modifiers.ofName? (lowered token) = some modifiers)
    (present : modifiers ∈ modifiersOf (before ++ behind)) :
    Restated (before ++ behind) (before ++ token :: behind)
  | extended {before behind : List String} {token : String}
    (unknown : isKnown (lowered token) = false) :
    Restated (before ++ behind) (before ++ token :: behind)
  | again {tokens middle others : List String} (first : Restated tokens middle)
    (second : Restated middle others) : Restated tokens others

theorem Restated.sameHeld {tokens others : List String} (restated : Restated tokens others) :
    SameHeld tokens others := by
  induction restated with
  | reordered perm keys => exact ⟨fun m => (perm.filterMap _).mem_iff, keys⟩
  | @repeated before behind token modifiers names present =>
    -- The modifier key is there already, and the token is no other key.
    have own : modifiersOf [token] = [modifiers] := by simp [modifiersOf, names]
    have noKey : keysOf [token] = [] := by
      simp [keysOf, ofName?_eq_none_of_modifier _ _ names]
    constructor
    · intro m
      rw [modifiersOf_append, modifiersOf_append, modifiersOf_cons token behind, own]
      simp only [modifiersOf_append, List.mem_append, List.mem_singleton] at present ⊢
      constructor
      · exact Or.imp_right .inr
      · rintro (front | rfl | back)
        · exact .inl front
        · exact present
        · exact .inr back
    · rw [keysOf_append, keysOf_append, keysOf_cons token behind, noKey, List.nil_append]
  | @extended before behind token unknown =>
    -- Neither list gets longer.
    have nothing := (isKnown_iff token).not.mp (by simp [unknown])
    rw [not_or, not_not, not_not] at nothing
    obtain ⟨noModifier, noKey⟩ := nothing
    constructor
    · intro m
      rw [modifiersOf_append, modifiersOf_append, modifiersOf_cons token behind, noModifier,
        List.nil_append]
    · rw [keysOf_append, keysOf_append, keysOf_cons token behind, noKey, List.nil_append]
  | again first second ih ih' =>
    exact ⟨fun m => (ih.modifiers m).trans (ih'.modifiers m), ih.keys.trans ih'.keys⟩

/-- The report for tokens that are held together. -/
def report (tokens : List String) : Report :=
  let key := ((keysOf tokens).getLast?.map Key.usage).getD 0
  ⟨#v[(Modifiers.union (modifiersOf tokens)).bits, 0, key, 0, 0, 0, 0, 0]⟩

theorem press_chord (tokens : List String) :
    Report.press ⟨Modifiers.union (modifiersOf tokens), (keysOf tokens).getLast?⟩ =
      report tokens := by
  rw [Report.press, report]
  cases (keysOf tokens).getLast? <;> rfl

/-- The actions for tokens, if any of them is known. -/
theorem combo_actions_eq (timing : Timing) (tokens : List String) :
    Plan.actionsOf (Plan.combo timing tokens) =
      if (tokens.map lowered).any isKnown then
        [.check, .write (report tokens), .sleep timing.comboHold, .write .release]
      else [] := by
  rw [Plan.combo, chord_eq]
  split
  next known =>
    rw [← press_chord]
    rfl
  next => rfl

theorem SameHeld.report_eq {tokens others : List String} (same : SameHeld tokens others) :
    report tokens = report others := by
  rw [report, report, same.keys, Modifiers.union_eq_of_mem_iff _ _ same.modifiers]

theorem SameHeld.any_isKnown {tokens others : List String} (same : SameHeld tokens others) :
    (tokens.map lowered).any isKnown = (others.map lowered).any isKnown := by
  rw [Bool.eq_iff_iff, any_isKnown_iff, any_isKnown_iff, same.keys]
  have none : modifiersOf tokens = [] ↔ modifiersOf others = [] := by
    simp only [List.eq_nil_iff_forall_not_mem, same.modifiers]
  simp only [ne_eq, none]

end Names

namespace World

open Names

/-- The flag is up, and the device takes a press that is held for some time and its release. -/
structure Grants (world : World) (past : List Happening) (press : Report) (hold : Nat) : Prop where
  up : world.going past = true
  pressed : world.answer (past ++ [.look true]) press = .ok ()
  released :
    world.answer (past ++ [.look true, .write press (.ok ()), .sleep hold]) .release = .ok ()

theorem Grants.perform {world : World} {past : List Happening} {press : Report} {hold : Nat}
    (grants : world.Grants past press hold) :
    world.perform [.check, .write press, .sleep hold, .write .release] past =
      (.ok (), past ++ [.look true, .write press (.ok ()), .sleep hold,
        .write .release (.ok ())]) := by
  have pressed := grants.pressed
  have released := grants.released
  -- Each answer is the one for all that happened before, so the three are used one by one.
  rw [perform_look world _ past grants.up, perform_cons]
  simp only [respond, pressed, Happening.failure]
  rw [perform_sleep, perform_cons]
  simp only [List.append_assoc, List.cons_append, List.nil_append, respond, released,
    Happening.failure, perform_nil]

theorem operate_known (world : World) (timing : Timing) (delay : Nat) (tokens : List String)
    (past : List Happening) (known : (tokens.map lowered).any isKnown = true)
    (grants : world.Grants past (report tokens) timing.comboHold) :
    world.operate timing delay (.combo tokens) past =
      ((.chord (.ok ⟨Modifiers.union (modifiersOf tokens), (keysOf tokens).getLast?,
          unknownOf tokens⟩), delay),
        past ++ [.look true, .write (report tokens) (.ok ()), .sleep timing.comboHold,
          .write .release (.ok ())]) := by
  have performed := grants.perform
  have actions := combo_actions_eq timing tokens
  rw [if_pos known] at actions
  rw [← actions] at performed
  rw [operate_ok world timing delay (.combo tokens) past _ performed, Operation.promise,
    Plan.combo, chord_eq, if_pos known]
  rfl

theorem operate_unknown (world : World) (timing : Timing) (delay : Nat) (tokens : List String)
    (past : List Happening) (unknown : (tokens.map lowered).any isKnown = false) :
    world.operate timing delay (.combo tokens) past =
      ((.chord (.error (.unknownKey ⟨(tokens.map lowered).headD ""⟩)), delay), past) := by
  have actions := combo_actions_eq timing tokens
  rw [unknown, if_neg Bool.false_ne_true] at actions
  -- There is no action at all, so the world is not even asked.
  have performed : world.perform (Operation.actions timing delay (.combo tokens)) past =
      (.ok (), past) := by
    rw [Operation.actions, actions, perform_nil]
  rw [operate_ok world timing delay (.combo tokens) past _ performed, Operation.promise,
    Plan.combo, chord_eq, unknown]
  rfl

/-- Whatever the world does, it cannot tell one way to write the tokens from another. -/
theorem operate_restated (world : World) (timing : Timing) (delay : Nat)
    (tokens others : List String) (past : List Happening) (restated : Restated tokens others) :
    (world.operate timing delay (.combo others) past).2 =
      (world.operate timing delay (.combo tokens) past).2 := by
  have same := restated.sameHeld
  rw [operate_history, operate_history, Operation.actions, Operation.actions, combo_actions_eq,
    combo_actions_eq, same.report_eq, same.any_isKnown]

/-- Tokens of which at least one is known are one press of all modifier keys with the last key, one
hold and one release; tokens of which none is known are refused before anything happens. Other ways
to write the tokens lead to the same history. -/
theorem combo_merges_tokens (world : World) (timing : Timing) (delay : Nat) (tokens : List String)
    (past : List Happening) :
    ((tokens.map lowered).any isKnown = true →
      world.Grants past (report tokens) timing.comboHold →
      world.operate timing delay (.combo tokens) past =
        ((.chord (.ok ⟨Modifiers.union (modifiersOf tokens), (keysOf tokens).getLast?,
            unknownOf tokens⟩), delay),
          past ++ [.look true, .write (report tokens) (.ok ()), .sleep timing.comboHold,
            .write .release (.ok ())])) ∧
    ((tokens.map lowered).any isKnown = false →
      world.operate timing delay (.combo tokens) past =
        ((.chord (.error (.unknownKey ⟨(tokens.map lowered).headD ""⟩)), delay), past)) ∧
    (∀ others, Restated tokens others →
      (world.operate timing delay (.combo others) past).2 =
        (world.operate timing delay (.combo tokens) past).2) := by
  refine ⟨?_, ?_, ?_⟩
  · intro known grants
    exact world.operate_known timing delay tokens past known grants
  · intro unknown
    exact world.operate_unknown timing delay tokens past unknown
  · intro others restated
    exact world.operate_restated timing delay tokens others past restated

theorem calm_grants (past : List Happening) (press : Report) (hold : Nat) :
    calm.Grants past press hold where
  up := rfl
  pressed := rfl
  released := rfl

theorem combo_merges_tokens_mixed :
    calm.operate .standard 0 (.combo ["Ctrl", "a", "Enterr", "ALT", "b"]) [] =
      ((.chord (.ok ⟨⟨0x05⟩, some .keyB, ["enterr"]⟩), 0),
        [.look true, .write ⟨#v[0x05, 0, 0x05, 0, 0, 0, 0, 0]⟩ (.ok ()), .sleep 100,
          .write .release (.ok ())]) ∧
    calm.operate .standard 0 (.combo ["Enterr", "A b"]) [] =
      ((.chord (.error (.unknownKey ⟨"enterr"⟩)), 0), []) ∧
    Restated ["Ctrl", "a"] ["Ctrl", "a", "CTRL"] ∧
    (calm.operate .standard 0 (.combo ["Ctrl", "a", "CTRL"]) []).2 =
      (calm.operate .standard 0 (.combo ["Ctrl", "a"]) []).2 := by
  have ctrl : Modifiers.ctrl ∈ modifiersOf (["Ctrl", "a"] ++ []) := by decide
  have restated : Restated (["Ctrl", "a"] ++ []) (["Ctrl", "a"] ++ "CTRL" :: []) :=
    .repeated (by decide) ctrl
  refine ⟨?_, ?_, restated, ?_⟩
  · exact (combo_merges_tokens calm .standard 0 ["Ctrl", "a", "Enterr", "ALT", "b"] []).1
      (by decide) (calm_grants _ _ _)
  · exact (combo_merges_tokens calm .standard 0 ["Enterr", "A b"] []).2.1 (by decide)
  · exact (combo_merges_tokens calm .standard 0 ["Ctrl", "a"] []).2.2 _ restated

end World
end KeyGadget
