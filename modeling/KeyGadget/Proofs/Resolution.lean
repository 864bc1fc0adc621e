import KeyGadget.Proofs.Chord

/-!
# Which names are known

A name in lower case is known if one of the two tables has it, and no name is in both. A name that
is not one character long is looked up there when it stands alone, and so is every token of a chord.

## Main results

`resolve_eq` and `chord_singleton`: what a name comes to when it stands alone and when it is the
only token of a chord. `resolve_eq_error_iff` and `chord_eq_error_iff`: when nothing is known.
-/
namespace KeyGadget

theorem Modifiers.ofName?_eq_some_iff (s : String) (modifiers : Modifiers) :
    ofName? s = some modifiers ↔ (s, modifiers) ∈ named := by
  have listed : ∀ entry ∈ named, ofName? entry.1 = some entry.2 := by decide
  constructor
  · intro found
    obtain ⟨⟨name, value⟩, entry, rfl⟩ := Option.map_eq_some_iff.mp found
    have same : name = s := by simpa using List.find?_some entry
    rw [← same]
    exact List.mem_of_find?_eq_some entry
  · exact listed (s, modifiers)

namespace Names

/-- A name in lower case that one of the tables has. -/
def Listed (lower : String) : Prop :=
  (∃ key : Key, key.name = lower) ∨ ∃ modifiers, (lower, modifiers) ∈ Modifiers.named

/-- What is held for a name in lower case. -/
def held? (lower : String) : Option Keystroke :=
  match Key.ofName? lower with
  | some key => some ⟨.none, some key⟩
  | none => (Modifiers.ofName? lower).map fun modifiers => ⟨modifiers, none⟩

theorem isKnown_iff_listed (lower : String) : isKnown lower = true ↔ Listed lower := by
  simp only [isKnown, Bool.or_eq_true, Option.isSome_iff_exists, Key.ofName?_eq_some_iff,
    Modifiers.ofName?_eq_some_iff, Listed]
  exact or_comm

instance (lower : String) : Decidable (Listed lower) :=
  decidable_of_iff _ (isKnown_iff_listed lower)

theorem any_isKnown_iff_listed (tokens : List String) :
    (tokens.map lowered).any isKnown = true ↔ ∃ token ∈ tokens, Listed (lowered token) := by
  simp [← isKnown_iff_listed]

theorem held?_eq_none_iff (lower : String) : held? lower = none ↔ ¬ Listed lower := by
  rw [← isKnown_iff_listed, isKnown, held?]
  cases Key.ofName? lower <;> simp

/-- What a name comes to when it stands alone. -/
def alone? (name : String) : Option Keystroke :=
  match name.toList with
  | [c] => Layout.strokeFor c
  | _ => held? (lowered name)

theorem alone?_of_char (name : String) (c : Char) (single : name.toList = [c]) :
    alone? name = Layout.strokeFor c := by
  rw [alone?, single]

theorem alone?_of_word (name : String) (word : name.toList.length ≠ 1) :
    alone? name = held? (lowered name) := by
  unfold alone?
  split
  next c single => exact absurd (by rw [single]; rfl) word
  next => rfl

theorem resolve_eq (name : String) :
    resolve name = match alone? name with
      | some stroke => .ok stroke
      | none => .error ⟨name⟩ := by
  unfold resolve
  split
  next c single =>
    cases typed : Layout.strokeFor c <;> simp only [alone?_of_char name c single, typed]
  next several =>
    have word : name.toList.length ≠ 1 := by
      intro one
      obtain ⟨c, single⟩ := List.length_eq_one_iff.mp one
      exact several c single
    rw [alone?_of_word name word, held?]
    dsimp only
    cases Key.ofName? (lowered name) with
    | some key => rfl
    | none => cases Modifiers.ofName? (lowered name) <;> rfl

theorem chord_singleton (token : String) :
    chord [token] = match held? (lowered token) with
      | some stroke => .ok ⟨stroke.modifiers, stroke.key, []⟩
      | none => .error ⟨lowered token⟩ := by
  rw [chord, List.map_singleton, List.any_cons, List.any_nil, Bool.or_false, List.foldl_cons,
    List.foldl_nil, isKnown, held?, Chord.add]
  cases modifier : Modifiers.ofName? (lowered token) with
  | some modifiers =>
    -- The token is no other key, so it makes no difference which table comes first.
    rw [ofName?_eq_none_of_modifier _ _ modifier]
    simp
  | none => cases Key.ofName? (lowered token) <;> simp

/-- A name that is known where it stands alone: a character is known if there is a keystroke that
makes it, and any other name if it is listed. -/
def KnownAlone (name : String) : Prop :=
  (∃ c, name.toList = [c] ∧ (Layout.keyFor c).isSome = true) ∨
    name.toList.length ≠ 1 ∧ Listed (lowered name)

theorem alone?_eq_none_iff (name : String) : alone? name = none ↔ ¬ KnownAlone name := by
  by_cases one : name.toList.length = 1
  · obtain ⟨c, single⟩ := List.length_eq_one_iff.mp one
    rw [alone?_of_char name c single, KnownAlone, single]
    simp [Layout.strokeFor]
  · have several : ¬ ∃ c, name.toList = [c] ∧ (Layout.keyFor c).isSome = true := by
      rintro ⟨c, single, -⟩
      exact one (by rw [single]; rfl)
    rw [alone?_of_word name one, held?_eq_none_iff, KnownAlone]
    simp only [several, one, ne_eq, not_false_eq_true, true_and, false_or]

instance (name : String) : Decidable (KnownAlone name) :=
  decidable_of_iff (alone? name ≠ none) (by rw [ne_eq, alone?_eq_none_iff, not_not])

theorem exists_resolve_iff (name : String) :
    (∃ stroke, resolve name = .ok stroke) ↔ KnownAlone name := by
  rw [← not_iff_not, ← alone?_eq_none_iff, resolve_eq]
  cases alone? name <;> simp

theorem resolve_eq_error_iff (name : String) (error : UnknownKey) :
    resolve name = .error error ↔ ¬ KnownAlone name ∧ error = ⟨name⟩ := by
  rw [resolve_eq, ← alone?_eq_none_iff]
  cases alone? name <;> simp [eq_comm]

theorem exists_chord_iff (tokens : List String) :
    (∃ made, chord tokens = .ok made) ↔ ∃ token ∈ tokens, Listed (lowered token) := by
  rw [← any_isKnown_iff_listed, chord]
  cases (tokens.map lowered).any isKnown <;> simp

theorem chord_eq_error_iff (tokens : List String) (error : UnknownKey) :
    chord tokens = .error error ↔
      (∀ token ∈ tokens, ¬ Listed (lowered token)) ∧ error = ⟨(tokens.map lowered).headD ""⟩ := by
  have none : (tokens.map lowered).any isKnown = false ↔
      ∀ token ∈ tokens, ¬ Listed (lowered token) := by
    rw [← Bool.not_eq_true, any_isKnown_iff_listed, not_exists]
    exact forall_congr' fun token => not_and
  rw [← none, chord]
  cases (tokens.map lowered).any isKnown <;> simp [eq_comm]

theorem unknownOf_eq_nil_iff (tokens : List String) :
    unknownOf tokens = [] ↔ ∀ token ∈ tokens, Listed (lowered token) := by
  simp [unknownOf, ← isKnown_iff_listed]

/-- A chord names the tokens that nothing is known of. -/
theorem unknown_of_chord {tokens : List String} {made : Chord} (chords : chord tokens = .ok made) :
    made.unknown = unknownOf tokens := by
  rw [chord_eq] at chords
  split at chords <;> cases chords
  rfl

end Names
end KeyGadget
