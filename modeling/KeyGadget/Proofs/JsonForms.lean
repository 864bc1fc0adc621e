import KeyGadget.Script.Command
import KeyGadget.Session.Account
import Mathlib.Data.List.Forall2

/-!
# What the JSON forms keep

An account and a command are handed out as JSON. An entry of an account has the members of its
status beside its own, a list that is empty is left out, and a key is the text of a name in one
status and a label or nothing in another. Nothing is lost by this: all that was put in can be told
from the value, even if the members of its objects come in another order.

## Main result

`json_forms_tell_apart`: values that are alike come from the same account, or the same command.
-/
namespace KeyGadget

namespace Json

/-- Values that are equal but for the order of the members in their objects. -/
inductive Alike : Json → Json → Prop
  | null : Alike .null .null
  | bool (value : Bool) : Alike (.bool value) (.bool value)
  | number (value : Nat) : Alike (.number value) (.number value)
  | text (value : String) : Alike (.text value) (.text value)
  | list {items others : List Json} (each : List.Forall₂ Alike items others) :
    Alike (.list items) (.list others)
  | object {members others : List (String × Json)}
    (each : ∀ name, Option.Rel Alike (members.lookup name) (others.lookup name)) :
    Alike (.object members) (.object others)

theorem sizeOf_lookup_lt {members : List (String × Json)} {name : String} {value : Json}
    (found : members.lookup name = some value) : sizeOf value < sizeOf members := by
  obtain ⟨front, back, rfl, -⟩ := List.lookup_eq_some_iff.mp found
  have inside : sizeOf (name, value) < sizeOf (front ++ (name, value) :: back) :=
    List.sizeOf_lt_of_mem (by simp)
  simp only [Prod.mk.sizeOf_spec] at inside
  omega

theorem Alike.refl (value : Json) : Alike value value := by
  match value with
  | .null => exact .null
  | .bool value => exact .bool value
  | .number value => exact .number value
  | .text value => exact .text value
  | .list items => exact .list (List.forall₂_same.mpr fun item _ => Alike.refl item)
  | .object members =>
    refine .object fun name => ?_
    cases found : members.lookup name with
    | none => exact .none
    | some value => exact .some (Alike.refl value)
termination_by sizeOf value
decreasing_by
  · have inside := List.sizeOf_lt_of_mem ‹item ∈ items›
    simp only [Json.list.sizeOf_spec]
    omega
  · have inside := sizeOf_lookup_lt found
    simp only [Json.object.sizeOf_spec]
    omega

@[simp]
theorem alike_number_iff (one other : Nat) :
    Alike (.number one) (.number other) ↔ one = other := by
  constructor
  · rintro ⟨⟩
    rfl
  · rintro rfl
    exact .number one

@[simp]
theorem alike_text_iff (one other : String) : Alike (.text one) (.text other) ↔ one = other := by
  constructor
  · rintro ⟨⟩
    rfl
  · rintro rfl
    exact .text one

@[simp]
theorem alike_list_iff (items others : List Json) :
    Alike (.list items) (.list others) ↔ List.Forall₂ Alike items others := by
  constructor
  · rintro ⟨⟩
    assumption
  · exact .list

section objects

variable {members others : List (String × Json)}

/-- Objects that are alike have members under the same names. -/
theorem Alike.member (alike : Alike (.object members) (.object others)) (name : String) :
    Option.Rel Alike (members.lookup name) (others.lookup name) := by
  cases alike with
  | object each => exact each name

/-- What objects that are alike have under a name is alike. -/
theorem Alike.of_lookup (alike : Alike (.object members) (.object others)) (name : String)
    {value value' : Json} (found : members.lookup name = some value)
    (found' : others.lookup name = some value') : Alike value value' := by
  have both := alike.member name
  rw [found, found'] at both
  exact Option.rel_some_some.mp both

theorem Alike.number_eq (alike : Alike (.object members) (.object others)) (name : String)
    {value value' : Nat} (found : members.lookup name = some (.number value))
    (found' : others.lookup name = some (.number value')) : value = value' :=
  (alike_number_iff _ _).mp (alike.of_lookup name found found')

theorem Alike.text_eq (alike : Alike (.object members) (.object others)) (name : String)
    {value value' : String} (found : members.lookup name = some (.text value))
    (found' : others.lookup name = some (.text value')) : value = value' :=
  (alike_text_iff _ _).mp (alike.of_lookup name found found')

theorem lookup_eq_none_of_notMem {name : String} (absent : name ∉ members.map Prod.fst) :
    members.lookup name = none := by
  rw [List.lookup_eq_none_iff]
  intro member inside
  rw [bne_iff_ne]
  rintro rfl
  exact absent (List.mem_map_of_mem inside)

end objects

/-- A way to write things as JSON from which they can be told. -/
def Faithful {α : Type} (encode : α → Json) : Prop :=
  ∀ one other, Alike (encode one) (encode other) → one = other

theorem Faithful.items {α : Type} {encode : α → Json} (faithful : Faithful encode)
    {items others : List α} (alike : List.Forall₂ Alike (items.map encode) (others.map encode)) :
    items = others := by
  rw [List.forall₂_map_left_iff, List.forall₂_map_right_iff] at alike
  exact List.forall₂_eq_eq_eq ▸ alike.imp fun one other => faithful one other

theorem faithful_text : Faithful .text := by
  intro one other
  exact (alike_text_iff one other).mp

theorem faithful_character : Faithful fun c => .text (String.singleton c) := by
  intro one other alike
  have same := congrArg String.toList ((alike_text_iff _ _).mp alike)
  simpa using same

end Json

theorem Modifiers.eq_of_toNat {one other : Modifiers} (same : one.bits.toNat = other.bits.toNat) :
    one = other := by
  cases one
  cases other
  exact congrArg Modifiers.mk (UInt8.toNat.inj same)

theorem Key.eq_of_label {one other : Key} (same : one.label = other.label) : one = other := by
  have found := ofLabel?_label one
  rw [same, ofLabel?_label] at found
  exact (Option.some.inj found).symm

/-- A key that may be missing, by its label. -/
def shownKey : Option Key → Json
  | some key => .text key.label
  | none => .null

theorem faithful_shownKey : Json.Faithful shownKey := by
  intro one other alike
  cases one with
  | none =>
    cases other with
    | none => rfl
    | some _ => cases alike
  | some key =>
    cases other with
    | none => cases alike
    | some other => rw [Key.eq_of_label ((Json.alike_text_iff _ _).mp alike)]

namespace Script.Command

open Json

theorem alike_tag {one other : Command} (alike : Alike one.toJson other.toJson) :
    one.tag = other.tag :=
  alike.text_eq "command" rfl rfl

theorem lookup_argument (command : Command) :
    (("command", Json.text command.tag) ::
      command.argument.toList.map fun value => ("argument", value)).lookup "argument" =
      command.argument := by
  cases command.argument <;> simp [List.lookup_cons]

theorem alike_argument {one other : Command} (alike : Alike one.toJson other.toJson) :
    Option.Rel Alike one.argument other.argument := by
  rw [← lookup_argument one, ← lookup_argument other]
  exact alike.member "argument"

/-- The word for the kind tells which argument is meant. -/
theorem faithful_toJson : Faithful toJson := by
  intro one other alike
  -- Commands of different kinds have different words, and those of a kind differ by argument.
  have tags := alike_tag alike
  have arguments := alike_argument alike
  cases one with
  | typeText text =>
    cases other with
    | typeText => simpa [argument] using arguments
    | _ => simp [tag] at tags
  | pressKey name modifiers =>
    cases other with
    | pressKey name' modifiers' =>
      have inner : Alike _ _ := Option.rel_some_some.mp arguments
      have names : name = name' := inner.text_eq "name" rfl rfl
      have bits : modifiers.bits.toNat = modifiers'.bits.toNat :=
        inner.number_eq "modifiers" rfl rfl
      rw [names, Modifiers.eq_of_toNat bits]
    | _ => simp [tag] at tags
  | combo names =>
    cases other with
    | combo names' =>
      have same : names = names' := faithful_text.items (by simpa [argument] using arguments)
      rw [same]
    | _ => simp [tag] at tags
  | delay ms =>
    cases other with
    | delay => simpa [argument] using arguments
    | _ => simp [tag] at tags
  | defaultDelay ms =>
    cases other with
    | defaultDelay => simpa [argument] using arguments
    | _ => simp [tag] at tags
  | comment =>
    cases other with
    | comment => rfl
    | _ => simp [tag] at tags
  | unsupported keyword argument =>
    cases other with
    | unsupported keyword' argument' =>
      have inner : Alike _ _ := Option.rel_some_some.mp arguments
      have keywords : keyword = keyword' := inner.text_eq "keyword" rfl rfl
      have rests : argument = argument' := inner.text_eq "argument" rfl rfl
      rw [keywords, rests]
    | _ => simp [tag] at tags

end Script.Command

namespace Status

open Json

/-- The word for the kind of a status. -/
def tag : Status → String
  | .typed _ _ => "typed"
  | .pressed _ _ => "pressed"
  | .combo _ _ _ => "combo"
  | .delayed _ => "delayed"
  | .defaultDelay _ => "default_delay"
  | .unsupported _ => "unsupported"
  | .skipped _ => "skipped"

theorem lookup_status (status : Status) :
    status.members.lookup "status" = some (.text status.tag) := by
  cases status <;> rfl

/-- A list that is left out is an empty one. -/
theorem items_of_unlessEmpty {name : String} {items others : List Json}
    (alike : Option.Rel Alike ((unlessEmpty name items).lookup name)
      ((unlessEmpty name others).lookup name)) :
    List.Forall₂ Alike items others := by
  cases items <;> cases others <;> simp_all [unlessEmpty]

theorem faithful_members : Faithful fun status => .object (members status) := by
  intro one other alike
  have tags : one.tag = other.tag :=
    alike.text_eq "status" (lookup_status one) (lookup_status other)
  -- Two statuses of different kinds have different words for them.
  cases one with
  | typed characters missed =>
    cases other with
    | typed characters' missed' =>
      have counts : characters = characters' := alike.number_eq "characters" rfl rfl
      have lists : missed = missed' :=
        faithful_character.items (items_of_unlessEmpty (alike.member "skipped"))
      rw [counts, lists]
    | _ => simp [tag] at tags
  | pressed key modifiers =>
    cases other with
    | pressed key' modifiers' =>
      have keys : key = key' := alike.text_eq "key" rfl rfl
      have bits : modifiers.bits.toNat = modifiers'.bits.toNat := alike.number_eq "modifier" rfl rfl
      rw [keys, Modifiers.eq_of_toNat bits]
    | _ => simp [tag] at tags
  | combo modifiers key unknown =>
    cases other with
    | combo modifiers' key' unknown' =>
      have bits : modifiers.bits.toNat = modifiers'.bits.toNat := alike.number_eq "modifier" rfl rfl
      have keys : key = key' := by
        have shown : Alike (shownKey key) (shownKey key') := alike.of_lookup "key" rfl rfl
        exact faithful_shownKey _ _ shown
      have lists : unknown = unknown' :=
        faithful_text.items (items_of_unlessEmpty (alike.member "unknown"))
      rw [Modifiers.eq_of_toNat bits, keys, lists]
    | _ => simp [tag] at tags
  | delayed ms =>
    cases other with
    | delayed ms' =>
      have waits : ms = ms' := alike.number_eq "ms" rfl rfl
      rw [waits]
    | _ => simp [tag] at tags
  | defaultDelay ms =>
    cases other with
    | defaultDelay ms' =>
      have waits : ms = ms' := alike.number_eq "ms" rfl rfl
      rw [waits]
    | _ => simp [tag] at tags
  | unsupported keyword =>
    cases other with
    | unsupported keyword' =>
      have keywords : keyword = keyword' := alike.text_eq "keyword" rfl rfl
      rw [keywords]
    | _ => simp [tag] at tags
  | skipped reason =>
    cases other with
    | skipped reason' =>
      have reasons : reason = reason' := alike.text_eq "reason" rfl rfl
      rw [reasons]
    | _ => simp [tag] at tags

end Status

namespace Entry

open Json

/-- The members of a status stand beside those of the entry without hiding one. -/
theorem names_nodup (entry : Entry) :
    ((("line", Json.number entry.line) :: ("source", .text entry.source) ::
      entry.status.members).map Prod.fst).Nodup := by
  -- Which members there are depends on the kind and on lists that are left out when they are empty.
  cases entry.status with
  | typed characters missed =>
    cases missed <;> simp [Status.members, Status.unlessEmpty]
  | combo modifiers key unknown =>
    cases unknown <;> simp [Status.members, Status.unlessEmpty]
  | _ => simp [Status.members]

theorem lookup_own (entry : Entry) :
    entry.status.members.lookup "line" = none ∧ entry.status.members.lookup "source" = none := by
  have distinct := names_nodup entry
  simp only [List.map_cons, List.nodup_cons, List.mem_cons, not_or] at distinct
  obtain ⟨⟨-, line⟩, source, -⟩ := distinct
  exact ⟨lookup_eq_none_of_notMem line, lookup_eq_none_of_notMem source⟩

theorem faithful_toJson : Faithful toJson := by
  intro one other alike
  have lines : one.line = other.line := alike.number_eq "line" rfl rfl
  have sources : one.source = other.source := alike.text_eq "source" rfl rfl
  have rest : Alike (.object one.status.members) (.object other.status.members) := by
    -- Under its own names the entry hides what a status might have, but it has nothing there.
    refine .object fun name => ?_
    by_cases own : name = "line" ∨ name = "source"
    · rcases own with rfl | rfl
      · rw [(lookup_own _).1, (lookup_own _).1]
        exact .none
      · rw [(lookup_own _).2, (lookup_own _).2]
        exact .none
    · obtain ⟨notLine, notSource⟩ := not_or.mp own
      have found := alike.member name
      simpa [List.lookup_cons, beq_false_of_ne notLine, beq_false_of_ne notSource] using found
  have statuses := Status.faithful_members _ _ rest
  obtain ⟨line, source, status⟩ := one
  obtain ⟨line', source', status'⟩ := other
  rw [show line = line' from lines, show source = source' from sources,
    show status = status' from statuses]

end Entry

theorem Account.faithful_toJson : Json.Faithful Account.toJson := by
  intro one other alike
  have lines : List.Forall₂ Json.Alike (one.entries.map Entry.toJson)
      (other.entries.map Entry.toJson) :=
    (Json.alike_list_iff _ _).mp (alike.of_lookup "lines" rfl rfl)
  have entries := Entry.faithful_toJson.items lines
  cases one
  cases other
  exact congrArg Account.mk entries

/-- **The JSON forms lose nothing.** Accounts whose JSON values are equal, be it in another order of
the members, are equal, and so are commands. No two members of the object of an entry have the same
name, so that none hides another. -/
theorem json_forms_tell_apart :
    (∀ account other : Account, account.toJson.Alike other.toJson ↔ account = other) ∧
      (∀ command other : Script.Command, command.toJson.Alike other.toJson ↔ command = other) ∧
      ∀ entry : Entry, ∃ members,
        entry.toJson = .object members ∧ (members.map Prod.fst).Nodup := by
  refine ⟨fun account other => ⟨Account.faithful_toJson account other, ?_⟩,
    fun command other => ⟨Script.Command.faithful_toJson command other, ?_⟩,
    fun entry => ⟨_, rfl, entry.names_nodup⟩⟩
  · rintro rfl
    exact .refl _
  · rintro rfl
    exact .refl _

end KeyGadget
