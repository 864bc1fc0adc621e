import KeyGadget.Config
import KeyGadget.Proofs.Shelf
import Mathlib.Logic.Relation

/-!
# Settings and their defaults

A setting that a file leaves out has a default, and so has a group of settings, of its own: the two
have to say the same. They do, so that it makes no difference which of the settings a file leaves
out and which it gives as they would be anyway, or whether a group that is left out is given as an
empty table. What a file gives is taken as it is, whatever else it gives.

## Main results

`ofEntries_iff_says`: the configuration of a file, setting by setting.

`defaults_hold_at_every_level`: adding what is left out, or what means nothing, changes nothing.
-/
namespace KeyGadget.Config

open Toml (Entries Origin Value)

variable {α : Type} {entries before after : Entries}

/-! ### What a file says -/

/-- A setting is given as it is, or is left out and has its default. -/
def Given (encode : α → Value) (default : α) (entries : Entries) (name : String) (result : α) :
    Prop :=
  entries.lookup name = some (encode result) ∨ entries.lookup name = none ∧ result = default

/-- A number of milliseconds in a file. -/
def millis (ms : Nat) : Value :=
  .integer ms

/-- The settings of a group; there are none if the group is left out. -/
def within (entries : Entries) (name : String) : Entries :=
  match entries.lookup name with
  | some (.table _ inner) => inner
  | _ => []

/-- A group is left out or is a table. -/
def Tabled (entries : Entries) (name : String) : Prop :=
  entries.lookup name = none ∨ ∃ origin inner, entries.lookup name = some (.table origin inner)

/-- A configuration has all that a file gives, each in its place, and defaults for the rest. -/
structure Says (entries : Entries) (config : Config) : Prop where
  logLevel : Given .text defaultLogLevel entries "log_level" config.logLevel
  devicePath : Given .text defaultDevicePath (within entries "device") "path" config.devicePath
  keyPress : Given millis TimingSettings.defaultKeyPress (within entries "timing") "key_press_ms"
    config.timing.keyPress
  keyGap : Given millis TimingSettings.defaultKeyGap (within entries "timing") "key_gap_ms"
    config.timing.keyGap
  comboHold : Given millis TimingSettings.defaultComboHold (within entries "timing") "combo_hold_ms"
    config.timing.comboHold
  charDelay : Given millis TimingSettings.defaultCharDelay (within entries "timing") "char_delay_ms"
    config.timing.charDelay
  scriptsDirectory : Given .text defaultScriptsDirectory (within entries "scripts") "directory"
    config.scriptsDirectory

theorem asText_eq_some_iff (value : Value) (text : String) :
    asText value = some text ↔ value = .text text := by
  cases value <;> simp [asText]

theorem asMillis_eq_some_iff (value : Value) (ms : Nat) :
    asMillis value = some ms ↔ value = millis ms := by
  cases value with
  | integer value =>
    simp only [asMillis, millis, Value.integer.injEq]
    split <;> simp <;> omega
  | _ => simp [asMillis, millis]

theorem setting_eq_some_iff {read : Value → Option α} {encode : α → Value}
    (exact : ∀ value result, read value = some result ↔ value = encode result) (default : α)
    (entries : Entries) (name : String) (result : α) :
    setting read default entries name = some result ↔
      Given encode default entries name result := by
  cases found : entries.lookup name with
  | none => simp [setting, Given, found, eq_comm]
  | some value => simp [setting, Given, found, exact]

/-- A group that is left out might as well be empty. -/
theorem group_eq {read : Entries → Option α} {default : α} (empty : read [] = some default)
    (names : List String) {name : String} (tabled : Tabled entries name) :
    group names read default entries name = read (within entries name) := by
  rcases tabled with absent | ⟨origin, inner, given⟩
  · simp [group, setting, within, absent, empty]
  · simp [group, setting, within, given, asGroup]

theorem devicePathOf_eq_some_iff (entries : Entries) (path : String) :
    devicePathOf entries = some path ↔ Given .text defaultDevicePath entries "path" path :=
  setting_eq_some_iff asText_eq_some_iff _ _ _ _

theorem scriptsDirectoryOf_eq_some_iff (entries : Entries) (path : String) :
    scriptsDirectoryOf entries = some path ↔
      Given .text defaultScriptsDirectory entries "directory" path :=
  setting_eq_some_iff asText_eq_some_iff _ _ _ _

theorem timingOf_eq_some_iff (entries : Entries) (settings : TimingSettings) :
    timingOf entries = some settings ↔
      Given millis TimingSettings.defaultKeyPress entries "key_press_ms" settings.keyPressMs ∧
      Given millis TimingSettings.defaultKeyGap entries "key_gap_ms" settings.keyGapMs ∧
      Given millis TimingSettings.defaultComboHold entries "combo_hold_ms" settings.comboHoldMs ∧
      Given millis TimingSettings.defaultCharDelay entries "char_delay_ms"
        settings.charDelayMs := by
  simp only [← setting_eq_some_iff asMillis_eq_some_iff, timingOf, Option.bind_eq_bind,
    Option.bind_eq_some_iff, Option.pure_def, Option.some.injEq]
  constructor
  · rintro ⟨_, keyPress, _, keyGap, _, comboHold, _, charDelay, rfl⟩
    exact ⟨keyPress, keyGap, comboHold, charDelay⟩
  · rintro ⟨keyPress, keyGap, comboHold, charDelay⟩
    exact ⟨_, keyPress, _, keyGap, _, comboHold, _, charDelay, rfl⟩

/-! The default of a group is what an empty one says. -/

theorem devicePathOf_nil : devicePathOf [] = some standard.devicePath := rfl

theorem timingOf_nil : timingOf [] = some standard.timingSettings := rfl

theorem scriptsDirectoryOf_nil : scriptsDirectoryOf [] = some standard.scriptsDirectory := rfl

theorem ofEntries_eq_some_iff (device : Tabled entries "device") (timing : Tabled entries "timing")
    (scripts : Tabled entries "scripts") (config : Config) :
    ofEntries entries = some config ↔
      setting asText defaultLogLevel entries "log_level" = some config.logLevel ∧
      devicePathOf (within entries "device") = some config.devicePath ∧
      timingOf (within entries "timing") = some config.timingSettings ∧
      scriptsDirectoryOf (within entries "scripts") = some config.scriptsDirectory := by
  simp only [ofEntries, group_eq devicePathOf_nil _ device, group_eq timingOf_nil _ timing,
    group_eq scriptsDirectoryOf_nil _ scripts, Option.bind_eq_bind, Option.bind_eq_some_iff,
    Option.pure_def, Option.some.injEq]
  constructor
  · rintro ⟨_, logLevel, _, devicePath, _, timing, _, directory, rfl⟩
    exact ⟨logLevel, devicePath, timing, directory⟩
  · rintro ⟨logLevel, devicePath, timing, directory⟩
    exact ⟨_, logLevel, _, devicePath, _, timing, _, directory, rfl⟩

theorem ofEntries_iff_says (device : Tabled entries "device") (timing : Tabled entries "timing")
    (scripts : Tabled entries "scripts") (config : Config) :
    ofEntries entries = some config ↔ Says entries config := by
  rw [ofEntries_eq_some_iff device timing scripts, setting_eq_some_iff asText_eq_some_iff,
    devicePathOf_eq_some_iff, timingOf_eq_some_iff, scriptsDirectoryOf_eq_some_iff]
  constructor
  · rintro ⟨logLevel, devicePath, ⟨keyPress, keyGap, comboHold, charDelay⟩, directory⟩
    exact ⟨logLevel, devicePath, keyPress, keyGap, comboHold, charDelay, directory⟩
  · rintro ⟨logLevel, devicePath, keyPress, keyGap, comboHold, charDelay, directory⟩
    exact ⟨logLevel, devicePath, ⟨keyPress, keyGap, comboHold, charDelay⟩, directory⟩

/-! ### What may be added -/

/-- A table that has a value under a name, and otherwise what another table has. -/
def Puts (name : String) (value : Value) (before after : Entries) : Prop :=
  after.lookup name = some value ∧ ∀ other ≠ name, after.lookup other = before.lookup other

/-- It does not matter where in a table the value comes. -/
theorem puts_between (front back : Entries) {name : String} (value : Value)
    (absent : front.lookup name = none) :
    Puts name value (front ++ back) (front ++ (name, value) :: back) := by
  refine ⟨by simp [List.lookup_append, absent], fun other apart => ?_⟩
  simp [List.lookup_append, List.lookup_cons, beq_false_of_ne apart]

/-- A table with one more setting: one that is left out has its default, or its name means nothing.
The names that mean something are those that have defaults. -/
inductive Adds (defaults before after : Entries) : Prop
  | omitted {name : String} {value : Value} (absent : before.lookup name = none)
    (default : defaults.lookup name = some value) (puts : Puts name value before after)
  | unknown {name : String} {value : Value} (meaningless : defaults.lookup name = none)
    (puts : Puts name value before after)

def deviceDefaults : Entries :=
  [("path", .text defaultDevicePath)]

def timingDefaults : Entries :=
  [("key_press_ms", millis TimingSettings.defaultKeyPress),
    ("key_gap_ms", millis TimingSettings.defaultKeyGap),
    ("combo_hold_ms", millis TimingSettings.defaultComboHold),
    ("char_delay_ms", millis TimingSettings.defaultCharDelay)]

def scriptsDefaults : Entries :=
  [("directory", .text defaultScriptsDirectory)]

/-- The groups of settings, each with the defaults of its settings. -/
def groups : List (String × Entries) :=
  [("device", deviceDefaults), ("timing", timingDefaults), ("scripts", scriptsDefaults)]

/-- A file with one more setting, in a group or outside of them, or with one more group. A group
that was left out has some of the defaults, or none, and names that mean nothing. -/
inductive Fills (before after : Entries) : Prop
  | logLevel (absent : before.lookup "log_level" = none)
    (puts : Puts "log_level" (.text defaultLogLevel) before after)
  | newGroup {name : String} {origin : Origin} {defaults inner : Entries}
    (known : groups.lookup name = some defaults) (absent : before.lookup name = none)
    (filled : Relation.ReflTransGen (Adds defaults) [] inner)
    (puts : Puts name (.table origin inner) before after)
  | inGroup {name : String} {origin origin' : Origin} {defaults inner inner' : Entries}
    (known : groups.lookup name = some defaults)
    (given : before.lookup name = some (.table origin inner)) (adds : Adds defaults inner inner')
    (puts : Puts name (.table origin' inner') before after)
  | unknown {name : String} {value : Value} (meaningless : groups.lookup name = none)
    (other : name ≠ "log_level") (puts : Puts name value before after)

/-- What one step keeps is kept by all of them. -/
theorem eq_of_steps {step : Entries → Entries → Prop} {read : Entries → α}
    (steady : ∀ before after, step before after → read after = read before)
    (steps : Relation.ReflTransGen step before after) : read after = read before := by
  induction steps with
  | refl => rfl
  | tail _ last unchanged => exact (steady _ _ last).trans unchanged

/-- A setting reads the same when others are added, or the setting with a value that reads as its
default. -/
theorem Adds.setting_eq {defaults : Entries} {read : Value → Option α} {default : α} {name : String}
    {value : Value} (adds : Adds defaults before after) (known : defaults.lookup name = some value)
    (reads : read value = some default) :
    setting read default after name = setting read default before name := by
  cases adds with
  | @omitted added _ absent given puts =>
    -- Where the setting itself is added, it was read as its default before.
    obtain ⟨own, rest⟩ := puts
    by_cases same : name = added
    · subst same
      obtain rfl : _ = value := Option.some.inj (given.symm.trans known)
      simp [setting, own, absent, reads]
    · simp [setting, rest name same]
  | @unknown added _ meaningless puts =>
    have apart : name ≠ added := by
      rintro rfl
      simp [meaningless] at known
    simp [setting, puts.2 name apart]

theorem Adds.devicePathOf_eq (adds : Adds deviceDefaults before after) :
    devicePathOf after = devicePathOf before :=
  adds.setting_eq rfl rfl

theorem Adds.timingOf_eq (adds : Adds timingDefaults before after) :
    timingOf after = timingOf before := by
  have same (name : String) (ms : Nat) (known : timingDefaults.lookup name = some (millis ms)) :
      setting asMillis ms after name = setting asMillis ms before name :=
    adds.setting_eq known ((asMillis_eq_some_iff _ _).mpr rfl)
  rw [timingOf, timingOf, same "key_press_ms" _ rfl, same "key_gap_ms" _ rfl,
    same "combo_hold_ms" _ rfl, same "char_delay_ms" _ rfl]

theorem Adds.scriptsDirectoryOf_eq (adds : Adds scriptsDefaults before after) :
    scriptsDirectoryOf after = scriptsDirectoryOf before :=
  adds.setting_eq rfl rfl

theorem ne_logLevel {name : String} {defaults : Entries}
    (known : groups.lookup name = some defaults) : name ≠ "log_level" := by
  rintro rfl
  cases known

/-- A group reads the same in a file with one more setting. -/
theorem Fills.group_eq {defaults : Entries} {read : Entries → Option α} {default : α}
    {name : String} (names : List String) (fills : Fills before after)
    (known : groups.lookup name = some defaults) (empty : read [] = some default)
    (steady : ∀ inner inner', Adds defaults inner inner' → read inner' = read inner) :
    group names read default after name = group names read default before name := by
  -- What is added is the group that is read, or in it, or elsewhere.
  cases fills with
  | logLevel absent puts => simp [group, setting, puts.2 name (ne_logLevel known)]
  | @newGroup added origin _ inner known' absent filled puts =>
    by_cases same : name = added
    · subst same
      obtain rfl : _ = defaults := Option.some.inj (known'.symm.trans known)
      have reads : read inner = read [] := eq_of_steps steady filled
      simp [group, setting, puts.1, absent, asGroup, reads, empty]
    · simp [group, setting, puts.2 name same]
  | @inGroup added _ _ _ inner inner' known' given adds puts =>
    by_cases same : name = added
    · subst same
      obtain rfl : _ = defaults := Option.some.inj (known'.symm.trans known)
      simp [group, setting, puts.1, given, asGroup, steady _ _ adds]
    · simp [group, setting, puts.2 name same]
  | @unknown added _ meaningless _ puts =>
    have other : name ≠ added := by
      rintro rfl
      simp [meaningless] at known
    simp [group, setting, puts.2 name other]

theorem Fills.logLevel_eq (fills : Fills before after) :
    setting asText defaultLogLevel after "log_level" =
      setting asText defaultLogLevel before "log_level" := by
  cases fills with
  | logLevel absent puts => simp [setting, puts.1, absent, asText]
  | newGroup known _ _ puts => simp [setting, puts.2 _ (ne_logLevel known).symm]
  | inGroup known _ _ puts => simp [setting, puts.2 _ (ne_logLevel known).symm]
  | unknown _ other puts => simp [setting, puts.2 _ other.symm]

/-- What is added to a file does not change what it says. -/
theorem Fills.ofEntries_eq (fills : Fills before after) : ofEntries after = ofEntries before := by
  rw [ofEntries, ofEntries, fills.logLevel_eq,
    fills.group_eq _ rfl devicePathOf_nil fun _ _ => Adds.devicePathOf_eq,
    fills.group_eq _ rfl timingOf_nil fun _ _ => Adds.timingOf_eq,
    fills.group_eq _ rfl scriptsDirectoryOf_nil fun _ _ => Adds.scriptsDirectoryOf_eq]

theorem ofEntries_filled (filled : Relation.ReflTransGen Fills before after) :
    ofEntries after = ofEntries before :=
  eq_of_steps (fun _ _ => Fills.ofEntries_eq) filled

/-! ### Reading the file

The reader of the format, which turns a text into a table, is any; for a file without content it has
to find a table without entries.
-/

section Reading

variable {toml : String → Option Entries} {disk : Disk} {path : String}

/-- The file at a path is a document with these entries. -/
def Documents (toml : String → Option Entries) (disk : Disk) (path : String) (entries : Entries) :
    Prop :=
  ∃ text : String, disk.read path = .ok text.toUTF8 ∧ toml text = some entries

/-- What is read from the file at a path. -/
def loaded (toml : String → Option Entries) (disk : Disk) (path : String) :
    Except ConfigError Config :=
  ((loadWith toml Disk.own path).run disk).1

theorem own_readText (disk : Disk) (path : String) :
    (Disk.own.readText path).run disk = ((disk.read path).bind decodeText, disk) := by
  simp only [Files.readText, StateT.run_bind, Disk.own_read]
  cases disk.read path <;> rfl

theorem loaded_missing (toml : String → Option Entries)
    (missing : disk.read path = .error .missing) : loaded toml disk path = .ok standard := by
  simp only [loaded, loadWith, StateT.run_bind, own_readText, missing]
  rfl

theorem loaded_document (documents : Documents toml disk path entries) :
    loaded toml disk path =
      match ofEntries entries with
      | some config => .ok config
      | none => .error .malformed := by
  obtain ⟨text, content, parsed⟩ := documents
  have read : (disk.read path).bind decodeText = .ok text := by
    rw [content]
    exact decodeText_toUTF8 text
  have meaning : (toml text).bind ofEntries = ofEntries entries := by rw [parsed, Option.bind_some]
  rw [← meaning]
  simp only [loaded, loadWith, StateT.run_bind, own_readText, read]
  change (StateT.run (match (toml text).bind ofEntries with
    | some config => pure (.ok config)
    | none => pure (.error .malformed) : StateM Disk (Except ConfigError Config)) disk).1 = _
  cases (toml text).bind ofEntries <;> rfl

/-- A file without content is a document without entries. -/
theorem documents_empty (blank : toml "" = some []) (empty : disk.read path = .ok .empty) :
    Documents toml disk path [] :=
  ⟨"", empty, blank⟩

end Reading

/-- **Defaults are the same at every level.** A file with groups that are tables, or are left out,
is read as what it gives, each setting in its place, and defaults for the rest. More settings that
have their defaults, more groups with some of these or none, and names that mean nothing make no
difference, and a missing file is read like an empty one. -/
theorem defaults_hold_at_every_level {toml : String → Option Entries} (blank : toml "" = some [])
    {disk : Disk} {path : String} (documents : Documents toml disk path entries)
    (device : Tabled entries "device") (timing : Tabled entries "timing")
    (scripts : Tabled entries "scripts") :
    (∀ config, loaded toml disk path = .ok config ↔ Says entries config) ∧
      (∀ (other : Disk) (place : String) (filled : Entries), Documents toml other place filled →
        Relation.ReflTransGen Fills entries filled →
          loaded toml other place = loaded toml disk path) ∧
      ∀ missing empty : Disk, missing.read path = .error .missing →
        empty.read path = .ok .empty → loaded toml missing path = loaded toml empty path := by
  refine ⟨fun config => ?_, fun other place filled more steps => ?_,
    fun missing empty absent content => ?_⟩
  · rw [← ofEntries_iff_says device timing scripts, loaded_document documents]
    cases ofEntries entries <;> simp
  · rw [loaded_document documents, loaded_document more, ofEntries_filled steps]
  · rw [loaded_missing toml absent, loaded_document (documents_empty blank content)]
    rfl

/-- In TOML, a delay that is the default anyway, a group without settings and a colour. -/
theorem defaults_hold_at_every_level_coloured :
    let disk := Disk.fresh.put ["work", "sparse.toml"]
      (.file "[timing]\nkey_gap_ms = 0\n".toUTF8)
    let other := Disk.fresh.put ["work", "ample.toml"]
      (.file "colour = 1\n[timing]\nkey_gap_ms = 0\nchar_delay_ms = 50\n[scripts]\n".toUTF8)
    let timingSettings : TimingSettings := { TimingSettings.standard with keyGapMs := 0 }
    ((load Disk.own "sparse.toml").run disk).1 = .ok { standard with timingSettings } ∧
      ((load Disk.own "ample.toml").run other).1 = .ok { standard with timingSettings } := by
  intro disk other timingSettings
  let gap : Entries := [("key_gap_ms", millis 0)]
  let timed : Entries := gap ++ [("char_delay_ms", millis 50)]
  let sparse : Entries := [("timing", .table .header gap)]
  let fuller : Entries := [("timing", .table .header timed)]
  let grouped : Entries := fuller ++ [("scripts", .table .header [])]
  let ample : Entries := ("colour", .integer 1) :: grouped
  have documents : Documents Toml.parse disk "sparse.toml" sparse := by
    refine ⟨"[timing]\nkey_gap_ms = 0\n", ?_, rfl⟩
    rw [Disk.read, Disk.find, Disk.locate, String.contains_char_eq]
    rfl
  have documents' : Documents Toml.parse other "ample.toml" ample := by
    refine ⟨"colour = 1\n[timing]\nkey_gap_ms = 0\nchar_delay_ms = 50\n[scripts]\n", ?_, rfl⟩
    rw [Disk.read, Disk.find, Disk.locate, String.contains_char_eq]
    rfl
  -- One step for each thing that the second file has beside the first.
  have delay : Adds timingDefaults gap timed :=
    .omitted rfl (rfl : timingDefaults.lookup "char_delay_ms" = _) (puts_between gap [] _ rfl)
  have timing : Fills sparse fuller :=
    .inGroup (rfl : groups.lookup "timing" = _) rfl delay
      ⟨rfl, fun name apart => by simp [sparse, fuller, List.lookup_cons, beq_false_of_ne apart]⟩
  have scripts : Fills fuller grouped :=
    .newGroup (rfl : groups.lookup "scripts" = _) rfl .refl (puts_between fuller [] _ rfl)
  have colour : Fills grouped ample :=
    .unknown (rfl : groups.lookup "colour" = _) (by decide) (puts_between [] grouped _ rfl)
  obtain ⟨reads, same, -⟩ :=
    defaults_hold_at_every_level (rfl : Toml.parse "" = _) documents (.inl rfl)
      (.inr ⟨_, _, rfl⟩) (.inl rfl)
  have read : loaded Toml.parse disk "sparse.toml" = .ok { standard with timingSettings } := by
    rw [reads]
    exact ⟨.inr ⟨rfl, rfl⟩, .inr ⟨rfl, rfl⟩, .inr ⟨rfl, rfl⟩, .inl rfl, .inr ⟨rfl, rfl⟩,
      .inr ⟨rfl, rfl⟩, .inr ⟨rfl, rfl⟩⟩
  have filled : Relation.ReflTransGen Fills sparse ample :=
    ((Relation.ReflTransGen.single timing).tail scripts).tail colour
  exact ⟨read, (same other "ample.toml" ample documents' filled).trans read⟩

end KeyGadget.Config
