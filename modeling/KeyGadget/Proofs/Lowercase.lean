import KeyGadget.Text.Case

/-!
# Full lowercase

Lowercase is reached at once: what it makes of a text is not changed by it again. A character beyond
ASCII leaves something beyond ASCII, with one exception, the Kelvin sign, whose lowercase is the
letter k.

## Main results

`lowercase_lowercase`: full lowercase is idempotent. `exists_beyond_of_mem`: only the Kelvin sign is
taken for a letter of ASCII.
-/
namespace KeyGadget.Text

/-- The sign for the unit of temperature, which has the lowercase of the letter K. -/
def kelvin : Char := '\u212A'

/-- What holds of every character of ASCII, checked one by one. -/
theorem forall_ascii {p : Char → Prop} (all : ∀ n : Fin 0x80, p (Char.ofNat n)) (c : Char)
    (ascii : c.toNat < 0x80) : p c := by
  have own := all ⟨c.toNat, ascii⟩
  rwa [Char.ofNat_toNat] at own

theorem toUpper_of_beyond (c : Char) (beyond : 0x80 ≤ c.toNat) : c.toUpper = c := by
  have range : ¬('a'.val ≤ c.val ∧ c.val ≤ 'z'.val) := by
    rintro ⟨-, below⟩
    have small : c.toNat ≤ 122 := below
    omega
  exact dif_neg range

theorem toNat_toLower (c : Char) :
    c.toLower.toNat = if 65 ≤ c.toNat ∧ c.toNat ≤ 90 then c.toNat + 32 else c.toNat := by
  have range : 'A'.val ≤ c.val ∧ c.val ≤ 'Z'.val ↔ 65 ≤ c.toNat ∧ c.toNat ≤ 90 := Iff.rfl
  have shift : ('a'.val - 'A'.val).toNat = 32 := rfl
  delta Char.toLower
  by_cases upper : 65 ≤ c.toNat ∧ c.toNat ≤ 90
  · rw [dif_pos (range.mpr upper), if_pos upper]
    change (c.val + ('a'.val - 'A'.val)).toNat = c.val.toNat + 32
    have small : c.val.toNat ≤ 90 := upper.2
    rw [UInt32.toNat_add, shift]
    omega
  · rw [dif_neg ((not_congr range).mpr upper), if_neg upper]

/-- The characters that are a letter in lower case are the letter in either case. -/
theorem toLower_eq_iff (c upper lower : Char) (letter : 65 ≤ upper.toNat ∧ upper.toNat ≤ 90)
    (pair : lower.toNat = upper.toNat + 32) : c.toLower = lower ↔ c = upper ∨ c = lower := by
  rw [← Char.toNat_inj, ← Char.toNat_inj, ← Char.toNat_inj, toNat_toLower, pair]
  split <;> omega

theorem toUpper_toLower (c : Char) : c.toLower.toUpper = c.toUpper := by
  by_cases ascii : c.toNat < 0x80
  · exact forall_ascii (p := fun c => c.toLower.toUpper = c.toUpper) (by decide) c ascii
  · have same : c.toLower = c := by rw [← Char.toNat_inj, toNat_toLower, if_neg (by omega)]
    rw [same]

theorem asciiUpper_asciiLower (s : List Char) : asciiUpper (asciiLower s) = asciiUpper s := by
  rw [asciiUpper, asciiLower, List.map_map]
  exact List.map_congr_left fun c _ => toUpper_toLower c

theorem ascii_of_asciiLower {s : List Char} (ascii : ∀ c ∈ asciiLower s, c.toNat < 0x80) :
    ∀ c ∈ s, c.toNat < 0x80 := by
  intro c member
  have small := ascii c.toLower (List.mem_map_of_mem member)
  rw [toNat_toLower] at small
  split at small <;> omega

/-! ### The table of lowercase -/

theorem CaseRun.covers_iff (run : CaseRun) (n : Nat) :
    run.covers n = true ↔ run.first ≤ n ∧ n ≤ run.last ∧ (n - run.first) % run.step = 0 := by
  simp [covers, and_assoc]

/-- What a run of the table leads to are characters, and they are beyond ASCII unless the run is
that of the Kelvin sign. -/
structure CaseRun.Sound (run : CaseRun) : Prop where
  valid : run.target + (run.last - run.first) < 0xD800 ∨
    0xE000 ≤ run.target ∧ run.target + (run.last - run.first) < 0x110000
  undotted : run.target + (run.last - run.first) < 0x130 ∨ 0x130 < run.target
  beyond : 0x80 ≤ run.target ∨ run = ⟨0x212A, 0x212A, 1, 0x6B⟩

private theorem lowerRuns_sound (run : CaseRun) (listed : run ∈ lowerRuns) : run.Sound := by
  have all : ∀ run ∈ lowerRuns,
      (run.target + (run.last - run.first) < 0xD800 ∨
        0xE000 ≤ run.target ∧ run.target + (run.last - run.first) < 0x110000) ∧
      (run.target + (run.last - run.first) < 0x130 ∨ 0x130 < run.target) ∧
      (0x80 ≤ run.target ∨ run = ⟨0x212A, 0x212A, 1, 0x6B⟩) := by decide +kernel
  obtain ⟨valid, undotted, beyond⟩ := all run listed
  exact ⟨valid, undotted, beyond⟩

/-- Whether what a run leads to lies before or behind another run, or between the members of it. -/
def CaseRun.avoids (run other : CaseRun) : Bool :=
  other.last < run.target || run.target + (run.last - run.first) < other.first ||
    ((run.step == 2 || run.first == run.last) && other.step == 2 &&
      (run.target + other.first) % 2 == 1)

private theorem lowerRuns_avoid : (lowerRuns.all fun run => lowerRuns.all run.avoids) = true := by
  decide +kernel

/-- What a run leads to is covered by no run. -/
private theorem uncovered (run other : CaseRun) (listed : run ∈ lowerRuns)
    (listed' : other ∈ lowerRuns) (n : Nat) (covers : run.covers n = true) :
    other.covers (run.target + (n - run.first)) = false := by
  have avoids : run.avoids other = true :=
    List.all_eq_true.mp (List.all_eq_true.mp lowerRuns_avoid run listed) other listed'
  obtain ⟨low, high, steps⟩ := (run.covers_iff n).mp covers
  rw [← Bool.not_eq_true, other.covers_iff]
  rintro ⟨low', high', steps'⟩
  simp only [CaseRun.avoids, Bool.or_eq_true, Bool.and_eq_true, decide_eq_true_eq, beq_iff_eq]
    at avoids
  rcases avoids with (before | behind) | ⟨⟨even | single, even'⟩, odd⟩
  · omega
  · omega
  · -- The two runs take turns, so their members differ by an odd number.
    rw [even] at steps
    rw [even'] at steps'
    omega
  · rw [even'] at steps'
    omega

private theorem toNat_ofNat_of_valid (n : Nat) (valid : n.isValidChar) :
    (Char.ofNat n).toNat = n := by
  rw [Char.ofNat, dif_pos valid]
  rfl

/-- The lowercase of a character beyond ASCII is the character itself, or what its run says. -/
theorem lowerChar_cases (c : Char) (beyond : 0x80 ≤ c.toNat) (undotted : c.toNat ≠ 0x130) :
    (lowerChar c = [c] ∧ ∀ run ∈ lowerRuns, run.covers c.toNat = false) ∨
      ∃ run ∈ lowerRuns, run.covers c.toNat = true ∧
        ∃ d : Char, lowerChar c = [d] ∧ d.toNat = run.target + (c.toNat - run.first) := by
  rw [lowerChar, if_neg (by omega), if_neg undotted]
  cases found : lowerRuns.find? (·.covers c.toNat) with
  | none =>
    refine .inl ⟨rfl, fun run listed => ?_⟩
    simpa using List.find?_eq_none.mp found run listed
  | some run =>
    have listed := List.mem_of_find?_eq_some found
    have covers : run.covers c.toNat = true := by simpa using List.find?_some found
    obtain ⟨low, high, -⟩ := (run.covers_iff _).mp covers
    refine .inr ⟨run, listed, covers, _, rfl, toNat_ofNat_of_valid _ ?_⟩
    rcases (lowerRuns_sound run listed).valid with small | large
    · exact .inl (by omega)
    · exact .inr (by omega)

/-- A character beyond ASCII stays beyond it in lower case, unless it is the Kelvin sign. -/
theorem exists_beyond_lowerChar (c : Char) (beyond : 0x80 ≤ c.toNat) (other : c ≠ kelvin) :
    ∃ d ∈ lowerChar c, 0x80 ≤ d.toNat := by
  -- The capital I with a dot has a rule of its own.
  by_cases dotted : c.toNat = 0x130
  · obtain rfl : c = '\u0130' := Char.toNat_inj.mp dotted
    exact ⟨'\u0307', by decide, by decide⟩
  rcases lowerChar_cases c beyond dotted with ⟨same, -⟩ | ⟨run, listed, covers, d, same, place⟩
  · exact ⟨c, by rw [same, List.mem_singleton], beyond⟩
  · refine ⟨d, by rw [same, List.mem_singleton], ?_⟩
    obtain ⟨low, high, -⟩ := (run.covers_iff _).mp covers
    rcases (lowerRuns_sound run listed).beyond with above | rfl
    · omega
    · have same : c.toNat = kelvin.toNat := Nat.le_antisymm high low
      exact absurd (Char.toNat_inj.mp same) other

/-! ### Lowercase is settled -/

/-- A character that full lowercase leaves as it is, wherever it stands. -/
def Settled (c : Char) : Prop :=
  c.toNat ≠ 0x3A3 ∧ lowerChar c = [c]

instance (c : Char) : Decidable (Settled c) :=
  inferInstanceAs (Decidable (_ ∧ _))

/-- A character that no run covers is settled, unless it has a rule of its own. -/
private theorem settled_of_uncovered (c : Char) (beyond : 0x80 ≤ c.toNat)
    (undotted : c.toNat ≠ 0x130) (free : ∀ run ∈ lowerRuns, run.covers c.toNat = false) :
    Settled c := by
  constructor
  · intro sigma
    have covered : ∃ run ∈ lowerRuns, run.covers 0x3A3 = true := by decide +kernel
    obtain ⟨run, listed, covers⟩ := covered
    rw [← sigma, free run listed] at covers
    cases covers
  · rcases lowerChar_cases c beyond undotted with ⟨same, -⟩ | ⟨run, listed, covers, -⟩
    · exact same
    · rw [free run listed] at covers
      cases covers

theorem settled_of_mem_lowerChar (c d : Char) (noSigma : c.toNat ≠ 0x3A3)
    (member : d ∈ lowerChar c) : Settled d := by
  by_cases ascii : c.toNat < 0x80
  · have all : ∀ n : Fin 0x80, (lowerChar (Char.ofNat n)).all (Settled ·) = true := by
      decide +kernel
    have own := forall_ascii (p := fun c => (lowerChar c).all (Settled ·) = true) all c ascii
    exact of_decide_eq_true (List.all_eq_true.mp own d member)
  by_cases dotted : c.toNat = 0x130
  · obtain rfl : c = '\u0130' := Char.toNat_inj.mp dotted
    have both : (lowerChar '\u0130').all (Settled ·) = true := by decide +kernel
    exact of_decide_eq_true (List.all_eq_true.mp both d member)
  rcases lowerChar_cases c (by omega) dotted with ⟨same, -⟩ | ⟨run, listed, covers, e, same, place⟩
  · rw [same, List.mem_singleton] at member
    exact member ▸ ⟨noSigma, same⟩
  · rw [same, List.mem_singleton] at member
    subst d
    obtain ⟨low, high, -⟩ := (run.covers_iff _).mp covers
    have sound := lowerRuns_sound run listed
    -- A run leads to characters that no run covers, or it is that of the Kelvin sign.
    rcases sound.beyond with above | rfl
    · refine settled_of_uncovered e (by omega) ?_ fun other listed' => ?_
      · have undotted := sound.undotted
        omega
      · rw [place]
        exact uncovered run other listed listed' _ covers
    · have letter : e.toNat = 'k'.toNat := by
        rw [place, Nat.sub_eq_zero_of_le high]
        rfl
      obtain rfl : e = 'k' := Char.toNat_inj.mp letter
      decide

theorem settled_of_mem_lowerAfter (before s : List Char) :
    ∀ d ∈ lowerAfter before s, Settled d := by
  induction s generalizing before with
  | nil => simp [lowerAfter]
  | cons c rest ih =>
    rw [lowerAfter]
    refine List.forall_mem_append.mpr ⟨fun d member => ?_, ih (c :: before)⟩
    split at member
    · -- Either form of the small sigma is settled.
      have final : Settled '\u03C2' := by decide +kernel
      have medial : Settled '\u03C3' := by decide +kernel
      rw [List.mem_singleton] at member
      subst d
      split
      · exact final
      · exact medial
    next noSigma => exact settled_of_mem_lowerChar c d noSigma member

theorem lowerAfter_of_settled (before s : List Char) (settled : ∀ c ∈ s, Settled c) :
    lowerAfter before s = s := by
  induction s generalizing before with
  | nil => rfl
  | cons c rest ih =>
    obtain ⟨⟨noSigma, own⟩, others⟩ := List.forall_mem_cons.mp settled
    rw [lowerAfter, if_neg noSigma, own, ih (c :: before) others]
    rfl

/-- Full lowercase is idempotent. -/
theorem lowercase_lowercase (s : List Char) : lowercase (lowercase s) = lowercase s :=
  lowerAfter_of_settled [] _ (settled_of_mem_lowerAfter [] s)

/-! ### Lowercase and ASCII -/

theorem lowercase_of_ascii (s : List Char) (ascii : ∀ c ∈ s, c.toNat < 0x80) :
    lowercase s = asciiLower s := by
  have all : ∀ before, lowerAfter before s = asciiLower s := by
    induction s with
    | nil => intro before; rfl
    | cons c rest ih =>
      intro before
      obtain ⟨own, others⟩ := List.forall_mem_cons.mp ascii
      rw [lowerAfter, if_neg (by omega), lowerChar, if_pos own, ih others]
      rfl
  exact all []

/-- What holds of a character in whatever way it is lowered holds of a character of the lowered
text. -/
private theorem exists_mem_lowercase {q : Char → Prop} (s : List Char) (c : Char) (member : c ∈ s)
    (own : ∃ d ∈ lowerChar c, q d) (sigma : c.toNat = 0x3A3 → q '\u03C2' ∧ q '\u03C3') :
    ∃ d ∈ lowercase s, q d := by
  have all : ∀ before, ∃ d ∈ lowerAfter before s, q d := by
    induction s with
    | nil => cases member
    | cons e rest ih =>
      intro before
      rw [lowerAfter]
      rcases List.mem_cons.mp member with rfl | behind
      · obtain ⟨d, found, holds⟩ := own
        split
        next isSigma =>
          obtain ⟨final, medial⟩ := sigma isSigma
          split
          · exact ⟨_, List.mem_cons_self, final⟩
          · exact ⟨_, List.mem_cons_self, medial⟩
        next => exact ⟨d, List.mem_append_left _ found, holds⟩
      · obtain ⟨d, found, holds⟩ := ih behind (e :: before)
        exact ⟨d, List.mem_append_right _ found, holds⟩
  exact all []

/-- Whatever is beyond ASCII leaves something beyond ASCII, unless it is the Kelvin sign. -/
theorem exists_beyond_of_mem (s : List Char) (c : Char) (member : c ∈ s)
    (beyond : 0x80 ≤ c.toNat) (other : c ≠ kelvin) : ∃ d ∈ lowercase s, 0x80 ≤ d.toNat :=
  exists_mem_lowercase s c member (exists_beyond_lowerChar c beyond other) fun _ => by decide

theorem k_mem_lowercase (s : List Char) (member : kelvin ∈ s) : 'k' ∈ lowercase s := by
  have own : ∃ d ∈ lowerChar kelvin, d = 'k' := ⟨'k', by decide +kernel, rfl⟩
  obtain ⟨d, found, rfl⟩ :=
    exists_mem_lowercase (q := (· = 'k')) s kelvin member own fun sigma => absurd sigma (by decide)
  exact found

end KeyGadget.Text
