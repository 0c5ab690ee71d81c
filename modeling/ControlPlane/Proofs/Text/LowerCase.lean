import ControlPlane.Text.Lower

/-!
# Lower case is final

Lower-casing a text a second time changes nothing (`lower_lower`). It is a fact about the tables:
every character that lower-casing gives out, by a run of letters, for a sigma or for a dotted `I`,
is one that maps to itself (`isLower`), whatever stands beside it.

For a run of letters this means that no other run holds what it leads to. `CaseRun.avoids` compares
two runs by their ends and, where they lie across each other, by parity; the table is then checked
pair by pair rather than letter by letter.
-/

namespace ControlPlane.Text

/-- Lower-casing maps the character to itself alone, whatever stands beside it. -/
def isLower (c : Char) : Bool := lowerChar c = c && c ≠ 'Σ' && c ≠ 'İ'

/-- The code point that a run leads to from its first. -/
def CaseRun.lowest (r : CaseRun) : Nat := (r.first + r.shift).toNat

/-- The code point that a run leads to from its last. -/
def CaseRun.highest (r : CaseRun) : Nat := (r.last + r.shift).toNat

/-- A run leads to no code point that another run holds: it ends before that run or begins behind
it, or one takes the odd places of a stretch and the other the even ones. -/
def CaseRun.avoids (r r' : CaseRun) : Bool :=
  Nat.blt r.highest r'.first || Nat.blt r'.last r.lowest ||
    ((Nat.beq r.stride 2 || Nat.beq r.first r.last) && Nat.beq r'.stride 2 &&
      Nat.beq ((r.lowest + r'.first) % 2) 1)

/-- A run leads to characters only: not below zero, not among the surrogates, not beyond the last
code point. -/
def CaseRun.isProper (r : CaseRun) : Bool :=
  decide (0 ≤ r.first + r.shift) &&
    (Nat.blt r.highest 0xD800 || (Nat.blt 0xDFFF r.lowest && Nat.blt r.highest 0x110000))

/-- The dotted `I` as a run. It has no lower-case form of one character. -/
def dottedRun : CaseRun := ⟨0x130, 0x130, 1, 0⟩

/-- Every run of the table leads to characters. -/
theorem lowerRuns_proper : (lowerRuns.all CaseRun.isProper) = true := by
  decide +kernel

/-- Every run of the table avoids all of them, and the dotted `I`. -/
theorem lowerRuns_avoid :
    (lowerRuns.all fun r => (dottedRun :: lowerRuns).all r.avoids) = true := by
  decide +kernel

/-- What a run leads to from a code point it holds is not held by a run that it avoids. -/
theorem CaseRun.not_holds {r r' : CaseRun} {n : Nat} (h : r.avoids r' = true)
    (hp : r.isProper = true) (hn : r.holds n = true) : r'.holds (n + r.shift).toNat = false := by
  unfold CaseRun.holds at hn
  unfold CaseRun.isProper at hp
  unfold CaseRun.avoids CaseRun.lowest CaseRun.highest at h
  simp only [Bool.and_eq_true, Bool.or_eq_true, decide_eq_true_eq, Nat.blt_eq, Nat.beq_eq]
    at h hn hp
  obtain ⟨⟨hfirst, hlast⟩, hstride⟩ := hn
  have hpos := hp.1
  rw [Bool.eq_false_iff]
  intro hn'
  unfold CaseRun.holds at hn'
  simp only [Bool.and_eq_true, decide_eq_true_eq] at hn'
  obtain ⟨⟨hfirst', hlast'⟩, hstride'⟩ := hn'
  rcases h with (h | h) | ⟨⟨h | h, h2⟩, hodd⟩
  -- The one ends before the other begins, or begins behind it.
  · omega
  · omega
  -- They lie across each other, and the code point is at an odd distance.
  · rw [h] at hstride
    rw [h2] at hstride'
    omega
  · rw [h2] at hstride'
    omega

/-- A character that no run holds maps to itself. -/
theorem lowerChar_of_not_holds {c : Char} (h : ∀ r ∈ lowerRuns, r.holds c.toNat = false) :
    lowerChar c = c := by
  have hfind : lowerRuns.find? (·.holds c.toNat) = none := by
    rw [List.find?_eq_none]
    intro r hr
    rw [h r hr]
    exact Bool.false_ne_true
  -- The letters of ASCII are a run as well.
  have hascii : ¬(0x41 ≤ c.toNat ∧ c.toNat ≤ 0x5A) := by
    have hletters := h ⟨0x41, 0x5A, 1, 32⟩ (by decide +kernel)
    unfold CaseRun.holds at hletters
    simp only [Nat.mod_one, decide_true, Bool.and_true, Bool.and_eq_false_iff,
      decide_eq_false_iff_not] at hletters
    omega
  unfold lowerChar
  split
  · refine dif_neg ?_
    rintro ⟨hfirst, hlast⟩
    exact hascii ⟨UInt32.le_iff_toNat_le.1 hfirst, UInt32.le_iff_toNat_le.1 hlast⟩
  · rw [hfind]

/-- A character that neither a run holds nor is the dotted `I` maps to itself alone. -/
theorem isLower_of_not_holds {c : Char}
    (h : ∀ r ∈ dottedRun :: lowerRuns, r.holds c.toNat = false) : isLower c = true := by
  have hruns : ∀ r ∈ lowerRuns, r.holds c.toNat = false := fun r hr =>
    h r (List.mem_cons_of_mem _ hr)
  have hlower : lowerChar c = c := lowerChar_of_not_holds hruns
  -- A run holds the sigma too.
  have hs : c ≠ 'Σ' := by
    rintro rfl
    have hsigma : (lowerRuns.any fun r => r.holds 'Σ'.toNat) = true := by decide +kernel
    obtain ⟨r, hr, hholds⟩ := List.any_eq_true.1 hsigma
    rw [hruns r hr] at hholds
    cases hholds
  have hi : c ≠ 'İ' := by
    rintro rfl
    have hdotted := h dottedRun List.mem_cons_self
    revert hdotted
    decide +kernel
  simp [isLower, hlower, hs, hi]

/-- What a run leads to is a character. -/
theorem CaseRun.toNat_ofNat {r : CaseRun} {n : Nat} (hp : r.isProper = true)
    (hn : r.holds n = true) : (Char.ofNat (n + r.shift).toNat).toNat = (n + r.shift).toNat := by
  have hvalid : (n + r.shift).toNat.isValidChar := by
    unfold CaseRun.holds at hn
    unfold CaseRun.isProper CaseRun.lowest CaseRun.highest at hp
    simp only [Bool.and_eq_true, Bool.or_eq_true, decide_eq_true_eq, Nat.blt_eq] at hn hp
    unfold Nat.isValidChar
    omega
  unfold Char.ofNat
  rw [dif_pos hvalid]
  rfl

/-- ASCII letters in lower case map to themselves. -/
theorem isLower_of_ascii : ∀ n < 128, isLower (Char.ofNat n).toLower = true := by
  decide +kernel

/-- A lowered character is lower, but for the two letters whose lowering takes more than the
character. -/
theorem isLower_lowerChar {c : Char} (hs : c ≠ 'Σ') (hi : c ≠ 'İ') :
    isLower (lowerChar c) = true := by
  unfold lowerChar
  split
  · next h =>
    have hascii := isLower_of_ascii c.toNat h
    rwa [Char.ofNat_toNat] at hascii
  · next h =>
    split
    -- What the run leads to is held by no run, as the run avoids them all.
    · next r hr =>
      have hmem : r ∈ lowerRuns := List.mem_of_find?_eq_some hr
      have hholds := List.find?_some hr
      have hproper := List.all_eq_true.1 lowerRuns_proper r hmem
      have havoids := List.all_eq_true.1 (List.all_eq_true.1 lowerRuns_avoid r hmem)
      refine isLower_of_not_holds fun r' hr' => ?_
      rw [CaseRun.toNat_ofNat hproper hholds]
      exact CaseRun.not_holds (havoids r' hr') hproper hholds
    · next hr => simp [isLower, lowerChar, h, hr, hs, hi]

/-- All that lower-casing gives out maps to itself, whatever comes before it. -/
theorem isLower_of_mem_lowerFrom {before s : List Char} {c : Char}
    (h : c ∈ lowerFrom before s) : isLower c = true := by
  induction s generalizing before with
  | nil => cases h
  | cons d rest ih =>
    unfold lowerFrom at h
    rcases List.mem_append.1 h with h | h
    · split at h
      -- A sigma becomes one of its two lower-case forms.
      · split at h <;> (cases List.mem_singleton.1 h; decide +kernel)
      · split at h
        -- A dotted letter becomes two characters.
        · rcases List.mem_cons.1 h with rfl | h
          · decide +kernel
          · cases List.mem_singleton.1 h
            decide +kernel
        · next hs hi =>
          cases List.mem_singleton.1 h
          exact isLower_lowerChar hs hi
    · exact ih h

/-- Text of lower characters is its own lowering, whatever stands before it. -/
theorem lowerFrom_of_isLower {before s : List Char} (h : ∀ c ∈ s, isLower c = true) :
    lowerFrom before s = s := by
  induction s generalizing before with
  | nil => rfl
  | cons c rest ih =>
    have hc := h c List.mem_cons_self
    simp only [isLower, Bool.and_eq_true, decide_eq_true_eq] at hc
    obtain ⟨⟨hsame, hs⟩, hi⟩ := hc
    unfold lowerFrom
    rw [if_neg hs, if_neg hi, hsame, ih fun d hd => h d (List.mem_cons_of_mem c hd)]
    rfl

/-- Lower-casing a text a second time changes nothing. -/
theorem lower_lower (s : String) : lower (lower s) = lower s := by
  unfold lower
  rw [String.toList_ofList, lowerFrom_of_isLower fun c hc => isLower_of_mem_lowerFrom hc]

end ControlPlane.Text
