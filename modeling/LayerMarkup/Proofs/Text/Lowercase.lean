import LayerMarkup.Text.Lowercase

/-!
# Laws of lower-casing

An ASCII text is lower-cased character by character (`lowerAfter_of_ascii`).  Outside of ASCII two
characters have a lower-case form that begins with an ASCII letter: the dotted capital I and the
Kelvin sign (`LowersToAscii`).  Any other one becomes one character, which is outside of ASCII as
well (`exists_lowerAfter_cons`), wherever it stands in a text.
-/

namespace LayerMarkup.Text

variable {c : Char} {before rest : List Char}

/-- The dotted capital I or the Kelvin sign: outside of ASCII, but not in lower case. -/
def LowersToAscii (c : Char) : Prop := c.toNat = 0x130 ∨ c.toNat = 0x212A

instance (c : Char) : Decidable (LowersToAscii c) := instDecidableOr

/-- ASCII characters are few enough to look at each. -/
theorem forall_ascii {P : Char → Prop} (hall : ∀ n < 128, P (Char.ofNat n)) (hc : c.toNat < 128) :
    P c := by
  have hone := hall c.toNat hc
  rwa [Char.ofNat_toNat] at hone

theorem lowerAfter_cons_of_ascii (hc : c.toNat < 128) :
    lowerAfter before (c :: rest) = c.toLower :: lowerAfter (c :: before) rest := by
  have hsigma : ¬ (c.toNat == 0x3A3) = true := by
    rw [beq_iff_eq]
    omega
  rw [lowerAfter, if_neg hsigma, lowerChar, if_pos hc]
  rfl

theorem lowerAfter_of_ascii {cs : List Char} (hcs : ∀ c ∈ cs, c.toNat < 128) :
    lowerAfter before cs = cs.map Char.toLower := by
  induction cs generalizing before with
  | nil => rfl
  | cons c cs ih =>
    rw [lowerAfter_cons_of_ascii (hcs c List.mem_cons_self), List.map_cons,
      ih fun d hd => hcs d (List.mem_cons_of_mem _ hd)]

/-- The runs of the table lead to code points outside of ASCII that are characters, apart from that
of the ASCII capitals and that of the Kelvin sign. -/
theorem caseRuns_lead : ∀ run ∈ caseRuns, run.2.1 < 128 ∨ (run.1 = 0x212A ∧ run.2.1 = 0x212A) ∨
    (128 ≤ run.1 + run.2.2.2 ∧ run.2.1 + run.2.2.2 < 0xD800) ∨
      (0xE000 ≤ run.1 + run.2.2.2 ∧ run.2.1 + run.2.2.2 < 0x110000) := by
  decide +kernel

/-- The lower-case form of a single code point outside of ASCII is a character outside of ASCII. -/
theorem le_toNat_lowerCodePoint (hc : 128 ≤ c.toNat) (hkelvin : c.toNat ≠ 0x212A) :
    128 ≤ (Char.ofNat (lowerCodePoint c.toNat)).toNat := by
  rw [lowerCodePoint]
  cases hfound : caseRuns.find? fun run =>
      run.1 ≤ c.toNat && c.toNat ≤ run.2.1 && (c.toNat - run.1) % run.2.2.1 == 0 with
  | none =>
    show 128 ≤ (Char.ofNat c.toNat).toNat
    rwa [Char.ofNat_toNat]
  | some run =>
    have hrun : run.1 ≤ c.toNat ∧ c.toNat ≤ run.2.1 := by
      have hholds := List.find?_some hfound
      rw [Bool.and_eq_true, Bool.and_eq_true, decide_eq_true_eq, decide_eq_true_eq] at hholds
      exact hholds.1
    -- A run is moved as a whole, so its ends tell where the code point goes.
    have hlead : 128 ≤ (c.toNat + run.2.2.2).toNat ∧ (c.toNat + run.2.2.2).toNat.isValidChar := by
      rw [Nat.isValidChar]
      have hbounds := caseRuns_lead run (List.mem_of_find?_eq_some hfound)
      omega
    show 128 ≤ (Char.ofNat (c.toNat + run.2.2.2).toNat).toNat
    rw [Char.ofNat, dif_pos hlead.2]
    exact hlead.1

/-- A character outside of ASCII becomes one outside of ASCII, apart from the two that do not. -/
theorem exists_lowerAfter_cons (hc : 128 ≤ c.toNat) (hplain : ¬ LowersToAscii c) :
    ∃ d : Char, 128 ≤ d.toNat ∧ lowerAfter before (c :: rest) = d :: lowerAfter (c :: before) rest := by
  obtain ⟨hdotted, hkelvin⟩ := not_or.mp hplain
  by_cases hsigma : c.toNat = 0x3A3
  · refine ⟨Char.ofNat (if isFinalSigma before rest then 0x3C2 else 0x3C3), ?_, ?_⟩
    · split <;> decide
    · rw [lowerAfter, if_pos (beq_iff_eq.mpr hsigma)]
      rfl
  · refine ⟨Char.ofNat (lowerCodePoint c.toNat), le_toNat_lowerCodePoint hc hkelvin, ?_⟩
    have hbeyond : ¬ c.toNat < 128 := by omega
    rw [lowerAfter, if_neg (mt beq_iff_eq.mp hsigma), lowerChar, if_neg hbeyond,
      if_neg (mt beq_iff_eq.mp hdotted)]
    rfl

end LayerMarkup.Text
