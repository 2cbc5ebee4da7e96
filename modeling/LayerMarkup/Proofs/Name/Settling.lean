import LayerMarkup.Proofs.Name.Letters
import Mathlib.Data.List.Chain

/-!
# Names that stay what they are

A word that is run together with the one before it can be told from it only behind a small letter,
so a name that is read again may have fewer words: `u-button` becomes `UButton`, and this, one word,
becomes `Ubutton`.  The names that stay what they are consist of letters and digits, do not begin
with a small letter, and have their capitals behind small letters (`IsPascal`,
`pascalCase_eq_self_iff`).  Every name that was read twice is one of them: the first reading leaves
letters and digits that begin with no small letter, and the second one makes capitals behind small
letters only, which stay small (`isPascal_pascalAfter`).
-/

namespace LayerMarkup.Name

variable {name : String} {previous : Option Char} {p q c : Char} {cs : List Char}

/-- A capital has a small letter before it. -/
def CapitalBehindSmall (p c : Char) : Prop := isCapital c = true → isSmall p = true

instance (p c : Char) : Decidable (CapitalBehindSmall p c) :=
  inferInstanceAs (Decidable (_ → _))

/-- Letters and digits that are their own words run together. -/
structure IsPascal (cs : List Char) : Prop where
  tagChars : ∀ c ∈ cs, isTagChar c = true
  /-- The first character is a capital or a digit. -/
  begins : ∀ c ∈ cs.head?, isSmall c = false
  /-- Every capital behind the first character has a small letter immediately before it. -/
  capitals : cs.IsChain CapitalBehindSmall

/-- The clauses in a form that is computed: of the first character it asks no question about all
characters. -/
theorem isPascal_iff :
    IsPascal cs ↔ cs.all isTagChar = true ∧ cs.head?.any isSmall = false ∧
      cs.IsChain CapitalBehindSmall := by
  rw [List.all_eq_true, Option.any_eq_false]
  exact ⟨fun h => ⟨h.tagChars, h.begins, h.capitals⟩, fun h => ⟨h.1, h.2.1, h.2.2⟩⟩

instance (cs : List Char) : Decidable (IsPascal cs) := decidable_of_iff' _ isPascal_iff

/-- What a letter or digit becomes when it is read after `previous`. -/
def letterAfter (previous : Option Char) (c : Char) : Char :=
  if beginsWord previous c then c.toUpper else c.toLower

theorem pascalAfter_cons_of_isTagChar (hc : isTagChar c = true) :
    pascalAfter previous (c :: cs) = letterAfter previous c :: pascalAfter (some c) cs := by
  rw [pascalAfter, if_pos hc, letterAfter]

theorem toUpper_eq_self_iff (hc : isTagChar c = true) : c.toUpper = c ↔ isSmall c = false :=
  Text.forall_ascii (P := fun c => isTagChar c = true → (c.toUpper = c ↔ isSmall c = false)) (by decide)
    (toNat_lt_of_isTagChar hc) hc

theorem toLower_eq_self_iff (hc : isTagChar c = true) : c.toLower = c ↔ isCapital c = false :=
  Text.forall_ascii (P := fun c => isTagChar c = true → (c.toLower = c ↔ isCapital c = false))
    (by decide) (toNat_lt_of_isTagChar hc) hc

theorem isCapital_toLower (hc : isTagChar c = true) : isCapital c.toLower = false :=
  Text.forall_ascii (P := fun c => isTagChar c = true → isCapital c.toLower = false) (by decide)
    (toNat_lt_of_isTagChar hc) hc

/-- A letter or digit behind another one stays what it is unless it is a capital inside a word. -/
theorem letterAfter_eq_self_iff (hc : isTagChar c = true) :
    letterAfter (some p) c = c ↔ CapitalBehindSmall p c := by
  rw [letterAfter, beginsWord, CapitalBehindSmall]
  split
  · rename_i hbegins
    rw [Bool.and_eq_true] at hbegins
    have hupper : c.toUpper = c :=
      (toUpper_eq_self_iff hc).mpr (isSmall_eq_false_of_isCapital hbegins.2)
    exact iff_of_true hupper fun _ => hbegins.1
  · rename_i hinside
    rw [toLower_eq_self_iff hc]
    cases hcapital : isCapital c with
    | false => simp
    | true =>
      have hp : isSmall p = false := by simpa [hcapital] using hinside
      simp [hp]

/-- Capitals are made behind small letters only. -/
theorem isSmall_of_isCapital_letterAfter (hc : isTagChar c = true)
    (hcapital : isCapital (letterAfter (some p) c) = true) : isSmall p = true := by
  rw [letterAfter] at hcapital
  split at hcapital
  · rename_i hbegins
    rw [beginsWord, Bool.and_eq_true] at hbegins
    exact hbegins.1
  · rw [isCapital_toLower hc] at hcapital
    cases hcapital

/-- A small letter behind another letter or digit stays small. -/
theorem isSmall_letterAfter (hc : isSmall c = true) : isSmall (letterAfter (some p) c) = true := by
  have hnone : CapitalBehindSmall p c := by
    intro hcapital
    rw [isCapital_eq_false_of_isSmall hc] at hcapital
    cases hcapital
  rw [(letterAfter_eq_self_iff (isTagChar_of_isSmall hc)).mpr hnone, hc]

/-- Letters and digits stay what they are behind `p` just when all capitals have small letters
before them. -/
theorem pascalAfter_some_eq_self_iff (hcs : ∀ c ∈ cs, isTagChar c = true) :
    pascalAfter (some p) cs = cs ↔ (p :: cs).IsChain CapitalBehindSmall := by
  induction cs generalizing p with
  | nil => simp [pascalAfter]
  | cons c cs ih =>
    rw [List.forall_mem_cons] at hcs
    rw [pascalAfter_cons_of_isTagChar hcs.1, List.cons.injEq, letterAfter_eq_self_iff hcs.1, ih hcs.2,
      List.isChain_cons_cons]

theorem pascalAfter_none_eq_self_iff : pascalAfter none cs = cs ↔ IsPascal cs := by
  constructor
  · intro hself
    have htag : ∀ c ∈ cs, isTagChar c = true := hself ▸ isTagChar_of_mem_pascalAfter
    have hbegins : ∀ c ∈ cs.head?, isSmall c = false := hself ▸ isSmall_of_mem_head?_pascalAfter
    refine ⟨htag, hbegins, ?_⟩
    cases cs with
    | nil => exact List.isChain_nil
    | cons c cs =>
      rw [List.forall_mem_cons] at htag
      rw [pascalAfter_cons_of_isTagChar htag.1, List.cons.injEq] at hself
      exact (pascalAfter_some_eq_self_iff htag.2).mp hself.2
  · rintro ⟨htag, hbegins, hcapitals⟩
    cases cs with
    | nil => rfl
    | cons c cs =>
      rw [List.forall_mem_cons] at htag
      have hfirst : letterAfter none c = c := (toUpper_eq_self_iff htag.1).mpr (hbegins c rfl)
      rw [pascalAfter_cons_of_isTagChar htag.1, hfirst,
        (pascalAfter_some_eq_self_iff htag.2).mpr hcapitals]

/-- The names that stay what they are when their words are run together. -/
theorem pascalCase_eq_self_iff : pascalCase name = name ↔ IsPascal name.toList := by
  rw [← String.toList_inj, toList_pascalCase_eq]
  exact pascalAfter_none_eq_self_iff

/-- What is made of letters and digits behind `p` has its capitals behind small letters, also the
first one, if what was made of `p` is small where `p` is. -/
theorem isChain_pascalAfter (hcs : ∀ c ∈ cs, isTagChar c = true)
    (hsmall : isSmall p = true → isSmall q = true) :
    (q :: pascalAfter (some p) cs).IsChain CapitalBehindSmall := by
  -- A capital begins a word behind a small letter, and that letter, which begins none, was kept
  -- small.
  induction cs generalizing p q with
  | nil => exact List.isChain_singleton q
  | cons c cs ih =>
    rw [List.forall_mem_cons] at hcs
    rw [pascalAfter_cons_of_isTagChar hcs.1, List.isChain_cons_cons]
    exact ⟨fun hcapital => hsmall (isSmall_of_isCapital_letterAfter hcs.1 hcapital),
      ih hcs.2 isSmall_letterAfter⟩

/-- Letters and digits that begin with no small letter are settled by one reading. -/
theorem isPascal_pascalAfter (hcs : ∀ c ∈ cs, isTagChar c = true)
    (hbegins : ∀ c ∈ cs.head?, isSmall c = false) : IsPascal (pascalAfter none cs) := by
  refine ⟨isTagChar_of_mem_pascalAfter, isSmall_of_mem_head?_pascalAfter, ?_⟩
  cases cs with
  | nil => exact List.isChain_nil
  | cons c cs =>
    rw [List.forall_mem_cons] at hcs
    rw [pascalAfter_cons_of_isTagChar hcs.1]
    have hnotSmall : isSmall c = false := hbegins c rfl
    exact isChain_pascalAfter hcs.2 fun hsmall =>
      absurd (hnotSmall.symm.trans hsmall) Bool.false_ne_true

/-- The first reading of a name leaves letters and digits that begin with no small letter; the
second one settles them. -/
theorem isPascal_pascalCase_pascalCase : IsPascal (pascalCase (pascalCase name)).toList := by
  have hbegins : ∀ c ∈ (pascalCase name).toList.head?, isSmall c = false := by
    rw [toList_pascalCase_eq]
    exact isSmall_of_mem_head?_pascalAfter
  rw [toList_pascalCase_eq]
  exact isPascal_pascalAfter isTagChar_of_mem_pascalCase hbegins

/-- Whatever a name is, its words run together twice stay what they are the third time.  The names
that stay what they are at once are exactly those of letters and digits that do not begin with a
small letter and have a small letter immediately before every capital behind the first character. -/
theorem pascalCase_settles (name : String) :
    pascalCase (pascalCase (pascalCase name)) = pascalCase (pascalCase name) ∧
      (pascalCase name = name ↔ IsPascal name.toList) :=
  ⟨pascalCase_eq_self_iff.mpr isPascal_pascalCase_pascalCase, pascalCase_eq_self_iff⟩

/-- Once is not enough: a word of one letter is lost in the one that follows it. -/
example : pascalCase "u-button" = "UButton" ∧ ¬ IsPascal "UButton".toList ∧
    pascalCase "UButton" = "Ubutton" ∧ IsPascal "Ubutton".toList := by
  decide +kernel

end LayerMarkup.Name
