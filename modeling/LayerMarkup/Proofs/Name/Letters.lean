import LayerMarkup.Config
import LayerMarkup.Proofs.Name.Passes

/-!
# The letters of tags

A tag has the letters and digits of the name that it is made of, in their order; only their case
changes (`lower_pascalCase`).  In front of them stands the common start of tags, unless they begin
with it (`lower_tag`).  So every tag begins with the start (`startsWith_lower_tag`), and gets no
second one when it is made into a tag again.  A tag that is a word of small letters is the bare
start (`tag_eq_iff_of_small`), since the words of a name begin with no small letter.
-/

namespace LayerMarkup.Name

variable {name start word : String} {previous : Option Char} {c : Char} {cs : List Char}

theorem isTagChar_toUpper (hc : isTagChar c = true) : isTagChar c.toUpper = true :=
  Text.forall_ascii (P := fun c => isTagChar c = true → isTagChar c.toUpper = true) (by decide)
    (toNat_lt_of_isTagChar hc) hc

theorem isSmall_toUpper (hc : isTagChar c = true) : isSmall c.toUpper = false :=
  Text.forall_ascii (P := fun c => isTagChar c = true → isSmall c.toUpper = false) (by decide)
    (toNat_lt_of_isTagChar hc) hc

theorem isTagChar_toLower_iff (hc : c.toNat < 128) : isTagChar c.toLower = true ↔ isTagChar c = true :=
  Text.forall_ascii (P := fun c => isTagChar c.toLower = true ↔ isTagChar c = true) (by decide) hc

theorem toLower_toUpper (hc : c.toNat < 128) : c.toUpper.toLower = c.toLower :=
  Text.forall_ascii (P := fun c => c.toUpper.toLower = c.toLower) (by decide) hc

theorem toLower_toLower (hc : c.toNat < 128) : c.toLower.toLower = c.toLower :=
  Text.forall_ascii (P := fun c => c.toLower.toLower = c.toLower) (by decide) hc

theorem isTagChar_of_mem_pascalAfter : ∀ c ∈ pascalAfter previous cs, isTagChar c = true := by
  induction cs generalizing previous with
  | nil => simp [pascalAfter]
  | cons c cs ih =>
    rw [pascalAfter]
    split
    · rename_i hc
      rw [List.forall_mem_cons]
      refine ⟨?_, ih⟩
      split
      · exact isTagChar_toUpper hc
      · exact (isTagChar_toLower_iff (toNat_lt_of_isTagChar hc)).mpr hc
    · exact ih

/-- Running words together changes the case of tag characters and leaves out all others. -/
theorem map_toLower_pascalAfter :
    (pascalAfter previous cs).map Char.toLower = (cs.filter isTagChar).map Char.toLower := by
  induction cs generalizing previous with
  | nil => rfl
  | cons c cs ih =>
    by_cases hc : isTagChar c = true
    · have hascii := toNat_lt_of_isTagChar hc
      rw [pascalAfter, if_pos hc, List.filter_cons_of_pos hc, List.map_cons, List.map_cons, ih]
      split
      · rw [toLower_toUpper hascii]
      · rw [toLower_toLower hascii]
    · rw [pascalAfter, if_neg hc, List.filter_cons_of_neg hc]
      exact ih

theorem isTagChar_of_mem_pascalCase : ∀ c ∈ (pascalCase name).toList, isTagChar c = true := by
  rw [toList_pascalCase_eq]
  exact isTagChar_of_mem_pascalAfter

/-- Tags of components are words, whatever the names of the components are. -/
theorem isTagChar_of_mem_tag (hstart : start.toList.all isTagChar = true) :
    ∀ c ∈ (tag name start).toList, isTagChar c = true := by
  simp only [tag]
  split
  · exact isTagChar_of_mem_pascalCase
  · intro c hc
    rw [String.toList_append, List.mem_append] at hc
    exact hc.elim (List.all_eq_true.mp hstart c) (isTagChar_of_mem_pascalCase c)

/-- The letters and digits of a name in order, all small. -/
def smallLetters (name : String) : String :=
  String.ofList ((name.toList.filter isTagChar).map Char.toLower)

theorem smallLetters_append (a b : String) :
    smallLetters (a ++ b) = smallLetters a ++ smallLetters b := by
  rw [smallLetters, String.toList_append, List.filter_append, List.map_append, String.ofList_append]
  rfl

/-- A word is all letters and digits, so lower-casing it gives these. -/
theorem lower_eq_smallLetters {word : String} (hword : ∀ c ∈ word.toList, isTagChar c = true) :
    Text.lower word = smallLetters word := by
  rw [Text.lower, smallLetters, List.filter_eq_self.mpr hword,
    Text.lowerAfter_of_ascii fun c hc => toNat_lt_of_isTagChar (hword c hc)]

theorem smallLetters_pascalCase (name : String) :
    smallLetters (pascalCase name) = smallLetters name := by
  rw [smallLetters, List.filter_eq_self.mpr isTagChar_of_mem_pascalCase, toList_pascalCase_eq,
    map_toLower_pascalAfter, smallLetters]

theorem lower_pascalCase (name : String) : Text.lower (pascalCase name) = smallLetters name := by
  rw [lower_eq_smallLetters isTagChar_of_mem_pascalCase, smallLetters_pascalCase]

/-- The letters and digits of a name begin with the start of tags, large and small letters being the
same. -/
def BearsStart (name start : String) : Prop :=
  Text.startsWith (smallLetters name) (Text.lower start) = true

instance (name start : String) : Decidable (BearsStart name start) :=
  inferInstanceAs (Decidable (_ = true))

theorem tag_eq (name start : String) :
    tag name start = if BearsStart name start then pascalCase name else start ++ pascalCase name := by
  rw [tag, lower_pascalCase]
  rfl

section Start

variable (hstart : start.toList.all isTagChar = true)

include hstart

theorem toList_lower_start : (Text.lower start).toList = start.toList.map Char.toLower := by
  rw [Text.lower, String.toList_ofList]
  exact Text.lowerAfter_of_ascii fun c hc => toNat_lt_of_isTagChar (List.all_eq_true.mp hstart c hc)

theorem lower_tag (name : String) :
    Text.lower (tag name start) =
      if BearsStart name start then smallLetters name else Text.lower start ++ smallLetters name := by
  have hword : ∀ c ∈ start.toList, isTagChar c = true := List.all_eq_true.mp hstart
  rw [lower_eq_smallLetters (isTagChar_of_mem_tag hstart), tag_eq]
  split
  · exact smallLetters_pascalCase name
  · rw [smallLetters_append, smallLetters_pascalCase, lower_eq_smallLetters hword]

theorem startsWith_lower_tag (name : String) :
    Text.startsWith (Text.lower (tag name start)) (Text.lower start) = true := by
  rw [lower_tag hstart]
  split
  · assumption
  · rw [Text.startsWith_iff, String.toList_append]
    exact List.prefix_append _ _

/-- The words of a tag begin with the start of tags, so it is not put in front of them again. -/
theorem lower_tag_tag (name : String) :
    Text.lower (tag (tag name start) start) = Text.lower (tag name start) := by
  have hletters : smallLetters (tag name start) = Text.lower (tag name start) :=
    (lower_eq_smallLetters (isTagChar_of_mem_tag hstart)).symm
  have hbears : BearsStart (tag name start) start := by
    rw [BearsStart, hletters]
    exact startsWith_lower_tag hstart name
  rw [lower_tag hstart, if_pos hbears, hletters]

end Start

example : tag "icon-button" "U" = "UIconButton" ∧ tag "UIconButton" "U" = "UiconButton" := by
  decide +kernel

/-- What the words of a name begin with is no small letter. -/
theorem isSmall_of_mem_head?_pascalAfter : ∀ c ∈ (pascalAfter none cs).head?, isSmall c = false := by
  induction cs with
  | nil => simp [pascalAfter]
  | cons c cs ih =>
    rw [pascalAfter]
    split
    · rename_i hc
      intro d hd
      rw [List.head?_cons, Option.mem_some_iff] at hd
      rw [← hd]
      exact isSmall_toUpper hc
    · exact ih

theorem pascalAfter_eq_nil_iff : pascalAfter previous cs = [] ↔ ∀ c ∈ cs, isTagChar c = false := by
  induction cs generalizing previous with
  | nil => simp [pascalAfter]
  | cons c cs ih =>
    rw [List.forall_mem_cons, pascalAfter]
    cases hc : isTagChar c <;> simp [ih]

theorem pascalCase_eq_empty_iff : pascalCase name = "" ↔ ∀ c ∈ name.toList, isTagChar c = false := by
  rw [← String.toList_inj, toList_pascalCase_eq]
  exact pascalAfter_eq_nil_iff

/-- The words of a name are never all small letters, unless there are none. -/
theorem pascalCase_eq_empty_of_small (hsmall : ∀ c ∈ (pascalCase name).toList, isSmall c = true) :
    pascalCase name = "" := by
  rw [toList_pascalCase_eq] at hsmall
  rw [← String.toList_inj, toList_pascalCase_eq]
  cases hwords : pascalAfter none name.toList with
  | nil => rfl
  | cons c rest =>
    have hfirst : ∀ d ∈ (pascalAfter none name.toList).head?, isSmall d = false :=
      isSmall_of_mem_head?_pascalAfter
    have hc : isSmall c = false := hfirst c (hwords ▸ rfl)
    rw [hwords, List.forall_mem_cons, hc] at hsmall
    cases hsmall.1

/-- A tag is a word of small letters only if it is the bare start of tags: the start is this word,
and the name has no letters and digits. -/
theorem tag_eq_iff_of_small (hword : word ≠ "") (hsmall : word.toList.all isSmall = true) :
    tag name start = word ↔ start = word ∧ ∀ c ∈ name.toList, isTagChar c = false := by
  rw [List.all_eq_true] at hsmall
  rw [← pascalCase_eq_empty_iff]
  constructor
  · intro htag
    rw [tag_eq] at htag
    split at htag
    · -- The words of the name alone are not small letters.
      have hempty : pascalCase name = "" := pascalCase_eq_empty_of_small (htag ▸ hsmall)
      exact absurd (htag.symm.trans hempty) hword
    · have hempty : pascalCase name = "" := by
        refine pascalCase_eq_empty_of_small fun c hc => hsmall c ?_
        rw [← htag, String.toList_append]
        exact List.mem_append_right _ hc
      rw [hempty, String.append_empty] at htag
      exact ⟨htag, hempty⟩
  · rintro ⟨rfl, hempty⟩
    have hstart : start.toList.all isTagChar = true :=
      List.all_eq_true.mpr fun c hc => by simp [isTagChar, hsmall c hc]
    have hbare : ¬ BearsStart name start := by
      rw [BearsStart, Text.startsWith_iff, ← lower_pascalCase, hempty, toList_lower_start hstart]
      intro hbegins
      have hnil : start.toList.map Char.toLower = [] := List.prefix_nil.mp hbegins
      exact hword (String.toList_eq_nil_iff.mp (List.map_eq_nil_iff.mp hnil))
    rw [tag_eq, if_neg hbare, hempty, String.append_empty]

/-- A word that the lower-case form of a text begins with begins the letters and digits of the text
as well, if no character that it may come from is one of those that are ASCII in lower case only. -/
theorem prefix_of_prefix_lowerAfter {word before : List Char} (hword : ∀ a ∈ word, isTagChar a = true)
    (hplain : ∀ c ∈ cs.take word.length, ¬ Text.LowersToAscii c)
    (hbegins : word <+: Text.lowerAfter before cs) :
    word <+: (cs.filter isTagChar).map Char.toLower := by
  induction word generalizing cs before with
  | nil => exact List.nil_prefix
  | cons a word ih =>
    cases cs with
    | nil => cases List.prefix_nil.mp hbegins
    | cons c cs =>
      rw [List.length_cons, List.take_succ_cons, List.forall_mem_cons] at hplain
      rw [List.forall_mem_cons] at hword
      by_cases hascii : c.toNat < 128
      · rw [Text.lowerAfter_cons_of_ascii hascii, List.cons_prefix_cons] at hbegins
        obtain ⟨rfl, hrest⟩ := hbegins
        have hc : isTagChar c = true := (isTagChar_toLower_iff hascii).mp hword.1
        rw [List.filter_cons_of_pos hc, List.map_cons, List.cons_prefix_cons]
        exact ⟨rfl, ih hword.2 hplain.2 hrest⟩
      · -- What becomes of the character is no ASCII letter, so the text does not begin with one.
        obtain ⟨d, hd, hlower⟩ := Text.exists_lowerAfter_cons (Nat.le_of_not_lt hascii) hplain.1
        rw [hlower, List.cons_prefix_cons] at hbegins
        have ha : a.toNat < 128 := toNat_lt_of_isTagChar hword.1
        rw [hbegins.1] at ha
        omega

/-- A name whose lower-case form begins with the start of tags bears the start, if none of its first
characters is one of those that are ASCII in lower case only. -/
theorem bearsStart_of_lower (hstart : start.toList.all isTagChar = true)
    (hplain : ∀ c ∈ name.toList.take start.length, ¬ Text.LowersToAscii c)
    (hlower : Text.startsWith (Text.lower name) (Text.lower start) = true) : BearsStart name start := by
  rw [Text.startsWith_iff, toList_lower_start hstart, Text.lower, String.toList_ofList] at hlower
  rw [BearsStart, Text.startsWith_iff, toList_lower_start hstart, smallLetters, String.toList_ofList]
  refine prefix_of_prefix_lowerAfter ?_ ?_ hlower
  · intro a ha
    obtain ⟨c, hc, rfl⟩ := List.mem_map.mp ha
    have htag : isTagChar c = true := List.all_eq_true.mp hstart c hc
    exact (isTagChar_toLower_iff (toNat_lt_of_isTagChar htag)).mpr htag
  · rwa [List.length_map, String.length_toList]

/-- The words of a name have its letters and digits and no others; the tag is made of letters and
digits, those of the name where they begin with the start of tags, and the start with those of the
name where they do not; and a tag that is made into a tag again has the letters that it had. -/
theorem tag_keeps_letters (config : Config) (name : String) :
    Text.lower (pascalCase name) = smallLetters name ∧
      (∀ c ∈ (tag name config.tagStart).toList, isTagChar c = true) ∧
      Text.lower (tag name config.tagStart) =
        (if BearsStart name config.tagStart then smallLetters name
          else Text.lower config.tagStart ++ smallLetters name) ∧
      Text.lower (tag (tag name config.tagStart) config.tagStart) =
        Text.lower (tag name config.tagStart) := by
  have hstart := config.tagStart_tagChars
  exact ⟨lower_pascalCase name, isTagChar_of_mem_tag hstart, lower_tag hstart name,
    lower_tag_tag hstart name⟩

end LayerMarkup.Name
