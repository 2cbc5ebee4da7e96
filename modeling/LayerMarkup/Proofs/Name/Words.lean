import LayerMarkup.Proofs.Name.Letters
import Mathlib.Data.List.SplitBy

/-!
# The words of names

A name is cut into words between any two neighbours that do not stand in one word: beside whatever
is no letter and no digit, and before a capital that follows a small letter (`words`).  The tag of a
name is made from its words alone (`toList_pascalCase`).  Where a name is put together from two
texts that do not meet inside a word, its words are those of the one and then those of the other
(`words_append`), so symbols between two texts leave no trace, whichever and however many they are
(`pascalCase_append_symbols`).
-/

namespace LayerMarkup.Name

variable {previous : Option Char} {p c : Char} {cs ds word : List Char}

/-- Two neighbours stand in one word: both are letters or digits, and they are not a small letter
with a capital behind it. -/
def sameWord (p c : Char) : Bool := isTagChar p && isTagChar c && !(isSmall p && isCapital c)

def isWord (cs : List Char) : Bool := cs.all isTagChar

/-- The words of a name, in order.  Characters that are no letters and no digits belong to none. -/
def words (cs : List Char) : List (List Char) := (cs.splitBy sameWord).filter isWord

/-- The last character of one text and the first of another do not stand in one word. -/
def Separated (cs ds : List Char) : Prop := ∀ p ∈ cs.getLast?, ∀ c ∈ ds.head?, sameWord p c = false

theorem separated_of_symbol (hsymbol : ∀ c ∈ ds.head?, isTagChar c = false) : Separated cs ds := by
  intro p _ c hc
  rw [sameWord, hsymbol c hc, Bool.and_false, Bool.false_and]

theorem separated_of_symbol_getLast? (hsymbol : ∀ p ∈ cs.getLast?, isTagChar p = false) :
    Separated cs ds := by
  intro p hp c _
  rw [sameWord, hsymbol p hp, Bool.false_and, Bool.false_and]

/-- No word goes on where two texts are separated, so the words of both are those of each. -/
theorem words_append (hseparated : Separated cs ds) : words (cs ++ ds) = words cs ++ words ds := by
  rw [words, List.splitBy_append hseparated, List.filter_append]
  rfl

/-- What follows a character that it does not go on from is read as what begins a name. -/
theorem pascalAfter_of_separated (hp : isTagChar p = true) (hseparated : Separated [p] ds) :
    pascalAfter (some p) ds = pascalAfter none ds := by
  cases ds with
  | nil => rfl
  | cons c ds =>
    have hborder : sameWord p c = false := hseparated p rfl c rfl
    rw [pascalAfter, pascalAfter]
    by_cases hc : isTagChar c = true
    · have hbegins : beginsWord (some p) c = true := by
        simpa [beginsWord, sameWord, hp, hc] using hborder
      rw [if_pos hc, if_pos hc, if_pos hbegins]
      rfl
    · rw [if_neg hc, if_neg hc]

/-- A text is separated from another if it ends a text that is. -/
theorem Separated.of_append {before : List Char} (hseparated : Separated (before ++ cs) ds) :
    Separated cs ds := by
  intro p hp
  have hlast : p ∈ (before ++ cs).getLast? := by
    rw [List.getLast?_append, Option.mem_def, Option.mem_def.mp hp, Option.some_or]
  exact hseparated p hlast

theorem pascalAfter_append_of_previous (hprevious : ∀ p ∈ previous, isTagChar p = true)
    (hseparated : Separated (previous.toList ++ cs) ds) :
    pascalAfter previous (cs ++ ds) = pascalAfter previous cs ++ pascalAfter none ds := by
  -- Reading goes by the letter before, so the last one read stays part of what is separated.
  induction cs generalizing previous with
  | nil =>
    cases previous with
    | none => rfl
    | some p => exact pascalAfter_of_separated (hprevious p rfl) hseparated
  | cons c cs ih =>
    have hrest : Separated ([c] ++ cs) ds := hseparated.of_append
    rw [List.cons_append, pascalAfter, pascalAfter]
    by_cases hc : isTagChar c = true
    · have hlast : ∀ q ∈ some c, isTagChar q = true := by simpa using hc
      rw [if_pos hc, if_pos hc, List.cons_append, ih hlast hrest]
    · rw [if_neg hc, if_neg hc]
      exact ih (by simp) hrest.of_append

/-- The words of two separated texts are run together each by itself. -/
theorem pascalAfter_append (hseparated : Separated cs ds) :
    pascalAfter none (cs ++ ds) = pascalAfter none cs ++ pascalAfter none ds :=
  pascalAfter_append_of_previous (by simp) hseparated

/-- Inside a word all letters are made small. -/
theorem pascalAfter_of_isChain (hchain : (p :: cs).IsChain fun p c => sameWord p c = true) :
    pascalAfter (some p) cs = cs.map Char.toLower := by
  induction cs generalizing p with
  | nil => rfl
  | cons c cs ih =>
    rw [List.isChain_cons_cons] at hchain
    obtain ⟨hsame, hrest⟩ := hchain
    rw [sameWord, Bool.and_eq_true, Bool.and_eq_true, Bool.not_eq_true'] at hsame
    obtain ⟨⟨-, hc⟩, hbegins⟩ := hsame
    rw [pascalAfter, if_pos hc, beginsWord, hbegins, ih hrest]
    rfl

theorem isWord_of_isChain (hc : isTagChar c = true)
    (hchain : (c :: cs).IsChain fun p c => sameWord p c = true) : isWord (c :: cs) = true := by
  induction cs generalizing c with
  | nil => simpa [isWord] using hc
  | cons d cs ih =>
    rw [List.isChain_cons_cons] at hchain
    obtain ⟨hsame, hrest⟩ := hchain
    rw [sameWord, Bool.and_eq_true, Bool.and_eq_true] at hsame
    rw [isWord, List.all_cons, hc, Bool.true_and]
    exact ih hsame.1.2 hrest

/-- What is not cut is one word, or a character that belongs to none. -/
theorem pascalAfter_of_uncut (huncut : word.IsChain fun p c => sameWord p c = true) :
    pascalAfter none word = if isWord word then capitalized word else [] := by
  cases word with
  | nil => rfl
  | cons c rest =>
    rw [pascalAfter]
    by_cases hc : isTagChar c = true
    · rw [if_pos hc, if_pos (isWord_of_isChain hc huncut), pascalAfter_of_isChain huncut]
      rfl
    · -- A symbol is cut off on both sides.
      have halone : rest = [] := by
        cases rest with
        | nil => rfl
        | cons d rest =>
          rw [List.isChain_cons_cons, sameWord, Bool.and_eq_true, Bool.and_eq_true] at huncut
          exact absurd huncut.1.1.1 hc
      rw [if_neg hc, halone, isWord, List.all_cons, List.all_nil, Bool.and_true, if_neg hc]
      rfl

/-- A name that is cut everywhere between its words is run together word by word. -/
theorem pascalAfter_flatten {groups : List (List Char)}
    (huncut : ∀ group ∈ groups, group.IsChain fun p c => sameWord p c = true)
    (hcut : groups.IsChain fun a b => ∃ ha hb, sameWord (a.getLast ha) (b.head hb) = false) :
    pascalAfter none groups.flatten = (groups.filter isWord).flatMap capitalized := by
  induction groups with
  | nil => rfl
  | cons group groups ih =>
    rw [List.forall_mem_cons] at huncut
    have hseparated : Separated group groups.flatten := by
      cases groups with
      | nil => simp [Separated]
      | cons next groups =>
        obtain ⟨hgroup, hnext, hborder⟩ := (List.isChain_cons_cons.mp hcut).1
        intro p hp c hc
        rw [List.getLast?_eq_getLast_of_ne_nil hgroup, Option.mem_some_iff] at hp
        rw [List.flatten_cons, List.head?_append_of_ne_nil _ hnext, List.head?_eq_some_head hnext,
          Option.mem_some_iff] at hc
        rw [← hp, ← hc]
        exact hborder
    rw [List.flatten_cons, pascalAfter_append hseparated, pascalAfter_of_uncut huncut.1,
      ih huncut.2 hcut.tail]
    by_cases hword : isWord group = true
    · rw [if_pos hword, List.filter_cons_of_pos hword, List.flatMap_cons]
    · rw [if_neg hword, List.filter_cons_of_neg hword, List.nil_append]

/-- The words of a name, each with its first letter large and the others small. -/
theorem toList_pascalCase (name : String) :
    (pascalCase name).toList = (words name.toList).flatMap capitalized := by
  have hwords := pascalAfter_flatten (fun _ => List.isChain_of_mem_splitBy)
    (List.isChain_getLast_head_splitBy sameWord name.toList)
  rw [List.flatten_splitBy] at hwords
  rw [toList_pascalCase_eq, hwords, words]

/-- Names with the same words have the same tag. -/
theorem tag_eq_of_words_eq {name other : String} (hwords : words name.toList = words other.toList)
    (start : String) : tag name start = tag other start := by
  have hpascal : pascalCase name = pascalCase other := by
    rw [← String.toList_inj, toList_pascalCase, toList_pascalCase, hwords]
  rw [tag, tag, hpascal]

/-- Symbols make no words. -/
theorem words_of_symbols (hsymbols : ∀ c ∈ cs, isTagChar c = false) : words cs = [] := by
  refine List.filter_eq_nil_iff.mpr fun group hgroup hword => ?_
  obtain ⟨c, hc⟩ := List.exists_mem_of_ne_nil _ (List.ne_nil_of_mem_splitBy hgroup)
  have hmem : c ∈ cs := by
    rw [← List.flatten_splitBy sameWord cs]
    exact List.mem_flatten_of_mem hgroup hc
  exact Bool.false_ne_true ((hsymbols c hmem).symm.trans (List.all_eq_true.mp hword c hc))

/-- Symbols between two texts separate them, whichever and however many they are: the words of the
whole are those of the first text and then those of the second, and so is what is made of them.
Names with the same words have the same tag, whatever stands between the words. -/
theorem pascalCase_append_symbols (a b : String) {symbols : String} (hsome : symbols ≠ "")
    (hsymbols : ∀ c ∈ symbols.toList, isTagChar c = false) :
    pascalCase (a ++ symbols ++ b) = pascalCase a ++ pascalCase b ∧
      words (a ++ symbols ++ b).toList = words a.toList ++ words b.toList ∧
      ∀ name other : String, words name.toList = words other.toList →
        ∀ start, tag name start = tag other start := by
  have hne : symbols.toList ≠ [] := fun hnil => hsome (String.toList_eq_nil_iff.mp hnil)
  have hbefore : Separated a.toList symbols.toList :=
    separated_of_symbol fun c hc => hsymbols c (List.mem_of_mem_head? hc)
  have hbehind : Separated (a.toList ++ symbols.toList) b.toList := by
    refine separated_of_symbol_getLast? fun p hp => hsymbols p ?_
    rw [List.getLast?_append_of_ne_nil _ hne] at hp
    exact List.mem_of_mem_getLast? hp
  have hwords : words (a ++ symbols ++ b).toList = words a.toList ++ words b.toList := by
    rw [String.toList_append, String.toList_append, words_append hbehind, words_append hbefore,
      words_of_symbols hsymbols, List.append_nil]
  refine ⟨?_, hwords, fun _ _ hsame => tag_eq_of_words_eq hsame⟩
  rw [← String.toList_inj, String.toList_append, toList_pascalCase, toList_pascalCase,
    toList_pascalCase, hwords, List.flatMap_append]

/-- The symbols at the ends of both texts become one run with those between them. -/
theorem pascalCase_append_symbols_iconButton :
    (" / " ≠ "" ∧ ∀ c ∈ " / ".toList, isTagChar c = false) ∧
      pascalCase ("iconButton_" ++ " / " ++ "-largeX2") = "IconButtonLargeX2" ∧
      words ("iconButton_" ++ " / " ++ "-largeX2").toList =
        ["icon".toList, "Button".toList, "large".toList, "X2".toList] ∧
      tag ("iconButton_" ++ " / " ++ "-largeX2") "U" = tag "icon Button large*X2" "U" := by
  have hnone : " / ".toList.any isTagChar = false := by decide
  have hsymbols : ∀ c ∈ " / ".toList, isTagChar c = false :=
    fun c hc => (Bool.not_eq_true _).mp (List.any_eq_false.mp hnone c hc)
  obtain ⟨hpascal, hwords, htag⟩ :=
    pascalCase_append_symbols "iconButton_" "-largeX2" (show " / " ≠ "" by decide) hsymbols
  refine ⟨⟨by decide, hsymbols⟩, hpascal.trans (by decide +kernel),
    hwords.trans (by decide +kernel), ?_⟩
  exact htag _ _ (by decide +kernel) "U"

end LayerMarkup.Name
