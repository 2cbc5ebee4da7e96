import Mathlib.Data.List.Basic
import LayerMarkup.Proofs.Markup.Parts

/-!
# The characters of markup

Rendered markup character by character: which characters stand between the parts of a tag, which
ones an escaped text cannot hold, and what the markup of a tag is made of.  Escaping loses nothing
of a text (`escapeText_injective`), and nothing of a value that does not already hold the escape
(`escapeValue_injective`).
-/

namespace LayerMarkup

/-- A character of another sort is not among characters of one sort. -/
theorem notMem_of_sort {p : Char → Bool} {cs : List Char} {c : Char} (hcs : ∀ d ∈ cs, p d = true)
    (hc : p c = false) : c ∉ cs := by
  intro hmem
  rw [hcs c hmem] at hc
  cases hc

/-- The escape of the double quote. -/
def quoteEscape : List Char := ['&', 'q', 'u', 'o', 't', ';']

namespace Attribute

theorem escapeChar_of_ne {c : Char} (hc : c ≠ '"') : escapeChar c = [c] := if_neg hc

theorem escapeChar_ne_nil (c : Char) : escapeChar c ≠ [] := by
  unfold escapeChar
  split <;> simp

theorem toList_escapeValue (s : String) : (escapeValue s).toList = s.toList.flatMap escapeChar :=
  String.toList_ofList

theorem quote_notMem_escapeValue (s : String) : '"' ∉ (escapeValue s).toList := by
  rw [toList_escapeValue, List.mem_flatMap]
  rintro ⟨c, -, hc⟩
  by_cases hquote : c = '"'
  · subst hquote
    revert hc
    decide
  · rw [escapeChar_of_ne hquote, List.mem_singleton] at hc
    exact hquote hc.symm

/-- What an escaped list of characters begins with, it begins with itself, up to the first
ampersand. -/
theorem prefix_of_prefix_escaped {x cs : List Char} (hx : '&' ∉ x)
    (hbegins : x <+: cs.flatMap escapeChar) : x <+: cs := by
  induction x generalizing cs with
  | nil => exact List.nil_prefix
  | cons a x ih =>
    cases cs with
    | nil => simp at hbegins
    | cons c cs =>
      by_cases hc : c = '"'
      · subst hc
        have ha : a = '&' := (List.cons_prefix_cons.mp hbegins).1
        exact absurd List.mem_cons_self (ha ▸ hx)
      · rw [List.flatMap_cons, escapeChar_of_ne hc, List.singleton_append, List.cons_prefix_cons]
          at hbegins
        exact List.cons_prefix_cons.mpr
          ⟨hbegins.1, ih (fun h => hx (List.mem_cons_of_mem _ h)) hbegins.2⟩

/-- A list of characters that is escaped to what begins with an escaped quote begins with a quote,
or with the escape. -/
theorem quoteEscape_of_escaped {c : Char} {cs rest : List Char} (hc : c ≠ '"')
    (hescaped : (c :: cs).flatMap escapeChar = quoteEscape ++ rest) : quoteEscape <+: c :: cs := by
  rw [List.flatMap_cons, escapeChar_of_ne hc, List.singleton_append] at hescaped
  obtain ⟨hfirst, hlater⟩ := List.cons.inj hescaped
  have hbegins : ['q', 'u', 'o', 't', ';'] <+: cs :=
    prefix_of_prefix_escaped (by decide) (hlater ▸ List.prefix_append _ _)
  exact List.cons_prefix_cons.mpr ⟨hfirst.symm, hbegins⟩

theorem flatMap_escapeChar_injective {cs ds : List Char} (hcs : ¬ quoteEscape <:+: cs)
    (hds : ¬ quoteEscape <:+: ds) (hsame : cs.flatMap escapeChar = ds.flatMap escapeChar) :
    cs = ds := by
  induction cs generalizing ds with
  | nil =>
    cases ds with
    | nil => rfl
    | cons d ds => simp [escapeChar_ne_nil] at hsame
  | cons c cs ih =>
    have hrest : ¬ quoteEscape <:+: cs := fun h => hcs (h.trans (List.suffix_cons c cs).isInfix)
    cases ds with
    | nil => simp [escapeChar_ne_nil] at hsame
    | cons d ds =>
      have hrest' : ¬ quoteEscape <:+: ds := fun h => hds (h.trans (List.suffix_cons d ds).isInfix)
      by_cases hc : c = '"' <;> by_cases hd : d = '"'
      · subst hc hd
        rw [List.flatMap_cons, List.flatMap_cons, List.append_cancel_left_eq] at hsame
        rw [ih hrest hrest' hsame]
      · subst hc
        exact absurd (quoteEscape_of_escaped hd hsame.symm).isInfix hds
      · subst hd
        exact absurd (quoteEscape_of_escaped hc hsame).isInfix hcs
      · rw [List.flatMap_cons, List.flatMap_cons, escapeChar_of_ne hc, escapeChar_of_ne hd] at hsame
        obtain ⟨hfirst, hlater⟩ := List.cons.inj hsame
        rw [hfirst, ih hrest hrest' hlater]

/-- Values that do not hold the escape of the quote are told apart when they are escaped. -/
theorem escapeValue_injective {s t : String} (hs : Text.contains s "&quot;" = false)
    (ht : Text.contains t "&quot;" = false)
    (hsame : (escapeValue s).toList = (escapeValue t).toList) : s = t := by
  have hfree : ∀ {u : String}, Text.contains u "&quot;" = false → ¬ quoteEscape <:+: u.toList :=
    fun hu hinfix => Bool.false_ne_true (hu.symm.trans (Text.contains_iff.mpr hinfix))
  rw [toList_escapeValue, toList_escapeValue] at hsame
  exact String.toList_inj.mp (flatMap_escapeChar_injective (hfree hs) (hfree ht) hsame)

variable {a : Attribute}

theorem toList_render_of_slot (hslot : a.isSlot = true) : a.render.toList = '#' :: a.value.toList := by
  simp [render, hslot]

/-- An attribute with a key: the colon of a bound one, the key and the quoted value. -/
theorem toList_render_of_key (hslot : a.isSlot = false) :
    a.render.toList = (if a.isBoolean then [':'] else []) ++
      (a.key.toList ++ '=' :: '"' :: ((escapeValue a.value).toList ++ ['"'])) := by
  cases hboolean : a.isBoolean <;> simp [render, hslot, hboolean]

end Attribute

namespace Tag

theorem toList_escapeText (s : String) : (escapeText s).toList = s.toList.flatMap escapeChar :=
  String.toList_ofList

/-- What can become of a character inside text. -/
theorem escapeChar_cases (c : Char) :
    (c = '&' ∧ escapeChar c = ['&', 'a', 'm', 'p', ';']) ∨
      (c = '<' ∧ escapeChar c = ['&', 'l', 't', ';']) ∨
      (c = '>' ∧ escapeChar c = ['&', 'g', 't', ';']) ∨
      (c ≠ '&' ∧ c ≠ '<' ∧ escapeChar c = [c]) := by
  unfold escapeChar
  by_cases hand : c = '&'
  · simp [hand]
  by_cases hless : c = '<'
  · simp [hless]
  by_cases hgreater : c = '>'
  · simp [hgreater]
  · simp [hand, hless, hgreater]

theorem escapeChar_ne_nil (c : Char) : escapeChar c ≠ [] := by
  rcases escapeChar_cases c with ⟨-, h⟩ | ⟨-, h⟩ | ⟨-, h⟩ | ⟨-, -, h⟩ <;> simp [h]

theorem bracket_notMem_escapeText (s : String) : '<' ∉ (escapeText s).toList := by
  rw [toList_escapeText, List.mem_flatMap]
  rintro ⟨c, -, hc⟩
  rcases escapeChar_cases c with ⟨-, h⟩ | ⟨-, h⟩ | ⟨-, h⟩ | ⟨-, hless, h⟩ <;> rw [h] at hc
  · exact absurd hc (by decide)
  · exact absurd hc (by decide)
  · exact absurd hc (by decide)
  · exact hless (List.mem_singleton.mp hc).symm

/-- Characters are told apart by the beginnings of their escapes. -/
theorem escapeChar_cancel {c d : Char} {r s : List Char}
    (hsame : escapeChar c ++ r = escapeChar d ++ s) : c = d ∧ r = s := by
  rcases escapeChar_cases c with ⟨hc, h⟩ | ⟨hc, h⟩ | ⟨hc, h⟩ | ⟨hc, -, h⟩ <;>
    rcases escapeChar_cases d with ⟨hd, h'⟩ | ⟨hd, h'⟩ | ⟨hd, h'⟩ | ⟨hd, -, h'⟩ <;>
      rw [h, h'] at hsame <;> grind

theorem escapeText_injective {s t : String} (hsame : (escapeText s).toList = (escapeText t).toList) :
    s = t := by
  rw [toList_escapeText, toList_escapeText] at hsame
  refine String.toList_inj.mp ?_
  generalize s.toList = cs at hsame ⊢
  generalize t.toList = ds at hsame ⊢
  induction cs generalizing ds with
  | nil =>
    cases ds with
    | nil => rfl
    | cons d ds => simp [escapeChar_ne_nil] at hsame
  | cons c cs ih =>
    cases ds with
    | nil => simp [escapeChar_ne_nil] at hsame
    | cons d ds =>
      rw [List.flatMap_cons, List.flatMap_cons] at hsame
      obtain ⟨hfirst, hlater⟩ := escapeChar_cancel hsame
      rw [hfirst, ih ds hlater]

end Tag

namespace Markup

variable {config : Config} {indent : Int} {tag : Tag} {name : String}

/-- The characters that stand between the parts of a tag: blanks and line feeds. -/
def isGapChar (c : Char) : Bool := c = ' ' || c = '\n'

/-- What stands before each attribute of a tag. -/
def attributeGap (config : Config) (indent : Int) (tag : Tag) : List Char :=
  if isWrapped config tag then '\n' :: (padding (indent + config.indentWidth)).toList else [' ']

/-- What stands before the end of the opening of a tag: `inline` behind attributes on one line. -/
def endGap (config : Config) (indent : Int) (tag : Tag) (inline : List Char) : List Char :=
  if isWrapped config tag then '\n' :: (padding indent).toList else inline

/-- The markup of trees, each below the one before it. -/
def newLines (config : Config) (indent : Int) (forest : List (Tree Tag)) : List Char :=
  forest.flatMap fun t => '\n' :: (renderTree config indent t).toList

theorem isGapChar_of_mem_padding {width : Int} : ∀ c ∈ (padding width).toList, isGapChar c = true := by
  intro c hc
  rw [padding, String.toList_ofList] at hc
  rw [List.eq_of_mem_replicate hc]
  rfl

theorem isGapChar_of_mem_newline_padding {width : Int} :
    ∀ c ∈ '\n' :: (padding width).toList, isGapChar c = true := by
  intro c hc
  rcases List.mem_cons.mp hc with rfl | hc
  · rfl
  · exact isGapChar_of_mem_padding c hc

theorem isGapChar_of_mem_attributeGap : ∀ c ∈ attributeGap config indent tag, isGapChar c = true := by
  unfold attributeGap
  split
  · exact isGapChar_of_mem_newline_padding
  · simp [isGapChar]

theorem attributeGap_ne_nil : attributeGap config indent tag ≠ [] := by
  unfold attributeGap
  split <;> simp

theorem isGapChar_of_mem_endGap {inline : List Char} (hinline : ∀ c ∈ inline, isGapChar c = true) :
    ∀ c ∈ endGap config indent tag inline, isGapChar c = true := by
  unfold endGap
  split
  · exact isGapChar_of_mem_newline_padding
  · exact hinline

theorem toList_opening : (opening config indent name tag).toList =
    (padding indent).toList ++ '<' :: (name.toList ++
      tag.attributes.flatMap fun a => attributeGap config indent tag ++ a.render.toList) := by
  have hgap : attributeGap config indent tag =
      (if isWrapped config tag then "\n" ++ padding (indent + config.indentWidth) else " ").toList := by
    unfold attributeGap
    split <;> simp
  simp [opening, hgap, List.flatMap_map]

theorem toList_openingEnd : (openingEnd config indent tag).toList =
    endGap config indent tag [] ++ ['>'] := by
  unfold openingEnd endGap
  split <;> simp

theorem toList_selfClosingEnd : (selfClosingEnd config indent tag).toList =
    endGap config indent tag [' '] ++ ['/', '>'] := by
  unfold selfClosingEnd endGap
  split <;> simp

theorem toList_closing (name : String) :
    (closing name).toList = '<' :: '/' :: (name.toList ++ ['>']) := by
  simp [closing]

theorem newLines_cons (t : Tree Tag) (ts : List (Tree Tag)) : newLines config indent (t :: ts) =
    '\n' :: (renderTree config indent t).toList ++ newLines config indent ts :=
  List.flatMap_cons

theorem newline_joinLines {forest : List (Tree Tag)} (hforest : forest ≠ []) :
    '\n' :: (Text.joinLines (renderForest config indent forest)).toList =
      newLines config indent forest := by
  cases forest with
  | nil => exact absurd rfl hforest
  | cons t ts =>
    rw [renderForest_eq_map, List.map_cons, Text.joinLines_cons, newLines, List.flatMap_cons]
    simp [List.flatMap_map]

theorem toList_renderTree_empty (hname : tag.name = some name) (htext : tag.text = none) :
    (renderTree config indent (.node tag [])).toList =
      (opening config indent name tag).toList ++ (endGap config indent tag [' '] ++ ['/', '>']) := by
  simp only [renderTree, hname, htext, String.toList_append, toList_selfClosingEnd]

theorem toList_renderTree_inline {text : String} (hname : tag.name = some name)
    (htext : tag.text = some text) :
    (renderTree config indent (.node tag [])).toList =
      (opening config indent name tag).toList ++ (endGap config indent tag [] ++
        '>' :: ((Tag.escapeText text).toList ++ (closing name).toList)) := by
  simp only [renderTree, hname, htext, String.toList_append, toList_openingEnd, List.append_assoc,
    List.cons_append, List.nil_append]

theorem toList_renderTree_block {children : List (Tree Tag)} (hname : tag.name = some name)
    (hchildren : children ≠ []) :
    (renderTree config indent (.node tag children)).toList =
      (opening config indent name tag).toList ++ (endGap config indent tag [] ++
        '>' :: (newLines config (indent + config.indentWidth) children ++
          '\n' :: ((padding indent).toList ++ (closing name).toList))) := by
  rw [← newline_joinLines hchildren]
  cases children with
  | nil => exact absurd rfl hchildren
  | cons t ts =>
    simp [renderTree, hname, toList_openingEnd]

end Markup

end LayerMarkup
