import LayerMarkup.Markup.OfElements
import LayerMarkup.Proofs.Markup.Characters
import LayerMarkup.Proofs.Name.Letters

/-!
# Scanning markup

A scanner finds the tags of a markup text: each goes from a bracket to the next closing bracket
outside double quotes.  What it finds in rendered markup are the tags that the markup was rendered
from, in order, if no key and no slot of an attribute ends a tag or leaves a quote open
(`scan_render`).  Values and texts are escaped and names are words, so these need no condition
(`scan_render_ofElements`).  Keys and slots are written as they are, and can make a tag of their own
(`scan_render_spliced`).
-/

namespace LayerMarkup

open LayerMarkup.Tree

/-- What a scanner reports of a tag. -/
inductive TagEvent where
  | opening (name : String)
  | selfClosing (name : String)
  | closing (name : String)
deriving DecidableEq

namespace TagEvent

/-- The characters of the name of a tag: all but the gaps and the slash. -/
def isNameChar (c : Char) : Bool := !Markup.isGapChar c && c != '/'

/-- The event of a tag by what stands between its brackets. -/
def ofText : List Char → TagEvent
  | '/' :: name => .closing (String.ofList name)
  | text =>
    let name := String.ofList (text.takeWhile isNameChar)
    if text.getLast? = some '/' then .selfClosing name else .opening name

theorem ofText_closing (name : String) : ofText ('/' :: name.toList) = .closing name := by
  simp [ofText]

theorem isNameChar_of_isTagChar {c : Char} (hc : Name.isTagChar c = true) : isNameChar c = true := by
  have hgap : Markup.isGapChar c = false := by
    by_contra hgap
    simp only [Markup.isGapChar, Bool.not_eq_false, Bool.or_eq_true, decide_eq_true_eq] at hgap
    rcases hgap with rfl | rfl <;> exact absurd hc (by decide)
  have hslash : c ≠ '/' := by
    rintro rfl
    exact absurd hc (by decide)
  simp [isNameChar, hgap, hslash]

/-- A name with nothing or a gap behind it is the name of the tag, and the last character tells
whether the tag is closed. -/
theorem ofText_name {name : String} {x : List Char} (hname : ∀ c ∈ name.toList, Name.isTagChar c = true)
    (hx : ∀ c ∈ x.head?, Markup.isGapChar c = true) :
    ofText (name.toList ++ x) =
      if (name.toList ++ x).getLast? = some '/' then .selfClosing name else .opening name := by
  have hslash : ∀ y, name.toList ++ x ≠ '/' :: y := by
    intro y hsame
    -- A name may be empty; then a gap comes first.
    cases hlist : name.toList with
    | nil =>
      have hgap : Markup.isGapChar '/' = true := hx '/' (by simp_all)
      exact absurd hgap (by decide)
    | cons c cs =>
      have hfirst : c = '/' := by simp_all
      exact absurd (hname '/' (by simp [hlist, hfirst])) (by decide)
  have htake : (name.toList ++ x).takeWhile isNameChar = name.toList := by
    rw [List.takeWhile_append_of_pos fun c hc => isNameChar_of_isTagChar (hname c hc)]
    cases x with
    | nil => simp
    | cons c x => simp [isNameChar, hx c rfl]
  rw [ofText.eq_2 _ fun y hy => hslash y hy]
  simp [htake]

end TagEvent

namespace Markup

/-- Where a scanner stands: between tags, or in one with what it read of it. -/
inductive ScanState where
  | between
  | tag (quoted : Bool) (read : List Char)

/-- The tags of the rest of a text.  One that is not closed is none. -/
def scanFrom : ScanState → List Char → List TagEvent
  | _, [] => []
  | .between, c :: cs => scanFrom (if c = '<' then .tag false [] else .between) cs
  | .tag quoted read, c :: cs =>
    if c = '>' ∧ quoted = false then .ofText read :: scanFrom .between cs
    else scanFrom (.tag (if c = '"' then !quoted else quoted) (read ++ [c])) cs

/-- The tags of a text in order. -/
def scan (markup : String) : List TagEvent := scanFrom .between markup.toList

/-- Whether a quote is open after the characters, or nothing if one of them closes the tag. -/
def quotedAfter (quoted : Bool) : List Char → Option Bool
  | [] => some quoted
  | c :: cs =>
    if c = '>' ∧ quoted = false then none
    else quotedAfter (if c = '"' then !quoted else quoted) cs

/-- The text neither closes a tag nor leaves a quote open. -/
def encloses (s : String) : Bool := quotedAfter false s.toList = some false

mutual

/-- The tags of a tree in the order of the markup: of an element with something inside, its opening,
what is inside, and its closing. -/
def events : Tree Tag → List TagEvent
  | .node tag children =>
    match tag.name with
    | none => []
    | some name =>
      match children, tag.text with
      | [], none => [.selfClosing name]
      | _, _ => .opening name :: (forestEvents children ++ [.closing name])

def forestEvents : List (Tree Tag) → List TagEvent
  | [] => []
  | t :: ts => events t ++ forestEvents ts

end

theorem quotedAfter_append {quoted : Bool} {x y : List Char} :
    quotedAfter quoted (x ++ y) = (quotedAfter quoted x).bind fun after => quotedAfter after y := by
  induction x generalizing quoted with
  | nil => rfl
  | cons c x ih =>
    simp only [List.cons_append, quotedAfter]
    split
    · rfl
    · exact ih

/-- Characters that are neither quotes nor closing brackets make no difference. -/
theorem quotedAfter_of_plain {quoted : Bool} {x : List Char} (hquote : '"' ∉ x) (hbracket : '>' ∉ x) :
    quotedAfter quoted x = some quoted := by
  induction x with
  | nil => rfl
  | cons c x ih =>
    simp only [List.mem_cons, not_or] at hquote hbracket
    rw [quotedAfter, if_neg fun h => hbracket.1 h.1.symm, if_neg fun h => hquote.1 h.symm]
    exact ih hquote.2 hbracket.2

/-- Inside quotes a bracket closes no tag. -/
theorem quotedAfter_of_quoted {x : List Char} (hx : '"' ∉ x) : quotedAfter true x = some true := by
  induction x with
  | nil => rfl
  | cons c x ih =>
    simp only [List.mem_cons, not_or] at hx
    obtain ⟨hquote, hrest⟩ := hx
    rw [quotedAfter, if_neg fun h => Bool.noConfusion h.2, if_neg fun h => hquote h.symm]
    exact ih hrest

theorem quotedAfter_of_gap {quoted : Bool} {gap : List Char} (hgap : ∀ c ∈ gap, isGapChar c = true) :
    quotedAfter quoted gap = some quoted :=
  quotedAfter_of_plain (notMem_of_sort hgap rfl) (notMem_of_sort hgap rfl)

theorem quotedAfter_of_name {name : String} (hname : ∀ c ∈ name.toList, Name.isTagChar c = true) :
    quotedAfter false name.toList = some false :=
  quotedAfter_of_plain (notMem_of_sort hname rfl) (notMem_of_sort hname rfl)

section Scanner

variable {quoted after : Bool} {read cs r : List Char}

theorem scanFrom_between (hcs : '<' ∉ cs) : scanFrom .between (cs ++ r) = scanFrom .between r := by
  induction cs with
  | nil => rfl
  | cons c cs ih =>
    simp only [List.mem_cons, not_or] at hcs
    obtain ⟨hbracket, hrest⟩ := hcs
    rw [List.cons_append, scanFrom, if_neg fun h => hbracket h.symm]
    exact ih hrest

theorem scanFrom_newline : scanFrom .between ('\n' :: r) = scanFrom .between r := rfl

/-- A scanner in a tag reads on until the tag is closed. -/
theorem scanFrom_tag (hcs : quotedAfter quoted cs = some after) :
    scanFrom (.tag quoted read) (cs ++ r) = scanFrom (.tag after (read ++ cs)) r := by
  induction cs generalizing quoted read with
  | nil =>
    cases hcs
    simp
  | cons c cs ih =>
    rw [quotedAfter] at hcs
    rw [List.cons_append, scanFrom]
    split at hcs
    · cases hcs
    · rename_i hopen
      -- What was read grows by the character, and the quote is open or not as after it.
      rw [if_neg hopen, ih hcs, List.append_assoc, List.singleton_append]

/-- What stands between two brackets, its quotes closed, is one tag. -/
theorem scanFrom_brackets (hcs : quotedAfter false cs = some false) :
    scanFrom .between ('<' :: (cs ++ '>' :: r)) = .ofText cs :: scanFrom .between r := by
  rw [scanFrom, if_pos rfl, scanFrom_tag hcs, List.nil_append, scanFrom, if_pos ⟨rfl, rfl⟩]

end Scanner

end Markup

namespace Attribute

/-- The attribute does not close the tag around it: its key is enclosed, or its slot is and does not
end with a slash. -/
structure IsContained (a : Attribute) : Prop where
  slot : a.isSlot = true → Markup.encloses a.value = true
  slash : a.isSlot = true → a.value.toList.getLast? ≠ some '/'
  key : a.isSlot = false → Markup.encloses a.key = true

instance (a : Attribute) : Decidable a.IsContained :=
  decidable_of_iff ((a.isSlot = true → Markup.encloses a.value = true) ∧
      (a.isSlot = true → a.value.toList.getLast? ≠ some '/') ∧
      (a.isSlot = false → Markup.encloses a.key = true))
    ⟨fun h => ⟨h.1, h.2.1, h.2.2⟩, fun h => ⟨h.slot, h.slash, h.key⟩⟩

variable {a : Attribute}

/-- Nothing is asked of values: a value with a key is escaped and stands in quotes. -/
theorem IsContained.quotedAfter_render (ha : a.IsContained) :
    Markup.quotedAfter false a.render.toList = some false := by
  cases hslot : a.isSlot with
  | true =>
    have hvalue : Markup.quotedAfter false a.value.toList = some false :=
      of_decide_eq_true (ha.slot hslot)
    rw [toList_render_of_slot hslot, Markup.quotedAfter, if_neg (by decide), if_neg (by decide)]
    exact hvalue
  | false =>
    have hkey : Markup.quotedAfter false a.key.toList = some false :=
      of_decide_eq_true (ha.key hslot)
    have hcolon : Markup.quotedAfter false (if a.isBoolean then [':'] else []) = some false := by
      split <;> rfl
    have hvalue := Markup.quotedAfter_of_quoted (quote_notMem_escapeValue a.value)
    rw [toList_render_of_key hslot, Markup.quotedAfter_append, hcolon, Option.bind_some,
      Markup.quotedAfter_append, hkey, Option.bind_some]
    simp [Markup.quotedAfter, Markup.quotedAfter_append, hvalue]

theorem IsContained.getLast?_render (ha : a.IsContained) : a.render.toList.getLast? ≠ some '/' := by
  cases hslot : a.isSlot with
  | true =>
    rw [toList_render_of_slot hslot, List.getLast?_cons]
    cases hlast : a.value.toList.getLast? with
    | none => simp
    | some c =>
      have hslash := ha.slash hslot
      simpa [hlast] using hslash
  | false =>
    rw [toList_render_of_key hslot]
    simp [List.getLast?_append, List.getLast?_cons]

end Attribute

/-- The tag, if it has a name, is named by a word, and its attributes do not close it. -/
structure Tag.IsContained (tag : Tag) : Prop where
  name : ∀ name ∈ tag.name, ∀ c ∈ name.toList, Name.isTagChar c = true
  attributes : ∀ a ∈ tag.attributes, a.IsContained

namespace Markup

variable {config : Config} {indent : Int} {tag : Tag} {name : String} {gap r : List Char}

section Attributes

variable {as : List Attribute}

theorem quotedAfter_attributes (has : ∀ a ∈ as, a.IsContained) (hgap : ∀ c ∈ gap, isGapChar c = true) :
    quotedAfter false (as.flatMap fun a => gap ++ a.render.toList) = some false := by
  induction as with
  | nil => rfl
  | cons a as ih =>
    have ha := (has a List.mem_cons_self).quotedAfter_render
    rw [List.flatMap_cons, quotedAfter_append, quotedAfter_append, quotedAfter_of_gap hgap,
      Option.bind_some, ha, Option.bind_some]
    exact ih fun b hb => has b (List.mem_cons_of_mem _ hb)

/-- Attributes begin with a gap, and so does what follows none of them. -/
theorem isGapChar_head?_attributes (hgap : ∀ c ∈ gap, isGapChar c = true) (hne : gap ≠ [])
    (hr : ∀ c ∈ r.head?, isGapChar c = true) :
    ∀ c ∈ ((as.flatMap fun a => gap ++ a.render.toList) ++ r).head?, isGapChar c = true := by
  cases as with
  | nil => exact hr
  | cons a as =>
    cases gap with
    | nil => exact absurd rfl hne
    | cons b gap =>
      intro c hc
      obtain rfl : b = c := by simpa using hc
      exact hgap b List.mem_cons_self

theorem getLast?_append_ne {x y : List Char} (hx : x.getLast? ≠ some '/') (hy : y.getLast? ≠ some '/') :
    (x ++ y).getLast? ≠ some '/' := by
  rw [List.getLast?_append]
  cases hlast : y.getLast? with
  | none => simpa using hx
  | some c => simpa [hlast] using hy

theorem getLast?_ne_of_notMem {x : List Char} (hx : '/' ∉ x) : x.getLast? ≠ some '/' :=
  fun hlast => hx (List.mem_of_getLast? hlast)

theorem getLast?_attributes (has : ∀ a ∈ as, a.IsContained) (hgap : '/' ∉ gap) :
    (as.flatMap fun a => gap ++ a.render.toList).getLast? ≠ some '/' := by
  induction as with
  | nil => simp
  | cons a as ih =>
    rw [List.flatMap_cons]
    exact getLast?_append_ne
      (getLast?_append_ne (getLast?_ne_of_notMem hgap) (has a List.mem_cons_self).getLast?_render)
      (ih fun b hb => has b (List.mem_cons_of_mem _ hb))

end Attributes

/-- What stands between the brackets of an opening: the name, the attributes and what is behind
them. -/
def openingText (config : Config) (indent : Int) (name : String) (tag : Tag) (x : List Char) :
    List Char :=
  name.toList ++
    ((tag.attributes.flatMap fun a => attributeGap config indent tag ++ a.render.toList) ++ x)

theorem scanFrom_opening (htag : tag.IsContained) (hname : tag.name = some name) {x : List Char}
    (hx : quotedAfter false x = some false) :
    scanFrom .between ((opening config indent name tag).toList ++ (x ++ '>' :: r)) =
      .ofText (openingText config indent name tag x) :: scanFrom .between r := by
  have hbracket : '<' ∉ (padding indent).toList := notMem_of_sort isGapChar_of_mem_padding rfl
  have htext : quotedAfter false (openingText config indent name tag x) = some false := by
    rw [openingText, quotedAfter_append, quotedAfter_of_name (htag.name name hname), Option.bind_some,
      quotedAfter_append, quotedAfter_attributes htag.attributes isGapChar_of_mem_attributeGap,
      Option.bind_some, hx]
  rw [toList_opening, List.append_assoc, scanFrom_between hbracket, ← scanFrom_brackets htext]
  simp only [openingText, List.cons_append, List.append_assoc]

/-- The opening of a tag that something follows. -/
theorem scanFrom_openingEnd (htag : tag.IsContained) (hname : tag.name = some name)
    (hgap : ∀ c ∈ gap, isGapChar c = true) :
    scanFrom .between ((opening config indent name tag).toList ++ (gap ++ '>' :: r)) =
      .opening name :: scanFrom .between r := by
  have hchars := htag.name name hname
  have hhead : ∀ c ∈ gap.head?, isGapChar c = true := fun c hc => hgap c (List.mem_of_head? hc)
  have hlast : (openingText config indent name tag gap).getLast? ≠ some '/' :=
    getLast?_append_ne (getLast?_ne_of_notMem (notMem_of_sort hchars rfl))
      (getLast?_append_ne
        (getLast?_attributes htag.attributes (notMem_of_sort isGapChar_of_mem_attributeGap rfl))
        (getLast?_ne_of_notMem (notMem_of_sort hgap rfl)))
  rw [scanFrom_opening htag hname (quotedAfter_of_gap hgap), openingText, TagEvent.ofText_name hchars
    (isGapChar_head?_attributes isGapChar_of_mem_attributeGap attributeGap_ne_nil hhead)]
  exact congrArg (· :: _) (if_neg hlast)

/-- The opening of a tag that nothing follows. -/
theorem scanFrom_selfClosingEnd (htag : tag.IsContained) (hname : tag.name = some name)
    (hgap : ∀ c ∈ gap, isGapChar c = true) (hne : gap ≠ []) :
    scanFrom .between ((opening config indent name tag).toList ++ (gap ++ '/' :: '>' :: r)) =
      .selfClosing name :: scanFrom .between r := by
  have hchars := htag.name name hname
  have hhead : ∀ c ∈ (gap ++ ['/']).head?, isGapChar c = true := by
    obtain ⟨b, rest, rfl⟩ := List.exists_cons_of_ne_nil hne
    simpa using hgap b List.mem_cons_self
  have hquoted : quotedAfter false (gap ++ ['/']) = some false := by
    rw [quotedAfter_append, quotedAfter_of_gap hgap]
    rfl
  have hlast : (openingText config indent name tag (gap ++ ['/'])).getLast? = some '/' := by
    simp [openingText, List.getLast?_append]
  have hbehind : gap ++ '/' :: '>' :: r = (gap ++ ['/']) ++ '>' :: r := by simp
  rw [hbehind, scanFrom_opening htag hname hquoted, openingText, TagEvent.ofText_name hchars
    (isGapChar_head?_attributes isGapChar_of_mem_attributeGap attributeGap_ne_nil hhead)]
  exact congrArg (· :: _) (if_pos hlast)

theorem scanFrom_closing (hname : ∀ c ∈ name.toList, Name.isTagChar c = true) :
    scanFrom .between ((closing name).toList ++ r) = .closing name :: scanFrom .between r := by
  have hslash : quotedAfter false ('/' :: name.toList) = some false := by
    rw [quotedAfter, if_neg (by decide), if_neg (by decide)]
    exact quotedAfter_of_name hname
  have hscan := scanFrom_brackets (r := r) hslash
  rw [TagEvent.ofText_closing] at hscan
  simpa [toList_closing] using hscan

/-- The markup of the tree, whatever follows it, is scanned as its tags. -/
def IsScanned (config : Config) (t : Tree Tag) : Prop :=
  ∀ indent r, scanFrom .between ((renderTree config indent t).toList ++ r) =
    events t ++ scanFrom .between r

theorem scanFrom_newLines {forest : List (Tree Tag)} (hforest : ∀ t ∈ forest, IsScanned config t) :
    scanFrom .between (newLines config indent forest ++ r) =
      forestEvents forest ++ scanFrom .between r := by
  induction forest with
  | nil => rfl
  | cons t ts ih =>
    rw [newLines_cons, forestEvents, List.append_assoc, List.cons_append, scanFrom_newline,
      hforest t List.mem_cons_self, ih fun u hu => hforest u (List.mem_cons_of_mem _ hu),
      List.append_assoc]

/-- Every tree of contained tags is scanned as its tags: by induction, its children are. -/
theorem isScanned (t : Tree Tag) (ht : ∀ tag ∈ t.values, tag.IsContained) : IsScanned config t := by
  induction t using Tree.induction with
  | step tag children ih =>
    intro indent r
    have htag : tag.IsContained := ht tag (by simp [values])
    have hpadding : '<' ∉ (padding indent).toList := notMem_of_sort isGapChar_of_mem_padding rfl
    cases hname : tag.name with
    | none =>
      -- A bare text holds no bracket, so the scanner stays between tags.
      have htext : '<' ∉ (Tag.escapeText (tag.text.getD "")).toList := Tag.bracket_notMem_escapeText _
      simp only [renderTree, events, hname, String.toList_append, List.append_assoc, List.nil_append,
        scanFrom_between hpadding, scanFrom_between htext]
    | some name =>
      have hchars := htag.name name hname
      have hend : ∀ c ∈ endGap config indent tag [], isGapChar c = true :=
        isGapChar_of_mem_endGap (by simp)
      by_cases hchildren : children = []
      · subst hchildren
        cases htext : tag.text with
        | none =>
          have hgap : ∀ c ∈ endGap config indent tag [' '], isGapChar c = true :=
            isGapChar_of_mem_endGap (by simp [isGapChar])
          have hne : endGap config indent tag [' '] ≠ [] := by
            unfold endGap
            split <;> simp
          rw [toList_renderTree_empty hname htext]
          simp only [events, hname, htext, List.append_assoc, List.cons_append, List.nil_append,
            scanFrom_selfClosingEnd htag hname hgap hne]
        | some text =>
          rw [toList_renderTree_inline hname htext]
          simp only [events, hname, htext, forestEvents, List.append_assoc, List.cons_append,
            List.nil_append, scanFrom_openingEnd htag hname hend,
            scanFrom_between (Tag.bracket_notMem_escapeText text), scanFrom_closing hchars]
      · have hbelow : ∀ t ∈ children, IsScanned config t := by
          intro t hmem
          refine ih t hmem fun tag htag => ht tag ?_
          rw [values, forestValues_eq_flatMap]
          exact List.mem_cons_of_mem _ (List.mem_flatMap.mpr ⟨t, hmem, htag⟩)
        have hevents : events (.node tag children) =
            .opening name :: (forestEvents children ++ [.closing name]) := by
          rw [events, hname]
          cases children with
          | nil => exact absurd rfl hchildren
          | cons t ts => rfl
        rw [toList_renderTree_block hname hchildren]
        simp only [hevents, List.append_assoc, List.cons_append, List.nil_append,
          scanFrom_openingEnd htag hname hend, scanFrom_newLines hbelow, scanFrom_newline,
          scanFrom_between hpadding, scanFrom_closing hchars]

/-- The tags that a scanner finds in the markup of contained tags are these tags. -/
theorem scan_render (config : Config) (indent : Int) {forest : List (Tree Tag)}
    (hforest : ∀ tag ∈ forestValues forest, tag.IsContained) :
    scan (render config indent forest) = forestEvents forest := by
  by_cases hnil : forest = []
  · subst hnil
    rfl
  · have hscanned : ∀ t ∈ forest, IsScanned config t := by
      intro t ht
      refine isScanned t fun tag htag => hforest tag ?_
      rw [forestValues_eq_flatMap]
      exact List.mem_flatMap.mpr ⟨t, ht, htag⟩
    have hlines : scanFrom .between (newLines config indent forest ++ []) = forestEvents forest ++ [] :=
      scanFrom_newLines hscanned
    rw [List.append_nil, List.append_nil, ← newline_joinLines hnil, scanFrom_newline] at hlines
    exact hlines

section Elements

variable {config : Config}

theorem isTagChar_of_mem_tagName (hcontainer : config.containerTag.toList.all Name.isTagChar = true)
    (e : Element) : ∀ c ∈ (tagName config e).toList, Name.isTagChar c = true := by
  unfold tagName
  split
  · split
    · exact List.all_eq_true.mp (by decide)
    · exact Name.isTagChar_of_mem_tag config.tagStart_tagChars
  · exact List.all_eq_true.mp hcontainer

/-- The names of the tags of elements are words. -/
theorem isTagChar_of_mem_ofElement (hcontainer : config.containerTag.toList.all Name.isTagChar = true)
    (t : Tree Element) : ∀ tag ∈ (ofElement config t).values, ∀ name ∈ tag.name,
      ∀ c ∈ name.toList, Name.isTagChar c = true := by
  induction t using Tree.induction with
  | step e children ih =>
    intro tag htag name hname
    rw [ofElement, values] at htag
    rcases List.mem_cons.mp htag with rfl | hbelow
    · unfold tagOf at hname
      split at hname
      · cases hname
      · obtain rfl : tagName config e = name := by simpa using hname
        exact isTagChar_of_mem_tagName hcontainer e
    · split at hbelow
      · simp [forestValues] at hbelow
      · rw [forestValues_eq_flatMap, ofElements_eq_map, List.mem_flatMap] at hbelow
        obtain ⟨u, hu, htag⟩ := hbelow
        obtain ⟨t, ht, rfl⟩ := List.mem_map.mp hu
        exact ih t ht tag htag name hname

/-- Under the settings that stand unless others are chosen, the tags that a scanner finds in the
markup of elements are those of their tree, if no key and no slot closes a tag or leaves a quote
open.  Names, values and texts are any. -/
theorem scan_render_ofElements (indent : Int) (forest : List (Tree Element))
    (hforest : ∀ tag ∈ forestValues (ofElements {} forest), ∀ a ∈ tag.attributes, a.IsContained) :
    scan (render {} indent (ofElements {} forest)) = forestEvents (ofElements {} forest) := by
  refine scan_render {} indent fun tag htag => ⟨?_, hforest tag htag⟩
  rw [forestValues_eq_flatMap, ofElements_eq_map, List.mem_flatMap] at htag
  obtain ⟨u, hu, htag⟩ := htag
  obtain ⟨t, -, rfl⟩ := List.mem_map.mp hu
  exact isTagChar_of_mem_ofElement (by decide) t tag htag

/-- A component with one property. -/
def componentWith (name key value : String) : Element where
  id := "1"
  name := name
  kind := .occurrence
  dataType := some .component
  properties := some (Mapping.empty.insert key (.text value))

/-- A text that looks like a tag, inside a component with a value that looks like the end of one. -/
theorem scan_render_ofElements_quoted :
    let text : Element := { id := "2", name := "Text", kind := .text, dataType := some .text,
                            text := some "</UCard><b>" }
    let forest : List (Tree Element) :=
      [.node (componentWith "U \"Card\">" "size" "\"/><b>") [.node text []]]
    (∀ tag ∈ forestValues (ofElements {} forest), ∀ a ∈ tag.attributes, a.IsContained) ∧
      scan (render {} 0 (ofElements {} forest)) = [.opening "UCard", .closing "UCard"] := by
  intro text forest
  have hcontained :
      ∀ tag ∈ forestValues (ofElements {} forest), ∀ a ∈ tag.attributes, a.IsContained := by
    decide +kernel
  have hevents : forestEvents (ofElements {} forest) = [.opening "UCard", .closing "UCard"] := by
    decide +kernel
  exact ⟨hcontained, (scan_render_ofElements 0 forest hcontained).trans hevents⟩

/-- A slot is written as it is, and one with brackets adds an element. -/
theorem scan_render_spliced :
    let forest : List (Tree Element) := [.node (componentWith "template" "slot" "x><b") []]
    scan (render {} 0 (ofElements {} forest)) = [.opening "template", .selfClosing "b"] ∧
      forestEvents (ofElements {} forest) = [.selfClosing "template"] ∧
      scan (render {} 0 (ofElements {} forest)) ≠ forestEvents (ofElements {} forest) := by
  intro forest
  have hscan : scan (render {} 0 (ofElements {} forest)) = [.opening "template", .selfClosing "b"] := by
    decide +kernel
  have hevents : forestEvents (ofElements {} forest) = [.selfClosing "template"] := by
    decide +kernel
  refine ⟨hscan, hevents, ?_⟩
  rw [hscan, hevents]
  decide

end Elements

end Markup

end LayerMarkup
