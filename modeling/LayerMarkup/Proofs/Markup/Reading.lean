import LayerMarkup.Proofs.Markup.Characters
import LayerMarkup.Proofs.Tree.Keys

/-!
# Markup is read in one way

Rendered markup says what it was rendered from: two forests of named tags with the same markup are
the same, as far as tags are shown at all (`render_eq_iff_shown`).  The tags must have words for
names, and their attributes words for keys and slots and values without the escape of the quote;
texts and values are free otherwise.

The proof goes along the markup from its beginning.  Each part of it tells from its first characters
where it ends, so what follows equal parts is equal as well: the name and the attributes of a tag
(`opening_cancel`), what is inside it (`Inside.cancel`), and with it the whole tag
(`renderTree_cancel`).
-/

namespace LayerMarkup

open LayerMarkup.Tree

/-- The characters do not begin with one of a sort. -/
def Stops (p : Char → Bool) (cs : List Char) : Prop := ∀ c ∈ cs.head?, p c = false

@[simp] theorem stops_cons {p : Char → Bool} {c : Char} {cs : List Char} :
    Stops p (c :: cs) ↔ p c = false := by simp [Stops]

/-- A run of characters of one sort ends where another sort begins. -/
theorem span_unique {p : Char → Bool} {x y r s : List Char} (hx : ∀ c ∈ x, p c = true)
    (hy : ∀ c ∈ y, p c = true) (hr : Stops p r) (hs : Stops p s) (hsame : x ++ r = y ++ s) :
    x = y ∧ r = s := by
  induction x generalizing y with
  | nil =>
    cases y with
    | nil => exact ⟨rfl, hsame⟩
    | cons b y =>
      have hb : p b = false := by simpa [show r = b :: (y ++ s) from hsame] using hr
      rw [hy b List.mem_cons_self] at hb
      cases hb
  | cons a x ih =>
    cases y with
    | nil =>
      have ha : p a = false := by simpa [show s = a :: (x ++ r) from hsame.symm] using hs
      rw [hx a List.mem_cons_self] at ha
      cases ha
    | cons b y =>
      obtain ⟨hfirst, hrest⟩ := List.cons.inj hsame
      obtain ⟨hrun, hafter⟩ := ih (fun c hc => hx c (List.mem_cons_of_mem _ hc))
        (fun c hc => hy c (List.mem_cons_of_mem _ hc)) hrest
      exact ⟨by rw [hfirst, hrun], hafter⟩

/-- A run of characters of one sort, ended by a character of another, tells where it ends. -/
theorem span_unique_cons {p : Char → Bool} {x y r s : List Char} {a b : Char}
    (hx : ∀ c ∈ x, p c = true) (hy : ∀ c ∈ y, p c = true) (ha : p a = false) (hb : p b = false)
    (hsame : x ++ a :: r = y ++ b :: s) : x = y ∧ a = b ∧ r = s := by
  obtain ⟨hrun, hrest⟩ := span_unique hx hy (stops_cons.mpr ha) (stops_cons.mpr hb) hsame
  exact ⟨hrun, List.cons.inj hrest⟩

/-- The characters before one that is not among them are a run. -/
theorem bne_of_notMem {c : Char} {cs : List Char} (hc : c ∉ cs) : ∀ d ∈ cs, (d != c) = true := by
  intro d hd
  have hne : d ≠ c := fun h => hc (h ▸ hd)
  simpa using hne

/-- The characters of keys and of the names of slots. -/
def isWordChar (c : Char) : Bool := Name.isTagChar c || c = '-' || c = '_'

theorem isWordChar_of_isGapChar {c : Char} (hc : Markup.isGapChar c = true) : isWordChar c = false := by
  simp only [Markup.isGapChar, Bool.or_eq_true, decide_eq_true_eq] at hc
  rcases hc with rfl | rfl <;> decide

/-- A text of such characters. -/
structure IsWord (s : String) : Prop where
  ne : s ≠ ""
  chars : ∀ c ∈ s.toList, isWordChar c = true

instance (s : String) : Decidable (IsWord s) :=
  decidable_of_iff (s ≠ "" ∧ s.toList.all isWordChar = true)
    ⟨fun h => ⟨h.1, List.all_eq_true.mp h.2⟩, fun h => ⟨h.ne, List.all_eq_true.mpr h.chars⟩⟩

namespace Attribute

/-- The attribute has a word for its key, or for its slot, and its value does not hold the escape of
a quote. -/
structure IsReadable (a : Attribute) : Prop where
  slot : a.isSlot = true → IsWord a.value
  key : a.isSlot = false → IsWord a.key
  value : a.isSlot = false → Text.contains a.value "&quot;" = false

instance (a : Attribute) : Decidable a.IsReadable :=
  decidable_of_iff ((a.isSlot = true → IsWord a.value) ∧ (a.isSlot = false → IsWord a.key) ∧
      (a.isSlot = false → Text.contains a.value "&quot;" = false))
    ⟨fun h => ⟨h.1, h.2.1, h.2.2⟩, fun h => ⟨h.slot, h.key, h.value⟩⟩

/-- The attribute less what is not shown of it: the key of a slot, and that it is bound to it. -/
def shown (a : Attribute) : Attribute :=
  if a.isSlot then { key := "", value := a.value, isSlot := true } else a

variable {a b : Attribute} {r s : List Char}

/-- A key and a quoted value end with the quote. -/
theorem keyed_cancel {k l v w : String} (hk : IsWord k) (hl : IsWord l)
    (hv : Text.contains v "&quot;" = false) (hw : Text.contains w "&quot;" = false)
    (hsame : k.toList ++ '=' :: '"' :: ((escapeValue v).toList ++ '"' :: r) =
      l.toList ++ '=' :: '"' :: ((escapeValue w).toList ++ '"' :: s)) :
    k = l ∧ v = w ∧ r = s := by
  obtain ⟨hkey, -, hrest⟩ := span_unique_cons hk.chars hl.chars (by decide) (by decide) hsame
  have hquoted := (List.cons.inj hrest).2
  obtain ⟨hvalue, -, hafter⟩ := span_unique_cons (bne_of_notMem (quote_notMem_escapeValue v))
    (bne_of_notMem (quote_notMem_escapeValue w)) (by simp) (by simp) hquoted
  exact ⟨String.toList_inj.mp hkey, escapeValue_injective hv hw hvalue, hafter⟩

theorem IsWord.exists_cons {w : String} (hw : IsWord w) :
    ∃ c rest, w.toList = c :: rest ∧ isWordChar c = true := by
  cases hlist : w.toList with
  | nil => exact absurd (by simpa using hlist) hw.ne
  | cons c rest => exact ⟨c, rest, rfl, hw.chars c (hlist ▸ List.mem_cons_self)⟩

/-- The first character of an attribute tells its sort, and is none that ends an opening. -/
theorem IsReadable.exists_cons (ha : a.IsReadable) :
    ∃ c rest, a.render.toList = c :: rest ∧
      ((a.isSlot = true ∧ c = '#') ∨ (a.isSlot = false ∧ a.isBoolean = true ∧ c = ':') ∨
        (a.isSlot = false ∧ a.isBoolean = false ∧ isWordChar c = true)) := by
  cases hslot : a.isSlot with
  | true => exact ⟨_, _, toList_render_of_slot hslot, .inl ⟨rfl, rfl⟩⟩
  | false =>
    obtain ⟨c, rest, hkey, hc⟩ := IsWord.exists_cons (ha.key hslot)
    rw [toList_render_of_key hslot, hkey]
    cases hboolean : a.isBoolean with
    | true => exact ⟨_, _, rfl, .inr (.inl ⟨rfl, rfl, rfl⟩)⟩
    | false => exact ⟨_, _, rfl, .inr (.inr ⟨rfl, rfl, hc⟩)⟩

/-- An attribute begins neither with a gap nor with an end of an opening. -/
theorem IsReadable.exists_cons_part (ha : a.IsReadable) :
    ∃ c rest, a.render.toList = c :: rest ∧ Markup.isGapChar c = false ∧ c ≠ '>' ∧ c ≠ '/' := by
  obtain ⟨c, rest, hrender, hsort⟩ := ha.exists_cons
  refine ⟨c, rest, hrender, ?_⟩
  rcases hsort with ⟨-, rfl⟩ | ⟨-, -, rfl⟩ | ⟨-, -, hc⟩
  · decide
  · decide
  · refine ⟨?_, ?_, ?_⟩
    · by_contra hgap
      rw [isWordChar_of_isGapChar (by simpa using hgap)] at hc
      cases hc
    · rintro rfl
      exact absurd hc (by decide)
    · rintro rfl
      exact absurd hc (by decide)

theorem IsReadable.stops (ha : a.IsReadable) (r : List Char) :
    Stops Markup.isGapChar (a.render.toList ++ r) := by
  obtain ⟨c, rest, hrender, hgap, -⟩ := ha.exists_cons_part
  rw [hrender]
  exact stops_cons.mpr hgap

/-- Attributes of the same beginning are of one sort. -/
theorem IsReadable.sort_eq (ha : a.IsReadable) (hb : b.IsReadable)
    (hsame : a.render.toList ++ r = b.render.toList ++ s) :
    a.isSlot = b.isSlot ∧ (a.isSlot = false → a.isBoolean = b.isBoolean) := by
  obtain ⟨c, x, hc, hsort⟩ := ha.exists_cons
  obtain ⟨d, y, hd, hsort'⟩ := hb.exists_cons
  rw [hc, hd] at hsame
  obtain ⟨rfl, -⟩ := List.cons.inj hsame
  have hmark : isWordChar '#' = false := by decide
  have hcolon : isWordChar ':' = false := by decide
  grind

/-- What follows an attribute is no part of it, unless it were a character of a word. -/
theorem IsReadable.cancel (ha : a.IsReadable) (hb : b.IsReadable)
    (hr : Stops isWordChar r) (hs : Stops isWordChar s)
    (hsame : a.render.toList ++ r = b.render.toList ++ s) : a.shown = b.shown ∧ r = s := by
  obtain ⟨hslots, hbooleans⟩ := ha.sort_eq hb hsame
  cases hslot : a.isSlot with
  | true =>
    have hslot' : b.isSlot = true := hslots ▸ hslot
    rw [toList_render_of_slot hslot, toList_render_of_slot hslot'] at hsame
    obtain ⟨hvalue, hrest⟩ := span_unique (ha.slot hslot).chars (hb.slot hslot').chars hr hs
      (List.cons.inj hsame).2
    refine ⟨?_, hrest⟩
    simp only [shown, hslot, hslot', if_true, String.toList_inj.mp hvalue]
  | false =>
    have hslot' : b.isSlot = false := hslots ▸ hslot
    have hboolean : a.isBoolean = b.isBoolean := hbooleans hslot
    rw [toList_render_of_key hslot, toList_render_of_key hslot', hboolean] at hsame
    simp only [List.append_assoc, List.append_cancel_left_eq, List.cons_append,
      List.nil_append] at hsame
    obtain ⟨hkey, hvalue, hrest⟩ := keyed_cancel (ha.key hslot) (hb.key hslot') (ha.value hslot)
      (hb.value hslot') hsame
    refine ⟨?_, hrest⟩
    obtain ⟨key, value, boolean, slot⟩ := a
    obtain ⟨key', value', boolean', slot'⟩ := b
    simp_all [shown]

end Attribute

namespace Tag

/-- The tag has a word of letters and digits for a name, and attributes that can be read. -/
structure IsReadable (tag : Tag) : Prop where
  name : ∃ name, tag.name = some name ∧ name ≠ "" ∧ ∀ c ∈ name.toList, Name.isTagChar c = true
  attributes : ∀ a ∈ tag.attributes, a.IsReadable

/-- The name is a word of letters and digits. -/
def hasWord (tag : Tag) : Bool :=
  tag.name.any fun name => name ≠ "" && name.toList.all Name.isTagChar

theorem hasWord_iff {tag : Tag} : tag.hasWord = true ↔
    ∃ name, tag.name = some name ∧ name ≠ "" ∧ ∀ c ∈ name.toList, Name.isTagChar c = true := by
  simp only [hasWord, Option.any_eq_true, Bool.and_eq_true, decide_eq_true_eq, List.all_eq_true]

instance (tag : Tag) : Decidable tag.IsReadable :=
  decidable_of_iff (tag.hasWord = true ∧ ∀ a ∈ tag.attributes, a.IsReadable)
    ⟨fun h => ⟨hasWord_iff.mp h.1, h.2⟩, fun h => ⟨hasWord_iff.mpr h.name, h.attributes⟩⟩

theorem IsReadable.ne_none {tag : Tag} (htag : tag.IsReadable) : tag.name ≠ none := by
  obtain ⟨name, hname, -⟩ := htag.name
  simp [hname]

theorem IsReadable.chars {tag : Tag} {name : String} (htag : tag.IsReadable)
    (hname : tag.name = some name) : name ≠ "" ∧ ∀ c ∈ name.toList, Name.isTagChar c = true := by
  obtain ⟨_, hsame, hword⟩ := htag.name
  rw [hname] at hsame
  cases hsame
  exact hword

end Tag

namespace Markup

variable {config : Config} {indent : Int} {tag tag' : Tag} {name name' : String} {r s : List Char}

mutual

/-- A tree of tags less what is not shown of it: of the attributes as above, and a text beside
children. -/
def shown : Tree Tag → Tree Tag
  | .node tag children =>
    .node { tag with attributes := tag.attributes.map Attribute.shown
                     text := if children.isEmpty then tag.text else none } (shownForest children)

def shownForest : List (Tree Tag) → List (Tree Tag)
  | [] => []
  | t :: ts => shown t :: shownForest ts

end

theorem shownForest_eq_map (forest : List (Tree Tag)) : shownForest forest = forest.map shown := by
  induction forest with
  | nil => rfl
  | cons t ts ih => rw [shownForest, ih, List.map_cons]

/-- The end of an opening: a gap and a bracket, with a slash or without. -/
def EndsOpening (r : List Char) : Prop :=
  ∃ gap c rest, (∀ b ∈ gap, isGapChar b = true) ∧ (c = '>' ∨ c = '/') ∧ r = gap ++ c :: rest

/-- What begins with a gap is no more of a word. -/
theorem stops_of_gap {gap : List Char} (hgap : ∀ c ∈ gap, isGapChar c = true)
    (hr : gap = [] → Stops isWordChar r) : Stops isWordChar (gap ++ r) := by
  cases gap with
  | nil => exact hr rfl
  | cons b gap => exact stops_cons.mpr (isWordChar_of_isGapChar (hgap b List.mem_cons_self))

theorem EndsOpening.stops (hr : EndsOpening r) : Stops isWordChar r := by
  obtain ⟨gap, c, rest, hgap, hc, rfl⟩ := hr
  refine stops_of_gap hgap fun _ => stops_cons.mpr ?_
  rcases hc with rfl | rfl <;> decide

theorem stops_attributes {gap : List Char} (hgap : ∀ c ∈ gap, isGapChar c = true) (hne : gap ≠ [])
    (attributes : List Attribute) (hr : EndsOpening r) :
    Stops isWordChar ((attributes.flatMap fun a => gap ++ a.render.toList) ++ r) := by
  cases attributes with
  | nil => exact hr.stops
  | cons a rest =>
    rw [List.flatMap_cons, List.append_assoc, List.append_assoc]
    exact stops_of_gap hgap fun hnil => absurd hnil hne

/-- An attribute behind a gap is no end of an opening. -/
theorem attribute_ne_end {a : Attribute} (ha : a.IsReadable) {gap : List Char}
    (hgap : ∀ c ∈ gap, isGapChar c = true) (hs : EndsOpening s) :
    gap ++ (a.render.toList ++ r) ≠ s := by
  intro hsame
  obtain ⟨gap', c, rest, hgap', hc, rfl⟩ := hs
  obtain ⟨d, x, hd, hnotGap, hd1, hd2⟩ := ha.exists_cons_part
  have hc' : isGapChar c = false := by rcases hc with rfl | rfl <;> decide
  rw [hd] at hsame
  obtain ⟨-, rfl, -⟩ := span_unique_cons hgap hgap' hnotGap hc' hsame
  exact hc.elim hd1 hd2

/-- Two runs of attributes behind gaps are the same, as far as they are shown, and what follows them
is the same. -/
theorem attributes_cancel {as bs : List Attribute} {g h : List Char}
    (hg : ∀ c ∈ g, isGapChar c = true) (hgne : g ≠ []) (hh : ∀ c ∈ h, isGapChar c = true)
    (hhne : h ≠ []) (has : ∀ a ∈ as, a.IsReadable) (hbs : ∀ b ∈ bs, b.IsReadable)
    (hr : EndsOpening r) (hs : EndsOpening s)
    (hsame : (as.flatMap fun a => g ++ a.render.toList) ++ r =
      (bs.flatMap fun b => h ++ b.render.toList) ++ s) :
    as.map Attribute.shown = bs.map Attribute.shown ∧ r = s := by
  induction as generalizing bs with
  | nil =>
    cases bs with
    | nil => exact ⟨rfl, hsame⟩
    | cons b bs =>
      rw [List.flatMap_cons, List.append_assoc, List.append_assoc] at hsame
      exact absurd hsame.symm (attribute_ne_end (hbs b List.mem_cons_self) hh hr)
  | cons a as ih =>
    have ha : a.IsReadable := has a List.mem_cons_self
    rw [List.flatMap_cons, List.append_assoc, List.append_assoc] at hsame
    cases bs with
    | nil => exact absurd hsame (attribute_ne_end ha hg hs)
    | cons b bs =>
      have hb : b.IsReadable := hbs b List.mem_cons_self
      rw [List.flatMap_cons, List.append_assoc, List.append_assoc] at hsame
      obtain ⟨-, hfirst⟩ := span_unique hg hh (ha.stops _) (hb.stops _) hsame
      obtain ⟨hshown, hrest⟩ := ha.cancel hb (stops_attributes hg hgne as hr)
        (stops_attributes hh hhne bs hs) hfirst
      obtain ⟨hothers, hafter⟩ := ih (fun a ha => has a (List.mem_cons_of_mem _ ha))
        (fun b hb => hbs b (List.mem_cons_of_mem _ hb)) hrest
      exact ⟨by rw [List.map_cons, List.map_cons, hshown, hothers], hafter⟩

/-- The opening of a tag tells the name and the attributes, and where it ends. -/
theorem opening_cancel (htag : tag.IsReadable) (htag' : tag'.IsReadable)
    (hname : tag.name = some name) (hname' : tag'.name = some name') (hr : EndsOpening r)
    (hs : EndsOpening s)
    (hsame : (opening config indent name tag).toList ++ r =
      (opening config indent name' tag').toList ++ s) :
    name = name' ∧ tag.attributes.map Attribute.shown = tag'.attributes.map Attribute.shown ∧
      r = s := by
  have hstops : ∀ {x : List Char}, Stops isWordChar x → Stops Name.isTagChar x := by
    intro x hx c hc
    have hword : isWordChar c = false := hx c hc
    simp only [isWordChar, Bool.or_eq_false_iff] at hword
    exact hword.1.1
  rw [toList_opening, toList_opening] at hsame
  simp only [List.append_assoc, List.cons_append, List.append_cancel_left_eq, List.cons.injEq,
    true_and] at hsame
  obtain ⟨hnames, hrest⟩ := span_unique (htag.chars hname).2 (htag'.chars hname').2
    (hstops (stops_attributes isGapChar_of_mem_attributeGap attributeGap_ne_nil _ hr))
    (hstops (stops_attributes isGapChar_of_mem_attributeGap attributeGap_ne_nil _ hs)) hsame
  obtain ⟨hattributes, hafter⟩ := attributes_cancel isGapChar_of_mem_attributeGap attributeGap_ne_nil
    isGapChar_of_mem_attributeGap attributeGap_ne_nil htag.attributes htag'.attributes hr hs hrest
  exact ⟨String.toList_inj.mp hnames, hattributes, hafter⟩

/-- What stands behind the opening of an element, by what is inside it. -/
inductive Inside (config : Config) (indent : Int) (name : String) (tag : Tag) :
    List (Tree Tag) → List Char → Prop
  /-- There is nothing inside. -/
  | empty {gap : List Char} (hgap : ∀ c ∈ gap, isGapChar c = true) (htext : tag.text = none) :
      Inside config indent name tag [] (gap ++ ['/', '>'])
  /-- A text, up to the closing. -/
  | inline {gap : List Char} {text : String} (hgap : ∀ c ∈ gap, isGapChar c = true)
      (htext : tag.text = some text) :
      Inside config indent name tag []
        (gap ++ '>' :: ((Tag.escapeText text).toList ++ '<' :: '/' :: (name.toList ++ ['>'])))
  /-- Children below each other, then the closing. -/
  | block {gap : List Char} {children : List (Tree Tag)} (hgap : ∀ c ∈ gap, isGapChar c = true)
      (hchildren : children ≠ []) :
      Inside config indent name tag children
        (gap ++ '>' :: (newLines config (indent + config.indentWidth) children ++
          '\n' :: ((padding indent).toList ++ '<' :: '/' :: (name.toList ++ ['>']))))

/-- An element is its opening and what is inside it. -/
theorem exists_inside (config : Config) (indent : Int) (hname : tag.name = some name)
    (children : List (Tree Tag)) :
    ∃ x, Inside config indent name tag children x ∧
      (renderTree config indent (.node tag children)).toList =
        (opening config indent name tag).toList ++ x := by
  have hnone : ∀ c ∈ endGap config indent tag [], isGapChar c = true :=
    isGapChar_of_mem_endGap (by simp)
  have hblank : ∀ c ∈ endGap config indent tag [' '], isGapChar c = true :=
    isGapChar_of_mem_endGap (by simp [isGapChar])
  by_cases hchildren : children = []
  · subst hchildren
    cases htext : tag.text with
    | none => exact ⟨_, .empty hblank htext, toList_renderTree_empty hname htext⟩
    | some text =>
      refine ⟨_, .inline hnone htext, ?_⟩
      rw [toList_renderTree_inline hname htext, toList_closing]
  · refine ⟨_, .block hnone hchildren, ?_⟩
    rw [toList_renderTree_block hname hchildren, toList_closing]

theorem Inside.endsOpening {children : List (Tree Tag)} {x : List Char}
    (hinside : Inside config indent name tag children x) (r : List Char) : EndsOpening (x ++ r) := by
  cases hinside with
  | empty hgap _ => exact ⟨_, '/', _, hgap, .inr rfl, by rw [List.append_assoc]; rfl⟩
  | inline hgap _ => exact ⟨_, '>', _, hgap, .inl rfl, by rw [List.append_assoc]; rfl⟩
  | block hgap _ => exact ⟨_, '>', _, hgap, .inl rfl, by rw [List.append_assoc]; rfl⟩

/-- A tree on a new line begins with a gap, a bracket and a character of a name. -/
theorem exists_newLine (config : Config) (indent : Int) {t : Tree Tag}
    (ht : ∀ tag ∈ t.values, tag.IsReadable) :
    ∃ gap c rest, (∀ b ∈ gap, isGapChar b = true) ∧ Name.isTagChar c = true ∧
      '\n' :: (renderTree config indent t).toList = gap ++ '<' :: c :: rest := by
  obtain ⟨tag, children⟩ := t
  obtain ⟨name, hname, hne, hchars⟩ := (ht tag (by simp [values])).name
  obtain ⟨x, -, hrender⟩ := exists_inside config indent hname children
  cases hlist : name.toList with
  | nil => exact absurd (by simpa using hlist) hne
  | cons c cs =>
    let rest := cs ++ ((tag.attributes.flatMap fun a =>
      attributeGap config indent tag ++ a.render.toList) ++ x)
    refine ⟨'\n' :: (padding indent).toList, c, rest, isGapChar_of_mem_newline_padding,
      hchars c (hlist ▸ List.mem_cons_self), ?_⟩
    rw [hrender, toList_opening, hlist]
    simp only [List.append_assoc, List.cons_append, rest]

/-- The end of a run of trees: nothing, or a gap and the closing of the tag around them. -/
def EndsTrees (r : List Char) : Prop :=
  r = [] ∨ ∃ gap rest, (∀ b ∈ gap, isGapChar b = true) ∧ r = gap ++ '<' :: '/' :: rest

/-- A tree on a new line is no end of a run of trees. -/
theorem newLine_ne_end {t : Tree Tag} (ht : ∀ tag ∈ t.values, tag.IsReadable) (hs : EndsTrees s) :
    '\n' :: (renderTree config indent t).toList ++ r ≠ s := by
  intro hsame
  obtain ⟨gap, c, rest, hgap, hc, hline⟩ := exists_newLine config indent ht
  rcases hs with rfl | ⟨gap', rest', hgap', rfl⟩
  · cases hsame
  · rw [hline, List.append_assoc] at hsame
    obtain ⟨-, -, hrest⟩ := span_unique_cons hgap hgap' (by decide) (by decide) hsame
    obtain ⟨rfl, -⟩ := List.cons.inj hrest
    exact absurd hc (by decide)

/-- A tree is told from other trees by its markup, and so is the end of its markup. -/
def IsTold (config : Config) (t : Tree Tag) : Prop :=
  ∀ (u : Tree Tag) (indent : Int) (r s : List Char), (∀ tag ∈ t.values, tag.IsReadable) →
    (∀ tag ∈ u.values, tag.IsReadable) →
    (renderTree config indent t).toList ++ r = (renderTree config indent u).toList ++ s →
    shown t = shown u ∧ r = s

/-- Runs of trees are the same, as far as they are shown, if each tree of them is told. -/
theorem newLines_cancel {ts us : List (Tree Tag)} (htold : ∀ t ∈ ts, IsTold config t)
    (hts : ∀ tag ∈ forestValues ts, tag.IsReadable) (hus : ∀ tag ∈ forestValues us, tag.IsReadable)
    (hr : EndsTrees r) (hs : EndsTrees s)
    (hsame : newLines config indent ts ++ r = newLines config indent us ++ s) :
    shownForest ts = shownForest us ∧ r = s := by
  induction ts generalizing us with
  | nil =>
    cases us with
    | nil => exact ⟨rfl, hsame⟩
    | cons u us =>
      rw [newLines_cons, List.append_assoc] at hsame
      refine absurd hsame.symm (newLine_ne_end (fun tag htag => hus tag ?_) hr)
      rw [forestValues]
      exact List.mem_append_left _ htag
  | cons t ts ih =>
    rw [forestValues] at hts
    have ht : ∀ tag ∈ t.values, tag.IsReadable := fun tag htag => hts tag (List.mem_append_left _ htag)
    rw [newLines_cons, List.append_assoc] at hsame
    cases us with
    | nil => exact absurd hsame (newLine_ne_end ht hs)
    | cons u us =>
      rw [forestValues] at hus
      have hu : ∀ tag ∈ u.values, tag.IsReadable :=
        fun tag htag => hus tag (List.mem_append_left _ htag)
      rw [newLines_cons, List.append_assoc] at hsame
      obtain ⟨htree, hrest⟩ :=
        htold t List.mem_cons_self u indent _ _ ht hu (List.cons.inj hsame).2
      obtain ⟨htrees, hafter⟩ := ih (fun t ht => htold t (List.mem_cons_of_mem _ ht))
        (fun tag htag => hts tag (List.mem_append_right _ htag))
        (fun tag htag => hus tag (List.mem_append_right _ htag)) hrest
      exact ⟨by rw [shownForest, shownForest, htree, htrees], hafter⟩

section Contents

variable {children children' : List (Tree Tag)} {x y : List Char}

/-- A text goes up to the first bracket, which closes the tag; children begin with a bracket that
opens one. -/
theorem text_ne_children {text : String} (hchildren : children ≠ [])
    (hreadable : ∀ tag ∈ forestValues children, tag.IsReadable) :
    (Tag.escapeText text).toList ++ '<' :: '/' :: x ≠ newLines config indent children ++ y := by
  intro hsame
  obtain ⟨t, ts, rfl⟩ := List.exists_cons_of_ne_nil hchildren
  rw [forestValues] at hreadable
  obtain ⟨gap, c, rest, hgap, hc, hline⟩ := exists_newLine config indent
    fun tag htag => hreadable tag (List.mem_append_left _ htag)
  rw [newLines_cons, hline, List.append_assoc, List.append_assoc] at hsame
  obtain ⟨-, -, hrest⟩ := span_unique_cons (bne_of_notMem (Tag.bracket_notMem_escapeText text))
    (bne_of_notMem (notMem_of_sort hgap rfl)) (by simp) (by simp) hsame
  obtain ⟨rfl, -⟩ := List.cons.inj hrest
  exact absurd hc (by decide)

/-- A bracket without a slash ends the opening of an element with something inside. -/
theorem slash_ne_bracket {gap gap' : List Char} (hgap : ∀ c ∈ gap, isGapChar c = true)
    (hgap' : ∀ c ∈ gap', isGapChar c = true) : gap ++ '/' :: x ≠ gap' ++ '>' :: y := by
  intro hsame
  obtain ⟨-, hfirst, -⟩ := span_unique_cons hgap hgap' (by decide) (by decide) hsame
  exact absurd hfirst (by decide)

theorem bracket_cancel {gap gap' : List Char} (hgap : ∀ c ∈ gap, isGapChar c = true)
    (hgap' : ∀ c ∈ gap', isGapChar c = true) (hsame : gap ++ '>' :: x = gap' ++ '>' :: y) : x = y :=
  (span_unique_cons hgap hgap' (by decide) (by decide) hsame).2.2

theorem text_cancel {text text' : String}
    (hsame : (Tag.escapeText text).toList ++ '<' :: x = (Tag.escapeText text').toList ++ '<' :: y) :
    text = text' ∧ x = y := by
  obtain ⟨htext, -, hrest⟩ := span_unique_cons (bne_of_notMem (Tag.bracket_notMem_escapeText text))
    (bne_of_notMem (Tag.bracket_notMem_escapeText text')) (by simp) (by simp) hsame
  exact ⟨Tag.escapeText_injective htext, hrest⟩

/-- What is shown of the text of a tag. -/
def shownText (tag : Tag) (children : List (Tree Tag)) : Option String :=
  if children.isEmpty then tag.text else none

/-- What is inside an element is told by what stands behind its opening, and so is its end. -/
theorem Inside.cancel (htold : ∀ t ∈ children, IsTold config t)
    (hreadable : ∀ tag ∈ forestValues children, tag.IsReadable)
    (hreadable' : ∀ tag ∈ forestValues children', tag.IsReadable)
    (hx : Inside config indent name tag children x) (hy : Inside config indent name tag' children' y)
    (hsame : x ++ r = y ++ s) :
    shownText tag children = shownText tag' children' ∧
      shownForest children = shownForest children' ∧ r = s := by
  cases hx with
  | empty hgap htext =>
    cases hy with
    | empty hgap' htext' =>
      simp only [List.append_assoc, List.cons_append, List.nil_append] at hsame
      obtain ⟨-, -, hrest⟩ := span_unique_cons hgap hgap' (by decide) (by decide) hsame
      refine ⟨?_, rfl, (List.cons.inj hrest).2⟩
      simp only [shownText, List.isEmpty_nil, htext, htext']
    | inline hgap' _ =>
      simp only [List.append_assoc, List.cons_append] at hsame
      exact absurd hsame (slash_ne_bracket hgap hgap')
    | block hgap' _ =>
      simp only [List.append_assoc, List.cons_append] at hsame
      exact absurd hsame (slash_ne_bracket hgap hgap')
  | inline hgap htext =>
    cases hy with
    | empty hgap' _ =>
      simp only [List.append_assoc, List.cons_append] at hsame
      exact absurd hsame.symm (slash_ne_bracket hgap' hgap)
    | inline hgap' htext' =>
      simp only [List.append_assoc, List.cons_append] at hsame
      obtain ⟨rfl, hrest⟩ := text_cancel (bracket_cancel hgap hgap' hsame)
      refine ⟨?_, rfl, ?_⟩
      · simp only [shownText, List.isEmpty_nil, htext, htext']
      · simpa using hrest
    | block hgap' hchildren' =>
      simp only [List.append_assoc, List.cons_append] at hsame
      exact absurd (bracket_cancel hgap hgap' hsame) (text_ne_children hchildren' hreadable')
  | block hgap hchildren =>
    cases hy with
    | empty hgap' _ =>
      simp only [List.append_assoc, List.cons_append] at hsame
      exact absurd hsame.symm (slash_ne_bracket hgap' hgap)
    | inline hgap' _ =>
      simp only [List.append_assoc, List.cons_append] at hsame
      exact absurd (bracket_cancel hgap hgap' hsame).symm (text_ne_children hchildren hreadable)
    | block hgap' hchildren' =>
      simp only [List.append_assoc, List.cons_append] at hsame
      have hends : ∀ z : List Char, EndsTrees ('\n' :: ((padding indent).toList ++ '<' :: '/' :: z)) :=
        fun z => .inr ⟨'\n' :: (padding indent).toList, z, isGapChar_of_mem_newline_padding, rfl⟩
      obtain ⟨htrees, hrest⟩ := newLines_cancel htold hreadable hreadable' (hends _) (hends _)
        (bracket_cancel hgap hgap' hsame)
      refine ⟨?_, htrees, by simpa using hrest⟩
      simp only [shownText, List.isEmpty_eq_false_iff.mpr hchildren,
        List.isEmpty_eq_false_iff.mpr hchildren', Bool.false_eq_true, if_false]

end Contents

/-- Every tree of readable tags is told from other trees by its markup, and so is its end. -/
theorem renderTree_cancel (t : Tree Tag) : IsTold config t := by
  induction t using Tree.induction with
  | step tag children ih =>
    rintro ⟨tag', children'⟩ indent r s hreadable hreadable' hsame
    have htag : tag.IsReadable := hreadable tag (by simp [values])
    have htag' : tag'.IsReadable := hreadable' tag' (by simp [values])
    obtain ⟨name, hname, -⟩ := htag.name
    obtain ⟨name', hname', -⟩ := htag'.name
    obtain ⟨x, hx, hrender⟩ := exists_inside config indent hname children
    obtain ⟨y, hy, hrender'⟩ := exists_inside config indent hname' children'
    rw [hrender, hrender', List.append_assoc, List.append_assoc] at hsame
    obtain ⟨rfl, hattributes, hrest⟩ := opening_cancel htag htag' hname hname' (hx.endsOpening r)
      (hy.endsOpening s) hsame
    -- The induction is on the first tree only; `ih` tells its children from any others.
    obtain ⟨htext, hchildren, hafter⟩ := hx.cancel ih
      (fun tag htag => hreadable tag (by simp [values, htag]))
      (fun tag htag => hreadable' tag (by simp [values, htag])) hy hrest
    refine ⟨?_, hafter⟩
    simp only [shownText] at htext
    simp only [shown, hname, hname', hattributes, htext, hchildren]

section Shown

theorem render_shown_attribute (a : Attribute) : a.shown.render = a.render := by
  unfold Attribute.shown
  split
  · rename_i hslot
    simp [Attribute.render, hslot]
  · rfl

/-- The markup of an element is told from its name, the markup of its attributes and what is
inside. -/
theorem renderTree_congr {children children' : List (Tree Tag)} (hname : tag.name = some name)
    (hname' : tag'.name = some name)
    (hattributes : tag.attributes.map Attribute.render = tag'.attributes.map Attribute.render)
    (htext : children = [] → tag.text = tag'.text)
    (hchildren : renderForest config (indent + config.indentWidth) children =
      renderForest config (indent + config.indentWidth) children') :
    renderTree config indent (.node tag children) =
      renderTree config indent (.node tag' children') := by
  have hlength : tag.attributes.length = tag'.attributes.length := by
    simpa using congrArg List.length hattributes
  have hwrapped : isWrapped config tag = isWrapped config tag' := by simp only [isWrapped, hlength]
  have hopening : opening config indent name tag = opening config indent name tag' := by
    have hgaps : ∀ gap : String, tag.attributes.map (fun a => gap ++ a.render) =
        tag'.attributes.map fun a => gap ++ a.render := by
      intro gap
      simpa only [List.map_map, Function.comp_def] using congrArg (List.map (gap ++ ·)) hattributes
    simp only [opening, hwrapped, hgaps]
  cases children with
  | nil =>
    cases children' with
    | nil =>
      simp only [renderTree, hname, hname', htext rfl, hopening, selfClosingEnd, openingEnd, hwrapped]
    | cons t ts => cases hchildren
  | cons t ts =>
    cases children' with
    | nil => cases hchildren
    | cons u us =>
      simp only [renderTree, hname, hname', hchildren, hopening, openingEnd, hwrapped]

/-- What is not shown of a tree makes no difference to its markup. -/
theorem renderTree_shown (t : Tree Tag) (hnamed : ∀ tag ∈ t.values, tag.name ≠ none) :
    ∀ indent, renderTree config indent (shown t) = renderTree config indent t := by
  induction t using Tree.induction with
  | step tag children ih =>
    intro indent
    obtain ⟨name, hname⟩ := Option.ne_none_iff_exists'.mp (hnamed tag (by simp [values]))
    rw [shown]
    refine renderTree_congr hname hname ?_ ?_ ?_
    · simp only [List.map_map, Function.comp_def, render_shown_attribute]
    · intro hnone
      have hempty : children = [] := by simpa [shownForest_eq_map] using hnone
      simp only [hempty, List.isEmpty_nil, if_true]
    · rw [shownForest_eq_map, renderForest_eq_map, renderForest_eq_map, List.map_map]
      refine List.map_congr_left fun c hc => ih c hc (fun tag htag => hnamed tag ?_) _
      rw [values, forestValues_eq_flatMap]
      exact List.mem_cons_of_mem _ (List.mem_flatMap.mpr ⟨c, hc, htag⟩)

theorem render_shownForest {forest : List (Tree Tag)}
    (hnamed : ∀ tag ∈ forestValues forest, tag.name ≠ none) :
    render config indent (shownForest forest) = render config indent forest := by
  rw [render, render, shownForest_eq_map, renderForest_eq_map, renderForest_eq_map, List.map_map]
  refine congrArg Text.joinLines (List.map_congr_left fun t ht => ?_)
  refine renderTree_shown t (fun tag htag => hnamed tag ?_) indent
  rw [forestValues_eq_flatMap]
  exact List.mem_flatMap.mpr ⟨t, ht, htag⟩

end Shown

theorem render_eq_empty_iff {forest : List (Tree Tag)}
    (hforest : ∀ tag ∈ forestValues forest, tag.IsReadable) :
    render config indent forest = "" ↔ forest = [] := by
  rw [render, Text.joinLines_eq_empty_iff, renderForest_eq_map, List.map_eq_nil_iff]
  intro line hline
  rw [renderForest_eq_map] at hline
  obtain ⟨t, ht, rfl⟩ := List.mem_map.mp hline
  exact renderTree_ne_empty (hforest t.value (value_mem_forestValues ht)).ne_none

/-- Forests of readable tags have the same markup if and only if they are the same up to what is not
shown: the keys of slots, whether these are bound, and texts beside children. -/
theorem render_eq_iff_shown (config : Config) (indent : Int) {forest others : List (Tree Tag)}
    (hforest : ∀ tag ∈ forestValues forest, tag.IsReadable)
    (hothers : ∀ tag ∈ forestValues others, tag.IsReadable) :
    render config indent forest = render config indent others ↔
      shownForest forest = shownForest others := by
  constructor
  · intro hsame
    -- The empty forest has no line feed before it, so it is told from the others first.
    have hlines : newLines config indent forest = newLines config indent others := by
      by_cases hnil : forest = []
      · have hnil' : others = [] := by
          rw [← render_eq_empty_iff hothers, ← hsame, render_eq_empty_iff hforest]
          exact hnil
        rw [hnil, hnil']
      · have hsome : others ≠ [] := by
          rwa [Ne, ← render_eq_empty_iff hothers, ← hsame, render_eq_empty_iff hforest]
        rw [← newline_joinLines hnil, ← newline_joinLines hsome]
        exact congrArg (fun markup => '\n' :: markup.toList) hsame
    have hends : EndsTrees [] := .inl rfl
    have hends' : newLines config indent forest ++ [] = newLines config indent others ++ [] := by
      rw [hlines]
    exact (newLines_cancel (fun t _ => renderTree_cancel t) hforest hothers hends hends hends').1
  · intro hshown
    rw [← render_shownForest fun tag htag => (hforest tag htag).ne_none, hshown,
      render_shownForest fun tag htag => (hothers tag htag).ne_none]

/-- A label with an empty text. -/
def blankLabel : Tag where
  name := some "ULabel"
  attributes := [{ key := "hint", value := "a > b\n\"c\"" }]
  text := some ""

/-- A template for the header, with a text that its children hide. -/
def headerTemplate (key : String) (text : Option String) : Tree Tag :=
  .node { name := some "template", attributes := [{ key, value := "header", isSlot := true }], text }
    [.node blankLabel []]

/-- The key of the slot and the text beside the children are not shown; the empty text of the label
is. -/
theorem render_eq_iff_shown_headerTemplate :
    let hidden := [headerTemplate "slot" (some "hidden")]
    let plain := [headerTemplate "name" none]
    let closed := [Tree.node { blankLabel with text := none } []]
    (∀ tag ∈ forestValues hidden, tag.IsReadable) ∧ (∀ tag ∈ forestValues plain, tag.IsReadable) ∧
      (∀ tag ∈ forestValues closed, tag.IsReadable) ∧
      (∀ indent, render {} indent hidden = render {} indent plain) ∧
      ∀ indent, render {} indent [.node blankLabel []] ≠ render {} indent closed := by
  intro hidden plain closed
  have hhidden : ∀ tag ∈ forestValues hidden, tag.IsReadable := by decide +kernel
  have hplain : ∀ tag ∈ forestValues plain, tag.IsReadable := by decide +kernel
  have hclosed : ∀ tag ∈ forestValues closed, tag.IsReadable := by decide +kernel
  have hblank : ∀ tag ∈ forestValues [.node blankLabel []], tag.IsReadable := by decide +kernel
  refine ⟨hhidden, hplain, hclosed, fun indent => ?_, fun indent hsame => ?_⟩
  · exact (render_eq_iff_shown {} indent hhidden hplain).mpr rfl
  · have hshown := (render_eq_iff_shown {} indent hblank hclosed).mp hsame
    simp [shownForest, shown, blankLabel, closed] at hshown

end Markup

end LayerMarkup
