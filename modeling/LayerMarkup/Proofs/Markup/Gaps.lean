import LayerMarkup.Proofs.Markup.Characters

/-!
# Markup without its gaps

The indent, the width of a level and the number of attributes that a first line may hold decide
which blanks and line feeds stand between the parts of a tag, and nothing else: all markup of a
forest is the same once the blanks and line feeds are taken out (`withoutGaps_render`).

An element may have its attributes on lines of their own in one layout and not in another.  Either
way the same is left of its opening and of each of its three ends.
-/

namespace LayerMarkup.Markup

/-- The characters that are neither blanks nor line feeds. -/
def withoutGaps (cs : List Char) : List Char := cs.filter fun c => !isGapChar c

section Characters

variable {c : Char} {cs : List Char}

theorem withoutGaps_append (cs ds : List Char) :
    withoutGaps (cs ++ ds) = withoutGaps cs ++ withoutGaps ds :=
  List.filter_append cs ds

theorem withoutGaps_cons_of_gap (hc : isGapChar c = true) (cs : List Char) :
    withoutGaps (c :: cs) = withoutGaps cs :=
  List.filter_cons_of_neg (by simp [hc])

theorem withoutGaps_cons_of_not_gap (hc : isGapChar c = false) (cs : List Char) :
    withoutGaps (c :: cs) = c :: withoutGaps cs :=
  List.filter_cons_of_pos (by simp [hc])

theorem withoutGaps_eq_nil (hcs : ∀ c ∈ cs, isGapChar c = true) : withoutGaps cs = [] :=
  List.filter_eq_nil_iff.mpr fun c hc => by simp [hcs c hc]

/-- A gap in front leaves nothing. -/
theorem withoutGaps_append_of_gap (hcs : ∀ c ∈ cs, isGapChar c = true) (ds : List Char) :
    withoutGaps (cs ++ ds) = withoutGaps ds := by
  rw [withoutGaps_append, withoutGaps_eq_nil hcs, List.nil_append]

theorem withoutGaps_flatMap {α : Type} (f : α → List Char) (l : List α) :
    withoutGaps (l.flatMap f) = l.flatMap fun a => withoutGaps (f a) :=
  List.filter_flatMap

end Characters

section Parts

variable {config : Config} {indent : Int} {tag : Tag} {name : String}

/-- What is left of the opening of a tag: its bracket, its name and its attributes. -/
def openingLeft (name : String) (tag : Tag) : List Char :=
  withoutGaps ('<' :: (name.toList ++ tag.attributes.flatMap fun a => a.render.toList))

/-- What is left of the closing of a tag. -/
def closingLeft (name : String) : List Char := withoutGaps (closing name).toList

theorem withoutGaps_opening :
    withoutGaps (opening config indent name tag).toList = openingLeft name tag := by
  have hattributes : withoutGaps (tag.attributes.flatMap fun a =>
        attributeGap config indent tag ++ a.render.toList) =
      withoutGaps (tag.attributes.flatMap fun a => a.render.toList) := by
    rw [withoutGaps_flatMap, withoutGaps_flatMap]
    refine List.flatMap_congr fun a _ => ?_
    exact withoutGaps_append_of_gap isGapChar_of_mem_attributeGap _
  rw [toList_opening, openingLeft, withoutGaps_append_of_gap isGapChar_of_mem_padding,
    withoutGaps_cons_of_not_gap rfl, withoutGaps_cons_of_not_gap rfl, withoutGaps_append,
    withoutGaps_append, hattributes]

theorem withoutGaps_newLines (forest : List (Tree Tag)) :
    withoutGaps (newLines config indent forest) =
      forest.flatMap fun t => withoutGaps (renderTree config indent t).toList := by
  rw [newLines, withoutGaps_flatMap]
  exact List.flatMap_congr fun t _ => withoutGaps_cons_of_gap rfl _

theorem withoutGaps_renderTree_text (hname : tag.name = none) (children : List (Tree Tag)) :
    withoutGaps (renderTree config indent (.node tag children)).toList =
      withoutGaps (Tag.escapeText (tag.text.getD "")).toList := by
  simp only [renderTree, hname, String.toList_append]
  exact withoutGaps_append_of_gap isGapChar_of_mem_padding _

/-- An element with nothing inside ends with a slash and a bracket. -/
theorem withoutGaps_renderTree_empty (hname : tag.name = some name) (htext : tag.text = none) :
    withoutGaps (renderTree config indent (.node tag [])).toList =
      openingLeft name tag ++ ['/', '>'] := by
  have hgap : ∀ c ∈ endGap config indent tag [' '], isGapChar c = true :=
    isGapChar_of_mem_endGap (by simp [isGapChar])
  rw [toList_renderTree_empty hname htext, withoutGaps_append, withoutGaps_opening,
    withoutGaps_append_of_gap hgap]
  rfl

/-- An element with a text ends with a bracket, the text and its closing. -/
theorem withoutGaps_renderTree_inline {text : String} (hname : tag.name = some name)
    (htext : tag.text = some text) :
    withoutGaps (renderTree config indent (.node tag [])).toList =
      openingLeft name tag ++
        '>' :: (withoutGaps (Tag.escapeText text).toList ++ closingLeft name) := by
  have hgap : ∀ c ∈ endGap config indent tag [], isGapChar c = true :=
    isGapChar_of_mem_endGap (by simp)
  rw [toList_renderTree_inline hname htext, withoutGaps_append, withoutGaps_opening,
    withoutGaps_append_of_gap hgap, withoutGaps_cons_of_not_gap rfl, withoutGaps_append, closingLeft]

/-- An element with children ends with a bracket, what is left of the children, and its closing. -/
theorem withoutGaps_renderTree_block {children : List (Tree Tag)} (hname : tag.name = some name)
    (hchildren : children ≠ []) :
    withoutGaps (renderTree config indent (.node tag children)).toList =
      openingLeft name tag ++
        '>' :: ((children.flatMap fun t =>
          withoutGaps (renderTree config (indent + config.indentWidth) t).toList) ++
            closingLeft name) := by
  have hgap : ∀ c ∈ endGap config indent tag [], isGapChar c = true :=
    isGapChar_of_mem_endGap (by simp)
  rw [toList_renderTree_block hname hchildren, withoutGaps_append, withoutGaps_opening,
    withoutGaps_append_of_gap hgap, withoutGaps_cons_of_not_gap rfl, withoutGaps_append,
    withoutGaps_newLines, withoutGaps_cons_of_gap rfl,
    withoutGaps_append_of_gap isGapChar_of_mem_padding, closingLeft]

end Parts

section Layouts

variable (config config' : Config)

/-- Two layouts of a tree leave the same characters. -/
theorem withoutGaps_renderTree (t : Tree Tag) : ∀ indent indent' : Int,
    withoutGaps (renderTree config indent t).toList =
      withoutGaps (renderTree config' indent' t).toList := by
  induction t using Tree.induction with
  | step tag children ih =>
    intro indent indent'
    cases hname : tag.name with
    | none => rw [withoutGaps_renderTree_text hname, withoutGaps_renderTree_text hname]
    | some name =>
      by_cases hchildren : children = []
      · subst hchildren
        cases htext : tag.text with
        | none =>
          rw [withoutGaps_renderTree_empty hname htext, withoutGaps_renderTree_empty hname htext]
        | some text =>
          rw [withoutGaps_renderTree_inline hname htext, withoutGaps_renderTree_inline hname htext]
      · -- The indents of the children differ too, by the widths of a level.
        rw [withoutGaps_renderTree_block hname hchildren, withoutGaps_renderTree_block hname hchildren,
          List.flatMap_congr fun t ht => ih t ht _ _]

/-- Two layouts of a forest are the same once the blanks and line feeds are taken out of both,
whatever the settings and the indents of the two are. -/
theorem withoutGaps_render (indent indent' : Int) (forest : List (Tree Tag)) :
    withoutGaps (render config indent forest).toList =
      withoutGaps (render config' indent' forest).toList := by
  by_cases hnil : forest = []
  · subst hnil
    rfl
  · have hlines : withoutGaps (newLines config indent forest) =
        withoutGaps (newLines config' indent' forest) := by
      rw [withoutGaps_newLines, withoutGaps_newLines]
      exact List.flatMap_congr fun t _ => withoutGaps_renderTree config config' t indent indent'
    rwa [← newline_joinLines hnil, ← newline_joinLines hnil, withoutGaps_cons_of_gap rfl,
      withoutGaps_cons_of_gap rfl] at hlines

end Layouts

end LayerMarkup.Markup
