import Mathlib.Data.List.Basic
import Mathlib.Tactic.Ring
import LayerMarkup.Proofs.Markup.Parts
import LayerMarkup.Proofs.Tree.Keys

/-!
# The layout of markup

Rendered markup is a list of lines, each behind as many blanks as its depth asks for.  The lines and
their depths can be told from the tags and the number of attributes that a first line may hold
(`forestLines`); the indent of the whole and the width of a level only say how far a depth is
indented (`render_laidOut`).

* `Line` — a line with its depth, which is the number of levels around it.
* `LaidOut` — what the lines of a tree are, by what the tree is.
-/

namespace LayerMarkup

open LayerMarkup.Tree

/-- A line of markup without the blanks before it.  A text may bring line feeds of its own into
it. -/
structure Line where
  /-- The number of levels around the line. -/
  depth : Nat
  text : String
deriving DecidableEq

/-- A line behind its blanks: the outermost level has an indent, and each level inside another is
indented further by a width. -/
def Line.written (indent : Int) (width : Nat) (line : Line) : String :=
  Markup.padding (indent + line.depth * width) ++ line.text

namespace Markup

/-- The tag has more attributes than its first line may hold. -/
def exceeds (limit : Option Nat) (tag : Tag) : Bool :=
  match limit with
  | none => false
  | some most => most < tag.attributes.length

/-- The lines of the opening of an element, the last of them with what follows on it: `inline`
behind attributes on the same line, `alone` where each attribute has a line of its own. -/
def openingLines (limit : Option Nat) (depth : Nat) (name : String) (tag : Tag)
    (inline alone : String) : List Line :=
  if exceeds limit tag then
    ⟨depth, "<" ++ name⟩ :: tag.attributes.map (fun a => ⟨depth + 1, a.render⟩) ++ [⟨depth, alone⟩]
  else
    [⟨depth, "<" ++ name ++ String.join (tag.attributes.map fun a => " " ++ a.render) ++ inline⟩]

mutual

/-- The lines of a tag with its descendants. -/
def treeLines (limit : Option Nat) (depth : Nat) : Tree Tag → List Line
  | .node tag children =>
    match tag.name with
    | none => [⟨depth, Tag.escapeText (tag.text.getD "")⟩]
    | some name =>
      match children, tag.text with
      | [], none => openingLines limit depth name tag " />" "/>"
      | [], some text =>
        let rest := ">" ++ Tag.escapeText text ++ closing name
        openingLines limit depth name tag rest rest
      | _ :: _, _ =>
        openingLines limit depth name tag ">" ">" ++ forestLines limit (depth + 1) children ++
          [⟨depth, closing name⟩]

def forestLines (limit : Option Nat) (depth : Nat) : List (Tree Tag) → List Line
  | [] => []
  | t :: ts => treeLines limit depth t ++ forestLines limit depth ts

end

/-- The lines of a tree at a depth, by what the tree is. -/
inductive LaidOut (limit : Option Nat) (depth : Nat) : Tree Tag → List Line → Prop
  /-- A bare text is one line. -/
  | text {tag : Tag} (children : List (Tree Tag)) (hname : tag.name = none) :
      LaidOut limit depth (.node tag children) [⟨depth, Tag.escapeText (tag.text.getD "")⟩]
  /-- An element with nothing inside is its opening. -/
  | empty {tag : Tag} {name : String} (hname : tag.name = some name) (htext : tag.text = none) :
      LaidOut limit depth (.node tag []) (openingLines limit depth name tag " />" "/>")
  /-- An element with a text is closed on the last line of its opening. -/
  | inline {tag : Tag} {name text : String} (hname : tag.name = some name)
      (htext : tag.text = some text) :
      LaidOut limit depth (.node tag [])
        (openingLines limit depth name tag (">" ++ Tag.escapeText text ++ closing name)
          (">" ++ Tag.escapeText text ++ closing name))
  /-- An element with children has their lines, one deeper, between its opening and its closing. -/
  | block {tag : Tag} {name : String} {children : List (Tree Tag)} (hname : tag.name = some name)
      (hchildren : children ≠ []) :
      LaidOut limit depth (.node tag children)
        (openingLines limit depth name tag ">" ">" ++
          children.flatMap (treeLines limit (depth + 1)) ++ [⟨depth, closing name⟩])

section Lines

variable {limit : Option Nat} {depth : Nat}

theorem forestLines_eq_flatMap (limit : Option Nat) (depth : Nat) (forest : List (Tree Tag)) :
    forestLines limit depth forest = forest.flatMap (treeLines limit depth) := by
  induction forest with
  | nil => rfl
  | cons t ts ih => rw [forestLines, ih, List.flatMap_cons]

theorem openingLines_ne_nil (name : String) (tag : Tag) (inline alone : String) :
    openingLines limit depth name tag inline alone ≠ [] := by
  unfold openingLines
  split <;> simp

theorem laidOut_treeLines (limit : Option Nat) (depth : Nat) (t : Tree Tag) :
    LaidOut limit depth t (treeLines limit depth t) := by
  obtain ⟨tag, children⟩ := t
  cases hname : tag.name with
  | none =>
    simp only [treeLines, hname]
    exact .text children hname
  | some name =>
    cases children with
    | nil =>
      cases htext : tag.text with
      | none =>
        simp only [treeLines, hname, htext]
        exact .empty hname htext
      | some text =>
        simp only [treeLines, hname, htext]
        exact .inline hname htext
    | cons t ts =>
      simp only [treeLines, hname, forestLines_eq_flatMap]
      exact .block hname (List.cons_ne_nil t ts)

theorem treeLines_ne_nil (t : Tree Tag) : treeLines limit depth t ≠ [] := by
  generalize hlines : treeLines limit depth t = lines
  have hlaidOut : LaidOut limit depth t lines := hlines ▸ laidOut_treeLines limit depth t
  cases hlaidOut with
  | text => exact List.cons_ne_nil _ _
  | empty => exact openingLines_ne_nil _ _ _ _
  | inline => exact openingLines_ne_nil _ _ _ _
  | block => simp

theorem treeLines_infix_of_mem {forest : List (Tree Tag)} {t : Tree Tag} (ht : t ∈ forest) :
    treeLines limit depth t <:+: forestLines limit depth forest := by
  rw [forestLines_eq_flatMap]
  exact List.infix_of_mem_flatten (List.mem_map_of_mem ht)

/-- The lines of a node among the descendants of elements lie together, at the depth of the node. -/
theorem treeLines_infix_forestLines {forest : List (Tree Tag)} {path : List Tag} {t : Tree Tag}
    (hstands : Stands forest path t) (hnamed : ∀ above ∈ path, above.name ≠ none) (depth : Nat) :
    treeLines limit (depth + path.length) t <:+: forestLines limit depth forest := by
  induction hstands generalizing depth with
  | root hmem => exact treeLines_infix_of_mem hmem
  | @inner forest tag children path t hmem hbelow ih =>
    have hinside : treeLines limit (depth + 1 + path.length) t <:+:
        forestLines limit (depth + 1) children :=
      ih (fun above habove => hnamed above (List.mem_cons_of_mem _ habove)) (depth + 1)
    have hnode : forestLines limit (depth + 1) children <:+:
        treeLines limit depth (.node tag children) := by
      obtain ⟨name, hname⟩ := Option.ne_none_iff_exists'.mp (hnamed tag List.mem_cons_self)
      cases children with
      | nil =>
        obtain ⟨r, hr, -⟩ := hbelow.exists_root
        cases hr
      | cons c cs =>
        simp only [treeLines, hname]
        exact List.infix_append _ _ _
    have hdepth : depth + (tag :: path).length = depth + 1 + path.length := by
      simp only [List.length_cons]
      omega
    rw [hdepth]
    exact (hinside.trans hnode).trans (treeLines_infix_of_mem hmem)

end Lines

section Rendered

variable {config : Config} {indent : Int} {depth : Nat}

theorem indent_succ (indent : Int) (depth width : Nat) :
    indent + (depth + 1 : Nat) * (width : Int) = indent + depth * width + width := by
  push_cast
  ring

/-- The opening of an element as lines, with what follows on the last of them. -/
theorem joinLines_openingLines (name : String) (tag : Tag) (inline alone : String) :
    Text.joinLines ((openingLines config.maxInlineAttributes depth name tag inline alone).map
        (Line.written indent config.indentWidth)) =
      opening config (indent + depth * config.indentWidth) name tag ++
        if isWrapped config tag then
          "\n" ++ padding (indent + depth * config.indentWidth) ++ alone
        else inline := by
  have hwrapped : isWrapped config tag = exceeds config.maxInlineAttributes tag := rfl
  rw [opening, openingLines, hwrapped]
  by_cases hexceeds : exceeds config.maxInlineAttributes tag = true
  · have hattributes : (fun line => "\n" ++ line) ∘ Line.written indent config.indentWidth ∘
        (fun a : Attribute => (⟨depth + 1, a.render⟩ : Line)) =
          fun a => "\n" ++ (padding (indent + depth * config.indentWidth + config.indentWidth) ++
            a.render) := by
      funext a
      simp only [Function.comp_apply, Line.written, indent_succ]
    simp only [hexceeds, if_true, List.cons_append, List.map_cons, Text.joinLines_cons,
      List.map_append, List.map_map, hattributes, String.join_append, List.map_nil, String.join_cons,
      String.join_nil, Line.written, String.append_assoc, String.append_empty]
  · simp only [hexceeds, Bool.false_eq_true, if_false, List.map_cons, List.map_nil, Line.written,
      Text.joinLines_singleton, String.append_assoc]

/-- The markup of trees is made of their lines, if that of each of them is. -/
theorem joinLines_forestLines {forest : List (Tree Tag)} {limit : Option Nat}
    (htrees : ∀ t ∈ forest, renderTree config (indent + depth * config.indentWidth) t =
      Text.joinLines ((treeLines limit depth t).map (Line.written indent config.indentWidth))) :
    Text.joinLines ((forestLines limit depth forest).map (Line.written indent config.indentWidth)) =
      Text.joinLines (renderForest config (indent + depth * config.indentWidth) forest) := by
  rw [forestLines_eq_flatMap, List.map_flatMap, Text.joinLines_flatMap, renderForest_eq_map]
  · exact congrArg Text.joinLines (List.map_congr_left fun t ht => (htrees t ht).symm)
  · exact fun t _ => by simpa using treeLines_ne_nil t

theorem renderTree_eq_joinLines (t : Tree Tag) :
    ∀ depth : Nat, renderTree config (indent + depth * config.indentWidth) t =
      Text.joinLines ((treeLines config.maxInlineAttributes depth t).map
        (Line.written indent config.indentWidth)) := by
  induction t using Tree.induction with
  | step tag children ih =>
    intro depth
    cases hname : tag.name with
    | none => simp [renderTree, treeLines, hname, Line.written]
    | some name =>
      cases children with
      | nil =>
        cases htext : tag.text with
        | none =>
          simp only [renderTree, treeLines, hname, htext]
          rw [joinLines_openingLines, selfClosingEnd]
        | some text =>
          simp only [renderTree, treeLines, hname, htext]
          rw [joinLines_openingLines, openingEnd]
          split <;> simp only [String.append_assoc]
      | cons t ts =>
        have hinside := joinLines_forestLines fun c hc => ih c hc (depth + 1)
        have hlines : (openingLines config.maxInlineAttributes depth name tag ">" ">").map
            (Line.written indent config.indentWidth) ≠ [] := by
          simpa using openingLines_ne_nil name tag ">" ">"
        have hbelow : (forestLines config.maxInlineAttributes (depth + 1) (t :: ts)).map
            (Line.written indent config.indentWidth) ≠ [] := by
          simpa [forestLines] using fun h => absurd h (treeLines_ne_nil t)
        simp only [renderTree, treeLines, hname, List.map_append, List.map_cons, List.map_nil]
        rw [Text.joinLines_append (List.append_ne_nil_of_left_ne_nil hlines _) (List.cons_ne_nil _ _),
          Text.joinLines_append hlines hbelow, joinLines_openingLines, hinside, indent_succ]
        simp only [openingEnd, Line.written, Text.joinLines_singleton, String.append_assoc]

/-- The lines of a forest are told from the forest and the attributes that a first line may hold.
Rendered, each stands behind blanks for its depth, whatever the indent and the width of a level are.
The lines of every node lie together, at the depth that is the number of elements around the node,
and are what the node asks for. -/
theorem render_laidOut (limit : Option Nat) (forest : List (Tree Tag)) :
    let lines := forestLines limit 0 forest
    (∀ (config : Config) (indent : Int), config.maxInlineAttributes = limit →
      render config indent forest =
        Text.joinLines (lines.map (Line.written indent config.indentWidth))) ∧
      lines = forest.flatMap (treeLines limit 0) ∧
      ∀ path t, Stands forest path t → (∀ above ∈ path, above.name ≠ none) →
        treeLines limit path.length t <:+: lines ∧
          LaidOut limit path.length t (treeLines limit path.length t) := by
  intro lines
  refine ⟨?_, forestLines_eq_flatMap limit 0 forest, fun path t hstands hnamed => ⟨?_, ?_⟩⟩
  · rintro config indent rfl
    have hroots : ∀ t ∈ forest, renderTree config (indent + (0 : Nat) * config.indentWidth) t = _ :=
      fun t _ => renderTree_eq_joinLines t 0
    have hjoined := joinLines_forestLines hroots
    rw [render]
    simpa using hjoined.symm
  · simpa using treeLines_infix_forestLines hstands hnamed 0
  · exact laidOut_treeLines limit path.length t

/-- A label with a text. -/
def labelTag : Tag := { name := some "ULabel", text := some "x < y" }

/-- A card with more attributes than its first line may hold, around the label. -/
def cardTag : Tag where
  name := some "UCard"
  attributes :=
    [{ key := "size", value := "big" }, { key := "flat", value := "true", isBoolean := true }]

theorem render_laidOut_card :
    let config : Config := { maxInlineAttributes := some 1 }
    let forest : List (Tree Tag) := [.node cardTag [.node labelTag []]]
    let lines : List Line := [⟨0, "<UCard"⟩, ⟨1, "size=\"big\""⟩, ⟨1, ":flat=\"true\""⟩, ⟨0, ">"⟩,
      ⟨1, "<ULabel>x &lt; y</ULabel>"⟩, ⟨0, "</UCard>"⟩]
    config.maxInlineAttributes = some 1 ∧ Stands forest [cardTag] (.node labelTag []) ∧
      (∀ above ∈ [cardTag], above.name ≠ none) ∧ forestLines (some 1) 0 forest = lines ∧
      render config (-1) forest = Text.joinLines (lines.map (Line.written (-1) 2)) ∧
      treeLines (some 1) 1 (.node labelTag []) <:+: lines := by
  intro config forest lines
  have hstands : Stands forest [cardTag] (.node labelTag []) :=
    .inner List.mem_cons_self (.root List.mem_cons_self)
  have hnamed : ∀ above ∈ [cardTag], above.name ≠ none := by simp [cardTag]
  have hlines : forestLines (some 1) 0 forest = lines := by decide +kernel
  have hlaw := render_laidOut (some 1) forest
  rw [hlines] at hlaw
  exact ⟨rfl, hstands, hnamed, hlines, hlaw.1 config (-1) rfl, (hlaw.2.2 _ _ hstands hnamed).1⟩

end Rendered

end Markup

end LayerMarkup
