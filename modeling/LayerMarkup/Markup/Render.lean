import LayerMarkup.Failure
import LayerMarkup.Text.Basic
import LayerMarkup.Tree

/-!
# Markup

Markup before it is laid out is a tree of tags with their attributes and texts.  As text, a tag
without children stays on one line; one with children puts each of them below its opening, indented,
and its closing after them.  A tag with more attributes than its first line may hold puts each
attribute on a line of its own.  No line feed stands at the end.

The width of an indent is used where something is indented: attributes on lines of their own, and
children.  One of the wrong type is found there (`Choices.render`).
-/

namespace LayerMarkup

/-- An attribute of a tag. -/
structure Attribute where
  key : String
  value : String
  /-- The value is a switch, and the attribute is bound to it. -/
  isBoolean : Bool := false
  /-- The attribute is a bare mark for the slot that its value names. -/
  isSlot : Bool := false
deriving DecidableEq

/-- A tag, or a bare text where it has no name. -/
structure Tag where
  name : Option String
  attributes : List Attribute := []
  text : Option String := none
deriving Inhabited

namespace Attribute

/-- A character inside a double-quoted value. -/
def escapeChar (c : Char) : List Char :=
  if c = '"' then ['&', 'q', 'u', 'o', 't', ';'] else [c]

def escapeValue (s : String) : String := String.ofList (s.toList.flatMap escapeChar)

/-- The written form: a slot mark, a bound attribute or a plain one. -/
def render (a : Attribute) : String :=
  if a.isSlot then "#" ++ a.value
  else if a.isBoolean then ":" ++ a.key ++ "=\"" ++ escapeValue a.value ++ "\""
  else a.key ++ "=\"" ++ escapeValue a.value ++ "\""

end Attribute

namespace Tag

/-- A character inside text. -/
def escapeChar (c : Char) : List Char :=
  if c = '&' then ['&', 'a', 'm', 'p', ';']
  else if c = '<' then ['&', 'l', 't', ';']
  else if c = '>' then ['&', 'g', 't', ';']
  else [c]

def escapeText (s : String) : String := String.ofList (s.toList.flatMap escapeChar)

end Tag

end LayerMarkup

namespace LayerMarkup.Markup

/-- Blanks before a line; none for a negative width. -/
def padding (width : Int) : String := String.ofList (List.replicate width.toNat ' ')

/-- The attributes do not fit on the line of the opening. -/
def isWrapped (config : Config) (tag : Tag) : Bool :=
  match config.maxInlineAttributes with
  | none => false
  | some limit => limit < tag.attributes.length

/-- The opening of a tag without its bracket. -/
def opening (config : Config) (indent : Int) (name : String) (tag : Tag) : String :=
  let gap := if isWrapped config tag then "\n" ++ padding (indent + config.indentWidth) else " "
  padding indent ++ "<" ++ name ++ String.join (tag.attributes.map fun a => gap ++ a.render)

/-- The bracket of an opening that something follows. -/
def openingEnd (config : Config) (indent : Int) (tag : Tag) : String :=
  if isWrapped config tag then "\n" ++ padding indent ++ ">" else ">"

/-- The bracket of an opening that nothing follows. -/
def selfClosingEnd (config : Config) (indent : Int) (tag : Tag) : String :=
  if isWrapped config tag then "\n" ++ padding indent ++ "/>" else " />"

def closing (name : String) : String := "</" ++ name ++ ">"

mutual

/-- The text of a tag with its descendants, indented. -/
def renderTree (config : Config) (indent : Int) : Tree Tag → String
  | .node tag children =>
    match tag.name with
    | none => padding indent ++ Tag.escapeText (tag.text.getD "")
    | some name =>
      let start := opening config indent name tag
      match children, tag.text with
      | [], none => start ++ selfClosingEnd config indent tag
      | [], some text => start ++ openingEnd config indent tag ++ Tag.escapeText text ++ closing name
      | _ :: _, _ =>
        start ++ openingEnd config indent tag ++ "\n" ++
          Text.joinLines (renderForest config (indent + config.indentWidth) children) ++
          "\n" ++ padding indent ++ closing name

def renderForest (config : Config) (indent : Int) : List (Tree Tag) → List String
  | [] => []
  | t :: ts => renderTree config indent t :: renderForest config indent ts

end

theorem renderForest_eq_map (config : Config) (indent : Int) (forest : List (Tree Tag)) :
    renderForest config indent forest = forest.map (renderTree config indent) := by
  induction forest with
  | nil => rfl
  | cons t ts ih => simp [renderForest, ih]

/-- The text of a forest of tags. -/
def render (config : Config) (indent : Int) (forest : List (Tree Tag)) : String :=
  Text.joinLines (renderForest config indent forest)

end LayerMarkup.Markup

namespace LayerMarkup.Choices

open Markup

/-- The opening of a tag without its bracket. -/
def opening (c : Choices) (indent : Int) (name : String) (tag : Tag) : Except Failure String := do
  if isWrapped c.config tag then
    c.use .indentWidth
    return Markup.opening c.config indent name tag
  else return Markup.opening c.config indent name tag

mutual

/-- The text of a tag with its descendants, indented. -/
def renderTree (c : Choices) (indent : Int) : Tree Tag → Except Failure String
  | .node tag children => do
    match tag.name with
    | none => return padding indent ++ Tag.escapeText (tag.text.getD "")
    | some name =>
      let start ← c.opening indent name tag
      match children, tag.text with
      | [], none => return start ++ selfClosingEnd c.config indent tag
      | [], some text =>
        return start ++ openingEnd c.config indent tag ++ Tag.escapeText text ++ closing name
      | first :: rest, _ =>
        c.use .indentWidth
        let lines ← c.renderForest (indent + c.config.indentWidth) (first :: rest)
        return start ++ openingEnd c.config indent tag ++ "\n" ++ Text.joinLines lines ++
          "\n" ++ padding indent ++ closing name

def renderForest (c : Choices) (indent : Int) : List (Tree Tag) → Except Failure (List String)
  | [] => return []
  | t :: ts => do
    let first ← c.renderTree indent t
    let rest ← c.renderForest indent ts
    return first :: rest

end

/-- The text of a forest of tags. -/
def render (c : Choices) (indent : Int) (forest : List (Tree Tag)) : Except Failure String := do
  let lines ← c.renderForest indent forest
  return Text.joinLines lines

end LayerMarkup.Choices
