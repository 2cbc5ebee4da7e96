import LayerMarkup.Element
import LayerMarkup.Failure

/-!
# Pruning

A forest of elements is cut down to those that become markup.  Each element is kept with its pruned
children, promoted, which puts its pruned children in its place, or dropped with all that it holds.
Among siblings the kept ones come first and the promoted ones after them, each in order.

Elements that are invisible or have an ignored name are dropped.  A component has a role by its name
and its slot.  Below a component that is kept or promoted nothing but components is looked at.
Outside of components, containers are kept unless they end up empty, elements that play no part are
promoted, and texts are dropped; their text may go inside the element that holds them.

Visible names are tested against the private markers and the end of property names, and a setting of
the wrong type is found at the first test (`Choices.prune`).
-/

namespace LayerMarkup.Pruning

/-- What becomes of a component. -/
inductive Role where
  /-- It is kept; a slot template takes the texts that it holds. -/
  | keep (takesText : Bool)
  | promote
  | drop
deriving DecidableEq

/-- The element has a text as its slot that is not empty. -/
def hasSlot (config : Config) (e : Element) : Bool :=
  ((e.properties.bind (·.get? config.slotKey)).map PropertyValue.isNonEmptyText).getD false

/-- The role of a component. -/
def role (config : Config) (e : Element) : Role :=
  if config.isTemplateName e.name then
    if hasSlot config e then .keep true else .promote
  else if config.isReferenceName e.name then .promote
  else if config.matchesStart e.name then .keep false
  else .drop

/-- The element is visible and its name is not ignored. -/
def isLive (config : Config) (e : Element) : Bool := e.visible && !config.ignoresName e.name

/-- The text of a child, if the element that holds it can take it. -/
def innerText? (config : Config) (e : Element) : Option String :=
  if e.dataType = some .text && isLive config e then e.text.filter (!·.isEmpty) else none

/-- The texts of the children, with blanks between them; none if there are none. -/
def inlineText? (config : Config) (children : List (Tree Element)) : Option String :=
  match children.filterMap fun child => innerText? config child.value with
  | [] => none
  | texts => some (Text.joinWith " " texts)

/-- A kept element with its pruned children.  Without any, it may take the texts of the children
that it had. -/
def keep (config : Config) (takesText : Bool) (e : Element) (children pruned : List (Tree Element)) :
    Tree Element :=
  let text := if takesText && pruned.isEmpty then (inlineText? config children).or e.text else e.text
  .node { e with text } pruned

/-- A container without children and without text is empty. -/
def isEmptyContainer : Tree Element → Bool
  | .node e children => children.isEmpty && e.text.isNone

/-- The trees that are kept and those that are promoted. -/
structure Sorted where
  kept : List (Tree Element) := []
  promoted : List (Tree Element) := []

/-- The kept trees, then the promoted ones. -/
def Sorted.all (s : Sorted) : List (Tree Element) := s.kept ++ s.promoted

mutual

/-- What becomes of a tree; `below` says that it stands below a component. -/
def sort (config : Config) (below : Bool) : Tree Element → Sorted
  | .node e children =>
    if isLive config e then
      match e.dataType with
      | some .component =>
        match role config e with
        | .keep takesText =>
          { kept := [keep config takesText e children (sortForest config true children).all] }
        | .promote => { promoted := (sortForest config true children).all }
        | .drop => {}
      | some .container =>
        if below then {}
        else
          let element := keep config true e children (sortForest config false children).all
          if isEmptyContainer element && !config.keepEmptyContainers then {} else { kept := [element] }
      | some .text => {}
      | none => if below then {} else { promoted := (sortForest config false children).all }
    else {}

def sortForest (config : Config) (below : Bool) : List (Tree Element) → Sorted
  | [] => {}
  | t :: ts =>
    let first := sort config below t
    let rest := sortForest config below ts
    { kept := first.kept ++ rest.kept, promoted := first.promoted ++ rest.promoted }

end

theorem kept_sortForest (config : Config) (below : Bool) (forest : List (Tree Element)) :
    (sortForest config below forest).kept = forest.flatMap fun t => (sort config below t).kept := by
  induction forest with
  | nil => rfl
  | cons t ts ih => simp [sortForest, ih]

theorem promoted_sortForest (config : Config) (below : Bool) (forest : List (Tree Element)) :
    (sortForest config below forest).promoted =
      forest.flatMap fun t => (sort config below t).promoted := by
  induction forest with
  | nil => rfl
  | cons t ts ih => simp [sortForest, ih]

/-- The forest that is left. -/
def prune (config : Config) (below : Bool) (forest : List (Tree Element)) : List (Tree Element) :=
  (sortForest config below forest).all

end LayerMarkup.Pruning

namespace LayerMarkup.Choices

open Pruning

/-- The element is visible and its name is not ignored.  Names of invisible elements are not
tested. -/
def isLive (c : Choices) (e : Element) : Except Failure Bool := do
  if e.visible then return !(← c.ignoresName e.name)
  else return false

/-- The text of a child, if the element that holds it can take it. -/
def innerText? (c : Choices) (e : Element) : Except Failure (Option String) := do
  let text := e.text.filter (!·.isEmpty)
  if e.dataType = some .text && e.visible && text.isSome then
    if ← c.ignoresName e.name then return none
    else return text
  else return none

/-- The texts of the children, with blanks between them; none if there are none. -/
def inlineText? (c : Choices) (children : List (Tree Element)) : Except Failure (Option String) := do
  let found ← children.mapM fun child => c.innerText? child.value
  match found.filterMap id with
  | [] => return none
  | texts => return some (Text.joinWith " " texts)

/-- A kept element with its pruned children. -/
def keep (c : Choices) (takesText : Bool) (e : Element) (children pruned : List (Tree Element)) :
    Except Failure (Tree Element) := do
  if takesText && pruned.isEmpty then
    let text ← c.inlineText? children
    return .node { e with text := text.or e.text } pruned
  else return .node e pruned

mutual

/-- What becomes of a tree.  Children are pruned before the element around them is kept. -/
def sort (c : Choices) (below : Bool) : Tree Element → Except Failure Sorted
  | .node e children => do
    if ← c.isLive e then
      match e.dataType with
      | some .component =>
        match role c.config e with
        | .keep takesText =>
          let pruned ← c.sortForest true children
          let element ← c.keep takesText e children pruned.all
          return { kept := [element] }
        | .promote =>
          let pruned ← c.sortForest true children
          return { promoted := pruned.all }
        | .drop => return {}
      | some .container =>
        if below then return {}
        else
          let pruned ← c.sortForest false children
          let element ← c.keep true e children pruned.all
          if isEmptyContainer element && !c.config.keepEmptyContainers then return {}
          else return { kept := [element] }
      | some .text => return {}
      | none =>
        if below then return {}
        else
          let pruned ← c.sortForest false children
          return { promoted := pruned.all }
    else return {}

def sortForest (c : Choices) (below : Bool) : List (Tree Element) → Except Failure Sorted
  | [] => return {}
  | t :: ts => do
    let first ← c.sort below t
    let rest ← c.sortForest below ts
    return { kept := first.kept ++ rest.kept, promoted := first.promoted ++ rest.promoted }

end

/-- The forest that is left. -/
def prune (c : Choices) (below : Bool) (forest : List (Tree Element)) :
    Except Failure (List (Tree Element)) := do
  let sorted ← c.sortForest below forest
  return sorted.all

end LayerMarkup.Choices
